import RevAgent.Gateway.SessionRetention

/-!
# The session aggregate in pages

`SessionAggregateRepository` writes a session as a root, its marker and one tree of pages for each
lane of the record. The entries of a lane are numbered, and their keys are the numbers in twelve
decimal digits.
-/

namespace RevAgent.Gateway

/-- `String(index).padStart(12, "0")`. -/
def orderedLaneKey (index : Nat) : String :=
  String.ofList (List.leftpad 12 '0' (Nat.toDigits 10 index))

/-- The private method `#orderedLaneEntries`. -/
def orderedLaneEntries (values : List JsonValue) : List SessionHistoryEntry :=
  values.zipIdx.map fun slot => { key := orderedLaneKey slot.2, value := slot.1 }

end RevAgent.Gateway
