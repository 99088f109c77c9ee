import RevAgent.Library.Versioned

/-!
# Stores of typed rows

A store whose rows have different types: the type of a row is a function of its key. A transaction
stages changes, each of one row, that write a value or delete the row, and they go in together if
every row still has the version the change expects.
-/

namespace RevAgent.Library

abbrev TypedStore {κ : Type} (β : κ → Type) := (key : κ) → Option (Entry (β key))

structure Change {κ : Type} (β : κ → Type) where
  key : κ
  value : Option (β key)
  expect : Expectation

section Changes

variable {κ : Type} [DecidableEq κ] {β : κ → Type} {store : TypedStore β}

def applyChange (store : TypedStore β) (change : Change β) : TypedStore β :=
  Function.update store change.key
    (change.value.map fun value => ⟨versionOf (store change.key) + 1, value⟩)

/-- The changes go in together, if there are not too many, no two are of one row, and each finds the
version it expects. -/
def commitChanges (limit : Nat) (store : TypedStore β) (changes : List (Change β)) :
    Option (TypedStore β) :=
  if changes.length ≤ limit ∧ (changes.map Change.key).Nodup ∧
      ∀ change ∈ changes, change.expect.isMet (store change.key) = true then
    some (changes.foldl applyChange store)
  else none

theorem applyChange_self (change : Change β) :
    applyChange store change change.key =
      change.value.map fun value => ⟨versionOf (store change.key) + 1, value⟩ := by
  rw [applyChange, Function.update_self]

theorem applyChange_of_ne {change : Change β} {key : κ} (h : change.key ≠ key) :
    applyChange store change key = store key := by
  rw [applyChange, Function.update_of_ne h.symm]

theorem foldl_applyChange_of_notMem {changes : List (Change β)} {key : κ}
    (h : key ∉ changes.map Change.key) : changes.foldl applyChange store key = store key := by
  induction changes generalizing store with
  | nil => rfl
  | cons change changes ih =>
    rw [List.map_cons, List.mem_cons, not_or] at h
    rw [List.foldl_cons, ih h.2, applyChange_of_ne (Ne.symm h.1)]

theorem foldl_applyChange_of_mem {changes : List (Change β)} {change : Change β}
    (hnodup : (changes.map Change.key).Nodup) (h : change ∈ changes) :
    changes.foldl applyChange store change.key =
      change.value.map fun value => ⟨versionOf (store change.key) + 1, value⟩ := by
  induction changes generalizing store with
  | nil => cases h
  | cons first changes ih =>
    rw [List.map_cons, List.nodup_cons] at hnodup
    rw [List.foldl_cons]
    rcases List.mem_cons.mp h with rfl | h
    · rw [foldl_applyChange_of_notMem hnodup.1, applyChange_self]
    · have hne : first.key ≠ change.key := by
        intro hkey
        exact hnodup.1 (hkey ▸ List.mem_map_of_mem h)
      rw [ih hnodup.2 h, applyChange_of_ne hne]

end Changes

end RevAgent.Library
