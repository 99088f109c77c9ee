import RevAgent.Library.Fallible
import RevAgent.Library.Slices
import RevAgent.Library.Versioned
import RevAgent.Protocol.Json

/-!
# Paged session history

`sessionHistoryStore` keeps each lane of a session as a tree of pages: leaves of at most 64 entries
and branches of at most 32 references, four levels at most. A page is found by a key that hashes its
place in the tree, and a reference carries the version and the digest the page must have when it is
read back.

The writer sorts by `String.prototype.localeCompare` and the reader insists on the order `<` of
strings. The first is the work of the runtime's locale data and is the field of `Collation`; the
second compares code units.
-/

namespace RevAgent

section Stringify

variable [Host]

/-! `JSON.stringify` without indentation. -/

mutual

def stringifyJson : JsonValue → String
  | .null => "null"
  | .bool value => if value then "true" else "false"
  | .number (.finite value) => Host.stringifyNumber value
  | .number .negativeZero => Host.stringifyNumber 0
  | .number .nonFinite => "null"
  | .string value => quote value
  | .array items => "[" ++ ",".intercalate (stringifyItems items) ++ "]"
  | .object members => "\x7b" ++ ",".intercalate (stringifyMembers members) ++ "\x7d"

def stringifyItems : List JsonValue → List String
  | [] => []
  | item :: items => stringifyJson item :: stringifyItems items

def stringifyMembers : List (String × JsonValue) → List String
  | [] => []
  | (key, value) :: members => (quote key ++ ":" ++ stringifyJson value) :: stringifyMembers members

end

end Stringify

end RevAgent

namespace RevAgent.Gateway

open RevAgent.Library

def SESSION_HISTORY_PAGE_MAX_BYTES : Nat := 512 * 1024
def SESSION_HISTORY_LEAF_MAX_ENTRIES : Nat := 64
def SESSION_HISTORY_BRANCH_MAX_REFS : Nat := 32
def SESSION_HISTORY_MAX_HEIGHT : Nat := 4

def GATEWAY_SESSION_HISTORY_PAGE_NAMESPACE : String := "gateway.session-history-page/v1"

/-- The order of `localeCompare`: a comparison that is consistent, but that may call two different
strings equal. -/
class Collation where
  localeCompare : String → String → Ordering
  swap : ∀ left right, localeCompare right left = (localeCompare left right).swap
  trans : ∀ first second third, localeCompare first second ≠ .gt →
    localeCompare second third ≠ .gt → localeCompare first third ≠ .gt

inductive SessionTreeKind where
  | aliases
  | evidence
  | pending
  | receipts
  | outbox
  | conflicts
  | indices
  deriving DecidableEq, Repr

def SessionTreeKind.text : SessionTreeKind → String
  | .aliases => "aliases"
  | .evidence => "evidence"
  | .pending => "pending"
  | .receipts => "receipts"
  | .outbox => "outbox"
  | .conflicts => "conflicts"
  | .indices => "indices"

structure SessionHistoryEntry where
  key : String
  value : JsonValue

structure SessionHistoryEntryProof extends SessionHistoryEntry where
  digest : String

structure SessionHistoryPageRef where
  key : String
  version : Nat
  digest : String
  firstKey : String
  lastKey : String
  count : Nat
  height : Nat
  deriving DecidableEq, Repr

/-- What the source tells apart by the member `entries` or `children`. -/
inductive SessionHistoryPageBody where
  | entries (proofs : List SessionHistoryEntryProof)
  | children (refs : List SessionHistoryPageRef)

structure SessionHistoryPage where
  tenantId : String
  rsid : String
  treeKind : SessionTreeKind
  pageId : String
  height : Nat
  body : SessionHistoryPageBody

structure SessionHistoryTreeRef where
  treeKind : SessionTreeKind
  root : Option SessionHistoryPageRef
  entryCount : Nat
  deriving DecidableEq, Repr

structure PlannedPage where
  key : String
  value : SessionHistoryPage
  digest : String

structure SessionHistoryPagePlan where
  tree : SessionHistoryTreeRef
  pages : List PlannedPage

def natural (n : Nat) : JsonValue := .number (.ofNat n)

def SessionHistoryEntryProof.toJson (proof : SessionHistoryEntryProof) : JsonValue :=
  .object [("key", .string proof.key), ("value", proof.value), ("digest", .string proof.digest)]

def SessionHistoryPageRef.toJson (ref : SessionHistoryPageRef) : JsonValue :=
  .object [("namespace", .string GATEWAY_SESSION_HISTORY_PAGE_NAMESPACE), ("key", .string ref.key),
    ("version", natural ref.version), ("digest", .string ref.digest),
    ("firstKey", .string ref.firstKey), ("lastKey", .string ref.lastKey),
    ("count", natural ref.count), ("height", natural ref.height)]

def SessionHistoryPageBody.toJson : SessionHistoryPageBody → String × JsonValue
  | .entries proofs => ("entries", .array (proofs.map SessionHistoryEntryProof.toJson))
  | .children refs => ("children", .array (refs.map SessionHistoryPageRef.toJson))

def SessionHistoryPage.toJson (page : SessionHistoryPage) : JsonValue :=
  .object [("schema", .string GATEWAY_SESSION_HISTORY_PAGE_NAMESPACE), ("generation", natural 1),
    ("tenantId", .string page.tenantId), ("rsid", .string page.rsid),
    ("treeKind", .string page.treeKind.text), ("pageId", .string page.pageId),
    ("height", natural page.height), page.body.toJson]

def SessionHistoryPageBody.firstKey : SessionHistoryPageBody → Option String
  | .entries proofs => proofs.head?.map fun proof => proof.key
  | .children refs => refs.head?.map SessionHistoryPageRef.firstKey

def SessionHistoryPageBody.lastKey : SessionHistoryPageBody → Option String
  | .entries proofs => proofs.getLast?.map fun proof => proof.key
  | .children refs => refs.getLast?.map SessionHistoryPageRef.lastKey

def SessionHistoryPageBody.count : SessionHistoryPageBody → Nat
  | .entries proofs => proofs.length
  | .children refs => (refs.map SessionHistoryPageRef.count).sum

def boundedToken (value : String) : Bool := 0 < value.length && value.utf8ByteSize ≤ 512

section Pages

variable [Host]

def sessionCanonicalDigest (value : JsonValue) : Except JsError String := makeJsonDigest value

def sessionRecordValueBytes (value : JsonValue) : Nat := (stringifyJson value).utf8ByteSize

/-- The place of a page: its tree, its level, and the range of keys under it. -/
structure PageIdInput where
  tenantId : String
  rsid : String
  treeKind : SessionTreeKind
  height : Nat
  ordinal : Nat
  firstKey : String
  lastKey : String

/-- `JSON.stringify` of the place. Heights and ordinals are written in decimal. -/
def PageIdInput.text (place : PageIdInput) : String :=
  "\x7b\"tenantId\":" ++ quote place.tenantId ++ ",\"rsid\":" ++ quote place.rsid ++
    ",\"treeKind\":" ++ quote place.treeKind.text ++ ",\"height\":" ++ toString place.height ++
    ",\"ordinal\":" ++ toString place.ordinal ++ ",\"firstKey\":" ++ quote place.firstKey ++
    ",\"lastKey\":" ++ quote place.lastKey ++ "\x7d"

def pageId (place : PageIdInput) : String :=
  "p-" ++ Host.sha256Hex ("revagent/gateway/session-history-page-id/v1\x00" ++ place.text)

def pageRef (key : String) (value : SessionHistoryPage) (version : Nat) :
    Except JsError SessionHistoryPageRef :=
  match value.body.firstKey, value.body.lastKey with
  | some firstKey, some lastKey => do
    let digest ← sessionCanonicalDigest value.toJson
    return { key, version, digest, firstKey, lastKey, count := value.body.count
             height := value.height }
  | _, _ => throw (.error "history page is empty")

structure PagePlanInput where
  tenantId : String
  rsid : String
  treeKind : SessionTreeKind
  entries : List SessionHistoryEntry

/-- One page of a level, and the reference its parent will hold. Slices are never empty, so the
missing key of an empty one is never used. -/
def planPage (input : PagePlanInput) (height ordinal : Nat) (body : SessionHistoryPageBody)
    (capMessage : String) : Except JsError (PlannedPage × SessionHistoryPageRef) := do
  let id := pageId { tenantId := input.tenantId, rsid := input.rsid, treeKind := input.treeKind
                     height, ordinal, firstKey := body.firstKey.getD ""
                     lastKey := body.lastKey.getD "" }
  let value : SessionHistoryPage :=
    { tenantId := input.tenantId, rsid := input.rsid, treeKind := input.treeKind, pageId := id
      height, body }
  if sessionRecordValueBytes value.toJson > SESSION_HISTORY_PAGE_MAX_BYTES then
    throw (.error capMessage)
  let key := input.rsid ++ "/" ++ input.treeKind.text ++ "/" ++ id
  let ref ← pageRef key value 1
  return ({ key, value, digest := ref.digest }, ref)

def entryProof (entry : SessionHistoryEntry) : Except JsError SessionHistoryEntryProof := do
  return { toSessionHistoryEntry := entry, digest := ← sessionCanonicalDigest entry.value }

def planLeaf (input : PagePlanInput) (slice : List SessionHistoryEntry × Nat) :
    Except JsError (PlannedPage × SessionHistoryPageRef) := do
  let proofs ← slice.1.mapM entryProof
  planPage input 1 slice.2 (.entries proofs) "session history leaf exceeds its encoded cap"

def planBranch (input : PagePlanInput) (height : Nat) (slice : List SessionHistoryPageRef × Nat) :
    Except JsError (PlannedPage × SessionHistoryPageRef) :=
  planPage input height slice.2 (.children slice.1)
    "session history branch exceeds its encoded cap"

/-- The loop `while (level.length > 1)`, with the number of levels still allowed. -/
def planBranches (input : PagePlanInput) (allowed height : Nat) (level : List SessionHistoryPageRef)
    (pages : List PlannedPage) : Except JsError (List SessionHistoryPageRef × List PlannedPage) :=
  if level.length ≤ 1 then .ok (level, pages)
  else match allowed with
    | 0 => .error (.error "session history tree exceeds its height cap")
    | allowed + 1 => do
      let next ← (slices SESSION_HISTORY_BRANCH_MAX_REFS level).zipIdx.mapM
        (planBranch input height)
      planBranches input allowed (height + 1) (next.map Prod.snd) (pages ++ next.map Prod.fst)

section Build

variable [Collation]

def sortByKey (entries : List SessionHistoryEntry) : List SessionHistoryEntry :=
  entries.insertionSort fun left right => Collation.localeCompare left.key right.key ≠ .gt

/-- Whether two neighbours have the same key. -/
def repeatsKey : List SessionHistoryEntry → Bool
  | first :: second :: rest => first.key == second.key || repeatsKey (second :: rest)
  | _ => false

def buildSessionHistoryPagePlan (input : PagePlanInput) :
    Except JsError SessionHistoryPagePlan := do
  if !boundedToken input.tenantId || !boundedToken input.rsid then
    throw (.error "session history identity is invalid")
  let sorted := sortByKey input.entries
  if sorted.any (fun entry => !boundedToken entry.key) || repeatsKey sorted then
    throw (.error "session history keys are invalid or duplicated")
  if sorted.isEmpty then
    return { tree := { treeKind := input.treeKind, root := none, entryCount := 0 }, pages := [] }
  let leaves ← (slices SESSION_HISTORY_LEAF_MAX_ENTRIES sorted).zipIdx.mapM (planLeaf input)
  let (level, pages) ← planBranches input (SESSION_HISTORY_MAX_HEIGHT - 1) 2
    (leaves.map Prod.snd) (leaves.map Prod.fst)
  return { tree := { treeKind := input.treeKind, root := level.head?, entryCount := sorted.length }
           pages }

end Build

abbrev PageRows := String → Option (Entry SessionHistoryPage)

def parsePage (stored : Entry SessionHistoryPage) (expected : SessionHistoryPageRef)
    (tenantId rsid : String) (treeKind : SessionTreeKind) : Except JsError SessionHistoryPage := do
  let value := stored.value
  let refused := JsError.error "session history page proof is stale or malformed"
  if stored.version ≠ expected.version ∨ value.tenantId ≠ tenantId ∨ value.rsid ≠ rsid ∨
      value.treeKind ≠ treeKind ∨ value.pageId.length = 0 then
    throw refused
  let digest ← sessionCanonicalDigest value.toJson
  if digest ≠ expected.digest ∨
      sessionRecordValueBytes value.toJson > SESSION_HISTORY_PAGE_MAX_BYTES then
    throw refused
  return value

def readPage (rows : PageRows) (tenantId rsid : String) (treeKind : SessionTreeKind)
    (ref : SessionHistoryPageRef) : Except JsError SessionHistoryPage :=
  match rows ref.key with
  | none => throw (.error "session history page is missing")
  | some stored => parsePage stored ref tenantId rsid treeKind

def checkEntry (proof : SessionHistoryEntryProof) : Except JsError SessionHistoryEntry := do
  if (← sessionCanonicalDigest proof.value) ≠ proof.digest then
    throw (.error "session history entry digest is invalid")
  return proof.toSessionHistoryEntry

/-- The inner function `visit`, in the order in which it pushes. The source sets no bound of its own
on the recursion; `depth` is the stack it runs on. -/
def visit (rows : PageRows) (tenantId rsid : String) (treeKind : SessionTreeKind) :
    Nat → SessionHistoryPageRef → Except JsError (List SessionHistoryEntry)
  | 0, _ => throw (.rangeError "Maximum call stack size exceeded")
  | depth + 1, ref => do
    let page ← readPage rows tenantId rsid treeKind ref
    match page.body with
    | .entries proofs => proofs.mapM checkEntry
    | .children refs => do
      let parts ← refs.mapM (visit rows tenantId rsid treeKind depth)
      return parts.flatten

/-- Whether some key is not above the one before it. -/
def breaksOrder : List SessionHistoryEntry → Bool
  | first :: second :: rest => JsStringLe second.key first.key || breaksOrder (second :: rest)
  | _ => false

def readTree (rows : PageRows) (depth : Nat) (tenantId rsid : String)
    (tree : SessionHistoryTreeRef) : Except JsError (List SessionHistoryEntry) :=
  match tree.root with
  | none => .ok []
  | some root => do
    let output ← visit rows tenantId rsid tree.treeKind depth root
    if output.length ≠ tree.entryCount ∨ breaksOrder output then
      throw (.error "session history tree cardinality or order is invalid")
    return output

/-- Every planned page under its key, at version 1. -/
def storePlan (plan : SessionHistoryPagePlan) : PageRows := fun key =>
  (plan.pages.find? fun page => page.key = key).map fun page => ⟨1, page.value⟩

end Pages

end RevAgent.Gateway
