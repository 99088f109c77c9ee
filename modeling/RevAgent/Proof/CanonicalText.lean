import RevAgent.Proof.JsonData
import RevAgent.Protocol.MutationHold

/-!
# The text a hold id is made of

The canonical text of a hold's session, scope and origins can be read back: a quoted string ends at
its first unescaped quotation mark, a scope at its closing brace, a list at its closing bracket. So
two holds with the same text are the same hold, and a hash without collisions on such texts makes
hold ids injective.
-/

namespace RevAgent.Protocol

open List RevAgent.Library

def scopeText : MutationScope → String
  | .session => "\x7b\"kind\":\"session\"\x7d"
  | .document documentId =>
    "\x7b\"document_id\":" ++ (quote documentId ++ ",\"kind\":\"document\"\x7d")

theorem scopeText_delimited : Delimited fun scope => (scopeText scope).toList := by
  intro a b x y heq
  cases a with
  | session =>
    cases b with
    | session => exact ⟨rfl, append_cancel_left heq⟩
    | document documentId =>
      -- the second member name starts differently
      have hthird := congrArg (fun chars => chars[2]?) heq
      simp [scopeText] at hthird
  | document documentId =>
    cases b with
    | session =>
      have hthird := congrArg (fun chars => chars[2]?) heq
      simp [scopeText] at hthird
    | document documentId' =>
      simp only [scopeText, String.toList_append, append_assoc] at heq
      obtain ⟨rfl, htail⟩ := quote_delimited (append_cancel_left heq)
      exact ⟨rfl, append_cancel_left htail⟩

theorem scopeText_injective : Function.Injective scopeText := by
  intro left right h
  have htext : (scopeText left).toList ++ [] = (scopeText right).toList ++ [] := by rw [h]
  exact (scopeText_delimited htext).1

def originsText (origins : List String) : String := ",".intercalate (origins.map quote)

theorem originsText_toList (first : String) (rest : List String) :
    (originsText (first :: rest)).toList =
      (quote first).toList ++ rest.flatMap fun origin => ',' :: (quote origin).toList := by
  induction rest generalizing first with
  | nil => simp [originsText]
  | cons second rest ih =>
    have hjoin : originsText (first :: second :: rest) =
        quote first ++ "," ++ originsText (second :: rest) := by
      simp [originsText]
    rw [hjoin, String.toList_append, String.toList_append, ih]
    simp

theorem originsText_inj {origins origins' : List String} (hne : origins ≠ []) (hne' : origins' ≠ [])
    {x y : List Char}
    (heq : (originsText origins).toList ++ (']' :: x) = (originsText origins').toList ++ (']' :: y)) :
    origins = origins' ∧ x = y := by
  obtain ⟨first, rest, rfl⟩ := exists_cons_of_ne_nil hne
  obtain ⟨first', rest', rfl⟩ := exists_cons_of_ne_nil hne'
  simp only [originsText_toList, append_assoc] at heq
  obtain ⟨rfl, htail⟩ := quote_delimited heq
  have hrest := (quote_delimited.cons ',').flatMap_append
    (fun origin => ⟨',', (quote origin).toList, rfl, (by decide : ',' ≠ ']')⟩)
  obtain ⟨rfl, hxy⟩ := hrest (a := rest) (b := rest') (x := x) (y := y) (by simpa using htail)
  exact ⟨rfl, hxy⟩

def holdMaterial (rsid : String) (scope : MutationScope) (origins : List String) : String :=
  "\x7b\"mutation_scope\":" ++ (scopeText scope ++ (",\"origin_idempotency_keys\":[" ++
    (originsText origins ++ ("],\"rsid\":" ++ (quote rsid ++ "\x7d")))))

theorem holdMaterial_inj {rsid rsid' : String} {scope scope' : MutationScope}
    {origins origins' : List String} (hne : origins ≠ []) (hne' : origins' ≠ [])
    (h : holdMaterial rsid scope origins = holdMaterial rsid' scope' origins') :
    rsid = rsid' ∧ scope = scope' ∧ origins = origins' := by
  have heq := congrArg String.toList h
  unfold holdMaterial at heq
  simp only [String.toList_append] at heq
  have hclose : "],\"rsid\":".toList = ']' :: ",\"rsid\":".toList := by decide
  rw [hclose, append_cancel_left_eq] at heq
  obtain ⟨rfl, hafterScope⟩ := scopeText_delimited heq
  rw [append_cancel_left_eq, cons_append, cons_append] at hafterScope
  obtain ⟨rfl, hafterOrigins⟩ := originsText_inj hne hne' hafterScope
  rw [append_cancel_left_eq] at hafterOrigins
  obtain ⟨rfl, -⟩ := quote_delimited hafterOrigins
  exact ⟨rfl, rfl, rfl⟩

section Host

variable [Host]

theorem canonicalizeItems_strings (texts : List String) :
    canonicalizeItems (texts.map .string) = .ok (texts.map quote) := by
  induction texts with
  | nil => rfl
  | cons text texts ih => simp [canonicalizeItems, canonicalizeJson, ih]

theorem canonicalizeJson_normalizedScope (scope : MutationScope) :
    canonicalizeJson (normalizedScope scope) = .ok (scopeText scope) := by
  cases scope with
  | session => rfl
  | document documentId =>
    have hsorted : JsStringLe "document_id" "kind" := by decide
    have hname : quote "document_id" = "\"document_id\"" := by decide
    have hkind : quote "kind" = "\"kind\"" := by decide
    have hdocument : quote "document" = "\"document\"" := by decide
    simp only [normalizedScope, canonicalizeJson, canonicalizeMembers, bind_eq_ok, pure_eq_ok]
    refine ⟨_, ⟨_, rfl, _, ⟨_, rfl, _, rfl, rfl⟩, rfl⟩, ?_⟩
    rw [← String.toList_inj]
    simp [hsorted, hname, hkind, hdocument, scopeText]

theorem canonicalizeJson_holdMaterial (rsid : String) (scope : MutationScope)
    (origins : List String) :
    canonicalizeJson (.object [
      ("mutation_scope", normalizedScope scope),
      ("origin_idempotency_keys", .array (origins.map .string)),
      ("rsid", .string rsid)]) = .ok (holdMaterial rsid scope origins) := by
  have hscope : JsStringLe "mutation_scope" "origin_idempotency_keys" := by decide
  have horigins : JsStringLe "origin_idempotency_keys" "rsid" := by decide
  have hname : quote "mutation_scope" = "\"mutation_scope\"" := by decide
  have hname' : quote "origin_idempotency_keys" = "\"origin_idempotency_keys\"" := by
    decide
  have hname'' : quote "rsid" = "\"rsid\"" := by decide
  simp only [canonicalizeJson, canonicalizeMembers, canonicalizeJson_normalizedScope,
    canonicalizeItems_strings, bind_eq_ok, pure_eq_ok]
  refine ⟨_, ⟨_, rfl, _, ⟨_, ⟨_, rfl, rfl⟩, _, ⟨_, rfl, _, rfl, rfl⟩, rfl⟩, rfl⟩, ?_⟩
  rw [← String.toList_inj]
  unfold holdMaterial originsText
  simp [hscope, horigins, hname, hname', hname'']

theorem makeMutationHoldId_ok {rsid : String} {scope : MutationScope} {origins : List String}
    {holdId : String} (h : makeMutationHoldId rsid scope origins = .ok holdId) :
    origins ≠ [] ∧ holdId = "vh:" ++ Host.sha256Hex (holdMaterial rsid scope origins) := by
  simp only [makeMutationHoldId, throw_bind, ite_throw_eq_ok, canonicalizeJson_holdMaterial,
    bind_eq_ok, pure_eq_ok] at h
  obtain ⟨hempty, -, -, _, hmaterial, rfl⟩ := h
  obtain rfl := Except.ok.inj hmaterial
  exact ⟨(not_or.mp hempty).2, rfl⟩

/-- Distinct sessions, scopes or origin lists have distinct hold ids. -/
def HoldIdInjective : Prop :=
  ∀ (rsid rsid' : String) (scope scope' : MutationScope) (origins origins' : List String)
    (holdId : String), makeMutationHoldId rsid scope origins = .ok holdId →
    makeMutationHoldId rsid' scope' origins' = .ok holdId →
    rsid = rsid' ∧ scope = scope' ∧ origins = origins'

theorem holdIdInjective_of_sha256 (hhash : ∀ text text' : String,
      text.toList.head? = some '\x7b' → text'.toList.head? = some '\x7b' →
      Host.sha256Hex text = Host.sha256Hex text' → text = text') : HoldIdInjective := by
  intro rsid rsid' scope scope' origins origins' holdId h h'
  obtain ⟨hne, hid⟩ := makeMutationHoldId_ok h
  obtain ⟨hne', hid'⟩ := makeMutationHoldId_ok h'
  have hhex := String.toList_inj.mpr (hid.symm.trans hid')
  rw [String.toList_append, String.toList_append, append_cancel_left_eq, String.toList_inj] at hhex
  have hbrace : ∀ (rsid : String) (scope : MutationScope) (origins : List String),
      (holdMaterial rsid scope origins).toList.head? = some '\x7b' := by
    intro rsid scope origins
    unfold holdMaterial
    simp
  exact holdMaterial_inj hne hne' (hhash _ _ (hbrace _ _ _) (hbrace _ _ _) hhex)

end Host

theorem holdIdInjective_tableHost {digests : List (String × String)}
    (hdistinct : digests.Pairwise fun a b => a.2 ≠ b.2)
    (hdigest : ∀ entry ∈ digests, entry.2.toList.head? ≠ some '\x7b') :
    @HoldIdInjective (tableHost digests) := by
  refine @holdIdInjective_of_sha256 (tableHost digests) ?_
  intro text text' htext htext' h
  refine lookup_getD_inj hdistinct id (p := fun text => text.toList.head? = some '\x7b') ?_ ?_ htext
    htext' h
  · exact fun _ _ _ _ heq => heq
  · intro text htext entry hentry heq
    exact hdigest entry hentry (heq ▸ htext)

end RevAgent.Protocol
