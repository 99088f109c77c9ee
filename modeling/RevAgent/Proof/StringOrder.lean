import RevAgent.Library.PrefixCode
import RevAgent.Protocol.Json

/-!
# The order of JavaScript strings

Strings are compared by their UTF-16 code units. The order is total, and strings that come out equal are
equal, since surrogates are no characters and the first code unit says how many belong together.
-/

namespace RevAgent

open RevAgent.Library

theorem codeUnitsLe_cons {a b : Nat} {left right : List Nat} :
    codeUnitsLe (a :: left) (b :: right) = true ↔ a < b ∨ a = b ∧ codeUnitsLe left right = true := by
  simp [codeUnitsLe]

theorem codeUnitsLe_total (left right : List Nat) :
    codeUnitsLe left right = true ∨ codeUnitsLe right left = true := by
  induction left generalizing right with
  | nil => exact .inl rfl
  | cons a left ih =>
    cases right with
    | nil => exact .inr rfl
    | cons b right =>
      rw [codeUnitsLe_cons, codeUnitsLe_cons]
      have htail := ih right
      have hhead := lt_trichotomy a b
      tauto

theorem codeUnitsLe_antisymm {left right : List Nat} (h : codeUnitsLe left right = true)
    (h' : codeUnitsLe right left = true) : left = right := by
  induction left generalizing right with
  | nil =>
    cases right with
    | nil => rfl
    | cons b right => cases h'
  | cons a left ih =>
    cases right with
    | nil => cases h
    | cons b right =>
      rw [codeUnitsLe_cons] at h h'
      obtain ⟨rfl, htail, htail'⟩ : a = b ∧ codeUnitsLe left right = true ∧
          codeUnitsLe right left = true := by
        rcases h with h | h
        · rcases h' with h' | h'
          · omega
          · omega
        · rcases h' with h' | h'
          · omega
          · exact ⟨h.1, h.2, h'.2⟩
      rw [ih htail htail']

theorem codeUnitsLe_trans {first second third : List Nat} (h : codeUnitsLe first second = true)
    (h' : codeUnitsLe second third = true) : codeUnitsLe first third = true := by
  induction first generalizing second third with
  | nil => rfl
  | cons a first ih =>
    cases second with
    | nil => cases h
    | cons b second =>
      cases third with
      | nil => cases h'
      | cons c third =>
        rw [codeUnitsLe_cons] at h h' ⊢
        rcases h with h | ⟨rfl, h⟩
        · rcases h' with h' | ⟨rfl, -⟩
          · exact .inl (lt_trans h h')
          · exact .inl h
        · rcases h' with h' | ⟨rfl, h'⟩
          · exact .inl h'
          · exact .inr ⟨rfl, ih h h'⟩

def charUnits (c : Char) : List Nat :=
  if c.toNat < 0x10000 then [c.toNat]
  else [0xd800 + (c.toNat - 0x10000) / 0x400, 0xdc00 + (c.toNat - 0x10000) % 0x400]

theorem char_eq_of_toNat_eq {c d : Char} (h : c.toNat = d.toNat) : c = d :=
  Char.ext (UInt32.toNat_inj.mp h)

/-- A surrogate is no character, so the first code unit says how many belong together. -/
theorem charUnits_delimited : Delimited charUnits := by
  intro c d x y heq
  have hvalid (e : Char) : e.toNat < 0xd800 ∨ 0xdfff < e.toNat ∧ e.toNat < 0x110000 := e.valid
  have hc := hvalid c
  have hd := hvalid d
  unfold charUnits at heq
  split at heq
  · split at heq
    · obtain ⟨hfirst, hrest⟩ := List.cons.inj heq
      exact ⟨char_eq_of_toNat_eq hfirst, hrest⟩
    · obtain ⟨hfirst, -⟩ := List.cons.inj heq
      omega
  · split at heq
    · obtain ⟨hfirst, -⟩ := List.cons.inj heq
      omega
    · obtain ⟨hfirst, hsecond⟩ := List.cons.inj heq
      obtain ⟨hsecond, hrest⟩ := List.cons.inj hsecond
      refine ⟨char_eq_of_toNat_eq ?_, hrest⟩
      omega

theorem codeUnits_injective : Function.Injective codeUnits := by
  intro left right h
  have hstart (c : Char) : ∃ first rest, charUnits c = first :: rest ∧ first ≠ 0x110000 := by
    have hvalid : c.toNat < 0xd800 ∨ 0xdfff < c.toNat ∧ c.toNat < 0x110000 := c.valid
    unfold charUnits
    split
    · exact ⟨_, _, rfl, by omega⟩
    · exact ⟨_, _, rfl, by omega⟩
  have hdelimited := charUnits_delimited.flatMap_append hstart
  have hchars : left.toList = right.toList := by
    refine (@hdelimited left.toList right.toList [] [] ?_).1
    have hunits : left.toList.flatMap charUnits = right.toList.flatMap charUnits := h
    simp only [hunits]
  exact String.toList_inj.mp hchars

theorem JsStringLe.antisymm {left right : String} (h : JsStringLe left right)
    (h' : JsStringLe right left) : left = right :=
  codeUnits_injective (codeUnitsLe_antisymm h h')

theorem JsStringLe.of_not {left right : String} (h : ¬ JsStringLe right left) :
    JsStringLe left right :=
  (codeUnitsLe_total _ _).resolve_right h

theorem JsStringLe.trans {first second third : String} (h : JsStringLe first second)
    (h' : JsStringLe second third) : JsStringLe first third :=
  codeUnitsLe_trans h h'

end RevAgent
