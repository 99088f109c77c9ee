import Mathlib
import RevAgent.Gateway.SessionAggregate
import RevAgent.Proof.SessionPlans
import RevAgent.Proof.SessionRoundTrip

/-!
# The keys of a lane

Numbers below a million million written with twelve digits are ordered as the numbers are, both for
the reader, which compares code units, and for a collation that puts digits in their usual order. So a
lane of this length is planned in the order it has, and its keys differ.
-/

namespace RevAgent.Gateway

open List

def AllDigits (text : String) : Prop := ∀ c ∈ text.toList, c.isDigit = true

theorem toNat_of_isDigit {c : Char} (h : c.isDigit = true) : 48 ≤ c.toNat ∧ c.toNat ≤ 57 := by
  simp only [Char.isDigit, Bool.and_eq_true, decide_eq_true_eq] at h
  exact ⟨UInt32.le_iff_toNat_le.mp h.1, UInt32.le_iff_toNat_le.mp h.2⟩

def digitsValue (digits : List Char) : Nat := Nat.ofDigitChars 10 digits 0

theorem ofDigitChars_eq (digits : List Char) (init : Nat) :
    Nat.ofDigitChars 10 digits init = init * 10 ^ digits.length + digitsValue digits := by
  induction digits generalizing init with
  | nil => simp [Nat.ofDigitChars, digitsValue]
  | cons c digits ih =>
    have hstep (start : Nat) : Nat.ofDigitChars 10 (c :: digits) start =
        Nat.ofDigitChars 10 digits (10 * start + (c.toNat - '0'.toNat)) := rfl
    rw [digitsValue, hstep, hstep, ih, ih, length_cons, Nat.pow_succ]
    ring

theorem digitsValue_cons (c : Char) (digits : List Char) :
    digitsValue (c :: digits) = (c.toNat - 48) * 10 ^ digits.length + digitsValue digits := by
  have hzero : '0'.toNat = 48 := rfl
  calc digitsValue (c :: digits)
      _ = Nat.ofDigitChars 10 digits (10 * 0 + (c.toNat - '0'.toNat)) := rfl
      _ = _ := by rw [ofDigitChars_eq, hzero, Nat.mul_zero, Nat.zero_add]

theorem digitsValue_lt {digits : List Char} (h : ∀ c ∈ digits, c.isDigit = true) :
    digitsValue digits < 10 ^ digits.length := by
  induction digits with
  | nil => simp [digitsValue, Nat.ofDigitChars]
  | cons c digits ih =>
    have hrest := ih fun c hc => h c (mem_cons_of_mem _ hc)
    have hdigit := toNat_of_isDigit (h c mem_cons_self)
    have hfirst : (c.toNat - 48) * 10 ^ digits.length ≤ 9 * 10 ^ digits.length :=
      Nat.mul_le_mul_right _ (by omega)
    rw [digitsValue_cons, length_cons, Nat.pow_succ]
    omega

theorem codeUnitsLe_digits {left right : List Char} (hlength : left.length = right.length)
    (hleft : ∀ c ∈ left, c.isDigit = true) (hright : ∀ c ∈ right, c.isDigit = true) :
    codeUnitsLe (left.map Char.toNat) (right.map Char.toNat) = true ↔
      digitsValue left ≤ digitsValue right := by
  induction left generalizing right with
  | nil =>
    obtain rfl : right = [] := length_eq_zero_iff.mp hlength.symm
    simp [codeUnitsLe]
  | cons c left ih =>
    cases right with
    | nil => cases hlength
    | cons d right =>
      have hrest : left.length = right.length := Nat.succ.inj hlength
      have hleft' : ∀ c ∈ left, c.isDigit = true := fun c hc => hleft c (mem_cons_of_mem _ hc)
      have hright' : ∀ c ∈ right, c.isDigit = true :=
        fun c hc => hright c (mem_cons_of_mem _ hc)
      have hc := toNat_of_isDigit (hleft c mem_cons_self)
      have hd := toNat_of_isDigit (hright d mem_cons_self)
      have hbelow := digitsValue_lt hleft'
      have hbelow' := digitsValue_lt hright'
      rw [← hrest] at hbelow'
      rw [map_cons, map_cons, codeUnitsLe, digitsValue_cons, digitsValue_cons, ← hrest]
      simp only [Bool.or_eq_true, Bool.and_eq_true, decide_eq_true_eq, ih hrest hleft' hright']
      rcases Nat.lt_trichotomy c.toNat d.toNat with hlt | heq | hgt
      · have hmul : (c.toNat - 48 + 1) * 10 ^ left.length ≤ (d.toNat - 48) * 10 ^ left.length :=
          Nat.mul_le_mul_right _ (by omega)
        rw [Nat.add_mul, Nat.one_mul] at hmul
        omega
      · rw [heq]
        omega
      · have hmul : (d.toNat - 48 + 1) * 10 ^ left.length ≤ (c.toNat - 48) * 10 ^ left.length :=
          Nat.mul_le_mul_right _ (by omega)
        rw [Nat.add_mul, Nat.one_mul] at hmul
        omega

theorem codeUnits_of_allDigits {text : String} (h : AllDigits text) :
    codeUnits text = text.toList.map Char.toNat := by
  rw [codeUnits, ← flatMap_singleton' (text.toList.map Char.toNat), flatMap_map]
  apply flatMap_congr
  intro c hc
  have hdigit := toNat_of_isDigit (h c hc)
  rw [if_pos (by omega)]

theorem toList_orderedLaneKey (index : Nat) :
    (orderedLaneKey index).toList = leftpad 12 '0' (Nat.toDigits 10 index) := by
  rw [orderedLaneKey, String.toList_ofList]

theorem allDigits_orderedLaneKey (index : Nat) : AllDigits (orderedLaneKey index) := by
  intro c hc
  rw [toList_orderedLaneKey, leftpad, mem_append] at hc
  rcases hc with hc | hc
  · rw [eq_of_mem_replicate hc]
    decide
  · exact Nat.isDigit_of_mem_toDigits (by decide) (by decide) hc

theorem digitsValue_orderedLaneKey (index : Nat) :
    digitsValue (orderedLaneKey index).toList = index := by
  have hzeros (count : Nat) : digitsValue (replicate count '0') = 0 := by
    induction count with
    | zero => rfl
    | succ count ih =>
      rw [replicate_succ, digitsValue_cons, ih]
      simp
  rw [toList_orderedLaneKey, leftpad, digitsValue, Nat.ofDigitChars, foldl_append]
  exact (congrArg (Nat.ofDigitChars 10 (Nat.toDigits 10 index)) (hzeros _)).trans
    Nat.ofDigitChars_ten_toDigits

theorem orderedLaneKey_injective : Function.Injective orderedLaneKey := by
  intro left right h
  rw [← digitsValue_orderedLaneKey left, h, digitsValue_orderedLaneKey]

theorem length_orderedLaneKey {index : Nat} (h : index < 10 ^ 12) :
    (orderedLaneKey index).toList.length = 12 := by
  have hdigits : (Nat.toDigits 10 index).length ≤ 12 :=
    (Nat.length_toDigits_le_iff (by decide) (by decide)).mpr h
  rw [toList_orderedLaneKey, leftpad, length_append, length_replicate]
  omega

theorem jsStringLe_orderedLaneKey {left right : Nat} (hleft : left < 10 ^ 12)
    (hright : right < 10 ^ 12) :
    JsStringLe (orderedLaneKey left) (orderedLaneKey right) ↔ left ≤ right := by
  rw [JsStringLe, codeUnits_of_allDigits (allDigits_orderedLaneKey left),
    codeUnits_of_allDigits (allDigits_orderedLaneKey right), codeUnitsLe_digits,
    digitsValue_orderedLaneKey, digitsValue_orderedLaneKey]
  · rw [length_orderedLaneKey hleft, length_orderedLaneKey hright]
  · exact allDigits_orderedLaneKey left
  · exact allDigits_orderedLaneKey right

theorem utf8ByteSize_of_allDigits {text : String} (h : AllDigits text) :
    text.utf8ByteSize = text.toList.length := by
  rw [← utf8Len_of_digits h, ← String.utf8ByteSize_ofList, String.ofList_toList]

theorem boundedToken_orderedLaneKey {index : Nat} (h : index < 10 ^ 12) :
    boundedToken (orderedLaneKey index) = true := by
  have hlength := length_orderedLaneKey h
  have hbytes := utf8ByteSize_of_allDigits (allDigits_orderedLaneKey index)
  rw [hlength] at hbytes
  rw [boundedToken, hbytes, ← String.length_toList, hlength]
  decide

theorem keys_orderedLaneEntries (values : List JsonValue) :
    (orderedLaneEntries values).map SessionHistoryEntry.key =
      (range values.length).map orderedLaneKey := by
  rw [orderedLaneEntries, map_map, range_eq_range', ← zipIdx_map_snd 0 values, map_map]
  rfl

theorem nodup_orderedLaneEntries (values : List JsonValue) :
    ((orderedLaneEntries values).map SessionHistoryEntry.key).Nodup := by
  rw [keys_orderedLaneEntries]
  exact nodup_range.map orderedLaneKey_injective

theorem length_orderedLaneEntries (values : List JsonValue) :
    (orderedLaneEntries values).length = values.length := by
  rw [orderedLaneEntries, length_map, length_zipIdx]

/-- `localeCompare` orders numbers written with the same number of digits as `<` does. -/
def CollatesDigits [Collation] : Prop :=
  ∀ left right : String, AllDigits left → AllDigits right →
    left.toList.length = right.toList.length →
    (Collation.localeCompare left right ≠ .gt ↔ JsStringLe left right)

theorem sortByKey_orderedLaneEntries [Collation] (hdigits : CollatesDigits) {values : List JsonValue}
    (hlength : values.length ≤ 10 ^ 12) :
    sortByKey (orderedLaneEntries values) = orderedLaneEntries values := by
  apply Pairwise.insertionSort_eq
  rw [← pairwise_map (f := SessionHistoryEntry.key)
    (R := fun left right => Collation.localeCompare left right ≠ .gt), keys_orderedLaneEntries,
    pairwise_map]
  refine Pairwise.imp_of_mem ?_ (pairwise_lt_range)
  intro left right hleft hright hlt
  have hleft' : left < 10 ^ 12 := lt_of_lt_of_le (mem_range.mp hleft) hlength
  have hright' : right < 10 ^ 12 := lt_of_lt_of_le (mem_range.mp hright) hlength
  rw [hdigits _ _ (allDigits_orderedLaneKey left) (allDigits_orderedLaneKey right),
    jsStringLe_orderedLaneKey hleft' hright']
  · exact hlt.le
  · rw [length_orderedLaneKey hleft', length_orderedLaneKey hright']

theorem codeUnitsLe_append {left right : List Nat} (hlength : left.length = right.length)
    (rest : List Nat) :
    codeUnitsLe (left ++ rest) (right ++ rest) = codeUnitsLe left right := by
  induction left generalizing right with
  | nil =>
    obtain rfl : right = [] := length_eq_zero_iff.mp hlength.symm
    simp [codeUnitsLe, codeUnitsLe_refl]
  | cons unit left ih =>
    cases right with
    | nil => cases hlength
    | cons unit' right =>
      rw [cons_append, cons_append, codeUnitsLe, codeUnitsLe, ih (Nat.succ.inj hlength)]

theorem collationKey_of_allDigits {text : String} (h : AllDigits text) :
    collationKey text = codeUnits text ++ 0 :: replicate text.toList.length 0 := by
  have hlower : ∀ c ∈ text.toList, c.toLower.toNat = c.toNat ∧ c.isUpper.toNat = 0 := by
    intro c hc
    have hdigit := toNat_of_isDigit (h c hc)
    have hletter : ¬ c.val ≥ 'A'.val := by
      rw [ge_iff_le, UInt32.le_iff_toNat_le]
      exact Nat.not_le.mpr (lt_of_le_of_lt hdigit.2 (by decide))
    refine ⟨?_, ?_⟩
    · rw [Char.toLower, dif_neg fun h => hletter h.1]
    · rw [Char.isUpper, decide_eq_false fun h => hletter h.1]
      rfl
  rw [collationKey, codeUnits_of_allDigits h]
  congr 1
  · exact map_congr_left fun c hc => (hlower c hc).1
  · rw [map_congr_left fun c hc => (hlower c hc).2, map_const']

theorem collatesDigits_sampleCollation : @CollatesDigits sampleCollation := by
  intro left right hleft hright hlength
  show compareUnits (collationKey left) (collationKey right) ≠ .gt ↔ _
  have hunits : (codeUnits left).length = (codeUnits right).length := by
    rw [codeUnits_of_allDigits hleft, codeUnits_of_allDigits hright, length_map, length_map,
      hlength]
  rw [compareUnits_ne_gt, collationKey_of_allDigits hleft, collationKey_of_allDigits hright, hlength,
    codeUnitsLe_append hunits]
  exact Iff.rfl

end RevAgent.Gateway
