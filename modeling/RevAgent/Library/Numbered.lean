import Mathlib.Data.List.Forall2

/-!
# Consecutively numbered lists

A log whose entries carry the numbers `k + 1, k + 2, ...` in order. Looking an entry up by its
number is indexing, and keeping the entries above a number is dropping a prefix. Both are what a
cumulative acknowledgement relies on.
-/

namespace RevAgent.Library

open List

variable {α : Type*} {number : α → Nat} {start i bound : Nat} {log : List α} {a : α}

/-- The entries carry the numbers `start + 1, start + 2, ...`. -/
def Numbered (number : α → Nat) : Nat → List α → Prop
  | _, [] => True
  | start, a :: rest => number a = start + 1 ∧ Numbered number (start + 1) rest

@[simp]
theorem numbered_nil (start : Nat) : Numbered number start [] := trivial

theorem numbered_append_singleton :
    Numbered number start (log ++ [a]) ↔
      Numbered number start log ∧ number a = start + log.length + 1 := by
  induction log generalizing start with
  | nil => simp [Numbered]
  | cons b rest ih =>
    simp only [cons_append, Numbered, ih, length_cons, and_assoc]
    refine and_congr_right fun _ => and_congr_right fun _ => ?_
    omega

section Reading

variable (h : Numbered number start log)

include h

theorem Numbered.of_forall₂ {β : Type*} {number' : β → Nat}
    {log' : List β} (hmatch : Forall₂ (fun b a => number' b = number a) log' log) :
    Numbered number' start log' := by
  induction hmatch generalizing start with
  | nil => trivial
  | cons hhead _ ih => exact ⟨hhead.trans h.1, ih h.2⟩

theorem Numbered.take (n : Nat) : Numbered number start (log.take n) := by
  induction n generalizing start log with
  | zero => simp
  | succ n ih =>
    cases log with
    | nil => simp
    | cons a rest => exact ⟨h.1, ih h.2⟩

theorem Numbered.drop (n : Nat) : Numbered number (start + n) (log.drop n) := by
  induction n generalizing start log with
  | zero => simpa using h
  | succ n ih =>
    cases log with
    | nil => simp
    | cons a rest =>
      have hrest := ih h.2
      rwa [show start + 1 + n = start + (n + 1) by omega] at hrest

theorem Numbered.getElem? (ha : log[i]? = some a) : number a = start + i + 1 := by
  have hdrop := h.drop i
  have hlt : i < log.length := (List.getElem?_eq_some_iff.mp ha).1
  rw [drop_eq_getElem_cons hlt] at hdrop
  have heq : log[i] = a := (List.getElem?_eq_some_iff.mp ha).2
  rw [← heq]
  exact hdrop.1

theorem Numbered.lt_number (ha : a ∈ log) : start < number a := by
  obtain ⟨i, hi⟩ := mem_iff_getElem?.mp ha
  have := h.getElem? hi
  omega

theorem Numbered.filter_lt : (log.filter fun a => bound < number a) = log.drop (bound - start) := by
  induction log generalizing start with
  | nil => simp
  | cons a rest ih =>
    by_cases hle : bound ≤ start
    · have hzero : bound - start = 0 := by omega
      rw [hzero, drop_zero, filter_eq_self]
      intro b hb
      have := h.lt_number hb
      simpa using by omega
    · have hhead : ¬ bound < number a := by rw [h.1]; omega
      rw [filter_cons_of_neg (by simpa using hhead), ih h.2,
        show bound - start = bound - (start + 1) + 1 by omega, drop_succ_cons]

theorem Numbered.find?_eq : (log.find? fun a => number a = start + i + 1) = log[i]? := by
  induction log generalizing start i with
  | nil => simp
  | cons a rest ih =>
    cases i with
    | zero => simp [h.1]
    | succ i =>
      have hne : ¬ number a = start + (i + 1) + 1 := by rw [h.1]; omega
      rw [find?_cons_of_neg (by simpa using hne), getElem?_cons_succ, ← ih h.2]
      congr 1
      funext b
      rw [show start + 1 + i + 1 = start + (i + 1) + 1 by omega]

theorem Numbered.map_eq_range' : log.map number = range' (start + 1) log.length := by
  induction log generalizing start with
  | nil => rfl
  | cons a rest ih => rw [map_cons, h.1, ih h.2, length_cons, range'_succ]

theorem Numbered.nodup : (log.map number).Nodup := by
  induction log generalizing start with
  | nil => simp
  | cons a rest ih =>
    rw [map_cons, nodup_cons]
    refine ⟨?_, ih h.2⟩
    intro hmem
    obtain ⟨b, hb, heq⟩ := mem_map.mp hmem
    have := h.2.lt_number hb
    have := h.1
    omega

end Reading

end RevAgent.Library
