import Mathlib.Data.List.Pairwise
import Mathlib.Data.List.Sort

/-!
# Rows kept in a sorted list

A table that is appended to and then sorted keeps every relation between earlier and later rows that
the sort does not disturb. Insertion moves a row behind another only when the order does not relate
them, so it is enough that the relation survives such a swap; the order itself need not be total.
-/

namespace RevAgent.Library

open List

variable {α : Type*} {r R : α → α → Prop} [DecidableRel r]

theorem pairwise_orderedInsert (hswap : ∀ a b, ¬ r a b → R a b → R b a) {a : α} {rows : List α}
    (h : (a :: rows).Pairwise R) : (rows.orderedInsert r a).Pairwise R := by
  induction rows with
  | nil => exact h
  | cons b rows ih =>
    rw [orderedInsert]
    split_ifs with hab
    · exact h
    · obtain ⟨ha, hb, hrows⟩ : (∀ x ∈ b :: rows, R a x) ∧ (∀ x ∈ rows, R b x) ∧
          rows.Pairwise R := by
        simpa only [pairwise_cons] using h
      have htail : (a :: rows).Pairwise R :=
        pairwise_cons.mpr ⟨fun x hx => ha x (mem_cons_of_mem b hx), hrows⟩
      refine pairwise_cons.mpr ⟨?_, ih htail⟩
      intro x hx
      rcases (mem_orderedInsert r).mp hx with rfl | hx
      · exact hswap x b hab (ha b mem_cons_self)
      · exact hb x hx

theorem pairwise_insertionSort (hswap : ∀ a b, ¬ r a b → R a b → R b a) {rows : List α}
    (h : rows.Pairwise R) : (rows.insertionSort r).Pairwise R := by
  induction rows with
  | nil => exact Pairwise.nil
  | cons a rows ih =>
    obtain ⟨ha, hrows⟩ := pairwise_cons.mp h
    refine pairwise_orderedInsert hswap (pairwise_cons.mpr ⟨?_, ih hrows⟩)
    intro x hx
    exact ha x ((mem_insertionSort r).mp hx)

omit [DecidableRel r] in
theorem related_of_ne {rows : List α} (h : rows.Pairwise R) {a b : α} (ha : a ∈ rows)
    (hb : b ∈ rows) (hne : a ≠ b) : R a b ∨ R b a := by
  have hsymm : Std.Symm fun a b => R a b ∨ R b a := ⟨fun _ _ => Or.symm⟩
  have hboth : rows.Pairwise fun a b => R a b ∨ R b a := h.imp Or.inl
  exact hboth.forall ha hb hne

omit [DecidableRel r] in
theorem find?_eq_some_of_pairwise {rows : List α} {p : α → Bool} (h : rows.Pairwise R) {a : α}
    (ha : a ∈ rows) (hpa : p a = true) (hbefore : ∀ row, R row a → p row = false) :
    rows.find? p = some a := by
  induction rows with
  | nil => exact absurd ha not_mem_nil
  | cons row rows ih =>
    obtain ⟨hrow, hrows⟩ := pairwise_cons.mp h
    rcases mem_cons.mp ha with rfl | ha
    · exact find?_cons_of_pos hpa
    · rw [find?_cons_of_neg (by simp [hbefore row (hrow a ha)])]
      exact ih hrows ha

omit [DecidableRel r] in
theorem lookup_getD_inj {κ β : Type*} [BEq κ] [LawfulBEq κ] {table : List (κ × β)}
    (hdistinct : table.Pairwise fun a b => a.2 ≠ b.2) (fallback : κ → β) {p : κ → Prop}
    (hfallback : ∀ a b, p a → p b → fallback a = fallback b → a = b)
    (hfresh : ∀ a, p a → ∀ entry ∈ table, entry.2 ≠ fallback a) {a b : κ} (ha : p a) (hb : p b)
    (h : (table.lookup a).getD (fallback a) = (table.lookup b).getD (fallback b)) : a = b := by
  have hmem : ∀ {key : κ} {value : β}, table.lookup key = some value → (key, value) ∈ table := by
    intro key value hlookup
    obtain ⟨before, after, heq, -⟩ := lookup_eq_some_iff.mp hlookup
    simp [heq]
  cases hlookup : table.lookup a with
  | none =>
    cases hlookup' : table.lookup b with
    | none => exact hfallback a b ha hb (by simpa [hlookup, hlookup'] using h)
    | some value =>
      simp only [hlookup, hlookup', Option.getD_none, Option.getD_some] at h
      exact absurd h.symm (hfresh a ha _ (hmem hlookup'))
  | some value =>
    cases hlookup' : table.lookup b with
    | none =>
      simp only [hlookup, hlookup', Option.getD_none, Option.getD_some] at h
      exact absurd h (hfresh b hb _ (hmem hlookup))
    | some value' =>
      simp only [hlookup, hlookup', Option.getD_some] at h
      by_contra hne
      rcases related_of_ne hdistinct (hmem hlookup) (hmem hlookup')
        (fun heq => hne (Prod.mk.inj heq).1) with hrel | hrel
      · exact hrel h
      · exact hrel h.symm

end RevAgent.Library
