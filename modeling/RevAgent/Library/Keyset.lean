import Mathlib.Data.List.Pairwise
import Mathlib.Order.Lattice

/-!
# Paging by key

A table in the order of its keys is read a page at a time, each page from after the last key of the
one before. The rows after a position are what is left to read, so reading on from a row that was read
leaves exactly the rows behind it.

A page carries a cursor to the next one until there is none.
-/

namespace RevAgent.Library

open List

variable {α κ : Type} [LinearOrder κ] (key : α → κ)

/-- The rows whose key comes after a position, or all of them before the first. -/
def rowsAfter (rows : List α) (after : Option κ) : List α :=
  rows.filter fun row => after.all fun position => decide (position < key row)

/-- No two rows have one key, and they are in its order. -/
def Keyed (rows : List α) : Prop := rows.Pairwise fun a b => key a < key b

variable {key} {rows : List α}

@[simp]
theorem rowsAfter_none : rowsAfter key rows none = rows := by
  simp [rowsAfter]

theorem mem_rowsAfter {after : Option κ} {row : α} (h : row ∈ rowsAfter key rows after) :
    row ∈ rows :=
  (mem_filter.mp h).1

theorem Keyed.filter (h : Keyed key rows) (p : α → Bool) : Keyed key (rows.filter p) :=
  Pairwise.filter p h

theorem Keyed.rowsAfter_key (h : Keyed key rows) {after : Option κ} {front back : List α} {row : α}
    (hsplit : rowsAfter key rows after = front ++ row :: back) :
    rowsAfter key rows (some (key row)) = back := by
  have hrow : after.all (fun position => decide (position < key row)) = true := by
    have hmem : row ∈ rowsAfter key rows after := by simp [hsplit]
    exact (mem_filter.mp hmem).2
  have hlater : rowsAfter key rows (some (key row)) =
      (rowsAfter key rows after).filter fun other => decide (key row < key other) := by
    rw [rowsAfter, rowsAfter, filter_filter]
    refine filter_congr fun other _ => ?_
    cases after with
    | none => simp
    | some position =>
      by_cases hlt : key row < key other
      · have hposition : position < key row := by simpa using hrow
        simp [hlt, lt_trans hposition hlt]
      · simp [hlt]
  have hsorted : Keyed key (front ++ row :: back) := hsplit ▸ Pairwise.filter _ h
  obtain ⟨-, hback, hfront⟩ := pairwise_append.mp hsorted
  rw [hlater, hsplit, filter_append, filter_eq_nil_iff.mpr, nil_append,
    filter_cons_of_neg (by simp), filter_eq_self.mpr]
  · intro other hother
    exact decide_eq_true ((pairwise_cons.mp hback).1 other hother)
  · intro other hother
    simpa using le_of_lt (hfront other hother row mem_cons_self)

theorem Keyed.rowsAfter_getLast (h : Keyed key rows) {after : Option κ} {front back : List α}
    (hsplit : rowsAfter key rows after = front ++ back) :
    rowsAfter key rows ((front.getLast?.map key).or after) = back := by
  rcases eq_nil_or_concat front with rfl | ⟨before, row, rfl⟩
  · simpa using hsplit
  · rw [concat_eq_append] at hsplit ⊢
    rw [getLast?_concat, Option.map_some, Option.some_or]
    exact h.rowsAfter_key (by simpa using hsplit)

theorem length_rowsAfter_le (after : Option κ) : (rowsAfter key rows after).length ≤ rows.length :=
  length_filter_le _ _

section Cursors

variable {γ ε π : Type} (respond : Option γ → Except ε π) (next : π → Option γ)

/-- The cursors a client comes by: none at first, and then those of the pages. -/
inductive CursorReached : Option γ → Prop
  | first : CursorReached none
  | next {cursor : Option γ} {page : π} {following : γ} :
      CursorReached cursor → respond cursor = .ok page → next page = some following →
        CursorReached (some following)

/-- The pages from a cursor on, to the one without a cursor. -/
inductive PageRun : Option γ → List π → Prop
  | last {cursor : Option γ} {page : π} :
      respond cursor = .ok page → next page = none → PageRun cursor [page]
  | more {cursor : Option γ} {page : π} {following : γ} {pages : List π} :
      respond cursor = .ok page → next page = some following → PageRun (some following) pages →
        PageRun cursor (page :: pages)

variable {respond next}

theorem PageRun.exists_page {cursor : Option γ} {pages : List π} (h : PageRun respond next cursor pages) :
    ∃ page, respond cursor = .ok page := by
  cases h with
  | last hpage _ => exact ⟨_, hpage⟩
  | more hpage _ _ => exact ⟨_, hpage⟩

theorem PageRun.of_cursorReached {pages : List π} (hrun : PageRun respond next none pages)
    {cursor : Option γ} (hcursor : CursorReached respond next cursor) :
    ∃ rest, PageRun respond next cursor rest := by
  induction hcursor with
  | first => exact ⟨pages, hrun⟩
  | next _ hpage hnext ih =>
    obtain ⟨rest, hrest⟩ := ih
    cases hrest with
    | last hpage' hlast =>
      cases hpage.symm.trans hpage'
      cases hnext.symm.trans hlast
    | more hpage' hnext' hmore =>
      cases hpage.symm.trans hpage'
      cases hnext.symm.trans hnext'
      exact ⟨_, hmore⟩

theorem CursorReached.eq_none {cursor : Option γ} (h : CursorReached respond next cursor) {e : ε}
    (hfailed : respond none = .error e) : cursor = none := by
  induction h with
  | first => rfl
  | next _ hpage _ ih =>
    rw [ih, hfailed] at hpage
    cases hpage

theorem CursorReached.exists_page_of_two {cursor : Option γ} (h : CursorReached respond next cursor)
    {following : γ} (hfirst : (respond none).map next = .ok (some following))
    (hsecond : (respond (some following)).map next = .ok none) : ∃ page, respond cursor = .ok page := by
  have hcursor : cursor = none ∨ cursor = some following := by
    induction h with
    | first => exact .inl rfl
    | next _ hpage hnext ih =>
      rcases ih with rfl | rfl
      · rw [hpage] at hfirst
        exact .inr (hnext.symm.trans (Except.ok.inj hfirst))
      · rw [hpage] at hsecond
        cases hnext.symm.trans (Except.ok.inj hsecond)
  rcases hcursor with rfl | rfl
  · cases hresponse : respond none with
    | ok page => exact ⟨page, rfl⟩
    | error e =>
      rw [hresponse] at hfirst
      cases hfirst
  · cases hresponse : respond (some following) with
    | ok page => exact ⟨page, rfl⟩
    | error e =>
      rw [hresponse] at hsecond
      cases hsecond

end Cursors

end RevAgent.Library
