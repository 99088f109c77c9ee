import Mathlib.Tactic.Common

/-!
# Prefix codes

A code is delimited when a code word can be cut off the front of any text in one way only. Delimited
codes compose: a list of words closed by a symbol that starts no word is delimited again.
-/

namespace RevAgent.Library

open List

variable {α β : Type*}

def Delimited (code : α → List β) : Prop :=
  ∀ ⦃a b : α⦄ ⦃x y : List β⦄, code a ++ x = code b ++ y → a = b ∧ x = y

theorem Delimited.of_decode {code : α → List β} (decode : List β → Option (α × List β))
    (h : ∀ a x, decode (code a ++ x) = some (a, x)) : Delimited code := by
  intro a b x y heq
  have hdecode : some (a, x) = some (b, y) := by rw [← h a x, ← h b y, heq]
  simpa using hdecode

theorem Delimited.cons {code : α → List β} (h : Delimited code) (mark : β) :
    Delimited fun a => mark :: code a := by
  intro a b x y heq
  exact h (cons.inj heq).2

theorem Delimited.flatMap_append {code : α → List β} (h : Delimited code) {close : β}
    (hstart : ∀ a, ∃ first rest, code a = first :: rest ∧ first ≠ close) :
    Delimited fun items : List α => items.flatMap code ++ [close] := by
  intro as bs
  induction as generalizing bs with
  | nil =>
    intro x y heq
    cases bs with
    | nil => exact ⟨rfl, by simpa using heq⟩
    | cons b bs =>
      obtain ⟨first, rest, hcode, hne⟩ := hstart b
      simp only [flatMap_nil, flatMap_cons, hcode, nil_append, cons_append, cons.injEq] at heq
      exact absurd heq.1.symm hne
  | cons a as ih =>
    intro x y heq
    cases bs with
    | nil =>
      obtain ⟨first, rest, hcode, hne⟩ := hstart a
      simp only [flatMap_nil, flatMap_cons, hcode, nil_append, cons_append, cons.injEq] at heq
      exact absurd heq.1 hne
    | cons b bs =>
      simp only [flatMap_cons, append_assoc] at heq
      obtain ⟨rfl, htail⟩ := h heq
      obtain ⟨rfl, hrest⟩ := ih (by simpa only [append_assoc] using htail)
      exact ⟨rfl, hrest⟩

theorem append_inj_of_stop {stop : β → Bool} {u v x y : List β} (hu : ∀ c ∈ u, stop c = false)
    (hv : ∀ c ∈ v, stop c = false) (hx : ∀ c, x.head? = some c → stop c = true)
    (hy : ∀ c, y.head? = some c → stop c = true) (heq : u ++ x = v ++ y) : u = v ∧ x = y := by
  induction u generalizing v with
  | nil =>
    cases v with
    | nil => exact ⟨rfl, heq⟩
    | cons c rest =>
      have hstop := hx c (by simpa using congrArg head? heq)
      rw [hv c mem_cons_self] at hstop
      cases hstop
  | cons c rest ih =>
    cases v with
    | nil =>
      have hstop := hy c (by simpa using (congrArg head? heq).symm)
      rw [hu c mem_cons_self] at hstop
      cases hstop
    | cons d rest' =>
      rw [cons_append, cons_append, cons.injEq] at heq
      obtain ⟨rfl, heq⟩ := heq
      obtain ⟨rfl, hxy⟩ := ih (fun e he => hu e (mem_cons_of_mem _ he))
        (fun e he => hv e (mem_cons_of_mem _ he)) heq
      exact ⟨rfl, hxy⟩

end RevAgent.Library
