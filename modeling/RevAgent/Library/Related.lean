import Mathlib.Data.List.Forall2

/-!
# Lists related element by element

What Mathlib's `List.Forall₂` does not say yet: that a relation may be weakened knowing where its
arguments come from, that a list has a related one if every element has a related element, and that
a relation between the elements of one list carries over to the other.
-/

namespace RevAgent.Library

open List

variable {α β : Type*} {R S : α → β → Prop} {as : List α} {bs : List β}

theorem forall₂_imp_of_mem (h : Forall₂ R as bs)
    (himp : ∀ a ∈ as, ∀ b ∈ bs, R a b → S a b) : Forall₂ S as bs := by
  induction h with
  | nil => exact .nil
  | cons hhead _ ih =>
    refine .cons (himp _ mem_cons_self _ mem_cons_self hhead) (ih ?_)
    intro a ha b hb
    exact himp a (mem_cons_of_mem _ ha) b (mem_cons_of_mem _ hb)

theorem exists_forall₂ (h : ∀ a ∈ as, ∃ b, R a b) : ∃ bs, Forall₂ R as bs := by
  induction as with
  | nil => exact ⟨[], .nil⟩
  | cons a as ih =>
    obtain ⟨b, hb⟩ := h a mem_cons_self
    obtain ⟨bs, hbs⟩ := ih fun a ha => h a (mem_cons_of_mem _ ha)
    exact ⟨b :: bs, .cons hb hbs⟩

theorem exists_left_of_mem_forall₂ (h : Forall₂ R as bs) {b : β} (hb : b ∈ bs) :
    ∃ a ∈ as, R a b := by
  induction h with
  | nil => cases hb
  | cons hhead _ ih =>
    rcases mem_cons.mp hb with rfl | hb
    · exact ⟨_, mem_cons_self, hhead⟩
    · obtain ⟨a, ha, hR⟩ := ih hb
      exact ⟨a, mem_cons_of_mem _ ha, hR⟩

theorem map_eq_of_forall₂ {γ : Type*} {f : α → γ} {g : β → γ} (h : Forall₂ R as bs)
    (hfg : ∀ a b, R a b → g b = f a) : as.map f = bs.map g := by
  induction h with
  | nil => rfl
  | cons hhead _ ih => rw [map_cons, map_cons, hfg _ _ hhead, ih]

theorem pairwise_of_forall₂ {T : α → α → Prop} {U : β → β → Prop} (h : Forall₂ R as bs)
    (hT : as.Pairwise T) (hU : ∀ a b a' b', R a b → R a' b' → T a a' → U b b') : bs.Pairwise U := by
  induction h with
  | nil => exact .nil
  | @cons a b as bs hhead htail ih =>
    obtain ⟨hfirst, hrest⟩ := pairwise_cons.mp hT
    refine .cons ?_ (ih hrest)
    intro b' hb'
    obtain ⟨a', ha', hR⟩ := exists_left_of_mem_forall₂ htail hb'
    exact hU a b a' b' hhead hR (hfirst a' ha')

end RevAgent.Library
