import RevAgent.Library.Related

/-!
# Fallible computations

A check that throws ends the computation, so a sequence of checks that ends in a result has passed
every one of them. These lemmas take such a sequence apart without unfolding the monad.
-/

namespace RevAgent.Library

universe u

variable {ε α β : Type u}

@[simp]
theorem bind_eq_ok {x : Except ε α} {next : α → Except ε β} {result : β} :
    (x >>= next) = .ok result ↔ ∃ a, x = .ok a ∧ next a = .ok result := by
  cases x with
  | error e => simp [bind, Except.bind]
  | ok a => simp [bind, Except.bind]

theorem check_bind_eq_ok {ε β : Type} {check : Except ε Unit} {next : Unit → Except ε β}
    {result : β} : (check >>= next) = .ok result ↔ check = .ok () ∧ next () = .ok result := by
  rw [bind_eq_ok]
  constructor
  · rintro ⟨⟨⟩, hcheck, hnext⟩
    exact ⟨hcheck, hnext⟩
  · rintro ⟨hcheck, hnext⟩
    exact ⟨(), hcheck, hnext⟩

@[simp]
theorem pure_eq_ok {a result : α} : (pure a : Except ε α) = .ok result ↔ a = result := by
  constructor
  · intro h
    exact Except.ok.inj h
  · intro h
    rw [h]
    rfl

@[simp]
theorem throw_eq_ok {e : ε} {result : α} : (throw e : Except ε α) = .ok result ↔ False := by
  constructor
  · intro h
    cases h
  · exact False.elim

@[simp]
theorem throw_bind {e : ε} {next : α → Except ε β} :
    ((throw e : Except ε α) >>= next) = throw e := rfl

theorem ite_throw_eq_ok {condition : Prop} [Decidable condition] {e : ε} {x : Except ε α}
    {result : α} :
    (if condition then throw e else x) = .ok result ↔ ¬ condition ∧ x = .ok result := by
  by_cases h : condition <;> simp [h]

theorem ite_pure_eq_ok {condition : Prop} [Decidable condition] {a result : α} {x : Except ε α} :
    (if condition then pure a else x) = .ok result ↔
      condition ∧ a = result ∨ ¬ condition ∧ x = .ok result := by
  by_cases h : condition <;> simp [h]

theorem ite_error_eq_ok {condition : Prop} [Decidable condition] {e : ε} {x : Except ε α}
    {result : α} :
    (if condition then .error e else x) = .ok result ↔ ¬ condition ∧ x = .ok result := by
  by_cases h : condition <;> simp [h]

theorem ite_answer_eq_ok {condition : Prop} [Decidable condition] {answer : α}
    {x : Except ε (Option α)} :
    (if condition then pure (some answer) else x) = .ok none ↔ ¬ condition ∧ x = .ok none := by
  by_cases h : condition <;> simp [h]

section Traversal

variable {f : α → Except ε β} {values : List α} {results : List β}

theorem forall₂_of_mapM_eq_ok (h : values.mapM f = .ok results) :
    List.Forall₂ (fun value result => f value = .ok result) values results := by
  induction values generalizing results with
  | nil =>
    rw [List.mapM_nil, pure_eq_ok] at h
    subst h
    exact .nil
  | cons value values ih =>
    simp only [List.mapM_cons, bind_eq_ok, pure_eq_ok] at h
    obtain ⟨result, hresult, rest, hrest, rfl⟩ := h
    exact .cons hresult (ih hrest)

theorem mapM_eq_ok_of_forall₂
    (h : List.Forall₂ (fun value result => f value = .ok result) values results) :
    values.mapM f = .ok results := by
  induction h with
  | nil => rfl
  | cons hhead _ ih => simp [List.mapM_cons, hhead, ih]

theorem exists_of_mem_mapM_eq_ok (h : values.mapM f = .ok results) {result : β}
    (hresult : result ∈ results) : ∃ value ∈ values, f value = .ok result :=
  exists_left_of_mem_forall₂ (forall₂_of_mapM_eq_ok h) hresult

theorem exists_mem_of_mapM_eq_ok (h : values.mapM f = .ok results) {value : α}
    (hvalue : value ∈ values) : ∃ result ∈ results, f value = .ok result :=
  exists_left_of_mem_forall₂ (forall₂_of_mapM_eq_ok h).flip hvalue

end Traversal

end RevAgent.Library
