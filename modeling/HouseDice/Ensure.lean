/-!
# Conditions that a call must meet

Two ways to go on only under a condition, and what it means that one went on.
-/

namespace HouseDice

variable {ε ε' α β : Type}

/-- Goes on if the condition holds and fails with `e` otherwise. -/
def ensure (condition : Prop) [Decidable condition] (e : ε) : Except ε Unit :=
  if condition then .ok () else .error e

/-- Goes on with the value if there is one and fails with `e` otherwise. -/
def demand (value : Option α) (e : ε) : Except ε α :=
  match value with
  | some a => .ok a
  | none => .error e

theorem ensure_eq_ok_iff {condition : Prop} [Decidable condition] {e : ε}
    {u : Unit} :
    ensure condition e = .ok u ↔ condition := by
  unfold ensure
  split
  next h => simp [h]
  next h => simp [h]

theorem ensure_eq_error_iff {condition : Prop} [Decidable condition]
    {e e' : ε} :
    ensure condition e = .error e' ↔ ¬ condition ∧ e = e' := by
  unfold ensure
  split
  next h => simp [h]
  next h => simp [h]

theorem demand_eq_ok_iff {value : Option α} {e : ε} {a : α} :
    demand value e = .ok a ↔ value = some a := by
  cases value <;> simp [demand]

theorem demand_eq_error_iff {value : Option α} {e e' : ε} :
    demand value e = .error e' ↔ value = none ∧ e = e' := by
  cases value <;> simp [demand]

theorem ok_bind {a : α} {f : α → Except ε β} : (Except.ok a >>= f) = f a := by
  simp [bind, Except.bind]

theorem error_bind {e : ε} {f : α → Except ε β} :
    (Except.error e >>= f) = .error e := by
  simp [bind, Except.bind]

/-- Two steps go well if the first does, and then the second from where the
first came. -/
theorem bind_eq_ok_iff {x : Except ε α} {f : α → Except ε β} {b : β} :
    x >>= f = .ok b ↔ ∃ a, x = .ok a ∧ f a = .ok b := by
  cases x <;> simp [bind, Except.bind]

/-- Two steps fail where the first does, or else where the second does. -/
theorem bind_eq_error_iff {x : Except ε α} {f : α → Except ε β} {e : ε} :
    x >>= f = .error e ↔ x = .error e ∨ ∃ a, x = .ok a ∧ f a = .error e := by
  cases x <;> simp [bind, Except.bind]

/-- Something went well if a value is left once causes are forgotten. -/
theorem toOption_eq_some_iff {x : Except ε α} {a : α} :
    x.toOption = some a ↔ x = .ok a := by
  cases x <;> simp [Except.toOption]

/-- Another name for a cause does not change what went well. -/
theorem mapError_eq_ok_iff {x : Except ε α} {f : ε → ε'} {a : α} :
    x.mapError f = .ok a ↔ x = .ok a := by
  cases x with
  | error e =>
    show (Except.error (f e) : Except ε' α) = .ok a ↔ _
    simp
  | ok b =>
    show (Except.ok b : Except ε' α) = .ok a ↔ _
    simp

/-! ## Putting conditions together -/

section

variable {e : ε} {P Q : Prop} [Decidable P] [Decidable Q]

theorem ensure_of (h : P) : ensure P e = .ok () := if_pos h

theorem ensure_of_not (h : ¬ P) : ensure P e = .error e := if_neg h

/-- Two conditions with one cause are one condition. -/
theorem ensure_ensure (x : Except ε α) : (do ensure P e; ensure Q e; x) = (do
    ensure (P ∧ Q) e
    x) := by
  by_cases hP : P
  · rw [ensure_of hP, ok_bind]
    by_cases hQ : Q
    · rw [ensure_of hQ, ensure_of ⟨hP, hQ⟩]
    · have hboth : ¬ (P ∧ Q) := fun h => hQ h.2
      rw [ensure_of_not hQ, ensure_of_not hboth, error_bind]
  · have hboth : ¬ (P ∧ Q) := fun h => hP h.1
    rw [ensure_of_not hP, ensure_of_not hboth, error_bind, error_bind]

theorem demand_ite (value : Option α) :
    demand (if P then value else none) e = (do ensure P e; demand value e) := by
  by_cases hP : P
  · rw [if_pos hP, ensure_of hP, ok_bind]
  · rw [if_neg hP, ensure_of_not hP, error_bind]
    rfl

theorem demand_some (a : α) : demand (some a) e = .ok a := rfl

theorem demand_bind (value : Option α) (f : α → Option β) :
    demand (value >>= f) e = (do let a ← demand value e; demand (f a) e) := by
  cases value <;> rfl

variable (g : ε → ε')

theorem mapError_ensure : (ensure P e).mapError g = ensure P (g e) := by
  by_cases hP : P
  · rw [ensure_of hP, ensure_of hP]
    rfl
  · rw [ensure_of_not hP, ensure_of_not hP]
    rfl

theorem mapError_demand (value : Option α) :
    (demand value e).mapError g = demand value (g e) := by
  cases value <;> rfl

theorem mapError_bind (x : Except ε α) (f : α → Except ε β) :
    (x >>= f).mapError g = x.mapError g >>= fun a => (f a).mapError g := by
  cases x <;> rfl

end

end HouseDice
