/-!
# Conditions that end a computation

- `ensure_eq_ok_iff`, `ensure_eq_error_iff`: a condition is passed exactly when it holds;
- `bind_eq_ok_iff`: two steps succeed exactly when the first does and the second does with its result;
- `map_eq_ok_iff`, `exists_map_eq_ok_iff`: a result is changed exactly if there is one;
- `map_eq_error_iff`: an error stays as it is.
-/

namespace I2cTopology

variable {ε α β : Type}

/-- Goes on if `condition` holds and ends with `error` otherwise. -/
def ensure (condition : Bool) (error : ε) : Except ε Unit := if condition then .ok () else .error error

/-- A condition is passed exactly when it holds. -/
@[simp] theorem ensure_eq_ok_iff {condition : Bool} {error : ε} {u : Unit} :
    ensure condition error = .ok u ↔ condition = true := by
  cases condition <;> simp [ensure]

@[simp] theorem ensure_eq_error_iff {condition : Bool} {error e : ε} :
    ensure condition error = .error e ↔ condition = false ∧ error = e := by
  cases condition <;> simp [ensure]

/-- Two steps succeed exactly when the first does and the second does with its result. -/
@[simp] theorem bind_eq_ok_iff {x : Except ε α} {f : α → Except ε β} {b : β} :
    (x >>= f) = .ok b ↔ ∃ a, x = .ok a ∧ f a = .ok b := by
  cases x <;> simp [bind, Except.bind]

@[simp] theorem map_eq_ok_iff {x : Except ε α} {f : α → β} {b : β} : x.map f = .ok b ↔ ∃ a, x = .ok a ∧ f a = b := by
  cases x <;> simp [Except.map]

theorem exists_map_eq_ok_iff {x : Except ε α} {f : α → β} : (∃ b, x.map f = .ok b) ↔ ∃ a, x = .ok a := by
  cases x <;> simp [Except.map]

@[simp] theorem map_eq_error_iff {x : Except ε α} {f : α → β} {e : ε} : x.map f = .error e ↔ x = .error e := by
  cases x <;> simp [Except.map]

end I2cTopology
