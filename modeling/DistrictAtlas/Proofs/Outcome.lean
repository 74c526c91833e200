/-!
# Outcomes of steps

A computation made of steps succeeds exactly when each of its steps does. This is used to take a
successful computation apart at its first step.
-/

namespace DistrictAtlas.Outcome

variable {ε α β : Type}

/-- Two steps succeed when the first does and the second does with what the first gave. -/
theorem bind_eq_ok_iff {step : Except ε α} {next : α → Except ε β} {result : β} :
    (step >>= next) = .ok result ↔ ∃ value, step = .ok value ∧ next value = .ok result := by
  cases step with
  | error fault =>
    constructor
    · intro h
      cases h
    · rintro ⟨_, hvalue, _⟩
      cases hvalue
  | ok value =>
    constructor
    · intro h
      exact ⟨value, rfl, h⟩
    · rintro ⟨_, hvalue, h⟩
      cases hvalue
      exact h

/-- A step that only returns succeeds with what it returns. -/
theorem pure_eq_ok_iff {value result : α} : (pure value : Except ε α) = .ok result ↔ value = result :=
  ⟨fun h => Except.ok.inj h, fun h => congrArg Except.ok h⟩

/-- Changing what a step gives makes no difference to success. -/
theorem map_eq_ok_iff {step : Except ε α} {change : α → β} {result : β} :
    step.map change = .ok result ↔ ∃ value, step = .ok value ∧ change value = result := by
  cases step with
  | error fault =>
    constructor
    · intro h
      cases h
    · rintro ⟨_, hvalue, _⟩
      cases hvalue
  | ok value =>
    constructor
    · intro h
      exact ⟨value, rfl, Except.ok.inj h⟩
    · rintro ⟨_, hvalue, rfl⟩
      cases hvalue
      rfl

/-- Naming a fault differently makes no difference to success. -/
theorem mapError_eq_ok_iff {ε' : Type} {step : Except ε α} {rename : ε → ε'} {result : α} :
    step.mapError rename = .ok result ↔ step = .ok result := by
  cases step with
  | error fault =>
    constructor
    · intro h
      cases h
    · intro h
      cases h
  | ok value =>
    constructor
    · intro h
      cases h
      rfl
    · intro h
      cases h
      rfl

/-- Two steps fail when the first does, or the second does with what the first gave. -/
theorem bind_eq_error_iff {step : Except ε α} {next : α → Except ε β} {fault : ε} :
    (step >>= next) = .error fault ↔
      step = .error fault ∨ ∃ value, step = .ok value ∧ next value = .error fault := by
  cases step with
  | error found =>
    constructor
    · intro h
      exact Or.inl (congrArg Except.error (Except.error.inj h))
    · rintro (h | ⟨_, hvalue, _⟩)
      · exact congrArg Except.error (Except.error.inj h)
      · cases hvalue
  | ok value =>
    constructor
    · intro h
      exact Or.inr ⟨value, rfl, h⟩
    · rintro (h | ⟨_, hvalue, h⟩)
      · cases h
      · cases hvalue
        exact h

/-- A fault with another name comes from a fault. -/
theorem mapError_eq_error_iff {ε' : Type} {step : Except ε α} {rename : ε → ε'} {fault : ε'} :
    step.mapError rename = .error fault ↔ ∃ old, step = .error old ∧ rename old = fault := by
  cases step with
  | error found =>
    constructor
    · intro h
      exact ⟨found, rfl, Except.error.inj h⟩
    · rintro ⟨_, hfound, rfl⟩
      cases hfound
      rfl
  | ok value =>
    constructor
    · intro h
      cases h
    · rintro ⟨_, hfound, _⟩
      cases hfound

/-- Whether two steps have the same outcome can be decided. -/
instance decidableEq [DecidableEq ε] [DecidableEq α] : DecidableEq (Except ε α)
  | .ok a, .ok b => decidable_of_iff (a = b) ⟨congrArg Except.ok, Except.ok.inj⟩
  | .error a, .error b => decidable_of_iff (a = b) ⟨congrArg Except.error, Except.error.inj⟩
  | .ok _, .error _ => isFalse nofun
  | .error _, .ok _ => isFalse nofun

end DistrictAtlas.Outcome
