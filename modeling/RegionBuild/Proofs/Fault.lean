import RegionBuild.Fault

/-!
# Steps that can fail

Operations are sequences of steps, any of which may give up with a fault. What succeeds is
taken apart here: every step succeeded, and giving a fault its cause did not turn it into
anything else.
-/

namespace RegionBuild

/-- A sequence of two steps succeeds if both do. -/
theorem bind_eq_ok {ε α β : Type} {first : Except ε α} {second : α → Except ε β} {result : β} :
    (first >>= second) = .ok result ↔ ∃ value, first = .ok value ∧ second value = .ok result := by
  cases first with
  | ok value =>
    constructor
    · intro done
      exact ⟨value, rfl, done⟩
    · rintro ⟨_, same, done⟩
      cases same
      exact done
  | error fault =>
    constructor
    · intro done
      cases done
    · rintro ⟨_, failed, _⟩
      cases failed

/-- A step whose value is changed succeeds if it did before. -/
theorem map_eq_ok {ε α β : Type} {change : α → β} {step : Except ε α} {result : β} :
    change <$> step = .ok result ↔ ∃ value, step = .ok value ∧ change value = result := by
  cases step <;> simp [Functor.map, Except.map]

/-- A naming success is a success. -/
theorem FileStore.naming_eq_ok {α : Type} {path : Text} {result : Except FileProblem α}
    {value : α} : FileStore.naming path result = .ok value ↔ result = .ok value := by
  cases result <;> simp [naming]

/-- A text that was decoded was decoded without a fault. -/
theorem ofDecoding_eq_ok {α : Type} {result : Except Utf8.Fault α} {value : α} :
    ofDecoding result = .ok value ↔ result = .ok value := by
  cases result <;> simp [ofDecoding]

/-- A value that was read was read without a fault. -/
theorem ofJson_eq_ok {α : Type} {result : Except Json.Fault α} {value : α} :
    ofJson result = .ok value ↔ result = .ok value := by
  cases result <;> simp [ofJson]

/-- A value that has its shape has it without a fault. -/
theorem ofShape_eq_ok {α : Type} {result : Except ShapeFault α} {value : α} :
    ofShape result = .ok value ↔ result = .ok value := by
  cases result <;> simp [ofShape]

end RegionBuild
