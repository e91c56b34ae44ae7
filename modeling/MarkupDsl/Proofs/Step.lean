/-!
# Steps that may fail

What a success of a step tells about the steps that it is made of.
-/

namespace MarkupDsl

variable {α β ε κ : Type}

theorem mapError_eq_ok_iff {f : ε → κ} {step : Except ε α} {a : α} :
    step.mapError f = .ok a ↔ step = .ok a := by
  cases step with
  | error cause =>
      constructor
      · intro impossible
        cases impossible
      · intro impossible
        cases impossible
  | ok b =>
      constructor
      · intro same
        cases same
        rfl
      · intro same
        cases same
        rfl

theorem bind_eq_ok_iff {first : Except ε α} {next : α → Except ε β} {b : β} :
    (first >>= next) = .ok b ↔ ∃ a, first = .ok a ∧ next a = .ok b := by
  cases first with
  | error cause =>
      constructor
      · intro accepted
        cases accepted
      · rintro ⟨a, impossible, _⟩
        cases impossible
  | ok a =>
      constructor
      · intro accepted
        exact ⟨a, rfl, accepted⟩
      · rintro ⟨_, same, accepted⟩
        cases same
        exact accepted

end MarkupDsl
