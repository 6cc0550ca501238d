/-!
Computations that may fail, taken apart at their binds.
-/

namespace Resumable

variable {ε α β : Type}

theorem ok_bind (value : α) (next : α → Except ε β) : (Except.ok value >>= next) = next value :=
  rfl

theorem of_bind {first : Except ε α} {next : α → Except ε β} {value : β}
    (bound : first >>= next = .ok value) :
    ∃ middle, first = .ok middle ∧ next middle = .ok value := by
  cases first with
  | error error => cases bound
  | ok middle => exact ⟨middle, rfl, bound⟩

end Resumable
