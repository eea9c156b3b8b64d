/-!
# Steps that succeed

A computation of several steps succeeds exactly if all of its steps do.
-/

set_option autoImplicit false

namespace Checkout.Except

variable {ε ε' α β : Type} {first : Except ε α} {next : α → Except ε β} {result : β}

theorem of_bind (made : first >>= next = .ok result) :
    ∃ value, first = .ok value ∧ next value = .ok result := by
  cases first with
  | error error => cases made
  | ok value => exact ⟨value, rfl, made⟩

theorem bind_eq_ok_iff :
    first >>= next = .ok result ↔ ∃ value, first = .ok value ∧ next value = .ok result := by
  refine ⟨of_bind, ?_⟩
  rintro ⟨value, rfl, made⟩
  exact made

theorem of_map {change : α → β} (made : first.map change = .ok result) :
    ∃ value, first = .ok value ∧ change value = result := by
  cases first with
  | error error => cases made
  | ok value => exact ⟨value, rfl, Except.ok.inj made⟩

theorem of_mapError {change : ε → ε'} {value : α} (made : first.mapError change = .ok value) :
    first = .ok value := by
  cases first with
  | error error => cases made
  | ok other =>
      cases made
      rfl

theorem mapError_eq_ok_iff {change : ε → ε'} {value : α} :
    first.mapError change = .ok value ↔ first = .ok value := by
  refine ⟨of_mapError, ?_⟩
  rintro rfl
  rfl

end Checkout.Except
