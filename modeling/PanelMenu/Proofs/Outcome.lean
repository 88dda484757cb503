/-! Facts about computations that may fail. -/

namespace Except
variable {ε α β : Type}

theorem of_bind_ok {first : Except ε α} {next : α → Except ε β} {result : β}
    (ok : (first >>= next) = .ok result) : ∃ value, first = .ok value ∧ next value = .ok result := by
  cases first with
  | error cause => cases ok
  | ok value => exact ⟨value, rfl, ok⟩

theorem of_map_ok {value : Except ε α} {f : α → β} {result : β} (ok : value.map f = .ok result) :
    ∃ origin, value = .ok origin ∧ f origin = result := by
  cases value with
  | error cause => cases ok
  | ok origin => exact ⟨origin, rfl, Except.ok.inj ok⟩

theorem map_map {γ : Type} (value : Except ε α) (f : α → β) (g : β → γ) : (value.map f).map g = value.map (g ∘ f) := by
  cases value <;> rfl

theorem isOk_map (value : Except ε α) (f : α → β) : (value.map f).isOk = value.isOk := by
  cases value <;> rfl

end Except
