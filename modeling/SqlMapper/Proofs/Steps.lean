/-!
# Steps that may fail

Lowering, coercion and the building of tables are sequences of steps that may each fail. A sequence
succeeds when all of its steps do, and fails as the first of them that does. With these equivalences
later files take an outcome apart, and never open the monad of outcomes itself.

Two sequences that go step by step alike, up to a map on what the steps give, also end alike.
-/

namespace SqlMapper

variable {ε ζ α β γ δ : Type} {first : Except ε α} {next : α → Except ε β} {finish : α → β}
  {error : ε}

/-- A sequence of two steps succeeds when the first succeeds and the second does on its value. -/
theorem bind_eq_ok {result : β} :
    (first >>= next) = .ok result ↔ ∃ value, first = .ok value ∧ next value = .ok result := by
  cases first <;> simp [bind, Except.bind]

/-- A sequence of two steps fails when the first does, or when the second does on its value. -/
theorem bind_eq_error :
    (first >>= next) = .error error ↔
      first = .error error ∨ ∃ value, first = .ok value ∧ next value = .error error := by
  cases first <;> simp [bind, Except.bind]

theorem pure_eq_ok {value result : α} :
    (pure value : Except ε α) = .ok result ↔ value = result := by
  simp [pure, Except.pure]

theorem map_eq_ok {result : β} :
    first.map finish = .ok result ↔ ∃ value, first = .ok value ∧ finish value = result := by
  cases first <;> simp [Except.map]

theorem map_eq_error :
    (first >>= fun value => pure (finish value)) = .error error ↔ first = .error error := by
  cases first <;> simp [bind, Except.bind, pure, Except.pure]

theorem mapError_eq_ok {change : ε → ζ} {result : α} :
    first.mapError change = .ok result ↔ first = .ok result := by
  cases first with
  | error fault => exact iff_of_false nofun nofun
  | ok value =>
      constructor
      · rintro ⟨⟩
        rfl
      · rintro ⟨⟩
        rfl

theorem exists_bind_eq_ok {succeeds : Prop}
    (second : ∀ value, (∃ result, next value = .ok result) ↔ succeeds) :
    (∃ result, (first >>= next) = .ok result) ↔ (∃ value, first = .ok value) ∧ succeeds := by
  cases first with
  | error error => simp [bind, Except.bind]
  | ok value => simpa [bind, Except.bind] using second value

theorem exists_map_eq_ok :
    (∃ result, (first >>= fun value => pure (finish value)) = .ok result) ↔
      ∃ value, first = .ok value := by
  cases first <;> simp [bind, Except.bind, pure, Except.pure]

/-- A check in front of a step lets it through when its condition fails. -/
theorem guard_eq_ok {refused : Prop} [Decidable refused] {step : Except ε α} {result : α} :
    (if refused then throw error >>= fun (_ : PUnit) => step else step) = .ok result ↔
      ¬refused ∧ step = .ok result := by
  by_cases holds : refused
  · simp [holds, bind, Except.bind, throw, throwThe, MonadExceptOf.throw]
  · simp [holds]

section Maps

variable {onValue : α → β} {image : Except ε β} {onResult : γ → δ}

/-- A sequence is the image of another if its first step is, and its second is on every image of a
value. -/
theorem bind_eq_map {next : α → Except ε γ} {nextImage : β → Except ε δ}
    (firstImage : image = first.map onValue)
    (secondImage : ∀ value, nextImage (onValue value) = (next value).map onResult) :
    (image >>= nextImage) = (first >>= next).map onResult := by
  cases first with
  | error error =>
      rw [firstImage]
      rfl
  | ok value =>
      rw [firstImage]
      exact secondImage value

theorem finish_eq_map {finish : α → γ} {finishImage : β → δ}
    (firstImage : image = first.map onValue)
    (result : ∀ value, finishImage (onValue value) = onResult (finish value)) :
    (image >>= fun value => pure (finishImage value)) =
      (first >>= fun value => pure (finish value)).map onResult := by
  apply bind_eq_map firstImage
  intro value
  exact congrArg Except.ok (result value)

/-- A check in front of a step is kept as it is. -/
theorem guard_eq_map {refused : Prop} [Decidable refused] {step : Except ε γ}
    {stepImage : Except ε δ} (same : stepImage = step.map onResult) :
    (if refused then throw error >>= fun (_ : PUnit) => stepImage else stepImage) =
      (if refused then throw error >>= fun (_ : PUnit) => step else step).map onResult := by
  split
  · rfl
  · exact same

end Maps

end SqlMapper
