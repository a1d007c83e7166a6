import Mathlib.Data.List.Forall2

/-! Computations that can fail: what they fail with, and what they give otherwise, one after another
and over lists. -/

namespace TagTemplate

variable {α β ε : Type}

/-- What a computation fails with, if it fails. -/
def failure? : Except ε α → Option ε
  | .ok _ => none
  | .error error => some error

/-- A computation gives a result exactly if it does not fail. -/
theorem failure?_eq_none_iff {result : Except ε α} :
    failure? result = none ↔ ∃ value, result = .ok value := by
  cases result <;> simp [failure?]

/-- What a computation fails with is its error. -/
theorem failure?_eq_some_iff {result : Except ε α} {error : ε} :
    failure? result = some error ↔ result = .error error := by
  cases result <;> simp [failure?]

/-- What is made of a result does not change how a computation fails. -/
@[simp] theorem failure?_map (f : α → β) (result : Except ε α) :
    failure? (result.map f) = failure? result := by
  cases result <;> rfl

/-- A failure that is told in another way fails in the same place. -/
@[simp] theorem failure?_mapError {δ : Type} (f : ε → δ) (result : Except ε α) :
    failure? (result.mapError f) = (failure? result).map f := by
  cases result <;> rfl

/-- Of two computations in a row the first one that fails decides. -/
theorem failure?_bind {first : Except ε α} {next : α → Except ε β} {later : Option ε}
    (fails : ∀ value, failure? (next value) = later) :
    failure? (first >>= next) = (failure? first).or later := by
  -- After a first failure the second computation is never asked.
  cases first with
  | error error => rfl
  | ok value => exact fails value

/-- Two computations in a row do not fail with what neither of them fails with. -/
theorem bind_ne_error {first : Except ε α} {next : α → Except ε β} {error : ε}
    (early : first ≠ .error error) (late : ∀ value, next value ≠ .error error) :
    first >>= next ≠ .error error := by
  -- The error would have to come from one of the two, whichever is reached.
  cases first with
  | error other => exact fun same => early (by cases same; rfl)
  | ok value => exact late value

/-- Where two computations in a row give a result, so does the first one, and the second one after
it. -/
theorem exists_of_bind_eq_ok {first : Except ε α} {next : α → Except ε β} {result : β}
    (done : first >>= next = .ok result) :
    ∃ value, first = .ok value ∧ next value = .ok result := by
  -- A failure of the first computation would be that of both.
  cases first with
  | error error => cases done
  | ok value => exact ⟨value, rfl, done⟩

/-- Of a list of computations the first one that fails decides. -/
theorem failure?_mapM (f : α → Except ε β) (list : List α) :
    failure? (list.mapM f) = list.findSome? fun x => failure? (f x) := by
  -- The list is computed from the front, so a failure of the first element goes before all others.
  induction list with
  | nil => rfl
  | cons x list ih =>
    -- What is done with the results of the rest cannot fail.
    have others (y : β) : failure? (list.mapM f >>= fun ys => pure (y :: ys)) =
        (failure? (list.mapM f)).or none := failure?_bind fun _ => rfl
    rw [List.mapM_cons, failure?_bind others, Option.or_none, ih, List.findSome?_cons]
    cases failure? (f x) <;> rfl

/-- A list of computations gives a result exactly if each of them gives its part. -/
theorem mapM_eq_ok_iff {f : α → Except ε β} {list : List α} {results : List β} :
    list.mapM f = .ok results ↔ List.Forall₂ (fun x y => f x = .ok y) list results := by
  -- The results are those of the elements in order, so they vary with the list.
  induction list generalizing results with
  | nil => cases results <;> simp [pure, Except.pure]
  | cons x list ih =>
    rw [List.mapM_cons]
    cases first : f x with
    -- A failure leaves no results, so neither side holds.
    | error error => cases results <;> simp [bind, Except.bind, first]
    | ok y =>
      cases others : list.mapM f with
      | error error => cases results <;> simp [bind, Except.bind, first, ← ih, others]
      | ok ys =>
        cases results <;> simp [bind, Except.bind, pure, Except.pure, first, ← ih, others]

end TagTemplate
