import Mathlib.Data.List.Forall2
import Mathlib.Data.List.TakeDrop
import Mathlib.Data.List.TakeWhile

namespace GrpcDiscovery

/-!
# Lists that are read

Two ways in which readers go through a list: element by element, each of which must be
read for the whole to be, and run by run, where a run goes on as long as its elements
have a property.
-/

/-! ## Elements -/

/-- Reading each element of a list gives what the elements stand for, in order. -/
theorem mapM_eq_some_iff
    {α β : Type}
    {read : α → Option β}
    {Stands : α → β → Prop}
    (reads : ∀ element value, read element = some value ↔ Stands element value)
    {elements : List α}
    {values : List β} :
    elements.mapM read = some values ↔ List.Forall₂ Stands elements values := by
  induction elements generalizing values with
  | nil =>
      rw [List.forall₂_nil_left_iff, eq_comm]
      exact Option.some_inj
  | cons element rest inductionHypothesis =>
      rw [List.mapM_cons]
      simp only [Option.bind_eq_bind, Option.bind_eq_some_iff, List.forall₂_cons_left_iff]
      constructor
      · rintro ⟨value, first, others, tail, joined⟩
        exact ⟨value, others, (reads element value).mp first, inductionHypothesis.mp tail,
          (Option.some.inj joined).symm⟩
      · rintro ⟨value, others, first, tail, rfl⟩
        exact ⟨value, (reads element value).mpr first, others, inductionHypothesis.mpr tail, rfl⟩

/-- Reading a list fails as soon as reading one of its elements does. -/
theorem mapM_eq_none_iff
    {α β : Type}
    {read : α → Option β}
    (elements : List α) :
    elements.mapM read = none ↔ ∃ element ∈ elements, read element = none := by
  induction elements with
  | nil =>
      simp
  | cons element rest inductionHypothesis =>
      rw [List.mapM_cons]
      cases first : read element with
      | none =>
          simp [first]
      | some value =>
          cases others : rest.mapM read with
          | none =>
              simpa [first, others] using inductionHypothesis
          | some values =>
              simpa [first, others] using inductionHypothesis

/-- Readers that agree on the elements of a list read it alike. -/
theorem mapM_congr
    {α β : Type}
    {read other : α → Option β}
    {elements : List α}
    (same : ∀ element ∈ elements, read element = other element) :
    elements.mapM read = elements.mapM other := by
  induction elements with
  | nil =>
      rfl
  | cons element rest inductionHypothesis =>
      rw [List.forall_mem_cons] at same
      rw [List.mapM_cons, List.mapM_cons, same.1, inductionHypothesis same.2]

/-! ## Runs -/

section Runs

variable
  {α : Type}
  {runsOn : α → Bool}
  {tail : List α}

theorem takeWhile_append
    (ended : ∀ element ∈ tail.head?, runsOn element = false)
    (front : List α) :
    (front ++ tail).takeWhile runsOn = front.takeWhile runsOn := by
  induction front with
  | nil =>
      cases tail <;> simp_all
  | cons element front inductionHypothesis =>
      cases elementRunsOn : runsOn element <;> simp [elementRunsOn, inductionHypothesis]

theorem dropWhile_append
    (ended : ∀ element ∈ tail.head?, runsOn element = false)
    (front : List α) :
    (front ++ tail).dropWhile runsOn = front.dropWhile runsOn ++ tail := by
  induction front with
  | nil =>
      cases tail <;> simp_all
  | cons element front inductionHypothesis =>
      cases elementRunsOn : runsOn element <;> simp [elementRunsOn, inductionHypothesis]

theorem dropWhile_eq_self
    (ended : ∀ element ∈ tail.head?, runsOn element = false) :
    tail.dropWhile runsOn = tail := by
  simpa using dropWhile_append ended []

/-- A run that a tail ends is a run of what stands before the tail. -/
theorem span_append
    (ended : ∀ element ∈ tail.head?, runsOn element = false)
    (front : List α) :
    (front ++ tail).span runsOn = (front.takeWhile runsOn, front.dropWhile runsOn ++ tail) := by
  rw [List.span_eq_takeWhile_dropWhile, takeWhile_append ended, dropWhile_append ended]

theorem span_of_runsOn
    (ended : ∀ element ∈ tail.head?, runsOn element = false)
    {front : List α}
    (runs : ∀ element ∈ front, runsOn element) :
    (front ++ tail).span runsOn = (front, tail) := by
  rw [span_append ended, List.takeWhile_eq_self_iff.mpr runs, List.dropWhile_eq_nil_iff.mpr runs]
  rfl

theorem span_eq_self
    {elements : List α}
    (runs : ∀ element ∈ elements, runsOn element) :
    elements.span runsOn = (elements, []) := by
  rw [List.span_eq_takeWhile_dropWhile, List.takeWhile_eq_self_iff.mpr runs,
    List.dropWhile_eq_nil_iff.mpr runs]

end Runs

end GrpcDiscovery
