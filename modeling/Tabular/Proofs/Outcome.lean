import Tabular.Fault

namespace Tabular.Outcome

/-!
# Computations that may fail

When a chain of computations answers, every link of it has answered; when it fails, some link has.
-/

variable {α β : Type}

/-- A chain answers exactly when its first link and then the rest of it answer. -/
theorem bind_eq_ok_iff
    {first : Outcome α}
    {next : α → Outcome β}
    {answer : β} :
    (first >>= next) = .ok answer ↔
      ∃ value, first = .ok value ∧ next value = .ok answer := by
  cases first with
  | error fault =>
      simp [bind, Except.bind]
  | ok value =>
      simp [bind, Except.bind]

/-- A chain answers when its first link does, and the rest of it for every answer. -/
theorem exists_bind
    {first : Outcome α}
    {next : α → Outcome β}
    (firstAnswers : ∃ value, first = .ok value)
    (nextAnswers : ∀ value, ∃ answer, next value = .ok answer) :
    ∃ answer, (first >>= next) = .ok answer := by
  obtain ⟨value, rfl⟩ := firstAnswers
  exact nextAnswers value

theorem pure_eq_ok_iff
    {value answer : α} :
    (pure value : Outcome α) = .ok answer ↔ value = answer := by
  simp [pure, Except.pure]

/-- The fault of a computation that fails. -/
def fault? : Outcome α → Option Fault
  | .ok _ => none
  | .error fault => some fault

/-- The fault tells how the computation ends. -/
theorem fault?_eq_some_iff
    {outcome : Outcome α}
    {fault : Fault} :
    outcome.fault? = some fault ↔ outcome = .error fault := by
  cases outcome with
  | error cause =>
      simp [fault?]
  | ok value =>
      simp [fault?]

/-- A computation without a fault answers. -/
theorem fault?_eq_none_iff
    {outcome : Outcome α} :
    outcome.fault? = none ↔ ∃ value, outcome = .ok value := by
  cases outcome with
  | error cause =>
      simp [fault?]
  | ok value =>
      simp [fault?]

/-- A loop answers when each of its steps does, and keeps what each of them keeps. -/
theorem exists_foldlM
    {holds : β → Prop}
    {step : β → α → Outcome β}
    {elements : List α}
    (stepAnswers : ∀ element ∈ elements, ∀ state, holds state →
      ∃ next, step state element = .ok next ∧ holds next)
    {initial : β}
    (initially : holds initial) :
    ∃ final, elements.foldlM step initial = .ok final ∧ holds final := by
  induction elements generalizing initial with
  | nil =>
      exact ⟨initial, rfl, initially⟩
  | cons element rest inductionHypothesis =>
      obtain ⟨next, isNext, kept⟩ := stepAnswers element List.mem_cons_self initial initially
      rw [List.foldlM_cons, isNext]
      exact inductionHypothesis
        (fun later member => stepAnswers later (List.mem_cons_of_mem element member)) kept

/-- A list of computations answers when each of them does, with answers of the same sort. -/
theorem exists_mapM
    {holds : β → Prop}
    {step : α → Outcome β}
    {elements : List α}
    (stepAnswers : ∀ element ∈ elements, ∃ image, step element = .ok image ∧ holds image) :
    ∃ images, elements.mapM step = .ok images ∧ ∀ image ∈ images, holds image := by
  induction elements with
  | nil =>
      exact ⟨[], rfl, nofun⟩
  | cons element rest inductionHypothesis =>
      obtain ⟨image, isImage, isSort⟩ := stepAnswers element List.mem_cons_self
      obtain ⟨images, areImages, areSort⟩ := inductionHypothesis fun other member =>
        stepAnswers other (List.mem_cons_of_mem element member)
      rw [List.mapM_cons, isImage, areImages]
      exact ⟨image :: images, rfl, List.forall_mem_cons.mpr ⟨isSort, areSort⟩⟩

/-- A list of computations answers with the images when each of them answers with its image. -/
theorem mapM_eq_ok_map
    {step : α → Outcome β}
    {image : α → β}
    {elements : List α}
    (stepAnswers : ∀ element ∈ elements, step element = .ok (image element)) :
    elements.mapM step = .ok (elements.map image) := by
  induction elements with
  | nil =>
      rfl
  | cons element rest inductionHypothesis =>
      have restAnswers := inductionHypothesis fun other member =>
        stepAnswers other (List.mem_cons_of_mem element member)
      rw [List.mapM_cons, stepAnswers element List.mem_cons_self, restAnswers]
      rfl

/-- A list of computations that answers has an image of each element. -/
theorem exists_image_of_mapM
    {step : α → Outcome β}
    {elements : List α}
    {images : List β}
    (answered : elements.mapM step = .ok images)
    {element : α}
    (member : element ∈ elements) :
    ∃ image ∈ images, step element = .ok image := by
  induction elements generalizing images with
  | nil =>
      exact absurd member List.not_mem_nil
  | cons first rest inductionHypothesis =>
      rw [List.mapM_cons] at answered
      obtain ⟨image, isImage, answered⟩ := bind_eq_ok_iff.mp answered
      obtain ⟨others, areOthers, answered⟩ := bind_eq_ok_iff.mp answered
      cases answered
      rcases List.mem_cons.mp member with rfl | later
      · exact ⟨image, List.mem_cons_self, isImage⟩
      · obtain ⟨found, isFound, isImageToo⟩ := inductionHypothesis areOthers later
        exact ⟨found, List.mem_cons_of_mem image isFound, isImageToo⟩

/-- A list of computations that answers has nothing but images of its elements. -/
theorem exists_element_of_mapM
    {step : α → Outcome β}
    {elements : List α}
    {images : List β}
    (answered : elements.mapM step = .ok images)
    {image : β}
    (member : image ∈ images) :
    ∃ element ∈ elements, step element = .ok image := by
  induction elements generalizing images with
  | nil =>
      cases answered
      exact absurd member List.not_mem_nil
  | cons first rest inductionHypothesis =>
      rw [List.mapM_cons] at answered
      obtain ⟨own, isOwn, answered⟩ := bind_eq_ok_iff.mp answered
      obtain ⟨others, areOthers, answered⟩ := bind_eq_ok_iff.mp answered
      cases answered
      rcases List.mem_cons.mp member with rfl | later
      · exact ⟨first, List.mem_cons_self, isOwn⟩
      · obtain ⟨element, isElement, isImage⟩ := inductionHypothesis areOthers later
        exact ⟨element, List.mem_cons_of_mem first isElement, isImage⟩

/-- A loop answers when each of its steps does, whatever the state before the step. -/
theorem exists_foldlM_of_forall
    {step : β → α → Outcome β}
    {elements : List α}
    (stepAnswers : ∀ element ∈ elements, ∀ state, ∃ next, step state element = .ok next)
    (initial : β) :
    ∃ final, elements.foldlM step initial = .ok final := by
  obtain ⟨final, isFinal, -⟩ :=
    exists_foldlM (fun element member state (_ : True) =>
      (stepAnswers element member state).imp fun _ isNext => ⟨isNext, trivial⟩) trivial
  exact ⟨final, isFinal⟩

/-- A list of computations answers when each of them does. -/
theorem exists_mapM_of_forall
    {step : α → Outcome β}
    {elements : List α}
    (stepAnswers : ∀ element ∈ elements, ∃ image, step element = .ok image) :
    ∃ images, elements.mapM step = .ok images := by
  have answers (element : α) (member : element ∈ elements) :
      ∃ image, step element = .ok image ∧ True :=
    (stepAnswers element member).imp fun _ isImage => ⟨isImage, trivial⟩
  exact (exists_mapM answers).imp fun _ => And.left

/-! ## Causes of failure -/

/-- When the computation fails, it fails for a cause of the given sort. -/
def FailsOnly (outcome : Outcome α) (sort : Fault → Prop) : Prop :=
  ∀ fault, outcome = .error fault → sort fault

namespace FailsOnly

variable {sort : Fault → Prop}

theorem ok
    (value : α) :
    FailsOnly (.ok value : Outcome α) sort :=
  fun _ failed => nomatch failed

theorem error
    {fault : Fault}
    (isSort : sort fault) :
    FailsOnly (.error fault : Outcome α) sort := by
  rintro _ ⟨⟩
  exact isSort

theorem mono
    {wider : Fault → Prop}
    {outcome : Outcome α}
    (failsOnly : outcome.FailsOnly sort)
    (isWider : ∀ fault, sort fault → wider fault) :
    outcome.FailsOnly wider :=
  fun fault failed => isWider fault (failsOnly fault failed)

theorem bind
    {first : Outcome α}
    {next : α → Outcome β}
    (firstFails : first.FailsOnly sort)
    (nextFails : ∀ value, (next value).FailsOnly sort) :
    (first >>= next).FailsOnly sort := by
  cases first with
  | error fault =>
      exact error (firstFails fault rfl)
  | ok value =>
      exact nextFails value

theorem map
    (image : α → β)
    {outcome : Outcome α}
    (failsOnly : outcome.FailsOnly sort) :
    FailsOnly (outcome.map image) sort := by
  cases outcome with
  | error fault =>
      exact error (failsOnly fault rfl)
  | ok value =>
      exact ok (image value)

theorem foldlM
    {step : β → α → Outcome β}
    (stepFails : ∀ state element, (step state element).FailsOnly sort)
    (initial : β)
    (elements : List α) :
    (elements.foldlM step initial).FailsOnly sort := by
  induction elements generalizing initial with
  | nil =>
      exact ok initial
  | cons element rest inductionHypothesis =>
      rw [List.foldlM_cons]
      exact (stepFails initial element).bind inductionHypothesis

end FailsOnly

/-! ## Overflow -/

/-- The computation overflows if there is the cause, and answers otherwise. -/
structure OverflowsIff (outcome : Outcome α) (cause : Prop) : Prop where
  overflows : cause → outcome = .error .overflow
  answers : ¬cause → ∃ value, outcome = .ok value

namespace OverflowsIff

variable {cause nextCause : Prop} {outcome : Outcome α}

theorem of_ok
    (answered : ∃ value, outcome = .ok value) :
    outcome.OverflowsIff False :=
  ⟨False.elim, fun _ => answered⟩

theorem congr
    (overflows : outcome.OverflowsIff cause)
    (same : cause ↔ nextCause) :
    outcome.OverflowsIff nextCause :=
  ⟨fun present => overflows.overflows (same.mpr present),
    fun absent => overflows.answers fun present => absent (same.mp present)⟩

theorem of_cases
    {value : α}
    (cases : cause ∧ outcome = .error .overflow ∨ ¬cause ∧ outcome = .ok value) :
    outcome.OverflowsIff cause := by
  rcases cases with ⟨present, failed⟩ | ⟨absent, answered⟩
  · exact ⟨fun _ => failed, fun absent => absurd present absent⟩
  · exact ⟨fun present => absurd present absent, fun _ => ⟨value, answered⟩⟩

/-- A chain overflows where its first link does, or else where the rest of it does. -/
theorem bind
    {next : α → Outcome β}
    (first : outcome.OverflowsIff cause)
    (rest : ∀ value, outcome = .ok value → (next value).OverflowsIff nextCause) :
    (outcome >>= next).OverflowsIff (cause ∨ nextCause) := by
  by_cases present : cause
  · refine ⟨fun _ => ?_, fun absent => absurd (.inl present) absent⟩
    rw [first.overflows present]
    rfl
  · obtain ⟨value, answered⟩ := first.answers present
    rw [answered]
    exact (rest value answered).congr (by simp [present])

theorem map
    (image : α → β)
    (overflows : outcome.OverflowsIff cause) :
    OverflowsIff (outcome.map image) cause := by
  refine ⟨fun present => ?_, fun absent => ?_⟩
  · rw [overflows.overflows present]
    rfl
  · obtain ⟨value, answered⟩ := overflows.answers absent
    exact ⟨image value, by rw [answered]; rfl⟩

/-- A loop overflows where one of its steps does, whatever the state before the step. -/
theorem foldlM
    {step : β → α → Outcome β}
    {causeOf : α → Prop}
    {elements : List α}
    (stepOverflows : ∀ element ∈ elements, ∀ state,
      (step state element).OverflowsIff (causeOf element))
    (initial : β) :
    (elements.foldlM step initial).OverflowsIff (∃ element ∈ elements, causeOf element) := by
  induction elements generalizing initial with
  | nil =>
      exact (of_ok ⟨initial, rfl⟩).congr (by simp)
  | cons element rest inductionHypothesis =>
      rw [List.foldlM_cons]
      have restOverflows := inductionHypothesis fun other member =>
        stepOverflows other (List.mem_cons_of_mem element member)
      exact ((stepOverflows element List.mem_cons_self initial).bind fun state _ =>
        restOverflows state).congr (by simp)

theorem mapM
    {step : α → Outcome β}
    {causeOf : α → Prop}
    {elements : List α}
    (stepOverflows : ∀ element ∈ elements, (step element).OverflowsIff (causeOf element)) :
    (elements.mapM step).OverflowsIff (∃ element ∈ elements, causeOf element) := by
  induction elements with
  | nil =>
      exact (of_ok ⟨[], rfl⟩).congr (by simp)
  | cons element rest inductionHypothesis =>
      rw [List.mapM_cons]
      have restOverflows := inductionHypothesis fun other member =>
        stepOverflows other (List.mem_cons_of_mem element member)
      have later (image : β) :
          (rest.mapM step >>= fun images => pure (image :: images)).OverflowsIff
            (∃ other ∈ rest, causeOf other) :=
        (restOverflows.bind fun images _ => of_ok ⟨image :: images, rfl⟩).congr (by simp)
      exact ((stepOverflows element List.mem_cons_self).bind fun image _ => later image).congr
        (by simp)

end OverflowsIff

end Tabular.Outcome
