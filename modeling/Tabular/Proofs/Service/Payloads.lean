import Tabular.Proofs.Filter.Document
import Tabular.Service.Payload

namespace Tabular

/-!
# What payloads bring into a workspace

Documents have no dates and no moments. So no condition that a request brings into a filter tree
compares with one, and the text of a filter tree tells the tree.
-/

namespace Checked

variable {α β : Type} {property : α → Prop}

/-- The value has a property, unless there are issues. -/
def Has (property : α → Prop) : Checked α → Prop
  | .ok value => property value
  | .error _ => True

theorem Has.trivially
    (checked : Checked α) :
    checked.Has fun _ => True := by
  cases checked <;> trivial

theorem Has.under
    {checked : Checked α}
    (has : checked.Has property)
    (step : PathStep) :
    (checked.under step).Has property := by
  cases checked with
  | ok value =>
      exact has
  | error issues =>
      trivial

theorem Has.map
    {checked : Checked α}
    (has : checked.Has property)
    {image : α → β}
    {imageProperty : β → Prop}
    (images : ∀ value, property value → imageProperty (image value)) :
    Has imageProperty (checked.map image) := by
  cases checked with
  | ok value =>
      exact images value has
  | error issues =>
      trivial

theorem Has.left
    {left : Checked α}
    (has : left.Has property)
    (right : Checked β) :
    (left.both right).Has fun pair => property pair.1 := by
  cases left with
  | error issues =>
      cases right <;> trivial
  | ok value =>
      cases right with
      | error issues =>
          trivial
      | ok other =>
          exact has

theorem Has.right
    {right : Checked α}
    (has : right.Has property)
    (left : Checked β) :
    (left.both right).Has fun pair => property pair.2 := by
  cases right with
  | error issues =>
      cases left <;> trivial
  | ok value =>
      cases left with
      | error issues =>
          trivial
      | ok other =>
          exact has

end Checked

namespace Schema

variable {α : Type} {property : α → Prop}

/-- Whatever a reader reads has a property. -/
def Yields (reader : Reader α) (property : α → Prop) : Prop :=
  ∀ document, (reader document).Has property

theorem yields_cell :
    Yields cell fun value => value.isPlain := by
  intro document
  cases document <;> rfl

theorem Yields.members
    {reader : Reader α}
    (yields : Yields reader property) :
    Yields (Schema.members reader) property := by
  intro document
  rw [Schema.members.eq_def]
  split
  · exact yields _
  · trivial

theorem Yields.memberOr
    {reader : Reader α}
    (yields : Yields reader property)
    {default : α}
    (hasDefault : property default)
    (key : String) :
    Yields (Schema.memberOr key default reader) property := by
  intro document
  unfold Schema.memberOr
  split
  · exact (yields _).under _
  · exact hasDefault

theorem Yields.memberIfGiven
    {reader : Reader α}
    (yields : Yields reader property)
    (key : String) :
    Yields (Schema.memberIfGiven key reader) fun given => ∀ value ∈ given, property value := by
  intro document
  unfold Schema.memberIfGiven
  split
  · refine ((yields _).under _).map fun value has other isGiven => ?_
    rwa [← Option.some.inj isGiven]
  · exact nofun

end Schema

namespace Service

open Schema

/-! ## Payloads -/

theorem yields_condition :
    Yields ConditionPayload.reader fun payload => payload.value.isPlain := by
  refine Yields.members fun document => ?_
  have valueIsPlain : (memberOr "value" (.text "") cell document).Has fun value => value.isPlain :=
    yields_cell.memberOr rfl "value" document
  exact (((valueIsPlain.right _).right _).right _).map fun _ isPlain => isPlain

theorem yields_changes :
    Yields changesReader FilterNode.Changes.ArePlain := by
  refine Yields.members fun document => ?_
  have valueIsPlain := yields_cell.memberIfGiven "value" document
  refine (((valueIsPlain.left _).right _).right _).map ?_
  rintro ⟨field, operator, value, logic⟩ isPlain
  refine ⟨?_, fun leaf member => absurd member List.not_mem_nil⟩
  cases value with
  | none =>
      rfl
  | some value =>
      exact isPlain value rfl

/-- What the body of a request yields has the property of what the reader yields. -/
theorem has_payload
    {α : Type}
    {reader : Reader α}
    {property : α → Prop}
    (yields : Yields reader property)
    (request : Request) :
    (request.payload reader).Has property := by
  refine Checked.Has.under ?_ _
  cases request.document with
  | error issues =>
      trivial
  | ok body =>
      cases body with
      | null =>
          trivial
      | bool _ | int _ | float _ | text _ | array _ | object _ =>
          exact yields _

end Service

/-! ## Filter trees -/

namespace FilterNode

variable {readCell : Json → Cell}

/-- A group is plain when its members are. -/
theorem isPlain_group
    {id : String}
    {logic : Logic}
    {children : List FilterNode}
    (arePlain : ∀ child ∈ children, child.IsPlain) :
    (group id logic children).IsPlain := by
  induction children with
  | nil =>
      exact fun _ member => absurd member List.not_mem_nil
  | cons child rest inductionHypothesis =>
      obtain ⟨childIsPlain, restArePlain⟩ := List.forall_mem_cons.mp arePlain
      intro leaf member
      rcases List.mem_append.mp member with inChild | inRest
      · exact childIsPlain leaf inChild
      · exact inductionHypothesis restArePlain leaf inRest

mutual

/-- A draft that is read with plain cells tells a plain tree. -/
theorem isPlain_ofDraft
    (readsPlain : ∀ document, (readCell document).isPlain) :
    ∀ draft : FilterDraft, (ofDraft readCell draft).IsPlain
  | .condition _ _ _ value => fun leaf isLeaf => by
      rw [List.mem_singleton.mp isLeaf]
      exact readsPlain value
  | .group _ _ children => isPlain_group (isPlain_of_mem_ofDrafts readsPlain children)

theorem isPlain_of_mem_ofDrafts
    (readsPlain : ∀ document, (readCell document).isPlain) :
    ∀ drafts : List FilterDraft, ∀ node ∈ ofDrafts readCell drafts, node.IsPlain
  | [] => fun _ member => absurd member List.not_mem_nil
  | draft :: rest =>
      List.forall_mem_cons.mpr
        ⟨isPlain_ofDraft readsPlain draft, isPlain_of_mem_ofDrafts readsPlain rest⟩

end

/-- A filter tree that is read from a document is plain. -/
theorem gives_ofJson
    (document : Json) :
    (ofJson document).Gives IsPlain := by
  refine (Naming.Gives.trivially (FilterDraft.ofJson Json.asCell document)).map fun draft _ => ?_
  exact isPlain_ofDraft Schema.yields_cell draft

end FilterNode

end Tabular
