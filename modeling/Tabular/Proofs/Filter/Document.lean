import Tabular.Filter.Document
import Tabular.Proofs.Filter.Editing
import Tabular.Proofs.Filter.Text
import Tabular.Proofs.Outcome

namespace Tabular

/-!
# Reading filter trees from documents

A document made of nodes can be read exactly when each of its nodes is a condition or a group with a
known logic; what a condition has below it is never looked at. Whatever a document has for the other
parts of a node is kept, and reading fills in what a node leaves out. So a draft that has been read
has nothing left to fill in, and every such draft is read again from the document that it is written
as.
-/

/-! ## Documents made of nodes -/

namespace Json

/-- The nodes below a group with the members. -/
def nodeChildren (members : List (String × Json)) : List Json :=
  ((lastMember? "children" members).map elements).getD []

/-- A node of a document: the document itself, or one below a group of it. -/
inductive HasNode : Json → Json → Prop
  | root
      {document : Json} :
      HasNode document document
  | inside
      {members : List (String × Json)}
      {child node : Json}
      (isGroup : nodeType members = .text "group")
      (isChild : child ∈ nodeChildren members)
      (hasNode : HasNode child node) :
      HasNode (.object members) node

/-- What stands below a group with the members is a list, if it is told at all and not void. -/
def HasChildList (members : List (String × Json)) : Prop :=
  ∀ found, lastMember? "children" members = some found →
    found.isVoid ∨ ∃ nodes, found = .array nodes

/-- All nodes of the document are objects, and the groups among them list their members. -/
def IsMadeOfNodes (document : Json) : Prop :=
  ∀ node, document.HasNode node →
    ∃ members, node = .object members ∧
      (nodeType members = .text "group" → HasChildList members)

/-- The members are those of a condition, or of a group with one of the two logics. -/
def IsKnown (members : List (String × Json)) : Prop :=
  nodeType members = .text "condition" ∨
    nodeType members = .text "group" ∧
      (nodeLogic members = .text "AND" ∨ nodeLogic members = .text "OR")

/-- All nodes of the document are known. -/
def HasKnownNodes (document : Json) : Prop :=
  ∀ members, document.HasNode (.object members) → IsKnown members

variable {members : List (String × Json)}

theorem hasNode_object_iff
    {node : Json} :
    HasNode (.object members) node ↔
      node = .object members ∨
        nodeType members = .text "group" ∧ ∃ child ∈ nodeChildren members, child.HasNode node := by
  constructor
  · rintro (_ | ⟨isGroup, isChild, hasNode⟩)
    · exact .inl rfl
    · exact .inr ⟨isGroup, _, isChild, hasNode⟩
  · rintro (rfl | ⟨isGroup, child, isChild, hasNode⟩)
    · exact .root
    · exact .inside isGroup isChild hasNode

theorem hasKnownNodes_iff :
    (object members).HasKnownNodes ↔
      IsKnown members ∧
        (nodeType members = .text "group" →
          ∀ child ∈ nodeChildren members, child.HasKnownNodes) := by
  constructor
  · exact fun known =>
      ⟨known members .root, fun isGroup child isChild below hasNode =>
        known below (.inside isGroup isChild hasNode)⟩
  · rintro ⟨rootIsKnown, childrenAreKnown⟩ below hasNode
    rcases hasNode_object_iff.mp hasNode with same | ⟨isGroup, child, isChild, hasNode⟩
    · cases same
      exact rootIsKnown
    · exact childrenAreKnown isGroup child isChild below hasNode

theorem isMadeOfNodes_iff :
    (object members).IsMadeOfNodes ↔
      (nodeType members = .text "group" →
        HasChildList members ∧ ∀ child ∈ nodeChildren members, child.IsMadeOfNodes) := by
  constructor
  · intro isMade isGroup
    obtain ⟨_, ⟨⟩, hasList⟩ := isMade _ .root
    exact ⟨hasList isGroup, fun child isChild node hasNode =>
      isMade node (.inside isGroup isChild hasNode)⟩
  · intro areMade node hasNode
    rcases hasNode_object_iff.mp hasNode with rfl | ⟨isGroup, child, isChild, hasNode⟩
    · exact ⟨members, rfl, fun isGroup => (areMade isGroup).1⟩
    · exact (areMade isGroup).2 child isChild node hasNode

/-! ## How deep nodes nest -/

theorem depth_le_depthOfElements
    {element : Json}
    {elements : List Json}
    (member : element ∈ elements) :
    element.depth ≤ depthOfElements elements := by
  induction elements with
  | nil =>
      exact absurd member List.not_mem_nil
  | cons first rest inductionHypothesis =>
      rw [depthOfElements]
      rcases List.mem_cons.mp member with rfl | inRest
      · exact Nat.le_max_left ..
      · exact Nat.le_trans (inductionHypothesis inRest) (Nat.le_max_right ..)

theorem depth_le_depthOfMembers
    {key : String}
    {value : Json}
    (member : (key, value) ∈ members) :
    value.depth ≤ depthOfMembers members := by
  induction members with
  | nil =>
      exact absurd member List.not_mem_nil
  | cons first rest inductionHypothesis =>
      rw [depthOfMembers]
      rcases List.mem_cons.mp member with rfl | inRest
      · exact Nat.le_max_left ..
      · exact Nat.le_trans (inductionHypothesis inRest) (Nat.le_max_right ..)

theorem mem_of_lastMember?
    {key : String}
    {value : Json}
    (found : lastMember? key members = some value) :
    ∃ written, (written, value) ∈ members := by
  obtain ⟨⟨written, _⟩, isFound, rfl⟩ := Option.map_eq_some_iff.mp found
  exact ⟨written, List.mem_reverse.mp (List.mem_of_find?_eq_some isFound)⟩

/-- A node below a group nests less deep than the group. -/
theorem depth_lt_of_mem_nodeChildren
    {child : Json}
    (isChild : child ∈ nodeChildren members) :
    child.depth < (object members).depth := by
  cases found : lastMember? "children" members with
  | none =>
      simp [nodeChildren, found] at isChild
  | some value =>
      have inElements : child ∈ value.elements := by simpa [nodeChildren, found] using isChild
      obtain ⟨written, member⟩ := mem_of_lastMember? found
      have valueFits : value.depth < (object members).depth := by
        rw [depth.eq_2]
        exact Nat.lt_succ_of_le (depth_le_depthOfMembers member)
      cases value with
      | array nodes =>
          have childFits : child.depth ≤ (array nodes).depth := by
            rw [depth.eq_1]
            exact Nat.le_succ_of_le (depth_le_depthOfElements inElements)
          exact Nat.lt_of_le_of_lt childFits valueFits
      | _ =>
          exact absurd inElements List.not_mem_nil

end Json

/-! ## Reading that refuses some documents -/

namespace Naming

variable {α β : Type}

theorem run_bind_of_ok
    {naming : Naming α}
    {next : α → Naming β}
    {number middle : Nat}
    {value : α}
    (isRead : naming.run number = .ok (value, middle)) :
    (naming >>= next).run number = (next value).run middle := by
  rw [StateT.run_bind, isRead]
  rfl

/-- Whatever is named has a property. -/
def Gives (naming : Naming α) (property : α → Prop) : Prop :=
  ∀ number value next, naming.run number = .ok (value, next) → property value

namespace Gives

theorem pure
    {value : α}
    {property : α → Prop}
    (has : property value) :
    Gives (Pure.pure value) property := by
  rintro number _ _ ⟨⟩
  exact has

theorem throw
    {property : α → Prop}
    (fault : Fault) :
    Gives (MonadExcept.throw fault) property :=
  fun _ _ _ named => absurd named nofun

theorem bind
    {naming : Naming α}
    {property : α → Prop}
    (gives : naming.Gives property)
    {next : α → Naming β}
    {nextProperty : β → Prop}
    (nextGives : ∀ value, property value → (next value).Gives nextProperty) :
    (naming >>= next).Gives nextProperty := by
  intro number value last named
  obtain ⟨⟨first, middle⟩, isFirst, named⟩ := Outcome.bind_eq_ok_iff.mp named
  exact nextGives first (gives number first middle isFirst) middle value last named

theorem map
    {naming : Naming α}
    {property : α → Prop}
    (gives : naming.Gives property)
    {image : α → β}
    {imageProperty : β → Prop}
    (images : ∀ value, property value → imageProperty (image value)) :
    (image <$> naming).Gives imageProperty := by
  rw [← bind_pure_comp]
  exact gives.bind fun value has => pure (images value has)

theorem trivially
    (naming : Naming α) :
    naming.Gives fun _ => True :=
  fun _ _ _ _ => trivial

theorem mapM
    {step : α → Naming β}
    {property : β → Prop}
    (gives : ∀ element, (step element).Gives property)
    (elements : List α) :
    (elements.mapM step).Gives fun values => ∀ value ∈ values, property value := by
  induction elements with
  | nil =>
      exact pure fun _ member => absurd member List.not_mem_nil
  | cons element rest inductionHypothesis =>
      rw [List.mapM_cons]
      refine (gives element).bind fun first hasFirst => ?_
      refine inductionHypothesis.bind fun values haveProperty => ?_
      exact pure (List.forall_mem_cons.mpr ⟨hasFirst, haveProperty⟩)

end Gives

/-- The reading gives a value if the document is acceptable, and blames the filter otherwise. -/
structure Accepts (naming : Naming α) (acceptable : Prop) : Prop where
  gives : acceptable → ∀ number, ∃ read, naming.run number = .ok read
  refuses : ¬acceptable → ∀ number, ∃ cause, naming.run number = .error (.filter cause)

namespace Accepts

variable {acceptable acceptableToo : Prop}

theorem pure
    (value : α) :
    Accepts (Pure.pure value) True where
  gives _ number := ⟨(value, number), rfl⟩
  refuses isRefused := absurd trivial isRefused

theorem throw
    (cause : FilterFault) :
    Accepts (MonadExcept.throw (.filter cause) : Naming α) False where
  gives := False.elim
  refuses _ _ := ⟨cause, rfl⟩

theorem ofOutcome
    {outcome : Outcome α}
    (gives : acceptable → ∃ value, outcome = .ok value)
    (refuses : ¬acceptable → ∃ cause, outcome = .error (.filter cause)) :
    Accepts (liftM outcome) acceptable where
  gives isAcceptable number := by
    obtain ⟨value, rfl⟩ := gives isAcceptable
    exact ⟨(value, number), rfl⟩
  refuses isRefused number := by
    obtain ⟨cause, rfl⟩ := refuses isRefused
    exact ⟨cause, rfl⟩

theorem congr
    {naming : Naming α}
    (accepts : naming.Accepts acceptable)
    (same : acceptable ↔ acceptableToo) :
    naming.Accepts acceptableToo :=
  propext same ▸ accepts

theorem bind
    {naming : Naming α}
    (accepts : naming.Accepts acceptable)
    {next : α → Naming β}
    (nextAccepts : ∀ value, (next value).Accepts acceptableToo) :
    (naming >>= next).Accepts (acceptable ∧ acceptableToo) where
  gives := by
    rintro ⟨isAcceptable, isAcceptableToo⟩ number
    obtain ⟨⟨value, middle⟩, isRead⟩ := accepts.gives isAcceptable number
    rw [run_bind_of_ok isRead]
    exact (nextAccepts value).gives isAcceptableToo middle
  refuses := by
    intro isRefused number
    by_cases isAcceptable : acceptable
    · obtain ⟨⟨value, middle⟩, isRead⟩ := accepts.gives isAcceptable number
      rw [run_bind_of_ok isRead]
      exact (nextAccepts value).refuses
        (fun isAcceptableToo => isRefused ⟨isAcceptable, isAcceptableToo⟩) middle
    · obtain ⟨cause, failed⟩ := accepts.refuses isAcceptable number
      refine ⟨cause, ?_⟩
      rw [StateT.run_bind, failed]
      rfl

theorem mapM
    {step : α → Naming β}
    {accepts : α → Prop}
    {elements : List α}
    (eachAccepts : ∀ element ∈ elements, (step element).Accepts (accepts element)) :
    (elements.mapM step).Accepts (∀ element ∈ elements, accepts element) := by
  induction elements with
  | nil =>
      exact (pure []).congr (by simp)
  | cons element rest inductionHypothesis =>
      obtain ⟨firstAccepts, restAccept⟩ := List.forall_mem_cons.mp eachAccepts
      rw [List.mapM_cons]
      refine (firstAccepts.bind fun value =>
        (inductionHypothesis restAccept).bind fun values => pure (value :: values)).congr ?_
      rw [List.forall_mem_cons, and_true]

end Accepts

end Naming

/-! ## The drafts that are read -/

namespace FilterDraft

/--
All nodes of the draft have identifiers, and its conditions have columns, which may be empty texts,
operators, and values.
-/
inductive IsFilled : FilterDraft → Prop where
  | condition
      {id field operator value : Json}
      (hasId : ¬id.isVoid)
      (hasField : field.isVoid → field = .text "")
      (hasOperator : ¬operator.isVoid)
      (hasValue : value ≠ .null) :
      IsFilled (.condition id field operator value)
  | group
      {id : Json}
      {logic : Logic}
      {children : List FilterDraft}
      (hasId : ¬id.isVoid)
      (areFilled : ∀ child ∈ children, IsFilled child) :
      IsFilled (.group id logic children)

section Parts

variable {readCell : Json → Cell} {members : List (String × Json)} {key : String}

theorem filledMember?_of_lastMember?
    {found : Json}
    (isMember : Json.lastMember? key members = some found)
    (isFilled : ¬found.isVoid) :
    Json.filledMember? key members = some found := by
  rw [Json.filledMember?, isMember]
  exact Option.filter_eq_some_iff.mpr ⟨rfl, by simpa using isFilled⟩

theorem not_isVoid_of_filledMember?
    {found : Json}
    (isMember : Json.filledMember? key members = some found) :
    ¬found.isVoid := by
  simpa using (Option.filter_eq_some_iff.mp isMember).2

theorem drawnId_ne_empty
    (number : Nat) :
    drawnId number ≠ "" := by
  simp [drawnId]

theorem readId_accepts
    (members : List (String × Json)) :
    (readId members).Accepts True := by
  rw [readId]
  split
  · exact .pure _
  · exact
      { gives := fun _ number => ⟨(.text (drawnId number), number + 1), rfl⟩
        refuses := fun isRefused => absurd trivial isRefused }

theorem gives_readId
    (members : List (String × Json)) :
    (readId members).Gives fun id => ¬id.isVoid := by
  rw [readId]
  split
  · next isMember =>
      exact .pure (not_isVoid_of_filledMember? isMember)
  · rintro number _ _ ⟨⟩
    simp [Json.isVoid, drawnId_ne_empty]

/-- An identifier that is told is read without drawing one. -/
theorem run_readId
    {id : Json}
    (isMember : Json.lastMember? "id" members = some id)
    (isFilled : ¬id.isVoid)
    (number : Nat) :
    (readId members).run number = .ok (id, number) := by
  rw [readId, filledMember?_of_lastMember? isMember isFilled]
  rfl

/-- A condition that is read has nothing left to fill in. -/
theorem isFilled_readCondition
    {id : Json}
    (hasId : ¬id.isVoid)
    (members : List (String × Json)) :
    (readCondition id members).IsFilled := by
  have hasField :
      ((Json.filledMember? "field" members).getD (.text "")).isVoid →
        (Json.filledMember? "field" members).getD (.text "") = .text "" := by
    cases isMember : Json.filledMember? "field" members with
    | none =>
        exact fun _ => rfl
    | some found =>
        exact fun isVoid => absurd isVoid (not_isVoid_of_filledMember? isMember)
  have hasOperator : ¬((Json.filledMember? "operator" members).getD (.text "is")).isVoid := by
    cases isMember : Json.filledMember? "operator" members with
    | none =>
        simp [Json.isVoid]
    | some found =>
        exact not_isVoid_of_filledMember? isMember
  have hasValue : Json.nodeValue members ≠ .null := by
    rw [Json.nodeValue]
    split
    · nofun
    · nofun
    · next notNull _ =>
        exact fun isNull => notNull isNull
  exact .condition hasId hasField hasOperator hasValue

/-- A condition is read again from members with nothing left to fill in. -/
theorem readCondition_eq
    {id field operator value : Json}
    (fieldIsMember : Json.lastMember? "field" members = some field)
    (operatorIsMember : Json.lastMember? "operator" members = some operator)
    (valueIsMember : Json.lastMember? "value" members = some value)
    (hasField : field.isVoid → field = .text "")
    (hasOperator : ¬operator.isVoid)
    (hasValue : value ≠ .null) :
    readCondition id members = .condition id field operator value := by
  have isField : (Json.filledMember? "field" members).getD (.text "") = field := by
    by_cases isVoid : field.isVoid
    · rw [Json.filledMember?, fieldIsMember, hasField isVoid]
      rfl
    · rw [filledMember?_of_lastMember? fieldIsMember isVoid]
      rfl
  have isValue : Json.nodeValue members = value := by
    rw [Json.nodeValue, valueIsMember]
    split
    · next isNone => cases isNone
    · next isNull => exact absurd (Option.some.inj isNull) hasValue
    · next isSome => exact (Option.some.inj isSome).symm
  rw [readCondition, isField, filledMember?_of_lastMember? operatorIsMember hasOperator, isValue]
  rfl

theorem childDocuments_eq
    (hasList : Json.HasChildList members) :
    Json.childDocuments members = .ok (Json.nodeChildren members) := by
  rw [Json.childDocuments, Json.nodeChildren, Json.filledMember?]
  cases isMember : Json.lastMember? "children" members with
  | none =>
      rfl
  | some found =>
      rcases hasList found isMember with isVoid | ⟨nodes, rfl⟩
      · have noElements : found.elements = [] := by
          cases found with
          | array nodes =>
              exact List.isEmpty_iff.mp isVoid
          | _ =>
              rfl
        rw [Option.map_some, noElements, Option.filter_some, isVoid]
        rfl
      · cases nodes <;> rfl

theorem ofJson_logic_eq_ok_iff
    {document : Json}
    {logic : Logic} :
    Logic.ofJson readCell document = .ok logic ↔ document = .text logic.name := by
  cases document with
  | text name =>
      rw [Logic.ofJson, Logic.ofCell_eq_ok_iff, Cell.text.injEq, Json.text.injEq]
  | null | bool _ | int _ | float _ | array _ | object _ =>
      simp [Logic.ofJson]

theorem logic_accepts
    (readCell : Json → Cell)
    (members : List (String × Json)) :
    (liftM (Logic.ofJson readCell (Json.nodeLogic members)) : Naming Logic).Accepts
      (Json.nodeLogic members = .text "AND" ∨ Json.nodeLogic members = .text "OR") := by
  refine .ofOutcome ?_ fun isRefused => ?_
  · rintro (isAll | isAny)
    · exact ⟨.all, ofJson_logic_eq_ok_iff.mpr isAll⟩
    · exact ⟨.any, ofJson_logic_eq_ok_iff.mpr isAny⟩
  · cases answer : Logic.ofJson readCell (Json.nodeLogic members) with
    | ok logic =>
        have isNamed := ofJson_logic_eq_ok_iff.mp answer
        cases logic with
        | all => exact absurd (.inl isNamed) isRefused
        | any => exact absurd (.inr isNamed) isRefused
    | error fault =>
        rw [Logic.ofJson.eq_def] at answer
        split at answer
        · rw [Logic.ofCell] at answer
          split at answer <;> cases answer
          exact ⟨_, rfl⟩
        · cases answer
          exact ⟨_, rfl⟩

end Parts

/-! ## Reading drafts -/

section Reading

variable {readCell : Json → Cell} {fuel number : Nat}

/-- A document that is made of nodes is read exactly when all of its nodes are known. -/
theorem readWithin_accepts
    {document : Json}
    (deepEnough : document.depth < fuel)
    (isMade : document.IsMadeOfNodes) :
    (readWithin readCell fuel document).Accepts document.HasKnownNodes := by
  induction fuel generalizing document with
  | zero =>
      exact absurd deepEnough (Nat.not_lt_zero _)
  | succ fuel inductionHypothesis =>
      obtain ⟨members, rfl, -⟩ := isMade document .root
      have areMade := Json.isMadeOfNodes_iff.mp isMade
      rw [readWithin, Json.hasKnownNodes_iff, Json.IsKnown]
      refine ((readId_accepts members).bind fun id => ?_).congr (and_iff_right trivial)
      split
      · next isGroup =>
          obtain ⟨hasList, childrenAreMade⟩ := areMade isGroup
          rw [childDocuments_eq hasList]
          have childrenAccept (child : Json) (isChild : child ∈ Json.nodeChildren members) :=
            inductionHypothesis
              (Nat.lt_of_lt_of_le (Json.depth_lt_of_mem_nodeChildren isChild)
                (Nat.le_of_lt_succ deepEnough))
              (childrenAreMade child isChild)
          refine ((logic_accepts readCell members).bind fun logic =>
            (Naming.Accepts.mapM childrenAccept).bind fun children => .pure _).congr ?_
          simp [isGroup]
      · next isCondition =>
          exact (Naming.Accepts.pure _).congr (by simp [isCondition])
      · next notGroup notCondition =>
          refine (Naming.Accepts.throw _).congr (iff_of_false not_false ?_)
          rintro ⟨isCondition | ⟨isGroup, -⟩, -⟩
          · exact notCondition isCondition
          · exact notGroup isGroup

/-- What has been read has nothing left to fill in, whatever it has been read from. -/
theorem gives_readWithin
    (document : Json) :
    (readWithin readCell fuel document).Gives IsFilled := by
  induction fuel generalizing document with
  | zero =>
      exact .throw _
  | succ fuel inductionHypothesis =>
      unfold readWithin
      split
      · refine (gives_readId _).bind fun id hasId => ?_
        split
        · refine (Naming.Gives.trivially _).bind fun logic _ => ?_
          refine (Naming.Gives.trivially _).bind fun documents _ => ?_
          refine (Naming.Gives.mapM inductionHypothesis documents).bind fun children areFilled => ?_
          exact .pure (.group hasId areFilled)
        · exact .pure (isFilled_readCondition hasId _)
        · exact .throw _
      · exact .throw _

theorem allToJson_eq_map
    (drafts : List FilterDraft) :
    allToJson drafts = drafts.map toJson := by
  induction drafts with
  | nil =>
      rfl
  | cons draft rest inductionHypothesis =>
      rw [allToJson, inductionHypothesis, List.map_cons]

/-- Drafts are read from what they are written as when each of them is. -/
theorem run_mapM_of_forall
    {read : Json → Naming FilterDraft}
    {drafts : List FilterDraft}
    (areRead : ∀ draft ∈ drafts, (read draft.toJson).run number = .ok (draft, number)) :
    ((drafts.map toJson).mapM read).run number = .ok (drafts, number) := by
  induction drafts with
  | nil =>
      rfl
  | cons draft rest inductionHypothesis =>
      obtain ⟨firstIsRead, restAreRead⟩ := List.forall_mem_cons.mp areRead
      rw [List.map_cons, List.mapM_cons, Naming.run_bind_of_ok firstIsRead,
        Naming.run_bind_of_ok (inductionHypothesis restAreRead)]
      rfl

theorem run_readWithin_group
    {members : List (String × Json)}
    {id : Json}
    {logic : Logic}
    {children : List FilterDraft}
    (idIsMember : Json.lastMember? "id" members = some id)
    (hasId : ¬id.isVoid)
    (isGroup : Json.nodeType members = .text "group")
    (hasLogic : Json.nodeLogic members = .text logic.name)
    (hasList : Json.HasChildList members)
    (areRead : ((Json.nodeChildren members).mapM (readWithin readCell fuel)).run number =
      .ok (children, number)) :
    (readWithin readCell (fuel + 1) (.object members)).run number =
      .ok (.group id logic children, number) := by
  rw [readWithin]
  refine (Naming.run_bind_of_ok (run_readId idIsMember hasId number)).trans ?_
  simp only [isGroup, hasLogic, ofJson_logic_eq_ok_iff.mpr rfl, childDocuments_eq hasList]
  refine (Naming.run_bind_of_ok rfl).trans ?_
  refine (Naming.run_bind_of_ok rfl).trans ?_
  exact Naming.run_bind_of_ok areRead

/-- A draft with nothing left to fill in is read again from what it is written as. -/
theorem run_readWithin_toJson
    {draft : FilterDraft}
    (deepEnough : draft.toJson.depth < fuel)
    (isFilled : draft.IsFilled) :
    (readWithin readCell fuel draft.toJson).run number = .ok (draft, number) := by
  induction fuel generalizing draft with
  | zero =>
      exact absurd deepEnough (Nat.not_lt_zero _)
  | succ fuel inductionHypothesis =>
      cases isFilled with
      | condition hasId hasField hasOperator hasValue =>
          rw [toJson, readWithin]
          refine (Naming.run_bind_of_ok (run_readId rfl hasId number)).trans ?_
          exact congrArg (fun read => Except.ok (read, number))
            (readCondition_eq rfl rfl rfl hasField hasOperator hasValue)
      | @group id logic children hasId areFilled =>
          rw [toJson, allToJson_eq_map] at deepEnough ⊢
          refine run_readWithin_group rfl hasId rfl rfl
            (fun _ isMember => .inr ⟨_, (Option.some.inj isMember).symm⟩)
            (run_mapM_of_forall fun child isChild => ?_)
          refine inductionHypothesis ?_ (areFilled child isChild)
          refine Nat.lt_of_lt_of_le ?_ (Nat.le_of_lt_succ deepEnough)
          exact Json.depth_lt_of_mem_nodeChildren (List.mem_map_of_mem isChild)

end Reading

end FilterDraft

/-! ## Trees and their drafts -/

namespace FilterNode

variable {readCell : Json → Cell} {writeCell : Cell → Json}

/-- The values of all conditions are read again from what they are written as. -/
def IsCarried (readCell : Json → Cell) (writeCell : Cell → Json) (tree : FilterNode) : Prop :=
  ∀ leaf ∈ tree.conditions, readCell (writeCell leaf.value) = leaf.value

theorem asText_text
    (text : String) :
    (Json.text text).asText = text :=
  rfl

/-- A name that has nothing left to fill in is there. -/
theorem asText_ofOption
    {name : Option String}
    (isFilled : (Json.ofOption .text name).isVoid → Json.ofOption .text name = .text "") :
    some (Json.ofOption .text name).asText = name := by
  cases name with
  | none =>
      cases isFilled rfl
  | some name =>
      rfl

mutual

/-- A tree is told by its draft. -/
theorem ofDraft_draftWith :
    ∀ tree : FilterNode, (tree.draftWith writeCell).IsFilled → tree.IsCarried readCell writeCell →
      ofDraft readCell (tree.draftWith writeCell) = tree
  | .condition leaf, isFilled, isCarried => by
      cases isFilled with
      | condition hasId hasField hasOperator hasValue =>
          have isValue : readCell (writeCell leaf.value) = leaf.value :=
            isCarried leaf (List.mem_singleton_self leaf)
          rw [draftWith, ofDraft, asText_text, asText_ofOption hasField,
            asText_ofOption fun isVoid => absurd isVoid hasOperator, isValue]
  | .group id logic children, isFilled, isCarried => by
      cases isFilled with
      | group hasId areFilled =>
          rw [draftWith, ofDraft, asText_text, ofDrafts_draftsWith children areFilled isCarried]

theorem ofDrafts_draftsWith :
    ∀ nodes : List FilterNode, (∀ draft ∈ draftsWith writeCell nodes, draft.IsFilled) →
      (∀ leaf ∈ conditionsAmong nodes, readCell (writeCell leaf.value) = leaf.value) →
        ofDrafts readCell (draftsWith writeCell nodes) = nodes
  | [], _, _ => rfl
  | node :: rest, areFilled, areCarried => by
      obtain ⟨isFilled, restAreFilled⟩ := List.forall_mem_cons.mp areFilled
      rw [draftsWith, ofDrafts,
        ofDraft_draftWith node isFilled fun leaf isLeaf =>
          areCarried leaf (List.mem_append_left _ isLeaf),
        ofDrafts_draftsWith rest restAreFilled fun leaf isLeaf =>
          areCarried leaf (List.mem_append_right _ isLeaf)]

end

end FilterNode

open FilterDraft FilterNode in
/--
A document made of nodes is read exactly when its nodes are conditions and groups with a known
logic, and otherwise fault is found with the filter. A draft that has been read from any document is
read again from what it is written as, and so is every draft whose nodes have identifiers and whose
conditions have columns, operators and values. No identifiers are drawn then. The same holds of the
trees that such drafts tell, as long as their values are carried.
-/
theorem filters_are_read_from_documents
    (readCell : Json → Cell) :
    (∀ document : Json, document.IsMadeOfNodes → ∀ number,
      ((∃ read, (FilterDraft.ofJson readCell document).run number = .ok read) ↔
          document.HasKnownNodes) ∧
        ∀ fault, (FilterDraft.ofJson readCell document).run number = .error fault →
          ∃ cause, fault = .filter cause) ∧
      (∀ document number draft next,
        (FilterDraft.ofJson readCell document).run number = .ok (draft, next) →
          ∀ later, (FilterDraft.ofJson readCell draft.toJson).run later = .ok (draft, later)) ∧
      (∀ draft : FilterDraft, draft.IsFilled →
        ∀ later, (FilterDraft.ofJson readCell draft.toJson).run later = .ok (draft, later)) ∧
      ∀ (writeCell : Cell → Json) (tree : FilterNode), (tree.draftWith writeCell).IsFilled →
        tree.IsCarried readCell writeCell →
          ∀ later, (ofJsonWith readCell (toJsonWith writeCell tree)).run later =
            .ok (tree, later) := by
  have again (draft : FilterDraft) (isFilled : draft.IsFilled) (later : Nat) :
      (FilterDraft.ofJson readCell draft.toJson).run later = .ok (draft, later) :=
    run_readWithin_toJson (Nat.lt_succ_self _) isFilled
  refine ⟨fun document isMade number => ?_, fun document number draft next isRead => ?_, again,
    fun writeCell tree isFilled isCarried later => ?_⟩
  · have accepts : (FilterDraft.ofJson readCell document).Accepts document.HasKnownNodes :=
      readWithin_accepts (Nat.lt_succ_self _) isMade
    by_cases known : document.HasKnownNodes
    · obtain ⟨read, isRead⟩ := accepts.gives known number
      refine ⟨iff_of_true ⟨read, isRead⟩ known, fun fault failed => ?_⟩
      exact absurd (isRead.symm.trans failed) nofun
    · obtain ⟨cause, failed⟩ := accepts.refuses known number
      refine ⟨iff_of_false ?_ known, fun fault failedSo => ?_⟩
      · rintro ⟨_, isRead⟩
        exact absurd (isRead.symm.trans failed) nofun
      · exact ⟨cause, Except.error.inj (failedSo.symm.trans failed)⟩
  · exact again draft (gives_readWithin document number draft next isRead)
  · rw [ofJsonWith, toJsonWith, StateT.run_map, again _ isFilled]
    exact congrArg (fun read => Except.ok (read, later)) (ofDraft_draftWith tree isFilled isCarried)

namespace FilterDraft.Sample

/--
A group that leaves out all but its members: a condition on two columns with a list for its value
and a number for its identifier, and another group.
-/
def shortDocument : Json :=
  .object
    [("children",
      .array
        [.object
            [("id", .int 5), ("type", .text "condition"),
              ("field", .array [.text "city", .text "town"]), ("value", .array [.null])],
          .object [("logic", .text "OR"), ("children", .null)]])]

/-- A node of a type that there is not. -/
def strangeDocument : Json :=
  .object [("type", .text "branch")]

/-- A condition without a column whose value is empty. -/
def openCondition : FilterDraft :=
  .condition (.text "open") (.text "") (.text "is") (.text "")

/--
The first document is read, the second is refused, and drafts and trees are read from their own
documents.
-/
theorem documents_are_read_or_refused :
    shortDocument.IsMadeOfNodes ∧ shortDocument.HasKnownNodes ∧
      (∃ draft next, (ofJson Json.asCell shortDocument).run 1 = .ok (draft, next) ∧
        (ofJson Json.asCell draft.toJson).run next = .ok (draft, next)) ∧
      strangeDocument.IsMadeOfNodes ∧ ¬strangeDocument.HasKnownNodes ∧
      (∃ cause, (ofJson Json.asCell strangeDocument).run 1 = .error (.filter cause)) ∧
      openCondition.IsFilled ∧
      (ofJson Json.asCell openCondition.toJson).run 1 = .ok (openCondition, 1) ∧
      (FilterNode.Sample.orders.draftWith Cell.toJson).IsFilled ∧
      FilterNode.Sample.orders.IsCarried Json.asCell Cell.toJson ∧
      (FilterNode.ofJson FilterNode.Sample.orders.toJson).run 1 =
        .ok (FilterNode.Sample.orders, 1) := by
  obtain ⟨readIff, readAgain, draftsAreRead, treesAreRead⟩ :=
    filters_are_read_from_documents Json.asCell
  have shortIsMade : shortDocument.IsMadeOfNodes := by
    simp [shortDocument, Json.isMadeOfNodes_iff, Json.nodeType, Json.nodeChildren, Json.elements,
      Json.lastMember?, Json.HasChildList, Json.isVoid]
  have shortIsKnown : shortDocument.HasKnownNodes := by
    simp [shortDocument, Json.hasKnownNodes_iff, Json.nodeType, Json.nodeLogic, Json.nodeChildren,
      Json.elements, Json.lastMember?, Json.IsKnown]
  have strangeIsMade : strangeDocument.IsMadeOfNodes := by
    simp [strangeDocument, Json.isMadeOfNodes_iff, Json.nodeType, Json.lastMember?]
  have strangeIsUnknown : ¬strangeDocument.HasKnownNodes := by
    simp [strangeDocument, Json.hasKnownNodes_iff, Json.nodeType, Json.lastMember?, Json.IsKnown]
  have openIsFilled : openCondition.IsFilled :=
    .condition (by decide) (fun _ => rfl) (by decide) nofun
  have ordersAreFilled : (FilterNode.Sample.orders.draftWith Cell.toJson).IsFilled := by
    have isFilled
        {id field value : String}
        (hasId : ¬(Json.text id).isVoid)
        (hasField : ¬(Json.text field).isVoid) :
        (condition (.text id) (.text field) (.text "is") (.text value)).IsFilled :=
      .condition hasId (fun isVoid => absurd isVoid hasField) (by decide) nofun
    refine .group (by decide) (List.forall_mem_cons.mpr ⟨isFilled (by decide) (by decide), ?_⟩)
    refine List.forall_mem_singleton.mpr (.group (by decide) ?_)
    refine List.forall_mem_cons.mpr ⟨isFilled (by decide) (by decide), ?_⟩
    exact List.forall_mem_singleton.mpr (isFilled (by decide) (by decide))
  have ordersAreCarried : FilterNode.Sample.orders.IsCarried Json.asCell Cell.toJson := by
    rw [FilterNode.IsCarried]
    decide
  obtain ⟨⟨draft, next⟩, isRead⟩ := (readIff shortDocument shortIsMade 1).1.mpr shortIsKnown
  have isRefused :
      ∃ cause, (ofJson Json.asCell strangeDocument).run 1 = .error (.filter cause) := by
    cases answer : (ofJson Json.asCell strangeDocument).run 1 with
    | ok read =>
        exact absurd ((readIff strangeDocument strangeIsMade 1).1.mp ⟨read, answer⟩)
          strangeIsUnknown
    | error fault =>
        obtain ⟨cause, rfl⟩ := (readIff strangeDocument strangeIsMade 1).2 fault answer
        exact ⟨cause, rfl⟩
  exact
    ⟨shortIsMade, shortIsKnown,
      ⟨draft, next, isRead, readAgain shortDocument 1 draft next isRead next⟩,
      strangeIsMade, strangeIsUnknown, isRefused, openIsFilled,
      draftsAreRead openCondition openIsFilled 1, ordersAreFilled, ordersAreCarried,
      treesAreRead Cell.toJson FilterNode.Sample.orders ordersAreFilled ordersAreCarried 1⟩

end FilterDraft.Sample

end Tabular
