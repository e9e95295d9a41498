import Tabular.Proofs.Number.Numeral
import Tabular.Proofs.Workspace.Change
import Tabular.Proofs.Workspace.Looking

namespace Tabular

/-!
# The prefixes of tables with default aliases

Where every alias that is set is a blank one, the prefix of a table depends on its name and on the
place that it had among the tables when its alias was set last. A roster keeps just that. It follows
every run, and it tells which different tables go by the same prefix: nothing in a workspace keeps
them from doing so.
-/

/-! ## Rosters -/

/--
The names of the loaded tables in order, and for each table whose alias has been set the place that
it had then.
-/
structure Roster where
  names : List String := []
  places : Assoc Nat := .empty

namespace Roster

/-- The roster after an edit with which only blank aliases are set. -/
def edited (roster : Roster) : Edit → Roster
  | .loadTable name _ =>
      if name ∈ roster.names then roster else { roster with names := roster.names ++ [name] }
  | .removeTable name =>
      if name ∈ roster.names then
        { names := roster.names.filter fun present => present != name
          places := roster.places.erase name }
      else roster
  | .clear => {}
  | .setAlias name _ =>
      if name ∈ roster.names then
        { roster with places := roster.places.insert name (roster.names.idxOf name) }
      else roster
  | _ => roster

/-- The roster after an operation with which only blank aliases are set. -/
def performed (roster : Roster) : Operation → Roster
  | .edit edit => roster.edited edit
  | .read _ => roster

/-- The roster of a new workspace after operations, performed one after the other. -/
def after (operations : List Operation) : Roster :=
  operations.foldl performed {}

/-- The roster lists the tables of the workspace, and its aliases are the default ones. -/
structure Lists (roster : Roster) (workspace : Workspace) : Prop where
  names_eq : workspace.tables.keys = roster.names
  aliases_eq : workspace.aliases = roster.places.mapValues fun name (place : Nat) =>
    Alias.default name place

end Roster

/-- The names of the tables and their aliases are the same after the change. -/
def Workspace.KeepsListing (change : Workspace → Workspace) : Prop :=
  ∀ workspace, (change workspace).tables.keys = workspace.tables.keys ∧
    (change workspace).aliases = workspace.aliases

/-- An alias that is set by the operation is blank. -/
def Operation.SetsBlank : Operation → Prop
  | .edit (.setAlias _ asked) => Text.trim asked = ""
  | _ => True

instance : DecidablePred Operation.SetsBlank
  | .edit (.setAlias _ asked) => inferInstanceAs (Decidable (Text.trim asked = ""))
  | .edit (.loadTable ..) | .edit (.removeTable _) | .edit (.setActiveTable _) | .edit .clear
  | .edit (.setJoins _) | .edit (.addCondition ..) | .edit (.addGroup ..) | .edit (.updateNode ..)
  | .edit (.removeNode _) | .edit (.setFilterTree _) | .edit (.setCaseSensitive _)
  | .edit (.cleanColumn ..) | .edit (.removeDuplicates _) | .edit (.fillEmpty ..)
  | .read _ => isTrue trivial

namespace Roster.Lists

open Tabular.Action Workspace

variable {settings : Settings} {roster : Roster} {session : Session}

/-- A roster also lists every other workspace with the same tables and aliases. -/
theorem of_eq
    {before after : Workspace}
    (lists : roster.Lists before)
    (same : after.tables.keys = before.tables.keys ∧ after.aliases = before.aliases) :
    roster.Lists after :=
  ⟨same.1.trans lists.names_eq, same.2.trans lists.aliases_eq⟩

/-- Steps that keep the listing leave what the roster lists. -/
theorem of_within
    {α : Type}
    {action : Action α}
    (lists : roster.Lists session.workspace)
    (within : action.Within KeepsListing) :
    roster.Lists (action.perform session).2.workspace :=
  within.invariant roster.Lists (fun _ keeps workspace listed => listed.of_eq (keeps workspace))
    lists

theorem mem_names_iff
    (lists : roster.Lists session.workspace)
    {name : String} :
    name ∈ roster.names ↔ ∃ snapshot, session.workspace.tables.find? name = some snapshot := by
  rw [← lists.names_eq, Assoc.mem_keys_iff]

/-- Storing a table under the name of a loaded one leaves what the roster lists. -/
theorem withTable
    {workspace : Workspace}
    (lists : roster.Lists workspace)
    {name : String}
    (listed : name ∈ roster.names)
    (snapshot : Snapshot) :
    roster.Lists (workspace.withTable name snapshot) := by
  refine lists.of_eq ⟨?_, rfl⟩
  rw [Workspace.withTable, Assoc.keys_insert, lists.names_eq, if_pos listed]

/-- Storing a loaded table anew leaves what the roster lists. -/
theorem of_replacesTarget
    {α : Type}
    {asked : Option String}
    {action : Action α}
    (lists : roster.Lists session.workspace)
    (replaces : ReplacesTarget asked action) :
    roster.Lists (action.perform session).2.workspace := by
  obtain ⟨rest, rfl, restWithin⟩ := replaces
  rcases performed : (target asked).perform session with ⟨fault | found, after⟩
  · have still := lists.of_within (within_target asked)
    rw [performed] at still
    rwa [perform_bind_of_error performed]
  · obtain ⟨rfl, isFound⟩ := find?_of_target performed
    have listed := lists.mem_names_iff.mpr ⟨_, isFound⟩
    rw [perform_bind_of_ok performed]
    refine (restWithin found).invariant roster.Lists ?_ lists
    rintro _ ⟨snapshot, rfl⟩ workspace stillLists
    exact stillLists.withTable listed snapshot

/-- An edit that makes no change of the listing leaves what the roster lists. -/
theorem of_makes
    (lists : roster.Lists session.workspace)
    (edit : Edit)
    (makes : ∀ change, edit.Makes change → KeepsListing change) :
    roster.Lists (session.after settings [.edit edit]).workspace := by
  have memory : AllowsMemory KeepsListing :=
    { remember := fun _ _ _ => ⟨rfl, rfl⟩
      touch := fun _ _ => ⟨rfl, rfl⟩
      store := fun _ _ _ _ => ⟨rfl, rfl⟩ }
  exact lists.of_within
    ((edit.looks_action memory makes).isWithin
      (within_currentView memory fun _ _ _ => ⟨rfl, rfl⟩))

theorem of_read
    (lists : roster.Lists session.workspace)
    (read : Read) :
    roster.Lists (session.after settings [.read read]).workspace := by
  obtain ⟨cache, memo, same⟩ := (read.keeps_action settings).same session
  exact lists.of_eq (same ▸ ⟨rfl, rfl⟩)

/-- A table that is asked for is found if the roster lists its name, and only then. -/
theorem getTable_cases
    (lists : roster.Lists session.workspace)
    (name : String) :
    (name ∈ roster.names ∧ ∃ snapshot,
        (getTable name).perform session = (.ok snapshot, session)) ∨
      (name ∉ roster.names ∧
        (getTable name).perform session = (.error (.tableNotLoaded name), session)) := by
  rw [lists.mem_names_iff, getTable, perform_bind_of_ok (perform_workspace session)]
  cases found : session.workspace.tables.find? name with
  | none =>
      exact .inr ⟨nofun, rfl⟩
  | some snapshot =>
      exact .inl ⟨⟨snapshot, rfl⟩, snapshot, rfl⟩

/-- The workspace after an edit whose answer is made from the answer of an action. -/
theorem of_image
    {α : Type}
    {edit : Edit}
    {image : α → Answer}
    {action : Action α}
    (isImage : edit.action settings = image <$> action)
    (lists : roster.Lists (action.perform session).2.workspace) :
    roster.Lists (session.after settings [.edit edit]).workspace := by
  rw [Session.after, List.foldl_cons, List.foldl_nil, Operation.action, isImage, perform_map]
  exact lists

/-- With an edit that sets blank aliases only, the roster goes on to list the workspace. -/
theorem edited
    (lists : roster.Lists session.workspace)
    {edit : Edit}
    (blank : (Operation.edit edit).SetsBlank) :
    (roster.edited edit).Lists (session.after settings [.edit edit]).workspace := by
  cases edit with
  | loadTable name rows =>
      have sameNames := Assoc.keys_insert session.workspace.tables name
        ⟨session.supply.snapshots, session.supply.snapshots, Table.ofRows (some name) rows⟩
      rw [lists.names_eq] at sameNames
      rw [Roster.edited]
      split
      · next listed =>
          rw [if_pos listed] at sameNames
          exact ⟨sameNames, lists.aliases_eq⟩
      · next unlisted =>
          rw [if_neg unlisted] at sameNames
          exact ⟨sameNames, lists.aliases_eq⟩
  | removeTable name =>
      refine of_image rfl ?_
      rw [Roster.edited, removeTable]
      rcases lists.getTable_cases name with ⟨listed, snapshot, found⟩ | ⟨unlisted, failed⟩
      · rw [if_pos listed, perform_bind_of_ok found]
        refine ⟨?_, ?_⟩
        · rw [← lists.names_eq]
          exact Assoc.keys_erase _ name
        · rw [Assoc.mapValues_erase, ← lists.aliases_eq]
          rfl
      · rw [if_neg unlisted, perform_bind_of_error failed]
        exact lists
  | clear =>
      exact ⟨rfl, rfl⟩
  | setAlias name asked =>
      refine of_image rfl ?_
      rw [Roster.edited, setAlias]
      rcases lists.getTable_cases name with ⟨listed, snapshot, found⟩ | ⟨unlisted, failed⟩
      · have isDefault :
            session.workspace.aliasFor name asked =
              Alias.default name (roster.names.idxOf name : Nat) := by
          have isBlank : Text.trim asked = "" := blank
          rw [aliasFor, if_pos isBlank, lists.names_eq]
        rw [if_pos listed, perform_bind_of_ok found,
          perform_bind_of_ok (perform_workspace session), isDefault]
        refine ⟨lists.names_eq, ?_⟩
        rw [Assoc.mapValues_insert, ← lists.aliases_eq]
        rfl
      · rw [if_neg unlisted, perform_bind_of_error failed]
        exact lists
  | cleanColumn column operation asked =>
      exact of_image rfl (lists.of_replacesTarget (replacesTarget_cleanColumn ..))
  | removeDuplicates asked =>
      exact of_image rfl (lists.of_replacesTarget (replacesTarget_removeDuplicates asked))
  | fillEmpty column value asked =>
      exact of_image rfl (lists.of_replacesTarget (replacesTarget_fillEmpty ..))
  | setActiveTable | setJoins | addCondition | addGroup | updateNode | removeNode | setFilterTree
  | setCaseSensitive =>
      refine lists.of_makes _ fun change makes => ?_
      cases makes <;> exact fun _ => ⟨rfl, rfl⟩

/-- With operations that set blank aliases only, the roster goes on to list the workspace. -/
theorem performed
    (lists : roster.Lists session.workspace)
    {operation : Operation}
    (blank : operation.SetsBlank) :
    (roster.performed operation).Lists (session.after settings [operation]).workspace := by
  cases operation with
  | edit edit =>
      exact lists.edited blank
  | read read =>
      exact lists.of_read read

end Roster.Lists

/-- The roster of a run that sets blank aliases only lists the workspace after it. -/
theorem Roster.lists_after
    {settings : Settings}
    {roster : Roster}
    {session : Session}
    (lists : roster.Lists session.workspace)
    {operations : List Operation}
    (blank : ∀ operation ∈ operations, operation.SetsBlank) :
    (operations.foldl performed roster).Lists (session.after settings operations).workspace := by
  induction operations generalizing roster session with
  | nil =>
      exact lists
  | cons operation rest inductionHypothesis =>
      exact inductionHypothesis (lists.performed (blank operation List.mem_cons_self))
        fun later member => blank later (List.mem_cons_of_mem operation member)

/-! ## Prefixes -/

/-- What a table goes by when no other aliases than blank ones are set. -/
inductive DefaultPrefix where
  /-- Its own name. -/
  | own
  /-- Its name without extension, in ASCII letters, digits and underscores. -/
  | base (shown : String)
  /-- A number, which is one more than the place that the table had. -/
  | numbered (place : Nat)
deriving DecidableEq

/-- The name without extension, in ASCII letters, digits and underscores. -/
def Alias.plainBase (name : String) : List Char :=
  (baseName name.toList).map plainCharacter

/-- The alias of a table whose name is too long. -/
def Alias.numbered (place : Nat) : String :=
  "t" ++ Decimal.ofInt (place + 1)

/-- The prefix as it is shown for a table. -/
def DefaultPrefix.shown (name : String) : DefaultPrefix → String
  | own => name
  | base shown => shown
  | numbered place => Alias.numbered place

/-- The numbers of different places are different. -/
theorem Alias.numbered_injective :
    Function.Injective Alias.numbered := by
  intro place other same
  have written := (String.append_right_inj "t").mp same
  have digits : Decimal.digits (place + 1) = Decimal.digits (other + 1) :=
    String.ofList_injective written
  have values := congrArg Decimal.digitsValue digits
  rw [Decimal.digitsValue_digits, Decimal.digitsValue_digits] at values
  omega

/-- What a table with a default alias goes by. A base without characters makes no alias. -/
def Alias.defaultPrefix (name : String) (place : Nat) : DefaultPrefix :=
  if plainBase name = [] then .own
  else if (plainBase name).length ≤ longest then .base (String.ofList (plainBase name))
  else .numbered place

/-- What a table on the roster goes by. -/
def Roster.defaultPrefix (roster : Roster) (name : String) : DefaultPrefix :=
  match roster.places.find? name with
  | some place => Alias.defaultPrefix name place
  | none => .own

/-- A default alias shows what it is made from; when it is blank, the own name stands for it. -/
theorem Alias.shown_defaultPrefix
    (name : String)
    (place : Nat) :
    (if Alias.default name place = "" then name else Alias.default name place) =
      (defaultPrefix name place).shown name := by
  have isDefault :
      Alias.default name place =
        if (plainBase name).length ≤ longest then String.ofList (plainBase name)
        else numbered place :=
    rfl
  rw [isDefault, defaultPrefix]
  by_cases isEmpty : plainBase name = []
  · rw [if_pos isEmpty, isEmpty]
    rfl
  · rw [if_neg isEmpty]
    split
    · have shows : String.ofList (plainBase name) ≠ "" :=
        fun blank => isEmpty (String.ofList_injective blank)
      rw [if_neg shows]
      rfl
    · have shows : numbered place ≠ "" := by
        intro blank
        have characters := congrArg String.length blank
        simp [numbered] at characters
      rw [if_neg shows]
      rfl

/-- The prefix of a table is what the roster says that it goes by. -/
theorem Roster.Lists.prefixOf_eq
    {roster : Roster}
    {workspace : Workspace}
    (lists : roster.Lists workspace)
    (name : String) :
    workspace.prefixOf name = (roster.defaultPrefix name).shown name := by
  rw [Workspace.prefixOf, Alias.nameIn, lists.aliases_eq, Assoc.find?_mapValues,
    Roster.defaultPrefix]
  cases roster.places.find? name with
  | none =>
      rfl
  | some place =>
      exact Alias.shown_defaultPrefix name place

/-! ## Tables with the same prefix -/

/-- How a table comes to go by the prefix of another one. -/
inductive Roster.Collides (roster : Roster) (first second : String) : Prop
  | bases
      (shown : String)
      (isFirst : roster.defaultPrefix first = .base shown)
      (isSecond : roster.defaultPrefix second = .base shown)
  /-- The aliases were set when the tables had the same place, one after the other. -/
  | places
      (place : Nat)
      (isFirst : roster.defaultPrefix first = .numbered place)
      (isSecond : roster.defaultPrefix second = .numbered place)
  /-- The first table goes by a base that reads as the number of the second one. -/
  | baseIsNumber
      (place : Nat)
      (isFirst : roster.defaultPrefix first = .base (Alias.numbered place))
      (isSecond : roster.defaultPrefix second = .numbered place)
  /-- The first table goes by its own name, which is the base of the second one. -/
  | nameIsBase
      (isFirst : roster.defaultPrefix first = .own)
      (isSecond : roster.defaultPrefix second = .base first)
  /-- The first table goes by its own name, which reads as the number of the second one. -/
  | nameIsNumber
      (place : Nat)
      (isFirst : roster.defaultPrefix first = .own)
      (isSecond : roster.defaultPrefix second = .numbered place)
      (reads : first = Alias.numbered place)

/-- A table that collides with another one is shown with the same prefix. -/
theorem Roster.Collides.shown_eq
    {roster : Roster}
    {first second : String}
    (collides : roster.Collides first second) :
    (roster.defaultPrefix first).shown first = (roster.defaultPrefix second).shown second := by
  cases collides with
  | bases shown isFirst isSecond =>
      rw [isFirst, isSecond]
      rfl
  | places place isFirst isSecond =>
      rw [isFirst, isSecond]
      rfl
  | baseIsNumber place isFirst isSecond =>
      rw [isFirst, isSecond]
      rfl
  | nameIsBase isFirst isSecond =>
      rw [isFirst, isSecond]
      rfl
  | nameIsNumber place isFirst isSecond reads =>
      rw [isFirst, isSecond]
      exact reads

/-- Different tables with the same prefix collide. -/
theorem Roster.collides_of_shown_eq
    {roster : Roster}
    {first second : String}
    (different : first ≠ second)
    (same :
      (roster.defaultPrefix first).shown first = (roster.defaultPrefix second).shown second) :
    roster.Collides first second ∨ roster.Collides second first := by
  cases isFirst : roster.defaultPrefix first with
  | own =>
      cases isSecond : roster.defaultPrefix second with
      | own =>
          rw [isFirst, isSecond] at same
          exact absurd same different
      | base shown =>
          rw [isFirst, isSecond] at same
          cases same
          exact .inl (.nameIsBase isFirst isSecond)
      | numbered place =>
          rw [isFirst, isSecond] at same
          exact .inl (.nameIsNumber place isFirst isSecond same)
  | base shown =>
      cases isSecond : roster.defaultPrefix second with
      | own =>
          rw [isFirst, isSecond] at same
          cases same
          exact .inr (.nameIsBase isSecond isFirst)
      | base other =>
          rw [isFirst, isSecond] at same
          cases same
          exact .inl (.bases shown isFirst isSecond)
      | numbered place =>
          rw [isFirst, isSecond] at same
          cases same
          exact .inl (.baseIsNumber place isFirst isSecond)
  | numbered place =>
      cases isSecond : roster.defaultPrefix second with
      | own =>
          rw [isFirst, isSecond] at same
          exact .inr (.nameIsNumber place isSecond isFirst same.symm)
      | base other =>
          rw [isFirst, isSecond] at same
          cases same
          exact .inr (.baseIsNumber place isSecond isFirst)
      | numbered other =>
          rw [isFirst, isSecond] at same
          cases Alias.numbered_injective same
          exact .inl (.places place isFirst isSecond)

/-! ## Places stay as long as no table is removed -/

/-- Every table whose alias has been set still has the place that it had then. -/
def Roster.IsCurrent (roster : Roster) : Prop :=
  ∀ name place, roster.places.find? name = some place →
    name ∈ roster.names ∧ roster.names.idxOf name = place

/-- Only the removal of a table changes the places of others. -/
theorem Roster.IsCurrent.performed
    {roster : Roster}
    (current : roster.IsCurrent)
    {operation : Operation}
    (keeps : ∀ name, operation ≠ .edit (.removeTable name)) :
    (roster.performed operation).IsCurrent := by
  cases operation with
  | read read =>
      exact current
  | edit edit =>
      cases edit with
      | loadTable name rows =>
          rw [Roster.performed, Roster.edited]
          split
          · exact current
          · intro other place found
            obtain ⟨listed, isPlace⟩ := current other place found
            exact ⟨List.mem_append_left _ listed,
              (List.idxOf_append_of_mem listed).trans isPlace⟩
      | removeTable name =>
          exact absurd rfl (keeps name)
      | clear =>
          exact nofun
      | setAlias name asked =>
          rw [Roster.performed, Roster.edited]
          split
          · next listed =>
              intro other place found
              rw [Assoc.find?_insert] at found
              split at found
              · next same =>
                  subst same
                  cases found
                  exact ⟨listed, rfl⟩
              · exact current other place found
          · exact current
      | setActiveTable | setJoins | addCondition | addGroup | updateNode | removeNode
      | setFilterTree | setCaseSensitive | cleanColumn | removeDuplicates | fillEmpty =>
          exact current

theorem Roster.isCurrent_after
    {operations : List Operation}
    (keeps : ∀ name, .edit (.removeTable name) ∉ operations) :
    (after operations).IsCurrent := by
  refine List.foldlRecOn operations performed (b := {}) nofun
    fun roster current operation member => current.performed fun name same => ?_
  exact keeps name (same ▸ member)

theorem Roster.find?_of_numbered
    {roster : Roster}
    {name : String}
    {place : Nat}
    (isNumbered : roster.defaultPrefix name = .numbered place) :
    roster.places.find? name = some place := by
  rw [Roster.defaultPrefix] at isNumbered
  split at isNumbered
  · next set found =>
      rw [Alias.defaultPrefix] at isNumbered
      split at isNumbered
      · cases isNumbered
      · split at isNumbered
        · cases isNumbered
        · cases isNumbered
          exact found
  · cases isNumbered

/--
In every run that sets blank aliases only, two different tables have the same prefix if and only if
their bases are the same, their numbers are the same, or one has a base or a name that is the base
or the number of the other. Their numbers are the same only if a table has been removed.
-/
theorem prefixOf_eq_iff_collides
    (settings : Settings)
    (supply : Supply)
    (operations : List Operation)
    (blank : ∀ operation ∈ operations, operation.SetsBlank) :
    let workspace := ((Session.start settings supply).after settings operations).workspace
    let roster := Roster.after operations
    ∀ first second : String, first ≠ second →
      (workspace.prefixOf first = workspace.prefixOf second ↔
        roster.Collides first second ∨ roster.Collides second first) ∧
      ((∀ name, .edit (.removeTable name) ∉ operations) → ∀ place,
        roster.defaultPrefix first = .numbered place →
          roster.defaultPrefix second ≠ .numbered place) := by
  intro workspace roster first second different
  have startLists : Roster.Lists {} (Session.start settings supply).workspace := ⟨rfl, rfl⟩
  have lists : roster.Lists workspace := Roster.lists_after startLists blank
  rw [lists.prefixOf_eq, lists.prefixOf_eq]
  refine ⟨⟨Roster.collides_of_shown_eq different, ?_⟩, fun keeps place isFirst isSecond => ?_⟩
  · rintro (collides | collides)
    · exact collides.shown_eq
    · exact collides.shown_eq.symm
  · have current := Roster.isCurrent_after keeps
    obtain ⟨listed, firstPlace⟩ := current first place (Roster.find?_of_numbered isFirst)
    obtain ⟨-, secondPlace⟩ := current second place (Roster.find?_of_numbered isSecond)
    exact different ((List.idxOf_inj listed).mp (firstPlace.trans secondPlace.symm))

namespace Session.Sample

/-- The second table keeps its number when the first one goes, and a third one gets it as well. -/
def monthly : List Operation :=
  [.edit (.loadTable "january.csv" []),
    .edit (.loadTable "february.csv" []),
    .edit (.setAlias "february.csv" ""),
    .edit (.removeTable "january.csv"),
    .edit (.loadTable "december.csv" []),
    .edit (.setAlias "december.csv" " ")]

/-- Two of the months have the same number. -/
theorem prefixOf_february_eq :
    (∀ operation ∈ monthly, operation.SetsBlank) ∧
      ((Session.start {} {}).after {} monthly).workspace.prefixOf "february.csv" =
        ((Session.start {} {}).after {} monthly).workspace.prefixOf "december.csv" := by
  have blank : ∀ operation ∈ monthly, operation.SetsBlank := by decide +kernel
  have collides : (Roster.after monthly).Collides "february.csv" "december.csv" :=
    .places 1 (by decide +kernel) (by decide +kernel)
  exact ⟨blank,
    (prefixOf_eq_iff_collides {} {} monthly blank "february.csv" "december.csv"
      (by decide)).1.mpr (.inl collides)⟩

/-- Two tables whose names differ by their extensions only. -/
def exported : List Operation :=
  [.edit (.loadTable "sales.csv" []),
    .edit (.loadTable "sales.json" []),
    .edit (.setAlias "sales.csv" ""),
    .edit (.setAlias "sales.json" "")]

/-- Blank aliases do not keep the prefixes of loaded tables apart. -/
theorem blank_aliases_do_not_separate :
    ¬∀ (settings : Settings) (supply : Supply) (operations : List Operation),
      (∀ operation ∈ operations, operation.SetsBlank) →
        let workspace := ((Session.start settings supply).after settings operations).workspace
        ∀ first ∈ workspace.tables.keys, ∀ second ∈ workspace.tables.keys, first ≠ second →
          workspace.prefixOf first ≠ workspace.prefixOf second := by
  intro separate
  exact separate {} {} exported (by decide +kernel) "sales.csv" (by decide +kernel)
    "sales.json" (by decide +kernel) (by decide) (by decide +kernel)

end Session.Sample

end Tabular
