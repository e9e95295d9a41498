import Tabular.Proofs.Analysis.Report
import Tabular.Proofs.Change.Preview
import Tabular.Proofs.Workspace.Joins
import Tabular.Proofs.Workspace.ViewParts

namespace Tabular

/-!
# Lists of values are remembered whole

A workspace remembers the values of a column under the version of the current view, and cuts them
off only when it answers. So whatever has been done and asked before, a list up to a limit is the
first part of all values of the current view, and these are the values that a report counts.
-/

namespace Workspace

open Tabular.Action

variable {settings : Settings} {ledger : Ledger} {session : Session}

/-- Whatever has been done, the current view is that of the contents. -/
theorem perform_currentView
    (keeps : session.KeepsJoins settings ledger) :
    ((currentView settings).perform session).1.map Snapshot.table =
      session.workspace.contents.currentView settings := by
  rw [Contents.currentView, isJoined_contents]
  split
  · next isJoined =>
      exact (perform_currentView_of_isJoined keeps isJoined).1
  · next notJoined =>
      rw [activeTable_contents, currentView, perform_bind_of_ok (perform_workspace session),
        if_neg notJoined]
      split
      · next found =>
          rw [found]
          rfl
      · next missing =>
          rw [missing]
          rfl

/-- All values of an issued snapshot are answered, whether or not they are remembered. -/
theorem perform_remembered_uniqueValues
    (recorded : session.IsRecorded settings ledger)
    {view : Snapshot}
    (issued : view ∈ ledger)
    (column : String) :
    ((Action.remembered (.uniqueValues view.version column)
      (pure (view.table.allUniqueValues column))).perform session).1 =
        .ok (view.table.allUniqueValues column) := by
  rw [perform_remembered]
  split
  · next values known =>
      obtain ⟨other, otherIssued, sameVersion, computed⟩ := recorded.workspace.memo known
      rw [← computed, MemoKey.afresh,
        recorded.consistent.eq_of_version other otherIssued view issued sameVersion]
  · rfl

/-- A list of values is cut off from all values of the current view. -/
theorem perform_uniqueValues
    (keeps : session.KeepsJoins settings ledger)
    (column : String)
    (limit : Option Int) :
    ((uniqueValues settings column limit).perform session).1 =
      session.workspace.contents.uniqueValues settings column limit := by
  rw [Contents.uniqueValues, ← perform_currentView keeps]
  obtain ⟨wider, -, recordedAfter, issued⟩ :=
    records_currentView ledger subset_rfl session keeps.recorded
  rcases performed : (currentView settings).perform session with ⟨fault | view, after⟩
  · rw [uniqueValues, perform_bind_of_error performed]
    rfl
  · rw [performed] at recordedAfter issued
    rw [uniqueValues, perform_bind_of_ok performed, perform_bind]
    have listed := perform_remembered_uniqueValues recordedAfter (issued view rfl) column
    rcases remembered : (Action.remembered (.uniqueValues view.version column)
      (pure (view.table.allUniqueValues column))).perform after with ⟨fault | values, afterwards⟩
    · rw [remembered] at listed
      cases listed
    · rw [remembered] at listed
      cases listed
      rfl

end Workspace

namespace Session

variable {settings : Settings} {ledger : Ledger} {session : Session}

theorem after_append
    (operations others : List Operation) :
    session.after settings (operations ++ others) =
      (session.after settings operations).after settings others := by
  rw [after, List.foldl_append]
  rfl

/-- Asking for values changes nothing that the workspace holds. -/
theorem contents_after_uniqueValues
    (column : String)
    (limits : List (Option Int)) :
    (session.after settings
        (limits.map fun limit => .read (.uniqueValues column limit))).workspace.contents =
      session.workspace.contents := by
  induction limits generalizing session with
  | nil =>
      rfl
  | cons limit rest inductionHypothesis =>
      have keeps := (Read.uniqueValues column limit).keeps_action settings
      exact inductionHypothesis.trans (Workspace.contents_eq_of_same (keeps.same session))

/-- After any run, lists of values are cut off from those of the table that is shown. -/
theorem answer_uniqueValues_after
    {supply : Supply}
    {operations : List Operation}
    {table : Table}
    (isShown :
      ((start settings supply).after settings operations).shown settings .currentView = .ok table)
    (column : String)
    (earlier : List (Option Int))
    (limit : Option Int) :
    (((start settings supply).after settings operations).after settings
        (earlier.map fun asked => .read (.uniqueValues column asked))).answer settings
          (.read (.uniqueValues column limit)) =
      .ok (.values (Slice.upTo limit (table.allUniqueValues column))) := by
  obtain ⟨ledger, keeps⟩ := exists_keepsJoins_after settings supply operations
  have isCurrent := (Workspace.perform_currentView keeps).symm.trans isShown
  obtain ⟨later, keepsLater⟩ := exists_keepsJoins_after settings supply
    (operations ++ earlier.map fun asked => .read (.uniqueValues column asked))
  rw [after_append] at keepsLater
  have listed := Workspace.perform_uniqueValues keepsLater column limit
  rw [contents_after_uniqueValues, Contents.uniqueValues, isCurrent] at listed
  change ((Answer.values <$> Workspace.uniqueValues settings column limit).perform _).1 = _
  rw [Action.perform_map, listed]
  rfl

end Session

/--
A report and the list of values of a column agree: the rows are those with missing cells, those that
repeat a value and one for each value. The list ascends and has exactly what the cells show that are
not blank. A list up to a limit is a first part of it, however often and with whatever limits a
workspace that shows the table has been asked before.
-/
theorem analyzeQuality_agrees_allUniqueValues
    {settings : Settings}
    {types : Option (Assoc ColumnType)}
    {table : Table}
    {report : QualityReport}
    (filled : table.rows ≠ [])
    (reported : analyzeQuality settings types table = .ok report)
    {column : String}
    (isColumn : column ∈ table.columns) :
    (∃ quality, report.columns.find? column = some quality ∧
      quality.CountsValues (table.allUniqueValues column) table.rows.length) ∧
    table.ShowsValues column (table.allUniqueValues column) ∧
    (∀ limit : Nat,
      Slice.upTo (some (limit : Int)) (table.allUniqueValues column) =
        (table.allUniqueValues column).take limit) ∧
    ∀ (supply : Supply) (operations : List Operation),
      let session := (Session.start settings supply).after settings operations
      session.shown settings .currentView = .ok table →
        ∀ (earlier : List (Option Int)) (limit : Option Int),
          (session.after settings
              (earlier.map fun asked => .read (.uniqueValues column asked))).answer settings
                (.read (.uniqueValues column limit)) =
            .ok (.values (Slice.upTo limit (table.allUniqueValues column))) := by
  obtain ⟨quality, found, describes⟩ := exists_describes_of_analyzeQuality reported filled isColumn
  refine ⟨⟨quality, found, describes.countsValues⟩, table.showsValues_allUniqueValues column,
    fun limit => Slice.upTo_natCast limit _, ?_⟩
  intro supply operations session isShown earlier limit
  exact Session.answer_uniqueValues_after isShown column earlier limit

namespace Session.Sample

/-- Six rows with cells of several types, two of which are blank. -/
def mixedValues : List Row :=
  [.ofList [("value", .int 1)], .ofList [("value", .text "1")], .ofList [("value", .null)],
    .ofList [("value", .bool true)], .ofList [("value", .text " ")],
    .ofList [("value", .float (.ofNat 1))]]

/-- The six cells show two values, and a session that was asked for one of them has both. -/
theorem values_of_mixedValues :
    let table := Table.ofRows (some "mixed") mixedValues
    table.rows ≠ [] ∧ "value" ∈ table.columns ∧
      (∃ report, analyzeQuality {} none table = .ok report ∧
        ∃ quality, report.columns.find? "value" = some quality ∧
          quality.CountsValues ["1", "true"] 6) ∧
      ((Session.start {} {}).after {} [.edit (.loadTable "mixed" mixedValues)]).shown {}
          .currentView = .ok table ∧
        (((Session.start {} {}).after {} [.edit (.loadTable "mixed" mixedValues)]).after {}
            [.read (.uniqueValues "value" (some 1))]).answer {}
              (.read (.uniqueValues "value" none)) =
          .ok (.values ["1", "true"]) := by
  intro table
  have filled : table.rows ≠ [] := by
    decide
  have isColumn : "value" ∈ table.columns := by
    decide +kernel
  have areShown :
      ((table.cells "value").filter fun cell => !cell.isBlank).map Cell.display =
        ["1", "1", "true", "1"] := by
    decide +kernel
  have areValues : table.allUniqueValues "value" = ["1", "true"] := by
    rw [Table.allUniqueValues_eq_sortedKeys, areShown, eq_comm, Pivot.eq_sortedKeys_iff]
    refine ⟨by decide, fun key => ?_⟩
    simp only [List.mem_cons, List.not_mem_nil, or_false]
    tauto
  obtain ⟨report, reported⟩ : ∃ report, analyzeQuality {} none table = .ok report :=
    Outcome.fault?_eq_none_iff.mp (by decide +kernel)
  have isShown :
      ((Session.start {} {}).after {} [.edit (.loadTable "mixed" mixedValues)]).shown {}
        .currentView = .ok table :=
    rfl
  obtain ⟨⟨quality, found, counts⟩, -, -, answers⟩ :=
    analyzeQuality_agrees_allUniqueValues filled reported isColumn
  have answered := answers {} [.edit (.loadTable "mixed" mixedValues)] isShown [some 1] none
  rw [areValues] at counts answered
  exact ⟨filled, isColumn, ⟨report, reported, quality, found, counts⟩, isShown, answered⟩

end Session.Sample

end Tabular
