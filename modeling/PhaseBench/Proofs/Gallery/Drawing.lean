import PhaseBench.Proofs.Chart.Rendering
import PhaseBench.Proofs.Gallery.Files
import PhaseBench.Proofs.Tree.Writing

/-!
# Drawing charts one after the other

Drawing charts into a gallery writes the documents of all, or stops at the first that cannot
be written (`addAll_cases`). Nothing of it goes to the standard output but the documents
of the charts whose paths lead there (`echo_of_written`, `echo_of_stopped`), and there are
no such paths in a directory without links and devices (`echoedFrom_eq_nil`).
-/

namespace PhaseBench

/-- Every chart of a summary can be shown as text. -/
theorem exists_texts (summary : SummaryTable) : ∃ texts,
    List.Forall₂ (fun chart text => chart.text? = some text) (Chart.ofSummary summary) texts := by
  unfold Chart.ofSummary
  induction summary.entries with
  | nil => exact ⟨[], .nil⟩
  | cons entry entries ih =>
      obtain ⟨text, first⟩ := Chart.text?_ofInputs entry.1 entry.2
      obtain ⟨texts, later⟩ := ih
      exact ⟨text :: texts, .cons first later⟩

namespace Gallery

/-! ## Files -/

/-- Writes the documents of charts one after the other, the first of which has a number. -/
def writeFrom (dir : String) (index : Nat) (charts : List Chart) (tree : Tree) :
    Except OsError Tree :=
  (charts.zipIdx index).foldlM
    (fun tree (chart, index) => tree.write (pathOf dir index chart) chart.svg.toUTF8) tree

theorem writeFrom_cons (dir : String) (index : Nat) (chart : Chart) (charts : List Chart)
    (tree : Tree) :
    writeFrom dir index (chart :: charts) tree =
      (tree.write (pathOf dir index chart) chart.svg.toUTF8).bind
        (writeFrom dir (index + 1) charts) := by
  rw [writeFrom, List.zipIdx_cons, List.foldlM_cons]
  rfl

theorem pathsFrom_cons (dir : String) (index : Nat) (chart : Chart) (charts : List Chart) :
    pathsFrom dir index (chart :: charts) =
      pathOf dir index chart :: pathsFrom dir (index + 1) charts := by
  rw [pathsFrom, List.zipIdx_cons, List.map_cons]
  rfl

/-- Drawing charts writes all their documents, or fails where one cannot be written. -/
theorem addAll_cases (gallery : Gallery) (tree : Tree) (charts : List Chart) :
    (∃ after, writeFrom gallery.dir gallery.files.length charts tree = .ok after ∧
      gallery.addAll tree charts = (after, .ok ⟨gallery.dir,
        gallery.files ++ pathsFrom gallery.dir gallery.files.length charts⟩)) ∨
    ∃ error after trace,
      writeFrom gallery.dir gallery.files.length charts tree = .error error ∧
        gallery.addAll tree charts = (after, .error trace) := by
  induction charts generalizing gallery tree with
  | nil =>
      refine .inl ⟨tree, rfl, ?_⟩
      rw [pathsFrom, List.zipIdx_nil, List.map_nil, List.append_nil, addAll]
  | cons chart charts ih =>
      rw [writeFrom_cons]
      cases written : tree.write (pathOf gallery.dir gallery.files.length chart)
          chart.svg.toUTF8 with
      | error error =>
          have stopped : gallery.addAll tree (chart :: charts) = (tree, .error
              ⟨[.write (pathOf gallery.dir gallery.files.length chart)], .os error⟩) := by
            rw [addAll, add, ← pathOf, written]
          exact .inr ⟨error, tree, _, rfl, stopped⟩
      | ok next =>
          have added : gallery.addAll tree (chart :: charts) = addAll ⟨gallery.dir,
              gallery.files ++ [pathOf gallery.dir gallery.files.length chart]⟩ next charts := by
            rw [addAll, add, ← pathOf, written]
          have later := ih ⟨gallery.dir,
            gallery.files ++ [pathOf gallery.dir gallery.files.length chart]⟩ next
          rw [List.length_append, List.length_singleton] at later
          rw [added, pathsFrom_cons, List.append_cons _ _ (pathsFrom _ _ _)]
          exact later

/-! ## The standard output -/

/-- The documents of the charts whose paths lead to the standard output, where the first chart
has a number. -/
def echoedFrom (dir : String) (index : Nat) (charts : List Chart) (tree : Tree) : List String :=
  ((charts.zipIdx index).filter fun entry => tree.isOutput (pathOf dir entry.2 entry.1)).map
    (·.1.svg)

theorem echoedFrom_cons (dir : String) (index : Nat) (chart : Chart) (charts : List Chart)
    (tree : Tree) :
    String.join (echoedFrom dir index (chart :: charts) tree) =
      (if tree.isOutput (pathOf dir index chart) then chart.svg else "") ++
        String.join (echoedFrom dir (index + 1) charts tree) := by
  by_cases leads : tree.isOutput (pathOf dir index chart) <;>
    simp [echoedFrom, List.zipIdx_cons, leads, String.join_cons]

theorem echoedFrom_of_alike {before after : Tree} (alike : before.Alike after) (dir : String)
    (index : Nat) (charts : List Chart) :
    echoedFrom dir index charts after = echoedFrom dir index charts before := by
  simp only [echoedFrom, alike.isOutput_eq]

/-- One chart is drawn, and then the others. -/
theorem echo_cons_of_written {gallery : Gallery} {tree next : Tree} {chart : Chart}
    (written : tree.write (pathOf gallery.dir gallery.files.length chart) chart.svg.toUTF8 =
      .ok next) (charts : List Chart) :
    gallery.echo tree (chart :: charts) =
      (if tree.isOutput (pathOf gallery.dir gallery.files.length chart) then chart.svg else "") ++
        echo ⟨gallery.dir, gallery.files ++ [pathOf gallery.dir gallery.files.length chart]⟩
          next charts := by
  rw [echo, add, ← pathOf, written]

theorem echo_cons_of_stopped {gallery : Gallery} {tree : Tree} {chart : Chart} {error : OsError}
    (stopped : tree.write (pathOf gallery.dir gallery.files.length chart) chart.svg.toUTF8 =
      .error error) (charts : List Chart) : gallery.echo tree (chart :: charts) = "" := by
  rw [echo, add, ← pathOf, stopped]

theorem echo_of_written (gallery : Gallery) {tree after : Tree} {charts : List Chart}
    (complete : writeFrom gallery.dir gallery.files.length charts tree = .ok after) :
    gallery.echo tree charts =
      String.join (echoedFrom gallery.dir gallery.files.length charts tree) := by
  induction charts generalizing gallery tree with
  | nil => rfl
  | cons chart charts ih =>
      rw [writeFrom_cons] at complete
      cases written : tree.write (pathOf gallery.dir gallery.files.length chart)
          chart.svg.toUTF8 with
      | error error =>
          rw [written] at complete
          cases complete
      | ok next =>
          rw [written] at complete
          have later := @ih ⟨gallery.dir,
            gallery.files ++ [pathOf gallery.dir gallery.files.length chart]⟩ next
          rw [List.length_append, List.length_singleton] at later
          rw [echo_cons_of_written written, later complete, echoedFrom_cons,
            echoedFrom_of_alike (Tree.alike_of_write written)]

/-- Where drawing stops, some charts were drawn before. -/
theorem echo_of_stopped (gallery : Gallery) {tree : Tree} {charts : List Chart} {error : OsError}
    (stopped : writeFrom gallery.dir gallery.files.length charts tree = .error error) :
    ∃ count < charts.length, ∃ before,
      writeFrom gallery.dir gallery.files.length (charts.take count) tree = .ok before ∧
      gallery.echo tree charts = String.join
        (echoedFrom gallery.dir gallery.files.length (charts.take count) tree) := by
  induction charts generalizing gallery tree with
  | nil => cases stopped
  | cons chart charts ih =>
      rw [writeFrom_cons] at stopped
      cases written : tree.write (pathOf gallery.dir gallery.files.length chart)
          chart.svg.toUTF8 with
      | error error =>
          exact ⟨0, Nat.zero_lt_succ _, tree, rfl, echo_cons_of_stopped written charts⟩
      | ok next =>
          rw [written] at stopped
          have later := @ih ⟨gallery.dir,
            gallery.files ++ [pathOf gallery.dir gallery.files.length chart]⟩ next
          rw [List.length_append, List.length_singleton] at later
          obtain ⟨count, less, before, drawn, echoed⟩ := later stopped
          refine ⟨count + 1, Nat.succ_lt_succ less, before, ?_, ?_⟩
          · rw [List.take_succ_cons, writeFrom_cons, written]
            exact drawn
          · rw [echo_cons_of_written written, echoed, List.take_succ_cons, echoedFrom_cons,
              echoedFrom_of_alike (Tree.alike_of_write written)]

/-- In a directory without links and devices no chart is drawn to the standard output. -/
theorem echoedFrom_eq_nil {tree : Tree} {dir : String} {location : Location}
    (reached : tree.Reaches dir location)
    (plain : ∀ name node, tree.node? (location ++ [name]) = some node →
      node.isRegular = true ∨ node = .directory)
    (index : Nat) (charts : List Chart) : echoedFrom dir index charts tree = [] := by
  rw [echoedFrom, List.map_eq_nil_iff, List.filter_eq_nil_iff]
  rintro ⟨chart, number⟩ - leads
  obtain ⟨place, found⟩ := Tree.isOutput_iff.mp leads
  have name := plain_fileName number chart.title
  obtain ⟨short, -⟩ := Tree.reaches_of_spot_join name found
  have noLink : ∀ target,
      tree.node? (location ++ [fileName number chart.title]) ≠ some (.link target) := by
    intro target link
    rcases plain _ _ link with regular | directory
    · cases regular
    · cases directory
  rw [pathOf, reached.spot_join name .write noLink short] at found
  unfold Tree.childSpot at found
  split at found
  · cases found
  · split at found
    · next node present =>
        cases found
        rcases plain _ _ present with regular | directory
        · cases regular
        · cases directory
    · cases found

end Gallery

end PhaseBench
