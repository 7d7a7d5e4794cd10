import PhaseBench.Proofs.Campaign.Charts
import PhaseBench.Proofs.Tree.Links

/-!
# The inputs of a campaign

The input files of a directory are the entries that lead to a regular file, strictly
increasing by the bytes of their names. There is one such list (`Selected.unique`), so it
does not matter in which order the directory lists its names, and a directory that shows
the same names and files again has the same input files (`Unchanged.inputFiles_eq`).

Every configuration lists the directory anew. As long as the calls leave the directory
unchanged all charts of a campaign have the same groups (`inputFiles_determined`).
-/

namespace PhaseBench

universe u

/-! ## Entries that lead to files -/

namespace Tree

variable {tree : Tree} {dir : String}

/-- The path leads to a regular file through few enough links. -/
def FileAt (tree : Tree) (path : String) : Prop :=
  path ≠ "" ∧ path.utf8ByteSize < pathLimit ∧
    ∃ links location node, links ≤ linkLimit ∧ node.isRegular ∧
      tree.Leads links (tree.origin path) (Path.route path) location node

theorem isRegular_eq_true_iff {path : String} :
    tree.isRegular path = true ↔ ∃ location node, tree.resolve path = .ok (location, node) ∧
      node.isRegular := by
  unfold isRegular
  split
  · next resolved => simp [resolved]
  · next resolved => simp [resolved]

theorem isRegular_iff_fileAt {path : String} : tree.isRegular path = true ↔ tree.FileAt path := by
  rw [isRegular_eq_true_iff]
  constructor
  · rintro ⟨location, node, resolved, regular⟩
    obtain ⟨nonempty, short, links, few, way⟩ := resolve_eq_ok_iff.mp resolved
    exact ⟨nonempty, short, links, location, node, few, regular, way⟩
  · rintro ⟨nonempty, short, links, location, node, few, regular, way⟩
    exact ⟨location, node, resolve_eq_ok_iff.mpr ⟨nonempty, short, links, few, way⟩, regular⟩

/-- An entry is a file when its name leads to one from the directory. -/
theorem fileAt_join_iff {name : String} {place : Location} {count : Nat} (plain : Path.Plain name)
    (way : tree.Leads count (tree.origin dir) (Path.names dir) place .directory) :
    tree.FileAt (Path.join dir name) ↔
      (Path.join dir name).utf8ByteSize < pathLimit ∧
        ∃ links location node, count + links ≤ linkLimit ∧ node.isRegular ∧
          tree.Leads links place [name] location node := by
  rw [← isRegular_iff_fileAt, isRegular_eq_true_iff]
  constructor
  · rintro ⟨location, node, resolved, regular⟩
    obtain ⟨short, links, few, onward⟩ := (resolve_join_iff plain way).mp resolved
    exact ⟨short, links, location, node, few, regular, onward⟩
  · rintro ⟨short, links, location, node, few, regular, onward⟩
    exact ⟨location, node, (resolve_join_iff plain way).mpr ⟨short, links, few, onward⟩, regular⟩

end Tree

/-! ## The list of input files -/

/-- The files among the names that a directory lists: exactly the entries that lead to a regular
file, strictly increasing by the bytes of their names. -/
structure Selected (tree : Tree) (dir : String) (names : List String) (files : List InputFile) :
    Prop where
  sorted : files.Pairwise fun a b => nameBytes a.name < nameBytes b.name
  mem_iff : ∀ file, file ∈ files ↔
    file.name ∈ names ∧ file.path = Path.join dir file.name ∧ tree.FileAt file.path

theorem InputFile.mem_select {tree : Tree} {dir : String} {names : List String} {file : InputFile} :
    file ∈ select tree dir names ↔
      file.name ∈ names ∧ file.path = Path.join dir file.name ∧ tree.FileAt file.path := by
  rw [select, List.mem_mergeSort, List.mem_filter, List.mem_map, Tree.isRegular_iff_fileAt]
  constructor
  · rintro ⟨⟨name, member, rfl⟩, regular⟩
    exact ⟨member, rfl, regular⟩
  · rintro ⟨member, path_eq, regular⟩
    exact ⟨⟨file.name, member, by rw [ofEntry, ← path_eq]⟩, regular⟩

theorem InputFile.selected_select (tree : Tree) (dir : String) {names : List String}
    (distinct : names.Nodup) : Selected tree dir names (select tree dir names) :=
  ⟨(listed_select tree dir distinct).sorted.imp nameBefore_iff.mp, fun _ => mem_select⟩

/-- Two lists of files that are strictly increasing and have the same members are equal. -/
theorem eq_of_sorted {files others : List InputFile}
    (sorted : files.Pairwise fun a b => nameBytes a.name < nameBytes b.name)
    (ordered : others.Pairwise fun a b => nameBytes a.name < nameBytes b.name)
    (same : ∀ file, file ∈ files ↔ file ∈ others) : files = others := by
  have nodup : ∀ {list : List InputFile},
      (list.Pairwise fun a b => nameBytes a.name < nameBytes b.name) → list.Nodup := by
    intro list increasing
    refine increasing.imp ?_
    rintro a b before rfl
    exact List.lt_irrefl _ before
  refine List.Perm.eq_of_pairwise ?_ sorted ordered
    ((List.perm_ext_iff_of_nodup (nodup sorted) (nodup ordered)).mpr same)
  intro a b _ _ before behind
  exact absurd behind (List.lt_asymm before)

/-- Names that are the same and lead to files alike select one list. -/
theorem Selected.unique {tree after : Tree} {dir : String} {names others : List String}
    {files more : List InputFile} (selected : Selected tree dir names files)
    (again : Selected after dir others more) (sameNames : ∀ name, name ∈ names ↔ name ∈ others)
    (sameFiles : ∀ name ∈ names,
      (tree.FileAt (Path.join dir name) ↔ after.FileAt (Path.join dir name))) :
    files = more := by
  refine eq_of_sorted selected.sorted again.sorted ?_
  intro file
  rw [selected.mem_iff, again.mem_iff, ← sameNames]
  refine and_congr_right ?_
  intro member
  refine and_congr_right ?_
  intro path_eq
  rw [path_eq]
  exact sameFiles file.name member

theorem Tree.selected_of_list {tree : Tree} {dir : String} {names : List String}
    (clean : hasNul dir = false) (listing : tree.list dir = .ok names) :
    ∃ files, tree.inputFiles dir = .ok files ∧ Selected tree dir names files := by
  have distinct : names.Nodup := by
    unfold list at listing
    split at listing
    · cases listing
      exact tree.nodup_entries _
    · cases listing
    · cases listing
  refine ⟨InputFile.select tree dir names, ?_, InputFile.selected_select tree dir distinct⟩
  rw [inputFiles, clean, listing]
  rfl

/-! ## Directories that stay as they are -/

/-- A directory shows the same in two trees: the same names, listed in whatever order, and the
same of them lead to regular files. -/
def Unchanged (dir : String) (before after : Tree) : Prop :=
  ∃ names others, before.list dir = .ok names ∧ after.list dir = .ok others ∧
    names.Perm others ∧ ∀ name ∈ names,
      (before.FileAt (Path.join dir name) ↔ after.FileAt (Path.join dir name))

theorem Unchanged.inputFiles_eq {dir : String} {before after : Tree}
    (unchanged : Unchanged dir before after) : after.inputFiles dir = before.inputFiles dir := by
  obtain ⟨names, others, listing, again, perm, sameFiles⟩ := unchanged
  by_cases clean : hasNul dir = false
  · obtain ⟨files, ok, selected⟩ := Tree.selected_of_list clean listing
    obtain ⟨more, okAgain, selectedAgain⟩ := Tree.selected_of_list clean again
    rw [ok, okAgain, selected.unique selectedAgain (fun _ => perm.mem_iff) sameFiles]
  · rw [Bool.not_eq_false] at clean
    rw [Tree.inputFiles, Tree.inputFiles, if_pos clean, if_pos clean]

namespace Bench

variable {σ : Type u} {bench : Bench σ} {plan : Plan} {state final : σ} {visits : List Visit}

/-- The visits of a walk find the same files as long as the calls leave the directory as it
is. -/
theorem Walk.inputFiles_eq {tree : Tree} (walk : bench.Walk plan state visits final)
    (unchanged : ∀ before, before <+: visitCalls plan.runs visits →
      Unchanged plan.dir tree (bench.tree (bench.after before state))) :
    ∀ visit ∈ visits, tree.inputFiles plan.dir = .ok visit.files := by
  induction walk with
  | done => exact fun _ member => absurd member (by simp)
  | @visit state final visit visits listing walk ih =>
      intro other member
      rcases List.mem_cons.mp member with rfl | later
      · rw [← (unchanged [] List.nil_prefix).inputFiles_eq]
        exact listing
      · refine ih ?_ other later
        intro before isPrefix
        rw [← after_append]
        refine unchanged _ ?_
        rw [visitCalls_cons]
        exact (List.prefix_append_right_inj _).mpr isPrefix

/-- All charts of a campaign that leaves the directory as it is have the files that were found
at first as their groups. -/
theorem categories_of_unchanged {tree : Tree} {table : SampleTable} {files : List InputFile}
    (found : tree.inputFiles plan.dir = .ok files)
    (ok : (bench.run plan state).result = .ok table)
    (unchanged : ∀ before, before <+: (bench.run plan state).calls →
      Unchanged plan.dir tree (bench.tree (bench.after before state))) :
    ∀ chart ∈ Chart.ofSummary table.summarize, chart.categories = files.map (·.name) := by
  obtain ⟨visits, walk, -, calls, -, rfl⟩ := completed_of_ok ok
  intro chart drawn
  rw [Chart.ofSummary, summarize_entries, List.map_map] at drawn
  obtain ⟨visit, inside, rfl⟩ := List.mem_map.mp drawn
  rw [calls] at unchanged
  have listing := walk.inputFiles_eq unchanged visit inside
  rw [found] at listing
  rw [Except.ok.inj listing]
  exact (charted_ofInputs (visit.map_means_fst _)).categories_eq

end Bench

/-! ## Main result -/

theorem Tree.exists_of_isDirectory {tree : Tree} {dir : String}
    (directory : tree.isDirectory dir = true) :
    ∃ location, tree.resolve dir = .ok (location, .directory) := by
  unfold isDirectory at directory
  split at directory
  · next location resolved => exact ⟨location, resolved⟩
  · cases directory

/-- The input files of a directory are the one list of the entries that lead to a regular file,
strictly increasing by the bytes of their names. It does not depend on the order in which the
directory is listed, and all charts of a campaign that leaves the directory unchanged have it
as their groups. -/
theorem inputFiles_determined (tree : Tree) (dir : String) (clean : hasNul dir = false)
    (directory : tree.isDirectory dir = true) :
    ∃ location links files,
      tree.Leads links (tree.origin dir) (Path.names dir) location .directory ∧
      tree.inputFiles dir = .ok files ∧
      (∀ list, Selected tree dir (tree.entries location) list ↔ list = files) ∧
      -- An entry is a file when its name leads to one from the directory.
      (∀ name, Path.Plain name → (⟨name, Path.join dir name⟩ ∈ files ↔
        name ∈ tree.entries location ∧ (Path.join dir name).utf8ByteSize < Tree.pathLimit ∧
          ∃ more place node, links + more ≤ Tree.linkLimit ∧ node.isRegular ∧
            tree.Leads more location [name] place node)) ∧
      (∀ names, names.Perm (tree.entries location) → InputFile.select tree dir names = files) ∧
      (∀ after, Unchanged dir tree after → after.inputFiles dir = .ok files) ∧
      ∀ {σ : Type u} (bench : Bench σ) (plan : Plan) (state : σ) (outcome : Outcome σ SampleTable)
        (table : SampleTable), plan.dir = dir → bench.run? plan state = some outcome →
        outcome.result = .ok table →
        (∀ before, before <+: outcome.calls →
          Unchanged dir tree (bench.tree (bench.after before state))) →
        ∀ chart ∈ Chart.ofSummary table.summarize, chart.categories = files.map (·.name) := by
  obtain ⟨location, resolved⟩ := Tree.exists_of_isDirectory directory
  obtain ⟨links, -, way⟩ := Tree.leads_names_of_resolve resolved
  have listing : tree.list dir = .ok (tree.entries location) := by rw [Tree.list, resolved]
  obtain ⟨files, found, selected⟩ := Tree.selected_of_list clean listing
  refine ⟨location, links, files, way, found, ?_, ?_, ?_, ?_, ?_⟩
  · intro list
    constructor
    · intro again
      exact again.unique selected (fun _ => Iff.rfl) (fun _ _ => Iff.rfl)
    · rintro rfl
      exact selected
  · intro name plain
    rw [selected.mem_iff, Tree.fileAt_join_iff plain way]
    simp only [true_and]
  · intro names perm
    have distinct : names.Nodup := perm.nodup_iff.mpr (tree.nodup_entries location)
    exact (InputFile.selected_select tree dir distinct).unique selected
      (fun _ => perm.mem_iff) (fun _ _ => Iff.rfl)
  · intro after unchanged
    rw [unchanged.inputFiles_eq, found]
  · rintro σ bench plan state outcome table rfl returned ok unchanged
    obtain rfl := Bench.eq_run_of_run? returned
    exact Bench.categories_of_unchanged found ok unchanged

namespace Sample

/-- A directory with a file, a directory, and links to either, to another link, to nothing and
to each other. -/
def linked : Tree where
  nodes := [(["d"], .directory), (["d", "loop"], .link "pool"), (["d", "b"], .file ByteArray.empty),
    (["d", "gone"], .link "nothing"), (["d", "sub"], .directory), (["d", "z"], .link "/d/a"),
    (["d", "pool"], .link "loop"), (["d", "a"], .link "./b"), (["d", "c"], .link "sub")]
  home := []
  distinct := by decide

theorem resolve_linked : linked.resolve "d" = .ok (["d"], .directory) := by rfl

theorem select_linked :
    InputFile.select linked "d" ["a", "b", "c", "gone", "loop", "pool", "sub", "z"] =
      [⟨"a", "d/a"⟩, ⟨"b", "d/b"⟩, ⟨"z", "d/z"⟩] := by
  have regular : ((["a", "b", "c", "gone", "loop", "pool", "sub", "z"].map
      (InputFile.ofEntry "d")).filter fun file => linked.isRegular file.path) =
      [⟨"a", "d/a"⟩, ⟨"b", "d/b"⟩, ⟨"z", "d/z"⟩] := by decide +kernel
  rw [InputFile.select, regular]
  exact List.mergeSort_of_pairwise (by decide +kernel)

theorem after_failing (calls : List Call) : failing.after calls linked = linked := by
  induction calls with
  | nil => rfl
  | cons call calls ih => exact ih

theorem unchanged_linked : Unchanged "d" linked linked :=
  ⟨linked.entries ["d"], linked.entries ["d"], rfl, rfl, .rfl, fun _ _ => Iff.rfl⟩

theorem run?_linked (found : linked.inputFiles "d" =
      .ok [⟨"a", "d/a"⟩, ⟨"b", "d/b"⟩, ⟨"z", "d/z"⟩]) :
    ∃ outcome table, failing.run? (plan .zero) linked = some outcome ∧
      outcome.result = .ok table := by
  have listing : (failing.tree linked).inputFiles (plan .zero).dir =
      .ok [⟨"a", "d/a"⟩, ⟨"b", "d/b"⟩, ⟨"z", "d/z"⟩] := found
  have walk : failing.Walk (plan .zero) linked
      [⟨⟨"A"⟩, [⟨"a", "d/a"⟩, ⟨"b", "d/b"⟩, ⟨"z", "d/z"⟩]⟩,
        ⟨⟨""⟩, [⟨"a", "d/a"⟩, ⟨"b", "d/b"⟩, ⟨"z", "d/z"⟩]⟩] linked := by
    refine .visit listing ?_
    rw [after_failing]
    refine .visit listing ?_
    rw [after_failing]
    exact .done
  have ok : ∃ table, (failing.run (plan .zero) linked).result = .ok table := by
    rw [Bench.run_of_goesOn walk [] rfl (Bench.goesOn_zero _)]
    exact ⟨_, rfl⟩
  obtain ⟨table, ok⟩ := ok
  exact ⟨_, table, Bench.run?_of_fits (by decide), ok⟩

end Sample

/-- Of eight entries three lead to a file, one of them through two links. -/
theorem inputFiles_determined_linked :
    hasNul "d" = false ∧ Sample.linked.isDirectory "d" = true ∧
    Sample.linked.inputFiles "d" = .ok [⟨"a", "d/a"⟩, ⟨"b", "d/b"⟩, ⟨"z", "d/z"⟩] ∧
    ∃ outcome table, Sample.failing.run? (Sample.plan .zero) Sample.linked = some outcome ∧
      outcome.result = .ok table ∧
      ∀ chart ∈ Chart.ofSummary table.summarize, chart.categories = ["a", "b", "z"] := by
  have clean : hasNul "d" = false := by decide +kernel
  have directory : Sample.linked.isDirectory "d" = true := by
    rw [Tree.isDirectory, Sample.resolve_linked]
  obtain ⟨location, links, files, way, found, -, -, anyOrder, -, charts⟩ :=
    inputFiles_determined Sample.linked "d" clean directory
  obtain ⟨count, -, toDir⟩ := Tree.leads_names_of_resolve Sample.resolve_linked
  obtain ⟨-, rfl, -⟩ := way.unique toDir
  obtain rfl := (anyOrder _ (by decide +kernel)).symm.trans Sample.select_linked
  obtain ⟨outcome, table, returned, ok⟩ := Sample.run?_linked found
  refine ⟨clean, directory, found, outcome, table, returned, ok, ?_⟩
  refine charts Sample.failing (Sample.plan .zero) Sample.linked outcome table rfl returned ok ?_
  intro before _
  rw [Sample.after_failing]
  exact Sample.unchanged_linked

end PhaseBench
