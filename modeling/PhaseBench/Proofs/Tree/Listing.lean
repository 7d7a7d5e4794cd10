import Mathlib
import PhaseBench.Proofs.Table.Basic
import PhaseBench.Tree.InputFiles

/-!
# Listings of input files

What a listing of input files looks like, whatever the directory holds: the names
are strictly increasing by their bytes (`Listed.sorted`), so no name and no path
occurs twice, and every path is made of the directory and the name. A listing that
fails names the directory and nothing else (`Tree.inputFiles_error`).

The order is strict because no two entries of a directory have one name
(`Tree.nodup_entries`).
-/

namespace PhaseBench

/-! ## Entries of a directory -/

/-- No two entries of a directory have one name. -/
theorem Tree.nodup_entries (tree : Tree) (location : Location) :
    (tree.entries location).Nodup := by
  have different : tree.nodes.Pairwise fun a b => a.1 ≠ b.1 := List.pairwise_map.mp tree.distinct
  refine List.Pairwise.filterMap _ ?_ different
  intro a b apart name nameOfA other nameOfB same
  subst same
  simp only [Option.ite_none_right_eq_some] at nameOfA nameOfB
  obtain ⟨aHere, aName⟩ := nameOfA
  obtain ⟨bHere, bName⟩ := nameOfB
  apply apart
  rw [← List.dropLast_append_getLast? name aName, ← List.dropLast_append_getLast? name bName,
    aHere, bHere]

theorem Path.join_injective (dir : String) : Function.Injective (Path.join dir) := by
  intro a b same
  unfold Path.join at same
  split at same <;> simpa [String.append_right_inj] using same

/-! ## Listings -/

/-- The files of a listing: strictly increasing by the bytes of the names, each at the path
of its name in the directory. -/
structure Listed (dir : String) (files : List InputFile) : Prop where
  sorted : files.Pairwise fun a b => nameBefore a.name b.name
  path_eq : ∀ file ∈ files, file.path = Path.join dir file.name

namespace Listed

variable {dir : String} {files : List InputFile} {file : InputFile}

theorem nodup_path (listed : Listed dir files) : (files.map (·.path)).Nodup := by
  rw [List.Nodup, List.pairwise_map]
  refine listed.sorted.imp_of_mem ?_
  intro a b ha hb before same
  rw [listed.path_eq a ha, listed.path_eq b hb] at same
  exact ne_of_nameBefore before (Path.join_injective dir same)

theorem path_notMem (listed : Listed dir (file :: files)) : file.path ∉ files.map (·.path) := by
  have distinct := listed.nodup_path
  rw [List.map_cons, List.nodup_cons] at distinct
  exact distinct.1

theorem tail (listed : Listed dir (file :: files)) : Listed dir files :=
  ⟨listed.sorted.tail, fun other member => listed.path_eq other (List.mem_cons_of_mem _ member)⟩

end Listed

namespace InputFile

theorem inOrder_trans (a b c : InputFile) (hab : a.inOrder b) (hbc : b.inOrder c) :
    a.inOrder c := by
  simp only [inOrder, Bool.not_eq_true'] at hab hbc ⊢
  rw [Bool.eq_false_iff]
  intro hca
  -- The name of `b` is neither before that of `a` nor after that of `c`.
  by_cases hcb : nameBefore b.name c.name
  · rw [nameBefore_trans hcb hca] at hab
    exact Bool.noConfusion hab
  · have same : c.name = b.name := eq_of_not_nameBefore (by simp [hbc]) hcb
    rw [same, hab] at hca
    exact Bool.noConfusion hca

theorem inOrder_total (a b : InputFile) : (a.inOrder b || b.inOrder a) = true := by
  by_cases h : nameBefore a.name b.name
  · simp [inOrder, not_nameBefore_of_nameBefore h]
  · simp [inOrder, h]

/-- The files selected from distinct entries are a listing. -/
theorem listed_select (tree : Tree) (dir : String) {entries : List String}
    (distinct : entries.Nodup) : Listed dir (select tree dir entries) := by
  have perm := List.mergeSort_perm
    ((entries.map (ofEntry dir)).filter fun file => tree.isRegular file.path) inOrder
  have known : ∀ file ∈ select tree dir entries, ∃ name ∈ entries, ofEntry dir name = file := by
    intro file member
    exact List.mem_map.mp (List.mem_of_mem_filter (perm.mem_iff.mp member))
  have apart : (select tree dir entries).Pairwise fun a b => a.name ≠ b.name := by
    refine perm.symm.pairwise ?_ (fun h => h.symm)
    refine List.Pairwise.filter _ ?_
    rw [List.pairwise_map]
    exact distinct
  refine ⟨?_, ?_⟩
  · refine ((List.pairwise_mergeSort inOrder_trans inOrder_total _).and apart).imp ?_
    intro a b ⟨ordered, different⟩
    by_contra notBefore
    simp only [inOrder, Bool.not_eq_true'] at ordered
    exact different (eq_of_not_nameBefore notBefore (by simp [ordered]))
  · intro file member
    obtain ⟨name, -, rfl⟩ := known file member
    rfl

end InputFile

namespace Tree

variable {tree : Tree} {dir : String}

theorem listed_of_inputFiles {files : List InputFile} (h : tree.inputFiles dir = .ok files) :
    Listed dir files := by
  unfold inputFiles at h
  split at h
  · cases h
  · split at h
    · next entries listing =>
      cases h
      unfold list at listing
      split at listing
      · cases listing
        exact InputFile.listed_select tree dir (tree.nodup_entries _)
      · cases listing
      · cases listing
    · cases h

/-- A listing that fails has only the reading of the directory around its cause. -/
theorem inputFiles_error {trace : Trace} (h : tree.inputFiles dir = .error trace) :
    ∃ cause, trace = ⟨[.readDirectory dir], cause⟩ := by
  unfold inputFiles at h
  split at h
  · cases h
    exact ⟨_, rfl⟩
  · split at h
    · cases h
    · cases h
      exact ⟨_, rfl⟩

end Tree

end PhaseBench
