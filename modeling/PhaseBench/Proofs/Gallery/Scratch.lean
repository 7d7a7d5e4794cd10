import PhaseBench.Proofs.Gallery.Drawing
import PhaseBench.Proofs.Tree.Links

/-!
# Directories that are not kept

Charts that are not to be kept are drawn into a directory that was made for them
(`Tree.Fresh`). No chart of it reaches the standard output (`echoedFrom_of_fresh`), and
when the directory is taken away the files are again what they were before it was made,
however far the drawing came (`node?_removeAll_addAll`).
-/

namespace PhaseBench

namespace Tree

/-- A new and empty directory stands at a location, a path leads there, and all else is as it
was before. -/
structure Fresh (dir : String) (location : Location) (before after : Tree) : Prop where
  resolve_eq : after.resolve dir = .ok (location, .directory)
  /-- Nothing stood at the location or below it. -/
  free : ∀ below, before.node? (location ++ below) = none
  node_eq : ∀ other, after.node? other =
    if other = location then some .directory else before.node? other

namespace Fresh

variable {dir : String} {location : Location} {before after : Tree}

theorem ne_nil (fresh : Fresh dir location before after) : location ≠ [] := by
  rintro rfl
  have free := fresh.free []
  simp [node?] at free

theorem node?_child (fresh : Fresh dir location before after) (name : String) :
    after.node? (location ++ [name]) = none := by
  rw [fresh.node_eq, if_neg (by simp), fresh.free]

theorem reaches (fresh : Fresh dir location before after) : after.Reaches dir location := by
  obtain ⟨links, few, way⟩ := leads_names_of_resolve fresh.resolve_eq
  exact way.steps_eq few

end Fresh

/-! ## Taking a directory away -/

theorem node?_filter (tree : Tree) (keep : Location → Bool) {other : Location}
    (below : other ≠ []) :
    (tree.filter fun entry => keep entry.1).node? other =
      if keep other then tree.node? other else none := by
  unfold node? filter
  rw [if_neg below, if_neg below, List.find?_filter]
  split
  · next kept =>
      congr 2
      funext entry
      by_cases here : entry.1 = other <;> simp [here, kept]
  · next dropped =>
      rw [Option.map_eq_none_iff, List.find?_eq_none]
      rintro entry - both
      obtain ⟨kept, here⟩ : keep entry.1 = true ∧ entry.1 = other := by simpa using both
      exact dropped (here ▸ kept)

theorem node?_removeAll {tree : Tree} {dir : String} {location : Location} {node : Node}
    (resolved : tree.resolve dir = .ok (location, node)) (below : location ≠ [])
    (other : Location) :
    (tree.removeAll dir).node? other =
      if location.isPrefixOf other then none else tree.node? other := by
  rw [removeAll, resolved]
  by_cases root : other = []
  · subst root
    have outside : location.isPrefixOf [] = false := by
      cases location with
      | nil => exact absurd rfl below
      | cons => rfl
    simp [node?, outside]
  · rw [node?_filter _ (fun location' => !location.isPrefixOf location') root]
    by_cases inside : location.isPrefixOf other <;> simp [inside]

theorem Alike.resolve {before after : Tree} (alike : before.Alike after) {path : String}
    {location : Location} {node : Node} (special : node.isRegular = false)
    (resolved : before.resolve path = .ok (location, node)) :
    after.resolve path = .ok (location, node) := by
  have found : before.spot .reach path = .ok (.found location node) := by
    unfold Tree.resolve at resolved
    split at resolved <;> simp_all
  rw [Tree.resolve, alike.spot special found]

end Tree

namespace Gallery

variable {dir : String} {location : Location} {before opened : Tree}

theorem echoedFrom_of_fresh (fresh : Tree.Fresh dir location before opened) (index : Nat)
    (charts : List Chart) : echoedFrom dir index charts opened = [] := by
  refine echoedFrom_eq_nil fresh.reaches ?_ index charts
  intro name node present
  rw [fresh.node?_child] at present
  cases present

/-- Drawing charts changes nothing outside of the directory of the gallery, which holds no
links. -/
theorem node?_addAll {gallery : Gallery} {tree : Tree} (reached : tree.Reaches gallery.dir location)
    (noLinks : ∀ name target, tree.node? (location ++ [name]) ≠ some (.link target))
    (charts : List Chart) :
    tree.Alike (gallery.addAll tree charts).1 ∧
      ∀ other, (∀ name, other ≠ location ++ [name]) →
        (gallery.addAll tree charts).1.node? other = tree.node? other := by
  induction charts generalizing gallery tree with
  | nil => exact ⟨.refl tree, fun _ _ => rfl⟩
  | cons chart charts ih =>
      rcases gallery.add_cases tree chart with ⟨trace, added⟩ | ⟨next, written, added⟩
      · rw [addAll, added]
        exact ⟨.refl tree, fun _ _ => rfl⟩
      · have onward : gallery.addAll tree (chart :: charts) = addAll ⟨gallery.dir, gallery.files ++
            [pathOf gallery.dir gallery.files.length chart]⟩ next charts := by
          rw [addAll, added]
        rw [onward]
        have alike := Tree.alike_of_write written
        have again : next.Reaches gallery.dir location := by
          rw [Tree.Reaches, alike.home_eq]
          exact alike.steps rfl reached
        have still : ∀ name target, next.node? (location ++ [name]) ≠ some (.link target) :=
          fun name target link => noLinks name target ((alike.node_iff _ _ rfl).mp link)
        obtain ⟨later, elsewhere⟩ := @ih ⟨gallery.dir, gallery.files ++
          [pathOf gallery.dir gallery.files.length chart]⟩ next again still
        refine ⟨alike.trans later, ?_⟩
        intro other outside
        obtain ⟨-, -, -, -, changed⟩ := reached.node?_of_write_join (plain_fileName _ _)
          (noLinks _) written
        rw [elsewhere other outside, changed, if_neg (outside _)]

/-- When a directory that was made for charts is taken away, everything is as it was before. -/
theorem node?_removeAll_of_fresh {after : Tree} (fresh : Tree.Fresh dir location before opened)
    (alike : opened.Alike after)
    (elsewhere : ∀ other, (∀ name, other ≠ location ++ [name]) →
      after.node? other = opened.node? other) (other : Location) :
    (after.removeAll dir).node? other = before.node? other := by
  rw [Tree.node?_removeAll (alike.resolve rfl fresh.resolve_eq) fresh.ne_nil]
  split
  · next inside =>
      obtain ⟨below, rfl⟩ := List.isPrefixOf_iff_prefix.mp inside
      exact (fresh.free below).symm
  · next outside =>
      have apart : ∀ below, other ≠ location ++ below := by
        rintro below rfl
        exact outside (List.isPrefixOf_iff_prefix.mpr (List.prefix_append _ _))
      have here : other ≠ location := by simpa using apart []
      rw [elsewhere other fun name => apart [name], fresh.node_eq, if_neg here]

theorem node?_removeAll_addAll (fresh : Tree.Fresh dir location before opened)
    (charts : List Chart) (other : Location) :
    ((addAll ⟨dir, []⟩ opened charts).1.removeAll dir).node? other = before.node? other := by
  have noLinks : ∀ name target, opened.node? (location ++ [name]) ≠ some (.link target) := by
    intro name target link
    rw [fresh.node?_child] at link
    cases link
  obtain ⟨alike, elsewhere⟩ := @node?_addAll location ⟨dir, []⟩ opened fresh.reaches noLinks charts
  exact node?_removeAll_of_fresh fresh alike elsewhere other

end Gallery

end PhaseBench
