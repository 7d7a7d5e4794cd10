import PhaseBench.Proofs.Tree.Resolution

/-!
# What writing keeps

`stepsWith_cons_iff` says all that can happen when a path is followed by one more name.
What is found at the end of a path stands in the tree (`real_of_spot`).

Writing changes one regular file, or makes one where nothing stood (`write_cases`). The
directories, the links and the devices stay as they are (`alike_of_write`), so a path
leads to one of these after writing if it did so before. In particular the paths that
lead to the standard output are the same ones before and after (`Alike.isOutput_eq`).
-/

namespace PhaseBench.Tree

variable {tree : Tree} {purpose : Purpose}
  {onLink : Location → String → List String → Except OsError Spot}

/-! ## One more name -/

/-- A name that is looked for among the entries of a directory. -/
structure Sought (purpose : Purpose) (name : String) (rest : List String) : Prop where
  ne_stay : ¬ (name = "" ∨ name = ".")
  ne_up : name ≠ ".."
  ne_slash : ¬ (purpose = .write ∧ rest = [""])
  short : ¬ nameLimit < name.utf8ByteSize

/-- What can happen when a name is followed in a directory and then the names behind it. -/
inductive Onward (tree : Tree) (purpose : Purpose)
    (onLink : Location → String → List String → Except OsError Spot) (here : Location)
    (name : String) (rest : List String) (spot : Spot) : Prop
  | stay : name = "" ∨ name = "." → tree.stepsWith purpose onLink here rest = .ok spot →
      Onward tree purpose onLink here name rest spot
  | up : name = ".." → tree.stepsWith purpose onLink here.dropLast rest = .ok spot →
      Onward tree purpose onLink here name rest spot
  | named (target : String) : Sought purpose name rest →
      tree.node? (here ++ [name]) = some (.link target) → purpose = .name ∧ rest = [] →
      spot = .found (here ++ [name]) (.link target) → Onward tree purpose onLink here name rest spot
  | link (target : String) : Sought purpose name rest →
      tree.node? (here ++ [name]) = some (.link target) → ¬ (purpose = .name ∧ rest = []) →
      onLink here target rest = .ok spot → Onward tree purpose onLink here name rest spot
  | down (node : Node) : Sought purpose name rest → tree.node? (here ++ [name]) = some node →
      (∀ target, node ≠ .link target) →
      tree.stepsWith purpose onLink (here ++ [name]) rest = .ok spot →
      Onward tree purpose onLink here name rest spot
  | free : Sought purpose name rest → tree.node? (here ++ [name]) = none → rest = [] →
      spot = .vacant here name → Onward tree purpose onLink here name rest spot

/-- Names are followed from directories only. -/
theorem directory_of_stepsWith {here : Location} {name : String} {rest : List String} {spot : Spot}
    (followed : tree.stepsWith purpose onLink here (name :: rest) = .ok spot) :
    tree.node? here = some .directory := by
  rw [stepsWith] at followed
  split at followed
  · cases followed
  · next directory => exact directory
  · cases followed

theorem stepsWith_cons_iff {here : Location} {name : String} {rest : List String} {spot : Spot}
    (directory : tree.node? here = some .directory) :
    tree.stepsWith purpose onLink here (name :: rest) = .ok spot ↔
      tree.Onward purpose onLink here name rest spot := by
  rw [stepsWith, directory]
  simp only
  constructor
  · intro followed
    split at followed
    · next skip => exact .stay skip followed
    next ne_stay =>
    split at followed
    · next up => exact .up up followed
    next ne_up =>
    split at followed
    · cases followed
    next ne_slash =>
    split at followed
    · cases followed
    next short =>
    have sought : Sought purpose name rest := ⟨ne_stay, ne_up, ne_slash, short⟩
    split at followed
    · next target present =>
        split at followed
        · next last => exact .named target sought present last (Except.ok.inj followed).symm
        · next before => exact .link target sought present before followed
    · next node noLink present =>
        exact .down node sought present (fun target same => noLink target same) followed
    · next absent =>
        split at followed
        · next last => exact .free sought absent (by simpa using last) (Except.ok.inj followed).symm
        · cases followed
  · intro onward
    cases onward with
    | stay skip followed => rw [if_pos skip, followed]
    | up up followed =>
        subst up
        rw [if_neg (by decide), if_pos rfl, followed]
    | named target sought present last same =>
        rw [if_neg sought.ne_stay, if_neg sought.ne_up, if_neg sought.ne_slash,
          if_neg sought.short, present]
        simp only [if_pos last, same]
    | link target sought present before followed =>
        rw [if_neg sought.ne_stay, if_neg sought.ne_up, if_neg sought.ne_slash,
          if_neg sought.short, present]
        simp only [if_neg before, followed]
    | down node sought present noLink followed =>
        rw [if_neg sought.ne_stay, if_neg sought.ne_up, if_neg sought.ne_slash,
          if_neg sought.short, present]
        cases node with
        | link target => exact absurd rfl (noLink target)
        | file | directory | device | program => exact followed
    | free sought absent last same =>
        rw [if_neg sought.ne_stay, if_neg sought.ne_up, if_neg sought.ne_slash,
          if_neg sought.short, absent, last, same]
        rfl

/-! ## What is found stands in the tree -/

/-- A node that was found stands where it was found, and nothing stands at a free name. -/
def Real (tree : Tree) : Spot → Prop
  | .found location node => tree.node? location = some node
  | .vacant parent name => tree.node? (parent ++ [name]) = none

theorem stepsWith_nil_iff {here : Location} {spot : Spot} :
    tree.stepsWith purpose onLink here [] = .ok spot ↔
      ∃ node, tree.node? here = some node ∧ spot = .found here node := by
  rw [stepsWith]
  cases tree.node? here with
  | none => simp
  | some node => simp [eq_comm]

theorem real_of_stepsWith
    (onward : ∀ here target rest spot, onLink here target rest = .ok spot → tree.Real spot)
    {here : Location} {names : List String} {spot : Spot}
    (followed : tree.stepsWith purpose onLink here names = .ok spot) : tree.Real spot := by
  induction names generalizing here with
  | nil =>
      obtain ⟨node, present, rfl⟩ := stepsWith_nil_iff.mp followed
      exact present
  | cons name rest ih =>
      have directory := directory_of_stepsWith followed
      cases (stepsWith_cons_iff directory).mp followed with
      | stay _ behind => exact ih behind
      | up _ behind => exact ih behind
      | named target _ present _ same => exact same ▸ present
      | link target _ _ _ behind => exact onward _ _ _ _ behind
      | down _ _ _ _ behind => exact ih behind
      | free _ absent _ same => exact same ▸ absent

theorem real_of_steps {links : Nat} {here : Location} {names : List String} {spot : Spot}
    (followed : tree.steps purpose links here names = .ok spot) : tree.Real spot := by
  induction links generalizing here names spot with
  | zero =>
      refine real_of_stepsWith ?_ followed
      intro here target rest spot impossible
      cases impossible
  | succ links ih =>
      refine real_of_stepsWith ?_ followed
      intro here target rest spot behind
      exact ih behind

theorem steps_of_spot {path : String} {spot : Spot} (followed : tree.spot purpose path = .ok spot) :
    tree.steps purpose linkLimit (if Path.isAbsolute path then [] else tree.home)
      (Path.route path) = .ok spot := by
  rw [Tree.spot, spotFrom] at followed
  split at followed
  · cases followed
  · split at followed
    · cases followed
    · exact followed

theorem real_of_spot {path : String} {spot : Spot} (followed : tree.spot purpose path = .ok spot) :
    tree.Real spot :=
  real_of_steps (steps_of_spot followed)

/-! ## Trees that differ in regular files only -/

/-- Two trees have the same directories, links and devices. -/
structure Alike (before after : Tree) : Prop where
  home_eq : after.home = before.home
  node_iff : ∀ location node, node.isRegular = false →
    (after.node? location = some node ↔ before.node? location = some node)

namespace Alike

variable {before after later : Tree} {location : Location} {node : Node}

theorem refl (tree : Tree) : tree.Alike tree := ⟨rfl, fun _ _ _ => Iff.rfl⟩

theorem symm (alike : before.Alike after) : after.Alike before :=
  ⟨alike.home_eq.symm, fun location node special => (alike.node_iff location node special).symm⟩

theorem trans (alike : before.Alike after) (further : after.Alike later) : before.Alike later :=
  ⟨further.home_eq.trans alike.home_eq, fun location node special =>
    (further.node_iff location node special).trans (alike.node_iff location node special)⟩

/-- From a regular file a path leads nowhere else. -/
theorem isRegular_of_stepsWith {here : Location} {standing : Node} {names : List String}
    (present : before.node? here = some standing) (regular : standing.isRegular = true)
    (followed : before.stepsWith purpose onLink here names = .ok (.found location node)) :
    node.isRegular = true := by
  cases names with
  | nil =>
      obtain ⟨other, again, same⟩ := stepsWith_nil_iff.mp followed
      cases same
      rw [present] at again
      cases again
      exact regular
  | cons name rest =>
      rw [directory_of_stepsWith followed] at present
      cases present
      cases regular

theorem stepsWith (alike : before.Alike after) (special : node.isRegular = false)
    {onLink' : Location → String → List String → Except OsError Spot}
    (onward : ∀ here target rest, onLink here target rest = .ok (.found location node) →
      onLink' here target rest = .ok (.found location node))
    {here : Location} {names : List String}
    (followed : before.stepsWith purpose onLink here names = .ok (.found location node)) :
    after.stepsWith purpose onLink' here names = .ok (.found location node) := by
  induction names generalizing here with
  | nil =>
      obtain ⟨other, present, same⟩ := stepsWith_nil_iff.mp followed
      cases same
      exact stepsWith_nil_iff.mpr ⟨node, (alike.node_iff _ _ special).mpr present, rfl⟩
  | cons name rest ih =>
      have directory := directory_of_stepsWith followed
      have still := (alike.node_iff here .directory rfl).mpr directory
      refine (stepsWith_cons_iff still).mpr ?_
      cases (stepsWith_cons_iff directory).mp followed with
      | stay skip behind => exact .stay skip (ih behind)
      | up up behind => exact .up up (ih behind)
      | named target sought present last same =>
          exact .named target sought ((alike.node_iff _ _ rfl).mpr present) last same
      | link target sought present before behind =>
          exact .link target sought ((alike.node_iff _ _ rfl).mpr present) before
            (onward _ _ _ behind)
      | down entry sought present noLink behind =>
          have kept : entry.isRegular = false := by
            by_contra regular
            have found := isRegular_of_stepsWith present (Bool.eq_true_of_not_eq_false regular) behind
            rw [special] at found
            cases found
          exact .down entry sought ((alike.node_iff _ _ kept).mpr present) noLink (ih behind)
      | free _ _ _ impossible => cases impossible

theorem steps (alike : before.Alike after) (special : node.isRegular = false) {links : Nat}
    {here : Location} {names : List String}
    (followed : before.steps purpose links here names = .ok (.found location node)) :
    after.steps purpose links here names = .ok (.found location node) := by
  induction links generalizing here names with
  | zero =>
      refine alike.stepsWith special ?_ followed
      intro here target rest impossible
      cases impossible
  | succ links ih =>
      refine alike.stepsWith special ?_ followed
      intro here target rest behind
      exact ih behind

theorem spot (alike : before.Alike after) (special : node.isRegular = false) {path : String}
    (followed : before.spot purpose path = .ok (.found location node)) :
    after.spot purpose path = .ok (.found location node) := by
  rw [Tree.spot, spotFrom] at followed ⊢
  split at followed
  · cases followed
  next nonempty =>
  split at followed
  · cases followed
  next short =>
  rw [if_neg nonempty, if_neg short, alike.home_eq]
  exact alike.steps special followed

end Alike

/-! ## Writing -/

/-- Writing makes or replaces a regular file, or leaves the tree as it is. -/
theorem write_cases {path : String} {content : ByteArray} {after : Tree}
    (written : tree.write path content = .ok after) :
    after = tree ∨ ∃ location, location ≠ [] ∧
      (∀ node, tree.node? location = some node → node.isRegular = true) ∧
      after = tree.put location (.file content) := by
  unfold write at written
  cases followed : tree.spot .write path with
  | error error =>
      rw [followed] at written
      cases written
  | ok spot =>
      have real := real_of_spot followed
      rw [followed] at written
      cases spot with
      | vacant parent name =>
          cases written
          refine .inr ⟨parent ++ [name], by simp, ?_, rfl⟩
          intro node present
          rw [show tree.node? (parent ++ [name]) = none from real] at present
          cases present
      | found location node =>
          have present : tree.node? location = some node := real
          cases node with
          | directory | link => cases written
          | device kind =>
              left
              cases kind with
              | full =>
                  simp only at written
                  split at written
                  · exact (Except.ok.inj written).symm
                  · cases written
              | null | zero | descriptor => exact (Except.ok.inj written).symm
          | file | program =>
              cases written
              refine .inr ⟨location, ?_, ?_, rfl⟩
              · rintro rfl
                cases present
              · rintro other again
                rw [present] at again
                cases again
                rfl

theorem alike_of_write {path : String} {content : ByteArray} {after : Tree}
    (written : tree.write path content = .ok after) : tree.Alike after := by
  rcases write_cases written with rfl | ⟨location, below, regular, rfl⟩
  · exact .refl _
  · refine ⟨home_put _ _ _, ?_⟩
    intro other node special
    rw [node?_put tree below]
    split
    · next same =>
        subst same
        constructor
        · rintro ⟨rfl⟩
          cases special
        · intro present
          rw [regular node present] at special
          cases special
    · rfl

/-- A path leads a writer to the standard output if there is such a device at its end. -/
theorem isOutput_iff {path : String} :
    tree.isOutput path = true ↔
      ∃ location, tree.spot .write path = .ok (.found location (.device (.descriptor 1))) := by
  unfold isOutput
  split
  · next location found => simp [found]
  · next other => simpa using fun location found => other location found

theorem Alike.isOutput_eq {before after : Tree} (alike : before.Alike after) (path : String) :
    after.isOutput path = before.isOutput path := by
  rw [Bool.eq_iff_iff, isOutput_iff, isOutput_iff]
  refine ⟨fun ⟨location, found⟩ => ⟨location, ?_⟩, fun ⟨location, found⟩ => ⟨location, ?_⟩⟩
  · exact alike.symm.spot rfl found
  · exact alike.spot rfl found

end PhaseBench.Tree
