import PhaseBench.Proofs.Tree.Resolution

/-!
# Where links lead

`Tree.Leads` says without a bound how names lead from a location to a node, and counts the
links on the way. A way is finite, so links that go round in a loop lead nowhere, and there
is one way at most (`Leads.unique`). Following a path finds exactly the nodes to which a
way with few enough links leads (`steps_eq_found_iff`, `resolve_eq_ok_iff`).

A way can be cut at any directory on it (`leads_append_iff`). The way to an entry is
therefore the way to its directory and one name more, and both share the links that may be
followed (`resolve_join_iff`).
-/

namespace PhaseBench.Tree

variable {tree : Tree}

/-! ## Ways -/

/-- A name stands in a directory for a node: it is not one of those that stand for the directory
itself or for the one above, and it is not too long. -/
structure Entry (tree : Tree) (here : Location) (name : String) (node : Node) : Prop where
  directory : tree.node? here = some .directory
  ne_stay : ¬ (name = "" ∨ name = ".")
  ne_up : name ≠ ".."
  short : name.utf8ByteSize ≤ nameLimit
  node_eq : tree.node? (here ++ [name]) = some node

theorem Entry.unique {here : Location} {name : String} {node other : Node}
    (entry : tree.Entry here name node) (again : tree.Entry here name other) : node = other :=
  Option.some.inj (entry.node_eq.symm.trans again.node_eq)

/-- The names lead from a location to a node, through the given number of links. -/
inductive Leads (tree : Tree) : Nat → Location → List String → Location → Node → Prop
  | stop {here : Location} {node : Node} :
      tree.node? here = some node → Leads tree 0 here [] here node
  | stay {links : Nat} {here location : Location} {name : String} {rest : List String}
      {node : Node} :
      tree.node? here = some .directory → name = "" ∨ name = "." →
      Leads tree links here rest location node →
      Leads tree links here (name :: rest) location node
  | up {links : Nat} {here location : Location} {rest : List String} {node : Node} :
      tree.node? here = some .directory →
      Leads tree links here.dropLast rest location node →
      Leads tree links here (".." :: rest) location node
  | down {links : Nat} {here location : Location} {name : String} {rest : List String}
      {entry node : Node} :
      tree.Entry here name entry → (∀ target, entry ≠ .link target) →
      Leads tree links (here ++ [name]) rest location node →
      Leads tree links here (name :: rest) location node
  | link {links : Nat} {here location : Location} {name target : String} {rest : List String}
      {node : Node} :
      tree.Entry here name (.link target) →
      Leads tree links (if Path.isAbsolute target then [] else here) (Path.route target ++ rest)
        location node →
      Leads tree (links + 1) here (name :: rest) location node

/-- There is one way at most along some names. -/
theorem Leads.unique {links others : Nat} {here location place : Location} {names : List String}
    {node other : Node} (way : tree.Leads links here names location node)
    (second : tree.Leads others here names place other) :
    links = others ∧ location = place ∧ node = other := by
  induction way generalizing others with
  | stop found =>
      cases second with
      | stop again => exact ⟨rfl, rfl, Option.some.inj (found.symm.trans again)⟩
  | stay _ skip _ ih =>
      cases second with
      | stay _ _ rest => exact ih rest
      | up => simp at skip
      | down entry => exact absurd skip entry.ne_stay
      | link entry => exact absurd skip entry.ne_stay
  | up _ _ ih =>
      cases second with
      | stay _ skip => simp at skip
      | up _ rest => exact ih rest
      | down entry => exact absurd rfl entry.ne_up
      | link entry => exact absurd rfl entry.ne_up
  | down entry noLink _ ih =>
      cases second with
      | stay _ skip => exact absurd skip entry.ne_stay
      | up => exact absurd rfl entry.ne_up
      | down _ _ rest => exact ih rest
      | link again => exact absurd (entry.unique again) (noLink _)
  | link entry _ ih =>
      cases second with
      | stay _ skip => exact absurd skip entry.ne_stay
      | up => exact absurd rfl entry.ne_up
      | down again noLink => exact absurd (again.unique entry) (noLink _)
      | link again rest =>
          obtain rfl := Node.link.inj (entry.unique again)
          obtain ⟨rfl, same⟩ := ih rest
          exact ⟨rfl, same⟩

/-- A name that stands for the directory itself leads nowhere else. -/
theorem Leads.of_stay {links : Nat} {here location : Location} {name : String}
    {rest : List String} {node : Node} (way : tree.Leads links here (name :: rest) location node)
    (skip : name = "" ∨ name = ".") : tree.Leads links here rest location node := by
  cases way with
  | stay _ _ way => exact way
  | up => simp at skip
  | down entry => exact absurd skip entry.ne_stay
  | link entry => exact absurd skip entry.ne_stay

/-! ## Cutting a way -/

/-- What leads along some names to a directory and from there along others leads along all. -/
theorem Leads.append {links others : Nat} {here middle location : Location}
    {names more : List String} {node : Node}
    (way : tree.Leads links here names middle .directory)
    (onward : tree.Leads others middle more location node) :
    tree.Leads (links + others) here (names ++ more) location node := by
  generalize reached : Node.directory = last at way
  induction way with
  | stop => simpa using onward
  | stay directory skip _ ih => exact .stay directory skip (ih onward reached)
  | up directory _ ih => exact .up directory (ih onward reached)
  | down entry noLink _ ih => exact .down entry noLink (ih onward reached)
  | @link links _ _ _ target rest _ entry _ ih =>
      have further := ih onward reached
      rw [List.append_assoc] at further
      rw [Nat.add_right_comm]
      exact .link entry further

theorem Leads.cut_here {links : Nat} {here location : Location} {more all : List String}
    {node : Node} (directory : tree.node? here = some .directory)
    (way : tree.Leads links here all location node) (same : all = more) :
    ∃ first second middle, links = first + second ∧
      tree.Leads first here [] middle .directory ∧
      tree.Leads second middle more location node :=
  ⟨0, links, here, (Nat.zero_add links).symm, .stop directory, same ▸ way⟩

/-- A way leads through a directory wherever there are names left to follow. -/
theorem Leads.cut {links : Nat} {here location : Location} {names more all : List String}
    {node : Node} (way : tree.Leads links here all location node) (some_name : more ≠ [])
    (split : all = names ++ more) :
    ∃ first second middle, links = first + second ∧
      tree.Leads first here names middle .directory ∧
      tree.Leads second middle more location node := by
  induction way generalizing names with
  | stop => simp [some_name] at split
  | stay directory skip way ih =>
      cases names with
      | nil => exact cut_here directory (.stay directory skip way) split
      | cons other names =>
          obtain ⟨rfl, rfl⟩ := List.cons.inj split
          obtain ⟨first, second, middle, sum, before, behind⟩ := ih rfl
          exact ⟨first, second, middle, sum, .stay directory skip before, behind⟩
  | up directory way ih =>
      cases names with
      | nil => exact cut_here directory (.up directory way) split
      | cons other names =>
          obtain ⟨rfl, rfl⟩ := List.cons.inj split
          obtain ⟨first, second, middle, sum, before, behind⟩ := ih rfl
          exact ⟨first, second, middle, sum, .up directory before, behind⟩
  | down entry noLink way ih =>
      cases names with
      | nil => exact cut_here entry.directory (.down entry noLink way) split
      | cons other names =>
          obtain ⟨rfl, rfl⟩ := List.cons.inj split
          obtain ⟨first, second, middle, sum, before, behind⟩ := ih rfl
          exact ⟨first, second, middle, sum, .down entry noLink before, behind⟩
  | link entry way ih =>
      cases names with
      | nil => exact cut_here entry.directory (.link entry way) split
      | cons other names =>
          obtain ⟨rfl, rfl⟩ := List.cons.inj split
          -- The target of the link is followed before the names that are left.
          obtain ⟨first, second, middle, rfl, before, behind⟩ := ih (List.append_assoc ..).symm
          exact ⟨first + 1, second, middle, by omega, .link entry before, behind⟩

theorem leads_append_iff {links : Nat} {here location : Location} {names more : List String}
    {node : Node} (some_name : more ≠ []) :
    tree.Leads links here (names ++ more) location node ↔
      ∃ first second middle, links = first + second ∧
        tree.Leads first here names middle .directory ∧
        tree.Leads second middle more location node := by
  constructor
  · intro way
    exact way.cut some_name rfl
  · rintro ⟨first, second, middle, rfl, before, behind⟩
    exact before.append behind

/-! ## Following names -/

theorem stepsWith_stay {onLink : Location → String → List String → Except OsError Spot}
    {here : Location} {name : String} (directory : tree.node? here = some .directory)
    (skip : name = "" ∨ name = ".") (rest : List String) :
    tree.stepsWith .reach onLink here (name :: rest) = tree.stepsWith .reach onLink here rest := by
  rw [stepsWith, directory]
  exact if_pos skip

theorem stepsWith_up {onLink : Location → String → List String → Except OsError Spot}
    {here : Location} (directory : tree.node? here = some .directory) (rest : List String) :
    tree.stepsWith .reach onLink here (".." :: rest) =
      tree.stepsWith .reach onLink here.dropLast rest := by
  rw [stepsWith, directory]
  rfl

/-- What is done with a name that stands for a node. -/
theorem Entry.stepsWith_eq {onLink : Location → String → List String → Except OsError Spot}
    {here : Location} {name : String} {node : Node} (entry : tree.Entry here name node)
    (rest : List String) :
    tree.stepsWith .reach onLink here (name :: rest) =
      match node with
      | .link target => onLink here target rest
      | _ => tree.stepsWith .reach onLink (here ++ [name]) rest := by
  rw [stepsWith, entry.directory]
  simp only [if_neg entry.ne_stay, if_neg entry.ne_up, reduceCtorEq, false_and, if_false,
    if_neg (Nat.not_lt_of_le entry.short), entry.node_eq]
  cases node <;> rfl

/-- A way with few enough links is followed to its end. -/
theorem Leads.steps_eq {links bound : Nat} {here location : Location} {names : List String}
    {node : Node} (way : tree.Leads links here names location node) (few : links ≤ bound) :
    tree.steps .reach bound here names = .ok (.found location node) := by
  induction way generalizing bound with
  | @stop here _ found => cases bound <;> simp only [steps, stepsWith, found]
  | stay directory skip _ ih =>
      cases bound <;> exact (stepsWith_stay directory skip _).trans (ih few)
  | up directory _ ih => cases bound <;> exact (stepsWith_up directory _).trans (ih few)
  | @down _ _ _ _ _ node _ entry noLink _ ih =>
      cases node with
      | link target => exact absurd rfl (noLink target)
      | file | directory | device | program =>
          cases bound <;> exact (entry.stepsWith_eq _).trans (ih few)
  | link entry _ ih =>
      obtain ⟨bound, rfl⟩ := Nat.exists_eq_add_of_le' (Nat.le_trans (Nat.le_add_left 1 _) few)
      exact (entry.stepsWith_eq _).trans (ih (Nat.le_of_succ_le_succ few))

/-- Names that are followed to a node lead to it, if the links on the way do. -/
theorem leads_of_stepsWith {onLink : Location → String → List String → Except OsError Spot}
    {bound : Nat} {location : Location} {node : Node}
    (onward : ∀ here target rest, onLink here target rest = .ok (.found location node) →
      ∃ links < bound, tree.Leads links (if Path.isAbsolute target then [] else here)
        (Path.route target ++ rest) location node)
    {here : Location} {names : List String}
    (found : tree.stepsWith .reach onLink here names = .ok (.found location node)) :
    ∃ links ≤ bound, tree.Leads links here names location node := by
  induction names generalizing here with
  | nil =>
      rw [stepsWith] at found
      split at found
      · next present =>
          cases found
          exact ⟨0, Nat.zero_le _, .stop present⟩
      · cases found
  | cons name rest ih =>
      rw [stepsWith] at found
      split at found
      · cases found
      · next directory =>
          simp only [reduceCtorEq, false_and, if_false] at found
          split at found
          · next skip =>
              obtain ⟨links, few, way⟩ := ih found
              exact ⟨links, few, .stay directory skip way⟩
          · next noSkip =>
              split at found
              · next up =>
                  subst up
                  obtain ⟨links, few, way⟩ := ih found
                  exact ⟨links, few, .up directory way⟩
              · next noUp =>
                  split at found
                  · cases found
                  · next short =>
                      have entry : ∀ node, tree.node? (here ++ [name]) = some node →
                          tree.Entry here name node := fun node present =>
                        ⟨directory, noSkip, noUp, Nat.le_of_not_lt short, present⟩
                      split at found
                      · next target present =>
                          obtain ⟨links, few, way⟩ := onward here target rest found
                          exact ⟨links + 1, few, .link (entry _ present) way⟩
                      · next other noLink present =>
                          obtain ⟨links, few, way⟩ := ih found
                          exact ⟨links, few, .down (entry _ present) noLink way⟩
                      · split at found <;> cases found
      · cases found

/-- Following names finds the nodes to which they lead through few enough links. -/
theorem steps_eq_found_iff {bound : Nat} {here location : Location} {names : List String}
    {node : Node} :
    tree.steps .reach bound here names = .ok (.found location node) ↔
      ∃ links ≤ bound, tree.Leads links here names location node := by
  constructor
  · intro found
    induction bound generalizing here names with
    | zero =>
        refine leads_of_stepsWith ?_ found
        intro here target rest impossible
        cases impossible
    | succ bound ih =>
        refine leads_of_stepsWith ?_ found
        intro here target rest behind
        obtain ⟨links, few, way⟩ := ih behind
        exact ⟨links, Nat.lt_succ_of_le few, way⟩
  · rintro ⟨links, few, way⟩
    exact way.steps_eq few

/-! ## Paths -/

/-- The location from which the names of a path are followed. -/
def origin (tree : Tree) (path : String) : Location :=
  if Path.isAbsolute path then [] else tree.home

/-- A path resolves to the node to which its names lead, unless it is too long or goes through
too many links. -/
theorem resolve_eq_ok_iff {path : String} {location : Location} {node : Node} :
    tree.resolve path = .ok (location, node) ↔
      path ≠ "" ∧ path.utf8ByteSize < pathLimit ∧
        ∃ links ≤ linkLimit,
          tree.Leads links (tree.origin path) (Path.route path) location node := by
  rw [← steps_eq_found_iff, origin, resolve, spot, spotFrom]
  by_cases empty : path = ""
  · simp [empty]
  · by_cases long : pathLimit ≤ path.utf8ByteSize
    · simp [empty, long, Nat.not_lt_of_le long]
    · rw [if_neg empty, if_neg long]
      have short : path.utf8ByteSize < pathLimit := Nat.lt_of_not_le long
      simp only [ne_eq, empty, not_false_eq_true, short, true_and]
      split <;> simp_all

/-- The names of a path lead to the directory to which it resolves, also where the path ends in
a slash. -/
theorem leads_names_of_resolve {dir : String} {location : Location}
    (resolved : tree.resolve dir = .ok (location, .directory)) :
    ∃ links ≤ linkLimit,
      tree.Leads links (tree.origin dir) (Path.names dir) location .directory := by
  obtain ⟨-, -, links, few, way⟩ := resolve_eq_ok_iff.mp resolved
  rw [Path.route] at way
  split at way
  · obtain ⟨first, second, middle, rfl, before, behind⟩ := (leads_append_iff (by simp)).mp way
    cases behind.of_stay (.inl rfl) with
    | stop => exact ⟨first, few, before⟩
  · exact ⟨links, few, way⟩

/-- The path of an entry resolves to the node to which its name leads from the directory. The
links on the way to the directory count too. -/
theorem resolve_join_iff {dir name : String} {place location : Location} {node : Node}
    {count : Nat} (plain : Path.Plain name)
    (way : tree.Leads count (tree.origin dir) (Path.names dir) place .directory) :
    tree.resolve (Path.join dir name) = .ok (location, node) ↔
      (Path.join dir name).utf8ByteSize < pathLimit ∧
        ∃ links, count + links ≤ linkLimit ∧ tree.Leads links place [name] location node := by
  have start : tree.origin (Path.join dir name) = tree.origin dir := by
    rw [origin, origin, Path.isAbsolute_join plain]
  rw [resolve_eq_ok_iff, Path.route_join plain, start]
  refine ⟨?_, ?_⟩
  · rintro ⟨-, short, links, few, whole⟩
    obtain ⟨first, second, middle, rfl, before, behind⟩ := (leads_append_iff (by simp)).mp whole
    obtain ⟨rfl, rfl, -⟩ := before.unique way
    exact ⟨short, second, few, behind⟩
  · rintro ⟨short, links, few, onward⟩
    exact ⟨Path.join_ne_empty plain dir, short, _, few, way.append onward⟩

end PhaseBench.Tree
