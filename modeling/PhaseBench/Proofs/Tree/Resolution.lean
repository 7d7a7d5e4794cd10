import Mathlib
import PhaseBench.Tree.Basic

/-!
# Where the path of an entry leads

The path of a name in a directory leads where the path of the directory leads, and
from there to the entry of that name (`spot_join`). This holds through any links on
the way to the directory, because following names does not depend on what comes
behind them until the directory is reached (`steps_concat`).

Putting a node at a location changes what stands there and nothing else
(`node?_put`). A path to a directory goes through directories and links only, so it
leads to the same directory as long as these stay (`steps_of_keeps`).
-/

namespace PhaseBench

/-! ## Names in a path -/

namespace Path

/-- A name that stands for an entry of a directory: not empty, without a slash, and not one
of the two names that stand for the directory itself and for the one above. -/
structure Plain (name : String) : Prop where
  ne_empty : name ≠ ""
  no_slash : '/' ∉ name.toList
  ne_dot : name ≠ "."
  ne_dots : name ≠ ".."

theorem cut_cons_self (c : Char) (cs : List Char) : cut c (c :: cs) = [] :: cut c cs := by
  rw [cut, List.foldr_cons, if_pos rfl, ← cut]

theorem cut_cons_of_ne {c x : Char} (different : x ≠ c) {cs part : List Char}
    {rest : List (List Char)} (split : cut c cs = part :: rest) :
    cut c (x :: cs) = (x :: part) :: rest := by
  rw [cut, List.foldr_cons, ← cut, if_neg different, split]

theorem cut_ne_nil (c : Char) (cs : List Char) : cut c cs ≠ [] := by
  induction cs with
  | nil => exact List.cons_ne_nil _ _
  | cons x cs ih =>
      by_cases same : x = c
      · rw [same, cut_cons_self]
        exact List.cons_ne_nil _ _
      · obtain ⟨part, rest, split⟩ := List.exists_cons_of_ne_nil ih
        rw [cut_cons_of_ne same split]
        exact List.cons_ne_nil _ _

theorem cut_of_notMem {c : Char} {cs : List Char} (absent : c ∉ cs) : cut c cs = [cs] := by
  induction cs with
  | nil => rfl
  | cons x cs ih =>
      rw [List.mem_cons, not_or] at absent
      exact cut_cons_of_ne (Ne.symm absent.1) (ih absent.2)

theorem cut_append_cons (c : Char) (first second : List Char) :
    cut c (first ++ c :: second) = cut c first ++ cut c second := by
  induction first with
  | nil =>
      rw [List.nil_append, cut_cons_self]
      rfl
  | cons x first ih =>
      rw [List.cons_append]
      by_cases same : x = c
      · rw [same, cut_cons_self, cut_cons_self, ih, List.cons_append]
      · obtain ⟨part, rest, split⟩ := List.exists_cons_of_ne_nil (cut_ne_nil c first)
        rw [split, List.cons_append] at ih
        rw [cut_cons_of_ne same split, cut_cons_of_ne same ih, List.cons_append]

theorem names_append_slash (dir : String) (name : String) :
    names (dir ++ "/" ++ name) = names dir ++ names name := by
  have chars : (dir ++ "/" ++ name).toList = dir.toList ++ '/' :: name.toList := by simp
  rw [names, chars, cut_append_cons, List.map_append, List.filter_append]
  rfl

theorem Plain.names_eq {name : String} (plain : Plain name) : names name = [name] := by
  rw [names, cut_of_notMem plain.no_slash]
  simp [plain.ne_empty]

theorem names_empty : names "" = [] := by decide

/-- A path that ends in a slash has the names of the path before the slash. -/
theorem exists_of_endsInSlash {dir : String} (slash : endsInSlash dir) :
    ∃ before, dir = before ++ "/" := by
  have last : dir.toList.getLast? = some '/' := by simpa [endsInSlash] using slash
  refine ⟨String.ofList dir.toList.dropLast, String.toList_injective ?_⟩
  rw [String.toList_append, String.toList_ofList]
  exact (List.dropLast_append_getLast? '/' last).symm

theorem names_join {name : String} (plain : Plain name) (dir : String) :
    names (join dir name) = names dir ++ [name] := by
  unfold join
  split
  · next short =>
      rcases Bool.or_eq_true_iff.mp short with empty | slash
      · obtain rfl : dir = "" := by simpa using empty
        rw [names_empty, String.empty_append, plain.names_eq]
        rfl
      · obtain ⟨before, rfl⟩ := exists_of_endsInSlash slash
        have bare := names_append_slash before ""
        rw [String.append_empty] at bare
        rw [names_append_slash, bare, names_empty, plain.names_eq, List.append_nil]
  · rw [names_append_slash, plain.names_eq]

theorem toList_join (dir name : String) :
    ∃ before, (join dir name).toList = before ++ name.toList ∧
      (before = dir.toList ∨ before = dir.toList ++ ['/'] ∧ dir ≠ "") := by
  unfold join
  split
  · exact ⟨dir.toList, String.toList_append, .inl rfl⟩
  · next long =>
      refine ⟨dir.toList ++ ['/'], by simp, .inr ⟨rfl, ?_⟩⟩
      rintro rfl
      simp at long

theorem endsInSlash_join {name : String} (plain : Plain name) (dir : String) :
    endsInSlash (join dir name) = false := by
  obtain ⟨before, chars, -⟩ := toList_join dir name
  have some_char : name.toList ≠ [] := by simpa using plain.ne_empty
  have last : (join dir name).toList.getLast? = some (name.toList.getLast some_char) := by
    rw [chars, List.getLast?_append_of_ne_nil _ some_char, List.getLast?_eq_some_getLast some_char]
  have other : name.toList.getLast some_char ≠ '/' := fun slash =>
    plain.no_slash (slash ▸ List.getLast_mem some_char)
  simpa [endsInSlash, last] using other

theorem isAbsolute_join {name : String} (plain : Plain name) (dir : String) :
    isAbsolute (join dir name) = isAbsolute dir := by
  obtain ⟨before, chars, begins⟩ := toList_join dir name
  unfold isAbsolute
  rw [chars]
  rcases dirChars : dir.toList with _ | ⟨c, cs⟩
  · -- The empty path joins to the name alone, which does not begin with a slash.
    have nothing : before = [] := by
      rcases begins with same | ⟨-, some_char⟩
      · rw [same, dirChars]
      · exact absurd (by simpa using dirChars) some_char
    have other : name.toList.head? ≠ some '/' := fun slash =>
      plain.no_slash (List.mem_of_head? slash)
    simpa [nothing] using other
  · rcases begins with same | ⟨same, -⟩ <;> rw [same, dirChars] <;> rfl

theorem join_ne_empty {name : String} (plain : Plain name) (dir : String) :
    join dir name ≠ "" := by
  intro empty
  obtain ⟨before, chars, -⟩ := toList_join dir name
  rw [empty] at chars
  have none_char : name.toList = [] := (List.append_eq_nil_iff.mp chars.symm).2
  exact plain.ne_empty (by simpa using none_char)

theorem utf8ByteSize_le_join (dir name : String) :
    dir.utf8ByteSize ≤ (join dir name).utf8ByteSize := by
  unfold join
  split <;> simp only [String.utf8ByteSize_append] <;> omega

theorem route_join {name : String} (plain : Plain name) (dir : String) :
    route (join dir name) = names dir ++ [name] := by
  rw [route, endsInSlash_join plain, if_neg Bool.false_ne_true, names_join plain]

end Path

namespace Tree

/-! ## Nodes -/

theorem find?_replace_self {nodes : List (Location × Node)} {location : Location} (node : Node)
    (taken : nodes.any (·.1 == location)) :
    ((nodes.map fun entry => if entry.1 == location then (location, node) else entry).find?
      fun entry => entry.1 == location) = some (location, node) := by
  induction nodes with
  | nil => exact absurd taken (by simp)
  | cons entry nodes ih =>
      by_cases same : entry.1 = location
      · simp [same]
      · have later : nodes.any (·.1 == location) := by simpa [same] using taken
        simpa [same] using ih later

theorem find?_replace_of_ne {location other : Location} (different : other ≠ location)
    (nodes : List (Location × Node)) (node : Node) :
    ((nodes.map fun entry => if entry.1 == location then (location, node) else entry).find?
      fun entry => entry.1 == other) = nodes.find? fun entry => entry.1 == other := by
  induction nodes with
  | nil => rfl
  | cons entry nodes ih =>
      by_cases same : entry.1 = location
      · simpa [same, Ne.symm different] using ih
      · by_cases found : entry.1 = other
        · simp [found, different]
        · simpa [same, found] using ih

/-- A node that is put stands where it was put, and all others stay. -/
theorem node?_put (tree : Tree) {location : Location} (below : location ≠ []) (node : Node)
    (other : Location) :
    (tree.put location node).node? other =
      if other = location then some node else tree.node? other := by
  by_cases root : other = []
  · subst root
    simp [node?, Ne.symm below]
  · unfold put
    split
    · next taken =>
        by_cases wanted : other = location
        · subst wanted
          simp only [node?, root, if_false, if_true, find?_replace_self node taken,
            Option.map_some]
        · simp only [node?, root, wanted, if_false, find?_replace_of_ne wanted]
    · next free =>
        have absent : location ∉ tree.nodes.map (·.1) := by
          intro member
          obtain ⟨entry, inside, same⟩ := List.mem_map.mp member
          exact free (List.any_eq_true.mpr ⟨entry, inside, by simpa using same⟩)
        by_cases wanted : other = location
        · subst wanted
          have missing : tree.nodes.find? (fun entry => entry.1 == other) = none := by
            rw [List.find?_eq_none]
            intro entry inside same
            exact absent (List.mem_map.mpr ⟨entry, inside, by simpa using same⟩)
          simp [node?, root, List.find?_append, missing]
        · simp [node?, root, List.find?_append, wanted, Ne.symm wanted]

@[simp]
theorem home_put (tree : Tree) (location : Location) (node : Node) :
    (tree.put location node).home = tree.home := by
  unfold put
  split <;> rfl

/-! ## Following a path to an entry -/

/-- Where a name in a directory leads. -/
def childSpot (tree : Tree) (location : Location) (name : String) : Except OsError Spot :=
  if nameLimit < name.utf8ByteSize then .error .nameTooLong
  else
    match tree.node? (location ++ [name]) with
    | some node => .ok (.found (location ++ [name]) node)
    | none => .ok (.vacant location name)

/-- How a path that is one name longer goes on: from a directory to the entry of that name,
as far as this is not a link, and nowhere if the shorter path leads to no directory. -/
def Continues (tree : Tree) (name : String) (short long : Except OsError Spot) : Prop :=
  match short with
  | .ok (.found location .directory) =>
    (∀ target, tree.node? (location ++ [name]) ≠ some (.link target)) →
      long = tree.childSpot location name
  | _ => ∃ error, long = .error error

variable {tree : Tree} {name : String} {purpose : Purpose}

theorem stepsWith_entry (plain : Path.Plain name)
    {onLink : Location → String → List String → Except OsError Spot} {here : Location}
    (directory : tree.node? here = some .directory)
    (noLink : ∀ target, tree.node? (here ++ [name]) ≠ some (.link target)) :
    tree.stepsWith purpose onLink here [name] = tree.childSpot here name := by
  obtain ⟨notEmpty, -, notDot, notDots⟩ := plain
  rw [stepsWith, directory]
  simp only [notEmpty, notDot, notDots, or_self, if_false, List.nil_eq, reduceCtorEq, and_false,
    childSpot, List.isEmpty_nil, if_true]
  split
  · rfl
  · cases entry : tree.node? (here ++ [name]) with
    | none => rfl
    | some node =>
        cases node with
        | link target => exact absurd entry (noLink target)
        | file | directory | device | program => simp only [stepsWith, entry]

theorem stepsWith_concat (plain : Path.Plain name)
    {onShort onLong : Location → String → List String → Except OsError Spot}
    (onward : ∀ here target rest,
      tree.Continues name (onShort here target rest) (onLong here target (rest ++ [name])))
    (here : Location) (names : List String) :
    tree.Continues name (tree.stepsWith .reach onShort here names)
      (tree.stepsWith purpose onLong here (names ++ [name])) := by
  induction names generalizing here with
  | nil =>
      rw [List.nil_append, stepsWith]
      cases found : tree.node? here with
      | none => exact ⟨.noEntry, by rw [stepsWith, found]⟩
      | some node =>
          cases node with
          | directory => exact stepsWith_entry plain found
          | file | link | device | program => exact ⟨.notDirectory, by rw [stepsWith, found]⟩
  | cons first names ih =>
      have longer : names ++ [name] ≠ [""] := by
        intro same
        have last := congrArg List.getLast? same
        simp [plain.ne_empty] at last
      have notNil : names ++ [name] ≠ [] := by simp
      have someName : (names ++ [name]).isEmpty = false := by simp
      rw [List.cons_append, stepsWith, stepsWith]
      cases found : tree.node? here with
      | none => exact ⟨_, rfl⟩
      | some node =>
          cases node with
          | file | link | device | program => exact ⟨_, rfl⟩
          | directory =>
              simp only [longer, notNil, and_false, reduceCtorEq, false_and, if_false]
              split
              · exact ih here
              · split
                · exact ih here.dropLast
                · split
                  · exact ⟨_, rfl⟩
                  · cases tree.node? (here ++ [first]) with
                    | none =>
                        simp only [someName, Bool.false_eq_true, if_false]
                        split <;> exact ⟨_, rfl⟩
                    | some node =>
                        cases node with
                        | link target => exact onward here target names
                        | file | directory | device | program => exact ih (here ++ [first])

/-- Following a path that is one name longer. -/
theorem steps_concat (tree : Tree) (plain : Path.Plain name) (purpose : Purpose) (links : Nat)
    (here : Location) (names : List String) :
    tree.Continues name (tree.steps .reach links here names)
      (tree.steps purpose links here (names ++ [name])) := by
  induction links generalizing here names with
  | zero =>
      refine stepsWith_concat plain ?_ here names
      intro here target rest
      exact ⟨_, rfl⟩
  | succ links ih =>
      refine stepsWith_concat plain ?_ here names
      intro here target rest
      rw [← List.append_assoc]
      exact ih _ _

/-! ## Directories that stay -/

/-- Every directory and every link of a tree stands in another tree too. -/
structure Keeps (before after : Tree) : Prop where
  directory : ∀ location, before.node? location = some .directory →
    after.node? location = some .directory
  link : ∀ location target, before.node? location = some (.link target) →
    after.node? location = some (.link target)

theorem stepsWith_idle {onLink : Location → String → List String → Except OsError Spot}
    {here : Location} (directory : tree.node? here = some .directory) {idle : List String}
    (stays : ∀ name ∈ idle, name = "" ∨ name = ".") :
    tree.stepsWith .reach onLink here idle = .ok (.found here .directory) := by
  induction idle with
  | nil => rw [stepsWith, directory]
  | cons name idle ih =>
      rw [stepsWith, directory]
      simp only [stays name List.mem_cons_self, if_true]
      exact ih fun other member => stays other (List.mem_cons_of_mem _ member)

/-- Behind what is not a directory there is none. -/
theorem stepsWith_ne_directory {onLink : Location → String → List String → Except OsError Spot}
    {here location : Location} {node : Node} (found : tree.node? here = some node)
    (other : node ≠ .directory) (names : List String) :
    tree.stepsWith purpose onLink here names ≠ .ok (.found location .directory) := by
  intro reached
  cases names with
  | nil =>
      rw [stepsWith, found] at reached
      simp_all
  | cons first names =>
      rw [stepsWith, found] at reached
      cases node with
      | directory => exact other rfl
      | file | link | device | program => cases reached

theorem stepsWith_of_keeps {after : Tree} (keeps : Keeps tree after) {idle : List String}
    (stays : ∀ name ∈ idle, name = "" ∨ name = ".") {location : Location}
    {onLink onLink' : Location → String → List String → Except OsError Spot}
    (onward : ∀ here target rest, onLink here target rest = .ok (.found location .directory) →
      onLink' here target (rest ++ idle) = .ok (.found location .directory))
    {here : Location} {names : List String}
    (reached : tree.stepsWith .reach onLink here names = .ok (.found location .directory)) :
    after.stepsWith .reach onLink' here (names ++ idle) = .ok (.found location .directory) := by
  induction names generalizing here with
  | nil =>
      rw [stepsWith] at reached
      cases found : tree.node? here with
      | none => simp [found] at reached
      | some node =>
          obtain ⟨rfl, rfl⟩ : here = location ∧ node = .directory := by simpa [found] using reached
          exact stepsWith_idle (keeps.directory here found) stays
  | cons first names ih =>
      have isDirectory : tree.node? here = some .directory := by
        cases found : tree.node? here with
        | none => simp [stepsWith, found] at reached
        | some node =>
            by_contra other
            exact stepsWith_ne_directory found (fun same => other (by rw [same])) _ reached
      rw [List.cons_append, stepsWith, keeps.directory here isDirectory]
      rw [stepsWith, isDirectory] at reached
      simp only [reduceCtorEq, false_and, if_false] at reached ⊢
      split at reached
      · next skip =>
          rw [if_pos skip]
          exact ih reached
      · next notSkip =>
          rw [if_neg notSkip]
          split at reached
          · next up =>
              rw [if_pos up]
              exact ih reached
          · next notUp =>
              rw [if_neg notUp]
              split at reached
              · cases reached
              · next short =>
                  rw [if_neg short]
                  -- The entry is a link or a directory, and either stays.
                  cases found : tree.node? (here ++ [first]) with
                  | none =>
                      rw [found] at reached
                      simp only at reached
                      split at reached <;> cases reached
                  | some node =>
                      rw [found] at reached
                      cases node with
                      | link target =>
                          rw [keeps.link _ target found]
                          exact onward here target names reached
                      | directory =>
                          rw [keeps.directory _ found]
                          exact ih reached
                      | file | device | program =>
                          exact absurd reached (stepsWith_ne_directory found (by simp) names)

/-- A path to a directory leads there as long as directories and links stay, also with names
behind it that stand for the directory itself. -/
theorem steps_of_keeps {after : Tree} (keeps : Keeps tree after) {idle : List String}
    (stays : ∀ name ∈ idle, name = "" ∨ name = ".") {location here : Location} {links : Nat}
    {names : List String}
    (reached : tree.steps .reach links here names = .ok (.found location .directory)) :
    after.steps .reach links here (names ++ idle) = .ok (.found location .directory) := by
  induction links generalizing here names with
  | zero =>
      refine stepsWith_of_keeps keeps stays ?_ reached
      intro here target rest impossible
      cases impossible
  | succ links ih =>
      refine stepsWith_of_keeps keeps stays ?_ reached
      intro here target rest behind
      rw [← List.append_assoc]
      exact ih behind

/-! ## Directories by their path -/

/-- The directory that a path leads to; the empty path stands for the working directory. -/
def LeadsTo (tree : Tree) (dir : String) (location : Location) : Prop :=
  tree.resolve (if dir = "" then "." else dir) = .ok (location, .directory)

/-- The names of a path lead to a directory, however long the path is. -/
def Reaches (tree : Tree) (dir : String) (location : Location) : Prop :=
  tree.steps .reach linkLimit (if Path.isAbsolute dir then [] else tree.home) (Path.names dir) =
    .ok (.found location .directory)

variable {dir : String} {location : Location}

theorem Reaches.of_keeps {after : Tree} (reached : tree.Reaches dir location)
    (keeps : Keeps tree after) (sameHome : after.home = tree.home) :
    after.Reaches dir location := by
  have again := steps_of_keeps keeps (fun _ member => absurd member List.not_mem_nil) reached
  rw [List.append_nil] at again
  rw [Reaches, sameHome]
  exact again

theorem Reaches.resolve_eq (reached : tree.Reaches dir location) {path : String}
    (nonempty : path ≠ "") (short : path.utf8ByteSize < pathLimit)
    (absolute : Path.isAbsolute path = Path.isAbsolute dir) (idle : List String)
    (route : Path.route path = Path.names dir ++ idle)
    (stays : ∀ name ∈ idle, name = "" ∨ name = ".") :
    tree.resolve path = .ok (location, .directory) := by
  have keeps : Keeps tree tree := ⟨fun _ found => found, fun _ _ found => found⟩
  have again := steps_of_keeps keeps stays reached
  rw [resolve, spot, spotFrom, if_neg nonempty, if_neg (Nat.not_le_of_lt short), absolute, route,
    again]

theorem Reaches.leadsTo (reached : tree.Reaches dir location)
    (short : dir.utf8ByteSize < pathLimit) : tree.LeadsTo dir location := by
  unfold LeadsTo
  split
  · next empty =>
      subst empty
      exact reached.resolve_eq (by decide) (by decide) (by decide) ["."] (by decide) (by simp)
  · next nonempty =>
      by_cases slash : Path.endsInSlash dir
      · exact reached.resolve_eq nonempty short rfl [""]
          (by rw [Path.route, if_pos slash]) (by simp)
      · exact reached.resolve_eq nonempty short rfl []
          (by rw [Path.route, if_neg slash, List.append_nil]) (by simp)

/-- The path of an entry of a directory, whose parts are not too long, leads to the entry. -/
theorem Reaches.spot_join (reached : tree.Reaches dir location) (plain : Path.Plain name)
    (purpose : Purpose)
    (noLink : ∀ target, tree.node? (location ++ [name]) ≠ some (.link target))
    (short : (Path.join dir name).utf8ByteSize < pathLimit) :
    tree.spot purpose (Path.join dir name) = tree.childSpot location name := by
  have onward := steps_concat tree plain purpose linkLimit
    (if Path.isAbsolute dir then [] else tree.home) (Path.names dir)
  rw [Reaches] at reached
  rw [reached] at onward
  rw [spot, spotFrom, if_neg (Path.join_ne_empty plain dir), if_neg (Nat.not_le_of_lt short),
    Path.isAbsolute_join plain, Path.route_join plain]
  exact onward noLink

/-- A path that can be followed to an entry is not too long and goes through a directory. -/
theorem reaches_of_spot_join (plain : Path.Plain name) {spot : Spot}
    (found : tree.spot purpose (Path.join dir name) = .ok spot) :
    (Path.join dir name).utf8ByteSize < pathLimit ∧ ∃ location, tree.Reaches dir location := by
  rw [Tree.spot, spotFrom, if_neg (Path.join_ne_empty plain dir)] at found
  split at found
  · cases found
  · next short =>
      refine ⟨Nat.lt_of_not_le short, ?_⟩
      rw [Path.isAbsolute_join plain, Path.route_join plain] at found
      have onward := steps_concat tree plain purpose linkLimit
        (if Path.isAbsolute dir then [] else tree.home) (Path.names dir)
      rw [found] at onward
      unfold Continues at onward
      split at onward
      · next location reached => exact ⟨location, reached⟩
      · obtain ⟨error, impossible⟩ := onward
        cases impossible

/-! ## Writing an entry -/

/-- What stands at a location once bytes are written there: a device stays what it is, and
anything else is replaced by a file. -/
def overwritten (old : Option Node) (content : ByteArray) : Node :=
  match old with
  | some (.device kind) => .device kind
  | _ => .file content

theorem overwritten_ne_link (old : Option Node) (content : ByteArray) (target : String) :
    overwritten old content ≠ .link target := by
  unfold overwritten
  split <;> simp

theorem reaches_of_write_join {after : Tree} (plain : Path.Plain name) {content : ByteArray}
    (written : tree.write (Path.join dir name) content = .ok after) :
    (Path.join dir name).utf8ByteSize < pathLimit ∧ ∃ location, tree.Reaches dir location := by
  unfold write at written
  cases found : tree.spot .write (Path.join dir name) with
  | error error => simp [found] at written
  | ok spot => exact reaches_of_spot_join plain found

/-- Writing an entry of a directory changes that entry and nothing else. -/
theorem Reaches.node?_of_write_join {after : Tree} (reached : tree.Reaches dir location)
    (plain : Path.Plain name)
    (noLink : ∀ target, tree.node? (location ++ [name]) ≠ some (.link target))
    {content : ByteArray} (written : tree.write (Path.join dir name) content = .ok after) :
    (Path.join dir name).utf8ByteSize < pathLimit ∧ name.utf8ByteSize ≤ nameLimit ∧
      tree.node? (location ++ [name]) ≠ some .directory ∧ after.home = tree.home ∧
      ∀ other, after.node? other =
        if other = location ++ [name] then
          some (overwritten (tree.node? (location ++ [name])) content)
        else tree.node? other := by
  have below : location ++ [name] ≠ [] := by simp
  unfold write at written
  cases spot : tree.spot .write (Path.join dir name) with
  | error error => simp [spot] at written
  | ok found =>
      obtain ⟨short, -⟩ := reaches_of_spot_join plain spot
      rw [spot] at written
      rw [reached.spot_join plain .write noLink short, childSpot] at spot
      split at spot
      · cases spot
      · next fits =>
          refine ⟨short, Nat.le_of_not_lt fits, ?_⟩
          cases entry : tree.node? (location ++ [name]) with
          | none =>
              simp only [entry, Except.ok.injEq] at spot
              subst spot
              obtain rfl : tree.put (location ++ [name]) (.file content) = after := by
                simpa using written
              exact ⟨by simp, home_put _ _ _, node?_put tree below _⟩
          | some node =>
              simp only [entry, Except.ok.injEq] at spot
              subst spot
              cases node with
              | link target => exact absurd entry (noLink target)
              | directory => simp at written
              | file | program =>
                  obtain rfl : tree.put (location ++ [name]) (.file content) = after := by
                    simpa using written
                  exact ⟨by simp, home_put _ _ _, node?_put tree below _⟩
              | device kind =>
                  obtain rfl : tree = after := by
                    cases kind with
                    | full =>
                        simp only at written
                        split at written
                        · exact Except.ok.inj written
                        · cases written
                    | null | zero | descriptor => simpa using written
                  refine ⟨by simp, rfl, ?_⟩
                  intro other
                  split
                  · next same => rw [same, entry]; rfl
                  · rfl

/-- The path of an entry that is not a link resolves to it. -/
theorem Reaches.resolve_join (reached : tree.Reaches dir location) (plain : Path.Plain name)
    (noLink : ∀ target, tree.node? (location ++ [name]) ≠ some (.link target))
    (short : (Path.join dir name).utf8ByteSize < pathLimit)
    (shortName : name.utf8ByteSize ≤ nameLimit) {node : Node}
    (entry : tree.node? (location ++ [name]) = some node) :
    tree.resolve (Path.join dir name) = .ok (location ++ [name], node) := by
  rw [resolve, reached.spot_join plain .reach noLink short, childSpot,
    if_neg (Nat.not_lt_of_le shortName), entry]

end Tree

end PhaseBench
