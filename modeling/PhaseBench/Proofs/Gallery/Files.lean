import PhaseBench.Proofs.Gallery.Names
import PhaseBench.Proofs.Tree.Listing

/-!
# The files of a gallery

Charts are added to a gallery one after the other, and an addition may fail: the file
is a directory, or its name or its path is too long. `Progress` is a gallery on the
way, with the charts that were drawn so far. What one addition can do is said once, by
`add_cases` and `Tree.Reaches.node?_of_write_join`; the invariant `Progress.Sound` is kept by every
addition, failed or not, and `addEach_faithful` reads off it what a whole sequence
leaves: the files hold the drawn charts in order, and all else is as it was.

A file is drawn at the place of a regular file or of nothing. At the place of a device
it is written too, but a device keeps nothing.
-/

namespace PhaseBench

namespace Gallery

/-! ## One addition -/

/-- The path at which the chart with a number is drawn. -/
def pathOf (dir : String) (index : Nat) (chart : Chart) : String :=
  Path.join dir (fileName index chart.title)

/-- The paths of charts, the first of which has a number. -/
def pathsFrom (dir : String) (index : Nat) (charts : List Chart) : List String :=
  (charts.zipIdx index).map fun (chart, index) => pathOf dir index chart

/-- Adding a chart changes nothing, or writes its file and appends the path. -/
theorem add_cases (gallery : Gallery) (tree : Tree) (chart : Chart) :
    (∃ trace, gallery.add tree chart = (tree, gallery, some trace)) ∨
    ∃ after, tree.write (pathOf gallery.dir gallery.files.length chart) chart.svg.toUTF8 =
        .ok after ∧
      gallery.add tree chart = (after, ⟨gallery.dir, gallery.files ++
        [pathOf gallery.dir gallery.files.length chart]⟩, none) := by
  simp only [add, pathOf]
  cases tree.write (Path.join gallery.dir (fileName gallery.files.length chart.title))
    chart.svg.toUTF8 with
  | error error => exact .inl ⟨_, rfl⟩
  | ok after => exact .inr ⟨after, rfl, rfl⟩

end Gallery

/-! ## A sequence of additions -/

/-- A gallery to which charts are being added, and the charts that were drawn so far. -/
structure Progress where
  tree : Tree
  gallery : Gallery
  drawn : List Chart

namespace Progress

open Gallery

/-- A gallery to which nothing was added yet. -/
def opened (dir : String) (tree : Tree) : Progress := ⟨tree, ⟨dir, []⟩, []⟩

/-- Adds a chart, which counts as drawn when this succeeds. -/
def add (progress : Progress) (chart : Chart) : Progress :=
  match progress.gallery.add progress.tree chart with
  | (tree, gallery, none) => ⟨tree, gallery, progress.drawn ++ [chart]⟩
  | (tree, gallery, some _) => ⟨tree, gallery, progress.drawn⟩

/-- Adds charts one after the other, going on after a failure. -/
def addEach (progress : Progress) (charts : List Chart) : Progress :=
  charts.foldl add progress

/-- Holds when adding a chart now would fail. -/
def fails (progress : Progress) (chart : Chart) : Bool :=
  (progress.gallery.add progress.tree chart).2.2.isSome

theorem add_of_fails {progress : Progress} {chart : Chart} (failing : progress.fails chart) :
    progress.add chart = progress := by
  unfold fails at failing
  rcases progress.gallery.add_cases progress.tree chart with
    ⟨trace, added⟩ | ⟨after, -, added⟩
  · rw [add, added]
  · rw [added] at failing
    cases failing

theorem add_of_not_fails {progress : Progress} {chart : Chart}
    (working : progress.fails chart = false) :
    ∃ after, progress.tree.write
        (pathOf progress.gallery.dir progress.gallery.files.length chart) chart.svg.toUTF8 =
          .ok after ∧
      progress.add chart = ⟨after, ⟨progress.gallery.dir, progress.gallery.files ++
        [pathOf progress.gallery.dir progress.gallery.files.length chart]⟩,
        progress.drawn ++ [chart]⟩ := by
  unfold fails at working
  rcases progress.gallery.add_cases progress.tree chart with
    ⟨trace, added⟩ | ⟨after, written, added⟩
  · rw [added] at working
    cases working
  · exact ⟨after, written, by rw [add, added]⟩

/-- The location of the drawing of the chart with a number in a directory. -/
def place (location : Location) (index : Nat) (chart : Chart) : Location :=
  location ++ [fileName index chart.title]

theorem index_eq_of_place_eq {location : Location} {index other : Nat} {chart caption : Chart}
    (same : place location index chart = place location other caption) : index = other :=
  index_eq_of_fileName_eq (by simpa [place] using same)

theorem getElem?_concat_cases {drawn : List Chart} {chart other : Chart} {index : Nat}
    (found : (drawn ++ [chart])[index]? = some other) :
    drawn[index]? = some other ∨ index = drawn.length ∧ other = chart := by
  rcases Nat.lt_trichotomy index drawn.length with below | rfl | above
  · rw [List.getElem?_append_left below] at found
    exact .inl found
  · right
    simpa [eq_comm] using found
  · have past : (drawn ++ [chart]).length ≤ index := by
      rw [List.length_append, List.length_singleton]
      omega
    rw [List.getElem?_eq_none past] at found
    cases found

/-- What holds of a gallery in the directory at a location, opened in the tree `start`, after
any additions. -/
structure Sound (start : Tree) (dir : String) (location : Location) (progress : Progress) :
    Prop where
  dir_eq : progress.gallery.dir = dir
  files_eq : progress.gallery.files = pathsFrom dir 0 progress.drawn
  home_eq : progress.tree.home = start.home
  /-- No path and no name of a drawn chart is too long. -/
  fits : ∀ index chart, progress.drawn[index]? = some chart →
    (pathOf dir index chart).utf8ByteSize < Tree.pathLimit ∧
      (fileName index chart.title).utf8ByteSize ≤ Tree.nameLimit
  /-- No directory and no link was drawn over. -/
  allowed : ∀ index chart, progress.drawn[index]? = some chart →
    start.node? (place location index chart) ≠ some .directory ∧
      ∀ target, start.node? (place location index chart) ≠ some (.link target)
  holds : ∀ index chart, progress.drawn[index]? = some chart →
    progress.tree.node? (place location index chart) =
      some (Tree.overwritten (start.node? (place location index chart)) chart.svg.toUTF8)
  unchanged : ∀ other, (∀ index chart, progress.drawn[index]? = some chart →
    other ≠ place location index chart) → progress.tree.node? other = start.node? other

variable {start : Tree} {dir : String} {location : Location} {progress : Progress}

theorem sound_opened (start : Tree) (dir : String) (location : Location) :
    Sound start dir location (opened dir start) where
  dir_eq := rfl
  files_eq := rfl
  home_eq := rfl
  fits := fun _ _ drawn => absurd drawn (by simp [opened])
  allowed := fun _ _ drawn => absurd drawn (by simp [opened])
  holds := fun _ _ drawn => absurd drawn (by simp [opened])
  unchanged := fun _ _ => rfl

namespace Sound

theorem length_files (sound : Sound start dir location progress) :
    progress.gallery.files.length = progress.drawn.length := by
  rw [sound.files_eq, pathsFrom, List.length_map, List.length_zipIdx]

/-- A location is that of a drawing, or nothing was changed there. -/
theorem drawn_or_unchanged (sound : Sound start dir location progress) (other : Location) :
    (∃ index chart, progress.drawn[index]? = some chart ∧
      other = place location index chart) ∨ progress.tree.node? other = start.node? other := by
  by_cases drawn : ∃ index chart, progress.drawn[index]? = some chart ∧
      other = place location index chart
  · exact .inl drawn
  · refine .inr (sound.unchanged other ?_)
    intro index chart here same
    exact drawn ⟨index, chart, here, same⟩

theorem keeps (sound : Sound start dir location progress) : start.Keeps progress.tree := by
  refine ⟨?_, ?_⟩
  · intro other directory
    rcases sound.drawn_or_unchanged other with ⟨index, chart, drawn, rfl⟩ | same
    · exact absurd directory (sound.allowed index chart drawn).1
    · rw [same, directory]
  · intro other target link
    rcases sound.drawn_or_unchanged other with ⟨index, chart, drawn, rfl⟩ | same
    · exact absurd link ((sound.allowed index chart drawn).2 target)
    · rw [same, link]

theorem noLink (sound : Sound start dir location progress)
    (noLinks : ∀ name target, start.node? (location ++ [name]) ≠ some (.link target))
    (name target : String) : progress.tree.node? (location ++ [name]) ≠ some (.link target) := by
  intro link
  rcases sound.drawn_or_unchanged (location ++ [name]) with ⟨index, chart, drawn, same⟩ | same
  · rw [same, sound.holds index chart drawn] at link
    exact Tree.overwritten_ne_link _ _ target (Option.some.inj link)
  · exact noLinks name target (same ▸ link)

/-- An addition keeps what holds of a gallery, whether it fails or not. -/
theorem add (sound : Sound start dir location progress) (reached : start.Reaches dir location)
    (noLinks : ∀ name target, start.node? (location ++ [name]) ≠ some (.link target))
    (chart : Chart) : Sound start dir location (progress.add chart) := by
  cases failing : progress.fails chart with
  | true =>
      rw [add_of_fails failing]
      exact sound
  | false =>
      obtain ⟨after, written, added⟩ := add_of_not_fails failing
      rw [sound.dir_eq, sound.length_files] at written added
      rw [added]
      have here := reached.of_keeps sound.keeps sound.home_eq
      obtain ⟨short, shortName, notDirectory, sameHome, changed⟩ := here.node?_of_write_join
        (plain_fileName _ chart.title) (sound.noLink noLinks _) written
      -- The number of the chart is new, so nothing was drawn at its place.
      have fresh : ∀ index other, progress.drawn[index]? = some other →
          place location progress.drawn.length chart ≠ place location index other := by
        intro index other drawn same
        have below := (List.getElem?_eq_some_iff.mp drawn).1
        have equal := index_eq_of_place_eq same
        omega
      have untouched := sound.unchanged (place location progress.drawn.length chart) fresh
      have nodes : ∀ other, after.node? other =
          if other = place location progress.drawn.length chart then
            some (Tree.overwritten (start.node? (place location progress.drawn.length chart))
              chart.svg.toUTF8)
          else progress.tree.node? other := by
        rw [← untouched]
        exact changed
      refine ⟨rfl, ?_, sameHome.trans sound.home_eq, ?_, ?_, ?_, ?_⟩
      · rw [pathsFrom, List.zipIdx_append, List.map_append, ← pathsFrom, ← sound.files_eq,
          Nat.zero_add]
        rfl
      · intro index other drawn
        rcases getElem?_concat_cases drawn with old | ⟨rfl, rfl⟩
        · exact sound.fits index other old
        · exact ⟨short, shortName⟩
      · intro index other drawn
        rcases getElem?_concat_cases drawn with old | ⟨rfl, rfl⟩
        · exact sound.allowed index other old
        · exact ⟨untouched ▸ notDirectory, noLinks _⟩
      · intro index other drawn
        rcases getElem?_concat_cases drawn with old | ⟨rfl, rfl⟩
        · rw [nodes, if_neg (Ne.symm (fresh index other old)), sound.holds index other old]
        · rw [nodes, if_pos rfl]
      · intro other elsewhere
        rw [nodes, if_neg (elsewhere _ chart (by simp))]
        refine sound.unchanged other ?_
        intro index drawnChart drawn
        exact elsewhere index drawnChart
          (by rw [List.getElem?_append_left (List.getElem?_eq_some_iff.mp drawn).1, drawn])

/-- The path of a drawn chart resolves to its drawing. -/
theorem resolve_pathOf (sound : Sound start dir location progress)
    (reached : start.Reaches dir location)
    (noLinks : ∀ name target, start.node? (location ++ [name]) ≠ some (.link target))
    {index : Nat} {chart : Chart} (drawn : progress.drawn[index]? = some chart) :
    progress.tree.resolve (pathOf dir index chart) =
      .ok (place location index chart,
        Tree.overwritten (start.node? (place location index chart)) chart.svg.toUTF8) := by
  obtain ⟨short, shortName⟩ := sound.fits index chart drawn
  have here := reached.of_keeps sound.keeps sound.home_eq
  exact here.resolve_join (plain_fileName index chart.title) (sound.noLink noLinks _) short
    shortName (sound.holds index chart drawn)

end Sound

theorem addEach_concat (progress : Progress) (charts : List Chart) (chart : Chart) :
    progress.addEach (charts ++ [chart]) = (progress.addEach charts).add chart :=
  List.foldl_append

theorem dir_addEach (dir : String) (start : Tree) (charts : List Chart) :
    ((opened dir start).addEach charts).gallery.dir = dir := by
  induction charts using List.reverseRecOn with
  | nil => rfl
  | append_singleton charts chart ih =>
      rw [addEach_concat]
      cases failing : ((opened dir start).addEach charts).fails chart with
      | true => rw [add_of_fails failing, ih]
      | false =>
          obtain ⟨after, -, added⟩ := add_of_not_fails failing
          rw [added]
          exact ih

theorem sound_addEach (reached : start.Reaches dir location)
    (noLinks : ∀ name target, start.node? (location ++ [name]) ≠ some (.link target))
    (charts : List Chart) : Sound start dir location ((opened dir start).addEach charts) := by
  induction charts using List.reverseRecOn with
  | nil => exact sound_opened start dir location
  | append_singleton charts chart ih =>
      rw [addEach_concat]
      exact ih.add reached noLinks chart

/-- In a directory that cannot be reached nothing can be drawn. -/
theorem addEach_eq_opened
    (nowhere : ¬ ∃ location, start.Reaches dir location ∧ start.LeadsTo dir location)
    (charts : List Chart) : (opened dir start).addEach charts = opened dir start := by
  induction charts using List.reverseRecOn with
  | nil => rfl
  | append_singleton charts chart ih =>
      rw [addEach_concat, ih]
      apply add_of_fails
      by_contra working
      obtain ⟨after, written, -⟩ := add_of_not_fails (eq_false_of_ne_true working)
      obtain ⟨short, location, reached⟩ :=
        Tree.reaches_of_write_join (plain_fileName _ _) written
      exact nowhere ⟨location, reached,
        reached.leadsTo (Nat.lt_of_le_of_lt (Path.utf8ByteSize_le_join dir _) short)⟩

/-! ## What a sequence of additions leaves -/

theorem nodup_pathsFrom (dir : String) (index : Nat) (charts : List Chart) :
    (pathsFrom dir index charts).Nodup := by
  have numbered : (charts.zipIdx index).Nodup := by
    apply List.Nodup.of_map Prod.snd
    rw [List.zipIdx_map_snd]
    exact List.nodup_range'
  refine List.Nodup.map_on ?_ numbered
  rintro ⟨chart, number⟩ here ⟨other, second⟩ there same
  obtain rfl : number = second := index_eq_of_fileName_eq (Path.join_injective dir same)
  rw [List.mk_mem_zipIdx_iff_le_and_getElem?_sub] at here there
  obtain rfl : chart = other := Option.some.inj (here.2.symm.trans there.2)
  rfl

/-- The files of a gallery are the drawings of the drawn charts, and nothing else differs from
the tree in which it was opened. -/
structure Faithful (start : Tree) (dir : String) (progress : Progress) : Prop where
  /-- A drawn chart has the number of charts drawn before it. -/
  files_eq : progress.gallery.files =
    progress.drawn.zipIdx.map fun (chart, index) => Path.join dir (fileName index chart.title)
  /-- Whatever the titles are, the files are named by lower-case letters, digits and
  hyphens, and end in `.svg`. -/
  safe : ∀ path ∈ progress.gallery.files, ∃ stem, path = Path.join dir (stem ++ ".svg") ∧
    ∀ c ∈ stem.toList, c.isLower ∨ c.isDigit ∨ c = '-'
  distinct : progress.gallery.files.Nodup
  /-- Each path leads to an entry of the directory, which holds the document of the chart
  unless it was a device before. -/
  contents : ∀ index chart, progress.drawn[index]? = some chart →
    ∃ location node, start.LeadsTo dir location ∧
      progress.tree.resolve (Path.join dir (fileName index chart.title)) =
        .ok (location ++ [fileName index chart.title], node) ∧
      ((∀ kind, start.node? (location ++ [fileName index chart.title]) ≠ some (.device kind)) →
        progress.tree.read (Path.join dir (fileName index chart.title)) =
          .ok chart.svg.toUTF8)
  /-- What none of the paths leads to is as it was. -/
  unchanged : ∀ location,
    (∀ path ∈ progress.gallery.files, ∀ node,
      progress.tree.resolve path ≠ .ok (location, node)) →
    progress.tree.node? location = start.node? location

theorem Sound.faithful (sound : Sound start dir location progress)
    (reached : start.Reaches dir location)
    (noLinks : ∀ name target, start.node? (location ++ [name]) ≠ some (.link target)) :
    Faithful start dir progress := by
  refine ⟨sound.files_eq, ?_, ?_, ?_, ?_⟩
  · intro path member
    rw [sound.files_eq] at member
    obtain ⟨⟨chart, index⟩, -, rfl⟩ := List.mem_map.mp member
    refine ⟨stem index chart.title, rfl, ?_⟩
    intro c inStem
    simpa [isNameChar, or_assoc] using isNameChar_of_mem_stem inStem
  · rw [sound.files_eq]
    exact nodup_pathsFrom dir 0 progress.drawn
  · intro index chart drawn
    have resolved := sound.resolve_pathOf reached noLinks drawn
    have short : dir.utf8ByteSize < Tree.pathLimit :=
      Nat.lt_of_le_of_lt (Path.utf8ByteSize_le_join dir _) (sound.fits index chart drawn).1
    refine ⟨location, _, reached.leadsTo short, resolved, ?_⟩
    intro notDevice
    have replaced : Tree.overwritten (start.node? (place location index chart))
        chart.svg.toUTF8 = .file chart.svg.toUTF8 := by
      unfold Tree.overwritten
      split
      · next kind device => exact absurd device (notDevice kind)
      · rfl
    rw [replaced] at resolved
    show progress.tree.read (pathOf dir index chart) = _
    rw [Tree.read, resolved]
  · intro other elsewhere
    refine sound.unchanged other ?_
    rintro index chart drawn rfl
    refine elsewhere (pathOf dir index chart) ?_ _ (sound.resolve_pathOf reached noLinks drawn)
    rw [sound.files_eq]
    exact List.mem_map.mpr ⟨(chart, index), List.mem_zipIdx_iff_getElem?.mpr drawn, rfl⟩

theorem faithful_opened (start : Tree) (dir : String) : Faithful start dir (opened dir start) where
  files_eq := rfl
  safe := fun _ member => absurd member List.not_mem_nil
  distinct := List.nodup_nil
  contents := fun _ _ drawn => absurd drawn (by simp [opened])
  unchanged := fun _ _ => rfl

end Progress

/-- Any sequence of additions to a gallery whose directory holds no links leaves the drawn
charts in their files and everything else as it was. An addition that fails changes nothing,
and the next one that succeeds takes its number. A device in the place of a file keeps nothing;
without devices every file holds the document of its chart. -/
theorem addEach_faithful (start : Tree) (dir : String)
    (noLinks : ∀ location, start.LeadsTo dir location →
      ∀ name target, start.node? (location ++ [name]) ≠ some (.link target))
    (charts : List Chart) :
    Progress.Faithful start dir ((Progress.opened dir start).addEach charts) ∧
      (∀ chart,
        (((Progress.opened dir start).addEach charts).fails chart = true →
          (Progress.opened dir start).addEach (charts ++ [chart]) =
            (Progress.opened dir start).addEach charts) ∧
        (((Progress.opened dir start).addEach charts).fails chart = false →
          ((Progress.opened dir start).addEach (charts ++ [chart])).gallery.files =
            ((Progress.opened dir start).addEach charts).gallery.files ++
              [Path.join dir (Gallery.fileName
                ((Progress.opened dir start).addEach charts).gallery.files.length
                chart.title)])) ∧
      -- In a directory without devices every file holds the document of its chart.
      ((∀ location, start.LeadsTo dir location →
          ∀ name kind, start.node? (location ++ [name]) ≠ some (.device kind)) →
        ∀ index chart, ((Progress.opened dir start).addEach charts).drawn[index]? = some chart →
          ((Progress.opened dir start).addEach charts).tree.read
              (Path.join dir (Gallery.fileName index chart.title)) = .ok chart.svg.toUTF8) := by
  have faithful : Progress.Faithful start dir ((Progress.opened dir start).addEach charts) := by
    by_cases somewhere : ∃ location, start.Reaches dir location ∧ start.LeadsTo dir location
    · obtain ⟨location, reached, leads⟩ := somewhere
      exact (Progress.sound_addEach reached (noLinks location leads) charts).faithful reached
        (noLinks location leads)
    · rw [Progress.addEach_eq_opened somewhere]
      exact Progress.faithful_opened start dir
  refine ⟨faithful, ?_, ?_⟩
  · intro chart
    rw [Progress.addEach_concat]
    refine ⟨Progress.add_of_fails, ?_⟩
    intro working
    obtain ⟨after, -, added⟩ := Progress.add_of_not_fails working
    rw [added, Progress.dir_addEach]
    rfl
  · intro noDevices index chart drawn
    obtain ⟨location, node, leads, -, holds⟩ := faithful.contents index chart drawn
    exact holds (noDevices location leads _)

namespace Sample

/-- A directory in which the place of a chart is taken by a directory and that of another
by a file. -/
def shelf : Tree where
  nodes := [(["d"], .directory), (["d", "00-b.svg"], .directory),
    (["d", "01-a.svg"], .file ByteArray.empty)]
  home := []
  distinct := by decide

/-- A chart of nothing. -/
def titled (title : String) : Chart := ⟨title, "", "", [], []⟩

theorem shelf_ne_link (location : Location) (target : String) :
    shelf.node? location ≠ some (.link target) := by
  unfold Tree.node?
  split
  · simp
  · intro found
    obtain ⟨entry, here, link⟩ := Option.map_eq_some_iff.mp found
    have member := List.mem_of_find?_eq_some here
    simp only [shelf, List.mem_cons, List.not_mem_nil, or_false] at member
    rcases member with rfl | rfl | rfl <;> cases link

end Sample

/-- The first of four additions fails, and its number goes to the next; two charts of one
title go to two files, one of which was there before. -/
theorem addEach_faithful_shared_title :
    let charts := ["B", "A", "A", "B/.."].map Sample.titled
    let progress := (Progress.opened "d" Sample.shelf).addEach charts
    progress.gallery.files = ["d/00-a.svg", "d/01-a.svg", "d/02-b---.svg"] ∧
      progress.drawn.map (·.title) = ["A", "A", "B/.."] ∧
      Progress.Faithful Sample.shelf "d" progress := by
  have faithful := addEach_faithful Sample.shelf "d"
    (fun location _ name target => Sample.shelf_ne_link (location ++ [name]) target)
    (["B", "A", "A", "B/.."].map Sample.titled)
  exact ⟨by decide +kernel, by decide +kernel, faithful.1⟩

end PhaseBench
