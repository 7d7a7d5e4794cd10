import PhaseBench.Proofs.Gallery.Drawing
import PhaseBench.Proofs.Text.Numeral

/-!
# The order of chart files

File names begin with the number of the chart, written with at least two digits. The
bytes of two names are compared digit by digit, so what decides is the first number
against the beginning of the second (`nameBefore_fileName_iff`): the titles never
matter, and numbers with equally many digits stand in their order. A number with more
digits may come too early, as 100 comes before 99; from the hundred and first chart on
the files of a gallery are out of order (`pairwise_nameBefore_pathsFrom_iff`).
-/

namespace PhaseBench

/-! ## Bytes of names -/

theorem nameBytes_append (a b : String) : nameBytes (a ++ b) = nameBytes a ++ nameBytes b := by
  simp [nameBytes_eq, String.toByteArray_append]

/-- Behind beginnings of one length, texts are compared only where these are equal. -/
theorem append_lt_append_iff {xs ys : List UInt8} (sameLength : xs.length = ys.length)
    (as bs : List UInt8) : xs ++ as < ys ++ bs ↔ xs < ys ∨ xs = ys ∧ as < bs := by
  induction xs generalizing ys with
  | nil =>
      obtain rfl : ys = [] := by simpa using sameLength.symm
      simp
  | cons x xs ih =>
      cases ys with
      | nil => simp at sameLength
      | cons y ys =>
          have shorter : xs.length = ys.length := by simpa using sameLength
          simp only [List.cons_append, List.cons_lt_cons_iff, ih shorter, List.cons.injEq]
          tauto

theorem nameBefore_append_left (start a b : String) :
    nameBefore (start ++ a) (start ++ b) = nameBefore a b := by
  rw [Bool.eq_iff_iff, nameBefore_iff, nameBefore_iff, nameBytes_append, nameBytes_append,
    append_lt_append_iff rfl]
  simp

theorem nameBefore_join (dir a b : String) :
    nameBefore (Path.join dir a) (Path.join dir b) = nameBefore a b := by
  unfold Path.join
  split <;> exact nameBefore_append_left _ a b

theorem nameBytes_of_digits {text : String} (digits : ∀ c ∈ text.toList, c.isDigit) :
    nameBytes text = text.toList.map digitByte := by
  rw [nameBytes, toList_toUTF8]
  generalize text.toList = cs at digits
  induction cs with
  | nil => rfl
  | cons c cs ih =>
      rw [List.forall_mem_cons] at digits
      rw [List.flatMap_cons, utf8EncodeChar_of_isDigit digits.1, ih digits.2]
      rfl

namespace Gallery

/-! ## The number in a name -/

/-- The number of digits in the name of the chart with a number. -/
def digitCount (index : Nat) : Nat := (twoDigits index).toList.length

theorem digitCount_of_lt_ten {index : Nat} (small : index < 10) : digitCount index = 2 := by
  simp [digitCount, twoDigits, small, Text.decimal, Nat.toDigits_of_lt_base small]

theorem digitCount_of_ten_le {index : Nat} (large : 10 ≤ index) :
    digitCount index = (Nat.toDigits 10 index).length := by
  simp [digitCount, twoDigits, Nat.not_lt.mpr large, Text.decimal]

theorem two_le_digitCount (index : Nat) : 2 ≤ digitCount index := by
  by_cases small : index < 10
  · rw [digitCount_of_lt_ten small]
  · rw [digitCount_of_ten_le (Nat.not_lt.mp small)]
    by_contra short
    have one : (Nat.toDigits 10 index).length ≤ 1 := by omega
    rw [Nat.length_toDigits_le_iff (by decide) Nat.one_pos] at one
    exact small one

/-- Digits are as many as the number needs, and at least two. -/
theorem digitCount_le_iff {index k : Nat} (two : 2 ≤ k) :
    digitCount index ≤ k ↔ index < 10 ^ k := by
  by_cases small : index < 10
  · rw [digitCount_of_lt_ten small]
    have enough : 10 ^ 1 ≤ 10 ^ k := Nat.pow_le_pow_right (by decide) (by omega)
    exact ⟨fun _ => by omega, fun _ => two⟩
  · rw [digitCount_of_ten_le (Nat.not_lt.mp small)]
    exact Nat.length_toDigits_le_iff (by decide) (by omega)

theorem digitCount_mono {index later : Nat} (less : index ≤ later) :
    digitCount index ≤ digitCount later := by
  have two := two_le_digitCount later
  rw [digitCount_le_iff two]
  exact Nat.lt_of_le_of_lt less ((digitCount_le_iff two).mp (Nat.le_refl _))

/-! ## Two names -/

theorem nameBytes_fileName (index : Nat) (title : String) :
    ∃ rest, nameBytes (fileName index title) =
      (twoDigits index).toList.map digitByte ++ 45 :: rest := by
  refine ⟨nameBytes (String.ofList (title.toList.map slugChar) ++ ".svg"), ?_⟩
  have parts : fileName index title =
      twoDigits index ++ ("-" ++ (String.ofList (title.toList.map slugChar) ++ ".svg")) := by
    simp [fileName, String.append_assoc]
  have hyphen : nameBytes "-" = [45] := by decide +kernel
  rw [parts, nameBytes_append, nameBytes_append,
    nameBytes_of_digits fun c member => isDigit_of_mem_twoDigits member, hyphen]
  rfl

/-- A hyphen comes before every digit. -/
theorem hyphen_lt_digits {cs : List Char} (digits : ∀ c ∈ cs, c.isDigit) (nonempty : cs ≠ [])
    (rest behind : List UInt8) : 45 :: rest < cs.map digitByte ++ behind := by
  cases cs with
  | nil => exact absurd rfl nonempty
  | cons c cs =>
      have digit := digits c List.mem_cons_self
      have bounds := toNat_of_isDigit digit
      rw [List.map_cons, List.cons_append, List.cons_lt_cons_iff]
      left
      rw [UInt8.lt_iff_toNat_lt, toNat_digitByte digit]
      show 45 < c.toNat
      omega

/-- A shorter numeral with a hyphen behind it is compared with the beginning of a longer one. -/
theorem numeral_lt_iff {cs ds : List Char} (first : ∀ c ∈ cs, c.isDigit)
    (second : ∀ d ∈ ds, d.isDigit) (shorter : cs.length ≤ ds.length)
    (different : Nat.ofDigitChars 10 cs 0 ≠ Nat.ofDigitChars 10 ds 0) (rest tail : List UInt8) :
    cs.map digitByte ++ 45 :: rest < ds.map digitByte ++ 45 :: tail ↔
      Nat.ofDigitChars 10 cs 0 ≤ Nat.ofDigitChars 10 ds 0 / 10 ^ (ds.length - cs.length) := by
  have start : ∀ d ∈ ds.take cs.length, d.isDigit :=
    fun d member => second d (List.mem_of_mem_take member)
  have behind : ∀ d ∈ ds.drop cs.length, d.isDigit :=
    fun d member => second d (List.mem_of_mem_drop member)
  have sameLength : cs.length = (ds.take cs.length).length := by simp [shorter]
  have whole : ds.map digitByte ++ 45 :: tail = (ds.take cs.length).map digitByte ++
      ((ds.drop cs.length).map digitByte ++ 45 :: tail) := by
    rw [← List.append_assoc, ← List.map_append, List.take_append_drop]
  rw [whole, append_lt_append_iff (by simpa using sameLength),
    map_digitByte_lt_iff sameLength first start, map_digitByte_eq_iff sameLength first start,
    ofDigitChars_take second, Nat.le_iff_lt_or_eq]
  refine or_congr_right (and_iff_left_of_imp ?_)
  intro same
  apply hyphen_lt_digits behind
  -- Without further digits the two numbers would be one.
  intro nothing
  rw [List.drop_eq_nil_iff, ← Nat.sub_eq_zero_iff_le] at nothing
  rw [nothing, pow_zero, Nat.div_one] at same
  exact different same

/-- Of two chart files the one with the smaller number comes first exactly when this number is
at most the beginning of the other that has as many digits. -/
theorem nameBefore_fileName_iff {index later : Nat} (less : index < later)
    (title caption : String) :
    nameBefore (fileName index title) (fileName later caption) = true ↔
      index ≤ later / 10 ^ (digitCount later - digitCount index) := by
  obtain ⟨rest, here⟩ := nameBytes_fileName index title
  obtain ⟨tail, there⟩ := nameBytes_fileName later caption
  have compared := numeral_lt_iff (fun c member => isDigit_of_mem_twoDigits member)
    (fun c member => isDigit_of_mem_twoDigits member) (digitCount_mono (Nat.le_of_lt less))
    (by rw [ofDigitChars_twoDigits, ofDigitChars_twoDigits]; exact Nat.ne_of_lt less) rest tail
  rw [ofDigitChars_twoDigits, ofDigitChars_twoDigits] at compared
  rw [nameBefore_iff, here, there]
  exact compared

/-! ## The files of a gallery -/

theorem nameBefore_of_lt_hundred {index later : Nat} (less : index < later)
    (below : later < 100) (title caption : String) :
    nameBefore (fileName index title) (fileName later caption) = true := by
  have count : digitCount later ≤ 2 := (digitCount_le_iff (Nat.le_refl 2)).mpr below
  have two := two_le_digitCount index
  have together : digitCount later - digitCount index = 0 := by omega
  rw [nameBefore_fileName_iff less, together, pow_zero, Nat.div_one]
  exact Nat.le_of_lt less

/-- The hundred and first chart comes before the hundredth. -/
theorem not_nameBefore_hundred (title caption : String) :
    nameBefore (fileName 99 title) (fileName 100 caption) = false := by
  rw [Bool.eq_false_iff, ne_eq, nameBefore_fileName_iff (by decide)]
  decide

/-- The files of a gallery are sorted by name exactly when there are at most a hundred. -/
theorem pairwise_nameBefore_pathsFrom_iff (dir : String) (charts : List Chart) :
    (pathsFrom dir 0 charts).Pairwise (fun a b => nameBefore a b = true) ↔
      charts.length ≤ 100 := by
  rw [pathsFrom, List.pairwise_map, List.pairwise_iff_getElem]
  simp only [pathOf, nameBefore_join, List.length_zipIdx, List.getElem_zipIdx, Nat.zero_add]
  constructor
  · intro sorted
    by_contra many
    have early := sorted 99 100 (by omega) (by omega) (by decide)
    rw [not_nameBefore_hundred] at early
    exact Bool.false_ne_true early
  · intro few index later here there less
    exact nameBefore_of_lt_hundred less (by omega) _ _

end Gallery

/-- Chart files sort by name like their numbers as far as the numbers have equally many
digits, and where the smaller number is at most the beginning of the greater one. So a gallery
that was filled shows its charts in order exactly when they are at most a hundred. -/
theorem gallery_sorted_iff (index later : Nat) (less : index < later) (title caption : String) :
    (nameBefore (Gallery.fileName index title) (Gallery.fileName later caption) = true ↔
      index ≤ later / 10 ^ (Gallery.digitCount later - Gallery.digitCount index)) ∧
    ∀ (dir : String) (tree after : Tree) (charts : List Chart) (filled : Gallery),
      Gallery.addAll ⟨dir, []⟩ tree charts = (after, .ok filled) →
      (filled.files.Pairwise (fun a b => nameBefore a b = true) ↔ charts.length ≤ 100) := by
  refine ⟨Gallery.nameBefore_fileName_iff less title caption, ?_⟩
  intro dir tree after charts filled added
  rcases Gallery.addAll_cases ⟨dir, []⟩ tree charts with
    ⟨written, -, success⟩ | ⟨error, left, trace, -, failure⟩
  · rw [success] at added
    obtain ⟨-, same⟩ := Prod.mk.inj added
    obtain rfl := Except.ok.inj same
    exact Gallery.pairwise_nameBefore_pathsFrom_iff dir charts
  · rw [failure] at added
    cases (Prod.mk.inj added).2

/-- Two charts of one title are drawn in order, and so are the tenth and the eleventh. -/
theorem gallery_sorted_iff_shared_title :
    nameBefore (Gallery.fileName 9 "b") (Gallery.fileName 10 "a") = true ∧
    (Gallery.addAll ⟨"d", []⟩ Sample.shelf (["A", "A"].map Sample.titled)).2 =
      .ok ⟨"d", ["d/00-a.svg", "d/01-a.svg"]⟩ ∧
    ["d/00-a.svg", "d/01-a.svg"].Pairwise (fun a b => nameBefore a b = true) := by
  have drawn : (Gallery.addAll ⟨"d", []⟩ Sample.shelf (["A", "A"].map Sample.titled)).2 =
      .ok ⟨"d", ["d/00-a.svg", "d/01-a.svg"]⟩ := by decide +kernel
  obtain ⟨names, galleries⟩ := gallery_sorted_iff 9 10 (by decide) "b" "a"
  refine ⟨names.mpr (by decide), drawn, ?_⟩
  exact (galleries "d" Sample.shelf _ _ _ (Prod.ext rfl drawn)).mpr (by decide)

/-- The hundred and first chart comes before the hundredth, whose number is smaller. -/
theorem fileName_hundred_first :
    Gallery.fileName 99 "a" = "99-a.svg" ∧ Gallery.fileName 100 "a" = "100-a.svg" ∧
      nameBefore (Gallery.fileName 99 "a") (Gallery.fileName 100 "a") = false :=
  ⟨by decide +kernel, by decide +kernel, Gallery.not_nameBefore_hundred "a" "a"⟩

end PhaseBench
