import Mathlib
import PhaseBench.Text.Column

/-!
# Markup documents

A document is read as a sequence of segments, each a tag between angle brackets with the
text that follows it. `read?` finds them by splitting the document at its brackets and
refuses a document with a bracket that does not belong to a tag. `Spelled` says which
documents are made up of which segments; they are put together piece by piece
(`Spelled.append`) and read back as a whole (`Spelled.read?_eq`).
-/

namespace PhaseBench.Markup

/-- A tag of a document, by the name of its element. -/
inductive Tag
  | opening (name : String)
  | closing (name : String)
  | single (name : String)
deriving DecidableEq

/-- A tag and the text up to the next one. -/
structure Segment where
  tag : Tag
  text : String
deriving DecidableEq

/-- Holds for the characters that may stand in the name of an element. -/
def isNameChar (c : Char) : Bool := c != ' ' && c != '/' && c != '<' && c != '>'

/-- The tag that is written between two brackets. -/
def Tag.ofBody : List Char → Tag
  | '/' :: name => .closing (String.ofList name)
  | body =>
    let name := String.ofList (body.takeWhile isNameChar)
    if body.getLast? = some '/' then .single name else .opening name

/-- The segment whose text follows an opening bracket: exactly one closing bracket ends its
tag. -/
def segmentOf? (piece : List Char) : Option Segment :=
  match piece.splitOn '>' with
  | [body, text] => some ⟨.ofBody body, String.ofList text⟩
  | _ => none

/-- The segments of a document, which begins with a tag. -/
def read? (document : String) : Option (List Segment) :=
  match document.toList.splitOn '<' with
  | [] :: pieces => pieces.mapM segmentOf?
  | _ => none

/-- The texts behind the opening tags of a name. They are the contents of these elements when
every one of the tags is followed by the closing one. -/
def contents (name : String) (segments : List Segment) : List String :=
  (segments.filter (·.tag = .opening name)).map (·.text)

@[simp]
theorem contents_append (name : String) (front back : List Segment) :
    contents name (front ++ back) = contents name front ++ contents name back := by
  simp [contents]

@[simp]
theorem contents_flatMap {α : Type} (name : String) (xs : List α) (f : α → List Segment) :
    contents name (xs.flatMap f) = xs.flatMap fun x => contents name (f x) := by
  simp [contents, List.filter_flatMap, List.map_flatMap]

/-- Sequences of tags in which every opened element is closed. -/
inductive Nested : List Tag → Prop
  | nil : Nested []
  | single {name : String} {rest : List Tag} : Nested rest → Nested (.single name :: rest)
  | element {name : String} {inner rest : List Tag} : Nested inner → Nested rest →
      Nested (.opening name :: (inner ++ .closing name :: rest))

theorem Nested.append {a b : List Tag} (first : Nested a) (second : Nested b) :
    Nested (a ++ b) := by
  induction first with
  | nil => exact second
  | single _ ih => exact .single ih
  | element inner _ _ ih =>
      rw [List.cons_append, List.append_assoc, List.cons_append]
      exact .element inner ih

theorem Nested.flatten_replicate {tags : List Tag} (nested : Nested tags) (n : Nat) :
    Nested (List.replicate n tags).flatten := by
  induction n with
  | zero => exact .nil
  | succ n ih =>
      rw [List.replicate_succ, List.flatten_cons]
      exact nested.append ih

/-! ## Names -/

/-- A name that an element can have. -/
structure IsName (name : String) : Prop where
  nonempty : name ≠ ""
  chars : ∀ c ∈ name.toList, isNameChar c = true

/-- A tag that is not a closing one begins with the name of its element, and is complete in
itself when it ends in a slash. -/
theorem ofBody_name_append {name : String} (isName : IsName name) {rest : List Char}
    (separate : ∀ c, rest.head? = some c → isNameChar c = false) :
    Tag.ofBody (name.toList ++ rest) =
      if (name.toList ++ rest).getLast? = some '/' then .single name else .opening name := by
  have whole : (name.toList ++ rest).takeWhile isNameChar = name.toList := by
    rw [List.takeWhile_append_of_pos isName.chars]
    cases rest with
    | nil => simp
    | cons c rest => simp [separate c rfl]
  unfold Tag.ofBody
  split
  · next tail slash =>
      -- The slash of a closing tag would be the first character of the name.
      cases letters : name.toList with
      | nil => exact absurd (String.toList_eq_nil_iff.mp letters) isName.nonempty
      | cons c others =>
          have first : isNameChar c = true := isName.chars c (by simp [letters])
          rw [letters, List.cons_append, List.cons.injEq] at slash
          rw [slash.1] at first
          cases first
  · rw [whole, String.ofList_toList]

theorem ofBody_opening {name : String} (isName : IsName name) {rest : List Char}
    (separate : ∀ c, rest.head? = some c → isNameChar c = false)
    (last : rest.getLast? ≠ some '/') : Tag.ofBody (name.toList ++ rest) = .opening name := by
  rw [ofBody_name_append isName separate, if_neg]
  rw [List.getLast?_append, Option.or_eq_some_iff]
  rintro (slash | ⟨-, slash⟩)
  · exact last slash
  · exact Bool.noConfusion (isName.chars '/' (List.mem_of_getLast? slash))

theorem ofBody_single {name : String} (isName : IsName name) {rest : List Char}
    (separate : ∀ c, rest.head? = some c → isNameChar c = false) :
    Tag.ofBody (name.toList ++ (rest ++ ['/'])) = .single name := by
  rw [ofBody_name_append isName, if_pos]
  · simp
  · intro c first
    cases rest with
    | nil => rw [← Option.some.inj first]; rfl
    | cons d rest => exact separate c first

/-! ## Documents made up of segments -/

/-- Text without angle brackets. -/
def Unbracketed (cs : List Char) : Prop := '<' ∉ cs ∧ '>' ∉ cs

theorem unbracketed_append {a b : List Char} :
    Unbracketed (a ++ b) ↔ Unbracketed a ∧ Unbracketed b := by
  simp only [Unbracketed, List.mem_append, not_or]
  tauto

/-- The characters of a document that is made up of the given segments. -/
inductive Spelled : List Char → List Segment → Prop
  | nil : Spelled [] []
  | cons {body text rest : List Char} {segments : List Segment} :
      Unbracketed body → Unbracketed text → Spelled rest segments →
        Spelled ('<' :: (body ++ '>' :: (text ++ rest)))
          (⟨.ofBody body, String.ofList text⟩ :: segments)

theorem segmentOf?_eq {body text : List Char} (inBody : '>' ∉ body) (inText : '>' ∉ text) :
    segmentOf? (body ++ '>' :: text) = some ⟨.ofBody body, String.ofList text⟩ := by
  rw [segmentOf?, List.splitOn_append_cons_self_of_not_mem inBody,
    List.splitOn_eq_singleton inText]

theorem IsName.unbracketed {name : String} (isName : IsName name) : Unbracketed name.toList :=
  ⟨fun member => Bool.noConfusion (isName.chars _ member),
    fun member => Bool.noConfusion (isName.chars _ member)⟩

namespace Spelled

/-- A document of one segment. -/
theorem segment {cs body : List Char} {text : String} {tag : Tag}
    (same : cs = '<' :: (body ++ '>' :: text.toList)) (read : Tag.ofBody body = tag)
    (inBody : Unbracketed body) (inText : Unbracketed text.toList) :
    Spelled cs [⟨tag, text⟩] := by
  have spelled := cons inBody inText nil
  rwa [List.append_nil, String.ofList_toList, ← same, read] at spelled

theorem append {a b : List Char} {front back : List Segment} (first : Spelled a front)
    (second : Spelled b back) : Spelled (a ++ b) (front ++ back) := by
  induction first with
  | nil => exact second
  | cons body text _ ih =>
      have spelled := cons body text ih
      simpa using spelled

/-- Every bracket belongs to the tag of a segment. -/
theorem count_eq {cs : List Char} {segments : List Segment} (spelled : Spelled cs segments) :
    cs.count '<' = segments.length ∧ cs.count '>' = segments.length := by
  induction spelled with
  | nil => exact ⟨rfl, rfl⟩
  | cons body text _ ih =>
      simp [List.count_eq_zero.mpr, body.1, body.2, text.1, text.2, ih.1, ih.2]

/-- A document is split in front of the tags of its segments only. -/
theorem exists_pieces {cs : List Char} {segments : List Segment} (spelled : Spelled cs segments)
    (text : List Char) (unbracketed : '<' ∉ text) :
    ∃ pieces, (text ++ cs).splitOn '<' = text :: pieces ∧
      pieces.mapM segmentOf? = some segments := by
  -- What stands in front of the first tag is any text, as the text of a segment comes to stand
  -- in front of the segments behind it.
  induction spelled generalizing text with
  | nil => exact ⟨[], by rw [List.append_nil, List.splitOn_eq_singleton unbracketed], rfl⟩
  | @cons body after rest segments inBody inText _ ih =>
      have joined : '<' ∉ body ++ '>' :: after := by simp [inBody.1, inText.1]
      obtain ⟨pieces, split, read⟩ := ih (body ++ '>' :: after) joined
      refine ⟨(body ++ '>' :: after) :: pieces, ?_, ?_⟩
      · rw [List.splitOn_append_cons_self_of_not_mem unbracketed, ← split, List.append_assoc,
          List.cons_append]
      · rw [List.mapM_cons, segmentOf?_eq inBody.2 inText.2, read]
        rfl

theorem read?_eq {document : String} {segments : List Segment}
    (spelled : Spelled document.toList segments) : read? document = some segments := by
  obtain ⟨pieces, split, read⟩ := spelled.exists_pieces [] List.not_mem_nil
  rw [List.nil_append] at split
  rw [read?, split]
  exact read

end Spelled

end PhaseBench.Markup
