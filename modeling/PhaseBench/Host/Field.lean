import PhaseBench.Host.Pattern
import PhaseBench.Tree.InputFiles

/-!
# Fields

The expansion of a word gives glyphs: characters that know whether they were
quoted and whether they may separate fields. Glyphs are cut into fields at the
separators, and fields that are patterns are replaced by the paths they match.
-/

namespace PhaseBench.Host

/-- A character of an expanded word, or a mark between characters. -/
inductive Glyph
  | char (c : Char) (quoted splits : Bool)
  /-- The end of a field. -/
  | boundary
  /-- There is a field here, though it may be empty. -/
  | hold

namespace Glyph

/-- The glyphs of literal text, which may be split only inside of an expansion. -/
def literal (inside quoted : Bool) (text : Octets) : List Glyph :=
  if quoted && text.isEmpty then [.hold] else text.map fun c => .char c quoted (inside && !quoted)

/-- The glyphs of an expansion. What is not quoted may be split. -/
def expanded (quoted : Bool) (text : Octets) : List Glyph :=
  if quoted then .hold :: text.map fun c => .char c true false
  else text.map fun c => .char c false true

/-- The characters of glyphs that make up one text. -/
def marked (glyphs : List Glyph) : Marked :=
  glyphs.filterMap fun
    | .char c quoted _ => some (c, quoted)
    | .boundary => some (' ', true)
    | .hold => none

/-- The text of glyphs that make up one text. -/
def text (glyphs : List Glyph) : Octets := (marked glyphs).map (·.1)

end Glyph

/-- Fields being cut: the finished ones in reverse, and the current one in reverse. -/
structure Cutting where
  fields : List Marked := []
  current : Option Marked := none
  /-- The last field was ended by blanks, so a separator behind them ends no other. -/
  afterBlank : Bool := false

/-- Ends the current field, if there is one. -/
def Cutting.finish (cutting : Cutting) : Cutting :=
  match cutting.current with
  | some field => { fields := field.reverse :: cutting.fields, current := none }
  | none => cutting

/-- Adds a glyph. -/
def Cutting.add (separators : Octets) (cutting : Cutting) (glyph : Glyph) : Cutting :=
  let extend (c : Char) (quoted : Bool) : Cutting :=
    { cutting with current := some ((c, quoted) :: cutting.current.getD []), afterBlank := false }
  match glyph with
  | .hold => { cutting with current := some (cutting.current.getD []), afterBlank := false }
  | .boundary => cutting.finish
  | .char c quoted splits =>
    if !splits || !separators.contains c then extend c quoted
    else if Octets.isSpace c then
      match cutting.current with
      | some _ => { cutting.finish with afterBlank := true }
      | none => cutting
    else
      match cutting.current with
      | some _ => cutting.finish
      | none =>
        if cutting.afterBlank then { cutting with afterBlank := false }
        else { cutting with fields := [] :: cutting.fields }

/-- Cuts glyphs into fields. -/
def cutFields (separators : Octets) (glyphs : List Glyph) : List Marked :=
  (glyphs.foldl (Cutting.add separators) {}).finish.fields.reverse

/-! ## Paths -/

/-- Cuts a field at its slashes. -/
def cutSlashes (field : Marked) : List Marked :=
  field.foldr (fun mark parts =>
    if mark.1 == '/' then [] :: parts
    else match parts with
      | [] => [[mark]]
      | part :: rest => (mark :: part) :: rest) [[]]

/-- The paths that match the parts of a pattern behind a path that was matched before. -/
def matchParts (tree : Tree) : String → List Marked → List String
  | path, [] => [path]
  | path, part :: rest =>
    let slash := if rest.isEmpty then "" else "/"
    if Glob.isPattern part then
      let dir := if path = "" then "." else path
      let globs := Glob.ofMarked part
      let hidden := (part.head?.map (·.1)) == some '.'
      match tree.list dir with
      | .error _ => []
      | .ok names =>
        let names := (if hidden then [".", ".."] else []) ++ names
        let names := names.filter fun name =>
          (hidden || name.toList.head? != some '.') && Glob.accepts globs (Octets.ofText name)
        let names := names.mergeSort fun a b => !nameBefore b a
        names.flatMap fun name =>
          let found := path ++ name ++ slash
          if rest.isEmpty || tree.isDirectory found then matchParts tree found rest else []
    else
      let found := path ++ Octets.toText (part.map (·.1)) ++ slash
      if rest.isEmpty then
        match tree.spot .name found with
        | .ok (.found _ _) => [found]
        | _ => []
      else matchParts tree found rest

/-- The texts that a field stands for: the paths it matches, or itself. -/
def pathsOf (tree : Tree) (field : Marked) : List Octets :=
  let own := field.map (·.1)
  if Glob.isPattern field then
    match matchParts tree "" (cutSlashes field) with
    | [] => [own]
    | paths => paths.map Octets.ofText
  else [own]

end PhaseBench.Host
