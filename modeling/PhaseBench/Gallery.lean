import PhaseBench.Chart.Svg
import PhaseBench.Tree.Basic

/-!
# Galleries

A gallery is a directory into which charts are drawn, one file per chart. The
files are numbered in the order in which charts were added, and a chart that
could not be written leaves its number to the next one.
-/

namespace PhaseBench

/-- A directory of drawn charts and the paths of the files written so far. -/
structure Gallery where
  dir : String
  files : List String
deriving DecidableEq

namespace Gallery

/-- A character of a title as it stands in a file name. -/
def slugChar (c : Char) : Char := if c.isAlphanum then c.toLower else '-'

/-- A number with at least two digits. -/
def twoDigits (n : Nat) : String := if n < 10 then "0" ++ Text.decimal n else Text.decimal n

/-- The name of the file of a chart, from its number and its title. -/
def fileName (index : Nat) (title : String) : String :=
  twoDigits index ++ "-" ++ String.ofList (title.toList.map slugChar) ++ ".svg"

/-- Opens a gallery in a directory, which is made if need be. -/
def openIn (tree : Tree) (dir : String) : Tree × Except Trace Gallery :=
  if hasNul dir then (tree, .error ⟨[.createDirectory dir], .nulInPath⟩)
  else
    match tree.makeDirectories dir with
    | (tree, none) => (tree, .ok ⟨dir, []⟩)
    | (tree, some error) => (tree, .error ⟨[.createDirectory dir], .os error⟩)

/-- Draws a chart into a new file. On failure gallery and files stay as they were. -/
def add (gallery : Gallery) (tree : Tree) (chart : Chart) :
    Tree × Gallery × Option Trace :=
  let path := Path.join gallery.dir (fileName gallery.files.length chart.title)
  match tree.write path chart.svg.toUTF8 with
  | .ok tree => (tree, { gallery with files := gallery.files ++ [path] }, none)
  | .error error => (tree, gallery, some ⟨[.write path], .os error⟩)

/-- Draws charts one after the other, up to the first that fails. -/
def addAll (gallery : Gallery) (tree : Tree) : List Chart → Tree × Except Trace Gallery
  | [] => (tree, .ok gallery)
  | chart :: charts =>
    match gallery.add tree chart with
    | (tree, gallery, none) => gallery.addAll tree charts
    | (tree, _, some trace) => (tree, .error trace)

/-- What drawing charts writes to the standard output: the documents of the charts whose files
lead there through links. -/
def echo (gallery : Gallery) (tree : Tree) : List Chart → String
  | [] => ""
  | chart :: charts =>
    match gallery.add tree chart with
    | (after, longer, none) =>
      let path := Path.join gallery.dir (fileName gallery.files.length chart.title)
      (if tree.isOutput path then chart.svg else "") ++ longer.echo after charts
    | (_, _, some _) => ""

end Gallery

end PhaseBench
