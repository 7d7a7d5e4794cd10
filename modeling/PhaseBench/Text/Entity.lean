/-!
# Markup entities

Text inside a markup document is written with four entities. Writing replaces the
four characters one after the other, the ampersand first, so that no later
replacement touches what an earlier one wrote.
-/

namespace PhaseBench.Text

/-- Replaces every occurrence of one character by a text. -/
def replaceChar (target : Char) (replacement : String) (cs : List Char) : List Char :=
  cs.flatMap fun c => if c = target then replacement.toList else [c]

/-- The four replacements of `escapeEntities`, in the order in which they are made. -/
def entities : List (Char × String) :=
  [('&', "&amp;"), ('<', "&lt;"), ('>', "&gt;"), ('"', "&quot;")]

/-- A text with `&`, `<`, `>` and the double quote written as entities. -/
def escapeEntities (text : String) : String :=
  String.ofList (entities.foldl (fun cs (c, entity) => replaceChar c entity cs) text.toList)

end PhaseBench.Text
