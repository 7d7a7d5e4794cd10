/-!
# Blank characters

The characters of property White_Space, and the two operations that depend on
them: splitting a text into its words and dropping what is blank at its end.
-/

namespace PhaseBench.Text

/-- Holds for the characters of property White_Space. -/
def isBlank (c : Char) : Bool :=
  let n := c.toNat
  (9 ≤ n && n ≤ 13) || n == 0x20 || n == 0x85 || n == 0xA0 || n == 0x1680 ||
    (0x2000 ≤ n && n ≤ 0x200A) || n == 0x2028 || n == 0x2029 || n == 0x202F ||
    n == 0x205F || n == 0x3000

/-- One step of `wordsOf`, from the right: `c` begins a word, extends the word that
begins the rest, or stands between words. -/
def wordsStep (c : Char) : Bool × List (List Char) → Bool × List (List Char)
  | (inWord, words) =>
    if isBlank c then (false, words)
    else match inWord, words with
      | true, word :: rest => (true, (c :: word) :: rest)
      | _, words => (true, [c] :: words)

/-- The maximal runs of characters that are not blank, in order. -/
def wordsOf (cs : List Char) : List (List Char) :=
  (cs.foldr wordsStep (false, [])).2

/-- The words of a text. -/
def splitBlank (text : String) : List String :=
  (wordsOf text.toList).map String.ofList

/-- The text without the blank characters at its end. -/
def trimEnd (text : String) : String :=
  String.ofList (text.toList.reverse.dropWhile isBlank).reverse

end PhaseBench.Text
