/-!
# Blank characters

`isBlank` is white space in the sense of Unicode together with the four information separators.
`strip` drops blanks at both ends of a text, and `blankWords` cuts a text at its runs of blanks.
-/

namespace CheckRouter.Text

/-- White space, line and paragraph separators and the information separators U+001C to U+001F. -/
def isBlank (c : Char) : Bool :=
  let n := c.toNat
  (9 ≤ n && n ≤ 13) || (28 ≤ n && n ≤ 32) || n == 0x85 || n == 0xA0 || n == 0x1680 ||
    (0x2000 ≤ n && n ≤ 0x200A) || n == 0x2028 || n == 0x2029 || n == 0x202F || n == 0x205F ||
    n == 0x3000

/-- Every character that the core library counts as white space is blank. -/
theorem isBlank_of_isWhitespace {c : Char} (space : c.isWhitespace = true) : isBlank c = true := by
  simp only [Char.isWhitespace, Bool.or_eq_true, decide_eq_true_eq] at space
  rcases space with ((rfl | rfl) | rfl) | rfl <;> rfl

/-- Drops the characters at the end that satisfy `p`. -/
def dropEndWhile (p : Char → Bool) (text : List Char) : List Char :=
  (text.reverse.dropWhile p).reverse

def trim (text : List Char) : List Char :=
  dropEndWhile isBlank (text.dropWhile isBlank)

def strip (text : String) : String := .ofList (trim text.toList)

/-- The words between blanks; `word` holds the word being read, last character first. -/
def blankWordsFrom (word : List Char) : List Char → List (List Char)
  | [] => if word.isEmpty then [] else [word.reverse]
  | c :: rest =>
    if isBlank c then
      if word.isEmpty then blankWordsFrom [] rest else word.reverse :: blankWordsFrom [] rest
    else blankWordsFrom (c :: word) rest

/-- The maximal runs of characters that are not blank. -/
def blankWords (text : List Char) : List (List Char) := blankWordsFrom [] text

end CheckRouter.Text
