import CheckRouter.Text.Blank
import CheckRouter.Text.Cells
import CheckRouter.Text.Lines

/-!
# Wrapping

`wrap` lays a text out in lines of a given number of cells. Lines end between words; a word that is
longer than a line is folded over several. `paragraphs` first drops the control characters that a
terminal would act on.
-/

namespace CheckRouter.Console

/-- Bell, backspace, vertical tab, form feed and carriage return. -/
def isTerminalControl (c : Char) : Bool :=
  c.toNat = 7 || c.toNat = 8 || c.toNat = 11 || c.toNat = 12 || c.toNat = 13

def dropControls (text : List Char) : List Char := text.filter (!isTerminalControl ·)

/-- Replaces each tab by spaces up to the next multiple of eight cells; `column` cells stand before
the text. -/
def expandTabs (column : Nat) : List Char → List Char
  | [] => []
  | c :: rest =>
    if c = '\t' then
      let spaces := 8 - column % 8
      List.replicate spaces ' ' ++ expandTabs (column + spaces) rest
    else c :: expandTabs (column + Text.cellWidth c) rest

/-- The words of a line, each with the blanks behind it and the first also with those before it.
`word` holds the word being read, last character first; `inside` tells whether it has a character
that is not blank, `closed` whether blanks have followed. -/
def wordsFrom (word : List Char) (inside closed : Bool) : List Char → List (List Char)
  | [] => if inside then [word.reverse] else []
  | c :: rest =>
    if Text.isBlank c then wordsFrom (c :: word) inside inside rest
    else if closed then word.reverse :: wordsFrom [c] true false rest
    else wordsFrom (c :: word) true false rest

def words (line : List Char) : List (List Char) := wordsFrom [] false false line

/-- Cuts a word into parts of at most `limit` cells; `part` holds the part being read, last
character first, and `used` its cells. -/
def chopFrom (limit : Nat) (part : List Char) (used : Nat) : List Char → List (List Char)
  | [] => [part.reverse]
  | c :: rest =>
    if limit < used + Text.cellWidth c then
      part.reverse :: chopFrom limit [c] (Text.cellWidth c) rest
    else chopFrom limit (c :: part) (used + Text.cellWidth c) rest

def chop (limit : Nat) (word : List Char) : List (List Char) := chopFrom limit [] 0 word

/-- The places where the parts of a word start that stands at a place. -/
def startsOf (place : Nat) : List (List Char) → List Nat
  | [] => []
  | part :: rest => place :: startsOf (place + part.length) rest

/-- The places at which a line is broken; the next word stands at `place`, behind `used` cells of
its line. -/
def breaksFrom (fold : Bool) (limit place used : Nat) : List (List Char) → List Nat
  | [] => []
  | word :: rest =>
    let next := place + word.length
    let size := Text.width (Text.dropEndWhile Text.isBlank word)
    let whole := Text.width word
    if used + size ≤ limit then breaksFrom fold limit next (used + whole) rest
    else if limit < size then
      if fold then
        let parts := chop limit word
        (startsOf place parts).filter (0 < ·) ++
          breaksFrom fold limit next (Text.width (parts.getLastD [])) rest
      else (if 0 < place then [place] else []) ++ breaksFrom fold limit next whole rest
    else if 0 < used && 0 < place then place :: breaksFrom fold limit next whole rest
    else breaksFrom fold limit next used rest

def cutAt (place : Nat) (line : List Char) : List Nat → List (List Char)
  | [] => [line]
  | cut :: rest => line.take (cut - place) :: cutAt cut (line.drop (cut - place)) rest

/-- Drops blanks at the end of a line that has more characters than `limit`. -/
def trimExcess (limit : Nat) (line : List Char) : List Char :=
  let blanks := (line.reverse.takeWhile Text.isBlank).length
  line.take (line.length - min blanks (line.length - limit))

/-- Searches the part of a line that fills `limit` cells, between `low` and `high` characters. A
character that would be cut in half is replaced by a space. -/
def fitBetween (limit : Nat) (line : List Char) : Nat → Nat → Nat → List Char
  | 0, _, _ => line
  | fuel + 1, low, high =>
    let middle := (low + high) / 2
    let part := line.take (middle + 1)
    let size := Text.width part
    if size = limit + 1 && part.getLast?.map Text.cellWidth = some 2 then part.dropLast ++ [' ']
    else if size = limit then part
    else if limit < size then fitBetween limit line fuel low middle
    else fitBetween limit line fuel middle high

def fit (limit : Nat) (line : List Char) : List Char :=
  let size := Text.width line
  if limit = 0 then []
  else if size ≤ limit then line ++ List.replicate (limit - size) ' '
  else fitBetween limit line (line.length + 2) 0 line.length

/-- What is done with a word that is longer than a line. -/
inductive Overflow
  | fold
  | ellipsis
  deriving DecidableEq, Repr

def truncate (overflow : Overflow) (limit : Nat) (line : List Char) : List Char :=
  if Text.width line ≤ limit then line
  else
    match overflow with
    | .fold => fit limit line
    | .ellipsis => fit (limit - 1) line ++ ['…']

/-- Lays out a text without line feeds. -/
def wrapLine (overflow : Overflow) (limit : Nat) (line : List Char) : List (List Char) :=
  let line := expandTabs 0 line
  let breaks := breaksFrom (overflow = .fold) limit 0 0 (words line)
  (cutAt 0 line breaks).map fun part => truncate overflow limit (trimExcess limit part)

def wrap (overflow : Overflow) (limit : Nat) (text : List Char) : List (List Char) :=
  (Text.pieces '\n' text).flatMap (wrapLine overflow limit)

/-- The lines that a console of a width shows for a text. A console without width shows none. -/
def paragraphs (limit : Nat) (text : String) : List String :=
  if limit = 0 then []
  else (wrap .fold limit (dropControls text.toList)).map String.ofList

end CheckRouter.Console
