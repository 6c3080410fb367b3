import CheckRouter.Severity
import CheckRouter.Value.Literal

/-!
# Fields

Each reader takes one dynamic value to a value of the type of a field. Texts are read as numbers
and flags where they denote one; what cannot be read is a `Complaint`.
-/

namespace CheckRouter

inductive Complaint
  | missing
  | unexpected
  | notText
  | notFlag
  | unreadableFlag
  | notInteger
  | unreadableInteger
  | oversizedInteger
  | fractional
  | notFinite
  | notNumber
  | unreadableNumber
  | below (least : Int)
  | notPositive
  | notPath
  | notSeverity
  | notList
  | notTable
  deriving DecidableEq, Repr

namespace Complaint

def kind : Complaint → String
  | .missing => "missing"
  | .unexpected => "extra_forbidden"
  | .notText => "string_type"
  | .notFlag => "bool_type"
  | .unreadableFlag => "bool_parsing"
  | .notInteger => "int_type"
  | .unreadableInteger => "int_parsing"
  | .oversizedInteger => "int_parsing_size"
  | .fractional => "int_from_float"
  | .notFinite => "finite_number"
  | .notNumber => "float_type"
  | .unreadableNumber => "float_parsing"
  | .below _ => "greater_than_equal"
  | .notPositive => "greater_than"
  | .notPath => "path_type"
  | .notSeverity => "enum"
  | .notList => "list_type"
  | .notTable => "dict_type"

def message : Complaint → String
  | .missing => "Field required"
  | .unexpected => "Extra inputs are not permitted"
  | .notText => "Input should be a valid string"
  | .notFlag => "Input should be a valid boolean"
  | .unreadableFlag => "Input should be a valid boolean, unable to interpret input"
  | .notInteger => "Input should be a valid integer"
  | .unreadableInteger =>
    "Input should be a valid integer, unable to parse string as an integer"
  | .oversizedInteger =>
    "Unable to parse input string as an integer, exceeded maximum size"
  | .fractional => "Input should be a valid integer, got a number with a fractional part"
  | .notFinite => "Input should be a finite number"
  | .notNumber => "Input should be a valid number"
  | .unreadableNumber => "Input should be a valid number, unable to parse string as a number"
  | .below least => "Input should be greater than or equal to " ++ toString least
  | .notPositive => "Input should be greater than 0"
  | .notPath => "Input is not a valid path for <class 'pathlib.Path'>"
  | .notSeverity => "Input should be 'error', 'warning' or 'note'"
  | .notList => "Input should be a valid list"
  | .notTable => "Input should be a valid dictionary"

end Complaint

/-- A complaint about the value that was given for a field, or about the whole record if there was
none. -/
structure Fault where
  field : String
  complaint : Complaint
  given : Value.Shown
  deriving DecidableEq, Repr

namespace Field

def text : Value → Except Complaint String
  | .text s => .ok s
  | _ => .error .notText

/-- White space around a number: blanks other than the information separators. -/
def isSpace (c : Char) : Bool :=
  Text.isBlank c && !(28 ≤ c.toNat && c.toNat ≤ 31)

def trimSpace (text : List Char) : List Char :=
  Text.dropEndWhile isSpace (text.dropWhile isSpace)

def digitsValue (digits : List Char) : Nat :=
  digits.foldl (fun n c => 10 * n + (c.toNat - '0'.toNat)) 0

def natural? (digits : List Char) : Option Nat :=
  if !digits.isEmpty && digits.all Char.isDigit then some (digitsValue digits) else none

def signed? : List Char → Option Int
  | '+' :: digits => (natural? digits).map Int.ofNat
  | '-' :: digits => (natural? digits).map fun n => -Int.ofNat n
  | digits => (natural? digits).map Int.ofNat

/-- Drops zeros, and underscores among them, from the front; one zero is kept before a point or the
end. A minus may stand behind them. -/
def dropLeadingZeros (text : List Char) : Option (List Char) :=
  match text with
  | '0' :: rest =>
    match rest.dropWhile fun c => c = '0' || c = '_' with
    | [] => some (text.drop (text.length - 1))
    | '.' :: fraction =>
      let before := text.take (text.length - fraction.length - 1)
      some (before.drop (before.length - 1) ++ '.' :: fraction)
    | c :: others => if c.isDigit || c = '-' then some (c :: others) else none
  | c :: _ => if c.isDigit || c = '-' then some text else none
  | [] => none

/-- Drops a point with one zero or more behind it and nothing else. -/
def dropZeroFraction (text : List Char) : List Char :=
  let zeros := (text.dropWhile (· != '.')).drop 1
  if !zeros.isEmpty && zeros.all (· = '0') then text.takeWhile (· != '.') else text

/-- Drops single underscores inside a text. A text with any other underscore is left as it is. -/
def dropUnderscores (text : List Char) : List Char :=
  let doubled := text.zip (text.drop 1) |>.any fun (c, d) => c = '_' && d = '_'
  if text.head? = some '_' || text.getLast? = some '_' || doubled then text
  else text.filter (· != '_')

/-- The integer of a text in plain notation, which has no plus and no zeros in front. A text with
more than 4300 characters of sign and digits in front is refused as such. -/
def plainInteger (text : List Char) : Except Complaint Int :=
  let digits := if text.head? = some '-' then text.drop 1 else text
  let run := digits.takeWhile Char.isDigit
  let size := text.length - digits.length + run.length
  if run.head? = some '0' && digits != ['0'] then .error .unreadableInteger
  else if 4300 < size then .error .oversizedInteger
  else if size < text.length then .error .unreadableInteger
  else
    match signed? text with
    | some n => .ok n
    | none => .error .unreadableInteger

/-- Drops the zeros in front of a text, behind its sign. A plus is dropped with them. -/
def unpadded? (text : List Char) : Option (List Char) :=
  match text with
  | '+' :: '-' :: _ => none
  | '+' :: rest => dropLeadingZeros rest
  | '-' :: rest => (dropLeadingZeros rest).map ('-' :: ·)
  | _ => dropLeadingZeros text

/-- Brings a text with blanks around it, a plus, zeros in front, a fraction of zeros or single
underscores to plain notation. -/
def plain? (text : List Char) : Option (List Char) :=
  (unpadded? (trimSpace text)).map fun text => dropUnderscores (dropZeroFraction text)

/-- The integer of a text. Only a text in plain notation is refused for its size. -/
def integerOfText (s : String) : Except Complaint Int :=
  match plainInteger s.toList with
  | .error .unreadableInteger =>
    match (plain? s.toList).map plainInteger with
    | some (.ok n) => .ok n
    | _ => .error .unreadableInteger
  | result => result

def maxWord : Int := 0x7FFFFFFFFFFFFFFF

def isWord (n : Int) : Bool := -maxWord - 1 ≤ n && n ≤ maxWord

/-- The integer that a number is equal to, if its size is below the power of two that 64 bits with a
sign do not hold any more. -/
def integerOfReal (x : Binary64) : Except Complaint Int :=
  if !x.isFinite then .error .notFinite
  else
    match x.toInt? with
    | some n => if n.natAbs ≤ maxWord.natAbs then .ok n else .error .oversizedInteger
    | none => .error .fractional

def integer (least : Int) (value : Value) : Except Complaint { n : Int // least ≤ n } := do
  let n ← match value with
    | .integer n => pure n
    | .flag set => pure (if set then 1 else 0)
    | .real x => integerOfReal x
    | .text s => integerOfText s
    | _ => throw .notInteger
  if enough : least ≤ n then return ⟨n, enough⟩ else throw (.below least)

def truths : List String := ["1", "on", "t", "true", "y", "yes"]

def falsehoods : List String := ["0", "off", "f", "false", "n", "no"]

def flag (value : Value) : Except Complaint Bool :=
  let ofInt (n : Int) : Except Complaint Bool :=
    if n = 0 then .ok false else if n = 1 then .ok true else .error .unreadableFlag
  match value with
  | .flag set => .ok set
  | .integer n => if isWord n then ofInt n else .error .notFlag
  | .real x =>
    match integerOfReal x with
    | .ok n => ofInt n
    | .error _ => .error .notFlag
  | .text s =>
    let word := s.map Char.toLower
    if truths.contains word then .ok true
    else if falsehoods.contains word then .ok false
    else .error .unreadableFlag
  | _ => .error .notFlag

def spanDigits (text : List Char) : List Char × List Char :=
  (text.takeWhile Char.isDigit, text.dropWhile Char.isDigit)

/-- Decimal notation without a sign: digits with a point somewhere and an optional exponent. -/
def unsignedReal? (negative : Bool) (text : List Char) : Option Binary64 :=
  let (whole, rest) := spanDigits text
  let (fraction, rest) :=
    match rest with
    | '.' :: behind => spanDigits behind
    | _ => ([], rest)
  let digits := whole ++ fraction
  if digits.isEmpty then none
  else
    let number (exponent : Int) :=
      Binary64.ofDecimal negative (digitsValue digits) (exponent - fraction.length)
    match rest with
    | [] => some (number 0)
    | mark :: exponent =>
      if mark = 'e' || mark = 'E' then (signed? exponent).map number else none

/-- A number in decimal notation, an infinity or not a number, with an optional sign. -/
def signedReal? (text : List Char) : Option Binary64 :=
  let (negative, body) :=
    match text with
    | '-' :: rest => (true, rest)
    | '+' :: rest => (false, rest)
    | _ => (false, text)
  let word := body.map Char.toLower
  if word = "inf".toList || word = "infinity".toList then some (.infinite negative)
  else if word = "nan".toList then some (.notNumber negative)
  else unsignedReal? negative body

def realOfText (s : String) : Except Complaint Binary64 :=
  let body := trimSpace s.toList
  match signedReal? body <|> signedReal? (dropUnderscores s.toList) with
  | some x => .ok x
  | none => .error .unreadableNumber

def positive (value : Value) : Except Complaint { x : Binary64 // x.isPositive = true } := do
  let x ← match value with
    | .real x => pure x
    | .flag set => pure (.ofInt (if set then 1 else 0))
    | .integer n =>
      let x := Binary64.ofInt n
      if x.isFinite then pure x else throw .notNumber
    | .text s => realOfText s
    | _ => throw .notNumber
  if above : x.isPositive = true then return ⟨x, above⟩ else throw .notPositive

def optional {α : Type} (reader : Value → Except Complaint α) : Value → Except Complaint (Option α)
  | .null => .ok none
  | value => (reader value).map some

def table : Value → Except Complaint Entries
  | .table entries => .ok entries
  | _ => .error .notTable

def list {α : Type} (reader : Value → Except Complaint α) : Value → Except Complaint (List α)
  | .list items => items.mapM reader
  | _ => .error .notList

def severity : Value → Except Complaint Severity
  | .text s =>
    match Severity.ofWord? s with
    | some severity => .ok severity
    | none => .error .notSeverity
  | _ => .error .notSeverity

/-- Reads the field of a name, `absent` when there is none, and puts a complaint to its name. -/
def read {α : Type} (entries : Entries) (name : String) (absent : Except Complaint α)
    (reader : Value → Except Complaint α) : Except Fault α :=
  match entries.get? name with
  | none => absent.mapError (⟨name, ·, (Value.table entries).shown⟩)
  | some value => (reader value).mapError (⟨name, ·, value.shown⟩)

def faults {α : Type} : Except Fault α → List Fault
  | .ok _ => []
  | .error fault => [fault]

end Field

end CheckRouter
