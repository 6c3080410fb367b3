import CheckRouter.Text.Quoted

/-!
# Faults of a project file

A reader of a project file stops at the first place where the text cannot go on. A `Reason` says
what is wrong there; the place is told by the number of characters that are left.
-/

namespace CheckRouter.Toml

inductive Reason
  | invalidStatement
  | trailingText
  | invalidKey
  | missingEquals
  | invalidValue
  | unrealDay
  | openArray
  | openInlineTable
  | openHeader
  | openMemberHeader
  | openText
  /-- A text that ends with a delimiter which does not follow any more. -/
  | missingDelimiter (delimiter : String)
  | invalidCharacter (c : Char)
  | illegalCharacter (c : Char)
  | strayBackslash
  | invalidHexadecimal
  | notScalar
  | overwritten
  | repeatedField (name : String)
  | repeatedTable (key : List String)
  | redefinedTable (key : List String)
  | sealedTable (key : List String)
  deriving DecidableEq, Repr

/-- The parts of a key between brackets. A comma stands behind a single part. -/
def keyText (key : List String) : String :=
  let parts := ", ".intercalate (key.map Text.quoted)
  "(" ++ parts ++ (if key.length = 1 then ",)" else ")")

def Reason.message : Reason → String
  | .invalidStatement => "Invalid statement"
  | .trailingText => "Expected newline or end of document after a statement"
  | .invalidKey => "Invalid initial character for a key part"
  | .missingEquals => "Expected '=' after a key in a key/value pair"
  | .invalidValue => "Invalid value"
  | .unrealDay => "Invalid date or datetime"
  | .openArray => "Unclosed array"
  | .openInlineTable => "Unclosed inline table"
  | .openHeader => "Expected ']' at the end of a table declaration"
  | .openMemberHeader => "Expected ']]' at the end of an array declaration"
  | .openText => "Unterminated string"
  | .missingDelimiter delimiter => "Expected " ++ Text.quoted delimiter
  | .invalidCharacter c => "Found invalid character " ++ Text.quoted (String.singleton c)
  | .illegalCharacter c => "Illegal character " ++ Text.quoted (String.singleton c)
  | .strayBackslash => "Unescaped '\\' in a string"
  | .invalidHexadecimal => "Invalid hex value"
  | .notScalar => "Escaped character is not a Unicode scalar value"
  | .overwritten => "Cannot overwrite a value"
  | .repeatedField name => "Duplicate inline table key " ++ Text.quoted name
  | .repeatedTable key => "Cannot declare " ++ keyText key ++ " twice"
  | .redefinedTable key => "Cannot redefine namespace " ++ keyText key
  | .sealedTable key => "Cannot mutate immutable namespace " ++ keyText key

inductive Fault
  /-- The text cannot go on where `left` characters are left. -/
  | malformed (reason : Reason) (left : Nat)
  /-- An integer in decimal notation with too many digits. -/
  | oversized (digits : Nat)
  | nested
  deriving DecidableEq, Repr

def fault {α : Type} (reason : Reason) (left : List Char) : Except Fault α :=
  .error (.malformed reason left.length)

structure Position where
  line : Nat
  column : Nat
  deriving DecidableEq, Repr

/-- The position of the character behind a text. -/
def Position.behind (before : List Char) : Position where
  line := before.count '\n' + 1
  column := (before.reverse.takeWhile (· != '\n')).length + 1

/-- A reason and its position, which is missing at the end of the document. -/
structure Mistake where
  reason : Reason
  position : Option Position
  deriving DecidableEq, Repr

/-- What is wrong in a text where some characters of it are left. -/
def Mistake.of (text : List Char) (reason : Reason) (left : Nat) : Mistake where
  reason := reason
  position := if left = 0 then none else some (.behind (text.take (text.length - left)))

def Mistake.message (mistake : Mistake) : String :=
  let place := match mistake.position with
    | none => "end of document"
    | some position =>
      "line " ++ toString position.line ++ ", column " ++ toString position.column
  mistake.reason.message ++ " (at " ++ place ++ ")"

end CheckRouter.Toml
