import CheckRouter.Number.Shortest
import CheckRouter.Text.Quoted
import CheckRouter.Value

/-!
# Literals

A message shows a value as a literal together with the name of its type. A long literal is shown by
its two ends.
-/

namespace CheckRouter

def Day.parts (day : Day) : List Nat := [day.year, day.month, day.day]

/-- Hours and minutes, and the smaller parts up to the last one that is not zero. -/
def TimeOfDay.parts (time : TimeOfDay) : List Nat :=
  [time.hour, time.minute] ++
    if time.microsecond != 0 then [time.second, time.microsecond]
    else if time.second != 0 then [time.second]
    else []

namespace Moment

/-- An offset in minutes as days and seconds, of which only the days can be negative. -/
def zoneLiteral (minutes : Int) : String :=
  if minutes = 0 then "datetime.timezone.utc"
  else
    let span :=
      if minutes < 0 then "days=-1, seconds=" ++ toString (60 * (minutes + 24 * 60))
      else "seconds=" ++ toString (60 * minutes)
    "datetime.timezone(datetime.timedelta(" ++ span ++ "))"

def kind : Moment → String
  | .day _ => "date"
  | .time _ => "time"
  | .dayTime .. => "datetime"

def literal (moment : Moment) : String :=
  let parts := match moment with
    | .day d => d.parts.map toString
    | .time t => t.parts.map toString
    | .dayTime d t none =>
      let parts := d.parts ++ t.parts
      parts.map toString
    | .dayTime d t (some offset) =>
      let parts := d.parts ++ t.parts
      parts.map toString ++ ["tzinfo=" ++ zoneLiteral offset]
  "datetime." ++ moment.kind ++ "(" ++ ", ".intercalate parts ++ ")"

end Moment

namespace Value

def kind : Value → String
  | .null => "NoneType"
  | .flag _ => "bool"
  | .integer _ => "int"
  | .real _ => "float"
  | .text _ => "str"
  | .moment m => m.kind
  | .list _ => "list"
  | .table _ => "dict"

/-- An integer with at most 4300 digits. -/
def integerLiteral? (n : Int) : Option String :=
  let digits := toString n.natAbs
  if 4300 < digits.length then none else some (if n < 0 then "-" ++ digits else digits)

mutual

/-- The literal of a value in which no integer is too long. -/
def literal? : Value → Option String
  | .null => some "None"
  | .flag set => some (if set then "True" else "False")
  | .integer n => integerLiteral? n
  | .real x => some x.text
  | .text s => some (Text.quoted s)
  | .moment m => some m.literal
  | .list items => (itemLiterals? items).map fun texts => "[" ++ ", ".intercalate texts ++ "]"
  | .table entries =>
    (fieldLiterals? entries).map fun texts => "\x7b" ++ ", ".intercalate texts ++ "\x7d"

def itemLiterals? : List Value → Option (List String)
  | [] => some []
  | item :: rest => do
    let text ← literal? item
    return text :: (← itemLiterals? rest)

def fieldLiterals? : List (String × Value) → Option (List String)
  | [] => some []
  | (name, value) :: rest => do
    let text ← literal? value
    return (Text.quoted name ++ ": " ++ text) :: (← fieldLiterals? rest)

end

def takeBytes : Nat → List Char → List Char
  | _, [] => []
  | limit, c :: rest =>
    if c.utf8Size ≤ limit then c :: takeBytes (limit - c.utf8Size) rest else []

/-- Leaves out the middle of a text of more than 50 bytes. -/
def shortened (text : String) : String :=
  if text.utf8ByteSize ≤ 50 then text
  else
    let start := takeBytes 25 text.toList
    let stop := (takeBytes 24 text.toList.reverse).reverse
    .ofList start ++ "..." ++ .ofList stop

structure Shown where
  text : String
  kind : String
  deriving DecidableEq, Repr

def shown (value : Value) : Shown where
  text := shortened (value.literal?.getD ("<unprintable " ++ value.kind ++ " object>"))
  kind := value.kind

end Value

end CheckRouter
