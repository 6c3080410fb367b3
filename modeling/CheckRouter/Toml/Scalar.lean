import CheckRouter.Toml.Token
import CheckRouter.Value

/-!
# Numbers, dates and times of a project file

`number?` and `moment?` read a value from the front of a text, or tell that none stands there.
-/

namespace CheckRouter.Toml

/-- Digits with single underscores between them. The underscores are dropped. -/
def digitRun (isDigit : Char → Bool) : List Char → List Char × List Char
  | [] => ([], [])
  | c :: '_' :: d :: rest =>
    if !isDigit c then ([], c :: '_' :: d :: rest)
    else if isDigit d then
      let (digits, behind) := digitRun isDigit (d :: rest)
      (c :: digits, behind)
    else ([c], '_' :: d :: rest)
  | c :: rest =>
    if isDigit c then
      let (digits, behind) := digitRun isDigit rest
      (c :: digits, behind)
    else ([], c :: rest)

def ofDigits (base : Nat) (digits : List Char) : Nat :=
  digits.foldl (fun n c => base * n + (hexValue? c).getD 0) 0

/-- The base that a letter announces behind a zero, and its digits. -/
def base? : Char → Option (Nat × (Char → Bool))
  | 'x' => some (16, fun c => (hexValue? c).isSome)
  | 'b' => some (2, fun c => c = '0' || c = '1')
  | 'o' => some (8, fun c => '0' ≤ c && c ≤ '7')
  | _ => none

/-- An integer to a base other than ten. -/
def basedInteger? : List Char → Option (Int × List Char)
  | '0' :: letter :: rest => do
    let (base, isDigit) ← base? letter
    let (digits, rest) := digitRun isDigit rest
    if digits.isEmpty then none else some (ofDigits base digits, rest)
  | _ => none

def sign : List Char → Bool × List Char
  | '-' :: rest => (true, rest)
  | '+' :: rest => (false, rest)
  | text => (false, text)

/-- The digits before the point. A zero stands alone. -/
def wholeDigits : List Char → List Char × List Char
  | '0' :: rest => (['0'], rest)
  | text => digitRun Char.isDigit text

def fractionDigits (text : List Char) : List Char × List Char :=
  match text with
  | '.' :: rest =>
    let (digits, behind) := digitRun Char.isDigit rest
    if digits.isEmpty then ([], text) else (digits, behind)
  | _ => ([], text)

def exponent? (text : List Char) : Option Int × List Char :=
  match text with
  | mark :: rest =>
    if mark = 'e' || mark = 'E' then
      let (negative, unsigned) := sign rest
      let (digits, behind) := digitRun Char.isDigit unsigned
      if digits.isEmpty then (none, text)
      else
        let size : Int := ofDigits 10 digits
        (some (if negative then -size else size), behind)
    else (none, text)
  | [] => (none, [])

/-- A number in decimal notation: an integer unless it has a fraction or an exponent. -/
def decimalNumber? (text : List Char) : Option (Except Fault Value × List Char) :=
  let (negative, unsigned) := sign text
  let (whole, rest) := wholeDigits unsigned
  if whole.isEmpty then none
  else
    let (fraction, rest) := fractionDigits rest
    let (exponent, rest) := exponent? rest
    if fraction.isEmpty && exponent.isNone then
      if 4300 < whole.length then some (.error (.oversized whole.length), rest)
      else
        let size : Int := ofDigits 10 whole
        some (.ok (.integer (if negative then -size else size)), rest)
    else
      let digits := ofDigits 10 (whole ++ fraction)
      let power := exponent.getD 0 - fraction.length
      some (.ok (.real (.ofDecimal negative digits power)), rest)

def specialNumber? (text : List Char) : Option (Value × List Char) :=
  let (negative, unsigned) := sign text
  match unsigned with
  | 'i' :: 'n' :: 'f' :: rest => some (.real (.infinite negative), rest)
  | 'n' :: 'a' :: 'n' :: rest => some (.real (.notNumber negative), rest)
  | _ => none

def number? (text : List Char) : Option (Except Fault Value × List Char) :=
  match basedInteger? text with
  | some (n, rest) => some (.ok (.integer n), rest)
  | none =>
    match decimalNumber? text with
    | some found => some found
    | none => (specialNumber? text).map fun (value, rest) => (.ok value, rest)

def twoDigits? (c d : Char) : Option Nat :=
  if c.isDigit && d.isDigit then some (ofDigits 10 [c, d]) else none

/-- Digits in the form of a day, with a month up to twelve and a day up to 31. -/
def day? : List Char → Option (Day × List Char)
  | y₁ :: y₂ :: y₃ :: y₄ :: '-' :: m₁ :: m₂ :: '-' :: d₁ :: d₂ :: rest => do
    let century ← twoDigits? y₁ y₂
    let year ← twoDigits? y₃ y₄
    let month ← twoDigits? m₁ m₂
    let day ← twoDigits? d₁ d₂
    if 1 ≤ month && month ≤ 12 && 1 ≤ day && day ≤ 31 then
      some (⟨100 * century + year, month, day⟩, rest)
    else none
  | _ => none

/-- The microseconds that the digits of a fraction of a second denote. -/
def microseconds (digits : List Char) : Nat :=
  ofDigits 10 ((digits ++ List.replicate 6 '0').take 6)

def timeOfDay? : List Char → Option (TimeOfDay × List Char)
  | h₁ :: h₂ :: ':' :: m₁ :: m₂ :: ':' :: s₁ :: s₂ :: rest => do
    let hour ← twoDigits? h₁ h₂
    let minute ← twoDigits? m₁ m₂
    let second ← twoDigits? s₁ s₂
    if hour ≤ 23 && minute ≤ 59 && second ≤ 59 then
      let (fraction, rest) :=
        match rest with
        | '.' :: behind =>
          let digits := behind.takeWhile Char.isDigit
          if digits.isEmpty then ([], rest) else (digits, behind.dropWhile Char.isDigit)
        | _ => ([], rest)
      some (⟨hour, minute, second, microseconds fraction⟩, rest)
    else none
  | _ => none

/-- The offset of a time from universal time, if one stands there. -/
def offset (text : List Char) : Option Int × List Char :=
  match text with
  | 'Z' :: rest => (some 0, rest)
  | 'z' :: rest => (some 0, rest)
  | sign :: h₁ :: h₂ :: ':' :: m₁ :: m₂ :: rest =>
    match twoDigits? h₁ h₂, twoDigits? m₁ m₂ with
    | some hour, some minute =>
      if (sign = '+' || sign = '-') && hour ≤ 23 && minute ≤ 59 then
        let minutes : Int := 60 * hour + minute
        (some (if sign = '-' then -minutes else minutes), rest)
      else (none, text)
    | _, _ => (none, text)
  | _ => (none, text)

/-- What a day and the text behind it stand for. -/
def dayTime (day : Day) (text : List Char) : Moment × List Char :=
  match text with
  | mark :: behind =>
    if mark = 'T' || mark = 't' || mark = ' ' then
      match timeOfDay? behind with
      | some (time, behind) =>
        let (offset, behind) := offset behind
        (.dayTime day time offset, behind)
      | none => (.day day, text)
    else (.day day, text)
  | [] => (.day day, text)

/-- A day, a time or both. A day that the calendar does not have is a fault. -/
def moment? (text : List Char) : Option (Except Fault Value × List Char) :=
  match day? text with
  | some (day, behind) =>
    let (moment, rest) := dayTime day behind
    some (if day.isReal then .ok (.moment moment) else fault .unrealDay text, rest)
  | none => (timeOfDay? text).map fun (time, rest) => (.ok (.moment (.time time)), rest)

end CheckRouter.Toml
