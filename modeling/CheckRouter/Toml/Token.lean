import CheckRouter.Toml.Fault

/-!
# Tokens of a project file

Readers of blanks, comments, texts and keys. Each takes the characters that remain and gives what it
has read together with what remains then.
-/

namespace CheckRouter.Toml

/-- Control characters other than the tab. -/
def isControl (c : Char) : Bool := (c.toNat < 32 && c != '\t') || c.toNat = 127

def isSpace (c : Char) : Bool := c = ' ' || c = '\t'

def skipSpace (text : List Char) : List Char := text.dropWhile isSpace

/-- Refuses a content that has a forbidden character; `behind` stands behind the content. -/
def checkContent (forbidden : Char → Bool) (behind : List Char) : List Char → Except Fault Unit
  | [] => .ok ()
  | c :: rest =>
    if forbidden c then fault (.invalidCharacter c) (c :: rest ++ behind)
    else checkContent forbidden behind rest

def skipComment (text : List Char) : Except Fault (List Char) :=
  match text with
  | '#' :: rest => do
    let behind := rest.dropWhile (· != '\n')
    checkContent isControl behind (rest.takeWhile (· != '\n'))
    return behind
  | _ => .ok text

/-- Skips spaces, line feeds and comments. -/
def skipLayout (inComment : Bool) : List Char → Except Fault (List Char)
  | [] => .ok []
  | c :: rest =>
    if inComment then
      if c = '\n' then skipLayout false rest
      else if isControl c then fault (.invalidCharacter c) (c :: rest)
      else skipLayout true rest
    else if c = '#' then skipLayout true rest
    else if isSpace c || c = '\n' then skipLayout false rest
    else .ok (c :: rest)

/-- A text between single quotes, from behind the first one. -/
def literal (text : List Char) : Except Fault (List Char × List Char) :=
  let content := text.takeWhile (· != '\'')
  match text.dropWhile (· != '\'') with
  | quote :: rest => do
    checkContent isControl (quote :: rest) content
    return (content, rest)
  | [] => fault (.missingDelimiter "'") []

/-- What stands before and behind the first three single quotes; `before` holds what was read, last
character first. -/
def splitAtQuotes (before : List Char) : List Char → Option (List Char × List Char)
  | [] => none
  | '\'' :: '\'' :: '\'' :: rest => some (before.reverse, rest)
  | c :: rest => splitAtQuotes (c :: before) rest

/-- A text up to three single quotes, which may hold line feeds. -/
def longLiteral (text : List Char) : Except Fault (List Char × List Char) :=
  match splitAtQuotes [] text with
  | some (content, rest) => do
    let forbidden (c : Char) : Bool := isControl c && c != '\n'
    checkContent forbidden ('\'' :: '\'' :: '\'' :: rest) content
    return (content, rest)
  | none => fault (.missingDelimiter "'''") []

/-- Where in a text with escapes the next character stands. -/
inductive Context
  | plain
  | escape
  /-- Inside an escape that gives a code point, of which `missing + 1` digits are missing; `left`
  characters were left where its digits start. -/
  | codePoint (missing : Nat) (value : Nat) (left : Nat)
  /-- Behind a backslash at the end of a line; `ended` once the line feed has been seen. -/
  | folded (ended : Bool)

def unescape? : Char → Option Char
  | 'b' => some '\x08'
  | 't' => some '\t'
  | 'n' => some '\n'
  | 'f' => some '\x0c'
  | 'r' => some '\r'
  | '"' => some '"'
  | '\\' => some '\\'
  | _ => none

def hexValue? (c : Char) : Option Nat :=
  if '0' ≤ c && c ≤ '9' then some (c.toNat - '0'.toNat)
  else if 'a' ≤ c && c ≤ 'f' then some (c.toNat - 'a'.toNat + 10)
  else if 'A' ≤ c && c ≤ 'F' then some (c.toNat - 'A'.toNat + 10)
  else none

def scalar? (value : Nat) : Option Char :=
  if value.isValidChar then some (Char.ofNat value) else none

/-- What is wrong where a text with escapes ends too early. -/
def Context.faultAtEnd : Context → Fault
  | .escape => .malformed .strayBackslash 0
  | .codePoint _ _ left => .malformed .invalidHexadecimal left
  | _ => .malformed .openText 0

/-- A text between double quotes, from behind the first ones. A `long` text ends at three quotes and
may hold line feeds; `content` holds what was read, last character first. -/
def quotedFrom (long : Bool) :
    Context → List Char → List Char → Except Fault (List Char × List Char)
  | context, _, [] => .error context.faultAtEnd
  | .escape, content, c :: rest =>
    match unescape? c with
    | some meant => quotedFrom long .plain (meant :: content) rest
    | none =>
      if c = 'u' then quotedFrom long (.codePoint 3 0 rest.length) content rest
      else if c = 'U' then quotedFrom long (.codePoint 7 0 rest.length) content rest
      else if long && isSpace c then quotedFrom long (.folded false) content rest
      else if long && c = '\n' then quotedFrom long (.folded true) content rest
      else fault .strayBackslash rest
  | .codePoint missing value left, content, c :: rest =>
    match hexValue? c with
    | none => .error (.malformed .invalidHexadecimal left)
    | some digit =>
      let value := value * 16 + digit
      match missing with
      | missing + 1 => quotedFrom long (.codePoint missing value left) content rest
      | 0 =>
        match scalar? value with
        | some meant => quotedFrom long .plain (meant :: content) rest
        | none => fault .notScalar rest
  | .folded false, content, c :: rest =>
    if isSpace c then quotedFrom long (.folded false) content rest
    else if c = '\n' then quotedFrom long (.folded true) content rest
    else fault .strayBackslash (c :: rest)
  | context, content, c :: rest =>
    let folding := match context with
      | .folded _ => isSpace c || c = '\n'
      | _ => false
    if folding then quotedFrom long (.folded true) content rest
    else if c = '\\' then quotedFrom long .escape content rest
    else if c = '"' then
      if !long then .ok (content.reverse, rest)
      else
        match rest with
        | '"' :: '"' :: behind => .ok (content.reverse, behind)
        | _ => quotedFrom long .plain (c :: content) rest
    else if isControl c && !(long && c = '\n') then fault (.illegalCharacter c) (c :: rest)
    else quotedFrom long .plain (c :: content) rest

/-- Takes up to two more quotes that stand right behind a long text into it. -/
def trailingQuotes (quote : Char) (content : List Char) : List Char → List Char × List Char
  | c :: d :: rest =>
    if c = quote then
      if d = quote then (content ++ [c, d], rest) else (content ++ [c], d :: rest)
    else (content, c :: d :: rest)
  | [c] => if c = quote then (content ++ [c], []) else (content, [c])
  | [] => (content, [])

/-- Drops a line feed right behind the opening quotes of a long text. -/
def dropFirstLineFeed : List Char → List Char
  | '\n' :: rest => rest
  | text => text

/-- A text in any of the four notations. -/
def text (source : List Char) : Except Fault (List Char × List Char) :=
  match source with
  | '"' :: '"' :: '"' :: rest => do
    let (content, rest) ← quotedFrom true .plain [] (dropFirstLineFeed rest)
    return trailingQuotes '"' content rest
  | '\'' :: '\'' :: '\'' :: rest => do
    let (content, rest) ← longLiteral (dropFirstLineFeed rest)
    return trailingQuotes '\'' content rest
  | '"' :: rest => quotedFrom false .plain [] rest
  | '\'' :: rest => literal rest
  | _ => fault .invalidValue source

def isBareKeyChar (c : Char) : Bool := c.isAlphanum || c = '-' || c = '_'

def keyPart (text : List Char) : Except Fault (String × List Char) :=
  match text with
  | '"' :: rest => do
    let (content, rest) ← quotedFrom false .plain [] rest
    return (.ofList content, rest)
  | '\'' :: rest => do
    let (content, rest) ← literal rest
    return (.ofList content, rest)
  | _ =>
    let bare := text.takeWhile isBareKeyChar
    if bare.isEmpty then fault .invalidKey text
    else .ok (.ofList bare, text.dropWhile isBareKeyChar)

/-- The parts of a key between dots, at most `fuel` of them, and the space behind. -/
def keyWithin : Nat → List Char → Except Fault (List String × List Char)
  | 0, text => fault .invalidKey text
  | fuel + 1, text => do
    let (part, rest) ← keyPart text
    match skipSpace rest with
    | '.' :: rest =>
      let (parts, rest) ← keyWithin fuel (skipSpace rest)
      return (part :: parts, rest)
    | rest => return ([part], rest)

/-- A key and the space behind it. -/
def key (text : List Char) : Except Fault (List String × List Char) :=
  keyWithin (text.length + 1) text

end CheckRouter.Toml
