/-!
# Words of a shell command

`ShellWords.split` cuts a command into words by the quoting rules of a shell and `ShellWords.join`
writes words so that they can be cut again.
-/

namespace CheckRouter.Text.ShellWords

inductive Fault
  | openQuotation
  | danglingEscape
  deriving DecidableEq, Repr

def Fault.message : Fault → String
  | .openQuotation => "No closing quotation"
  | .danglingEscape => "No escaped character"

inductive Context
  | between
  | word
  | quotation (quote : Char)
  | escape
  | quotedEscape
  deriving DecidableEq, Repr

def isSeparator (c : Char) : Bool := c = ' ' || c = '\t' || c = '\r' || c = '\n'

/-- Cuts the rest of a command; `word` holds the word being read, last character first. -/
def splitFrom : Context → List Char → List Char → Except Fault (List (List Char))
  | .between, _, [] => .ok []
  | .word, word, [] => .ok [word.reverse]
  | .quotation _, _, [] => .error .openQuotation
  | .escape, _, [] => .error .danglingEscape
  | .quotedEscape, _, [] => .error .danglingEscape
  | .between, word, c :: rest =>
    if isSeparator c then splitFrom .between word rest
    else if c = '\\' then splitFrom .escape [] rest
    else if c = '\'' || c = '"' then splitFrom (.quotation c) [] rest
    else splitFrom .word [c] rest
  | .word, word, c :: rest =>
    if isSeparator c then (splitFrom .between [] rest).map (word.reverse :: ·)
    else if c = '\\' then splitFrom .escape word rest
    else if c = '\'' || c = '"' then splitFrom (.quotation c) word rest
    else splitFrom .word (c :: word) rest
  | .quotation quote, word, c :: rest =>
    if c = quote then splitFrom .word word rest
    else if c = '\\' && quote = '"' then splitFrom .quotedEscape word rest
    else splitFrom (.quotation quote) (c :: word) rest
  | .escape, word, c :: rest => splitFrom .word (c :: word) rest
  | .quotedEscape, word, c :: rest =>
    if c = '\\' || c = '"' then splitFrom (.quotation '"') (c :: word) rest
    else splitFrom (.quotation '"') (c :: '\\' :: word) rest

/-- The words of a command. Quotes and backslashes protect separators and are dropped; between
double quotes a backslash protects only itself and the double quote. -/
def split (command : String) : Except Fault (List String) :=
  (splitFrom .between [] command.toList).map fun words => words.map String.ofList

def isPlain (c : Char) : Bool :=
  c.isAlphanum || "_@%+=:,./-".toList.contains c

/-- One word, between single quotes unless all its characters are plain. -/
def quote (word : List Char) : List Char :=
  if !word.isEmpty && word.all isPlain then word
  else '\'' :: word.flatMap (fun c => if c = '\'' then "'\"'\"'".toList else [c]) ++ ['\'']

/-- The words with single spaces between them, each quoted as needed. -/
def join (words : List String) : String :=
  " ".intercalate (words.map fun word => .ofList (quote word.toList))

end CheckRouter.Text.ShellWords
