import CheckRouter.Text.Quoted

/-!
# UTF-8

`Utf8.decode` reads bytes strictly and reports the first ill-formed span. `Utf8.decodeReplacing`
reads every ill-formed span as one replacement character. A span is the longest start of a
well-formed sequence, or a single byte that starts none.
-/

namespace CheckRouter.Text.Utf8

inductive Reason
  | invalidStart
  | invalidContinuation
  | truncated
  deriving DecidableEq, Repr

def Reason.text : Reason → String
  | .invalidStart => "invalid start byte"
  | .invalidContinuation => "invalid continuation byte"
  | .truncated => "unexpected end of data"

structure Fault where
  position : Nat
  span : List UInt8
  reason : Reason
  deriving DecidableEq, Repr

def Fault.message (fault : Fault) : String :=
  let place :=
    match fault.span with
    | [byte] =>
      "byte 0x" ++ String.ofList (hexadecimal 2 byte.toNat) ++ " in position " ++
        toString fault.position
    | span =>
      "bytes in position " ++ toString fault.position ++ "-" ++
        toString (fault.position + span.length - 1)
  "'utf-8' codec can't decode " ++ place ++ ": " ++ fault.reason.text

/-- What the first byte of a sequence fixes: the bits it gives, the number of bytes to follow and
the bounds of the second byte. -/
structure Lead where
  bits : Nat
  following : Nat
  low : UInt8
  high : UInt8

/-- The sequences that a byte starts. The bounds exclude overlong forms, surrogates and code points
above U+10FFFF. -/
def lead? (byte : UInt8) : Option Lead :=
  let n := byte.toNat
  if n < 0x80 then some ⟨n, 0, 0x80, 0xBF⟩
  else if n < 0xC2 then none
  else if n < 0xE0 then some ⟨n - 0xC0, 1, 0x80, 0xBF⟩
  else if n < 0xF0 then
    some ⟨n - 0xE0, 2, if n = 0xE0 then 0xA0 else 0x80, if n = 0xED then 0x9F else 0xBF⟩
  else if n < 0xF5 then
    some ⟨n - 0xF0, 3, if n = 0xF0 then 0x90 else 0x80, if n = 0xF4 then 0x8F else 0xBF⟩
  else none

/-- A character, or an ill-formed span of some length, at the front of a list of bytes. -/
inductive Piece
  | character (c : Char)
  | illFormed (length : Nat) (reason : Reason)

/-- Reads the bytes that follow the first one; `length` counts the bytes read so far. -/
def continuation (bits length : Nat) (low high : UInt8) : Nat → List UInt8 → Piece × List UInt8
  | 0, bytes => (.character (Char.ofNat bits), bytes)
  | _ + 1, [] => (.illFormed length .truncated, [])
  | following + 1, byte :: bytes =>
    if low ≤ byte && byte ≤ high then
      continuation (bits * 64 + (byte.toNat - 0x80)) (length + 1) 0x80 0xBF following bytes
    else (.illFormed length .invalidContinuation, byte :: bytes)

/-- The first piece of the bytes `byte :: bytes`, and the bytes behind it. -/
def firstPiece (byte : UInt8) (bytes : List UInt8) : Piece × List UInt8 :=
  match lead? byte with
  | none => (.illFormed 1 .invalidStart, bytes)
  | some lead => continuation lead.bits 1 lead.low lead.high lead.following bytes

def piecesWithin : Nat → List UInt8 → List Piece
  | 0, _ => []
  | _, [] => []
  | fuel + 1, byte :: bytes =>
    let (piece, rest) := firstPiece byte bytes
    piece :: piecesWithin fuel rest

def pieces (bytes : List UInt8) : List Piece := piecesWithin bytes.length bytes

def sequenceLength (c : Char) : Nat := c.utf8Size

/-- Collects characters up to the first ill-formed span. -/
def collect (bytes : List UInt8) (position : Nat) : List Piece → Except Fault (List Char)
  | [] => .ok []
  | .illFormed length reason :: _ =>
    .error ⟨position, (bytes.drop position).take length, reason⟩
  | .character c :: rest => do
    let others ← collect bytes (position + sequenceLength c) rest
    return c :: others

/-- The text that the bytes encode, or the first ill-formed span. -/
def decode (bytes : List UInt8) : Except Fault String :=
  (collect bytes 0 (pieces bytes)).map String.ofList

/-- The text that the bytes encode, with U+FFFD for every ill-formed span. -/
def decodeReplacing (bytes : List UInt8) : String :=
  .ofList <| (pieces bytes).map fun
    | .character c => c
    | .illFormed .. => '\uFFFD'

end CheckRouter.Text.Utf8
