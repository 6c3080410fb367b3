import CheckRouter.Text.Utf8
import Mathlib.Data.UInt

/-!
# Bytes that encode a text

Strict reading gives the text that some bytes encode, and fails just for bytes that encode none.
-/

namespace CheckRouter.Text.Utf8

/-! ## One character -/

theorem continuation_zero {bits length : Nat} {low high : UInt8} {bytes rest : List UInt8}
    {c : Char} (reads : continuation bits length low high 0 bytes = (.character c, rest)) :
    Char.ofNat bits = c ∧ bytes = rest := by
  cases reads
  exact ⟨rfl, rfl⟩

theorem continuation_step {byte low high : UInt8} (above : low.toNat ≤ byte.toNat)
    (below : byte.toNat ≤ high.toNat) (bits length following : Nat) (bytes : List UInt8) :
    continuation bits length low high (following + 1) (byte :: bytes) =
      continuation (bits * 64 + (byte.toNat - 0x80)) (length + 1) 0x80 0xBF following bytes := by
  have within : (low ≤ byte && byte ≤ high) = true := by
    simp [UInt8.le_iff_toNat_le, above, below]
  rw [continuation, if_pos within]

theorem exists_step {bits length following : Nat} {low high : UInt8} {bytes rest : List UInt8}
    {c : Char}
    (reads : continuation bits length low high (following + 1) bytes = (.character c, rest)) :
    ∃ byte others, bytes = byte :: others ∧ low.toNat ≤ byte.toNat ∧ byte.toNat ≤ high.toNat ∧
      continuation (bits * 64 + (byte.toNat - 0x80)) (length + 1) 0x80 0xBF following others =
        (.character c, rest) := by
  cases bytes with
  | nil => cases reads
  | cons byte others =>
    rw [continuation] at reads
    split at reads
    · next within =>
      simp only [Bool.and_eq_true, decide_eq_true_eq, UInt8.le_iff_toNat_le] at within
      exact ⟨byte, others, rfl, within.1, within.2, reads⟩
    · cases reads

theorem lead_of_one {byte : UInt8} (below : byte.toNat < 0x80) :
    lead? byte = some ⟨byte.toNat, 0, 0x80, 0xBF⟩ := by
  simp only [lead?, below, if_true]

theorem lead_of_two {byte : UInt8} (above : 0xC2 ≤ byte.toNat) (below : byte.toNat < 0xE0) :
    lead? byte = some ⟨byte.toNat - 0xC0, 1, 0x80, 0xBF⟩ := by
  simp only [lead?]
  rw [if_neg (by omega), if_neg (by omega), if_pos below]

theorem lead_of_three {byte : UInt8} (above : 0xE0 ≤ byte.toNat) (below : byte.toNat < 0xF0) :
    lead? byte = some ⟨byte.toNat - 0xE0, 2, if byte.toNat = 0xE0 then 0xA0 else 0x80,
      if byte.toNat = 0xED then 0x9F else 0xBF⟩ := by
  simp only [lead?]
  rw [if_neg (by omega), if_neg (by omega), if_neg (by omega), if_pos below]

theorem lead_of_four {byte : UInt8} (above : 0xF0 ≤ byte.toNat) (below : byte.toNat < 0xF5) :
    lead? byte = some ⟨byte.toNat - 0xF0, 3, if byte.toNat = 0xF0 then 0x90 else 0x80,
      if byte.toNat = 0xF4 then 0x8F else 0xBF⟩ := by
  simp only [lead?]
  rw [if_neg (by omega), if_neg (by omega), if_neg (by omega), if_neg (by omega), if_pos below]

theorem toNat_ofNat {n : Nat} (small : n < 256) : (UInt8.ofNat n).toNat = n := by
  rw [UInt8.toNat_ofNat', Nat.mod_eq_of_lt small]

theorem toNat_ite (test : Prop) [Decidable test] (one other : UInt8) :
    (if test then one else other).toNat = if test then one.toNat else other.toNat := by
  split <;> rfl

/-! ### From a character to its bytes -/

theorem val_ofNat {n : Nat} (valid : n < 0xD800 ∨ 0xDFFF < n ∧ n < 0x110000) :
    (Char.ofNat n).val.toNat = n := by
  rw [Char.ofNat, dif_pos valid]
  rfl

/-- Some bytes are read as one character, whatever follows. -/
def Denote (bytes : List UInt8) (c : Char) : Prop :=
  ∃ byte others, bytes = byte :: others ∧
    ∀ rest, firstPiece byte (others ++ rest) = (.character c, rest)

section Denote

variable {n : Nat}

theorem denote_one (below : n < 0x80) : Denote [UInt8.ofNat n] (Char.ofNat n) := by
  have first : (UInt8.ofNat n).toNat = n := toNat_ofNat (by omega)
  refine ⟨_, _, rfl, fun rest => ?_⟩
  rw [firstPiece, lead_of_one (by omega), first]
  rfl

theorem continuation_tail (m bits length following : Nat) (rest : List UInt8) :
    continuation bits length 0x80 0xBF (following + 1) (UInt8.ofNat (m % 64 + 128) :: rest) =
      continuation (bits * 64 + m % 64) (length + 1) 0x80 0xBF following rest := by
  have byte : (UInt8.ofNat (m % 64 + 128)).toNat = m % 64 + 128 := toNat_ofNat (by omega)
  rw [continuation_step (by rw [byte]; simp) (by rw [byte]; simp; omega), byte,
    Nat.add_sub_cancel]

theorem denote_two (above : 0x80 ≤ n) (below : n < 0x800) :
    Denote [UInt8.ofNat (n / 64 % 32 + 192), UInt8.ofNat (n % 64 + 128)] (Char.ofNat n) := by
  have first : (UInt8.ofNat (n / 64 % 32 + 192)).toNat = n / 64 % 32 + 192 :=
    toNat_ofNat (by omega)
  have value : (n / 64 % 32 + 192 - 192) * 64 + n % 64 = n := by omega
  refine ⟨_, _, rfl, fun rest => ?_⟩
  rw [firstPiece, lead_of_two (by omega) (by omega), first]
  simp only [List.cons_append, List.nil_append]
  rw [continuation_tail, continuation, value]

theorem denote_three (above : 0x800 ≤ n) (below : n < 0x10000)
    (scalar : n < 0xD800 ∨ 0xDFFF < n) :
    Denote [UInt8.ofNat (n / 4096 % 16 + 224), UInt8.ofNat (n / 64 % 64 + 128),
      UInt8.ofNat (n % 64 + 128)] (Char.ofNat n) := by
  have first : (UInt8.ofNat (n / 4096 % 16 + 224)).toNat = n / 4096 % 16 + 224 :=
    toNat_ofNat (by omega)
  have second : (UInt8.ofNat (n / 64 % 64 + 128)).toNat = n / 64 % 64 + 128 :=
    toNat_ofNat (by omega)
  have value : ((n / 4096 % 16 + 224 - 224) * 64 + (n / 64 % 64 + 128 - 128)) * 64 +
      n % 64 = n := by omega
  refine ⟨_, _, rfl, fun rest => ?_⟩
  rw [firstPiece, lead_of_three (by omega) (by omega), first]
  simp only [List.cons_append, List.nil_append]
  rw [continuation_step (by rw [second, toNat_ite]; simp; split <;> omega)
      (by rw [second, toNat_ite]; simp; split <;> omega), second,
    continuation_tail, continuation, value]

theorem denote_four (above : 0x10000 ≤ n) (below : n < 0x110000) :
    Denote [UInt8.ofNat (n / 262144 % 8 + 240), UInt8.ofNat (n / 4096 % 64 + 128),
      UInt8.ofNat (n / 64 % 64 + 128), UInt8.ofNat (n % 64 + 128)] (Char.ofNat n) := by
  have first : (UInt8.ofNat (n / 262144 % 8 + 240)).toNat = n / 262144 % 8 + 240 :=
    toNat_ofNat (by omega)
  have second : (UInt8.ofNat (n / 4096 % 64 + 128)).toNat = n / 4096 % 64 + 128 :=
    toNat_ofNat (by omega)
  have value : (((n / 262144 % 8 + 240 - 240) * 64 + (n / 4096 % 64 + 128 - 128)) * 64 +
      n / 64 % 64) * 64 + n % 64 = n := by omega
  refine ⟨_, _, rfl, fun rest => ?_⟩
  rw [firstPiece, lead_of_four (by omega) (by omega), first]
  simp only [List.cons_append, List.nil_append]
  rw [continuation_step (by rw [second, toNat_ite]; simp; split <;> omega)
      (by rw [second, toNat_ite]; simp; split <;> omega), second,
    continuation_tail, continuation_tail, continuation, value]

end Denote

theorem denote_encodeChar (c : Char) : Denote (String.utf8EncodeChar c) c := by
  have valid : c.toNat < 0xD800 ∨ 0xDFFF < c.toNat ∧ c.toNat < 0x110000 := c.valid
  have back := Char.ofNat_toNat c
  generalize c.toNat = n at valid back
  subst back
  simp only [String.utf8EncodeChar, val_ofNat valid]
  split
  · exact denote_one (by omega)
  split
  · exact denote_two (by omega) (by omega)
  split
  · exact denote_three (by omega) (by omega) (by omega)
  · exact denote_four (by omega) (by omega)

/-! ### From bytes to the character -/

theorem lead_of_none {byte : UInt8}
    (outside : 0x80 ≤ byte.toNat ∧ byte.toNat < 0xC2 ∨ 0xF5 ≤ byte.toNat) :
    lead? byte = none := by
  simp only [lead?]
  rcases outside with ⟨above, below⟩ | above
  · rw [if_neg (by omega), if_pos below]
  · rw [if_neg (by omega), if_neg (by omega), if_neg (by omega), if_neg (by omega),
      if_neg (by omega)]

theorem ofNat_eq {n : Nat} {byte : UInt8} (same : n = byte.toNat) : UInt8.ofNat n = byte := by
  rw [same, UInt8.ofNat_toNat]

section Encoded

variable {byte : UInt8} {bytes rest : List UInt8} {c : Char}

theorem encoded_one (below : byte.toNat < 0x80)
    (reads : firstPiece byte bytes = (.character c, rest)) :
    byte :: bytes = String.utf8EncodeChar c ++ rest := by
  rw [firstPiece, lead_of_one below] at reads
  obtain ⟨rfl, rfl⟩ := continuation_zero reads
  simp only [String.utf8EncodeChar, val_ofNat (show byte.toNat < 0xD800 ∨ _ by omega)]
  rw [if_pos (by omega), ofNat_eq rfl]
  rfl

theorem encoded_two (above : 0xC2 ≤ byte.toNat) (below : byte.toNat < 0xE0)
    (reads : firstPiece byte bytes = (.character c, rest)) :
    byte :: bytes = String.utf8EncodeChar c ++ rest := by
  rw [firstPiece, lead_of_two above below] at reads
  obtain ⟨second, others, rfl, least, most, reads⟩ := exists_step reads
  obtain ⟨rfl, rfl⟩ := continuation_zero reads
  simp only [UInt8.reduceToNat] at least most
  generalize value : (byte.toNat - 0xC0) * 64 + (second.toNat - 0x80) = n
  have lead : UInt8.ofNat (n / 64 % 32 + 192) = byte := ofNat_eq (by omega)
  have tail : UInt8.ofNat (n % 64 + 128) = second := ofNat_eq (by omega)
  simp only [String.utf8EncodeChar, val_ofNat (show n < 0xD800 ∨ _ by omega)]
  rw [if_neg (by omega), if_pos (by omega), lead, tail]
  rfl

theorem encoded_three (above : 0xE0 ≤ byte.toNat) (below : byte.toNat < 0xF0)
    (reads : firstPiece byte bytes = (.character c, rest)) :
    byte :: bytes = String.utf8EncodeChar c ++ rest := by
  rw [firstPiece, lead_of_three above below] at reads
  obtain ⟨second, others, rfl, least, most, reads⟩ := exists_step reads
  obtain ⟨third, others, rfl, floor, ceiling, reads⟩ := exists_step reads
  obtain ⟨rfl, rfl⟩ := continuation_zero reads
  simp only [toNat_ite, UInt8.reduceToNat] at least most floor ceiling
  generalize value :
    ((byte.toNat - 0xE0) * 64 + (second.toNat - 0x80)) * 64 + (third.toNat - 0x80) = n
  have bounds : 0x800 ≤ n ∧ (n < 0xD800 ∨ 0xDFFF < n ∧ n < 0x10000) := by
    split at least <;> split at most <;> omega
  have small : second.toNat < 0xC0 := by split at most <;> omega
  have large : 0x80 ≤ second.toNat := by split at least <;> omega
  have lead : UInt8.ofNat (n / 4096 % 16 + 224) = byte := ofNat_eq (by omega)
  have middle : UInt8.ofNat (n / 64 % 64 + 128) = second := ofNat_eq (by omega)
  have tail : UInt8.ofNat (n % 64 + 128) = third := ofNat_eq (by omega)
  simp only [String.utf8EncodeChar, val_ofNat (show n < 0xD800 ∨ _ by omega)]
  rw [if_neg (by omega), if_neg (by omega), if_pos (by omega), lead, middle, tail]
  rfl

theorem encoded_four (above : 0xF0 ≤ byte.toNat) (below : byte.toNat < 0xF5)
    (reads : firstPiece byte bytes = (.character c, rest)) :
    byte :: bytes = String.utf8EncodeChar c ++ rest := by
  rw [firstPiece, lead_of_four above below] at reads
  obtain ⟨second, others, rfl, least, most, reads⟩ := exists_step reads
  obtain ⟨third, others, rfl, floor, ceiling, reads⟩ := exists_step reads
  obtain ⟨fourth, others, rfl, low, high, reads⟩ := exists_step reads
  obtain ⟨rfl, rfl⟩ := continuation_zero reads
  simp only [toNat_ite, UInt8.reduceToNat] at least most floor ceiling low high
  generalize value : (((byte.toNat - 0xF0) * 64 + (second.toNat - 0x80)) * 64 +
    (third.toNat - 0x80)) * 64 + (fourth.toNat - 0x80) = n
  have bounds : 0x10000 ≤ n ∧ n < 0x110000 := by
    split at least <;> split at most <;> omega
  have small : second.toNat < 0xC0 := by split at most <;> omega
  have large : 0x80 ≤ second.toNat := by split at least <;> omega
  have lead : UInt8.ofNat (n / 262144 % 8 + 240) = byte := ofNat_eq (by omega)
  have middle : UInt8.ofNat (n / 4096 % 64 + 128) = second := ofNat_eq (by omega)
  have next : UInt8.ofNat (n / 64 % 64 + 128) = third := ofNat_eq (by omega)
  have tail : UInt8.ofNat (n % 64 + 128) = fourth := ofNat_eq (by omega)
  simp only [String.utf8EncodeChar, val_ofNat (show n < 0xD800 ∨ _ by omega)]
  rw [if_neg (by omega), if_neg (by omega), if_neg (by omega), lead, middle, next, tail]
  rfl

/-- What is read as a character is the bytes of that character. -/
theorem encoded_of_firstPiece (reads : firstPiece byte bytes = (.character c, rest)) :
    byte :: bytes = String.utf8EncodeChar c ++ rest := by
  by_cases outside : 0x80 ≤ byte.toNat ∧ byte.toNat < 0xC2 ∨ 0xF5 ≤ byte.toNat
  · rw [firstPiece, lead_of_none outside] at reads
    cases reads
  by_cases one : byte.toNat < 0x80
  · exact encoded_one one reads
  by_cases two : byte.toNat < 0xE0
  · exact encoded_two (by omega) two reads
  by_cases three : byte.toNat < 0xF0
  · exact encoded_three (by omega) three reads
  · exact encoded_four (by omega) (by omega) reads

end Encoded

/-! ## All characters -/

def encode (text : List Char) : List UInt8 := text.flatMap String.utf8EncodeChar

theorem collect_eq_ok {bytes : List UInt8} {position : Nat} {read : List Piece}
    {text : List Char} :
    collect bytes position read = .ok text ↔ read = text.map .character := by
  induction read generalizing position text with
  | nil => cases text <;> simp [collect]
  | cons piece rest ih =>
    cases piece with
    | illFormed length reason => cases text <;> simp [collect]
    | character c =>
      have step : collect bytes position (.character c :: rest) = .ok text ↔
          ∃ others, collect bytes (position + sequenceLength c) rest = .ok others ∧
            c :: others = text := by
        rw [collect]
        cases collect bytes (position + sequenceLength c) rest <;>
          simp [bind, Except.bind, pure, Except.pure]
      rw [step]
      cases text with
      | nil => simp
      | cons d others => simp [ih, and_comm, eq_comm]

theorem piecesWithin_encode {fuel : Nat} {text : List Char} (enough : (encode text).length ≤ fuel) :
    piecesWithin fuel (encode text) = text.map .character := by
  induction text generalizing fuel with
  | nil => cases fuel <;> rfl
  | cons c rest ih =>
    obtain ⟨byte, bytes, coded, reads⟩ := denote_encodeChar c
    have whole : encode (c :: rest) = byte :: (bytes ++ encode rest) := by
      rw [encode, List.flatMap_cons, coded]
      rfl
    rw [whole] at enough ⊢
    cases fuel with
    | zero => cases enough
    | succ fuel =>
      simp only [List.length_cons, List.length_append] at enough
      rw [piecesWithin, reads (encode rest)]
      simp only [List.map_cons]
      rw [ih (by omega)]

theorem encode_of_piecesWithin {fuel : Nat} {bytes : List UInt8} {text : List Char}
    (enough : bytes.length ≤ fuel) (read : piecesWithin fuel bytes = text.map .character) :
    bytes = encode text := by
  induction fuel generalizing bytes text with
  | zero =>
    obtain rfl := List.eq_nil_of_length_eq_zero (Nat.le_zero.mp enough)
    cases text with
    | nil => rfl
    | cons c rest => cases read
  | succ fuel ih =>
    cases bytes with
    | nil =>
      cases text with
      | nil => rfl
      | cons c rest => cases read
    | cons byte bytes =>
      rw [piecesWithin] at read
      cases text with
      | nil => cases read
      | cons c others =>
        cases first : firstPiece byte bytes with
        | mk piece rest =>
          rw [first] at read
          obtain ⟨rfl, more⟩ := List.cons.inj read
          have coded := encoded_of_firstPiece first
          have longer := congrArg List.length coded
          have some_bytes := c.utf8Size_pos
          rw [List.length_cons, List.length_append, String.length_utf8EncodeChar] at longer
          rw [List.length_cons] at enough
          rw [coded, ih (by omega) more, encode, encode, List.flatMap_cons]

/-- Strict reading gives just the text that some bytes encode. -/
theorem decode_eq_ok_iff {bytes : List UInt8} {text : String} :
    decode bytes = .ok text ↔ bytes = encode text.toList := by
  have collected : decode bytes = .ok text ↔ collect bytes 0 (pieces bytes) = .ok text.toList := by
    rw [decode]
    cases collect bytes 0 (pieces bytes) with
    | error fault => simp [Except.map]
    | ok read => simp [Except.map, String.ext_iff]
  rw [collected, collect_eq_ok]
  constructor
  · exact encode_of_piecesWithin le_rfl
  · rintro rfl
    exact piecesWithin_encode le_rfl

end CheckRouter.Text.Utf8
