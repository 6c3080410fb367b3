import CheckRouter.Text.Blank
import CheckRouter.Text.Digit
import CheckRouter.Text.Lines
import Mathlib

/-!
# Lines, blanks and numerals

Texts without ends of lines are the lines of what they are joined to by line feeds. Blanks are
dropped from the ends of a text once and for all. A number is read back from its digits.
-/

namespace CheckRouter.Text

/-! ## Lines -/

theorem isBlank_of_isLineBreak {c : Char} (ends : isLineBreak c = true) : isBlank c = true := by
  simp only [isLineBreak, Bool.or_eq_true, Bool.and_eq_true, decide_eq_true_eq, beq_iff_eq] at ends
  simp only [isBlank, Bool.or_eq_true, Bool.and_eq_true, decide_eq_true_eq, beq_iff_eq]
  omega

def Unbroken (text : List Char) : Prop := ∀ c ∈ text, isLineBreak c = false

section Lines

variable {c : Char} {line piece rest : List Char}

theorem linesFrom_cons (inside : isLineBreak c = false) (line rest : List Char) :
    linesFrom line (c :: rest) = linesFrom (c :: line) rest := by
  rw [linesFrom]
  · simp [inside]
  · rintro more rfl
    exact absurd inside (by decide)

theorem linesFrom_newline (line rest : List Char) :
    linesFrom line ('\n' :: rest) = line.reverse :: linesFrom [] rest := by
  rw [linesFrom]
  · exact if_pos (by decide)
  · intro more same
    exact absurd same (by decide)

theorem linesFrom_append (unbroken : Unbroken piece) (line rest : List Char) :
    linesFrom line (piece ++ rest) = linesFrom (piece.reverse ++ line) rest := by
  induction piece generalizing line with
  | nil => rfl
  | cons c piece ih =>
    rw [List.cons_append, linesFrom_cons (unbroken c List.mem_cons_self),
      ih fun other member => unbroken other (List.mem_cons_of_mem c member)]
    simp

/-- The line being read stays unbroken, and so does every line that is handed out. -/
theorem unbroken_of_mem_linesFrom {text : List Char} (before : Unbroken line)
    (member : piece ∈ linesFrom line text) : Unbroken piece := by
  have reversed (line : List Char) (before : Unbroken line) : Unbroken line.reverse :=
    fun c inside => before c (List.mem_reverse.mp inside)
  fun_induction linesFrom line text with
  | case1 line nothing => simp at member
  | case2 line something =>
    rw [List.mem_singleton.mp member]
    exact reversed line before
  | case3 line rest ih =>
    rcases List.mem_cons.mp member with rfl | there
    · exact reversed line before
    · exact ih (by simp [Unbroken]) there
  | case4 line c rest _ ends ih =>
    rcases List.mem_cons.mp member with rfl | there
    · exact reversed line before
    · exact ih (by simp [Unbroken]) there
  | case5 line c rest _ inside ih =>
    refine ih (fun other among => ?_) member
    rcases List.mem_cons.mp among with rfl | among
    · simpa using inside
    · exact before other among

theorem linesFrom_intercalate {texts : List (List Char)} (filled : ∀ text ∈ texts, text ≠ [])
    (unbroken : ∀ text ∈ texts, Unbroken text) :
    linesFrom [] (['\n'].intercalate texts) = texts := by
  induction texts with
  | nil => rfl
  | cons text rest ih =>
    have nonempty := filled text List.mem_cons_self
    have inside := unbroken text List.mem_cons_self
    cases rest with
    | nil =>
      have single := linesFrom_append inside [] []
      simp only [List.append_nil, linesFrom] at single
      simpa [nonempty] using single
    | cons next others =>
      have more := ih (fun other member => filled other (List.mem_cons_of_mem _ member))
        (fun other member => unbroken other (List.mem_cons_of_mem _ member))
      rw [List.intercalate_cons_cons, List.append_assoc, linesFrom_append inside,
        List.singleton_append, linesFrom_newline, more]
      simp

theorem lines_intercalate {texts : List String} (filled : ∀ text ∈ texts, text ≠ "")
    (unbroken : ∀ text ∈ texts, Unbroken text.toList) :
    lines ("\n".intercalate texts) = texts := by
  have cut : linesFrom [] (['\n'].intercalate (texts.map String.toList)) =
      texts.map String.toList := by
    apply linesFrom_intercalate
    · simpa using filled
    · simpa using unbroken
  have back : texts.map (String.ofList ∘ String.toList) = texts := by
    simp [Function.comp_def]
  rw [lines, String.toList_intercalate]
  simpa [back] using congrArg (List.map String.ofList) cut

theorem unbroken_of_mem_lines {text line : String} (member : line ∈ lines text) :
    Unbroken line.toList := by
  obtain ⟨piece, there, rfl⟩ := List.mem_map.mp member
  rw [String.toList_ofList]
  exact unbroken_of_mem_linesFrom (by simp [Unbroken]) there

end Lines

/-! ## Blanks at the ends -/

theorem not_isBlank_of_isAlpha {c : Char} (letter : c.isAlpha = true) : isBlank c = false := by
  have range : 0x41 ≤ c.toNat ∧ c.toNat ≤ 0x7A := by
    simp only [Char.isAlpha, Char.isUpper, Char.isLower, Bool.or_eq_true, Bool.and_eq_true,
      decide_eq_true_eq, ge_iff_le, UInt32.le_iff_toNat_le, Char.toNat_val] at letter
    rcases letter with ⟨low, high⟩ | ⟨low, high⟩
    · exact ⟨low, high.trans (by decide)⟩
    · exact ⟨le_trans (by decide) low, high⟩
  simp only [isBlank, Bool.or_eq_false_iff, Bool.and_eq_false_iff, decide_eq_false_iff_not,
    beq_eq_false_iff_ne]
  omega

theorem trim_eq_self {text : List Char} (solid : ∀ c ∈ text, isBlank c = false) :
    trim text = text := by
  have kept (part : List Char) (among : ∀ c ∈ part, isBlank c = false) :
      part.dropWhile isBlank = part := by
    cases part with
    | nil => rfl
    | cons c rest => simp [among c List.mem_cons_self]
  rw [trim, kept text solid, dropEndWhile, kept text.reverse (by simpa using solid),
    List.reverse_reverse]

theorem dropEndWhile_eq (p : Char → Bool) (text : List Char) :
    dropEndWhile p text = text.rdropWhile p := rfl

theorem dropEndWhile_eq_self {p : Char → Bool} {text : List Char} (none : ∀ c ∈ text, p c = false) :
    dropEndWhile p text = text := by
  rw [dropEndWhile_eq, List.rdropWhile_eq_self_iff]
  intro filled
  simp [none _ (List.getLast_mem filled)]

theorem mem_of_mem_trim {c : Char} {text : List Char} (member : c ∈ trim text) : c ∈ text := by
  have front : c ∈ text.dropWhile isBlank := (List.rdropWhile_prefix isBlank _).subset member
  exact (List.dropWhile_suffix isBlank).subset front

theorem trim_trim (text : List Char) : trim (trim text) = trim text := by
  have solid : (trim text).dropWhile isBlank = trim text := by
    rw [trim, dropEndWhile_eq]
    cases begins : text.dropWhile isBlank with
    | nil => simp
    | cons c rest =>
      have first : isBlank c = false := by
        have := List.dropWhile_get_zero_not isBlank text (by simp [begins])
        simpa [begins] using this
      have kept : (c :: rest).rdropWhile isBlank ≠ [] := by
        rw [Ne, List.rdropWhile_eq_nil_iff]
        intro all
        rw [all c List.mem_cons_self] at first
        cases first
      obtain ⟨other, more, parts⟩ := List.exists_cons_of_ne_nil kept
      have begin : other :: more <+: c :: rest := parts ▸ List.rdropWhile_prefix isBlank _
      obtain ⟨rfl, -⟩ := List.cons_prefix_cons.mp begin
      rw [parts]
      simp [first]
  rw [trim, solid, dropEndWhile_eq]
  exact List.rdropWhile_idempotent isBlank _

theorem trim_blank_cons {c : Char} (blank : isBlank c = true) (text : List Char) :
    trim (c :: text) = trim text := by
  simp [trim, blank]

/-! ## Numerals -/

theorem digitValue?_of_ascii {c : Char} (digit : c.isDigit = true) :
    digitValue? c = some (c.toNat - '0'.toNat) := by
  have bounds : 0x30 ≤ c.toNat ∧ c.toNat ≤ 0x39 := Char.isDigit_iff_toNat.mp digit
  have found : (0x30 ≤ c.toNat && c.toNat < 0x30 + 10) = true := by
    simp only [Bool.and_eq_true, decide_eq_true_eq]
    omega
  simp [digitValue?, decimalZeros, found]

theorem numeral_eq_ofDigitChars {digits : List Char} (ascii : ∀ c ∈ digits, c.isDigit = true) :
    numeral digits = Nat.ofDigitChars 10 digits 0 := by
  have step : ∀ (digits : List Char), (∀ c ∈ digits, c.isDigit = true) → ∀ n : Nat,
      digits.foldl (fun n c => 10 * n + (digitValue? c).getD 0) n =
        Nat.ofDigitChars 10 digits n := by
    intro digits ascii
    induction digits with
    | nil => simp
    | cons c rest ih =>
      intro n
      rw [List.foldl_cons, Nat.ofDigitChars_cons,
        digitValue?_of_ascii (ascii c List.mem_cons_self), Option.getD_some]
      exact ih (fun other member => ascii other (List.mem_cons_of_mem c member)) _
  exact step digits ascii 0

theorem numeral_toDigits (n : Nat) : numeral (Nat.toDigits 10 n) = n := by
  rw [numeral_eq_ofDigitChars fun c member =>
    Nat.isDigit_of_mem_toDigits (by decide) (by decide) member]
  exact Nat.ofDigitChars_ten_toDigits

theorem digitValue?_le {c : Char} : (digitValue? c).getD 0 ≤ 9 := by
  unfold digitValue?
  split
  · next first found =>
    have inside := List.find?_some found
    simp only [Bool.and_eq_true, decide_eq_true_eq] at inside
    simp only [Option.getD_some]
    omega
  · simp

theorem numeral_lt (digits : List Char) : numeral digits < 10 ^ digits.length := by
  have step : ∀ (digits : List Char) (n : Nat),
      digits.foldl (fun n c => 10 * n + (digitValue? c).getD 0) n <
        10 ^ digits.length * (n + 1) := by
    intro digits
    induction digits with
    | nil => simp
    | cons c rest ih =>
      intro n
      calc
        _ < 10 ^ rest.length * (10 * n + (digitValue? c).getD 0 + 1) := ih _
        _ ≤ 10 ^ rest.length * (10 * (n + 1)) := by
          refine Nat.mul_le_mul_left _ ?_
          have := digitValue?_le (c := c)
          omega
        _ = 10 ^ (c :: rest).length * (n + 1) := by
          rw [List.length_cons, Nat.pow_succ, Nat.mul_assoc]
  simpa [numeral] using step digits 0

theorem length_toDigits_numeral {digits : List Char} (filled : digits ≠ []) :
    (Nat.toDigits 10 (numeral digits)).length ≤ digits.length :=
  (Nat.length_toDigits_le_iff (by decide) (List.length_pos_iff.mpr filled)).mpr (numeral_lt digits)

end CheckRouter.Text
