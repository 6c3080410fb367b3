import CheckRouter.Proofs.Issue.Grammar
import CheckRouter.Proofs.Issue.Lines

/-!
# Printed issues

An issue that was read is `Printable`, and printable issues are read back from the lines that they
are written as: `Issue.ofOutput_printed`.
-/

namespace CheckRouter

namespace Severity

theorem isNamedBy_word (severity : Severity) : severity.IsNamedBy severity.word.toList := by
  cases severity <;> decide

theorem isAlpha_of_mem_word {severity : Severity} {c : Char} (member : c ∈ severity.word.toList) :
    c.isAlpha = true := by
  have all : severity.word.toList.all Char.isAlpha = true := by
    cases severity <;> decide
  exact List.all_eq_true.mp all c member

end Severity

/-! ## Printable issues -/

namespace Issue

open Diagnostic

/-- An issue that can be told from the line it is written as: its path is one word without a colon,
its message has no blanks at its ends and no end of a line, and its numbers are not too long. -/
structure Printable (issue : Issue) : Prop where
  path_ne : issue.path ≠ ""
  path_solid : ∀ c ∈ issue.path.toList, Text.isBlank c = false ∧ c ≠ ':'
  message_stripped : Text.strip issue.message = issue.message
  message_unbroken : ∀ c ∈ issue.message.toList, Text.isLineBreak c = false
  line_short : (toString issue.line).length ≤ 4300
  column_short : (toString (issue.column + 1)).length ≤ 4300

instance (issue : Issue) : Decidable issue.Printable :=
  decidable_of_iff
    (issue.path ≠ "" ∧ issue.path.toList.all isPathChar = true ∧
      Text.strip issue.message = issue.message ∧
      issue.message.toList.all (!Text.isLineBreak ·) = true ∧
      (toString issue.line).length ≤ 4300 ∧ (toString (issue.column + 1)).length ≤ 4300) <| by
    simp only [List.all_eq_true, isPathChar, Bool.and_eq_true, Bool.not_eq_true', bne_iff_ne]
    constructor
    · rintro ⟨filled, solid, stripped, unbroken, line, column⟩
      exact ⟨filled, solid, stripped, unbroken, line, column⟩
    · rintro ⟨filled, solid, stripped, unbroken, line, column⟩
      exact ⟨filled, solid, stripped, unbroken, line, column⟩

/-- The parts of the line that an issue is written as. -/
def diagnostic (issue : Issue) : Diagnostic where
  path := issue.path.toList
  line := some (toString issue.line).toList
  column := some (toString (issue.column + 1)).toList
  word := issue.severity.word.toList
  message := ' ' :: issue.message.toList

variable {issue : Issue}

theorem toList_toLine (issue : Issue) : issue.toLine.toList = issue.diagnostic.written := by
  simp [toLine, location, diagnostic, written, numberText]

theorem toString_of_nonneg {n : Int} (nonneg : 0 ≤ n) :
    (toString n).toList = Nat.toDigits 10 n.toNat := by
  obtain ⟨n, rfl⟩ := Int.eq_ofNat_of_zero_le nonneg
  exact Nat.toList_repr

theorem isRun_toString {n : Int} (nonneg : 0 ≤ n) :
    IsRun Text.isDigit (toString n).toList := by
  rw [toString_of_nonneg nonneg]
  refine ⟨Nat.toDigits_ne_nil, fun c member => ?_⟩
  exact Text.isDigit_of_ascii (Nat.isDigit_of_mem_toDigits (by decide) (by decide) member)

theorem numeral_toString {n : Int} (nonneg : 0 ≤ n) :
    (Text.numeral (toString n).toList : Int) = n := by
  rw [toString_of_nonneg nonneg, Text.numeral_toDigits, Int.toNat_of_nonneg nonneg]

theorem Printable.reads (printable : issue.Printable) :
    issue.diagnostic.Reads issue.toLine.toList where
  written := toList_toLine issue
  path := by
    refine ⟨by simpa [diagnostic] using printable.path_ne, fun c member => ?_⟩
    have solid := printable.path_solid c member
    simp [isPathChar, solid.1, solid.2]
  line := by
    rintro _ ⟨⟩
    exact isRun_toString (Int.le_trans (by decide) issue.line_pos)
  column := by
    rintro _ ⟨⟩
    exact isRun_toString (Int.le_add_one issue.column_nonneg)
  lineFirst := by
    rintro ⟨⟩
  word := by
    refine ⟨?_, fun c => Severity.isAlpha_of_mem_word⟩
    rw [diagnostic]
    cases issue.severity <;> simp [Severity.word]
  message := by
    intro member
    rcases List.mem_cons.mp member with same | member
    · exact absurd same (by decide)
    · exact absurd (printable.message_unbroken _ member) (by decide)

theorem Printable.isShort (printable : issue.Printable) : issue.diagnostic.IsShort := by
  constructor
  · rintro _ ⟨⟩
    exact printable.line_short
  · rintro _ ⟨⟩
    exact printable.column_short

theorem Printable.tells (printable : issue.Printable) : issue.diagnostic.Tells issue where
  path := by simp [diagnostic]
  line := by
    simp only [diagnostic, row, Option.map_some, Option.getD_some]
    exact (numeral_toString (Int.le_trans (by decide) issue.line_pos)).symm
  column := by
    simp only [diagnostic, columnIndex, Option.map_some, Option.getD_some]
    rw [numeral_toString (Int.le_add_one issue.column_nonneg)]
    omega
  severity := issue.severity.isNamedBy_word
  message := by
    rw [diagnostic, Text.strip, String.toList_ofList, Text.trim_blank_cons (by decide)]
    exact printable.message_stripped.symm

theorem Printable.unbroken (printable : issue.Printable) : Text.Unbroken issue.toLine.toList := by
  have digits {n : Int} (nonneg : 0 ≤ n) (c : Char) (member : c ∈ (toString n).toList) :
      Text.isLineBreak c = false := by
    rw [toString_of_nonneg nonneg] at member
    have range := Char.isDigit_iff_toNat.mp
      (Nat.isDigit_of_mem_toDigits (by decide) (by decide) member)
    have bounds : 0x30 ≤ c.toNat ∧ c.toNat ≤ 0x39 := range
    simp only [Text.isLineBreak, Bool.or_eq_false_iff, Bool.and_eq_false_iff,
      decide_eq_false_iff_not, beq_eq_false_iff_ne]
    omega
  have solid {c : Char} (kept : Text.isBlank c = false) : Text.isLineBreak c = false := by
    by_contra ends
    rw [Text.isBlank_of_isLineBreak (by simpa using ends)] at kept
    cases kept
  intro c member
  rw [toList_toLine] at member
  simp only [diagnostic, Diagnostic.written, numberText, List.mem_append, List.mem_cons,
    List.not_mem_nil, or_false] at member
  rcases member with there | rfl | (there | rfl) | (there | rfl) | rfl | there | rfl | rfl | there
  · exact solid (printable.path_solid c there).1
  · decide
  · exact digits (Int.le_trans (by decide) issue.line_pos) c there
  · decide
  · exact digits (Int.le_add_one issue.column_nonneg) c there
  · decide
  · decide
  · exact solid (Text.not_isBlank_of_isAlpha (Severity.isAlpha_of_mem_word there))
  · decide
  · decide
  · exact printable.message_unbroken c there

theorem Printable.ofLine?_toLine (printable : issue.Printable) :
    ofLine? issue.toLine = .ok (some issue) := by
  have whole : Text.dropEndWhile isLineEnd issue.toLine.toList = issue.toLine.toList := by
    apply Text.dropEndWhile_eq_self
    intro c member
    have inside := printable.unbroken c member
    by_contra ends
    simp only [isLineEnd, Bool.not_eq_false, Bool.or_eq_true, decide_eq_true_eq] at ends
    rcases ends with rfl | rfl
    · exact absurd inside (by decide)
    · exact absurd inside (by decide)
  have reads := printable.reads
  rw [← whole] at reads
  exact ((judged_ofLine? reads printable.isShort).found issue).mpr ⟨_, reads, printable.tells⟩

theorem toLine_ne (issue : Issue) : issue.toLine ≠ "" := by
  intro empty
  have written := toList_toLine issue
  rw [empty] at written
  simp [Diagnostic.written] at written

/-! ## Issues that were read -/

theorem length_le_of_valueOr {fallback n : Int} {number : Option (List Char)}
    (known : valueOr fallback number = .ok n) : ∀ digits ∈ number, digits.length ≤ 4300 := by
  rintro digits ⟨⟩
  by_contra long
  simp [valueOr, value, Nat.lt_of_not_le long] at known

theorem isShort_of_ofDiagnostic {d : Diagnostic} {line : String}
    (found : ofDiagnostic line d = .ok issue) : d.IsShort := by
  unfold ofDiagnostic at found
  dsimp only at found
  split at found
  · cases row : valueOr 1 d.line with
    | error failure => rw [row] at found; cases found
    | ok n =>
      cases column : valueOr 2 d.column with
      | error failure => rw [row, column] at found; cases found
      | ok m => exact ⟨length_le_of_valueOr row, length_le_of_valueOr column⟩
  · cases found

theorem tells_of_ofLine? {text : String} (found : ofLine? text = .ok (some issue)) :
    ∃ d : Diagnostic, d.Reads (Text.dropEndWhile isLineEnd text.toList) ∧ d.IsShort ∧
      d.Tells issue := by
  by_cases readable : ∃ d : Diagnostic, d.Reads (Text.dropEndWhile isLineEnd text.toList)
  · obtain ⟨d, reads⟩ := readable
    have qualified := ofLine?_of_reads reads
    rw [found] at qualified
    split at qualified
    · cases outcome : ofDiagnostic (.ofList (Text.dropEndWhile isLineEnd text.toList)) d with
      | error failure => rw [outcome] at qualified; cases qualified
      | ok other =>
        have short := isShort_of_ofDiagnostic outcome
        obtain ⟨other, same, tells⟩ := ((judged_ofLine? reads short).found issue).mp found
        obtain rfl := reads.unique same
        exact ⟨d, reads, short, tells⟩
    · cases qualified
  · rw [ofLine?_of_unread (not_exists.mp readable)] at found
    cases found

theorem toString_row_short {n : Int} {number : Option (List Char)} {fallback : Nat}
    (small : fallback < 10)
    (known : n = (number.map fun digits => (Text.numeral digits : Int)).getD fallback)
    (runs : ∀ digits ∈ number, IsRun Text.isDigit digits)
    (short : ∀ digits ∈ number, digits.length ≤ 4300) : (toString n).length ≤ 4300 := by
  subst known
  cases number with
  | none =>
    rw [Option.map_none, Option.getD_none]
    have single : (Nat.repr fallback).length ≤ 1 := (Nat.length_repr_le_iff (by decide)).mpr small
    exact single.trans (by decide)
  | some digits =>
    have filled := (runs digits rfl).1
    have printed : (toString (Text.numeral digits : Int)).length =
        (Nat.toDigits 10 (Text.numeral digits)).length := by
      rw [← String.length_toList, toString_of_nonneg (Int.natCast_nonneg _), Int.toNat_natCast]
    rw [Option.map_some, Option.getD_some, printed]
    exact (Text.length_toDigits_numeral filled).trans (short digits rfl)

theorem printable_of_ofLine? {text : String} (unbroken : Text.Unbroken text.toList)
    (found : ofLine? text = .ok (some issue)) : issue.Printable := by
  obtain ⟨d, reads, short, tells⟩ := tells_of_ofLine? found
  have among (c : Char) (member : c ∈ d.message) : Text.isLineBreak c = false := by
    apply unbroken c
    apply (List.rdropWhile_prefix isLineEnd text.toList).subset
    rw [← Text.dropEndWhile_eq, reads.written]
    simp [written, member]
  have column : issue.column + 1 =
      (d.column.map fun digits => (Text.numeral digits : Int)).getD (2 : Nat) := by
    rw [tells.column, columnIndex_eq]
    exact Int.sub_add_cancel _ _
  refine ⟨?_, ?_, ?_, ?_, toString_row_short (by decide) tells.line reads.line short.1,
    toString_row_short (by decide) column reads.column short.2⟩
  · rw [tells.path]
    simpa using reads.path.1
  · intro c member
    rw [tells.path, String.toList_ofList] at member
    simpa [isPathChar] using reads.path.2 c member
  · rw [tells.message]
    simp only [Text.strip, String.toList_ofList, Text.trim_trim]
  · intro c member
    rw [tells.message, Text.strip, String.toList_ofList, String.toList_ofList] at member
    exact among c (Text.mem_of_mem_trim member)

theorem printable_of_ofLines {lines : List String} {issues : List Issue}
    (unbroken : ∀ line ∈ lines, Text.Unbroken line.toList) (found : ofLines lines = .ok issues) :
    ∀ issue ∈ issues, issue.Printable := by
  obtain ⟨-, rfl⟩ := ofLines_eq_ok_iff.mp found
  intro issue there
  obtain ⟨line, member, reads⟩ := mem_issuesOn.mp there
  exact printable_of_ofLine? (unbroken line member) reads

theorem ofLines_toLine {issues : List Issue} (printable : ∀ issue ∈ issues, issue.Printable) :
    ofLines (issues.map toLine) = .ok issues := by
  induction issues with
  | nil => rfl
  | cons issue rest ih =>
    have more := ih fun other member => printable other (List.mem_cons_of_mem issue member)
    have reads := (printable issue List.mem_cons_self).ofLine?_toLine
    rw [List.map_cons, ofLines_cons_of_ok reads, more]
    rfl

def printed (issues : List Issue) : String := "\n".intercalate (issues.map toLine)

theorem ofOutput_printed_of_printable {issues : List Issue}
    (printable : ∀ issue ∈ issues, issue.Printable) : ofOutput (printed issues) = .ok issues := by
  have cut : Text.lines (printed issues) = issues.map toLine := by
    apply Text.lines_intercalate
    · intro text member
      obtain ⟨issue, -, rfl⟩ := List.mem_map.mp member
      exact toLine_ne issue
    · intro text member
      obtain ⟨issue, there, rfl⟩ := List.mem_map.mp member
      exact (printable issue there).unbroken
  rw [ofOutput, cut]
  exact ofLines_toLine printable

theorem printable_of_ofOutput {output : String} {issues : List Issue}
    (found : ofOutput output = .ok issues) : ∀ issue ∈ issues, issue.Printable :=
  printable_of_ofLines (fun _ member => Text.unbroken_of_mem_lines member) found

/-- Printable issues are read back from the lines they are written as. The issues in an output are
printable, so writing them and reading them again changes nothing. -/
theorem ofOutput_printed :
    (∀ issues : List Issue, (∀ issue ∈ issues, issue.Printable) →
      ofOutput (printed issues) = .ok issues) ∧
    (∀ output issues, ofOutput output = .ok issues → ∀ issue ∈ issues, issue.Printable) ∧
    ∀ output issues, ofOutput output = .ok issues → ofOutput (printed issues) = .ok issues := by
  refine ⟨fun issues => ofOutput_printed_of_printable, fun output issues => printable_of_ofOutput,
    fun output issues found => ?_⟩
  exact ofOutput_printed_of_printable (printable_of_ofOutput found)

/-- A message without text, and one with a colon; the output has neither line nor column. -/
theorem ofOutput_printed_bare :
    let empty : Issue := ⟨"a.py", 12, 0, .note, "", by decide, by decide⟩
    let colon : Issue := ⟨"b.py", 1, 1, .error, "x: 3:4: y", by decide, by decide⟩
    ofOutput "a.py:12:1: note: \nb.py:1:2: error: x: 3:4: y" = .ok [empty, colon] ∧
      ofOutput (printed [colon]) = .ok [colon] := by
  intro empty colon
  have printable : ∀ issue ∈ [empty, colon], issue.Printable := by decide +kernel
  have bare : ofOutput "ready\r\nb.py: ERROR:\t x: 3:4: y " = .ok [colon] := by decide +kernel
  have again := ofOutput_printed.2.2 _ _ bare
  exact ⟨ofOutput_printed.1 [empty, colon] printable, again⟩

end Issue

end CheckRouter
