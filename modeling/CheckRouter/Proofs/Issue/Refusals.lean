import CheckRouter.Proofs.Issue.Output

/-!
# Lines that are refused

A line that cannot be read is refused by name, whatever is wrong with it, but for one cause: a number
of more than 4300 digits under a known severity. `Issue.refused_or_overlong` says so of lines and of
outputs.
-/

namespace CheckRouter

namespace Diagnostic

/-- The first number with more digits than can be read. -/
def overlong? (d : Diagnostic) : Option (List Char) :=
  (d.line.toList ++ d.column.toList).find? (4300 < ·.length)

variable {d : Diagnostic}

theorem overlong?_eq_none_iff : d.overlong? = none ↔ d.IsShort := by
  simp only [overlong?, List.find?_eq_none, List.mem_append, Option.mem_toList, or_imp,
    forall_and, decide_eq_true_eq, Nat.not_lt, IsShort, Option.mem_def]

theorem valueOr_of_long {digits : List Char} (long : 4300 < digits.length) (fallback : Int) :
    valueOr fallback (some digits) = .error (.oversizedNumeral digits.length) :=
  if_pos long

end Diagnostic

namespace Issue

open Diagnostic

variable {d : Diagnostic}

theorem ofDiagnostic_of_overlong (letters : IsRun Char.isAlpha d.word) {severity : Severity}
    (named : severity.IsNamedBy d.word) {digits : List Char} (long : d.overlong? = some digits)
    (line : String) : ofDiagnostic line d = .error (.oversizedNumeral digits.length) := by
  have known := (Severity.ofToken?_eq_some_iff letters.2).mpr named
  have second (short : ∀ row ∈ d.line, row.length ≤ 4300) :
      valueOr 2 d.column = .error (.oversizedNumeral digits.length) := by
    have found : d.column.toList.find? (4300 < ·.length) = some digits := by
      rw [overlong?, List.find?_append] at long
      have none : d.line.toList.find? (4300 < ·.length) = none := by
        simpa [List.find?_eq_none] using short
      simpa [none] using long
    obtain ⟨there, exceeds⟩ : digits ∈ d.column.toList ∧ 4300 < digits.length :=
      ⟨List.mem_of_find?_eq_some found, by simpa using List.find?_some found⟩
    rw [Option.mem_toList.mp there, valueOr_of_long exceeds]
  simp only [ofDiagnostic, known]
  cases row : d.line with
  | none =>
    rw [second (by simp [row])]
    rfl
  | some run =>
    by_cases exceeds : 4300 < run.length
    · have first : digits = run := by
        simpa [overlong?, row, exceeds] using long.symm
      rw [valueOr_of_long exceeds, first]
      rfl
    · rw [second (by simpa [row] using exceeds), valueOr_eq_ok (by simpa using exceeds)]
      rfl

/-- A line under a known severity, whose first number with too many digits has this many. -/
def IsOverlong (line : List Char) (n : Nat) : Prop :=
  ∃ d : Diagnostic, d.Reads line ∧ (∃ severity : Severity, severity.IsNamedBy d.word) ∧
    ∃ digits ∈ d.overlong?, digits.length = n

section Line

variable {text : String} {n : Nat}

theorem ofLine?_of_isOverlong
    (long : IsOverlong (Text.dropEndWhile isLineEnd text.toList) n) :
    ofLine? text = .error (.oversizedNumeral n) := by
  obtain ⟨d, reads, ⟨severity, named⟩, digits, first, rfl⟩ := long
  have qualifies : d.qualifies = true := qualifies_iff.mpr (.inr ⟨severity, named⟩)
  rw [ofLine?_of_reads reads, if_pos qualifies, ofDiagnostic_of_overlong reads.word named first]
  rfl

/-- Whether a line is read or refused by name depends on the numbers only if a severity is known. -/
theorem ofLine?_of_not_isOverlong
    (fits : ∀ n, ¬IsOverlong (Text.dropEndWhile isLineEnd text.toList) n) :
    (∃ found, ofLine? text = .ok found) ∨ ∃ reason, ofLine? text =
      .error (.unreadableLine reason (some (.ofList (Text.dropEndWhile isLineEnd text.toList)))) := by
  by_cases readable : ∃ d : Diagnostic, d.Reads (Text.dropEndWhile isLineEnd text.toList)
  · obtain ⟨d, reads⟩ := readable
    by_cases named : ∃ severity : Severity, severity.IsNamedBy d.word
    · have short : d.IsShort := by
        rw [← overlong?_eq_none_iff, Option.eq_none_iff_forall_not_mem]
        intro digits first
        exact fits _ ⟨d, reads, named, digits, first, rfl⟩
      rcases (judged_ofLine? reads short).closed with passed | ⟨issue, found⟩ | refused
      · exact .inl ⟨none, passed⟩
      · exact .inl ⟨some issue, found⟩
      · exact .inr refused
    · rw [ofLine?_of_reads reads]
      split
      · rw [ofDiagnostic_of_unnamed reads.word (not_exists.mp named)]
        exact .inr ⟨_, rfl⟩
      · exact .inl ⟨none, rfl⟩
  · exact .inl ⟨none, ofLine?_of_unread (not_exists.mp readable)⟩

theorem ofLine?_eq_oversized_iff : ofLine? text = .error (.oversizedNumeral n) ↔
    IsOverlong (Text.dropEndWhile isLineEnd text.toList) n := by
  constructor
  · intro fails
    by_cases fits : ∀ n, ¬IsOverlong (Text.dropEndWhile isLineEnd text.toList) n
    · rcases ofLine?_of_not_isOverlong fits with ⟨found, reads⟩ | ⟨reason, refused⟩
      · rw [reads] at fails
        cases fails
      · rw [refused] at fails
        cases fails
    · obtain ⟨m, long⟩ := not_forall_not.mp fits
      rw [ofLine?_of_isOverlong long] at fails
      cases fails
      exact long
  · exact ofLine?_of_isOverlong

theorem ofLine?_closed (text : String) :
    (∃ found, ofLine? text = .ok found) ∨
      (∃ reason, ofLine? text =
        .error (.unreadableLine reason
          (some (.ofList (Text.dropEndWhile isLineEnd text.toList))))) ∨
      ∃ n, ofLine? text = .error (.oversizedNumeral n) := by
  by_cases fits : ∀ n, ¬IsOverlong (Text.dropEndWhile isLineEnd text.toList) n
  · rcases ofLine?_of_not_isOverlong fits with reads | refused
    · exact .inl reads
    · exact .inr (.inl refused)
  · obtain ⟨n, long⟩ := not_forall_not.mp fits
    exact .inr (.inr ⟨n, ofLine?_of_isOverlong long⟩)

end Line

/-! ## Outputs -/

theorem dropEndWhile_of_mem_lines {output line : String} (member : line ∈ Text.lines output) :
    Text.dropEndWhile isLineEnd line.toList = line.toList := by
  apply Text.dropEndWhile_eq_self
  intro c inside
  have unbroken := Text.unbroken_of_mem_lines member c inside
  by_contra ends
  simp only [isLineEnd, Bool.not_eq_false, Bool.or_eq_true, decide_eq_true_eq] at ends
  rcases ends with rfl | rfl
  · exact absurd unbroken (by decide)
  · exact absurd unbroken (by decide)

/-- An output fails as the first of its lines that fails. -/
theorem ofOutput_closed (output : String) :
    (∃ issues, ofOutput output = .ok issues) ∨
      (∃ line ∈ Text.lines output, ∃ reason,
        ofOutput output = .error (.unreadableLine reason (some line))) ∨
      ∃ n, ofOutput output = .error (.oversizedNumeral n) := by
  cases outcome : ofOutput output with
  | ok issues => exact .inl ⟨issues, rfl⟩
  | error failure =>
    obtain ⟨front, line, back, lines, -, fails⟩ := ofLines_eq_error_iff.mp outcome
    have member : line ∈ Text.lines output := by simp [lines]
    have closed := ofLine?_closed line
    rw [fails, dropEndWhile_of_mem_lines member, String.ofList_toList] at closed
    rcases closed with ⟨found, ⟨⟩⟩ | ⟨reason, ⟨⟩⟩ | ⟨n, ⟨⟩⟩
    · exact .inr (.inl ⟨line, member, reason, rfl⟩)
    · exact .inr (.inr ⟨n, rfl⟩)

theorem ofOutput_eq_oversized_iff {output : String} {n : Nat} :
    ofOutput output = .error (.oversizedNumeral n) ↔ ∃ front line back,
      Text.lines output = front ++ line :: back ∧ Readable front ∧ IsOverlong line.toList n := by
  refine ofLines_eq_error_iff.trans ?_
  have each (front : List String) (line : String) (back : List String)
      (lines : Text.lines output = front ++ line :: back) :
      ofLine? line = .error (.oversizedNumeral n) ↔ IsOverlong line.toList n := by
    have member : line ∈ Text.lines output := by simp [lines]
    rw [ofLine?_eq_oversized_iff, dropEndWhile_of_mem_lines member]
  constructor
  · rintro ⟨front, line, back, lines, readable, fails⟩
    exact ⟨front, line, back, lines, readable, (each front line back lines).mp fails⟩
  · rintro ⟨front, line, back, lines, readable, long⟩
    exact ⟨front, line, back, lines, readable, (each front line back lines).mpr long⟩

/-- A line has an issue or none, or is refused by name, unless a number under a known severity is too
long. An output fails in no other way, and with such a number just if the first of its lines that
cannot be read has it. -/
theorem refused_or_overlong (text : String) :
    let line := Text.dropEndWhile isLineEnd text.toList
    (((∃ found, ofLine? text = .ok found) ∨
        (∃ reason, ofLine? text = .error (.unreadableLine reason (some (.ofList line)))) ∨
        ∃ n, ofLine? text = .error (.oversizedNumeral n)) ∧
      ∀ n, ofLine? text = .error (.oversizedNumeral n) ↔ IsOverlong line n) ∧
    ((∃ issues, ofOutput text = .ok issues) ∨
        (∃ line ∈ Text.lines text, ∃ reason,
          ofOutput text = .error (.unreadableLine reason (some line))) ∨
        ∃ n, ofOutput text = .error (.oversizedNumeral n)) ∧
      ∀ n, ofOutput text = .error (.oversizedNumeral n) ↔ ∃ front line back,
        Text.lines text = front ++ line :: back ∧ Readable front ∧ IsOverlong line.toList n :=
  ⟨⟨ofLine?_closed text, fun _ => ofLine?_eq_oversized_iff⟩, ofOutput_closed text,
    fun _ => ofOutput_eq_oversized_iff⟩

/-- A diagnostic whose line number is written as zeros. -/
def zeros (n : Nat) : Diagnostic where
  path := "a.py".toList
  line := some (List.replicate n '0')
  column := none
  word := "error".toList
  message := " x".toList

section Zeros

variable {n : Nat}

theorem zeros_unbroken : Text.Unbroken (zeros n).written := by
  have solid (word : List Char) (all : word.all (!Text.isLineBreak ·) = true) :
      Text.Unbroken word := by
    simpa [Text.Unbroken] using all
  intro c member
  simp only [written, numberText, zeros, List.mem_append, List.mem_cons, List.mem_replicate,
    List.not_mem_nil, or_false, false_or] at member
  rcases member with there | rfl | (⟨-, rfl⟩ | rfl) | rfl | there | rfl | there
  · exact solid _ (by decide) c there
  · decide
  · decide
  · decide
  · decide
  · exact solid _ (by decide) c there
  · decide
  · exact solid _ (by decide) c there

theorem zeros_reads (filled : 0 < n) : (zeros n).Reads (zeros n).written where
  written := rfl
  path := ⟨by simp [zeros], List.all_eq_true.mp rfl⟩
  line := by
    rintro _ ⟨⟩
    refine ⟨by simpa using filled.ne', fun c member => ?_⟩
    rw [List.eq_of_mem_replicate member]
    decide
  column := by simp [zeros]
  lineFirst _ := rfl
  word := ⟨by simp [zeros], List.all_eq_true.mp rfl⟩
  message := by simp [zeros]

theorem isOverlong_zeros (long : 4300 < n) : IsOverlong (zeros n).written n := by
  refine ⟨zeros n, zeros_reads (Nat.zero_lt_of_lt long), ⟨.error, rfl⟩, List.replicate n '0', ?_,
    List.length_replicate⟩
  simp [overlong?, zeros, long]

end Zeros

/-- The number zero is refused as a position, but not with too many digits. -/
theorem oversized_zeros :
    let line := String.ofList (zeros 4301).written
    ofLine? line = .error (.oversizedNumeral 4301) ∧
      ofOutput line = .error (.oversizedNumeral 4301) ∧
      ofLine? "a.py:0: error: x" =
        .error (.unreadableLine "invalid diagnostic position" (some "a.py:0: error: x")) := by
  intro line
  have unbroken : Text.Unbroken line.toList := by
    rw [String.toList_ofList]
    exact zeros_unbroken
  have single : Text.lines line = [line] := by
    have filled : line ≠ "" := by
      intro empty
      have := congrArg String.toList empty
      simp [line, written] at this
    simpa using @Text.lines_intercalate [line] (by simpa using filled) (by simpa using unbroken)
  have member : line ∈ Text.lines line := by simp [single]
  have fails : ofLine? line = .error (.oversizedNumeral 4301) := by
    apply ofLine?_of_isOverlong
    rw [dropEndWhile_of_mem_lines member, String.toList_ofList]
    exact isOverlong_zeros (by decide)
  refine ⟨fails, ?_, by decide +kernel⟩
  rw [ofOutput, single]
  exact ofLines_cons_of_error fails []

end Issue

end CheckRouter
