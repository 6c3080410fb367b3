import CheckRouter.Issue.Line
import CheckRouter.Proofs.Text
import Mathlib

/-!
# The grammar of diagnostics

`Diagnostic.Reads` says how a line is made up of the parts of a diagnostic, and `ofLine?_eq_some_iff`
that reading a line finds just these parts. `Issue.judged_reading` says which lines are passed over,
which are refused, and which issue is found on the others.
-/

namespace CheckRouter

/-! ## Words of severities -/

namespace Severity

/-- A word names a severity if it is that of the severity but for the case of its letters. -/
def IsNamedBy (severity : Severity) (word : List Char) : Prop :=
  word.map Char.toLower = severity.word.toList

instance (severity : Severity) (word : List Char) : Decidable (severity.IsNamedBy word) :=
  inferInstanceAs (Decidable (_ = _))

theorem ofWord?_eq_some_iff {word : String} {severity : Severity} :
    ofWord? word = some severity ↔ word = severity.word := by
  constructor
  · intro found
    have same : (severity.word == word) = true :=
      List.find?_some (a := severity) (l := all) found
    exact (beq_iff_eq.mp same).symm
  · rintro rfl
    exact ofWord?_word severity

theorem find?_name_eq_some_iff {name : List Char} {severity : Severity} :
    all.find? (·.name.toList == name) = some severity ↔ name = severity.name.toList := by
  constructor
  · intro found
    have same : (severity.name.toList == name) = true :=
      List.find?_some (a := severity) (l := all) found
    exact (beq_iff_eq.mp same).symm
  · rintro rfl
    cases severity <;> decide

theorem map_toUpper_eq_name_iff {word : List Char} {severity : Severity} :
    word.map Char.toUpper = severity.name.toList ↔ severity.IsNamedBy word := by
  have lower : severity.name.toList.map Char.toLower = severity.word.toList := by
    cases severity <;> decide
  have upper : severity.word.toList.map Char.toUpper = severity.name.toList := by
    cases severity <;> decide
  constructor
  · intro same
    rw [IsNamedBy, ← lower, ← same, List.map_map]
    exact List.map_congr_left fun c _ => (Char.toLower_toUpper_eq_toLower c).symm
  · intro same
    rw [← upper, ← same, List.map_map]
    exact List.map_congr_left fun c _ => (Char.toUpper_toLower_eq_toUpper c).symm

theorem upperCase_of_isAlpha {c : Char} (letter : c.isAlpha = true) : upperCase c = c.toUpper := by
  apply if_neg
  rintro rfl
  revert letter
  decide

theorem ofToken?_eq_some_iff {word : List Char} (letters : ∀ c ∈ word, c.isAlpha = true)
    {severity : Severity} :
    ofToken? (.ofList word) = some severity ↔ severity.IsNamedBy word := by
  have solid : ∀ c ∈ word, Text.isBlank c = false := fun c member =>
    Text.not_isBlank_of_isAlpha (letters c member)
  have capitals : word.map upperCase = word.map Char.toUpper :=
    List.map_congr_left fun c member => upperCase_of_isAlpha (letters c member)
  rw [ofToken?, String.toList_ofList, Text.trim_eq_self solid, capitals, find?_name_eq_some_iff,
    map_toUpper_eq_name_iff]

end Severity

namespace Diagnostic

/-! ## Parts of a line -/

def IsRun (p : Char → Bool) (run : List Char) : Prop := run ≠ [] ∧ ∀ c ∈ run, p c = true

section Parts

variable {p : Char → Bool} {text run rest : List Char}

theorem field?_eq_some_iff (stop : p ':' = false) :
    field? p text = some (run, rest) ↔ IsRun p run ∧ text = run ++ ':' :: rest := by
  constructor
  · intro found
    unfold field? at found
    split at found
    · next c more after taken dropped =>
      cases found
      refine ⟨⟨List.cons_ne_nil _ _, fun other member => ?_⟩, ?_⟩
      · exact List.mem_takeWhile_imp (taken ▸ member)
      · rw [← taken, ← dropped, List.takeWhile_append_dropWhile]
    · cases found
  · rintro ⟨⟨filled, all⟩, rfl⟩
    obtain ⟨c, more, rfl⟩ := List.exists_cons_of_ne_nil filled
    have taken : (c :: more ++ ':' :: rest).takeWhile p = c :: more := by
      rw [List.takeWhile_append_of_pos all]
      simp [stop]
    have dropped : (c :: more ++ ':' :: rest).dropWhile p = ':' :: rest := by
      rw [List.dropWhile_append_of_pos all]
      simp [stop]
    simp only [field?, taken, dropped]

theorem field?_of_stop {c : Char} (stop : p c = false) : field? p (c :: rest) = none := by
  simp [field?, stop]

theorem not_isDigit_colon : Text.isDigit ':' = false := by decide

theorem number_of_run (digits : IsRun Text.isDigit run) (rest : List Char) :
    number (run ++ ':' :: rest) = (some run, rest) := by
  have found := (field?_eq_some_iff not_isDigit_colon).mpr ⟨digits, Eq.refl (run ++ ':' :: rest)⟩
  rw [number, found]

theorem number_of_blank (rest : List Char) : number (' ' :: rest) = (none, ' ' :: rest) := by
  rw [number, field?_of_stop (by decide)]

/-- The text of a number that may be missing, up to the colon behind it. -/
def numberText : Option (List Char) → List Char
  | some digits => digits ++ [':']
  | none => []

theorem number_cases (text : List Char) :
    (∀ digits ∈ (number text).1, IsRun Text.isDigit digits) ∧
      text = numberText (number text).1 ++ (number text).2 := by
  unfold number
  split
  · next digits rest found =>
    obtain ⟨isRun, written⟩ := (field?_eq_some_iff not_isDigit_colon).mp found
    refine ⟨?_, by simpa [numberText] using written⟩
    rintro _ ⟨⟩
    exact isRun
  · simp [numberText]

theorem number_number_of_none (missing : (number text).1 = none) :
    number (number text).2 = (none, text) := by
  unfold number at missing ⊢
  split at missing
  · cases missing
  · next absent => simp [absent]

end Parts

/-! ## Lines -/

/-- The line that some parts make up. -/
def written (d : Diagnostic) : List Char :=
  d.path ++ ':' :: (numberText d.line ++ (numberText d.column ++
    ' ' :: (d.word ++ ':' :: d.message)))

/-- The parts of a line: a path, at most two numbers of which the first is the line number, a word
and a message. -/
structure Reads (d : Diagnostic) (line : List Char) : Prop where
  written : line = d.written
  path : IsRun isPathChar d.path
  line : ∀ digits ∈ d.line, IsRun Text.isDigit digits
  column : ∀ digits ∈ d.column, IsRun Text.isDigit digits
  lineFirst : d.line = none → d.column = none
  word : IsRun Char.isAlpha d.word
  message : '\n' ∉ d.message

section Lines

variable {d : Diagnostic} {line : List Char}

theorem not_isPathChar_colon : isPathChar ':' = false := by decide

theorem not_isAlpha_colon : Char.isAlpha ':' = false := by decide

theorem reads_of_ofLine? (found : ofLine? line = some d) : d.Reads line := by
  obtain ⟨⟨path, afterPath⟩, cutPath, cutRest⟩ := Option.bind_eq_some_iff.mp found
  obtain ⟨isPath, rfl⟩ := (field?_eq_some_iff not_isPathChar_colon).mp cutPath
  obtain ⟨isRow, rowText⟩ := number_cases afterPath
  obtain ⟨isColumn, columnText⟩ := number_cases (number afterPath).2
  dsimp only at cutRest
  split at cutRest
  · next afterBlank blank =>
    obtain ⟨⟨word, message⟩, cutWord, cutRest⟩ := Option.bind_eq_some_iff.mp cutRest
    obtain ⟨isWord, wordText⟩ := (field?_eq_some_iff not_isAlpha_colon).mp cutWord
    dsimp only at cutRest
    split at cutRest
    · cases cutRest
    · next unbroken =>
      cases cutRest
      rw [blank, wordText] at columnText
      rw [columnText] at rowText
      refine ⟨congrArg (path ++ ':' :: ·) rowText, isPath, isRow, isColumn, fun missing => ?_,
        isWord, by simpa using unbroken⟩
      exact congrArg Prod.fst (number_number_of_none missing)
  · cases cutRest

theorem Reads.ofLine? (reads : d.Reads line) : ofLine? line = some d := by
  obtain ⟨rfl, path, row, column, lineFirst, word, message⟩ := reads
  obtain ⟨pathRun, rowRun, columnRun, wordRun, messageText⟩ := d
  have cutPath := fun rest => (field?_eq_some_iff not_isPathChar_colon).mpr
    ⟨path, Eq.refl (pathRun ++ ':' :: rest)⟩
  have cutWord := (field?_eq_some_iff not_isAlpha_colon).mpr
    ⟨word, Eq.refl (wordRun ++ ':' :: messageText)⟩
  have unbroken : messageText.contains '\n' = false := by simpa using message
  cases rowRun with
  | none =>
    obtain rfl : columnRun = none := lineFirst rfl
    simp only [Diagnostic.ofLine?, Diagnostic.written, numberText, List.nil_append, cutPath,
      number_of_blank, cutWord, unbroken, Option.bind_eq_bind, Option.bind_some,
      Bool.false_eq_true, if_false]
  | some rowDigits =>
    have isRow := row rowDigits rfl
    cases columnRun with
    | none =>
      simp only [Diagnostic.ofLine?, Diagnostic.written, numberText, List.nil_append,
        List.append_assoc, List.cons_append, cutPath, number_of_run isRow, number_of_blank, cutWord,
        unbroken, Option.bind_eq_bind, Option.bind_some, Bool.false_eq_true, if_false]
    | some columnDigits =>
      have isColumn := column columnDigits rfl
      simp only [Diagnostic.ofLine?, Diagnostic.written, numberText, List.nil_append,
        List.append_assoc, List.cons_append, cutPath, number_of_run isRow, number_of_run isColumn,
        cutWord, unbroken, Option.bind_eq_bind, Option.bind_some, Bool.false_eq_true, if_false]

theorem ofLine?_eq_some_iff : ofLine? line = some d ↔ d.Reads line :=
  ⟨reads_of_ofLine?, Reads.ofLine?⟩

theorem Reads.unique {other : Diagnostic} (reads : d.Reads line) (also : other.Reads line) :
    d = other :=
  Option.some.inj (reads.ofLine?.symm.trans also.ofLine?)

end Lines

/-! ## What a line tells -/

/-- The line number, which is one if it is missing. -/
def row (d : Diagnostic) : Int := (d.line.map fun digits => (Text.numeral digits : Int)).getD 1

/-- The column counted from zero, which is one if it is missing. -/
def columnIndex (d : Diagnostic) : Int :=
  (d.column.map fun digits => (Text.numeral digits - 1 : Int)).getD 1

structure Tells (d : Diagnostic) (issue : Issue) : Prop where
  path : issue.path = .ofList d.path
  line : issue.line = d.row
  column : issue.column = d.columnIndex
  severity : issue.severity.IsNamedBy d.word
  message : issue.message = Text.strip (.ofList d.message)

/-- Of a diagnostic without issue: nothing is known under its word, or one of its numbers is zero. -/
def IsFlawed (d : Diagnostic) : Prop :=
  (∀ severity : Severity, ¬severity.IsNamedBy d.word) ∨
    (∃ digits ∈ d.line, Text.numeral digits = 0) ∨ ∃ digits ∈ d.column, Text.numeral digits = 0

/-- The numbers of a diagnostic are not too long to be read. -/
def IsShort (d : Diagnostic) : Prop :=
  (∀ digits ∈ d.line, digits.length ≤ 4300) ∧ ∀ digits ∈ d.column, digits.length ≤ 4300

section Telling

variable {d : Diagnostic} {issue : Issue}

theorem isKnown_iff : d.isKnown = true ↔ ∃ severity : Severity, severity.IsNamedBy d.word := by
  simp only [isKnown, Option.isSome_iff_exists, Severity.ofWord?_eq_some_iff, Severity.IsNamedBy,
    ← String.toList_inj, String.toList_ofList]

theorem Tells.unique {other : Issue} (tells : d.Tells issue) (also : d.Tells other) :
    issue = other := by
  have word : issue.severity.word.toList = other.severity.word.toList :=
    tells.severity.symm.trans also.severity
  have severity : issue.severity = other.severity := by
    revert word
    cases issue.severity <;> cases other.severity <;> decide
  obtain ⟨path, line, column, _, message, _, _⟩ := issue
  obtain ⟨path', line', column', _, message', _, _⟩ := other
  obtain rfl : path = path' := tells.path.trans also.path.symm
  obtain rfl : line = line' := tells.line.trans also.line.symm
  obtain rfl : column = column' := tells.column.trans also.column.symm
  obtain rfl : message = message' := tells.message.trans also.message.symm
  obtain rfl := severity
  rfl

theorem Tells.not_isFlawed (tells : d.Tells issue) : ¬d.IsFlawed := by
  rintro (unnamed | ⟨digits, known, zero⟩ | ⟨digits, known, zero⟩)
  · exact unnamed _ tells.severity
  · have positive := issue.line_pos
    rw [tells.line, row, Option.mem_def.mp known] at positive
    simp [zero] at positive
  · have nonneg := issue.column_nonneg
    rw [tells.column, columnIndex, Option.mem_def.mp known] at nonneg
    simp [zero] at nonneg

theorem valueOr_eq_ok {fallback : Int} {number : Option (List Char)}
    (short : ∀ digits ∈ number, digits.length ≤ 4300) :
    valueOr fallback number =
      .ok ((number.map fun digits => (Text.numeral digits : Int)).getD fallback) := by
  cases number with
  | none => rfl
  | some digits => simp [valueOr, value, short digits rfl]

theorem columnIndex_eq : d.columnIndex =
    (d.column.map fun digits => (Text.numeral digits : Int)).getD 2 - 1 := by
  rw [columnIndex]
  cases d.column <;> rfl

theorem one_le_row_iff : 1 ≤ d.row ↔ ¬∃ digits ∈ d.line, Text.numeral digits = 0 := by
  rw [row]
  cases d.line with
  | none => simp
  | some digits =>
    simp only [Option.map_some, Option.getD_some, Option.mem_def, Option.some.injEq, exists_eq_left']
    omega

theorem columnIndex_nonneg_iff :
    0 ≤ d.columnIndex ↔ ¬∃ digits ∈ d.column, Text.numeral digits = 0 := by
  rw [columnIndex]
  cases d.column with
  | none => simp
  | some digits =>
    simp only [Option.map_some, Option.getD_some, Option.mem_def, Option.some.injEq, exists_eq_left']
    omega

end Telling

end Diagnostic

namespace Issue

open Diagnostic

section Line

variable {d : Diagnostic} {line : String}

theorem ofDiagnostic_of_unnamed (letters : IsRun Char.isAlpha d.word)
    (unnamed : ∀ severity : Severity, ¬severity.IsNamedBy d.word) :
    ofDiagnostic line d =
      .error (.unreadableLine ("unrecognized severity " ++ Text.quoted (.ofList d.word))
        (some line)) := by
  have unknown : Severity.ofToken? (.ofList d.word) = none := by
    apply Option.eq_none_iff_forall_not_mem.mpr
    intro severity found
    exact unnamed severity ((Severity.ofToken?_eq_some_iff letters.2).mp found)
  simp only [ofDiagnostic, unknown]
  rfl

theorem ofDiagnostic_of_named (letters : IsRun Char.isAlpha d.word) (short : d.IsShort)
    {severity : Severity} (named : severity.IsNamedBy d.word) :
    ofDiagnostic line d =
      (Issue.at? (.ofList d.path) d.row d.columnIndex severity
        (Text.strip (.ofList d.message))).elim
          (.error (.unreadableLine "invalid diagnostic position" (some line))) .ok := by
  have known := (Severity.ofToken?_eq_some_iff letters.2).mpr named
  simp only [ofDiagnostic, known, valueOr_eq_ok short.1, valueOr_eq_ok short.2, bind, Except.bind]
  rw [← columnIndex_eq, ← row]
  cases Issue.at? (.ofList d.path) d.row d.columnIndex severity
    (Text.strip (.ofList d.message)) <;> rfl

/-- A diagnostic is refused if it is flawed, else its issue is found. -/
theorem ofDiagnostic_cases (letters : IsRun Char.isAlpha d.word) (short : d.IsShort) :
    (d.IsFlawed ∧ ∃ reason, ofDiagnostic line d = .error (.unreadableLine reason (some line))) ∨
      ∃ issue, ofDiagnostic line d = .ok issue ∧ d.Tells issue := by
  by_cases named : ∃ severity : Severity, severity.IsNamedBy d.word
  · obtain ⟨severity, named⟩ := named
    rw [ofDiagnostic_of_named letters short named]
    by_cases range : 1 ≤ d.row ∧ 0 ≤ d.columnIndex
    · right
      rw [Issue.at?, dif_pos range]
      exact ⟨_, rfl, rfl, rfl, rfl, named, rfl⟩
    · left
      rw [Issue.at?, dif_neg range]
      refine ⟨.inr ?_, _, rfl⟩
      rw [one_le_row_iff, columnIndex_nonneg_iff] at range
      by_contra sound
      exact range (not_or.mp sound)
  · left
    have unnamed : ∀ severity : Severity, ¬severity.IsNamedBy d.word := not_exists.mp named
    exact ⟨.inl unnamed, _, ofDiagnostic_of_unnamed letters unnamed⟩

end Line

/-- What is to come out when a line is read: nothing, a failure that names the line, or an issue. -/
structure Judged (line : List Char) (outcome : Except Failure (Option Issue)) : Prop where
  passed : outcome = .ok none ↔
    ∀ d : Diagnostic, d.Reads line →
      d.line = none ∧ ∀ severity : Severity, ¬severity.IsNamedBy d.word
  refused : (∃ reason, outcome = .error (.unreadableLine reason (some (.ofList line)))) ↔
    ∃ d : Diagnostic, d.Reads line ∧ d.line ≠ none ∧ d.IsFlawed
  found : ∀ issue, outcome = .ok (some issue) ↔ ∃ d : Diagnostic, d.Reads line ∧ d.Tells issue
  closed : outcome = .ok none ∨ (∃ issue, outcome = .ok (some issue)) ∨
    ∃ reason, outcome = .error (.unreadableLine reason (some (.ofList line)))

section Judged

variable {line : List Char} {d : Diagnostic} {issue : Issue} {reason : String}

theorem judged_of_passed (unqualified : ∀ d : Diagnostic, d.Reads line →
      d.line = none ∧ ∀ severity : Severity, ¬severity.IsNamedBy d.word) :
    Judged line (.ok none) where
  passed := ⟨fun _ => unqualified, fun _ => rfl⟩
  refused := by
    constructor
    · rintro ⟨reason, ⟨⟩⟩
    · rintro ⟨d, reads, numbered, -⟩
      exact absurd (unqualified d reads).1 numbered
  found := by
    intro issue
    constructor
    · rintro ⟨⟩
    · rintro ⟨d, reads, tells⟩
      exact absurd tells.severity ((unqualified d reads).2 issue.severity)
  closed := .inl rfl

theorem judged_of_refused (reads : d.Reads line) (numbered : d.line ≠ none) (flawed : d.IsFlawed) :
    Judged line (.error (.unreadableLine reason (some (.ofList line)))) where
  passed := by
    constructor
    · rintro ⟨⟩
    · intro unqualified
      exact absurd (unqualified d reads).1 numbered
  refused := ⟨fun _ => ⟨d, reads, numbered, flawed⟩, fun _ => ⟨reason, rfl⟩⟩
  found := by
    intro issue
    constructor
    · rintro ⟨⟩
    · rintro ⟨other, also, tells⟩
      obtain rfl := reads.unique also
      exact absurd flawed tells.not_isFlawed
  closed := .inr (.inr ⟨reason, rfl⟩)

theorem judged_of_found (reads : d.Reads line) (tells : d.Tells issue) :
    Judged line (.ok (some issue)) where
  passed := by
    constructor
    · rintro ⟨⟩
    · intro unqualified
      exact absurd tells.severity ((unqualified d reads).2 issue.severity)
  refused := by
    constructor
    · rintro ⟨reason, ⟨⟩⟩
    · rintro ⟨other, also, -, flawed⟩
      obtain rfl := reads.unique also
      exact absurd flawed tells.not_isFlawed
  found := by
    intro other
    constructor
    · rintro ⟨⟩
      exact ⟨d, reads, tells⟩
    · rintro ⟨also, same, tellsOther⟩
      obtain rfl := reads.unique same
      rw [tells.unique tellsOther]
  closed := .inr (.inl ⟨issue, rfl⟩)

end Judged

/-! ## Reading a line -/

variable {text : String} {d : Diagnostic}

theorem ofLine?_of_unread
    (unread : ∀ d : Diagnostic, ¬d.Reads (Text.dropEndWhile isLineEnd text.toList)) :
    ofLine? text = .ok none := by
  have none : Diagnostic.ofLine? (Text.dropEndWhile isLineEnd text.toList) = none := by
    apply Option.eq_none_iff_forall_not_mem.mpr
    intro d found
    exact unread d (reads_of_ofLine? found)
  simp only [ofLine?, none]

theorem ofLine?_of_reads (reads : d.Reads (Text.dropEndWhile isLineEnd text.toList)) :
    ofLine? text =
      if d.qualifies then
        (ofDiagnostic (.ofList (Text.dropEndWhile isLineEnd text.toList)) d).map some
      else .ok none := by
  simp only [ofLine?, reads.ofLine?]

theorem qualifies_iff :
    d.qualifies = true ↔ d.line ≠ none ∨ ∃ severity : Severity, severity.IsNamedBy d.word := by
  rw [Diagnostic.qualifies, Bool.or_eq_true, isKnown_iff, Option.isSome_iff_ne_none]
  exact or_comm

theorem judged_ofLine? (reads : d.Reads (Text.dropEndWhile isLineEnd text.toList))
    (short : d.IsShort) :
    Judged (Text.dropEndWhile isLineEnd text.toList) (ofLine? text) := by
  rw [ofLine?_of_reads reads]
  by_cases qualifies : d.qualifies = true
  · rw [if_pos qualifies]
    rcases ofDiagnostic_cases reads.word short with ⟨flawed, reason, fails⟩ | ⟨issue, found, tells⟩
    · rw [fails]
      refine judged_of_refused reads ?_ flawed
      -- without a line number only the word can qualify, and there is no number to be zero
      intro unnumbered
      have named := (qualifies_iff.mp qualifies).resolve_left (not_not.mpr unnumbered)
      rcases flawed with unnamed | ⟨digits, known, -⟩ | ⟨digits, known, -⟩
      · obtain ⟨severity, named⟩ := named
        exact unnamed severity named
      · rw [unnumbered] at known
        cases known
      · rw [reads.lineFirst unnumbered] at known
        cases known
    · rw [found]
      exact judged_of_found reads tells
  · rw [if_neg qualifies]
    apply judged_of_passed
    intro other also
    obtain rfl := reads.unique also
    simpa [qualifies_iff, not_or] using qualifies

/-- A line is passed over, refused or read by the parts it has, and it has them in at most one way.
Without a line number it is never refused. -/
theorem judged_reading (text : String) :
    let line := Text.dropEndWhile isLineEnd text.toList
    (∀ d other : Diagnostic, d.Reads line → other.Reads line → d = other) ∧
      ((∀ d : Diagnostic, d.Reads line → d.IsShort) → Judged line (ofLine? text)) ∧
      ((∀ d : Diagnostic, d.Reads line → d.line = none) → ∃ found, ofLine? text = .ok found) := by
  intro line
  refine ⟨fun d other reads also => reads.unique also, fun short => ?_, fun unnumbered => ?_⟩
  · by_cases readable : ∃ d : Diagnostic, d.Reads line
    · obtain ⟨d, reads⟩ := readable
      exact judged_ofLine? reads (short d reads)
    · have unread : ∀ d : Diagnostic, ¬d.Reads line := not_exists.mp readable
      rw [ofLine?_of_unread unread]
      exact judged_of_passed fun d reads => absurd reads (unread d)
  · by_cases readable : ∃ d : Diagnostic, d.Reads line
    · obtain ⟨d, reads⟩ := readable
      have noLine := unnumbered d reads
      have noColumn := reads.lineFirst noLine
      have judged := judged_ofLine? reads (by simp [IsShort, noLine, noColumn])
      rcases judged.closed with passed | ⟨issue, found⟩ | refused
      · exact ⟨none, passed⟩
      · exact ⟨some issue, found⟩
      · obtain ⟨other, also, numbered, -⟩ := judged.refused.mp refused
        exact absurd (unnumbered other also) numbered
    · exact ⟨none, ofLine?_of_unread (not_exists.mp readable)⟩

/-- Digits of another script, a word in mixed case and colons in the message. -/
theorem judged_reading_mixed :
    ofLine? "a.py:٣:5: Error: x: y  \r\n" =
      .ok (some ⟨"a.py", 3, 4, .error, "x: y", by decide, by decide⟩) := by
  let d : Diagnostic :=
    ⟨"a.py".toList, some ['٣'], some ['5'], "Error".toList, " x: y  ".toList⟩
  have read : Diagnostic.ofLine?
      (Text.dropEndWhile isLineEnd "a.py:٣:5: Error: x: y  \r\n".toList) = some d := by
    decide +kernel
  have reads := reads_of_ofLine? read
  have short : d.IsShort := by simp [d, IsShort]
  have judged := (judged_reading "a.py:٣:5: Error: x: y  \r\n").2.1 fun other also =>
    reads.unique also ▸ short
  refine (judged.found _).mpr ⟨d, reads, ?_⟩
  constructor <;> decide +kernel

end Issue

end CheckRouter
