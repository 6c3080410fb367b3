import CheckRouter.Proofs.Issue.Grammar
import CheckRouter.Proofs.Issue.Lines

/-!
# Outputs in parts

`Issue.ofOutput_joined` says that outputs joined by the end of a line have the issues of the one and
then those of the other, and that the way in which lines end does not matter. An end of line that is
cut in two, or made one of two, only adds or takes away a line without text.
-/

namespace CheckRouter

namespace Text

/-! ## Ends of lines -/

/-- The lines that hold some text. -/
def filled (lines : List (List Char)) : List (List Char) := lines.filter (!·.isEmpty)

section Breaks

variable {c : Char}

theorem filled_append (lines others : List (List Char)) :
    filled (lines ++ others) = filled lines ++ filled others :=
  List.filter_append ..

theorem filled_linesFrom_nil (line : List Char) :
    filled (linesFrom line []) = filled [line.reverse] := by
  cases line <;> simp [linesFrom, filled]

/-- A line feed behind a carriage return ends a line of its own as well, but one without text. -/
theorem filled_linesFrom_break (ends : isLineBreak c = true) (line rest : List Char) :
    filled (linesFrom line (c :: rest)) = filled [line.reverse] ++ filled (linesFrom [] rest) := by
  rw [← filled_append, List.singleton_append]
  by_cases fused : ∃ more, c = '\r' ∧ rest = '\n' :: more
  · obtain ⟨more, rfl, rfl⟩ := fused
    rw [linesFrom, linesFrom_newline]
    simp only [filled, List.filter_cons]
    rfl
  · rw [linesFrom, if_pos ends]
    rintro more rfl rfl
    exact fused ⟨more, rfl, rfl⟩

theorem filled_linesFrom_append (ends : isLineBreak c = true) (line before after : List Char) :
    filled (linesFrom line (before ++ c :: after)) =
      filled (linesFrom line before) ++ filled (linesFrom [] after) := by
  induction before generalizing line with
  | nil => rw [List.nil_append, filled_linesFrom_break ends, filled_linesFrom_nil]
  | cons first rest ih =>
    rw [List.cons_append]
    by_cases stops : isLineBreak first = true
    · rw [filled_linesFrom_break stops, filled_linesFrom_break stops, ih, List.append_assoc]
    · have inside : isLineBreak first = false := by simpa using stops
      rw [linesFrom_cons inside, linesFrom_cons inside, ih]

end Breaks

theorem linesFrom_unifyNewlines (line text : List Char) :
    linesFrom line (unifyNewlines text) = linesFrom line text := by
  fun_induction unifyNewlines text generalizing line with
  | case1 => rfl
  | case2 rest ih => rw [linesFrom_newline, linesFrom, ih]
  | case3 rest alone ih =>
    rw [linesFrom_newline, linesFrom, if_pos (by decide), ih]
    rintro more - rfl
    exact alone more rfl
  | case4 c rest _ other ih =>
    have kept (next : List Char) : linesFrom line (c :: next) =
        if isLineBreak c then line.reverse :: linesFrom [] next else linesFrom (c :: line) next := by
      rw [linesFrom]
      rintro more rfl
      exact absurd rfl other
    rw [kept, kept, ih, ih]

theorem lines_unifyNewlines (text : String) :
    lines (.ofList (unifyNewlines text.toList)) = lines text := by
  rw [lines, String.toList_ofList, linesFrom_unifyNewlines, lines]

end Text

namespace Issue

/-! ## Joined outputs -/

theorem ofLines_filled (lines : List (List Char)) :
    ofLines ((Text.filled lines).map .ofList) = ofLines (lines.map .ofList) := by
  induction lines with
  | nil => rfl
  | cons line rest ih =>
    cases line with
    | nil =>
      have blank : ofLine? (.ofList []) = .ok none := rfl
      rw [List.map_cons, ofLines_cons_of_ok blank, ← ih]
      cases outcome : ofLines ((Text.filled rest).map .ofList) <;>
        simpa [Text.filled, Except.map] using outcome
    | cons c more =>
      have kept : Text.filled ((c :: more) :: rest) = (c :: more) :: Text.filled rest := rfl
      rw [kept, List.map_cons, List.map_cons, ofLines, ofLines, ih]

theorem ofOutput_eq (output : String) :
    ofOutput output = ofLines ((Text.filled (Text.linesFrom [] output.toList)).map .ofList) := by
  rw [ofLines_filled]
  rfl

theorem ofOutput_append_break {c : Char} (ends : Text.isLineBreak c = true)
    (output other : String) :
    ofOutput (output ++ String.singleton c ++ other) = do
      let issues ← ofOutput output
      let more ← ofOutput other
      return issues ++ more := by
  have cut : (output ++ String.singleton c ++ other).toList =
      output.toList ++ c :: other.toList := by simp
  rw [ofOutput_eq, cut, Text.filled_linesFrom_append ends, List.map_append, ofLines_append,
    ← ofOutput_eq, ← ofOutput_eq]

/-- The second end of two that stand side by side has a line without text in front of it. -/
theorem ofOutput_break_append {c : Char} (ends : Text.isLineBreak c = true) (output : String) :
    ofOutput (String.singleton c ++ output) = ofOutput output := by
  have joined := ofOutput_append_break ends "" output
  have nothing : ofOutput "" = .ok [] := rfl
  rw [nothing, String.empty_append] at joined
  rw [joined]
  cases ofOutput output <;> rfl

/-- An output in two parts has the issues of both in order, or the first failure of the two. Lines
may end in any way. -/
theorem ofOutput_joined :
    (∀ output other separator : String, separator ∈ ["\n", "\r", "\r\n"] →
      ofOutput (output ++ separator ++ other) = do
        let issues ← ofOutput output
        let more ← ofOutput other
        return issues ++ more) ∧
    ∀ output : String,
      ofOutput (.ofList (Text.unifyNewlines output.toList)) = ofOutput output := by
  refine ⟨fun output other separator member => ?_, fun output => ?_⟩
  · have feed : Text.isLineBreak '\n' = true := by decide
    have carriage : Text.isLineBreak '\r' = true := by decide
    simp only [List.mem_cons, List.not_mem_nil, or_false] at member
    rcases member with rfl | rfl | rfl
    · exact ofOutput_append_break feed output other
    · exact ofOutput_append_break carriage output other
    · have pair : "\r\n" = String.singleton '\r' ++ String.singleton '\n' := by decide
      have both : output ++ "\r\n" ++ other =
          output ++ String.singleton '\r' ++ (String.singleton '\n' ++ other) := by
        rw [pair]
        simp only [String.append_assoc]
      rw [both, ofOutput_append_break carriage, ofOutput_break_append feed]
  · rw [ofOutput, Text.lines_unifyNewlines, ofOutput]

/-- Both halves of an end of line stand at a seam, and the failure is one of the second output. -/
theorem ofOutput_joined_seam :
    "\n" ∈ ["\n", "\r", "\r\n"] ∧
      ofOutput ("a.py:3: error: x\r" ++ "\n" ++ "\nb.py:0: note: y") =
        .error (.unreadableLine "invalid diagnostic position" (some "b.py:0: note: y")) := by
  have joined := ofOutput_joined.1 "a.py:3: error: x\r" "\nb.py:0: note: y" "\n" (by decide)
  exact ⟨by decide, joined.trans (by decide +kernel)⟩

end Issue

end CheckRouter
