import CheckRouter.Proofs.Issue.Lines

/-!
# Issues as they are asked for

`Source.Draws` says what any call for the next issue comes to and how far the source is read then:
to the line of the issue or of the first failure, and to the end only if nothing is left to find.
`Issue.Source.draws_lines` says that sources do so, and that the issues of an output are those that
calls on its lines give, or their failure.
-/

namespace CheckRouter.Issue

namespace Source

/-- The source after a number of calls. -/
def after (source : Source) : Nat → Source
  | 0 => source
  | calls + 1 => source.next.2.after calls

/-- What the next call comes to after a number of calls, and the source behind it. -/
def call (source : Source) (calls : Nat) : Except Failure (Option Issue) × Source :=
  (source.after calls).next

/-- What a call comes to, by the number of calls before it, on a source that has handed out `start`
lines and has some more. -/
inductive Draws (start : Nat) (lines : List String) (calls : Nat) :
    Except Failure (Option Issue) × Source → Prop
  | issue (front : List String) (line : String) (back : List String) (issue : Issue)
      (cut : lines = front ++ line :: back) (readable : Readable front)
      (earlier : (issuesOn front).length = calls) (found : ofLine? line = .ok (some issue)) :
      Draws start lines calls (.ok (some issue), ⟨back, start + (front.length + 1), false⟩)
  | failure (front : List String) (line : String) (back : List String) (failure : Failure)
      (cut : lines = front ++ line :: back) (readable : Readable front)
      (earlier : (issuesOn front).length = calls) (fails : ofLine? line = .error failure) :
      Draws start lines calls (.error failure, ⟨back, start + (front.length + 1), true⟩)
  | failed (front : List String) (line : String) (back : List String) (failure : Failure)
      (cut : lines = front ++ line :: back) (readable : Readable front)
      (earlier : (issuesOn front).length < calls) (fails : ofLine? line = .error failure) :
      Draws start lines calls (.ok none, ⟨back, start + (front.length + 1), true⟩)
  | exhausted (readable : Readable lines) (earlier : (issuesOn lines).length ≤ calls) :
      Draws start lines calls (.ok none, ⟨[], start + lines.length, true⟩)

/-! ## One line -/

section Line

variable {line : String} {start : Nat} {rest : List String}

theorem call_succ (source : Source) (calls : Nat) :
    source.call (calls + 1) = source.next.2.call calls := rfl

theorem next_unfinished (start : Nat) (lines : List String) :
    (⟨lines, start, false⟩ : Source).next = nextFrom start lines := rfl

theorem call_of_finished {source : Source} (finished : source.finished = true) (calls : Nat) :
    source.call calls = (.ok none, source) := by
  have ended : source.next = (.ok none, source) := by simp [next, finished]
  induction calls with
  | zero => exact ended
  | succ calls ih => rw [call_succ, ended, ih]

theorem call_nil (start calls : Nat) :
    (⟨[], start, false⟩ : Source).call calls = (.ok none, ⟨[], start, true⟩) := by
  cases calls with
  | zero => rfl
  | succ calls => exact call_of_finished rfl calls

/-- A line without an issue is read by the call that goes on behind it. -/
theorem call_of_passed (passed : ofLine? line = .ok none) (calls : Nat) :
    (⟨line :: rest, start, false⟩ : Source).call calls =
      (⟨rest, start + 1, false⟩ : Source).call calls := by
  have same : (⟨line :: rest, start, false⟩ : Source).next =
      (⟨rest, start + 1, false⟩ : Source).next := by
    rw [next_unfinished, next_unfinished, nextFrom, passed]
  cases calls with
  | zero => exact same
  | succ calls => rw [call_succ, call_succ, same]

theorem next_of_found {issue : Issue} (found : ofLine? line = .ok (some issue)) :
    (⟨line :: rest, start, false⟩ : Source).next =
      (.ok (some issue), ⟨rest, start + 1, false⟩) := by
  rw [next_unfinished, nextFrom, found]

theorem next_of_failed {failure : Failure} (fails : ofLine? line = .error failure) :
    (⟨line :: rest, start, false⟩ : Source).next = (.error failure, ⟨rest, start + 1, true⟩) := by
  rw [next_unfinished, nextFrom, fails]

end Line

/-! ## All lines -/

section Lines

variable {start calls : Nat} {lines : List String}
  {result : Except Failure (Option Issue) × Source}

/-- The calls for the issues on some lines read just these lines. -/
theorem call_append {front : List String} (readable : Readable front) (start : Nat)
    (rest : List String) (calls : Nat) :
    (⟨front ++ rest, start, false⟩ : Source).call ((issuesOn front).length + calls) =
      (⟨rest, start + front.length, false⟩ : Source).call calls := by
  induction front generalizing start with
  | nil => simp [issuesOn]
  | cons line more ih =>
    obtain ⟨⟨found, reads⟩, others⟩ := readable_cons.mp readable
    have moved : start + (line :: more).length = start + 1 + more.length := by
      rw [List.length_cons]
      omega
    rw [issuesOn_cons_of_ok reads, moved, ← ih others, List.cons_append]
    cases found with
    | none => exact call_of_passed reads _
    | some issue =>
      rw [Option.toList_some, List.singleton_append, List.length_cons, Nat.add_right_comm,
        call_succ, next_of_found reads]

theorem exists_issueLine (readable : Readable lines) (more : calls < (issuesOn lines).length) :
    ∃ front line back issue, lines = front ++ line :: back ∧ Readable front ∧
      (issuesOn front).length = calls ∧ ofLine? line = .ok (some issue) := by
  induction lines generalizing calls with
  | nil => simp [issuesOn] at more
  | cons line rest ih =>
    obtain ⟨⟨found, reads⟩, others⟩ := readable_cons.mp readable
    rw [issuesOn_cons_of_ok reads, List.length_append] at more
    by_cases here : calls < found.toList.length
    · cases found with
      | none => simp at here
      | some issue =>
        have first : calls = 0 := by simpa using here
        exact ⟨[], line, rest, issue, rfl, by simp [Readable], by simp [issuesOn, first], reads⟩
    · have later : calls - found.toList.length < (issuesOn rest).length := by omega
      obtain ⟨front, other, back, issue, rfl, before, earlier, there⟩ := ih others later
      refine ⟨line :: front, other, back, issue, rfl, readable_cons.mpr ⟨⟨found, reads⟩, before⟩, ?_,
        there⟩
      rw [issuesOn_cons_of_ok reads, List.length_append]
      omega

theorem exists_draws (start : Nat) (lines : List String) (calls : Nat) :
    ∃ result, Draws start lines calls result := by
  by_cases readable : Readable lines
  · rcases Nat.lt_or_ge calls (issuesOn lines).length with more | nothing
    · obtain ⟨front, line, back, issue, cut, before, earlier, found⟩ :=
        exists_issueLine readable more
      exact ⟨_, .issue front line back issue cut before earlier found⟩
    · exact ⟨_, .exhausted readable nothing⟩
  · obtain ⟨front, line, back, failure, cut, before, fails⟩ := exists_unread readable
    rcases Nat.lt_trichotomy calls (issuesOn front).length with more | here | past
    · obtain ⟨first, other, rest, issue, rfl, early, earlier, found⟩ :=
        exists_issueLine before more
      rw [List.append_assoc, List.cons_append] at cut
      exact ⟨_, .issue first other (rest ++ line :: back) issue cut early earlier found⟩
    · exact ⟨_, .failure front line back failure cut before here.symm fails⟩
    · exact ⟨_, .failed front line back failure cut before past fails⟩

theorem call_of_draws (draws : Draws start lines calls result) :
    (⟨lines, start, false⟩ : Source).call calls = result := by
  cases draws with
  | issue front line back issue cut readable earlier found =>
    have reached := call_append readable start (line :: back) 0
    rw [cut, ← earlier]
    exact reached.trans (next_of_found found)
  | failure front line back failure cut readable earlier fails =>
    have reached := call_append readable start (line :: back) 0
    rw [cut, ← earlier]
    exact reached.trans (next_of_failed fails)
  | failed front line back failure cut readable earlier fails =>
    obtain ⟨more, rfl⟩ := Nat.exists_eq_add_of_lt earlier
    rw [cut, Nat.add_assoc, call_append readable, call_succ, next_of_failed fails]
    exact call_of_finished rfl more
  | exhausted readable earlier =>
    obtain ⟨more, rfl⟩ := Nat.exists_eq_add_of_le earlier
    have reached := call_append readable start [] more
    rw [List.append_nil] at reached
    rw [reached, call_nil]

theorem call_iff_draws :
    (⟨lines, start, false⟩ : Source).call calls = result ↔ Draws start lines calls result := by
  constructor
  · rintro rfl
    obtain ⟨result, draws⟩ := exists_draws start lines calls
    rwa [call_of_draws draws]
  · exact call_of_draws

/-! ## Answers alone -/

theorem answer_of_readable (readable : Readable lines) (start calls : Nat) :
    ((⟨lines, start, false⟩ : Source).call calls).1 = .ok (issuesOn lines)[calls]? := by
  obtain ⟨result, draws⟩ := exists_draws start lines calls
  rw [call_of_draws draws]
  cases draws with
  | issue front line back issue cut before earlier found =>
    rw [cut, issuesOn_append, issuesOn_cons_of_ok found, ← earlier]
    simp
  | failure front line back failure cut before earlier fails =>
    obtain ⟨found, reads⟩ := readable line (by simp [cut])
    rw [reads] at fails
    cases fails
  | failed front line back failure cut before earlier fails =>
    obtain ⟨found, reads⟩ := readable line (by simp [cut])
    rw [reads] at fails
    cases fails
  | exhausted _ earlier => rw [List.getElem?_eq_none earlier]

theorem ofLines_eq_error_iff_answer {failure : Failure} (start : Nat) :
    ofLines lines = .error failure ↔
      ∃ calls, ((⟨lines, start, false⟩ : Source).call calls).1 = .error failure := by
  constructor
  · intro fails
    obtain ⟨front, line, back, cut, before, fails⟩ := ofLines_eq_error_iff.mp fails
    have draws : Draws start lines (issuesOn front).length _ :=
      .failure front line back failure cut before rfl fails
    exact ⟨_, congrArg Prod.fst (call_of_draws draws)⟩
  · rintro ⟨calls, answers⟩
    obtain ⟨result, draws⟩ := exists_draws start lines calls
    rw [call_of_draws draws] at answers
    cases draws with
    | failure front line back other cut before earlier fails =>
      cases answers
      exact ofLines_eq_error_iff.mpr ⟨front, line, back, cut, before, fails⟩
    | issue => cases answers
    | failed => cases answers
    | exhausted => cases answers

theorem ofLines_eq_ok_iff_answer {issues : List Issue} (start : Nat) :
    ofLines lines = .ok issues ↔
      ∀ calls, ((⟨lines, start, false⟩ : Source).call calls).1 = .ok issues[calls]? := by
  constructor
  · intro found calls
    obtain ⟨readable, rfl⟩ := ofLines_eq_ok_iff.mp found
    exact answer_of_readable readable start calls
  · intro answers
    cases outcome : ofLines lines with
    | error failure =>
      obtain ⟨calls, fails⟩ := (ofLines_eq_error_iff_answer start).mp outcome
      rw [answers calls] at fails
      cases fails
    | ok others =>
      obtain ⟨readable, rfl⟩ := ofLines_eq_ok_iff.mp outcome
      congr 1
      apply List.ext_getElem?
      intro calls
      have both := (answer_of_readable readable start calls).symm.trans (answers calls)
      exact Except.ok.inj both

end Lines

/-- Each call reads on to the next issue or failure and no further. The issues of an output are those
that the calls give in order; it fails as a call on its lines fails. -/
theorem draws_lines :
    (∀ start lines calls result,
      (⟨lines, start, false⟩ : Source).call calls = result ↔ Draws start lines calls result) ∧
    ∀ output : String,
      let answer calls := ((⟨Text.lines output, 0, false⟩ : Source).call calls).1
      (∀ issues, ofOutput output = .ok issues ↔ ∀ calls, answer calls = .ok issues[calls]?) ∧
      ∀ failure, ofOutput output = .error failure ↔ ∃ calls, answer calls = .error failure :=
  ⟨fun _ _ _ _ => call_iff_draws, fun _ => ⟨fun _ => ofLines_eq_ok_iff_answer 0,
    fun _ => ofLines_eq_error_iff_answer 0⟩⟩

end Source

end CheckRouter.Issue
