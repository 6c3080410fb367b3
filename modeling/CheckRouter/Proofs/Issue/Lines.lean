import CheckRouter.Issue.Line

/-!
# Lines one after another

Lines have issues together if each of them can be read, and then they have the issues of each in
order. Else they fail as the first of them that cannot be read.
-/

namespace CheckRouter

namespace Issue

def Readable (lines : List String) : Prop := ∀ line ∈ lines, ∃ found, ofLine? line = .ok found

/-- The issues on the lines that have one. -/
def issuesOn (lines : List String) : List Issue :=
  lines.filterMap fun line => (ofLine? line).toOption.join

variable {line : String} {lines : List String} {failure : Failure}

theorem readable_cons : Readable (line :: lines) ↔
    (∃ found, ofLine? line = .ok found) ∧ Readable lines :=
  List.forall_mem_cons

theorem ofLines_cons_of_error (fails : ofLine? line = .error failure) (rest : List String) :
    ofLines (line :: rest) = .error failure := by
  rw [ofLines, fails]
  rfl

theorem ofLines_cons_of_ok {found : Option Issue} (reads : ofLine? line = .ok found)
    (rest : List String) :
    ofLines (line :: rest) = (ofLines rest).map (found.toList ++ ·) := by
  rw [ofLines, reads]
  cases found <;> cases ofLines rest <;> rfl

theorem issuesOn_cons_of_ok {found : Option Issue} (reads : ofLine? line = .ok found)
    (rest : List String) : issuesOn (line :: rest) = found.toList ++ issuesOn rest := by
  rw [issuesOn, List.filterMap_cons, reads]
  cases found <;> rfl

theorem mem_issuesOn {issue : Issue} :
    issue ∈ issuesOn lines ↔ ∃ line ∈ lines, ofLine? line = .ok (some issue) := by
  rw [issuesOn, List.mem_filterMap]
  refine exists_congr fun line => and_congr_right fun _ => ?_
  cases ofLine? line <;> simp [Except.toOption]

theorem issuesOn_append (lines others : List String) :
    issuesOn (lines ++ others) = issuesOn lines ++ issuesOn others :=
  List.filterMap_append ..

theorem ofLines_append (lines others : List String) :
    ofLines (lines ++ others) = do
      let issues ← ofLines lines
      let more ← ofLines others
      return issues ++ more := by
  induction lines with
  | nil =>
    rw [List.nil_append, ofLines]
    cases ofLines others <;> rfl
  | cons line rest ih =>
    rw [List.cons_append]
    cases reads : ofLine? line with
    | error failure =>
      rw [ofLines_cons_of_error reads, ofLines_cons_of_error reads]
      rfl
    | ok found =>
      rw [ofLines_cons_of_ok reads, ofLines_cons_of_ok reads, ih]
      cases ofLines rest <;> cases ofLines others <;>
        simp [bind, Except.bind, Except.map, pure, Except.pure]

theorem ofLines_of_readable (readable : Readable lines) :
    ofLines lines = .ok (issuesOn lines) := by
  induction lines with
  | nil => rfl
  | cons line rest ih =>
    obtain ⟨⟨found, reads⟩, others⟩ := readable_cons.mp readable
    rw [ofLines_cons_of_ok reads, ih others, issuesOn_cons_of_ok reads]
    rfl

theorem exists_unread (unreadable : ¬Readable lines) : ∃ front line back failure,
    lines = front ++ line :: back ∧ Readable front ∧ ofLine? line = .error failure := by
  induction lines with
  | nil => exact absurd (by simp [Readable]) unreadable
  | cons line rest ih =>
    cases reads : ofLine? line with
    | error failure => exact ⟨[], line, rest, failure, rfl, by simp [Readable], reads⟩
    | ok found =>
      obtain ⟨front, bad, back, failure, rfl, readable, fails⟩ :=
        ih fun others => unreadable (readable_cons.mpr ⟨⟨found, reads⟩, others⟩)
      exact ⟨line :: front, bad, back, failure, rfl, readable_cons.mpr ⟨⟨found, reads⟩, readable⟩,
        fails⟩

theorem ofLines_of_unread {front back : List String} (readable : Readable front)
    (fails : ofLine? line = .error failure) : ofLines (front ++ line :: back) = .error failure := by
  rw [ofLines_append, ofLines_of_readable readable, ofLines_cons_of_error fails]
  rfl

theorem ofLines_eq_ok_iff {issues : List Issue} :
    ofLines lines = .ok issues ↔ Readable lines ∧ issues = issuesOn lines := by
  constructor
  · intro found
    by_cases readable : Readable lines
    · rw [ofLines_of_readable readable] at found
      exact ⟨readable, (Except.ok.inj found).symm⟩
    · obtain ⟨front, line, back, failure, rfl, before, fails⟩ := exists_unread readable
      rw [ofLines_of_unread before fails] at found
      cases found
  · rintro ⟨readable, rfl⟩
    exact ofLines_of_readable readable

theorem ofLines_eq_error_iff : ofLines lines = .error failure ↔ ∃ front line back,
    lines = front ++ line :: back ∧ Readable front ∧ ofLine? line = .error failure := by
  constructor
  · intro fails
    have unreadable : ¬Readable lines := by
      intro readable
      rw [ofLines_of_readable readable] at fails
      cases fails
    obtain ⟨front, line, back, other, rfl, readable, unread⟩ := exists_unread unreadable
    rw [ofLines_of_unread readable unread] at fails
    cases fails
    exact ⟨front, line, back, rfl, readable, unread⟩
  · rintro ⟨front, line, back, rfl, readable, fails⟩
    exact ofLines_of_unread readable fails

end Issue

end CheckRouter
