import CheckRouter.Proofs.Toml.Readers

/-!
# What a project file comes to

A document that is not read is malformed, or it has a number with too many digits, or values stand
inside each other too many times. The last two can be told from the characters of the document.
-/

namespace CheckRouter.Toml

/-! ## Values -/

section Values

variable (room : Nat) (text : List Char)

theorem reads_simpleValue : Reads Prod.snd room text (simpleValue text) := by
  unfold simpleValue
  split
  · exact (reads_text room _).map fun _ => rfl
  · exact (reads_text room _).map fun _ => rfl
  · next rest => exact List.suffix_append ['t', 'r', 'u', 'e'] rest
  · next rest => exact List.suffix_append ['f', 'a', 'l', 's', 'e'] rest
  · split
    · next found => exact reads_moment _ room found
    · split
      · next found => exact reads_number _ room found
      · exact reads_fault _ _

end Values

/-! ## Values inside each other -/

section Inside

variable {α : Type} {left : α → List Char} {room depth : Nat} {c : Char} {text : List Char}

theorem openers_cons (opener : isOpener c = true) : openers (c :: text) = openers text + 1 :=
  List.countP_cons_of_pos opener

/-- A bracket explains why the room behind it is short by what the bracket takes. -/
theorem explains_nested (small : depth ≤ inlineTableDepth) (opener : isOpener c = true)
    (short : room < depth + inlineTableDepth * openers text) :
    Explains room (c :: text) .nested := by
  have many : room < inlineTableDepth * openers (c :: text) := by
    rw [openers_cons opener, Nat.mul_add]
    omega
  exact many

theorem reads_nested (small : depth ≤ inlineTableDepth) (opener : isOpener c = true)
    (full : room < depth) : Reads left room (c :: text) (.error .nested) :=
  explains_nested small opener (Nat.lt_add_right _ full)

theorem Reads.inside {outcome : Except Fault α} (small : depth ≤ inlineTableDepth)
    (opener : isOpener c = true) (reads : Reads left (room - depth) text outcome) :
    Reads left room (c :: text) outcome := by
  rcases outcome with (⟨reason, behind⟩ | digits | _) | value
  · trivial
  · have explains : Explains room text (.oversized digits) := reads
    exact explains.of_suffix (List.suffix_cons c text)
  · have few : room - depth < inlineTableDepth * openers text := reads
    exact explains_nested small opener (by omega)
  · exact List.IsSuffix.trans reads (List.suffix_cons c text)

theorem reads_mapError (outcome : Except Reason α) (behind : Nat) :
    Reads (fun _ => []) room text (outcome.mapError (.malformed · behind)) := by
  cases outcome with
  | ok value => exact List.nil_suffix
  | error reason => trivial

end Inside

/-- Readers of values with some fuel leave the end of their text or fail for a cause in it. -/
structure ValuesRead (fuel : Nat) : Prop where
  value : ∀ room text, Reads Prod.snd room text (valueWithin fuel room text)
  items : ∀ room text, Reads Prod.snd room text (itemsWithin fuel room text)
  fields : ∀ room marks entries text,
    Reads Prod.snd room text (fieldsWithin fuel room marks entries text)
  pair : ∀ room text, Reads (fun read => read.2.2) room text (pairWithin fuel room text)

theorem valuesRead_zero : ValuesRead 0 := by
  constructor
  all_goals
    intros
    simp only [valueWithin, itemsWithin, fieldsWithin, pairWithin]
    exact reads_fault _ _

section Step

variable {fuel : Nat} (read : ValuesRead fuel) (room : Nat)

include read

theorem ValuesRead.array (rest : List Char) :
    Reads Prod.snd room ('[' :: rest) (valueWithin (fuel + 1) room ('[' :: rest)) := by
  have opener : isOpener '[' = true := by decide
  have small : arrayDepth ≤ inlineTableDepth := by decide
  rw [valueWithin]
  split
  · next full => exact reads_nested small opener full
  · refine Reads.inside small opener ?_
    refine (reads_skipLayout (room - arrayDepth) rest false).bind ?_
    intro behind suffix
    split
    · next rest => exact (List.suffix_cons ']' rest).trans suffix
    · refine ((read.items (room - arrayDepth) _).of_suffix suffix).bind ?_
      rintro ⟨items, left⟩ suffix
      exact suffix

theorem ValuesRead.inlineTable (rest : List Char) :
    Reads Prod.snd room ('\x7b' :: rest) (valueWithin (fuel + 1) room ('\x7b' :: rest)) := by
  have opener : isOpener '\x7b' = true := by decide
  have behind := skipSpace_suffix rest
  rw [valueWithin]
  split
  · next full => exact reads_nested le_rfl opener full
  · refine Reads.inside (le_refl inlineTableDepth) opener ?_
    dsimp only
    split
    · next rest closed =>
      rw [closed] at behind
      exact (List.suffix_cons '\x7d' rest).trans behind
    · refine ((read.fields (room - inlineTableDepth) [] [] _).of_suffix behind).bind ?_
      rintro ⟨entries, left⟩ suffix
      exact suffix

theorem ValuesRead.value_succ (text : List Char) :
    Reads Prod.snd room text (valueWithin (fuel + 1) room text) := by
  by_cases array : ∃ rest, text = '[' :: rest
  · obtain ⟨rest, rfl⟩ := array
    exact read.array room rest
  by_cases table : ∃ rest, text = '\x7b' :: rest
  · obtain ⟨rest, rfl⟩ := table
    exact read.inlineTable room rest
  rw [valueWithin]
  · exact reads_simpleValue room text
  · exact fun rest same => array ⟨rest, same⟩
  · exact fun rest same => table ⟨rest, same⟩

theorem ValuesRead.items_succ (text : List Char) :
    Reads Prod.snd room text (itemsWithin (fuel + 1) room text) := by
  rw [itemsWithin]
  refine (read.value room text).bind ?_
  rintro ⟨item, left⟩ suffix
  refine ((reads_skipLayout room left false).of_suffix suffix).bind ?_
  intro behind suffix
  split
  · next rest => exact (List.suffix_cons ']' rest).trans suffix
  · next rest =>
    refine ((reads_skipLayout room rest false).of_suffix
      ((List.suffix_cons ',' rest).trans suffix)).bind ?_
    intro behind suffix
    split
    · next rest => exact (List.suffix_cons ']' rest).trans suffix
    · refine ((read.items room _).of_suffix suffix).bind ?_
      rintro ⟨items, left⟩ suffix
      exact suffix
  · exact reads_fault _ _

theorem ValuesRead.fields_succ (marks : Marks) (entries : Entries) (text : List Char) :
    Reads Prod.snd room text (fieldsWithin (fuel + 1) room marks entries text) := by
  rw [fieldsWithin]
  refine (read.pair room text).bind ?_
  rintro ⟨key, value, left⟩ suffix
  refine (reads_mapError _ _).bind fun entries _ => ?_
  have behind : skipSpace left <:+ text := (skipSpace_suffix left).trans suffix
  dsimp only
  split
  · next rest closed =>
    rw [closed] at behind
    exact (List.suffix_cons '\x7d' rest).trans behind
  · next rest goesOn =>
    rw [goesOn] at behind
    exact (read.fields room _ entries _).of_suffix
      ((skipSpace_suffix rest).trans ((List.suffix_cons ',' rest).trans behind))
  · exact reads_fault _ _

theorem ValuesRead.pair_succ (text : List Char) :
    Reads (fun read => read.2.2) room text (pairWithin (fuel + 1) room text) := by
  rw [pairWithin]
  refine (reads_key room text).bind ?_
  rintro ⟨key, left⟩ suffix
  dsimp only
  split
  · next rest =>
    have behind : skipSpace rest <:+ text :=
      (skipSpace_suffix rest).trans ((List.suffix_cons '=' rest).trans suffix)
    refine ((read.value room _).of_suffix behind).bind ?_
    rintro ⟨value, left⟩ suffix
    exact suffix
  · exact reads_fault _ _

end Step

theorem valuesRead (fuel : Nat) : ValuesRead fuel := by
  induction fuel with
  | zero => exact valuesRead_zero
  | succ fuel ih =>
    exact ⟨ih.value_succ, ih.items_succ, ih.fields_succ, ih.pair_succ⟩

/-! ## Statements -/

theorem reads_statement (room : Nat) (document : Document) (text : List Char) :
    Reads Prod.snd room text (document.statement room text) := by
  unfold Document.statement
  split
  · next rest =>
    have behind : skipSpace rest <:+ '[' :: '[' :: rest :=
      (skipSpace_suffix rest).trans (List.suffix_append ['[', '['] rest)
    refine ((reads_key _ _).of_suffix behind).bind ?_
    rintro ⟨key, left⟩ suffix
    refine (reads_mapError _ _).bind fun document _ => ?_
    split
    · next rest =>
      have closed := (List.suffix_append [']', ']'] rest).trans suffix
      exact (skipSpace_suffix rest).trans closed
    · exact reads_fault _ _
  · next rest _ =>
    have behind : skipSpace rest <:+ '[' :: rest :=
      (skipSpace_suffix rest).trans (List.suffix_cons '[' rest)
    refine ((reads_key _ _).of_suffix behind).bind ?_
    rintro ⟨key, left⟩ suffix
    refine (reads_mapError _ _).bind fun document _ => ?_
    split
    · next rest => exact (skipSpace_suffix rest).trans ((List.suffix_cons ']' rest).trans suffix)
    · exact reads_fault _ _
  · exact List.suffix_refl _
  · split
    · exact reads_fault _ _
    · refine ((valuesRead _).pair room text).bind ?_
      rintro ⟨key, value, left⟩ suffix
      refine (reads_mapError _ _).bind fun document _ => ?_
      exact (skipSpace_suffix left).trans suffix

theorem reads_readWithin (room fuel : Nat) (document : Document) (text : List Char) :
    Reads (fun _ => []) room text (document.readWithin room fuel text) := by
  induction fuel generalizing document text with
  | zero => exact List.nil_suffix
  | succ fuel ih =>
    have behind := skipSpace_suffix text
    unfold Document.readWithin
    split
    · exact List.nil_suffix
    · next rest blank =>
      rw [blank] at behind
      exact (ih document rest).of_suffix ((List.suffix_cons '\n' rest).trans behind)
    · refine ((reads_statement room document _).of_suffix behind).bind ?_
      rintro ⟨document, left⟩ suffix
      refine ((reads_skipComment _ left).of_suffix suffix).bind ?_
      intro rest suffix
      split
      · exact List.nil_suffix
      · next rest => exact (ih document rest).of_suffix ((List.suffix_cons '\n' rest).trans suffix)
      · exact reads_fault _ _

/-! ## Line ends -/

theorem openers_joinLineEnds (text : List Char) : openers (joinLineEnds text) = openers text := by
  have plain : isOpener '\r' = false := by decide
  unfold openers
  fun_induction joinLineEnds text with
  | case1 => rfl
  | case2 rest ih => simp [List.countP_cons, plain, ih]
  | case3 c rest _ ih => simp [List.countP_cons, ih]

theorem prefix_of_joinLineEnds {part text : List Char} (solid : '\n' ∉ part)
    (front : part <+: joinLineEnds text) : part <+: text := by
  fun_induction joinLineEnds text generalizing part with
  | case1 => exact front
  | case2 rest ih =>
    cases part with
    | nil => exact List.nil_prefix
    | cons c part =>
      obtain ⟨rfl, -⟩ := List.cons_prefix_cons.mp front
      exact absurd List.mem_cons_self solid
  | case3 c rest _ ih =>
    cases part with
    | nil => exact List.nil_prefix
    | cons d part =>
      obtain ⟨rfl, behind⟩ := List.cons_prefix_cons.mp front
      exact List.cons_prefix_cons.mpr ⟨rfl, ih (List.not_mem_of_not_mem_cons solid) behind⟩

/-- What stands on one line of the joined text stands in the original. -/
theorem infix_of_joinLineEnds {part text : List Char} (solid : '\n' ∉ part)
    (inside : part <:+: joinLineEnds text) : part <:+: text := by
  fun_induction joinLineEnds text with
  | case1 => exact inside
  | case2 rest ih =>
    rcases List.infix_cons_iff.mp inside with front | later
    · have front : part <+: joinLineEnds ('\r' :: '\n' :: rest) := front
      exact (prefix_of_joinLineEnds solid front).isInfix
    · exact (ih later).trans (List.suffix_append ['\r', '\n'] rest).isInfix
  | case3 c rest apart ih =>
    rcases List.infix_cons_iff.mp inside with front | later
    · rw [← joinLineEnds.eq_3 c rest apart] at front
      exact (prefix_of_joinLineEnds solid front).isInfix
    · exact (ih later).trans (List.suffix_cons c rest).isInfix

theorem Explains.of_joinLineEnds {room : Nat} {text : List Char} {fault : Fault}
    (explains : Explains room (joinLineEnds text) fault) : Explains room text fault := by
  cases fault with
  | malformed reason left => trivial
  | oversized digits =>
    obtain ⟨long, stretch, inside, kinds, many⟩ := explains
    have solid : '\n' ∉ stretch := fun member => absurd (kinds '\n' member) (by decide)
    exact ⟨long, stretch, infix_of_joinLineEnds solid inside, kinds, many⟩
  | nested =>
    have same := openers_joinLineEnds text
    have few : room < inlineTableDepth * openers (joinLineEnds text) := explains
    rw [same] at few
    exact few

/-- A document that is not read explains why. -/
theorem explains_of_parse {room : Nat} {source : String} {fault : Fault}
    (fails : parse room source = .error fault) : Explains room source.toList fault := by
  have read := reads_readWithin room ((joinLineEnds source.toList).length + 1) {}
    (joinLineEnds source.toList)
  simp only [parse] at fails
  generalize Document.readWithin _ _ _ _ = outcome at fails read
  cases outcome with
  | ok document => cases fails
  | error reason =>
    cases fails
    exact Explains.of_joinLineEnds read

end CheckRouter.Toml
