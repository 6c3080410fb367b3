import CheckRouter.Console.Wrap
import CheckRouter.Proofs.Text
import Mathlib.Data.List.Basic

/-!
# Texts that fit

A text without control characters that is no wider than a line is laid out as that one line.
-/

namespace CheckRouter

namespace Text

theorem width_le_of_sublist {text other : List Char} (part : text.Sublist other) :
    width text ≤ width other := by
  induction part with
  | slnil => exact Nat.le_refl _
  | cons c _ ih => exact Nat.le_trans ih (Nat.le_add_left _ _)
  | cons_cons c _ ih => exact Nat.add_le_add_left ih _

theorem width_reverse (text : List Char) : width text.reverse = width text := by
  induction text with
  | nil => rfl
  | cons c rest ih => simp [ih, Nat.add_comm]

theorem width_replicate (c : Char) (count : Nat) :
    width (List.replicate count c) = count * cellWidth c := by
  induction count with
  | zero => simp
  | succ count ih => rw [List.replicate_succ, width_cons, ih, Nat.succ_mul, Nat.add_comm]

theorem cellWidth_space : cellWidth ' ' = 1 := by decide +kernel

theorem dropEndWhile_sublist (p : Char → Bool) (text : List Char) :
    (dropEndWhile p text).Sublist text := by
  rw [← List.reverse_sublist, dropEndWhile, List.reverse_reverse]
  exact List.dropWhile_sublist p

theorem pieces_of_not_mem {separator : Char} {text : List Char} (absent : separator ∉ text) :
    pieces separator text = [text] := by
  induction text with
  | nil => rfl
  | cons c rest ih =>
    rw [List.mem_cons, not_or] at absent
    rw [pieces, if_neg fun same => absent.1 same.symm, ih absent.2]

end Text

namespace Console

/-- No control character is among some characters. -/
def Plain (text : List Char) : Prop := ∀ c ∈ text, ' ' ≤ c

/-- A line of so many cells has room for a text, and does not lose blanks at its end. -/
structure Holds (limit : Nat) (text : List Char) : Prop where
  fits : Text.width text ≤ limit
  whole : trimExcess limit text = text

variable {text line : List Char} {limit : Nat}

section Plain

theorem not_isTerminalControl {c : Char} (visible : ' ' ≤ c) : isTerminalControl c = false := by
  have code : 32 ≤ c.toNat := visible
  simp only [isTerminalControl, Bool.or_eq_false_iff, decide_eq_false_iff_not]
  omega

theorem dropControls_eq_self (plain : Plain text) : dropControls text = text := by
  refine List.filter_eq_self.mpr fun c member => ?_
  rw [not_isTerminalControl (plain c member)]
  rfl

theorem expandTabs_eq_self (plain : Plain text) (column : Nat) : expandTabs column text = text := by
  induction text generalizing column with
  | nil => rfl
  | cons c rest ih =>
    obtain ⟨visible, plain⟩ := List.forall_mem_cons.mp plain
    have other : c ≠ '\t' := by
      rintro rfl
      exact absurd visible (by decide)
    rw [expandTabs, if_neg other, ih plain]

end Plain

/-! ## Lines -/

theorem width_wordsFrom_le (word : List Char) (inside closed : Bool) (line : List Char) :
    Text.width (wordsFrom word inside closed line).flatten ≤ Text.width word + Text.width line := by
  induction line generalizing word inside closed with
  | nil =>
    cases inside with
    | false => simp [wordsFrom]
    | true => simp [wordsFrom, Text.width_reverse]
  | cons c rest ih =>
    rw [wordsFrom, Text.width_cons]
    split
    · have later := ih (c :: word) inside inside
      rw [Text.width_cons] at later
      omega
    · split
      · have later := ih [c] true false
        rw [List.flatten_cons, Text.width_append, Text.width_reverse]
        rw [Text.width_cons, Text.width_nil] at later
        omega
      · have later := ih (c :: word) true false
        rw [Text.width_cons] at later
        omega

theorem breaksFrom_eq_nil (fold : Bool) (place : Nat) {used : Nat} {words : List (List Char)}
    (fits : used + Text.width words.flatten ≤ limit) :
    breaksFrom fold limit place used words = [] := by
  induction words generalizing place used with
  | nil => rfl
  | cons word rest ih =>
    rw [List.flatten_cons, Text.width_append] at fits
    have less := Text.width_le_of_sublist (Text.dropEndWhile_sublist Text.isBlank word)
    rw [breaksFrom, if_pos (by omega)]
    exact ih _ (by omega)

theorem wrapLine_of_holds (overflow : Overflow) (plain : Plain line) (holds : Holds limit line) :
    wrapLine overflow limit line = [line] := by
  have unbroken : breaksFrom (overflow = .fold) limit 0 0 (words line) = [] := by
    refine breaksFrom_eq_nil _ 0 ?_
    have := width_wordsFrom_le [] false false line
    have := holds.fits
    rw [Text.width_nil] at *
    unfold words
    omega
  unfold wrapLine
  rw [expandTabs_eq_self plain]
  simp only [unbroken, cutAt, List.map_cons, List.map_nil, holds.whole, truncate, holds.fits,
    if_true]

theorem wrap_of_holds (overflow : Overflow) (plain : Plain text) (holds : Holds limit text) :
    wrap overflow limit text = [text] := by
  have unbroken : '\n' ∉ text := fun member => absurd (plain _ member) (by decide)
  rw [wrap, Text.pieces_of_not_mem unbroken, List.flatMap_singleton]
  exact wrapLine_of_holds overflow plain holds

theorem paragraphs_of_holds {text : String} (room : 0 < limit) (plain : Plain text.toList)
    (holds : Holds limit text.toList) : paragraphs limit text = [text] := by
  rw [paragraphs, if_neg (Nat.ne_of_gt room), dropControls_eq_self plain,
    wrap_of_holds .fold plain holds]
  simp

theorem fit_of_le (room : 0 < limit) (fits : Text.width line ≤ limit) :
    fit limit line = line ++ List.replicate (limit - Text.width line) ' ' := by
  simp [fit, Nat.ne_of_gt room, fits]

/-! ## Solid texts -/

/-- No line ends in a text, and none of its characters is without a cell. -/
def Solid (text : List Char) : Prop :=
  ∀ c ∈ text, Text.isLineBreak c = false ∧ 0 < Text.cellWidth c

theorem Solid.unbroken (solid : Solid text) : Text.Unbroken text :=
  fun c member => (solid c member).1

theorem Solid.length_le (solid : Solid text) : text.length ≤ Text.width text := by
  induction text with
  | nil => exact Nat.le_refl _
  | cons c rest ih =>
    obtain ⟨here, solid⟩ := List.forall_mem_cons.mp solid
    have one := here.2
    have later := ih solid
    rw [List.length_cons, Text.width_cons]
    omega

theorem Solid.holds (solid : Solid text) (fits : Text.width text ≤ limit) : Holds limit text where
  fits := fits
  whole := by
    have short := solid.length_le
    rw [trimExcess, Nat.sub_eq_zero_of_le (Nat.le_trans short fits)]
    simp

/-- The printable characters of ASCII. -/
def Simple (c : Char) : Prop := ' ' ≤ c ∧ c ≤ '~'

theorem Simple.cellWidth {c : Char} (simple : Simple c) : Text.cellWidth c = 1 := by
  have low : 32 ≤ c.toNat := simple.1
  have high : c.toNat ≤ 126 := simple.2
  have outside (runs : List (Nat × Nat))
      (far : runs.all (fun run => decide (run.2 < 32 ∨ 126 < run.1)) = true) :
      runs.any (fun run => run.1 ≤ c.toNat && c.toNat ≤ run.2) = false := by
    rw [List.any_eq_false]
    intro run member
    have apart := of_decide_eq_true (List.all_eq_true.mp far run member)
    simp only [Bool.and_eq_true, decide_eq_true_eq]
    omega
  unfold Text.cellWidth
  dsimp only
  rw [outside _ (by decide +kernel), outside _ (by decide +kernel)]
  rfl

theorem width_of_simple (simple : ∀ c ∈ text, Simple c) : Text.width text = text.length := by
  induction text with
  | nil => rfl
  | cons c rest ih =>
    obtain ⟨here, simple⟩ := List.forall_mem_cons.mp simple
    rw [Text.width_cons, here.cellWidth, ih simple, List.length_cons, Nat.add_comm]

theorem Simple.solid {c : Char} (simple : Simple c) :
    Text.isLineBreak c = false ∧ 0 < Text.cellWidth c := by
  have low : 32 ≤ c.toNat := simple.1
  have high : c.toNat ≤ 126 := simple.2
  refine ⟨?_, by rw [simple.cellWidth]; decide⟩
  simp only [Text.isLineBreak, Bool.or_eq_false_iff, Bool.and_eq_false_iff, decide_eq_false_iff_not,
    beq_eq_false_iff_ne]
  omega

end Console

end CheckRouter
