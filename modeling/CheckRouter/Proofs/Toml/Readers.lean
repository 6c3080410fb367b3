import CheckRouter.Toml.Document
import Mathlib.Data.List.Infix

/-!
# What readers of a project file leave

A reader leaves the end of the text that it was given. It fails where the text cannot go on, and for
two more causes that can be seen in the text: a number has too many digits, or values stand inside
each other too many times.
-/

namespace CheckRouter.Toml

variable {α β : Type}

/-- A text has a stretch of digits and underscores with so many digits in it. -/
def HasStretch (digits : Nat) (text : List Char) : Prop :=
  ∃ stretch, stretch <:+: text ∧ (∀ c ∈ stretch, c.isDigit = true ∨ c = '_') ∧
    stretch.countP Char.isDigit = digits

def isOpener (c : Char) : Bool := c = '[' || c = '\x7b'

def openers (text : List Char) : Nat := text.countP isOpener

/-- A text explains a fault of a reader that has some room for values inside each other. -/
def Explains (room : Nat) (text : List Char) : Fault → Prop
  | .malformed .. => True
  | .oversized digits => 4300 < digits ∧ HasStretch digits text
  | .nested => room < inlineTableDepth * openers text

/-- A reader leaves the end of its text, or fails for a cause that its text explains. -/
def Reads (left : α → List Char) (room : Nat) (text : List Char) : Except Fault α → Prop
  | .ok value => left value <:+ text
  | .error fault => Explains room text fault

section Reads

variable {left : α → List Char} {leftToo : β → List Char} {room : Nat} {text rest : List Char}

theorem Explains.of_suffix {fault : Fault} (explains : Explains room rest fault)
    (suffix : rest <:+ text) : Explains room text fault := by
  cases fault with
  | malformed reason left => trivial
  | oversized digits =>
    obtain ⟨long, stretch, inside, kinds, many⟩ := explains
    exact ⟨long, stretch, inside.trans suffix.isInfix, kinds, many⟩
  | nested =>
    have fewer : openers rest ≤ openers text := suffix.sublist.countP_le
    exact lt_of_lt_of_le explains (Nat.mul_le_mul_left _ fewer)

theorem Reads.of_suffix {outcome : Except Fault α} (reads : Reads left room rest outcome)
    (suffix : rest <:+ text) : Reads left room text outcome := by
  cases outcome with
  | ok value => exact List.IsSuffix.trans reads suffix
  | error fault => exact Explains.of_suffix reads suffix

theorem reads_fault (reason : Reason) (behind : List Char) :
    Reads left room text (fault reason behind) := trivial

theorem Reads.bind {outcome : Except Fault α} {next : α → Except Fault β}
    (first : Reads left room text outcome)
    (second : ∀ value, left value <:+ text → Reads leftToo room text (next value)) :
    Reads leftToo room text (outcome >>= next) := by
  cases outcome with
  | ok value => exact second value first
  | error fault => exact first

theorem Reads.map {outcome : Except Fault α} {f : α → β} (reads : Reads left room text outcome)
    (same : ∀ value, leftToo (f value) = left value) :
    Reads leftToo room text (outcome.map f) := by
  cases outcome with
  | ok value =>
    have suffix : leftToo (f value) <:+ text := by
      rw [same value]
      exact reads
    exact suffix
  | error fault => exact reads

end Reads

/-! ## Tokens -/

section Tokens

variable (room : Nat) (text : List Char)

theorem skipSpace_suffix : skipSpace text <:+ text := List.dropWhile_suffix _

theorem reads_checkContent (forbidden : Char → Bool) (behind content : List Char) :
    Reads (fun _ => []) room text (checkContent forbidden behind content) := by
  induction content with
  | nil => exact List.nil_suffix
  | cons c rest ih =>
    rw [checkContent]
    split
    · exact reads_fault _ _
    · exact ih

theorem reads_skipComment : Reads id room text (skipComment text) := by
  unfold skipComment
  split
  · next rest =>
    refine (reads_checkContent room _ _ _ _).bind fun _ _ => ?_
    exact (List.dropWhile_suffix _).trans (List.suffix_cons _ _)
  · exact List.suffix_refl text

theorem reads_skipLayout (inComment : Bool) : Reads id room text (skipLayout inComment text) := by
  induction text generalizing inComment with
  | nil => exact List.suffix_refl _
  | cons c rest ih =>
    have goesOn (inComment : Bool) : Reads id room (c :: rest) (skipLayout inComment rest) :=
      (ih inComment).of_suffix (List.suffix_cons c rest)
    unfold skipLayout
    split
    · split
      · exact goesOn false
      · split
        · exact reads_fault _ _
        · exact goesOn true
    · split
      · exact goesOn true
      · split
        · exact goesOn false
        · exact List.suffix_refl _

theorem reads_literal : Reads Prod.snd room text (literal text) := by
  unfold literal
  dsimp only
  split
  · next quote rest found =>
    refine (reads_checkContent room _ _ _ _).bind fun _ _ => ?_
    have suffix : quote :: rest <:+ text := found ▸ List.dropWhile_suffix _
    exact (List.suffix_cons quote rest).trans suffix
  · exact reads_fault _ _

theorem splitAtQuotes_suffix {before content rest : List Char}
    (found : splitAtQuotes before text = some (content, rest)) : rest <:+ text := by
  fun_induction splitAtQuotes before text with
  | case1 => cases found
  | case2 before behind =>
    cases found
    exact List.suffix_append ['\'', '\'', '\''] rest
  | case3 before c behind apart ih => exact (ih found).trans (List.suffix_cons c behind)

theorem reads_longLiteral : Reads Prod.snd room text (longLiteral text) := by
  unfold longLiteral
  split
  · next content rest found =>
    refine (reads_checkContent room _ _ _ _).bind fun _ _ => ?_
    exact splitAtQuotes_suffix text found
  · exact reads_fault _ _

theorem reads_quotedFrom (long : Bool) (context : Context) (content : List Char) :
    Reads Prod.snd room text (quotedFrom long context content text) := by
  fun_induction quotedFrom long context content text with
  | case1 context => cases context <;> trivial
  | case8 => trivial
  | case17 => exact List.suffix_cons _ _
  | case18 => exact List.suffix_append ['"', '"', '"'] _
  -- every other case fails where the text cannot go on, or goes on behind the next character
  | _ => first | exact reads_fault _ _ | exact Reads.of_suffix ‹_› (List.suffix_cons _ _)

theorem trailingQuotes_suffix (quote : Char) (content : List Char) :
    (trailingQuotes quote content text).2 <:+ text := by
  unfold trailingQuotes
  split
  · next c d rest =>
    split
    · split
      · exact List.suffix_append [c, d] rest
      · exact List.suffix_cons c (d :: rest)
    · exact List.suffix_refl _
  · split
    · exact List.nil_suffix
    · exact List.suffix_refl _
  · exact List.suffix_refl _

theorem dropFirstLineFeed_suffix : dropFirstLineFeed text <:+ text := by
  unfold dropFirstLineFeed
  split
  · exact List.suffix_cons _ _
  · exact List.suffix_refl _

theorem reads_text : Reads Prod.snd room text (Toml.text text) := by
  unfold Toml.text
  split
  · next rest =>
    have behind : dropFirstLineFeed rest <:+ '"' :: '"' :: '"' :: rest :=
      (dropFirstLineFeed_suffix rest).trans (List.suffix_append ['"', '"', '"'] rest)
    refine ((reads_quotedFrom room _ true .plain []).of_suffix behind).bind ?_
    rintro ⟨content, left⟩ suffix
    exact (trailingQuotes_suffix left '"' content).trans suffix
  · next rest =>
    have behind : dropFirstLineFeed rest <:+ '\'' :: '\'' :: '\'' :: rest :=
      (dropFirstLineFeed_suffix rest).trans (List.suffix_append ['\'', '\'', '\''] rest)
    refine ((reads_longLiteral room _).of_suffix behind).bind ?_
    rintro ⟨content, left⟩ suffix
    exact (trailingQuotes_suffix left '\'' content).trans suffix
  · next rest _ =>
    exact (reads_quotedFrom room rest false .plain []).of_suffix (List.suffix_cons _ _)
  · next rest _ => exact (reads_literal room rest).of_suffix (List.suffix_cons _ _)
  · exact reads_fault _ _

theorem reads_keyPart : Reads Prod.snd room text (keyPart text) := by
  unfold keyPart
  split
  · next rest =>
    refine ((reads_quotedFrom room rest false .plain []).of_suffix (List.suffix_cons _ _)).bind ?_
    rintro ⟨content, left⟩ suffix
    exact suffix
  · next rest =>
    refine ((reads_literal room rest).of_suffix (List.suffix_cons _ _)).bind ?_
    rintro ⟨content, left⟩ suffix
    exact suffix
  · dsimp only
    split
    · exact reads_fault _ _
    · exact List.dropWhile_suffix _

theorem reads_keyWithin (fuel : Nat) : Reads Prod.snd room text (keyWithin fuel text) := by
  induction fuel generalizing text with
  | zero => exact reads_fault _ _
  | succ fuel ih =>
    unfold keyWithin
    refine (reads_keyPart room text).bind ?_
    rintro ⟨part, left⟩ suffix
    dsimp only
    split
    · next rest dotted =>
      have dot : '.' :: rest <:+ left := dotted ▸ skipSpace_suffix left
      have behind : skipSpace rest <:+ text :=
        (skipSpace_suffix rest).trans ((List.suffix_cons _ _).trans (dot.trans suffix))
      refine ((ih (skipSpace rest)).of_suffix behind).bind ?_
      rintro ⟨parts, last⟩ suffix
      exact suffix
    · next rest _ => exact (skipSpace_suffix left).trans suffix

theorem reads_key : Reads Prod.snd room text (key text) := reads_keyWithin room text _

end Tokens

/-! ## Numbers -/

section Numbers

variable (text : List Char)

theorem digitRun_suffix (isDigit : Char → Bool) : (digitRun isDigit text).2 <:+ text := by
  fun_induction digitRun isDigit text with
  | case1 => exact List.suffix_refl _
  | case2 => exact List.suffix_refl _
  | case3 c d rest _ _ digits behind run ih =>
    rw [run] at ih
    exact ih.trans (List.suffix_append [c, '_'] (d :: rest))
  | case4 c d rest => exact List.suffix_cons c ('_' :: d :: rest)
  | case5 c rest _ _ digits behind run ih =>
    rw [run] at ih
    exact ih.trans (List.suffix_cons c rest)
  | case6 => exact List.suffix_refl _

/-- The digits of a run stand in the text that it is read from. -/
theorem exists_stretch : ∃ stretch, text = stretch ++ (digitRun Char.isDigit text).2 ∧
    (∀ c ∈ stretch, c.isDigit = true ∨ c = '_') ∧
    stretch.countP Char.isDigit = (digitRun Char.isDigit text).1.length := by
  have mark : Char.isDigit '_' = false := by decide
  fun_induction digitRun Char.isDigit text with
  | case1 => exact ⟨[], rfl, by simp, rfl⟩
  | case2 => exact ⟨[], rfl, by simp, rfl⟩
  | case3 c d rest digit _ digits behind run ih =>
    obtain ⟨stretch, whole, kinds, many⟩ := ih
    rw [run] at whole many
    have first : c.isDigit = true := by simpa using digit
    refine ⟨c :: '_' :: stretch, by rw [whole]; rfl, ?_, ?_⟩
    · simpa [first] using kinds
    · simp [first, mark, many]
  | case4 c d rest digit =>
    have first : c.isDigit = true := by simpa using digit
    exact ⟨[c], rfl, by simp [first], by simp [first]⟩
  | case5 c rest _ digit digits behind run ih =>
    obtain ⟨stretch, whole, kinds, many⟩ := ih
    rw [run] at whole many
    refine ⟨c :: stretch, by rw [whole]; rfl, ?_, ?_⟩
    · simpa [digit] using kinds
    · simp [digit, many]
  | case6 => exact ⟨[], rfl, by simp, rfl⟩

theorem sign_suffix : (sign text).2 <:+ text := by
  unfold sign
  split
  · exact List.suffix_cons _ _
  · exact List.suffix_cons _ _
  · exact List.suffix_refl _

theorem wholeDigits_suffix : (wholeDigits text).2 <:+ text := by
  unfold wholeDigits
  split
  · exact List.suffix_cons _ _
  · exact digitRun_suffix text _

theorem hasStretch_wholeDigits : HasStretch (wholeDigits text).1.length text := by
  unfold wholeDigits
  split
  · next rest =>
    have zero : Char.isDigit '0' = true := by decide
    exact ⟨['0'], (List.prefix_append ['0'] rest).isInfix, by simp [zero], by simp [zero]⟩
  · obtain ⟨stretch, whole, kinds, many⟩ := exists_stretch text
    refine ⟨stretch, ?_, kinds, many⟩
    rw [whole]
    exact (List.prefix_append stretch _).isInfix

theorem fractionDigits_suffix : (fractionDigits text).2 <:+ text := by
  unfold fractionDigits
  split
  · next rest =>
    have behind := digitRun_suffix rest Char.isDigit
    dsimp only
    split
    · exact List.suffix_refl _
    · exact behind.trans (List.suffix_cons _ _)
  · exact List.suffix_refl _

theorem exponent_suffix : (exponent? text).2 <:+ text := by
  unfold exponent?
  split
  · next mark rest =>
    have behind := (digitRun_suffix (sign rest).2 Char.isDigit).trans (sign_suffix rest)
    split
    · dsimp only
      split
      · exact List.suffix_refl _
      · exact behind.trans (List.suffix_cons mark rest)
    · exact List.suffix_refl _
  · exact List.suffix_refl _

theorem basedInteger_suffix {n : Int} {rest : List Char}
    (found : basedInteger? text = some (n, rest)) : rest <:+ text := by
  unfold basedInteger? at found
  split at found
  · next letter behind =>
    cases based : base? letter with
    | none =>
      rw [based] at found
      cases found
    | some base =>
      obtain ⟨base, isDigit⟩ := base
      rw [based] at found
      have run := digitRun_suffix behind isDigit
      simp only [bind, Option.bind] at found
      split at found
      · cases found
      · cases found
        exact run.trans (List.suffix_append ['0', letter] behind)
  · cases found

theorem specialNumber_suffix {value : Value} {rest : List Char}
    (found : specialNumber? text = some (value, rest)) : rest <:+ text := by
  unfold specialNumber? at found
  have unsigned := sign_suffix text
  dsimp only at found
  split at found
  · next behind same =>
    cases found
    rw [same] at unsigned
    exact (List.suffix_append ['i', 'n', 'f'] _).trans unsigned
  · next behind same =>
    cases found
    rw [same] at unsigned
    exact (List.suffix_append ['n', 'a', 'n'] _).trans unsigned
  · cases found

theorem reads_decimalNumber (room : Nat) {value : Except Fault Value} {rest : List Char}
    (found : decimalNumber? text = some (value, rest)) :
    Reads Prod.snd room text (value.map (·, rest)) := by
  unfold decimalNumber? at found
  dsimp only at found
  have unsigned := sign_suffix text
  have whole := wholeDigits_suffix (sign text).2
  have fraction := fractionDigits_suffix (wholeDigits (sign text).2).2
  have exponent := exponent_suffix (fractionDigits (wholeDigits (sign text).2).2).2
  have behind := exponent.trans (fraction.trans (whole.trans unsigned))
  split at found
  · cases found
  split at found
  · split at found
    · next long =>
      cases found
      obtain ⟨stretch, inside, kinds, many⟩ := hasStretch_wholeDigits (sign text).2
      exact ⟨long, stretch, inside.trans unsigned.isInfix, kinds, many⟩
    · cases found
      exact behind
  · cases found
    exact behind

theorem reads_number (room : Nat) {value : Except Fault Value} {rest : List Char}
    (found : number? text = some (value, rest)) :
    Reads Prod.snd room text (value.map (·, rest)) := by
  unfold number? at found
  split at found
  · next n behind based =>
    cases found
    exact basedInteger_suffix text based
  · split at found
    · next outcome decimal =>
      cases found
      exact reads_decimalNumber text room decimal
    · obtain ⟨⟨special, behind⟩, known, same⟩ := Option.map_eq_some_iff.mp found
      cases same
      exact specialNumber_suffix text known

end Numbers

/-! ## Dates and times -/

section Moments

variable (text : List Char)

theorem day_suffix {day : Day} {rest : List Char} (found : day? text = some (day, rest)) :
    rest <:+ text := by
  unfold day? at found
  split at found
  · next y₁ y₂ y₃ y₄ m₁ m₂ d₁ d₂ behind =>
    simp only [Option.bind_eq_bind, Option.bind_eq_some_iff] at found
    obtain ⟨century, -, year, -, month, -, number, -, found⟩ := found
    split at found
    · cases found
      exact List.suffix_append [y₁, y₂, y₃, y₄, '-', m₁, m₂, '-', d₁, d₂] rest
    · cases found
  · cases found

theorem timeOfDay_suffix {time : TimeOfDay} {rest : List Char}
    (found : timeOfDay? text = some (time, rest)) : rest <:+ text := by
  unfold timeOfDay? at found
  split at found
  · next h₁ h₂ m₁ m₂ s₁ s₂ behind =>
    simp only [Option.bind_eq_bind, Option.bind_eq_some_iff] at found
    obtain ⟨hour, -, minute, -, second, -, found⟩ := found
    have clock : behind <:+ h₁ :: h₂ :: ':' :: m₁ :: m₂ :: ':' :: s₁ :: s₂ :: behind :=
      List.suffix_append [h₁, h₂, ':', m₁, m₂, ':', s₁, s₂] behind
    split at found
    · split at found
      · next digits =>
        split at found
        · cases found
          exact clock
        · cases found
          exact ((List.dropWhile_suffix _).trans (List.suffix_cons _ _)).trans clock
      · cases found
        exact clock
    · cases found
  · cases found

theorem offset_suffix : (offset text).2 <:+ text := by
  unfold offset
  split
  · exact List.suffix_cons _ _
  · exact List.suffix_cons _ _
  · next sign h₁ h₂ m₁ m₂ rest _ _ =>
    split
    · split
      · exact List.suffix_append [sign, h₁, h₂, ':', m₁, m₂] rest
      · exact List.suffix_refl _
    · exact List.suffix_refl _
  · exact List.suffix_refl _

theorem dayTime_suffix (day : Day) : (dayTime day text).2 <:+ text := by
  unfold dayTime
  split
  · next mark behind =>
    split
    · split
      · next time rest found =>
        exact (offset_suffix rest).trans
          ((timeOfDay_suffix behind found).trans (List.suffix_cons mark behind))
      · exact List.suffix_refl _
    · exact List.suffix_refl _
  · exact List.suffix_refl _

theorem reads_moment (room : Nat) {value : Except Fault Value} {rest : List Char}
    (found : moment? text = some (value, rest)) :
    Reads Prod.snd room text (value.map (·, rest)) := by
  unfold moment? at found
  split at found
  · next day behind known =>
    have left := (dayTime_suffix behind day).trans (day_suffix text known)
    obtain ⟨rfl, rfl⟩ := Prod.mk.inj (Option.some.inj found)
    cases day.isReal with
    | true => exact left
    | false => exact reads_fault _ _
  · obtain ⟨⟨time, behind⟩, known, same⟩ := Option.map_eq_some_iff.mp found
    cases same
    exact timeOfDay_suffix text known

end Moments

end CheckRouter.Toml
