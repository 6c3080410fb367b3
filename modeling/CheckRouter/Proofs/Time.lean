import CheckRouter.Command
import Mathlib.Algebra.Order.Ring.Rat
import Mathlib.Algebra.Order.Ring.Unbundled.Rat
import Mathlib.Order.Bounds.Defs
import Mathlib.Tactic.Linarith
import Mathlib.Tactic.Ring

/-!
# Time

When a token becomes cancelled, and the instants at which a waiting run looks around: the ends of
the slices, none later than the deadline.
-/

namespace CheckRouter

namespace World

theorem movedTo_movedTo (world : World) (machine : Machine) {first second : Rat}
    (le : first ≤ second) :
    (world.movedTo machine first).movedTo machine second = world.movedTo machine second := by
  unfold movedTo
  cases machine.cancelledAt with
  | none => simp
  | some time =>
    by_cases early : time ≤ first
    · have late : time ≤ second := early.trans le
      simp [early, late]
    · simp [early]

end World

theorem Binary64.toRat?_pos {x : Binary64} {value : Rat} (positive : x.isPositive = true)
    (known : x.toRat? = some value) : 0 < value := by
  cases x with
  | infinite | notNumber => cases known
  | finite negative significand exponent =>
    simp only [isPositive, Bool.and_eq_true, Bool.not_eq_true', bne_iff_ne] at positive
    obtain ⟨rfl, nonzero⟩ := positive
    simp only [toRat?, Bool.false_eq_true, if_false, Option.some.injEq] at known
    subst known
    have shifted (bits : Nat) : significand <<< bits ≠ 0 := by
      simp [Nat.shiftLeft_eq, nonzero]
    have unit (bits : Nat) : 1 <<< bits ≠ 0 := by
      simp [Nat.shiftLeft_eq]
    split
    · exact Rat.mkRat_pos (Int.natCast_pos.mpr (Nat.pos_of_ne_zero (shifted _))) Nat.one_ne_zero
    · exact Rat.mkRat_pos (Int.natCast_pos.mpr (Nat.pos_of_ne_zero nonzero)) (unit _)

theorem Behaviour.fromZero_eq_max (time : Rat) : fromZero time = max 0 time := by
  unfold fromZero
  split
  · next negative => rw [max_eq_left negative.le]
  · next counts => rw [max_eq_right (not_lt.mp counts)]

theorem Behaviour.fromZero_nonneg (time : Rat) : 0 ≤ fromZero time := by
  rw [fromZero_eq_max]
  exact le_max_left 0 time

namespace Command

theorem lt_of_deadline {start time : Rat} {limit : Option Binary64}
    (positive : ∀ x ∈ limit, x.isPositive = true) (known : deadline start limit = some time) :
    start < time := by
  unfold deadline at known
  split at known
  · cases known
  · cases known
  · cases known
  · have := positive _ rfl
    cases this
  · next limit _ _ _ =>
    obtain ⟨value, exact, rfl⟩ := Option.map_eq_some_iff.mp known
    have := Binary64.toRat?_pos (positive limit rfl) exact
    linarith

/-- The time at which a token becomes cancelled: when the caller cancels, if the token is that of
the caller or below it. -/
def cancelTime (machine : Machine) (token : Option Token) : Option Rat :=
  if token.any callerToken.isSuffixOf then machine.cancelledAt else none

theorem isCancelled_movedTo (machine : Machine) (token : Option Token) (world : World)
    (time : Rat) :
    token.any (world.movedTo machine time).tokens.isCancelled =
      (token.any world.tokens.isCancelled || (cancelTime machine token).any (· ≤ time)) := by
  cases token with
  | none => simp [cancelTime]
  | some token =>
    have cancel := world.tokens.isCancelled_cancel callerToken token
    rw [Bool.eq_iff_iff]
    simp only [World.movedTo, cancelTime, Option.any_some, Bool.or_eq_true]
    by_cases due : machine.cancelledAt.any (· ≤ time) = true
    · rw [if_pos due, cancel]
      by_cases below : callerToken <:+ token <;> simp_all [callerToken]
    · rw [if_neg due]
      by_cases below : callerToken <:+ token <;> simp_all

def Within (time : Rat) (bound : Option Rat) : Prop := ∀ limit ∈ bound, time ≤ limit

@[simp]
theorem within_none (time : Rat) : Within time none := by simp [Within]

@[simp]
theorem within_some {time limit : Rat} : Within time (some limit) ↔ time ≤ limit := by
  simp [Within]

/-! ## Instants -/

/-- The end of the slice of a number, counted from one, or the deadline if that comes first. -/
def instant (start : Rat) (deadline : Option Rat) (number : Nat) : Rat :=
  match deadline with
  | none => start + number * slice
  | some deadline => min (start + number * slice) deadline

section Instant

variable {start : Rat} {deadline : Option Rat}

theorem instant_within (start : Rat) (deadline : Option Rat) (number : Nat) :
    Within (instant start deadline number) deadline := by
  cases deadline with
  | none => simp
  | some deadline => simp [instant]

theorem instant_le (start : Rat) (deadline : Option Rat) (number : Nat) :
    instant start deadline number ≤ start + number * slice := by
  cases deadline <;> simp [instant]

theorem instant_mono (start : Rat) (deadline : Option Rat) {first second : Nat}
    (le : first ≤ second) : instant start deadline first ≤ instant start deadline second := by
  have times : start + first * slice ≤ start + second * slice := by
    have : (first : Rat) ≤ second := Nat.cast_le.mpr le
    unfold slice
    linarith
  cases deadline with
  | none => exact times
  | some deadline => exact min_le_min_right deadline times

theorem instant_of_lt {number : Nat}
    (early : ∀ limit ∈ deadline, instant start deadline number < limit) :
    instant start deadline number = start + number * slice := by
  cases deadline with
  | none => rfl
  | some deadline =>
    rcases min_choice (start + number * slice) deadline with whole | due
    · exact whole
    · exact absurd (early deadline rfl) (by simp [instant, due])

theorem sliceEnd_instant {number : Nat}
    (early : ∀ limit ∈ deadline, instant start deadline number < limit) :
    sliceEnd (instant start deadline number) deadline = instant start deadline (number + 1) := by
  rw [instant_of_lt early]
  have next : start + number * slice + slice = start + (number + 1 : Nat) * slice := by
    push_cast
    ring
  cases deadline with
  | none => exact next
  | some deadline =>
    simp only [sliceEnd, next, instant]
    split
    · next due => exact (min_eq_right due.le).symm
    · next whole => exact (min_eq_left (not_lt.mp whole)).symm

end Instant

/-- The instants at which a waiting run sees that it has been cancelled. -/
def noticing (start : Rat) (deadline cancelled : Option Rat) : Set Rat :=
  {time | ∃ number, 1 ≤ number ∧ time = instant start deadline number ∧
    ∃ due ∈ cancelled, due ≤ time}

/-- The first instant at which a waiting run sees that it has been cancelled, if there is one. -/
def IsNotice (start : Rat) (deadline cancelled : Option Rat) : Option Rat → Prop
  | some notice => IsLeast (noticing start deadline cancelled) notice
  | none => noticing start deadline cancelled = ∅

theorem IsNotice.eq_some {start : Rat} {deadline cancelled notice : Option Rat} {time : Rat}
    (isNotice : IsNotice start deadline cancelled notice)
    (least : IsLeast (noticing start deadline cancelled) time) : notice = some time := by
  cases notice with
  | none =>
    have empty : noticing start deadline cancelled = ∅ := isNotice
    exact absurd (empty ▸ least.1) (Set.notMem_empty time)
  | some notice =>
    have least' : IsLeast (noticing start deadline cancelled) notice := isNotice
    rw [least'.unique least]

theorem IsNotice.mem {start time : Rat} {deadline cancelled notice : Option Rat}
    (isNotice : IsNotice start deadline cancelled notice) (noticed : notice = some time) :
    time ∈ noticing start deadline cancelled := by
  subst noticed
  exact isNotice.1

theorem IsNotice.within {start time : Rat} {deadline cancelled notice : Option Rat}
    (isNotice : IsNotice start deadline cancelled notice) (noticed : notice = some time) :
    Within time deadline := by
  obtain ⟨number, -, rfl, -⟩ := isNotice.mem noticed
  exact instant_within start deadline number

theorem exists_isNotice (start : Rat) (deadline cancelled : Option Rat) :
    ∃ notice, IsNotice start deadline cancelled notice := by
  classical
  by_cases seen : ∃ number, 1 ≤ number ∧ ∃ due ∈ cancelled, due ≤ instant start deadline number
  · refine ⟨some (instant start deadline (Nat.find seen)), ?_, ?_⟩
    · exact ⟨_, (Nat.find_spec seen).1, rfl, (Nat.find_spec seen).2⟩
    · rintro time ⟨number, later, rfl, due⟩
      exact instant_mono start deadline (Nat.find_min' seen ⟨later, due⟩)
  · refine ⟨none, Set.eq_empty_of_forall_notMem ?_⟩
    rintro time ⟨number, later, rfl, due⟩
    exact seen ⟨number, later, due⟩

end Command

end CheckRouter
