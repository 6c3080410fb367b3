import CheckRouter.Action
import Mathlib.Logic.Relation

/-!
# Cancellation in a tree of tokens

Tokens grow from one root while some of them are cancelled. `History.reports_below_targets` says
which of them count as cancelled at any point of such a history: those that were a target so far, and
all below them, whether they were made before or after that.
-/

namespace CheckRouter.Tokens

open CheckRouter.Action
open Relation (ReflTransGen)

/-- What was done with the tokens that grow from one root. They are numbered in the order in which
they were made, the root with zero, and the index says how many there are. -/
inductive History : Nat → Type
  | root : History 1
  | child {n : Nat} (before : History n) (parent : Fin n) : History (n + 1)
  | cancel {n : Nat} (before : History n) (target : Fin n) : History n

theorem next_le_cancel (tokens : Tokens) (token : Token) :
    tokens.next ≤ (tokens.cancel token).next := by
  unfold cancel
  split
  · exact Nat.le_refl _
  · exact Nat.le_max_left _ _

namespace History

variable {n m : Nat} {history : History n} {tokens : Tokens}

/-- The tokens of a history by their numbers, and what it makes of the tokens that there were. -/
def play (tokens : Tokens) : {n : Nat} → History n → Vector Token n × Tokens
  | _, root =>
    let (token, after) := tokens.child []
    (#v[token], after)
  | _, child before parent =>
    let (made, between) := before.play tokens
    let (token, after) := between.child (made.get parent)
    (made.push token, after)
  | _, cancel before target =>
    let (made, between) := before.play tokens
    (made, between.cancel (made.get target))

/-- The token of a number counts as cancelled at the end of a history. -/
def Reports (tokens : Tokens) (history : History n) (number : Nat) : Prop :=
  ∃ there : number < n, (history.play tokens).2.isCancelled (history.play tokens).1[number] = true

/-! ## What a history says of its tokens -/

def IsChild : {n : Nat} → History n → Nat → Nat → Prop
  | _, root, _, _ => False
  | n + 1, child before parent, token, above =>
    token = n ∧ above = parent ∨ before.IsChild token above
  | _, cancel before _, token, above => before.IsChild token above

/-- One token is another or was made below it. -/
def IsWithin (history : History n) : Nat → Nat → Prop := ReflTransGen history.IsChild

def IsTarget : {n : Nat} → History n → Nat → Prop
  | _, root, _ => False
  | _, child before _, token => before.IsTarget token
  | _, cancel before target, token => token = target ∨ before.IsTarget token

/-- A history goes on from another one. -/
inductive Continues (first : History m) : {n : Nat} → History n → Prop
  | refl : Continues first first
  | child {n : Nat} {later : History n} (continues : Continues first later) (parent : Fin n) :
      Continues first (later.child parent)
  | cancel {n : Nat} {later : History n} (continues : Continues first later) (target : Fin n) :
      Continues first (later.cancel target)

theorem IsChild.lt {token above : Nat} (isChild : history.IsChild token above) :
    above < token ∧ token < n := by
  induction history with
  | root => cases isChild
  | child before parent ih =>
    rcases isChild with ⟨rfl, rfl⟩ | earlier
    · exact ⟨parent.isLt, Nat.lt_succ_self _⟩
    · exact (ih earlier).imp_right Nat.lt_succ_of_lt
  | cancel before target ih => exact ih isChild

theorem IsTarget.lt {token : Nat} (isTarget : history.IsTarget token) : token < n := by
  induction history with
  | root => cases isTarget
  | child before parent ih => exact Nat.lt_succ_of_lt (ih isTarget)
  | cancel before target ih =>
    rcases isTarget with rfl | earlier
    · exact target.isLt
    · exact ih earlier

theorem IsWithin.le {token above : Nat} (isWithin : history.IsWithin token above) :
    above ≤ token := by
  induction isWithin with
  | refl => exact Nat.le_refl _
  | tail _ step ih => exact Nat.le_trans (Nat.le_of_lt step.lt.1) ih

/-- A new token is above none of those there were. -/
theorem isWithin_child_old (before : History n) (parent : Fin n) {token above : Nat}
    (there : token < n) :
    (before.child parent).IsWithin token above ↔ before.IsWithin token above := by
  constructor
  · intro isWithin
    induction isWithin using ReflTransGen.head_induction_on with
    | refl => exact .refl
    | head step _ ih =>
      obtain ⟨rfl, -⟩ | earlier := step
      · exact absurd there (Nat.lt_irrefl _)
      · exact .head earlier (ih (Nat.lt_trans earlier.lt.1 there))
  · exact fun isWithin => ReflTransGen.mono (fun _ _ earlier => .inr earlier) _ _ isWithin

/-- A new token is below its parent and whatever that one is below. -/
theorem isWithin_child_new (before : History n) (parent : Fin n) {above : Nat} :
    (before.child parent).IsWithin n above ↔ above = n ∨ before.IsWithin parent above := by
  rw [IsWithin, ReflTransGen.cases_head_iff]
  constructor
  · rintro (rfl | ⟨next, ⟨-, rfl⟩ | earlier, rest⟩)
    · exact .inl rfl
    · exact .inr ((isWithin_child_old before parent parent.isLt).mp rest)
    · exact absurd earlier.lt.2 (Nat.lt_irrefl _)
  · rintro (rfl | isWithin)
    · exact .inl rfl
    · exact .inr ⟨parent, .inl ⟨rfl, rfl⟩,
        (isWithin_child_old before parent parent.isLt).mpr isWithin⟩

/-! ## What becomes of the tokens -/

/-- Tokens as a history leaves them: their names show which are below which, and none is given out
again. -/
structure Kept (history : History n) (made : Vector Token n) (after : Tokens) : Prop where
  named : ∀ token (there : token < n), made[token] ≠ []
  fresh : ∀ token (there : token < n), ∀ number ∈ made[token], number < after.next
  below : ∀ token above (there : token < n) (also : above < n),
    made[above] <:+ made[token] ↔ history.IsWithin token above
  flags : ∀ token (there : token < n), after.isCancelled made[token] = true ↔
    ∃ above, history.IsWithin token above ∧ history.IsTarget above

variable {made : Vector Token n} {after : Tokens}

theorem kept_root (tokens : Tokens) :
    Kept root #v[(tokens.child []).1] (tokens.child []).2 where
  named token there := by
    obtain rfl : token = 0 := by omega
    exact List.cons_ne_nil _ _
  fresh token there number member := by
    obtain rfl : token = 0 := by omega
    obtain rfl : number = tokens.next := List.mem_singleton.mp member
    exact Nat.lt_succ_self _
  below token above there also := by
    obtain rfl : token = 0 := by omega
    obtain rfl : above = 0 := by omega
    exact iff_of_true List.suffix_rfl .refl
  flags token there := by
    obtain rfl : token = 0 := by omega
    refine iff_of_false ?_ ?_
    · simp [isCancelled_child, isCancelled]
    · rintro ⟨above, -, ⟨⟩⟩

theorem Kept.child (kept : Kept history made after) (parent : Fin n) :
    Kept (history.child parent) (made.push (after.child (made.get parent)).1)
      (after.child (made.get parent)).2 where
  named token there := by
    rcases Nat.lt_succ_iff_lt_or_eq.mp there with old | rfl
    · rw [Vector.getElem_push_lt old]
      exact kept.named token old
    · rw [Vector.getElem_push_eq]
      exact List.cons_ne_nil _ _
  fresh token there number member := by
    rcases Nat.lt_succ_iff_lt_or_eq.mp there with old | rfl
    · rw [Vector.getElem_push_lt old] at member
      exact Nat.lt_succ_of_lt (kept.fresh token old number member)
    · rw [Vector.getElem_push_eq] at member
      rcases List.mem_cons.mp member with rfl | inherited
      · exact Nat.lt_succ_self _
      · exact Nat.lt_succ_of_lt (kept.fresh parent parent.isLt number inherited)
  below token above there also := by
    -- the number in front of the new name stands in no older one
    have unused (old : Token) (known : ∀ number ∈ old, number < after.next) :
        ¬(after.child (made.get parent)).1 <:+ old := fun suffix =>
      Nat.lt_irrefl _ (known _ (suffix.subset List.mem_cons_self))
    rcases Nat.lt_succ_iff_lt_or_eq.mp there with old | rfl
    · rw [Vector.getElem_push_lt old, isWithin_child_old history parent old]
      rcases Nat.lt_succ_iff_lt_or_eq.mp also with known | rfl
      · rw [Vector.getElem_push_lt known]
        exact kept.below token above old known
      · rw [Vector.getElem_push_eq]
        refine iff_of_false (unused _ (kept.fresh token old)) fun isWithin => ?_
        exact absurd isWithin.le (Nat.not_le_of_lt old)
    · rw [Vector.getElem_push_eq, isWithin_child_new]
      rcases Nat.lt_succ_iff_lt_or_eq.mp also with known | rfl
      · rw [Vector.getElem_push_lt known, ← kept.below parent above parent.isLt known]
        have differs : made[above] ≠ (after.child (made.get parent)).1 := fun same =>
          unused _ (kept.fresh above known) (same ▸ List.suffix_rfl)
        refine List.suffix_cons_iff.trans ?_
        exact ⟨fun ends => .inr (ends.resolve_left differs),
          fun ends => .inr (ends.resolve_left (Nat.ne_of_lt known))⟩
      · rw [Vector.getElem_push_eq]
        exact iff_of_true List.suffix_rfl (.inl rfl)
  flags token there := by
    rw [isCancelled_child_snd]
    rcases Nat.lt_succ_iff_lt_or_eq.mp there with old | rfl
    · rw [Vector.getElem_push_lt old, kept.flags token old]
      simp only [isWithin_child_old history parent old]
      rfl
    · rw [Vector.getElem_push_eq, isCancelled_child]
      refine (kept.flags parent parent.isLt).trans (exists_congr fun above => ?_)
      rw [isWithin_child_new, or_and_right]
      refine (or_iff_right ?_).symm
      rintro ⟨rfl, isTarget⟩
      have earlier : history.IsTarget above := isTarget
      exact Nat.lt_irrefl _ earlier.lt

theorem Kept.cancel (kept : Kept history made after) (target : Fin n) :
    Kept (history.cancel target) made (after.cancel (made.get target)) where
  named := kept.named
  fresh token there number member :=
    Nat.lt_of_lt_of_le (kept.fresh token there number member) (next_le_cancel after _)
  below := kept.below
  flags token there := by
    have within : made.get target <:+ made[token] ↔ history.IsWithin token target :=
      kept.below token target there target.isLt
    have named : made.get target ≠ [] := kept.named target target.isLt
    rw [isCancelled_cancel, kept.flags token there, within, and_iff_right named]
    constructor
    · rintro (⟨above, isWithin, isTarget⟩ | isWithin)
      · exact ⟨above, isWithin, .inr isTarget⟩
      · exact ⟨target, isWithin, .inl rfl⟩
    · rintro ⟨above, isWithin, rfl | isTarget⟩
      · exact .inr isWithin
      · exact .inl ⟨above, isWithin, isTarget⟩

theorem kept_play (tokens : Tokens) (history : History n) :
    Kept history (history.play tokens).1 (history.play tokens).2 := by
  induction history with
  | root => exact kept_root tokens
  | child before parent ih => exact ih.child parent
  | cancel before target ih => exact ih.cancel target

/-! ## Flags at any point of a history -/

theorem reports_iff_target (tokens : Tokens) (history : History n) (token : Nat) :
    Reports tokens history token ↔
      ∃ above, history.IsWithin token above ∧ history.IsTarget above := by
  constructor
  · rintro ⟨there, cancelled⟩
    exact ((kept_play tokens history).flags token there).mp cancelled
  · rintro ⟨above, isWithin, isTarget⟩
    have there : token < n := by
      rcases isWithin.cases_head with rfl | ⟨next, step, -⟩
      · exact isTarget.lt
      · exact step.lt.2
    exact ⟨there, ((kept_play tokens history).flags token there).mpr ⟨above, isWithin, isTarget⟩⟩

section Continues

variable {later : History m} {token above : Nat}

theorem Continues.isChild (continues : history.Continues later)
    (isChild : history.IsChild token above) : later.IsChild token above := by
  induction continues with
  | refl => exact isChild
  | child _ _ ih => exact .inr ih
  | cancel _ _ ih => exact ih

theorem Continues.isWithin (continues : history.Continues later)
    (isWithin : history.IsWithin token above) : later.IsWithin token above :=
  ReflTransGen.mono (fun _ _ isChild => continues.isChild isChild) _ _ isWithin

theorem Continues.isTarget (continues : history.Continues later)
    (isTarget : history.IsTarget token) : later.IsTarget token := by
  induction continues with
  | refl => exact isTarget
  | child _ _ ih => exact ih
  | cancel _ _ ih => exact .inr ih

end Continues

/-- At any point of a history a token counts as cancelled, and looking at it fails, just if it is
below a target or is one. So what was cancelled stays so, a target changes nothing that is not below
it, and it does not matter when or in which order the targets were cancelled. -/
theorem reports_below_targets (tokens : Tokens) (history : History n) :
    (∀ token, Reports tokens history token ↔
      ∃ above, history.IsWithin token above ∧ history.IsTarget above) ∧
      (∀ token (there : token < n) (world : World), world.tokens = (history.play tokens).2 →
        let looked := (checkpoint (some (history.play tokens).1[token])).run world
        (looked = (.error (.stopped .byCaller), world) ↔ Reports tokens history token) ∧
          (looked = (.ok (), world) ↔ ¬Reports tokens history token)) ∧
      (∀ {m : Nat} (later : History m), history.Continues later →
        ∀ token, Reports tokens history token → Reports tokens later token) ∧
      (∀ (target : Fin n) token, ¬history.IsWithin token target →
        (Reports tokens (history.cancel target) token ↔ Reports tokens history token)) ∧
      ∀ other : History n,
        (∀ token above, other.IsChild token above ↔ history.IsChild token above) →
        (∀ token, other.IsTarget token ↔ history.IsTarget token) →
        ∀ token, Reports tokens other token ↔ Reports tokens history token := by
  refine ⟨reports_iff_target tokens history, ?_, ?_, ?_, ?_⟩
  · intro token there world same looked
    have shown : Reports tokens history token ↔
        world.tokens.isCancelled (history.play tokens).1[token] = true := by
      rw [same]
      exact exists_prop_of_true there
    rw [shown]
    by_cases cancelled : world.tokens.isCancelled (history.play tokens).1[token] = true <;>
      simp [looked, run_checkpoint, cancelled]
  · intro m later continues token
    simp only [reports_iff_target]
    rintro ⟨above, isWithin, isTarget⟩
    exact ⟨above, continues.isWithin isWithin, continues.isTarget isTarget⟩
  · intro target token outside
    simp only [reports_iff_target]
    constructor
    · rintro ⟨above, isWithin, rfl | isTarget⟩
      · exact absurd isWithin outside
      · exact ⟨above, isWithin, isTarget⟩
    · rintro ⟨above, isWithin, isTarget⟩
      exact ⟨above, isWithin, .inr isTarget⟩
  · intro other sameChildren sameTargets token
    have sameWithin : other.IsWithin = history.IsWithin :=
      congrArg ReflTransGen (funext₂ fun token above => propext (sameChildren token above))
    simp only [reports_iff_target, sameWithin, sameTargets]

/-- A child of a cancelled token is cancelled from the start, its grandparent is not. -/
example :
    let played := play (World.initial false).tokens (((root.child 0).cancel 1).child 1)
    played.1.toList.map played.2.isCancelled = [false, true, true] := by decide

end History

end CheckRouter.Tokens
