/-!
# Cancel tokens

Tokens form trees. A token is named by the way up from it to its root, so a child carries its
parent, and a token counts as cancelled once it or a token above it has been cancelled.
-/

namespace CheckRouter

/-- The numbers of a token, its parent and so on up to the root. -/
abbrev Token := List Nat

structure Tokens where
  next : Nat := 0
  /-- The tokens that have been cancelled themselves. -/
  flagged : List Token := []
  flagged_lt : ∀ token ∈ flagged, ∀ number ∈ token, number < next := by simp
  deriving Repr, DecidableEq

/-- A number above all those of a token. -/
def Token.above (token : Token) : Nat := token.foldr (fun number rest => max (number + 1) rest) 0

theorem Token.lt_above {token : Token} {number : Nat} (member : number ∈ token) :
    number < token.above := by
  induction token with
  | nil => simp at member
  | cons first rest ih =>
    simp only [above, List.foldr_cons]
    rcases List.mem_cons.mp member with rfl | member
    · omega
    · have := ih member
      simp only [above] at this
      omega

namespace Tokens

/-- Whether a token or one above it has been cancelled. -/
def isCancelled (tokens : Tokens) : Token → Bool
  | [] => false
  | number :: above => tokens.flagged.contains (number :: above) || tokens.isCancelled above

/-- Cancels a token. The numbers in its name are not given out again. -/
def cancel (tokens : Tokens) (token : Token) : Tokens :=
  if token ∈ tokens.flagged then tokens
  else
    { next := max tokens.next token.above
      flagged := token :: tokens.flagged
      flagged_lt := by
        intro other member number below
        rcases List.mem_cons.mp member with rfl | member
        · exact Nat.lt_of_lt_of_le (Token.lt_above below) (Nat.le_max_right _ _)
        · exact Nat.lt_of_lt_of_le (tokens.flagged_lt other member number below)
            (Nat.le_max_left _ _) }

/-- A new token below `parent`; a new root when that is `[]`. -/
def child (tokens : Tokens) (parent : Token) : Token × Tokens :=
  (tokens.next :: parent,
    { tokens with
      next := tokens.next + 1
      flagged_lt := fun token member number below =>
        Nat.lt_succ_of_lt (tokens.flagged_lt token member number below) })

/-- A cancelled token is flagged, or one above it is: its name ends in a flagged one. -/
theorem isCancelled_iff (tokens : Tokens) (token : Token) :
    tokens.isCancelled token = true ↔ ∃ above ∈ tokens.flagged, above ≠ [] ∧ above <:+ token := by
  induction token with
  | nil =>
    simp only [isCancelled, Bool.false_eq_true, List.suffix_nil, false_iff, not_exists, not_and]
    exact fun _ _ ne => ne
  | cons number above ih =>
    simp only [isCancelled, Bool.or_eq_true, List.contains_iff_mem, ih, List.suffix_cons_iff]
    constructor
    · rintro (here | ⟨token, member, ne, below⟩)
      · exact ⟨_, here, List.cons_ne_nil _ _, .inl rfl⟩
      · exact ⟨token, member, ne, .inr below⟩
    · rintro ⟨token, member, ne, rfl | below⟩
      · exact .inl member
      · exact .inr ⟨token, member, ne, below⟩

theorem mem_flagged_cancel (tokens : Tokens) (token other : Token) :
    other ∈ (tokens.cancel token).flagged ↔ other = token ∨ other ∈ tokens.flagged := by
  unfold cancel
  split
  · next here => exact ⟨.inr, fun member => member.elim (fun same => same ▸ here) id⟩
  · exact List.mem_cons

/-- Cancelling a token cancels those below it and no others. -/
theorem isCancelled_cancel (tokens : Tokens) (token other : Token) :
    (tokens.cancel token).isCancelled other = true ↔
      tokens.isCancelled other = true ∨ token ≠ [] ∧ token <:+ other := by
  simp only [isCancelled_iff, mem_flagged_cancel]
  constructor
  · rintro ⟨above, rfl | member, ne, below⟩
    · exact .inr ⟨ne, below⟩
    · exact .inl ⟨above, member, ne, below⟩
  · rintro (⟨above, member, ne, below⟩ | ⟨ne, below⟩)
    · exact ⟨above, .inr member, ne, below⟩
    · exact ⟨token, .inl rfl, ne, below⟩

@[simp]
theorem cancel_cancel (tokens : Tokens) (token : Token) :
    (tokens.cancel token).cancel token = tokens.cancel token := by
  have flagged := (mem_flagged_cancel tokens token token).mpr (.inl rfl)
  rw [cancel, if_pos flagged]

@[simp]
theorem isCancelled_child_snd (tokens : Tokens) (parent other : Token) :
    (tokens.child parent).2.isCancelled other = tokens.isCancelled other := by
  induction other with
  | nil => rfl
  | cons number above ih =>
    simp only [isCancelled, ih]
    rfl

/-- A new token has not been cancelled unless one above it has. -/
theorem isCancelled_child (tokens : Tokens) (parent : Token) :
    tokens.isCancelled (tokens.child parent).1 = tokens.isCancelled parent := by
  have fresh : tokens.next :: parent ∉ tokens.flagged := fun member =>
    absurd (tokens.flagged_lt _ member tokens.next List.mem_cons_self) (Nat.lt_irrefl _)
  simp [child, isCancelled, fresh]

end Tokens

end CheckRouter
