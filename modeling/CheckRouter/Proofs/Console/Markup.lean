import CheckRouter.Console.Markup
import CheckRouter.Proofs.Console.Picture
import Mathlib.Data.List.TakeWhile

/-!
# Text without markup

A text that is read as markup loses its tags and the backslashes before brackets, and pictures stand
for its codes; everything else of it stays. `isKept` tells which texts stay whole.
-/

namespace CheckRouter.Console.Markup

/-- Whether no bracket opens a tag and none stands behind a backslash. -/
def isLiteral : List Char → Bool
  | [] => true
  | '[' :: rest => (tag? rest).isNone && isLiteral rest
  | '\\' :: rest => rest.head? != some '[' && isLiteral rest
  | _ :: rest => isLiteral rest

theorem tag?_eq_some {behind content rest : List Char}
    (found : tag? behind = some (content, rest)) :
    behind = content ++ ']' :: rest := by
  cases behind with
  | nil => cases found
  | cons first more =>
    unfold tag? at found
    cases starts : startsTag first with
    | false => simp [starts] at found
    | true =>
      simp only [starts, Bool.not_true, Bool.false_eq_true, if_false] at found
      generalize ends : more.drop _ = tail at found
      cases tail with
      | nil => cases found
      | cons c behind =>
        by_cases closes : c = ']'
        · subst closes
          cases found
          have whole := List.prefix_iff_eq_append.mp
            (List.takeWhile_prefix fun c => c != '[' && c != ']' : _ <+: more)
          rw [ends] at whole
          rw [List.cons_append, whole]
        · simp [closes] at found

section Slashes

variable {behind : List Char}

theorem exists_slashes (source : List Char) :
    ∃ count behind, source = List.replicate count '\\' ++ behind ∧ behind.head? ≠ some '\\' := by
  induction source with
  | nil => exact ⟨0, [], rfl, by simp⟩
  | cons c rest ih =>
    by_cases slash : c = '\\'
    · obtain ⟨count, behind, rfl, stops⟩ := ih
      exact ⟨count + 1, behind, by rw [slash]; rfl, stops⟩
    · exact ⟨0, c :: rest, rfl, by simpa using slash⟩

theorem takeWhile_slashes (count : Nat) (stops : behind.head? ≠ some '\\') :
    (List.replicate count '\\' ++ behind).takeWhile (fun c => decide (c = '\\')) =
      List.replicate count '\\' := by
  induction count with
  | zero =>
    cases behind with
    | nil => rfl
    | cons c rest => simpa using stops
  | succ count ih =>
    rw [List.replicate_succ, List.cons_append, List.takeWhile_cons, ih]
    rfl

theorem isLiteral_slashes (count : Nat) (opens : behind.head? ≠ some '[') :
    isLiteral (List.replicate count '\\' ++ behind) = isLiteral behind := by
  induction count with
  | zero => rfl
  | succ count ih =>
    have opens : (List.replicate count '\\' ++ behind).head? ≠ some '[' := by
      cases count with
      | zero => exact opens
      | succ count => simp [List.replicate_succ]
    rw [List.replicate_succ, List.cons_append, isLiteral, ih, bne_iff_ne.mpr opens, Bool.true_and]

theorem isLiteral_replicate (count : Nat) : isLiteral (List.replicate count '\\') = true := by
  have same := @isLiteral_slashes [] count (by simp)
  rwa [List.append_nil, isLiteral] at same

theorem isLiteral_of_not_mem {text : List Char} (plain : '[' ∉ text) : isLiteral text = true := by
  induction text with
  | nil => rfl
  | cons c rest ih =>
    rw [List.mem_cons, not_or] at plain
    have literal := ih plain.2
    by_cases slash : c = '\\'
    · subst slash
      rw [isLiteral, literal, Bool.and_true]
      cases rest with
      | nil => rfl
      | cons next rest =>
        have other : next ≠ '[' := fun same => plain.2 (same ▸ List.mem_cons_self)
        simpa using other
    · rw [isLiteral, literal]
      · exact fun same => plain.1 same.symm
      · exact slash

theorem isLiteral_slashes_bracket (count : Nat) :
    isLiteral (List.replicate (count + 1) '\\' ++ '[' :: behind) = false := by
  induction count with
  | zero => simp [isLiteral]
  | succ count ih =>
    rw [List.replicate_succ, List.cons_append, isLiteral, ih]
    simp

end Slashes

/-! ## Pieces -/

section Pieces

variable {behind content rest : List Char}

variable (fuel position count : Nat)

theorem piecesWithin_slashes (some : count ≠ 0) :
    piecesWithin (fuel + 1) position (List.replicate count '\\') =
      [.text (List.replicate count '\\')] := by
  have taken := @takeWhile_slashes [] count (by simp)
  rw [List.append_nil] at taken
  rw [piecesWithin, taken]
  · simp
  · simpa using some

theorem piecesWithin_other {c : Char} (bracket : c ≠ '[') (slash : c ≠ '\\') :
    piecesWithin (fuel + 1) position (List.replicate count '\\' ++ c :: behind) =
      .text (List.replicate count '\\' ++ [c]) ::
        piecesWithin fuel (position + count + 1) behind := by
  have taken := @takeWhile_slashes (c :: behind) count (by simpa using slash)
  rw [piecesWithin, taken]
  · simp
  · simp

theorem piecesWithin_bracket (none : tag? behind = none) :
    piecesWithin (fuel + 1) position (List.replicate count '\\' ++ '[' :: behind) =
      .text ((List.replicate count '\\').dropLast ++ ['[']) ::
        piecesWithin fuel (position + count + 1) behind := by
  have taken := @takeWhile_slashes ('[' :: behind) count (by simp)
  rw [piecesWithin, taken]
  · simp [none]
  · simp

theorem piecesWithin_tag (found : tag? behind = some (content, rest)) :
    piecesWithin (fuel + 1) position (List.replicate count '\\' ++ '[' :: behind) =
      .text (List.replicate (count / 2) '\\') ::
        (if count % 2 = 0 then .tag content (position + count)
          else .apart ('[' :: content ++ [']'])) ::
        piecesWithin fuel (position + count + content.length + 2) rest := by
  have taken := @takeWhile_slashes ('[' :: behind) count (by simp)
  rw [piecesWithin, taken]
  · simp [found, Nat.min_eq_left (Nat.div_le_self count 2)]
  · simp

end Pieces

/-! ## Segments -/

theorem signs_slashes (count : Nat) : signs (List.replicate count '\\') = count := by
  simp [signs, List.countP_replicate, isSign]

/-- How a text is cut behind a segment: a literal one is not cut, and any other one loses some of
its signs, if it can be read. -/
structure Cut (segment source : List Char) (outcome : Except MarkupFault (List (List Char))) :
    Prop where
  whole : isLiteral source = true → outcome = .ok [segment ++ source]
  sublist : ∀ parts, outcome = .ok parts → parts.flatten.Sublist (segment ++ source)
  fewer : isLiteral source = false → ∀ parts, outcome = .ok parts →
    signs parts.flatten < signs (segment ++ source)

namespace Cut

variable {segment front part behind : List Char}
  {outcome : Except MarkupFault (List (List Char))}

theorem of_literal (literal : isLiteral front = true) :
    Cut segment front (.ok [segment ++ front]) where
  whole := fun _ => rfl
  sublist := by
    rintro _ ⟨⟩
    rw [List.flatten_singleton]
  fewer := fun lossy => absurd literal (Bool.eq_false_iff.mp lossy)

theorem push (cut : Cut (segment ++ front) behind outcome)
    (same : isLiteral (front ++ behind) = isLiteral behind) :
    Cut segment (front ++ behind) outcome := by
  obtain ⟨whole, sublist, fewer⟩ := cut
  rw [List.append_assoc] at whole sublist fewer
  exact ⟨fun literal => whole (same ▸ literal), sublist, fun lossy => fewer (same ▸ lossy)⟩

theorem of_lossy (lossy : isLiteral (front ++ behind) = false) (part : List Char)
    (lesser : part.Sublist front) (fewer : signs part < signs front)
    (within : ∀ parts, outcome = .ok parts → parts.flatten.Sublist (segment ++ part ++ behind)) :
    Cut segment (front ++ behind) outcome where
  whole := fun literal => absurd literal (Bool.eq_false_iff.mp lossy)
  sublist := by
    intro parts read
    refine (within parts read).trans ?_
    rw [← List.append_assoc]
    exact ((List.Sublist.refl _).append lesser).append (List.Sublist.refl _)
  fewer := by
    intro _ parts read
    have most := (within parts read).countP_le (p := isSign)
    change signs parts.flatten ≤ signs _ at most
    simp only [signs_append] at most ⊢
    omega

end Cut

section Step

variable {fuel position count : Nat} {segment behind content rest : List Char}
  {opened : List String}

theorem cut_slashes :
    Cut segment (List.replicate count '\\')
      (segments opened segment (piecesWithin (fuel + 1) position (List.replicate count '\\'))) := by
  cases count with
  | zero =>
    have same : segment ++ List.replicate 0 '\\' = segment := List.append_nil _
    have cut := @Cut.of_literal segment _ (isLiteral_replicate 0)
    rwa [same] at cut
  | succ count =>
    rw [piecesWithin_slashes fuel position (count + 1) (Nat.succ_ne_zero count)]
    exact .of_literal (isLiteral_replicate (count + 1))

theorem cut_other {c : Char} (bracket : c ≠ '[') (slash : c ≠ '\\')
    (later : ∀ segment, Cut segment behind
      (segments opened segment (piecesWithin fuel (position + count + 1) behind))) :
    Cut segment (List.replicate count '\\' ++ c :: behind)
      (segments opened segment (piecesWithin (fuel + 1) position
        (List.replicate count '\\' ++ c :: behind))) := by
  have same : isLiteral (List.replicate count '\\' ++ c :: behind) = isLiteral behind := by
    rw [isLiteral_slashes count (by simpa using bracket), isLiteral]
    · exact bracket
    · exact slash
  rw [piecesWithin_other fuel position count bracket slash, segments]
  rw [List.append_cons] at same ⊢
  exact (later _).push same

theorem cut_bracket (none : tag? behind = none)
    (later : ∀ segment, Cut segment behind
      (segments opened segment (piecesWithin fuel (position + count + 1) behind))) :
    Cut segment (List.replicate count '\\' ++ '[' :: behind)
      (segments opened segment (piecesWithin (fuel + 1) position
        (List.replicate count '\\' ++ '[' :: behind))) := by
  rw [piecesWithin_bracket fuel position count none, segments]
  cases count with
  | zero =>
    have same : isLiteral ('[' :: behind) = isLiteral behind := by
      rw [isLiteral, none, Option.isNone_none, Bool.true_and]
    exact @Cut.push segment ['['] behind _ (later _) same
  | succ count =>
    have lossy := @isLiteral_slashes_bracket behind count
    rw [List.append_cons] at lossy ⊢
    refine .of_lossy lossy _ ?_ ?_ (later _).sublist
    · exact (List.dropLast_sublist _).append (List.Sublist.refl _)
    · rw [List.dropLast_replicate, signs_append, signs_append, signs_slashes, signs_slashes]
      omega

theorem exists_of_map_eq_ok {α β ε : Type} {outcome : Except ε α} {f : α → β} {value : β}
    (read : outcome.map f = .ok value) : ∃ found, outcome = .ok found ∧ f found = value := by
  cases outcome with
  | error failure => cases read
  | ok found => exact ⟨found, rfl, Except.ok.inj read⟩

theorem segments_tag_eq_ok {pieces : List Piece} {parts : List (List Char)}
    (read : segments opened segment (.tag content position :: pieces) = .ok parts) :
    ∃ opened others, segments opened [] pieces = .ok others ∧ segment :: others = parts := by
  rw [segments] at read
  cases applied : applyTag opened content position with
  | error fault =>
    rw [applied] at read
    cases read
  | ok opened =>
    rw [applied] at read
    exact ⟨opened, exists_of_map_eq_ok read⟩

theorem cut_tag (found : tag? behind = some (content, rest))
    (later : ∀ opened position,
      Cut [] rest (segments opened [] (piecesWithin fuel position rest))) :
    Cut segment (List.replicate count '\\' ++ '[' :: behind)
      (segments opened segment (piecesWithin (fuel + 1) position
        (List.replicate count '\\' ++ '[' :: behind))) := by
  have lossy : isLiteral (List.replicate count '\\' ++ '[' :: behind) = false := by
    cases count with
    | zero =>
      show isLiteral ('[' :: behind) = false
      rw [isLiteral, found, Option.isNone_some, Bool.false_and]
    | succ count => exact isLiteral_slashes_bracket count
  rw [piecesWithin_tag fuel position count found, segments]
  have cut : List.replicate count '\\' ++ '[' :: behind =
      (List.replicate count '\\' ++ ('[' :: content ++ [']'])) ++ rest := by
    rw [tag?_eq_some found]
    simp
  rw [cut] at lossy ⊢
  have half : (List.replicate (count / 2) '\\').Sublist (List.replicate count '\\') :=
    (List.replicate_sublist_replicate _).mpr (Nat.div_le_self count 2)
  have bracket : signs ('[' :: content ++ [']']) = signs (content ++ [']']) + 1 :=
    List.countP_cons_of_pos rfl
  by_cases even : count % 2 = 0
  · rw [if_pos even]
    refine .of_lossy lossy _ (half.trans (List.sublist_append_left _ _)) ?_ fun parts read => ?_
    · rw [signs_append, signs_slashes, signs_slashes, bracket]
      omega
    · obtain ⟨now, others, left, rfl⟩ := segments_tag_eq_ok read
      exact (List.Sublist.refl _).append ((later now _).sublist others left)
  · rw [if_neg even]
    refine .of_lossy lossy _ (half.append (List.Sublist.refl _)) ?_ fun parts read => ?_
    · simp only [signs_append, signs_slashes]
      omega
    · obtain ⟨others, left, rfl⟩ := exists_of_map_eq_ok read
      simp only [List.flatten_cons, ← List.append_assoc]
      exact (List.Sublist.refl _).append ((later opened _).sublist others left)

end Step

theorem cut_piecesWithin {fuel : Nat} {source : List Char} (enough : source.length < fuel)
    (opened : List String) (segment : List Char) (position : Nat) :
    Cut segment source (segments opened segment (piecesWithin fuel position source)) := by
  -- No cut depends on the tags that are open, so these are general in the induction.
  induction fuel generalizing source opened segment position with
  | zero => omega
  | succ fuel ih =>
    obtain ⟨count, behind, rfl, stops⟩ := exists_slashes source
    rw [List.length_append, List.length_replicate] at enough
    cases behind with
    | nil =>
      rw [List.append_nil]
      exact cut_slashes
    | cons c behind =>
      rw [List.length_cons] at enough
      by_cases bracket : c = '['
      · subst bracket
        cases found : tag? behind with
        | none => exact cut_bracket found fun segment => ih (by omega) opened segment _
        | some tag =>
          obtain ⟨content, rest⟩ := tag
          refine cut_tag found fun opened position => ih ?_ opened [] position
          rw [tag?_eq_some found, List.length_append, List.length_cons] at enough
          omega
      · exact cut_other bracket (by simpa using stops) fun segment => ih (by omega) opened segment _

/-! ## Texts -/

variable {pictures : Pictures}

/-- What a text shows that is read as markup: a literal one itself with its pictures, and any other
one fewer signs, if it can be read. -/
structure Shown (pictures : Pictures) (source : List Char)
    (outcome : Except MarkupFault (List Char)) : Prop where
  whole : isLiteral source = true → outcome = .ok (pictures.draw source)
  fewer : isLiteral source = false → ∀ shown, outcome = .ok shown → signs shown < signs source
  visible : ∀ shown, outcome = .ok shown → ∀ c ∈ shown, c ∈ source ∨ ' ' ≤ c
  sublist : (∀ code, pictures.drawn? code = none) → ∀ shown, outcome = .ok shown →
    shown.Sublist source

theorem signs_flatMap_draw_le (parts : List (List Char)) :
    signs (parts.flatMap pictures.draw) ≤ signs parts.flatten := by
  induction parts with
  | nil => exact Nat.le_refl _
  | cons part rest ih =>
    rw [List.flatMap_cons, List.flatten_cons, signs_append, signs_append]
    exact Nat.add_le_add (pictures.drawn_draw part).signs_le ih

theorem visible_of_mem_flatMap_draw {parts : List (List Char)} {c : Char}
    (member : c ∈ parts.flatMap pictures.draw) : c ∈ parts.flatten ∨ ' ' ≤ c := by
  obtain ⟨part, among, here⟩ := List.mem_flatMap.mp member
  exact ((pictures.drawn_draw part).visible c here).imp_left fun inside =>
    List.mem_flatten.mpr ⟨part, among, inside⟩

theorem shown_of_cut {source : List Char} {outcome : Except MarkupFault (List (List Char))}
    (cut : Cut [] source outcome) :
    Shown pictures source (outcome.map (·.flatMap pictures.draw)) := by
  constructor
  · intro literal
    rw [cut.whole literal]
    simp [Except.map]
  · intro lossy shown read
    obtain ⟨parts, left, rfl⟩ := exists_of_map_eq_ok read
    exact Nat.lt_of_le_of_lt (signs_flatMap_draw_le parts) (cut.fewer lossy parts left)
  · intro shown read c member
    obtain ⟨parts, left, rfl⟩ := exists_of_map_eq_ok read
    exact (visible_of_mem_flatMap_draw member).imp_left fun inside =>
      (cut.sublist parts left).subset inside
  · intro unknown shown read
    obtain ⟨parts, left, rfl⟩ := exists_of_map_eq_ok read
    have same : pictures.draw = id := funext (Pictures.draw_of_unknown unknown)
    rw [same, List.flatMap_id]
    exact cut.sublist parts left

theorem shown_render (pictures : Pictures) (markup : String) :
    Shown pictures markup.toList (render pictures markup) := by
  unfold render
  dsimp only
  split
  · exact shown_of_cut (cut_piecesWithin (Nat.lt_succ_self _) [] [] 0)
  · next plain =>
    have cut := @Cut.of_literal [] _ (isLiteral_of_not_mem (by simpa using plain))
    simpa [Except.map] using @shown_of_cut pictures _ _ cut

/-- Whether a text is shown as it is written: no tag is in it, and no code with a picture. -/
def isKept (pictures : Pictures) (text : String) : Bool :=
  isLiteral text.toList && !pictures.draws text.toList

/-- The texts that are shown as they are written. -/
theorem render_eq_self_iff (markup : String) :
    render pictures markup = .ok markup.toList ↔ isKept pictures markup = true := by
  have shown := shown_render pictures markup
  rw [isKept, Bool.and_eq_true, Bool.not_eq_true', ← Pictures.draw_eq_self_iff]
  constructor
  · intro same
    cases literal : isLiteral markup.toList with
    | true => exact ⟨rfl, Except.ok.inj ((shown.whole literal).symm.trans same)⟩
    | false => exact absurd (shown.fewer literal _ same) (Nat.lt_irrefl _)
  · rintro ⟨literal, same⟩
    rw [shown.whole literal, same]

theorem signs_lt_of_render {markup : String} {shown : List Char}
    (read : render pictures markup = .ok shown) (lost : isKept pictures markup = false) :
    signs shown < signs markup.toList := by
  cases literal : isLiteral markup.toList with
  | false => exact (shown_render pictures markup).fewer literal shown read
  | true =>
    rw [isKept, literal, Bool.true_and, Bool.not_eq_false'] at lost
    rw [(shown_render pictures markup).whole literal] at read
    exact Except.ok.inj read ▸ (pictures.drawn_draw markup.toList).fewer lost

theorem signs_le_of_render {markup : String} {shown : List Char}
    (read : render pictures markup = .ok shown) : signs shown ≤ signs markup.toList := by
  cases kept : isKept pictures markup with
  | false => exact Nat.le_of_lt (signs_lt_of_render read kept)
  | true =>
    rw [(render_eq_self_iff markup).mpr kept] at read
    exact Nat.le_of_eq (congrArg signs (Except.ok.inj read.symm))

end CheckRouter.Console.Markup
