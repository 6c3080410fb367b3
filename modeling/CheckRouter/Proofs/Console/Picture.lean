import CheckRouter.Console.Picture
import Mathlib.Data.List.Basic

/-!
# Texts with pictures

Drawing pictures keeps a text just if there is a picture for none of its codes. Else colons are lost,
which nothing that is drawn brings back. This holds whatever the pictures are.
-/

namespace CheckRouter.Console

/-- A character that codes and tags begin with, or that a bracket may stand behind. -/
def isSign (c : Char) : Bool := c = ':' || c = '[' || c = '\\'

def signs (text : List Char) : Nat := text.countP isSign

theorem signs_append (front back : List Char) : signs (front ++ back) = signs front + signs back :=
  List.countP_append

namespace Pictures

/-- The codes of a text without their colons; `code?` is what stands behind a colon before it. -/
def codesFrom : Option (List Char) → List Char → List (List Char)
  | _, [] => []
  | .none, c :: rest => if c = ':' then codesFrom (some []) rest else codesFrom .none rest
  | some code, c :: rest =>
    if c = ':' then code :: codesFrom .none rest
    else if Text.isBlank c then codesFrom .none rest
    else codesFrom (some (code ++ [c])) rest

/-- Whether there is a picture for a code of a text. -/
def draws (pictures : Pictures) (text : List Char) : Bool :=
  (codesFrom .none text).any fun code => (pictures.drawn? code).isSome

/-- What becomes of a text with some codes when its pictures are drawn. -/
structure Drawn (pictures : Pictures) (source shown : List Char) (codes : List (List Char)) :
    Prop where
  whole : codes.any (fun code => (pictures.drawn? code).isSome) = false → shown = source
  fewer : codes.any (fun code => (pictures.drawn? code).isSome) = true →
    signs shown < signs source
  visible : ∀ c ∈ shown, c ∈ source ∨ ' ' ≤ c

variable {pictures : Pictures} {source shown front picture code : List Char}
  {codes : List (List Char)}

theorem solid_of_drawn (drawn : pictures.drawn? code = some picture) :
    ∀ c ∈ picture, ' ' ≤ c ∧ isSign c = false := by
  have solid {name picture : List Char} (found : pictures.picture? name = some picture) :
      ∀ c ∈ picture, ' ' ≤ c ∧ isSign c = false := fun c member => by
    obtain ⟨visible, colon, bracket, slash⟩ := pictures.solid name picture found c member
    exact ⟨UInt32.le_of_lt visible, by simp [isSign, colon, bracket, slash]⟩
  unfold drawn? at drawn
  split at drawn
  · exact solid drawn
  · next ending sign found =>
    obtain ⟨drawing, known, rfl⟩ := Option.map_eq_some_iff.mp drawn
    intro c member
    rcases List.mem_append.mp member with inside | behind
    · exact solid known c inside
    · cases List.mem_singleton.mp behind
      have variant := List.mem_of_find?_eq_some found
      simp only [variants, List.mem_cons, Prod.mk.injEq, List.not_mem_nil, or_false] at variant
      rcases variant with ⟨-, rfl⟩ | ⟨-, rfl⟩ <;> decide

theorem signs_of_drawn (drawn : pictures.drawn? code = some picture) : signs picture = 0 :=
  List.countP_eq_zero.mpr fun c member => by simp [(solid_of_drawn drawn c member).2]

namespace Drawn

theorem refl (text : List Char) : Drawn pictures text text [] where
  whole _ := rfl
  fewer some := by cases some
  visible _ member := .inl member

theorem signs_le (drawn : Drawn pictures source shown codes) : signs shown ≤ signs source := by
  cases known : codes.any fun code => (pictures.drawn? code).isSome with
  | false => exact Nat.le_of_eq (congrArg signs (drawn.whole known))
  | true => exact Nat.le_of_lt (drawn.fewer known)

theorem prepend (front : List Char) (drawn : Drawn pictures source shown codes) :
    Drawn pictures (front ++ source) (front ++ shown) codes where
  whole none := by rw [drawn.whole none]
  fewer some := by
    rw [signs_append, signs_append]
    exact Nat.add_lt_add_left (drawn.fewer some) _
  visible c member := by
    rcases List.mem_append.mp member with before | behind
    · exact .inl (List.mem_append_left _ before)
    · exact (drawn.visible c behind).imp_left (List.mem_append_right _)

/-- A code without a picture stays, and one with a picture takes its colons away. -/
theorem replace (code : List Char) (drawn : Drawn pictures source shown codes) :
    Drawn pictures (':' :: code ++ ':' :: source)
      ((pictures.drawn? code).getD (':' :: code ++ [':']) ++ shown) (code :: codes) := by
  cases known : pictures.drawn? code with
  | none =>
    have kept := drawn.prepend (':' :: code ++ [':'])
    rw [List.append_assoc] at kept
    exact ⟨by simpa [known] using kept.whole, by simpa [known] using kept.fewer, kept.visible⟩
  | some picture =>
    refine ⟨by simp [known], fun _ => ?_, fun c member => ?_⟩
    · have less := drawn.signs_le
      have colon (text : List Char) : signs (':' :: text) = signs text + 1 :=
        List.countP_cons_of_pos rfl
      rw [Option.getD_some, signs_append, signs_of_drawn known, List.cons_append, colon,
        signs_append, colon]
      omega
    · rcases List.mem_append.mp member with before | behind
      · exact .inr (solid_of_drawn known c before).1
      · exact (drawn.visible c behind).imp_left fun there => by simp [there]

end Drawn

theorem drawn_drawFrom (pictures : Pictures) (code? : Option (List Char)) (text : List Char) :
    Drawn pictures (code?.elim text (':' :: · ++ text)) (pictures.drawFrom code? text)
      (codesFrom code? text) := by
  induction text generalizing code? with
  | nil =>
    cases code? with
    | none => exact .refl []
    | some code =>
      have same : ':' :: code ++ [] = ':' :: code := List.append_nil _
      simp only [Option.elim_some, same]
      exact .refl _
  | cons c rest ih =>
    cases code? with
    | none =>
      by_cases colon : c = ':'
      · subst colon
        have opened := ih (some [])
        simp only [Option.elim_some, List.cons_append, List.nil_append] at opened
        simpa only [drawFrom, codesFrom, if_true, Option.elim_none] using opened
      · simp only [drawFrom, codesFrom, colon, if_false]
        exact (ih .none).prepend [c]
    | some code =>
      by_cases colon : c = ':'
      · subst colon
        simp only [drawFrom, codesFrom, if_true]
        exact (ih .none).replace code
      · by_cases blank : Text.isBlank c = true
        · have kept := (ih .none).prepend (':' :: code ++ [c])
          simp only [List.append_assoc, List.singleton_append, Option.elim_none] at kept
          simpa only [drawFrom, codesFrom, colon, blank, if_true, if_false, Option.elim_some]
            using kept
        · have further := ih (some (code ++ [c]))
          simp only [Option.elim_some, List.cons_append, List.append_assoc,
            List.nil_append] at further
          simpa only [drawFrom, codesFrom, colon, blank, Bool.false_eq_true, if_false,
            Option.elim_some, List.cons_append] using further

theorem drawn_draw (pictures : Pictures) (text : List Char) :
    Drawn pictures text (pictures.draw text) (codesFrom .none text) :=
  drawn_drawFrom pictures .none text

/-- Drawing keeps a text just if there is a picture for none of its codes. -/
theorem draw_eq_self_iff {text : List Char} :
    pictures.draw text = text ↔ pictures.draws text = false := by
  have drawn := drawn_draw pictures text
  constructor
  · intro same
    refine Bool.eq_false_iff.mpr fun known => ?_
    have fewer := drawn.fewer known
    rw [same] at fewer
    exact absurd fewer (Nat.lt_irrefl _)
  · exact drawn.whole

theorem draw_of_unknown (unknown : ∀ code, pictures.drawn? code = .none) (text : List Char) :
    pictures.draw text = text :=
  draw_eq_self_iff.mpr (by simp [draws, unknown])

/-- Codes with a picture and a hint how to draw it, without one, and one that a blank ends. -/
example : (listed [("bug", 'B')] (by decide)).draw "a:bug-text:7:bug:x:b ug:".toList =
    "aB\uFE0E7Bx:b ug:".toList := by
  decide

end Pictures

end CheckRouter.Console
