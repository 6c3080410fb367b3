import CheckRouter.Console.Picture
import CheckRouter.Console.Style
import CheckRouter.Failure

/-!
# Markup

Markup is text with tags in square brackets. A tag opens a style, one that starts with a slash
closes it, and a backslash before a bracket takes the bracket as text. `Markup.render` gives the
text that is shown, with the pictures that its codes stand for; on a console without colours the
styles themselves leave no trace.
-/

namespace CheckRouter.Console.Markup

/-- A piece of markup; the position of a tag is that of its bracket. A tag behind a backslash is text
that stands apart: no code reaches into it or out of it. -/
inductive Piece
  | text (content : List Char)
  | apart (content : List Char)
  | tag (content : List Char) (position : Nat)
  deriving DecidableEq, Repr

def startsTag (c : Char) : Bool :=
  ('a' ≤ c && c ≤ 'z') || c = '#' || c = '/' || c = '@'

/-- The tag whose opening bracket has been read, and what stands behind its closing bracket. -/
def tag? : List Char → Option (List Char × List Char)
  | [] => none
  | first :: rest =>
    if !startsTag first then none
    else
      let content := rest.takeWhile fun c => c != '[' && c != ']'
      match rest.drop content.length with
      | ']' :: behind => some (first :: content, behind)
      | _ => none

/-- The pieces of at most `fuel` steps, the first of which starts at a position. -/
def piecesWithin : Nat → Nat → List Char → List Piece
  | 0, _, _ => []
  | _, _, [] => []
  | fuel + 1, position, source =>
    let slashes := source.takeWhile (· = '\\')
    match source.drop slashes.length with
    | [] => [.text slashes]
    | '[' :: behind =>
      match tag? behind with
      | none =>
        .text (slashes.dropLast ++ ['[']) ::
          piecesWithin fuel (position + slashes.length + 1) behind
      | some (content, rest) =>
        let next := position + slashes.length + content.length + 2
        let piece : Piece :=
          if slashes.length % 2 = 0 then .tag content (position + slashes.length)
          else .apart ('[' :: content ++ [']'])
        .text (slashes.take (slashes.length / 2)) :: piece :: piecesWithin fuel next rest
    | c :: behind =>
      .text (slashes ++ [c]) :: piecesWithin fuel (position + slashes.length + 1) behind

def pieces (markup : List Char) : List Piece := piecesWithin (markup.length + 1) 0 markup

/-- Removes the first occurrence of an open style. -/
def close? (style : String) : List String → Option (List String)
  | [] => none
  | open_ :: rest => if open_ = style then some rest else (close? style rest).map (open_ :: ·)

/-- The styles that are open behind a tag, the last opened first. -/
def applyTag (opened : List String) (content : List Char) (position : Nat) :
    Except MarkupFault (List String) :=
  let name := content.takeWhile (· != '=')
  match name with
  | '/' :: style =>
    let style := Text.trim style
    if style.isEmpty then
      match opened with
      | [] => .error ⟨none, position⟩
      | _ :: rest => .ok rest
    else
      match close? (Style.normalise (.ofList style)) opened with
      | some rest => .ok rest
      | none => .error ⟨some (.ofList content), position⟩
  | _ => .ok (Style.normalise (.ofList name) :: opened)

/-- The text of some pieces, cut at tags; `segment` is the text in front of them that no tag has
ended. -/
def segments (opened : List String) (segment : List Char) :
    List Piece → Except MarkupFault (List (List Char))
  | [] => .ok [segment]
  | .text content :: rest => segments opened (segment ++ content) rest
  | .apart content :: rest => (segments opened [] rest).map (segment :: content :: ·)
  | .tag content position :: rest => do
    let opened ← applyTag opened content position
    (segments opened [] rest).map (segment :: ·)

/-- What markup shows. Pictures are drawn in each segment, so that a tag parts a code. -/
def render (pictures : Pictures) (markup : String) : Except MarkupFault (List Char) :=
  let source := markup.toList
  if source.contains '[' then
    (segments [] [] (pieces source)).map (·.flatMap pictures.draw)
  else .ok (pictures.draw source)

end CheckRouter.Console.Markup
