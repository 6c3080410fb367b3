import CheckRouter.Text.Blank

/-!
# Pictures

In markup a picture stands for its code, a name between colons. Behind the name a code may say how
the picture is to be drawn. Which names there are pictures for is up to the console.
-/

namespace CheckRouter.Console

/-- The pictures that a console has for some names. They are not made of what markup is made of. -/
structure Pictures where
  picture? : List Char → Option (List Char)
  solid : ∀ name picture, picture? name = some picture →
    ∀ c ∈ picture, ' ' < c ∧ c ≠ ':' ∧ c ≠ '[' ∧ c ≠ '\\'

namespace Pictures

def none : Pictures := ⟨fun _ => .none, by simp⟩

/-- Pictures of one character, each with its name. -/
def listed (entries : List (String × Char)) (solid : ∀ entry ∈ entries,
    ' ' < entry.2 ∧ entry.2 ≠ ':' ∧ entry.2 ≠ '[' ∧ entry.2 ≠ '\\') : Pictures where
  picture? name := (entries.find? (·.1.toList = name)).map ([·.2])
  solid := by
    intro name picture known c member
    obtain ⟨entry, found, rfl⟩ := Option.map_eq_some_iff.mp known
    cases List.mem_singleton.mp member
    exact solid entry (List.mem_of_find?_eq_some found)

/-- The pictures that are named by numbers, which are the codes that a position between colons may
make by itself. -/
def numbers : Pictures := listed [("100", '💯'), ("1234", '🔢')] (by decide)

/-- The endings of codes that say how a picture is to be drawn, with the characters that say so. -/
def variants : List (String × Char) := [("-emoji", '\uFE0F'), ("-text", '\uFE0E')]

/-- What a code, without its colons, is replaced by. -/
def drawn? (pictures : Pictures) (code : List Char) : Option (List Char) :=
  match variants.find? fun variant => variant.1.toList.isSuffixOf code with
  | .none => pictures.picture? code
  | some (ending, sign) =>
    (pictures.picture? (code.take (code.length - ending.length))).map (· ++ [sign])

/-- Draws the pictures in a text; `code?` is what stands behind a colon that may begin a code. A code
without a picture stays, and so do its colons. -/
def drawFrom (pictures : Pictures) : Option (List Char) → List Char → List Char
  | .none, [] => []
  | some code, [] => ':' :: code
  | .none, c :: rest =>
    if c = ':' then drawFrom pictures (some []) rest else c :: drawFrom pictures .none rest
  | some code, c :: rest =>
    if c = ':' then
      (pictures.drawn? code).getD (':' :: code ++ [':']) ++ drawFrom pictures .none rest
    else if Text.isBlank c then ':' :: code ++ c :: drawFrom pictures .none rest
    else drawFrom pictures (some (code ++ [c])) rest

/-- The text with each code in it replaced that there is a picture for. -/
def draw (pictures : Pictures) (text : List Char) : List Char := drawFrom pictures .none text

end Pictures

end CheckRouter.Console
