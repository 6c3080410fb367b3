import CheckRouter.Settings

/-!
# Words that are written and cut again

Words that are joined to a command come back when the command is cut, whatever characters they hold.
A joined word brings the reader from between two words to the end of that word, and from there the
space that follows brings it back.
-/

namespace CheckRouter

namespace Text.ShellWords

/-! ## One word -/

/-- Plain characters mean themselves between words and inside one. -/
theorem means_itself_of_isPlain {c : Char} (plain : isPlain c = true) :
    isSeparator c = false ∧ c ≠ '\\' ∧ (c = '\'' || c = '"') = false := by
  have differs (other : Char) (special : isPlain other = false) : c ≠ other := by
    rintro rfl
    rw [plain] at special
    cases special
  refine ⟨?_, differs '\\' (by decide), ?_⟩
  · simp [isSeparator, differs ' ' (by decide), differs '\t' (by decide), differs '\r' (by decide),
      differs '\n' (by decide)]
  · simp [differs '\'' (by decide), differs '"' (by decide)]

theorem splitFrom_word_of_plain {content : List Char} (plain : content.all isPlain = true)
    (word rest : List Char) :
    splitFrom .word word (content ++ rest) = splitFrom .word (content.reverse ++ word) rest := by
  induction content generalizing word with
  | nil => rfl
  | cons c content ih =>
    rw [List.all_cons, Bool.and_eq_true] at plain
    obtain ⟨separates, escapes, quotes⟩ := means_itself_of_isPlain plain.1
    rw [List.cons_append, splitFrom, separates, quotes]
    simp only [Bool.false_eq_true, if_false, escapes, ih plain.2, List.reverse_cons,
      List.append_assoc, List.singleton_append]

/-- A character as it is written between single quotes. A single quote ends them, stands between
double quotes, and begins them anew. -/
def guarded (c : Char) : List Char := if c = '\'' then "'\"'\"'".toList else [c]

theorem splitFrom_quotation_guarded (c : Char) (word rest : List Char) :
    splitFrom (.quotation '\'') word (guarded c ++ rest) =
      splitFrom (.quotation '\'') (c :: word) rest := by
  unfold guarded
  split
  · next quote =>
    rw [quote]
    rfl
  · next other => simp [splitFrom, other]

theorem splitFrom_quotation_content (content word rest : List Char) :
    splitFrom (.quotation '\'') word (content.flatMap guarded ++ '\'' :: rest) =
      splitFrom .word (content.reverse ++ word) rest := by
  induction content generalizing word with
  | nil => rfl
  | cons c content ih =>
    rw [List.flatMap_cons, List.append_assoc, splitFrom_quotation_guarded, ih, List.reverse_cons,
      List.append_assoc, List.singleton_append]

/-- Between two words a quoted word is read to its end. -/
theorem splitFrom_quote (word before rest : List Char) :
    splitFrom .between before (quote word ++ rest) = splitFrom .word word.reverse rest := by
  unfold quote
  split
  · next plain =>
    cases word with
    | nil => cases plain
    | cons c others =>
      obtain ⟨first, more⟩ : isPlain c = true ∧ others.all isPlain = true := by
        simpa using plain
      obtain ⟨separates, escapes, quotes⟩ := means_itself_of_isPlain first
      rw [List.cons_append, splitFrom, separates, quotes]
      simp only [Bool.false_eq_true, if_false, escapes, splitFrom_word_of_plain more,
        List.reverse_cons]
  · show splitFrom .between before ('\'' :: word.flatMap guarded ++ ['\''] ++ rest) = _
    have opens (content : List Char) :
        splitFrom .between before ('\'' :: content) = splitFrom (.quotation '\'') [] content := rfl
    rw [List.append_assoc, List.cons_append, opens, List.singleton_append,
      splitFrom_quotation_content, List.append_nil]

/-! ## All words -/

/-- The characters of joined words. -/
def joined (words : List (List Char)) : List Char := [' '].intercalate (words.map quote)

theorem splitFrom_joined (words : List (List Char)) (before : List Char) :
    splitFrom .between before (joined words) = .ok words := by
  induction words generalizing before with
  | nil => rfl
  | cons word rest ih =>
    cases rest with
    | nil =>
      have text : joined [word] = quote word ++ [] := by simp [joined]
      rw [text, splitFrom_quote, splitFrom, List.reverse_reverse]
    | cons next others =>
      have text : joined (word :: next :: others) =
          quote word ++ ' ' :: joined (next :: others) := by
        simp [joined]
      have parted (last more : List Char) :
          splitFrom .word last (' ' :: more) =
            (splitFrom .between [] more).map (last.reverse :: ·) := rfl
      rw [text, splitFrom_quote, parted, ih, List.reverse_reverse]
      rfl

theorem toList_join (words : List String) :
    (join words).toList = joined (words.map String.toList) := by
  simp [join, joined, Function.comp_def]

theorem split_join (words : List String) : split (join words) = .ok words := by
  rw [split, toList_join, splitFrom_joined]
  simp [Except.map]

example : join ["", "it's", "a b"] = "'' 'it'\"'\"'s' 'a b'" := by rfl

end Text.ShellWords

/-- Arguments that are written as a command are read from the settings as they were, whatever else
is set. -/
theorem Settings.arguments_join (settings : Settings) (words : List String) :
    { settings with extraArguments := Text.ShellWords.join words }.arguments = .ok words := by
  rw [arguments, Text.ShellWords.split_join]
  rfl

end CheckRouter
