import CheckRouter.Issue.Summary
import CheckRouter.Proofs.Grouping
import Mathlib

/-!
# What a summary tells

The summary of issues is a sentence with the number of issues of each severity and the number of
files. `summary_tells` says that the numbers are right, and that the sentence tells nothing else: it
is the same for other issues just if their numbers are.
-/

namespace CheckRouter.Issue

variable {issues others : List Issue}

/-- A number of things in words, in the singular just if there is one. -/
inductive Phrase (noun : String) : Nat → String → Prop
  | one : Phrase noun 1 ("1 " ++ noun)
  | many (n : Nat) (several : n ≠ 1) : Phrase noun n (toString n ++ " " ++ noun ++ "s")

/-- A sentence that lists how many issues of some severities there are, and in how many files. -/
structure Sentence (listed : List (Severity × Nat)) (files : Nat) (text : String) : Prop where
  filled : listed ≠ []
  worded : ∃ phrases last,
    List.Forall₂ (fun entry phrase => Phrase entry.1.word entry.2 phrase) listed phrases ∧
      Phrase "file" files last ∧ text = "Found " ++ ", ".intercalate phrases ++ " in " ++ last

/-! ## Numbers -/

theorem sum_counted (entries : List (Severity × Nat)) :
    ((entries.filter (0 < ·.2)).map Prod.snd).sum = (entries.map Prod.snd).sum := by
  induction entries with
  | nil => rfl
  | cons entry rest ih =>
    by_cases some : 0 < entry.2
    · simp [some, ih]
    · simp [ih, Nat.eq_zero_of_not_pos some]

theorem sum_counts (issues : List Issue) :
    ((counts issues).map Prod.snd).sum = issues.length := by
  have total : count .error issues + (count .warning issues + count .note issues) =
      issues.length := by
    induction issues with
    | nil => rfl
    | cons issue rest ih =>
      cases severity : issue.severity <;> simp [count, severity] at ih ⊢ <;> omega
  rw [counts, sum_counted]
  simpa [Severity.all] using total

theorem mem_counts {severity : Severity} {n : Nat} :
    (severity, n) ∈ counts issues ↔ n ≠ 0 ∧ n = count severity issues := by
  simp only [counts, List.mem_filter, List.mem_map, decide_eq_true_eq]
  constructor
  · rintro ⟨⟨other, -, ⟨⟩⟩, occurs⟩
    exact ⟨Nat.ne_of_gt occurs, rfl⟩
  · rintro ⟨occurs, rfl⟩
    exact ⟨⟨severity, severity.mem_all, rfl⟩, Nat.pos_of_ne_zero occurs⟩

theorem severities_counts (issues : List Issue) :
    ((counts issues).map Prod.fst).Sublist Severity.all := by
  have whole : (Severity.all.map fun severity => (severity, count severity issues)).map Prod.fst =
      Severity.all := by simp [Function.comp_def]
  rw [← whole]
  exact List.filter_sublist.map Prod.fst

theorem length_paths (issues : List Issue) :
    (paths issues).length = (issues.map (·.path)).toFinset.card := by
  rw [paths, ← List.toFinset_card_of_nodup (nodup_eraseDups _)]
  congr 1
  ext path
  simp

theorem count_perm (perm : issues.Perm others) (severity : Severity) :
    count severity issues = count severity others :=
  perm.countP_eq _

/-! ## Words -/

def noun (n : Nat) (singular : String) : String := if n = 1 then singular else singular ++ "s"

theorem counted_eq (n : Nat) (singular : String) :
    counted n singular = toString n ++ " " ++ noun n singular := by
  unfold counted noun
  split <;> simp [String.append_assoc]

theorem phrase_iff {n : Nat} {singular text : String} :
    Phrase singular n text ↔ counted n singular = text := by
  rw [counted_eq]
  constructor
  · intro phrase
    cases phrase with
    | one => rfl
    | many _ several => rw [noun, if_neg several, ← String.append_assoc]
  · rintro rfl
    by_cases single : n = 1
    · subst single
      exact .one
    · rw [noun, if_neg single, ← String.append_assoc]
      exact .many n single

/-- The words for some numbers of issues, a comma behind all but the last. -/
def words : List (Severity × Nat) → List String
  | [] => []
  | (severity, n) :: rest =>
    toString n :: (noun n severity.word ++ if rest.isEmpty then "" else ",") :: words rest

theorem intercalate_words (listed : List (Severity × Nat)) :
    " ".intercalate (words listed) =
      ", ".intercalate (listed.map fun entry => counted entry.2 entry.1.word) := by
  induction listed with
  | nil => rfl
  | cons entry rest ih =>
    cases rest with
    | nil => simp [words, counted_eq, String.append_assoc]
    | cons next others =>
      simp only [words, List.map_cons, String.intercalate_cons_cons] at ih ⊢
      rw [ih]
      simp [counted_eq, String.append_assoc]

theorem noun_word_inj {n : Nat} {severity other : Severity}
    (same : noun n severity.word = noun n other.word) : severity = other := by
  have word : severity.word = other.word := by
    unfold noun at same
    split at same
    · exact same
    · exact (String.append_left_inj _).mp same
  simpa using congrArg Severity.ofWord? word

theorem words_inj {listed others : List (Severity × Nat)} (same : words listed = words others) :
    listed = others := by
  induction listed generalizing others with
  | nil =>
    cases others with
    | nil => rfl
    | cons => cases same
  | cons entry rest ih =>
    cases others with
    | nil => cases same
    | cons other more =>
      obtain ⟨severity, n⟩ := entry
      obtain ⟨severity', n'⟩ := other
      simp only [words, List.cons.injEq] at same
      obtain ⟨number, word, later⟩ := same
      obtain rfl := Nat.repr_inj.mp number
      obtain rfl := ih later
      obtain rfl := noun_word_inj ((String.append_left_inj _).mp word)
      rfl

/-- A word without a space. -/
def IsWord (word : String) : Prop := ' ' ∉ word.toList

theorem isWord_toString (n : Nat) : IsWord (toString n) := by
  intro member
  have digits : (toString n).toList = Nat.toDigits 10 n := Nat.toList_repr
  rw [digits] at member
  exact absurd (Nat.isDigit_of_mem_toDigits (by decide) (by decide) member) (by decide)

theorem isWord_noun (n : Nat) {singular : String} (isWord : IsWord singular) :
    IsWord (noun n singular) := by
  unfold noun
  split
  · exact isWord
  · simpa [IsWord] using isWord

theorem isWord_of_mem_words {listed : List (Severity × Nat)} {word : String}
    (member : word ∈ words listed) : IsWord word := by
  induction listed with
  | nil => cases member
  | cons entry rest ih =>
    obtain ⟨severity, n⟩ := entry
    rcases List.mem_cons.mp member with rfl | member
    · exact isWord_toString n
    · rcases List.mem_cons.mp member with rfl | later
      · have isWord : IsWord (noun n severity.word) :=
          isWord_noun n (by cases severity <;> simp [IsWord, Severity.word])
        unfold IsWord at isWord ⊢
        split <;> simpa using isWord
      · exact ih later

theorem eq_of_intercalate {one other : List String} (filled : one ≠ []) (also : other ≠ [])
    (isWord : ∀ word ∈ one, IsWord word) (isWord' : ∀ word ∈ other, IsWord word)
    (same : " ".intercalate one = " ".intercalate other) : one = other := by
  have split {list : List String} (filled : list ≠ []) (isWord : ∀ word ∈ list, IsWord word) :
      (" ".intercalate list).toList.splitOn ' ' = list.map String.toList := by
    rw [String.toList_intercalate]
    refine List.splitOn_intercalate ' ' (fun letters member => ?_) (by simpa using filled)
    obtain ⟨word, among, rfl⟩ := List.mem_map.mp member
    exact isWord word among
  have lists : one.map String.toList = other.map String.toList := by
    rw [← split filled isWord, same, split also isWord']
  exact List.map_injective_iff.mpr (fun _ _ => String.toList_inj.mp) lists

/-! ## Sentences -/

section Sentence

variable {listed : List (Severity × Nat)} {files : Nat} {text : String}

theorem sentence_iff : Sentence listed files text ↔ listed ≠ [] ∧
    text = "Found " ++ ", ".intercalate (listed.map fun entry => counted entry.2 entry.1.word) ++
      " in " ++ counted files "file" := by
  have each (phrases : List String) :
      List.Forall₂ (fun entry phrase => Phrase entry.1.word entry.2 phrase) listed phrases ↔
        (listed.map fun entry => counted entry.2 entry.1.word) = phrases := by
    simp only [phrase_iff, ← List.forall₂_map_left_iff, List.forall₂_eq_eq_eq]
  constructor
  · rintro ⟨filled, phrases, last, worded, file, rfl⟩
    rw [(each phrases).mp worded, phrase_iff.mp file]
    exact ⟨filled, rfl⟩
  · rintro ⟨filled, rfl⟩
    exact ⟨filled, _, _, (each _).mpr rfl, phrase_iff.mpr rfl, rfl⟩

/-- The words of a sentence. -/
def sentenceWords (listed : List (Severity × Nat)) (files : Nat) : List String :=
  "Found" :: (words listed ++ ["in", toString files, noun files "file"])

theorem Sentence.eq_intercalate (sentence : Sentence listed files text) :
    text = " ".intercalate (sentenceWords listed files) := by
  obtain ⟨filled, rfl⟩ := sentence_iff.mp sentence
  have some : words listed ≠ [] := by
    obtain ⟨entry, rest, rfl⟩ := List.exists_cons_of_ne_nil filled
    exact List.cons_ne_nil _ _
  have found : "Found " = "Found" ++ " " := rfl
  have between : " in " = " " ++ ("in" ++ " ") := rfl
  rw [sentenceWords, String.intercalate_cons_of_ne_nil (by simp),
    String.intercalate_append_of_ne_nil some (by simp), intercalate_words, found, between]
  simp only [counted_eq, String.append_assoc, String.intercalate_cons_cons,
    String.intercalate_singleton]

theorem isWord_of_mem_sentenceWords {word : String}
    (member : word ∈ sentenceWords listed files) : IsWord word := by
  rcases List.mem_cons.mp member with rfl | member
  · simp [IsWord]
  · rcases List.mem_append.mp member with number | member
    · exact isWord_of_mem_words number
    · simp only [List.mem_cons, List.not_mem_nil, or_false] at member
      rcases member with rfl | rfl | rfl
      · simp [IsWord]
      · exact isWord_toString files
      · exact isWord_noun files (by simp [IsWord])

/-- A sentence can be read in one way only. -/
theorem Sentence.unique {others : List (Severity × Nat)} {more : Nat}
    (sentence : Sentence listed files text) (also : Sentence others more text) :
    listed = others ∧ files = more := by
  have same : sentenceWords listed files = sentenceWords others more :=
    eq_of_intercalate (List.cons_ne_nil _ _) (List.cons_ne_nil _ _)
      (fun _ => isWord_of_mem_sentenceWords) (fun _ => isWord_of_mem_sentenceWords)
      (sentence.eq_intercalate.symm.trans also.eq_intercalate)
  obtain ⟨numbers, ending⟩ := List.append_inj' (List.cons.inj same).2 rfl
  simp only [List.cons.injEq, true_and] at ending
  exact ⟨words_inj numbers, Nat.repr_inj.mp ending.1⟩

end Sentence

theorem sentence_summary (some : issues ≠ []) :
    Sentence (counts issues) (paths issues).length (summary issues) := by
  have filled : counts issues ≠ [] := by
    intro none
    have total := sum_counts issues
    rw [none] at total
    exact some (List.length_eq_zero_iff.mp total.symm)
  refine sentence_iff.mpr ⟨filled, ?_⟩
  rw [summary, if_neg (by simpa using some)]

theorem count_eq_length (severity : Severity) (issues : List Issue) :
    count severity issues = (issues.filter (·.severity = severity)).length :=
  List.countP_eq_length_filter

theorem count_eq_of_counts (same : counts issues = counts others) (severity : Severity) :
    count severity issues = count severity others := by
  have occurs {issues others : List Issue} (same : counts issues = counts others)
      (some : count severity issues ≠ 0) : count severity issues = count severity others := by
    have listed : (severity, count severity issues) ∈ counts others :=
      same ▸ mem_counts.mpr ⟨some, rfl⟩
    exact (mem_counts.mp listed).2
  by_cases none : count severity issues = 0
  · by_cases also : count severity others = 0
    · rw [none, also]
    · exact (occurs same.symm also).symm
  · exact occurs same none

theorem counts_congr (same : ∀ severity, count severity issues = count severity others) :
    counts issues = counts others := by
  simp only [counts, same]

/-- Summaries differ just where numbers do. -/
theorem summary_eq_iff : summary issues = summary others ↔
    (∀ severity, count severity issues = count severity others) ∧
      (paths issues).length = (paths others).length := by
  have nil_ne {some : List Issue} (filled : some ≠ []) : summary [] ≠ summary some := by
    obtain ⟨-, found⟩ := sentence_iff.mp (sentence_summary filled)
    intro same
    have first := congrArg (fun text => text.toList.head?) (same.trans found)
    simp [summary] at first
  constructor
  · intro same
    by_cases none : issues = []
    · by_cases also : others = []
      · simp [none, also]
      · exact absurd (none ▸ same) (nil_ne also)
    · by_cases also : others = []
      · exact absurd (also ▸ same).symm (nil_ne none)
      · obtain ⟨listed, files⟩ := (sentence_summary none).unique (same ▸ sentence_summary also)
        exact ⟨count_eq_of_counts listed, files⟩
  · rintro ⟨numbers, files⟩
    have listed := counts_congr numbers
    have size : issues.length = others.length := by
      rw [← sum_counts issues, listed, sum_counts others]
    have empty : issues.isEmpty = others.isEmpty := by
      rw [Bool.eq_iff_iff, List.isEmpty_iff_length_eq_zero, List.isEmpty_iff_length_eq_zero, size]
    rw [summary, summary, listed, files, empty]

/-- A summary of no issues says so. Any other tells in the fixed order how many issues of each
severity there are, if any, and in how many files they are. The numbers add up to all issues, and
the summary tells these numbers and nothing else of the issues, such as their order. -/
theorem summary_tells (issues : List Issue) :
    (issues = [] → summary issues = "Success: no issues found") ∧
      (issues ≠ [] → ∃ listed files, Sentence listed files (summary issues) ∧
        (listed.map Prod.fst).Sublist [.error, .warning, .note] ∧
        (∀ severity n, (severity, n) ∈ listed ↔
          n ≠ 0 ∧ n = (issues.filter (·.severity = severity)).length) ∧
        (listed.map Prod.snd).sum = issues.length ∧
        files = (issues.map (·.path)).toFinset.card) ∧
      (∀ others, summary issues = summary others ↔
        (∀ severity, (issues.filter (·.severity = severity)).length =
          (others.filter (·.severity = severity)).length) ∧
        (issues.map (·.path)).toFinset.card = (others.map (·.path)).toFinset.card) ∧
      ∀ others, issues.Perm others → summary issues = summary others := by
  refine ⟨?_, fun some => ?_, fun others => ?_, fun others perm => ?_⟩
  · rintro rfl
    rfl
  · refine ⟨counts issues, (paths issues).length, sentence_summary some, severities_counts issues,
      fun severity n => ?_, sum_counts issues, length_paths issues⟩
    rw [← count_eq_length]
    exact mem_counts
  · simp only [← count_eq_length, ← length_paths]
    exact summary_eq_iff
  · refine summary_eq_iff.mpr ⟨count_perm perm, ?_⟩
    rw [length_paths, length_paths, List.toFinset_eq_of_perm _ _ (perm.map _)]

end CheckRouter.Issue
