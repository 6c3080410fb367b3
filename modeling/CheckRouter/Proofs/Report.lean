import CheckRouter.Proofs.Console.Markup
import CheckRouter.Proofs.Console.Table
import CheckRouter.Proofs.Issue.Printing
import CheckRouter.Proofs.Paths
import CheckRouter.Report

/-!
# Reports that lose nothing

On a console that is wide enough, both ways to report issues show the same texts, unless one of
them is taken for markup or has a code that the console draws a picture for.
-/

namespace CheckRouter

open CheckRouter.Console (Plain Holds Solid Simple)

section Simple

theorem simple_of_all {text : String}
    (simple : text.toList.all (fun c => ' ' ≤ c && c ≤ '~') = true) :
    ∀ c ∈ text.toList, Simple c := by
  intro c member
  have both := List.all_eq_true.mp simple c member
  simp only [Bool.and_eq_true, decide_eq_true_eq] at both
  exact both

theorem simple_of_mem_toDigits {n : Nat} {c : Char} (member : c ∈ Nat.toDigits 10 n) :
    Simple c := by
  have digit : 48 ≤ c.toNat ∧ c.toNat ≤ 57 := by
    simpa [Char.isDigit, UInt32.le_iff_toNat_le] using
      Nat.isDigit_of_mem_toDigits (by decide) (by decide) member
  have low : 32 ≤ c.toNat := by omega
  have high : c.toNat ≤ 126 := by omega
  exact ⟨low, high⟩

theorem Severity.simple_word (severity : Severity) : ∀ c ∈ severity.word.toList, Simple c := by
  cases severity <;> exact simple_of_all (by decide)

theorem Severity.width_word_le (severity : Severity) :
    Text.width severity.word.toList ≤ 7 := by
  rw [Console.width_of_simple severity.simple_word]
  cases severity <;> decide

end Simple

namespace Issue

variable {issue : Issue} {issues : List Issue} {c : Char}

theorem mem_location (member : c ∈ issue.location.toList) : c ∈ issue.path.toList ∨ Simple c := by
  have colon : ∀ c ∈ ":".toList, Simple c := simple_of_all (by decide)
  have line : 0 ≤ issue.line := Int.le_trans (by decide) issue.line_pos
  have column : 0 ≤ issue.column + 1 := Int.le_add_one issue.column_nonneg
  simp only [Issue.location, String.toList_append, List.mem_append, toString_of_nonneg line,
    toString_of_nonneg column] at member
  rcases member with (((path | between) | digit) | between) | digit
  · exact .inl path
  · exact .inr (colon c between)
  · exact .inr (simple_of_mem_toDigits digit)
  · exact .inr (colon c between)
  · exact .inr (simple_of_mem_toDigits digit)

theorem mem_toLine (member : c ∈ issue.toLine.toList) :
    c ∈ issue.path.toList ∨ c ∈ issue.message.toList ∨ Simple c := by
  have colon : ∀ c ∈ ": ".toList, Simple c := simple_of_all (by decide)
  simp only [Issue.toLine, String.toList_append, List.mem_append] at member
  rcases member with (((location | between) | word) | between) | message
  · exact (mem_location location).imp_right .inr
  · exact .inr (.inr (colon c between))
  · exact .inr (.inr (issue.severity.simple_word c word))
  · exact .inr (.inr (colon c between))
  · exact .inr (.inl message)

theorem simple_of_mem_counted {n : Nat} {noun : String} (simple : ∀ c ∈ noun.toList, Simple c)
    (member : c ∈ (counted n noun).toList) : Simple c := by
  have space : ∀ c ∈ " ".toList, Simple c := simple_of_all (by decide)
  have plural : ∀ c ∈ (if n = 1 then "" else "s").toList, Simple c := by
    split <;> exact simple_of_all (by decide)
  have number : (toString n).toList = Nat.toDigits 10 n := Nat.toList_repr
  simp only [counted, String.toList_append, List.mem_append, number] at member
  rcases member with ((digit | between) | noun) | ending
  · exact simple_of_mem_toDigits digit
  · exact space c between
  · exact simple c noun
  · exact plural c ending

theorem simple_of_mem_summary (member : c ∈ (summary issues).toList) : Simple c := by
  unfold summary at member
  split at member
  · have success : ∀ c ∈ "Success: no issues found".toList, Simple c := simple_of_all (by decide)
    exact success c member
  · have found : ∀ c ∈ "Found ".toList, Simple c := simple_of_all (by decide)
    have inside : ∀ c ∈ " in ".toList, Simple c := simple_of_all (by decide)
    have comma : ∀ c ∈ ", ".toList, Simple c := simple_of_all (by decide)
    have file : ∀ c ∈ "file".toList, Simple c := simple_of_all (by decide)
    simp only [String.toList_append, String.toList_intercalate, List.mem_append] at member
    rcases member with ((first | listed) | between) | files
    · exact found c first
    · rcases Text.mem_intercalate listed with between | ⟨part, among, here⟩
      · exact comma c between
      · simp only [List.map_map, List.mem_map] at among
        obtain ⟨⟨severity, n⟩, -, rfl⟩ := among
        exact simple_of_mem_counted severity.simple_word here
    · exact inside c between
    · exact simple_of_mem_counted file files

/-- The texts of an issue have no control characters. -/
structure IsPlain (issue : Issue) : Prop where
  path : Plain issue.path.toList
  message : Plain issue.message.toList

theorem IsPlain.location (plain : issue.IsPlain) : Plain issue.location.toList :=
  fun c member => (mem_location member).elim (plain.path c) (·.1)

theorem IsPlain.toLine (plain : issue.IsPlain) : Plain issue.toLine.toList :=
  fun c member => (mem_toLine member).elim (plain.path c) (·.elim (plain.message c) (·.1))

def isSimple (issue : Issue) : Bool :=
  issue.path.toList.all (fun c => ' ' ≤ c && c ≤ '~') &&
    issue.message.toList.all fun c => ' ' ≤ c && c ≤ '~'

theorem simple_of_isSimple (simple : issue.isSimple = true) :
    (∀ c ∈ issue.path.toList, Simple c) ∧ ∀ c ∈ issue.message.toList, Simple c := by
  obtain ⟨path, message⟩ := Bool.and_eq_true_iff.mp simple
  exact ⟨simple_of_all path, simple_of_all message⟩

theorem isPlain_of_isSimple (simple : issue.isSimple = true) : issue.IsPlain := by
  obtain ⟨path, message⟩ := simple_of_isSimple simple
  exact ⟨fun c member => (path c member).1, fun c member => (message c member).1⟩

end Issue

namespace Report

open CheckRouter.Console (Pictures signs signs_append)
open CheckRouter.Console.Markup
  (isKept render render_eq_self_iff shown_render signs_le_of_render signs_lt_of_render)

/-- A console is wide enough for a report: no line of it and no cell of its table is wrapped. -/
structure Fits (pictures : Pictures) (width : Nat) (issues : List Issue) : Prop where
  room : 6 < width
  concise : ∀ issue ∈ issues, Holds width issue.toLine.toList
  summary : Holds width (Issue.summary issues).toList
  table : ∀ columns, Report.columns pictures true issues = .ok columns → issues ≠ [] →
    Console.Table.Roomy width columns

/-- A line that sets three texts apart by spaces. -/
def Sets (location word message : List Char) (row : String) : Prop :=
  ∃ a b c d, row.toList = List.replicate a ' ' ++ location ++ List.replicate (b + 1) ' ' ++ word ++
    List.replicate (c + 1) ' ' ++ message ++ List.replicate d ' '

def Shows (issue : Issue) (row : String) : Prop :=
  Sets issue.location.toList issue.severity.word.toList issue.message.toList row

/-- A table of issues, one on a row, below two lines and a heading and above another line, and the
summary. No issues have no table. -/
def Tabulates (issues : List Issue) (printed : List String) : Prop :=
  ∃ top rows bottom, printed = top ++ rows ++ bottom ++ [Issue.summary issues] ∧
    List.Forall₂ Shows issues rows ∧
      (if issues = [] then top = [] ∧ bottom = [] else top.length = 3 ∧ bottom.length = 1)

variable {pictures : Pictures} {width : Nat} {issue : Issue} {issues : List Issue}

/-! ## Cells -/

theorem shown_eq_ok {cells : List String} {texts : List (List Char)} :
    shown pictures true cells = .ok texts ↔
      List.Forall₂ (fun cell text => (render pictures cell).map Console.dropControls = .ok text)
        cells texts := by
  unfold shown
  simp only [if_true]
  induction cells generalizing texts with
  | nil =>
    rw [List.mapM_nil, List.forall₂_nil_left_iff]
    exact ⟨fun same => by cases same; rfl, fun same => by rw [same]; rfl⟩
  | cons cell rest ih =>
    rw [List.mapM_cons, List.forall₂_cons_left_iff]
    cases first : (render pictures cell).map Console.dropControls with
    | error fault => simp [bind, Except.bind]
    | ok text =>
      constructor
      · intro same
        cases later : rest.mapM (fun cell => (render pictures cell).map Console.dropControls) with
        | error fault =>
          rw [later] at same
          cases same
        | ok others =>
          rw [later] at same
          cases same
          exact ⟨text, others, rfl, ih.mp later, rfl⟩
      · rintro ⟨_, others, ⟨⟩, each, rfl⟩
        rw [ih.mpr each]
        rfl

/-- The location and the message of an issue, read as markup. -/
def Reads (pictures : Pictures) (issue : Issue) (texts : List Char × List Char) : Prop :=
  render pictures issue.location = .ok texts.1 ∧ render pictures issue.message = .ok texts.2

def columnsOf (issues : List Issue) (texts : List (List Char × List Char)) :
    List Console.Table.Column :=
  [⟨"Location".toList :: texts.map Prod.fst, .fold⟩,
    ⟨"Severity".toList :: issues.map (·.severity.word.toList), .ellipsis⟩,
    ⟨"Message".toList :: texts.map Prod.snd, .fold⟩]

theorem read_iff {cell : String} {text : List Char} (plain : Plain cell.toList) :
    (render pictures cell).map Console.dropControls = .ok text ↔
      render pictures cell = .ok text := by
  cases read : render pictures cell with
  | error fault =>
    constructor <;>
      · intro fails
        cases fails
  | ok shown =>
    have visible : Plain shown := fun c member =>
      ((shown_render pictures cell).visible shown read c member).elim (plain c) id
    show Except.ok (Console.dropControls shown) = _ ↔ _
    rw [Console.dropControls_eq_self visible]

theorem render_severityCell (issue : Issue) :
    (render pictures (severityCell issue)).map Console.dropControls =
      .ok issue.severity.word.toList := by
  unfold severityCell
  cases issue.severity <;> rfl

theorem shown_heading {heading : String} {cells : List String} {texts : List (List Char)}
    (plain : (render pictures heading).map Console.dropControls = .ok heading.toList) :
    shown pictures true (heading :: cells) = .ok texts ↔
      ∃ others, List.Forall₂
        (fun cell text => (render pictures cell).map Console.dropControls = .ok text)
        cells others ∧ texts = heading.toList :: others := by
  rw [shown_eq_ok, List.forall₂_cons_left_iff, plain]
  constructor
  · rintro ⟨_, others, ⟨⟩, each, rfl⟩
    exact ⟨others, each, rfl⟩
  · rintro ⟨others, each, rfl⟩
    exact ⟨_, others, rfl, each, rfl⟩

theorem shown_texts (plain : ∀ issue ∈ issues, issue.IsPlain) (text : Issue → String)
    (visible : ∀ issue : Issue, issue.IsPlain → Plain (text issue).toList) (heading : String)
    (literal : (render pictures heading).map Console.dropControls = .ok heading.toList)
    {texts : List (List Char)} :
    shown pictures true (heading :: issues.map text) = .ok texts ↔
      ∃ others,
        List.Forall₂ (fun issue other => render pictures (text issue) = .ok other) issues others ∧
        texts = heading.toList :: others := by
  rw [shown_heading literal]
  refine exists_congr fun others => and_congr_left fun _ => ?_
  rw [List.forall₂_map_left_iff]
  constructor
  · intro each
    refine ((List.forall₂_and_left _ _).mpr ⟨plain, each⟩).imp fun issue other read => ?_
    exact (read_iff (visible issue read.1)).mp read.2
  · intro each
    refine ((List.forall₂_and_left _ _).mpr ⟨plain, each⟩).imp fun issue other read => ?_
    exact (read_iff (visible issue read.1)).mpr read.2

theorem shown_severities {texts : List (List Char)} :
    shown pictures true ("Severity" :: issues.map severityCell) = .ok texts ↔
      texts = "Severity".toList :: issues.map (·.severity.word.toList) := by
  rw [shown_heading rfl]
  have each : List.Forall₂
      (fun cell text => (render pictures cell).map Console.dropControls = .ok text)
      (issues.map severityCell) (issues.map (·.severity.word.toList)) := by
    rw [List.forall₂_map_left_iff, List.forall₂_map_right_iff]
    exact List.forall₂_same.mpr fun issue _ => render_severityCell issue
  constructor
  · rintro ⟨others, also, rfl⟩
    rw [List.right_unique_forall₂' ?_ also each]
    intro cell one two first second
    exact Except.ok.inj (first.symm.trans second)
  · rintro rfl
    exact ⟨_, each, rfl⟩

theorem exists_pairs {α β γ : Type} {one : α → β → Prop} {two : α → γ → Prop} {items : List α}
    {firsts : List β} {seconds : List γ} (first : List.Forall₂ one items firsts)
    (second : List.Forall₂ two items seconds) :
    ∃ pairs, List.Forall₂ (fun item pair => one item pair.1 ∧ two item pair.2) items pairs ∧
      pairs.map Prod.fst = firsts ∧ pairs.map Prod.snd = seconds := by
  induction first generalizing seconds with
  | nil =>
    cases second
    exact ⟨[], .nil, rfl, rfl⟩
  | cons here _ ih =>
    cases second with
    | cons there second =>
      obtain ⟨pairs, each, rfl, rfl⟩ := ih second
      exact ⟨(_, _) :: pairs, .cons ⟨here, there⟩ each, rfl, rfl⟩

theorem columns_eq_ok (plain : ∀ issue ∈ issues, issue.IsPlain)
    {columns : List Console.Table.Column} :
    Report.columns pictures true issues = .ok columns ↔
      ∃ texts, List.Forall₂ (Reads pictures) issues texts ∧ columns = columnsOf issues texts := by
  have locations (texts : List (List Char)) :
      shown pictures true ("Location" :: issues.map Issue.location) = .ok texts ↔ _ :=
    shown_texts plain Issue.location (fun _ plain => plain.location) "Location" rfl
  have messages (texts : List (List Char)) :
      shown pictures true ("Message" :: issues.map (·.message)) = .ok texts ↔ _ :=
    shown_texts plain (·.message) (fun _ plain => plain.message) "Message" rfl
  unfold Report.columns
  constructor
  · intro read
    cases first : shown pictures true ("Location" :: issues.map Issue.location) with
    | error fault => rw [first] at read; cases read
    | ok left =>
      cases second : shown pictures true ("Severity" :: issues.map severityCell) with
      | error fault => rw [first, second] at read; cases read
      | ok middle =>
        cases third : shown pictures true ("Message" :: issues.map (·.message)) with
        | error fault => rw [first, second, third] at read; cases read
        | ok right =>
          rw [first, second, third] at read
          cases read
          obtain ⟨firsts, one, rfl⟩ := (locations _).mp first
          obtain rfl := shown_severities.mp second
          obtain ⟨thirds, two, rfl⟩ := (messages _).mp third
          obtain ⟨texts, each, rfl, rfl⟩ := exists_pairs one two
          exact ⟨texts, each, rfl⟩
  · rintro ⟨texts, each, rfl⟩
    rw [(locations _).mpr ⟨texts.map Prod.fst, ?_, rfl⟩, shown_severities.mpr rfl,
      (messages _).mpr ⟨texts.map Prod.snd, ?_, rfl⟩]
    · rfl
    · rw [List.forall₂_map_right_iff]
      exact each.imp fun _ _ reads => reads.2
    · rw [List.forall₂_map_right_iff]
      exact each.imp fun _ _ reads => reads.1

/-! ## Rows -/

section Rows

variable {texts : List (List Char × List Char)}

theorem mem_texts (each : List.Forall₂ (Reads pictures) issues texts)
    {text : List Char × List Char} (member : text ∈ texts) :
    ∃ issue ∈ issues, Reads pictures issue text := by
  induction each with
  | nil => cases member
  | cons reads _ ih =>
    rcases List.mem_cons.mp member with rfl | member
    · exact ⟨_, List.mem_cons_self, reads⟩
    · obtain ⟨issue, among, reads⟩ := ih member
      exact ⟨issue, List.mem_cons_of_mem _ among, reads⟩

/-- What holds of the texts and of simple words holds of all cells. -/
theorem forall_cells {P : List Char → Prop} (words : ∀ word, (∀ c ∈ word, Simple c) → P word)
    (each : ∀ text ∈ texts, P text.1 ∧ P text.2) :
    ∀ column ∈ columnsOf issues texts, ∀ cell ∈ column.cells, P cell := by
  simp only [columnsOf, List.forall_mem_cons, List.forall_mem_map, List.not_mem_nil, false_implies,
    implies_true, and_true]
  refine ⟨⟨words _ (simple_of_all (by decide)), fun text member => (each text member).1⟩,
    ⟨words _ (simple_of_all (by decide)), fun issue _ => words _ issue.severity.simple_word⟩,
    words _ (simple_of_all (by decide)), fun text member => (each text member).2⟩

theorem plain_of_reads (plain : ∀ issue ∈ issues, issue.IsPlain)
    (each : List.Forall₂ (Reads pictures) issues texts) :
    ∀ column ∈ columnsOf issues texts, ∀ cell ∈ column.cells, Plain cell := by
  refine forall_cells (fun word simple c member => (simple c member).1) fun text member => ?_
  obtain ⟨issue, among, left, right⟩ := mem_texts each member
  have first := (shown_render pictures issue.location).visible _ left
  have second := (shown_render pictures issue.message).visible _ right
  exact ⟨fun c here => (first c here).elim ((plain issue among).location c) id,
    fun c here => (second c here).elim ((plain issue among).message c) id⟩

theorem sets_row {n : Nat} (roomy : Console.Table.Roomy width (columnsOf issues texts))
    (inside : n < issues.length) (also : n < texts.length) :
    Sets texts[n].1 issues[n].severity.word.toList texts[n].2
      (.ofList (Console.Table.rowText
        (Console.Table.rowCells width (columnsOf issues texts) (n + 1)))) := by
  have three := roomy.cells.length_eq
  obtain ⟨u, v, w, same⟩ := List.length_eq_three.mp three
  have cells : Console.Table.rowCells width (columnsOf issues texts) (n + 1) =
      [(u, texts[n].1), (v, issues[n].severity.word.toList), (w, texts[n].2)] := by
    rw [Console.Table.rowCells, same]
    simp [columnsOf, inside, also]
  rw [cells]
  -- Behind a text stand its padding, a space of its cell, one between cells, and one of the next.
  refine ⟨2, u - 2 - Text.width texts[n].1 + 2,
    v - 2 - Text.width issues[n].severity.word.toList + 2, w - 2 - Text.width texts[n].2 + 2, ?_⟩
  simp [Console.Table.rowText, Console.Table.padded, List.replicate_add]

def rowsOf (width : Nat) (issues : List Issue) (texts : List (List Char × List Char)) :
    List String :=
  (List.range issues.length).map fun n =>
    .ofList (Console.Table.rowText
      (Console.Table.rowCells width (columnsOf issues texts) (n + 1)))

theorem signs_of_sets {location word message : List Char} {row : String}
    (sets : Sets location word message row) :
    signs row.toList = signs location + signs word + signs message := by
  obtain ⟨a, b, c, d, same⟩ := sets
  have blank (n : Nat) : signs (List.replicate n ' ') = 0 := by
    rw [signs, List.countP_replicate]
    rfl
  simp only [same, signs_append, blank, Nat.zero_add, Nat.add_zero]

/-- What a row shows of its issue is the whole of it just if no part was taken for markup. -/
theorem shows_iff {text : List Char × List Char} {row : String}
    (reads : Reads pictures issue text)
    (sets : Sets text.1 issue.severity.word.toList text.2 row) :
    Shows issue row ↔
      isKept pictures issue.location = true ∧ isKept pictures issue.message = true := by
  constructor
  · intro shows
    -- Spaces hide where the texts of a row begin and end, so their signs are counted.
    have same : signs issue.location.toList + signs issue.message.toList =
        signs text.1 + signs text.2 := by
      have one := signs_of_sets shows
      have two := signs_of_sets sets
      omega
    have first := signs_le_of_render reads.1
    have second := signs_le_of_render reads.2
    constructor
    · by_contra lost
      have less := signs_lt_of_render reads.1 (by simpa using lost)
      omega
    · by_contra lost
      have less := signs_lt_of_render reads.2 (by simpa using lost)
      omega
  · rintro ⟨left, right⟩
    have first := Except.ok.inj (((render_eq_self_iff _).mpr left).symm.trans reads.1)
    have second := Except.ok.inj (((render_eq_self_iff _).mpr right).symm.trans reads.2)
    rw [Shows, first, second]
    exact sets

/-! ## Width -/

theorem breadth_le {heading : List Char} {cells : List (List Char)} {overflow : Console.Overflow}
    {bound : Nat} (first : Text.width heading ≤ bound)
    (each : ∀ cell ∈ cells, Text.width cell ≤ bound) :
    Console.Table.breadth ⟨heading :: cells, overflow⟩ ≤ bound :=
  (Console.Table.foldl_max_le_iff _ _ _ _).mpr
    ⟨Nat.zero_le _, List.forall_mem_cons.mpr ⟨first, each⟩⟩

/-- What a text shows takes some cells at most, and none of its characters is without one. -/
def Spans (pictures : Pictures) (text : String) (bound : Nat) : Prop :=
  ∀ shown, render pictures text = .ok shown → Solid shown ∧ Text.width shown ≤ bound

section Wide

variable {location message : Nat}
  (solid : ∀ issue ∈ issues, Solid issue.path.toList ∧ Solid issue.message.toList)
  (within : ∀ issue ∈ issues, Text.width issue.location.toList ≤ location ∧
    Text.width issue.message.toList ≤ message)
  (spans : ∀ issue ∈ issues, Spans pictures issue.location location ∧
    Spans pictures issue.message message)
  (headings : 8 ≤ location ∧ 7 ≤ message) (wide : location + message + 18 ≤ width)

include spans headings wide in
theorem roomy_of_reads (each : List.Forall₂ (Reads pictures) issues texts) :
    Console.Table.Roomy width (columnsOf issues texts) := by
  have left : Text.width "Location".toList = 8 :=
    Console.width_of_simple (simple_of_all (by decide))
  have middle : Text.width "Severity".toList = 8 :=
    Console.width_of_simple (simple_of_all (by decide))
  have right : Text.width "Message".toList = 7 :=
    Console.width_of_simple (simple_of_all (by decide))
  have bounds : ∀ text ∈ texts, (Solid text.1 ∧ Text.width text.1 ≤ location) ∧
      Solid text.2 ∧ Text.width text.2 ≤ message := by
    intro text member
    obtain ⟨issue, among, first, second⟩ := mem_texts each member
    exact ⟨(spans issue among).1 _ first, (spans issue among).2 _ second⟩
  apply Console.Table.roomy_of_breadth
  · exact forall_cells (fun word simple c member => (simple c member).solid)
      fun text member => ⟨(bounds text member).1.1, (bounds text member).2.1⟩
  · simp only [columnsOf, List.forall_mem_cons]
    refine ⟨⟨_, List.mem_cons_self, by omega⟩, ⟨_, List.mem_cons_self, by omega⟩,
      ⟨_, List.mem_cons_self, by omega⟩, List.forall_mem_nil _⟩
  · have first : Console.Table.breadth ⟨"Location".toList :: texts.map Prod.fst, .fold⟩ ≤
        location :=
      breadth_le (by omega) (List.forall_mem_map.mpr fun text member => (bounds text member).1.2)
    have second : Console.Table.breadth
        ⟨"Severity".toList :: issues.map (·.severity.word.toList), .ellipsis⟩ ≤ 8 :=
      breadth_le (by omega) (List.forall_mem_map.mpr fun issue _ =>
        Nat.le_succ_of_le issue.severity.width_word_le)
    have third : Console.Table.breadth ⟨"Message".toList :: texts.map Prod.snd, .fold⟩ ≤ message :=
      breadth_le (by omega) (List.forall_mem_map.mpr fun text member => (bounds text member).2.2)
    simp only [columnsOf, List.map_cons, List.map_nil, Console.Table.sum_cons]
    change _ + (_ + (_ + 0)) + 4 ≤ width
    omega

include solid within

theorem holds_toLine (wide : location + message + 11 ≤ width) {issue : Issue}
    (member : issue ∈ issues) : Holds width issue.toLine.toList := by
  have line : Solid issue.toLine.toList := by
    intro c among
    rcases Issue.mem_toLine among with path | message | simple
    · exact (solid issue member).1 c path
    · exact (solid issue member).2 c message
    · exact simple.solid
  have word := issue.severity.width_word_le
  have colon : Text.width ": ".toList = 2 := Console.width_of_simple (simple_of_all (by decide))
  obtain ⟨left, right⟩ := within issue member
  apply line.holds
  simp only [Issue.toLine, String.toList_append, Text.width_append, colon]
  omega

include spans headings wide in
/-- A console is wide enough if it has room for the longest location, the longest message, a
severity and ten cells more. -/
theorem fits_of_le (plain : ∀ issue ∈ issues, issue.IsPlain)
    (short : Text.width (Issue.summary issues).toList ≤ width) : Fits pictures width issues where
  room := by omega
  concise := fun _ => holds_toLine solid within (by omega)
  summary := by
    have line : Solid (Issue.summary issues).toList := fun c among =>
      (Issue.simple_of_mem_summary among).solid
    exact line.holds short
  table := by
    intro columns read _
    obtain ⟨texts, each, rfl⟩ := (columns_eq_ok plain).mp read
    exact roomy_of_reads spans headings wide each

end Wide

section Simple

variable {location message : Nat} (simple : ∀ issue ∈ issues, issue.isSimple = true)
  (within : ∀ issue ∈ issues, issue.location.toList.length ≤ location ∧
    issue.message.toList.length ≤ message)

include simple within

/-- The same for texts of simple characters, each of which takes one cell. -/
theorem fits_of_isSimple
    (spans : ∀ issue ∈ issues, Spans pictures issue.location location ∧
      Spans pictures issue.message message)
    (headings : 8 ≤ location ∧ 7 ≤ message) (wide : location + message + 18 ≤ width)
    (short : (Issue.summary issues).toList.length ≤ width) : Fits pictures width issues := by
  refine fits_of_le ?_ ?_ spans headings wide ?_ ?_
  · intro issue member
    obtain ⟨path, message⟩ := Issue.simple_of_isSimple (simple issue member)
    exact ⟨fun c here => (path c here).solid, fun c here => (message c here).solid⟩
  · intro issue member
    obtain ⟨path, message⟩ := Issue.simple_of_isSimple (simple issue member)
    rw [Console.width_of_simple fun c here => (Issue.mem_location here).elim (path c) id,
      Console.width_of_simple message]
    exact within issue member
  · exact fun issue member => Issue.isPlain_of_isSimple (simple issue member)
  · rwa [Console.width_of_simple fun c => Issue.simple_of_mem_summary]

end Simple

end Rows

/-! ## Lines -/

theorem paragraphs_summary (fits : Fits pictures width issues) :
    Console.paragraphs width (Issue.summary issues) = [Issue.summary issues] := by
  have room := fits.room
  have plain : Plain (Issue.summary issues).toList := fun _ member =>
    (Issue.simple_of_mem_summary member).1
  exact Console.paragraphs_of_holds (by omega) plain fits.summary

theorem lines_concise (plain : ∀ issue ∈ issues, issue.IsPlain)
    (fits : Fits pictures width issues) : lines .concise width issues pictures =
      .ok (issues.map Issue.toLine ++ [Issue.summary issues]) := by
  have room := fits.room
  have each : issues.flatMap (fun issue => Console.paragraphs width issue.toLine) =
      issues.map Issue.toLine := by
    rw [← List.flatMap_pure_eq_map]
    refine List.flatMap_congr fun issue member => ?_
    exact Console.paragraphs_of_holds (by omega) (plain issue member).toLine
      (fits.concise issue member)
  rw [← each, ← paragraphs_summary fits]
  rfl

theorem lines_table (fits : Fits pictures width issues) (some : issues ≠ []) :
    lines .table width issues pictures = (Report.columns pictures true issues).map fun columns =>
      Console.Table.lines width columns ++ [Issue.summary issues] := by
  have room : Console.Table.hasRoom width = true := decide_eq_true fits.room
  have filled : issues.isEmpty = false := by simpa using some
  unfold lines
  rw [filled, room, paragraphs_summary fits]
  cases Report.columns pictures true issues <;> rfl

theorem lines_of_reads {texts : List (List Char × List Char)}
    (plain : ∀ issue ∈ issues, issue.IsPlain) (fits : Fits pictures width issues)
    (some : issues ≠ []) (each : List.Forall₂ (Reads pictures) issues texts) :
    ∃ top bottom, lines .table width issues pictures =
        .ok (top ++ rowsOf width issues texts ++ bottom ++ [Issue.summary issues]) ∧
      top.length = 3 ∧ bottom.length = 1 := by
  have columns := (columns_eq_ok plain).mpr ⟨texts, each, rfl⟩
  have filled : ∀ column ∈ columnsOf issues texts, column.cells.length = issues.length + 1 := by
    have same := each.length_eq.symm
    simp [columnsOf, same]
  obtain ⟨blank, rule, printed⟩ := Console.Table.lines_of_roomy (fits.table _ columns some) rfl
    (plain_of_reads plain each) filled
  rw [List.map_append, List.map_append, List.map_map] at printed
  have prints := lines_table fits some
  rw [columns, Except.map, printed] at prints
  exact ⟨_, _, prints, rfl, rfl⟩

theorem forall₂_shows_iff {texts : List (List Char × List Char)}
    (fits : Fits pictures width issues) (plain : ∀ issue ∈ issues, issue.IsPlain)
    (some : issues ≠ [])
    (each : List.Forall₂ (Reads pictures) issues texts) :
    List.Forall₂ Shows issues (rowsOf width issues texts) ↔ ∀ issue ∈ issues,
      isKept pictures issue.location = true ∧ isKept pictures issue.message = true := by
  have roomy := fits.table _ ((columns_eq_ok plain).mpr ⟨texts, each, rfl⟩) some
  have row (n : Nat) (inside : n < issues.length) : Shows issues[n] _ ↔ _ :=
    shows_iff (each.get inside (each.length_eq ▸ inside))
      (sets_row roomy inside (each.length_eq ▸ inside))
  rw [List.forall₂_iff_get, List.forall_mem_iff_getElem]
  simp only [rowsOf, List.length_map, List.length_range, List.get_eq_getElem, List.getElem_map,
    List.getElem_range, true_and]
  constructor
  · intro shows n inside
    exact (row n inside).mp (shows n inside inside)
  · intro literal n inside _
    exact (row n inside).mpr (literal n inside)

theorem table_shows_iff (plain : ∀ issue ∈ issues, issue.IsPlain)
    (fits : Fits pictures width issues) :
    (∃ printed, lines .table width issues pictures = .ok printed ∧ Tabulates issues printed) ↔
      ∀ issue ∈ issues,
        isKept pictures issue.location = true ∧ isKept pictures issue.message = true := by
  by_cases empty : issues = []
  · subst empty
    refine iff_of_true ⟨[Issue.summary []], ?_, [], [], [], rfl, .nil, ?_⟩ (List.forall_mem_nil _)
    · exact lines_concise plain fits
    · rw [if_pos rfl]
      exact ⟨rfl, rfl⟩
  constructor
  · rintro ⟨printed, prints, top, rows, bottom, rfl, shows, lengths⟩
    rw [if_neg empty] at lengths
    cases read : Report.columns pictures true issues with
    | error fault =>
      rw [lines_table fits empty, read] at prints
      cases prints
    | ok columns =>
      obtain ⟨texts, each, rfl⟩ := (columns_eq_ok plain).mp read
      obtain ⟨above, below, also, three, one⟩ := lines_of_reads plain fits empty each
      -- Three lines stand above the rows in both, and one below them.
      have same := Except.ok.inj (prints.symm.trans also)
      have inner := List.append_inj_left' same rfl
      have upper := List.append_inj_left' inner (lengths.2.trans one.symm)
      have rows := List.append_inj_right upper (lengths.1.trans three.symm)
      exact (forall₂_shows_iff fits plain empty each).mp (rows ▸ shows)
  · intro literal
    have each : List.Forall₂ (Reads pictures) issues
        (issues.map fun issue => (issue.location.toList, issue.message.toList)) := by
      rw [List.forall₂_map_right_iff]
      refine List.forall₂_same.mpr fun issue member => ⟨?_, ?_⟩
      · exact (render_eq_self_iff _).mpr (literal issue member).1
      · exact (render_eq_self_iff _).mpr (literal issue member).2
    obtain ⟨top, bottom, prints, lengths⟩ := lines_of_reads plain fits empty each
    have shows := (forall₂_shows_iff fits plain empty each).mpr literal
    refine ⟨_, prints, top, _, bottom, rfl, shows, ?_⟩
    rw [if_neg empty]
    exact lengths

/-- A line number between its colons is a code as well, and the location of an issue on line 100 is
shown without it. -/
theorem not_tabulates_lineNumber :
    let issues : List Issue := [⟨"a.py", 100, 4, .error, "x", by decide, by decide⟩]
    (∀ issue ∈ issues, issue.IsPlain) ∧ Fits .numbers 80 issues ∧
      lines .concise 80 issues .numbers =
        .ok ["a.py:100:5: error: x", "Found 1 error in 1 file"] ∧
      render .numbers "a.py:100:5" = .ok "a.py💯5".toList ∧
      ¬ ∃ printed, lines .table 80 issues .numbers = .ok printed ∧ Tabulates issues printed := by
  intro issues
  have simple : ∀ issue ∈ issues, issue.isSimple = true := by decide +kernel
  have plain : ∀ issue ∈ issues, issue.IsPlain :=
    fun issue member => Issue.isPlain_of_isSimple (simple issue member)
  have shown : render .numbers "a.py:100:5" = .ok "a.py💯5".toList := by decide +kernel
  have word : render .numbers "x" = .ok "x".toList := by decide +kernel
  have location : Solid "a.py💯5".toList := by
    have all : "a.py💯5".toList.all (fun c => !Text.isLineBreak c && 0 < Text.cellWidth c) := by
      decide +kernel
    simpa [Solid] using all
  have spans : ∀ issue ∈ issues, Spans .numbers issue.location 10 ∧
      Spans .numbers issue.message 7 := by
    rw [List.forall_mem_singleton]
    refine ⟨fun text read => ?_, fun text read => ?_⟩
    · rw [Except.ok.inj (read.symm.trans shown)]
      exact ⟨location, by decide +kernel⟩
    · rw [Except.ok.inj (read.symm.trans word)]
      exact ⟨fun c member => (simple_of_all (by decide) c member).solid, by decide +kernel⟩
  have fits : Fits .numbers 80 issues := by
    refine fits_of_isSimple simple ?_ spans ?_ ?_ ?_ <;> decide +kernel
  refine ⟨plain, fits, (lines_concise plain fits).trans ?_, shown, ?_⟩
  · decide +kernel
  · rw [table_shows_iff plain fits]
    decide +kernel

end Report

end CheckRouter
