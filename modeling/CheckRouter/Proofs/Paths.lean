import CheckRouter.Proofs.Lookups
import CheckRouter.Settings

/-!
# Paths and their texts

The text of an absolute path is read back as that path. A path of the settings is absolute whenever
the project root is, so its text means the same program wherever it is looked up.
-/

namespace CheckRouter

/-! ## Splitting -/

namespace Text

theorem pieces_eq_splitOn (separator : Char) (text : List Char) :
    pieces separator text = text.splitOn separator := by
  induction text with
  | nil => rfl
  | cons c rest ih =>
    rw [pieces, List.splitOn_cons_eq_if_modifyHead, ← ih]
    by_cases here : c = separator
    · simp [here]
    · cases found : pieces separator rest with
      | nil => exact absurd found (pieces_ne_nil separator rest)
      | cons first others => simp [here]

theorem splitAt_intercalate {parts : List String} (some : parts ≠ [])
    (apart : ∀ part ∈ parts, '/' ∉ part.toList) :
    splitAt '/' ("/".intercalate parts) = parts := by
  have split : (['/'].intercalate (parts.map String.toList)).splitOn '/' =
      parts.map String.toList := by
    refine List.splitOn_intercalate '/' (fun piece member => ?_) (by simpa using some)
    obtain ⟨part, there, rfl⟩ := List.mem_map.mp member
    exact apart part there
  rw [splitAt, pieces_eq_splitOn, String.toList_intercalate]
  simp [split]

theorem splitAt_slash (text : String) : splitAt '/' ("/" ++ text) = "" :: splitAt '/' text := by
  simp [splitAt, pieces]

theorem mem_of_mem_pieces {separator c : Char} {text piece : List Char}
    (member : piece ∈ pieces separator text) (inside : c ∈ piece) : c ∈ text := by
  induction text generalizing piece with
  | nil =>
    rw [pieces, List.mem_singleton] at member
    rw [member] at inside
    cases inside
  | cons first rest ih =>
    unfold pieces at member
    split at member
    · rcases List.mem_cons.mp member with rfl | later
      · cases inside
      · exact List.mem_cons_of_mem _ (ih later inside)
    · split at member
      · next begun others found =>
        rcases List.mem_cons.mp member with rfl | later
        · exact (List.mem_cons.mp inside).elim (fun same => same ▸ List.mem_cons_self)
            fun below => List.mem_cons_of_mem _ (ih (found ▸ List.mem_cons_self) below)
        · exact List.mem_cons_of_mem _ (ih (found ▸ List.mem_cons_of_mem _ later) inside)
      · next none => exact absurd none (pieces_ne_nil separator rest)

theorem mem_intercalate {c : Char} {separator : List Char} {parts : List (List Char)}
    (member : c ∈ separator.intercalate parts) : c ∈ separator ∨ ∃ part ∈ parts, c ∈ part := by
  induction parts with
  | nil => cases member
  | cons part rest ih =>
    cases rest with
    | nil => exact .inr ⟨part, List.mem_cons_self, by simpa using member⟩
    | cons next others =>
      rw [List.intercalate_cons_cons, List.mem_append, List.mem_append] at member
      rcases member with (here | between) | later
      · exact .inr ⟨part, List.mem_cons_self, here⟩
      · exact .inl between
      · refine (ih later).imp_right ?_
        rintro ⟨other, among, inside⟩
        exact ⟨other, List.mem_cons_of_mem _ among, inside⟩

end Text

/-! ## Reading back -/

namespace Path

theorem isPathPart_iff {part : String} :
    isPathPart part = true ↔ part ≠ "" ∧ part ≠ "." ∧ '/' ∉ part.toList := by
  simp [isPathPart, and_assoc]

theorem partsOf_slash (text : String) : partsOf ("/" ++ text) = partsOf text := by
  simp [partsOf, Text.splitAt_slash]

theorem partsOf_intercalate {parts : List String} (valid : parts.all isPathPart = true) :
    partsOf ("/".intercalate parts) = parts := by
  have part_valid (part : String) (member : part ∈ parts) :=
    isPathPart_iff.mp (List.all_eq_true.mp valid part member)
  by_cases none : parts = []
  · rw [none, String.intercalate_nil]
    decide
  · rw [partsOf, Text.splitAt_intercalate none fun part member => (part_valid part member).2.2]
    refine List.filter_eq_self.mpr fun part member => ?_
    simp [(part_valid part member).1, (part_valid part member).2.1]

theorem takeWhile_intercalate {parts : List String} (valid : parts.all isPathPart = true) :
    ("/".intercalate parts).toList.takeWhile (· = '/') = [] := by
  cases parts with
  | nil => simp
  | cons part rest =>
    obtain ⟨filled, -, apart⟩ := isPathPart_iff.mp (List.all_eq_true.mp valid part (by simp))
    have begins : ∃ more, ("/".intercalate (part :: rest)).toList = part.toList ++ more := by
      cases rest with
      | nil => exact ⟨[], by simp⟩
      | cons next others => exact ⟨'/' :: ("/".intercalate (next :: others)).toList, by simp⟩
    obtain ⟨more, begins⟩ := begins
    rw [begins]
    cases letters : part.toList with
    | nil => exact absurd (String.toList_eq_nil_iff.mp letters) filled
    | cons c others =>
      rw [letters] at apart
      have differs : c ≠ '/' := fun same => apart (by simp [same])
      simp [differs]

theorem ofString_toString {path : Path} (absolute : path.isAbsolute = true) :
    ofString path.toString = path := by
  obtain ⟨anchor, parts, valid⟩ := path
  have first := takeWhile_intercalate valid
  have read := partsOf_intercalate valid
  cases anchor with
  | relative => cases absolute
  | root =>
    have text : (⟨.root, parts, valid⟩ : Path).toString = "/" ++ "/".intercalate parts := rfl
    have anchor : Anchor.ofText ("/" ++ "/".intercalate parts).toList = .root := by
      simp [-String.toList_intercalate, Anchor.ofText, first]
    simp only [ofString, text, anchor, partsOf_slash, read]
  | doubleRoot =>
    have text : (⟨.doubleRoot, parts, valid⟩ : Path).toString =
        "/" ++ ("/" ++ "/".intercalate parts) := by
      rw [← String.append_assoc]
      rfl
    have anchor : Anchor.ofText ("/" ++ ("/" ++ "/".intercalate parts)).toList = .doubleRoot := by
      simp [-String.toList_intercalate, Anchor.ofText, first]
    simp only [ofString, text, anchor, partsOf_slash, read]

/-- The text of a path that was read has no characters but those that were read, slashes and a
dot. -/
theorem mem_of_mem_toString {c : Char} {text : String}
    (member : c ∈ (ofString text).toString.toList) : c = '/' ∨ c = '.' ∨ c ∈ text.toList := by
  unfold toString at member
  split at member
  · exact .inr (.inl (by simpa using member))
  · rw [String.toList_append, List.mem_append, String.toList_intercalate] at member
    rcases member with front | later
    · left
      cases anchored : (ofString text).anchor <;> simp_all [Anchor.text]
    · rcases Text.mem_intercalate later with slash | ⟨part, among, inside⟩
      · exact .inl (by simpa using slash)
      · obtain ⟨word, there, rfl⟩ := List.mem_map.mp among
        obtain ⟨piece, cut, rfl⟩ := List.mem_map.mp (List.mem_filter.mp there).1
        rw [String.toList_ofList] at inside
        exact .inr (.inr (Text.mem_of_mem_pieces cut inside))

theorem isAbsolute_ofString (name : String) :
    (ofString name).isAbsolute = FileTree.isRooted name := by
  show (Anchor.ofText name.toList != .relative) = (name.toList.head? == some '/')
  unfold Anchor.ofText
  cases name.toList with
  | nil => rfl
  | cons c rest =>
    by_cases slash : c = '/'
    · subst slash
      simp
      split <;> simp_all
    · simp [slash]

end Path

theorem Machine.holdsNull_ofString {text : String} (clean : holdsNull text = false) :
    holdsNull (Path.ofString text).toString = false := by
  rw [holdsNull, List.contains_eq_mem, decide_eq_false_iff_not] at clean ⊢
  intro member
  rcases Path.mem_of_mem_toString member with slash | dot | inside
  · exact absurd slash (by decide)
  · exact absurd dot (by decide)
  · exact clean inside

theorem Machine.of_resolve_eq_ok {machine : Machine} {path key : Path}
    (resolved : machine.resolve path = .ok key) :
    (∃ canonical, machine.disk.canonical? machine.nesting machine.directory path.toString =
        some canonical ∧ key = Path.ofString canonical) ∧ holdsNull key.toString = false := by
  unfold resolve at resolved
  dsimp only at resolved
  split at resolved
  · cases resolved
  · split at resolved
    · cases resolved
    · next canonical found =>
      split at resolved
      · cases resolved
      · next clean =>
        split at resolved
        · cases resolved
        · cases resolved
          exact ⟨⟨canonical, found, rfl⟩, Bool.eq_false_iff.mpr clean⟩

theorem Disk.isRooted_of_canonical {disk : Disk} {depth : Nat} {directory name canonical : String}
    (found : disk.canonical? depth directory name = some canonical) :
    FileTree.isRooted canonical = true := by
  have front (double : Prop) [Decidable double] (rest : String) :
      FileTree.isRooted ((if double then "//" else "/") ++ rest) = true := by
    rw [FileTree.isRooted, String.toList_append]
    split <;> rfl
  unfold canonical? at found
  split at found
  · cases found
    exact front _ _
  · cases found
    exact front _ _
  · cases found

theorem Machine.isAbsolute_of_resolve {machine : Machine} {path key : Path}
    (resolved : machine.resolve path = .ok key) : key.isAbsolute = true := by
  obtain ⟨⟨canonical, found, rfl⟩, -⟩ := of_resolve_eq_ok resolved
  rw [Path.isAbsolute_ofString, Disk.isRooted_of_canonical found]

theorem Settings.isAbsolute_of_resolve {settings : Settings} {machine : Machine} {text : String}
    {path : Path} (rooted : settings.projectRoot.isAbsolute = true)
    (resolved : settings.resolve machine text = .ok path) : path.isAbsolute = true := by
  unfold resolve at resolved
  cases expanded : machine.expandHome (Path.ofString text) with
  | error failure => rw [expanded] at resolved; cases resolved
  | ok other =>
    rw [expanded] at resolved
    cases resolved
    exact Path.isAbsolute_join_of_isAbsolute rooted

theorem Settings.resolve_toString (settings : Settings) (machine : Machine) {path : Path}
    (absolute : path.isAbsolute = true) : settings.resolve machine path.toString = .ok path := by
  have expands : machine.expandHome path = .ok path := by
    unfold Machine.expandHome
    split
    · next anchor _ => simp [Path.isAbsolute, anchor] at absolute
    · rfl
  rw [resolve, Path.ofString_toString absolute, expands]
  simp only [Except.map, Path.join, absolute, if_true]

theorem Path.isAbsolute_div {path : Path} (absolute : path.isAbsolute = true) (name : String) :
    (path / name).isAbsolute = true := by
  show (path.join (ofString name)).isAbsolute = true
  unfold join
  split
  · assumption
  · exact absolute

end CheckRouter
