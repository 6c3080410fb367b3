import CheckRouter.Proofs.Paths
import CheckRouter.Settings.ProjectFile
import Mathlib

/-!
# Precedence of settings

What the caller gives for a setting goes before the project file, and in the file the last spelling
of a key counts. `Layered` says so of a mapping, and `ProjectFile.load_precedence` that settings are
read from such a mapping whatever stands in its layers below, and always at the root that was asked
for.
-/

namespace CheckRouter

/-! ## Mappings -/

namespace Entries

/-- The value that a name is given last. -/
def last? (entries : Entries) (name : String) : Option Value := entries.reverse.lookup name

/-- Every name stands once. -/
def Distinct (entries : Entries) : Prop := (entries.map Prod.fst).Nodup

section Names

variable {entries others : Entries} {name : String} {value : Value}

theorem last?_cons (key : String) (value : Value) (entries : Entries) (name : String) :
    last? ((key, value) :: entries) name =
      (last? entries name).or (if name = key then some value else none) := by
  rw [last?, List.reverse_cons, List.lookup_append, ← last?]
  by_cases same : name = key
  · simp [same]
  · simp [List.lookup_cons, same, beq_eq_false_iff_ne.mpr same]

theorem get?_update (entries changes : Entries) (name : String) :
    (entries.update changes).get? name = (last? changes name).or (entries.get? name) := by
  induction changes generalizing entries with
  | nil => rfl
  | cons change rest ih =>
    obtain ⟨key, value⟩ := change
    have step : entries.update ((key, value) :: rest) = (put key value entries).update rest := rfl
    rw [step, ih, get?_put, last?_cons]
    cases last? rest name with
    | some found => rfl
    | none => split <;> rfl

theorem get?_filter_ne (entries : Entries) (other name : String) :
    get? (entries.filter fun entry => entry.1 != other) name =
      if name = other then none else entries.get? name := by
  simp only [get?]
  induction entries with
  | nil => simp
  | cons entry rest ih =>
    obtain ⟨key, value⟩ := entry
    by_cases dropped : key = other
    · subst dropped
      rw [List.filter_cons_of_neg (by simp), ih]
      split
      · rfl
      · next differs => rw [List.lookup_cons, beq_eq_false_iff_ne.mpr differs]
    · rw [List.filter_cons_of_pos (by simpa using dropped), List.lookup_cons, ih, List.lookup_cons]
      by_cases here : name = key
      · subst here
        simp [dropped]
      · simp [beq_eq_false_iff_ne.mpr here]

theorem mem_names_put {key : String} : key ∈ (put name value entries).map Prod.fst ↔
    key = name ∨ key ∈ entries.map Prod.fst := by
  induction entries with
  | nil => simp [put]
  | cons entry rest ih =>
    obtain ⟨other, old⟩ := entry
    by_cases here : other = name
    · subst here
      simp [put]
    · simp only [put, here, ↓reduceIte, List.map_cons, List.mem_cons, ih]
      exact or_left_comm

theorem Distinct.put (distinct : entries.Distinct) (name : String) (value : Value) :
    Distinct (put name value entries) := by
  induction entries with
  | nil => simp [Distinct, Entries.put]
  | cons entry rest ih =>
    obtain ⟨other, old⟩ := entry
    obtain ⟨fresh, later⟩ := List.nodup_cons.mp distinct
    by_cases here : other = name
    · simpa [Distinct, Entries.put, here] using distinct
    · simp only [Entries.put, here, ↓reduceIte]
      refine List.nodup_cons.mpr ⟨fun member => ?_, ih later⟩
      exact (mem_names_put.mp member).elim here fresh

theorem Distinct.update (distinct : entries.Distinct) (changes : Entries) :
    (entries.update changes).Distinct := by
  induction changes generalizing entries with
  | nil => exact distinct
  | cons change rest ih => exact ih (distinct.put change.1 change.2)

theorem Distinct.filter (distinct : entries.Distinct) (p : String × Value → Bool) :
    Distinct (entries.filter p) :=
  List.Nodup.sublist (List.filter_sublist.map _) distinct

theorem Distinct.mem_iff (distinct : entries.Distinct) :
    (name, value) ∈ entries ↔ entries.lookup name = some value := by
  induction entries with
  | nil => simp
  | cons entry rest ih =>
    obtain ⟨key, old⟩ := entry
    obtain ⟨fresh, later⟩ := List.nodup_cons.mp distinct
    rw [List.mem_cons, ih later, List.lookup_cons]
    by_cases here : name = key
    · subst here
      have absent : rest.lookup name ≠ some value := fun found =>
        fresh (List.mem_map.mpr ⟨_, (ih later).mpr found, rfl⟩)
      simp [absent, eq_comm]
    · simp [here, beq_eq_false_iff_ne.mpr here]

theorem Distinct.last?_eq_some_iff (distinct : entries.Distinct) :
    last? entries name = some value ↔ (name, value) ∈ entries := by
  have reversed : Distinct entries.reverse := by
    rw [Distinct, List.map_reverse]
    exact List.nodup_reverse.mpr distinct
  rw [last?, ← reversed.mem_iff, List.mem_reverse]

theorem Distinct.last?_perm (distinct : entries.Distinct) (perm : entries.Perm others) :
    last? others name = last? entries name := by
  have also : others.Distinct := (perm.map Prod.fst).nodup distinct
  apply Option.ext
  intro value
  rw [also.last?_eq_some_iff, distinct.last?_eq_some_iff, perm.mem_iff]

/-- Mappings that agree on every name differ only in the order of their names. -/
theorem Distinct.perm (distinct : entries.Distinct) (also : others.Distinct)
    (same : ∀ name, entries.get? name = others.get? name) : entries.Perm others := by
  have unique {entries : Entries} (distinct : entries.Distinct) : entries.Nodup :=
    List.Nodup.of_map Prod.fst distinct
  rw [List.perm_ext_iff_of_nodup (unique distinct) (unique also)]
  rintro ⟨name, value⟩
  rw [distinct.mem_iff, also.mem_iff]
  exact iff_of_eq (congrArg (· = some value) (same name))

end Names

end Entries

/-! ## Settings of a mapping -/

theorem Field.read_congr {α : Type} {entries others : Entries} {name : String}
    (same : entries.get? name = others.get? name) (value : α)
    (reader : Value → Except Complaint α) :
    read entries name (.ok value) reader = read others name (.ok value) reader := by
  rw [read, read, same]
  cases others.get? name <;> rfl

namespace Settings

/-- Both give the same settings, or both find the same faults in some order. -/
inductive Agree : Except (List Fault) Settings → Except (List Fault) Settings → Prop
  | ok (settings : Settings) : Agree (.ok settings) (.ok settings)
  | error {faults others : List Fault} (perm : faults.Perm others) :
      Agree (.error faults) (.error others)

theorem Agree.refl (outcome : Except (List Fault) Settings) : Agree outcome outcome := by
  cases outcome with
  | ok settings => exact .ok settings
  | error faults => exact .error (.refl faults)

/-- Whether a reader of mappings makes the same of those that say the same in another order. -/
def Orderless (read : Path → Entries → Except (List Fault) Settings) : Prop :=
  ∀ root entries others, entries.Distinct → others.Distinct →
    (∀ name, entries.get? name = others.get? name) → Agree (read root entries) (read root others)

/-- The order of names matters only for the order in which unknown names are listed. -/
theorem orderless_ofEntries : Orderless ofEntries := by
  intro root entries others distinct also same
  have strangers := ((distinct.perm also same).filter fun entry => !names.contains entry.1).map
    fun entry => (⟨entry.1, .unexpected, entry.2.shown⟩ : Fault)
  unfold ofEntries
  simp only [Field.read_congr (same _)]
  generalize List.map _ (List.filter _ entries) = first at strangers ⊢
  generalize List.map _ (List.filter _ others) = second at strangers ⊢
  cases first with
  | nil =>
    rw [List.nil_perm.mp strangers]
    exact .refl _
  | cons fault more =>
    cases second with
    | nil => exact absurd strangers.length_eq (by simp)
    | cons other rest => exact .error (strangers.append_left _)

theorem projectRoot_of_ofEntries {entries : Entries} {root : Path} {settings : Settings}
    (none : entries.get? "project_root" = none) (found : ofEntries root entries = .ok settings) :
    settings.projectRoot = root := by
  have here : Field.read entries "project_root" (.ok root) pathField = .ok root := by
    rw [Field.read, none]
    rfl
  unfold ofEntries at found
  simp only [here] at found
  split at found
  · cases found
    simp_all
  · cases found

end Settings

namespace ProjectFile

/-! ## The section of a project file -/

/-- The project file at a root is read as a document. -/
def Parses (machine : Machine) (root : Path) (entries : Entries) : Prop :=
  ∃ file, machine.look (root / fileName).toString = .ok (some (.file file)) ∧
    file.unreadable = false ∧
    document machine (root / fileName).toString file.content = .ok entries

/-- The fields that a project file has for settings, with their keys as they are written. There are
none without a file or without a section in it. -/
inductive Holds (machine : Machine) (root : Path) : Entries → Prop
  | unfiled (absent : machine.isRegularFile (root / fileName) = .ok false) : Holds machine root []
  | unset (entries : Entries) (parses : Parses machine root entries)
      (none : ∀ tools, entries.get? "tool" = some (.table tools) →
        Entries.get? tools sectionName = none) : Holds machine root []
  | table (entries tools fields : Entries) (parses : Parses machine root entries)
      (tool : entries.get? "tool" = some (.table tools))
      (found : Entries.get? tools sectionName = some (.table fields)) : Holds machine root fields

section Layers

variable {machine : Machine} {root base : Path} {fields overrides payload : Entries}

theorem readSection_of_parses {entries : Entries} (parses : Parses machine base entries) :
    readSection machine base = sectionOf (base / fileName).toString entries := by
  obtain ⟨file, there, readable, parsed⟩ := parses
  simp only [readSection, there, ok_bind, readable, parsed]
  rfl

theorem readSection_of_holds (holds : Holds machine base fields) :
    readSection machine base = .ok (normalise fields) := by
  cases holds with
  | unfiled absent =>
    unfold readSection
    unfold Machine.isRegularFile at absent
    dsimp only
    cases looked : machine.look (base / fileName).toString with
    | error failure =>
      rw [looked] at absent
      cases absent
    | ok node =>
      rw [looked] at absent
      rw [ok_bind]
      split
      · cases absent
      · rfl
  | unset entries parses none =>
    rw [readSection_of_parses parses, sectionOf]
    split
    · next tools tool => rw [none tools tool]; rfl
    · rfl
  | table entries tools fields parses tool found =>
    rw [readSection_of_parses parses, sectionOf]
    simp only [tool, found]

theorem load_eq (resolved : machine.resolve root = .ok base) (holds : Holds machine base fields)
    (overrides : Entries) :
    load machine root overrides =
      (Settings.ofEntries base (merge (normalise fields) overrides)).mapError .rejectedSettings := by
  rw [load, resolved]
  simp only [bind, Except.bind, readSection_of_holds holds]

/-! ## Layers -/

theorem settingName_eq_iff {key name : String} :
    settingName key = name ↔ (key.toList.map fun c => if c = '-' then '_' else c) = name.toList := by
  rw [← String.toList_inj, settingName, String.toList_map]

/-- What the caller gives for a setting. Null gives nothing. -/
def given? (overrides : Entries) (name : String) : Option Value :=
  Entries.last? (overrides.filter (isGiven ·.2)) name

/-- What the last key with a name says, once its hyphens are underscores. -/
def written? (fields : Entries) (name : String) : Option Value :=
  Entries.last? (fields.map fun field => (settingName field.1, field.2)) name

/-- A mapping that has for each setting what the caller gives, else what the file says last. The root
is in neither layer. -/
structure Layered (fields overrides payload : Entries) : Prop where
  distinct : payload.Distinct
  root : payload.get? "project_root" = none
  value : ∀ name, name ≠ "project_root" →
    payload.get? name = (given? overrides name).or (written? fields name)

theorem get?_merge_root (file overrides : Entries) :
    (merge file overrides).get? "project_root" = none := by
  rw [merge, Entries.get?_filter_ne, if_pos rfl]

theorem get?_merge (file overrides : Entries) {name : String} (other : name ≠ "project_root") :
    (merge file overrides).get? name = (given? overrides name).or (file.get? name) := by
  rw [merge, Entries.get?_filter_ne, if_neg other, Entries.get?_update, given?]

theorem layered_merge (fields overrides : Entries) :
    Layered fields overrides (merge (normalise fields) overrides) where
  distinct := by
    have empty : Entries.Distinct [] := List.nodup_nil
    exact ((empty.update _).update _).filter _
  root := get?_merge_root _ _
  value name other := by
    rw [get?_merge _ _ other, normalise, Entries.get?_update, written?]
    cases Entries.last? (fields.map fun field => (settingName field.1, field.2)) name <;> rfl

theorem Layered.congr {others : Entries} (layered : Layered fields overrides payload)
    (same : ∀ name, name ≠ "project_root" → given? overrides name = none →
      written? others name = written? fields name) : Layered others overrides payload where
  distinct := layered.distinct
  root := layered.root
  value name other := by
    rw [layered.value name other]
    cases given : given? overrides name with
    | none => rw [same name other given]
    | some value => rfl

/-- Settings were loaded as they are read from a mapping, or refused with the faults found there in
some order. -/
inductive LoadedAs : Except Failure Settings → Except (List Fault) Settings → Prop
  | ok (settings : Settings) : LoadedAs (.ok settings) (.ok settings)
  | rejected {faults others : List Fault} (perm : faults.Perm others) :
      LoadedAs (.error (.rejectedSettings faults)) (.error others)

theorem loadedAs_of_agree {first second : Except (List Fault) Settings}
    (agree : Settings.Agree first second) :
    LoadedAs (first.mapError .rejectedSettings) second := by
  cases agree with
  | ok settings => exact .ok settings
  | error perm => exact .rejected perm

/-- Whatever reads the settings, what it makes of the merged layers it makes of every mapping that is
layered so. -/
theorem loadedAs_of_layered {read : Path → Entries → Except (List Fault) Settings}
    (orderless : Settings.Orderless read) (layered : Layered fields overrides payload) :
    LoadedAs ((read base (merge (normalise fields) overrides)).mapError .rejectedSettings)
      (read base payload) := by
  have merged := layered_merge fields overrides
  refine loadedAs_of_agree (orderless base _ _ merged.distinct layered.distinct fun name => ?_)
  by_cases root : name = "project_root"
  · rw [root, merged.root, layered.root]
  · rw [merged.value name root, layered.value name root]

/-- Two fields are one but for the hyphens and underscores of their keys, in any order, and no key
stands in two spellings. -/
structure Respelled (fields others : Entries) : Prop where
  distinct : (fields.map fun field => settingName field.1).Nodup
  perm : (fields.map fun field => (settingName field.1, field.2)).Perm
    (others.map fun field => (settingName field.1, field.2))

theorem Respelled.written? {others : Entries} (respelled : Respelled fields others)
    (name : String) : written? others name = written? fields name := by
  refine Entries.Distinct.last?_perm ?_ respelled.perm
  simpa [Entries.Distinct, Function.comp_def] using respelled.distinct

end Layers

/-- Both loads end as the reading of one mapping does. -/
def EndAlike (first second : Except Failure Settings) : Prop :=
  ∃ reading, LoadedAs first reading ∧ LoadedAs second reading

/-- Settings are read from the layers of a project, whose upper one covers the lower one, and any
such mapping gives the same. Null covers nothing, what is covered is not looked at, keys may be
spelled either way, and settings are always in range and at the root that was asked for. -/
theorem load_precedence {machine : Machine} {root base : Path} {fields : Entries}
    (resolved : machine.resolve root = .ok base) (holds : Holds machine base fields)
    (overrides : Entries) :
    (∃ payload, Layered fields overrides payload) ∧
      (∀ payload, Layered fields overrides payload →
        LoadedAs (load machine root overrides) (Settings.ofEntries base payload)) ∧
      load machine root (overrides.filter (isGiven ·.2)) = load machine root overrides ∧
      (∀ other otherRoot others, other.resolve otherRoot = .ok base → Holds other base others →
        ((∀ name, name ≠ "project_root" → given? overrides name = none →
            written? others name = written? fields name) →
          EndAlike (load machine root overrides) (load other otherRoot overrides)) ∧
        (Respelled fields others →
          EndAlike (load machine root overrides) (load other otherRoot overrides))) ∧
      ∀ settings, load machine root overrides = .ok settings →
        settings.projectRoot = base ∧ base.isAbsolute = true ∧ 1 ≤ settings.jobs ∧
          1 ≤ settings.sandboxMaxDepth := by
  have merged := layered_merge fields overrides
  have loads {other : Machine} {otherRoot : Path} {others payload : Entries}
      (reached : other.resolve otherRoot = .ok base) (also : Holds other base others)
      (layered : Layered others overrides payload) :
      LoadedAs (load other otherRoot overrides) (Settings.ofEntries base payload) :=
    load_eq reached also overrides ▸ loadedAs_of_layered Settings.orderless_ofEntries layered
  have alike (other : Machine) (otherRoot : Path) (others : Entries)
      (reached : other.resolve otherRoot = .ok base) (also : Holds other base others)
      (same : ∀ name, name ≠ "project_root" → given? overrides name = none →
        written? others name = written? fields name) :
      EndAlike (load machine root overrides) (load other otherRoot overrides) :=
    ⟨_, loads resolved holds merged, loads reached also (merged.congr same)⟩
  refine ⟨⟨_, merged⟩, fun payload => loads resolved holds, ?_, ?_, ?_⟩
  · rw [load_eq resolved holds, load_eq resolved holds, merge, merge, List.filter_filter]
    simp only [Bool.and_self]
  · intro other otherRoot others reached also
    exact ⟨alike other otherRoot others reached also, fun respelled =>
      alike other otherRoot others reached also fun name _ _ => respelled.written? name⟩
  · intro settings loaded
    have reads := loads resolved holds merged
    rw [loaded] at reads
    generalize outcome : Settings.ofEntries base (merge (normalise fields) overrides) = reading
      at reads
    cases reads
    exact ⟨Settings.projectRoot_of_ofEntries merged.root outcome,
      Machine.isAbsolute_of_resolve resolved, settings.jobs_pos, settings.sandboxMaxDepth_pos⟩

/-- A project file with a key in each spelling. -/
def spelledTwice : String :=
  "[tool.mypy-runner]\njobs = \"many\"\nsandbox-max-depth = 9\nsandbox_max_depth = 7\n"

def twoSpellings : Machine where
  files := ⟨[(["p", "pyproject.toml"], .file ⟨spelledTwice.toUTF8.toList, false, false⟩)]⟩
  directory := "/"
  environment := []
  accountHome := "/"
  windows := false
  respond := fun _ => .ok {}
  cancelledAt := none
  finishOrder := []
  interruptedWait := none

/-- What the file says of jobs is no number, but covered. -/
theorem load_precedence_twoSpellings :
    let overrides := [("jobs", .integer 4), ("sandbox_max_depth", .null)]
    ∃ settings, load twoSpellings (Path.ofString "/p") overrides = .ok settings ∧
      settings.jobs = 4 ∧ settings.sandboxMaxDepth = 7 ∧
      settings.projectRoot = Path.ofString "/p" := by
  intro overrides
  let base := Path.ofString "/p"
  let fields : Entries :=
    [("jobs", .text "many"), ("sandbox-max-depth", .integer 9), ("sandbox_max_depth", .integer 7)]
  have decoded : Text.Utf8.decode spelledTwice.toUTF8.toList = .ok spelledTwice := by
    decide +kernel
  have parses : Parses twoSpellings base [("tool", .table [(sectionName, .table fields)])] := by
    refine ⟨⟨spelledTwice.toUTF8.toList, false, false⟩, by decide +kernel, rfl, ?_⟩
    rw [document, decoded]
    with_unfolding_all rfl
  have holds : Holds twoSpellings base fields := .table _ _ fields parses rfl rfl
  have resolved : twoSpellings.resolve base = .ok base := by decide +kernel
  have merged : merge (normalise fields) overrides =
      [("jobs", .integer 4), ("sandbox_max_depth", .integer 7)] := by
    have jobs : settingName "jobs" = "jobs" := settingName_eq_iff.mpr (by decide)
    have hyphens : settingName "sandbox-max-depth" = "sandbox_max_depth" :=
      settingName_eq_iff.mpr (by decide)
    have underscores : settingName "sandbox_max_depth" = "sandbox_max_depth" :=
      settingName_eq_iff.mpr (by decide)
    simp only [normalise, fields, List.map_cons, List.map_nil, jobs, hyphens, underscores]
    rfl
  have values : (Settings.ofEntries base (merge (normalise fields) overrides)).toOption.map
      (fun settings => (settings.jobs, settings.sandboxMaxDepth)) = some (4, 7) := by
    rw [merged]
    decide +kernel
  obtain ⟨-, loads, -, -, sound⟩ := load_precedence resolved holds overrides
  have reads := loads _ (layered_merge fields overrides)
  generalize Settings.ofEntries base (merge (normalise fields) overrides) = reading
    at reads values
  generalize outcome : load twoSpellings base overrides = loaded at reads
  cases reads with
  | ok settings =>
    obtain ⟨jobs, depth⟩ := Prod.mk.inj (Option.some.inj values)
    exact ⟨settings, rfl, jobs, depth, (sound settings outcome).1⟩
  | rejected => cases values

end ProjectFile

end CheckRouter
