import CheckRouter.Proofs.Encoding
import CheckRouter.Proofs.Stops
import CheckRouter.Proofs.Toml.Documents
import CheckRouter.Settings.ProjectFile

/-!
# Project files that cannot be used

Settings are loaded from whatever bytes a project file has. Mostly a file that cannot be used is a
configuration failure. Three ways to fail are none, and each can be told from the bytes: they encode
no text, or the text has too long a number or too many brackets. Besides, the system may refuse to
look the file up.
-/

namespace CheckRouter.ProjectFile

open CheckRouter.Text

/-- Bytes that are more than what reads a project file can take, with the failure that follows. -/
inductive Overtaxes (machine : Machine) (bytes : List UInt8) : Failure → Prop
  | unencoded (nothing : ∀ text, bytes ≠ Utf8.encode text) (fault : Utf8.Fault) :
      Overtaxes machine bytes (.undecodable fault)
  | digits (text : List Char) (encodes : bytes = Utf8.encode text) (count : Nat)
      (long : 4300 < count) (stretch : Toml.HasStretch count text) :
      Overtaxes machine bytes (.oversizedNumeral count)
  | brackets (text : List Char) (encodes : bytes = Utf8.encode text)
      (many : machine.nesting < Toml.inlineTableDepth * Toml.openers text) :
      Overtaxes machine bytes .tooDeep

def HasFile (machine : Machine) (base : Path) (file : RegularFile) : Prop :=
  machine.look (base / fileName).toString = .ok (some (.file file))

/-- The failure is one of the configuration, or the project file overtaxes its readers, or it may not
be looked up. -/
def Expected (machine : Machine) (base : Path) (failure : Failure) : Prop :=
  failure.isConfiguration = true ∨
    (∃ file, HasFile machine base file ∧ Overtaxes machine file.content failure) ∨
      machine.look (base / fileName).toString = .error failure

/-! ## Documents -/

section Documents

variable (machine : Machine) (path : String) {bytes : List UInt8}

theorem overtaxes_undecodable {fault : Utf8.Fault} (fails : Utf8.decode bytes = .error fault) :
    Overtaxes machine bytes (.undecodable fault) := by
  refine .unencoded (fun text encodes => ?_) fault
  have reads : Utf8.decode bytes = .ok (.ofList text) := by
    rw [Utf8.decode_eq_ok_iff, String.toList_ofList]
    exact encodes
  rw [fails] at reads
  cases reads

theorem failsOnly_document : FailsOnly (fun failure => failure.isConfiguration = true ∨
    Overtaxes machine bytes failure) (document machine path bytes) := by
  unfold document
  cases decoded : Utf8.decode bytes with
  | error fault => exact failsOnly_error (.inr (overtaxes_undecodable machine decoded))
  | ok source =>
    have encodes := Utf8.decode_eq_ok_iff.mp decoded
    cases parsed : Toml.parse machine.nesting source with
    | ok entries =>
      rintro failure fails
      simp only [Except.mapError, bind, Except.bind, parsed] at fails
      cases fails
    | error fault =>
      have explains := Toml.explains_of_parse parsed
      simp only [Except.mapError, bind, Except.bind, parsed]
      refine failsOnly_error ?_
      cases fault with
      | malformed reason left => exact .inl rfl
      | oversized digits => exact .inr (.digits _ encodes digits explains.1 explains.2)
      | nested => exact .inr (.brackets _ encodes explains)

theorem failsOnly_sectionOf (entries : Entries) :
    FailsOnly (fun failure => failure.isConfiguration = true) (sectionOf path entries) := by
  unfold sectionOf
  split
  · split
    · exact failsOnly_ok _
    · exact failsOnly_ok _
    · exact failsOnly_error rfl
  · exact failsOnly_ok _

end Documents

/-! ## Loading -/

section Loading

variable {machine : Machine} {root base : Path}

theorem readSection_of_file {file : RegularFile} (there : HasFile machine base file)
    (readable : file.unreadable = false) :
    readSection machine base = document machine (base / fileName).toString file.content >>=
      sectionOf (base / fileName).toString := by
  have node : machine.look (base / fileName).toString = .ok (some (.file file)) := there
  rw [readSection, node, ok_bind]
  simp only [readable]
  rfl

theorem failsOnly_readSection
    (readable : ∀ file, HasFile machine base file → file.unreadable = false) :
    FailsOnly (Expected machine base) (readSection machine base) := by
  by_cases filed : ∃ file, HasFile machine base file
  · obtain ⟨file, there⟩ := filed
    rw [readSection_of_file there (readable file there)]
    refine FailsOnly.bind ?_ fun entries _ => ?_
    · refine (failsOnly_document machine _).mono fun failure cause => ?_
      exact cause.imp_right fun overtaxes => .inl ⟨file, there, overtaxes⟩
    · exact (failsOnly_sectionOf _ entries).mono fun failure configuration => .inl configuration
  · refine FailsOnly.bind (fun failure refused => .inr (.inr refused)) fun node found => ?_
    dsimp only
    split
    · next file => exact absurd ⟨file, found⟩ filed
    · exact failsOnly_ok []

theorem load_of_resolve (resolved : machine.resolve root = .ok base) (overrides : Entries) :
    load machine root overrides = readSection machine base >>= fun file =>
      (Settings.ofEntries base (merge file overrides)).mapError .rejectedSettings := by
  rw [load, resolved]
  rfl

theorem failsOnly_load (resolved : machine.resolve root = .ok base) (overrides : Entries)
    (readable : ∀ file, HasFile machine base file → file.unreadable = false) :
    FailsOnly (Expected machine base) (load machine root overrides) := by
  rw [load_of_resolve resolved overrides]
  refine (failsOnly_readSection readable).bind fun file _ => ?_
  cases Settings.ofEntries base (merge file overrides) with
  | ok settings => exact failsOnly_ok settings
  | error faults => exact failsOnly_error (.inl rfl)

theorem load_of_unencoded (resolved : machine.resolve root = .ok base) (overrides : Entries)
    {file : RegularFile} (there : HasFile machine base file) (readable : file.unreadable = false)
    (nothing : ∀ text, file.content ≠ Utf8.encode text) :
    ∃ fault, load machine root overrides = .error (.undecodable fault) := by
  rw [load_of_resolve resolved overrides, readSection_of_file there readable, document]
  cases decoded : Utf8.decode file.content with
  | ok source => exact absurd (Utf8.decode_eq_ok_iff.mp decoded) (nothing _)
  | error fault => exact ⟨fault, rfl⟩

end Loading

/-- With a root that resolves and a project file that can be read, settings are loaded or the
configuration is at fault, unless the file may not be looked up or overtaxes its readers. A file that
encodes no text always does, and is then no configuration failure. -/
theorem load_refusals {machine : Machine} {root base : Path} (overrides : Entries)
    (resolved : machine.resolve root = .ok base)
    (readable : ∀ file, HasFile machine base file → file.unreadable = false) :
    FailsOnly (Expected machine base) (load machine root overrides) ∧
      ((∃ fault, load machine root overrides = .error (.undecodable fault)) ↔
        ∃ file, HasFile machine base file ∧ ∀ text, file.content ≠ Utf8.encode text) := by
  have only := failsOnly_load resolved overrides readable
  refine ⟨only, ?_, ?_⟩
  · rintro ⟨fault, fails⟩
    rcases only _ fails with configuration | ⟨file, there, overtaxes⟩ | refused
    · cases configuration
    · cases overtaxes with
      | unencoded nothing => exact ⟨file, there, nothing⟩
    · obtain ⟨-, error, -, -, same⟩ := Machine.look_eq_error_iff.mp refused
      cases same
  · rintro ⟨file, there, nothing⟩
    exact load_of_unencoded resolved overrides there (readable file there) nothing

/-! ## A byte that encodes nothing -/

def strayByte : Machine where
  files := ⟨[(["p", "pyproject.toml"], .file ⟨[0xFF], false, false⟩)]⟩
  directory := "/"
  environment := []
  accountHome := "/"
  windows := false
  respond := fun _ => .ok {}
  cancelledAt := none
  finishOrder := []
  interruptedWait := none

theorem hasFile_strayByte {file : RegularFile} :
    HasFile strayByte (Path.ofString "/p") file ↔ file = ⟨[0xFF], false, false⟩ := by
  have there : HasFile strayByte (Path.ofString "/p") ⟨[0xFF], false, false⟩ := by
    with_unfolding_all rfl
  constructor
  · intro also
    exact Node.file.inj (Option.some.inj (Except.ok.inj (also.symm.trans there)))
  · rintro rfl
    exact there

theorem resolve_strayByte :
    strayByte.resolve (Path.ofString "/p") = .ok (Path.ofString "/p") := by with_unfolding_all rfl

theorem decode_strayByte : Utf8.decode [0xFF] = .error ⟨0, [0xFF], .invalidStart⟩ := rfl

theorem load_refusals_strayByte :
    strayByte.resolve (Path.ofString "/p") = .ok (Path.ofString "/p") ∧
      (∀ file, HasFile strayByte (Path.ofString "/p") file → file.unreadable = false) ∧
      ∃ fault, load strayByte (Path.ofString "/p") [] = .error (.undecodable fault) := by
  have readable (file : RegularFile) (there : HasFile strayByte (Path.ofString "/p") file) :
      file.unreadable = false := by
    rw [hasFile_strayByte.mp there]
  have nothing (text : List Char) : [0xFF] ≠ Utf8.encode text := by
    cases overtaxes_undecodable strayByte decode_strayByte with
    | unencoded nothing => exact nothing text
  refine ⟨resolve_strayByte, readable, (load_refusals [] resolve_strayByte readable).2.mpr ?_⟩
  exact ⟨_, hasFile_strayByte.mpr rfl, nothing⟩

/-- A project file that can be read, at a root that resolves, fails otherwise than by
configuration. -/
theorem load_unconfigured_strayByte :
    let root := Path.ofString "/p"
    strayByte.resolve root = .ok root ∧
      HasFile strayByte root ⟨[0xFF], false, false⟩ ∧
      load strayByte root [] = .error (.undecodable ⟨0, [0xFF], .invalidStart⟩) ∧
      ¬FailsOnly (fun failure => failure.isConfiguration = true) (load strayByte root []) := by
  intro root
  have there : HasFile strayByte root ⟨[0xFF], false, false⟩ := hasFile_strayByte.mpr rfl
  have fails : load strayByte root [] = .error (.undecodable ⟨0, [0xFF], .invalidStart⟩) := by
    rw [load_of_resolve resolve_strayByte, readSection_of_file there rfl, document,
      decode_strayByte]
    rfl
  refine ⟨resolve_strayByte, there, fails, fun only => ?_⟩
  cases only _ fails

end CheckRouter.ProjectFile
