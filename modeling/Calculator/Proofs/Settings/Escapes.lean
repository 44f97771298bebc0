/-
**What settings come to, and what is never put into words.**

* `Unreadable`, `Tabulates`: what reading a file comes to; `readTable_cases`: there is nothing else.
* `Selects`, `Unselectable`: which value holds the settings of a directory, or why none is found.
* `Settings.ofFiles_of_selects`, `Settings.ofFiles_of_unselectable`: what the files come to in each case;
  `selects_or_unselectable`: there is no other.
* `Value.Keyless`: a value that is no table and has no key that could be refused by its name.
* `Escapes`: the faults that end a command without a message; `Settings.resolve_eq_error_iff`: they are these
  and no others.
* `Resolution`: what the settings of a directory come to; `Profile.Conclusion`: what a command makes of it.
  `Settings.resolve_total`: both hold of every directory.

A wrong setting, an unknown key and a file that is no TOML are put into words. What stands where a table is
expected is not checked to be one, so a number or an empty text in its place is not.
-/

import Calculator.Proofs.Settings.Wording
import Calculator.Terminal.Execution

namespace Calculator

variable {disk : Disk} {root path : Path} {texts : Overrides} {place : String}
  {value : Value} {entries : List (String × Value)} {fault : SettingsFault}

/-! ### Files -/

/-- There is a file at the path, and it holds the entries of a table. -/
def Tabulates (disk : Disk) (path : Path) (entries : List (String × Value)) : Prop :=
  ∃ content, disk.find? path = some (.file content) ∧ Toml.parse content.toList = .ok entries

/-- Something is at the path that holds no table. -/
inductive Unreadable (disk : Disk) (path : Path) : SettingsFault → Prop
  | directory (here : disk.find? path = some .directory) : Unreadable disk path .directory
  | overlong (here : disk.find? path = some .overlong) : Unreadable disk path .pathTooLong
  | malformed {content : String} (here : disk.find? path = some (.file content))
      (refused : Toml.parse content.toList = .error .malformed) :
      Unreadable disk path (.invalid (.malformed path.text (disk.complaint content)))
  | integerTooLong {content : String} (here : disk.find? path = some (.file content))
      (refused : Toml.parse content.toList = .error .integerTooLong) :
      Unreadable disk path .integerTooLong

theorem readTable_of_absent (absent : disk.find? path = none) : readTable disk path = .ok none := by
  rw [readTable, absent]

theorem readTable_of_tabulates (holds : Tabulates disk path entries) :
    readTable disk path = .ok (some entries) := by
  obtain ⟨content, here, parsed⟩ := holds
  rw [readTable, here]
  dsimp only
  rw [parsed]

theorem readTable_of_unreadable (unreadable : Unreadable disk path fault) :
    readTable disk path = .error fault := by
  cases unreadable with
  | directory here | overlong here => rw [readTable, here]
  | malformed here refused | integerTooLong here refused =>
    rw [readTable, here]
    dsimp only
    rw [refused]

/-- There is nothing at a path, a table, or something that holds none. -/
theorem readTable_cases (disk : Disk) (path : Path) :
    disk.find? path = none ∨ (∃ entries, Tabulates disk path entries) ∨
      ∃ fault, Unreadable disk path fault := by
  rcases here : disk.find? path with _ | content | _ | _
  · exact .inl rfl
  · rcases parsed : Toml.parse content.toList with (_ | _) | entries
    · exact .inr (.inr ⟨_, .malformed here parsed⟩)
    · exact .inr (.inr ⟨_, .integerTooLong here parsed⟩)
    · exact .inr (.inl ⟨entries, content, here, parsed⟩)
  · exact .inr (.inr ⟨_, .directory here⟩)
  · exact .inr (.inr ⟨_, .overlong here⟩)

/-! ### The value that holds the settings -/

/-- The value that holds the settings of a directory, with the place where it stands; none where nothing is
set. -/
inductive Selects (disk : Disk) (root : Path) : Option (String × Value) → Prop
  /-- The file of its own holds the table, or is it. -/
  | own {entries : List (String × Value)} (holds : Tabulates disk (root.child ownFile) entries) :
      Selects disk root
        (some ((root.child ownFile).text, (entries.lookup tableName).getD (.table entries)))
  | noFile (absent : disk.find? (root.child ownFile) = none)
      (missing : disk.find? (root.child projectFile) = none) : Selects disk root none
  | noTools {entries : List (String × Value)} (absent : disk.find? (root.child ownFile) = none)
      (holds : Tabulates disk (root.child projectFile) entries)
      (missing : entries.lookup "tool" = none) : Selects disk root none
  | noTable {entries tools : List (String × Value)} (absent : disk.find? (root.child ownFile) = none)
      (holds : Tabulates disk (root.child projectFile) entries)
      (found : entries.lookup "tool" = some (.table tools))
      (missing : tools.lookup tableName = none) : Selects disk root none
  | project {entries tools : List (String × Value)} {value : Value}
      (absent : disk.find? (root.child ownFile) = none)
      (holds : Tabulates disk (root.child projectFile) entries)
      (found : entries.lookup "tool" = some (.table tools))
      (selected : tools.lookup tableName = some value) :
      Selects disk root
        (some ((root.child projectFile).text ++ " [tool." ++ tableName ++ "]", value))

/-- No such value is found. -/
inductive Unselectable (disk : Disk) (root : Path) : SettingsFault → Prop
  | own {fault : SettingsFault} (unreadable : Unreadable disk (root.child ownFile) fault) :
      Unselectable disk root fault
  | project {fault : SettingsFault} (absent : disk.find? (root.child ownFile) = none)
      (unreadable : Unreadable disk (root.child projectFile) fault) : Unselectable disk root fault
  | tools {entries : List (String × Value)} {value : Value}
      (absent : disk.find? (root.child ownFile) = none)
      (holds : Tabulates disk (root.child projectFile) entries)
      (found : entries.lookup "tool" = some value) (other : ∀ tools, value ≠ .table tools) :
      Unselectable disk root .toolsNotTable

/-- The settings that a value makes which may be absent. -/
def Settings.ofSelection : Option (String × Value) → Except SettingsFault Settings
  | none => .ok standard
  | some (place, value) => ofSelected place value

theorem Settings.ofFiles_of_selects {selection : Option (String × Value)}
    (selects : Selects disk root selection) : ofFiles disk root = ofSelection selection := by
  unfold ofFiles
  dsimp only
  cases selects with
  | own holds =>
    rw [readTable_of_tabulates holds]
    rfl
  | noFile absent missing =>
    rw [readTable_of_absent absent, readTable_of_absent missing]
    rfl
  | noTools absent holds missing =>
    rw [readTable_of_absent absent, readTable_of_tabulates holds]
    dsimp only [bind, Except.bind]
    rw [missing]
    rfl
  | noTable absent holds found missing | project absent holds found missing =>
    rw [readTable_of_absent absent, readTable_of_tabulates holds]
    dsimp only [bind, Except.bind]
    rw [found]
    dsimp only
    rw [missing]
    rfl

theorem Settings.ofFiles_of_unselectable (unselectable : Unselectable disk root fault) :
    ofFiles disk root = .error fault := by
  unfold ofFiles
  dsimp only
  cases unselectable with
  | own unreadable =>
    rw [readTable_of_unreadable unreadable]
    rfl
  | project absent unreadable =>
    rw [readTable_of_absent absent, readTable_of_unreadable unreadable]
    rfl
  | tools absent holds found other =>
    rw [readTable_of_absent absent, readTable_of_tabulates holds]
    dsimp only [bind, Except.bind]
    rw [found]
    split
    · next none => cases none
    · next tools table => exact absurd (Option.some.inj table) (other tools)
    · rfl

/-- A directory has a value that holds its settings, or nothing is set in it, or no such value is found. -/
theorem selects_or_unselectable (disk : Disk) (root : Path) :
    (∃ selection, Selects disk root selection) ∨ ∃ fault, Unselectable disk root fault := by
  rcases readTable_cases disk (root.child ownFile) with absent | ⟨entries, holds⟩ | ⟨fault, unreadable⟩
  · rcases readTable_cases disk (root.child projectFile) with
      missing | ⟨entries, holds⟩ | ⟨fault, unreadable⟩
    · exact .inl ⟨_, .noFile absent missing⟩
    · cases found : entries.lookup "tool" with
      | none => exact .inl ⟨_, .noTools absent holds found⟩
      | some value =>
        by_cases table : ∃ tools, value = .table tools
        · obtain ⟨tools, rfl⟩ := table
          cases selected : tools.lookup tableName with
          | none => exact .inl ⟨_, .noTable absent holds found selected⟩
          | some value => exact .inl ⟨_, .project absent holds found selected⟩
        · exact .inr ⟨_, .tools absent holds found (not_exists.mp table)⟩
    · exact .inr ⟨_, .project absent unreadable⟩
  · exact .inl ⟨_, .own holds⟩
  · exact .inr ⟨_, .own unreadable⟩

/-! ### Values as settings -/

/-- The value is no table, and none of the keys that it may have is refused. -/
structure Value.Keyless (value : Value) : Prop where
  other : ∀ entries, value ≠ .table entries
  known : ∀ keys, value.keys? = some keys → ∀ key ∈ keys, key ∈ Settings.keys

namespace Settings

/-- The entries of a table make settings, or a failure that may be too long for words. -/
theorem ofSelected_table (place : String) (entries : List (String × Value)) :
    ofSelected place (.table entries) = (ofEntries place entries).mapError .ofError := by
  unfold ofSelected ofEntries
  dsimp only [Value.keys?]
  cases checkKeys place (entries.map Prod.fst) <;> rfl

theorem ofSelected_of_keyless (keyless : value.Keyless) : ofSelected place value = .error .notTable := by
  unfold ofSelected
  split
  · rfl
  · next keys named =>
    rw [checkKeys_eq_ok_iff.mpr (keyless.known keys named)]
    dsimp only
    split
    · next entries => exact absurd rfl (keyless.other entries)
    · rfl

/-- Of a value that is no table the unknown keys are named, if there are any. -/
theorem ofSelected_of_other (other : ∀ entries, value ≠ .table entries) :
    (∃ error, ofSelected place value = .error (.invalid error)) ∨ value.Keyless := by
  cases named : value.keys? with
  | none => exact .inr ⟨other, fun keys found => nomatch named.symm.trans found⟩
  | some keys =>
    cases checked : checkKeys place keys with
    | ok =>
      refine .inr ⟨other, fun keys' found => ?_⟩
      cases named.symm.trans found
      exact checkKeys_eq_ok_iff.mp checked
    | error error =>
      refine .inl ⟨error, ?_⟩
      unfold ofSelected
      rw [named]
      dsimp only
      rw [checked]
      dsimp only
      rw [SettingsFault.ofError, checkKeys_wordable place keys error checked, if_pos rfl]

end Settings

/-! ### Faults without words -/

/-- The fault is reported in words. -/
def SettingsFault.IsReported (fault : SettingsFault) : Prop := ∃ error, fault = .invalid error

/-- **The settings of a directory end a command without a message.** A file cannot be read, and not because
it is no TOML; or what stands in the place of the table is none, and has no unknown key that could be named;
or the wording of what is wrong would need an integer that is too long. -/
inductive Escapes (disk : Disk) (root : Path) : SettingsFault → Prop
  | unread {fault : SettingsFault} (unselectable : Unselectable disk root fault)
      (silent : ¬ fault.IsReported) : Escapes disk root fault
  | keyless {place : String} {value : Value} (selects : Selects disk root (some (place, value)))
      (keyless : value.Keyless) : Escapes disk root .notTable
  | wordless {place : String} {entries : List (String × Value)} {error : SettingsError}
      (selects : Selects disk root (some (place, .table entries)))
      (refused : Settings.ofEntries place entries = .error error)
      (unwritable : error.isDisplayable = false) : Escapes disk root .integerTooLong

namespace Settings

theorem ofFiles_of_escapes (escapes : Escapes disk root fault) : ofFiles disk root = .error fault := by
  cases escapes with
  | unread unselectable _ => exact ofFiles_of_unselectable unselectable
  | keyless selects keyless =>
    rw [ofFiles_of_selects selects]
    exact ofSelected_of_keyless keyless
  | wordless selects refused unwritable =>
    rw [ofFiles_of_selects selects, ofSelection, ofSelected_table, refused]
    dsimp only [Except.mapError]
    rw [SettingsFault.ofError, unwritable]
    rfl

end Settings

theorem Escapes.not_isReported (escapes : Escapes disk root fault) : ¬ fault.IsReported := by
  cases escapes with
  | unread _ silent => exact silent
  | keyless => exact nofun
  | wordless => exact nofun

/-! ### Settings of a directory -/

/-- The settings keep to what is asked of each of them. -/
structure Settings.Valid (settings : Settings) : Prop where
  division : settings.division = .ieee ∨ settings.division = .refuse
  maxDepth : 1 ≤ settings.maxDepth.val
  maxSteps : ∀ limit, settings.maxSteps = some limit → 1 ≤ limit.val

theorem Settings.valid (settings : Settings) : settings.Valid where
  division := by cases settings.division <;> decide
  maxDepth := settings.maxDepth.property
  maxSteps limit _ := limit.property

/-- What the settings of a directory come to: settings that keep to what is asked of them, a fault in words,
or one of those without. -/
inductive Resolution (disk : Disk) (root : Path) :
    Except SettingsFault Settings → Prop
  | settled {settings : Settings} (valid : settings.Valid) : Resolution disk root (.ok settings)
  | reported (error : SettingsError) : Resolution disk root (.error (.invalid error))
  | escaped {fault : SettingsFault} (escapes : Escapes disk root fault) :
      Resolution disk root (.error fault)

namespace Resolution

/-- A failure is in words, unless they would need an integer that is too long. -/
theorem ofError {result : Except SettingsError Settings}
    (wordless : ∀ error, result = .error error → error.isDisplayable = false →
      Escapes disk root .integerTooLong) : Resolution disk root (result.mapError .ofError) := by
  cases result with
  | ok settings => exact .settled settings.valid
  | error error =>
    dsimp only [Except.mapError]
    unfold SettingsFault.ofError
    cases displayable : error.isDisplayable with
    | true => exact .reported error
    | false => exact .escaped (wordless error rfl displayable)

/-- What can always be put into words adds no fault without them. -/
theorem bind {result : Except SettingsFault Settings}
    {next : Settings → Except SettingsError Settings} (before : Resolution disk root result)
    (wordable : ∀ settings, Wordable (next settings)) :
    Resolution disk root (result >>= fun settings => (next settings).mapError .ofError) := by
  cases before with
  | @settled settings _ =>
    refine ofError fun error failed unwritable => ?_
    rw [wordable settings error failed] at unwritable
    cases unwritable
  | reported error => exact .reported error
  | escaped escapes => exact .escaped escapes

theorem escapes_of_silent (resolution : Resolution disk root (.error fault))
    (silent : ¬ fault.IsReported) : Escapes disk root fault := by
  cases resolution with
  | reported error => exact absurd ⟨error, rfl⟩ silent
  | escaped escapes => exact escapes

end Resolution

namespace Settings

theorem ofFiles_resolution (disk : Disk) (root : Path) :
    Resolution disk root (ofFiles disk root) := by
  rcases selects_or_unselectable disk root with ⟨selection, selects⟩ | ⟨fault, unselectable⟩
  · rw [ofFiles_of_selects selects]
    rcases selection with _ | ⟨place, value⟩
    · exact .settled standard.valid
    rw [ofSelection]
    by_cases table : ∃ entries, value = .table entries
    · obtain ⟨entries, rfl⟩ := table
      rw [ofSelected_table]
      exact .ofError fun error refused unwritable => .wordless selects refused unwritable
    · rcases ofSelected_of_other (not_exists.mp table) with ⟨error, refused⟩ | keyless
      · rw [refused]
        exact .reported error
      · rw [ofSelected_of_keyless keyless]
        exact .escaped (.keyless selects keyless)
  · rw [ofFiles_of_unselectable unselectable]
    by_cases reported : fault.IsReported
    · obtain ⟨error, rfl⟩ := reported
      exact .reported error
    · exact .escaped (.unread unselectable reported)

theorem resolve_resolution (disk : Disk) (root : Path) (texts : Overrides) :
    Resolution disk root (resolve disk root texts) :=
  (ofFiles_resolution disk root).bind fun settings => settings.override_wordable texts

theorem resolve_of_escapes (texts : Overrides) (escapes : Escapes disk root fault) :
    resolve disk root texts = .error fault := by
  rw [resolve, ofFiles_of_escapes escapes]
  rfl

/-- **The faults without words are those of `Escapes`**, whatever the environment holds. -/
theorem resolve_eq_error_iff (texts : Overrides) :
    resolve disk root texts = .error fault ∧ ¬ fault.IsReported ↔ Escapes disk root fault := by
  constructor
  · rintro ⟨failed, silent⟩
    have resolution := resolve_resolution disk root texts
    rw [failed] at resolution
    exact resolution.escapes_of_silent silent
  · exact fun escapes => ⟨resolve_of_escapes texts escapes, escapes.not_isReported⟩

end Settings

/-! ### Commands -/

namespace Profile

variable {around : Surroundings} {profile : Profile} {next : Settings → Outcome}

/-- A policy that is named on the command line adds no fault without words. -/
theorem settings_resolution (around : Surroundings) (profile : Profile) :
    Resolution around.disk (Path.ofText profile.directory) (profile.settings around) := by
  have resolved := Settings.resolve_resolution around.disk (Path.ofText profile.directory) around.texts
  unfold Profile.settings
  cases profile.division with
  | none =>
    generalize Settings.resolve around.disk _ around.texts = result at resolved
    cases result <;> exact resolved
  | some name => exact resolved.bind fun settings => settings.withPolicy_wordable name

theorem settings_of_escapes (escapes : Escapes around.disk (Path.ofText profile.directory) fault) :
    profile.settings around = .error fault := by
  unfold Profile.settings
  rw [Settings.resolve_of_escapes around.texts escapes]
  rfl

/-- What a command comes to that goes on with settings. -/
inductive Conclusion (around : Surroundings) (profile : Profile) (next : Settings → Outcome) :
    Outcome → Prop
  | continued {settings : Settings} (selected : profile.settings around = .ok settings)
      (valid : settings.Valid) : Conclusion around profile next (next settings)
  | refused {error : SettingsError} (invalid : profile.settings around = .error (.invalid error)) :
      Conclusion around profile next (.refused 2 ("Error: " ++ error.text))
  | broken {fault : SettingsFault}
      (escapes : Escapes around.disk (Path.ofText profile.directory) fault) :
      Conclusion around profile next (.broken fault)

/-- A command goes on with settings, or it is refused in words, or it ends without them. -/
theorem andThen_conclusion (around : Surroundings) (profile : Profile) (next : Settings → Outcome) :
    Conclusion around profile next (profile.andThen around next) := by
  have resolution := profile.settings_resolution around
  unfold andThen
  split
  · next settings selected => exact .continued selected settings.valid
  · next error invalid => exact .refused invalid
  · next fault other failed =>
    rw [failed] at resolution
    refine .broken (resolution.escapes_of_silent ?_)
    rintro ⟨error, rfl⟩
    exact other error rfl

theorem andThen_of_escapes (escapes : Escapes around.disk (Path.ofText profile.directory) fault) :
    profile.andThen around next = .broken fault := by
  unfold andThen
  rw [settings_of_escapes escapes]
  split
  · next same => cases same
  · next error same =>
    cases same
    exact absurd ⟨error, rfl⟩ escapes.not_isReported
  · next same =>
    cases same
    rfl

end Profile

/-- **Settings are resolved to ones that keep to what is asked of them, or to a fault in words, exactly where
nothing escapes**, whatever the environment holds; what escapes is the fault that they come to. A command
goes on with the settings, or ends with the words and its exit code for settings, or it ends without a
message in just those cases. -/
theorem Settings.resolve_total (disk : Disk) (root : Path) (texts : Overrides) :
    (((∃ settings, resolve disk root texts = .ok settings ∧ settings.Valid) ∨
        ∃ error, resolve disk root texts = .error (.invalid error)) ↔
      ∀ fault, ¬ Escapes disk root fault) ∧
    (∀ fault, resolve disk root texts = .error fault ∧ ¬ fault.IsReported ↔ Escapes disk root fault) ∧
    ∀ (profile : Profile) (input : String) (next : Settings → Outcome),
      let around : Surroundings := ⟨disk, texts, input⟩
      profile.Conclusion around next (profile.andThen around next) ∧
        ∀ fault, Escapes disk (Path.ofText profile.directory) fault →
          profile.andThen around next = .broken fault := by
  refine ⟨⟨?_, fun never => ?_⟩, fun fault => resolve_eq_error_iff texts, fun profile input next => ?_⟩
  · rintro (⟨settings, made, -⟩ | ⟨error, failed⟩) fault escapes
    · cases made.symm.trans (resolve_of_escapes texts escapes)
    · cases failed.symm.trans (resolve_of_escapes texts escapes)
      exact escapes.not_isReported ⟨error, rfl⟩
  · have resolution := resolve_resolution disk root texts
    generalize resolve disk root texts = result at resolution ⊢
    cases resolution with
    | settled valid => exact .inl ⟨_, rfl, valid⟩
    | reported error => exact .inr ⟨error, rfl⟩
    | escaped escapes => exact absurd escapes (never _)
  · exact ⟨profile.andThen_conclusion _ next, fun _ escapes => Profile.andThen_of_escapes escapes⟩

/-- A number where the table of settings is expected makes no settings, and is not refused in words
either. -/
theorem Settings.resolve_number :
    let disk : Disk := ⟨(Folder.mk [([ownFile], "abacus = 5\n")]).find?, fun _ => ""⟩
    let root := Path.ofText "."
    Escapes disk root .notTable ∧
      (¬ ∃ settings, resolve disk root ⟨none, none, none⟩ = .ok settings) ∧
      (¬ ∃ error, resolve disk root ⟨none, none, none⟩ = .error (.invalid error)) ∧
      ∀ next, Profile.andThen ⟨disk, ⟨none, none, none⟩, ""⟩ ⟨none, "."⟩ next = .broken .notTable := by
  have named : Toml.key "abacus = 5\n".toList = .ok ([tableName], ['=', ' ', '5', '\n']) := by
    unfold Toml.key
    rfl
  have number : Toml.value ['5', '\n'] = .ok (.integer 5, ['\n']) := by
    unfold Toml.value
    rfl
  have assigned : Toml.Document.statement ⟨[], []⟩ "abacus = 5\n".toList =
      .ok (⟨[(tableName, .leaf (.integer 5))], []⟩, ['\n']) := by
    show Toml.Document.assign ⟨[], []⟩ "abacus = 5\n".toList = _
    rw [Toml.Document.assign, named]
    show (Toml.value ['5', '\n'] >>= _) = _
    rw [number]
    rfl
  have parsed : Toml.parse "abacus = 5\n".toList = .ok [(tableName, .integer 5)] := by
    show (Toml.Document.statements ⟨[], []⟩ "abacus = 5\n".toList >>= _) = _
    rw [Toml.Document.statements]
    show (Toml.Document.statement ⟨[], []⟩ "abacus = 5\n".toList >>= _) >>= _ = _
    rw [assigned]
    show (Toml.Document.statements _ [] >>= _) = _
    rw [Toml.Document.statements]
    rfl
  intro disk root
  have holds : Tabulates disk (root.child ownFile) [(tableName, .integer 5)] :=
    ⟨"abacus = 5\n", by decide +kernel, parsed⟩
  have escapes : Escapes disk root .notTable := by
    refine .keyless (.own holds) ⟨fun entries same => ?_, fun keys named => ?_⟩
    · cases same
    · cases named
  have failed := resolve_of_escapes ⟨none, none, none⟩ escapes
  refine ⟨escapes, ?_, ?_, fun next => Profile.andThen_of_escapes escapes⟩
  · rintro ⟨settings, made⟩
    cases made.symm.trans failed
  · rintro ⟨error, refused⟩
    cases refused.symm.trans failed

end Calculator
