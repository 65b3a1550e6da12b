import EntityProjection.Proofs.CommandLine.Preservation

/-!
# The settings of a run

A run consults one settings file at most: the one that was asked for, or without such a wish the one
beside the units.  Its options are then decided setting by setting, by the override before the file and
by the file before the default, where the defaults are those of the family that won.  How settings
files are decoded is left open.

* `Decided`, `Options.Merges`: which layer decides a setting, and the options that come of it;
  `Settings.resolve_eq_ok_iff`, `Settings.resolve_eq_error_iff`: what resolution amounts to;
* `Disk.Consults`, `Disk.Yields`: the file that is consulted, and what it holds;
  `Disk.Consults.findSettings_congr`: nothing else is read;
* `execute_generate_of_options`, `execute_lint_of_options`: what commands do with their options;
* `settings_resolved`: the options of a run.
-/

namespace EntityProjection

/-! ### Target families -/

namespace TargetFamily

theorem ofName?_eq_some_iff {text : String} {family : TargetFamily} :
    ofName? text = some family ↔ plainName text = family.name := by
  unfold ofName?
  constructor
  · intro h
    exact (eq_of_beq (List.find?_some h :)).symm
  · intro h
    rw [h]
    cases family <;> decide

theorem ofName_eq_ok_iff {text : String} {family : TargetFamily} :
    ofName text = .ok family ↔ plainName text = family.name := by
  rw [← ofName?_eq_some_iff, ofName]
  split
  · next other hother => rw [hother, Except.ok.injEq, Option.some.injEq]
  · next hnone => exact iff_of_false nofun (by rw [hnone]; nofun)

/-- A name is refused just if it is that of no family. -/
theorem ofName_eq_error_iff {text : String} {err : GenerationError} :
    ofName text = .error err ↔
      (∀ family : TargetFamily, plainName text ≠ family.name) ∧ err = .unsupportedTarget text := by
  simp only [ne_eq, ← ofName?_eq_some_iff, ofName]
  split
  · next family hfamily => exact iff_of_false nofun fun h => h.1 family hfamily
  · next hnone =>
    rw [hnone, Except.error.injEq, eq_comm]
    exact (and_iff_right nofun).symm

/-- The name of a family is plain as it stands. -/
theorem plainName_name (family : TargetFamily) : plainName family.name = family.name := by
  cases family <;> decide +kernel

end TargetFamily

/-! ### Layers -/

/-- What decides a setting: an override, without override the file, and otherwise the default. -/
inductive Decided {α : Type} (override file : Option α) (fallback : α) : α → Prop where
  | override {value : α} (h : override = some value) : Decided override file fallback value
  | file {value : α} (hoverride : override = none) (h : file = some value) :
      Decided override file fallback value
  | fallback (hoverride : override = none) (hfile : file = none) :
      Decided override file fallback fallback

theorem decided_iff {α : Type} {override file : Option α} {fallback value : α} :
    Decided override file fallback value ↔ (override <|> file).getD fallback = value := by
  constructor
  · rintro (h | ⟨hoverride, h⟩ | ⟨hoverride, hfile⟩)
    · rw [h]
      rfl
    · rw [hoverride, h]
      rfl
    · rw [hoverride, hfile]
      rfl
  · rintro rfl
    cases override with
    | some value => exact .override rfl
    | none =>
      cases file with
      | some value => exact .file rfl rfl
      | none => exact .fallback rfl rfl

/-- The options that come of settings under overrides.  The default for a setting is the one of the
family that won. -/
structure Options.Merges (options : Options) (o : Overrides) (s : Settings) : Prop where
  target : ∃ name, Decided o.target s.target TargetFamily.zod.name name ∧
    TargetFamily.plainName name = options.target.name
  usePartialTypes : Decided o.usePartialTypes s.usePartialTypes
    (Options.ofTarget options.target).usePartialTypes options.usePartialTypes
  container : Decided o.container s.container
    (Options.ofTarget options.target).container options.container
  /-- There is no override for the suffix. -/
  partialSuffix : Decided none s.partialSuffix
    (Options.ofTarget options.target).partialSuffix options.partialSuffix
  /-- There is no override for the collection. -/
  collectionType : Decided none s.collectionType
    (Options.ofTarget options.target).collectionType options.collectionType

namespace Settings

variable {s : Settings} {o : Overrides} {options : Options}

/-- Resolution looks for the family with the winning name, and takes the other settings from the
layers above its defaults. -/
theorem resolve_of_decided {name : String}
    (h : Decided o.target s.target TargetFamily.zod.name name) :
    s.resolve o = TargetFamily.ofName name >>= fun target => .ok
      { target
        usePartialTypes := (o.usePartialTypes <|> s.usePartialTypes).getD
          (Options.ofTarget target).usePartialTypes
        container := (o.container <|> s.container).getD (Options.ofTarget target).container
        partialSuffix := s.partialSuffix.getD (Options.ofTarget target).partialSuffix
        collectionType := s.collectionType.getD (Options.ofTarget target).collectionType } := by
  cases h with
  | override h =>
    rw [resolve, h]
    rfl
  | file hoverride h =>
    rw [resolve, hoverride, h]
    rfl
  | fallback hoverride hfile =>
    rw [resolve, hoverride, hfile,
      TargetFamily.ofName_eq_ok_iff.mpr (TargetFamily.plainName_name .zod)]
    rfl

/-- **What settings are resolved to.** -/
theorem resolve_eq_ok_iff : s.resolve o = .ok options ↔ options.Merges o s := by
  have hname := decided_iff.mpr (Eq.refl ((o.target <|> s.target).getD TargetFamily.zod.name))
  rw [resolve_of_decided hname]
  constructor
  · intro h
    obtain ⟨target, htarget, h⟩ := bind_eq_ok h
    cases h
    exact
      { target := ⟨_, hname, TargetFamily.ofName_eq_ok_iff.mp htarget⟩
        usePartialTypes := decided_iff.mpr rfl
        container := decided_iff.mpr rfl
        partialSuffix := decided_iff.mpr rfl
        collectionType := decided_iff.mpr rfl }
  · rintro ⟨⟨name, hdecided, htarget⟩, hpartial, hcontainer, hsuffix, hcollection⟩
    rw [decided_iff.mp hdecided, TargetFamily.ofName_eq_ok_iff.mpr htarget]
    have hsuffix : s.partialSuffix.getD (Options.ofTarget options.target).partialSuffix =
        options.partialSuffix := decided_iff.mp hsuffix
    have hcollection : s.collectionType.getD (Options.ofTarget options.target).collectionType =
        options.collectionType := decided_iff.mp hcollection
    show Except.ok _ = Except.ok options
    rw [decided_iff.mp hpartial, decided_iff.mp hcontainer, hsuffix, hcollection]

/-- **Settings are not resolved just if the winning name is that of no family.** -/
theorem resolve_eq_error_iff {err : GenerationError} : s.resolve o = .error err ↔
    ∃ name, Decided o.target s.target TargetFamily.zod.name name ∧
      (∀ family : TargetFamily, TargetFamily.plainName name ≠ family.name) ∧
      err = .unsupportedTarget name := by
  have hname := decided_iff.mpr (Eq.refl ((o.target <|> s.target).getD TargetFamily.zod.name))
  rw [resolve_of_decided hname, bind_eq_error_iff]
  constructor
  · rintro (h | ⟨target, -, h⟩)
    · exact ⟨_, hname, TargetFamily.ofName_eq_error_iff.mp h⟩
    · cases h
  · rintro ⟨name, hdecided, h⟩
    rw [decided_iff.mp hdecided]
    exact .inl (TargetFamily.ofName_eq_error_iff.mpr h)

/-- Settings that spell out options are resolved to them. -/
theorem ofOptions_merges (options : Options) : options.Merges {} (ofOptions options) where
  target := ⟨options.target.name, .file rfl rfl, TargetFamily.plainName_name options.target⟩
  usePartialTypes := .file rfl rfl
  container := .file rfl rfl
  partialSuffix := .file rfl rfl
  collectionType := .file rfl rfl

end Settings

/-! ### The settings file -/

namespace Disk

variable {disk disk' : Disk} {asked asked' source : Option String} {directory directory' : String}
  {settings : Settings} {overrides : Overrides} {options : Options} {decode : SettingsDecoder}

/-- The settings file that a run consults, if it consults one.  A file that was asked for is consulted
alone, and without such a wish the one beside the units is, if there is one. -/
inductive Consults (disk : Disk) : Option String → String → Option String → Prop where
  | asked {path directory : String} (h : disk.holds path = true) :
      disk.Consults (some path) directory (some path)
  | beside {directory : String} (h : disk.holds (joinPath directory settingsFileName) = true) :
      disk.Consults none directory (some (joinPath directory settingsFileName))
  | nothing {directory : String} (h : disk.holds (joinPath directory settingsFileName) = false) :
      disk.Consults none directory none

/-- The settings that the consulted file holds; without such a file, all are open. -/
inductive Yields (disk : Disk) (decode : SettingsDecoder) : Option String → Settings → Prop where
  | nothing : disk.Yields decode none {}
  | file {path text : String} {settings : Settings} (hread : disk.readText? path = some text)
      (htext : decode text = .ok settings) : disk.Yields decode (some path) settings

/-- Some file or none is consulted, unless one was asked for that does not exist. -/
theorem exists_consults (h : ∀ path, asked = some path → disk.holds path = true) :
    ∃ source, disk.Consults asked directory source := by
  cases asked with
  | some path => exact ⟨_, .asked (h path rfl)⟩
  | none =>
    cases hbeside : disk.holds (joinPath directory settingsFileName) with
    | true => exact ⟨_, .beside hbeside⟩
    | false => exact ⟨_, .nothing hbeside⟩

theorem Consults.settingsPath? (h : disk.Consults asked directory source) :
    disk.settingsPath? asked directory = source := by
  cases h with
  | asked h => exact if_pos h
  | beside h => exact if_pos h
  | nothing h => exact if_neg (by rw [h]; exact Bool.false_ne_true)

theorem Consults.holds (h : disk.Consults asked directory source) {path : String}
    (hpath : source = some path) : disk.holds path = true := by
  cases h with
  | asked h => exact Option.some.inj hpath ▸ h
  | beside h => exact Option.some.inj hpath ▸ h
  | nothing => cases hpath

/-- Once it is clear which file is consulted, the options follow from what is found there. -/
theorem Consults.resolveOptions_eq (h : disk.Consults asked directory source)
    (overrides : Overrides) (decode : SettingsDecoder) :
    disk.resolveOptions asked directory overrides decode =
      disk.findSettings asked directory decode >>= fun settings =>
        Traced.ofExcept ((settings.resolve overrides).mapError .generation) := by
  have hasked : asked.filter (fun path => !disk.holds path) = none := by
    cases h with
    | asked h => rw [Option.filter_some, h]; rfl
    | beside => rfl
    | nothing => rfl
  rw [resolveOptions, hasked]

theorem loadSettings_congr {path : String} (h : disk'.get? path = disk.get? path) :
    disk'.loadSettings path decode = disk.loadSettings path decode := by
  have hholds : disk'.holds path = disk.holds path := congrArg Option.isSome h
  have hread : disk'.readText? path = disk.readText? path := by rw [readText?, h]; rfl
  rw [loadSettings, loadSettings, hholds, hread]

/-- **Nothing but the consulted file is read.** -/
theorem Consults.findSettings_congr (h : disk.Consults asked directory source)
    (h' : disk'.Consults asked' directory' source)
    (hget : ∀ path, source = some path → disk'.get? path = disk.get? path) :
    disk'.findSettings asked' directory' decode = disk.findSettings asked directory decode := by
  rw [findSettings, findSettings, h.settingsPath?, h'.settingsPath?]
  cases source with
  | none => rfl
  | some path => simp only [loadSettings_congr (hget path rfl)]

/-- A path that leads somewhere leads to settings, if to anything that can be used. -/
theorem loadSettings_eq_ok_iff {path : String} (h : disk.holds path = true)
    (found : Option Settings) : disk.loadSettings path decode = .ok found ↔
      ∃ settings, found = some settings ∧ disk.Yields decode (some path) settings := by
  rw [loadSettings, h]
  constructor
  · intro hload
    cases hread : disk.readText? path with
    | none =>
      rw [hread] at hload
      cases hload
    | some text =>
      cases htext : decode text with
      | error fault =>
        simp only [hread, htext] at hload
        cases hload
      | ok settings =>
        simp only [hread, htext] at hload
        cases hload
        exact ⟨settings, rfl, .file hread htext⟩
  · rintro ⟨settings, rfl, ⟨⟩ | ⟨hread, htext⟩⟩
    simp only [hread, htext]
    rfl

/-- **What is found is what the consulted file holds.**  There are no settings in place of a file that
cannot be read. -/
theorem Consults.findSettings_eq_ok_iff (h : disk.Consults asked directory source) :
    (disk.findSettings asked directory decode).result = .ok settings ↔
      disk.Yields decode source settings := by
  rw [findSettings, h.settingsPath?]
  cases source with
  | none =>
    rw [Traced.result_pure, Except.ok.injEq]
    constructor
    · rintro rfl
      exact .nothing
    · rintro ⟨⟩
      rfl
  | some path =>
    have hload := @loadSettings_eq_ok_iff disk decode path (h.holds rfl)
    simp only [Traced.result_bind, Traced.result_event, Traced.result_ofExcept, Traced.result_pure]
    constructor
    · intro hfound
      obtain ⟨-, -, hfound⟩ := bind_eq_ok hfound
      obtain ⟨found, hfound, hsettings⟩ := bind_eq_ok hfound
      obtain ⟨settings, rfl, hyields⟩ := (hload found).mp hfound
      cases hsettings
      exact hyields
    · intro hyields
      rw [(hload (some settings)).mpr ⟨settings, rfl, hyields⟩]
      rfl

/-- **The options of a run are what the settings of the consulted file are resolved to.** -/
theorem Consults.resolveOptions_eq_ok_iff (h : disk.Consults asked directory source) :
    (disk.resolveOptions asked directory overrides decode).result = .ok options ↔
      ∃ settings, disk.Yields decode source settings ∧ options.Merges overrides settings := by
  rw [h.resolveOptions_eq]
  simp only [Traced.bind_result_eq_ok, Traced.result_ofExcept, h.findSettings_eq_ok_iff,
    mapError_eq_ok, Settings.resolve_eq_ok_iff]

/-- **The only failure after the settings are found is a name of no family.** -/
theorem Consults.resolveOptions_eq_error_iff (h : disk.Consults asked directory source)
    (hyields : disk.Yields decode source settings) {err : Failure} :
    (disk.resolveOptions asked directory overrides decode).result = .error err ↔
      ∃ name, Decided overrides.target settings.target TargetFamily.zod.name name ∧
        (∀ family : TargetFamily, TargetFamily.plainName name ≠ family.name) ∧
        err = .generation (.unsupportedTarget name) := by
  have hfound := h.findSettings_eq_ok_iff.mpr hyields
  rw [h.resolveOptions_eq, Traced.result_bind, hfound]
  show (settings.resolve overrides).mapError .generation = .error err ↔ _
  simp only [mapError_eq_error_iff, Settings.resolve_eq_error_iff]
  constructor
  · rintro ⟨_, ⟨name, hname, hnone, rfl⟩, rfl⟩
    exact ⟨name, hname, hnone, rfl⟩
  · rintro ⟨name, hname, hnone, rfl⟩
    exact ⟨_, ⟨name, hname, hnone, rfl⟩, rfl⟩

/-- A file that was asked for and does not exist is not replaced by another one. -/
theorem resolveOptions_of_missing {path : String} (h : disk.holds path = false) :
    disk.resolveOptions (some path) directory overrides decode =
      Traced.fail (.settingsMissing path) := by
  have hasked : (some path).filter (fun path => !disk.holds path) = some path := by
    rw [Option.filter_some, h]
    rfl
  rw [resolveOptions, hasked]

end Disk

/-! ### The options of commands -/

section Commands

variable {disk : Disk} {decoders : Decoders} {options : Options} {model : EntityModel}

/-- What a run generates from its model under its options, it hands over; if it generates nothing, that
is why it fails. -/
theorem execute_generate_of_options {r : GenerateRequest}
    (hoptions : (disk.resolveOptions r.settings r.input r.overrides decoders.settings).result =
      .ok options) (hmodel : (disk.loadModel r.input decoders.unit).result = .ok model) :
    (∀ err, model.generate options = .error err →
      (execute disk (.generate r) decoders).result = .error (.generation err)) ∧
    ∀ g, model.generate options = .ok g → execute disk (.generate r) decoders =
      deliver disk r (disk.generation r decoders).entries g := by
  constructor
  · intro err herr
    have hgeneration : (disk.generation r decoders).result = .error (.generation err) := by
      rw [Disk.generation, Traced.bind_result_of_ok hoptions, Traced.bind_result_of_ok hmodel,
        Traced.result_bind, EntityModel.tracedGeneration_result, herr]
      rfl
    rw [execute_generate_of_error hgeneration]
  · intro g hg
    exact execute_generate_of_ok (Disk.generation_eq_ok.mpr ⟨_, _, hoptions, hmodel, hg⟩)

/-- A check reports what there is to find in its model under its options. -/
theorem execute_lint_of_options {r : LintRequest}
    (hoptions : (disk.resolveOptions r.settings r.input {} decoders.settings).result = .ok options)
    (hmodel : (disk.loadModel r.input decoders.unit).result = .ok model) :
    let findings := (model.findings options).filter fun f => f.isError || !r.errorsOnly
    (execute disk (.lint r) decoders).printed = report findings ∧
      (execute disk (.lint r) decoders).result =
        if r.failOnError && hasErrors findings then
          .error (.lintErrors (findings.filter Finding.isError).length)
        else .ok () := by
  intro findings
  have hfindings : (disk.findings r decoders).result = .ok findings := by
    rw [Disk.findings, Traced.bind_result_of_ok hoptions, Traced.bind_result_of_ok hmodel,
      Traced.result_pure, Except.ok.injEq]
    cases herrors : r.errorsOnly <;> simp [findings, herrors]
  rw [execute, executeLint, Outcome.ofTraced, hfindings]
  exact ⟨rfl, rfl⟩

end Commands

/-- **Settings come from one file and three layers.**  A file that was asked for and does not exist
makes resolution fail.  Otherwise one file or none is consulted, and any two runs that consult the same
file and find the same there come to the same result, whatever else is on their disks.  Every option is
the override if there is one, or else what the file holds, or else the default of the family that won.
With settings that can be read, resolution fails just if the name that won is that of no family.
Settings that spell out options are resolved to them.

A run that generates declarations is resolved under the three settings that may be given for it, and a
check under none.  Both fail with their resolution; otherwise declarations are generated, and findings
are made, under the options that came of it.  All this holds however texts are decoded. -/
theorem settings_resolved (disk : Disk) (decoders : Decoders) :
    (∀ (asked : Option String) (directory : String) (overrides : Overrides),
      let resolution :=
        (disk.resolveOptions asked directory overrides decoders.settings).result
      (∀ path, asked = some path → disk.holds path = false →
        resolution = .error (.settingsMissing path)) ∧
      ((∀ path, asked = some path → disk.holds path = true) →
        ∃ source, disk.Consults asked directory source) ∧
      ∀ source, disk.Consults asked directory source →
        (∀ (disk' : Disk) (asked' : Option String) (directory' : String),
          disk'.Consults asked' directory' source →
          (∀ path, source = some path → disk'.get? path = disk.get? path) →
            disk'.resolveOptions asked' directory' overrides decoders.settings =
              disk.resolveOptions asked directory overrides decoders.settings) ∧
        (∀ options, resolution = .ok options ↔
          ∃ settings, disk.Yields decoders.settings source settings ∧
            options.Merges overrides settings) ∧
        (∀ settings, disk.Yields decoders.settings source settings → ∀ err,
          resolution = .error err ↔
            ∃ name, Decided overrides.target settings.target TargetFamily.zod.name name ∧
              (∀ family : TargetFamily, TargetFamily.plainName name ≠ family.name) ∧
              err = .generation (.unsupportedTarget name)) ∧
        ∀ options, disk.Yields decoders.settings source (.ofOptions options) →
          (disk.resolveOptions asked directory {} decoders.settings).result = .ok options) ∧
    (∀ options : Options, (Settings.ofOptions options).resolve {} = .ok options) ∧
    (∀ r : GenerateRequest,
      let resolution := (disk.resolveOptions r.settings r.input
        ⟨r.target, r.partialTypes, r.container⟩ decoders.settings).result
      (∀ err, resolution = .error err →
        (execute disk (.generate r) decoders).result = .error err) ∧
      ∀ options, resolution = .ok options →
        ∀ model, (disk.loadModel r.input decoders.unit).result = .ok model →
          (∀ err, model.generate options = .error err →
            (execute disk (.generate r) decoders).result = .error (.generation err)) ∧
          ∀ g, model.generate options = .ok g → execute disk (.generate r) decoders =
            deliver disk r (disk.generation r decoders).entries g) ∧
    ∀ r : LintRequest,
      let resolution :=
        (disk.resolveOptions r.settings r.input ⟨none, none, none⟩ decoders.settings).result
      (∀ err, resolution = .error err → (execute disk (.lint r) decoders).result = .error err) ∧
      ∀ options, resolution = .ok options →
        ∀ model, (disk.loadModel r.input decoders.unit).result = .ok model →
          let findings := (model.findings options).filter fun f => f.isError || !r.errorsOnly
          (execute disk (.lint r) decoders).printed = report findings ∧
          (execute disk (.lint r) decoders).result =
            if r.failOnError && hasErrors findings then
              .error (.lintErrors (findings.filter Finding.isError).length)
            else .ok () := by
  refine ⟨fun asked directory overrides => ⟨?missing, Disk.exists_consults, fun source h =>
    ⟨?alone, ?merged, ?refused, ?spelled⟩⟩, ?again, fun r => ⟨?generateFails, ?generates⟩,
    fun r => ⟨?lintFails, ?lints⟩⟩
  case missing =>
    rintro path rfl hmissing
    rw [Disk.resolveOptions_of_missing hmissing, Traced.result_fail]
  case alone =>
    intro disk' asked' directory' h' hget
    rw [h.resolveOptions_eq, h'.resolveOptions_eq, h.findSettings_congr h' hget]
  case merged => exact fun options => h.resolveOptions_eq_ok_iff
  case refused => exact fun settings hyields err => h.resolveOptions_eq_error_iff hyields
  case spelled =>
    intro options hyields
    exact h.resolveOptions_eq_ok_iff.mpr ⟨_, hyields, Settings.ofOptions_merges options⟩
  case again =>
    exact fun options => Settings.resolve_eq_ok_iff.mpr (Settings.ofOptions_merges options)
  case generateFails =>
    intro err herr
    have hgeneration : (disk.generation r decoders).result = .error err := by
      rw [Disk.generation, Traced.result_bind, GenerateRequest.overrides, herr]
      rfl
    rw [execute_generate_of_error hgeneration]
  case generates => exact fun options hoptions model => execute_generate_of_options hoptions
  case lintFails =>
    intro err herr
    have hfindings : (disk.findings r decoders).result = .error err := by
      rw [Disk.findings, Traced.result_bind, herr]
      rfl
    rw [execute, executeLint, Outcome.ofTraced, hfindings]
  case lints => exact fun options hoptions model => execute_lint_of_options hoptions

/-- A disk with a settings file beside its only unit, and another one that names no family. -/
def strictDisk : Disk where
  root := .directory
    [("units", .directory
      [(settingsFileName, .file "target = \"yup\"".toUTF8),
        ("tag.json", .file "\x7b\"entities\":[\x7b\"name\":\"Tag\"\x7d]\x7d".toUTF8)]),
      ("strict.toml", .file "target = \"io-ts\"\nnamespace = \"Models\"".toUTF8)]

/-- A run over the units of the disk that names a family, and the other settings file. -/
def strictRequest : GenerateRequest where
  input := "/units"
  target := some " ZOD "
  settings := some "/strict.toml"

/-- The options of that run: the container is named by the file. -/
def strictOptions : Options :=
  { Options.ofTarget .zod with container := "Models" }

/-- The unknown name in the file does no harm to a run that names a family, whose default for partial
types is the one of that family; a check, for which no family can be named, fails with it. -/
theorem settings_resolved_strictDisk :
    (strictDisk.resolveOptions (some "/strict.toml") "/units" ⟨some " ZOD ", none, none⟩
      Decoders.standard.settings).result = .ok strictOptions ∧
    (∃ model g, (strictDisk.loadModel "/units" Decoders.standard.unit).result = .ok model ∧
      model.generate strictOptions = .ok g ∧
      (execute strictDisk (.generate strictRequest)).printed = g.output) ∧
    (execute strictDisk (.lint { input := "/units", settings := some "/strict.toml" })).result =
      .error (.generation (.unsupportedTarget "io-ts")) := by
  have hconsults : strictDisk.Consults (some "/strict.toml") "/units" (some "/strict.toml") :=
    .asked rfl
  have hread : strictDisk.readText? "/strict.toml" =
      some "target = \"io-ts\"\nnamespace = \"Models\"" := rfl
  have hyields : strictDisk.Yields Settings.ofText (some "/strict.toml")
      { target := "io-ts", container := "Models" } :=
    .file hread (by decide +kernel)
  obtain ⟨model, g, hmodel, hg⟩ : ∃ model g,
      (strictDisk.loadModel "/units" Decoders.standard.unit).result = .ok model ∧
        model.generate strictOptions = .ok g :=
    Disk.exists_generate (show _ = some ["Tag"] by decide +kernel) (by decide +kernel) (by decide)
  obtain ⟨hresolution, -, hgenerate, hlint⟩ := settings_resolved strictDisk .standard
  have hoptions : (strictDisk.resolveOptions (some "/strict.toml") "/units"
      ⟨some " ZOD ", none, none⟩ Decoders.standard.settings).result = .ok strictOptions :=
    (((hresolution _ _ _).2.2 _ hconsults).2.1 _).mpr ⟨_, hyields,
      { target := ⟨" ZOD ", .override rfl, by decide +kernel⟩
        usePartialTypes := .fallback rfl rfl
        container := .file rfl rfl
        partialSuffix := .fallback rfl rfl
        collectionType := .fallback rfl rfl }⟩
  refine ⟨hoptions, ⟨model, g, hmodel, hg, ?_⟩,
    (hlint _).1 _ ((((hresolution _ _ _).2.2 _ hconsults).2.2.1 _ hyields _).mpr
      ⟨"io-ts", .file rfl rfl, ?_, rfl⟩)⟩
  · rw [((hgenerate strictRequest).2 _ hoptions model hmodel).2 g hg]
    rfl
  · intro family
    cases family <;> decide +kernel

end EntityProjection
