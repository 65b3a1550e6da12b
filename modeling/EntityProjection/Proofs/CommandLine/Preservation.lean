import EntityProjection.CommandLine.Execution
import EntityProjection.Proofs.Declaration.Generation
import EntityProjection.Proofs.Files.Contents

/-!
# What commands do to files

A command that checks a model or shows its relations leaves the disk as it is.  A run that generates
declarations leaves all contents as they are until everything is generated, and then changes at most
the one file that its output path leads to.  So after any number of commands a file holds what was
generated by the last run that wrote it, or what it held at first.

* `Traced.bind_result_eq_ok`, `Disk.generation_eq_ok`: what has to succeed before anything is
  written; `Disk.exists_generate`: when it does;
* `GenerateRequest.Writes`: a run that writes a file, with all that this takes;
  `execute_contentAt?`: one command writes a file or leaves its content;
* `Disk.afterCommands`: the disk after commands in a row; `Disk.afterCommands_contentAt?`: by whom a
  file was written last;
* `commands_keep_files`: all of this together.
-/

namespace EntityProjection

/-! ### What has to succeed -/

/-- Two ways in a row succeed if the first one does and then the second one. -/
theorem Traced.bind_result_eq_ok {ε α β : Type} {way : Traced ε α} {next : α → Traced ε β} {b : β} :
    (way >>= next).result = .ok b ↔ ∃ a, way.result = .ok a ∧ (next a).result = .ok b := by
  rw [result_bind]
  refine ⟨bind_eq_ok, ?_⟩
  rintro ⟨a, ha, hb⟩
  rw [ha]
  exact hb

/-- A way that is gone goes on with what was found on it. -/
theorem Traced.bind_result_of_ok {ε α β : Type} {way : Traced ε α} {a : α} (h : way.result = .ok a)
    (next : α → Traced ε β) : (way >>= next).result = (next a).result := by
  rw [result_bind, h]
  rfl

/-- What is logged about an analysis has no influence on what is generated. -/
theorem EntityModel.tracedGeneration_result (model : EntityModel) (options : Options) :
    (model.tracedGeneration options).result = (model.generate options).mapError .generation :=
  rfl

section Execution

variable {disk : Disk} {decoders : Decoders}

/-- **What has to succeed.**  There is something to hand over if the options are resolved, the model
is loaded and its declarations are generated. -/
theorem Disk.generation_eq_ok {r : GenerateRequest} {g : Generation} :
    (disk.generation r decoders).result = .ok g ↔ ∃ options model,
      (disk.resolveOptions r.settings r.input r.overrides decoders.settings).result = .ok options ∧
      (disk.loadModel r.input decoders.unit).result = .ok model ∧ model.generate options = .ok g := by
  simp only [generation, Traced.bind_result_eq_ok, EntityModel.tracedGeneration_result,
    mapError_eq_ok]
  constructor
  · rintro ⟨options, hoptions, model, hmodel, _, hgenerated, -, -, ⟨⟩⟩
    exact ⟨options, model, hoptions, hmodel, hgenerated⟩
  · rintro ⟨options, model, hoptions, hmodel, hgenerated⟩
    exact ⟨options, hoptions, model, hmodel, g, hgenerated, (), rfl, rfl⟩

/-- Declarations can be generated from the units in a directory if these make up a model and the names
to be declared do not get in each other's way. -/
theorem Disk.exists_generate {directory : String} {decode : Decoder} {options : Options}
    {names : List String}
    (hloaded : (disk.loadModel directory decode).result.toOption.map
      (fun model => model.declarationNames options) = some names)
    (hidentifiers : ∀ name ∈ options.container :: options.collectionType :: names,
      Text.isIdentifier name = true) (hnodup : (options.collectionType :: names).Nodup) :
    ∃ model g, (disk.loadModel directory decode).result = .ok model ∧
      model.generate options = .ok g := by
  cases hmodel : (disk.loadModel directory decode).result with
  | error e =>
    rw [hmodel] at hloaded
    cases hloaded
  | ok model =>
    rw [hmodel] at hloaded
    have hnames : model.declarationNames options = names := Option.some.inj hloaded
    obtain ⟨g, hg⟩ : ∃ g, model.generate options = .ok g := by
      rw [EntityModel.exists_generate_iff, hnames]
      exact ⟨hidentifiers, hnodup⟩
    exact ⟨model, g, rfl, hg⟩

/-! ### One command -/

theorem Outcome.ofTraced_disk {α : Type} (disk : Disk) (way : Traced Failure α)
    (finish : α → String × Except Failure Unit) :
    (Outcome.ofTraced disk way finish).disk = disk := by
  unfold Outcome.ofTraced
  split <;> rfl

/-- A check leaves the disk as it is. -/
theorem execute_lint_disk (disk : Disk) (decoders : Decoders) (r : LintRequest) :
    (execute disk (.lint r) decoders).disk = disk :=
  Outcome.ofTraced_disk disk _ _

/-- Relations are shown without a change of the disk. -/
theorem execute_graph_disk (disk : Disk) (decoders : Decoders) (r : GraphRequest) :
    (execute disk (.graph r) decoders).disk = disk :=
  Outcome.ofTraced_disk disk _ _

/-- A run that generates declarations writes them to the file at a place. -/
structure GenerateRequest.Writes (r : GenerateRequest) (disk : Disk) (decoders : Decoders)
    (g : Generation) (path : String) (place : List String) : Prop where
  output : r.output = some path
  notDry : r.dryRun = false
  /-- The options are resolved, the model is loaded and its declarations are generated. -/
  generated : ∃ options model,
    (disk.resolveOptions r.settings r.input r.overrides decoders.settings).result = .ok options ∧
    (disk.loadModel r.input decoders.unit).result = .ok model ∧ model.generate options = .ok g
  /-- The path leads nowhere, or the run is forced. -/
  allowed : disk.holds path = false ∨ r.force = true
  finished : (execute disk (.generate r) decoders).result = .ok ()
  /-- The path leads to the place from then on. -/
  located : (execute disk (.generate r) decoders).disk.locate? path = some place

/-- A command writes a text to the file at a place. -/
def Command.Writes (command : Command) (disk : Disk) (decoders : Decoders) (place : List String)
    (text : String) : Prop :=
  ∃ r g path, command = .generate r ∧ r.Writes disk decoders g path place ∧ text = g.output

/-- What was generated is printed or only announced, or it is for the file at the output path. -/
theorem deliver_eq (disk : Disk) (r : GenerateRequest) (entries : List LogEntry) (g : Generation) :
    ((r.dryRun = true ∨ r.output = none) ∧
      ∃ printed, deliver disk r entries g = { disk, printed, entries }) ∨
    ∃ path, r.dryRun = false ∧ r.output = some path ∧
      deliver disk r entries g =
        match disk.writeOutput path g.output r.force with
        | (disk, .error e) => { disk, entries, result := .error e }
        | (disk, .ok outcome) => { disk, printed := outcome.notice path, entries } := by
  unfold deliver
  cases hdry : r.dryRun with
  | true => exact .inl ⟨.inl rfl, _, rfl⟩
  | false =>
    cases houtput : r.output with
    | none => exact .inl ⟨.inr rfl, _, rfl⟩
    | some path => exact .inr ⟨path, rfl, rfl, rfl⟩

/-- What was generated is written to the output path, or no content changes because there is no such
path, the run is dry, the path leads to something and is not forced, or the file cannot be written.
-/
theorem deliver_cases (disk : Disk) (r : GenerateRequest) (entries : List LogEntry)
    (g : Generation) :
    (∃ path place, r.output = some path ∧ r.dryRun = false ∧
      (disk.holds path = false ∨ r.force = true) ∧ (deliver disk r entries g).result = .ok () ∧
      disk.Wrote (deliver disk r entries g).disk path g.output place) ∨
    disk.SameContents (deliver disk r entries g).disk ∧
      ∀ path, r.output = some path → r.dryRun = false →
        (disk.holds path = false ∨ r.force = true) →
          (deliver disk r entries g).result ≠ .ok () := by
  obtain ⟨hidle, printed, hrun⟩ | ⟨path, hdry, houtput, hrun⟩ := deliver_eq disk r entries g
  · rw [hrun]
    refine .inr ⟨.refl disk, fun path hpath hnot => ?_⟩
    rw [hpath, hnot] at hidle
    exact absurd hidle (by simp)
  · obtain ⟨hallowed, disk', place, hresult, hwrote⟩ | ⟨hkept, hresult⟩ |
      ⟨disk', e, hresult, hsame⟩ := disk.writeOutput_cases path g.output r.force
    · rw [hrun, hresult]
      exact .inl ⟨path, place, houtput, hdry, hallowed, rfl, hwrote⟩
    · rw [hrun, hresult]
      refine .inr ⟨.refl disk, fun path' hpath _ hallowed => ?_⟩
      rw [houtput] at hpath
      cases hpath
      exact absurd hallowed hkept
    · rw [hrun, hresult]
      exact .inr ⟨hsame, fun _ _ _ _ => nofun⟩

/-- If what was generated cannot be handed over, nothing is printed. -/
theorem deliver_printed {r : GenerateRequest} {entries : List LogEntry}
    {g : Generation} {e : Failure} (h : (deliver disk r entries g).result = .error e) :
    (deliver disk r entries g).printed = "" := by
  obtain ⟨-, printed, hrun⟩ | ⟨path, -, -, hrun⟩ := deliver_eq disk r entries g
  · rw [hrun] at h
    cases h
  · rw [hrun] at h ⊢
    split at h
    · rfl
    · cases h

/-- Handing over without force keeps the files that exist, if the output path does not go up. -/
theorem deliver_keeps_existing {r : GenerateRequest} (hforce : r.force = false)
    (hup : ∀ path, r.output = some path → ".." ∉ pathParts path) {place : List String}
    {content : ByteArray} (h : disk.contentAt? place = some content) (entries : List LogEntry)
    (g : Generation) : (deliver disk r entries g).disk.contentAt? place = some content := by
  obtain ⟨-, printed, hrun⟩ | ⟨path, -, houtput, hrun⟩ := deliver_eq disk r entries g
  · rw [hrun]
    exact h
  · have hkept := Disk.writeOutput_keeps_existing (hup path houtput) h g.output
    rw [hforce] at hrun
    rw [hrun]
    split
    · next hresult =>
      rw [hresult] at hkept
      exact hkept
    · next hresult =>
      rw [hresult] at hkept
      exact hkept

/-- A run that generates something hands it over. -/
theorem execute_generate_of_ok {r : GenerateRequest} {g : Generation}
    (h : (disk.generation r decoders).result = .ok g) :
    execute disk (.generate r) decoders =
      deliver disk r (disk.generation r decoders).entries g := by
  rw [execute, executeGenerate, h]

/-- A run that generates nothing fails, leaves the disk as it is and prints nothing. -/
theorem execute_generate_of_error {r : GenerateRequest} {e : Failure}
    (h : (disk.generation r decoders).result = .error e) :
    execute disk (.generate r) decoders =
      { disk, entries := (disk.generation r decoders).entries, result := .error e } := by
  rw [execute, executeGenerate, h]

/-- A run that fails prints nothing. -/
theorem execute_generate_printed {r : GenerateRequest} {e : Failure}
    (h : (execute disk (.generate r) decoders).result = .error e) :
    (execute disk (.generate r) decoders).printed = "" := by
  cases hgeneration : (disk.generation r decoders).result with
  | error e => rw [execute_generate_of_error hgeneration]
  | ok g =>
    rw [execute_generate_of_ok hgeneration] at h ⊢
    exact deliver_printed h

/-- A run that generates declarations writes the file at a place, or it changes no content there. -/
theorem execute_generate_contentAt? (disk : Disk) (decoders : Decoders) (r : GenerateRequest)
    (place : List String) :
    (∃ g path, r.Writes disk decoders g path place ∧
      (execute disk (.generate r) decoders).disk.contentAt? place = some g.output.toUTF8) ∨
    (∀ g path, ¬r.Writes disk decoders g path place) ∧
      (execute disk (.generate r) decoders).disk.contentAt? place = disk.contentAt? place := by
  cases hgeneration : (disk.generation r decoders).result with
  | error e =>
    have hrun := execute_generate_of_error hgeneration
    refine .inr ⟨fun g path hwrites => ?_, by rw [hrun]⟩
    have hfinished := hwrites.finished
    rw [hrun] at hfinished
    cases hfinished
  | ok g =>
    have hrun := execute_generate_of_ok hgeneration
    obtain ⟨path, written, houtput, hdry, hallowed, hresult, hwrote⟩ | ⟨hsame, hfails⟩ :=
      deliver_cases disk r (disk.generation r decoders).entries g
    · rw [← hrun] at hresult hwrote
      by_cases hplace : place = written
      · subst hplace
        have hgenerated := Disk.generation_eq_ok.mp hgeneration
        exact .inl ⟨g, path, ⟨houtput, hdry, hgenerated, hallowed, hresult, hwrote.located⟩,
          hwrote.content⟩
      · refine .inr ⟨fun g' path' hwrites => hplace ?_, hwrote.others place hplace⟩
        -- The path leads to one place only.
        have hpath : path' = path := Option.some.inj (hwrites.output.symm.trans houtput)
        have hlocated := hwrites.located
        rw [hpath] at hlocated
        exact Option.some.inj (hlocated.symm.trans hwrote.located)
    · rw [← hrun] at hsame hfails
      refine .inr ⟨fun g' path' hwrites => ?_, hsame.contents place⟩
      exact hfails path' hwrites.output hwrites.notDry hwrites.allowed hwrites.finished

/-- A run that is not forced keeps the files that exist, if its output path does not go up. -/
theorem execute_generate_keeps_existing {r : GenerateRequest}
    (hforce : r.force = false) (hup : ∀ path, r.output = some path → ".." ∉ pathParts path)
    {place : List String} {content : ByteArray} (h : disk.contentAt? place = some content) :
    (execute disk (.generate r) decoders).disk.contentAt? place = some content := by
  cases hgeneration : (disk.generation r decoders).result with
  | error e =>
    rw [execute_generate_of_error hgeneration]
    exact h
  | ok g =>
    rw [execute_generate_of_ok hgeneration]
    exact deliver_keeps_existing hforce hup h _ g

/-- **Step lemma.**  A command writes the file at a place, or it changes no content there. -/
theorem execute_contentAt? (disk : Disk) (decoders : Decoders) (command : Command)
    (place : List String) :
    (∃ text, command.Writes disk decoders place text ∧
      (execute disk command decoders).disk.contentAt? place = some text.toUTF8) ∨
    (∀ text, ¬command.Writes disk decoders place text) ∧
      (execute disk command decoders).disk.contentAt? place = disk.contentAt? place := by
  cases command with
  | generate r =>
    obtain ⟨g, path, hwrites, hcontent⟩ | ⟨hnone, hsame⟩ :=
      execute_generate_contentAt? disk decoders r place
    · exact .inl ⟨g.output, ⟨r, g, path, rfl, hwrites, rfl⟩, hcontent⟩
    · refine .inr ⟨?_, hsame⟩
      rintro text ⟨r', g, path, hr, hwrites, -⟩
      cases hr
      exact hnone g path hwrites
  | lint r =>
    refine .inr ⟨?_, by rw [execute_lint_disk]⟩
    rintro text ⟨r', g, path, hr, -, -⟩
    cases hr
  | graph r =>
    refine .inr ⟨?_, by rw [execute_graph_disk]⟩
    rintro text ⟨r', g, path, hr, -, -⟩
    cases hr

end Execution

/-! ### Commands in a row -/

namespace Disk

variable (disk : Disk) (decoders : Decoders)

/-- The disk after commands in a row. -/
def afterCommands (commands : List Command) : Disk :=
  commands.foldl (fun disk command => (execute disk command decoders).disk) disk

/-- None of the commands in a row writes the file at a place. -/
def NotWritten (commands : List Command) (place : List String) : Prop :=
  ∀ before command after, commands = before ++ command :: after →
    ∀ text, ¬command.Writes (disk.afterCommands decoders before) decoders place text

theorem NotWritten.cons {disk : Disk} {decoders : Decoders} {command : Command}
    {commands : List Command} {place : List String}
    (hfirst : ∀ text, ¬command.Writes disk decoders place text)
    (hrest : (execute disk command decoders).disk.NotWritten decoders commands place) :
    disk.NotWritten decoders (command :: commands) place := by
  intro before command' after hsplit text
  cases before with
  | nil =>
    obtain ⟨rfl, rfl⟩ := List.cons.inj hsplit
    exact hfirst text
  | cons first before =>
    obtain ⟨rfl, hrow⟩ := List.cons.inj hsplit
    exact hrest before command' after hrow text

/-- **Run lemma.**  After commands in a row a file holds what the last of them that wrote it
generated, or it was not written and holds what it held before. -/
theorem afterCommands_contentAt? (commands : List Command) (place : List String) :
    (∃ before command after text, commands = before ++ command :: after ∧
      command.Writes (disk.afterCommands decoders before) decoders place text ∧
      (disk.afterCommands decoders (before ++ [command])).NotWritten decoders after place ∧
      (disk.afterCommands decoders commands).contentAt? place = some text.toUTF8) ∨
    disk.NotWritten decoders commands place ∧
      (disk.afterCommands decoders commands).contentAt? place = disk.contentAt? place := by
  induction commands generalizing disk with
  | nil => exact .inr ⟨fun before command after h => by simp at h, rfl⟩
  | cons command commands ih =>
    obtain ⟨before, last, after, text, rfl, hwrites, hlater, hcontent⟩ | ⟨hlater, hsame⟩ :=
      ih (execute disk command decoders).disk
    · exact .inl ⟨command :: before, last, after, text, rfl, hwrites, hlater, hcontent⟩
    · obtain ⟨text, hwrites, hcontent⟩ | ⟨hfirst, hkept⟩ :=
        execute_contentAt? disk decoders command place
      · exact .inl ⟨[], command, commands, text, rfl, hwrites, hlater, hsame.trans hcontent⟩
      · exact .inr ⟨.cons hfirst hlater, hsame.trans hkept⟩

end Disk

/-- **Commands keep files.**  On any disk and however texts are decoded, checking a model and showing
its relations change nothing.  A run that generates declarations changes a content only at the place
where its output path leads, if it is not dry, options, model and generation succeeded, and the path
led nowhere or the run is forced; the content is then what was generated.  A file that exists is kept
by a run that is not forced and whose output path does not go up; one that does, such as
`new/../file`, leads nowhere as long as `new` is missing, and to the file once it is made.  A run that
fails prints nothing.  After any commands in a row a file holds what was generated by the last of them
that wrote it, or its first content if none did. -/
theorem commands_keep_files (disk : Disk) (decoders : Decoders) :
    ((∀ r, (execute disk (.lint r) decoders).disk = disk) ∧
      ∀ r, (execute disk (.graph r) decoders).disk = disk) ∧
    (∀ r place,
      (execute disk (.generate r) decoders).disk.contentAt? place ≠ disk.contentAt? place →
      ∃ g path, r.Writes disk decoders g path place ∧
        (execute disk (.generate r) decoders).disk.contentAt? place = some g.output.toUTF8) ∧
    (∀ r place content, r.force = false → (∀ path, r.output = some path → ".." ∉ pathParts path) →
      disk.contentAt? place = some content →
        (execute disk (.generate r) decoders).disk.contentAt? place = some content) ∧
    (∀ r e, (execute disk (.generate r) decoders).result = .error e →
      (execute disk (.generate r) decoders).printed = "") ∧
    ∀ commands place,
      (∃ before command after text, commands = before ++ command :: after ∧
        command.Writes (disk.afterCommands decoders before) decoders place text ∧
        (disk.afterCommands decoders (before ++ [command])).NotWritten decoders after place ∧
        (disk.afterCommands decoders commands).contentAt? place = some text.toUTF8) ∨
      disk.NotWritten decoders commands place ∧
        (disk.afterCommands decoders commands).contentAt? place = disk.contentAt? place := by
  refine ⟨⟨execute_lint_disk disk decoders, execute_graph_disk disk decoders⟩,
    fun r place hchanged => ?_,
    fun r place content hforce hup => execute_generate_keeps_existing hforce hup,
    fun r e => execute_generate_printed, disk.afterCommands_contentAt? decoders⟩
  exact (execute_generate_contentAt? disk decoders r place).resolve_right
    fun hkept => hchanged hkept.2

/-- A directory with one unit in it. -/
def shelf : Disk where
  root := .directory [("shelf", .directory [("tag.json",
    .file "\x7b\"entities\":[\x7b\"name\":\"Tag\"\x7d]\x7d".toUTF8)])]

/-- A run over the units of the shelf. -/
def shelfRequest : GenerateRequest where
  input := "shelf"
  output := some "tag.ts"

theorem exists_shelf_generation :
    ∃ g, (shelf.generation shelfRequest .standard).result = .ok g := by
  have hoptions : (shelf.resolveOptions shelfRequest.settings shelfRequest.input
      shelfRequest.overrides Decoders.standard.settings).result = .ok (.ofTarget .zod) := by rfl
  obtain ⟨model, g, hmodel, hg⟩ : ∃ model g,
      (shelf.loadModel shelfRequest.input Decoders.standard.unit).result = .ok model ∧
        model.generate (.ofTarget .zod) = .ok g :=
    Disk.exists_generate (show _ = some ["Tag"] by decide +kernel) (by decide +kernel) (by decide)
  exact ⟨g, Disk.generation_eq_ok.mpr ⟨_, model, hoptions, hmodel, hg⟩⟩

/-- A run over the shelf writes a file.  A forced run over the units of a directory that is missing
fails, prints nothing and leaves the unit as it is. -/
theorem commands_keep_files_shelf :
    let failing : GenerateRequest :=
      { input := "attic", output := some "shelf/tag.json", force := true }
    (∃ g path, shelfRequest.Writes shelf .standard g path ["tag.ts"] ∧
      (execute shelf (.generate shelfRequest)).disk.contentAt? ["tag.ts"] = some g.output.toUTF8) ∧
    (execute shelf (.generate failing)).printed = "" ∧
    (execute shelf (.generate failing)).disk.contentAt? ["shelf", "tag.json"] =
      shelf.contentAt? ["shelf", "tag.json"] := by
  intro failing
  obtain ⟨-, hchanged, -, hprinted, -⟩ := commands_keep_files shelf .standard
  have hfailed : (execute shelf (.generate failing)).result =
      .error (.generation (.unresolvedSource "attic" .missingDirectory)) := by decide +kernel
  refine ⟨hchanged shelfRequest ["tag.ts"] ?_, hprinted failing _ hfailed,
    by_contra fun hother => ?_⟩
  · obtain ⟨g, hg⟩ := exists_shelf_generation
    rw [execute_generate_of_ok hg]
    show (shelf.put ["tag.ts"] (.file g.output.toUTF8)).contentAt? ["tag.ts"] ≠ none
    exact nofun
  · obtain ⟨g, path, hwrites, -⟩ := hchanged failing _ hother
    rw [hwrites.finished] at hfailed
    cases hfailed

end EntityProjection
