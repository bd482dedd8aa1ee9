import OpenApiClient.Proofs.AcquisitionFrame
import OpenApiClient.Proofs.FilesApart
import OpenApiClient.Proofs.GenerationRuns

/-! Generating again.
A generation from a file reads its settings and its document, and both read the same afterwards if no
generated file took their place. Then a second run has the same files to write, and finds them
written. A settings file is optional, so it has to be asked besides that the run does not bring one
about: a path may lead nowhere only because a directory on it is not made yet. -/
namespace OpenApiClient

def Event.SameAnswer (disk later : Disk) : Event → Prop
  | .looked path => later.has path = disk.has path ∧ later.isDirectory path = disk.isDirectory path
  | .read path => later.read path = disk.read path
  | _ => False

/-- A run that only asks goes the same way in a world with the same answers, and changes nothing. -/
theorem Runs.repeats {action : Action α} {world final later : World} {events : List Event} {a : α}
    (run : Runs action world events a final)
    (same : ∀ event ∈ events, event.SameAnswer world.disk later.disk) :
    action.run later = (a, later) := by
  induction run with
  | done => rfl
  | has _ ih =>
    obtain ⟨here, same⟩ := List.forall_mem_cons.mp same
    rw [Action.run, here.1]
    exact ih same
  | isDirectory _ ih =>
    obtain ⟨here, same⟩ := List.forall_mem_cons.mp same
    rw [Action.run, here.2]
    exact ih same
  | read _ ih =>
    obtain ⟨here, same⟩ := List.forall_mem_cons.mp same
    rw [Action.run, here]
    exact ih same
  | write | writeRefused | makeDirectory | makeDirectoryRefused | request =>
    exact (same _ (.head _)).elim

namespace Disk

variable {disk later before after : Disk} {path : String} {place : Place} {content : ByteArray}

def SameFile (disk : Disk) (path other : String) : Prop :=
  ∃ place content, disk.find path = .ok (place, .file content) ∧
    disk.find other = .ok (place, .file content)

def sameFile (disk : Disk) (path other : String) : Bool :=
  match disk.find path, disk.find other with
  | .ok (place, .file _), .ok (place', .file _) => place = place'
  | _, _ => false

theorem sameFile_iff {other : String} :
    disk.sameFile path other = true ↔ disk.SameFile path other := by
  unfold sameFile SameFile
  constructor
  · intro same
    split at same
    · rename_i place content place' content' found found'
      obtain rfl := of_decide_eq_true same
      obtain ⟨_, _, _, there, _⟩ := find_ok found
      obtain ⟨_, _, _, there', _⟩ := find_ok found'
      cases there.symm.trans there'
      exact ⟨place, content, found, found'⟩
    · cases same
  · rintro ⟨place, content, found, found'⟩
    simp [found, found']

instance (disk : Disk) (path other : String) : Decidable (disk.SameFile path other) :=
  decidable_of_iff _ sameFile_iff

theorem sameAnswer_of_find (same : later.find path = disk.find path) :
    (Event.looked path).SameAnswer disk later ∧ (Event.read path).SameAnswer disk later := by
  unfold Event.SameAnswer has isDirectory Disk.read
  simp only [same, and_self]

theorem isDirectory_has (there : disk.isDirectory path = true) : disk.has path = true := by
  obtain ⟨place, found⟩ := isDirectory_iff.mp there
  rw [has, found]
  rfl

/-- A file that no other one was written over is found as it was. -/
theorem find_kept {directory : String} {files : List GeneratedFile}
    (written : Written directory files before after)
    (spared : ∀ file ∈ files, ¬ after.SameFile (file.pathIn directory) path)
    (found : before.find path = .ok (place, .file content)) :
    after.find path = .ok (place, .file content) := by
  obtain ⟨_, _, _, there, _⟩ := find_ok found
  rcases written.kept place content there with kept | ⟨file, mem, leads⟩
  · exact find_extends written.directories found kept
  · obtain ⟨place', content', leads', held⟩ := written.found file mem
    obtain rfl := leads.unique leads'
    refine absurd ?_ (spared file mem)
    obtain ⟨target, target_found, goes, _, plain⟩ := find_ok found
    have unslashed : target.slashed = true → Entry.file content' = .directory := by
      intro slashed
      cases plain slashed
    exact ⟨place', content', leads.find held,
      find_of_target (target_extends written.directories target_found) goes held unslashed⟩

end Disk

section Again

variable {flags : GenerateFlags} {environment : Environment} {world later final : World}
  {settings : Settings} {acquired : Acquired} {paths : List String}

theorem settings_again
    (resolved : (flags.settings environment).run.run world = (.ok settings, world))
    (kept : ∀ place content, world.disk.find flags.config = .ok (place, .file content) →
      later.disk.find flags.config = .ok (place, .file content))
    (steady : later.disk.has flags.config = true → world.disk.has flags.config = true) :
    (flags.settings environment).run.run later = (.ok settings, later) := by
  have run := runs_run (flags.settings environment).run world
  rw [resolved] at run
  obtain ⟨_, ⟨absent, events⟩ | ⟨events, there⟩⟩ := settings_runs run
  · have still : later.disk.has flags.config = false := by
      rw [Bool.eq_false_iff]
      intro came
      cases absent.symm.trans (steady came)
    have nowhere : ∀ {disk : Disk}, disk.has flags.config = false →
        disk.isDirectory flags.config = false := by
      intro disk gone
      rw [Bool.eq_false_iff]
      intro made
      cases gone.symm.trans (Disk.isDirectory_has made)
    refine run.repeats ?_
    rw [events]
    simp [Event.SameAnswer, absent, still, nowhere absent, nowhere still]
  · obtain ⟨content, read⟩ := there settings rfl
    obtain ⟨place, found⟩ := Disk.read_ok.mp read
    obtain ⟨looked, read⟩ := Disk.sameAnswer_of_find ((kept place content found).trans found.symm)
    refine run.repeats ?_
    rw [events]
    simp [looked, read]

theorem acquire_here {middle : World} (here : ¬ NamesServer settings.openApiSpec)
    (obtained : (settings.acquisition.acquire settings.openApiSpec).run.run world =
      (.ok acquired, middle)) : middle = world ∧
    Consulted world.disk settings.openApiSpec (.file settings.openApiSpec) (.ok acquired) ∧
    Runs (settings.acquisition.acquire settings.openApiSpec).run world [.read settings.openApiSpec]
      (.ok acquired) world := by
  have run := runs_run (settings.acquisition.acquire settings.openApiSpec).run world
  rw [obtained] at run
  rcases Acquisition.acquire_runs run with ⟨_, events, rfl, told⟩ | ⟨remote, _⟩
  · rw [events] at run
    exact ⟨rfl, told, run⟩
  · exact absurd remote here

theorem source_again (here : ¬ NamesServer settings.openApiSpec)
    (obtained : (settings.acquisition.acquire settings.openApiSpec).run.run world =
      (.ok acquired, world))
    (kept : ∀ place content, world.disk.find settings.openApiSpec = .ok (place, .file content) →
      later.disk.find settings.openApiSpec = .ok (place, .file content)) :
    (settings.acquisition.acquire settings.openApiSpec).run.run later = (.ok acquired, later) := by
  obtain ⟨_, told, run⟩ := acquire_here here obtained
  cases told with
  | read read _ =>
    obtain ⟨place, found⟩ := Disk.read_ok.mp read
    obtain ⟨_, same⟩ := Disk.sameAnswer_of_find ((kept place _ found).trans found.symm)
    exact run.repeats (by simpa using same)

end Again

def Settings.outputs (settings : Settings) : List String :=
  [settings.client.typesPath settings.outputDir,
    settings.client.clientPath settings.fileName settings.outputDir,
    settings.client.indexPath settings.outputDir]

structure GeneratesHere (environment : Environment) (arguments : List String)
    (flags : GenerateFlags) (settings : Settings) (world : World) : Prop where
  asked : Invocation.ofArguments? arguments = some (.command (.generate flags))
  resolved : ((flags.settings environment).run.run world).1 = .ok settings
  here : ¬ NamesServer settings.openApiSpec
  succeeds : ((runArguments environment arguments).run world).1.exitCode = 0

structure SourcesLeft (flags : GenerateFlags) (settings : Settings) (before after : Disk) : Prop where
  /-- No generated file is the document or the settings file. -/
  apart : ∀ path ∈ settings.outputs, ¬ after.SameFile path settings.openApiSpec ∧
    ¬ after.SameFile path flags.config
  /-- Where the settings file is named there is nothing new. -/
  steady : after.has flags.config = true → before.has flags.config = true

structure Regenerated (environment : Environment) (arguments : List String) (settings : Settings)
    (world : World) : Prop where
  again : (runArguments environment arguments).run
      ((runArguments environment arguments).run world).2 =
    (runArguments environment arguments).run world
  frame : ∃ document, Consulted world.disk settings.openApiSpec (.file settings.openApiSpec)
      (.ok ⟨document, .file settings.openApiSpec⟩) ∧
    Written settings.outputDir (settings.generation document).files world.disk
      ((runArguments environment arguments).run world).2.disk ∧
    Disk.Changed (OnTheWay settings.outputDir (settings.generation document).files)
      (HeldBy settings.outputDir (settings.generation document).files) world.disk
      ((runArguments environment arguments).run world).2.disk
  server : ((runArguments environment arguments).run world).2.server = world.server

section Twice

variable {environment : Environment} {arguments : List String} {flags : GenerateFlags}
  {settings : Settings} {world final : World} {acquired : Acquired} {paths : List String}

theorem settings_world : ((flags.settings environment).run.run world).2 = world :=
  (settings_runs (runs_run (flags.settings environment).run world)).1

theorem generates_runs {middle : World}
    (generates : Generates flags environment world settings acquired middle paths final) :
    ∃ events, Runs (writeFiles settings.outputDir (settings.generation acquired.document).files).run
      middle events (.ok paths) final := by
  have run := runs_run (writeFiles settings.outputDir
    (settings.generation acquired.document).files).run middle
  rw [generates.written] at run
  exact ⟨_, run⟩

theorem generates_again (here : ¬ NamesServer settings.openApiSpec)
    (generates : Generates flags environment world settings acquired world paths final)
    (left : SourcesLeft flags settings world.disk final.disk) :
    Generates flags environment final settings acquired final paths final := by
  obtain ⟨_, run⟩ := generates_runs generates
  obtain ⟨_, written⟩ := writeFiles_written run
  have apart : ∀ file ∈ (settings.generation acquired.document).files,
      ¬ final.disk.SameFile (file.pathIn settings.outputDir) settings.openApiSpec ∧
        ¬ final.disk.SameFile (file.pathIn settings.outputDir) flags.config :=
    fun file mem => left.apart _ (List.mem_map_of_mem (f := (·.pathIn settings.outputDir)) mem)
  constructor
  · refine settings_again generates.resolved ?_ left.steady
    exact fun place content => Disk.find_kept written fun file mem => (apart file mem).2
  · refine source_again here generates.obtained ?_
    exact fun place content => Disk.find_kept written fun file mem => (apart file mem).1
  · exact writeFiles_again run

theorem generates_frame
    (generates : Generates flags environment world settings acquired world paths final) :
    Written settings.outputDir (settings.generation acquired.document).files world.disk final.disk ∧
    Disk.Changed (OnTheWay settings.outputDir (settings.generation acquired.document).files)
      (HeldBy settings.outputDir (settings.generation acquired.document).files)
      world.disk final.disk ∧ final.server = world.server := by
  obtain ⟨events, run⟩ := generates_runs generates
  obtain ⟨_, written⟩ := writeFiles_written run
  have puts := run.only (writeFiles_puts _ _)
  refine ⟨written, run.changes puts, run.server_eq ?_⟩
  intro url mem
  cases puts _ mem

end Twice

/-- A generation from a file can be repeated: it finds what it read and has nothing left to change. -/
theorem regeneration_idempotent {environment : Environment} {arguments : List String}
    {flags : GenerateFlags} {settings : Settings} {world : World}
    (generates : GeneratesHere environment arguments flags settings world)
    (left : SourcesLeft flags settings world.disk
      ((runArguments environment arguments).run world).2.disk) :
    Regenerated environment arguments settings world := by
  obtain ⟨asked, resolved, here, succeeds⟩ := generates
  have run : runArguments environment arguments = (Run.generation flags environment).outcome := by
    rw [runArguments, asked]
    rfl
  rw [run] at succeeds left
  obtain ⟨acquired, middle, paths, final, parts⟩ :=
    generation_generates succeeds (Prod.ext resolved settings_world)
  obtain ⟨rfl, told, _⟩ := acquire_here here parts.obtained
  have first := generates_outcome parts
  rw [first] at left
  have second := generates_outcome (generates_again here parts left)
  obtain ⟨written, changed, server⟩ := generates_frame parts
  constructor
  · rw [run, first, second]
  · obtain ⟨document, origin⟩ := acquired
    obtain rfl := consulted_origin told
    rw [run, first]
    exact ⟨document, told, written, changed⟩
  · rw [run, first]
    exact server

def noVariables : Environment := ⟨fun _ => none⟩

def project (settings : String) (output : List (Place × Entry)) : World :=
  { disk := { entries := [
      (["openapi.json"], .file
        "\x7b\"openapi\":\"3.0.0\",\"info\":\x7b\"title\":\"Users\",\"version\":\"1\"\x7d\x7d".toUTF8),
      (["apigen.config.yaml"], .file settings.toUTF8)] ++ output } }

def staleProject : World :=
  project "outputDir: out\n" [(["out"], .directory), (["out", "types.ts"], .file "// stale\n".toUTF8)]

theorem stale_output_regenerated :
    GeneratesHere noVariables ["generate"] {} { outputDir := "out" } staleProject ∧
    SourcesLeft {} { outputDir := "out" } staleProject.disk
      ((runArguments noVariables ["generate"]).run staleProject).2.disk ∧
    Regenerated noVariables ["generate"] { outputDir := "out" } staleProject := by
  -- One evaluation of the run decides all that is asked of it.
  have evaluated : ((runArguments noVariables ["generate"]).run staleProject).1.exitCode = 0 ∧
      (∀ path ∈ Settings.outputs { outputDir := "out" },
        ¬ ((runArguments noVariables ["generate"]).run staleProject).2.disk.SameFile path
            "./openapi.json" ∧
        ¬ ((runArguments noVariables ["generate"]).run staleProject).2.disk.SameFile path
            "apigen.config.yaml") := by decide +kernel
  have generates : GeneratesHere noVariables ["generate"] {} { outputDir := "out" } staleProject :=
    ⟨by decide +kernel, by decide +kernel, by decide +kernel, evaluated.1⟩
  have left : SourcesLeft {} { outputDir := "out" } staleProject.disk
      ((runArguments noVariables ["generate"]).run staleProject).2.disk :=
    ⟨evaluated.2, fun _ => by decide +kernel⟩
  exact ⟨generates, left, regeneration_idempotent generates left⟩

/-- A settings file behind the output directory is found only once that directory is there. -/
theorem late_settings_change :
    let arguments := ["generate", "--config", "out/../apigen.config.yaml", "--output", "out"]
    let flags : GenerateFlags := { config := "out/../apigen.config.yaml", output := some "out" }
    let settings : Settings := { outputDir := "out" }
    let world := project "generateOptions:\n  toJS: true\n" []
    let first := (runArguments noVariables arguments).run world
    let second := (runArguments noVariables arguments).run first.2
    GeneratesHere noVariables arguments flags settings world ∧
    (∀ path ∈ settings.outputs, ¬ first.2.disk.SameFile path settings.openApiSpec ∧
      ¬ first.2.disk.SameFile path flags.config) ∧
    second.1 ≠ first.1 ∧
    first.2.disk.has "out/types.js" = false ∧ second.2.disk.has "out/types.js" = true := by
  intro arguments flags settings world first second
  have evaluated : first.1.exitCode = 0 ∧
      (∀ path ∈ settings.outputs, ¬ first.2.disk.SameFile path settings.openApiSpec ∧
        ¬ first.2.disk.SameFile path flags.config) ∧
      second.1 ≠ first.1 ∧
      first.2.disk.has "out/types.js" = false ∧ second.2.disk.has "out/types.js" = true := by
    decide +kernel
  exact ⟨⟨by decide +kernel, by decide +kernel, by decide +kernel, evaluated.1⟩, evaluated.2⟩

end OpenApiClient
