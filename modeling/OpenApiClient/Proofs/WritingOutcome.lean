import OpenApiClient.Proofs.FilesApart

/-! How writing files ends.
The files are written one after the other, each after the directory above it, to the end of the list
or to the first step that fails. What was written by then stays, and what comes behind the failing
step is left alone. -/
namespace OpenApiClient

theorem runs_mapM_error {f : α → ExceptT ε Action β} {items : List α} {world final : World}
    {events : List Event} {e : ε} (run : Runs (items.mapM f).run world events (.error e) final) :
    ∃ done item left, items = done ++ item :: left ∧ ∃ before results middle after,
      Runs (done.mapM f).run world before (.ok results) middle ∧
      Runs (f item).run middle after (.error e) final ∧ events = before ++ after := by
  induction items generalizing world events with
  | nil =>
    rw [List.mapM_nil] at run
    obtain ⟨_, wrong, _⟩ := runs_pure.mp run
    cases wrong
  | cons item items ih =>
    rw [List.mapM_cons] at run
    rcases runs_except_bind.mp run with ⟨first, result, next, _, here, rest, rfl⟩ | ⟨_, here, same⟩
    · rcases runs_except_bind.mp rest with ⟨_, _, _, _, _, wrong, _⟩ | ⟨_, others, same⟩
      · obtain ⟨_, wrong, _⟩ := runs_pure.mp wrong
        cases wrong
      · cases same
        obtain ⟨done, failing, left, rfl, before, results, middle, after, all, fails, rfl⟩ := ih others
        refine ⟨item :: done, failing, left, rfl, first ++ before, result :: results, middle, after,
          ?_, fails, (List.append_assoc _ _ _).symm⟩
        rw [List.mapM_cons]
        refine runs_except_bind.mpr (.inl ⟨first, result, next, before, here, ?_, rfl⟩)
        refine runs_except_bind.mpr (.inl ⟨before, results, middle, [], all, ?_, by simp⟩)
        exact runs_pure.mpr ⟨rfl, rfl, rfl⟩
    · cases same
      refine ⟨[], item, items, rfl, [], [], world, events, ?_, here, rfl⟩
      rw [List.mapM_nil]
      exact runs_pure.mpr ⟨rfl, rfl, rfl⟩

def Event.written? : Event → Option (String × ByteArray)
  | wrote path content => some (path, content)
  | _ => none

section Writing

variable {directory : String} {file : GeneratedFile} {files : List GeneratedFile}
  {world final : World} {events : List Event}

/-- The step before a file is written: the directory above it is made, unless it is the one that was
made already. -/
def GeneratedFile.prepare (directory : String) (file : GeneratedFile) :
    ExceptT WriteError Action Unit :=
  match Path.parent? (file.pathIn directory) with
  | some parent =>
    if Path.same parent directory then pure () else atPath parent (ensureDirectories parent)
  | none => pure ()

theorem write_eq (directory : String) (file : GeneratedFile) :
    file.write directory = (do
      file.prepare directory
      atPath (file.pathIn directory) (writeFile (file.pathIn directory) file.content.toUTF8)
      pure (file.pathIn directory) : ExceptT WriteError Action String) := by
  unfold GeneratedFile.write GeneratedFile.prepare GeneratedFile.pathIn
  cases up : Path.parent? (Path.join directory file.path) with
  | none => simp [up]
  | some parent =>
    cases same : Path.same parent directory with
    | true => simp [up, same]
    | false => simp [up, same]

inductive FileRuns (directory : String) (file : GeneratedFile) (world : World) :
    List Event → Except WriteError String → World → Prop where
  | written {before middle disk} : Runs (file.prepare directory).run world before (.ok ()) middle →
      middle.disk.write (file.pathIn directory) file.content.toUTF8 = .ok disk →
      FileRuns directory file world
        (before ++ [.wrote (file.pathIn directory) file.content.toUTF8])
        (.ok (file.pathIn directory)) { middle with disk }
  | refused {before middle} (cause) : Runs (file.prepare directory).run world before (.ok ()) middle →
      FileRuns directory file world (before ++ [.refused (file.pathIn directory) cause])
        (.error ⟨file.pathIn directory, cause⟩) middle
  | parent {parent cause events final} : Path.parent? (file.pathIn directory) = some parent →
      Path.same parent directory = false →
      Runs (ensureDirectories parent).run world events (.error cause) final →
      FileRuns directory file world events (.error ⟨parent, cause⟩) final

theorem runs_atPath_error {path : String} {action : ExceptT FileError Action α} {e : WriteError}
    (run : Runs (atPath path action).run world events (.error e) final) :
    e.path = path ∧ Runs action.run world events (.error e.cause) final := by
  rw [atPath_run] at run
  obtain ⟨before, result, middle, after, first, second, rfl⟩ := runs_bind.mp run
  obtain ⟨rfl, same, rfl⟩ := runs_pure.mp second
  cases result with
  | error cause =>
    cases same
    exact ⟨rfl, by simpa using first⟩
  | ok b => cases same

theorem write_fileRuns {result : Except WriteError String}
    (run : Runs (file.write directory).run world events result final) :
    FileRuns directory file world events result final := by
  rw [write_eq] at run
  rcases runs_except_bind.mp run with ⟨before, _, middle, _, made, rest, rfl⟩ | ⟨e, failed, rfl⟩
  · rcases runs_except_bind.mp rest with ⟨_, _, _, _, wrote, ends, rfl⟩ | ⟨e, failed, rfl⟩
    · obtain ⟨rfl, rfl, rfl⟩ := runs_pure.mp ends
      cases runs_atPath wrote with
      | write written done =>
        cases done
        exact .written made written
      | writeRefused cause done => cases done
    · obtain ⟨path, cause⟩ := e
      obtain ⟨rfl, failed⟩ := runs_atPath_error failed
      cases failed with
      | write written done => cases done
      | writeRefused cause done =>
        cases done
        exact .refused cause made
  · obtain ⟨path, cause⟩ := e
    unfold GeneratedFile.prepare at failed
    split at failed
    · rename_i parent up
      split at failed
      · cases failed
      · rename_i apart
        obtain ⟨rfl, failed⟩ := runs_atPath_error failed
        exact .parent up (by simpa using apart) failed
    · cases failed

theorem silent_run {action : Action α} {a : α} (run : Runs action world events a final)
    (silent : action.Only fun event => event.written? = none) :
    events.filterMap Event.written? = [] ∧ world.disk.Grows final.disk := by
  have none := run.only silent
  refine ⟨List.filterMap_eq_nil_iff.mpr none, run.grows ?_⟩
  intro path content mem
  cases none _ mem

theorem ensureDirectories_silent (path : String) :
    (ensureDirectories path).run.Only fun event => event.written? = none :=
  ensureDirectoriesTo_only (fun _ => rfl) _ fun _ _ => ⟨rfl, fun _ => rfl⟩

theorem prepare_only {P : Event → Prop}
    (ensures : ∀ parent, Path.parent? (file.pathIn directory) = some parent →
      (ensureDirectories parent).run.Only P) : (file.prepare directory).run.Only P := by
  unfold GeneratedFile.prepare
  split
  · rename_i parent up
    split
    · trivial
    · exact only_atPath (ensures parent up)
  · trivial

theorem prepare_silent (directory : String) (file : GeneratedFile) :
    (file.prepare directory).run.Only fun event => event.written? = none :=
  prepare_only fun parent _ => ensureDirectories_silent parent

theorem FileRuns.written_ok {path : String}
    (h : FileRuns directory file world events (.ok path) final) :
    events.filterMap Event.written? = [(file.pathIn directory, file.content.toUTF8)] := by
  cases h with
  | written made written =>
    have before := (silent_run made (prepare_silent directory file)).1
    rw [List.filterMap_append, before]
    rfl

theorem FileRuns.written_error {e : WriteError}
    (h : FileRuns directory file world events (.error e) final) :
    events.filterMap Event.written? = [] ∧ world.disk.Grows final.disk := by
  cases h with
  | refused cause made =>
    obtain ⟨before, grows⟩ := silent_run made (prepare_silent directory file)
    refine ⟨?_, grows⟩
    rw [List.filterMap_append, before]
    rfl
  | parent up apart failed => exact silent_run failed (ensureDirectories_silent _)

theorem files_writes {paths : List String}
    (run : Runs (files.mapM (GeneratedFile.write directory)).run world events (.ok paths) final) :
    events.filterMap Event.written? =
      files.map fun file => (file.pathIn directory, file.content.toUTF8) := by
  induction files generalizing world events paths with
  | nil =>
    rw [List.mapM_nil] at run
    obtain ⟨rfl, _, _⟩ := runs_pure.mp run
    rfl
  | cons file files ih =>
    rw [List.mapM_cons] at run
    rcases runs_except_bind.mp run with ⟨_, _, _, _, one, others, rfl⟩ | ⟨_, _, wrong⟩
    · rcases runs_except_bind.mp others with ⟨_, _, _, _, all, ends, rfl⟩ | ⟨_, _, wrong⟩
      · obtain ⟨rfl, _, rfl⟩ := runs_pure.mp ends
        rw [List.append_nil, List.filterMap_append, (write_fileRuns one).written_ok, ih all]
        rfl
      · cases wrong
    · cases wrong

section Changes

variable {ways : String → Prop} {contents : String → ByteArray → Prop}

theorem FileRuns.puts_error {e : WriteError}
    (h : FileRuns directory file world events (.error e) final)
    (above : ∀ upper, Path.Above (file.pathIn directory) upper → ways upper) :
    ∀ event ∈ events, event.Puts ways contents := by
  have ensures : ∀ parent, Path.parent? (file.pathIn directory) = some parent →
      (ensureDirectories parent).run.Only (Event.Puts ways contents) := by
    intro parent up
    apply ensureDirectories_puts (above parent (.single up))
    exact fun upper higher => above upper (.head up higher)
  cases h with
  | refused cause made =>
    rw [List.forall_mem_append, List.forall_mem_singleton]
    exact ⟨made.only (prepare_only ensures), .refused _ cause⟩
  | parent up apart failed => exact failed.only (ensures _ up)

theorem Event.Puts.widen {event : Event} {wider : String → Prop} (h : event.Puts ways contents)
    (all : ∀ path, ways path → wider path) : event.Puts wider contents := by
  cases h with
  | looked path => exact .looked path
  | refused path cause => exact .refused path cause
  | made way => exact .made (all _ way)
  | wrote listed => exact .wrote listed

theorem OnTheWay.append {path : String} (h : OnTheWay directory files path)
    (more : List GeneratedFile) : OnTheWay directory (files ++ more) path := by
  refine h.imp_right (Or.imp_right ?_)
  rintro ⟨file, mem, above⟩
  exact ⟨file, List.mem_append_left _ mem, above⟩

end Changes

theorem exists_last {p : α → Prop} {items : List α} (h : ∃ item ∈ items, p item) :
    ∃ earlier last later, items = earlier ++ last :: later ∧ p last ∧
      ∀ other ∈ later, ¬ p other := by
  induction items with
  | nil => simp at h
  | cons item items ih =>
    by_cases again : ∃ other ∈ items, p other
    · obtain ⟨earlier, last, later, rfl, here, apart⟩ := ih again
      exact ⟨item :: earlier, last, later, rfl, here, apart⟩
    · push Not at again
      obtain ⟨first, mem, here⟩ := h
      rcases List.mem_cons.mp mem with rfl | mem
      · exact ⟨[], first, items, rfl, here, again⟩
      · exact absurd here (again first mem)

/-- Under the path of every file there is the content of the last one that shares its place. -/
def HoldsLast (directory : String) (files : List GeneratedFile) (disk : Disk) : Prop :=
  ∀ file ∈ files, ∃ earlier last later, files = earlier ++ last :: later ∧
    disk.Together (last.pathIn directory) (file.pathIn directory) ∧
    (∀ other ∈ later, ¬ disk.Together (other.pathIn directory) (file.pathIn directory)) ∧
    disk.read (file.pathIn directory) = .ok last.content.toUTF8

theorem Written.holdsLast {before after : Disk} (h : Written directory files before after) :
    HoldsLast directory files after := by
  intro file mem
  obtain ⟨place, _, leads, _⟩ := h.found file mem
  have some : ∃ other ∈ files, after.Leads (other.pathIn directory) place := ⟨file, mem, leads⟩
  obtain ⟨earlier, last, later, split, here, apart⟩ := exists_last some
  have held := h.last earlier last later split place here apart
  refine ⟨earlier, last, later, split, ⟨place, here, leads⟩, ?_, leads.read.mpr held⟩
  rintro other follows ⟨shared, there, same⟩
  obtain rfl := same.unique leads
  exact apart other follows there

theorem Written.then_grow {before after later : Disk} (h : Written directory files before after)
    (grows : after.Grows later) : Written directory files before later where
  directories := h.directories.trans grows.extends
  found file mem := by
    obtain ⟨place, content, leads, held⟩ := h.found file mem
    exact ⟨place, content, leads.extends grows.extends, grows.there _ _ held⟩
  last earlier file rest split place leads apart := by
    have mem : file ∈ files := by simp [split]
    obtain ⟨place', _, leads', _⟩ := h.found file mem
    obtain rfl := (leads'.extends grows.extends).unique leads
    apply grows.there
    refine h.last earlier file rest split place leads' ?_
    exact fun other follows there => apart other follows (there.extends grows.extends)
  kept place content there := by
    rcases h.kept place content there with held | ⟨file, mem, leads⟩
    · exact .inl (grows.there _ _ held)
    · exact .inr ⟨file, mem, leads.extends grows.extends⟩

/-- What writing has done by its end, having written some files and prepared for others: it wrote
these in their order and no others, each of their paths holds the content of the last of them at its
place, and all else is as it was but for directories where nothing was. -/
structure WritingDone (directory : String) (done ahead : List GeneratedFile) (before : Disk)
    (events : List Event) (after : Disk) : Prop where
  wrote : events.filterMap Event.written? =
    done.map fun file => (file.pathIn directory, file.content.toUTF8)
  holds : HoldsLast directory done after
  changed : Disk.Changed (OnTheWay directory (done ++ ahead)) (HeldBy directory done) before after

inductive WritingEnds (directory : String) (files : List GeneratedFile) (world : World)
    (events : List Event) : Except WriteError (List String) → World → Prop where
  | written {final : World} : WritingDone directory files [] world.disk events final.disk →
      WritingEnds directory files world events (.ok (files.map (·.pathIn directory))) final
  /-- The output directory could not be made. -/
  | directory {cause : FileError} {final : World} :
      WritingDone directory [] [] world.disk events final.disk →
      Runs (ensureDirectories directory).run world events (.error cause) final →
      WritingEnds directory files world events (.error ⟨directory, cause⟩) final
  /-- The files before one were written, and then this one or the directory above it failed. -/
  | file {done left : List GeneratedFile} {failing : GeneratedFile} {before after : List Event}
      {e : WriteError} {middle final : World} : files = done ++ failing :: left →
      WritingDone directory done [failing] world.disk events final.disk →
      Runs (writeFiles directory done).run world before (.ok (done.map (·.pathIn directory))) middle →
      FileRuns directory failing middle after (.error e) final → events = before ++ after →
      WritingEnds directory files world events (.error e) final

theorem writeFiles_writes {paths : List String}
    (run : Runs (writeFiles directory files).run world events (.ok paths) final) :
    events.filterMap Event.written? =
      files.map fun file => (file.pathIn directory, file.content.toUTF8) := by
  unfold writeFiles at run
  rcases runs_except_bind.mp run with ⟨_, _, _, _, made, all, rfl⟩ | ⟨_, _, wrong⟩
  · have before := (silent_run (runs_atPath made) (ensureDirectories_silent directory)).1
    rw [List.filterMap_append, before, files_writes all, List.nil_append]
  · cases wrong

theorem writingDone_all {paths : List String}
    (run : Runs (writeFiles directory files).run world events (.ok paths) final) :
    WritingDone directory files [] world.disk events final.disk := by
  have changed := run.changes (run.only (writeFiles_puts directory files))
  exact ⟨writeFiles_writes run, (writeFiles_written run).2.holdsLast, by simpa using changed⟩

theorem writeFiles_error {e : WriteError}
    (run : Runs (writeFiles directory files).run world events (.error e) final) :
    (e.path = directory ∧
      Runs (ensureDirectories directory).run world events (.error e.cause) final) ∨
      ∃ done failing left, files = done ++ failing :: left ∧ ∃ before middle after,
        Runs (writeFiles directory done).run world before (.ok (done.map (·.pathIn directory))) middle ∧
        FileRuns directory failing middle after (.error e) final ∧ events = before ++ after := by
  unfold writeFiles at run
  rcases runs_except_bind.mp run with ⟨first, _, next, _, made, all, rfl⟩ | ⟨_, failed, same⟩
  · obtain ⟨done, failing, left, split, before, paths, middle, after, wrote, fails, rfl⟩ :=
      runs_mapM_error all
    obtain ⟨rfl, _⟩ := files_written wrote
    refine .inr ⟨done, failing, left, split, first ++ before, middle, after, ?_, write_fileRuns fails,
      (List.append_assoc _ _ _).symm⟩
    exact runs_except_bind.mpr (.inl ⟨first, (), next, before, made, wrote, rfl⟩)
  · cases same
    exact .inl (runs_atPath_error failed)

/-- Writing files ends in one of these ways, whatever the file system refuses. -/
theorem writing_ends {result : Except WriteError (List String)}
    (run : Runs (writeFiles directory files).run world events result final) :
    WritingEnds directory files world events result final := by
  cases result with
  | ok paths =>
    obtain ⟨rfl, _⟩ := writeFiles_written run
    exact .written (writingDone_all run)
  | error e =>
    rcases writeFiles_error run with ⟨named, failed⟩ |
      ⟨done, failing, left, split, before, middle, after, wrote, fails, rfl⟩
    · obtain ⟨path, cause⟩ := e
      obtain rfl : directory = path := named.symm
      refine .directory ⟨?_, nofun, ?_⟩ failed
      · exact (silent_run failed (ensureDirectories_silent directory)).1
      · have puts : (ensureDirectories directory).run.Only
            (Event.Puts (OnTheWay directory []) (HeldBy directory [])) :=
          ensureDirectories_puts (.inl rfl) fun upper above => .inr (.inl above)
        exact failed.changes (failed.only puts)
    · refine .file split ⟨?_, ?_, ?_⟩ wrote fails rfl
      · rw [List.filterMap_append, writeFiles_writes wrote, fails.written_error.1, List.append_nil]
      · exact ((writeFiles_written wrote).2.then_grow fails.written_error.2).holdsLast
      · apply run.changes
        rw [List.forall_mem_append]
        constructor
        · intro event mem
          exact (wrote.only (writeFiles_puts directory done) event mem).widen
            fun path way => way.append [failing]
        · apply fails.puts_error
          exact fun upper above => .inr (.inr ⟨failing, by simp, above⟩)

end Writing

def blockedFiles : List GeneratedFile :=
  [⟨"types.ts", "first"⟩, ⟨"./types.ts", "second"⟩, ⟨"pets/api.ts", "third"⟩, ⟨"index.ts", "fourth"⟩]

def blockedWorld : World where
  disk := { entries := [(["out"], .directory), (["out", "pets"], .file .empty)] }

theorem blocked_writing_ends : ∃ final events,
    Runs (writeFiles "out" blockedFiles).run blockedWorld events
      (.error ⟨"out/pets", .alreadyExists⟩) final ∧
    WritingEnds "out" blockedFiles blockedWorld events (.error ⟨"out/pets", .alreadyExists⟩) final ∧
    final.disk.read "out/types.ts" = .ok "second".toUTF8 ∧
    final.disk.read "out/index.ts" = .error .notFound := by
  have run := runs_run (writeFiles "out" blockedFiles).run blockedWorld
  have told : ((writeFiles "out" blockedFiles).run.run blockedWorld).1 =
      .error ⟨"out/pets", .alreadyExists⟩ := by decide +kernel
  rw [told] at run
  exact ⟨_, _, run, writing_ends run, by rfl, by rfl⟩

end OpenApiClient
