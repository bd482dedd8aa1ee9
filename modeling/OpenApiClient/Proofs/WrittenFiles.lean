import OpenApiClient.Client.Generation
import OpenApiClient.Proofs.StoringFiles

/-! What a list of files leaves on a disk.
Each file is put where its path leads, after directories that change nothing which is there. A path
leads to the same place ever after, so that of the files with one place the last one stays. -/
namespace OpenApiClient

namespace Disk

variable {disk later : Disk}

structure Grows (disk later : Disk) : Prop where
  current : later.current = disk.current
  there : ∀ place entry, disk.lookup place = some entry → later.lookup place = some entry

theorem Grows.refl (disk : Disk) : disk.Grows disk := ⟨rfl, fun _ _ h => h⟩

theorem Grows.trans {last : Disk} (first : disk.Grows later) (second : later.Grows last) :
    disk.Grows last := by
  refine ⟨second.current.trans first.current, ?_⟩
  intro place entry h
  exact second.there place entry (first.there place entry h)

theorem Grows.extends (h : disk.Grows later) : disk.Extends later :=
  ⟨h.current, fun place there => h.there place .directory there⟩

theorem Extends.trans {last : Disk} (first : disk.Extends later) (second : later.Extends last) :
    disk.Extends last := by
  refine ⟨second.current.trans first.current, ?_⟩
  intro place h
  exact second.directory place (first.directory place h)

theorem grows_makeDirectory {made : String} (h : disk.makeDirectory made = .ok later) :
    disk.Grows later := by
  obtain ⟨new, free, rfl, _⟩ := find_makeDirectory h
  have vacant : disk.lookup new ≠ some .directory := by simp [free]
  obtain ⟨root, _⟩ := put_extends .directory vacant
  refine ⟨rfl, ?_⟩
  intro place entry there
  rw [lookup_put disk root, if_neg, there]
  rintro rfl
  cases free.symm.trans there

end Disk

theorem answer_disk (world : World) (url : String) : (world.answer url).2.disk = world.disk := by
  unfold World.answer
  split <;> rfl

theorem Runs.grows {action : Action α} {world final : World} {events : List Event} {a : α}
    (run : Runs action world events a final) (h : ∀ path content, .wrote path content ∉ events) :
    world.disk.Grows final.disk := by
  induction run with
  | done => exact .refl _
  | write _ _ _ => exact absurd List.mem_cons_self (h _ _)
  | makeDirectory made _ ih =>
    refine (Disk.grows_makeDirectory made).trans (ih ?_)
    exact fun path content mem => h path content (List.mem_cons_of_mem _ mem)
  | request _ ih =>
    rw [← answer_disk]
    exact ih fun path content mem => h path content (List.mem_cons_of_mem _ mem)
  | has _ ih | isDirectory _ ih | read _ ih | writeRefused _ _ ih | makeDirectoryRefused _ _ ih =>
    exact ih fun path content mem => h path content (List.mem_cons_of_mem _ mem)

theorem Runs.extends {action : Action α} {world final : World} {events : List Event} {a : α}
    (run : Runs action world events a final) :
    world.disk.Extends final.disk := by
  induction run with
  | done => exact (Disk.Grows.refl _).extends
  | has _ ih | isDirectory _ ih | read _ ih | writeRefused _ _ ih | makeDirectoryRefused _ _ ih =>
    exact ih
  | write written _ ih =>
    obtain ⟨place, _, free, rfl⟩ := Disk.write_ok written
    exact (Disk.put_extends _ free).2.trans ih
  | makeDirectory made _ ih => exact (Disk.grows_makeDirectory made).extends.trans ih
  | request _ ih =>
    rw [← answer_disk]
    exact ih

theorem ensureDirectories_grows {path : String} {world final : World} {events : List Event}
    {result : Except FileError Unit}
    (run : Runs (ensureDirectories path).run world events result final) :
    world.disk.Grows final.disk := by
  have only : (ensureDirectories path).run.Only fun event =>
      ∀ path content, event ≠ .wrote path content := by
    refine ensureDirectoriesTo_only (fun _ _ _ => nofun) _ ?_
    exact fun _ _ => ⟨fun _ _ => nofun, fun _ _ _ => nofun⟩
  apply run.grows
  intro path content mem
  exact run.only only _ mem path content rfl

section Writing

variable {directory path : String} {world final : World} {events : List Event}

theorem atPath_run (path : String) (action : ExceptT FileError Action α) :
    (atPath path action).run =
      action.run >>= fun result => pure (result.mapError (⟨path, ·⟩)) := rfl

theorem run_atPath {action : ExceptT FileError Action α} {a : α}
    (succeeds : action.run.run world = (.ok a, final)) :
    (atPath path action).run.run world = (.ok a, final) := by
  rw [atPath_run, Action.run_bind, succeeds]
  rfl

theorem runs_atPath {action : ExceptT FileError Action α} {a : α}
    (run : Runs (atPath path action).run world events (.ok a) final) :
    Runs action.run world events (.ok a) final := by
  rw [atPath_run] at run
  obtain ⟨before, result, middle, after, first, second, rfl⟩ := runs_bind.mp run
  obtain ⟨rfl, same, rfl⟩ := runs_pure.mp second
  cases result with
  | error e => cases same
  | ok b =>
    cases same
    simpa using first

def GeneratedFile.pathIn (file : GeneratedFile) (directory : String) : String :=
  Path.join directory file.path

theorem write_runs {file : GeneratedFile}
    (run : Runs (file.write directory).run world events (.ok path) final) :
    path = file.pathIn directory ∧ ∃ middle : Disk, world.disk.Grows middle ∧
      middle.write (file.pathIn directory) file.content.toUTF8 = .ok final.disk := by
  have ending : ∀ {world : World} {events : List Event},
      Runs (do
        atPath (file.pathIn directory) (writeFile (file.pathIn directory) file.content.toUTF8)
        pure (file.pathIn directory) : ExceptT WriteError Action String).run
          world events (.ok path) final →
      path = file.pathIn directory ∧
        world.disk.write (file.pathIn directory) file.content.toUTF8 = .ok final.disk := by
    intro world events run
    rcases runs_except_bind.mp run with ⟨_, _, _, _, first, second, rfl⟩ | ⟨e, _, wrong⟩
    · obtain ⟨_, told, rfl⟩ := runs_pure.mp second
      cases runs_atPath first with
      | write written done =>
        cases done
        exact ⟨Except.ok.inj told, written⟩
      | writeRefused cause done => cases done
    · cases wrong
  -- Directories are made if the path has a parent other than the directory that was made already.
  unfold GeneratedFile.write at run
  simp only at run
  split at run
  · rename_i parent up
    split at run
    · rcases runs_except_bind.mp run with ⟨_, _, _, _, first, second, rfl⟩ | ⟨e, _, wrong⟩
      · obtain ⟨told, written⟩ := ending second
        exact ⟨told, _, ensureDirectories_grows (runs_atPath first), written⟩
      · cases wrong
    · obtain ⟨told, written⟩ := ending run
      exact ⟨told, _, .refl _, written⟩
  · obtain ⟨told, written⟩ := ending run
    exact ⟨told, _, .refl _, written⟩

structure Written (directory : String) (files : List GeneratedFile) (before after : Disk) : Prop where
  directories : before.Extends after
  found : ∀ file ∈ files, ∃ place content, after.Leads (file.pathIn directory) place ∧
    after.lookup place = some (.file content)
  /-- Of the files with one place, the last one stays. -/
  last : ∀ earlier file later, files = earlier ++ file :: later → ∀ place,
    after.Leads (file.pathIn directory) place →
    (∀ other ∈ later, ¬ after.Leads (other.pathIn directory) place) →
    after.lookup place = some (.file file.content.toUTF8)
  /-- What no file has the place of stays. -/
  kept : ∀ place content, before.lookup place = some (.file content) →
    after.lookup place = some (.file content) ∨
      ∃ file ∈ files, after.Leads (file.pathIn directory) place

theorem written_nil (disk : Disk) : Written directory [] disk disk where
  directories := (Disk.Grows.refl disk).extends
  found := nofun
  last earlier _ _ split := by simp at split
  kept _ _ there := .inl there

theorem Written.grow {files : List GeneratedFile} {before middle after : Disk}
    (grows : before.Grows middle) (h : Written directory files middle after) :
    Written directory files before after where
  directories := grows.extends.trans h.directories
  found := h.found
  last := h.last
  kept place content there := h.kept place content (grows.there place _ there)

theorem Written.cons {file : GeneratedFile} {files : List GeneratedFile} {before middle after : Disk}
    (first : before.write (file.pathIn directory) file.content.toUTF8 = .ok middle)
    (rest : Written directory files middle after) : Written directory (file :: files) before after := by
  obtain ⟨place, leads, vacant, rfl⟩ := Disk.write_ok first
  obtain ⟨root, extends'⟩ := Disk.put_extends (.file file.content.toUTF8) vacant
  have directories := extends'.trans rest.directories
  have leads := leads.extends directories
  -- The new file is there when the others are written, and only one with its place replaces it.
  have there := rest.kept place file.content.toUTF8 (by rw [Disk.lookup_put before root, if_pos rfl])
  refine ⟨directories, ?_, ?_, ?_⟩
  · intro other mem
    rcases List.mem_cons.mp mem with rfl | mem
    · rcases there with there | ⟨later, mem, leads'⟩
      · exact ⟨place, _, leads, there⟩
      · obtain ⟨place', content, found, held⟩ := rest.found later mem
        obtain rfl := leads'.unique found
        exact ⟨place', content, leads, held⟩
    · exact rest.found other mem
  · intro earlier other later split place' leads' apart
    cases earlier with
    | nil =>
      obtain ⟨rfl, rfl⟩ := List.cons.inj split
      obtain rfl := leads.unique leads'
      rcases there with there | ⟨later, mem, taken⟩
      · exact there
      · exact absurd taken (apart later mem)
    | cons _ earlier =>
      have split := (List.cons.inj split).2
      exact rest.last earlier other later split place' leads' apart
  · intro place' content held
    by_cases same : place' = place
    · exact .inr ⟨file, List.mem_cons_self, same ▸ leads⟩
    · have stays : (before.put place (.file file.content.toUTF8)).lookup place' =
          some (.file content) := by
        rw [Disk.lookup_put before root, if_neg same, held]
      rcases rest.kept place' content stays with kept | ⟨other, mem, leads'⟩
      · exact .inl kept
      · exact .inr ⟨other, List.mem_cons_of_mem _ mem, leads'⟩

theorem Written.three {first second third : GeneratedFile} {before after : Disk}
    (h : Written directory [first, second, third] before after) : ∃ p q r,
    after.Leads (first.pathIn directory) p ∧ after.Leads (second.pathIn directory) q ∧
      after.Leads (third.pathIn directory) r ∧
      (p ≠ q → p ≠ r → after.lookup p = some (.file first.content.toUTF8)) ∧
      (q ≠ r → after.lookup q = some (.file second.content.toUTF8)) ∧
      after.lookup r = some (.file third.content.toUTF8) := by
  obtain ⟨p, _, leads, _⟩ := h.found first (by simp)
  obtain ⟨q, _, leads', _⟩ := h.found second (by simp)
  obtain ⟨r, _, leads'', _⟩ := h.found third (by simp)
  refine ⟨p, q, r, leads, leads', leads'', ?_, ?_, ?_⟩
  · intro ne ne'
    refine h.last [] first [second, third] rfl p leads ?_
    intro other mem taken
    simp only [List.mem_cons, List.not_mem_nil, or_false] at mem
    rcases mem with rfl | rfl
    · exact ne (leads'.unique taken)
    · exact ne' (leads''.unique taken)
  · intro ne
    refine h.last [first] second [third] rfl q leads' ?_
    intro other mem taken
    obtain rfl := List.mem_singleton.mp mem
    exact ne (leads''.unique taken)
  · exact h.last [first, second] third [] rfl r leads'' (by simp)

/-- A run over the files writes all of them, or it does not succeed. -/
theorem files_written {files : List GeneratedFile} {paths : List String}
    (run : Runs (files.mapM (GeneratedFile.write directory)).run world events (.ok paths) final) :
    paths = files.map (·.pathIn directory) ∧
      Written directory files world.disk final.disk := by
  induction files generalizing world events paths with
  | nil =>
    rw [List.mapM_nil] at run
    obtain ⟨_, told, rfl⟩ := runs_pure.mp run
    exact ⟨Except.ok.inj told, written_nil _⟩
  | cons file files ih =>
    rw [List.mapM_cons] at run
    rcases runs_except_bind.mp run with ⟨_, path, _, _, one, others, rfl⟩ | ⟨e, _, wrong⟩
    · rcases runs_except_bind.mp others with ⟨_, rest, _, _, all, ends, rfl⟩ | ⟨e, _, wrong⟩
      · obtain ⟨_, told, rfl⟩ := runs_pure.mp ends
        obtain ⟨rfl, middle, grows, first⟩ := write_runs one
        obtain ⟨rfl, written⟩ := ih all
        exact ⟨Except.ok.inj told, (Written.cons first written).grow grows⟩
      · cases wrong
    · cases wrong

theorem writeFiles_written {files : List GeneratedFile} {paths : List String}
    (run : Runs (writeFiles directory files).run world events (.ok paths) final) :
    paths = files.map (·.pathIn directory) ∧ Written directory files world.disk final.disk := by
  unfold writeFiles at run
  rcases runs_except_bind.mp run with ⟨_, _, _, _, made, all, rfl⟩ | ⟨e, _, wrong⟩
  · obtain ⟨told, written⟩ := files_written all
    exact ⟨told, written.grow (ensureDirectories_grows (runs_atPath made))⟩
  · cases wrong

variable {P : Event → Prop}

theorem only_atPath {action : ExceptT FileError Action α} (h : action.run.Only P) :
    (atPath path action).run.Only P := only_bind h fun _ => trivial

theorem write_only {file : GeneratedFile}
    (ensures : ∀ parent, Path.parent? (file.pathIn directory) = some parent →
      (ensureDirectories parent).run.Only P)
    (wrote : P (.wrote (file.pathIn directory) file.content.toUTF8))
    (refused : ∀ cause, P (.refused (file.pathIn directory) cause)) :
    (file.write directory).run.Only P := by
  have ending : (do
      atPath (file.pathIn directory) (writeFile (file.pathIn directory) file.content.toUTF8)
      pure (file.pathIn directory) : ExceptT WriteError Action String).run.Only P :=
    only_except_bind (only_atPath ⟨wrote, refused, fun _ => trivial⟩) fun _ => trivial
  unfold GeneratedFile.write
  simp only
  split
  · rename_i parent up
    split
    · exact only_except_bind (only_atPath (ensures parent up)) fun _ => ending
    · exact ending
  · exact ending

/-- A directory that writing files may make: the one they are written below, or one above it or
above one of the files. -/
def OnTheWay (directory : String) (files : List GeneratedFile) (path : String) : Prop :=
  path = directory ∨ Path.Above directory path ∨
    ∃ file ∈ files, Path.Above (file.pathIn directory) path

def HeldBy (directory : String) (files : List GeneratedFile) (path : String) (content : ByteArray) :
    Prop :=
  ∃ file ∈ files, path = file.pathIn directory ∧ content = file.content.toUTF8

theorem ensureDirectories_puts {files : String → ByteArray → Prop} {ways : String → Prop}
    (here : ways path) (above : ∀ upper, Path.Above path upper → ways upper) :
    (ensureDirectories path).run.Only (Event.Puts ways files) := by
  refine ensureDirectoriesTo_only .looked _ ?_
  rintro upper (rfl | higher)
  · exact ⟨.made here, .refused _⟩
  · exact ⟨.made (above upper higher), .refused _⟩

theorem writeFiles_puts (directory : String) (files : List GeneratedFile) :
    (writeFiles directory files).run.Only
      (Event.Puts (OnTheWay directory files) (HeldBy directory files)) := by
  have first : (ensureDirectories directory).run.Only
      (Event.Puts (OnTheWay directory files) (HeldBy directory files)) :=
    ensureDirectories_puts (.inl rfl) fun upper above => .inr (.inl above)
  have each : ∀ file ∈ files, (file.write directory).run.Only
      (Event.Puts (OnTheWay directory files) (HeldBy directory files)) := by
    intro file mem
    refine write_only ?_ (.wrote ⟨file, mem, rfl, rfl⟩) fun cause => .refused _ cause
    intro parent up
    have above : Path.Above (file.pathIn directory) parent := .single up
    refine ensureDirectories_puts (.inr (.inr ⟨file, mem, above⟩)) ?_
    exact fun upper higher => .inr (.inr ⟨file, mem, above.trans higher⟩)
  unfold writeFiles
  exact only_except_bind (only_atPath first) fun _ => only_mapM each

end Writing

end OpenApiClient
