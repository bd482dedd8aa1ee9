import OpenApiClient.Proofs.WrittenFiles

/-! Writing the same files again.
After a run that has written all its files, another one finds every directory made and puts every
file where it was. A file that shares its place with a later one is put there first once more and
replaced once more, so that in the end the disk is the same. -/
namespace OpenApiClient

namespace Disk

section Entries

variable {place other : Place} {entry entry' : Entry} {entries : List (Place × Entry)}

theorem putEntry_same (there : entries.lookup place = some entry) :
    putEntry place entry entries = entries := by
  induction entries with
  | nil => cases there
  | cons head rest ih =>
    obtain ⟨p, e⟩ := head
    by_cases here : p = place
    · subst here
      rw [List.lookup_cons_self, Option.some.injEq] at there
      rw [putEntry, if_pos rfl, there]
    · rw [List.lookup_cons, beq_eq_false_iff_ne.mpr (Ne.symm here)] at there
      rw [putEntry, if_neg here, ih there]

theorem putEntry_twice (place : Place) (entry entry' : Entry) (entries : List (Place × Entry)) :
    putEntry place entry (putEntry place entry' entries) = putEntry place entry entries := by
  induction entries with
  | nil => simp [putEntry]
  | cons head rest ih =>
    obtain ⟨p, e⟩ := head
    by_cases here : p = place
    · simp [putEntry, here]
    · simp [putEntry, here, ih]

theorem putEntry_comm (apart : place ≠ other) (taken : (entries.lookup place).isSome) :
    putEntry place entry (putEntry other entry' entries) =
      putEntry other entry' (putEntry place entry entries) := by
  induction entries with
  | nil => cases taken
  | cons head rest ih =>
    obtain ⟨p, e⟩ := head
    by_cases here : p = place
    · subst here
      simp [putEntry, apart]
    · rw [List.lookup_cons, beq_eq_false_iff_ne.mpr (Ne.symm here)] at taken
      by_cases there : p = other
      · subst there
        simp [putEntry, here]
      · simp [putEntry, here, there, ih taken]

end Entries

variable {disk : Disk} {place : Place} {content : ByteArray}

theorem lookup_file (there : disk.lookup place = some (.file content)) :
    place ≠ [] ∧ disk.entries.lookup place = some (.file content) := by
  have root : place ≠ [] := by
    rintro rfl
    cases there
  rw [lookup, if_neg root] at there
  exact ⟨root, there⟩

theorem put_same (there : disk.lookup place = some (.file content)) :
    disk.put place (.file content) = disk := by
  rw [put, putEntry_same (lookup_file there).2]

def putFiles (disk : Disk) (place : GeneratedFile → Place) (files : List GeneratedFile) : Disk :=
  files.foldl (fun disk file => disk.put (place file) (.file file.content.toUTF8)) disk

section Files

variable {files : List GeneratedFile} {placeOf : GeneratedFile → Place}

theorem putFiles_replaced (taken : (disk.entries.lookup place).isSome)
    (again : ∃ file ∈ files, placeOf file = place) (entry : Entry) :
    (disk.put place entry).putFiles placeOf files = disk.putFiles placeOf files := by
  induction files generalizing disk with
  | nil => simp at again
  | cons file rest ih =>
    rw [putFiles, List.foldl_cons, putFiles, List.foldl_cons]
    by_cases here : place = placeOf file
    · rw [← here, put, put, putEntry_twice]
      rfl
    · have turned : (disk.put place entry).put (placeOf file) (.file file.content.toUTF8) =
          (disk.put (placeOf file) (.file file.content.toUTF8)).put place entry := by
        rw [put, put, put, put, putEntry_comm here taken]
      rw [turned]
      refine ih ?_ ?_
      · rwa [put, lookup_putEntry, if_neg here]
      · simpa [Ne.symm here] using again

/-- Files that are all there, as the last of each place has it, change nothing. -/
theorem putFiles_same
    (there : ∀ file ∈ files, ∃ content, disk.lookup (placeOf file) = some (.file content))
    (last : ∀ earlier file later, files = earlier ++ file :: later →
      (∀ other ∈ later, placeOf other ≠ placeOf file) →
      disk.lookup (placeOf file) = some (.file file.content.toUTF8)) :
    disk.putFiles placeOf files = disk := by
  induction files with
  | nil => rfl
  | cons file rest ih =>
    have others := ih (fun other mem => there other (.tail _ mem)) fun earlier other later split =>
      last (file :: earlier) other later (by rw [split, List.cons_append])
    change (disk.put (placeOf file) (.file file.content.toUTF8)).putFiles placeOf rest = disk
    by_cases again : ∃ other ∈ rest, placeOf other = placeOf file
    · obtain ⟨content, held⟩ := there file List.mem_cons_self
      have taken : (disk.entries.lookup (placeOf file)).isSome := by
        rw [(lookup_file held).2]
        rfl
      rw [putFiles_replaced taken again, others]
    · have held := last [] file rest rfl fun other mem same => again ⟨other, mem, same⟩
      rw [put_same held, others]

end Files

end Disk

/-- Nothing has to be made for a path: it is empty, or its directory is there. -/
def Disk.Ready (disk : Disk) (path : String) : Prop := path = "" ∨ disk.isDirectory path = true

theorem Disk.Ready.extends {disk later : Disk} {path : String} (ready : disk.Ready path)
    (h : disk.Extends later) : later.Ready path :=
  ready.imp id (Disk.isDirectory_extends h)

section Directories

variable {path : String} {world final : World} {events : List Event}

theorem makeDirectory_runs (run : Runs (makeDirectory path).run world events (.ok ()) final) :
    final.disk.isDirectory path = true := by
  cases run with
  | makeDirectory made done =>
    cases done
    obtain ⟨place, _, _, found⟩ := Disk.find_makeDirectory made
    exact Disk.isDirectory_iff.mpr ⟨place, found⟩
  | makeDirectoryRefused cause done => cases done

theorem lookAt_runs {e : FileError} (run : Runs (do
    if ← isDirectoryAt path then pure () else throw e : ExceptT FileError Action Unit).run world
      events (.ok ()) final) : final.disk.isDirectory path = true := by
  cases run with
  | isDirectory run =>
    cases there : world.disk.isDirectory path with
    | true =>
      rw [there] at run
      cases run
      exact there
    | false =>
      rw [there] at run
      cases run

theorem ensureDirectory_runs (run : Runs (ensureDirectory path).run world events (.ok ()) final) :
    final.disk.isDirectory path = true := by
  rcases runs_tryCatch.mp run with made | ⟨_, e, _, _, _, looked, _⟩
  · exact makeDirectory_runs made
  · exact lookAt_runs looked

theorem ensureDirectories_ready
    (run : Runs (ensureDirectories path).run world events (.ok ()) final) :
    final.disk.Ready path := by
  unfold ensureDirectories ensureDirectoriesTo at run
  by_cases empty : path.isEmpty = true
  · exact .inl (String.isEmpty_iff.mp empty)
  · rw [if_neg empty] at run
    refine .inr ?_
    rcases runs_tryCatch.mp run with made | ⟨_, e, _, _, _, rest, _⟩
    · exact makeDirectory_runs made
    · split at rest
      · split at rest
        · cases rest
        · rcases runs_except_bind.mp rest with ⟨_, _, _, _, _, here, _⟩ | ⟨_, _, wrong⟩
          · exact ensureDirectory_runs here
          · cases wrong
      · exact lookAt_runs rest

theorem ensureDirectories_again (ready : world.disk.Ready path) :
    (ensureDirectories path).run.run world = (.ok (), world) := by
  unfold ensureDirectories ensureDirectoriesTo
  rcases ready with rfl | there
  · rfl
  · have nonempty : ¬ path.isEmpty = true := by
      intro empty
      rw [String.isEmpty_iff.mp empty] at there
      cases there
    have refused : (makeDirectory path).run.run world = (.error .alreadyExists, world) := by
      change world.change (world.disk.makeDirectory path) = _
      rw [Disk.makeDirectory_there there]
      rfl
    have looked : (isDirectoryAt path).run world = (true, world) := by
      rw [← there]
      rfl
    rw [if_neg nonempty, run_tryCatch refused]
    change ((isDirectoryAt path) >>= fun answer => _ : Action _).run world = _
    rw [Action.run_bind, looked]
    rfl

end Directories

section Writing

variable {directory path : String} {world final : World} {events : List Event}

def GeneratedFile.Placed (file : GeneratedFile) (directory : String) (disk : Disk) : Prop :=
  ∀ parent, Path.parent? (file.pathIn directory) = some parent →
    Path.same parent directory = false → disk.Ready parent

/-- One file of a list finds its directory and may replace the file that its path leads to. -/
structure GeneratedFile.Fits (file : GeneratedFile) (directory : String) (disk : Disk)
    (place : Place) : Prop where
  placed : file.Placed directory disk
  leads : disk.Leads (file.pathIn directory) place
  free : disk.lookup place ≠ some .directory

theorem GeneratedFile.Fits.extends {file : GeneratedFile} {disk later : Disk} {place : Place}
    (fits : file.Fits directory disk place) (h : disk.Extends later)
    (free : later.lookup place ≠ some .directory) : file.Fits directory later place where
  placed parent up apart := (fits.placed parent up apart).extends h
  leads := fits.leads.extends h
  free := free

theorem write_again {file : GeneratedFile} {place : Place}
    (fits : file.Fits directory world.disk place) : (file.write directory).run.run world =
      (.ok (file.pathIn directory),
        { world with disk := world.disk.put place (.file file.content.toUTF8) }) := by
  have ending : (do
      atPath (file.pathIn directory) (writeFile (file.pathIn directory) file.content.toUTF8)
      pure (file.pathIn directory) : ExceptT WriteError Action String).run.run world =
      (.ok (file.pathIn directory),
        { world with disk := world.disk.put place (.file file.content.toUTF8) }) := by
    refine run_except_bind (a := ()) (run_atPath ?_)
    change world.change (world.disk.write (file.pathIn directory) file.content.toUTF8) = _
    rw [fits.leads.write fits.free]
    rfl
  unfold GeneratedFile.write
  simp only
  split
  · rename_i parent up
    split
    · rename_i apart
      have ready := fits.placed parent up (by simpa using apart)
      rw [run_except_bind (run_atPath (ensureDirectories_again ready))]
      exact ending
    · exact ending
  · exact ending

theorem files_again {files : List GeneratedFile} {placeOf : GeneratedFile → Place}
    (fits : ∀ file ∈ files, file.Fits directory world.disk (placeOf file)) :
    (files.mapM (GeneratedFile.write directory)).run.run world =
      (.ok (files.map (·.pathIn directory)),
        { world with disk := world.disk.putFiles placeOf files }) := by
  induction files generalizing world with
  | nil =>
    rw [List.mapM_nil]
    rfl
  | cons file rest ih =>
    have here := fits file List.mem_cons_self
    obtain ⟨root, ext⟩ := Disk.put_extends (.file file.content.toUTF8) here.free
    have later : ∀ other ∈ rest, other.Fits directory
        (world.disk.put (placeOf file) (.file file.content.toUTF8)) (placeOf other) := by
      intro other mem
      refine (fits other (.tail _ mem)).extends ext ?_
      rw [Disk.lookup_put world.disk root]
      split
      · nofun
      · exact (fits other (.tail _ mem)).free
    rw [List.mapM_cons, run_except_bind (write_again here), run_except_bind (ih later)]
    rfl

theorem write_placed {file : GeneratedFile}
    (run : Runs (file.write directory).run world events (.ok path) final) :
    file.Placed directory final.disk := by
  intro parent up apart
  unfold GeneratedFile.write at run
  change Path.parent? (Path.join directory file.path) = some parent at up
  simp only [up, apart, Bool.not_false, if_true] at run
  rcases runs_except_bind.mp run with ⟨_, _, _, _, made, rest, _⟩ | ⟨_, _, wrong⟩
  · exact (ensureDirectories_ready (runs_atPath made)).extends rest.extends
  · cases wrong

theorem files_placed {files : List GeneratedFile} {paths : List String}
    (run : Runs (files.mapM (GeneratedFile.write directory)).run world events (.ok paths) final) :
    ∀ file ∈ files, file.Placed directory final.disk := by
  induction files generalizing world events paths with
  | nil => simp
  | cons file files ih =>
    rw [List.mapM_cons] at run
    rcases runs_except_bind.mp run with ⟨_, path, _, _, one, others, rfl⟩ | ⟨e, _, wrong⟩
    · rcases runs_except_bind.mp others with ⟨_, rest, _, _, all, ends, rfl⟩ | ⟨e, _, wrong⟩
      · obtain ⟨_, _, rfl⟩ := runs_pure.mp ends
        refine List.forall_mem_cons.mpr ⟨?_, ih all⟩
        exact fun parent up apart => (write_placed one parent up apart).extends all.extends
      · cases wrong
    · cases wrong

/-- Once all files are written, writing them again succeeds and changes nothing. -/
theorem writeFiles_again {files : List GeneratedFile} {paths : List String}
    (run : Runs (writeFiles directory files).run world events (.ok paths) final) :
    (writeFiles directory files).run.run final = (.ok paths, final) := by
  obtain ⟨told, written⟩ := writeFiles_written run
  unfold writeFiles at run
  rcases runs_except_bind.mp run with ⟨_, _, _, _, made, all, _⟩ | ⟨e, _, wrong⟩
  · have ready := (ensureDirectories_ready (runs_atPath made)).extends all.extends
    have placed := files_placed all
    have found : ∀ file : GeneratedFile, ∃ place, file ∈ files →
        final.disk.Leads (file.pathIn directory) place ∧
          ∃ content, final.disk.lookup place = some (.file content) := by
      intro file
      by_cases mem : file ∈ files
      · obtain ⟨place, content, leads, held⟩ := written.found file mem
        exact ⟨place, fun _ => ⟨leads, content, held⟩⟩
      · exact ⟨[], fun h => absurd h mem⟩
    choose placeOf found using found
    have fits : ∀ file ∈ files, file.Fits directory final.disk (placeOf file) := by
      intro file mem
      obtain ⟨leads, content, held⟩ := found file mem
      exact ⟨placed file mem, leads, by rw [held]; nofun⟩
    have same : final.disk.putFiles placeOf files = final.disk := by
      refine Disk.putFiles_same (fun file mem => (found file mem).2) ?_
      intro earlier file later split last
      have mem : file ∈ files := by simp [split]
      refine written.last earlier file later split _ (found file mem).1 ?_
      intro other follows leads
      have there : other ∈ files := by simp [split, follows]
      exact last other follows ((leads.unique (found other there).1))
    unfold writeFiles
    rw [run_except_bind (run_atPath (ensureDirectories_again ready)), files_again fits, same, told]
  · cases wrong

end Writing

end OpenApiClient
