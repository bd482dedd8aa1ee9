import OpenApiClient.Files.Disk
import Mathlib.Tactic.Common

/-! What changes of a disk leave readable.
A change keeps the directories that are there, so that paths lead where they led before. -/
namespace OpenApiClient.Disk

variable {disk later : Disk} {path made : String} {content : ByteArray} {place : Place}
  {entry : Entry}

structure Extends (disk later : Disk) : Prop where
  current : later.current = disk.current
  directory : ∀ place, disk.lookup place = some .directory → later.lookup place = some .directory

theorem walk_extends (h : disk.Extends later) {place found : Place} {pieces : List String}
    (walks : disk.walk place pieces = .ok found) : later.walk place pieces = .ok found := by
  induction pieces generalizing place with
  | nil => exact walks
  | cons piece rest ih =>
    unfold walk at walks ⊢
    cases goes : step place piece with
    | error cause =>
      rw [goes] at walks
      cases walks
    | ok next =>
      rw [goes] at walks
      simp only [bind, Except.bind] at walks ⊢
      split at walks
      · rename_i there
        rw [h.directory next there]
        exact ih walks
      · cases walks
      · cases walks

theorem target_extends (h : disk.Extends later) {target : Target}
    (leads : disk.target path = .ok target) : later.target path = .ok target := by
  unfold Disk.target at leads ⊢
  split at leads
  · cases leads
  split at leads
  · cases leads
  split at leads
  · cases leads
  · rw [if_neg ‹_›, if_neg ‹_›, if_neg ‹_›]
    rw [h.current]
    simp only [bind, Except.bind] at leads ⊢
    split at leads
    · cases leads
    · rename_i walks
      rw [walk_extends h walks]
      exact leads

/-- A path ends in a name, and this is the place that the name has, whatever is there. -/
def Leads (disk : Disk) (path : String) (place : Place) : Prop :=
  ∃ target, disk.target path = .ok target ∧ target.slashed = false ∧ target.isName = true ∧
    step target.directory target.piece = .ok place

theorem Leads.extends (leads : disk.Leads path place) (h : disk.Extends later) :
    later.Leads path place := by
  obtain ⟨target, found, named⟩ := leads
  exact ⟨target, target_extends h found, named⟩

theorem Leads.unique {other : Place} (leads : disk.Leads path place)
    (elsewhere : disk.Leads path other) : other = place := by
  obtain ⟨target, found, _, _, goes⟩ := leads
  obtain ⟨_, found', _, _, goes'⟩ := elsewhere
  cases found.symm.trans found'
  exact Except.ok.inj (goes'.symm.trans goes)

/-- A file is put where no directory is, under a name and not under a way through directories. -/
theorem write_ok (h : disk.write path content = .ok later) : ∃ place, disk.Leads path place ∧
    disk.lookup place ≠ some .directory ∧ later = disk.put place (.file content) := by
  unfold write at h
  cases leads : disk.target path with
  | error cause =>
    rw [leads] at h
    cases h
  | ok target =>
    rw [leads] at h
    simp only [bind, Except.bind] at h
    split at h
    · cases h
    · rename_i named
      cases goes : step target.directory target.piece with
      | error cause =>
        rw [goes] at h
        cases h
      | ok place =>
        rw [goes] at h
        dsimp only at h
        split at h
        · cases h
        · rename_i free
          cases h
          simp only [Bool.or_eq_true, not_or, Bool.not_eq_true, Bool.not_eq_false'] at named
          exact ⟨place, ⟨target, leads, named.1, named.2, goes⟩, free, rfl⟩

theorem makeDirectory_ok (h : disk.makeDirectory path = .ok later) : ∃ target place,
    disk.target path = .ok target ∧ step target.directory target.piece = .ok place ∧
      disk.lookup place = none ∧ later = disk.put place .directory := by
  unfold makeDirectory at h
  cases leads : disk.target path with
  | error cause =>
    rw [leads] at h
    cases h
  | ok target =>
    rw [leads] at h
    simp only [bind, Except.bind] at h
    split at h
    · cases h
    · cases goes : step target.directory target.piece with
      | error cause =>
        rw [goes] at h
        cases h
      | ok place =>
        rw [goes] at h
        dsimp only at h
        split at h
        · cases h
        · rename_i free
          cases h
          exact ⟨target, place, rfl, goes, free, rfl⟩

theorem put_extends (entry : Entry) (h : disk.lookup place ≠ some .directory) :
    place ≠ [] ∧ disk.Extends (disk.put place entry) := by
  have root : place ≠ [] := by
    rintro rfl
    exact h rfl
  refine ⟨root, rfl, fun other there => ?_⟩
  rw [lookup_put disk root, if_neg, there]
  rintro rfl
  exact h there

theorem find_ok (h : disk.find path = .ok (place, entry)) : ∃ target,
    disk.target path = .ok target ∧ step target.directory target.piece = .ok place ∧
      disk.lookup place = some entry ∧ (target.slashed = true → entry = .directory) := by
  unfold find at h
  cases leads : disk.target path with
  | error cause =>
    rw [leads] at h
    cases h
  | ok target =>
    cases goes : step target.directory target.piece with
    | error cause =>
      simp only [leads, goes, bind, Except.bind] at h
      cases h
    | ok there =>
      simp only [leads, goes, bind, Except.bind] at h
      split at h
      · rename_i found
        cases h
        exact ⟨target, rfl, goes, found, fun _ => rfl⟩
      · rename_i found
        split at h
        · cases h
        · rename_i plain
          cases h
          exact ⟨target, rfl, goes, found, fun slashed => absurd slashed plain⟩
      · cases h

theorem find_of_target {target : Target} (leads : disk.target path = .ok target)
    (goes : step target.directory target.piece = .ok place)
    (there : disk.lookup place = some entry) (plain : target.slashed = true → entry = .directory) :
    disk.find path = .ok (place, entry) := by
  unfold find
  simp only [leads, goes, there, bind, Except.bind]
  cases entry with
  | directory => rfl
  | file content =>
    have unslashed : ¬ target.slashed = true := fun slashed => by cases plain slashed
    simp only [if_neg unslashed]
    rfl

theorem Leads.find (leads : disk.Leads path place) (there : disk.lookup place = some entry) :
    disk.find path = .ok (place, entry) := by
  obtain ⟨target, found, plain, _, goes⟩ := leads
  refine find_of_target found goes there fun slashed => ?_
  cases plain.symm.trans slashed

theorem find_extends (ext : disk.Extends later) (h : disk.find path = .ok (place, entry))
    (there : later.lookup place = some entry) : later.find path = .ok (place, entry) := by
  obtain ⟨target, leads, goes, _, plain⟩ := find_ok h
  exact find_of_target (target_extends ext leads) goes there plain

theorem read_ok : disk.read path = .ok content ↔
    ∃ place, disk.find path = .ok (place, .file content) := by
  unfold read
  constructor
  · intro h
    cases found : disk.find path with
    | error cause =>
      rw [found] at h
      cases h
    | ok there =>
      obtain ⟨place, _ | file⟩ := there
      · rw [found] at h
        cases h
      · rw [found] at h
        cases h
        exact ⟨place, rfl⟩
  · rintro ⟨place, found⟩
    rw [found]
    rfl

theorem find_write (h : disk.write path content = .ok later) : ∃ place,
    disk.lookup place ≠ some .directory ∧ later = disk.put place (.file content) ∧
      later.find path = .ok (place, .file content) := by
  obtain ⟨place, leads, free, rfl⟩ := write_ok h
  obtain ⟨root, ext⟩ := put_extends (.file content) free
  refine ⟨place, free, rfl, (leads.extends ext).find ?_⟩
  rw [lookup_put disk root, if_pos rfl]

theorem find_makeDirectory (h : disk.makeDirectory path = .ok later) : ∃ place,
    disk.lookup place = none ∧ later = disk.put place .directory ∧
      later.find path = .ok (place, .directory) := by
  obtain ⟨target, place, leads, goes, free, rfl⟩ := makeDirectory_ok h
  have vacant : disk.lookup place ≠ some .directory := by simp [free]
  obtain ⟨root, ext⟩ := put_extends .directory vacant
  refine ⟨place, free, rfl, find_of_target (target_extends ext leads) goes ?_ fun _ => rfl⟩
  rw [lookup_put disk root, if_pos rfl]

theorem read_write (h : disk.write path content = .ok later) : later.read path = .ok content := by
  obtain ⟨place, _, _, found⟩ := find_write h
  exact read_ok.mpr ⟨place, found⟩

theorem read_makeDirectory (h : disk.makeDirectory made = .ok later)
    (reads : disk.read path = .ok content) : later.read path = .ok content := by
  obtain ⟨place, free, rfl, _⟩ := find_makeDirectory h
  obtain ⟨there, found⟩ := read_ok.mp reads
  obtain ⟨_, _, _, file, _⟩ := find_ok found
  have vacant : disk.lookup place ≠ some .directory := by simp [free]
  obtain ⟨root, ext⟩ := put_extends .directory vacant
  refine read_ok.mpr ⟨there, find_extends ext found ?_⟩
  rw [lookup_put disk root, if_neg, file]
  rintro rfl
  rw [free] at file
  cases file

theorem isDirectory_iff : disk.isDirectory path = true ↔
    ∃ place, disk.find path = .ok (place, .directory) := by
  unfold isDirectory
  split
  · rename_i place found
    exact ⟨fun _ => ⟨place, found⟩, fun _ => rfl⟩
  · rename_i other
    exact ⟨nofun, fun ⟨place, found⟩ => absurd found (other place)⟩

theorem isDirectory_extends (h : disk.Extends later) (there : disk.isDirectory path = true) :
    later.isDirectory path = true := by
  obtain ⟨place, found⟩ := isDirectory_iff.mp there
  obtain ⟨_, _, _, held, _⟩ := find_ok found
  exact isDirectory_iff.mpr ⟨place, find_extends h found (h.directory place held)⟩

theorem makeDirectory_there (there : disk.isDirectory path = true) :
    disk.makeDirectory path = .error .alreadyExists := by
  obtain ⟨place, found⟩ := isDirectory_iff.mp there
  obtain ⟨target, leads, goes, held, _⟩ := find_ok found
  unfold makeDirectory
  simp only [leads, goes, held, bind, Except.bind]
  split <;> rfl

theorem Leads.write (leads : disk.Leads path place) (free : disk.lookup place ≠ some .directory) :
    disk.write path content = .ok (disk.put place (.file content)) := by
  obtain ⟨target, found, plain, named, goes⟩ := leads
  unfold Disk.write
  simp only [found, goes, plain, named, bind, Except.bind, Bool.not_true, Bool.or_self,
    Bool.false_eq_true, if_false]
  rfl

end OpenApiClient.Disk
