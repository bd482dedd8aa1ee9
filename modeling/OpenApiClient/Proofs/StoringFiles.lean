import OpenApiClient.Proofs.ActionRuns
import OpenApiClient.Proofs.DiskReads
import Mathlib.Logic.Relation

/-! What storing a file asks and changes.
A run that may make directories at some paths, and write some contents at others, changes nothing but
the places that these paths lead to, and it makes a directory only where nothing was. For one file
directories are made above it and nowhere else. -/
namespace OpenApiClient

inductive Event.Puts (ways : String → Prop) (files : String → ByteArray → Prop) : Event → Prop where
  | looked (path) : Puts ways files (.looked path)
  | refused (path) (cause) : Puts ways files (.refused path cause)
  | made {path} : ways path → Puts ways files (.made path)
  | wrote {path content} : files path content → Puts ways files (.wrote path content)

namespace Disk

/-- What is at a place after some changes: what was there, a directory where nothing was, or a file. -/
inductive ChangedAt (ways : String → Prop) (files : String → ByteArray → Prop)
    (before after : Disk) (place : Place) : Prop where
  | same : after.lookup place = before.lookup place → ChangedAt ways files before after place
  | directory {path} : ways path → before.lookup place = none →
      after.find path = .ok (place, .directory) → ChangedAt ways files before after place
  | file {path content} : files path content → before.lookup place ≠ some .directory →
      after.find path = .ok (place, .file content) → ChangedAt ways files before after place

structure Changed (ways : String → Prop) (files : String → ByteArray → Prop) (before after : Disk) :
    Prop where
  current : after.current = before.current
  places : ∀ place, ChangedAt ways files before after place

variable {ways : String → Prop} {files : String → ByteArray → Prop} {before disk later : Disk}
  {path : String} {content : ByteArray} {place : Place}

theorem changedAt_put {new : Place} {entry : Entry} (vacant : disk.lookup new ≠ some .directory)
    (elsewhere : place ≠ new) (so : ChangedAt ways files before disk place) :
    ChangedAt ways files before (disk.put new entry) place := by
  obtain ⟨root, ext⟩ := put_extends entry vacant
  have kept : (disk.put new entry).lookup place = disk.lookup place := by
    rw [lookup_put disk root, if_neg elsewhere]
  cases so with
  | same same => exact .same (kept.trans same)
  | directory way free found =>
    obtain ⟨_, _, _, there, _⟩ := find_ok found
    exact .directory way free (find_extends ext found (kept.trans there))
  | file listed free found =>
    obtain ⟨_, _, _, there, _⟩ := find_ok found
    exact .file listed free (find_extends ext found (kept.trans there))

theorem changed_makeDirectory (way : ways path) (h : disk.makeDirectory path = .ok later)
    (so : Changed ways files before disk) : Changed ways files before later := by
  obtain ⟨new, free, rfl, found⟩ := find_makeDirectory h
  refine ⟨so.current, fun place => ?_⟩
  by_cases here : place = new
  · subst here
    -- Nothing is there yet, so no change has been made there either.
    cases so.places place with
    | same same => exact .directory way (same.symm.trans free) found
    | directory _ _ there =>
      obtain ⟨_, _, _, there, _⟩ := find_ok there
      cases free.symm.trans there
    | file _ _ there =>
      obtain ⟨_, _, _, there, _⟩ := find_ok there
      cases free.symm.trans there
  · exact changedAt_put (by simp [free]) here (so.places place)

theorem changed_write (listed : files path content) (h : disk.write path content = .ok later)
    (so : Changed ways files before disk) : Changed ways files before later := by
  obtain ⟨new, vacant, rfl, found⟩ := find_write h
  refine ⟨so.current, fun place => ?_⟩
  by_cases here : place = new
  · subst here
    cases so.places place with
    | same same => exact .file listed (same ▸ vacant) found
    | directory _ _ there =>
      obtain ⟨_, _, _, there, _⟩ := find_ok there
      exact absurd there vacant
    | file _ free _ => exact .file listed free found
  · exact changedAt_put vacant here (so.places place)

theorem changed_refl (disk : Disk) : Changed ways files disk disk := ⟨rfl, fun _ => .same rfl⟩

end Disk

section Changing

variable {ways : String → Prop} {files : String → ByteArray → Prop} {action : Action α}
  {before : Disk} {world final : World} {events : List Event} {a : α}

theorem Runs.changes_after (run : Runs action world events a final)
    (puts : ∀ event ∈ events, event.Puts ways files)
    (so : Disk.Changed ways files before world.disk) :
    Disk.Changed ways files before final.disk := by
  induction run with
  | done => exact so
  | read _ _ => cases puts _ (.head _)
  | request _ _ => cases puts _ (.head _)
  | has _ ih | isDirectory _ ih | writeRefused _ _ ih | makeDirectoryRefused _ _ ih =>
    exact ih (fun event mem => puts event (.tail _ mem)) so
  | write h _ ih =>
    cases puts _ (.head _) with
    | wrote listed =>
      exact ih (fun event mem => puts event (.tail _ mem)) (Disk.changed_write listed h so)
  | makeDirectory h _ ih =>
    cases puts _ (.head _) with
    | made way =>
      exact ih (fun event mem => puts event (.tail _ mem)) (Disk.changed_makeDirectory way h so)

theorem Runs.changes (run : Runs action world events a final)
    (puts : ∀ event ∈ events, event.Puts ways files) :
    Disk.Changed ways files world.disk final.disk :=
  run.changes_after puts (Disk.changed_refl _)

end Changing

/-- A path that another one leads through: its parent, the parent of that, and so on. -/
def Path.Above (path : String) : String → Prop :=
  Relation.TransGen (fun lower upper => Path.parent? lower = some upper) path

inductive Event.Stores (path : String) (content : ByteArray) : Event → Prop where
  | looked (place) : Stores path content (.looked place)
  | made {place} : Path.Above path place → Stores path content (.made place)
  | refused {place} (cause) : place = path ∨ Path.Above path place →
      Stores path content (.refused place cause)
  | wrote : Stores path content (.wrote path content)

section Asking

variable {path place : String} {content : ByteArray}

variable {P : Event → Prop}

theorem ensureDirectory_only (looked : ∀ place, P (.looked place)) (made : P (.made place))
    (refused : ∀ cause, P (.refused place cause)) : (ensureDirectory place).run.Only P := by
  refine only_tryCatch ⟨made, refused, fun _ => trivial⟩ ?_
  intro e
  refine ⟨looked place, fun answer => ?_⟩
  cases answer <;> trivial

theorem ensureDirectoriesTo_only (looked : ∀ place, P (.looked place)) (depth : ℕ)
    (made : ∀ upper, upper = place ∨ Path.Above place upper →
      P (.made upper) ∧ ∀ cause, P (.refused upper cause)) :
    (ensureDirectoriesTo depth place).run.Only P := by
  induction depth generalizing place with
  | zero => trivial
  | succ depth ih =>
    obtain ⟨here, refused⟩ := made place (.inl rfl)
    unfold ensureDirectoriesTo
    by_cases empty : place.isEmpty = true
    · rw [if_pos empty]
      trivial
    · rw [if_neg empty]
      refine only_tryCatch ⟨here, refused, fun _ => trivial⟩ ?_
      intro e
      split
      · split
        · trivial
        · rename_i parent up
          refine only_except_bind (ih ?_) fun _ => ensureDirectory_only looked here refused
          intro upper higher
          apply made
          rcases higher with rfl | higher
          · exact .inr (.single up)
          · exact .inr (.head up higher)
      · refine ⟨looked place, fun answer => ?_⟩
        cases answer <;> trivial

theorem ensureDirectoriesTo_stores (depth : ℕ) (above : Path.Above path place) :
    (ensureDirectoriesTo depth place).run.Only (Event.Stores path content) := by
  refine ensureDirectoriesTo_only .looked depth ?_
  intro upper higher
  have there : Path.Above path upper := by
    rcases higher with rfl | higher
    · exact above
    · exact above.trans higher
  exact ⟨.made there, fun cause => .refused cause (.inr there)⟩

theorem storeFile_stores (path : String) (content : ByteArray) :
    (storeFile path content).run.Only (Event.Stores path content) := by
  have write : (writeFile path content).run.Only (Event.Stores path content) :=
    ⟨.wrote, fun cause => .refused cause (.inl rfl), fun _ => trivial⟩
  unfold storeFile
  split
  · rename_i parent up
    exact only_except_bind (ensureDirectoriesTo_stores _ (.single up)) fun _ => write
  · exact write

end Asking

namespace Disk

/-- What is at a place once a file has been stored at a path, or could not be: what was there, a
directory above the file where nothing was, or the file. -/
inductive StoredAt (path : String) (content : ByteArray) (wrote : Bool) (before after : Disk)
    (place : Place) : Prop where
  | same : after.lookup place = before.lookup place →
      StoredAt path content wrote before after place
  | directory {above} : Path.Above path above → before.lookup place = none →
      after.find above = .ok (place, .directory) → StoredAt path content wrote before after place
  | file : wrote = true → before.lookup place ≠ some .directory →
      after.find path = .ok (place, .file content) → StoredAt path content wrote before after place

structure Stored (path : String) (content : ByteArray) (wrote : Bool) (before after : Disk) :
    Prop where
  current : after.current = before.current
  places : ∀ place, StoredAt path content wrote before after place

end Disk

end OpenApiClient
