import OpenApiClient.Proofs.FilesApart
import OpenApiClient.Proofs.ModuleNames

/-! Where the import of the types leads.
The client names the module of the types as one beside itself. That is where the types are just if both
files are put into one directory, which a client file in a directory of its own is not. -/
namespace OpenApiClient

namespace Path

theorem held_ne_nil {name : String} (relative : isAbsolute name = false) (nonempty : name ≠ "") :
    held name ≠ [] := by
  obtain ⟨c, rest, letters⟩ := List.exists_cons_of_ne_nil (mt String.toList_eq_nil_iff.mp nonempty)
  have plain : c ≠ '/' := by simpa [isAbsolute, letters] using relative
  obtain ⟨piece, more, cut⟩ := List.exists_cons_of_ne_nil (splitSlash_ne_nil rest)
  simp [held, pieces, letters, splitSlash, plain, cut]

theorem held_nonempty {path piece : String} (h : piece ∈ held path) : piece ≠ "" := by
  simpa using (List.mem_filter.mp h).2

end Path

namespace Disk

variable {disk : Disk} {directory name path : String} {place : Place}

theorem walk_append (disk : Disk) (place : Place) (front back : List String) :
    disk.walk place (front ++ back) = (disk.walk place front).bind (disk.walk · back) := by
  induction front generalizing place with
  | nil => rfl
  | cons piece rest ih =>
    rw [List.cons_append, walk, walk]
    cases step place piece with
    | error cause => rfl
    | ok next =>
      simp only [bind, Except.bind]
      split
      · exact ih next
      · rfl
      · rfl

theorem walk_down {pieces : List String} {found : Place} (walks : disk.walk place pieces = .ok found)
    (down : ".." ∉ pieces) : found = place ++ pieces.filter (!Path.isIdle ·) := by
  induction pieces generalizing place with
  | nil =>
    cases walks
    simp
  | cons piece rest ih =>
    simp only [List.mem_cons, not_or] at down
    obtain ⟨here, below⟩ := down
    unfold walk at walks
    cases goes : step place piece with
    | error cause =>
      rw [goes] at walks
      cases walks
    | ok next =>
      rw [goes] at walks
      simp only [bind, Except.bind] at walks
      split at walks
      · have further := ih walks below
        unfold step at goes
        split at goes
        · rename_i idle
          cases goes
          simpa [idle] using further
        · rename_i named
          rw [if_neg (Ne.symm here)] at goes
          split at goes
          · cases goes
          · cases goes
            simpa [named] using further
      · cases walks
      · cases walks

def Neighbours (disk : Disk) (path other : String) : Prop :=
  ∃ folder name name', disk.Leads path (folder ++ [name]) ∧ disk.Leads other (folder ++ [name'])

end Disk

def importedPlace (folder : Place) (specifier extension : String) : Except FileError Place :=
  (Path.pieces (specifier ++ "." ++ extension)).foldlM Disk.step folder

def Disk.Imports (disk : Disk) (path specifier extension : String) (place : Place) : Prop :=
  ∃ here, disk.Leads path here ∧ importedPlace here.dropLast specifier extension = .ok place

theorem importedPlace_types (folder : Place) (options : ClientOptions) :
    importedPlace folder typesSpecifier options.extension = .ok (folder ++ [options.typesFile]) := by
  unfold ClientOptions.typesFile ClientOptions.fileNamed ClientOptions.extension
  cases options.toJavaScript with
  | false =>
    have pieces : Path.pieces (typesSpecifier ++ "." ++ "ts") = [".", "types.ts"] := by decide
    simp only [importedPlace, Bool.false_eq_true, if_false, pieces]
    rfl
  | true =>
    have pieces : Path.pieces (typesSpecifier ++ "." ++ "js") = [".", "types.js"] := by decide
    simp only [importedPlace, if_true, pieces]
    rfl

theorem Disk.Leads.imports {disk : Disk} {path name : String} {folder place : Place}
    {options : ClientOptions} (leads : disk.Leads path (folder ++ [name])) :
    disk.Imports path typesSpecifier options.extension place ↔
      place = folder ++ [options.typesFile] := by
  constructor
  · rintro ⟨here, leads', found⟩
    obtain rfl := leads.unique leads'
    rw [List.dropLast_concat, importedPlace_types] at found
    exact (Except.ok.inj found).symm
  · rintro rfl
    exact ⟨_, leads, by rw [List.dropLast_concat, importedPlace_types]⟩

/-- The module that the client imports its types from is in the file that the types are written to. -/
def ClientOptions.ImportsTypes (options : ClientOptions) (fileName : Option String)
    (directory : String) (disk : Disk) : Prop :=
  ∃ place, disk.Imports (options.clientPath fileName directory) typesSpecifier options.extension place ∧
    disk.Leads (options.typesPath directory) place

structure TypesImported (document : Document) (options : ClientOptions) (fileName : Option String)
    (directory : String) (disk : Disk) : Prop where
  line : document.typeImports options ≠ [] → (document.clientLines options typesSpecifier)[2]? =
    some ("import type \x7b " ++ ", ".intercalate (document.typeImports options) ++ " \x7d from '"
      ++ typesSpecifier ++ "';")
  beside : ∃ folder name, disk.Leads (options.clientPath fileName directory) (folder ++ [name]) ∧
    ∀ place, disk.Imports (options.clientPath fileName directory) typesSpecifier options.extension
      place ↔ place = folder ++ [options.typesFile]
  denotes : options.ImportsTypes fileName directory disk ↔
    disk.Neighbours (options.clientPath fileName directory) (options.typesPath directory)
  plain : '/' ∉ (options.clientFile fileName).1.toList → options.ImportsTypes fileName directory disk
  /-- A name that does not lead up again leads to another directory, unless dots are all that its
  slashes divide from the file. -/
  below : Path.isAbsolute (options.clientFile fileName).1 = false →
    ".." ∉ Path.held (options.clientFile fileName).1 →
    (options.ImportsTypes fileName directory disk ↔
      ∀ piece ∈ (Path.held (options.clientFile fileName).1).dropLast, piece = ".")

section Written

variable {options : ClientOptions} {fileName : Option String} {directory : String} {disk : Disk}
  {clientPlace typesPlace : Place}

theorem importsTypes_iff (client : disk.Leads (options.clientPath fileName directory) clientPlace)
    (types : disk.Leads (options.typesPath directory) typesPlace) :
    options.ImportsTypes fileName directory disk ↔
      clientPlace.dropLast = typesPlace.dropLast := by
  obtain ⟨⟨typesPlain, typesHeld⟩, _⟩ := fixedFiles_plain options
  obtain ⟨folder, _, rfl⟩ := Disk.leads_walk client
  obtain ⟨out, _, rfl⟩ := Disk.leads_join typesPlain typesHeld types
  rw [List.dropLast_concat, List.dropLast_concat]
  constructor
  · rintro ⟨place, imports, leads⟩
    obtain rfl := client.imports.mp imports
    exact List.append_cancel_right (types.unique leads)
  · rintro rfl
    exact ⟨_, client.imports.mpr rfl, types⟩

theorem neighbours_iff {path other : String} {place place' : Place} (leads : disk.Leads path place)
    (leads' : disk.Leads other place') :
    disk.Neighbours path other ↔ place.dropLast = place'.dropLast := by
  constructor
  · rintro ⟨folder, name, name', here, there⟩
    rw [here.unique leads, there.unique leads', List.dropLast_concat, List.dropLast_concat]
  · intro same
    obtain ⟨folder, _, told⟩ := Disk.leads_walk leads
    obtain ⟨folder', _, told'⟩ := Disk.leads_walk leads'
    rw [told, told', List.dropLast_concat, List.dropLast_concat] at same
    rw [told] at leads
    rw [told', ← same] at leads'
    exact ⟨folder, _, _, leads, leads'⟩

theorem client_below (relative : Path.isAbsolute (options.clientFile fileName).1 = false)
    (down : ".." ∉ Path.held (options.clientFile fileName).1)
    (client : disk.Leads (options.clientPath fileName directory) clientPlace)
    (types : disk.Leads (options.typesPath directory) typesPlace) :
    clientPlace.dropLast = typesPlace.dropLast ++
      (Path.held (options.clientFile fileName).1).dropLast.filter (!Path.isIdle ·) := by
  obtain ⟨⟨typesPlain, typesHeld⟩, _⟩ := fixedFiles_plain options
  obtain ⟨held, absolute⟩ := Path.join_relative directory relative
  have nonempty := Path.held_ne_nil relative (clientFile_apart options fileName).1
  obtain ⟨folder, walks, rfl⟩ := Disk.leads_walk client
  obtain ⟨out, walks', rfl⟩ := Disk.leads_join typesPlain typesHeld types
  rw [ClientOptions.clientPath, held, absolute, List.dropLast_append_of_ne_nil nonempty,
    Disk.walk_append, walks'] at walks
  rw [List.dropLast_concat, List.dropLast_concat]
  exact Disk.walk_down walks fun mem => down (List.dropLast_subset _ mem)

end Written

/-- The import leads to the types just if the client is written into the directory they are in. -/
theorem types_import_resolves {document : Document} {options : ClientOptions}
    {fileName : Option String} {directory : String} {world final : World} {events : List Event}
    {paths : List String}
    (run : Runs (writeFiles directory (generate document options fileName).files).run world events
      (.ok paths) final) :
    TypesImported document options fileName directory final.disk := by
  obtain ⟨_, written⟩ := writeFiles_written run
  obtain ⟨⟨typesPlain, typesHeld⟩, _⟩ := fixedFiles_plain options
  obtain ⟨clientHeld, _⟩ := clientFile_apart options fileName
  obtain ⟨typesPlace, clientPlace, _, types, client, _⟩ := written.three
  have denotes := importsTypes_iff client types
  constructor
  · intro imports
    simp only [Document.clientLines, importLines_names, List.isEmpty_iff, if_neg imports]
    rfl
  · obtain ⟨folder, _, rfl⟩ := Disk.leads_walk client
    exact ⟨folder, _, client, fun place => client.imports⟩
  · exact denotes.trans (neighbours_iff client types).symm
  · intro plain
    obtain ⟨folder, walks, rfl⟩ := Disk.leads_join plain clientHeld client
    obtain ⟨out, walks', rfl⟩ := Disk.leads_join typesPlain typesHeld types
    cases walks.symm.trans walks'
    exact denotes.mpr (by rw [List.dropLast_concat, List.dropLast_concat])
  · intro relative down
    rw [denotes, client_below relative down client types, List.append_right_eq_self,
      List.filter_eq_nil_iff]
    refine forall₂_congr ?_
    intro piece mem
    have nonempty := Path.held_nonempty (List.dropLast_subset _ mem)
    simp [Path.isIdle, nonempty]

def writeShared (fileName : Option String) : Action (Except WriteError (List String)) :=
  (writeFiles "out" (generate sharedIdentifier {} fileName).files).run

theorem dotted_client_imports : ∃ final events,
    Runs (writeShared (some "./client.ts")) {} events
      (.ok ["out/types.ts", "out/./client.ts", "out/index.ts"]) final ∧
    TypesImported sharedIdentifier {} (some "./client.ts") "out" final.disk := by
  have run := runs_run (writeShared (some "./client.ts")) {}
  have told : ((writeShared (some "./client.ts")).run {}).1 =
      .ok ["out/types.ts", "out/./client.ts", "out/index.ts"] := by decide +kernel
  rw [told] at run
  exact ⟨_, _, run, types_import_resolves run⟩

theorem nested_client_misses_types :
    let after := (writeShared (some "pets/client.ts")).run {}
    after.1 = .ok ["out/types.ts", "out/pets/client.ts", "out/index.ts"] ∧
    sharedIdentifier.typeImports {} = ["User"] ∧
    after.2.disk.Imports "out/pets/client.ts" typesSpecifier "ts" ["out", "pets", "types.ts"] ∧
    after.2.disk.lookup ["out", "pets", "types.ts"] = none ∧
    ¬ ClientOptions.ImportsTypes {} (some "pets/client.ts") "out" after.2.disk := by
  have told : ((writeShared (some "pets/client.ts")).run {}).1 =
      .ok ["out/types.ts", "out/pets/client.ts", "out/index.ts"] := by decide +kernel
  have imports : sharedIdentifier.typeImports {} = ["User"] := by decide +kernel
  have missing : (((writeShared (some "pets/client.ts")).run {}).2.disk.lookup
      ["out", "pets", "types.ts"]).isNone := by decide +kernel
  have client : ((writeShared (some "pets/client.ts")).run {}).2.disk.Leads "out/pets/client.ts"
      (["out", "pets"] ++ ["client.ts"]) := ⟨⟨["out", "pets"], "client.ts", false⟩, by decide +kernel⟩
  have types : ((writeShared (some "pets/client.ts")).run {}).2.disk.Leads "out/types.ts"
      (["out"] ++ ["types.ts"]) := ⟨⟨["out"], "types.ts", false⟩, by decide +kernel⟩
  -- the run is not to be unfolded any further
  generalize (writeShared (some "pets/client.ts")).run {} = after at told missing client types ⊢
  refine ⟨told, imports, ?_, Option.isNone_iff_eq_none.mp missing, ?_⟩
  · have denoted := @Disk.Leads.imports _ _ _ _ ["out", "pets", "types.ts"] {} client
    exact denoted.mpr rfl
  · have apart := @importsTypes_iff {} (some "pets/client.ts") "out" _ _ _ client types
    exact fun denotes => absurd (apart.mp denotes) (by decide)

end OpenApiClient
