import OpenApiClient.Proofs.ClientPieces
import OpenApiClient.Proofs.WrittenFiles

/-! Whether generated files keep apart.
Files are told apart by their names, and written where their paths lead. Names without a slash lead to
as many places as there are names; a name with a slash may lead to the place of another one. -/
namespace OpenApiClient

namespace Path

theorem splitSlash_ne_nil (text : List Char) : splitSlash text ≠ [] := by
  cases text with
  | nil => simp [splitSlash]
  | cons c rest =>
    rw [splitSlash]
    split
    · simp
    · split <;> simp

theorem splitSlash_plain {text : List Char} (plain : '/' ∉ text) : splitSlash text = [text] := by
  induction text with
  | nil => rfl
  | cons c rest ih =>
    simp only [List.mem_cons, not_or] at plain
    rw [splitSlash, if_neg (Ne.symm plain.1), ih plain.2]

theorem splitSlash_append (before after : List Char) :
    splitSlash (before ++ '/' :: after) = splitSlash before ++ splitSlash after := by
  induction before with
  | nil => rfl
  | cons c rest ih =>
    rw [List.cons_append, splitSlash, splitSlash]
    by_cases slash : c = '/'
    · rw [if_pos slash, if_pos slash, ih, List.cons_append]
    · obtain ⟨piece, pieces, cut⟩ := List.exists_cons_of_ne_nil (splitSlash_ne_nil rest)
      rw [if_neg slash, if_neg slash, ih, cut]
      rfl

/-- The pieces of a path that have a character. -/
def held (path : String) : List String := (pieces path).filter (!·.isEmpty)

theorem held_slash (before after : String) :
    held (before ++ "/" ++ after) = held before ++ held after := by
  have split : (before ++ "/" ++ after).toList = before.toList ++ '/' :: after.toList := by simp
  rw [held, pieces, split, splitSlash_append, List.map_append, List.filter_append]
  rfl

theorem held_plain {name : String} (plain : '/' ∉ name.toList) (nonempty : name ≠ "") :
    held name = [name] := by
  simp [held, pieces, splitSlash_plain plain, nonempty]

theorem isAbsolute_plain {name : String} (plain : '/' ∉ name.toList) : isAbsolute name = false := by
  rw [isAbsolute, decide_eq_false_iff_not]
  intro slash
  exact plain (List.mem_of_head? slash)

theorem isAbsolute_append {before : String} (after : String) (nonempty : before ≠ "") :
    isAbsolute (before ++ after) = isAbsolute before := by
  obtain ⟨c, rest, letters⟩ := List.exists_cons_of_ne_nil (mt String.toList_eq_nil_iff.mp nonempty)
  simp [isAbsolute, letters]

theorem join_relative {path : String} (directory : String) (relative : isAbsolute path = false) :
    held (join directory path) = held directory ++ held path ∧
      isAbsolute (join directory path) = isAbsolute directory := by
  rw [join, relative, if_neg Bool.false_ne_true]
  by_cases empty : directory = ""
  · subst empty
    exact ⟨by simp [held, pieces, splitSlash], relative⟩
  -- A slash at the end of the directory is not written twice; the pieces are the same either way.
  by_cases slashed : endsWithSlash directory = true
  · rw [slashed, Bool.or_true, if_pos rfl]
    refine ⟨?_, isAbsolute_append path empty⟩
    rw [endsWithSlash, decide_eq_true_eq] at slashed
    obtain ⟨front, letters⟩ := List.getLast?_eq_some_iff.mp slashed
    have same : directory = .ofList front ++ "/" ++ "" := String.toList_injective (by simp [letters])
    have whole : directory ++ path = .ofList front ++ "/" ++ path := by
      rw [same, String.append_empty]
    rw [whole, same, held_slash, held_slash]
    simp [held, pieces, splitSlash]
  · rw [if_neg (by simp [empty, slashed]), held_slash, String.append_assoc]
    exact ⟨rfl, isAbsolute_append _ empty⟩

end Path

namespace Disk

variable {disk : Disk} {directory name : String} {place : Place}

theorem leads_walk {path : String} (leads : disk.Leads path place) : ∃ folder,
    disk.walk (if Path.isAbsolute path then [] else disk.current) (Path.held path).dropLast =
      .ok folder ∧ place = folder ++ [(Path.held path).getLast?.getD "."] := by
  obtain ⟨target, found, _, named, goes⟩ := leads
  unfold Disk.target at found
  split at found
  · cases found
  split at found
  · cases found
  split at found
  · cases found
  simp only [bind, Except.bind] at found
  split at found
  · cases found
  rename_i folder walks
  cases found
  refine ⟨folder, walks, ?_⟩
  simp only [Target.isName, Bool.and_eq_true, Bool.not_eq_true', decide_eq_true_eq] at named
  unfold step at goes
  rw [if_neg (ne_true_of_eq_false named.1), if_neg named.2] at goes
  split at goes
  · cases goes
  · exact (Except.ok.inj goes).symm

theorem leads_join (plain : '/' ∉ name.toList) (nonempty : name ≠ "")
    (leads : disk.Leads (Path.join directory name) place) : ∃ folder,
    disk.walk (if Path.isAbsolute directory then [] else disk.current) (Path.held directory) =
      .ok folder ∧ place = folder ++ [name] := by
  obtain ⟨held, absolute⟩ := Path.join_relative directory (Path.isAbsolute_plain plain)
  obtain ⟨folder, walks, told⟩ := leads_walk leads
  rw [Path.held_plain plain nonempty] at held
  rw [held, List.dropLast_concat, absolute] at walks
  rw [held, List.getLast?_concat, Option.getD_some] at told
  exact ⟨folder, walks, told⟩

theorem leads_apart {other : String} (plain : '/' ∉ name.toList) (nonempty : name ≠ "")
    (plain' : '/' ∉ other.toList) (nonempty' : other ≠ "") (ne : name ≠ other)
    (leads : disk.Leads (Path.join directory name) place) :
    ¬ disk.Leads (Path.join directory other) place := by
  intro leads'
  obtain ⟨folder, walks, rfl⟩ := leads_join plain nonempty leads
  obtain ⟨folder', walks', same⟩ := leads_join plain' nonempty' leads'
  obtain rfl := Except.ok.inj (walks.symm.trans walks')
  simp [ne] at same

def Together (disk : Disk) (path other : String) : Prop :=
  ∃ place, disk.Leads path place ∧ disk.Leads other place

theorem together_iff {path other : String} {place' : Place} (leads : disk.Leads path place)
    (leads' : disk.Leads other place') : disk.Together path other ↔ place = place' := by
  constructor
  · rintro ⟨shared, here, there⟩
    exact (here.unique leads).trans (leads'.unique there)
  · rintro rfl
    exact ⟨place, leads, leads'⟩

theorem Leads.read {path : String} {content : ByteArray} (leads : disk.Leads path place) :
    disk.read path = .ok content ↔ disk.lookup place = some (.file content) := by
  rw [read_ok]
  constructor
  · rintro ⟨place', found⟩
    obtain ⟨target, here, goes, there, _⟩ := find_ok found
    obtain ⟨_, here', _, _, goes'⟩ := leads
    cases here.symm.trans here'
    obtain rfl := Except.ok.inj (goes.symm.trans goes')
    exact there
  · intro there
    exact ⟨place, leads.find there⟩

end Disk

theorem clientFile_apart (options : ClientOptions) (fileName : Option String) :
    (options.clientFile fileName).1 ≠ "" ∧ (options.clientFile fileName).1 ≠ options.typesFile ∧
      (options.clientFile fileName).1 ≠ options.indexFile := by
  have standard : options.defaultClientFile ≠ "" ∧ options.defaultClientFile ≠ options.typesFile ∧
      options.defaultClientFile ≠ options.indexFile := by
    unfold ClientOptions.defaultClientFile ClientOptions.typesFile ClientOptions.indexFile
      ClientOptions.fileNamed ClientOptions.extension
    split <;> decide
  unfold ClientOptions.clientFile
  split
  · exact standard
  · rename_i name requested
    have nonempty : name ≠ "" := by
      have kept := (Option.filter_eq_some_iff.mp requested).2
      simpa using kept
    split
    · exact standard
    · rename_i apart
      have other : ∀ file, file = options.typesFile ∨ file = options.indexFile → name ≠ file := by
        rintro file taken rfl
        apply apart
        rcases taken with rfl | rfl <;> simp [ClientOptions.sameName]
      split
      · exact ⟨nonempty, other _ (.inl rfl), other _ (.inr rfl)⟩
      · exact ⟨nonempty, other _ (.inl rfl), other _ (.inr rfl)⟩

theorem fixedFiles_plain (options : ClientOptions) :
    ('/' ∉ options.typesFile.toList ∧ options.typesFile ≠ "") ∧
      ('/' ∉ options.indexFile.toList ∧ options.indexFile ≠ "") ∧
      options.typesFile ≠ options.indexFile := by
  unfold ClientOptions.typesFile ClientOptions.indexFile ClientOptions.fileNamed
    ClientOptions.extension
  split <;> decide

theorem types_ne_client (document : Document) (options : ClientOptions) (typesModule : String) :
    (document.typesModule options).toUTF8 ≠ (document.clientModule options typesModule).toUTF8 := by
  intro same
  have texts := String.toByteArray_inj.mp same
  have letters := congrArg (fun text : String => text.toList[18]?) texts
  simp [Document.typesModule, Document.typesLines, Document.clientModule, Document.clientLines] at letters

theorem index_ne_client (document : Document) (options : ClientOptions)
    (typesModule specifier : String) :
    (indexModule specifier typesModule).toUTF8 ≠ (document.clientModule options typesModule).toUTF8 := by
  intro same
  have texts := String.toByteArray_inj.mp same
  have letters := congrArg (fun text : String => text.toList[22]?) texts
  simp [indexModule, Document.clientModule, Document.clientLines] at letters

def ClientOptions.typesPath (options : ClientOptions) (directory : String) : String :=
  Path.join directory options.typesFile

def ClientOptions.clientPath (options : ClientOptions) (fileName : Option String)
    (directory : String) : String :=
  Path.join directory (options.clientFile fileName).1

def ClientOptions.indexPath (options : ClientOptions) (directory : String) : String :=
  Path.join directory options.indexFile

def ClientOptions.indexText (options : ClientOptions) (fileName : Option String) : String :=
  indexModule (moduleSpecifier (options.clientFile fileName).1) typesSpecifier

structure FilesRead (document : Document) (options : ClientOptions) (fileName : Option String)
    (directory : String) (paths : List String) (disk : Disk) : Prop where
  paths : paths = [options.typesPath directory, options.clientPath fileName directory,
    options.indexPath directory]
  index : disk.read (options.indexPath directory) = .ok (options.indexText fileName).toUTF8
  /-- The client reads back unless its path leads to the place of the index. -/
  client : disk.read (options.clientPath fileName directory) =
      .ok (document.clientModule options typesSpecifier).toUTF8 ↔
    ¬ disk.Together (options.clientPath fileName directory) (options.indexPath directory)
  /-- The types read back unless the path of the client leads to their place. -/
  types : disk.read (options.typesPath directory) = .ok (document.typesModule options).toUTF8 ↔
    ¬ disk.Together (options.clientPath fileName directory) (options.typesPath directory)
  plain : '/' ∉ (options.clientFile fileName).1.toList →
    ¬ disk.Together (options.clientPath fileName directory) (options.indexPath directory) ∧
      ¬ disk.Together (options.clientPath fileName directory) (options.typesPath directory)

/-- The types and the client keep apart from the index as far as their paths do. -/
theorem written_files_read {document : Document} {options : ClientOptions} {fileName : Option String}
    {directory : String} {world final : World} {events : List Event} {paths : List String}
    (run : Runs (writeFiles directory (generate document options fileName).files).run world events
      (.ok paths) final) :
    FilesRead document options fileName directory paths final.disk := by
  obtain ⟨told, written⟩ := writeFiles_written run
  obtain ⟨⟨typesPlain, typesHeld⟩, ⟨indexPlain, indexHeld⟩, ne⟩ := fixedFiles_plain options
  obtain ⟨clientHeld, clientTypes, clientIndex⟩ := clientFile_apart options fileName
  obtain ⟨typesPlace, clientPlace, indexPlace, typesLeads, clientLeads, indexLeads, typesThere,
    clientThere, indexThere⟩ := written.three
  have fixed : typesPlace ≠ indexPlace := by
    rintro rfl
    exact Disk.leads_apart typesPlain typesHeld indexPlain indexHeld ne typesLeads indexLeads
  constructor
  · exact told
  · exact indexLeads.read.mpr indexThere
  · refine (clientLeads.read.trans ?_).trans (not_congr (Disk.together_iff clientLeads indexLeads)).symm
    constructor
    · rintro there rfl
      have contents := indexThere.symm.trans there
      simp only [Option.some.injEq, Entry.file.injEq] at contents
      exact index_ne_client document options typesSpecifier _ contents
    · exact clientThere
  · refine (typesLeads.read.trans ?_).trans (not_congr (Disk.together_iff clientLeads typesLeads)).symm
    constructor
    · rintro there rfl
      have contents := there.symm.trans (clientThere fixed)
      simp only [Option.some.injEq, Entry.file.injEq] at contents
      exact types_ne_client document options typesSpecifier contents
    · intro apart
      exact typesThere (Ne.symm apart) fixed
  · intro plain
    constructor
    · rintro ⟨place, leads, leads'⟩
      exact Disk.leads_apart plain clientHeld indexPlain indexHeld clientIndex leads leads'
    · rintro ⟨place, leads, leads'⟩
      exact Disk.leads_apart plain clientHeld typesPlain typesHeld clientTypes leads leads'

def writeEmpty (fileName : Option String) : Action (Except WriteError (List String)) :=
  (writeFiles "out" (generate {} {} fileName).files).run

theorem own_directory_read : ∃ final events,
    Runs (writeEmpty (some "pets/types.ts")) {} events
      (.ok ["out/types.ts", "out/pets/types.ts", "out/index.ts"]) final ∧
    FilesRead {} {} (some "pets/types.ts") "out"
      ["out/types.ts", "out/pets/types.ts", "out/index.ts"] final.disk := by
  have run := runs_run (writeEmpty (some "pets/types.ts")) {}
  have told : ((writeEmpty (some "pets/types.ts")).run {}).1 =
      .ok ["out/types.ts", "out/pets/types.ts", "out/index.ts"] := by decide +kernel
  rw [told] at run
  exact ⟨_, _, run, written_files_read run⟩

/-- A client file whose name is the name of the types, spelled with a dot, takes their place. -/
theorem dotted_name_overwrites :
    let after := (writeEmpty (some "./types.ts")).run {}
    after.1 = .ok ["out/types.ts", "out/./types.ts", "out/index.ts"] ∧
    after.2.disk.read "out/types.ts" = .ok (Document.clientModule {} {} typesSpecifier).toUTF8 ∧
    after.2.disk.read "out/types.ts" ≠ .ok (Document.typesModule {} {}).toUTF8 := by
  have there : ((writeEmpty (some "./types.ts")).run {}).2.disk.read "out/types.ts" =
      .ok (Document.clientModule {} {} typesSpecifier).toUTF8 := by rfl
  refine ⟨by decide +kernel, there, ?_⟩
  rw [there]
  intro same
  exact types_ne_client {} {} typesSpecifier (Except.ok.inj same).symm

end OpenApiClient
