import OpenApiClient.Proofs.FilesApart

/-! What the index module exports again.
A module is named by its file without the extension of a script. Two extensions can be left out, so
that two files may have one name between them. -/
namespace OpenApiClient

/-- A file is a script of that name, or has the name itself and no extension of a script. -/
def IsStem (stem file : String) : Prop :=
  file = stem ++ ".ts" ∨ file = stem ++ ".js" ∨
    file = stem ∧ ∀ other, file ≠ other ++ ".ts" ∧ file ≠ other ++ ".js"

theorem dropSuffix_eq_some {ending text stem : String} :
    dropSuffix? ending text = some stem ↔ text = stem ++ ending := by
  unfold dropSuffix?
  constructor
  · intro h
    split at h
    · rename_i suffix
      obtain ⟨front, letters⟩ := List.isSuffixOf_iff_suffix.mp suffix
      have whole : text = .ofList front ++ ending := String.toList_injective (by simp [← letters])
      have size : text.length - ending.length = front.length := by simp [whole]
      rw [size, ← letters, List.take_left] at h
      rw [whole, Option.some.inj h]
    · cases h
  · rintro rfl
    have suffix : ending.toList.isSuffixOf (stem ++ ending).toList = true :=
      List.isSuffixOf_iff_suffix.mpr ⟨stem.toList, by simp⟩
    have size : (stem ++ ending).length - ending.length = stem.toList.length := by
      rw [String.length_append, Nat.add_sub_cancel, String.length_toList]
    rw [if_pos suffix, size, String.toList_append, List.take_left, String.ofList_toList]

theorem dropSuffix_eq_none {ending text : String} :
    dropSuffix? ending text = none ↔ ∀ stem, text ≠ stem ++ ending := by
  simp only [Option.eq_none_iff_forall_not_mem, Option.mem_def, dropSuffix_eq_some, ne_eq]

theorem script_ne_plain {stem other : String} : stem ++ ".ts" ≠ other ++ ".js" := by
  intro same
  have sizes : ".ts".toList.length = ".js".toList.length := by decide
  have ends : ".ts".toList ≠ ".js".toList := by decide
  have letters := congrArg String.toList same
  rw [String.toList_append, String.toList_append] at letters
  exact ends (List.append_inj_right' letters sizes)

theorem moduleSpecifier_stem {file stem : String} :
    moduleSpecifier file = "./" ++ stem ↔ IsStem stem file := by
  have cancel : ∀ name, "./" ++ name = "./" ++ stem ↔ name = stem := by simp
  unfold moduleSpecifier
  rw [cancel]
  cases typed : dropSuffix? ".ts" file with
  | some name =>
    obtain rfl := dropSuffix_eq_some.mp typed
    simp [IsStem, script_ne_plain]
  | none =>
    rw [dropSuffix_eq_none] at typed
    cases plain : dropSuffix? ".js" file with
    | some name =>
      obtain rfl := dropSuffix_eq_some.mp plain
      simp [IsStem, script_ne_plain.symm]
    | none =>
      rw [dropSuffix_eq_none] at plain
      simp [IsStem, typed, plain]

theorem isStem_iff {stem file : String}
    (bare : dropSuffix? ".ts" stem = none ∧ dropSuffix? ".js" stem = none) :
    IsStem stem file ↔ file ∈ [stem, stem ++ ".ts", stem ++ ".js"] := by
  obtain ⟨typed, plain⟩ := bare
  rw [dropSuffix_eq_none] at typed plain
  constructor
  · rintro (rfl | rfl | ⟨rfl, _⟩)
    · simp
    · simp
    · simp
  · intro mem
    simp only [List.mem_cons, List.not_mem_nil, or_false] at mem
    rcases mem with rfl | rfl | rfl
    · exact .inr (.inr ⟨rfl, fun other => ⟨typed other, plain other⟩⟩)
    · exact .inl rfl
    · exact .inr (.inl rfl)

namespace ClientOptions

def fileNamedOtherwise (options : ClientOptions) (stem : String) : String :=
  stem ++ "." ++ if options.toJavaScript then "ts" else "js"

theorem fileNamed_cases (options : ClientOptions) (stem : String) :
    options.fileNamed stem = stem ++ ".ts" ∧ options.fileNamedOtherwise stem = stem ++ ".js" ∨
      options.fileNamed stem = stem ++ ".js" ∧ options.fileNamedOtherwise stem = stem ++ ".ts" := by
  unfold fileNamed fileNamedOtherwise extension
  cases options.toJavaScript with
  | false => exact .inl ⟨String.append_assoc, String.append_assoc⟩
  | true => exact .inr ⟨String.append_assoc, String.append_assoc⟩

def clientSpecifier (options : ClientOptions) (fileName : Option String) : String :=
  moduleSpecifier (options.clientFile fileName).1

variable {options : ClientOptions} {fileName : Option String}

theorem clientFile_eq_iff {file : String} (other : file ≠ options.defaultClientFile)
    (free : (sameName options.typesFile file || sameName options.indexFile file) = false) :
    (options.clientFile fileName).1 = file ↔ requestedName fileName = some file := by
  unfold clientFile
  cases requested : requestedName fileName with
  | none => simp [Ne.symm other]
  | some name =>
    rw [Option.some.injEq]
    simp only
    split
    · rename_i taken
      constructor
      · intro same
        exact absurd same.symm other
      · rintro rfl
        rw [free] at taken
        cases taken
    · split
      · rfl
      · rfl

/-- The client goes by the name of a file of the output only if that name is asked for without its
extension or with the other one. -/
theorem clientSpecifier_eq_iff {stem : String} (fixed : stem = "types" ∨ stem = "index") :
    options.clientSpecifier fileName = "./" ++ stem ↔
      requestedName fileName = some stem ∨
        requestedName fileName = some (options.fileNamedOtherwise stem) := by
  have bare : dropSuffix? ".ts" stem = none ∧ dropSuffix? ".js" stem = none := by
    rcases fixed with rfl | rfl <;> decide
  have own : (options.clientFile fileName).1 ≠ options.fileNamed stem := by
    obtain ⟨_, types, index⟩ := clientFile_apart options fileName
    rcases fixed with rfl | rfl
    · exact types
    · exact index
  have free : ∀ file ∈ [stem, options.fileNamedOtherwise stem], file ≠ options.defaultClientFile ∧
      (sameName options.typesFile file || sameName options.indexFile file) = false := by
    unfold fileNamedOtherwise defaultClientFile typesFile indexFile fileNamed extension
    rcases fixed with rfl | rfl <;> cases options.toJavaScript <;> decide
  have asked : ∀ file ∈ [stem, options.fileNamedOtherwise stem],
      (options.clientFile fileName).1 = file ↔ requestedName fileName = some file := by
    intro file mem
    exact clientFile_eq_iff (free file mem).1 (free file mem).2
  rw [clientSpecifier, moduleSpecifier_stem, isStem_iff bare, ← asked stem (by simp),
    ← asked (options.fileNamedOtherwise stem) (by simp)]
  simp only [List.mem_cons, List.not_mem_nil, or_false]
  rcases options.fileNamed_cases stem with ⟨here, there⟩ | ⟨here, there⟩
  · rw [here] at own
    rw [there]
    tauto
  · rw [here] at own
    rw [there]
    tauto

end ClientOptions

def Unescaped (c : Char) : Prop := c ≠ '\\' ∧ c ≠ '\'' ∧ c ≠ '\n'

def Verbatim (text : String) : Prop := ∀ c ∈ text.toList, Unescaped c

theorem verbatim_append {front back : String} :
    Verbatim (front ++ back) ↔ Verbatim front ∧ Verbatim back := by
  simp only [Verbatim, String.toList_append, List.forall_mem_append]

theorem escapeQuotedChar_cases (c : Char) :
    Unescaped c ∧ Script.escapeQuotedChar c = [c] ∨
      ¬ Unescaped c ∧ (Script.escapeQuotedChar c).length = 2 := by
  unfold Script.escapeQuotedChar Unescaped
  split
  · simp [*]
  · split
    · simp [*]
    · split
      · simp [*]
      · simp [*]

theorem length_escaped (text : List Char) :
    text.length ≤ (text.flatMap Script.escapeQuotedChar).length := by
  induction text with
  | nil => simp
  | cons c rest ih =>
    rw [List.flatMap_cons, List.length_append, List.length_cons]
    rcases escapeQuotedChar_cases c with ⟨_, same⟩ | ⟨_, two⟩
    · rw [same, List.length_singleton]
      omega
    · omega

theorem escaped_eq_iff (text : List Char) :
    text.flatMap Script.escapeQuotedChar = text ↔ ∀ c ∈ text, Unescaped c := by
  induction text with
  | nil => simp
  | cons c rest ih =>
    rw [List.flatMap_cons, List.forall_mem_cons]
    rcases escapeQuotedChar_cases c with ⟨plain, same⟩ | ⟨marked, two⟩
    · rw [same, List.singleton_append, List.cons.injEq, ih]
      simp [plain]
    · -- An escape makes the text longer, and nothing makes it shorter.
      have longer := length_escaped rest
      constructor
      · intro same
        have sizes := congrArg List.length same
        rw [List.length_append, List.length_cons] at sizes
        omega
      · intro plain
        exact absurd plain.1 marked

theorem singleQuoted_eq_iff (text : String) :
    Script.singleQuoted text = "'" ++ text ++ "'" ↔ Verbatim text := by
  rw [Verbatim, ← escaped_eq_iff]
  simp [Script.singleQuoted, Script.escapeSingleQuoted, ← String.toList_inj]

theorem verbatim_stem {stem file : String} (named : IsStem stem file) :
    Verbatim ("./" ++ stem) ↔ Verbatim file := by
  have front : Verbatim "./" := by simp [Verbatim, Unescaped]
  have endings : Verbatim ".ts" ∧ Verbatim ".js" := by simp [Verbatim, Unescaped]
  rcases named with rfl | rfl | ⟨rfl, _⟩
  · simp only [verbatim_append, front, endings.1, true_and, and_true]
  · simp only [verbatim_append, front, endings.2, true_and, and_true]
  · simp only [verbatim_append, front, true_and]

def indexSpecifier : String := "./index"

structure IndexExports (document : Document) (options : ClientOptions) (fileName : Option String) :
    Prop where
  files : (generate document options fileName).files =
    [⟨options.typesFile, document.typesModule options⟩,
      ⟨(options.clientFile fileName).1, document.clientModule options typesSpecifier⟩,
      ⟨options.indexFile, joinLines
        ["// Auto-generated API SDK",
          "export * from '" ++ options.clientSpecifier fileName ++ "';",
          "export * from '" ++ typesSpecifier ++ "';"]⟩]
  client : ∀ stem, options.clientSpecifier fileName = "./" ++ stem ↔
    IsStem stem (options.clientFile fileName).1
  types : ∀ stem, typesSpecifier = "./" ++ stem ↔ IsStem stem options.typesFile
  index : ∀ stem, indexSpecifier = "./" ++ stem ↔ IsStem stem options.indexFile
  typesApart : typesSpecifier ≠ indexSpecifier
  /-- The types are exported twice, and the client is not, just if the client is to be called like the
  types but for the extension. -/
  clientTypes : options.clientSpecifier fileName = typesSpecifier ↔
    ClientOptions.requestedName fileName = some "types" ∨
      ClientOptions.requestedName fileName = some (options.fileNamedOtherwise "types")
  /-- The index exports itself just if the client is to be called like it but for the extension. -/
  clientIndex : options.clientSpecifier fileName = indexSpecifier ↔
    ClientOptions.requestedName fileName = some "index" ∨
      ClientOptions.requestedName fileName = some (options.fileNamedOtherwise "index")
  /-- The name of the client stands between quotes as escaping would write it just if nothing in the
  name of its file needs an escape. -/
  literal : Script.singleQuoted (options.clientSpecifier fileName) =
      "'" ++ options.clientSpecifier fileName ++ "'" ↔
    Verbatim (options.clientFile fileName).1

theorem fixedFile_stem (options : ClientOptions) (stem name : String)
    (bare : dropSuffix? ".ts" stem = none ∧ dropSuffix? ".js" stem = none) :
    "./" ++ stem = "./" ++ name ↔ IsStem name (options.fileNamed stem) := by
  have own : moduleSpecifier (options.fileNamed stem) = "./" ++ stem := by
    rw [moduleSpecifier_stem, isStem_iff bare]
    rcases options.fileNamed_cases stem with ⟨written, _⟩ | ⟨written, _⟩
    · simp [written]
    · simp [written]
  rw [← moduleSpecifier_stem, own]

/-- The index names the files it stands beside, and which names it confuses is told from the name that
was asked for. -/
theorem index_exports (document : Document) (options : ClientOptions) (fileName : Option String) :
    IndexExports document options fileName where
  files := rfl
  client _ := moduleSpecifier_stem
  types name := fixedFile_stem options "types" name (by decide)
  index name := fixedFile_stem options "index" name (by decide)
  typesApart := by decide
  clientTypes := options.clientSpecifier_eq_iff (.inl rfl)
  clientIndex := options.clientSpecifier_eq_iff (.inr rfl)
  literal := by
    obtain ⟨stem, named⟩ : ∃ stem, options.clientSpecifier fileName = "./" ++ stem :=
      ⟨_, rfl⟩
    rw [singleQuoted_eq_iff, named, verbatim_stem (moduleSpecifier_stem.mp named)]

theorem foreign_extension_hides_client :
    (generate {} {} (some "types.js")).files.map GeneratedFile.path =
      ["types.ts", "types.js", "index.ts"] ∧
    (generate {} {} (some "types.js")).files.getLast?.map GeneratedFile.content =
      some "// Auto-generated API SDK\nexport * from './types';\nexport * from './types';\n" ∧
    ClientOptions.clientSpecifier {} (some "types.js") = typesSpecifier :=
  ⟨by rfl, by rfl, by decide⟩

end OpenApiClient
