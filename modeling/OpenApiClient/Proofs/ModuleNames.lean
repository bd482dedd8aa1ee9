import OpenApiClient.Proofs.ClassMembers
import OpenApiClient.Proofs.ClientImports

/-! The names that a client module binds.
The library, the document and the configured name of the class each give names to one scope, and the
name of the instance is made from that of the class. What can go wrong is told from those sources. -/
namespace OpenApiClient

def Capital (c : Char) : Prop := 0x41 ≤ c.toNat ∧ c.toNat ≤ 0x5A

instance (c : Char) : Decidable (Capital c) := inferInstanceAs (Decidable (_ ∧ _))

theorem lowerStart_not_capital {c d : Char} (h : Text.LowerStart c d) : ¬ Capital d := by
  by_cases low : c.toNat < 0x80
  · have form : ¬ Capital c.toLower := by
      apply Text.of_ascii _ low
      decide +kernel
    obtain rfl := h.of_ascii low
    exact form
  · cases h with
    | lower h =>
      have past := Text.lower_bound (by omega) (List.mem_of_head? h)
      rintro ⟨first, last⟩
      omega
    | finalSigma _ => decide

theorem lowerCamel_ne {name text : String} {c : Char} {rest : List Char}
    (letters : text.toList = c :: rest) (capital : Capital c) : Text.lowerCamel name ≠ text := by
  intro same
  have begins := Text.lowerCamel_start name
  split at begins
  · rw [begins] at same
    rw [← same] at letters
    cases letters
  · obtain ⟨d, after, spelled, form⟩ := begins
    rw [same, letters] at spelled
    obtain ⟨rfl, _⟩ := List.cons.inj spelled
    exact lowerStart_not_capital form capital

def ClientOptions.libraryTypes (options : ClientOptions) : List String :=
  if options.typed then
    if options.unwrapResponseData then ["AxiosInstance"] else ["AxiosInstance", "AxiosResponse"]
  else []

def Document.typeImports (document : Document) (options : ClientOptions) : List String :=
  if options.typed then document.emission.importedTypes else []

def Document.moduleNames (document : Document) (options : ClientOptions) : List String :=
  ["axios"] ++ options.libraryTypes ++ document.typeImports options
    ++ [options.clientName, options.instanceName]

def ClientOptions.libraryImport (options : ClientOptions) : String :=
  "import axios" ++ (if options.libraryTypes.isEmpty then "" else
    ", \x7b " ++ ", ".intercalate options.libraryTypes ++ " \x7d") ++ " from 'axios';"

theorem importLines_names (document : Document) (options : ClientOptions) (typesModule : String) :
    importLines document.emission options typesModule = [options.libraryImport]
      ++ if (document.typeImports options).isEmpty then [] else
        ["import type \x7b " ++ ", ".intercalate (document.typeImports options) ++ " \x7d from '"
          ++ typesModule ++ "';"] := by
  unfold importLines ClientOptions.libraryImport Document.typeImports ClientOptions.libraryTypes
  cases options.typed with
  | false => rfl
  | true =>
    cases options.unwrapResponseData with
    | false => rfl
    | true => rfl

theorem instanceName_library {options : ClientOptions} :
    options.instanceName ∉ options.libraryTypes := by
  have first : options.instanceName ≠ "AxiosInstance" := lowerCamel_ne rfl (by decide)
  have second : options.instanceName ≠ "AxiosResponse" := lowerCamel_ne rfl (by decide)
  unfold ClientOptions.libraryTypes
  cases options.typed with
  | false => simp
  | true => cases options.unwrapResponseData <;> simp [first, second]

/-- One name from two sources. -/
inductive NameClash (document : Document) (options : ClientOptions) : Prop where
  | library : options.clientName ∈ "axios" :: options.libraryTypes → NameClash document options
  | libraryInstance : options.instanceName = "axios" → NameClash document options
  | itself : options.instanceName = options.clientName → NameClash document options
  | reference {endpoint id reference} : options.typed = true → FirstUse document endpoint id →
      endpoint.operation.Shows document.components reference →
      referenceName reference ∈
        "axios" :: options.libraryTypes ++ [options.clientName, options.instanceName] →
      NameClash document options

theorem mem_typeImports {document : Document} {options : ClientOptions} {name : String} :
    name ∈ document.typeImports options ↔ options.typed = true ∧ ∃ endpoint id reference,
      FirstUse document endpoint id ∧ endpoint.operation.Shows document.components reference ∧
        referenceName reference = name := by
  unfold Document.typeImports
  cases options.typed with
  | true => simp [mem_importedTypes_source]
  | false => simp

theorem typeImports_nodup (document : Document) (options : ClientOptions) :
    (document.typeImports options).Nodup := by
  unfold Document.typeImports
  split
  · exact (sortedNames_pairwise _).imp ne_of_lt
  · exact List.nodup_nil

theorem libraryTypes_nodup (options : ClientOptions) : ("axios" :: options.libraryTypes).Nodup := by
  unfold ClientOptions.libraryTypes
  split
  · split <;> decide
  · decide

theorem moduleNames_nodup (document : Document) (options : ClientOptions) :
    (document.moduleNames options).Nodup ↔ ¬ NameClash document options := by
  have shape : document.moduleNames options = "axios" :: options.libraryTypes
      ++ (document.typeImports options ++ [options.clientName, options.instanceName]) := by
    simp [Document.moduleNames]
  rw [shape, List.nodup_append', List.nodup_append']
  constructor
  · rintro ⟨_, ⟨_, pair, typesApart⟩, libraryApart⟩ clash
    cases clash with
    | library mem => exact libraryApart mem (by simp)
    | libraryInstance same => exact libraryApart List.mem_cons_self (by simp [same])
    | itself same => simp [same] at pair
    | reference typed use shows mem =>
      have imported := mem_typeImports.mpr ⟨typed, _, _, _, use, shows, rfl⟩
      rcases List.mem_append.mp mem with mem | mem
      · exact libraryApart mem (List.mem_append_left _ imported)
      · exact typesApart imported mem
  · intro apart
    have imported : ∀ name ∈ document.typeImports options, name ∉
        "axios" :: options.libraryTypes ++ [options.clientName, options.instanceName] := by
      intro name mem taken
      obtain ⟨typed, endpoint, id, reference, use, shows, rfl⟩ := mem_typeImports.mp mem
      exact apart (.reference typed use shows taken)
    refine ⟨libraryTypes_nodup options, ⟨typeImports_nodup document options, ?_, ?_⟩, ?_⟩
    · have distinct : options.clientName ≠ options.instanceName := fun same =>
        apart (.itself same.symm)
      simp [distinct]
    · intro name mem taken
      exact imported name mem (List.mem_append_right _ taken)
    · intro name mem taken
      rcases List.mem_append.mp taken with taken | taken
      · exact imported name taken (List.mem_append_left _ mem)
      · simp only [List.mem_cons, List.not_mem_nil, or_false] at taken
        rcases taken with rfl | rfl
        · exact apart (.library mem)
        · rcases List.mem_cons.mp mem with same | mem
          · exact apart (.libraryInstance same)
          · exact instanceName_library mem

theorem capital_instance {alphabet : Alphabet} {options : ClientOptions} {c : Char} {rest : List Char}
    (named : alphabet.IsName options.clientName) (letters : options.clientName.toList = c :: rest)
    (capital : Capital c) :
    alphabet.IsName options.instanceName ∧ options.instanceName ≠ options.clientName := by
  have low : c.toNat < 0x80 := by
    have last := capital.2
    omega
  have word : Capital c → c.isAlphanum = true := by
    apply Text.of_ascii _ low
    decide +kernel
  refine ⟨?_, lowerCamel_ne letters capital⟩
  rw [ClientOptions.instanceName, Alphabet.isName_lowerCamel named]
  obtain ⟨first, others, spelled, start, _⟩ := named
  obtain ⟨rfl, _⟩ := List.cons.inj (letters.symm.trans spelled)
  refine ⟨c, ?_, start⟩
  rw [letters, List.find?_cons_of_pos]
  rw [Text.isAlphanumeric_of_ascii low]
  exact word capital

structure ModuleNamed (document : Document) (options : ClientOptions) (typesModule : String)
    (alphabet : Alphabet) : Prop where
  text : document.clientLines options typesModule =
    ["// Auto-generated API client from OpenAPI specification", options.libraryImport]
      ++ (if (document.typeImports options).isEmpty then [] else
        ["import type \x7b " ++ ", ".intercalate (document.typeImports options) ++ " \x7d from '"
          ++ typesModule ++ "';"])
      ++ ["", "export class " ++ options.clientName ++ " \x7b"]
      ++ (document.members options).flatMap Member.lines
      ++ ["\x7d", "",
        "export const " ++ options.instanceName ++ " = new " ++ options.clientName ++ "();"]
  distinct : (document.moduleNames options).Nodup ↔ ¬ NameClash document options
  /-- The instance has a legal name just if the first letter or digit of the class name may start one
  and the name is no word of the language. -/
  legal : alphabet.IsName options.instanceName ∧ options.instanceName ∉ Script.reservedWords ↔
    (∃ c, options.clientName.toList.find? Text.isAlphanumeric = some c ∧ alphabet.starts c = true) ∧
      Text.lowerCamel options.clientName ∉ Script.reservedWords
  capital : ∀ c rest, options.clientName.toList = c :: rest → Capital c →
    alphabet.IsName options.instanceName ∧ options.instanceName ≠ options.clientName

theorem module_names (document : Document) (options : ClientOptions) (typesModule : String)
    (alphabet : Alphabet) (named : alphabet.IsName options.clientName) :
    ModuleNamed document options typesModule alphabet where
  text := by
    rw [document.clientLines_members, Document.classHead, importLines_names,
      ClientOptions.classEnd]
    simp only [List.append_assoc, List.cons_append, List.nil_append]
  distinct := moduleNames_nodup document options
  legal := by
    rw [ClientOptions.instanceName, Alphabet.isName_lowerCamel named]
  capital _ _ letters first := capital_instance named letters first

def listValue : Json :=
  .object [("openapi", .string "3.0.0"),
    ("info", .object [("title", .string "Users"), ("version", .string "1")]),
    ("paths", .object [("/users", .object [("get", .object
      [("operationId", .string "listUsers"), ("responses", .object [])])])])]

def listDocument : Document where
  openapi := "3.0.0"
  info := { title := "Users", version := "1" }
  paths := [("/users", ⟨[(.get, { operationId := some "listUsers" })]⟩)]

def classOptions : ClientOptions := { clientName := "Class" }

def axiosOptions : ClientOptions := { clientName := "Axios" }

theorem class_module_names : Alphabet.ascii.IsName classOptions.clientName ∧
    ModuleNamed listDocument classOptions "./types" .ascii := by
  have named : Alphabet.ascii.IsName classOptions.clientName :=
    (Alphabet.isName_ascii (by decide)).mpr (by decide)
  exact ⟨named, module_names listDocument classOptions "./types" .ascii named⟩

/-- Two legal names of a class, one whose instance is called by a word of the language and one whose
instance is called like the library. -/
theorem legal_classes_clash : (validate listValue).toBool = true ∧
    Document.ofJson listValue = .ok listDocument ∧
    (∀ alphabet : Alphabet, alphabet.IsName classOptions.clientName ∧
      alphabet.IsName axiosOptions.clientName) ∧
    classOptions.clientName ∉ Script.reservedWords ∧ axiosOptions.clientName ∉ Script.reservedWords ∧
    classOptions.instanceName ∈ Script.reservedWords ∧
    ¬ (listDocument.moduleNames axiosOptions).Nodup := by
  refine ⟨by decide +kernel, by rfl, ?_, by decide, by decide, by decide +kernel, by decide +kernel⟩
  intro alphabet
  constructor
  · exact (Alphabet.isName_ascii (by decide)).mpr (by decide)
  · exact (Alphabet.isName_ascii (by decide)).mpr (by decide)

end OpenApiClient
