import OpenApiClient.Model.Reading
import OpenApiClient.Proofs.ClientPieces
import OpenApiClient.Proofs.NameWords
import OpenApiClient.Proofs.OperationWalk
import OpenApiClient.Validation

/-! The members of the client class.
The class is written member after member: those that every class has, and then one method for each
operation that has one. A method is called what its operation is called, letter for letter. -/
namespace OpenApiClient

structure Member where
  name : String
  lines : List String

def EmittedMethod.member (emitted : EmittedMethod) (options : ClientOptions) : Member :=
  ⟨emitted.method.name, ["", emitted.method.source options]⟩

/-- The members of every class. Plain output declares no field; its constructor makes it. -/
def ownMembers (options : ClientOptions) (baseUrl : String) : List Member :=
  [⟨"client", if options.typed then ["  private client: AxiosInstance;", ""] else []⟩,
    ⟨"constructor",
      ["  constructor(baseURL" ++ annotation options "string" ++ " = "
          ++ Script.singleQuoted baseUrl ++ ") \x7b",
        "    this.client = axios.create(\x7b",
        "      baseURL,",
        "      headers: \x7b",
        "        'Content-Type': 'application/json',",
        "      \x7d,",
        "    \x7d);",
        "  \x7d"]⟩,
    ⟨"setAuthToken",
      ["",
        "  setAuthToken(token" ++ annotation options "string" ++ ")" ++ annotation options "void"
          ++ " \x7b",
        "    this.client.defaults.headers.common['Authorization'] = `Bearer $\x7btoken\x7d`;",
        "  \x7d"]⟩]

def ownNames : List String := ["client", "constructor", "setAuthToken"]

def Document.members (document : Document) (options : ClientOptions) : List Member :=
  ownMembers options (document.serverUrl?.getD defaultBaseUrl)
    ++ document.emission.methods.map (·.member options)

def Document.classHead (document : Document) (options : ClientOptions) (typesModule : String) :
    List String :=
  ["// Auto-generated API client from OpenAPI specification"]
    ++ importLines document.emission options typesModule
    ++ ["", "export class " ++ options.clientName ++ " \x7b"]

def ClientOptions.classEnd (options : ClientOptions) : List String :=
  ["\x7d", "",
    "export const " ++ options.instanceName ++ " = new " ++ options.clientName ++ "();"]

theorem Document.clientLines_members (document : Document) (options : ClientOptions)
    (typesModule : String) :
    document.clientLines options typesModule =
      document.classHead options typesModule ++ (document.members options).flatMap Member.lines
        ++ options.classEnd := by
  have own : fixedMembers options (document.serverUrl?.getD defaultBaseUrl) =
      (ownMembers options (document.serverUrl?.getD defaultBaseUrl)).flatMap Member.lines := by
    simp [fixedMembers, ownMembers]
  have methods : (document.emission.methods.map (·.member options)).flatMap Member.lines =
      document.emission.methods.flatMap fun emitted => ["", emitted.method.source options] := by
    rw [List.flatMap_map]
    rfl
  rw [members, List.flatMap_append, ← own, methods]
  simp only [clientLines, classHead, ClientOptions.classEnd, List.append_assoc]

theorem Document.members_names (document : Document) (options : ClientOptions) :
    (document.members options).map Member.name =
      ownNames ++ document.emission.methods.map (·.method.name) := by
  rw [members, List.map_append, List.map_map]
  rfl

theorem exists_firstUse {document : Document} {id : String} (nonempty : id ≠ "")
    (occurs : OccursIn id document.endpoints) : ∃ endpoint, FirstUse document endpoint id := by
  have found : (document.endpoints.find? (·.operation.operationId = some id)).isSome = true := by
    obtain ⟨endpoint, mem, identified⟩ := occurs
    rw [List.find?_isSome]
    exact ⟨endpoint, mem, decide_eq_true identified⟩
  obtain ⟨endpoint, here⟩ := Option.isSome_iff_exists.mp found
  obtain ⟨identified, before, after, split, earlier⟩ := List.find?_eq_some_iff_append.mp here
  refine ⟨endpoint, nonempty, of_decide_eq_true identified, before, after, split, ?_⟩
  rintro ⟨other, mem, same⟩
  simpa [same] using earlier other mem

theorem mem_methodNames {document : Document} {name : String} :
    name ∈ document.emission.methods.map (·.method.name) ↔
      name ≠ "" ∧ OccursIn name document.endpoints := by
  rw [List.mem_map]
  constructor
  · rintro ⟨emitted, mem, rfl⟩
    obtain ⟨endpoint, use, _⟩ := mem_emission.mp mem
    obtain ⟨before, after, split, _⟩ := use.first
    exact ⟨use.nonempty, endpoint, by simp [split], use.identified⟩
  · rintro ⟨nonempty, occurs⟩
    obtain ⟨endpoint, use⟩ := exists_firstUse nonempty occurs
    obtain ⟨emitted, made, called⟩ := emit_of_identifier document.components endpoint.verb
      endpoint.path (identifier_eq_some.mpr ⟨use.identified, use.nonempty⟩)
    exact ⟨emitted, mem_emission.mpr ⟨endpoint, called ▸ use, made⟩, called⟩

structure MembersNamed (document : Document) (options : ClientOptions) (typesModule : String)
    (alphabet : Alphabet) : Prop where
  text : document.clientLines options typesModule =
    document.classHead options typesModule ++ (document.members options).flatMap Member.lines
      ++ options.classEnd
  declared : ∀ emitted ∈ document.emission.methods, ∃ rest, (emitted.member options).lines =
    ["", joinLines (["  /**"] ++ emitted.method.commentLines options.typed ++ ["   */"])
      ++ "  async " ++ emitted.method.name ++ "(" ++ rest]
  names : (document.members options).map Member.name =
    ownNames ++ document.emission.methods.map (·.method.name)
  identifiers : ∀ name, name ∈ document.emission.methods.map (·.method.name) ↔
    name ≠ "" ∧ OccursIn name document.endpoints
  /-- The names of methods are legal just if the identifiers of the document are. -/
  legal : (∀ emitted ∈ document.emission.methods, alphabet.IsName emitted.method.name) ↔
    ∀ id, id ≠ "" → OccursIn id document.endpoints → alphabet.IsName id
  /-- No two members share a name just if no operation is called like a member of every class. -/
  distinct : ((document.members options).map Member.name).Nodup ↔
    ∀ name ∈ ownNames, ¬ OccursIn name document.endpoints

theorem class_members_named (document : Document) (options : ClientOptions) (typesModule : String)
    (alphabet : Alphabet) : MembersNamed document options typesModule alphabet where
  text := document.clientLines_members options typesModule
  declared := by
    intro emitted _
    rw [EmittedMethod.member, Method.source, Method.lines, intercalate_lines]
    refine ⟨signatureText options.typed emitted.method.formals ++ ")"
      ++ (if options.typed then ": " ++ emitted.method.returnType options.unwrapResponseData else "")
      ++ " \x7b" ++ "\n" ++ joinLines emitted.method.queryLines
      ++ joinLines (emitted.method.returnLines options.unwrapResponseData) ++ "  \x7d", ?_⟩
    simp only [joinLines_append, joinLines_cons, joinLines_nil, Method.headLine, String.append_assoc,
      String.append_empty]
  names := document.members_names options
  identifiers _ := mem_methodNames
  legal := by
    constructor
    · intro h id nonempty occurs
      obtain ⟨emitted, mem, rfl⟩ := List.mem_map.mp (mem_methodNames.mpr ⟨nonempty, occurs⟩)
      exact h emitted mem
    · intro h emitted mem
      obtain ⟨nonempty, occurs⟩ := mem_methodNames.mp (List.mem_map_of_mem mem)
      exact h _ nonempty occurs
  distinct := by
    have own : ownNames.Nodup ∧ ∀ name ∈ ownNames, name ≠ "" := by decide
    have emitted : (document.emission.methods.map (·.method.name)).Nodup :=
      (emitFrom_names document.components [] document.endpoints).2
    rw [document.members_names, List.nodup_append']
    constructor
    · rintro ⟨_, _, apart⟩ name mem occurs
      exact apart mem (mem_methodNames.mpr ⟨own.2 name mem, occurs⟩)
    · intro h
      refine ⟨own.1, emitted, ?_⟩
      intro name mem taken
      exact h name mem (mem_methodNames.mp taken).2

def hyphenValue : Json :=
  let operation (id : String) : Json :=
    .object [("operationId", .string id), ("responses", .object [])]
  .object [("openapi", .string "3.0.0"),
    ("info", .object [("title", .string "Users"), ("version", .string "1")]),
    ("paths", .object [("/users",
      .object [("get", operation "list-users"), ("post", operation "constructor")])])]

def hyphenDocument : Document where
  openapi := "3.0.0"
  info := { title := "Users", version := "1" }
  paths := [("/users", ⟨[(.get, { operationId := some "list-users" }),
    (.post, { operationId := some "constructor" })]⟩)]

theorem hyphen_names_emitted : (validate hyphenValue).toBool = true ∧
    Document.ofJson hyphenValue = .ok hyphenDocument ∧
    (∃ emitted ∈ hyphenDocument.emission.methods,
      ∀ alphabet : Alphabet, ¬ alphabet.IsName emitted.method.name) ∧
    ¬ ((hyphenDocument.members {}).map Member.name).Nodup := by
  have names : hyphenDocument.emission.methods.map (·.method.name) =
      ["list-users", "constructor"] := by decide +kernel
  refine ⟨by decide +kernel, by rfl, ?_, ?_⟩
  · have listed : "list-users" ∈ hyphenDocument.emission.methods.map (·.method.name) := by
      simp [names]
    obtain ⟨emitted, mem, called⟩ := List.mem_map.mp listed
    refine ⟨emitted, mem, ?_⟩
    intro alphabet legal
    rw [called, Alphabet.isName_ascii (by decide)] at legal
    exact absurd legal (by decide)
  · rw [Document.members_names, names]
    decide

end OpenApiClient
