import OpenApiClient.Proofs.ModelOrder
import OpenApiClient.Proofs.OperationWalk

/-! The order of a document, end to end.
The model keeps the order of the raw value, and the declarations, their property lines and the
methods are written in the order of the model. -/
namespace OpenApiClient

def ownProperties (schema : Json) : List (String × Json) :=
  match schema.reference? with
  | some _ => []
  | none => fieldsOf (schema.part? Schema.keys "properties")

def Property.line (typed : Bool) (property : Property) : String :=
  if typed then property.fieldLine else property.tagLine

def PropertyLine (typed : Bool) (field : String × Json) (line : String) : Prop :=
  ∃ property : Property, property.name = field.1 ∧ line = property.line typed

/-- The lines of one declaration: its head, a line for each property in the order of the raw schema,
and what closes it. -/
def DeclarationBlock (typed : Bool) (schema : String × Json) (block : List String) : Prop :=
  ∃ lines, block = (if typed then [""] else ["", "/**"]) ++
      declarationHead typed schema.1 :: lines ++ [if typed then "\x7d" else " */"] ∧
    List.Forall₂ (PropertyLine typed) (ownProperties schema.2) lines

theorem Declaration.lines_eq (declaration : Declaration) (typed : Bool) :
    declaration.lines typed = (if typed then [""] else ["", "/**"]) ++
      declarationHead typed declaration.name :: declaration.properties.map (Property.line typed) ++
      [if typed then "\x7d" else " */"] := by
  cases typed with
  | true => rfl
  | false =>
    have head : " * @typedef \x7bObject\x7d " ++ declaration.name =
        declarationHead false declaration.name := by
      simp [declarationHead, headStart]
    rw [lines, if_neg Bool.false_ne_true, head]
    rfl

theorem propertyLines (typed : Bool) {R : Json → SchemaNode → Prop} {fields : List (String × Json)}
    {properties : List (String × SchemaNode)} (h : NamedParts R fields properties)
    {shown : String × SchemaNode → Property} (named : ∀ entry, (shown entry).name = entry.1) :
    List.Forall₂ (PropertyLine typed) fields ((properties.map shown).map (Property.line typed)) := by
  induction h with
  | nil => exact .nil
  | @cons key _ node _ _ _ _ ih => exact .cons ⟨shown (key, node), named _, rfl⟩ ih

theorem declaration_block (typed : Bool) {name : String} {value : Json} {node : SchemaNode}
    (order : SchemaOrder value node) :
    DeclarationBlock typed (name, value) ((Declaration.mk name node.properties).lines typed) := by
  refine ⟨_, Declaration.lines_eq _ typed, ?_⟩
  cases order with
  | reference refers =>
    rw [ownProperties, refers]
    exact .nil
  | inline plain properties =>
    rw [ownProperties, plain]
    exact propertyLines typed properties fun _ => rfl

theorem declaration_blocks (typed : Bool) {fields : List (String × Json)}
    {schemas : List (String × SchemaNode)} (order : NamedParts SchemaOrder fields schemas) :
    List.Forall₂ (DeclarationBlock typed) fields
      (schemas.map fun (name, node) => (Declaration.mk name node.properties).lines typed) := by
  induction order with
  | nil => exact .nil
  | cons first _ ih => exact .cons (declaration_block typed first) ih

def endpointsOf (raw : Json) : List (String × HttpMethod) :=
  (fieldsOf (raw.part? Document.shape.keys "paths")).flatMap fun field =>
    (methodsOf field.2).map fun method => (field.1, method)

theorem endpoints_order {fields : List (String × Json)} {paths : List (String × PathItem)}
    (order : NamedParts PathOrder fields paths) :
    (paths.flatMap fun (path, item) =>
        item.operations.map fun (verb, operation) => Endpoint.mk path verb operation).map
          (fun endpoint => (endpoint.path, endpoint.verb)) =
      fields.flatMap fun field => (methodsOf field.2).map fun method => (field.1, method) := by
  induction order with
  | nil => rfl
  | cons first _ ih =>
    rw [List.flatMap_cons, List.map_append, ih, List.flatMap_cons, ← first.methods]
    simp only [List.map_map]
    rfl

theorem alone_place {components : Components} {endpoint : Endpoint} {emitted : EmittedMethod}
    (h : endpoint.alone components = some emitted) :
    (emitted.method.path, emitted.method.verb) = (endpoint.path, endpoint.verb) := by
  obtain ⟨name, _, rfl⟩ := Option.map_eq_some_iff.mp h
  rfl

theorem filterMap_sublist {f : α → Option β} {place : β → γ} {place' : α → γ}
    (same : ∀ a b, f a = some b → place b = place' a) (items : List α) :
    ((items.filterMap f).map place).Sublist (items.map place') := by
  induction items with
  | nil => exact .slnil
  | cons a items ih =>
    cases found : f a with
    | none =>
      rw [List.filterMap_cons_none found]
      exact ih.cons _
    | some b =>
      rw [List.filterMap_cons_some found, List.map_cons, List.map_cons, same a b found]
      exact ih.cons_cons _

theorem nodup_eraseDups (methods : List HttpMethod) : methods.eraseDups.Nodup := by
  -- On the length, as each step filters the rest.
  induction length : methods.length using Nat.strongRecOn generalizing methods with
  | ind n ih =>
    subst length
    cases methods with
    | nil => exact List.nodup_nil
    | cons method rest =>
      have shorter : (rest.filter fun other => !other == method).length < (method :: rest).length :=
        Nat.lt_succ_of_le (List.length_filter_le _ _)
      rw [List.eraseDups_cons, List.nodup_cons, List.mem_eraseDups]
      exact ⟨by simp, ih _ shorter _ rfl⟩

theorem endpointsOf_nodup {raw : Json} (distinct : raw.Distinct) : (endpointsOf raw).Nodup := by
  have keys : ((fieldsOf (raw.part? Document.shape.keys "paths")).map Prod.fst).Nodup :=
    fieldsOf_nodup fun _ => distinct.part
  refine List.nodup_flatMap.mpr ⟨fun field _ => ?_, ?_⟩
  · exact (nodup_eraseDups _).map fun _ _ same => congrArg Prod.snd same
  · refine (List.pairwise_map.mp keys).imp fun {a b} differ => ?_
    intro place here there
    obtain ⟨_, _, rfl⟩ := List.mem_map.mp here
    obtain ⟨_, _, same⟩ := List.mem_map.mp there
    exact differ (congrArg Prod.fst same).symm

structure OrderKept (raw : Json) (document : Document) : Prop where
  model : ModelOrder raw document
  declarations : ∀ options : ClientOptions, ∃ blocks,
    document.typesLines options = "// Auto-generated types from OpenAPI specification" ::
      blocks.flatten ++ (if options.typed then [] else ["", "export \x7b\x7d;"]) ∧
    List.Forall₂ (DeclarationBlock options.typed) (fieldsOf (componentsPart? raw "schemas")) blocks
  /-- No operation has the place of another, so a sublist of the places is in one order only. -/
  places : (endpointsOf raw).Nodup
  methods : (document.emission.methods.map fun emitted =>
    (emitted.method.path, emitted.method.verb)).Sublist (endpointsOf raw)
  sources : ∀ (options : ClientOptions) (typesModule : String), ∃ before after,
    document.clientLines options typesModule = before ++
      (document.emission.methods.flatMap fun emitted => ["", emitted.method.source options]) ++ after

/-- The keys of an object are distinct, as parsing leaves them (`Json.parse_sound`). -/
theorem document_order_kept {raw : Json} {document : Document} (distinct : raw.Distinct)
    (read : Document.ofJson raw = .ok document) : OrderKept raw document where
  model := Document.ofJson_order distinct read
  declarations := by
    intro options
    have order := (Document.ofJson_order distinct read).schemas
    refine ⟨_, ?_, declaration_blocks options.typed order⟩
    rw [Document.typesLines, Document.declarations, List.flatMap_map, List.flatMap_def]
    rfl
  places := endpointsOf_nodup distinct
  methods := by
    have order := endpoints_order (Document.ofJson_order distinct read).paths
    have emitted := emitFrom_sublist document.components [] document.endpoints
    have places := (emitted.map fun emitted => (emitted.method.path, emitted.method.verb)).trans
      (filterMap_sublist (fun _ _ => alone_place) document.endpoints)
    exact places.trans (by rw [Document.endpoints, order]; exact .refl _)
  sources := by
    intro options typesModule
    exact ⟨_, _, rfl⟩

def scatteredDocument : Json :=
  .object [("paths", .object [
    ("/b", .object [("post", .object []), ("GET", .object [("operationId", .string "first")]),
      ("get", .object [("operationId", .string "late")])]),
    ("/a", .object [("put", .object [("operationId", .string "second")])])])]

theorem scatteredDocument_order : ∃ document, scatteredDocument.Distinct ∧
    Document.ofJson scatteredDocument = .ok document ∧ OrderKept scatteredDocument document ∧
      endpointsOf scatteredDocument = [("/b", .post), ("/b", .get), ("/a", .put)] := by
  have single (key : String) {value : Json} (h : value.Distinct) :
      (Json.object [(key, value)]).Distinct := .object (by simp) (by simpa using h)
  have named (name : String) : (Json.object [("operationId", .string name)]).Distinct :=
    single "operationId" .string
  have empty : (Json.object []).Distinct := .object List.nodup_nil (by simp)
  have first : (Json.object [("post", .object []), ("GET", .object [("operationId", .string "first")]),
      ("get", .object [("operationId", .string "late")])]).Distinct :=
    .object (by decide) (by simp [empty, named])
  have distinct : scatteredDocument.Distinct :=
    single "paths" (.object (by decide) (by simp [first, single "put" (named "second")]))
  have read : Document.ofJson scatteredDocument = .ok {
      paths := [("/b", ⟨[(.post, {}), (.get, { operationId := some "first" })]⟩),
        ("/a", ⟨[(.put, { operationId := some "second" })]⟩)] } := rfl
  exact ⟨_, distinct, read, document_order_kept distinct read, rfl⟩

end OpenApiClient
