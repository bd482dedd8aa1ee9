import OpenApiClient.Proofs.ValidatedDocuments

/-! The order of a raw value.
The model of a value has the named parts of the value, each once and in their order; this is said of
a node and of all the nodes inside it. -/
namespace OpenApiClient

/-- The fields of a record, given by its keys or as a list of the first ones. -/
def Json.parts (keys : List String) : Json → List (String × Json)
  | object fields => fields
  | array items => keys.zip items
  | _ => []

def Json.part? (keys : List String) (key : String) (value : Json) : Option Json :=
  (value.parts keys).lookup key

def Json.reference? (value : Json) : Option String := (value.get? "$ref").bind Json.asString?

/-- Parts of a model under the names of fields, one for each field and in the order of the fields. -/
inductive NamedParts (R : Json → α → Prop) : List (String × Json) → List (String × α) → Prop where
  | nil : NamedParts R [] []
  | cons {key value a fields pairs} : R value a → NamedParts R fields pairs →
      NamedParts R ((key, value) :: fields) ((key, a) :: pairs)

inductive OptionalPart (R : Json → α → Prop) : Option Json → Option α → Prop where
  | absent : OptionalPart R none none
  | null : OptionalPart R (some .null) none
  | given {value a} : R value a → OptionalPart R (some value) (some a)

/-- A bound on further properties, which has an order inside if it is a node. -/
inductive BoundOrder (R : Json → SchemaNode → Prop) : Json → AdditionalProperties → Prop where
  | allowed {truth} : BoundOrder R (.bool truth) (.allowed truth)
  | constrained {value node} : R value node → BoundOrder R value (.constrained node)

/-- The properties of a schema, and of all schemas inside it, are in the order of the value. -/
inductive SchemaOrder : Json → SchemaNode → Prop where
  | reference {value path description} : value.reference? = some path →
      SchemaOrder value (.reference path description)
  | inline {value schema} (plain : value.reference? = none)
      (properties : NamedParts SchemaOrder (fieldsOf (value.part? Schema.keys "properties"))
        schema.properties)
      (bound : OptionalPart (BoundOrder SchemaOrder) (value.part? Schema.keys "additionalProperties")
        schema.additionalProperties)
      (items : OptionalPart SchemaOrder (value.part? Schema.keys "items") schema.items) :
      SchemaOrder value (.inline schema)

inductive ParameterOrder : Json → ParameterNode → Prop where
  | reference {value path} : value.reference? = some path → ParameterOrder value (.reference path)
  | inline {value parameter} (plain : value.reference? = none)
      (schema : OptionalPart SchemaOrder (value.part? Parameter.keys "schema") parameter.schema) :
      ParameterOrder value (.inline parameter)

def MediaOrder (value : Json) (media : MediaType) : Prop :=
  OptionalPart SchemaOrder (value.part? ["schema"] "schema") media.schema

inductive ResponseOrder : Json → ResponseNode → Prop where
  | reference {value path} : value.reference? = some path → ResponseOrder value (.reference path)
  | inline {value response} (plain : value.reference? = none)
      (content : NamedParts MediaOrder
        (fieldsOf (value.part? ["description", "content"] "content")) response.content) :
      ResponseOrder value (.inline response)

def itemsOf : Option Json → List Json
  | some (.array items) => items
  | _ => []

structure OperationOrder (value : Json) (operation : Operation) : Prop where
  parameters : List.Forall₂ ParameterOrder
    (itemsOf (value.part? Operation.shape.keys "parameters")) operation.parameters
  responses : NamedParts ResponseOrder
    (fieldsOf (value.part? Operation.shape.keys "responses")) operation.responses

def methodsNamed (fields : List (String × Json)) : List HttpMethod :=
  fields.filterMap fun field => HttpMethod.ofName? field.1

/-- The methods of a path item, each where a key names it first. -/
def methodsOf (item : Json) : List HttpMethod := (methodsNamed (fieldsOf (some item))).eraseDups

def methodField? (item : Json) (method : HttpMethod) : Option (String × Json) :=
  (fieldsOf (some item)).find? fun field => HttpMethod.ofName? field.1 = some method

/-- The operations of a path item are in the order of the keys that name their methods first. -/
structure PathOrder (value : Json) (item : PathItem) : Prop where
  methods : item.operations.map Prod.fst = methodsOf value
  each : ∀ entry ∈ item.operations, ∃ field, methodField? value entry.1 = some field ∧
    OperationOrder field.2 entry.2

def componentsPart? (raw : Json) (key : String) : Option Json :=
  (raw.part? Document.shape.keys "components").bind (·.part? Components.shape.keys key)

structure ModelOrder (raw : Json) (document : Document) : Prop where
  paths : NamedParts PathOrder (fieldsOf (raw.part? Document.shape.keys "paths")) document.paths
  schemas : NamedParts SchemaOrder (fieldsOf (componentsPart? raw "schemas"))
    document.components.schemas
  parameters : NamedParts ParameterOrder (fieldsOf (componentsPart? raw "parameters"))
    document.components.parameters
  responses : NamedParts ResponseOrder (fieldsOf (componentsPart? raw "responses"))
    document.components.responses

theorem NamedParts.keys {R : Json → α → Prop} {fields : List (String × Json)}
    {pairs : List (String × α)} (h : NamedParts R fields pairs) :
    pairs.map Prod.fst = fields.map Prod.fst := by
  induction h with
  | nil => rfl
  | cons _ _ ih => rw [List.map_cons, List.map_cons, ih]

theorem NamedParts.imp {R S : Json → α → Prop} {fields : List (String × Json)}
    {pairs : List (String × α)} (h : NamedParts R fields pairs)
    (each : ∀ field ∈ fields, ∀ a, R field.2 a → S field.2 a) : NamedParts S fields pairs := by
  induction h with
  | nil => exact .nil
  | cons first _ ih =>
    exact .cons (each _ (.head _) _ first) (ih fun field mem => each field (.tail _ mem))

theorem FieldsRead.named {d : Decoder α} {fields : List (String × Json)}
    {pairs : List (String × α)} (h : FieldsRead d fields pairs) :
    NamedParts (fun value a => d.ofJson value = .ok a) fields pairs := by
  induction h with
  | nil => exact .nil
  | @cons field pair _ _ first _ ih =>
    obtain ⟨key, value⟩ := field
    obtain ⟨_, a⟩ := pair
    obtain ⟨rfl, read⟩ := first
    exact .cons read ih

theorem parts_of_record {value : Json} {keys : List String} {fields : List (String × Json)}
    (h : value.record? keys = some fields) : fields = value.parts keys := by
  cases value with
  | object given =>
    obtain ⟨_, same⟩ := Option.ite_none_right_eq_some.mp h
    exact (Option.some.inj same).symm
  | array items =>
    obtain ⟨_, same⟩ := Option.ite_none_right_eq_some.mp h
    exact (Option.some.inj same).symm
  | _ => cases h

theorem Json.Distinct.part {value inner : Json} {keys : List String} {key : String}
    (distinct : value.Distinct) (h : value.part? keys key = some inner) : inner.Distinct := by
  have mem := lookup_mem h
  cases distinct with
  | object _ all => exact all _ mem
  | array all => exact all _ (List.of_mem_zip mem).2
  | _ => cases mem

theorem keyed_of_distinct {fields : List (String × Json)} (distinct : (Json.object fields).Distinct)
    (keys : List String) : (Json.object fields).keyed? keys = some fields := by
  have once : knownKeysOnce keys fields = true := by
    rw [knownKeysOnce, List.all_eq_true]
    intro key _
    have count := List.nodup_iff_count.mp distinct.keys key
    rw [List.count_eq_length_filter, List.filter_map, List.length_map] at count
    simpa [Function.comp_def, beq_eq_decide] using count
  rw [Json.keyed?, once]
  rfl

theorem readField_some {fields : List (String × Json)} {key : String} {missing a : α}
    {read : Json → Option α} (h : readField fields key missing read = some a) :
    (fields.lookup key = none ∧ a = missing) ∨
      ∃ value, fields.lookup key = some value ∧ read value = some a := by
  unfold readField at h
  cases found : fields.lookup key with
  | none =>
    rw [found] at h
    exact .inl ⟨rfl, (Option.some.inj h).symm⟩
  | some value =>
    rw [found] at h
    exact .inr ⟨value, rfl, h⟩

theorem mapM_named {read : Json → Option α} {fields : List (String × Json)}
    {pairs : List (String × α)}
    (h : (fields.mapM fun (key, value) => return (key, ← read value)) = some pairs) :
    NamedParts (fun value a => read value = some a) fields pairs := by
  induction fields generalizing pairs with
  | nil =>
    cases h
    exact .nil
  | cons field fields ih =>
    rw [List.mapM_cons] at h
    obtain ⟨pair, first, h⟩ := Option.bind_eq_some_iff.mp h
    obtain ⟨a, read, same⟩ := Option.bind_eq_some_iff.mp first
    obtain ⟨rest, others, same'⟩ := Option.bind_eq_some_iff.mp h
    cases same
    cases same'
    exact .cons read (ih others)

theorem readNamed_some {read : Json → Option α} {value : Json} {pairs : List (String × α)}
    (distinct : value.Distinct) (h : readNamed read value = some pairs) :
    NamedParts (fun value a => read value = some a) (fieldsOf (some value)) pairs := by
  cases value with
  | object fields =>
    obtain ⟨raw, read, same⟩ := Option.bind_eq_some_iff.mp h
    have each := mapM_named read
    have nodup : (raw.map Prod.fst).Nodup := each.keys ▸ distinct.keys
    cases same
    rw [settleFields_of_nodup nodup]
    exact each
  | _ => cases h

section Fields

variable {fields : List (String × Json)} {key : String} {value : Json}

theorem readField_named {read : Json → Option α} {R : Json → α → Prop} {pairs : List (String × α)}
    (distinct : ∀ value, fields.lookup key = some value → value.Distinct)
    (each : ∀ value, fields.lookup key = some value →
      ∀ field ∈ fieldsOf (some value), ∀ a, read field.2 = some a → R field.2 a)
    (h : readField fields key [] (readNamed read) = some pairs) :
    NamedParts R (fieldsOf (fields.lookup key)) pairs := by
  rcases readField_some h with ⟨absent, rfl⟩ | ⟨value, given, read⟩
  · rw [absent]
    exact .nil
  · have named := readNamed_some (distinct value given) read
    rw [given]
    exact named.imp (each value given)

theorem readField_option {read : Json → Option α} {R : Json → α → Prop} {part : Option α}
    (each : ∀ value, fields.lookup key = some value → ∀ a, read value = some a → R value a)
    (h : readField fields key none (readOption read) = some part) :
    OptionalPart R (fields.lookup key) part := by
  rcases readField_some h with ⟨absent, rfl⟩ | ⟨value, given, read⟩
  · rw [absent]
    exact .absent
  · rw [given]
    unfold readOption at read
    split at read
    · cases read
      exact .null
    · obtain ⟨a, there, rfl⟩ := Option.map_eq_some_iff.mp read
      exact .given (each value given a there)

end Fields

theorem referencePath_of_reference {value : Json} {path : String} (distinct : value.Distinct)
    (h : value.reference? = some path) : referencePathOfJson value = some path := by
  obtain ⟨inner, there, text⟩ := Option.bind_eq_some_iff.mp h
  obtain ⟨fields, rfl⟩ := Json.object_of_get? there
  have found : fields.lookup "$ref" = some inner := there
  rw [referencePathOfJson, keyed_of_distinct distinct]
  simp only [Option.bind_eq_bind, Option.bind_some, found, text]

theorem reference_of_keyed {value : Json} {keys : List String} {fields : List (String × Json)}
    {inner : Json} {path : String} (given : value.keyed? keys = some fields)
    (found : fields.lookup "$ref" = some inner) (text : inner.asString? = some path) :
    value.reference? = some path := by
  cases value with
  | object other =>
    obtain ⟨_, same⟩ := Option.ite_none_right_eq_some.mp given
    cases same
    change (fields.lookup "$ref").bind Json.asString? = some path
    rw [found]
    exact text
  | _ => cases given

theorem referencePath_eq {value : Json} (distinct : value.Distinct) :
    referencePathOfJson value = value.reference? := by
  cases h : referencePathOfJson value with
  | none =>
    cases refers : value.reference? with
    | none => rfl
    | some path => exact h.symm.trans (referencePath_of_reference distinct refers)
  | some path =>
    obtain ⟨fields, given, h⟩ := Option.bind_eq_some_iff.mp h
    obtain ⟨inner, found, text⟩ := Option.bind_eq_some_iff.mp h
    exact (reference_of_keyed given found text).symm

theorem SchemaNode.plain_of_inline {value : Json} {schema : Schema} (distinct : value.Distinct)
    (unreferred : referenceOfJson value = none) (read : Schema.ofJson value = some schema) :
    value.reference? = none := by
  -- A text under `$ref` with an unfit description beside it makes no schema either.
  by_contra refers
  obtain ⟨path, refers⟩ := Option.ne_none_iff_exists'.mp refers
  obtain ⟨inner, there, text⟩ := Option.bind_eq_some_iff.mp refers
  obtain ⟨fields, rfl⟩ := Json.object_of_get? there
  have found : fields.lookup "$ref" = some inner := there
  rw [Schema.ofJson_eq] at read
  simp only [Option.bind_eq_bind, Option.bind_eq_some_iff] at read
  obtain ⟨given, record, _, -, _, -, description, described, -⟩ := read
  have same : given = fields := parts_of_record record
  rw [same] at described
  rw [referenceOfJson, keyed_of_distinct distinct] at unreferred
  simp only [Option.bind_eq_bind, Option.bind_some, found, text, described] at unreferred
  cases unreferred

theorem boundOrder_of_read {R : Json → SchemaNode → Prop} {value : Json}
    {bound : AdditionalProperties} (read : AdditionalProperties.ofJson value = some bound)
    (each : ∀ node, SchemaNode.ofJson value = some node → R value node) :
    BoundOrder R value bound := by
  unfold AdditionalProperties.ofJson at read
  split at read
  · cases read
    exact .allowed
  · obtain ⟨node, there, rfl⟩ := Option.map_eq_some_iff.mp read
    exact .constrained (each node there)

theorem sizeOf_lt_of_fieldsOf {value : Json} {field : String × Json}
    (mem : field ∈ fieldsOf (some value)) : sizeOf field.2 < sizeOf value := by
  cases value with
  | object fields => exact Json.sizeOf_lt_of_field mem
  | _ => cases mem

theorem SchemaNode.ofJson_order {value : Json} {node : SchemaNode} (distinct : value.Distinct)
    (h : SchemaNode.ofJson value = some node) : SchemaOrder value node := by
  -- On the size of the value, as nodes are parts of fields and of bounds.
  induction size : sizeOf value using Nat.strongRecOn generalizing value node with
  | ind n ih =>
    subst size
    rw [SchemaNode.ofJson] at h
    cases reference : referenceOfJson value with
    | some found =>
      rw [reference] at h
      cases h
      obtain ⟨fields, given, read⟩ := Option.bind_eq_some_iff.mp reference
      obtain ⟨inner, there, read⟩ := Option.bind_eq_some_iff.mp read
      obtain ⟨path, text, read⟩ := Option.bind_eq_some_iff.mp read
      obtain ⟨description, _, same⟩ := Option.bind_eq_some_iff.mp read
      cases same
      exact .reference (reference_of_keyed given there text)
    | none =>
      rw [reference] at h
      obtain ⟨schema, read, rfl⟩ := Option.map_eq_some_iff.mp h
      have plain := plain_of_inline distinct reference read
      rw [Schema.ofJson_eq] at read
      simp only [Option.bind_eq_bind, Option.bind_eq_some_iff, Option.pure_def,
        Option.some.injEq] at read
      obtain ⟨fields, given, _, -, _, -, _, -, _, -, _, -, properties, named, bound, bounded, items,
        listed, rfl⟩ := read
      have smaller {key : String} {part : Json} (there : fields.lookup key = some part) :
          sizeOf part < sizeOf value := Json.sizeOf_lt_of_record given there
      obtain rfl := parts_of_record given
      refine .inline plain ?_ ?_ ?_
      · refine readField_named (fun _ => distinct.part) (fun part there field mem a read => ?_) named
        have inside := fieldsOf_distinct (fun _ same => Option.some.inj same ▸ distinct.part there) mem
        exact ih _ (Nat.lt_trans (sizeOf_lt_of_fieldsOf mem) (smaller there)) inside read rfl
      · refine readField_option (fun part there a read => boundOrder_of_read read ?_) bounded
        intro node read
        exact ih _ (smaller there) (distinct.part there) read rfl
      · exact readField_option (fun part there a read =>
          ih _ (smaller there) (distinct.part there) read rfl) listed

end OpenApiClient
