import OpenApiClient.Json.Decoder
import OpenApiClient.Model.Document

/-! Documents read from values.
Schemas, parameters and responses have alternatives, so a value that fits none is refused as a whole
and only the success or failure of each part counts; the records above them name the first field that
does not fit. A record may be given by its keys or as the list of its first fields in order, a
reference by keys only. In a path item each key that names a method has to hold an operation, and of
several keys naming one method the first counts. -/
namespace OpenApiClient

def knownKeysOnce (keys : List String) (fields : List (String × Json)) : Bool :=
  keys.all fun key => (fields.filter fun field => field.1 = key).length ≤ 1

/-- The fields of a record with these keys, whichever way it is given. -/
def Json.record? (keys : List String) : Json → Option (List (String × Json))
  | object fields => if knownKeysOnce keys fields then some fields else none
  | array items => if items.length ≤ keys.length then some (keys.zip items) else none
  | _ => none

def Json.keyed? (keys : List String) : Json → Option (List (String × Json))
  | object fields => if knownKeysOnce keys fields then some fields else none
  | _ => none

def readField (fields : List (String × Json)) (key : String) (missing : α)
    (read : Json → Option α) : Option α :=
  match fields.lookup key with
  | none => some missing
  | some value => read value

def readOption (read : Json → Option α) : Json → Option (Option α)
  | .null => some none
  | value => (read value).map some

def readList (read : Json → Option α) : Json → Option (List α)
  | .array items => items.mapM read
  | _ => none

theorem Json.sizeOf_lt_of_record {keys : List String} {value inner : Json}
    {fields : List (String × Json)} {key : String}
    (h : value.record? keys = some fields) (hk : fields.lookup key = some inner) :
    sizeOf inner < sizeOf value := by
  have hmem : ∀ l : List (String × Json), l.lookup key = some inner → (key, inner) ∈ l := by
    intro l
    induction l with
    | nil => simp
    | cons p rest ih =>
      intro hl
      obtain ⟨k, v⟩ := p
      simp only [List.lookup_cons] at hl
      split at hl
      · rename_i heq
        simp at hl heq
        simp [hl, heq]
      · exact List.mem_cons_of_mem _ (ih hl)
  unfold Json.record? at h
  split at h
  · split at h
    · simp only [Option.some.injEq] at h
      subst h
      have := List.sizeOf_lt_of_mem (hmem _ hk)
      simp at this ⊢
      omega
    · simp at h
  · split at h
    · simp only [Option.some.injEq] at h
      subst h
      have := List.sizeOf_lt_of_mem (List.of_mem_zip (hmem _ hk)).2
      simp at this ⊢
      omega
    · simp at h
  · simp at h

def DeclaredType.ofJson : Json → Option DeclaredType
  | .string name => some (.single (.ofName name))
  | .array items => do
    let names ← items.mapM Json.asString?
    pure (.several (names.map SchemaType.ofName))
  | _ => none

def SchemaNode.referenceOfJson (value : Json) : Option SchemaNode := do
  let fields ← value.keyed? ["$ref", "description"]
  let path ← (← fields.lookup "$ref").asString?
  let description ← readField fields "description" none (readOption Json.asString?)
  pure (.reference path description)

def Schema.keys : List String :=
  ["type", "format", "description", "properties", "required", "additionalProperties", "items",
    "enum"]

mutual
def SchemaNode.ofJson (value : Json) : Option SchemaNode :=
  match SchemaNode.referenceOfJson value with
  | some node => some node
  | none => (Schema.ofJson value).map .inline
termination_by (sizeOf value, 3)
/-- The fields that hold further schemas are read last; which one fails makes no difference. -/
def Schema.ofJson (value : Json) : Option Schema :=
  match _h : value.record? Schema.keys with
  | none => none
  | some fields => do
    let type ← readField fields "type" none (readOption DeclaredType.ofJson)
    let format ← readField fields "format" none (readOption Json.asString?)
    let description ← readField fields "description" none (readOption Json.asString?)
    let required ← readField fields "required" [] (readList Json.asString?)
    let enumValues ← readField fields "enum" [] (readList fun item => some item.settled)
    let properties ← match _hp : fields.lookup "properties" with
      | none => some []
      | some inner => SchemaNode.propertiesOfJson inner
    let additionalProperties ← match _ha : fields.lookup "additionalProperties" with
      | none | some .null => some none
      | some (.bool allowed) => some (some (.allowed allowed))
      | some inner => (SchemaNode.ofJson inner).map fun node => some (.constrained node)
    let items ← match _hi : fields.lookup "items" with
      | none | some .null => some none
      | some inner => (SchemaNode.ofJson inner).map some
    pure { type, format, description, properties, required, additionalProperties, items, enumValues }
termination_by (sizeOf value, 2)
decreasing_by
  all_goals
    have := Json.sizeOf_lt_of_record (by assumption) (by assumption)
    omega
def SchemaNode.propertiesOfJson (value : Json) : Option (List (String × SchemaNode)) :=
  match value with
  | .object fields => (SchemaNode.fieldsOfJson fields).map settleFields
  | _ => none
termination_by (sizeOf value, 1)
def SchemaNode.fieldsOfJson (fields : List (String × Json)) : Option (List (String × SchemaNode)) :=
  match fields with
  | [] => some []
  | (key, value) :: rest => do
    let node ← SchemaNode.ofJson value
    let nodes ← SchemaNode.fieldsOfJson rest
    pure ((key, node) :: nodes)
termination_by (sizeOf fields, 0)
end

def Parameter.keys : List String := ["name", "in", "description", "required", "schema"]

def Parameter.ofJson (value : Json) : Option Parameter := do
  let fields ← value.record? Parameter.keys
  let name ← (← fields.lookup "name").asString?
  let location ← (← fields.lookup "in").asString?
  let description ← readField fields "description" none (readOption Json.asString?)
  let required ← readField fields "required" false Json.asBool?
  let schema ← readField fields "schema" none (readOption SchemaNode.ofJson)
  pure { name, location := .ofName location, description, required, schema }

def referencePathOfJson (value : Json) : Option String := do
  (← (← value.keyed? ["$ref"]).lookup "$ref").asString?

def ParameterNode.ofJson (value : Json) : Option ParameterNode :=
  match referencePathOfJson value with
  | some path => some (.reference path)
  | none => (Parameter.ofJson value).map .inline

def MediaType.ofJson (value : Json) : Option MediaType := do
  let fields ← value.record? ["schema"]
  pure { schema := ← readField fields "schema" none (readOption SchemaNode.ofJson) }

def readNamed (read : Json → Option α) : Json → Option (List (String × α))
  | .object fields => do
    let pairs ← fields.mapM fun (key, value) => return (key, ← read value)
    pure (settleFields pairs)
  | _ => none

def Response.ofJson (value : Json) : Option Response := do
  let fields ← value.record? ["description", "content"]
  let description ← readField fields "description" none (readOption Json.asString?)
  let content ← readField fields "content" [] (readNamed MediaType.ofJson)
  pure { description, content }

def ResponseNode.ofJson (value : Json) : Option ResponseNode :=
  match referencePathOfJson value with
  | some path => some (.reference path)
  | none => (Response.ofJson value).map .inline

def SchemaNode.decoder : Decoder SchemaNode := .buffered "SchemaOrRef" SchemaNode.ofJson
def ParameterNode.decoder : Decoder ParameterNode :=
  .buffered "ParameterOrRef" ParameterNode.ofJson
def ResponseNode.decoder : Decoder ResponseNode := .buffered "ResponseOrRef" ResponseNode.ofJson

def Operation.shape : Shape Operation where
  name := "Operation"
  keys := ["operationId", "summary", "description", "parameters", "requestBody", "responses"]
  blank := {}
  field
    | "operationId" => some <|
      (Decoder.option .string).map fun operationId operation => { operation with operationId }
    | "summary" => some <|
      (Decoder.option .string).map fun summary operation => { operation with summary }
    | "description" => some <|
      (Decoder.option .string).map fun description operation => { operation with description }
    | "parameters" => some <|
      (Decoder.list ParameterNode.decoder).map fun parameters operation =>
        { operation with parameters }
    | "requestBody" => some <|
      (Decoder.option .raw).map fun requestBody operation => { operation with requestBody }
    | "responses" => some <|
      (Decoder.fields ResponseNode.decoder).map fun responses operation =>
        { operation with responses }
    | _ => none

namespace PathItem

/-- The operations with one more field judged: a method that is there already stays as it is. -/
def addField (operations : List (HttpMethod × Operation)) (field : String × Json) :
    Except Mismatch (List (HttpMethod × Operation)) :=
  match HttpMethod.ofName? field.1 with
  | none => .ok operations
  | some method => do
    let operation ← Operation.shape.ofJson field.2
    if operations.any fun entry => entry.1 = method then pure operations
    else pure (operations ++ [(method, operation)])

def ofFields (fields : List (String × Json)) : Except Mismatch PathItem := do
  pure ⟨← fields.foldlM addField []⟩

def decoder : Decoder PathItem := (Decoder.fields .raw).check ofFields

end PathItem

def Info.shape : Shape Info where
  name := "Info"
  keys := ["title", "version", "description"]
  blank := {}
  field
    | "title" => some <| Decoder.string.map fun title info => { info with title }
    | "version" => some <| Decoder.string.map fun version info => { info with version }
    | "description" => some <|
      (Decoder.option .string).map fun description info => { info with description }
    | _ => none

def ServerEntry.shape : Shape ServerEntry where
  name := "Server"
  keys := ["url", "description"]
  blank := {}
  field
    | "url" => some <| Decoder.string.map fun url server => { server with url }
    | "description" => some <|
      (Decoder.option .string).map fun description server => { server with description }
    | _ => none

def Components.shape : Shape Components where
  name := "Components"
  keys := ["schemas", "parameters", "responses"]
  blank := {}
  field
    | "schemas" => some <|
      (Decoder.fields SchemaNode.decoder).map fun schemas components =>
        { components with schemas }
    | "parameters" => some <|
      (Decoder.fields ParameterNode.decoder).map fun parameters components =>
        { components with parameters }
    | "responses" => some <|
      (Decoder.fields ResponseNode.decoder).map fun responses components =>
        { components with responses }
    | _ => none

def Document.shape : Shape Document where
  name := "OpenApiDocument"
  keys := ["openapi", "info", "servers", "paths", "components"]
  blank := {}
  field
    | "openapi" => some <| Decoder.string.map fun openapi document => { document with openapi }
    | "info" => some <| Info.shape.decoder.map fun info document => { document with info }
    | "servers" => some <|
      (Decoder.list ServerEntry.shape.decoder).map fun servers document =>
        { document with servers }
    | "paths" => some <|
      (Decoder.fields PathItem.decoder).map fun paths document => { document with paths }
    | "components" => some <|
      Components.shape.decoder.map fun components document => { document with components }
    | _ => none

namespace Document

def ofJson (value : Json) : Except ReadError Document :=
  match shape.ofJson value with
  | .ok document => .ok document
  | .error cause => .error (.mismatch cause)

/-- The document that a text describes, taken in while the text is read. -/
def parse (text : List Symbol) : Except ReadError Document :=
  Json.runReader shape.read text

end Document

end OpenApiClient
