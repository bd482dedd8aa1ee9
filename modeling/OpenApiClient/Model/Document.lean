import OpenApiClient.Json.Value

/-! OpenAPI documents, as far as a client is generated from them.
A schema stands inline or as a reference, which may carry a description of its own. Lists of pairs
keep the order of the document; their keys are distinct. A reference is looked up among the components
by its last segment, and followed one step only. -/
namespace OpenApiClient

def referenceName (reference : String) : String :=
  .ofList (reference.toList.reverse.takeWhile (· != '/')).reverse

inductive SchemaType
  | string
  | number
  | integer
  | boolean
  | array
  | object
  | null
  | other (name : String)
  deriving DecidableEq, Repr

def SchemaType.ofName : String → SchemaType
  | "string" => string
  | "number" => number
  | "integer" => integer
  | "boolean" => boolean
  | "array" => array
  | "object" => object
  | "null" => null
  | name => other name

inductive DeclaredType
  | single (type : SchemaType)
  | several (types : List SchemaType)
  deriving DecidableEq, Repr

/-- The type that decides: the declared one, or the first of a list that is not null. -/
def DeclaredType.primary : DeclaredType → Option SchemaType
  | single type => some type
  | several types => types.find? (· ≠ .null)

mutual
inductive SchemaNode
  | reference (path : String) (description : Option String)
  | inline (schema : Schema)
/-- What `additionalProperties` says about properties that are not listed. -/
inductive AdditionalProperties
  | allowed (value : Bool)
  | constrained (node : SchemaNode)
structure Schema where
  type : Option DeclaredType := none
  format : Option String := none
  description : Option String := none
  properties : List (String × SchemaNode) := []
  required : List String := []
  additionalProperties : Option AdditionalProperties := none
  items : Option SchemaNode := none
  enumValues : List Json := []
end

instance : Inhabited SchemaNode := ⟨.reference "" none⟩

def SchemaNode.description : SchemaNode → Option String
  | reference _ description => description
  | inline schema => schema.description

/-- Only an explicit `false` forbids further properties. -/
def AdditionalProperties.permits : AdditionalProperties → Bool
  | allowed value => value
  | constrained _ => true

def Schema.primaryType (schema : Schema) : Option SchemaType :=
  schema.type.bind DeclaredType.primary

def Schema.isRequired (schema : Schema) (property : String) : Bool :=
  schema.required.contains property

def Schema.isOpen (schema : Schema) : Bool :=
  schema.additionalProperties.any AdditionalProperties.permits

inductive HttpMethod
  | get
  | post
  | put
  | delete
  | patch
  | head
  | options
  | trace
  deriving DecidableEq, Repr

namespace HttpMethod

def all : List HttpMethod := [get, post, put, delete, patch, head, options, trace]

def name : HttpMethod → String
  | get => "get"
  | post => "post"
  | put => "put"
  | delete => "delete"
  | patch => "patch"
  | head => "head"
  | options => "options"
  | trace => "trace"

def asciiLower (s : String) : String := .ofList (s.toList.map Char.toLower)

def asciiUpper (s : String) : String := .ofList (s.toList.map Char.toUpper)

def upperName (method : HttpMethod) : String := asciiUpper method.name

/-- The method that a key names, in any letter case. -/
def ofName? (key : String) : Option HttpMethod :=
  all.find? fun method => method.name = asciiLower key

end HttpMethod

inductive ParameterLocation
  | path
  | query
  | header
  | cookie
  | other (name : String)
  deriving DecidableEq, Repr

def ParameterLocation.ofName : String → ParameterLocation
  | "path" => path
  | "query" => query
  | "header" => header
  | "cookie" => cookie
  | name => other name

structure Parameter where
  name : String
  location : ParameterLocation
  description : Option String := none
  required : Bool := false
  schema : Option SchemaNode := none

inductive ParameterNode
  | reference (path : String)
  | inline (parameter : Parameter)

structure MediaType where
  schema : Option SchemaNode := none

structure Response where
  description : Option String := none
  content : List (String × MediaType) := []

inductive ResponseNode
  | reference (path : String)
  | inline (response : Response)

/-- The schema of the JSON body, or else of the first media type that has one. -/
def Response.bodySchema (response : Response) : Option SchemaNode :=
  ((response.content.lookup "application/json").bind MediaType.schema).or
    (response.content.findSome? fun (_, media) => media.schema)

def isSuccessCode (code : String) : Bool := code.toList.head? = some '2'

structure Operation where
  operationId : Option String := none
  summary : Option String := none
  description : Option String := none
  parameters : List ParameterNode := []
  requestBody : Option Json := none
  responses : List (String × ResponseNode) := []

/-- The operations under a path, each method once. -/
structure PathItem where
  operations : List (HttpMethod × Operation) := []

structure Info where
  title : String := ""
  version : String := ""
  description : Option String := none

structure ServerEntry where
  url : String := ""
  description : Option String := none

structure Components where
  schemas : List (String × SchemaNode) := []
  parameters : List (String × ParameterNode) := []
  responses : List (String × ResponseNode) := []

structure Document where
  openapi : String := ""
  info : Info := {}
  servers : List ServerEntry := []
  paths : List (String × PathItem) := []
  components : Components := {}

/-- The parameter that a reference names, unless that entry is a reference itself. -/
def Components.parameter? (components : Components) (reference : String) : Option Parameter :=
  match components.parameters.lookup (referenceName reference) with
  | some (.inline parameter) => some parameter
  | _ => none

def Components.response? (components : Components) (reference : String) : Option Response :=
  match components.responses.lookup (referenceName reference) with
  | some (.inline response) => some response
  | _ => none

def Document.serverUrl? (document : Document) : Option String :=
  document.servers.head?.map ServerEntry.url

end OpenApiClient
