import OpenApiClient.Client.Call
import OpenApiClient.Config.Settings

/-! The methods of a document.
Operations are taken in document order. One without an identifier, or with an identifier that an
earlier operation has, gives a warning and no method. The text of a method depends on the options, the
method does not. -/
namespace OpenApiClient

inductive Warning
  | missingOperationId (method : HttpMethod) (path : String)
  | duplicateOperationId (operationId : String) (method : HttpMethod) (path : String)
  | noSuccessResponse (operationId : String) (method : HttpMethod) (path : String)
  | unresolvedParameter (operationId : String) (reference : String)
  | clientFileCollision (fileName : String) (fallback : String)
  | clientFileExtension (fileName : String) (expected : String)
  deriving DecidableEq, Repr

namespace Warning

def kind : Warning → String
  | missingOperationId .. => "MissingOperationId"
  | duplicateOperationId .. => "DuplicateOperationId"
  | noSuccessResponse .. => "NoSuccessResponse"
  | unresolvedParameter .. => "UnresolvedParameter"
  | clientFileCollision .. => "ClientFileCollision"
  | clientFileExtension .. => "ClientFileExtension"

def message : Warning → String
  | missingOperationId method path =>
    method.upperName ++ " " ++ path ++ " has no operationId, skipped"
  | duplicateOperationId operationId method path =>
    method.upperName ++ " " ++ path ++ " reuses operationId `" ++ operationId ++ "`, skipped"
  | noSuccessResponse operationId method path =>
    method.upperName ++ " " ++ path ++ " (`" ++ operationId
      ++ "`) defines no 2xx response, return type is `any`"
  | unresolvedParameter operationId reference =>
    "`" ++ operationId ++ "` references unknown parameter " ++ reference ++ ", skipped"
  | clientFileCollision fileName fallback =>
    "fileName `" ++ fileName ++ "` collides with a generated file, writing the client to `"
      ++ fallback ++ "`"
  | clientFileExtension fileName expected =>
    "fileName `" ++ fileName ++ "` does not end in `." ++ expected
      ++ "` for the selected output mode"

end Warning

structure Method where
  name : String
  verb : HttpMethod
  path : String
  summary : String
  pathBindings : List Binding
  queryBindings : List Binding
  hasBody : Bool
  result : TypeExpr
  deriving DecidableEq, Repr

namespace Method

def formals (method : Method) : List Formal :=
  method.pathBindings.map Binding.formal ++ method.queryBindings.map Binding.formal
    ++ if method.hasBody then [.body] else []

def call (method : Method) : Call where
  method := method.verb
  url := urlLiteral method.path method.pathBindings
  hasQuery := !method.queryBindings.isEmpty
  hasBody := method.hasBody

/-- An entry of the query record: the key is left out where the formal has the same name. -/
def queryEntry (binding : Binding) : String :=
  if binding.ident = binding.name then binding.ident
  else Script.singleQuoted binding.name ++ ": " ++ binding.ident

def summaryLine (line : List Char) : String :=
  if line.isEmpty then "   *" else "   * " ++ Script.escapeComment (.ofList line)

/-- The lines inside the comment; without annotations the types of the formals go there. -/
def commentLines (method : Method) (typed : Bool) : List String :=
  let summary := (Text.lines method.summary.toList).map summaryLine
  (if summary.isEmpty then ["   *"] else summary)
    ++ if typed then [] else method.formals.map Formal.documentation

def returnType (method : Method) (unwrap : Bool) : String :=
  if unwrap then "Promise<" ++ method.result.text ++ ">"
  else "Promise<AxiosResponse<" ++ method.result.text ++ ">>"

def headLine (method : Method) (options : ClientOptions) : String :=
  "  async " ++ method.name ++ "(" ++ signatureText options.typed method.formals ++ ")"
    ++ (if options.typed then ": " ++ method.returnType options.unwrapResponseData else "") ++ " \x7b"

def queryLines (method : Method) : List String :=
  if method.queryBindings.isEmpty then []
  else
    ["    const params = \x7b"]
      ++ method.queryBindings.map (fun binding => "      " ++ queryEntry binding ++ ",")
      ++ ["    \x7d;"]

def returnLines (method : Method) (unwrap : Bool) : List String :=
  if unwrap then
    ["    const response = await " ++ method.call.text ++ ";", "    return response.data;"]
  else ["    return " ++ method.call.text ++ ";"]

def lines (method : Method) (options : ClientOptions) : List String :=
  ["  /**"] ++ method.commentLines options.typed ++ ["   */"] ++ [method.headLine options]
    ++ method.queryLines ++ method.returnLines options.unwrapResponseData ++ ["  \x7d"]

def source (method : Method) (options : ClientOptions) : String :=
  "\n".intercalate (method.lines options)

end Method

def insertName (name : String) : List String → List String
  | [] => [name]
  | first :: rest =>
    if name < first then name :: first :: rest
    else if name = first then first :: rest
    else first :: insertName name rest

def sortedNames (names : List String) : List String := names.foldr insertName []

def Operation.identifier? (operation : Operation) : Option String :=
  operation.operationId.filter (!·.isEmpty)

def Operation.successResponse? (operation : Operation) : Option ResponseNode :=
  (operation.responses.find? fun entry => isSuccessCode entry.1).map Prod.snd

/-- The schema of a response's body, after at most one reference. -/
def Components.bodySchema? (components : Components) : ResponseNode → Option SchemaNode
  | .inline response => response.bodySchema
  | .reference path => (components.response? path).bind Response.bodySchema

structure EmittedMethod where
  method : Method
  typeNames : List String
  warnings : List Warning
  deriving DecidableEq, Repr

namespace Operation

def parametersIn (operation : Operation) (components : Components) (location : ParameterLocation) :
    List Parameter :=
  (operation.resolvedParameters components).filter (·.location = location)

def resultSchema? (operation : Operation) (components : Components) : Option SchemaNode :=
  operation.successResponse?.bind components.bodySchema?

/-- The schemas whose types a method shows: those of its formals, then that of its result. -/
def shownSchemas (operation : Operation) (components : Components) : List SchemaNode :=
  (operation.parametersIn components .path ++ operation.parametersIn components .query).filterMap
      Parameter.schema
    ++ (operation.resultSchema? components).toList

def method (operation : Operation) (components : Components) (verb : HttpMethod)
    (path name : String) : Method :=
  let pathBindings := bindParameters [] (operation.parametersIn components .path)
  { name, verb, path
    summary := operation.summary.getD ""
    pathBindings
    queryBindings := bindParameters (pathBindings.map Binding.ident).reverse
      (operation.parametersIn components .query)
    hasBody := operation.requestBody.isSome
    result := typeOfSchema (operation.resultSchema? components) }

/-- The references that lead nowhere, then the lack of a successful response. -/
def warnings (operation : Operation) (components : Components) (verb : HttpMethod)
    (path name : String) : List Warning :=
  (operation.unresolvedReferences components).map (.unresolvedParameter name)
    ++ if operation.successResponse?.isSome then [] else [.noSuccessResponse name verb path]

def emit? (operation : Operation) (components : Components) (verb : HttpMethod) (path : String) :
    Option EmittedMethod :=
  operation.identifier?.map fun name =>
    { method := operation.method components verb path name
      typeNames := sortedNames
        ((operation.shownSchemas components).flatMap SchemaNode.referenceNames)
      warnings := operation.warnings components verb path name }

end Operation

structure Endpoint where
  path : String
  verb : HttpMethod
  operation : Operation

/-- All operations of a document: paths in order, and the methods of each path in order. -/
def Document.endpoints (document : Document) : List Endpoint :=
  document.paths.flatMap fun (path, item) =>
    item.operations.map fun (verb, operation) => ⟨path, verb, operation⟩

structure Emission where
  methods : List EmittedMethod := []
  warnings : List Warning := []
  deriving DecidableEq, Repr

def Emission.append (first second : Emission) : Emission :=
  ⟨first.methods ++ second.methods, first.warnings ++ second.warnings⟩

namespace Endpoint

def emission (endpoint : Endpoint) (components : Components) (used : List String) : Emission :=
  match endpoint.operation.emit? components endpoint.verb endpoint.path with
  | none => { warnings := [.missingOperationId endpoint.verb endpoint.path] }
  | some emitted =>
    if emitted.method.name ∈ used then
      { warnings := [.duplicateOperationId emitted.method.name endpoint.verb endpoint.path] }
    else { methods := [emitted], warnings := emitted.warnings }

def usedAfter (endpoint : Endpoint) (used : List String) : List String :=
  match endpoint.operation.identifier? with
  | none => used
  | some name => name :: used

end Endpoint

def emitFrom (components : Components) (used : List String) : List Endpoint → Emission
  | [] => {}
  | endpoint :: rest =>
    (endpoint.emission components used).append
      (emitFrom components (endpoint.usedAfter used) rest)

def Document.emission (document : Document) : Emission :=
  emitFrom document.components [] document.endpoints

end OpenApiClient
