import OpenApiClient.Script

/-! The formals of a method and the call in it.
The path parameters claim their names first, then the query parameters, then the body; parameters sent
elsewhere are left out. The address is a template literal in which the placeholders of the path have
become substitutions. The arguments after it depend on the verb: some take the body as an argument,
the others only as a field of the settings, and one has no function of its own. -/
namespace OpenApiClient

structure Formal where
  ident : String
  type : TypeExpr
  required : Bool
  deriving DecidableEq, Repr

structure Binding where
  name : String
  formal : Formal
  deriving DecidableEq, Repr

def Formal.body : Formal := ⟨"data", .any, true⟩

/-- A parameter given in place or found among the components, or the reference that leads nowhere. -/
def Components.resolve (components : Components) : ParameterNode → Except String Parameter
  | .inline parameter => .ok parameter
  | .reference path => (components.parameter? path).elim (.error path) .ok

def resolvedParameter? : Except String Parameter → Option Parameter
  | .ok parameter => some parameter
  | .error _ => none

def unresolvedReference? : Except String Parameter → Option String
  | .ok _ => none
  | .error reference => some reference

def Operation.resolvedParameters (operation : Operation) (components : Components) :
    List Parameter :=
  operation.parameters.filterMap fun node => resolvedParameter? (components.resolve node)

def Operation.unresolvedReferences (operation : Operation) (components : Components) :
    List String :=
  operation.parameters.filterMap fun node => unresolvedReference? (components.resolve node)

/-- A path parameter is always required. -/
def Parameter.isRequired (parameter : Parameter) : Bool :=
  parameter.location = .path || parameter.required

/-- Binds parameters in order, each to a name that neither the body nor an earlier formal uses. -/
def bindParameters (taken : List String) : List Parameter → List Binding
  | [] => []
  | parameter :: rest =>
    let ident := Script.freshName taken (Script.parameterName parameter.name)
    ⟨parameter.name, ident, typeOfSchema parameter.schema, parameter.isRequired⟩
      :: bindParameters (ident :: taken) rest

def Binding.ident (binding : Binding) : String := binding.formal.ident

inductive Marker
  | plain
  | orUndefined
  | optional
  deriving DecidableEq, Repr

/-- A formal can be marked optional only where no later one is required. -/
def markers : List Formal → List (Formal × Marker)
  | [] => []
  | formal :: later =>
    let marker :=
      if formal.required then Marker.plain
      else if later.any (·.required) then .orUndefined
      else .optional
    (formal, marker) :: markers later

def typedFormal : Formal × Marker → String
  | (formal, .plain) => formal.ident ++ ": " ++ formal.type.text
  | (formal, .orUndefined) => formal.ident ++ ": " ++ formal.type.text ++ " | undefined"
  | (formal, .optional) => formal.ident ++ "?: " ++ formal.type.text

def signatureText (typed : Bool) (formals : List Formal) : String :=
  ", ".intercalate (if typed then (markers formals).map typedFormal else formals.map (·.ident))

def Formal.documentation (formal : Formal) : String :=
  "   * @param \x7b" ++ formal.type.text ++ "\x7d "
    ++ if formal.required then formal.ident else "[" ++ formal.ident ++ "]"

def placeholder (name : String) : List Char := '\x7b' :: name.toList ++ ['\x7d']

def substitution (ident : String) : List Char := '$' :: '\x7b' :: ident.toList ++ ['\x7d']

/-- The inside of the template literal: each parameter replaces its placeholder in turn. -/
def urlTemplate (path : String) (bindings : List Binding) : List Char :=
  bindings.foldl
    (fun url binding =>
      Text.replaceAll (placeholder binding.name) (substitution binding.ident) url)
    (Script.escapeTemplate path.toList)

def urlLiteral (path : String) (bindings : List Binding) : String :=
  "`" ++ .ofList (urlTemplate path bindings) ++ "`"

inductive SettingsField
  | params
  | data
  deriving DecidableEq, Repr

def SettingsField.text : SettingsField → String
  | params => "params"
  | data => "data"

inductive Argument
  | data
  | nothing
  | settings (fields : List SettingsField)
  deriving DecidableEq, Repr

def Argument.text : Argument → String
  | data => "data"
  | nothing => "undefined"
  | settings fields => "\x7b " ++ ", ".intercalate (fields.map SettingsField.text) ++ " \x7d"

def HttpMethod.takesBody : HttpMethod → Bool
  | post | put | patch => true
  | _ => false

structure Call where
  method : HttpMethod
  url : String
  hasQuery : Bool
  hasBody : Bool
  deriving DecidableEq, Repr

namespace Call

def settingsFields (call : Call) : List SettingsField :=
  (if call.hasQuery then [.params] else [])
    ++ if call.hasBody && !call.method.takesBody then [.data] else []

/-- The arguments after the address; settings never take the place of a body. -/
def arguments (call : Call) : List Argument :=
  let fields := call.settingsFields
  let body : List Argument :=
    if call.method.takesBody then
      if call.hasBody then [.data] else if fields.isEmpty then [] else [.nothing]
    else []
  body ++ if fields.isEmpty then [] else [.settings fields]

def text (call : Call) : String :=
  match call.method with
  | .trace =>
    let fields := ["method: 'trace'", "url: " ++ call.url]
      ++ call.settingsFields.map SettingsField.text
    "this.client.request(\x7b " ++ ", ".intercalate fields ++ " \x7d)"
  | method =>
    "this.client." ++ method.name ++ "("
      ++ ", ".intercalate (call.url :: call.arguments.map Argument.text) ++ ")"

end Call

end OpenApiClient
