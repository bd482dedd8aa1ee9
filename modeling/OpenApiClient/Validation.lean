import OpenApiClient.Model.Document
import OpenApiClient.Text.Editing

/-! Validation.
Structural rules on a raw document, checked apart from generation. The walk stops at the first rule
that is broken: the header, then the paths in order, then the schemas in order. What is merely
unusual is remarked on and collected. -/
namespace OpenApiClient

inductive Violation
  | missingField (field : String)
  | invalidField (field expected : String)
  | unsupportedVersion (version : String)
  | invalidPath (path : String)
  | noOperations (path : String)
  | missingResponses (path method : String)
  | invalidSchemaName (name suggestion : String)
  | invalidSchemaType (schema type : String)
  | invalidReference (schema property reference : String)
  deriving DecidableEq, Repr

def Violation.kind : Violation → String
  | missingField .. => "MissingField"
  | invalidField .. => "InvalidField"
  | unsupportedVersion .. => "UnsupportedVersion"
  | invalidPath .. => "InvalidPath"
  | noOperations .. => "NoOperations"
  | missingResponses .. => "MissingResponses"
  | invalidSchemaName .. => "InvalidSchemaName"
  | invalidSchemaType .. => "InvalidSchemaType"
  | invalidReference .. => "InvalidReference"

def Violation.message : Violation → String
  | missingField field => "missing required field: " ++ field
  | invalidField field expected => "field `" ++ field ++ "` must be " ++ expected
  | unsupportedVersion version =>
    "unsupported OpenAPI version: " ++ version ++ ", use a 3.x document"
  | invalidPath path => "invalid path `" ++ path ++ "`: paths must start with '/'"
  | noOperations path => "path `" ++ path ++ "` defines no HTTP method"
  | missingResponses path method => method ++ " " ++ path ++ " is missing `responses`"
  | invalidSchemaName name suggestion =>
    "invalid schema name `" ++ name ++ "`: use PascalCase such as `" ++ suggestion ++ "`"
  | invalidSchemaType schema type => "schema `" ++ schema ++ "` has invalid type `" ++ type ++ "`"
  | invalidReference schema property reference =>
    "schema `" ++ schema ++ "` property `" ++ property ++ "` has invalid reference `" ++ reference
      ++ "`"

/-- What is unusual about a document that breaks no rule. -/
inductive Remark
  | noPaths
  | noSuccessResponse (method path : String)
  | noSchemas
  deriving DecidableEq, Repr

def Remark.message : Remark → String
  | noPaths => "no API paths are defined"
  | noSuccessResponse method path => method ++ " " ++ path ++ " defines no success response"
  | noSchemas => "no component schemas are defined"

structure Report where
  openapi : String
  title : String
  version : String
  pathCount : Nat
  schemaCount : Nat
  remarks : List Remark
  deriving DecidableEq, Repr

namespace Validation

def requiredText (value : Option Json) (field : String) : Except Violation String :=
  match value with
  | none | some .null => .error (.missingField field)
  | some (.string s) => if s.isEmpty then .error (.missingField field) else .ok s
  | some _ => .error (.invalidField field "a string")

def startsWith (start text : String) : Bool := start.toList.isPrefixOf text.toList

def methodFields (item : Json) : List (String × Json) :=
  (item.asObject?.getD []).filter fun field => (HttpMethod.ofName? field.1).isSome

def coversSuccess (responses : List (String × Json)) : Bool :=
  responses.any fun response => isSuccessCode response.1 || response.1 = "default"

/-- An operation has to have responses; leaving out a successful one is remarked on. -/
def checkOperation (path : String) (field : String × Json) : Except Violation (List Remark) :=
  let method := HttpMethod.asciiUpper field.1
  match (field.2.get? "responses").bind Json.asObject? with
  | none => .error (.missingResponses path method)
  | some responses =>
    .ok (if coversSuccess responses then [] else [.noSuccessResponse method path])

def checkPath (field : String × Json) : Except Violation (List Remark) := do
  let (path, item) := field
  if !startsWith "/" path then .error (.invalidPath path)
  else if (methodFields item).isEmpty then .error (.noOperations path)
  else pure (← (methodFields item).mapM (checkOperation path)).flatten

def checkPaths (paths : Option Json) : Except Violation (Nat × List Remark) :=
  match paths with
  | none | some .null | some (.object []) => .ok (0, [.noPaths])
  | some (.object fields) => do pure (fields.length, (← fields.mapM checkPath).flatten)
  | some _ => .error (.invalidField "paths" "an object")

def isSchemaName (name : String) : Bool :=
  match name.toList with
  | [] => false
  | c :: rest => c.isAlpha && rest.all Char.isAlphanum

def schemaTypes : List String := ["object", "array", "string", "number", "integer", "boolean"]

def schemaReferenceStart : String := "#/components/schemas/"

def checkSchemaType (name : String) (schema : Json) : Except Violation Unit :=
  match schema.get? "type" with
  | none => .ok ()
  | some (.string type) =>
    if type ∈ schemaTypes then .ok () else .error (.invalidSchemaType name type)
  | some other => .error (.invalidSchemaType name other.compact)

def checkProperty (schema : String) (field : String × Json) : Except Violation Unit :=
  match (field.2.get? "$ref").bind Json.asString? with
  | none => .ok ()
  | some reference =>
    if startsWith schemaReferenceStart reference then .ok ()
    else .error (.invalidReference schema field.1 reference)

def checkProperties (name : String) (schema : Json) : Except Violation Unit :=
  if (schema.get? "type").bind Json.asString? = some "object" then
    (((schema.get? "properties").bind Json.asObject?).getD []).forM (checkProperty name)
  else .ok ()

def checkSchema (field : String × Json) : Except Violation Unit := do
  let (name, schema) := field
  if isSchemaName name then
    checkSchemaType name schema
    checkProperties name schema
  else .error (.invalidSchemaName name (Text.upperCamel name))

def checkSchemas (schemas : Option Json) : Except Violation (Nat × List Remark) :=
  match schemas with
  | some (.object (field :: rest)) => do
    (field :: rest).forM checkSchema
    pure ((field :: rest).length, [])
  | _ => .ok (0, [.noSchemas])

end Validation

open Validation in
/-- The report on a document that breaks no rule, or the first rule it breaks. -/
def validate (document : Json) : Except Violation Report := do
  let openapi ← requiredText (document.get? "openapi") "openapi"
  let some info := document.get? "info" | .error (.missingField "info")
  let title ← requiredText (info.get? "title") "info.title"
  let version ← requiredText (info.get? "version") "info.version"
  if !startsWith "3." openapi then .error (.unsupportedVersion openapi)
  else
    let (pathCount, pathRemarks) ← checkPaths (document.get? "paths")
    let (schemaCount, schemaRemarks) ←
      checkSchemas ((document.get? "components").bind (·.get? "schemas"))
    pure
      { openapi, title, version, pathCount, schemaCount
        remarks := pathRemarks ++ schemaRemarks }

end OpenApiClient
