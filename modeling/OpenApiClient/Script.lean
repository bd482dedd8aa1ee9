import OpenApiClient.Model.Document
import OpenApiClient.Text.Editing

/-! What scripts are written with: literals, comments, identifiers and types.
A text of the document is written so that it cannot end what it stands in. A parameter becomes a
formal under its own name if that is an identifier, and otherwise under one made from its words; names
that the language or the method body claims get a suffix, and so do names that are taken. Of a schema
the type is given, with objects in place not spelled out. -/
namespace OpenApiClient

namespace Script

/-- How a character stands in a single-quoted string: quote, backslash and line feed are escaped. -/
def escapeQuotedChar (c : Char) : List Char :=
  if c = '\\' then ['\\', '\\']
  else if c = '\'' then ['\\', '\'']
  else if c = '\n' then ['\\', 'n']
  else [c]

def escapeSingleQuoted (s : String) : String := .ofList (s.toList.flatMap escapeQuotedChar)

def singleQuoted (s : String) : String := "'" ++ escapeSingleQuoted s ++ "'"

def templateQuote : Char := Char.ofNat 96

/-- A text inside a template literal; a dollar is escaped where it would start a substitution. -/
def escapeTemplate : List Char → List Char
  | [] => []
  | c :: rest =>
    if c = '\\' ∨ c = templateQuote ∨ c = '$' ∧ rest.head? = some '\x7b' then
      '\\' :: c :: escapeTemplate rest
    else c :: escapeTemplate rest

/-- A text inside a documentation comment, in which nothing closes the comment. -/
def escapeComment (s : String) : String :=
  .ofList (Text.replaceAll ['*', '/'] ['*', '\\', '/'] s.toList)

def startsIdentifier (c : Char) : Bool := c.isAlpha || c = '_' || c = '$'

def continuesIdentifier (c : Char) : Bool := c.isAlphanum || c = '_' || c = '$'

def isIdentifier (name : String) : Bool :=
  match name.toList with
  | [] => false
  | c :: rest => startsIdentifier c && rest.all continuesIdentifier

def reservedWords : List String :=
  ["arguments", "await", "break", "case", "catch", "class", "const", "continue", "debugger",
    "default", "delete", "do", "else", "enum", "eval", "export", "extends", "false", "finally",
    "for", "function", "if", "implements", "import", "in", "instanceof", "interface", "let", "new",
    "null", "package", "private", "protected", "public", "return", "static", "super", "switch",
    "this", "throw", "true", "try", "typeof", "var", "void", "while", "with", "yield"]

def bodyLocals : List String := ["data", "params", "response"]

def parameterName (name : String) : String :=
  let base := if isIdentifier name then name else Text.lowerCamel name
  if base.toList.head?.all Char.isDigit then "_" ++ base
  else if base ∈ reservedWords then base ++ "_"
  else base

/-- The names to try for a base, in order: itself, then with `_2`, `_3` and so on. -/
def candidate (base : String) : Nat → String
  | 0 => base
  | n + 1 => base ++ "_" ++ toString (n + 2)

def freshName (taken : List String) (base : String) : String :=
  let blocked := bodyLocals ++ taken
  (((List.range (blocked.length + 1)).map (candidate base)).find? (· ∉ blocked)).getD base

end Script

inductive TypeExpr
  | any
  | string
  | number
  | boolean
  | object
  | anyRecord
  | named (name : String)
  | literals (values : List String)
  | array (item : TypeExpr)
  deriving DecidableEq, Repr

namespace TypeExpr

/-- The text of a type. Brackets would bind to the last member of a union only, hence the parentheses. -/
def text : TypeExpr → String
  | any => "any"
  | string => "string"
  | number => "number"
  | boolean => "boolean"
  | object => "object"
  | anyRecord => "Record<string, any>"
  | named name => name
  | literals values => " | ".intercalate (values.map Script.singleQuoted)
  | array item =>
    let inner := item.text
    if inner.toList.contains '|' then "(" ++ inner ++ ")[]" else inner ++ "[]"

end TypeExpr

def Json.literalText : Json → String
  | string s => s
  | value => value.compact

def Schema.scalarType (schema : Schema) : TypeExpr :=
  match schema.primaryType with
  | some .string =>
    if schema.enumValues.isEmpty then .string
    else .literals (schema.enumValues.map Json.literalText)
  | some .number | some .integer => .number
  | some .boolean => .boolean
  | some .object => if schema.isOpen then .anyRecord else .object
  | _ => .any

def SchemaNode.typeExpr : SchemaNode → TypeExpr
  | reference path _ => .named (referenceName path)
  | inline schema =>
    match schema with
    | { type, items := some items, .. } =>
      if type.bind DeclaredType.primary = some .array then .array items.typeExpr
      else schema.scalarType
    | { type, items := none, .. } =>
      if type.bind DeclaredType.primary = some .array then .array .any else schema.scalarType

def SchemaNode.referenceNames : SchemaNode → List String
  | reference path _ => [referenceName path]
  | inline schema =>
    match schema with
    | { type, items := some items, .. } =>
      if type.bind DeclaredType.primary = some .array then items.referenceNames else []
    | { items := none, .. } => []

def typeOfSchema (schema : Option SchemaNode) : TypeExpr := schema.elim .any SchemaNode.typeExpr

end OpenApiClient
