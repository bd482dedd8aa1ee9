import OpenApiClient.Action
import OpenApiClient.Client.Method

/-! The files that are generated, and how they are written.
The types module has one declaration for each schema of the components; an entry that is a reference
to another schema has no properties of its own. The client module holds a class with the methods, and
an instance of it for the default server. The index module exports what the other two export. The
client file may be named freely; a name that would fall on one of the other two is not used, and one
with a foreign extension is. The first failure ends the writing; what was written before stays. -/
namespace OpenApiClient

structure Property where
  name : String
  type : TypeExpr
  required : Bool
  description : Option String
  deriving DecidableEq, Repr

structure Declaration where
  name : String
  properties : List Property
  deriving DecidableEq, Repr

/-- The properties of a node; a reference has none. -/
def SchemaNode.properties : SchemaNode → List Property
  | reference .. => []
  | inline schema => schema.properties.map fun (name, node) =>
    ⟨name, node.typeExpr, schema.isRequired name, node.description⟩

def Document.declarations (document : Document) : List Declaration :=
  document.components.schemas.map fun (name, node) => ⟨name, node.properties⟩

def oneLine (description : String) : String := .ofList (Text.singleLine description.toList)

namespace Property

/-- The key of a property: bare where that is legal, and quoted otherwise. -/
def key (property : Property) : String :=
  if Script.isIdentifier property.name then property.name else Script.singleQuoted property.name

def fieldLine (property : Property) : String :=
  "  " ++ property.key ++ (if property.required then "" else "?") ++ ": " ++ property.type.text ++ ";"
    ++ property.description.elim "" fun description => " // " ++ oneLine description

def tagLine (property : Property) : String :=
  " * @property \x7b" ++ property.type.text ++ "\x7d "
    ++ (if property.required then property.name else "[" ++ property.name ++ "]")
    ++ property.description.elim ""
      fun description => " " ++ Script.escapeComment (oneLine description)

end Property

namespace Declaration

def lines (declaration : Declaration) (typed : Bool) : List String :=
  if typed then
    ["", "export interface " ++ declaration.name ++ " \x7b"]
      ++ declaration.properties.map Property.fieldLine ++ ["\x7d"]
  else
    ["", "/**", " * @typedef \x7bObject\x7d " ++ declaration.name]
      ++ declaration.properties.map Property.tagLine ++ [" */"]

end Declaration

def joinLines (lines : List String) : String := String.join (lines.map (· ++ "\n"))

def Document.typesLines (document : Document) (options : ClientOptions) : List String :=
  ["// Auto-generated types from OpenAPI specification"]
    ++ document.declarations.flatMap (·.lines options.typed)
    ++ if options.typed then [] else ["", "export \x7b\x7d;"]

def Document.typesModule (document : Document) (options : ClientOptions) : String :=
  joinLines (document.typesLines options)

def defaultBaseUrl : String := "http://localhost:3000"

/-- The named types that the methods of a client mention, in increasing order. -/
def Emission.importedTypes (emission : Emission) : List String :=
  sortedNames (emission.methods.flatMap (·.typeNames))

def importLines (emission : Emission) (options : ClientOptions) (typesModule : String) :
    List String :=
  if options.typed then
    ["import axios, \x7b AxiosInstance" ++ (if options.unwrapResponseData then "" else ", AxiosResponse")
        ++ " \x7d from 'axios';"]
      ++ if emission.importedTypes.isEmpty then []
        else ["import type \x7b " ++ ", ".intercalate emission.importedTypes ++ " \x7d from '"
          ++ typesModule ++ "';"]
  else ["import axios from 'axios';"]

def annotation (options : ClientOptions) (type : String) : String :=
  if options.typed then ": " ++ type else ""

def fixedMembers (options : ClientOptions) (baseUrl : String) : List String :=
  (if options.typed then ["  private client: AxiosInstance;", ""] else [])
    ++ ["  constructor(baseURL" ++ annotation options "string" ++ " = "
        ++ Script.singleQuoted baseUrl ++ ") \x7b",
      "    this.client = axios.create(\x7b",
      "      baseURL,",
      "      headers: \x7b",
      "        'Content-Type': 'application/json',",
      "      \x7d,",
      "    \x7d);",
      "  \x7d",
      "",
      "  setAuthToken(token" ++ annotation options "string" ++ ")" ++ annotation options "void"
        ++ " \x7b",
      "    this.client.defaults.headers.common['Authorization'] = `Bearer $\x7btoken\x7d`;",
      "  \x7d"]

def ClientOptions.instanceName (options : ClientOptions) : String :=
  Text.lowerCamel options.clientName

def Document.clientLines (document : Document) (options : ClientOptions) (typesModule : String) :
    List String :=
  let emission := document.emission
  ["// Auto-generated API client from OpenAPI specification"]
    ++ importLines emission options typesModule
    ++ ["", "export class " ++ options.clientName ++ " \x7b"]
    ++ fixedMembers options (document.serverUrl?.getD defaultBaseUrl)
    ++ emission.methods.flatMap (fun emitted => ["", emitted.method.source options])
    ++ ["\x7d", "",
      "export const " ++ options.instanceName ++ " = new " ++ options.clientName ++ "();"]

def Document.clientModule (document : Document) (options : ClientOptions) (typesModule : String) :
    String :=
  joinLines (document.clientLines options typesModule)

def indexModule (clientModule typesModule : String) : String :=
  joinLines
    ["// Auto-generated API SDK",
      "export * from '" ++ clientModule ++ "';",
      "export * from '" ++ typesModule ++ "';"]

structure GeneratedFile where
  path : String
  content : String
  deriving DecidableEq, Repr

structure Generation where
  files : List GeneratedFile
  warnings : List Warning
  deriving DecidableEq, Repr

namespace ClientOptions

def fileNamed (options : ClientOptions) (stem : String) : String :=
  stem ++ "." ++ options.extension

def typesFile (options : ClientOptions) : String := options.fileNamed "types"
def indexFile (options : ClientOptions) : String := options.fileNamed "index"
def defaultClientFile (options : ClientOptions) : String := options.fileNamed "api"

def sameName (a b : String) : Bool := HttpMethod.asciiLower a = HttpMethod.asciiLower b

/-- The wanted name without blanks at its ends, unless nothing is left of it. -/
def requestedName (fileName : Option String) : Option String :=
  (fileName.map fun name => String.ofList (Text.trim name.toList)).filter (!·.isEmpty)

/-- The client file for a wanted name, with what has to be said about it. -/
def clientFile (options : ClientOptions) (fileName : Option String) : String × Option Warning :=
  match requestedName fileName with
  | none => (options.defaultClientFile, none)
  | some name =>
    if sameName options.typesFile name || sameName options.indexFile name then
      (options.defaultClientFile, some (.clientFileCollision name options.defaultClientFile))
    else if ("." ++ options.extension).toList.isSuffixOf name.toList then (name, none)
    else (name, some (.clientFileExtension name options.extension))

end ClientOptions

def dropSuffix? (ending text : String) : Option String :=
  if ending.toList.isSuffixOf text.toList then
    some (.ofList (text.toList.take (text.length - ending.length)))
  else none

/-- What an import names a file by: its path without the extension of a script. -/
def moduleSpecifier (fileName : String) : String :=
  "./" ++ ((dropSuffix? ".ts" fileName).or (dropSuffix? ".js" fileName)).getD fileName

def typesSpecifier : String := "./types"

def generate (document : Document) (options : ClientOptions) (fileName : Option String) :
    Generation :=
  let (clientFile, nameWarning) := options.clientFile fileName
  { files :=
      [⟨options.typesFile, document.typesModule options⟩,
        ⟨clientFile, document.clientModule options typesSpecifier⟩,
        ⟨options.indexFile, indexModule (moduleSpecifier clientFile) typesSpecifier⟩]
    warnings := nameWarning.toList ++ document.emission.warnings }

structure WriteError where
  path : String
  cause : FileError
  deriving DecidableEq, Repr

def WriteError.message (e : WriteError) : String :=
  "failed to write " ++ e.path ++ ": " ++ e.cause.message

def atPath (path : String) (action : ExceptT FileError Action α) : ExceptT WriteError Action α :=
  action.adapt (⟨path, ·⟩)

def GeneratedFile.write (directory : String) (file : GeneratedFile) :
    ExceptT WriteError Action String := do
  let path := Path.join directory file.path
  match Path.parent? path with
  | some parent =>
    if !Path.same parent directory then atPath parent (ensureDirectories parent)
  | none => pure ()
  atPath path (writeFile path file.content.toUTF8)
  pure path

def writeFiles (directory : String) (files : List GeneratedFile) :
    ExceptT WriteError Action (List String) := do
  atPath directory (ensureDirectories directory)
  files.mapM (·.write directory)

end OpenApiClient
