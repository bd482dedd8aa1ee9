import OpenApiClient.Action
import OpenApiClient.Config.Settings
import OpenApiClient.Decimal
import OpenApiClient.Text.Quoted
import OpenApiClient.Yaml.Value

/-! Settings files, read and loaded.
A file is a mapping of entries and sections. What is left out keeps its default, and what is not known
is passed over. Wherever a text is wanted any scalar will do. A mismatch is reported with the entries
that lead to it and with its place; one that an entry cannot place is placed at the start of its
section and named after that. A file that is not there is no fault. One that is there has to be text,
fit the settings and be a single document; the first mismatch is reported even where the text is
faulty apart from it. -/
namespace OpenApiClient

open Yaml (Node Tree Meaning TextPlace Tag)

inductive SettingsMismatch
  | wrongScalar (found : Meaning) (expected : String)
  | wideNumber (found : Int) (expected : String)
  | wrongSequence (expected : String)
  | wrongMapping (expected : String)
  | tooLarge (found : Nat) (expected : String)
  | wrongText (found expected : String)
  | unknownClient (name : String)
  | repeatedEntry (name : String)
  deriving DecidableEq, Repr

def foundText : Meaning → String
  | .null => "unit value"
  | .bool true => "boolean `true`"
  | .bool false => "boolean `false`"
  | .integer n => "integer `" ++ toString n ++ "`"
  | .double bits => "floating point `" ++ Decimal.messageText bits ++ "`"
  | .text s => "string " ++ Text.quoted s

def SettingsMismatch.message : SettingsMismatch → String
  | wrongScalar found expected => "invalid type: " ++ foundText found ++ ", expected " ++ expected
  | wideNumber found expected =>
    "invalid type: integer `" ++ toString found ++ "` as " ++ (if found < 0 then "i128" else "u128")
      ++ ", expected " ++ expected
  | wrongSequence expected => "invalid type: sequence, expected " ++ expected
  | wrongMapping expected => "invalid type: map, expected " ++ expected
  | tooLarge found expected =>
    "invalid value: integer `" ++ toString found ++ "`, expected " ++ expected
  | wrongText found expected =>
    "invalid value: string " ++ Text.quoted found ++ ", expected " ++ expected
  | unknownClient name => "unknown variant `" ++ name ++ "`, expected `axios`"
  | repeatedEntry name => "duplicate field `" ++ name ++ "`"

/-- A mismatch with the entries that lead to it, the outermost first. -/
structure SettingsFault where
  path : List String := []
  /-- Where the text is at fault, if that is known yet. -/
  place : Option TextPlace := none
  cause : SettingsMismatch
  deriving DecidableEq, Repr

namespace SettingsFault

def located (place : TextPlace) (fault : SettingsFault) : SettingsFault :=
  { fault with place := fault.place.or (some place) }

/-- The fault as seen from the section that has the entry; without a place it is the section's own. -/
def within (name : String) (fault : SettingsFault) : SettingsFault :=
  if fault.place.isSome then { fault with path := name :: fault.path } else fault

def reason (fault : SettingsFault) : String :=
  if fault.path.isEmpty then fault.cause.message
  else ".".intercalate fault.path ++ ": " ++ fault.cause.message

def message (fault : SettingsFault) : String :=
  let place := fault.place.getD {}
  if place = {} then fault.reason
  else fault.reason ++ " at line " ++ toString (place.line + 1) ++ " column "
    ++ toString (place.column + 1)

end SettingsFault

namespace Settings

abbrev Reading (α : Type) := Except SettingsFault α

def refuse (cause : SettingsMismatch) : Reading α := .error { cause }

def resolve (tree : Tree) : Node → Node
  | .alias place number => (tree.anchored? number).getD (.empty place)
  | node => node

def refuseNode (expected : String) : Node → Reading α
  | .scalar _ text style tag =>
    match Yaml.meaning text style tag with
    | .ok meaning => refuse (.wrongScalar meaning expected)
    | .error (.tooWide value) => refuse (.wideNumber value expected)
    | .error (.misfit text demanded) => refuse (.wrongText text demanded)
  | .sequence .. => refuse (.wrongSequence expected)
  | .mapping .. => refuse (.wrongMapping expected)
  | .alias .. => refuse (.wrongScalar .null expected)

abbrev EntryReader (α : Type) := Tree → Node → Reading α

/-- An entry whose faults lie where its node starts, or the one that it is an alias of. -/
def placed (read : Node → Reading α) : EntryReader α := fun tree node =>
  let target := resolve tree node
  (read target).mapError (·.located target.place)

def textEntry (expected : String) : EntryReader String := placed fun
  | .scalar _ text .. => pure text
  | node => refuseNode expected node

/-- Whether a scalar may mean something else than its text: without quotes, or literal and tagged so. -/
def mayMean (core : String) (style : Yaml.ScalarStyle) (tag : Option Tag) : Bool :=
  style = .plain || style = .literal && tag = some (.core core)

def naturalEntry (bound : Nat) (expected : String) : EntryReader Nat := placed fun node =>
  match node with
  | .scalar _ text style tag =>
    match if mayMean "int" style tag then Yaml.natural64? text else none with
    | some n => if n < bound then pure n else refuse (.tooLarge n expected)
    | none => refuseNode expected node
  | node => refuseNode expected node

def boolEntry : EntryReader Bool := placed fun node =>
  match node with
  | .scalar _ text style tag =>
    match if mayMean "bool" style tag then Yaml.bool? text else none with
    | some b => pure b
    | none => refuseNode "a boolean" node
  | node => refuseNode "a boolean" node

/-- A text, or nothing where a scalar without quotes is empty or null. One that is tagged as null
and is not is a fault that only the section can place. -/
def optionalEntry : EntryReader (Option String) := fun tree node =>
  match resolve tree node with
  | .scalar _ text .plain none =>
    pure (if text.isEmpty || Yaml.isNullWord text then none else some text)
  | .scalar _ text .plain (some tag) =>
    if tag = .core "null" then
      if Yaml.isNullWord text then pure none else refuse (.wrongText text "null")
    else pure (some text)
  | node => some <$> textEntry "a string" tree node

def emptyVariant : Node → Reading Unit
  | .scalar _ text style _ =>
    if style = .plain && (text.isEmpty || Yaml.isNullWord text) then pure ()
    else refuse (.wrongText text "null")
  | node => refuseNode "unit" node

def clientVariant (node : Node) : Reading Unit :=
  let content (checked : Reading Unit) := checked.mapError (·.located node.place)
  match node.tag?.bind Tag.name?, node with
  | some name, node =>
    if name = "axios" then content (emptyVariant node) else refuse (.unknownClient name)
  | none, .scalar _ text .. =>
    content (if text = "axios" then pure () else refuse (.unknownClient text))
  | none, node => content (refuseNode "a YAML tag starting with '!'" node)

/-- The client library, of which there is one. An unknown name in a tag is a fault of the section,
unless an alias stands for the node, which then has the fault. -/
def clientEntry : EntryReader Unit := fun tree node =>
  match node with
  | .alias place _ => (clientVariant (resolve tree node)).mapError (·.located place)
  | node => clientVariant node

abbrev Entries (σ : Type) := List (String × (σ → EntryReader σ))

def entry (name : String) (read : EntryReader α) (set : σ → α → σ) :
    String × (σ → EntryReader σ) :=
  (name, fun section' tree node => (read tree node).map (set section'))

/-- The name that the path to an entry shows; a key that is an alias has none. -/
def pathName : Node → String
  | .scalar _ text .. => text
  | _ => "?"

def readPairs (entries : Entries σ) (tree : Tree) :
    σ → List String → List (Node × Node) → Reading σ
  | section', _, [] => pure section'
  | section', seen, (key, value) :: rest => do
    let name ← textEntry "field identifier" tree key
    match entries.lookup name with
    | none => readPairs entries tree section' seen rest
    | some read =>
      if name ∈ seen then refuse (.repeatedEntry name)
      else
        let changed ← (read section' tree value).mapError (·.within (pathName key))
        readPairs entries tree changed (name :: seen) rest

def sectionEntry (expected : String) (entries : Entries σ) (defaults : σ) : EntryReader σ :=
  fun tree node =>
    placed (fun
      | .mapping _ pairs _ => readPairs entries tree defaults [] pairs
      | .scalar _ "" .plain _ => pure defaults
      | node => refuseNode expected node) tree node

def remoteEntries : Entries RemoteSettings := [
  entry "enabled" boolEntry fun s v => { s with enabled := v },
  entry "baseURL" (textEntry "a string") fun s v => { s with baseUrl := v },
  entry "specEndpoint" (textEntry "a string") fun s v => { s with specEndpoint := v },
  entry "timeout" (naturalEntry UInt64.size "u64") fun s v => { s with timeout := v },
  entry "retries" (naturalEntry UInt32.size "u32") fun s v => { s with retries := v },
  entry "retryDelay" (naturalEntry UInt64.size "u64") fun s v => { s with retryDelay := v },
  entry "saveLocal" boolEntry fun s v => { s with saveLocal := v }]

def clientEntries : Entries ClientOptions := [
  entry "toJS" boolEntry fun s v => { s with toJavaScript := v },
  entry "httpClientType" clientEntry fun s _ => s,
  entry "unwrapResponseData" boolEntry fun s v => { s with unwrapResponseData := v },
  entry "clientName" (textEntry "a string") fun s v => { s with clientName := v }]

def entries : Entries Settings := [
  entry "openApiSpec" (textEntry "a string") fun s v => { s with openApiSpec := v },
  entry "localFallback" (textEntry "path string") fun s v => { s with localFallback := v },
  entry "remote" (sectionEntry "struct RemoteConfig" remoteEntries {}) fun s v =>
    { s with remote := v },
  entry "outputDir" (textEntry "path string") fun s v => { s with outputDir := v },
  entry "fileName" optionalEntry fun s v => { s with fileName := v },
  entry "generateOptions" (sectionEntry "struct GenerateOptions" clientEntries {}) fun s v =>
    { s with client := v }]

def ofTree (tree : Tree) : Reading Settings :=
  match tree.root with
  | none => pure {}
  | some root => sectionEntry "struct ApiGenConfig" entries {} tree root

end Settings

inductive ContentFault
  | notText
  | malformed
  | severalDocuments
  /-- A mismatch, and whether the text gives a value at all. -/
  | mismatch (fault : SettingsFault) (hasValue : Bool)
  deriving DecidableEq, Repr

def ContentFault.message : ContentFault → String
  | notText => "stream did not contain valid UTF-8"
  | malformed => "the text is not one well-formed document"
  | severalDocuments =>
    "deserializing from YAML containing more than one document is not supported"
  | mismatch fault _ => fault.message

inductive SettingsError
  | unreadable (path : String) (cause : FileError)
  | unusable (path : String) (cause : ContentFault)
  deriving DecidableEq, Repr

def SettingsError.cause : SettingsError → String
  | unreadable _ cause => cause.message
  | unusable _ cause => cause.message

def SettingsError.message (e : SettingsError) : String :=
  match e with
  | unreadable path _ => "failed to read config " ++ path ++ ": " ++ e.cause
  | unusable path .notText => "failed to read config " ++ path ++ ": " ++ e.cause
  | unusable path _ => "failed to parse config " ++ path ++ ": " ++ e.cause

namespace Settings

def parse (text : String) : Except ContentFault Settings :=
  match Yaml.Tree.ofText? text with
  | none => .error .malformed
  | some tree =>
    match ofTree tree with
    | .ok settings => if tree.alone then .ok settings else .error .severalDocuments
    | .error fault => .error (.mismatch fault tree.value?.isSome)

def ofBytes (content : ByteArray) : Except ContentFault Settings :=
  match String.fromUTF8? content with
  | some text => parse text
  | none => .error .notText

def load (path : String) : ExceptT SettingsError Action (Option Settings) := do
  if ← hasPath path then
    let content ← (readFile path).adapt (.unreadable path)
    some <$> ExceptT.mk (pure ((ofBytes content).mapError (.unusable path)))
  else pure none

end Settings

end OpenApiClient
