import OpenApiClient.Action
import OpenApiClient.Config.Settings
import OpenApiClient.Model.Reading

/-! How a document is obtained, from a file or from a server.
A server is asked several times; if it never answers, or must not be asked, the local fallback is read
instead. A document from a server that was accepted may be kept as the fallback for later. The delay
between two attempts (`retryDelay` of the settings) is left out, since nothing here tells time. -/
namespace OpenApiClient

def isRemote (source : String) : Bool :=
  "http://".toList.isPrefixOf source.toList || "https://".toList.isPrefixOf source.toList

inductive Origin
  | remote (url : String)
  | fallback (path : String)
  | file (path : String)
  deriving DecidableEq, Repr

def Origin.text : Origin → String
  | remote url => url
  | fallback path => path ++ " (local fallback)"
  | file path => path

inductive AcquireError
  | notFound (path : String) (cause : FileError)
  | unreadable (origin : String) (cause : ReadError)
  deriving DecidableEq, Repr

def AcquireError.message : AcquireError → String
  | notFound path cause => "OpenAPI document not found: " ++ path ++ " (" ++ cause.message ++ ")"
  | unreadable origin cause =>
    "failed to parse OpenAPI document from " ++ origin ++ ": " ++ cause.message

structure Acquired where
  document : Document
  origin : Origin

structure Acquisition where
  remote : RemoteSettings := {}
  fallback : String := "./openapi.json"
  deriving DecidableEq, Repr

def Settings.acquisition (settings : Settings) : Acquisition :=
  { remote := settings.remote, fallback := settings.localFallback }

def parseBytes (origin : String) (bytes : ByteArray) : Except AcquireError Json :=
  (Json.parse (Symbol.ofBytes bytes)).mapError (.unreadable origin)

def acquired (origin : Origin) (value : Json) : Except AcquireError Acquired :=
  match Document.ofJson value with
  | .ok document => .ok ⟨document, origin⟩
  | .error cause => .error (.unreadable origin.text cause)

/-- A result that asks nothing of the world. -/
def settled (result : Except ε α) : ExceptT ε Action α := .mk (pure result)

def readLocal (path : String) : ExceptT AcquireError Action Json := do
  let bytes ← (readFile path).adapt (.notFound path)
  settled (parseBytes path bytes)

def Reply.isFailure (reply : Reply) : Bool := 400 ≤ reply.status && reply.status < 600

def attempt (url : String) (timeout : Nat) : Action (Option ByteArray) := do
  pure <| match ← request url timeout with
    | some reply => if reply.isFailure then none else some reply.body
    | none => none

def fetch (url : String) (timeout : Nat) : Nat → Action (Option ByteArray)
  | 0 => pure none
  | attempts + 1 => do
    match ← attempt url timeout with
    | some body => pure (some body)
    | none => fetch url timeout attempts

/-- Keeps a value in a file; whether that works is of no consequence. -/
def keep (path : String) (value : Json) : Action Unit := do
  let _ ← (storeFile path value.indented.toUTF8).run

namespace Acquisition

/-- The document that was fetched; it is kept only after it has been accepted. -/
def accept (acquisition : Acquisition) (url : String) (body : ByteArray) :
    ExceptT AcquireError Action Acquired := do
  let value ← settled (parseBytes url body)
  let result ← settled (acquired (.remote url) value)
  if acquisition.remote.saveLocal then
    ExceptT.lift (keep acquisition.fallback value)
  pure result

def readFallback (acquisition : Acquisition) : ExceptT AcquireError Action Acquired := do
  let value ← readLocal acquisition.fallback
  settled (acquired (.fallback acquisition.fallback) value)

def attempts (acquisition : Acquisition) : Nat := max acquisition.remote.retries 1

def fetched (acquisition : Acquisition) (url : String) : Action (Option ByteArray) :=
  if acquisition.remote.enabled then fetch url acquisition.remote.timeout acquisition.attempts
  else pure none

def acquire (acquisition : Acquisition) (source : String) :
    ExceptT AcquireError Action Acquired := do
  if isRemote source then
    match ← ExceptT.lift (acquisition.fetched source) with
    | some body => acquisition.accept source body
    | none => acquisition.readFallback
  else
    let value ← readLocal source
    settled (acquired (.file source) value)

end Acquisition

end OpenApiClient
