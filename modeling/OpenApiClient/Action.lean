import OpenApiClient.Files.Disk

/-! What the program does to the world around it, as data.
Each step asks something of the file system or the network and goes on with the answer, so the same
action can be run on a model of the world and carried out for real. A directory is made with all its
parents: from the path upwards until one can be made or is there already, and then downwards again. -/
namespace OpenApiClient

structure Reply where
  status : Nat
  body : ByteArray

inductive Action (α : Type)
  | done (result : α)
  | has (path : String) (next : Bool → Action α)
  | isDirectory (path : String) (next : Bool → Action α)
  | read (path : String) (next : Except FileError ByteArray → Action α)
  | write (path : String) (content : ByteArray) (next : Except FileError Unit → Action α)
  | makeDirectory (path : String) (next : Except FileError Unit → Action α)
  /-- One request for a document, given up after some milliseconds; there may be no answer. -/
  | request (url : String) (timeout : Nat) (next : Option Reply → Action α)

namespace Action

protected def bind (action : Action α) (f : α → Action β) : Action β :=
  match action with
  | done a => f a
  | has path next => has path fun answer => (next answer).bind f
  | isDirectory path next => isDirectory path fun answer => (next answer).bind f
  | read path next => read path fun answer => (next answer).bind f
  | write path content next => write path content fun answer => (next answer).bind f
  | makeDirectory path next => makeDirectory path fun answer => (next answer).bind f
  | request url timeout next => request url timeout fun answer => (next answer).bind f

instance : Monad Action where
  pure := done
  bind := Action.bind

@[simp] theorem pure_bind (a : α) (f : α → Action β) : (pure a : Action α) >>= f = f a := rfl

end Action

def hasPath (path : String) : Action Bool := .has path .done

def isDirectoryAt (path : String) : Action Bool := .isDirectory path .done

def readFile (path : String) : ExceptT FileError Action ByteArray := .mk (.read path .done)

def writeFile (path : String) (content : ByteArray) : ExceptT FileError Action Unit :=
  .mk (.write path content .done)

def makeDirectory (path : String) : ExceptT FileError Action Unit := .mk (.makeDirectory path .done)

def request (url : String) (timeout : Nat) : Action (Option Reply) := .request url timeout .done

/-- Makes one directory; one that is there already will do. -/
def ensureDirectory (path : String) : ExceptT FileError Action Unit :=
  tryCatch (makeDirectory path) fun e => do
    if ← isDirectoryAt path then pure () else throw e

/-- Makes the directory of a path and its parents, as many as `depth`. -/
def ensureDirectoriesTo : Nat → String → ExceptT FileError Action Unit
  | 0, _ => pure ()
  | depth + 1, path =>
    if path.isEmpty then pure ()
    else
      tryCatch (makeDirectory path) fun
        | .notFound =>
          match Path.parent? path with
          | none => throw (.other "failed to create whole tree")
          | some parent => do
            ensureDirectoriesTo depth parent
            ensureDirectory path
        | e => do
          if ← isDirectoryAt path then pure () else throw e

def ensureDirectories (path : String) : ExceptT FileError Action Unit :=
  ensureDirectoriesTo (path.length + 1) path

def storeFile (path : String) (content : ByteArray) : ExceptT FileError Action Unit := do
  match Path.parent? path with
  | some parent => ensureDirectories parent
  | none => pure ()
  writeFile path content

end OpenApiClient
