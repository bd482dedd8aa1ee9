import OpenApiClient.Command.Running

/-! The program.
Carries out the actions of a command on the real file system. It has no network of its own: every
request goes unanswered, so that the local fallback is read. -/
namespace OpenApiClient

def FileError.ofSystem : IO.Error → FileError
  | .noFileOrDirectory .. => .notFound
  | .alreadyExists .. => .alreadyExists
  | .inappropriateType _ code _ => if code = 20 then .notADirectory else .isADirectory
  | e => .other (toString e)

def onFile (path : String) (step : IO α) : IO (Except FileError α) := do
  if '\x00' ∈ path.toList then pure (.error .nulInName)
  else
    try pure (.ok (← step))
    catch e => pure (.error (.ofSystem e))

def Action.perform : Action α → IO α
  | done result => pure result
  | has path next => do
    let there ← if path.isEmpty then pure false else ((← IO.currentDir) / path).pathExists
    (next there).perform
  | isDirectory path next => do
    let there ← if path.isEmpty then pure false else ((← IO.currentDir) / path).isDir
    (next there).perform
  | read path next => do (next (← onFile path (IO.FS.readBinFile path))).perform
  | write path content next => do (next (← onFile path (IO.FS.writeBinFile path content))).perform
  | makeDirectory path next => do (next (← onFile path (IO.FS.createDir path))).perform
  | request _ _ next => (next none).perform

end OpenApiClient

open OpenApiClient in
def main (arguments : List String) : IO UInt32 := do
  let spec ← IO.getEnv specVariable
  let base ← IO.getEnv baseVariable
  let environment : Environment :=
    ⟨fun name =>
      if name = specVariable then spec else if name = baseVariable then base else none⟩
  let outcome ← (runArguments environment arguments).perform
  IO.print outcome.output
  IO.eprint outcome.messages
  pure outcome.exitCode.toUInt32
