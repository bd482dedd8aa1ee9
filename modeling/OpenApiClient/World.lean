import OpenApiClient.Action

/-! Worlds.
A model of what actions act on: a disk, and a server that works through a script. Each request that
reaches the server takes the next entry of the script, which is an answer or a fault; a request past
the end of the script fails. -/
namespace OpenApiClient

structure Server where
  address : String
  /-- What becomes of the requests to come. -/
  script : List (Option Reply) := []
  requests : List String := []

namespace Server

/-- What an address asks a server for, if it leads there: all up to a fragment. -/
def target? (server : Server) (url : String) : Option String :=
  if server.address.toList.isPrefixOf url.toList then
    let target := (url.toList.drop server.address.length).takeWhile (· ≠ '#')
    match target with
    | [] => some "/"
    | '/' :: _ => some (.ofList target)
    | '?' :: _ => some ("/" ++ .ofList target)
    | _ => none
  else none

def isBodiless (status : Nat) : Bool := status = 204 || status = 304

def answer (server : Server) (url : String) : Option Reply × Server :=
  match server.target? url with
  | none => (none, server)
  | some target =>
    let reply := (server.script.head?.join).map fun reply =>
      if isBodiless reply.status then { reply with body := .empty } else reply
    (reply,
      { server with
        script := server.script.tail
        requests := server.requests ++ ["GET " ++ target] })

end Server

structure World where
  disk : Disk := {}
  server : Option Server := none

namespace World

def change (world : World) : Except FileError Disk → Except FileError Unit × World
  | .ok disk => (.ok (), { world with disk })
  | .error e => (.error e, world)

def answer (world : World) (url : String) : Option Reply × World :=
  match world.server with
  | none => (none, world)
  | some server =>
    let (reply, server) := server.answer url
    (reply, { world with server := some server })

end World

def Action.run : Action α → World → α × World
  | done result, world => (result, world)
  | has path next, world => (next (world.disk.has path)).run world
  | isDirectory path next, world => (next (world.disk.isDirectory path)).run world
  | read path next, world => (next (world.disk.read path)).run world
  | write path content next, world =>
    let (result, world) := world.change (world.disk.write path content)
    (next result).run world
  | makeDirectory path next, world =>
    let (result, world) := world.change (world.disk.makeDirectory path)
    (next result).run world
  | request url _ next, world =>
    let (reply, world) := world.answer url
    (next reply).run world

@[simp] theorem Action.run_pure (a : α) (world : World) :
    (pure a : Action α).run world = (a, world) := rfl

theorem Action.run_bind (action : Action α) (f : α → Action β) (world : World) :
    (action >>= f).run world = (f (action.run world).1).run (action.run world).2 := by
  change (action.bind f).run world = _
  induction action generalizing world with
  | done a => rfl
  | has path next ih => exact ih _ _
  | isDirectory path next ih => exact ih _ _
  | read path next ih => exact ih _ _
  | write path content next ih => exact ih _ _
  | makeDirectory path next ih => exact ih _ _
  | request url timeout next ih => exact ih _ _

end OpenApiClient
