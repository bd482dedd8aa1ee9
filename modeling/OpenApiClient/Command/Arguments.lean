import OpenApiClient.Config.Settings

/-! Arguments.
The words of a command line are taken in order: a command, and then its options, each at most once.
The value of an option follows it or is attached to it; a word that starts with a hyphen is never
taken for the value of the option before it. The first thing that is wrong ends the reading, and so
does a request for help. -/
namespace OpenApiClient

inductive Shell
  | bash
  | elvish
  | fish
  | powershell
  | zsh
  deriving DecidableEq, Repr

def Shell.ofName? : String → Option Shell
  | "bash" => some bash
  | "elvish" => some elvish
  | "fish" => some fish
  | "powershell" => some powershell
  | "zsh" => some zsh
  | _ => none

structure GenerateFlags where
  config : String := settingsFile
  input : Option String := none
  output : Option String := none
  javaScript : Bool := false
  remote : Bool := false
  deriving DecidableEq, Repr

inductive Command
  | generate (flags : GenerateFlags)
  | validate (input : String)
  | start (force : Bool)
  | completions (shell : Shell)
  deriving DecidableEq, Repr

inductive Invocation
  | command (command : Command)
  | help
  | version
  deriving DecidableEq, Repr

inductive Interruption
  | help
  | misuse
  deriving DecidableEq, Repr

inductive OptionKind
  | flag
  | path
  | text
  deriving DecidableEq, Repr

structure OptionSpec where
  long : String
  short : Option Char := none
  kind : OptionKind
  deriving DecidableEq, Repr

structure Given where
  values : List (String × String) := []
  words : List String := []
  deriving DecidableEq, Repr

namespace Given

def value? (given : Given) (long : String) : Option String := given.values.lookup long

def has (given : Given) (long : String) : Bool := (given.value? long).isSome

/-- Sets an option, unless it was set before or the value will not do. -/
def set (given : Given) (option : OptionSpec) (value : String) : Except Interruption Given :=
  if given.has option.long || option.kind = .path && value.isEmpty then .error .misuse
  else .ok { given with values := (option.long, value) :: given.values }

end Given

def splitValue (word : List Char) : String × Option String :=
  let name := word.takeWhile (· ≠ '=')
  (.ofList name,
    match word.drop name.length with
    | _ :: value => some (.ofList value)
    | [] => none)

structure Progress where
  given : Given := {}
  pending : Option OptionSpec := none
  /-- Whether two hyphens alone have ended the options. -/
  ended : Bool := false
  deriving DecidableEq, Repr

namespace Progress

def long (options : List OptionSpec) (progress : Progress) (name : String) (value : Option String) :
    Except Interruption Progress :=
  if progress.pending.isSome then .error .misuse
  else if name = "help" then .error (if value.isSome then .misuse else .help)
  else match options.find? (·.long = name), value with
    | none, _ => .error .misuse
    | some option, value =>
      match option.kind, value with
      | .flag, some _ => .error .misuse
      | .flag, none => do pure { progress with given := ← progress.given.set option "" }
      | _, some value => do pure { progress with given := ← progress.given.set option value }
      | _, none => .ok { progress with pending := some option }

/-- Options by their letters; what follows the letter of an option with a value is the value. -/
def short (options : List OptionSpec) (progress : Progress) :
    List Char → Except Interruption Progress
  | [] => .ok progress
  | letter :: rest =>
    if progress.pending.isSome then .error .misuse
    else if letter = 'h' then .error .help
    else match options.find? (·.short = some letter) with
      | none => .error .misuse
      | some option =>
        if option.kind = .flag then do
          let given ← progress.given.set option ""
          short options { progress with given } rest
        else match rest with
          | [] => .ok { progress with pending := some option }
          | '=' :: value => do
            pure { progress with given := ← progress.given.set option (.ofList value) }
          | value => do
            pure { progress with given := ← progress.given.set option (.ofList value) }

def word (isWord : String → Bool) (progress : Progress) (word : String) :
    Except Interruption Progress :=
  match progress.pending with
  | some option =>
    if progress.ended then .error .misuse
    else do pure { progress with given := ← progress.given.set option word, pending := none }
  | none =>
    if progress.given.words.isEmpty && isWord word then
      .ok { progress with given := { progress.given with words := [word] } }
    else .error .misuse

def next (options : List OptionSpec) (isWord : String → Bool) (progress : Progress)
    (argument : String) : Except Interruption Progress :=
  if progress.ended then progress.word isWord argument
  else match argument.toList with
    | ['-', '-'] => .ok { progress with ended := true }
    | '-' :: '-' :: rest => let (name, value) := splitValue rest; progress.long options name value
    | '-' :: letter :: letters => progress.short options (letter :: letters)
    | _ => progress.word isWord argument

end Progress

/-- Reads the arguments of a command, of which one word at most may be none of its options. -/
def readOptions (options : List OptionSpec) (isWord : String → Bool) (arguments : List String) :
    Except Interruption Given := do
  let progress ← arguments.foldlM (Progress.next options isWord) {}
  if progress.pending.isSome then .error .misuse else pure progress.given

namespace Command

def generateOptions : List OptionSpec := [
  { long := "config", short := some 'c', kind := .path },
  { long := "input", short := some 'i', kind := .text },
  { long := "output", short := some 'o', kind := .path },
  { long := "js", kind := .flag },
  { long := "remote", kind := .flag }]

/-- A source may not be named both by address and by the settings for servers. -/
def readGenerate (arguments : List String) : Except Interruption Command := do
  let given ← readOptions generateOptions (fun _ => false) arguments
  if given.has "remote" && given.has "input" then .error .misuse
  else pure <| .generate {
    config := (given.value? "config").getD settingsFile
    input := given.value? "input"
    output := given.value? "output"
    javaScript := given.has "js"
    remote := given.has "remote" }

def readValidate (arguments : List String) : Except Interruption Command := do
  let options : List OptionSpec := [{ long := "input", short := some 'i', kind := .path }]
  let given ← readOptions options (fun _ => false) arguments
  pure (.validate ((given.value? "input").getD "./openapi.json"))

def readStart (arguments : List String) : Except Interruption Command := do
  let given ← readOptions [{ long := "force", kind := .flag }] (fun _ => false) arguments
  pure (.start (given.has "force"))

def readCompletions (arguments : List String) : Except Interruption Command := do
  let given ← readOptions [] (fun word => (Shell.ofName? word).isSome) arguments
  match given.words.head?.bind Shell.ofName? with
  | some shell => pure (.completions shell)
  | none => .error .misuse

def readers : List (String × (List String → Except Interruption Command)) := [
  ("generate", readGenerate), ("validate", readValidate), ("init", readStart),
  ("completions", readCompletions)]

def names : List String := readers.map (·.1) ++ ["help"]

end Command

/-- Reads a command line; nothing if it is misused. -/
def Invocation.ofArguments? : List String → Option Invocation
  | [] => none
  | "--help" :: _ => some help
  | "--version" :: _ => some version
  | ["help"] => some help
  | ["help", name] => if name ∈ Command.names then some help else none
  | name :: arguments =>
    match Command.readers.lookup name with
    | some read =>
      match read arguments with
      | .ok parsed => some (command parsed)
      | .error .help => some help
      | .error .misuse => none
    | none =>
      match name.toList with
      | '-' :: 'h' :: _ => some help
      | '-' :: 'V' :: _ => some version
      | _ => none

end OpenApiClient
