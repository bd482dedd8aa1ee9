import OpenApiClient.Acquisition
import OpenApiClient.Client.Generation
import OpenApiClient.Command.Arguments
import OpenApiClient.Config.Reading
import OpenApiClient.Validation

/-! Running commands.
A command tells what it does line by line. It ends well, or with a failure, which is reported after
those lines with its causes; a command line that asks for nothing known ends apart from both. -/
namespace OpenApiClient

inductive CommandError
  | settings (cause : SettingsError)
  | unread (cause : AcquireError)
  | noDocument (cause : AcquireError)
  | invalid (path : String) (cause : Violation)
  | unwritten (cause : WriteError)
  | settingsExist
  | settingsUnwritten (cause : FileError)
  deriving DecidableEq, Repr

/-- What lies behind an error, unless its own text is all there is. -/
def AcquireError.causes : AcquireError → List String
  | notFound .. => []
  | unreadable _ cause => [cause.message]

namespace CommandError

def message : CommandError → String
  | settings cause => cause.message
  | unread cause => cause.message
  | noDocument _ => "failed to obtain the OpenAPI document"
  | invalid path _ => path ++ " is not a valid OpenAPI document"
  | unwritten cause => cause.message
  | settingsExist => settingsFile ++ " already exists. Use --force to overwrite."
  | settingsUnwritten _ => "failed to write " ++ settingsFile

def causes : CommandError → List String
  | settings cause => [cause.cause]
  | unread cause => cause.causes
  | noDocument cause => cause.message :: cause.causes
  | invalid _ cause => [cause.message]
  | unwritten cause => [cause.cause.message]
  | settingsExist => []
  | settingsUnwritten cause => [cause.message]

def indented (margin : String) (text : String) : String :=
  .ofList (text.toList.flatMap fun c => if c = '\n' then '\n' :: margin.toList else [c])

def numbered (number : Nat) (cause : String) : String :=
  let digits := toString number
  "".pushn ' ' (5 - digits.length) ++ digits ++ ": " ++ indented "       " cause

def causesText : List String → String
  | [] => ""
  | [cause] => "\n\nCaused by:\n    " ++ indented "    " cause
  | causes =>
    "\n\nCaused by:" ++ .join (causes.mapIdx fun number cause => "\n" ++ numbered number cause)

def report (e : CommandError) : String := "Error: " ++ e.message ++ causesText e.causes ++ "\n"

end CommandError

structure Outcome where
  exitCode : Nat
  output : String := ""
  messages : String := ""
  deriving DecidableEq, Repr

/-- A run that may fail and has told some lines. -/
abbrev Run := ExceptT CommandError (StateT (List String) Action)

namespace Run

def tell (line : String) : Run Unit := modify (· ++ [line])

def tellWarnings (warnings : List String) : Run Unit :=
  warnings.forM fun warning => tell ("  warning: " ++ warning)

/-- A part of a run that tells nothing, with what its error means to the run. -/
def part (action : ExceptT ε Action α) (toError : ε → CommandError) : Run α :=
  .mk do
    let result ← StateT.lift action.run
    pure (result.mapError toError)

def outcome (run : Run Unit) : Action Outcome := do
  let (result, lines) ← (ExceptT.run run).run []
  let told := String.join (lines.map (· ++ "\n"))
  pure <| match result with
    | .ok () => { exitCode := 0, messages := told }
    | .error e => { exitCode := 1, messages := told ++ e.report }

end Run

def GenerateFlags.override (flags : GenerateFlags) (settings : Settings) : Settings :=
  let named := if flags.remote then settings.remote.specUrl else settings.openApiSpec
  { settings with
    openApiSpec := flags.input.getD named
    outputDir := flags.output.getD settings.outputDir
    client := { settings.client with
      toJavaScript := flags.javaScript || settings.client.toJavaScript } }

/-- The settings of a generation: flags over the environment over the file over the defaults. -/
def GenerateFlags.settings (flags : GenerateFlags) (environment : Environment) :
    ExceptT SettingsError Action Settings := do
  let file ← Settings.load flags.config
  pure (flags.override ((file.getD {}).withEnvironment environment))

namespace Run

def generation (flags : GenerateFlags) (environment : Environment) : Run Unit := do
  let settings ← part (flags.settings environment) .settings
  tell ("Reading OpenAPI document from " ++ settings.openApiSpec)
  let acquired ← part (settings.acquisition.acquire settings.openApiSpec) .noDocument
  let info := acquired.document.info
  tell ("Loaded " ++ info.title ++ " " ++ info.version ++ " from " ++ acquired.origin.text)
  let generated := generate acquired.document settings.client settings.fileName
  let written ← part (writeFiles settings.outputDir generated.files) .unwritten
  written.forM fun path => tell ("  wrote " ++ path)
  tellWarnings (generated.warnings.map (·.message))
  tell ("Generated " ++ toString written.length ++ " files in " ++ settings.outputDir)

def validation (input : String) : Run Unit := do
  let value ← part (readLocal input) .unread
  let report ← part (settled (validate value)) (.invalid input)
  tell ("Valid OpenAPI " ++ report.openapi ++ " document: " ++ report.title)
  tell ("  Version: " ++ report.version)
  tell ("  Paths: " ++ toString report.pathCount)
  tell ("  Schemas: " ++ toString report.schemaCount)
  tellWarnings (report.remarks.map (·.message))

def start (force : Bool) : Run Unit := do
  let there ← part (hasPath settingsFile : ExceptT CommandError Action Bool) id
  if there && !force then throw .settingsExist
  else
    part (writeFile settingsFile initialSettingsText.toUTF8) .settingsUnwritten
    tell ("Created " ++ settingsFile)

end Run

namespace Command

def completionScript : Shell → String
  | .bash => "complete -W '" ++ " ".intercalate names ++ "' apigen\n"
  | .elvish =>
    "set edit:completion:arg-completer[apigen] = \x7b|@words| put " ++ " ".intercalate names
      ++ " \x7d\n"
  | .fish => "complete -c apigen -f -n __fish_use_subcommand -a '" ++ " ".intercalate names ++ "'\n"
  | .powershell =>
    "Register-ArgumentCompleter -Native -CommandName apigen -ScriptBlock \x7b '"
      ++ "', '".intercalate names ++ "' \x7d\n"
  | .zsh => "compctl -k '(" ++ " ".intercalate names ++ ")' apigen\n"

def run (environment : Environment) : Command → Action Outcome
  | generate flags => (Run.generation flags environment).outcome
  | validate input => (Run.validation input).outcome
  | start force => (Run.start force).outcome
  | completions shell => pure { exitCode := 0, output := completionScript shell }

end Command

def versionText : String := "apigen 0.3.0\n"

def helpText : String := "Usage: apigen <" ++ "|".intercalate Command.names ++ ">\n"

def runArguments (environment : Environment) (arguments : List String) : Action Outcome :=
  match Invocation.ofArguments? arguments with
  | some (.command command) => command.run environment
  | some .help => pure { exitCode := 0, output := helpText }
  | some .version => pure { exitCode := 0, output := versionText }
  | none => pure { exitCode := 2, messages := "error: " ++ helpText }

end OpenApiClient
