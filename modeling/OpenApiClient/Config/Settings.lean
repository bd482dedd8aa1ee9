/-! Everything a run can be told by a configuration file, the environment and the command line.
The environment replaces two addresses, unless its value is empty. -/
namespace OpenApiClient

structure ClientOptions where
  toJavaScript : Bool := false
  unwrapResponseData : Bool := false
  clientName : String := "ApiClient"
  deriving DecidableEq, Repr

def ClientOptions.typed (options : ClientOptions) : Bool := !options.toJavaScript

def ClientOptions.extension (options : ClientOptions) : String :=
  if options.toJavaScript then "js" else "ts"

structure RemoteSettings where
  enabled : Bool := true
  baseUrl : String := "http://localhost:3000"
  specEndpoint : String := "/openapi.json"
  /-- Milliseconds that one attempt may take. -/
  timeout : Nat := 10000
  /-- Attempts in all. -/
  retries : Nat := 3
  /-- Milliseconds between two attempts. -/
  retryDelay : Nat := 1000
  saveLocal : Bool := true
  deriving DecidableEq, Repr

structure Settings where
  openApiSpec : String := "./openapi.json"
  localFallback : String := "./openapi.json"
  remote : RemoteSettings := {}
  outputDir : String := "./src/api/generated"
  fileName : Option String := none
  client : ClientOptions := {}
  deriving DecidableEq, Repr

def dropTrailingSlashes (s : String) : String :=
  .ofList (s.toList.reverse.dropWhile (· = '/')).reverse

def dropLeadingSlashes (s : String) : String := .ofList (s.toList.dropWhile (· = '/'))

/-- The base address and the endpoint, joined by one slash. -/
def RemoteSettings.specUrl (remote : RemoteSettings) : String :=
  dropTrailingSlashes remote.baseUrl ++ "/" ++ dropLeadingSlashes remote.specEndpoint

structure Environment where
  value? : String → Option String

def specVariable : String := "API_SPEC_URL"

def baseVariable : String := "API_BASE_URL"

def Environment.nonempty? (environment : Environment) (name : String) : Option String :=
  (environment.value? name).filter (!·.isEmpty)

def Settings.withEnvironment (settings : Settings) (environment : Environment) : Settings :=
  { settings with
    openApiSpec := (environment.nonempty? specVariable).getD settings.openApiSpec
    remote := { settings.remote with
      baseUrl := (environment.nonempty? baseVariable).getD settings.remote.baseUrl } }

def settingsFile : String := "apigen.config.yaml"

def initialSettingsText : String := String.join <| [
  "# apigen configuration",
  "openApiSpec: ./openapi.json      # local path or http(s) URL (env: API_SPEC_URL)",
  "localFallback: ./openapi.json    # cache read when the remote fetch fails",
  "",
  "remote:",
  "  enabled: true",
  "  baseURL: http://localhost:3000 # env: API_BASE_URL",
  "  specEndpoint: /openapi.json",
  "  timeout: 10000                 # ms per attempt",
  "  retries: 3                     # total attempts",
  "  retryDelay: 1000               # ms between attempts",
  "  saveLocal: true                # write fetched documents to localFallback",
  "",
  "outputDir: ./src/api/generated",
  "# fileName: api.ts               # defaults to api.ts, or api.js with toJS",
  "",
  "generateOptions:",
  "  toJS: false                    # emit JavaScript + JSDoc instead of TypeScript",
  "  httpClientType: axios",
  "  unwrapResponseData: false      # return response.data instead of the AxiosResponse",
  "  clientName: ApiClient"].map (· ++ "\n")

end OpenApiClient
