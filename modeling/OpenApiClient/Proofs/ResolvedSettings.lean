import OpenApiClient.Proofs.GenerationRuns
import OpenApiClient.Proofs.SettingsContent

/-! How settings are resolved.
What flags say counts before what the environment says, that before what the file says, and that
before the defaults. Each setting is resolved by itself. -/
namespace OpenApiClient

open Yaml (Tree)

/-- Two parts with one slash between them, in place of all that end the one and begin the other. -/
def Joined (base endpoint address : String) : Prop :=
  ∃ start rest before after,
    base.toList = start ++ List.replicate before '/' ∧ start.getLast? ≠ some '/' ∧
    endpoint.toList = List.replicate after '/' ++ rest ∧ rest.head? ≠ some '/' ∧
    address.toList = start ++ '/' :: rest

theorem dropSlashes_iff {cs rest : List Char} :
    (∃ n, cs = List.replicate n '/' ++ rest) ∧ rest.head? ≠ some '/' ↔
      rest = cs.dropWhile (· = '/') := by
  induction cs with
  | nil =>
    constructor
    · rintro ⟨⟨n, same⟩, _⟩
      exact (List.append_eq_nil_iff.mp same.symm).2
    · rintro rfl
      exact ⟨⟨0, rfl⟩, nofun⟩
  | cons c cs ih =>
    by_cases slash : c = '/'
    · subst slash
      rw [List.dropWhile_cons_of_pos (by simp), ← ih]
      refine and_congr_left fun starts => ?_
      constructor
      · rintro ⟨n, same⟩
        cases n with
        | zero =>
          rw [← show _ = rest from same] at starts
          exact absurd rfl starts
        | succ n => exact ⟨n, (List.cons.inj same).2⟩
      · rintro ⟨n, rfl⟩
        exact ⟨n + 1, rfl⟩
    · rw [List.dropWhile_cons_of_neg (by simpa using slash)]
      constructor
      · rintro ⟨⟨n, same⟩, _⟩
        cases n with
        | zero => exact same.symm
        | succ n => exact absurd (List.cons.inj same).1 slash
      · rintro rfl
        exact ⟨⟨0, rfl⟩, by simpa using slash⟩

theorem dropTrailing_iff {cs start : List Char} :
    (∃ n, cs = start ++ List.replicate n '/') ∧ start.getLast? ≠ some '/' ↔
      start = (cs.reverse.dropWhile (· = '/')).reverse := by
  have turned : ∀ n, cs = start ++ List.replicate n '/' ↔
      cs.reverse = List.replicate n '/' ++ start.reverse := by
    intro n
    rw [List.reverse_eq_iff, List.reverse_append, List.reverse_reverse, List.reverse_replicate]
  rw [← List.reverse_eq_iff, ← dropSlashes_iff, List.head?_reverse]
  simp only [turned]

theorem joined_iff {remote : RemoteSettings} {address : String} :
    Joined remote.baseUrl remote.specEndpoint address ↔ address = remote.specUrl := by
  have letters : remote.specUrl.toList =
      (remote.baseUrl.toList.reverse.dropWhile (· = '/')).reverse ++
        '/' :: remote.specEndpoint.toList.dropWhile (· = '/') := by
    simp [RemoteSettings.specUrl, dropTrailingSlashes, dropLeadingSlashes]
  rw [← String.toList_inj, letters]
  constructor
  · rintro ⟨start, rest, before, after, base, last, endpoint, first, same⟩
    rw [same, dropTrailing_iff.mp ⟨⟨before, base⟩, last⟩,
      dropSlashes_iff.mp ⟨⟨after, endpoint⟩, first⟩]
  · intro same
    obtain ⟨⟨before, base⟩, last⟩ := dropTrailing_iff.mpr
      (Eq.refl (remote.baseUrl.toList.reverse.dropWhile (· = '/')).reverse)
    obtain ⟨⟨after, endpoint⟩, first⟩ := dropSlashes_iff.mpr
      (Eq.refl (remote.specEndpoint.toList.dropWhile (· = '/')))
    exact ⟨_, _, before, after, base, last, endpoint, first, same⟩

/-- A variable is set to a value; an empty one does not count. -/
def Environment.Sets (environment : Environment) (name value : String) : Prop :=
  environment.value? name = some value ∧ value ≠ ""

def Environment.Prevails (environment : Environment) (name filed value : String) : Prop :=
  environment.Sets name value ∨ (∀ other, ¬ environment.Sets name other) ∧ value = filed

/-- Where the document is: where a flag says, on a server if one is asked for, or else where the
environment or the file says. -/
inductive DocumentNamed (flags : GenerateFlags) (environment : Environment) (file : Settings)
    (remote : RemoteSettings) : String → Prop where
  | input {source} : flags.input = some source →
      DocumentNamed flags environment file remote source
  | remote {address} : flags.input = none → flags.remote = true →
      Joined remote.baseUrl remote.specEndpoint address →
      DocumentNamed flags environment file remote address
  | unflagged {source} : flags.input = none → flags.remote = false →
      environment.Prevails "API_SPEC_URL" file.openApiSpec source →
      DocumentNamed flags environment file remote source

structure Overlaid (flags : GenerateFlags) (environment : Environment) (file settings : Settings) :
    Prop where
  openApiSpec : DocumentNamed flags environment file settings.remote settings.openApiSpec
  baseUrl : environment.Prevails "API_BASE_URL" file.remote.baseUrl settings.remote.baseUrl
  remote : settings.remote = { file.remote with baseUrl := settings.remote.baseUrl }
  localFallback : settings.localFallback = file.localFallback
  outputDir : settings.outputDir = flags.output.getD file.outputDir
  fileName : settings.fileName = file.fileName
  toJavaScript : settings.client.toJavaScript = true ↔
    flags.javaScript = true ∨ file.client.toJavaScript = true
  client : settings.client = { file.client with toJavaScript := settings.client.toJavaScript }

variable {environment : Environment} {flags : GenerateFlags} {file settings : Settings}

theorem Environment.nonempty?_eq_some {name value : String} :
    environment.nonempty? name = some value ↔ environment.Sets name value := by
  unfold nonempty? Sets
  rw [Option.filter_eq_some_iff]
  simp

theorem Environment.prevails_iff {name filed value : String} :
    environment.Prevails name filed value ↔ value = (environment.nonempty? name).getD filed := by
  unfold Prevails
  simp only [← nonempty?_eq_some]
  cases environment.nonempty? name with
  | none => simp
  | some given => simp [eq_comm]

theorem documentNamed_iff {remote : RemoteSettings} {source : String} :
    DocumentNamed flags environment file remote source ↔
      source = flags.input.getD (if flags.remote then remote.specUrl
        else (environment.nonempty? "API_SPEC_URL").getD file.openApiSpec) := by
  constructor
  · intro named
    cases named with
    | input given => rw [given, Option.getD_some]
    | remote unnamed asked joined =>
      rw [unnamed, Option.getD_none, if_pos asked, joined_iff.mp joined]
    | unflagged unnamed unasked prevails =>
      rw [unnamed, Option.getD_none, if_neg (by simp [unasked]),
        Environment.prevails_iff.mp prevails]
  · rintro rfl
    cases unnamed : flags.input with
    | some source => exact .input unnamed
    | none =>
      rw [Option.getD_none]
      by_cases asked : flags.remote = true
      · rw [if_pos asked]
        exact .remote unnamed asked (joined_iff.mpr rfl)
      · rw [if_neg asked]
        exact .unflagged unnamed (by simpa using asked) (Environment.prevails_iff.mpr rfl)

theorem overlaid_iff : Overlaid flags environment file settings ↔
    settings = flags.override (file.withEnvironment environment) := by
  constructor
  · rintro ⟨openApiSpec, baseUrl, remote, localFallback, outputDir, fileName, toJavaScript, client⟩
    have address := Environment.prevails_iff.mp baseUrl
    have remote : settings.remote = (file.withEnvironment environment).remote :=
      remote.trans (by rw [address]; rfl)
    have source := documentNamed_iff.mp openApiSpec
    have kind : settings.client.toJavaScript = (flags.javaScript || file.client.toJavaScript) := by
      rw [Bool.eq_iff_iff, Bool.or_eq_true_iff]
      exact toJavaScript
    obtain ⟨_, _, _, _, _, _⟩ := settings
    dsimp only at remote source localFallback outputDir fileName kind client
    rw [remote] at source
    rw [kind] at client
    subst remote source localFallback outputDir fileName client
    rfl
  · rintro rfl
    constructor
    · exact documentNamed_iff.mpr rfl
    · exact Environment.prevails_iff.mpr rfl
    · rfl
    · rfl
    · rfl
    · rfl
    · exact Bool.or_eq_true_iff
    · rfl

/-- The content of the settings file; a file that is not there says as much as an empty one. -/
inductive SettingsContent (world : World) (path : String) : Tree → Prop where
  | absent : world.disk.has path = false → SettingsContent world path ⟨none, [], true⟩
  | present {bytes text tree} : world.disk.read path = .ok bytes →
      String.fromUTF8? bytes = some text → Tree.ofText? text = some tree → tree.alone = true →
      SettingsContent world path tree

variable {world : World} {path : String}

theorem Disk.has_of_read {disk : Disk} {bytes : ByteArray} (read : disk.read path = .ok bytes) :
    disk.has path = true := by
  unfold Disk.read at read
  unfold has
  cases found : disk.find path with
  | error cause =>
    rw [found] at read
    cases read
  | ok there => rfl

theorem Settings.parse_ok {text : String} : parse text = .ok file ↔
    ∃ tree, Tree.ofText? text = some tree ∧ tree.alone = true ∧ ContentTold tree file := by
  unfold parse
  cases Tree.ofText? text with
  | none => simp
  | some tree =>
    simp only [Option.some.injEq, exists_eq_left', ← ofTree_ok]
    cases ofTree tree with
    | error fault => simp
    | ok given => cases tree.alone <;> simp

theorem Settings.ofBytes_ok {bytes : ByteArray} : ofBytes bytes = .ok file ↔
    ∃ text, String.fromUTF8? bytes = some text ∧ parse text = .ok file := by
  unfold ofBytes
  cases String.fromUTF8? bytes <;> simp

theorem Settings.load_run : (load path).run.run world =
    (if world.disk.has path then
      match world.disk.read path with
      | .ok bytes => ((ofBytes bytes).mapError (.unusable path)).map some
      | .error cause => .error (.unreadable path cause)
    else .ok none, world) := by
  change Action.run (.has path _) world = _
  rw [Action.run]
  cases world.disk.has path with
  | false => rfl
  | true =>
    change Action.run (.read path _) world = _
    rw [Action.run]
    cases world.disk.read path with
    | error cause => rfl
    | ok bytes =>
      change (some <$> ExceptT.mk (pure ((ofBytes bytes).mapError (.unusable path))) :
        ExceptT SettingsError Action (Option Settings)).run.run world = _
      rw [run_settled]
      rfl

theorem Settings.load_ok {loaded : Option Settings} :
    (load path).run.run world = (.ok loaded, world) ↔
      world.disk.has path = false ∧ loaded = none ∨ ∃ bytes file, world.disk.read path = .ok bytes ∧
        ofBytes bytes = .ok file ∧ loaded = some file := by
  simp only [load_run, Prod.mk.injEq, and_true]
  cases there : world.disk.has path with
  | false =>
    have unread : ∀ bytes, world.disk.read path ≠ .ok bytes := by
      intro bytes read
      cases there.symm.trans (Disk.has_of_read read)
    simp [unread, eq_comm]
  | true =>
    cases world.disk.read path with
    | error cause => simp
    | ok bytes =>
      cases given : ofBytes bytes with
      | error fault => simp [given, Except.mapError, Except.map]
      | ok file => simp [given, Except.mapError, Except.map, eq_comm]

theorem Settings.load_tells :
    (∃ loaded, (load path).run.run world = (.ok loaded, world) ∧ loaded.getD {} = file) ↔
      ∃ tree, SettingsContent world path tree ∧ ContentTold tree file := by
  constructor
  · rintro ⟨loaded, run, rfl⟩
    rcases load_ok.mp run with ⟨absent, rfl⟩ | ⟨bytes, file, read, given, rfl⟩
    · exact ⟨_, .absent absent, ofTree_ok.mp rfl⟩
    · obtain ⟨text, utf8, parsed⟩ := ofBytes_ok.mp given
      obtain ⟨tree, read', alone, told⟩ := parse_ok.mp parsed
      exact ⟨tree, .present read utf8 read' alone, told⟩
  · rintro ⟨tree, content, told⟩
    cases content with
    | absent absent =>
      cases (ofTree_ok.mpr told : ofTree ⟨none, [], true⟩ = _)
      exact ⟨none, load_ok.mpr (.inl ⟨absent, rfl⟩), rfl⟩
    | present read utf8 read' alone =>
      have given := ofBytes_ok.mpr ⟨_, utf8, parse_ok.mpr ⟨tree, read', alone, told⟩⟩
      exact ⟨some file, load_ok.mpr (.inr ⟨_, file, read, given, rfl⟩), rfl⟩

theorem GenerateFlags.settings_ok :
    (flags.settings environment).run.run world = (.ok settings, world) ↔
      ∃ loaded, (Settings.load flags.config).run.run world = (.ok loaded, world) ∧
        settings = flags.override ((loaded.getD {}).withEnvironment environment) := by
  have unfold : (flags.settings environment).run = (Settings.load flags.config).run >>=
      ExceptT.bindCont fun file =>
        pure (flags.override ((file.getD {}).withEnvironment environment)) := rfl
  rw [unfold, Action.run_bind, Settings.load_run]
  generalize (if world.disk.has flags.config then _ else _ : Except SettingsError _) = result
  cases result with
  | error cause =>
    constructor
    · intro run
      cases run
    · rintro ⟨loaded, run, _⟩
      cases run
  | ok loaded =>
    constructor
    · intro run
      cases run
      exact ⟨loaded, rfl, rfl⟩
    · rintro ⟨loaded', run, rfl⟩
      cases run
      rfl

/-- A run is given settings exactly when its file tells some, and they are those with the
environment and the flags laid over. -/
theorem settings_resolved (flags : GenerateFlags) (environment : Environment) (world : World)
    (settings : Settings) :
    (flags.settings environment).run.run world = (.ok settings, world) ↔
      ∃ tree file, SettingsContent world flags.config tree ∧ Settings.ContentTold tree file ∧
        Overlaid flags environment file settings := by
  rw [GenerateFlags.settings_ok]
  simp only [overlaid_iff]
  constructor
  · rintro ⟨loaded, run, rfl⟩
    obtain ⟨tree, content, told⟩ := Settings.load_tells.mp ⟨loaded, run, rfl⟩
    exact ⟨tree, _, content, told, rfl⟩
  · rintro ⟨tree, file, content, told, rfl⟩
    obtain ⟨loaded, run, rfl⟩ := Settings.load_tells.mpr ⟨tree, content, told⟩
    exact ⟨loaded, run, rfl⟩

def settledWorld : World where
  disk.entries := [(["apigen.config.yaml"], .file
    "remote:\n  baseURL: http://a/\n  specEndpoint: //v3/api\noutputDir: out\n".toUTF8)]

example :
    let environment : Environment := ⟨fun name =>
      [("API_BASE_URL", "http://b//"), ("API_SPEC_URL", "http://c/d.json")].lookup name⟩
    let flags : GenerateFlags := { remote := true, javaScript := true }
    ((flags.settings environment).run.run settledWorld).1.toOption = some {
      openApiSpec := "http://b/v3/api"
      outputDir := "out"
      remote := { baseUrl := "http://b//", specEndpoint := "//v3/api" }
      client := { toJavaScript := true } } := by
  decide +kernel

end OpenApiClient
