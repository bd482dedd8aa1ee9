import OpenApiClient.Command.Running
import OpenApiClient.Proofs.RepeatedWriting

/-! How a generation goes.
It reads its settings, obtains its document and writes its files, and fails where one of these does.
All it does besides is tell about it. -/
namespace OpenApiClient

namespace Run

/-- A run in a world, after some lines: its result, the lines told by then and the world after it. -/
def go (run : Run α) (lines : List String) (world : World) :
    (Except CommandError α × List String) × World :=
  (StateT.run (ExceptT.run run) lines).run world

variable {lines told : List String} {world final : World}

theorem go_bind (x : Run α) (f : α → Run β) (lines : List String) (world : World) :
    (x >>= f).go lines world = match x.go lines world with
      | ((.ok a, told), final) => (f a).go told final
      | ((.error e, told), final) => ((.error e, told), final) := by
  have unfold : (StateT.run (ExceptT.run (x >>= f)) lines : Action _) =
      StateT.run (ExceptT.run x) lines >>= fun result =>
        StateT.run (ExceptT.bindCont f result.1) result.2 := rfl
  rw [go, unfold, Action.run_bind, go]
  generalize (StateT.run (ExceptT.run x) lines).run world = result
  obtain ⟨⟨_ | _, _⟩, _⟩ := result <;> rfl

theorem go_tell (line : String) (lines : List String) (world : World) :
    (tell line).go lines world = ((.ok (), lines ++ [line]), world) := rfl

theorem go_forM (f : α → String) (xs : List α) (lines : List String) (world : World) :
    (xs.forM fun x => tell (f x)).go lines world = ((.ok (), lines ++ xs.map f), world) := by
  induction xs generalizing lines with
  | nil =>
    rw [List.map_nil, List.append_nil]
    rfl
  | cons x xs ih =>
    change (tell (f x) >>= fun _ => xs.forM fun x => tell (f x)).go lines world = _
    rw [go_bind, go_tell]
    dsimp only
    rw [ih, List.map_cons, List.append_assoc]
    rfl

theorem go_part (action : ExceptT ε Action α) (toError : ε → CommandError) (lines : List String)
    (world : World) : (part action toError).go lines world =
      (((action.run.run world).1.mapError toError, lines), (action.run.run world).2) := by
  change ((action.run >>= fun result => pure (result, lines)) >>= fun result =>
    (pure (result.1.mapError toError, result.2) : Action _)).run world = _
  rw [Action.run_bind, Action.run_bind]
  rfl

theorem run_outcome (run : Run Unit) (world : World) :
    run.outcome.run world =
      (match (run.go [] world).1 with
        | (.ok (), lines) => { exitCode := 0, messages := String.join (lines.map (· ++ "\n")) }
        | (.error e, lines) =>
          { exitCode := 1, messages := String.join (lines.map (· ++ "\n")) ++ e.report },
      (run.go [] world).2) := by
  rw [outcome, Action.run_bind, go]
  generalize (StateT.run (ExceptT.run run) []).run world = result
  obtain ⟨⟨_ | _, _⟩, _⟩ := result <;> rfl

end Run

abbrev Settings.generation (settings : Settings) (document : Document) : Generation :=
  generate document settings.client settings.fileName

/-- The parts of a generation that goes well, with the world in which the files are written. -/
structure Generates (flags : GenerateFlags) (environment : Environment) (world : World)
    (settings : Settings) (acquired : Acquired) (middle : World) (paths : List String)
    (final : World) : Prop where
  resolved : (flags.settings environment).run.run world = (.ok settings, world)
  obtained : (settings.acquisition.acquire settings.openApiSpec).run.run world =
    (.ok acquired, middle)
  written : (writeFiles settings.outputDir (settings.generation acquired.document).files).run.run
    middle = (.ok paths, final)

def generationLines (settings : Settings) (acquired : Acquired) (paths : List String) : List String :=
  let info := acquired.document.info
  let warnings := (settings.generation acquired.document).warnings
  ["Reading OpenAPI document from " ++ settings.openApiSpec,
    "Loaded " ++ info.title ++ " " ++ info.version ++ " from " ++ acquired.origin.text]
    ++ paths.map ("  wrote " ++ ·) ++ (warnings.map (·.message)).map ("  warning: " ++ ·)
    ++ ["Generated " ++ toString paths.length ++ " files in " ++ settings.outputDir]

section Generating

variable {flags : GenerateFlags} {environment : Environment} {world middle final : World}
  {settings : Settings} {acquired : Acquired} {paths : List String}

/-- What a generation tells and leaves is told by its parts. -/
theorem generates_outcome
    (generates : Generates flags environment world settings acquired middle paths final) :
    (Run.generation flags environment).outcome.run world =
      ({ exitCode := 0,
         messages := String.join ((generationLines settings acquired paths).map (· ++ "\n")) },
        final) := by
  obtain ⟨resolved, obtained, written⟩ := generates
  have told : (Run.generation flags environment).go [] world =
      ((.ok (), generationLines settings acquired paths), final) := by
    simp only [Run.generation, Run.tellWarnings, Run.go_bind, Run.go_part, Run.go_tell, Run.go_forM,
      resolved, obtained, written, Except.mapError]
    simp [generationLines]
  rw [Run.run_outcome, told]

theorem generation_generates
    (succeeds : ((Run.generation flags environment).outcome.run world).1.exitCode = 0)
    (resolved : (flags.settings environment).run.run world = (.ok settings, world)) :
    ∃ acquired middle paths final,
      Generates flags environment world settings acquired middle paths final := by
  rw [Run.run_outcome] at succeeds
  simp only [Run.generation, Run.tellWarnings, Run.go_bind, Run.go_part, Run.go_tell, resolved,
    Except.mapError] at succeeds
  cases obtained : (settings.acquisition.acquire settings.openApiSpec).run.run world with
  | mk result middle =>
    cases result with
    | error e => simp [obtained] at succeeds
    | ok acquired =>
      cases written : (writeFiles settings.outputDir
          (settings.generation acquired.document).files).run.run middle with
      | mk result final =>
        cases result with
        | error e => simp [obtained, written] at succeeds
        | ok paths => exact ⟨acquired, middle, paths, final, resolved, obtained, written⟩

theorem run_settled (result : Except ε α) :
    (some <$> ExceptT.mk (pure result) : ExceptT ε Action (Option α)).run =
      pure (result.map some) := by
  cases result with
  | error e => rfl
  | ok a => rfl

theorem load_runs {path : String} {events : List Event}
    {result : Except SettingsError (Option Settings)}
    (run : Runs (Settings.load path).run world events result final) : final = world ∧
      (world.disk.has path = false ∧ events = [.looked path] ∨
      events = [.looked path, .read path] ∧
        ∀ loaded, result = .ok loaded → ∃ content, world.disk.read path = .ok content) := by
  cases run with
  | has run =>
    cases there : world.disk.has path with
    | false =>
      rw [there] at run
      cases run
      exact ⟨rfl, .inl ⟨rfl, rfl⟩⟩
    | true =>
      rw [there] at run
      cases run with
      | read run =>
        cases content : world.disk.read path with
        | error cause =>
          rw [content] at run
          cases run
          exact ⟨rfl, .inr ⟨rfl, nofun⟩⟩
        | ok bytes =>
          rw [content] at run
          change Runs (some <$> ExceptT.mk (pure
            ((Settings.ofBytes bytes).mapError (.unusable path))) :
              ExceptT SettingsError Action (Option Settings)).run _ _ _ _ at run
          rw [run_settled] at run
          obtain ⟨rfl, _, rfl⟩ := runs_pure.mp run
          exact ⟨rfl, .inr ⟨rfl, fun _ _ => ⟨bytes, rfl⟩⟩⟩

theorem settings_runs {events : List Event} {result : Except SettingsError Settings}
    (run : Runs (flags.settings environment).run world events result final) : final = world ∧
      (world.disk.has flags.config = false ∧ events = [.looked flags.config] ∨
      events = [.looked flags.config, .read flags.config] ∧
        ∀ settings, result = .ok settings →
          ∃ content, world.disk.read flags.config = .ok content) := by
  rcases runs_except_bind.mp run with
    ⟨before, file, middle, after, loaded, rest, rfl⟩ | ⟨e, failed, rfl⟩
  · obtain ⟨rfl, -, rfl⟩ := runs_pure.mp rest
    obtain ⟨rfl, absent | ⟨rfl, there⟩⟩ := load_runs loaded
    · exact ⟨rfl, .inl (by simpa using absent)⟩
    · exact ⟨rfl, .inr ⟨rfl, fun _ _ => there _ rfl⟩⟩
  · obtain ⟨rfl, absent | ⟨rfl, _⟩⟩ := load_runs failed
    · exact ⟨rfl, .inl absent⟩
    · exact ⟨rfl, .inr ⟨rfl, nofun⟩⟩

end Generating

end OpenApiClient
