import OpenApiClient.World
import Mathlib.Tactic.Common

/-! The ways an action can go.
A run names what was asked of the world, in order. A file system may refuse a change that it could
make, with any error, and then stays as it is; no other step has a choice. -/
namespace OpenApiClient

inductive Event where
  | looked (path : String)
  | read (path : String)
  | wrote (path : String) (content : ByteArray)
  | made (path : String)
  | refused (path : String) (cause : FileError)
  | asked (url : String)

/-- An action goes from a world to a result in another world, by these events. -/
inductive Runs : Action α → World → List Event → α → World → Prop where
  | done (a world) : Runs (.done a) world [] a world
  | has {path next world events a final} :
      Runs (next (world.disk.has path)) world events a final →
      Runs (.has path next) world (.looked path :: events) a final
  | isDirectory {path next world events a final} :
      Runs (next (world.disk.isDirectory path)) world events a final →
      Runs (.isDirectory path next) world (.looked path :: events) a final
  | read {path next world events a final} :
      Runs (next (world.disk.read path)) world events a final →
      Runs (.read path next) world (.read path :: events) a final
  | write {path content next world disk events a final} :
      world.disk.write path content = .ok disk →
      Runs (next (.ok ())) { world with disk } events a final →
      Runs (.write path content next) world (.wrote path content :: events) a final
  | writeRefused {path content next world events a final} (cause) :
      Runs (next (.error cause)) world events a final →
      Runs (.write path content next) world (.refused path cause :: events) a final
  | makeDirectory {path next world disk events a final} :
      world.disk.makeDirectory path = .ok disk →
      Runs (next (.ok ())) { world with disk } events a final →
      Runs (.makeDirectory path next) world (.made path :: events) a final
  | makeDirectoryRefused {path next world events a final} (cause) :
      Runs (next (.error cause)) world events a final →
      Runs (.makeDirectory path next) world (.refused path cause :: events) a final
  | request {url timeout next world events a final} :
      Runs (next (world.answer url).1) (world.answer url).2 events a final →
      Runs (.request url timeout next) world (.asked url :: events) a final

/-- The events of the run on a model disk, which refuses nothing that it could do. -/
def Action.trace : Action α → World → List Event
  | done _, _ => []
  | has path next, world => .looked path :: (next (world.disk.has path)).trace world
  | isDirectory path next, world =>
    .looked path :: (next (world.disk.isDirectory path)).trace world
  | read path next, world => .read path :: (next (world.disk.read path)).trace world
  | write path content next, world =>
    match world.disk.write path content with
    | .ok disk => .wrote path content :: (next (.ok ())).trace { world with disk }
    | .error cause => .refused path cause :: (next (.error cause)).trace world
  | makeDirectory path next, world =>
    match world.disk.makeDirectory path with
    | .ok disk => .made path :: (next (.ok ())).trace { world with disk }
    | .error cause => .refused path cause :: (next (.error cause)).trace world
  | request url _ next, world =>
    .asked url :: (next (world.answer url).1).trace (world.answer url).2

theorem runs_run (action : Action α) (world : World) :
    Runs action world (action.trace world) (action.run world).1 (action.run world).2 := by
  induction action generalizing world with
  | done a => exact .done a world
  | has path next ih => exact .has (ih _ world)
  | isDirectory path next ih => exact .isDirectory (ih _ world)
  | read path next ih => exact .read (ih _ world)
  | write path content next ih =>
    cases h : world.disk.write path content with
    | ok disk =>
      simp only [Action.trace, Action.run, World.change, h]
      exact .write h (ih _ _)
    | error cause =>
      simp only [Action.trace, Action.run, World.change, h]
      exact .writeRefused cause (ih _ _)
  | makeDirectory path next ih =>
    cases h : world.disk.makeDirectory path with
    | ok disk =>
      simp only [Action.trace, Action.run, World.change, h]
      exact .makeDirectory h (ih _ _)
    | error cause =>
      simp only [Action.trace, Action.run, World.change, h]
      exact .makeDirectoryRefused cause (ih _ _)
  | request url timeout next ih => exact .request (ih _ _)

theorem Action.bind_done (action : Action α) : action.bind .done = action := by
  induction action with
  | done a => rfl
  | has _ _ ih | isDirectory _ _ ih | read _ _ ih | write _ _ _ ih | makeDirectory _ _ ih
  | request _ _ _ ih => simp only [Action.bind, ih]

theorem Action.bind_assoc (action : Action α) (f : α → Action β) (g : β → Action γ) :
    (action.bind f).bind g = action.bind fun a => (f a).bind g := by
  induction action with
  | done a => rfl
  | has _ _ ih | isDirectory _ _ ih | read _ _ ih | write _ _ _ ih | makeDirectory _ _ ih
  | request _ _ _ ih => simp only [Action.bind, ih]

instance : LawfulMonad Action :=
  .mk' Action Action.bind_done (fun _ _ => rfl) Action.bind_assoc

@[simp] theorem runs_pure {a : α} {world : World} {events : List Event} {result : α}
    {final : World} :
    Runs (pure a : Action α) world events result final ↔
      events = [] ∧ result = a ∧ final = world := by
  constructor
  · intro run
    cases run
    exact ⟨rfl, rfl, rfl⟩
  · rintro ⟨rfl, rfl, rfl⟩
    exact .done result final

theorem runs_bind {action : Action α} {f : α → Action β} {world : World} {events : List Event}
    {result : β} {final : World} :
    Runs (action >>= f) world events result final ↔ ∃ before a middle after,
      Runs action world before a middle ∧ Runs (f a) middle after result final ∧
        events = before ++ after := by
  change Runs (action.bind f) world events result final ↔ _
  constructor
  · intro run
    induction action generalizing world events with
    | done a => exact ⟨[], a, world, events, .done a world, run, rfl⟩
    | has path next ih =>
      cases run with
      | has run =>
        obtain ⟨before, a, middle, after, first, second, rfl⟩ := ih _ run
        exact ⟨_, a, middle, after, .has first, second, rfl⟩
    | isDirectory path next ih =>
      cases run with
      | isDirectory run =>
        obtain ⟨before, a, middle, after, first, second, rfl⟩ := ih _ run
        exact ⟨_, a, middle, after, .isDirectory first, second, rfl⟩
    | read path next ih =>
      cases run with
      | read run =>
        obtain ⟨before, a, middle, after, first, second, rfl⟩ := ih _ run
        exact ⟨_, a, middle, after, .read first, second, rfl⟩
    | write path content next ih =>
      cases run with
      | write h run =>
        obtain ⟨before, a, middle, after, first, second, rfl⟩ := ih _ run
        exact ⟨_, a, middle, after, .write h first, second, rfl⟩
      | writeRefused cause run =>
        obtain ⟨before, a, middle, after, first, second, rfl⟩ := ih _ run
        exact ⟨_, a, middle, after, .writeRefused cause first, second, rfl⟩
    | makeDirectory path next ih =>
      cases run with
      | makeDirectory h run =>
        obtain ⟨before, a, middle, after, first, second, rfl⟩ := ih _ run
        exact ⟨_, a, middle, after, .makeDirectory h first, second, rfl⟩
      | makeDirectoryRefused cause run =>
        obtain ⟨before, a, middle, after, first, second, rfl⟩ := ih _ run
        exact ⟨_, a, middle, after, .makeDirectoryRefused cause first, second, rfl⟩
    | request url timeout next ih =>
      cases run with
      | request run =>
        obtain ⟨before, a, middle, after, first, second, rfl⟩ := ih _ run
        exact ⟨_, a, middle, after, .request first, second, rfl⟩
  · rintro ⟨before, a, middle, after, first, second, rfl⟩
    induction first with
    | done a world => exact second
    | has _ ih => exact .has (ih second)
    | isDirectory _ ih => exact .isDirectory (ih second)
    | read _ ih => exact .read (ih second)
    | write h _ ih => exact .write h (ih second)
    | writeRefused cause _ ih => exact .writeRefused cause (ih second)
    | makeDirectory h _ ih => exact .makeDirectory h (ih second)
    | makeDirectoryRefused cause _ ih => exact .makeDirectoryRefused cause (ih second)
    | request _ ih => exact .request (ih second)

theorem runs_except_bind {x : ExceptT ε Action α} {f : α → ExceptT ε Action β} {world : World}
    {events : List Event} {result : Except ε β} {final : World} :
    Runs (x >>= f).run world events result final ↔
      (∃ before a middle after, Runs x.run world before (.ok a) middle ∧
        Runs (f a).run middle after result final ∧ events = before ++ after) ∨
      ∃ e, Runs x.run world events (.error e) final ∧ result = .error e := by
  have unfold : (x >>= f).run = x.run >>= ExceptT.bindCont f := rfl
  rw [unfold, runs_bind]
  constructor
  · rintro ⟨before, a | a, middle, after, first, second, rfl⟩
    · obtain ⟨rfl, rfl, rfl⟩ := runs_pure.mp second
      exact .inr ⟨a, by simpa using first, rfl⟩
    · exact .inl ⟨before, a, middle, after, first, second, rfl⟩
  · rintro (⟨before, a, middle, after, first, second, rfl⟩ | ⟨e, first, rfl⟩)
    · exact ⟨before, .ok a, middle, after, first, second, rfl⟩
    · exact ⟨events, .error e, final, [], first, runs_pure.mpr ⟨rfl, rfl, rfl⟩, by simp⟩

theorem run_except_bind {x : ExceptT ε Action α} {f : α → ExceptT ε Action β} {world final : World}
    {a : α} (succeeds : x.run.run world = (.ok a, final)) :
    (x >>= f).run.run world = (f a).run.run final := by
  have unfold : (x >>= f).run = x.run >>= ExceptT.bindCont f := rfl
  rw [unfold, Action.run_bind, succeeds]
  rfl

theorem tryCatch_run (x : ExceptT ε Action α) (handle : ε → ExceptT ε Action α) :
    (tryCatch x handle).run = x.run >>= fun
      | .ok a => pure (.ok a)
      | .error e => (handle e).run := rfl

theorem runs_tryCatch {x : ExceptT ε Action α} {handle : ε → ExceptT ε Action α} {world : World}
    {events : List Event} {a : α} {final : World} :
    Runs (tryCatch x handle).run world events (.ok a) final ↔
      Runs x.run world events (.ok a) final ∨ ∃ before e middle after,
        Runs x.run world before (.error e) middle ∧
          Runs (handle e).run middle after (.ok a) final ∧ events = before ++ after := by
  rw [tryCatch_run, runs_bind]
  constructor
  · rintro ⟨before, e | b, middle, after, first, second, rfl⟩
    · exact .inr ⟨before, e, middle, after, first, second, rfl⟩
    · obtain ⟨rfl, same, rfl⟩ := runs_pure.mp second
      cases same
      exact .inl (by simpa using first)
  · rintro (first | ⟨before, e, middle, after, first, second, rfl⟩)
    · exact ⟨events, .ok a, final, [], first, runs_pure.mpr ⟨rfl, rfl, rfl⟩, by simp⟩
    · exact ⟨before, .error e, middle, after, first, second, rfl⟩

theorem run_tryCatch {x : ExceptT ε Action α} {handle : ε → ExceptT ε Action α} {world final : World}
    {e : ε} (fails : x.run.run world = (.error e, final)) :
    (tryCatch x handle).run.run world = (handle e).run.run final := by
  rw [tryCatch_run, Action.run_bind, fails]

theorem runs_lift {action : Action α} {world : World} {events : List Event}
    {result : Except ε α} {final : World} :
    Runs (ExceptT.lift action : ExceptT ε Action α).run world events result final ↔
      ∃ a, Runs action world events a final ∧ result = .ok a := by
  have unfold : (ExceptT.lift action : ExceptT ε Action α).run =
      action >>= fun a => pure (Except.ok a) := rfl
  rw [unfold, runs_bind]
  constructor
  · rintro ⟨before, a, middle, after, first, second, rfl⟩
    obtain ⟨rfl, rfl, rfl⟩ := runs_pure.mp second
    exact ⟨a, by simpa using first, rfl⟩
  · rintro ⟨a, run, rfl⟩
    exact ⟨events, a, final, [], run, runs_pure.mpr ⟨rfl, rfl, rfl⟩, by simp⟩

theorem Runs.server_eq {action : Action α} {world : World} {events : List Event} {a : α}
    {final : World} (run : Runs action world events a final) (h : ∀ url, .asked url ∉ events) :
    final.server = world.server := by
  induction run with
  | done => rfl
  | request _ _ => exact absurd List.mem_cons_self (h _)
  | has _ ih | isDirectory _ ih | read _ ih | write _ _ ih | writeRefused _ _ ih
  | makeDirectory _ _ ih | makeDirectoryRefused _ _ ih =>
    exact ih fun url mem => h url (List.mem_cons_of_mem _ mem)

/-- All that an action asks or does, on every way it can go, has a property. -/
def Action.Only (P : Event → Prop) : Action α → Prop
  | done _ => True
  | has path next => P (.looked path) ∧ ∀ answer, (next answer).Only P
  | isDirectory path next => P (.looked path) ∧ ∀ answer, (next answer).Only P
  | read path next => P (.read path) ∧ ∀ answer, (next answer).Only P
  | write path content next =>
    P (.wrote path content) ∧ (∀ cause, P (.refused path cause)) ∧ ∀ answer, (next answer).Only P
  | makeDirectory path next =>
    P (.made path) ∧ (∀ cause, P (.refused path cause)) ∧ ∀ answer, (next answer).Only P
  | request url _ next => P (.asked url) ∧ ∀ answer, (next answer).Only P

variable {P : Event → Prop}

theorem Runs.only {action : Action α} {world : World} {events : List Event} {a : α} {final : World}
    (run : Runs action world events a final) (h : action.Only P) : ∀ event ∈ events, P event := by
  induction run with
  | done => simp
  | write _ _ ih => exact List.forall_mem_cons.mpr ⟨h.1, ih (h.2.2 _)⟩
  | writeRefused cause _ ih => exact List.forall_mem_cons.mpr ⟨h.2.1 cause, ih (h.2.2 _)⟩
  | makeDirectory _ _ ih => exact List.forall_mem_cons.mpr ⟨h.1, ih (h.2.2 _)⟩
  | makeDirectoryRefused cause _ ih => exact List.forall_mem_cons.mpr ⟨h.2.1 cause, ih (h.2.2 _)⟩
  | has _ ih => exact List.forall_mem_cons.mpr ⟨h.1, ih (h.2 _)⟩
  | isDirectory _ ih => exact List.forall_mem_cons.mpr ⟨h.1, ih (h.2 _)⟩
  | read _ ih => exact List.forall_mem_cons.mpr ⟨h.1, ih (h.2 _)⟩
  | request _ ih => exact List.forall_mem_cons.mpr ⟨h.1, ih (h.2 _)⟩

theorem Action.Only.mono {Q : Event → Prop} {action : Action α} (h : action.Only P)
    (weaker : ∀ event, P event → Q event) : action.Only Q := by
  induction action with
  | done a => trivial
  | write path content next ih =>
    exact ⟨weaker _ h.1, fun cause => weaker _ (h.2.1 cause), fun answer => ih answer (h.2.2 answer)⟩
  | makeDirectory path next ih =>
    exact ⟨weaker _ h.1, fun cause => weaker _ (h.2.1 cause), fun answer => ih answer (h.2.2 answer)⟩
  | has _ _ ih | isDirectory _ _ ih | read _ _ ih | request _ _ _ ih =>
    exact ⟨weaker _ h.1, fun answer => ih answer (h.2 answer)⟩

theorem only_bind {action : Action α} {f : α → Action β} (h : action.Only P)
    (hf : ∀ a, (f a).Only P) : (action >>= f).Only P := by
  change (action.bind f).Only P
  induction action with
  | done a => exact hf a
  | has path next ih => exact ⟨h.1, fun answer => ih answer (h.2 answer)⟩
  | isDirectory path next ih => exact ⟨h.1, fun answer => ih answer (h.2 answer)⟩
  | read path next ih => exact ⟨h.1, fun answer => ih answer (h.2 answer)⟩
  | write path content next ih => exact ⟨h.1, h.2.1, fun answer => ih answer (h.2.2 answer)⟩
  | makeDirectory path next ih => exact ⟨h.1, h.2.1, fun answer => ih answer (h.2.2 answer)⟩
  | request url timeout next ih => exact ⟨h.1, fun answer => ih answer (h.2 answer)⟩

theorem only_except_bind {x : ExceptT ε Action α} {f : α → ExceptT ε Action β} (h : x.run.Only P)
    (hf : ∀ a, (f a).run.Only P) : (x >>= f).run.Only P := by
  refine only_bind h fun a => ?_
  cases a with
  | ok a => exact hf a
  | error e => trivial

theorem only_tryCatch {x : ExceptT ε Action α} {handle : ε → ExceptT ε Action α}
    (h : x.run.Only P) (hf : ∀ e, (handle e).run.Only P) : (tryCatch x handle).run.Only P := by
  refine only_bind h fun a => ?_
  cases a with
  | ok a => trivial
  | error e => exact hf e

theorem only_mapM {f : α → ExceptT ε Action β} {xs : List α} (each : ∀ x ∈ xs, (f x).run.Only P) :
    (xs.mapM f).run.Only P := by
  induction xs with
  | nil =>
    rw [List.mapM_nil]
    trivial
  | cons x rest ih =>
    have others := ih fun other mem => each other (List.mem_cons_of_mem _ mem)
    rw [List.mapM_cons]
    apply only_except_bind (each x List.mem_cons_self)
    intro _
    apply only_except_bind others
    intro _
    trivial

end OpenApiClient
