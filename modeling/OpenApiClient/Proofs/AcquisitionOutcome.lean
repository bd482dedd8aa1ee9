import OpenApiClient.Proofs.RequestAttempts
import OpenApiClient.Proofs.StoringFiles

/-! How acquiring a document goes.
A failed attempt leads to the next one and at last to the fallback; a bad body is an error at once. -/
namespace OpenApiClient

/-- A source on a server begins with one of two schemes; any other is a path. -/
def NamesServer (source : String) : Prop :=
  "http://".toList <+: source.toList ∨ "https://".toList <+: source.toList

theorem isRemote_iff {source : String} : isRemote source = true ↔ NamesServer source := by
  rw [isRemote, Bool.or_eq_true, List.isPrefixOf_iff_prefix, List.isPrefixOf_iff_prefix,
    NamesServer]

instance (source : String) : Decidable (NamesServer source) := decidable_of_iff _ isRemote_iff

/-- What becomes of bytes: a document, or an error if they are no value or one that fits no
document. -/
inductive Understood (name : String) (origin : Origin) (bytes : ByteArray) :
    Except AcquireError Acquired → Prop where
  | accepted {value document} : Json.parse (Symbol.ofBytes bytes) = .ok value →
      Document.ofJson value = .ok document → Understood name origin bytes (.ok ⟨document, origin⟩)
  | malformed {cause} : Json.parse (Symbol.ofBytes bytes) = .error cause →
      Understood name origin bytes (.error (.unreadable name cause))
  | unfitting {value cause} : Json.parse (Symbol.ofBytes bytes) = .ok value →
      Document.ofJson value = .error cause →
      Understood name origin bytes (.error (.unreadable origin.text cause))

inductive Consulted (disk : Disk) (path : String) (origin : Origin) :
    Except AcquireError Acquired → Prop where
  | missing {cause} : disk.read path = .error cause →
      Consulted disk path origin (.error (.notFound path cause))
  | read {bytes result} : disk.read path = .ok bytes → Understood path origin bytes result →
      Consulted disk path origin result

inductive Event.Keeps (path : String) (content : ByteArray) : Event → Prop where
  | looked (place) : Keeps path content (.looked place)
  | made (place) : Keeps path content (.made place)
  | refused (place cause) : Keeps path content (.refused place cause)
  | wrote : Keeps path content (.wrote path content)

def Event.requested? : Event → Option String
  | asked url => some url
  | _ => none

theorem understood_acquired (name : String) (origin : Origin) (bytes : ByteArray) :
    Understood name origin bytes (parseBytes name bytes >>= acquired origin) := by
  cases parsed : Json.parse (Symbol.ofBytes bytes) with
  | error cause =>
    rw [parseBytes, parsed]
    exact .malformed parsed
  | ok value =>
    rw [parseBytes, parsed]
    change Understood name origin bytes (acquired origin value)
    cases read : Document.ofJson value with
    | error cause =>
      rw [acquired, read]
      exact .unfitting parsed read
    | ok document =>
      rw [acquired, read]
      exact .accepted parsed read

theorem settled_runs {name : String} {origin : Origin} {bytes : ByteArray} {world final : World}
    {events : List Event} {result : Except AcquireError Acquired}
    (run : Runs (do
      let value ← settled (parseBytes name bytes)
      settled (acquired origin value) : ExceptT AcquireError Action Acquired).run
        world events result final) :
    events = [] ∧ final = world ∧ Understood name origin bytes result := by
  have told := understood_acquired name origin bytes
  rcases runs_except_bind.mp run with ⟨_, value, _, _, first, second, rfl⟩ | ⟨e, first, rfl⟩
  · obtain ⟨rfl, parsed, rfl⟩ := runs_pure.mp first
    obtain ⟨rfl, rfl, rfl⟩ := runs_pure.mp second
    rw [← parsed] at told
    exact ⟨rfl, rfl, told⟩
  · obtain ⟨rfl, parsed, rfl⟩ := runs_pure.mp first
    rw [← parsed] at told
    exact ⟨rfl, rfl, told⟩

theorem readLocal_runs {path : String} {origin : Origin} {world final : World}
    {events : List Event} {result : Except AcquireError Acquired}
    (run : Runs (do
      let value ← readLocal path
      settled (acquired origin value) : ExceptT AcquireError Action Acquired).run
        world events result final) :
    events = [.read path] ∧ final = world ∧ Consulted world.disk path origin result := by
  cases run with
  | read run =>
    cases found : world.disk.read path with
    | error cause =>
      rw [found] at run
      cases run
      exact ⟨rfl, rfl, .missing found⟩
    | ok bytes =>
      rw [found] at run
      obtain ⟨rfl, rfl, told⟩ := settled_runs run
      exact ⟨rfl, rfl, .read found told⟩

theorem keep_stores (path : String) (value : Json) :
    (keep path value).Only (Event.Stores path value.indented.toUTF8) :=
  only_bind (storeFile_stores path _) fun _ => trivial

theorem Event.Stores.keeps {path : String} {content : ByteArray} {event : Event}
    (stores : event.Stores path content) : event.Keeps path content := by
  cases stores with
  | looked place => exact .looked place
  | made _ => exact .made _
  | refused cause _ => exact .refused _ cause
  | wrote => exact .wrote

theorem keep_only (path : String) (value : Json) :
    (keep path value).Only (Event.Keeps path value.indented.toUTF8) :=
  (keep_stores path value).mono fun _ => Event.Stores.keeps

namespace Acquisition

variable {acquisition : Acquisition} {world final : World} {events : List Event}
  {result : Except AcquireError Acquired}

theorem accept_runs {url : String} {body : ByteArray}
    (run : Runs (acquisition.accept url body).run world events result final) :
    (∃ value document, Json.parse (Symbol.ofBytes body) = .ok value ∧
      Document.ofJson value = .ok document ∧ result = .ok ⟨document, .remote url⟩ ∧
      if acquisition.remote.saveLocal then
        Runs (keep acquisition.fallback value) world events () final
      else events = [] ∧ final = world) ∨
    (∃ e, result = .error e ∧ Understood url (.remote url) body result ∧ events = [] ∧
      final = world) := by
  cases parsed : Json.parse (Symbol.ofBytes body) with
  | error cause =>
    have rejected : parseBytes url body = .error (.unreadable url cause) := by
      rw [parseBytes, parsed]
      rfl
    rw [accept, rejected] at run
    obtain ⟨rfl, rfl, rfl⟩ := runs_pure.mp run
    exact .inr ⟨_, rfl, .malformed parsed, rfl, rfl⟩
  | ok value =>
    have parsed' : parseBytes url body = .ok value := by
      rw [parseBytes, parsed]
      rfl
    rw [accept, parsed'] at run
    change Runs (settled (acquired (.remote url) value) >>= _ :
      ExceptT AcquireError Action Acquired).run _ _ _ _ at run
    cases read : Document.ofJson value with
    | error cause =>
      rw [acquired, read] at run
      obtain ⟨rfl, rfl, rfl⟩ := runs_pure.mp run
      exact .inr ⟨_, rfl, .unfitting parsed read, rfl, rfl⟩
    | ok document =>
      rw [acquired, read] at run
      refine .inl ⟨value, document, rfl, read, ?_⟩
      change Runs (do
        if acquisition.remote.saveLocal then
          ExceptT.lift (keep acquisition.fallback value)
        pure ⟨document, .remote url⟩ : ExceptT AcquireError Action Acquired).run _ _ _ _ at run
      by_cases saves : acquisition.remote.saveLocal = true
      · rw [if_pos saves] at run ⊢
        rcases runs_except_bind.mp run with ⟨_, _, _, _, first, second, rfl⟩ | ⟨e, first, _⟩
        · obtain ⟨_, kept, _⟩ := runs_lift.mp first
          obtain ⟨rfl, rfl, rfl⟩ := runs_pure.mp second
          exact ⟨rfl, by simpa using kept⟩
        · obtain ⟨_, _, failed⟩ := runs_lift.mp first
          cases failed
      · rw [if_neg saves] at run ⊢
        obtain ⟨rfl, rfl, rfl⟩ := runs_pure.mp run
        exact ⟨rfl, rfl, rfl⟩

theorem fetched_runs {url : String} {body : Option ByteArray}
    (enabled : acquisition.remote.enabled = true)
    (run : Runs (acquisition.fetched url) world events body final) :
    ∃ count, Attempted (world.script url) acquisition.attempts body count ∧
      final = world.after url count ∧ events = List.replicate count (.asked url) := by
  rw [fetched, if_pos enabled] at run
  exact fetch_runs run

/-- A call goes to the file, to the server and then on with its answer, or to the fallback. -/
theorem acquire_runs {source : String}
    (run : Runs (acquisition.acquire source).run world events result final) :
    (¬ NamesServer source ∧ events = [.read source] ∧ final = world ∧
      Consulted world.disk source (.file source) result) ∨
    (NamesServer source ∧ ∃ before body middle after, events = before ++ after ∧
      Runs (acquisition.fetched source) world before body middle ∧
        match body with
        | some body => Runs (acquisition.accept source body).run middle after result final
        | none => after = [.read acquisition.fallback] ∧ final = middle ∧
            Consulted middle.disk acquisition.fallback (.fallback acquisition.fallback) result) := by
  unfold acquire at run
  by_cases remote : NamesServer source
  · rw [if_pos (isRemote_iff.mpr remote)] at run
    rcases runs_except_bind.mp run with
      ⟨before, body, middle, after, first, second, rfl⟩ | ⟨e, first, _⟩
    · obtain ⟨_, first, same⟩ := runs_lift.mp first
      cases same
      refine .inr ⟨remote, before, _, middle, after, rfl, first, ?_⟩
      cases body with
      | some body => exact second
      | none => exact readLocal_runs second
    · obtain ⟨_, _, failed⟩ := runs_lift.mp first
      cases failed
  · rw [if_neg (mt isRemote_iff.mp remote)] at run
    exact .inl ⟨remote, readLocal_runs run⟩

theorem accept_told {url : String} {body : ByteArray}
    (run : Runs (acquisition.accept url body).run world events result final) :
    Understood url (.remote url) body result ∧ (∀ path, .read path ∉ events) ∧
      ∀ address, .asked address ∉ events := by
  rcases accept_runs run with ⟨value, document, parsed, read, rfl, kept⟩ | ⟨e, rfl, told, rfl, _⟩
  · refine ⟨.accepted parsed read, ?_⟩
    split at kept
    · have keeps := kept.only (keep_only _ _)
      constructor
      · intro path mem
        cases keeps _ mem
      · intro address mem
        cases keeps _ mem
    · obtain ⟨rfl, _⟩ := kept
      simp
  · exact ⟨told, by simp, by simp⟩

end Acquisition

/-- How acquiring a source goes, told from the settings, the disk and the server's script. -/
structure AcquireOutcome (acquisition : Acquisition) (source : String) (world : World)
    (events : List Event) (result : Except AcquireError Acquired) (final : World) : Prop where
  silent : ¬ NamesServer source ∨ acquisition.remote.enabled = false →
    events.filterMap Event.requested? = [] ∧ final.server = world.server
  requests : NamesServer source → acquisition.remote.enabled = true →
    ∃ count, Requested (world.script source) (max acquisition.remote.retries 1) count ∧
      events.filterMap Event.requested? = List.replicate count source ∧
      final.server = (world.after source count).server
  answered : NamesServer source → acquisition.remote.enabled = true → ∀ i body,
    i < max acquisition.remote.retries 1 → FirstAnswer (world.script source) i body →
    Understood source (.remote source) body result ∧ ∀ path, .read path ∉ events
  unanswered : NamesServer source → acquisition.remote.enabled = true →
    (∀ i < max acquisition.remote.retries 1, FailedEntry (world.script source)[i]?) →
    Consulted world.disk acquisition.fallback (.fallback acquisition.fallback) result
  disabled : NamesServer source → acquisition.remote.enabled = false →
    Consulted world.disk acquisition.fallback (.fallback acquisition.fallback) result
  file : ¬ NamesServer source → Consulted world.disk source (.file source) result

section Branches

variable {acquisition : Acquisition} {source : String} {world middle final : World}
  {after : List Event} {result : Except AcquireError Acquired} {count : ℕ}

theorem outcome_file (here : ¬ NamesServer source)
    (told : Consulted world.disk source (.file source) result) :
    AcquireOutcome acquisition source world [.read source] result world := by
  constructor
  · exact fun _ => ⟨rfl, rfl⟩
  · exact fun remote => absurd remote here
  · exact fun remote => absurd remote here
  · exact fun remote => absurd remote here
  · exact fun remote => absurd remote here
  · exact fun _ => told

theorem outcome_disabled (remote : NamesServer source)
    (disabled : acquisition.remote.enabled = false)
    (told : Consulted world.disk acquisition.fallback (.fallback acquisition.fallback) result) :
    AcquireOutcome acquisition source world [.read acquisition.fallback] result world := by
  constructor
  · exact fun _ => ⟨rfl, rfl⟩
  · intro _ enabled
    cases enabled.symm.trans disabled
  · intro _ enabled
    cases enabled.symm.trans disabled
  · intro _ enabled
    cases enabled.symm.trans disabled
  · exact fun _ _ => told
  · exact fun here => absurd remote here

theorem requested_asked (unasked : ∀ url, Event.asked url ∉ after) :
    (List.replicate count (Event.asked source) ++ after).filterMap Event.requested? =
      List.replicate count source := by
  have asked : (List.replicate count (Event.asked source)).filterMap Event.requested? =
      List.replicate count source := List.filterMap_replicate_of_some rfl
  have nothing : after.filterMap Event.requested? = [] := by
    rw [List.filterMap_eq_nil_iff]
    intro event mem
    cases event with
    | asked url => exact absurd mem (unasked url)
    | _ => rfl
  rw [List.filterMap_append, asked, nothing, List.append_nil]

theorem outcome_answered {body : ByteArray} (remote : NamesServer source)
    (enabled : acquisition.remote.enabled = true)
    (attempted : Attempted (world.script source) acquisition.attempts (some body) count)
    (run : Runs (acquisition.accept source body).run (world.after source count) after result
      final) :
    AcquireOutcome acquisition source world (List.replicate count (.asked source) ++ after) result
      final := by
  obtain ⟨told, unread, unasked⟩ := Acquisition.accept_told run
  constructor
  · rintro (h | h)
    · exact absurd remote h
    · cases enabled.symm.trans h
  · intro _ _
    exact ⟨count, attempted_requested attempted, requested_asked unasked, run.server_eq unasked⟩
  · intro _ _ i answer hi found
    cases attempted_answer attempted hi found
    refine ⟨told, fun path mem => ?_⟩
    rcases List.mem_append.mp mem with mem | mem
    · cases List.eq_of_mem_replicate mem
    · exact unread path mem
  · intro _ _ all
    cases attempted_failing attempted all
  · intro _ h
    cases enabled.symm.trans h
  · exact fun here => absurd remote here

theorem outcome_unanswered (remote : NamesServer source)
    (enabled : acquisition.remote.enabled = true)
    (attempted : Attempted (world.script source) acquisition.attempts none count)
    (told : Consulted world.disk acquisition.fallback (.fallback acquisition.fallback) result) :
    AcquireOutcome acquisition source world
      (List.replicate count (.asked source) ++ [.read acquisition.fallback]) result
      (world.after source count) := by
  constructor
  · rintro (h | h)
    · exact absurd remote h
    · cases enabled.symm.trans h
  · intro _ _
    exact ⟨count, attempted_requested attempted, requested_asked (by simp), rfl⟩
  · intro _ _ i answer hi found
    cases attempted_answer attempted hi found
  · exact fun _ _ _ => told
  · intro _ h
    cases enabled.symm.trans h
  · exact fun here => absurd remote here

end Branches

/-- Acquiring a source always ends, and however it goes, it goes as told. -/
theorem acquire_outcome (acquisition : Acquisition) (source : String) (world : World) :
    Runs (acquisition.acquire source).run world ((acquisition.acquire source).run.trace world)
      ((acquisition.acquire source).run.run world).1
      ((acquisition.acquire source).run.run world).2 ∧
    ∀ events result final, Runs (acquisition.acquire source).run world events result final →
      AcquireOutcome acquisition source world events result final := by
  refine ⟨runs_run _ _, fun events result final run => ?_⟩
  rcases Acquisition.acquire_runs run with
    ⟨here, rfl, rfl, told⟩ | ⟨remote, before, body, middle, after, rfl, first, rest⟩
  · exact outcome_file here told
  · by_cases enabled : acquisition.remote.enabled = true
    · obtain ⟨count, attempted, rfl, rfl⟩ := Acquisition.fetched_runs enabled first
      cases body with
      | some body => exact outcome_answered remote enabled attempted rest
      | none =>
        obtain ⟨rfl, rfl, told⟩ := rest
        exact outcome_unanswered remote enabled attempted told
    · rw [Acquisition.fetched, if_neg enabled] at first
      obtain ⟨rfl, rfl, rfl⟩ := runs_pure.mp first
      obtain ⟨rfl, rfl, told⟩ := rest
      exact outcome_disabled remote (by simpa using enabled) told

end OpenApiClient
