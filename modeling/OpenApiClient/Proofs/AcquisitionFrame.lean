import OpenApiClient.Proofs.CacheHistory

/-! What acquiring a document leaves of the disk.
Only a document that came from the server is kept, after it has been accepted; the keeping touches
the fallback file and what is above it, and has no say in the result. -/
namespace OpenApiClient

def Acquisition.unkept (acquisition : Acquisition) : Acquisition :=
  { acquisition with remote := { acquisition.remote with saveLocal := false } }

/-- How the value of a fetched body is kept; the writing may have been refused. -/
structure KeptFrom (acquisition : Acquisition) (source : String) (world : World)
    (events : List Event) (document : Document) (final : World) (value : Json) : Prop where
  fetched : ∃ i body, i < max acquisition.remote.retries 1 ∧
    FirstAnswer (world.script source) i body ∧ Json.parse (Symbol.ofBytes body) = .ok value
  document : Document.ofJson value = .ok document
  asks : ∀ event ∈ events, event = .asked source ∨
    event.Stores acquisition.fallback value.indented.toUTF8
  stored : Disk.Stored acquisition.fallback value.indented.toUTF8
    (events.any (Event.writes acquisition.fallback)) world.disk final.disk
  readable : events.any (Event.writes acquisition.fallback) = true →
    final.disk.read acquisition.fallback = .ok value.indented.toUTF8

/-- What a call leaves of the disk. An error, a fallback and a file leave it as it was. -/
structure AcquireFrame (acquisition : Acquisition) (source : String) (world : World)
    (events : List Event) (result : Except AcquireError Acquired) (final : World) : Prop where
  untouched : final.disk = world.disk ∨ acquisition.remote.saveLocal = true ∧
    ∃ document, result = .ok ⟨document, .remote source⟩
  rejected : ∀ i body, i < max acquisition.remote.retries 1 →
    FirstAnswer (world.script source) i body →
    (∀ value document, Json.parse (Symbol.ofBytes body) = .ok value →
      Document.ofJson value ≠ .ok document) → final.disk = world.disk
  kept : ∀ document, result = .ok ⟨document, .remote source⟩ →
    ∃ value, KeptFrom acquisition source world events document final value
  steadfast : ((acquisition.unkept.acquire source).run.run world).1 = result

theorem stores_run {path : String} {content : ByteArray} {action : Action α} {world final : World}
    {events : List Event} {a : α} (run : Runs action world events a final)
    (stores : ∀ event ∈ events, event.Stores path content) :
    Disk.Stored path content (events.any (Event.writes path)) world.disk final.disk := by
  have puts : ∀ event ∈ events, event.Puts (Path.Above path) fun written held =>
      events.any (Event.writes path) = true ∧ written = path ∧ held = content := by
    intro event mem
    cases stores event mem with
    | looked place => exact .looked place
    | made above => exact .made above
    | refused cause _ => exact .refused _ cause
    | wrote => exact .wrote ⟨List.any_eq_true.mpr ⟨_, mem, by simp [Event.writes]⟩, rfl, rfl⟩
  obtain ⟨current, places⟩ := run.changes puts
  refine ⟨current, fun place => ?_⟩
  cases places place with
  | same same => exact .same same
  | directory above free found => exact .directory above free found
  | file listed free found =>
    obtain ⟨wrote, rfl, rfl⟩ := listed
    exact .file wrote free found

theorem understood_eq {name : String} {origin : Origin} {bytes : ByteArray}
    {result : Except AcquireError Acquired} (h : Understood name origin bytes result) :
    result = (parseBytes name bytes >>= acquired origin) := by
  cases h with
  | accepted parsed read =>
    rw [parseBytes, parsed]
    change _ = acquired origin _
    rw [acquired, read]
  | malformed parsed =>
    rw [parseBytes, parsed]
    rfl
  | unfitting parsed read =>
    rw [parseBytes, parsed]
    change _ = acquired origin _
    rw [acquired, read]

theorem consulted_unique {disk : Disk} {path : String} {origin : Origin}
    {result result' : Except AcquireError Acquired} (h : Consulted disk path origin result)
    (h' : Consulted disk path origin result') : result' = result := by
  cases h with
  | missing absent =>
    cases h' with
    | missing absent' =>
      cases absent.symm.trans absent'
      rfl
    | read there _ => cases absent.symm.trans there
  | read there told =>
    cases h' with
    | missing absent => cases absent.symm.trans there
    | read there' told' =>
      cases there.symm.trans there'
      rw [understood_eq told, understood_eq told']

theorem understood_origin {name : String} {origin : Origin} {bytes : ByteArray} {document : Document}
    {origin' : Origin} (h : Understood name origin bytes (.ok ⟨document, origin'⟩)) :
    origin' = origin := by
  cases h
  rfl

theorem consulted_origin {disk : Disk} {path : String} {origin origin' : Origin}
    {document : Document} (h : Consulted disk path origin (.ok ⟨document, origin'⟩)) :
    origin' = origin := by
  cases h with
  | read _ told => exact understood_origin told

namespace Acquisition

variable {acquisition : Acquisition} {source : String} {world final final' : World}
  {events events' : List Event} {result result' : Except AcquireError Acquired}

theorem fetched_disk {body : Option ByteArray}
    (run : Runs (acquisition.fetched source) world events body final) :
    final.disk = world.disk ∧ ∃ count, events = List.replicate count (.asked source) := by
  by_cases enabled : acquisition.remote.enabled = true
  · obtain ⟨count, _, rfl, rfl⟩ := fetched_runs enabled run
    exact ⟨rfl, count, rfl⟩
  · rw [fetched, if_neg enabled] at run
    obtain ⟨rfl, _, rfl⟩ := runs_pure.mp run
    exact ⟨rfl, 0, rfl⟩

theorem fetched_answer {body : ByteArray}
    (run : Runs (acquisition.fetched source) world events (some body) final) :
    ∃ i < max acquisition.remote.retries 1, FirstAnswer (world.script source) i body := by
  by_cases enabled : acquisition.remote.enabled = true
  · obtain ⟨count, attempted, _, _⟩ := fetched_runs enabled run
    cases attempted with
    | answered hi first => exact ⟨_, hi, first⟩
  · rw [fetched, if_neg enabled] at run
    obtain ⟨_, none, _⟩ := runs_pure.mp run
    cases none

theorem fetched_unique {body body' : Option ByteArray}
    (run : Runs (acquisition.fetched source) world events body final)
    (run' : Runs (acquisition.fetched source) world events' body' final') : body' = body := by
  by_cases enabled : acquisition.remote.enabled = true
  · obtain ⟨_, attempted, _, _⟩ := fetched_runs enabled run
    obtain ⟨_, attempted', _, _⟩ := fetched_runs enabled run'
    exact attempted_unique attempted attempted'
  · rw [fetched, if_neg enabled] at run run'
    obtain ⟨_, rfl, _⟩ := runs_pure.mp run
    obtain ⟨_, rfl, _⟩ := runs_pure.mp run'
    rfl

/-- Whether documents are kept, and how the keeping goes, makes no difference to the result. -/
theorem acquire_unkept (run : Runs (acquisition.acquire source).run world events result final)
    (run' : Runs (acquisition.unkept.acquire source).run world events' result' final') :
    result' = result := by
  rcases acquire_runs run with
    ⟨here, _, _, told⟩ | ⟨remote, _, body, middle, _, _, first, rest⟩
  · rcases acquire_runs run' with ⟨_, _, _, told'⟩ | ⟨remote, _⟩
    · exact consulted_unique told told'
    · exact absurd remote here
  · rcases acquire_runs run' with ⟨here, _⟩ | ⟨_, _, body', middle', _, _, first', rest'⟩
    · exact absurd remote here
    · have same : body' = body := fetched_unique first first'
      subst same
      cases body' with
      | some body =>
        have told := (accept_told rest).1
        have told' := (accept_told rest').1
        rw [understood_eq told, understood_eq told']
      | none =>
        obtain ⟨_, _, told⟩ := rest
        obtain ⟨_, _, told'⟩ := rest'
        rw [(fetched_disk first).1] at told
        rw [(fetched_disk first').1] at told'
        exact consulted_unique told told'

theorem kept_stores {value : Json}
    (kept : if acquisition.remote.saveLocal then
        Runs (keep acquisition.fallback value) world events () final
      else events = [] ∧ final = world) :
    (∀ event ∈ events, event.Stores acquisition.fallback value.indented.toUTF8) ∧
      Disk.Stored acquisition.fallback value.indented.toUTF8
        (events.any (Event.writes acquisition.fallback)) world.disk final.disk ∧
      (acquisition.remote.saveLocal = true ∨ final.disk = world.disk) := by
  by_cases saves : acquisition.remote.saveLocal = true
  · rw [if_pos saves] at kept
    have stores := kept.only (keep_stores _ _)
    exact ⟨stores, stores_run kept stores, .inl saves⟩
  · rw [if_neg saves] at kept
    obtain ⟨rfl, rfl⟩ := kept
    exact ⟨by simp, ⟨rfl, fun place => .same rfl⟩, .inr rfl⟩

theorem kept_readable {value : Json}
    (stores : ∀ event ∈ events, event.Stores acquisition.fallback value.indented.toUTF8)
    (kept : if acquisition.remote.saveLocal then
        Runs (keep acquisition.fallback value) world events () final
      else events = [] ∧ final = world)
    (wrote : events.any (Event.writes acquisition.fallback) = true) :
    final.disk.read acquisition.fallback = .ok value.indented.toUTF8 := by
  by_cases saves : acquisition.remote.saveLocal = true
  · rw [if_pos saves] at kept
    have held := keeps_read .empty kept (fun event mem => (stores event mem).keeps) (.inl wrote)
    rwa [if_pos wrote] at held
  · rw [if_neg saves] at kept
    obtain ⟨rfl, _⟩ := kept
    cases wrote

theorem acquire_disk (run : Runs (acquisition.acquire source).run world events result final) :
    (final.disk = world.disk ∧ ∀ document, result ≠ .ok ⟨document, .remote source⟩) ∨
    ∃ value document, KeptFrom acquisition source world events document final value ∧
      result = .ok ⟨document, .remote source⟩ ∧
      (acquisition.remote.saveLocal = true ∨ final.disk = world.disk) := by
  rcases acquire_runs run with
    ⟨_, _, rfl, told⟩ | ⟨_, before, body, middle, after, rfl, first, rest⟩
  · refine .inl ⟨rfl, ?_⟩
    rintro document rfl
    cases consulted_origin told
  obtain ⟨same, count, rfl⟩ := fetched_disk first
  cases body with
  | none =>
    obtain ⟨rfl, rfl, told⟩ := rest
    refine .inl ⟨same, ?_⟩
    rintro document rfl
    cases consulted_origin told
  | some body =>
    rcases accept_runs rest with ⟨value, document, parsed, read, rfl, kept⟩ | ⟨e, rfl, _, rfl, rfl⟩
    · obtain ⟨stores, stored, saves⟩ := kept_stores kept
      obtain ⟨i, hi, answer⟩ := fetched_answer first
      rw [same] at stored saves
      refine .inr ⟨value, document, ⟨⟨i, body, hi, answer, parsed⟩, read, ?_, ?_, ?_⟩, rfl, saves⟩
      · intro event mem
        rcases List.mem_append.mp mem with mem | mem
        · exact .inl (List.eq_of_mem_replicate mem)
        · exact .inr (stores event mem)
      · rwa [asked_writes]
      · rw [asked_writes]
        exact kept_readable stores kept
    · refine .inl ⟨same, fun document h => ?_⟩
      cases h

end Acquisition

/-- However a call goes, it leaves the disk as told, and its result is that of not keeping. -/
theorem acquire_frame {acquisition : Acquisition} {source : String} {world final : World}
    {events : List Event} {result : Except AcquireError Acquired}
    (run : Runs (acquisition.acquire source).run world events result final) :
    AcquireFrame acquisition source world events result final := by
  have unkept := Acquisition.acquire_unkept run (runs_run _ _)
  rcases Acquisition.acquire_disk run with ⟨same, other⟩ | ⟨value, document, kept, rfl, saves⟩
  · constructor
    · exact .inl same
    · exact fun _ _ _ _ _ => same
    · intro document h
      exact absurd h (other document)
    · exact unkept
  · constructor
    · rcases saves with saves | same
      · exact .inr ⟨saves, document, rfl⟩
      · exact .inl same
    · intro i body hi first bad
      -- The first answer is the body whose document was accepted.
      obtain ⟨j, body', hj, first', parsed⟩ := kept.fetched
      obtain ⟨_, rfl⟩ := firstAnswer_unique first first'
      exact absurd kept.document (bad value document parsed)
    · intro document' h
      cases h
      exact ⟨value, kept⟩
    · exact unkept

theorem served_once_frame :
    let call := (Acquisition.acquire { fallback := "kept/api.json" } "http://h/x").run
    AcquireFrame { fallback := "kept/api.json" } "http://h/x" servedOnce (call.trace servedOnce)
      (call.run servedOnce).1 (call.run servedOnce).2 ∧
    (call.trace servedOnce).any (Event.writes "kept/api.json") = true ∧
    servedOnce.disk.isDirectory "kept" = false ∧
    (call.run servedOnce).2.disk.isDirectory "kept" = true := by
  refine ⟨acquire_frame (runs_run _ _), ?_, ?_, ?_⟩ <;> decide +kernel

end OpenApiClient
