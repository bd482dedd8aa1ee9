import OpenApiClient.Proofs.AcquisitionOutcome
import OpenApiClient.Proofs.SettledValues

/-! What a fallback file holds.
Calls keep their documents there, one after the other. A body that is rejected is not written, and
one that cannot be written is not remembered, so an outage brings back the last one written. -/
namespace OpenApiClient

def Event.writes (path : String) : Event → Bool
  | wrote place _ => place = path
  | _ => false

structure Acquisition.KeepsAt (acquisition : Acquisition) (path : String) : Prop where
  enabled : acquisition.remote.enabled = true
  saves : acquisition.remote.saveLocal = true
  place : acquisition.fallback = path

/-- The body that a file comes from after a call: the fetched one if it has been written. -/
def latest (path : String) (events : List Event) (fetched before : Option ByteArray) :
    Option ByteArray :=
  if events.any (Event.writes path) then fetched else before

/-- A world after some calls, and the last body whose document they wrote to a file. Between two
calls all may change, but nobody else writes the file. -/
inductive CacheHistory (path : String) : World → Option ByteArray → Prop where
  | start (world) : CacheHistory path world none
  | between {world later body} : CacheHistory path world body →
      later.disk.read path = world.disk.read path → CacheHistory path later body
  | call {world final : World} {body fetched : Option ByteArray} {acquisition : Acquisition}
      {source events result count} : CacheHistory path world body → acquisition.KeepsAt path →
      NamesServer source → Runs (acquisition.acquire source).run world events result final →
      Attempted (world.script source) acquisition.attempts fetched count →
      CacheHistory path final (latest path events fetched body)

def Cached (path : String) (disk : Disk) (body : ByteArray) : Prop :=
  ∃ value document, Json.parse (Symbol.ofBytes body) = .ok value ∧
    Document.ofJson value = .ok document ∧ disk.read path = .ok value.indented.toUTF8

/-- While a value is kept, its file holds it from the writing on, and before that what it held. -/
theorem keeps_read {path : String} {content : ByteArray} (bytes : ByteArray) {action : Action α}
    {world final : World} {events : List Event} {a : α} (run : Runs action world events a final)
    (keeps : ∀ event ∈ events, event.Keeps path content)
    (held : events.any (Event.writes path) = true ∨ world.disk.read path = .ok bytes) :
    final.disk.read path = .ok (if events.any (Event.writes path) then content else bytes) := by
  induction run generalizing bytes with
  | done a world =>
    rcases held with h | h
    · cases h
    · exact h
  | read _ _ => cases keeps _ (.head _)
  | request _ _ => cases keeps _ (.head _)
  | has _ ih | isDirectory _ ih | writeRefused _ _ ih | makeDirectoryRefused _ _ ih =>
    exact ih bytes (fun event mem => keeps event (.tail _ mem)) held
  | write h _ ih =>
    cases keeps _ (.head _)
    have later := ih content (fun event mem => keeps event (.tail _ mem))
      (.inr (Disk.read_write h))
    simpa [Event.writes] using later
  | makeDirectory h _ ih =>
    refine ih bytes (fun event mem => keeps event (.tail _ mem)) ?_
    exact held.imp id (Disk.read_makeDirectory h)

theorem asked_writes (path source : String) (count : ℕ) (events : List Event) :
    (List.replicate count (Event.asked source) ++ events).any (Event.writes path) =
      events.any (Event.writes path) := by
  have asked : (List.replicate count (Event.asked source)).any (Event.writes path) = false := by
    rw [List.any_eq_false]
    intro event mem
    cases List.eq_of_mem_replicate mem
    simp [Event.writes]
  rw [List.any_append, asked, Bool.false_or]

theorem cached_call {path source : String} {world final : World} {acquisition : Acquisition}
    {events : List Event} {result : Except AcquireError Acquired} {fetched before : Option ByteArray}
    {count : ℕ} (keeps : acquisition.KeepsAt path) (remote : NamesServer source)
    (run : Runs (acquisition.acquire source).run world events result final)
    (attempted : Attempted (world.script source) acquisition.attempts fetched count)
    (held : ∀ body, before = some body → Cached path world.disk body) {body : ByteArray}
    (h : latest path events fetched before = some body) : Cached path final.disk body := by
  obtain ⟨enabled, saves, rfl⟩ := keeps
  rcases Acquisition.acquire_runs run with
    ⟨here, _⟩ | ⟨_, asked, found, middle, after, rfl, first, rest⟩
  · exact absurd remote here
  obtain ⟨count', attempted', rfl, rfl⟩ := Acquisition.fetched_runs enabled first
  cases attempted_unique attempted attempted'
  unfold latest at h
  rw [asked_writes] at h
  cases fetched with
  | none =>
    obtain ⟨rfl, rfl, _⟩ := rest
    exact held body h
  | some answer =>
    rcases Acquisition.accept_runs rest with
      ⟨value, document, parsed, read, _, kept⟩ | ⟨_, _, _, rfl, rfl⟩
    · rw [if_pos saves] at kept
      have only := kept.only (keep_only _ value)
      -- An accepted body counts only if its writing was not refused.
      by_cases wrote : after.any (Event.writes acquisition.fallback) = true
      · rw [if_pos wrote] at h
        cases h
        have there := keeps_read .empty kept only (.inl wrote)
        rw [if_pos wrote] at there
        exact ⟨value, document, parsed, read, there⟩
      · rw [if_neg wrote] at h
        obtain ⟨value', document', parsed', read', file⟩ := held body h
        have there := keeps_read _ kept only (.inr file)
        rw [if_neg wrote] at there
        exact ⟨value', document', parsed', read', there⟩
    · exact held body h

theorem history_cached {path : String} {world : World} {last : Option ByteArray}
    (history : CacheHistory path world last) (body : ByteArray) (h : last = some body) :
    Cached path world.disk body := by
  induction history generalizing body with
  | start world => cases h
  | between _ alone ih =>
    obtain ⟨value, document, parsed, read, file⟩ := ih body h
    exact ⟨value, document, parsed, read, alone.trans file⟩
  | call _ keeps remote run attempted ih => exact cached_call keeps remote run attempted ih h

theorem consulted_document {disk : Disk} {path : String} {origin : Origin} {bytes : ByteArray}
    {value : Json} {document : Document} {result : Except AcquireError Acquired}
    (file : disk.read path = .ok bytes) (parsed : Json.parse (Symbol.ofBytes bytes) = .ok value)
    (read : Document.ofJson value = .ok document) (told : Consulted disk path origin result) :
    result = .ok ⟨document, origin⟩ := by
  cases told with
  | missing absent => cases absent.symm.trans file
  | read there told =>
    cases there.symm.trans file
    cases told with
    | accepted parsed' read' =>
      cases parsed'.symm.trans parsed
      cases read'.symm.trans read
      rfl
    | malformed parsed' => cases parsed'.symm.trans parsed
    | unfitting parsed' read' =>
      cases parsed'.symm.trans parsed
      cases read'.symm.trans read

/-- An outage brings back exactly the document of the last body that was written. -/
theorem outage_restores_document {path source : String} {world : World} {body : ByteArray}
    {acquisition : Acquisition} (history : CacheHistory path world (some body))
    (integral : ∀ value, Json.parse (Symbol.ofBytes body) = .ok value → value.Integral)
    (keeps : acquisition.KeepsAt path) (remote : NamesServer source)
    (failing : ∀ i < max acquisition.remote.retries 1, FailedEntry (world.script source)[i]?) :
    ∃ value document, Json.parse (Symbol.ofBytes body) = .ok value ∧
      Document.ofJson value = .ok document ∧
      Json.parse (Symbol.ofBytes value.indented.toUTF8) = .ok value ∧
      ((acquisition.acquire source).run.run world).1 = .ok ⟨document, .fallback path⟩ ∧
      ∀ events result final, Runs (acquisition.acquire source).run world events result final →
        result = .ok ⟨document, .fallback path⟩ := by
  obtain ⟨value, document, parsed, read, file⟩ := history_cached history body rfl
  have again := Json.parse_indented parsed (integral value parsed)
  have restored : ∀ events result final,
      Runs (acquisition.acquire source).run world events result final →
        result = .ok ⟨document, .fallback path⟩ := by
    intro events result final run
    obtain ⟨enabled, _, rfl⟩ := keeps
    rcases Acquisition.acquire_runs run with
      ⟨here, _⟩ | ⟨_, asked, found, middle, after, rfl, first, rest⟩
    · exact absurd remote here
    obtain ⟨count, attempted, rfl, rfl⟩ := Acquisition.fetched_runs enabled first
    cases attempted_failing attempted failing
    obtain ⟨rfl, rfl, told⟩ := rest
    exact consulted_document file again read told
  exact ⟨value, document, parsed, read, again, restored _ _ _ (runs_run _ _), restored⟩

def plainDocument : Json := .object [("x", .number (.natural 7))]

def servedOnce : World :=
  { server := some { address := "http://h", script := [some ⟨200, plainDocument.indented.toUTF8⟩] } }

def defaultCall : Action (Except AcquireError Acquired) := (Acquisition.acquire {} "http://h/x").run

theorem served_once_restored : ∃ document, Document.ofJson plainDocument = .ok document ∧
    (defaultCall.run (defaultCall.run servedOnce).2).1 =
      .ok ⟨document, .fallback "./openapi.json"⟩ := by
  have integral : plainDocument.Integral := by
    refine .object fun field mem => ?_
    cases List.mem_singleton.mp mem
    exact .number (.natural (by decide))
  have nests : Json.Nests Json.maxDepth plainDocument := by
    refine .object fun field mem => ?_
    cases List.mem_singleton.mp mem
    exact .number
  have distinct : plainDocument.Distinct := by
    refine .object (by simp) fun field mem => ?_
    cases List.mem_singleton.mp mem
    exact .number
  have parsed := Json.parse_printed nests distinct integral
  have script : servedOnce.script "http://h/x" =
      [some ⟨200, plainDocument.indented.toUTF8⟩] := rfl
  have wrote : (defaultCall.trace servedOnce).any (Event.writes "./openapi.json") = true := by
    decide +kernel
  have history : CacheHistory "./openapi.json" (defaultCall.run servedOnce).2
      (some plainDocument.indented.toUTF8) := by
    have answered : Attempted (servedOnce.script "http://h/x") 3
        (some plainDocument.indented.toUTF8) 1 := by
      have succeeds : ¬ FailedEntry (some (some ⟨200, plainDocument.indented.toUTF8⟩)) := by
        rintro (_ | _ | ⟨low, _⟩)
        exact absurd low (by decide)
      have first := FirstAnswer.at (i := 0) (fun j hj => (Nat.not_lt_zero j hj).elim)
        (congrArg (·[0]?) script) succeeds
      exact .answered (by decide) first
    have call := CacheHistory.call (.start servedOnce) ⟨rfl, rfl, rfl⟩ (by decide)
      (runs_run defaultCall servedOnce) answered
    rwa [latest, if_pos wrote] at call
  have exhausted : ((defaultCall.run servedOnce).2.script "http://h/x").isEmpty = true := by
    decide +kernel
  have failing : ∀ i < max 3 1,
      FailedEntry ((defaultCall.run servedOnce).2.script "http://h/x")[i]? := by
    intro i _
    rw [List.isEmpty_iff.mp exhausted]
    exact .exhausted
  obtain ⟨value, document, parsed', read, _, restored, _⟩ :=
    @outage_restores_document "./openapi.json" "http://h/x" _ _ {} history
      (fun value h => by
        cases h.symm.trans parsed
        exact integral) ⟨rfl, rfl, rfl⟩ (by decide) failing
  cases parsed'.symm.trans parsed
  exact ⟨document, read, restored⟩

end OpenApiClient
