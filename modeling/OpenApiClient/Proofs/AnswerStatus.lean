import OpenApiClient.Proofs.AcquisitionFrame

/-! Which responses are passed over.
The status decides alone, and only an error status makes an attempt fail. What is neither a success
nor an error, such as a redirection that leads nowhere, is taken for the document. -/
namespace OpenApiClient

def Reply.ErrorStatus (reply : Reply) : Prop := 400 ≤ reply.status ∧ reply.status < 600

def Reply.SuccessStatus (reply : Reply) : Prop := 200 ≤ reply.status ∧ reply.status < 300

/-- A failed attempt: the next answer decides, and the fallback if there is none. -/
structure PassedOver (acquisition : Acquisition) (source : String) (world : World) (position : ℕ)
    (result : Except AcquireError Acquired) : Prop where
  next : ∀ i body, position < i → i < max acquisition.remote.retries 1 →
    FirstAnswer (world.script source) i body → Understood source (.remote source) body result
  fallback : (∀ i, position < i → i < max acquisition.remote.retries 1 →
      FailedEntry (world.script source)[i]?) →
    Consulted world.disk acquisition.fallback (.fallback acquisition.fallback) result

theorem errorStatus_iff {reply : Reply} : FailedEntry (some (some reply)) ↔ reply.ErrorStatus := by
  constructor
  · rintro (_ | _ | ⟨low, high⟩)
    exact ⟨low, high⟩
  · rintro ⟨low, high⟩
    exact .status low high

section Deciding

variable {acquisition : Acquisition} {source : String} {world final : World} {events : List Event}
  {result : Except AcquireError Acquired}

theorem answer_decides (remote : NamesServer source)
    (enabled : acquisition.remote.enabled = true)
    (run : Runs (acquisition.acquire source).run world events result final) {i : ℕ}
    {body : ByteArray} (hi : i < max acquisition.remote.retries 1)
    (first : FirstAnswer (world.script source) i body) :
    Understood source (.remote source) body result ∧ ∀ path, .read path ∉ events := by
  rcases Acquisition.acquire_runs run with
    ⟨here, _⟩ | ⟨_, before, found, middle, after, rfl, fetches, rest⟩
  · exact absurd remote here
  obtain ⟨count, attempted, rfl, rfl⟩ := Acquisition.fetched_runs enabled fetches
  cases attempted_answer attempted hi first
  obtain ⟨told, unread, _⟩ := Acquisition.accept_told rest
  refine ⟨told, fun path mem => ?_⟩
  rcases List.mem_append.mp mem with mem | mem
  · cases List.eq_of_mem_replicate mem
  · exact unread path mem

theorem failures_decide (remote : NamesServer source)
    (enabled : acquisition.remote.enabled = true)
    (run : Runs (acquisition.acquire source).run world events result final)
    (failing : ∀ i < max acquisition.remote.retries 1, FailedEntry (world.script source)[i]?) :
    Consulted world.disk acquisition.fallback (.fallback acquisition.fallback) result := by
  rcases Acquisition.acquire_runs run with
    ⟨here, _⟩ | ⟨_, before, found, middle, after, rfl, fetches, rest⟩
  · exact absurd remote here
  obtain ⟨count, attempted, rfl, rfl⟩ := Acquisition.fetched_runs enabled fetches
  cases attempted_failing attempted failing
  obtain ⟨_, _, told⟩ := rest
  exact told

end Deciding

/-- A response that is reached is passed over if its status is that of an error; with any other
status, a success or not, its body is taken for the document. -/
theorem status_decides {acquisition : Acquisition} {source : String} {world final : World}
    {events : List Event} {result : Except AcquireError Acquired} (remote : NamesServer source)
    (enabled : acquisition.remote.enabled = true)
    (run : Runs (acquisition.acquire source).run world events result final) {position : ℕ}
    {reply : Reply} (attempted : position < max acquisition.remote.retries 1)
    (before : ∀ i < position, FailedEntry (world.script source)[i]?)
    (here : (world.script source)[position]? = some (some reply)) :
    (reply.ErrorStatus → PassedOver acquisition source world position result) ∧
    (¬ reply.ErrorStatus → Understood source (.remote source) reply.delivered result ∧
      ∀ path, .read path ∉ events) := by
  constructor
  · intro status
    have failed : FailedEntry (world.script source)[position]? := here ▸ errorStatus_iff.mpr status
    constructor
    · intro i body _ hi first
      exact (answer_decides remote enabled run hi first).1
    · intro later
      refine failures_decide remote enabled run fun i hi => ?_
      rcases Nat.lt_trichotomy i position with lt | rfl | gt
      · exact before i lt
      · exact failed
      · exact later i gt hi
  · intro status
    have answers : ¬ FailedEntry (some (some reply)) := fun h => status (errorStatus_iff.mp h)
    exact answer_decides remote enabled run attempted (.at before here answers)

def titledPage (title : String) : Json :=
  .object [("openapi", .string "3.0.0"),
    ("info", .object [("title", .string title), ("version", .string "1")])]

def movedOnce : World :=
  { server := some
      { address := "http://h"
        script := [some ⟨300, (titledPage "Moved").indented.toUTF8⟩,
          some ⟨200, (titledPage "Served").indented.toUTF8⟩] } }

def secondTry : Acquisition := { remote := { retries := 2, saveLocal := false } }

theorem moved_page_decides :
    Understood "http://h/x" (.remote "http://h/x") (titledPage "Moved").indented.toUTF8
      ((secondTry.acquire "http://h/x").run.run movedOnce).1 := by
  have other : ¬ (Reply.mk 300 (titledPage "Moved").indented.toUTF8).ErrorStatus := by
    rintro ⟨low, _⟩
    exact absurd low (by decide)
  have run := runs_run (secondTry.acquire "http://h/x").run movedOnce
  have here : (movedOnce.script "http://h/x")[0]? =
      some (some ⟨300, (titledPage "Moved").indented.toUTF8⟩) := rfl
  have told := status_decides (by decide) rfl run (by decide) (fun i hi => (Nat.not_lt_zero i hi).elim)
    here
  exact (told.2 other).1

/-- The page that came with the redirection is the document, and success is never asked for. -/
theorem moved_page_taken :
    let after := (secondTry.acquire "http://h/x").run.run movedOnce
    (∃ reply : Reply, (movedOnce.script "http://h/x")[0]? = some (some reply) ∧
      ¬ reply.SuccessStatus) ∧
    (after.1.toOption.map fun acquired => (acquired.origin, acquired.document.info.title)) =
      some (.remote "http://h/x", "Moved") ∧
    after.2.server.map Server.requests = some ["GET /x"] := by
  refine ⟨⟨_, rfl, ?_⟩, ?_, ?_⟩
  · rintro ⟨_, high⟩
    exact absurd high (by decide)
  · decide +kernel
  · decide +kernel

end OpenApiClient
