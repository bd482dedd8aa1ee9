import OpenApiClient.Acquisition
import OpenApiClient.Proofs.ActionRuns

/-! Asking a server several times.
The outcome of the attempts is told from the script alone: from its first entry that is no failure,
if that stands among the first entries, as many as there are attempts. -/
namespace OpenApiClient

/-- An entry of a script at which an attempt fails: none is left, the connection breaks or nothing
comes in time, or the status is that of an error. -/
inductive FailedEntry : Option (Option Reply) → Prop where
  | exhausted : FailedEntry none
  | fault : FailedEntry (some none)
  | status {reply : Reply} : 400 ≤ reply.status → reply.status < 600 →
      FailedEntry (some (some reply))

def Reply.delivered (reply : Reply) : ByteArray :=
  if Server.isBodiless reply.status then .empty else reply.body

/-- The body of a script's first entry that is no failure; its position counts from zero. -/
inductive FirstAnswer (script : List (Option Reply)) : ℕ → ByteArray → Prop where
  | at {i} {reply : Reply} : (∀ j < i, FailedEntry script[j]?) → script[i]? = some (some reply) →
      ¬ FailedEntry (some (some reply)) → FirstAnswer script i reply.delivered

/-- Where some attempts end in a script: with a body, or without one after all of them. -/
inductive Attempted (script : List (Option Reply)) (attempts : ℕ) :
    Option ByteArray → ℕ → Prop where
  | answered {i body} : i < attempts → FirstAnswer script i body →
      Attempted script attempts (some body) (i + 1)
  | unanswered : (∀ j < attempts, FailedEntry script[j]?) → Attempted script attempts none attempts

def Requested (script : List (Option Reply)) (attempts count : ℕ) : Prop :=
  (∃ i body, FirstAnswer script i body ∧ count = min attempts (i + 1)) ∨
    ((∀ i : ℕ, FailedEntry script[i]?) ∧ count = attempts)

def Server.after (server : Server) (target : String) (count : ℕ) : Server :=
  { server with
    script := server.script.drop count
    requests := server.requests ++ List.replicate count ("GET " ++ target) }

namespace World

/-- What becomes of requests for an address; none succeeds that does not lead to the server. -/
def script (world : World) (url : String) : List (Option Reply) :=
  match world.server with
  | some server => if (server.target? url).isSome then server.script else []
  | none => []

def after (world : World) (url : String) (count : ℕ) : World :=
  { world with
    server := world.server.map fun server =>
      match server.target? url with
      | some target => server.after target count
      | none => server }

theorem after_zero (world : World) (url : String) : world.after url 0 = world := by
  obtain ⟨disk, _ | server⟩ := world
  · rfl
  · cases h : server.target? url <;> simp [after, h, Server.after]

theorem after_after (world : World) (url : String) (m n : ℕ) :
    (world.after url m).after url n = world.after url (m + n) := by
  obtain ⟨disk, _ | server⟩ := world
  · rfl
  · cases h : server.target? url with
    | none => simp [after, h]
    | some target =>
      have later : (server.after target m).target? url = some target := h
      simp [after, h, later]
      simp [Server.after, List.drop_drop, List.replicate_append_replicate]

theorem script_after (world : World) (url : String) :
    (world.after url 1).script url = (world.script url).tail := by
  obtain ⟨disk, _ | server⟩ := world
  · rfl
  · cases h : server.target? url with
    | none => simp [after, script, h]
    | some target =>
      have later : (server.after target 1).target? url = some target := h
      simp [after, script, h, later]
      simp [Server.after]

theorem answer_script (world : World) (url : String) :
    world.answer url =
      ((world.script url).head?.join.map fun reply => { reply with body := reply.delivered },
        world.after url 1) := by
  have strip : (fun reply : Reply =>
      if Server.isBodiless reply.status then { reply with body := .empty } else reply) =
        fun reply => { reply with body := reply.delivered } := by
    funext reply
    unfold Reply.delivered
    split <;> rfl
  obtain ⟨disk, _ | server⟩ := world
  · rfl
  · cases h : server.target? url with
    | none => simp [answer, Server.answer, script, after, h]
    | some target => simp [answer, Server.answer, script, after, h, strip, Server.after]

end World

theorem failedEntry_reply {reply : Reply} :
    FailedEntry (some (some reply)) ↔ reply.isFailure = true := by
  simp only [Reply.isFailure, Bool.and_eq_true, decide_eq_true_eq]
  constructor
  · rintro (_ | _ | ⟨low, high⟩)
    exact ⟨low, high⟩
  · rintro ⟨low, high⟩
    exact .status low high

theorem attempted_tail {script : List (Option Reply)} {attempts count : ℕ}
    {body : Option ByteArray} (failed : FailedEntry script[0]?)
    (h : Attempted script.tail attempts body count) :
    Attempted script (attempts + 1) body (count + 1) := by
  have shift : ∀ i, (∀ j < i, FailedEntry script.tail[j]?) → ∀ j < i + 1, FailedEntry script[j]? := by
    intro i hi j hj
    cases j with
    | zero => exact failed
    | succ j => simpa using hi j (by omega)
  cases h with
  | answered hi first =>
    obtain ⟨before, here, answers⟩ := first
    exact .answered (by omega) (.at (shift _ before) (by simpa using here) answers)
  | unanswered all => exact .unanswered (shift _ all)

theorem attempt_runs {url : String} {timeout : ℕ} {world final : World} {events : List Event}
    {body : Option ByteArray} (run : Runs (attempt url timeout) world events body final) :
    events = [.asked url] ∧ final = world.after url 1 ∧
      ((body = none ∧ FailedEntry (world.script url)[0]?) ∨
        ∃ answer, body = some answer ∧ FirstAnswer (world.script url) 0 answer) := by
  obtain ⟨before, reply, middle, after, asked, rest, rfl⟩ := runs_bind.mp run
  obtain ⟨rfl, rfl, rfl⟩ := runs_pure.mp rest
  cases asked with
  | request asked =>
    cases asked
    refine ⟨rfl, by rw [World.answer_script], ?_⟩
    rw [World.answer_script, List.head?_eq_getElem?]
    cases h : (world.script url)[0]? with
    | none => exact .inl ⟨rfl, .exhausted⟩
    | some entry =>
      cases entry with
      | none => exact .inl ⟨rfl, .fault⟩
      | some reply =>
        simp only [Option.join_some, Option.map_some]
        by_cases failed : reply.isFailure = true
        · exact .inl ⟨if_pos failed, failedEntry_reply.mpr failed⟩
        · refine .inr ⟨_, if_neg failed, .at (fun j hj => (Nat.not_lt_zero j hj).elim) h ?_⟩
          exact fun h => failed (failedEntry_reply.mp h)

theorem fetch_runs {url : String} {timeout attempts : ℕ} {world final : World}
    {events : List Event} {body : Option ByteArray}
    (run : Runs (fetch url timeout attempts) world events body final) :
    ∃ count, Attempted (world.script url) attempts body count ∧ final = world.after url count ∧
      events = List.replicate count (.asked url) := by
  -- On the attempts left; a failed one goes on in the world after one request.
  induction attempts generalizing world events with
  | zero =>
    obtain ⟨rfl, rfl, rfl⟩ := runs_pure.mp run
    exact ⟨0, .unanswered fun j hj => (Nat.not_lt_zero j hj).elim, (World.after_zero _ _).symm, rfl⟩
  | succ attempts ih =>
    obtain ⟨before, first, middle, after, asked, rest, rfl⟩ := runs_bind.mp run
    obtain ⟨rfl, rfl, entry⟩ := attempt_runs asked
    rcases entry with ⟨rfl, failed⟩ | ⟨answer, rfl, entry⟩
    · obtain ⟨count, later, rfl, rfl⟩ := ih rest
      rw [World.script_after] at later
      refine ⟨count + 1, attempted_tail failed later, ?_, by simp [List.replicate_succ]⟩
      rw [World.after_after, Nat.add_comm]
    · obtain ⟨rfl, rfl, rfl⟩ := runs_pure.mp rest
      exact ⟨1, .answered (by omega) entry, rfl, rfl⟩

theorem firstAnswer_unique {script : List (Option Reply)} {i j : ℕ} {body body' : ByteArray}
    (h : FirstAnswer script i body) (h' : FirstAnswer script j body') : i = j ∧ body = body' := by
  obtain ⟨before, here, answers⟩ := h
  obtain ⟨before', here', answers'⟩ := h'
  rcases Nat.lt_trichotomy i j with lt | rfl | gt
  · exact absurd (here ▸ before' i lt) answers
  · cases here.symm.trans here'
    exact ⟨rfl, rfl⟩
  · exact absurd (here' ▸ before j gt) answers'

theorem firstAnswer_exists {script : List (Option Reply)} {i : ℕ}
    (h : ¬ FailedEntry script[i]?) : ∃ i body, FirstAnswer script i body := by
  induction i using Nat.strongRecOn with
  | ind i ih =>
    by_cases before : ∀ j < i, FailedEntry script[j]?
    · match entry : script[i]? with
      | none => exact absurd (entry ▸ .exhausted) h
      | some none => exact absurd (entry ▸ .fault) h
      | some (some reply) => exact ⟨i, _, .at before entry (entry ▸ h)⟩
    · push Not at before
      obtain ⟨j, hj, answers⟩ := before
      exact ih j hj answers

theorem attempted_requested {script : List (Option Reply)} {attempts count : ℕ}
    {body : Option ByteArray} (h : Attempted script attempts body count) :
    Requested script attempts count := by
  cases h with
  | answered hi first => exact .inl ⟨_, _, first, by omega⟩
  | unanswered all =>
    by_cases never : ∀ i : ℕ, FailedEntry script[i]?
    · exact .inr ⟨never, rfl⟩
    · push Not at never
      obtain ⟨j, hj⟩ := never
      obtain ⟨i, body, first⟩ := firstAnswer_exists hj
      refine .inl ⟨i, body, first, ?_⟩
      have late : attempts ≤ i := by
        obtain ⟨_, here, answers⟩ := first
        by_contra early
        exact answers (here ▸ all i (by omega))
      omega

theorem attempted_answer {script : List (Option Reply)} {attempts count i : ℕ}
    {body : Option ByteArray} {answer : ByteArray} (h : Attempted script attempts body count)
    (hi : i < attempts) (first : FirstAnswer script i answer) : body = some answer := by
  cases h with
  | answered _ other => rw [(firstAnswer_unique other first).2]
  | unanswered all =>
    obtain ⟨_, here, answers⟩ := first
    exact absurd (here ▸ all i hi) answers

theorem attempted_failing {script : List (Option Reply)} {attempts count : ℕ}
    {body : Option ByteArray} (h : Attempted script attempts body count)
    (all : ∀ i < attempts, FailedEntry script[i]?) : body = none := by
  cases h with
  | answered hi first =>
    obtain ⟨_, here, answers⟩ := first
    exact absurd (here ▸ all _ hi) answers
  | unanswered _ => rfl

theorem attempted_unique {script : List (Option Reply)} {attempts m n : ℕ}
    {body body' : Option ByteArray} (h : Attempted script attempts body m)
    (h' : Attempted script attempts body' n) : body' = body := by
  cases h with
  | answered hi first => exact attempted_answer h' hi first
  | unanswered all => exact attempted_failing h' all

end OpenApiClient
