import OpenApiClient.Validation
import Mathlib.Tactic.Common

/-! Walks along rules.
A check obeys a list of rules if it passes when all of them hold, and otherwise stops at the first
one that is broken and reports that one. Checks in turn obey their rules in turn. -/
namespace OpenApiClient

structure Rule where
  holds : Prop
  violation : Violation

/-- The violation of the first broken rule. -/
inductive FirstBroken : List Rule → Violation → Prop where
  | here {rule rest} : ¬ rule.holds → FirstBroken (rule :: rest) rule.violation
  | later {rule rest violation} : rule.holds → FirstBroken rest violation →
      FirstBroken (rule :: rest) violation

inductive Obeys (rules : List Rule) (value : α) : Except Violation α → Prop where
  | passes : (∀ rule ∈ rules, rule.holds) → Obeys rules value (.ok value)
  | stops {violation} : FirstBroken rules violation → Obeys rules value (.error violation)

variable {rules rest : List Rule} {rule : Rule} {violation : Violation}

theorem FirstBroken.append (h : FirstBroken rules violation) (rest : List Rule) :
    FirstBroken (rules ++ rest) violation := by
  induction h with
  | here broken => exact .here broken
  | later holds _ ih => exact .later holds ih

theorem FirstBroken.behind (all : ∀ rule ∈ rules, rule.holds) (h : FirstBroken rest violation) :
    FirstBroken (rules ++ rest) violation := by
  induction rules with
  | nil => exact h
  | cons rule rules ih =>
    obtain ⟨holds, all⟩ := List.forall_mem_cons.mp all
    exact .later holds (ih all)

theorem FirstBroken.broken (h : FirstBroken rules violation) : ¬ ∀ rule ∈ rules, rule.holds := by
  induction h with
  | here broken => exact fun all => broken (all _ (.head _))
  | later _ _ ih => exact fun all => ih fun rule mem => all rule (.tail _ mem)

theorem FirstBroken.unique {violation' : Violation} (h : FirstBroken rules violation)
    (h' : FirstBroken rules violation') : violation' = violation := by
  induction h with
  | here broken =>
    cases h' with
    | here _ => rfl
    | later holds _ => exact absurd holds broken
  | later holds _ ih =>
    cases h' with
    | here broken => exact absurd holds broken
    | later _ h' => exact ih h'

theorem obeys_nil (value : α) : Obeys [] value (.ok value) := .passes (by simp)

theorem Obeys.cons {x : Except Violation α} {value : α} (holds : rule.holds)
    (after : Obeys rest value x) : Obeys (rule :: rest) value x := by
  cases after with
  | passes all => exact .passes (List.forall_mem_cons.mpr ⟨holds, all⟩)
  | stops broken => exact .stops (.later holds broken)

theorem obeys_if {condition : Prop} [Decidable condition] {x : Except Violation α} {value : α}
    (same : condition ↔ rule.holds) (after : rule.holds → Obeys rest value x) :
    Obeys (rule :: rest) value (if condition then x else .error rule.violation) := by
  by_cases h : condition
  · rw [if_pos h]
    exact (after (same.mp h)).cons (same.mp h)
  · rw [if_neg h]
    exact .stops (.here fun holds => h (same.mpr holds))

theorem obeys_unless {condition : Prop} [Decidable condition] {x : Except Violation α} {value : α}
    (same : condition ↔ ¬ rule.holds) (after : rule.holds → Obeys rest value x) :
    Obeys (rule :: rest) value (if condition then .error rule.violation else x) := by
  have flip : ¬ condition ↔ rule.holds := by rw [same, not_not]
  have shown := obeys_if flip after
  rwa [ite_not] at shown

theorem Obeys.bind {x : Except Violation α} {f : α → Except Violation β} {a : α} {b : β}
    (first : Obeys rules a x) (second : (∀ rule ∈ rules, rule.holds) → Obeys rest b (f a)) :
    Obeys (rules ++ rest) b (x >>= f) := by
  cases first with
  | passes all =>
    change Obeys (rules ++ rest) b (f a)
    generalize f a = outcome at second
    cases second all with
    | passes all' =>
      refine .passes fun rule mem => ?_
      rcases List.mem_append.mp mem with mem | mem
      · exact all rule mem
      · exact all' rule mem
    | stops broken => exact .stops (.behind all broken)
  | stops broken => exact .stops (broken.append rest)

theorem Obeys.map {x : Except Violation α} {a : α} (first : Obeys rules a x) (f : α → β) :
    Obeys rules (f a) (x >>= fun a => pure (f a)) := by
  cases first with
  | passes all => exact .passes all
  | stops broken => exact .stops broken

theorem obeys_forM {rulesOf : γ → List Rule} {check : γ → Except Violation Unit} (items : List γ)
    (each : ∀ item ∈ items, Obeys (rulesOf item) () (check item)) :
    Obeys (items.flatMap rulesOf) () (items.forM check) := by
  induction items with
  | nil => exact obeys_nil ()
  | cons item items ih =>
    obtain ⟨first, others⟩ := List.forall_mem_cons.mp each
    rw [List.flatMap_cons]
    change Obeys _ () (check item >>= fun _ => items.forM check)
    exact first.bind fun _ => ih others

theorem obeys_mapM {rulesOf : γ → List Rule} {value : γ → β} {check : γ → Except Violation β}
    (items : List γ) (each : ∀ item ∈ items, Obeys (rulesOf item) (value item) (check item)) :
    Obeys (items.flatMap rulesOf) (items.map value) (items.mapM check) := by
  induction items with
  | nil => exact obeys_nil []
  | cons item items ih =>
    obtain ⟨first, others⟩ := List.forall_mem_cons.mp each
    rw [List.flatMap_cons, List.mapM_cons, List.map_cons]
    exact first.bind fun _ => (ih others).map (value item :: ·)

/-- A check that obeys rules passes exactly if all hold, and else reports the first broken one. -/
theorem Obeys.exact {x : Except Violation α} {value : α} (h : Obeys rules value x) :
    (∀ result, x = .ok result ↔ (∀ rule ∈ rules, rule.holds) ∧ result = value) ∧
    ∀ violation, x = .error violation ↔ FirstBroken rules violation := by
  cases h with
  | passes all =>
    constructor
    · intro result
      constructor
      · intro h
        cases h
        exact ⟨all, rfl⟩
      · rintro ⟨_, rfl⟩
        rfl
    · intro violation
      constructor
      · intro h
        cases h
      · intro broken
        exact absurd all broken.broken
  | stops broken =>
    constructor
    · intro result
      constructor
      · intro h
        cases h
      · rintro ⟨all, _⟩
        exact absurd all broken.broken
    · intro violation
      constructor
      · intro h
        cases h
        exact broken
      · intro h
        rw [broken.unique h]

end OpenApiClient
