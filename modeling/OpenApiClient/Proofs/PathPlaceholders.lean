import OpenApiClient.Client.Call
import Mathlib.Data.List.Basic
import Mathlib.Data.Nat.Notation
import Mathlib.Tactic.Common

/-! The placeholders of a path, all filled in at once.
A name without braces is a placeholder only where an opening brace is followed by the name and a
closing one, so a path is cut into placeholders and single characters in one way, whatever the names
are. `fillFrom` is told by that cut. -/
namespace OpenApiClient

/-- Fills a path from left to right: the placeholder of a name gives what is put for the name, and
every other character what stands for it. Of a placeholder, `skip` characters are still left. -/
def fillFrom {α : Type} (plain : Char → α) (slots : List (String × List α)) (skip : ℕ) :
    List Char → List α
  | [] => []
  | c :: rest =>
    match skip with
    | n + 1 => fillFrom plain slots n rest
    | 0 =>
      match slots.find? fun slot => (placeholder slot.1).isPrefixOf (c :: rest) with
      | some slot => slot.2 ++ fillFrom plain slots ((placeholder slot.1).length - 1) rest
      | none => plain c :: fillFrom plain slots 0 rest

def fillPath {α : Type} (plain : Char → α) (slots : List (String × List α)) (path : String) :
    List α :=
  fillFrom plain slots 0 path.toList

def isBrace (c : Char) : Bool := c = '\x7b' || c = '\x7d'

def Braceless (text : List Char) : Prop := ∀ c ∈ text, isBrace c = false

inductive PathPiece
  | char (c : Char)
  | slot (name : String)
  deriving DecidableEq, Repr

def PathPiece.text : PathPiece → List Char
  | char c => [c]
  | slot name => placeholder name

def spell (pieces : List PathPiece) : List Char := pieces.flatMap PathPiece.text

/-- Pieces in which a brace stands alone only where the next brace does not close it. -/
inductive Cut : List PathPiece → Prop where
  | nil : Cut []
  | char {c rest} : c ≠ '\x7b' → Cut rest → Cut (.char c :: rest)
  | brace {rest} : (spell rest).find? isBrace ≠ some '\x7d' → Cut rest → Cut (.char '\x7b' :: rest)
  | slot {name rest} : Braceless name.toList → Cut rest → Cut (.slot name :: rest)

theorem Braceless.find {text : List Char} (h : Braceless text) (rest : List Char) :
    (text ++ rest).find? isBrace = rest.find? isBrace := by
  have none : text.find? isBrace = none := List.find?_eq_none.mpr (by simpa [Braceless] using h)
  rw [List.find?_append, none, Option.none_or]

theorem Braceless.opening {text : List Char} (h : Braceless text) : '\x7b' ∉ text := by
  intro mem
  exact absurd (h _ mem) (by decide)

theorem Braceless.closing {text : List Char} (h : Braceless text) : '\x7d' ∉ text := by
  intro mem
  exact absurd (h _ mem) (by decide)

theorem exists_cut (path : List Char) : ∃ pieces, Cut pieces ∧ spell pieces = path := by
  induction size : path.length using Nat.strongRecOn generalizing path with
  | _ n ih =>
    subst size
    cases path with
    | nil => exact ⟨[], .nil, rfl⟩
    | cons c rest =>
      by_cases brace : c = '\x7b'
      · subst brace
        by_cases closed : rest.find? isBrace = some '\x7d'
        · obtain ⟨_, name, after, rfl, inside⟩ := List.find?_eq_some_iff_append.mp closed
          obtain ⟨pieces, cut, rfl⟩ := ih after.length (by simp; omega) after rfl
          refine ⟨.slot (.ofList name) :: pieces, .slot ?_ cut, ?_⟩
          · simpa [Braceless] using inside
          · simp [spell, PathPiece.text, placeholder]
        · obtain ⟨pieces, cut, rfl⟩ := ih rest.length (by simp) rest rfl
          exact ⟨.char '\x7b' :: pieces, .brace closed cut, rfl⟩
      · obtain ⟨pieces, cut, rfl⟩ := ih rest.length (by simp) rest rfl
        exact ⟨.char c :: pieces, .char brace cut, rfl⟩

theorem placeholder_closes {name : String} {rest : List Char} (h : Braceless name.toList)
    (front : placeholder name <+: '\x7b' :: rest) : rest.find? isBrace = some '\x7d' := by
  obtain ⟨after, whole⟩ := front
  obtain rfl : name.toList ++ '\x7d' :: after = rest := by simpa [placeholder] using whole
  rw [h.find]
  rfl

theorem placeholder_begins {name other : String} {rest : List Char} (h : Braceless name.toList)
    (h' : Braceless other.toList) :
    placeholder name <+: placeholder other ++ rest ↔ name = other := by
  constructor
  · rintro ⟨after, whole⟩
    have letters : name.toList ++ '\x7d' :: after = other.toList ++ '\x7d' :: rest := by
      simpa [placeholder] using whole
    have upTo : ∀ {text : List Char} (tail : List Char), Braceless text →
        (text ++ '\x7d' :: tail).takeWhile (! isBrace ·) = text := by
      intro text tail plain
      have stop : isBrace '\x7d' = true := rfl
      rw [List.takeWhile_append_of_pos (by simpa [Braceless] using plain)]
      simp [stop]
    apply String.toList_injective
    rw [← upTo after h, letters, upTo rest h']
  · rintro rfl
    exact List.prefix_append _ _

def PathPiece.filled {α : Type} (plain : Char → α) (slots : List (String × List α)) :
    PathPiece → List α
  | char c => [plain c]
  | slot name =>
    match slots.find? (·.1 = name) with
    | some entry => entry.2
    | none => (placeholder name).map plain

section Filling

variable {α : Type} {plain : Char → α} {slots : List (String × List α)}

theorem filled_here (name : String) (content : List α) :
    (PathPiece.slot name).filled plain ((name, content) :: slots) = content := by
  simp [PathPiece.filled]

theorem filled_later {name other : String} (h : other ≠ name) (content : List α) :
    (PathPiece.slot name).filled plain ((other, content) :: slots) =
      (PathPiece.slot name).filled plain slots := by
  simp [PathPiece.filled, h]

theorem filled_absent {name : String} (h : name ∉ slots.map Prod.fst) :
    (PathPiece.slot name).filled plain slots = (placeholder name).map plain := by
  have none : slots.find? (·.1 = name) = none := by
    rw [List.find?_eq_none]
    intro slot mem called
    exact h (List.mem_map.mpr ⟨slot, mem, by simpa using called⟩)
  rw [PathPiece.filled, none]

theorem filled_named (content : String → List α) (names : List String) (name : String) :
    (PathPiece.slot name).filled plain (names.map fun name => (name, content name)) =
      if name ∈ names then content name else (placeholder name).map plain := by
  induction names with
  | nil => rfl
  | cons first rest ih =>
    rw [List.map_cons]
    by_cases here : first = name
    · subst here
      rw [filled_here, if_pos List.mem_cons_self]
    · rw [filled_later here, ih]
      simp [Ne.symm here]

theorem fillFrom_skip (front rest : List Char) :
    fillFrom plain slots front.length (front ++ rest) = fillFrom plain slots 0 rest := by
  induction front with
  | nil => rfl
  | cons c front ih => exact ih

theorem fillFrom_char {c : Char} {rest : List Char}
    (h : ∀ slot ∈ slots, ¬ placeholder slot.1 <+: c :: rest) :
    fillFrom plain slots 0 (c :: rest) = plain c :: fillFrom plain slots 0 rest := by
  have none : slots.find? (fun slot => (placeholder slot.1).isPrefixOf (c :: rest)) = none := by
    rw [List.find?_eq_none]
    intro slot mem front
    exact h slot mem (List.isPrefixOf_iff_prefix.mp front)
  rw [fillFrom, none]

theorem fillFrom_plain {front : List Char} (h : '\x7b' ∉ front) (rest : List Char) :
    fillFrom plain slots 0 (front ++ rest) = front.map plain ++ fillFrom plain slots 0 rest := by
  induction front with
  | nil => rfl
  | cons c front ih =>
    simp only [List.mem_cons, not_or] at h
    rw [List.cons_append, fillFrom_char, ih h.2, List.map_cons, List.cons_append]
    rintro slot _ ⟨after, whole⟩
    exact h.1 (List.cons.inj whole).1

theorem find_placeholder (named : ∀ slot ∈ slots, Braceless slot.1.toList) {name : String}
    (h : Braceless name.toList) (rest : List Char) :
    (slots.find? fun slot => (placeholder slot.1).isPrefixOf (placeholder name ++ rest)) =
      slots.find? (·.1 = name) := by
  induction slots with
  | nil => rfl
  | cons slot slots ih =>
    obtain ⟨here, others⟩ := List.forall_mem_cons.mp named
    have same : (placeholder slot.1).isPrefixOf (placeholder name ++ rest) =
        decide (slot.1 = name) := by
      rw [Bool.eq_iff_iff, List.isPrefixOf_iff_prefix, placeholder_begins here h, decide_eq_true_iff]
    rw [List.find?_cons, List.find?_cons, same, ih others]

theorem fillFrom_open (named : ∀ slot ∈ slots, Braceless slot.1.toList) {rest : List Char}
    (h : rest.find? isBrace ≠ some '\x7d') :
    fillFrom plain slots 0 ('\x7b' :: rest) = plain '\x7b' :: fillFrom plain slots 0 rest := by
  apply fillFrom_char
  intro slot mem front
  exact h (placeholder_closes (named slot mem) front)

theorem fillFrom_entry (entry : String × List α) {rest : List Char}
    (found : (slots.find? fun slot => (placeholder slot.1).isPrefixOf (placeholder entry.1 ++ rest)) =
      some entry) :
    fillFrom plain slots 0 (placeholder entry.1 ++ rest) = entry.2 ++ fillFrom plain slots 0 rest := by
  have letters : placeholder entry.1 ++ rest = '\x7b' :: (entry.1.toList ++ ['\x7d'] ++ rest) := by
    simp [placeholder]
  have size : (placeholder entry.1).length - 1 = (entry.1.toList ++ ['\x7d']).length := by
    simp [placeholder]
  rw [letters] at found ⊢
  rw [fillFrom, found]
  simp only
  rw [size, fillFrom_skip]

theorem fillFrom_slot (named : ∀ slot ∈ slots, Braceless slot.1.toList) {name : String}
    (h : Braceless name.toList) (rest : List Char) :
    fillFrom plain slots 0 (placeholder name ++ rest) =
      (PathPiece.slot name).filled plain slots ++ fillFrom plain slots 0 rest := by
  have found := find_placeholder named h rest
  rw [PathPiece.filled]
  cases entered : slots.find? (·.1 = name) with
  | some entry =>
    obtain rfl : entry.1 = name := by simpa using List.find?_some entered
    rw [entered] at found
    exact fillFrom_entry _ found
  | none =>
    have letters : placeholder name ++ rest = '\x7b' :: (name.toList ++ ['\x7d'] ++ rest) := by
      simp [placeholder]
    have absent : ∀ slot ∈ slots, ¬ placeholder slot.1 <+: placeholder name ++ rest := by
      intro other mem front
      rw [placeholder_begins (named other mem) h] at front
      simpa [front] using List.find?_eq_none.mp entered other mem
    have inside : '\x7b' ∉ name.toList ++ ['\x7d'] := by simp [h.opening]
    rw [letters] at absent
    rw [letters, fillFrom_char absent, fillFrom_plain inside]
    simp [placeholder]

theorem fillFrom_spell (named : ∀ slot ∈ slots, Braceless slot.1.toList) {pieces : List PathPiece}
    (cut : Cut pieces) :
    fillFrom plain slots 0 (spell pieces) = pieces.flatMap (·.filled plain slots) := by
  induction cut with
  | nil => rfl
  | char other cut ih =>
    rename_i c rest
    have front : '\x7b' ∉ [c] := by simpa using Ne.symm other
    rw [List.flatMap_cons, ← ih]
    exact fillFrom_plain front (spell rest)
  | brace opens cut ih =>
    rw [List.flatMap_cons, ← ih]
    exact fillFrom_open named opens
  | slot inside cut ih =>
    rw [List.flatMap_cons, ← ih]
    exact fillFrom_slot named inside _

theorem fillFrom_flatMap {β : Type} {g : α → List β} {other : Char → β}
    (chars : ∀ c, g (plain c) = [other c]) (skip : ℕ) (path : List Char) :
    (fillFrom plain slots skip path).flatMap g =
      fillFrom other (slots.map fun slot => (slot.1, slot.2.flatMap g)) skip path := by
  induction path generalizing skip with
  | nil => rfl
  | cons c rest ih =>
    cases skip with
    | succ skip => exact ih skip
    | zero =>
      have same : ((fun slot : String × List β => (placeholder slot.1).isPrefixOf (c :: rest)) ∘
          fun slot : String × List α => (slot.1, slot.2.flatMap g)) =
            fun slot => (placeholder slot.1).isPrefixOf (c :: rest) := rfl
      rw [fillFrom, fillFrom, List.find?_map, same]
      cases found : slots.find? fun slot => (placeholder slot.1).isPrefixOf (c :: rest) with
      | none => simp [chars, ih]
      | some slot => simp [ih]

theorem mem_fillFrom {skip : ℕ} {path : List Char} {a : α}
    (h : a ∈ fillFrom plain slots skip path) :
    (∃ c ∈ path, a = plain c) ∨ ∃ slot ∈ slots, a ∈ slot.2 := by
  induction path generalizing skip with
  | nil => cases h
  | cons c rest ih =>
    have later : ∀ {skip}, a ∈ fillFrom plain slots skip rest →
        (∃ d ∈ c :: rest, a = plain d) ∨ ∃ slot ∈ slots, a ∈ slot.2 := by
      intro skip h
      rcases ih h with ⟨d, mem, same⟩ | entered
      · exact .inl ⟨d, List.mem_cons_of_mem c mem, same⟩
      · exact .inr entered
    cases skip with
    | succ skip => exact later h
    | zero =>
      rw [fillFrom] at h
      split at h
      · rename_i slot found
        rcases List.mem_append.mp h with h | h
        · exact .inr ⟨slot, List.mem_of_find?_eq_some found, h⟩
        · exact later h
      · rcases List.mem_cons.mp h with rfl | h
        · exact .inl ⟨c, List.mem_cons_self, rfl⟩
        · exact later h

/-- Of the names that are filled in, the order does not matter. -/
theorem fillPath_perm {names others : List String} (same : others.Perm names)
    (plain : Char → α) (content : String → List α) (inside : ∀ name ∈ names, Braceless name.toList)
    (path : String) :
    fillPath plain (others.map fun name => (name, content name)) path =
      fillPath plain (names.map fun name => (name, content name)) path := by
  obtain ⟨pieces, cut, spelled⟩ := exists_cut path.toList
  have named : ∀ slot ∈ names.map fun name => (name, content name), Braceless slot.1.toList := by
    simpa using inside
  have named' : ∀ slot ∈ others.map fun name => (name, content name), Braceless slot.1.toList := by
    simpa [same.mem_iff] using inside
  rw [fillPath, fillPath, ← spelled, fillFrom_spell named' cut, fillFrom_spell named cut]
  apply List.flatMap_congr
  intro piece _
  cases piece with
  | char c => rfl
  | slot name =>
    rw [filled_named, filled_named]
    simp only [same.mem_iff]

end Filling

theorem replaceAll_eq_fill (name : String) (replacement path : List Char) :
    Text.replaceAll (placeholder name) replacement path =
      fillFrom id [(name, replacement)] 0 path := by
  have general : ∀ skip, Text.replaceFrom (placeholder name) replacement skip path =
      fillFrom id [(name, replacement)] skip path := by
    induction path with
    | nil =>
      intro skip
      rfl
    | cons c rest ih =>
      intro skip
      cases skip with
      | succ skip => exact ih skip
      | zero =>
        rw [Text.replaceFrom, fillFrom, List.find?_singleton]
        by_cases front : (placeholder name).isPrefixOf (c :: rest) = true
        · simp [front, ih]
        · simp [front, ih]
  exact general 0

theorem occurs_of_slot {pieces : List PathPiece} {name : String} (h : .slot name ∈ pieces) :
    placeholder name <:+: spell pieces :=
  List.infix_of_mem_flatten (List.mem_map.mpr ⟨.slot name, h, rfl⟩)

/-- A placeholder begins with a brace, so it begins behind whatever has none. -/
theorem occurs_behind {name : String} {front rest : List Char} (none : '\x7b' ∉ front)
    (occurs : placeholder name <:+: front ++ rest) : placeholder name <:+: rest := by
  induction front with
  | nil => exact occurs
  | cons c front ih =>
    simp only [List.mem_cons, not_or] at none
    rcases List.infix_cons_iff.mp occurs with ⟨after, whole⟩ | occurs
    · exact absurd (List.cons.inj whole).1 none.1
    · exact ih none.2 occurs

/-- Where the placeholder of a name without braces occurs, the path is cut. -/
theorem slot_of_occurs {pieces : List PathPiece} (cut : Cut pieces) {name : String}
    (h : Braceless name.toList) (occurs : placeholder name <:+: spell pieces) :
    .slot name ∈ pieces := by
  induction cut with
  | nil => simp [spell, placeholder] at occurs
  | @char c rest other cut ih =>
    have front : '\x7b' ∉ [c] := by simpa using Ne.symm other
    exact List.mem_cons_of_mem _ (ih (occurs_behind front occurs))
  | brace opens cut ih =>
    rcases List.infix_cons_iff.mp occurs with front | occurs
    · exact absurd (placeholder_closes h front) opens
    · exact List.mem_cons_of_mem _ (ih occurs)
  | @slot other rest inside cut ih =>
    by_cases same : name = other
    · rw [same]
      exact List.mem_cons_self
    · have occurs : placeholder name <:+: placeholder other ++ spell rest := occurs
      have letters : placeholder other ++ spell rest =
          '\x7b' :: (other.toList ++ ['\x7d'] ++ spell rest) := by
        simp [placeholder]
      rw [letters] at occurs
      rcases List.infix_cons_iff.mp occurs with front | occurs
      · rw [← letters, placeholder_begins h inside] at front
        exact absurd front same
      · have front : '\x7b' ∉ other.toList ++ ['\x7d'] := by simp [inside.opening]
        exact List.mem_cons_of_mem _ (ih (occurs_behind front occurs))

theorem urlLiteral_letters (path : String) (bindings : List Binding) :
    (urlLiteral path bindings).toList =
      Script.templateQuote :: (urlTemplate path bindings ++ [Script.templateQuote]) := by
  simp only [urlLiteral, String.toList_append, String.toList_ofList]
  rfl

end OpenApiClient
