import OpenApiClient.Proofs.FormalIdentifiers
import OpenApiClient.Proofs.PathPlaceholders
import OpenApiClient.Proofs.ScriptLiterals

/-! What stands in the address of a method.
The parameters replace their placeholders one after the other, in a text that already has
substitutions. A later parameter that is called like the formal of an earlier one so finds its
placeholder inside a substitution, and leaves a dollar behind. -/
namespace OpenApiClient

open Script (TemplateItem TemplatePart templateQuote escapeTemplate)

/-- A name without braces that reads the same when it is escaped. -/
def PlainName (name : String) : Prop :=
  Braceless name.toList ∧ ∀ c ∈ name.toList, c ≠ '\\' ∧ c ≠ templateQuote

instance (name : String) : Decidable (PlainName name) :=
  @instDecidableAnd _ _ (List.decidableBAll _ name.toList) (List.decidableBAll _ name.toList)

def escapedName (name : String) : String := .ofList (escapeTemplate name.toList)

theorem mem_escapeTemplate {text : List Char} {c : Char} (h : c ∈ escapeTemplate text) :
    c ∈ text ∨ c = '\\' := by
  induction text with
  | nil => exact .inl h
  | cons d rest ih =>
    rw [escapeTemplate] at h
    simp only [List.mem_cons]
    split at h
    · simp only [List.mem_cons] at h
      tauto
    · simp only [List.mem_cons] at h
      tauto

theorem escapeTemplate_unmarked {text : List Char} (h : '\\' ∉ escapeTemplate text) :
    escapeTemplate text = text := by
  induction text with
  | nil => rfl
  | cons c rest ih =>
    rw [escapeTemplate] at h ⊢
    split at h
    · simp at h
    · rename_i plain
      simp only [List.mem_cons, not_or] at h
      rw [if_neg plain, ih h.2]

theorem PlainName.escape {name : String} (h : PlainName name) : escapedName name = name := by
  have opening := h.1.opening
  have marks := h.2
  unfold escapedName
  rw [← String.toList_inj, String.toList_ofList]
  generalize name.toList = text at opening marks
  induction text with
  | nil => rfl
  | cons c rest ih =>
    simp only [List.mem_cons, not_or] at opening
    obtain ⟨⟨backslash, quote⟩, marks⟩ := List.forall_mem_cons.mp marks
    have next : rest.head? ≠ some '\x7b' := by
      intro first
      exact opening.2 (List.mem_of_mem_head? first)
    rw [escapeTemplate, if_neg (by simp [backslash, quote, next]), ih opening.2 marks]

theorem escapedName_eq {name other : String} (h : PlainName name) :
    escapedName other = name ↔ other = name := by
  constructor
  · intro same
    have unmarked : '\\' ∉ escapeTemplate other.toList := by
      intro mem
      rw [← same] at h
      exact (h.2 '\\' (by simpa [escapedName] using mem)).1 rfl
    rw [← same, escapedName, escapeTemplate_unmarked unmarked, String.ofList_toList]
  · rintro rfl
    exact h.escape

theorem escapedName_braceless {name : String} (h : Braceless name.toList) :
    Braceless (escapedName name).toList := by
  intro c mem
  rw [escapedName, String.toList_ofList] at mem
  rcases mem_escapeTemplate mem with mem | rfl
  · exact h c mem
  · rfl

/-- What has replaced the placeholder of a name: dollars left behind, and the formal now in place. -/
abbrev Filling := String → Option (ℕ × String)

def Filling.items (fill : Filling) : PathPiece → List TemplateItem
  | .char c => [.char c]
  | .slot name =>
    match fill name with
    | some (dollars, ident) => [.hole dollars ident]
    | none => (placeholder name).map .char

def Filling.write (fill : Filling) (pieces : List PathPiece) : List Char :=
  TemplateItem.write (pieces.flatMap fill.items)

def Binding.takeOver (binding : Binding) (name : String) : Option (ℕ × String) → Option (ℕ × String)
  | none => if name = binding.name then some (0, binding.ident) else none
  | some (dollars, ident) =>
    if ident = binding.name then some (dollars + 1, binding.ident) else some (dollars, ident)

def Filling.next (fill : Filling) (binding : Binding) : Filling :=
  fun name => binding.takeOver name (fill name)

section Next

variable {fill : Filling} {name ident : String} {dollars : ℕ}

theorem next_unfilled (h : fill name = none) (binding : Binding) : fill.next binding name =
    if name = binding.name then some (0, binding.ident) else none := by
  rw [Filling.next, h, Binding.takeOver]

theorem next_filled (h : fill name = some (dollars, ident)) (binding : Binding) :
    fill.next binding name =
      if ident = binding.name then some (dollars + 1, binding.ident) else some (dollars, ident) := by
  rw [Filling.next, h, Binding.takeOver]

end Next

def Filling.Named (fill : Filling) : Prop :=
  ∀ name dollars ident, fill name = some (dollars, ident) → Braceless ident.toList

theorem opensBrace_items (fill : Filling) (pieces : List PathPiece) :
    TemplateItem.opensBrace (pieces.flatMap fill.items) =
      decide ((spell pieces).head? = some '\x7b') := by
  cases pieces with
  | nil => rfl
  | cons piece rest =>
    cases piece with
    | char c => simp [Filling.items, TemplateItem.opensBrace, spell, PathPiece.text]
    | slot name =>
      cases filled : fill name <;>
        simp [Filling.items, filled, TemplateItem.opensBrace, spell, PathPiece.text, placeholder]

theorem write_char (fill : Filling) (c : Char) (rest : List PathPiece) :
    fill.write (.char c :: rest) =
      (if c = '\\' ∨ c = templateQuote ∨ c = '$' ∧ (spell rest).head? = some '\x7b' then ['\\', c]
        else [c]) ++ fill.write rest := by
  have opens := opensBrace_items fill rest
  simp only [Filling.write, List.flatMap_cons, Filling.items, List.singleton_append,
    TemplateItem.write, opens, decide_eq_true_eq]

theorem write_filled {fill : Filling} {name : String} {dollars : ℕ} {ident : String}
    (h : fill name = some (dollars, ident)) (rest : List PathPiece) :
    fill.write (.slot name :: rest) =
      List.replicate (dollars + 1) '$' ++ (placeholder ident ++ fill.write rest) := by
  simp [Filling.write, Filling.items, h, TemplateItem.write, TemplateItem.holeText, placeholder,
    List.replicate_succ']

theorem write_unfilled {fill : Filling} {name : String} (h : fill name = none)
    (rest : List PathPiece) :
    fill.write (.slot name :: rest) = placeholder (escapedName name) ++ fill.write rest := by
  have closing : TemplateItem.opensBrace (.char '\x7d' :: rest.flatMap fill.items) = false := rfl
  have inside := TemplateItem.write_chars closing name.toList
  simp only [Filling.write, List.flatMap_cons, Filling.items, h, placeholder, List.map_append,
    List.map_cons, List.map_nil, List.cons_append, List.append_assoc, List.nil_append,
    TemplateItem.write, inside, escapedName, String.toList_ofList]
  simp [templateQuote]

theorem write_none (pieces : List PathPiece) :
    Filling.write (fun _ => none) pieces = escapeTemplate (spell pieces) := by
  have chars : pieces.flatMap (Filling.items fun _ => none) = (spell pieces).map .char := by
    induction pieces with
    | nil => rfl
    | cons piece rest ih =>
      rw [List.flatMap_cons, ih]
      cases piece <;> simp [Filling.items, spell, PathPiece.text]
  have nothing : TemplateItem.opensBrace [] = false := rfl
  have whole := TemplateItem.write_chars nothing (spell pieces)
  rwa [List.append_nil, TemplateItem.write, List.append_nil, ← chars] at whole

theorem write_find (fill : Filling) (pieces : List PathPiece) :
    (fill.write pieces).find? isBrace = (spell pieces).find? isBrace := by
  induction pieces with
  | nil => rfl
  | cons piece rest ih =>
    cases piece with
    | char c =>
      have spelled : ([c] ++ fill.write rest).find? isBrace =
          (spell (.char c :: rest)).find? isBrace := by
        rw [List.find?_append, ih, ← List.find?_append]
        rfl
      have marked : (['\\', c] ++ fill.write rest).find? isBrace =
          ([c] ++ fill.write rest).find? isBrace := rfl
      rw [write_char, ← spelled]
      split
      · exact marked
      · rfl
    | slot name =>
      cases filled : fill name with
      | none =>
        rw [write_unfilled filled]
        rfl
      | some entry =>
        have dollars : Braceless (List.replicate (entry.1 + 1) '$') := by
          intro c mem
          rw [List.eq_of_mem_replicate mem]
          rfl
        rw [write_filled filled, dollars.find]
        rfl

section Replacing

variable {fill : Filling} {binding : Binding} {name : String} {rest : List PathPiece}

theorem write_next_unfilled (plain : PlainName binding.name) (h : fill name = none) :
    (fill.next binding).write (.slot name :: rest) =
      (PathPiece.slot (escapedName name)).filled id [(binding.name, substitution binding.ident)] ++
        (fill.next binding).write rest := by
  have next := next_unfilled h binding
  by_cases same : name = binding.name
  · have called : binding.name = escapedName name := ((escapedName_eq plain).mpr same).symm
    rw [if_pos same] at next
    rw [write_filled next, ← called, filled_here]
    simp [substitution, placeholder]
  · have apart : binding.name ≠ escapedName name := by
      intro called
      exact same ((escapedName_eq plain).mp called.symm)
    rw [if_neg same] at next
    rw [write_unfilled next, filled_later apart, filled_absent (by simp), List.map_id]

theorem write_next_filled {ident : String} {dollars : ℕ} (h : fill name = some (dollars, ident)) :
    (fill.next binding).write (.slot name :: rest) = List.replicate (dollars + 1) '$' ++
      ((PathPiece.slot ident).filled id [(binding.name, substitution binding.ident)] ++
        (fill.next binding).write rest) := by
  have next := next_filled h binding
  by_cases same : ident = binding.name
  · rw [if_pos same] at next
    rw [write_filled next, same, filled_here, List.replicate_succ']
    simp [substitution, placeholder]
  · rw [if_neg same] at next
    rw [write_filled next, filled_later (Ne.symm same), filled_absent (by simp), List.map_id]

/-- One more parameter replaces its placeholder, and every formal in place that is called like it. -/
theorem replaceAll_write (named : fill.Named) (plain : PlainName binding.name)
    {pieces : List PathPiece} (cut : Cut pieces) :
    Text.replaceAll (placeholder binding.name) (substitution binding.ident) (fill.write pieces) =
      (fill.next binding).write pieces := by
  have slots : ∀ slot ∈ [(binding.name, substitution binding.ident)], Braceless slot.1.toList := by
    intro slot mem
    rw [List.mem_singleton.mp mem]
    exact plain.1
  rw [replaceAll_eq_fill]
  induction cut with
  | nil => rfl
  | @char c rest other cut ih =>
    rw [write_char, write_char, fillFrom_plain (by split <;> simp [Ne.symm other]), ih, List.map_id]
  | @brace rest opens cut ih =>
    have unescaped : ¬ ('\x7b' = '\\' ∨ '\x7b' = templateQuote ∨
        '\x7b' = '$' ∧ (spell rest).head? = some '\x7b') := by
      simp [templateQuote]
    rw [write_char, write_char, if_neg unescaped, List.singleton_append, List.singleton_append,
      fillFrom_open slots (by rwa [write_find]), ih]
    rfl
  | @slot name rest inside cut ih =>
    cases filled : fill name with
    | none =>
      rw [write_unfilled filled, write_next_unfilled plain filled,
        fillFrom_slot slots (escapedName_braceless inside), ih]
    | some entry =>
      have before : '\x7b' ∉ List.replicate (entry.1 + 1) '$' := by simp
      rw [write_filled filled, write_next_filled filled, fillFrom_plain before,
        fillFrom_slot slots (named _ _ _ filled), ih, List.map_id]

end Replacing

def Bound (bindings : List Binding) : Prop :=
  ∀ binding ∈ bindings, PlainName binding.name ∧ Braceless binding.ident.toList

theorem Filling.Named.next {fill : Filling} (h : fill.Named) {binding : Binding}
    (inside : Braceless binding.ident.toList) : (fill.next binding).Named := by
  intro name dollars ident taken
  cases filled : fill name with
  | none =>
    rw [next_unfilled filled] at taken
    split at taken
    · cases taken
      exact inside
    · cases taken
  | some entry =>
    rw [next_filled filled] at taken
    split at taken
    · cases taken
      exact inside
    · cases taken
      exact h name _ _ filled

theorem urlTemplate_from {fill : Filling} (named : fill.Named) {bindings : List Binding}
    (bound : Bound bindings) {pieces : List PathPiece} (cut : Cut pieces) :
    bindings.foldl (fun url binding =>
        Text.replaceAll (placeholder binding.name) (substitution binding.ident) url)
      (fill.write pieces) = (bindings.foldl Filling.next fill).write pieces ∧
    (bindings.foldl Filling.next fill).Named := by
  induction bindings generalizing fill with
  | nil => exact ⟨rfl, named⟩
  | cons binding rest ih =>
    obtain ⟨⟨plain, inside⟩, bound⟩ := List.forall_mem_cons.mp bound
    rw [List.foldl_cons, List.foldl_cons, replaceAll_write named plain cut]
    exact ih (named.next inside) bound

/-- What a formal in place is read as: each later parameter that is called like the formal in place
leaves a dollar and puts its own formal there. -/
def chainParts (ident : String) : List Binding → List TemplatePart
  | [] => [.expression ident]
  | later :: rest =>
    if ident = later.name then .char '$' :: chainParts later.ident rest else chainParts ident rest

def slotParts : List Binding → List (String × List TemplatePart)
  | [] => []
  | binding :: later => (binding.name, chainParts binding.ident later) :: slotParts later

theorem slotParts_names (bindings : List Binding) :
    (slotParts bindings).map Prod.fst = bindings.map Binding.name := by
  induction bindings with
  | nil => rfl
  | cons binding rest ih => rw [slotParts, List.map_cons, List.map_cons, ih]

theorem parts_filled {fill : Filling} {name : String} {dollars : ℕ} {ident : String}
    (h : fill name = some (dollars, ident)) (bindings : List Binding) :
    ((bindings.foldl Filling.next fill).items (.slot name)).flatMap TemplateItem.parts =
      List.replicate dollars (.char '$') ++ chainParts ident bindings := by
  induction bindings generalizing fill dollars ident with
  | nil => simp [Filling.items, h, TemplateItem.parts, chainParts]
  | cons binding rest ih =>
    have next := next_filled h binding
    rw [List.foldl_cons, chainParts]
    by_cases same : ident = binding.name
    · rw [if_pos same] at next
      rw [ih next, if_pos same, List.replicate_succ', List.append_assoc]
      rfl
    · rw [if_neg same] at next
      rw [ih next, if_neg same]

theorem parts_unfilled {fill : Filling} {name : String} (h : fill name = none)
    (bindings : List Binding) :
    ((bindings.foldl Filling.next fill).items (.slot name)).flatMap TemplateItem.parts =
      (PathPiece.slot name).filled .char (slotParts bindings) := by
  induction bindings generalizing fill with
  | nil =>
    simp only [List.foldl_nil, Filling.items, h]
    exact TemplateItem.parts_chars (placeholder name)
  | cons binding rest ih =>
    have next := next_unfilled h binding
    rw [List.foldl_cons, slotParts]
    by_cases same : name = binding.name
    · rw [if_pos same] at next
      rw [parts_filled next, same, filled_here, List.replicate_zero, List.nil_append]
    · rw [if_neg same] at next
      rw [ih next, filled_later (Ne.symm same)]

theorem slotParts_braceless {bindings : List Binding} (bound : Bound bindings) :
    ∀ slot ∈ slotParts bindings, Braceless slot.1.toList := by
  intro slot mem
  have called : slot.1 ∈ bindings.map Binding.name := by
    rw [← slotParts_names]
    exact List.mem_map_of_mem mem
  obtain ⟨binding, mem, same⟩ := List.mem_map.mp called
  rw [← same]
  exact (bound binding mem).1.1

theorem parts_items {bindings : List Binding} (bound : Bound bindings) {pieces : List PathPiece}
    (cut : Cut pieces) :
    (pieces.flatMap (bindings.foldl Filling.next fun _ => none).items).flatMap TemplateItem.parts =
      fillFrom .char (slotParts bindings) 0 (spell pieces) := by
  rw [fillFrom_spell (slotParts_braceless bound) cut, List.flatMap_assoc]
  apply List.flatMap_congr
  intro piece _
  cases piece with
  | char c => rfl
  | slot name => exact parts_unfilled rfl bindings

theorem Filling.Named.closed {fill : Filling} (h : fill.Named) (pieces : List PathPiece) :
    ∀ dollars ident, .hole dollars ident ∈ pieces.flatMap fill.items → '\x7d' ∉ ident.toList := by
  intro dollars ident mem
  obtain ⟨piece, _, mem⟩ := List.mem_flatMap.mp mem
  cases piece with
  | char c => simp [Filling.items] at mem
  | slot name =>
    rw [Filling.items] at mem
    split at mem
    · rename_i filled
      cases List.mem_singleton.mp mem
      exact (h name _ _ filled).closing
    · simp at mem

/-- The address is read as the path in which the placeholder of each parameter is a chain. -/
theorem urlLiteral_parts {bindings : List Binding} (bound : Bound bindings) (path : String) :
    Script.templateParts (urlLiteral path bindings) =
      some (TemplateItem.settleLines (fillPath .char (slotParts bindings) path)) := by
  obtain ⟨pieces, cut, spelled⟩ := exists_cut path.toList
  have nothing : Filling.Named fun _ => none := by
    intro name dollars ident taken
    cases taken
  obtain ⟨written, named⟩ := urlTemplate_from nothing bound cut
  rw [write_none, spelled] at written
  have read := TemplateItem.readTemplate_write (named.closed pieces) []
  rw [parts_items bound cut, spelled] at read
  refine Script.templateParts_read (urlLiteral_letters path bindings) ?_
  rw [urlTemplate, written]
  exact read

end OpenApiClient
