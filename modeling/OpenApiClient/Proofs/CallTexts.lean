import OpenApiClient.Proofs.ScriptStatements
import Mathlib.Data.List.Forall2

/-! The call in a method, read as a script.
The lexemes of a call are given by what is called and the fields of its settings. The names in it
are those in its address, and the few that the arguments have. -/
namespace OpenApiClient

open Script (BodyToken Lexeme Legible StringReader TemplatePart legible_blanks legible_cons
  legible_mark legible_word lexemeText lexemeText_append lexemeTokens lexemeTokens_append parted_cons
  templateQuote)

def separated (items : List (List Lexeme)) : List Lexeme :=
  [Lexeme.mark ',', .blanks " "].intercalate items

@[simp] theorem separated_singleton (item : List Lexeme) : separated [item] = item :=
  List.intercalate_singleton

theorem separated_cons_cons (first second : List Lexeme) (rest : List (List Lexeme)) :
    separated (first :: second :: rest) =
      first ++ .mark ',' :: .blanks " " :: separated (second :: rest) := by
  rw [separated, List.intercalate_cons_cons, List.append_assoc]
  rfl

def braced (lexemes : List Lexeme) : List Lexeme :=
  [.mark '\x7b', .blanks " "] ++ lexemes ++ [.blanks " ", .mark '\x7d']

def SettingsField.lexemes (field : SettingsField) : List Lexeme := [.word field.text]

def Argument.lexemes : Argument → List Lexeme
  | data => [.word "data"]
  | nothing => [.word "undefined"]
  | settings fields => braced (separated (fields.map SettingsField.lexemes))

namespace Call

def function (call : Call) : String :=
  match call.method with
  | .trace => "request"
  | method => method.name

def inside (call : Call) (address : Lexeme) : List Lexeme :=
  match call.method with
  | .trace =>
    braced (separated ([.word "method", .mark ':', .blanks " ", .literal "trace"]
      :: [.word "url", .mark ':', .blanks " ", address]
      :: call.settingsFields.map SettingsField.lexemes))
  | _ => separated ([address] :: call.arguments.map Argument.lexemes)

def lexemes (call : Call) (address : Lexeme) : List Lexeme :=
  [.word "this", .mark '.', .word "client", .mark '.', .word call.function, .mark '(']
    ++ call.inside address ++ [.mark ')']

end Call

theorem separated_text (items : List (List Lexeme)) :
    lexemeText (separated items) = [',', ' '].intercalate (items.map lexemeText) := by
  induction items with
  | nil => rfl
  | cons first rest ih =>
    cases rest with
    | nil => simp
    | cons second rest =>
      rw [separated_cons_cons, lexemeText_append, List.map_cons, List.map_cons,
        List.intercalate_cons_cons, List.append_assoc, ← List.map_cons, ← ih]
      rfl

theorem Argument.lexemes_text (argument : Argument) :
    lexemeText argument.lexemes = argument.text.toList := by
  cases argument with
  | data => rfl
  | nothing => rfl
  | settings fields =>
    simp [lexemes, text, braced, separated_text, SettingsField.lexemes, Lexeme.text, Function.comp_def]

theorem Call.lexemes_text (call : Call) {inside : List Char} (parts : List TemplatePart)
    (h : call.url.toList = templateQuote :: (inside ++ [templateQuote])) :
    lexemeText (call.lexemes (.template inside parts)) = call.text.toList := by
  have literal : (Script.singleQuoted "trace").toList = "'trace'".toList := rfl
  rw [lexemes, lexemeText_append, lexemeText_append]
  unfold function Call.inside text
  cases call.method with
  | trace =>
    simp [literal, h, braced, separated_text, SettingsField.lexemes, Lexeme.text, Function.comp_def]
  | _ =>
    simp [h, separated_text, Argument.lexemes_text, Lexeme.text, HttpMethod.name, Function.comp_def]

section Legibility

variable {quoted : StringReader}

theorem separated_legible {items : List (List Lexeme)} (h : ∀ item ∈ items, Legible quoted item) :
    Legible quoted (separated items) := by
  induction items with
  | nil => trivial
  | cons first rest ih =>
    obtain ⟨here, others⟩ := List.forall_mem_cons.mp h
    cases rest with
    | nil => rwa [separated_singleton]
    | cons second rest =>
      rw [separated_cons_cons]
      exact here.append (legible_mark (legible_blanks (ih others))) (parted_cons rfl _)

theorem braced_legible {lexemes : List Lexeme} (h : Legible quoted lexemes) :
    Legible quoted (braced lexemes) := by
  have ends : Legible quoted [.blanks " ", .mark '\x7d'] := legible_blanks (legible_mark trivial)
  exact legible_mark (legible_blanks (h.append ends (parted_cons rfl _)))

theorem word_legible {name : String} (h : IsWord name) : Legible quoted [.word name] :=
  legible_word trivial h nofun

theorem SettingsField.lexemes_legible (field : SettingsField) : Legible quoted field.lexemes := by
  cases field with
  | params => exact word_legible (by decide)
  | data => exact word_legible (by decide)

theorem settings_legible (fields : List SettingsField) :
    ∀ item ∈ fields.map SettingsField.lexemes, Legible quoted item := by
  simp [SettingsField.lexemes_legible]

theorem Argument.lexemes_legible (argument : Argument) : Legible quoted argument.lexemes := by
  cases argument with
  | data => exact word_legible (by decide)
  | nothing => exact word_legible (by decide)
  | settings fields => exact braced_legible (separated_legible (settings_legible fields))

theorem Call.inside_legible (call : Call) {address : Lexeme} (fits : address.Fits quoted)
    (plain : address.isWord = false) (trace : quoted.Reads "trace") :
    Legible quoted (call.inside address) := by
  have addressed : Legible quoted [address] := legible_cons fits plain trivial
  unfold inside
  split
  · apply braced_legible
    apply separated_legible
    refine List.forall_mem_cons.mpr ⟨?_, List.forall_mem_cons.mpr ⟨?_, settings_legible _⟩⟩
    · have value : Legible quoted [.literal "trace"] := legible_cons trace rfl trivial
      exact legible_word (legible_mark (legible_blanks value))
    · exact legible_word (legible_mark (legible_blanks addressed))
  · apply separated_legible
    refine List.forall_mem_cons.mpr ⟨addressed, ?_⟩
    simp [Argument.lexemes_legible]

theorem Call.lexemes_legible (call : Call) {address : Lexeme} (fits : address.Fits quoted)
    (plain : address.isWord = false) (trace : quoted.Reads "trace") :
    Legible quoted (call.lexemes address) := by
  have named : IsWord call.function := by
    unfold function
    cases call.method <;> decide
  have ends : Legible quoted [.mark ')'] := legible_mark trivial
  have whole := (call.inside_legible fits plain trace).append ends (parted_cons rfl _)
  have called := legible_word (legible_mark whole (c := '(')) named
  exact legible_word (legible_mark (legible_word (legible_mark called)))

end Legibility

/-- Lexemes that mention these names wherever no colon comes behind them. -/
def Mentions (lexemes : List Lexeme) (names : List String) : Prop :=
  ∀ more, more.head? ≠ some (.mark ':') →
    Script.mentions false (lexemeTokens lexemes ++ more) = names ++ Script.mentions false more

theorem mentions_word (name : String) : Mentions [.word name] [name] := by
  intro more plain
  simp [Lexeme.tokens, Script.mentions, plain]

theorem mentions_template (inside : List Char) (parts : List TemplatePart) :
    Mentions [.template inside parts] (Script.expressions parts) := fun _ _ => rfl

theorem mentions_separated {items : List (List Lexeme)} {names : List (List String)}
    (h : List.Forall₂ Mentions items names) : Mentions (separated items) names.flatten := by
  induction h with
  | nil => exact fun _ _ => rfl
  | @cons first own rest names here others ih =>
    intro more plain
    cases rest with
    | nil =>
      cases others
      simpa using here more plain
    | cons second rest =>
      -- A comma comes behind the item, so that its last word is no key.
      have whole := here (.mark ',' :: (lexemeTokens (separated (second :: rest)) ++ more)) (by simp)
      rw [separated_cons_cons, lexemeTokens_append, List.append_assoc]
      refine whole.trans ?_
      rw [List.flatten_cons, List.append_assoc, ← ih more plain]
      rfl

theorem mentions_braced {lexemes : List Lexeme} {names : List String} (h : Mentions lexemes names) :
    Mentions (braced lexemes) names := by
  intro more _
  have whole := h (.mark '\x7d' :: more) (by simp)
  simpa [braced, Lexeme.tokens, Script.mentions] using whole

def Argument.names : Argument → List String
  | data => ["data"]
  | nothing => ["undefined"]
  | settings fields => fields.map SettingsField.text

def Call.names (call : Call) : List String :=
  match call.method with
  | .trace => call.settingsFields.map SettingsField.text
  | _ => call.arguments.flatMap Argument.names

theorem mentions_fields (fields : List SettingsField) : List.Forall₂ Mentions
    (fields.map SettingsField.lexemes) (fields.map fun field => [field.text]) := by
  rw [List.forall₂_map_left_iff, List.forall₂_map_right_iff, List.forall₂_same]
  exact fun field _ => mentions_word field.text

theorem flatten_fields (fields : List SettingsField) :
    (fields.map fun field => [field.text]).flatten = fields.map SettingsField.text := by
  rw [← List.flatMap_def, ← List.map_eq_flatMap]

theorem mentions_argument (argument : Argument) : Mentions argument.lexemes argument.names := by
  cases argument with
  | data => exact mentions_word "data"
  | nothing => exact mentions_word "undefined"
  | settings fields =>
    have whole := mentions_separated (mentions_fields fields)
    rw [flatten_fields] at whole
    exact mentions_braced whole

theorem mentions_inside (call : Call) (inside : List Char) (parts : List TemplatePart) :
    Mentions (call.inside (.template inside parts)) (Script.expressions parts ++ call.names) := by
  unfold Call.inside Call.names
  split
  · have method : Mentions [.word "method", .mark ':', .blanks " ", .literal "trace"] [] :=
      fun _ _ => rfl
    have url : Mentions [.word "url", .mark ':', .blanks " ", .template inside parts]
        (Script.expressions parts) := fun _ _ => rfl
    have whole := mentions_separated (.cons method (.cons url (mentions_fields call.settingsFields)))
    simp only [List.flatten_cons, flatten_fields, List.nil_append] at whole
    exact mentions_braced whole
  · have others : List.Forall₂ Mentions (call.arguments.map Argument.lexemes)
        (call.arguments.map Argument.names) := by
      rw [List.forall₂_map_left_iff, List.forall₂_map_right_iff, List.forall₂_same]
      exact fun argument _ => mentions_argument argument
    exact mentions_separated (.cons (mentions_template inside parts) others)

theorem mentions_call (call : Call) (inside : List Char) (parts : List TemplatePart) :
    Script.mentions false (lexemeTokens (call.lexemes (.template inside parts))) =
      "this" :: (Script.expressions parts ++ call.names) := by
  have whole := mentions_inside call inside parts [.mark ')'] (by simp)
  simpa [Call.lexemes, Lexeme.tokens, Script.mentions] using whole

theorem Call.names_known (call : Call) : call.names ⊆ ["params", "data", "undefined"] ∧
    ("params" ∈ call.names ↔ call.hasQuery = true) ∧ ("data" ∈ call.names ↔ call.hasBody = true) := by
  have trace : call.method = .trace → call.method.takesBody = false := by
    intro verb
    rw [verb]
    rfl
  unfold names
  -- The settings of a trace are fields of the request; other calls have them as an argument.
  split
  · rename_i verb
    cases query : call.hasQuery <;> cases body : call.hasBody <;>
      simp [settingsFields, SettingsField.text, query, body, trace verb]
  · cases takes : call.method.takesBody <;> cases query : call.hasQuery <;>
      cases body : call.hasBody <;>
      simp [arguments, settingsFields, Argument.names, SettingsField.text, takes, query, body]

def templates (lexemes : List Lexeme) : List (List TemplatePart) :=
  (lexemeTokens lexemes).filterMap BodyToken.template?

theorem templates_append (lexemes others : List Lexeme) :
    templates (lexemes ++ others) = templates lexemes ++ templates others := by
  rw [templates, lexemeTokens_append, List.filterMap_append]
  rfl

theorem templates_separated (items : List (List Lexeme)) :
    templates (separated items) = items.flatMap templates := by
  induction items with
  | nil => rfl
  | cons first rest ih =>
    cases rest with
    | nil => simp
    | cons second rest =>
      rw [separated_cons_cons, templates_append, List.flatMap_cons, ← ih]
      rfl

theorem templates_fields (fields : List SettingsField) :
    (fields.map SettingsField.lexemes).flatMap templates = [] := by
  simp [List.flatMap_map, SettingsField.lexemes, templates, Lexeme.tokens, BodyToken.template?]

theorem templates_call (call : Call) (inside : List Char) (parts : List TemplatePart) :
    templates (call.lexemes (.template inside parts)) = [parts] := by
  have braces : ∀ lexemes, templates (braced lexemes) = templates lexemes := by
    intro lexemes
    rw [braced, templates_append, templates_append]
    exact List.append_nil _
  have argument : ∀ argument : Argument, templates argument.lexemes = [] := by
    intro argument
    cases argument with
    | data => rfl
    | nothing => rfl
    | settings fields => rw [Argument.lexemes, braces, templates_separated, templates_fields]
  have between : templates (call.inside (.template inside parts)) = [parts] := by
    unfold Call.inside
    split
    · rw [braces, templates_separated, List.flatMap_cons, List.flatMap_cons, templates_fields]
      rfl
    · have others : (call.arguments.map Argument.lexemes).flatMap templates = [] := by
        simp [List.flatMap_map, argument]
      rw [templates_separated, List.flatMap_cons, others]
      rfl
  rw [Call.lexemes, templates_append, templates_append, between]
  rfl

end OpenApiClient
