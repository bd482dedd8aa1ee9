import OpenApiClient.Proofs.MethodBodies

/-! The call in a method, read as an expression.
A call is a function of the client with arguments between commas; an argument is an operand, or a
record of operands whose own commas are between braces. -/
namespace OpenApiClient

open Script (BodyToken Lexeme TemplatePart lexemeTokens)

namespace Script

inductive Operand
  | name (ident : String)
  | text (value : String)
  | template (parts : List TemplatePart)
  deriving DecidableEq, Repr

inductive Expression
  | operand (operand : Operand)
  | record (fields : List (String × Operand))
  deriving DecidableEq, Repr

/-- A call of a function that the client of the library has. -/
structure ClientCall where
  function : String
  arguments : List Expression
  deriving DecidableEq, Repr

/-- The pieces between commas; commas inside braces belong to a piece. -/
def splitCommas : Bool → List BodyToken → List (List BodyToken)
  | _, [] => [[]]
  | false, .mark ',' :: rest => [] :: splitCommas false rest
  | inside, token :: rest =>
    let inside := (inside || token = .mark '\x7b') && token ≠ .mark '\x7d'
    match splitCommas inside rest with
    | [] => [[token]]
    | piece :: pieces => (token :: piece) :: pieces

def operand? : BodyToken → Option Operand
  | .word ident => some (.name ident)
  | .literal value => some (.text value)
  | .template parts => some (.template parts)
  | .mark _ => none

def recordField? : List BodyToken → Option (String × Operand)
  | [.word ident] => some (ident, .name ident)
  | [.word key, .mark ':', value] => (operand? value).map (key, ·)
  | _ => none

def expression? : List BodyToken → Option Expression
  | .mark '\x7b' :: rest =>
    if rest.getLast? = some (.mark '\x7d') then
      ((splitCommas false rest.dropLast).mapM recordField?).map .record
    else none
  | [token] => (operand? token).map .operand
  | _ => none

def clientCall? : List BodyToken → Option ClientCall
  | .word "this" :: .mark '.' :: .word "client" :: .mark '.' :: .word function :: .mark '(' :: rest =>
    if rest.getLast? = some (.mark ')') then
      ((splitCommas false rest.dropLast).mapM expression?).map (⟨function, ·⟩)
    else none
  | _ => none

/-- Tokens that commas do not split, whatever comes behind them. -/
def Whole (tokens : List BodyToken) : Prop :=
  ∀ rest piece pieces, splitCommas false rest = piece :: pieces →
    splitCommas false (tokens ++ rest) = (tokens ++ piece) :: pieces

def plainMarks : List BodyToken := [.mark ',', .mark '\x7b', .mark '\x7d']

theorem splitCommas_plain {token : BodyToken} {rest piece : List BodyToken}
    {pieces : List (List BodyToken)} (h : token ∉ plainMarks)
    (split : splitCommas false rest = piece :: pieces) :
    splitCommas false (token :: rest) = (token :: piece) :: pieces := by
  simp only [plainMarks, List.mem_cons, List.not_mem_nil, or_false, not_or] at h
  obtain ⟨comma, opens, _⟩ := h
  rw [splitCommas]
  · simp [opens, split]
  · intro _ same
    exact comma same

theorem whole_plain {tokens : List BodyToken} (h : ∀ token ∈ tokens, token ∉ plainMarks) :
    Whole tokens := by
  intro rest piece pieces split
  induction tokens with
  | nil => exact split
  | cons token tokens ih =>
    obtain ⟨here, others⟩ := List.forall_mem_cons.mp h
    exact splitCommas_plain here (ih others)

theorem whole_record {tokens : List BodyToken}
    (h : ∀ token ∈ tokens, token ≠ .mark '\x7d') :
    Whole (.mark '\x7b' :: tokens ++ [.mark '\x7d']) := by
  intro rest piece pieces split
  have inner : splitCommas true (tokens ++ .mark '\x7d' :: rest) =
      (tokens ++ .mark '\x7d' :: piece) :: pieces := by
    induction tokens with
    | nil =>
      rw [List.nil_append, splitCommas]
      · simp [split]
      · nofun
    | cons token tokens ih =>
      obtain ⟨here, others⟩ := List.forall_mem_cons.mp h
      rw [List.cons_append, splitCommas]
      · simp [here, ih others]
      · nofun
  have whole : splitCommas false (.mark '\x7b' :: (tokens ++ .mark '\x7d' :: rest)) =
      (.mark '\x7b' :: (tokens ++ .mark '\x7d' :: piece)) :: pieces := by
    rw [splitCommas]
    · simp [inner]
    · nofun
  simpa using whole

end Script

open Script

theorem mapM_known {α β : Type} {f : α → Option β} {value : α → β} {items : List α}
    (h : ∀ item ∈ items, f item = some (value item)) : items.mapM f = some (items.map value) := by
  induction items with
  | nil => rfl
  | cons item items ih =>
    obtain ⟨here, others⟩ := List.forall_mem_cons.mp h
    rw [List.mapM_cons, here, ih others]
    rfl

theorem splitCommas_separated {first : List Lexeme} {rest : List (List Lexeme)}
    (h : ∀ item ∈ first :: rest, Whole (lexemeTokens item)) :
    splitCommas false (lexemeTokens (separated (first :: rest))) =
      (first :: rest).map lexemeTokens := by
  induction rest generalizing first with
  | nil =>
    obtain ⟨here, _⟩ := List.forall_mem_cons.mp h
    have whole := here [] [] [] rfl
    simpa using whole
  | cons second rest ih =>
    obtain ⟨here, others⟩ := List.forall_mem_cons.mp h
    have comma : splitCommas false (.mark ',' :: lexemeTokens (separated (second :: rest))) =
        [] :: (second :: rest).map lexemeTokens := by
      rw [splitCommas, ih others]
    have whole := here _ _ _ comma
    rw [List.append_nil] at whole
    rw [separated_cons_cons, lexemeTokens_append]
    exact whole

theorem expression_record {first : List Lexeme} {rest : List (List Lexeme)}
    {fields : List (String × Operand)} (h : ∀ item ∈ first :: rest, Whole (lexemeTokens item))
    (read : ((first :: rest).map lexemeTokens).mapM recordField? = some fields) :
    expression? (lexemeTokens (braced (separated (first :: rest)))) = some (.record fields) := by
  have tokens : lexemeTokens (braced (separated (first :: rest))) =
      .mark '\x7b' :: (lexemeTokens (separated (first :: rest)) ++ [.mark '\x7d']) := by
    simp [braced, Lexeme.tokens]
  rw [tokens, expression?, List.getLast?_concat, if_pos rfl, List.dropLast_concat,
    splitCommas_separated h, read]
  rfl

def SettingsField.operand (field : SettingsField) : String × Operand :=
  (field.text, .name field.text)

def Argument.expression : Argument → Expression
  | data => .operand (.name "data")
  | nothing => .operand (.name "undefined")
  | settings fields => .record (fields.map SettingsField.operand)

def Call.expressions (call : Call) (parts : List TemplatePart) : List Expression :=
  if call.method = .trace then
    [.record (("method", .text "trace") :: ("url", .template parts)
      :: call.settingsFields.map SettingsField.operand)]
  else .operand (.template parts) :: call.arguments.map Argument.expression

theorem mem_separated {items : List (List Lexeme)} {token : BodyToken}
    (h : token ∈ lexemeTokens (separated items)) :
    token = .mark ',' ∨ ∃ item ∈ items, token ∈ lexemeTokens item := by
  induction items with
  | nil => cases h
  | cons first rest ih =>
    cases rest with
    | nil => exact .inr ⟨first, List.mem_cons_self, by simpa using h⟩
    | cons second rest =>
      rw [separated_cons_cons, lexemeTokens_append] at h
      rcases List.mem_append.mp h with h | h
      · exact .inr ⟨first, List.mem_cons_self, h⟩
      · rcases List.mem_cons.mp h with rfl | h
        · exact .inl rfl
        · rcases ih h with comma | ⟨item, mem, inside⟩
          · exact .inl comma
          · exact .inr ⟨item, List.mem_cons_of_mem _ mem, inside⟩

theorem whole_braced {items : List (List Lexeme)}
    (h : ∀ item ∈ items, ∀ token ∈ lexemeTokens item, token ∉ plainMarks) :
    Whole (lexemeTokens (braced (separated items))) := by
  have tokens : lexemeTokens (braced (separated items)) =
      .mark '\x7b' :: lexemeTokens (separated items) ++ [.mark '\x7d'] := by
    simp [braced, Lexeme.tokens]
  rw [tokens]
  apply whole_record
  rintro _ mem rfl
  rcases mem_separated mem with comma | ⟨item, entered, inside⟩
  · cases comma
  · exact h item entered _ inside (by decide)

theorem SettingsField.lexemes_plain (field : SettingsField) :
    ∀ token ∈ lexemeTokens field.lexemes, token ∉ plainMarks := by
  cases field <;> decide

theorem settings_plain (fields : List SettingsField) :
    ∀ item ∈ fields.map SettingsField.lexemes, ∀ token ∈ lexemeTokens item, token ∉ plainMarks := by
  simpa using fun field _ => SettingsField.lexemes_plain field

theorem settings_fields (fields : List SettingsField) :
    ((fields.map SettingsField.lexemes).map lexemeTokens).mapM recordField? =
      some (fields.map SettingsField.operand) := by
  rw [List.mapM_map, List.mapM_map]
  exact mapM_known fun _ _ => rfl

theorem Call.settings_held {call : Call} {fields : List SettingsField}
    (h : .settings fields ∈ call.arguments) : fields ≠ [] := by
  unfold arguments at h
  rcases List.mem_append.mp h with h | h
  · split_ifs at h <;> simp at h
  · split_ifs at h with held
    · cases h
    · rw [Argument.settings.inj (List.mem_singleton.mp h)]
      simpa using held

theorem Argument.lexemes_whole (argument : Argument) : Whole (lexemeTokens argument.lexemes) := by
  cases argument with
  | data => exact whole_plain (by decide)
  | nothing => exact whole_plain (by decide)
  | settings fields => exact whole_braced (settings_plain fields)

theorem Argument.expression_tokens {argument : Argument} (held : argument ≠ .settings []) :
    expression? (lexemeTokens argument.lexemes) = some argument.expression := by
  cases argument with
  | data => rfl
  | nothing => rfl
  | settings fields =>
    cases fields with
    | nil => exact absurd rfl held
    | cons first rest =>
      apply expression_record
      · exact fun item mem => whole_plain (settings_plain (first :: rest) item mem)
      · exact settings_fields (first :: rest)

theorem arguments_expressions {arguments : List Argument}
    (held : ∀ argument ∈ arguments, argument ≠ .settings []) :
    ((arguments.map Argument.lexemes).map lexemeTokens).mapM expression? =
      some (arguments.map Argument.expression) := by
  rw [List.mapM_map, List.mapM_map]
  exact mapM_known fun argument mem => Argument.expression_tokens (held argument mem)

theorem Call.inside_expressions (call : Call) (inside : List Char) (parts : List TemplatePart) :
    (splitCommas false (lexemeTokens (call.inside (.template inside parts)))).mapM expression? =
      some (call.expressions parts) := by
  have address : Whole (lexemeTokens [.template inside parts]) :=
    whole_plain (by simp [Lexeme.tokens, plainMarks])
  unfold Call.inside expressions
  split
  · rename_i trace
    rw [if_pos trace]
    have items : ∀ item ∈ [.word "method", .mark ':', .blanks " ", .literal "trace"]
        :: [.word "url", .mark ':', .blanks " ", .template inside parts]
        :: call.settingsFields.map SettingsField.lexemes,
        ∀ token ∈ lexemeTokens item, token ∉ plainMarks := by
      refine List.forall_mem_cons.mpr ⟨?_, List.forall_mem_cons.mpr ⟨?_, settings_plain _⟩⟩
      · decide
      · simp [Lexeme.tokens, plainMarks]
    have fields : (([.word "method", .mark ':', .blanks " ", .literal "trace"]
        :: [.word "url", .mark ':', .blanks " ", .template inside parts]
        :: call.settingsFields.map SettingsField.lexemes).map lexemeTokens).mapM recordField? =
        some (("method", .text "trace") :: ("url", .template parts)
          :: call.settingsFields.map SettingsField.operand) := by
      rw [List.map_cons, List.map_cons, List.mapM_cons, List.mapM_cons, settings_fields]
      rfl
    have record : expression? (lexemeTokens (braced (separated _))) = some (.record _) :=
      expression_record (fun item mem => whole_plain (items item mem)) fields
    have whole : splitCommas false (lexemeTokens (separated [braced (separated _)])) = _ :=
      splitCommas_separated (List.forall_mem_singleton.mpr (whole_braced items))
    rw [separated_singleton] at whole
    rw [whole, List.map_singleton, List.mapM_cons, record]
    rfl
  · rename_i other
    rw [if_neg other]
    have items : ∀ item ∈ [.template inside parts] :: call.arguments.map Argument.lexemes,
        Whole (lexemeTokens item) :=
      List.forall_mem_cons.mpr
        ⟨address, List.forall_mem_map.mpr fun argument _ => Argument.lexemes_whole argument⟩
    have held : ∀ argument ∈ call.arguments, argument ≠ .settings [] := by
      rintro _ mem rfl
      exact call.settings_held mem rfl
    rw [splitCommas_separated items, List.map_cons, List.mapM_cons, arguments_expressions held]
    rfl

theorem Call.clientCall_tokens (call : Call) (inside : List Char) (parts : List TemplatePart) :
    clientCall? (lexemeTokens (call.lexemes (.template inside parts))) =
      some ⟨call.function, call.expressions parts⟩ := by
  have tokens : lexemeTokens (call.lexemes (.template inside parts)) =
      .word "this" :: .mark '.' :: .word "client" :: .mark '.' :: .word call.function :: .mark '(' ::
        (lexemeTokens (call.inside (.template inside parts)) ++ [.mark ')']) := by
    simp [Call.lexemes, Lexeme.tokens]
  rw [tokens, clientCall?, List.getLast?_concat, if_pos rfl, List.dropLast_concat,
    call.inside_expressions inside parts]
  rfl

end OpenApiClient
