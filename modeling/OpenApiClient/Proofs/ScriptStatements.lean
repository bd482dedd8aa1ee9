import OpenApiClient.Proofs.FormalNames
import OpenApiClient.Proofs.ScriptLiterals

/-! How a script reads the statements of a function.
A statement is read token by token to its semicolon, and a body statement by statement to its closing
brace; what stands in a string or a template ends neither. A word is everything up to a character
that no name has, so that two words must not meet. -/
namespace OpenApiClient.Script

inductive BodyToken
  | word (name : String)
  | literal (value : String)
  | template (parts : List TemplatePart)
  | mark (c : Char)
  deriving DecidableEq, Repr

abbrev StringReader := List Char → Option (List Char × List Char)

def looseStep : List Char → Option (List Char × List Char)
  | [] => none
  | c :: rest => if c = '\\' then readEscape rest else some ([c], rest)

/-- A string to its closing quote, over as many lines as it may take. -/
def readLoose : StringReader := readTo '\'' looseStep

def StringReader.Reads (quoted : StringReader) (value : String) : Prop :=
  ∀ rest, quoted (value.toList.flatMap escapeQuotedChar ++ '\'' :: rest) = some (value.toList, rest)

theorem readQuoted_reads {value : String} (h : '\r' ∉ value.toList) :
    StringReader.Reads readQuoted value := readQuoted_escaped h

theorem readLoose_reads (value : String) : readLoose.Reads value := by
  apply readTo_escaped
  intro c _
  apply step_escaped (fun _ => rfl)
  intro backslash _ rest
  rw [looseStep, if_neg backslash]

def bodyBlanks : List Char := [' ', '\n']

def bodyMarks : List Char := ['\x7b', '\x7d', '(', ')', ',', ':', '.', '=']

def specialChars : List Char := ';' :: '\'' :: templateQuote :: (bodyBlanks ++ bodyMarks)

theorem special_foreign {c : Char} (h : c ∈ specialChars) : Foreign c := by
  have all : specialChars.all (Foreign ·) = true := by decide
  simpa using List.all_eq_true.mp all c h

def tokenStep (quoted : StringReader) : List Char → Option (List BodyToken × List Char)
  | [] => none
  | c :: rest =>
    if c ∈ bodyBlanks then some ([], rest)
    else if c ∈ bodyMarks then some ([.mark c], rest)
    else if c = '\'' then
      (quoted rest).map fun (value, after) => ([.literal (.ofList value)], after)
    else if c = templateQuote then
      (readTemplate rest).map fun (parts, after) => ([.template parts], after)
    else if Foreign c then none
    else some ([.word (.ofList (c :: rest.takeWhile (¬ Foreign ·)))], rest.dropWhile (¬ Foreign ·))

def readStatement (quoted : StringReader) : List Char → Option (List BodyToken × List Char) :=
  readTo ';' (tokenStep quoted)

def statementStep (quoted : StringReader) : List Char → Option (List (List BodyToken) × List Char)
  | [] => none
  | c :: rest =>
    if c ∈ bodyBlanks then some ([], rest)
    else (readStatement quoted (c :: rest)).map fun (statement, after) => ([statement], after)

def readBody (quoted : StringReader) : List Char → Option (List (List BodyToken) × List Char) :=
  readTo '\x7d' (statementStep quoted)

/-- What a statement is written with: its tokens, and blanks. -/
inductive Lexeme
  | blanks (text : String)
  | word (name : String)
  | literal (value : String)
  | template (inside : List Char) (parts : List TemplatePart)
  | mark (c : Char)

namespace Lexeme

def text : Lexeme → List Char
  | blanks text => text.toList
  | word name => name.toList
  | literal value => (singleQuoted value).toList
  | template inside _ => templateQuote :: inside ++ [templateQuote]
  | mark c => [c]

def tokens : Lexeme → List BodyToken
  | blanks _ => []
  | word name => [.word name]
  | literal value => [.literal value]
  | template _ parts => [.template parts]
  | mark c => [.mark c]

def isWord : Lexeme → Bool
  | word _ => true
  | _ => false

def Fits (quoted : StringReader) : Lexeme → Prop
  | blanks text => text.toList ≠ [] ∧ text.toList.all (· ∈ bodyBlanks) = true
  | word name => IsWord name
  | literal value => quoted.Reads value
  | template inside parts => ∀ rest, readTemplate (inside ++ templateQuote :: rest) = some (parts, rest)
  | mark c => c ∈ bodyMarks

end Lexeme

def lexemeText (lexemes : List Lexeme) : List Char := lexemes.flatMap Lexeme.text

def lexemeTokens (lexemes : List Lexeme) : List BodyToken := lexemes.flatMap Lexeme.tokens

@[simp] theorem lexemeText_nil : lexemeText [] = [] := rfl

@[simp] theorem lexemeText_cons (lexeme : Lexeme) (lexemes : List Lexeme) :
    lexemeText (lexeme :: lexemes) = lexeme.text ++ lexemeText lexemes := rfl

@[simp] theorem lexemeText_append (lexemes others : List Lexeme) :
    lexemeText (lexemes ++ others) = lexemeText lexemes ++ lexemeText others := List.flatMap_append

@[simp] theorem lexemeTokens_nil : lexemeTokens [] = [] := rfl

@[simp] theorem lexemeTokens_cons (lexeme : Lexeme) (lexemes : List Lexeme) :
    lexemeTokens (lexeme :: lexemes) = lexeme.tokens ++ lexemeTokens lexemes := rfl

@[simp] theorem lexemeTokens_append (lexemes others : List Lexeme) :
    lexemeTokens (lexemes ++ others) = lexemeTokens lexemes ++ lexemeTokens others :=
  List.flatMap_append

def Parted (lexemes : List Lexeme) : Prop := ∀ lexeme ∈ lexemes.head?, lexeme.isWord = false

/-- Lexemes in a row of which each fits and no two words meet. -/
def Legible (quoted : StringReader) : List Lexeme → Prop
  | [] => True
  | lexeme :: rest =>
    lexeme.Fits quoted ∧ (lexeme.isWord = true → Parted rest) ∧ Legible quoted rest

section Reading

variable {quoted : StringReader} {rest behind : List Char} {more : List BodyToken}

theorem parted_cons {lexeme : Lexeme} (plain : lexeme.isWord = false) (lexemes : List Lexeme) :
    Parted (lexeme :: lexemes) := by
  simpa [Parted] using plain

theorem legible_cons {lexeme : Lexeme} {lexemes : List Lexeme} (fits : lexeme.Fits quoted)
    (plain : lexeme.isWord = false) (legible : Legible quoted lexemes) :
    Legible quoted (lexeme :: lexemes) :=
  ⟨fits, fun word => absurd (plain.symm.trans word) Bool.false_ne_true, legible⟩

theorem legible_mark {c : Char} {lexemes : List Lexeme} (legible : Legible quoted lexemes)
    (h : c ∈ bodyMarks := by decide) : Legible quoted (.mark c :: lexemes) :=
  legible_cons h rfl legible

theorem legible_blanks {text : String} {lexemes : List Lexeme} (legible : Legible quoted lexemes)
    (h : text.toList ≠ [] ∧ text.toList.all (· ∈ bodyBlanks) = true := by decide) :
    Legible quoted (.blanks text :: lexemes) :=
  legible_cons h rfl legible

theorem legible_word {name : String} {lexemes : List Lexeme} (legible : Legible quoted lexemes)
    (h : IsWord name := by decide)
    (parted : Parted lexemes := by exact OpenApiClient.Script.parted_cons rfl _) :
    Legible quoted (.word name :: lexemes) :=
  ⟨h, fun _ => parted, legible⟩

theorem Legible.append {lexemes others : List Lexeme} (h : Legible quoted lexemes)
    (h' : Legible quoted others) (parted : Parted others) : Legible quoted (lexemes ++ others) := by
  induction lexemes with
  | nil => exact h'
  | cons lexeme lexemes ih =>
    obtain ⟨fits, apart, legible⟩ := h
    refine ⟨fits, ?_, ih legible⟩
    cases lexemes with
    | nil => exact fun _ => parted
    | cons next _ => exact apart

theorem readTo_blanks {α : Type} {mark : Char} {step : List Char → Option (List α × List Char)}
    {items : List α} (skips : ∀ c ∈ bodyBlanks, ∀ rest, step (c :: rest) = some ([], rest))
    (other : mark ∉ bodyBlanks) {text : List Char} (h : text.all (· ∈ bodyBlanks) = true)
    (read : readTo mark step rest = some (items, behind)) :
    readTo mark step (text ++ rest) = some (items, behind) := by
  induction text with
  | nil => exact read
  | cons c text ih =>
    simp only [List.all_cons, Bool.and_eq_true, decide_eq_true_eq] at h
    obtain ⟨blank, others⟩ := h
    have running : c ≠ mark := by
      rintro rfl
      exact other blank
    exact readTo_step (by simpa using running) (skips c blank _) (by simp) (ih others)

theorem readStatement_blanks {text : List Char} (h : text.all (· ∈ bodyBlanks) = true)
    (read : readStatement quoted rest = some (more, behind)) :
    readStatement quoted (text ++ rest) = some (more, behind) := by
  refine readTo_blanks ?_ (by decide) h read
  intro c blank rest
  rw [tokenStep, if_pos blank]

theorem readStatement_mark {c : Char} (h : c ∈ bodyMarks)
    (read : readStatement quoted rest = some (more, behind)) :
    readStatement quoted (c :: rest) = some (.mark c :: more, behind) := by
  have all : bodyMarks.all (fun c => decide (c ∉ bodyBlanks ∧ c ≠ ';')) = true := by decide
  have apart : c ∉ bodyBlanks ∧ c ≠ ';' := by simpa using List.all_eq_true.mp all c h
  have taken : tokenStep quoted (c :: rest) = some ([.mark c], rest) := by
    rw [tokenStep, if_neg apart.1, if_pos h]
  exact readTo_step (by simpa using apart.2) taken (by simp) read

theorem readStatement_literal {value : String} (h : quoted.Reads value)
    (read : readStatement quoted rest = some (more, behind)) :
    readStatement quoted ((singleQuoted value).toList ++ rest) =
      some (.literal value :: more, behind) := by
  have letters : (singleQuoted value).toList ++ rest =
      '\'' :: (value.toList.flatMap escapeQuotedChar ++ '\'' :: rest) := by
    simp [singleQuoted, escapeSingleQuoted]
  have taken : tokenStep quoted ('\'' :: (value.toList.flatMap escapeQuotedChar ++ '\'' :: rest)) =
      some ([.literal value], rest) := by
    rw [tokenStep, if_neg (by decide), if_neg (by decide), if_pos rfl, h rest]
    simp
  have shorter : rest.length <
      ('\'' :: (value.toList.flatMap escapeQuotedChar ++ '\'' :: rest)).length := by
    rw [List.length_cons, List.length_append, List.length_cons]
    omega
  rw [letters]
  exact readTo_step (by simp) taken shorter read

theorem readStatement_template {inside : List Char} {parts : List TemplatePart}
    (h : ∀ rest, readTemplate (inside ++ templateQuote :: rest) = some (parts, rest))
    (read : readStatement quoted rest = some (more, behind)) :
    readStatement quoted (templateQuote :: (inside ++ templateQuote :: rest)) =
      some (.template parts :: more, behind) := by
  have taken : tokenStep quoted (templateQuote :: (inside ++ templateQuote :: rest)) =
      some ([.template parts], rest) := by
    rw [tokenStep, if_neg (by decide), if_neg (by decide), if_neg (by decide), if_pos rfl, h rest]
    rfl
  have shorter : rest.length < (templateQuote :: (inside ++ templateQuote :: rest)).length := by
    rw [List.length_cons, List.length_append, List.length_cons]
    omega
  exact readTo_step (by simp [templateQuote]) taken shorter read

theorem readStatement_word {name : String} (h : IsWord name) (stops : ∀ c ∈ rest.head?, Foreign c)
    (read : readStatement quoted rest = some (more, behind)) :
    readStatement quoted (name.toList ++ rest) = some (.word name :: more, behind) := by
  obtain ⟨held, inside⟩ := h
  cases letters : name.toList with
  | nil => exact absurd letters held
  | cons c word =>
    rw [letters] at inside
    obtain ⟨here, others⟩ := List.forall_mem_cons.mp inside
    have special : ∀ d ∈ specialChars, c ≠ d := by
      rintro _ mem rfl
      exact here (special_foreign mem)
    simp only [specialChars, List.forall_mem_cons, List.forall_mem_append] at special
    obtain ⟨running, quote, template, blanks, marks⟩ := special
    have whole := span_stops (p := (¬ Foreign ·)) (by simpa using others) (by simpa using stops)
    have taken : tokenStep quoted (c :: (word ++ rest)) = some ([.word name], rest) := by
      rw [tokenStep, if_neg fun mem => blanks c mem rfl, if_neg fun mem => marks c mem rfl,
        if_neg quote, if_neg template, if_neg here, whole.1, whole.2, ← letters, String.ofList_toList]
    have shorter : rest.length < (c :: (word ++ rest)).length := by
      rw [List.length_cons, List.length_append]
      omega
    exact readTo_step (by simpa using running) taken shorter read

theorem parted_stops {lexemes : List Lexeme} (legible : Legible quoted lexemes)
    (parted : Parted lexemes) (rest : List Char) :
    ∀ c ∈ (lexemeText lexemes ++ ';' :: rest).head?, Foreign c := by
  cases lexemes with
  | nil =>
    have foreign : Foreign ';' := special_foreign (by simp [specialChars])
    simpa using foreign
  | cons lexeme lexemes =>
    have fits := legible.1
    rw [lexemeText_cons]
    cases lexeme with
    | word name => cases parted (.word name) rfl
    | blanks text =>
      obtain ⟨held, blank⟩ := fits
      obtain ⟨c, inside, letters⟩ := List.exists_cons_of_ne_nil held
      rw [letters, List.all_cons, Bool.and_eq_true, decide_eq_true_eq] at blank
      have foreign : Foreign c := special_foreign (by simp [specialChars, blank.1])
      simpa [Lexeme.text, letters] using foreign
    | literal value =>
      have foreign : Foreign '\'' := special_foreign (by simp [specialChars])
      simpa [Lexeme.text, singleQuoted] using foreign
    | template inside parts =>
      have foreign : Foreign templateQuote := special_foreign (by simp [specialChars])
      simpa [Lexeme.text] using foreign
    | mark c =>
      have marked : c ∈ bodyMarks := fits
      have foreign : Foreign c := special_foreign (by simp [specialChars, marked])
      simpa [Lexeme.text] using foreign

theorem readStatement_lexemes {lexemes : List Lexeme} (legible : Legible quoted lexemes)
    (rest : List Char) : readStatement quoted (lexemeText lexemes ++ ';' :: rest) =
      some (lexemeTokens lexemes, rest) := by
  induction lexemes with
  | nil => exact readTo_mark rest
  | cons lexeme lexemes ih =>
    obtain ⟨fits, apart, legible⟩ := legible
    have read := ih legible
    rw [lexemeText_cons, List.append_assoc]
    cases lexeme with
    | blanks text => exact readStatement_blanks fits.2 read
    | word name =>
      exact readStatement_word fits (parted_stops legible (apart rfl) rest) read
    | literal value => exact readStatement_literal fits read
    | template inside parts =>
      rw [Lexeme.text, List.append_assoc, List.cons_append]
      exact readStatement_template fits read
    | mark c => exact readStatement_mark fits read

/-- A statement begins with a word, and with nothing that ends a body. -/
def Opens : List Lexeme → Prop
  | .word _ :: _ => True
  | _ => False

def bodyText (statements : List (List Lexeme)) : List Char :=
  '\n' :: statements.flatMap (fun lexemes => "    ".toList ++ (lexemeText lexemes ++ [';', '\n']))
    ++ [' ', ' ', '\x7d']

theorem readBody_blanks {text after : List Char} {statements : List (List BodyToken)}
    (h : text.all (· ∈ bodyBlanks) = true)
    (read : readBody quoted after = some (statements, behind)) :
    readBody quoted (text ++ after) = some (statements, behind) := by
  refine readTo_blanks ?_ (by decide) h read
  intro c blank rest
  rw [statementStep, if_pos blank]

theorem opens_begins {lexemes : List Lexeme} (legible : Legible quoted lexemes)
    (opens : Opens lexemes) (rest : List Char) :
    ∃ c tail, lexemeText lexemes ++ rest = c :: tail ∧ ¬ Foreign c := by
  cases lexemes with
  | nil => cases opens
  | cons lexeme lexemes =>
    cases lexeme with
    | word name =>
      obtain ⟨held, inside⟩ := legible.1
      obtain ⟨c, word, letters⟩ := List.exists_cons_of_ne_nil held
      rw [letters] at inside
      refine ⟨c, word ++ (lexemeText lexemes ++ rest), ?_, inside c List.mem_cons_self⟩
      simp [Lexeme.text, letters]
    | _ => cases opens

theorem readBody_statement {lexemes : List Lexeme} {after : List Char}
    {statements : List (List BodyToken)} (legible : Legible quoted lexemes) (opens : Opens lexemes)
    (read : readBody quoted after = some (statements, behind)) :
    readBody quoted (lexemeText lexemes ++ ';' :: after) =
      some (lexemeTokens lexemes :: statements, behind) := by
  have whole := readStatement_lexemes legible after
  obtain ⟨c, tail, letters, here⟩ := opens_begins legible opens (';' :: after)
  have apart : ∀ d ∈ specialChars, c ≠ d := by
    rintro _ mem rfl
    exact here (special_foreign mem)
  have unblank : c ∉ bodyBlanks := by
    intro mem
    exact apart c (by simp [specialChars, mem]) rfl
  have running : c ≠ '\x7d' := apart _ (by simp [specialChars, bodyMarks])
  have taken : statementStep quoted (c :: tail) = some ([lexemeTokens lexemes], after) := by
    rw [statementStep, if_neg unblank, ← letters, whole]
    rfl
  have shorter : after.length < (c :: tail).length := by
    rw [← letters, List.length_append, List.length_cons]
    omega
  rw [letters]
  exact readTo_step (by simpa using running) taken shorter read

/-- A body that is written with legible statements is read back as these statements. -/
theorem readBody_text {statements : List (List Lexeme)}
    (legible : ∀ lexemes ∈ statements, Opens lexemes ∧ Legible quoted lexemes) :
    readBody quoted (bodyText statements) = some (statements.map lexemeTokens, []) := by
  have ends : readBody quoted [' ', ' ', '\x7d'] = some ([], []) :=
    readBody_blanks (by decide : [' ', ' '].all (· ∈ bodyBlanks) = true) (readTo_mark [])
  have line : ['\n'].all (· ∈ bodyBlanks) = true := by decide
  have indent : "    ".toList.all (· ∈ bodyBlanks) = true := by decide
  -- By the statements, each with its indentation before it and a line feed behind it.
  have all : readBody quoted (statements.flatMap (fun lexemes =>
      "    ".toList ++ (lexemeText lexemes ++ [';', '\n'])) ++ [' ', ' ', '\x7d']) =
      some (statements.map lexemeTokens, []) := by
    induction statements with
    | nil => exact ends
    | cons lexemes statements ih =>
      obtain ⟨⟨opens, here⟩, others⟩ := List.forall_mem_cons.mp legible
      have read := readBody_statement here opens (readBody_blanks line (ih others))
      have whole := readBody_blanks indent read
      simpa using whole
  exact (readBody_blanks line all :)

end Reading

def BodyToken.template? : BodyToken → Option (List TemplatePart)
  | template parts => some parts
  | _ => none

def declaration? : List BodyToken → Option (String × List BodyToken)
  | .word "const" :: .word name :: .mark '=' :: value => some (name, value)
  | _ => none

def declared (statement : List BodyToken) : List String :=
  ((declaration? statement).map Prod.fst).toList

def expressions (parts : List TemplatePart) : List String :=
  parts.filterMap fun
    | .char _ => none
    | .expression source => some source

theorem mem_expressions {parts : List TemplatePart} {source : String} :
    source ∈ expressions parts ↔ .expression source ∈ parts := by
  rw [expressions, List.mem_filterMap]
  constructor
  · rintro ⟨part, mem, shown⟩
    cases part with
    | char c => cases shown
    | expression other =>
      cases shown
      exact mem
  · intro mem
    exact ⟨_, mem, rfl⟩

/-- The names that tokens mention: neither fields behind a dot nor keys before a colon. -/
def mentions (field : Bool) : List BodyToken → List String
  | [] => []
  | .word name :: rest =>
    (if field ∨ rest.head? = some (.mark ':') then [] else [name]) ++ mentions false rest
  | .literal _ :: rest => mentions false rest
  | .template parts :: rest => expressions parts ++ mentions false rest
  | .mark c :: rest => mentions (c = '.') rest

def uses (statement : List BodyToken) : List String :=
  mentions false (((declaration? statement).map Prod.snd).getD statement)

/-- Every statement uses names that are known, or are declared before it. -/
def Closed (known : List String) : List (List BodyToken) → Prop
  | [] => True
  | statement :: rest => uses statement ⊆ known ∧ Closed (declared statement ++ known) rest

def readEntries : List BodyToken → Option (List (String × String))
  | [.mark '\x7d'] => some []
  | .word name :: .mark ',' :: rest => (readEntries rest).map ((name, name) :: ·)
  | .literal key :: .mark ':' :: .word name :: .mark ',' :: rest =>
    (readEntries rest).map ((key, name) :: ·)
  | _ => none

def readRecord : List BodyToken → Option (List (String × String))
  | .mark '\x7b' :: entries => readEntries entries
  | _ => none

/-- The entries of the record that is declared under a name; none where nothing is. -/
def recordOf (name : String) (statements : List (List BodyToken)) : Option (List (String × String)) :=
  (((statements.filterMap declaration?).lookup name).map readRecord).getD (some [])

end OpenApiClient.Script
