import OpenApiClient.Script
import Mathlib.Data.List.Basic
import Mathlib.Data.Nat.Notation
import Mathlib.Tactic.Common

/-! How a script reads its literals.
A single-quoted string and a template literal are read from behind their opening mark to the closing
one. A backslash stands for a character together with what follows it, or for nothing at the end of a
line; characters given by their number are not read. An expression in a template is read to the next
closing brace, since only names stand there. -/
namespace OpenApiClient.Script

def lineEnds : List Char := ['\n', '\r', '\u2028', '\u2029']

def controlLetters : List (Char × Char) :=
  [('b', '\x08'), ('t', '\t'), ('n', '\n'), ('v', '\x0b'), ('f', '\x0c'), ('r', '\r')]

def readEscape : List Char → Option (List Char × List Char)
  | [] => none
  | c :: rest =>
    if c.isDigit ∨ c = 'x' ∨ c = 'u' then none
    else if c = '\r' ∧ rest.head? = some '\n' then some ([], rest.tail)
    else if c ∈ lineEnds then some ([], rest)
    else some ([(controlLetters.lookup c).getD c], rest)

theorem readEscape_itself {c : Char} (h : c ∈ ['\\', '\'', templateQuote, '$']) (rest : List Char) :
    readEscape (c :: rest) = some ([c], rest) := by
  simp only [List.mem_cons, List.not_mem_nil, or_false] at h
  rcases h with rfl | rfl | rfl | rfl <;> rfl

/-- Takes one item after the other up to a mark, each from a shorter text than the one before. -/
def readTo {α : Type} (mark : Char) (step : List Char → Option (List α × List Char))
    (text : List Char) : Option (List α × List Char) :=
  if text.head? = some mark then some ([], text.tail)
  else
    match step text with
    | none => none
    | some (first, after) =>
      if after.length < text.length then
        (readTo mark step after).map fun (more, behind) => (first ++ more, behind)
      else none
termination_by text.length

variable {α : Type} {mark : Char} {step : List Char → Option (List α × List Char)}

theorem readTo_mark (rest : List Char) : readTo mark step (mark :: rest) = some ([], rest) := by
  rw [readTo]
  simp

theorem readTo_step {text after behind : List Char} {first more : List α}
    (other : text.head? ≠ some mark) (taken : step text = some (first, after))
    (shorter : after.length < text.length) (read : readTo mark step after = some (more, behind)) :
    readTo mark step text = some (first ++ more, behind) := by
  rw [readTo, if_neg other, taken]
  simp only [if_pos shorter, read, Option.map_some]

theorem span_stops {p : Char → Bool} {front rest : List Char} (inside : ∀ c ∈ front, p c = true)
    (stops : ∀ c, rest.head? = some c → p c = false) :
    (front ++ rest).takeWhile p = front ∧ (front ++ rest).dropWhile p = rest := by
  rw [List.takeWhile_append_of_pos inside, List.dropWhile_append_of_pos inside]
  cases rest with
  | nil => simp
  | cons c rest =>
    have stop := stops c rfl
    simp [stop]

def quotedStep : List Char → Option (List Char × List Char)
  | [] => none
  | c :: rest =>
    if c = '\n' ∨ c = '\r' then none
    else if c = '\\' then readEscape rest
    else some ([c], rest)

def readQuoted : List Char → Option (List Char × List Char) := readTo '\'' quotedStep

theorem step_escaped {step : List Char → Option (List Char × List Char)} {c : Char}
    (escape : ∀ rest, step ('\\' :: rest) = readEscape rest)
    (plain : c ≠ '\\' → c ≠ '\n' → ∀ rest, step (c :: rest) = some ([c], rest)) (rest : List Char) :
    step (escapeQuotedChar c ++ rest) = some ([c], rest) := by
  unfold escapeQuotedChar
  by_cases backslash : c = '\\'
  · subst backslash
    exact escape _
  by_cases quote : c = '\''
  · subst quote
    exact escape _
  by_cases feed : c = '\n'
  · subst feed
    exact escape _
  rw [if_neg backslash, if_neg quote, if_neg feed]
  exact plain backslash feed rest

theorem quotedStep_escaped {c : Char} (h : c ≠ '\r') (rest : List Char) :
    quotedStep (escapeQuotedChar c ++ rest) = some ([c], rest) := by
  apply step_escaped (fun _ => rfl)
  intro backslash feed rest
  simp [quotedStep, backslash, feed, h]

/-- What takes every escaped character of a text as that character reads the text to its quote. -/
theorem readTo_escaped {step : List Char → Option (List Char × List Char)} {text : List Char}
    (h : ∀ c ∈ text, ∀ rest, step (escapeQuotedChar c ++ rest) = some ([c], rest))
    (rest : List Char) :
    readTo '\'' step (text.flatMap escapeQuotedChar ++ '\'' :: rest) = some (text, rest) := by
  induction text with
  | nil => exact readTo_mark rest
  | cons c text ih =>
    obtain ⟨here, others⟩ := List.forall_mem_cons.mp h
    have taken := here (text.flatMap escapeQuotedChar ++ '\'' :: rest)
    rw [List.flatMap_cons, List.append_assoc]
    refine readTo_step ?_ taken ?_ (ih others)
    · unfold escapeQuotedChar
      split_ifs <;> simp_all
    · have shown : escapeQuotedChar c ≠ [] := by
        unfold escapeQuotedChar
        split_ifs <;> simp
      have size := List.length_pos_iff.mpr shown
      simp only [List.length_append]
      omega

theorem readQuoted_escaped {text : List Char} (h : '\r' ∉ text) (rest : List Char) :
    readQuoted (text.flatMap escapeQuotedChar ++ '\'' :: rest) = some (text, rest) := by
  apply readTo_escaped
  intro c mem rest
  apply quotedStep_escaped
  rintro rfl
  exact h mem

/-- What a template literal consists of, an expression being known by its text. -/
inductive TemplatePart
  | char (c : Char)
  | expression (source : String)
  deriving DecidableEq, Repr

def readExpression (text : List Char) : Option (List TemplatePart × List Char) :=
  match text.dropWhile (· ≠ '\x7d') with
  | [] => none
  | _ :: after => some ([.expression (.ofList (text.takeWhile (· ≠ '\x7d')))], after)

/-- The end of a line inside a template is a line feed, however it is written. -/
def templateStep : List Char → Option (List TemplatePart × List Char)
  | [] => none
  | c :: rest =>
    if c = '\\' then (readEscape rest).map fun (chars, after) => (chars.map .char, after)
    else if c = '$' ∧ rest.head? = some '\x7b' then readExpression rest.tail
    else if c = '\r' then some (if rest.head? = some '\n' then [] else [.char '\n'], rest)
    else some ([.char c], rest)

def readTemplate : List Char → Option (List TemplatePart × List Char) :=
  readTo templateQuote templateStep

def templateParts (literal : String) : Option (List TemplatePart) :=
  match literal.toList with
  | [] => none
  | c :: inside =>
    if c = templateQuote then
      match readTemplate inside with
      | some (parts, []) => some parts
      | _ => none
    else none

theorem templateParts_read {literal : String} {inside : List Char} {parts : List TemplatePart}
    (letters : literal.toList = templateQuote :: (inside ++ [templateQuote]))
    (read : readTemplate (inside ++ [templateQuote]) = some (parts, [])) :
    templateParts literal = some parts := by
  unfold templateParts
  rw [letters]
  simp only [if_true, read]

def TemplatePart.value? (scope : String → Option String) : TemplatePart → Option (List Char)
  | char c => some [c]
  | expression source => (scope source).map String.toList

def templateValue (scope : String → Option String) (literal : String) : Option String := do
  let parts ← templateParts literal
  let texts ← parts.mapM (·.value? scope)
  pure (.ofList texts.flatten)

def TemplatePart.chars (value : String → String) : TemplatePart → List Char
  | char c => [c]
  | expression source => (value source).toList

def TemplatePart.rename (value : String → String) : TemplatePart → TemplatePart
  | char c => .char c
  | expression source => .expression (value source)

theorem TemplatePart.rename_chars (value : String → String) (part : TemplatePart) :
    (part.rename value).chars id = part.chars value := by
  cases part <;> rfl

theorem templateValue_read {scope : String → Option String} {value : String → String}
    {literal : String} {parts : List TemplatePart} (read : templateParts literal = some parts)
    (known : ∀ source, .expression source ∈ parts → scope source = some (value source)) :
    templateValue scope literal = some (.ofList (parts.flatMap (·.chars value))) := by
  have texts : parts.mapM (·.value? scope) = some (parts.map (·.chars value)) := by
    clear read
    induction parts with
    | nil => rfl
    | cons part rest ih =>
      have first : part.value? scope = some (part.chars value) := by
        cases part with
        | char c => rfl
        | expression source =>
          rw [TemplatePart.value?, known source List.mem_cons_self]
          rfl
      have others := ih fun source mem => known source (List.mem_cons_of_mem _ mem)
      rw [List.mapM_cons, first, others]
      rfl
  rw [templateValue, read, Option.bind_eq_bind, Option.bind_some, texts]
  rfl

/-- A character, or a substitution with dollars of the text before it that nothing escapes. -/
inductive TemplateItem
  | char (c : Char)
  | hole (dollars : ℕ) (ident : String)
  deriving DecidableEq, Repr

namespace TemplateItem

def parts : TemplateItem → List TemplatePart
  | char c => [.char c]
  | hole dollars ident => List.replicate dollars (.char '$') ++ [.expression ident]

theorem parts_chars (text : List Char) : (text.map char).flatMap parts = text.map .char := by
  induction text with
  | nil => rfl
  | cons c rest ih => exact congrArg (List.cons (.char c)) ih

/-- Whether a brace begins a row of items or comes first in its substitution. -/
def opensBrace : List TemplateItem → Bool
  | [] => false
  | char c :: _ => c = '\x7b'
  | hole .. :: _ => true

def holeText (dollars : ℕ) (ident : String) : List Char :=
  List.replicate dollars '$' ++ '$' :: '\x7b' :: ident.toList ++ ['\x7d']

/-- Items inside a template literal; a dollar is escaped before whatever begins with a brace. -/
def write : List TemplateItem → List Char
  | [] => []
  | char c :: rest =>
    (if c = '\\' ∨ c = templateQuote ∨ c = '$' ∧ opensBrace rest then ['\\', c] else [c])
      ++ write rest
  | hole dollars ident :: rest => holeText dollars ident ++ write rest

theorem write_chars {items : List TemplateItem} (h : opensBrace items = false) (text : List Char) :
    write (text.map char ++ items) = escapeTemplate text ++ write items := by
  induction text with
  | nil => rfl
  | cons c rest ih =>
    have opens : opensBrace (rest.map char ++ items) = true ↔ rest.head? = some '\x7b' := by
      cases rest with
      | nil => simpa [opensBrace] using h
      | cons d rest => simp [opensBrace]
    rw [List.map_cons, List.cons_append, write, escapeTemplate, ih]
    simp only [opens]
    split <;> rfl

def settleLines : List TemplatePart → List TemplatePart
  | [] => []
  | part :: rest =>
    if part = .char '\r' then
      if rest.head? = some (.char '\n') then settleLines rest else .char '\n' :: settleLines rest
    else part :: settleLines rest

theorem settleLines_append {front : List TemplatePart} (h : .char '\r' ∉ front)
    (more : List TemplatePart) : settleLines (front ++ more) = front ++ settleLines more := by
  induction front with
  | nil => rfl
  | cons part front ih =>
    simp only [List.mem_cons, not_or] at h
    rw [List.cons_append, settleLines, if_neg (Ne.symm h.1), ih h.2, List.cons_append]

theorem settleLines_plain {parts : List TemplatePart} (h : .char '\r' ∉ parts) :
    settleLines parts = parts := by
  simpa [settleLines] using settleLines_append h []

theorem count_settleLines (parts : List TemplatePart) {c : Char} (feed : c ≠ '\n')
    (carriage : c ≠ '\r') : (settleLines parts).count (.char c) = parts.count (.char c) := by
  induction parts with
  | nil => rfl
  | cons part rest ih =>
    rw [settleLines]
    split
    · rename_i line
      split
      · simp [line, carriage.symm, ih]
      · simp [line, carriage.symm, feed.symm, ih]
    · rw [List.count_cons, List.count_cons, ih]

theorem expression_settleLines {parts : List TemplatePart} {source : String}
    (h : .expression source ∈ settleLines parts) : .expression source ∈ parts := by
  induction parts with
  | nil => exact h
  | cons part rest ih =>
    rw [settleLines] at h
    split at h
    · split at h
      · exact List.mem_cons_of_mem _ (ih h)
      · simp only [List.mem_cons, reduceCtorEq, false_or] at h
        exact List.mem_cons_of_mem _ (ih h)
    · rcases List.mem_cons.mp h with rfl | h
      · exact List.mem_cons_self
      · exact List.mem_cons_of_mem _ (ih h)

theorem settleLines_rename (value : String → String) (parts : List TemplatePart) :
    settleLines (parts.map (·.rename value)) = (settleLines parts).map (·.rename value) := by
  have itself : ∀ (part : TemplatePart) c, part.rename value = .char c ↔ part = .char c := by
    intro part c
    cases part <;> simp [TemplatePart.rename]
  induction parts with
  | nil => rfl
  | cons part rest ih =>
    have next : (rest.map (·.rename value)).head? = some (.char '\n') ↔
        rest.head? = some (.char '\n') := by
      cases rest <;> simp [itself]
    rw [List.map_cons, settleLines, settleLines, ih]
    simp only [itself, next]
    split_ifs <;> rfl

theorem write_head (items : List TemplateItem) (behind : List Char) :
    (write items ++ templateQuote :: behind).head? = some '\x7b' → opensBrace items = true := by
  intro h
  cases items with
  | nil => simp [write, templateQuote] at h
  | cons item rest =>
    cases item with
    | hole dollars ident => rfl
    | char c =>
      rw [write] at h
      split at h
      · simp at h
      · simpa [opensBrace] using h

theorem write_feed (items : List TemplateItem) (behind : List Char) :
    (write items ++ templateQuote :: behind).head? = some '\n' ↔
      (items.flatMap parts).head? = some (.char '\n') := by
  cases items with
  | nil => simp [write, templateQuote]
  | cons item rest =>
    cases item with
    | hole dollars ident => cases dollars <;> simp [write, holeText, parts, List.replicate_succ]
    | char c =>
      rw [write]
      split
      · rename_i marked
        rcases marked with rfl | rfl | ⟨rfl, _⟩ <;> simp [parts, templateQuote]
      · simp [parts]

section Steps

variable {c : Char} {tail behind : List Char} {more : List TemplatePart}

theorem readTemplate_escaped (h : c ∈ ['\\', '\'', templateQuote, '$'])
    (read : readTemplate tail = some (more, behind)) :
    readTemplate ('\\' :: c :: tail) = some (.char c :: more, behind) := by
  have taken : templateStep ('\\' :: c :: tail) = some ([.char c], tail) := by
    simp [templateStep, readEscape_itself h]
  have shorter : tail.length < ('\\' :: c :: tail).length := by
    rw [List.length_cons, List.length_cons]
    omega
  exact readTo_step (by simp [templateQuote]) taken shorter read

theorem readTemplate_plain (backslash : c ≠ '\\') (quote : c ≠ templateQuote)
    (dollar : ¬ (c = '$' ∧ tail.head? = some '\x7b'))
    (read : readTemplate tail = some (more, behind)) :
    readTemplate (c :: tail) = some (if c = '\r' then
      if tail.head? = some '\n' then more else .char '\n' :: more else .char c :: more, behind) := by
  have other : (c :: tail).head? ≠ some templateQuote := by simpa using quote
  have shorter : tail.length < (c :: tail).length := by simp
  by_cases line : c = '\r'
  · have taken : templateStep (c :: tail) =
        some (if tail.head? = some '\n' then [] else [.char '\n'], tail) := by
      rw [templateStep, if_neg backslash, if_neg dollar, if_pos line]
    rw [readTemplate, readTo_step other taken shorter read, if_pos line]
    split <;> rfl
  · have taken : templateStep (c :: tail) = some ([.char c], tail) := by
      rw [templateStep, if_neg backslash, if_neg dollar, if_neg line]
    rw [readTemplate, readTo_step other taken shorter read, if_neg line]
    rfl

theorem readTemplate_hole {ident : String} (closed : '\x7d' ∉ ident.toList) (dollars : ℕ)
    (read : readTemplate tail = some (more, behind)) :
    readTemplate (holeText dollars ident ++ tail) =
      some ((hole dollars ident).parts ++ more, behind) := by
  induction dollars with
  | zero =>
    have inside : ∀ c ∈ ident.toList, decide (c ≠ '\x7d') = true := by
      intro c mem
      simp only [decide_eq_true_eq]
      rintro rfl
      exact closed mem
    have expression : readExpression (ident.toList ++ '\x7d' :: tail) =
        some ([.expression ident], tail) := by
      unfold readExpression
      rw [List.dropWhile_append_of_pos inside, List.takeWhile_append_of_pos inside]
      simp
    have taken : templateStep (holeText 0 ident ++ tail) = some ([.expression ident], tail) := by
      simpa [holeText, templateStep] using expression
    exact readTo_step (by simp [holeText, templateQuote]) taken (by simp [holeText]; omega) read
  | succ dollars ih =>
    have next : (holeText dollars ident ++ tail).head? ≠ some '\x7b' := by
      cases dollars <;> simp [holeText, List.replicate_succ]
    have front : holeText (dollars + 1) ident ++ tail = '$' :: (holeText dollars ident ++ tail) := by
      simp [holeText, List.replicate_succ]
    rw [front]
    exact readTemplate_plain (by decide) (by decide) (fun opens => next opens.2) ih

end Steps

theorem readTemplate_char (c : Char) {rest : List TemplateItem} {behind : List Char}
    (read : readTemplate (write rest ++ templateQuote :: behind) =
      some (settleLines (rest.flatMap parts), behind)) :
    readTemplate (write (char c :: rest) ++ templateQuote :: behind) =
      some (settleLines (.char c :: rest.flatMap parts), behind) := by
  have feed := write_feed rest behind
  rw [write, List.append_assoc, settleLines]
  by_cases marked : c = '\\' ∨ c = templateQuote ∨ c = '$' ∧ opensBrace rest = true
  · have itself : c ∈ ['\\', '\'', templateQuote, '$'] := by
      rcases marked with rfl | rfl | ⟨rfl, _⟩ <;> simp
    have visible : TemplatePart.char c ≠ .char '\r' := by
      rcases marked with rfl | rfl | ⟨rfl, _⟩ <;> simp [templateQuote]
    rw [if_pos marked, if_neg visible]
    exact readTemplate_escaped itself read
  · rw [if_neg marked]
    simp only [not_or, not_and] at marked
    obtain ⟨backslash, quote, dollar⟩ := marked
    have unopened : ¬ (c = '$' ∧ (write rest ++ templateQuote :: behind).head? = some '\x7b') := by
      rintro ⟨same, next⟩
      exact dollar same (write_head rest behind next)
    have whole := readTemplate_plain backslash quote unopened read
    simp only [feed] at whole
    simp only [TemplatePart.char.injEq]
    exact whole

/-- Whatever is written into a template is read back, but for the line ends. -/
theorem readTemplate_write {items : List TemplateItem}
    (closed : ∀ dollars ident, hole dollars ident ∈ items → '\x7d' ∉ ident.toList)
    (behind : List Char) : readTemplate (write items ++ templateQuote :: behind) =
      some (settleLines (items.flatMap parts), behind) := by
  induction items with
  | nil => exact readTo_mark behind
  | cons item rest ih =>
    have read := ih fun dollars ident mem => closed dollars ident (List.mem_cons_of_mem _ mem)
    cases item with
    | char c => exact readTemplate_char c read
    | hole dollars ident =>
      have visible : .char '\r' ∉ (hole dollars ident).parts := by simp [parts]
      rw [write, List.flatMap_cons, List.append_assoc, settleLines_append visible]
      exact readTemplate_hole (closed dollars ident List.mem_cons_self) dollars read

end TemplateItem

end OpenApiClient.Script
