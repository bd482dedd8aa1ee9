import OpenApiClient.Proofs.NameWords
import OpenApiClient.Proofs.ScriptLiterals

/-! How a script reads its types.
This is the part of the grammar that has names and their arguments, literals, unions, brackets and
parentheses; what a name stands for is no part of it. Brackets bind more tightly than a bar, and
parentheses only group. A reading is a derivation by that grammar, and a text has at most one. -/
namespace OpenApiClient.Script

inductive TypeToken
  | word (name : String)
  | literal (text : String)
  | mark (c : Char)
  deriving DecidableEq, Repr

/-- A type as it is read. The arguments of a name are what its commas make of them. -/
inductive TypeTree
  | named (name : String)
  | literal (text : String)
  | applied (name : String) (arguments : TypeTree)
  | listed (front last : TypeTree)
  | union (front last : TypeTree)
  | array (item : TypeTree)
  deriving DecidableEq, Repr

def typeMarks : List Char := ['(', ')', '[', ']', '<', '>', '|', ',']

def typeStep (alphabet : Alphabet) : List Char → Option (List TypeToken × List Char)
  | [] => none
  | c :: rest =>
    if c = ' ' then some ([], rest)
    else if c ∈ typeMarks then some ([.mark c], rest)
    else if c = '\'' then
      (readQuoted rest).map fun (text, after) => ([.literal (.ofList text)], after)
    else if alphabet.starts c then
      some ([.word (.ofList (c :: rest.takeWhile alphabet.continues))],
        rest.dropWhile alphabet.continues)
    else none

def readLine (alphabet : Alphabet) : List Char → Option (List TypeToken × List Char) :=
  readTo '\n' (typeStep alphabet)

def typeTokens (alphabet : Alphabet) (text : String) : Option (List TypeToken) :=
  match readLine alphabet (text.toList ++ ['\n']) with
  | some (tokens, []) => some tokens
  | _ => none

def Stops (alphabet : Alphabet) (text : List Char) : Prop :=
  ∀ c, text.head? = some c → alphabet.continues c = false

section Reading

variable {alphabet : Alphabet} {rest behind : List Char} {more : List TypeToken}

theorem stops_ascii {c : Char} (low : c.toNat < 0x80) (h : continuesIdentifier c = false)
    (rest : List Char) : Stops alphabet (c :: rest) := by
  intro d head
  obtain rfl : c = d := by simpa using head
  rw [alphabet.continues_ascii c low, h]

theorem readLine_blank (read : readLine alphabet rest = some (more, behind)) :
    readLine alphabet (' ' :: rest) = some (more, behind) := by
  have taken : typeStep alphabet (' ' :: rest) = some ([], rest) := rfl
  exact readTo_step (by simp) taken (by simp) read

theorem readLine_mark {c : Char} (h : c ∈ typeMarks)
    (read : readLine alphabet rest = some (more, behind)) :
    readLine alphabet (c :: rest) = some (.mark c :: more, behind) := by
  have apart : ∀ c ∈ typeMarks, c ≠ ' ' ∧ c ≠ '\n' := by simp [typeMarks]
  obtain ⟨blank, feed⟩ := apart c h
  have taken : typeStep alphabet (c :: rest) = some ([.mark c], rest) := by
    rw [typeStep, if_neg blank, if_pos h]
  exact readTo_step (by simpa using feed) taken (by simp) read

theorem readLine_literal {text : String} (h : '\r' ∉ text.toList)
    (read : readLine alphabet rest = some (more, behind)) :
    readLine alphabet ((singleQuoted text).toList ++ rest) = some (.literal text :: more, behind) := by
  have letters : (singleQuoted text).toList ++ rest =
      '\'' :: (text.toList.flatMap escapeQuotedChar ++ '\'' :: rest) := by
    simp [singleQuoted, escapeSingleQuoted]
  have taken : typeStep alphabet ('\'' :: (text.toList.flatMap escapeQuotedChar ++ '\'' :: rest)) =
      some ([.literal text], rest) := by
    rw [typeStep, if_neg (by decide), if_neg (by decide), if_pos rfl, readQuoted_escaped h]
    simp
  have shorter : rest.length <
      ('\'' :: (text.toList.flatMap escapeQuotedChar ++ '\'' :: rest)).length := by
    rw [List.length_cons, List.length_append, List.length_cons]
    omega
  rw [letters]
  exact readTo_step (by simp) taken shorter read

theorem starts_foreign {c : Char} (h : c ∈ ' ' :: '\'' :: '\n' :: typeMarks) :
    alphabet.starts c = false := by
  have foreign : (' ' :: '\'' :: '\n' :: typeMarks).all
      (fun d => decide (d.toNat < 0x80) && !startsIdentifier d) = true := by decide
  have plain := List.all_eq_true.mp foreign c h
  simp only [Bool.and_eq_true, decide_eq_true_eq, Bool.not_eq_true'] at plain
  rw [alphabet.starts_ascii c plain.1, plain.2]

theorem readLine_word {name : String} (h : alphabet.IsName name) (stops : Stops alphabet rest)
    (read : readLine alphabet rest = some (more, behind)) :
    readLine alphabet (name.toList ++ rest) = some (.word name :: more, behind) := by
  obtain ⟨c, inside, letters, start, continues⟩ := h
  have apart : ∀ d ∈ ' ' :: '\'' :: '\n' :: typeMarks, c ≠ d := by
    rintro d mem rfl
    rw [starts_foreign mem] at start
    cases start
  simp only [List.forall_mem_cons] at apart
  obtain ⟨blank, quote, feed, marks⟩ := apart
  have whole := span_stops continues stops
  have taken : typeStep alphabet (c :: (inside ++ rest)) = some ([.word name], rest) := by
    have unmarked : c ∉ typeMarks := by
      intro mem
      exact marks c mem rfl
    rw [typeStep, if_neg blank, if_neg unmarked, if_neg quote, if_pos start, whole.1, whole.2,
      ← letters, String.ofList_toList]
  have shorter : rest.length < (c :: (inside ++ rest)).length := by
    rw [List.length_cons, List.length_append]
    omega
  rw [letters, List.cons_append]
  exact readTo_step (by simpa using feed) taken shorter read

end Reading

/-- From what binds most tightly to what binds least. -/
inductive TypeLevel
  | operand
  | member
  | type
  | arguments
  deriving DecidableEq, Repr

inductive Grammar : TypeLevel → List TypeToken → TypeTree → Prop where
  | named (name) : Grammar .operand [.word name] (.named name)
  | literal (text) : Grammar .operand [.literal text] (.literal text)
  | applied {tokens arguments} (name) : Grammar .arguments tokens arguments →
      Grammar .operand (.word name :: .mark '<' :: tokens ++ [.mark '>']) (.applied name arguments)
  | group {tokens type} : Grammar .type tokens type →
      Grammar .operand (.mark '(' :: tokens ++ [.mark ')']) type
  | operand {tokens type} : Grammar .operand tokens type → Grammar .member tokens type
  | array {tokens item} : Grammar .member tokens item →
      Grammar .member (tokens ++ [.mark '[', .mark ']']) (.array item)
  | member {tokens type} : Grammar .member tokens type → Grammar .type tokens type
  | union {front last first second} : Grammar .type front first → Grammar .member last second →
      Grammar .type (front ++ .mark '|' :: last) (.union first second)
  | argument {tokens type} : Grammar .type tokens type → Grammar .arguments tokens type
  | arguments {front last first second} : Grammar .arguments front first →
      Grammar .type last second → Grammar .arguments (front ++ .mark ',' :: last) (.listed first second)

def ReadsAs (alphabet : Alphabet) (text : String) (type : TypeTree) : Prop :=
  ∃ tokens, typeTokens alphabet text = some tokens ∧ Grammar .type tokens type

/-- What has been read inside one pair of brackets: the arguments before the last comma, the members
before the last bar, and the operand after it. -/
structure Pending where
  arguments : Option TypeTree := none
  members : Option TypeTree := none
  operand : TypeTree := .named ""
  deriving DecidableEq, Repr

namespace Pending

def type (pending : Pending) : TypeTree :=
  pending.members.elim pending.operand (.union · pending.operand)

def whole (pending : Pending) : TypeTree :=
  pending.arguments.elim pending.type (.listed · pending.type)

end Pending

/-- Reads a token, with the innermost brackets first; it relies on the grammar for what it ignores. -/
def shift : List Pending → TypeToken → List Pending
  | here :: outer, .word name => { here with operand := .named name } :: outer
  | here :: outer, .literal text => { here with operand := .literal text } :: outer
  | here :: outer, .mark '(' => {} :: here :: outer
  | here :: outer, .mark '<' => {} :: here :: outer
  | here :: outer, .mark ']' => { here with operand := .array here.operand } :: outer
  | here :: outer, .mark '|' => { here with members := some here.type } :: outer
  | here :: outer, .mark ',' => { here with arguments := some here.whole, members := none } :: outer
  | inner :: here :: outer, .mark ')' => { here with operand := inner.type } :: outer
  | inner :: here :: outer, .mark '>' =>
    match here.operand with
    | .named name => { here with operand := .applied name inner.whole } :: outer
    | _ => here :: outer
  | stack, _ => stack

def Leaves (tokens : List TypeToken) (type : TypeTree) : TypeLevel → Prop
  | .operand | .member => ∀ here outer,
    tokens.foldl shift (here :: outer) = { here with operand := type } :: outer
  | .type => ∀ here outer, here.members = none → ∃ after : Pending,
    tokens.foldl shift (here :: outer) = after :: outer ∧ after.type = type ∧
      after.arguments = here.arguments
  | .arguments => ∀ outer, ∃ after : Pending,
    tokens.foldl shift ({} :: outer) = after :: outer ∧ after.whole = type

theorem Grammar.leaves {level : TypeLevel} {tokens : List TypeToken} {type : TypeTree}
    (h : Grammar level tokens type) : Leaves tokens type level := by
  induction h with
  | named name => exact fun here outer => rfl
  | literal text => exact fun here outer => rfl
  | applied name _ ih =>
    intro here outer
    obtain ⟨after, inner, whole⟩ := ih ({ here with operand := .named name } :: outer)
    simp only [List.cons_append, List.foldl_cons, List.foldl_append, shift]
    rw [inner]
    simp [whole]
  | group _ ih =>
    intro here outer
    obtain ⟨after, inner, type, _⟩ := ih {} (here :: outer) rfl
    simp only [List.cons_append, List.foldl_cons, List.foldl_append, shift]
    rw [inner]
    simp [type]
  | operand _ ih => exact ih
  | array _ ih =>
    intro here outer
    rw [List.foldl_append, ih]
    rfl
  | member _ ih =>
    intro here outer none
    exact ⟨_, ih here outer, by simp [Pending.type, none], rfl⟩
  | @union front last first second _ _ ihFront ihLast =>
    intro here outer none
    obtain ⟨after, read, type, arguments⟩ := ihFront here outer none
    refine ⟨{ after with members := some after.type, operand := second }, ?_, ?_, arguments⟩
    · rw [List.foldl_append, read, List.foldl_cons]
      exact ihLast _ outer
    · rw [← type]
      rfl
  | argument _ ih =>
    intro outer
    obtain ⟨after, read, type, arguments⟩ := ih {} outer rfl
    exact ⟨after, read, by simp [Pending.whole, arguments, type]⟩
  | arguments _ _ ihFront ihLast =>
    intro outer
    obtain ⟨after, front, whole⟩ := ihFront outer
    obtain ⟨last, read, type, arguments⟩ :=
      ihLast { after with arguments := some after.whole, members := none } outer rfl
    refine ⟨last, ?_, ?_⟩
    · rw [List.foldl_append, front, List.foldl_cons]
      exact read
    · rw [Pending.whole, arguments, type, ← whole]
      rfl

theorem Grammar.unique {tokens : List TypeToken} {type other : TypeTree}
    (h : Grammar .type tokens type) (h' : Grammar .type tokens other) : type = other := by
  obtain ⟨after, read, rfl, _⟩ := h.leaves {} [] rfl
  obtain ⟨after', read', rfl, _⟩ := h'.leaves {} [] rfl
  cases read.symm.trans read'
  rfl

theorem ReadsAs.unique {alphabet : Alphabet} {text : String} {type other : TypeTree}
    (h : ReadsAs alphabet text type) (h' : ReadsAs alphabet text other) : type = other := by
  obtain ⟨tokens, read, grammar⟩ := h
  obtain ⟨tokens', read', grammar'⟩ := h'
  cases read.symm.trans read'
  exact grammar.unique grammar'

end OpenApiClient.Script
