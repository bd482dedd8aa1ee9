import OpenApiClient.Json.Reader

/-! Decoders, and the skipping of values.
A decoder takes a value into the document model by two routes: from a raw value, and straight from the
text while it is read. What has alternatives (`buffered`) is first read as a whole, with repeated keys,
and then judged as a raw value is. The value of a field that the model does not know is passed over
without being built; that knows no limit on nesting or on the size of numbers. -/
namespace OpenApiClient

namespace Json

def skipString (s : List Symbol) : Except Halt (List Symbol) :=
  match s with
  | [] => halt .endInString [] 0
  | .stray _ :: rest => skipString rest
  | .char c :: rest =>
    if c = '"' then .ok rest
    else if c = '\\' then
      match rest with
      | [] => halt .endInString [] 0
      | .char 'u' :: digits => do
        let _ ← readHex digits
        skipString (digits.drop 4)
      | .char e :: after =>
        if e ∈ ['"', '\\', '/', 'b', 'f', 'n', 'r', 't'] then skipString after
        else halt .invalidEscape (.char e :: after) 1
      | .stray b :: after => halt .invalidEscape (.stray b :: after) 1
    else if c.toNat < 0x20 then halt .controlCharacter s 0
    else skipString rest
termination_by s.length
decreasing_by all_goals simp; try omega

def skipDigits (s : List Symbol) : Except Halt (List Symbol) :=
  match takeDigits s with
  | ([], rest) => halt .invalidNumber rest 1
  | (_, rest) => .ok rest

def skipExponent (s : List Symbol) : Except Halt (List Symbol) :=
  match s with
  | .char '+' :: rest | .char '-' :: rest => skipDigits rest
  | _ => skipDigits s

def skipNumber (s : List Symbol) : Except Halt (List Symbol) := do
  let rest ← match takeDigits s with
    | ([], rest) => halt .invalidNumber rest 1
    | (0 :: _ :: _, _) => halt .invalidNumber (s.drop 1) 1
    | (_, rest) => pure rest
  let rest ← match rest with
    | .char '.' :: rest => skipDigits rest
    | _ => pure rest
  match rest with
  | .char 'e' :: rest | .char 'E' :: rest => skipExponent rest
  | _ => pure rest

inductive Enclosing
  | list
  | object
  deriving DecidableEq, Repr

def skipKey (s : List Symbol) : Except Halt (List Symbol) :=
  match skipBlanks s with
  | [] => halt .endInObject [] 0
  | .char '"' :: rest => do readColon (← skipString rest)
  | rest => halt .keyMustBeString rest 1

mutual
/-- Passes over a value and over what its enclosing containers still hold. -/
def skipWithin : Nat → List Enclosing → List Symbol → Except Halt (List Symbol)
  | 0, _, s => halt .endInValue s 0
  | fuel + 1, enclosing, s =>
    match skipBlanks s with
    | [] => halt .endInValue [] 0
    | .char 'n' :: rest => do skipAfter fuel enclosing (← readWord ['u', 'l', 'l'] rest)
    | .char 't' :: rest => do skipAfter fuel enclosing (← readWord ['r', 'u', 'e'] rest)
    | .char 'f' :: rest => do skipAfter fuel enclosing (← readWord ['a', 'l', 's', 'e'] rest)
    | .char '"' :: rest => do skipAfter fuel enclosing (← skipString rest)
    | .char '-' :: rest => do skipAfter fuel enclosing (← skipNumber rest)
    | .char '[' :: rest =>
      match skipBlanks rest with
      | [] => halt .endInList [] 0
      | .char ']' :: rest => skipAfter fuel enclosing rest
      | rest => skipWithin fuel (.list :: enclosing) rest
    | .char '\x7b' :: rest =>
      match skipBlanks rest with
      | [] => halt .endInObject [] 0
      | .char '\x7d' :: rest => skipAfter fuel enclosing rest
      | rest => do skipWithin fuel (.object :: enclosing) (← skipKey rest)
    | symbol :: rest =>
      if isDigit symbol then do skipAfter fuel enclosing (← skipNumber (symbol :: rest))
      else halt .expectedValue (symbol :: rest) 1
def skipAfter : Nat → List Enclosing → List Symbol → Except Halt (List Symbol)
  | _, [], s => .ok s
  | 0, _, s => halt .endInValue s 0
  | fuel + 1, .list :: outer, s =>
    match skipBlanks s with
    | [] => halt .endInList [] 0
    | .char ',' :: rest => skipWithin fuel (.list :: outer) rest
    | .char ']' :: rest => skipAfter fuel outer rest
    | rest => halt .expectedListCommaOrEnd rest 1
  | fuel + 1, .object :: outer, s =>
    match skipBlanks s with
    | [] => halt .endInObject [] 0
    | .char ',' :: rest => do skipWithin fuel (.object :: outer) (← skipKey rest)
    | .char '\x7d' :: rest => skipAfter fuel outer rest
    | rest => halt .expectedObjectCommaOrEnd rest 1
end

/-- The input after a value; for each symbol there are two steps at most. -/
def skipValue (bound : Nat) (s : List Symbol) : Except Halt (List Symbol) :=
  skipWithin (2 * bound) [] s

end Json

open Json

/-- Both ways of taking a value in. The text route is told the bound of the text and how deep
containers may still nest. -/
structure Decoder (α : Type) where
  ofJson : Json → Except Mismatch α
  read : Nat → Nat → Reader α

def Json.found : Json → Found
  | null => .null
  | bool b => .bool b
  | number n => .number n
  | string s => .string s
  | array _ => .sequence
  | object _ => .map

def Json.refuse (expected : String) (value : Json) : Except Mismatch α :=
  .error (.wrongType value.found expected)

def Json.mismatch (cause : Mismatch) : Except Halt α := .error (.mismatch cause)

/-- The refusal of the value at the front of an input; a scalar has to be well written to be named. -/
def Json.refuseNext (expected : String) : Reader α := fun s => do
  let container (found : Found) : Reader Json := fun _ => mismatch (.wrongType found expected)
  let (value, _) ← readWith (container .sequence) (container .map) s
  mismatch (.wrongType value.found expected)

def Json.liftMismatch : Except Mismatch α → Except Halt α
  | .ok a => .ok a
  | .error cause => mismatch cause

namespace Decoder

def map (f : α → β) (d : Decoder α) : Decoder β where
  ofJson value := (d.ofJson value).map f
  read bound depth s := (d.read bound depth s).map fun (a, rest) => (f a, rest)

def string : Decoder String where
  ofJson
    | .string s => .ok s
    | value => value.refuse "a string"
  read _ _ s :=
    match skipBlanks s with
    | .char '"' :: rest => readString rest
    | rest => refuseNext "a string" rest

def option (d : Decoder α) : Decoder (Option α) where
  ofJson
    | .null => .ok none
    | value => (d.ofJson value).map some
  read bound depth s :=
    match skipBlanks s with
    | .char 'n' :: rest => do pure (none, ← readWord ['u', 'l', 'l'] rest)
    | rest => (d.read bound depth rest).map fun (a, rest) => (some a, rest)

def list (d : Decoder α) : Decoder (List α) where
  ofJson
    | .array items => items.mapM d.ofJson
    | value => value.refuse "a sequence"
  read bound depth s :=
    match skipBlanks s, depth with
    | .char '[' :: rest, 0 => tooDeep '[' rest
    | .char '[' :: rest, depth + 1 => listBody bound (d.read bound depth) rest
    | rest, _ => refuseNext "a sequence" rest

/-- An object whose keys are names of its own; a repeated name keeps its place and takes its last value. -/
def fields (d : Decoder α) : Decoder (List (String × α)) where
  ofJson
    | .object fields => do
      let pairs ← fields.mapM fun (key, value) => return (key, ← d.ofJson value)
      pure (settleFields pairs)
    | value => value.refuse "a map"
  read bound depth s :=
    match skipBlanks s, depth with
    | .char '\x7b' :: rest, 0 => tooDeep '\x7b' rest
    | .char '\x7b' :: rest, depth + 1 =>
      (pairsBody bound (d.read bound depth) rest).map fun (pairs, rest) => (settleFields pairs, rest)
    | rest, _ => refuseNext "a map" rest

def raw : Decoder Json where
  ofJson value := .ok value
  read := readValue

def check (d : Decoder α) (f : α → Except Mismatch β) : Decoder β where
  ofJson value := do f (← d.ofJson value)
  read bound depth s := do
    let (a, rest) ← d.read bound depth s
    pure (← liftMismatch (f a), rest)

def buffered (union : String) (choose : Json → Option α) : Decoder α where
  ofJson value := (choose value).elim (.error (.noVariant union)) .ok
  read bound depth s := do
    let (value, rest) ← readContent bound depth s
    pure (← (choose value).elim (mismatch (.noVariant union)) .ok, rest)

end Decoder

/-- A record of the model, all of whose fields have defaults: its name in messages, its keys in
order, and how the value under a key changes the record. An object gives it by keys, of which the
unknown ones are passed over; a list gives the first fields in order. -/
structure Shape (α : Type) where
  name : String
  keys : List String
  blank : α
  field : String → Option (Decoder (α → α))

namespace Shape

variable {α : Type}

def setJson (shape : Shape α) (record : α) (field : String × Json) : Except Mismatch α :=
  match shape.field field.1 with
  | some d => do pure ((← d.ofJson field.2) record)
  | none => .ok record

def ofJson (shape : Shape α) : Json → Except Mismatch α
  | .object fields => fields.foldlM shape.setJson shape.blank
  | .array items => do
    let record ← (shape.keys.zip items).foldlM shape.setJson shape.blank
    if items.length ≤ shape.keys.length then pure record
    else .error (.surplusItems items.length)
  | value => value.refuse ("struct " ++ shape.name)

structure Partial (α : Type) where
  record : α
  seen : List String

/-- How the field under a key is read; a known key may come only once. -/
def readField (shape : Shape α) (bound depth : Nat) (state : Partial α) (key : String) :
    Except Halt (Reader (Partial α)) :=
  match shape.field key with
  | none => .ok fun s => do pure (state, ← skipValue bound s)
  | some d =>
    if key ∈ state.seen then mismatch (.repeatedField key)
    else .ok fun s => do
      let (change, rest) ← d.read bound depth s
      pure (⟨change state.record, key :: state.seen⟩, rest)

/-- The fields of a record given in order, up to the end of the list or the last key. -/
def readInOrder (shape : Shape α) (bound depth : Nat) : List String → Bool → α → Reader α
  | [], _, record, s => do pure (record, ← closeList s)
  | key :: keys, first, record, s => do
    match ← nextItem first s with
    | none => pure (record, ← closeList s)
    | some s =>
      match shape.field key with
      | none => readInOrder shape bound depth keys false record (← skipValue bound s)
      | some d =>
        let (change, rest) ← d.read bound depth s
        readInOrder shape bound depth keys false (change record) rest

def read (shape : Shape α) (bound depth : Nat) : Reader α := fun s =>
  match skipBlanks s, depth with
  | .char '[' :: rest, 0 => tooDeep '[' rest
  | .char '\x7b' :: rest, 0 => tooDeep '\x7b' rest
  | .char '[' :: rest, depth + 1 => shape.readInOrder bound depth shape.keys true shape.blank rest
  | .char '\x7b' :: rest, depth + 1 => do
    let (state, rest) ← objectBody bound (shape.readField bound depth) ⟨shape.blank, []⟩ rest
    pure (state.record, rest)
  | rest, _ => refuseNext ("struct " ++ shape.name) rest

def decoder (shape : Shape α) : Decoder α := ⟨shape.ofJson, shape.read⟩

end Shape

end OpenApiClient
