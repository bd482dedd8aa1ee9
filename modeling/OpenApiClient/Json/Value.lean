import OpenApiClient.Decimal

/-! JSON values and their texts.
The three kinds of numbers are kept apart and the fields of an object are in their order. A list of
fields may name a key twice; `settled` is the value after the usual rule, by which a repeated key
keeps its first place and takes its last value. The compact layout has no blanks at all; the indented
one is indented by two spaces, and only empty lists and objects stay on one line in it. -/
namespace OpenApiClient

/-- A number: an integer of 64 bits, or the bits of a binary64 number. -/
inductive Number
  | natural (n : Nat)
  | negative (n : Nat)
  | double (bits : UInt64)
  deriving DecidableEq, Repr

def Number.text : Number → String
  | natural n => toString n
  | negative n => "-" ++ toString n
  | double bits => Decimal.dataText bits

inductive Json
  | null
  | bool (value : Bool)
  | number (value : Number)
  | string (value : String)
  | array (items : List Json)
  | object (fields : List (String × Json))
  deriving Repr, Inhabited

/-- A list of pairs with the value under a key replaced where the key stands, else added at the end. -/
def putField (key : String) (value : α) : List (String × α) → List (String × α)
  | [] => [(key, value)]
  | (k, v) :: rest => if k = key then (k, value) :: rest else (k, v) :: putField key value rest

/-- Pairs with each key once, where it stood first, with the value it had last. -/
def settleFields (fields : List (String × α)) : List (String × α) :=
  fields.foldl (fun settled (key, value) => putField key value settled) []

namespace Json

mutual
def settled : Json → Json
  | array items => array (settledItems items)
  | object fields => object (settleFields (settledFields fields))
  | value => value
def settledItems : List Json → List Json
  | [] => []
  | item :: rest => item.settled :: settledItems rest
def settledFields : List (String × Json) → List (String × Json)
  | [] => []
  | (key, value) :: rest => (key, value.settled) :: settledFields rest
end

def get? (key : String) : Json → Option Json
  | object fields => fields.lookup key
  | _ => none

def asString? : Json → Option String
  | string s => some s
  | _ => none

def asBool? : Json → Option Bool
  | bool b => some b
  | _ => none

def asObject? : Json → Option (List (String × Json))
  | object fields => some fields
  | _ => none

def hexDigit (n : Nat) : Char :=
  if n < 10 then Char.ofNat (48 + n) else Char.ofNat (87 + n)

def escapeChar (c : Char) : List Char :=
  if c = '"' then ['\\', '"']
  else if c = '\\' then ['\\', '\\']
  else if c = '\n' then ['\\', 'n']
  else if c = '\r' then ['\\', 'r']
  else if c = '\t' then ['\\', 't']
  else if c = '\x08' then ['\\', 'b']
  else if c = '\x0c' then ['\\', 'f']
  else if c.toNat < 0x20 then
    ['\\', 'u', '0', '0', hexDigit (c.toNat / 16), hexDigit (c.toNat % 16)]
  else [c]

def quoted (s : String) : List Char := '"' :: s.toList.flatMap escapeChar ++ ['"']

def scalarText : Json → List Char
  | null => "null".toList
  | bool true => "true".toList
  | bool false => "false".toList
  | number n => n.text.toList
  | string s => quoted s
  | array _ => []
  | object _ => []

mutual
def compactText : Json → List Char
  | array items => '[' :: compactItems items ++ [']']
  | object fields => '\x7b' :: compactFields fields ++ ['\x7d']
  | scalar => scalarText scalar
def compactItems : List Json → List Char
  | [] => []
  | [item] => item.compactText
  | item :: rest => item.compactText ++ ',' :: compactItems rest
def compactFields : List (String × Json) → List Char
  | [] => []
  | [(key, value)] => quoted key ++ ':' :: value.compactText
  | (key, value) :: rest => quoted key ++ ':' :: value.compactText ++ ',' :: compactFields rest
end

def compact (value : Json) : String := .ofList value.compactText

def newLine (depth : Nat) : List Char := '\n' :: List.replicate (2 * depth) ' '

mutual
def indentedText (depth : Nat) : Json → List Char
  | array [] => ['[', ']']
  | array (item :: rest) =>
    '[' :: newLine (depth + 1) ++ item.indentedText (depth + 1) ++ indentedItems (depth + 1) rest
      ++ newLine depth ++ [']']
  | object [] => ['\x7b', '\x7d']
  | object ((key, value) :: rest) =>
    '\x7b' :: newLine (depth + 1) ++ quoted key ++ ':' :: ' ' :: value.indentedText (depth + 1)
      ++ indentedFields (depth + 1) rest ++ newLine depth ++ ['\x7d']
  | scalar => scalarText scalar
def indentedItems (depth : Nat) : List Json → List Char
  | [] => []
  | item :: rest => ',' :: newLine depth ++ item.indentedText depth ++ indentedItems depth rest
def indentedFields (depth : Nat) : List (String × Json) → List Char
  | [] => []
  | (key, value) :: rest =>
    ',' :: newLine depth ++ quoted key ++ ':' :: ' ' :: value.indentedText depth
      ++ indentedFields depth rest
end

def indented (value : Json) : String := .ofList (value.indentedText 0)

end Json

end OpenApiClient
