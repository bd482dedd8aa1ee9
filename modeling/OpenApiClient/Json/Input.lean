import OpenApiClient.Json.Value
import OpenApiClient.Text.Quoted

/-! The input of a reader, and why a document cannot be read from it.
Text arrives as bytes. Most of them form characters in UTF-8; a byte that belongs to none is kept as a
stray, so that a reader can say where it met one. Either the text is not JSON, which is noticed at a
place, or a value has the wrong shape for the model. A `Stop` names its place by the input that was
left and by how many bytes of that had been looked at. -/
namespace OpenApiClient

/-- One step of an input: a character, or a byte that belongs to none. -/
inductive Symbol
  | char (c : Char)
  | stray (byte : UInt8)
  deriving DecidableEq, Repr

namespace Symbol

def width : Symbol → Nat
  | char c => c.utf8Size
  | stray _ => 1

def widthOf : List Symbol → Nat
  | [] => 0
  | symbol :: rest => symbol.width + widthOf rest

def ofString (s : String) : List Symbol := s.toList.map char

private def follows (low high : Nat) (byte : UInt8) : Option Nat :=
  if low ≤ byte.toNat ∧ byte.toNat ≤ high then some (byte.toNat % 64) else none

/-- The character that a lead byte starts, and how many further bytes it takes. The range of the
second byte depends on the first, which keeps out overlong forms, surrogates and numbers past
U+10FFFF. -/
def leading? (lead : Nat) (rest : List UInt8) : Option (Char × Nat) :=
  let second (low high : Nat) := rest[0]?.bind (follows low high)
  let third := rest[1]?.bind (follows 0x80 0xBF)
  let fourth := rest[2]?.bind (follows 0x80 0xBF)
  let two := do pure (Char.ofNat (lead % 32 * 64 + (← second 0x80 0xBF)), 1)
  let three (low high : Nat) := do
    pure (Char.ofNat (lead % 16 * 4096 + (← second low high) * 64 + (← third)), 2)
  let four (low high : Nat) := do
    pure (Char.ofNat
      (lead % 8 * 262144 + (← second low high) * 4096 + (← third) * 64 + (← fourth)), 3)
  if lead < 0x80 then some (Char.ofNat lead, 0)
  else if lead < 0xC2 then none
  else if lead < 0xE0 then two
  else if lead = 0xE0 then three 0xA0 0xBF
  else if lead = 0xED then three 0x80 0x9F
  else if lead < 0xF0 then three 0x80 0xBF
  else if lead = 0xF0 then four 0x90 0xBF
  else if lead < 0xF4 then four 0x80 0xBF
  else if lead = 0xF4 then four 0x80 0x8F
  else none

def ofByteList : List UInt8 → List Symbol
  | [] => []
  | byte :: rest =>
    match leading? byte.toNat rest with
    | some (c, n) => char c :: ofByteList (rest.drop n)
    | none => stray byte :: ofByteList rest
termination_by bytes => bytes.length
decreasing_by all_goals simp; try omega

/-- The symbols of a file: its characters when it is UTF-8 throughout. -/
def ofBytes (bytes : ByteArray) : List Symbol :=
  match String.fromUTF8? bytes with
  | some s => ofString s
  | none => ofByteList bytes.data.toList

theorem ofBytes_toUTF8 (s : String) : ofBytes s.toUTF8 = ofString s := by
  have h : String.fromUTF8? s.toUTF8 = some s := by
    unfold String.fromUTF8?
    split
    · rfl
    · rename_i h; exact absurd s.isValidUTF8 h
  unfold ofBytes
  rw [h]

@[simp] theorem widthOf_nil : widthOf [] = 0 := rfl

@[simp] theorem widthOf_cons (x : Symbol) (rest : List Symbol) :
    widthOf (x :: rest) = x.width + widthOf rest := rfl

end Symbol

inductive Fault
  | endInValue
  | endInList
  | endInObject
  | endInString
  | expectedColon
  | expectedListCommaOrEnd
  | expectedObjectCommaOrEnd
  | expectedLiteral
  | expectedValue
  | invalidEscape
  | invalidNumber
  | numberOutOfRange
  | invalidCharacter
  | controlCharacter
  | keyMustBeString
  | loneSurrogate
  | unfinishedSurrogatePair
  | trailingComma
  | trailingCharacters
  | nestedTooDeep
  deriving DecidableEq, Repr

def Fault.message : Fault → String
  | endInValue => "EOF while parsing a value"
  | endInList => "EOF while parsing a list"
  | endInObject => "EOF while parsing an object"
  | endInString => "EOF while parsing a string"
  | expectedColon => "expected `:`"
  | expectedListCommaOrEnd => "expected `,` or `]`"
  | expectedObjectCommaOrEnd => "expected `,` or `\x7d`"
  | expectedLiteral => "expected ident"
  | expectedValue => "expected value"
  | invalidEscape => "invalid escape"
  | invalidNumber => "invalid number"
  | numberOutOfRange => "number out of range"
  | invalidCharacter => "invalid unicode code point"
  | controlCharacter => "control character (\\u0000-\\u001F) found while parsing a string"
  | keyMustBeString => "key must be a string"
  | loneSurrogate => "lone leading surrogate in hex escape"
  | unfinishedSurrogatePair => "unexpected end of hex escape"
  | trailingComma => "trailing comma"
  | trailingCharacters => "trailing characters"
  | nestedTooDeep => "recursion limit exceeded"

def Fault.isEnd : Fault → Bool
  | endInValue | endInList | endInObject | endInString => true
  | _ => false

/-- A fault with the input left when it was noticed and the bytes of that already looked at. -/
structure Stop where
  fault : Fault
  rest : List Symbol
  ahead : Nat
  deriving DecidableEq, Repr

/-- A place in a text: lines count from one, columns count the bytes of the line before it. -/
structure Position where
  line : Nat
  column : Nat
  deriving DecidableEq, Repr

def Position.advance (p : Position) : Nat → List Symbol → Position
  | 0, _ => p
  | _, [] => p
  | bytes, symbol :: rest =>
    if bytes < symbol.width then { p with column := p.column + bytes }
    else if symbol = .char '\n' then
      advance { line := p.line + 1, column := 0 } (bytes - symbol.width) rest
    else advance { p with column := p.column + symbol.width } (bytes - symbol.width) rest

def Stop.position (whole : List Symbol) (stop : Stop) : Position :=
  let bytes := Symbol.widthOf whole - Symbol.widthOf stop.rest + stop.ahead
  Position.advance ⟨1, 0⟩ bytes whole

inductive Found
  | null
  | bool (value : Bool)
  | number (value : Number)
  | string (value : String)
  | sequence
  | map
  deriving DecidableEq, Repr

def Found.text : Found → String
  | null => "null"
  | bool true => "boolean `true`"
  | bool false => "boolean `false`"
  | number (.double bits) => "floating point `" ++ Decimal.dataText bits ++ "`"
  | number n => "integer `" ++ n.text ++ "`"
  | string s => "string " ++ Text.quoted s
  | sequence => "sequence"
  | map => "map"

inductive Mismatch
  | wrongType (found : Found) (expected : String)
  | surplusItems (count : Nat)
  | repeatedField (name : String)
  | noVariant (union : String)
  deriving DecidableEq, Repr

def Mismatch.message : Mismatch → String
  | wrongType found expected => "invalid type: " ++ found.text ++ ", expected " ++ expected
  | surplusItems count =>
    "invalid length " ++ toString count ++ ", expected fewer elements in array"
  | repeatedField name => "duplicate field `" ++ name ++ "`"
  | noVariant union => "data did not match any variant of untagged enum " ++ union

inductive ReadError
  | malformed (fault : Fault) (position : Position)
  | mismatch (cause : Mismatch)
  deriving DecidableEq, Repr

/-- The text of an error; a fault of the text comes with its place. -/
def ReadError.message : ReadError → String
  | malformed fault p =>
    fault.message ++ " at line " ++ toString p.line ++ " column " ++ toString p.column
  | mismatch cause => cause.message

end OpenApiClient
