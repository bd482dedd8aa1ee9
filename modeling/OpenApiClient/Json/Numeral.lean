import OpenApiClient.Json.Input

/-! Numbers in a text.
A numeral is read digit by digit, then evaluated. An integer that fits 64 bits is kept exactly.
Every other numeral is evaluated in binary64 and not rounded exactly: the leading digits that fit an
unsigned 64-bit significand are converted, and the result is multiplied or divided once by a power
of ten, with divisions by 1e308 before that where the power would be too small. -/
namespace OpenApiClient.Json

def isDigit : Symbol → Bool
  | .char c => c.isDigit
  | .stray _ => false

def digitValue : Symbol → Nat
  | .char c => c.toNat - 48
  | .stray _ => 0

def takeDigits (s : List Symbol) : List Nat × List Symbol :=
  ((s.takeWhile isDigit).map digitValue, s.dropWhile isDigit)

structure Numeral where
  negative : Bool
  whole : List Nat
  fraction : Option (List Nat)
  exponent : Option (Bool × List Nat)
  deriving DecidableEq, Repr

/-- Appends digits to a significand as long as it fits 64 bits; also tells how many were taken. -/
def fill : Nat → List Nat → Nat × Nat
  | significand, [] => (significand, 0)
  | significand, d :: rest =>
    if significand * 10 + d < UInt64.size then
      let (filled, taken) := fill (significand * 10 + d) rest
      (filled, taken + 1)
    else (significand, 0)

/-- The digits that fit the significand, and the power of ten that the digits before an exponent call for. -/
def Numeral.significand (n : Numeral) : Nat × Int :=
  let (whole, taken) := fill 0 n.whole
  let (filled, places) := fill whole (n.fraction.getD [])
  (filled, (n.whole.length : Int) - taken - places)

def powerOfTen (n : Nat) : Float := Float.ofScientific 1 false n

def scale (f : Float) (exponent : Int) : Option Float :=
  if exponent ≥ 0 then
    if exponent ≤ 308 then
      let scaled := f * powerOfTen exponent.toNat
      if scaled.isInf then none else some scaled
    else if f == 0 then some f else none
  else if exponent ≥ -308 then some (f / powerOfTen (-exponent).toNat)
  else if f == 0 then some f
  else scale (f / powerOfTen 308) (exponent + 308)
termination_by (-exponent).toNat
decreasing_by omega

/-- The least number of leading digits whose value passes the 32-bit exponents, if any does. -/
def overflowAt (value taken : Nat) : List Nat → Option Nat
  | [] => none
  | d :: rest =>
    if value * 10 + d ≥ Nat.pow 2 31 then some (taken + 1)
    else overflowAt (value * 10 + d) (taken + 1) rest

def ofDigits (digits : List Nat) : Nat := digits.foldl (fun n d => n * 10 + d) 0

def signed (negative : Bool) (f : Float) : Number :=
  .double (if negative then (-f).toBits else f.toBits)

/-- The value of a numeral, or nothing when it is too large. An exponent too long for 32 bits makes
a nonzero number too large or zero at once. -/
def Numeral.value? (n : Numeral) : Option Number :=
  let (significand, shift) := n.significand
  let converted := significand.toUInt64.toFloat
  match n.fraction, n.exponent with
  | none, none =>
    if shift = 0 ∧ ¬n.negative then some (.natural significand)
    else if shift = 0 ∧ 0 < significand ∧ significand ≤ Nat.pow 2 63 then some (.negative significand)
    else (scale converted shift).map (signed n.negative)
  | _, none => (scale converted shift).map (signed n.negative)
  | _, some (down, digits) =>
    if (overflowAt 0 0 digits).isSome then
      if significand = 0 ∨ down then some (signed n.negative 0) else none
    else
      let power : Int := if down then -ofDigits digits else ofDigits digits
      (scale converted (shift + power)).map (signed n.negative)

def readExponent (s : List Symbol) : Except Stop ((Bool × List Nat) × List Symbol) :=
  let (down, afterSign) := match s with
    | .char '+' :: rest => (false, rest)
    | .char '-' :: rest => (true, rest)
    | _ => (false, s)
  match afterSign with
  | [] => .error ⟨.endInValue, [], 0⟩
  | symbol :: _ =>
    if isDigit symbol then
      let (digits, rest) := takeDigits afterSign
      .ok ((down, digits), rest)
    else .error ⟨.invalidNumber, afterSign, 1⟩

def readFraction (s : List Symbol) : Except Stop (List Nat × List Symbol) :=
  match takeDigits s with
  | ([], []) => .error ⟨.endInValue, [], 0⟩
  | ([], rest) => .error ⟨.invalidNumber, rest, 1⟩
  | taken => .ok taken

def readWhole (s : List Symbol) : Except Stop (List Nat × List Symbol) :=
  match takeDigits s with
  | ([], []) => .error ⟨.endInValue, [], 0⟩
  | ([], rest) => .error ⟨.invalidNumber, rest, 1⟩
  | (0 :: _ :: _, _) => .error ⟨.invalidNumber, s.drop 1, 1⟩
  | taken => .ok taken

def readNumeral (negative : Bool) (s : List Symbol) : Except Stop (Numeral × List Symbol) := do
  let (whole, rest) ← readWhole s
  let (fraction, rest) ← match rest with
    | .char '.' :: rest => do
      let (digits, rest) ← readFraction rest
      pure (some digits, rest)
    | _ => pure (none, rest)
  let (exponent, rest) ← match rest with
    | .char 'e' :: rest | .char 'E' :: rest => do
      let (power, rest) ← readExponent rest
      pure (some power, rest)
    | _ => pure (none, rest)
  pure (⟨negative, whole, fraction, exponent⟩, rest)

/-- A number after its sign. One out of range is noticed at the end of the numeral, or at the digit
that takes its exponent past 32 bits. -/
def readNumber (negative : Bool) (s : List Symbol) : Except Stop (Number × List Symbol) := do
  let (numeral, rest) ← readNumeral negative s
  match numeral.value? with
  | some value => pure (value, rest)
  | none =>
    let unread := match numeral.exponent with
      | some (_, digits) => digits.length - (overflowAt 0 0 digits).getD digits.length
      | none => 0
    .error ⟨.numberOutOfRange, s.drop (s.length - rest.length - unread), 0⟩

end OpenApiClient.Json
