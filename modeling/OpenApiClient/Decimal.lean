/-! Shortest decimals of binary64 numbers, and their texts.
A finite number is `mantissa * 2 ^ exponent`; every decimal in an interval around it reads back as the
same number. The shortest is the nearest one among those with the fewest digits, found by exact
arithmetic on natural numbers. A data format writes a number positionally while its point stays within
sixteen places, and with an exponent past that; messages write every digit out. -/
namespace OpenApiClient.Decimal

/-- The positive decimal `digits * 10 ^ exponent`. -/
structure Scientific where
  digits : Nat
  exponent : Int
  deriving DecidableEq, Repr

/-- A positive finite binary64 number, `mantissa * 2 ^ exponent`. -/
structure Binary where
  mantissa : Nat
  exponent : Int
  deriving DecidableEq, Repr

/-- The magnitude that the low 63 bits of a binary64 number stand for, unless infinite or no number. -/
def Binary.ofBits (bits : Nat) : Option Binary :=
  let fraction : Nat := bits % Nat.pow 2 52
  let field : Nat := bits / Nat.pow 2 52 % Nat.pow 2 11
  if field = 2047 then none
  else if field = 0 then some ⟨fraction, -1074⟩
  else some ⟨Nat.pow 2 52 + fraction, (field : Int) - 1075⟩

abbrev Ratio := Nat × Nat

def Ratio.le (a b : Ratio) : Bool := a.1 * b.2 ≤ b.1 * a.2
def Ratio.lt (a b : Ratio) : Bool := a.1 * b.2 < b.1 * a.2

def scaled (n base : Nat) (exponent : Int) : Ratio :=
  if exponent < 0 then (n, Nat.pow base (-exponent).toNat) else (n * Nat.pow base exponent.toNat, 1)

/-- The ends of the interval that reads back as a number, in quarters of its last binary place.
Below a power of two the neighbour is only half as far away. The ends belong to it when the mantissa
is even. -/
def Binary.lowEnd (x : Binary) : Ratio :=
  let gap := if x.mantissa = Nat.pow 2 52 ∧ x.exponent > -1074 then 1 else 2
  scaled (4 * x.mantissa - gap) 2 (x.exponent - 2)

def Binary.highEnd (x : Binary) : Ratio := scaled (4 * x.mantissa + 2) 2 (x.exponent - 2)

def Binary.readsBack (x : Binary) (d : Scientific) : Bool :=
  let value := scaled d.digits 10 d.exponent
  if x.mantissa % 2 = 0 then x.lowEnd.le value && value.le x.highEnd
  else x.lowEnd.lt value && value.lt x.highEnd

def digitCount (n : Nat) : Nat := (Nat.toDigits 10 n).length

def leadingExponent (r : Ratio) : Int :=
  let estimate : Int := (digitCount r.1 : Int) - (digitCount r.2 : Int)
  if (scaled 1 10 estimate).le r then estimate else estimate - 1

def neighbours (r : Ratio) (places : Nat) : Scientific × Scientific :=
  let unit := leadingExponent r - ((places : Int) - 1)
  let grid := scaled 1 10 unit
  let below := r.1 * grid.2 / (r.2 * grid.1)
  (⟨below, unit⟩, ⟨below + 1, unit⟩)

/-- Of two decimals around a ratio the nearer one; halfway, the one with an even last digit. -/
def nearer (r : Ratio) (below above : Scientific) : Scientific :=
  let low := scaled below.digits 10 below.exponent
  let high := scaled above.digits 10 above.exponent
  let toLow := (r.1 * low.2 - low.1 * r.2) * high.2
  let toHigh := (high.1 * r.2 - r.1 * high.2) * low.2
  if toLow < toHigh then below
  else if toHigh < toLow then above
  else if below.digits % 2 = 0 then below else above

def Binary.shortestWith (x : Binary) (places : Nat) : Option Scientific :=
  let r := scaled x.mantissa 2 x.exponent
  let (below, above) := neighbours r places
  match x.readsBack below, x.readsBack above with
  | true, true => some (nearer r below above)
  | true, false => some below
  | false, true => some above
  | false, false => none

def trimZeros : Nat → Scientific → Scientific
  | 0, d => d
  | fuel + 1, d =>
    if d.digits ≠ 0 ∧ d.digits % 10 = 0 then trimZeros fuel ⟨d.digits / 10, d.exponent + 1⟩ else d

/-- The shortest decimal that reads back; seventeen digits always do. -/
def Binary.shortest (x : Binary) : Scientific :=
  match (List.range 17).findSome? fun i => x.shortestWith (i + 1) with
  | some d => trimZeros 20 d
  | none => ⟨x.mantissa, 0⟩

def isNegative (bits : UInt64) : Bool := bits.toNat ≥ Nat.pow 2 63

def signText (bits : UInt64) : String := if isNegative bits then "-" else ""

def zeros (n : Nat) : String := .ofList (.replicate n '0')

def pointed (digits : String) (point : Nat) : String :=
  .ofList (digits.toList.take point) ++ "." ++ .ofList (digits.toList.drop point)

def positional (d : Scientific) : String :=
  let digits := toString d.digits
  let point : Int := (digits.length : Int) + d.exponent
  if d.exponent ≥ 0 then digits ++ zeros d.exponent.toNat ++ ".0"
  else if point > 0 then pointed digits point.toNat
  else "0." ++ zeros (-point).toNat ++ digits

def exponential (d : Scientific) : String :=
  let digits := toString d.digits
  let power : Int := (digits.length : Int) + d.exponent - 1
  let mantissa := if digits.length = 1 then digits else pointed digits 1
  let sign := if power < 0 then "-" else "+"
  mantissa ++ "e" ++ sign ++ toString power.natAbs

/-- The text of a finite number in a data format: positional from 0.00001 up to below 1e16. -/
def dataText (bits : UInt64) : String :=
  match Binary.ofBits bits.toNat with
  | none => "null"
  | some ⟨0, _⟩ => signText bits ++ "0.0"
  | some x =>
    let d := x.shortest
    let point : Int := (digitCount d.digits : Int) + d.exponent
    signText bits ++ if -5 < point ∧ point ≤ 16 then positional d else exponential d

def messageText (bits : UInt64) : String :=
  match Binary.ofBits bits.toNat with
  | none => if bits.toNat % Nat.pow 2 52 = 0 then signText bits ++ "inf" else "NaN"
  | some ⟨0, _⟩ => signText bits ++ "0.0"
  | some x => signText bits ++ positional x.shortest

end OpenApiClient.Decimal
