import OpenApiClient.Yaml.Node

/-! What scalars mean, and the whole document as one value.
A plain scalar is null, a truth value, a whole number or a binary64 number if it is spelled like one,
in this order, and a text otherwise; a core tag demands one of these. In the value every alias is
replaced by what it stands for. There is none if a mapping repeats a key, containers nest deeper than
128, or aliases multiply the text too much. -/
namespace OpenApiClient.Yaml

inductive Meaning
  | null
  | bool (value : Bool)
  | integer (value : Int)
  | double (bits : UInt64)
  | text (value : String)
  deriving DecidableEq, Repr

def isNullWord (s : String) : Bool := s ∈ ["null", "Null", "NULL", "~"]

def bool? (s : String) : Option Bool :=
  if s ∈ ["true", "True", "TRUE"] then some true
  else if s ∈ ["false", "False", "FALSE"] then some false
  else none

def digits? (base : Nat) : List Char → Option Nat
  | [] => none
  | digits => digits.foldl (fun n c => do
      let digit ← hexValue? c
      if digit < base then pure ((← n) * base + digit) else none) (some 0)

/-- Whether there is nothing but digits after a sign, and needless zeros first; this is no number. -/
def hasNeedlessZero (s : List Char) : Bool :=
  let digits := match s with
    | '-' :: rest => rest
    | '+' :: rest => rest
    | _ => s
  digits.length > 1 && digits.head? = some '0' && digits.all Char.isDigit

def magnitude? : List Char → Option Nat
  | '0' :: 'x' :: digits => digits? 16 digits
  | '0' :: 'o' :: digits => digits? 8 digits
  | '0' :: 'b' :: digits => digits? 2 digits
  | digits => if hasNeedlessZero digits then none else digits? 10 digits

def natural? : List Char → Option Nat
  | '+' :: digits => magnitude? digits
  | digits => magnitude? digits

def negated? : List Char → Option Nat
  | '-' :: digits => magnitude? digits
  | _ => none

def natural64? (s : String) : Option Nat := (natural? s.toList).filter (· < UInt64.size)

inductive Whole
  | fits (value : Int)
  /-- More than 64 bits but not more than 128; such a number is refused. -/
  | wide (value : Int)
  deriving DecidableEq, Repr

def whole? (s : List Char) : Option Whole :=
  match natural? s, negated? s with
  | some n, _ =>
    if n < UInt64.size then some (.fits n)
    else if n < Nat.pow 2 128 then some (.wide n)
    else none
  | none, some n =>
    if n ≤ Nat.pow 2 63 then some (.fits (-n))
    else if n ≤ Nat.pow 2 127 then some (.wide (-n))
    else none
  | none, none => none

inductive Meaningless
  | tooWide (value : Int)
  | misfit (text demanded : String)
  deriving DecidableEq, Repr

def Whole.meaning : Whole → Except Meaningless Meaning
  | fits n => pure (.integer n)
  | wide n => throw (.tooWide n)

def exponent? : List Char → Option Int
  | [] => some 0
  | mark :: rest =>
    if mark = 'e' ∨ mark = 'E' then
      match rest with
      | '-' :: digits => (digits? 10 digits).map fun n => -n
      | '+' :: digits => (digits? 10 digits).map Int.ofNat
      | digits => (digits? 10 digits).map Int.ofNat
    else none

/-- `digits * 10 ^ exponent`, with the powers that can make no difference left out. -/
def decimal (digits : List Char) (exponent : Int) : Float :=
  let digits := digits.dropWhile (· = '0')
  let n := digits.foldl (fun n d => n * 10 + (d.toNat - 48)) 0
  let point : Int := digits.length + exponent
  if n = 0 ∨ point < -400 then 0
  else if point > 400 then 1.0 / 0.0
  else Float.ofScientific n (exponent < 0) exponent.natAbs

def unsignedDecimal? (s : List Char) : Option Float := do
  let whole := s.takeWhile Char.isDigit
  let rest := s.dropWhile Char.isDigit
  let (fraction, rest) := match rest with
    | '.' :: rest => (rest.takeWhile Char.isDigit, rest.dropWhile Char.isDigit)
    | _ => ([], rest)
  if whole.isEmpty && fraction.isEmpty then none
  else pure (decimal (whole ++ fraction) ((← exponent? rest) - fraction.length))

def decimal? (s : List Char) : Option Float :=
  let value := match s with
    | '-' :: rest => (unsignedDecimal? rest).map fun x => -x
    | '+' :: rest => unsignedDecimal? rest
    | _ => unsignedDecimal? s
  value.filter (·.isFinite)

def double? (s : String) : Option Float :=
  if s ∈ [".inf", ".Inf", ".INF", "+.inf", "+.Inf", "+.INF"] then some (1.0 / 0.0)
  else if s ∈ ["-.inf", "-.Inf", "-.INF"] then some (-1.0 / 0.0)
  else if s ∈ [".nan", ".NaN", ".NAN"] then some (0.0 / 0.0)
  else decimal? s.toList

def plainMeaning (s : String) : Except Meaningless Meaning :=
  if s.isEmpty || isNullWord s then pure .null
  else match bool? s with
    | some b => pure (.bool b)
    | none =>
      match whole? s.toList with
      | some n => n.meaning
      | none =>
        if hasNeedlessZero s.toList then pure (.text s)
        else match double? s with
          | some x => pure (.double x.toBits)
          | none => pure (.text s)

def meaning (text : String) (style : ScalarStyle) (tag : Option Tag) : Except Meaningless Meaning :=
  let untagged := if style = .plain then plainMeaning text else pure (.text text)
  match tag with
  | none => untagged
  | some tag =>
    if tag = .core "bool" then ((bool? text).map .bool).getDM (throw (.misfit text "a boolean"))
    else if tag = .core "int" then
      match whole? text.toList with
      | some n => n.meaning
      | none => throw (.misfit text "an integer")
    else if tag = .core "float" then
      ((double? text).map fun x => .double x.toBits).getDM (throw (.misfit text "a float"))
    else if tag = .core "null" then
      if isNullWord text then pure .null else throw (.misfit text "null")
    else if tag.isLocal then untagged
    else pure (.text text)

inductive Value
  | scalar (meaning : Meaning)
  | sequence (items : List Value)
  | mapping (pairs : List (Value × Value))
  | tagged (name : String) (value : Value)
  deriving Repr, Inhabited

/-- Whether two scalars mean the same; zero has no sign, and what is no number equals itself. -/
def Meaning.same : Meaning → Meaning → Bool
  | double a, double b =>
    let x := Float.ofBits a
    let y := Float.ofBits b
    x == y || x.isNaN && y.isNaN
  | a, b => a = b

mutual
/-- Whether two values are equal; the order of pairs does not count. -/
def Value.same : Value → Value → Bool
  | scalar a, scalar b => a.same b
  | sequence xs, sequence ys => sameItems xs ys
  | mapping xs, mapping ys => xs.length = ys.length && eachIn xs ys
  | tagged s x, tagged t y => bareName s = bareName t && x.same y
  | _, _ => false
def Value.sameItems : List Value → List Value → Bool
  | [], [] => true
  | x :: xs, y :: ys => x.same y && sameItems xs ys
  | _, _ => false
def Value.eachIn : List (Value × Value) → List (Value × Value) → Bool
  | [], _ => true
  | (key, value) :: rest, pairs =>
    pairs.any (fun (k, v) => key.same k && value.same v) && eachIn rest pairs
end

mutual
def Node.marks : Node → Nat
  | scalar .. => 1
  | «alias» .. => 1
  | sequence _ items _ => 2 + itemMarks items
  | mapping _ pairs _ => 2 + pairMarks pairs
def Node.itemMarks : List Node → Nat
  | [] => 0
  | item :: rest => item.marks + itemMarks rest
def Node.pairMarks : List (Node × Node) → Nat
  | [] => 0
  | (key, value) :: rest => key.marks + value.marks + pairMarks rest
end

namespace Tree

/-- The node itself, or the one that it is an alias of, which uses up one of the jumps left. -/
def follow (tree : Tree) (node : Node) : StateT Nat Option Node :=
  match node with
  | .alias _ number => do
    match ← get with
    | 0 => failure
    | jumps + 1 => do
      set jumps
      match tree.anchored? number with
      | some target => pure target
      | none => failure
  | node => pure node

def valueOf (tree : Tree) (depth : Nat) (node : Node) : StateT Nat Option Value := do
  let node ← tree.follow node
  let value ← match node, depth with
    | .scalar _ text style tag, _ =>
      match meaning text style tag with
      | .ok meaning => pure (.scalar meaning)
      | .error _ => failure
    | .sequence _ items _, depth + 1 => .sequence <$> items.mapM (tree.valueOf depth)
    | .mapping _ pairs _, depth + 1 =>
      .mapping <$> pairs.foldlM (fun done (key, value) => do
        let key ← tree.valueOf depth key
        if done.any fun (k, _) => key.same k then failure
        else pure (done ++ [(key, ← tree.valueOf depth value)])) []
    | _, _ => failure
  pure <| match node.tag?.bind Tag.name? with
    | some name => .tagged name value
    | none => value

/-- The text as a value, which takes that it holds one document. Aliases may be followed a hundred
times for each mark in it. -/
def value? (tree : Tree) : Option Value :=
  if !tree.alone then none
  else match tree.root with
    | none => some (.scalar .null)
    | some root => ((tree.valueOf 128 root).run (100 * root.marks)).map (·.1)

end Tree

end OpenApiClient.Yaml
