import OpenApiClient.Json.Numeral

/-! Reading JSON values.
A reader takes a value off the front of an input. Lists and objects go through one loop each, to
which the treatment of an item or a field is a parameter: the same loops build raw values here and
records of the document model elsewhere. Containers may nest 127 deep. Every loop takes up input in
each round, so a bound on the whole text, fixed once, ends them all. -/
namespace OpenApiClient.Json

/-- Why a reader stops: at a place of the text, or at a value of the wrong shape. -/
inductive Halt
  | stop (stop : Stop)
  | mismatch (cause : Mismatch)
  deriving DecidableEq, Repr

abbrev Reader (α : Type) := List Symbol → Except Halt (α × List Symbol)

def halt (fault : Fault) (rest : List Symbol) (ahead : Nat) : Except Halt α :=
  .error (.stop ⟨fault, rest, ahead⟩)

def liftStop : Except Stop α → Except Halt α
  | .ok a => .ok a
  | .error stop => .error (.stop stop)

def maxDepth : Nat := 127

def isBlankSymbol : Symbol → Bool
  | .char c => c = ' ' ∨ c = '\n' ∨ c = '\t' ∨ c = '\r'
  | .stray _ => false

def skipBlanks (s : List Symbol) : List Symbol := s.dropWhile isBlankSymbol

def readWord : List Char → List Symbol → Except Halt (List Symbol)
  | [], s => .ok s
  | _ :: _, [] => halt .endInValue [] 0
  | c :: word, symbol :: rest =>
    if symbol = .char c then readWord word rest else halt .expectedLiteral (symbol :: rest) 1

def hexValue? (c : Char) : Option Nat :=
  let n := c.toNat
  if 48 ≤ n ∧ n ≤ 57 then some (n - 48)
  else if 97 ≤ n ∧ n ≤ 102 then some (n - 87)
  else if 65 ≤ n ∧ n ≤ 70 then some (n - 55)
  else none

def symbolHex? : Symbol → Option Nat
  | .char c => hexValue? c
  | .stray _ => none

def readHex (s : List Symbol) : Except Halt Nat :=
  match s with
  | a :: b :: c :: d :: _ =>
    match symbolHex? a, symbolHex? b, symbolHex? c, symbolHex? d with
    | some a, some b, some c, some d => .ok (a * 4096 + b * 256 + c * 16 + d)
    | _, _, _, _ => halt .invalidEscape s 4
  | _ => if Symbol.widthOf s < 4 then halt .endInString [] 0 else halt .invalidEscape s 4

/-- A high surrogate has to be followed by the escape of a low one. -/
def readLowSurrogate (high : Nat) : List Symbol → Except Halt (Char × Nat)
  | [] => halt .endInString [] 0
  | .char '\\' :: [] => halt .endInString [] 0
  | .char '\\' :: .char 'u' :: rest => do
    let low ← readHex rest
    if 0xDC00 ≤ low ∧ low ≤ 0xDFFF then
      pure (Char.ofNat (0x10000 + (high - 0xD800) * 1024 + (low - 0xDC00)), 11)
    else halt .loneSurrogate (rest.drop 4) 0
  | .char '\\' :: rest => halt .unfinishedSurrogatePair rest 1
  | rest => halt .unfinishedSurrogatePair rest 1

def readEscape (s : List Symbol) : Except Halt (Char × Nat) :=
  match s with
  | [] => halt .endInString [] 0
  | .char 'u' :: rest => do
    let n ← readHex rest
    if 0xDC00 ≤ n ∧ n ≤ 0xDFFF then halt .loneSurrogate (rest.drop 4) 0
    else if 0xD800 ≤ n ∧ n ≤ 0xDBFF then readLowSurrogate n (rest.drop 4)
    else pure (Char.ofNat n, 5)
  | .char '"' :: _ => .ok ('"', 1)
  | .char '\\' :: _ => .ok ('\\', 1)
  | .char '/' :: _ => .ok ('/', 1)
  | .char 'b' :: _ => .ok ('\x08', 1)
  | .char 'f' :: _ => .ok ('\x0c', 1)
  | .char 'n' :: _ => .ok ('\n', 1)
  | .char 'r' :: _ => .ok ('\r', 1)
  | .char 't' :: _ => .ok ('\t', 1)
  | _ => halt .invalidEscape s 1

/-- The characters of a string up to its closing quote; `sound` tells that no stray came before. -/
def readChars (sound : Bool) (s : List Symbol) : Except Halt (List Char × List Symbol) :=
  match s with
  | [] => halt .endInString [] 0
  | .stray _ :: rest => readChars false rest
  | .char c :: rest =>
    if c = '"' then
      if sound then .ok ([], rest) else halt .invalidCharacter rest 0
    else if c = '\\' then do
      let (escaped, taken) ← readEscape rest
      let (chars, rest) ← readChars sound (rest.drop taken)
      pure (escaped :: chars, rest)
    else if c.toNat < 0x20 then halt .controlCharacter s 1
    else do
      let (chars, rest) ← readChars sound rest
      pure (c :: chars, rest)
termination_by s.length
decreasing_by all_goals simp; try omega

def readString : Reader String := fun s => do
  let (chars, rest) ← readChars true s
  pure (.ofList chars, rest)

def nextItem (first : Bool) (s : List Symbol) : Except Halt (Option (List Symbol)) :=
  match skipBlanks s with
  | [] => halt .endInList [] 0
  | .char ']' :: _ => .ok none
  | .char ',' :: rest =>
    if first then .ok (some (.char ',' :: rest))
    else
      match skipBlanks rest with
      | [] => halt .endInValue [] 0
      | .char ']' :: rest => halt .trailingComma (.char ']' :: rest) 1
      | rest => .ok (some rest)
  | rest => if first then .ok (some rest) else halt .expectedListCommaOrEnd rest 1

def nextKey (first : Bool) (s : List Symbol) : Except Halt (Option (List Symbol)) :=
  match skipBlanks s with
  | [] => halt .endInObject [] 0
  | .char '\x7d' :: _ => .ok none
  | .char ',' :: rest =>
    if first then halt .keyMustBeString (.char ',' :: rest) 1
    else
      match skipBlanks rest with
      | [] => halt .endInValue [] 0
      | .char '"' :: rest => .ok (some rest)
      | .char '\x7d' :: rest => halt .trailingComma (.char '\x7d' :: rest) 1
      | rest => halt .keyMustBeString rest 1
  | .char '"' :: rest =>
    if first then .ok (some rest) else halt .expectedObjectCommaOrEnd (.char '"' :: rest) 1
  | rest =>
    if first then halt .keyMustBeString rest 1 else halt .expectedObjectCommaOrEnd rest 1

def readColon (s : List Symbol) : Except Halt (List Symbol) :=
  match skipBlanks s with
  | [] => halt .endInObject [] 0
  | .char ':' :: rest => .ok rest
  | rest => halt .expectedColon rest 1

def closeList (s : List Symbol) : Except Halt (List Symbol) :=
  match skipBlanks s with
  | [] => halt .endInList [] 0
  | .char ']' :: rest => .ok rest
  | .char ',' :: rest =>
    match skipBlanks rest with
    | .char ']' :: rest => halt .trailingComma (.char ']' :: rest) 1
    | rest => halt .trailingCharacters rest 1
  | rest => halt .trailingCharacters rest 1

def readItems (item : Reader α) : Nat → Bool → Reader (List α)
  | 0, _, s => halt .endInList s 0
  | fuel + 1, first, s => do
    match ← nextItem first s with
    | none => pure ([], (skipBlanks s).drop 1)
    | some s =>
      let (a, rest) ← item s
      let (more, rest) ← readItems item fuel false rest
      pure (a :: more, rest)

/-- The fields of an object up to and over its closing brace, taken in one after the other. A key is
judged before its colon is looked for. -/
def foldFields (field : σ → String → Except Halt (Reader σ)) : Nat → Bool → σ → Reader σ
  | 0, _, _, s => halt .endInObject s 0
  | fuel + 1, first, state, s => do
    match ← nextKey first s with
    | none => pure (state, (skipBlanks s).drop 1)
    | some s =>
      let (key, rest) ← readString s
      let value ← field state key
      let rest ← readColon rest
      let (state, rest) ← value rest
      foldFields field fuel false state rest

def listBody (bound : Nat) (item : Reader α) : Reader (List α) := readItems item bound true

def objectBody (bound : Nat) (field : σ → String → Except Halt (Reader σ)) (initial : σ) :
    Reader σ :=
  foldFields field bound true initial

def pairsBody (bound : Nat) (value : Reader α) : Reader (List (String × α)) := fun s => do
  let field (pairs : List (String × α)) (key : String) : Except Halt (Reader _) :=
    .ok fun s => do
      let (a, rest) ← value s
      pure ((key, a) :: pairs, rest)
  let (pairs, rest) ← objectBody bound field [] s
  pure (pairs.reverse, rest)

/-- The scalars; a container is left to the two readers given for the input after its bracket. -/
def readWith (list object : Reader Json) : Reader Json := fun s =>
  match skipBlanks s with
  | [] => halt .endInValue [] 0
  | .char 'n' :: rest => do pure (.null, ← readWord ['u', 'l', 'l'] rest)
  | .char 't' :: rest => do pure (.bool true, ← readWord ['r', 'u', 'e'] rest)
  | .char 'f' :: rest => do pure (.bool false, ← readWord ['a', 'l', 's', 'e'] rest)
  | .char '"' :: rest => do
    let (value, rest) ← readString rest
    pure (.string value, rest)
  | .char '[' :: rest => list rest
  | .char '\x7b' :: rest => object rest
  | .char '-' :: rest => do
    let (n, rest) ← liftStop (readNumber true rest)
    pure (.number n, rest)
  | symbol :: rest =>
    if isDigit symbol then do
      let (n, rest) ← liftStop (readNumber false (symbol :: rest))
      pure (.number n, rest)
    else halt .expectedValue (symbol :: rest) 1

/-- A container where no more may be opened: noticed at its bracket, which `rest` follows. -/
def tooDeep (bracket : Char) : Reader α := fun rest =>
  halt .nestedTooDeep (.char bracket :: rest) 1

def readContent (bound : Nat) : Nat → Reader Json
  | 0 => readWith (tooDeep '[') (tooDeep '\x7b')
  | depth + 1 => readWith
    (fun s => do
      let (items, rest) ← listBody bound (readContent bound depth) s
      pure (.array items, rest))
    (fun s => do
      let (fields, rest) ← pairsBody bound (readContent bound depth) s
      pure (.object fields, rest))

def readValue (bound depth : Nat) : Reader Json := fun s => do
  let (value, rest) ← readContent bound depth s
  pure (value.settled, rest)

def readEnd (s : List Symbol) : Except Halt Unit :=
  match skipBlanks s with
  | [] => .ok ()
  | rest => halt .trailingCharacters rest 1

/-- A bound on the rounds that reading a text takes. -/
def boundOf (text : List Symbol) : Nat := text.length + 1

def runReader (reader : Nat → Nat → Reader α) (text : List Symbol) : Except ReadError α :=
  let outcome := do
    let (a, rest) ← reader (boundOf text) maxDepth text
    readEnd rest
    pure a
  match outcome with
  | .ok a => .ok a
  | .error (.stop stop) => .error (.malformed stop.fault (stop.position text))
  | .error (.mismatch cause) => .error (.mismatch cause)

def parse (text : List Symbol) : Except ReadError Json := runReader readValue text

end OpenApiClient.Json
