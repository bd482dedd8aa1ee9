/-! Places, tags and tokens of a settings text.
A cursor is the text still to come with its place: the bytes before it, its line and its column, all
from zero. A tag is a run of bytes, since percent signs may spell out bytes that are no text: a core
tag demands one of the meanings that scalars have by themselves, a local one, which starts with an
exclamation mark, names a variant. In the tokens indentation has become explicit. -/
namespace OpenApiClient.Yaml

structure TextPlace where
  line : Nat := 0
  column : Nat := 0
  deriving DecidableEq, Repr, Inhabited

structure Cursor where
  rest : List Char
  index : Nat := 0
  line : Nat := 0
  column : Nat := 0
  deriving DecidableEq, Repr

def isBreak (c : Char) : Bool :=
  c = '\n' || c = '\r' || c = '\u0085' || c = '\u2028' || c = '\u2029'

def isBlank (c : Char) : Bool := c = ' ' || c = '\t'

def endsWord : Option Char → Bool
  | none => true
  | some c => isBlank c || isBreak c

def isNameChar (c : Char) : Bool := c.isAlphanum || c = '_' || c = '-'

def isAllowed (c : Char) : Bool :=
  let n := c.toNat
  n = 0x09 || n = 0x0A || n = 0x0D || (0x20 ≤ n && n ≤ 0x7E) || n = 0x85
    || (0xA0 ≤ n && n ≤ 0xD7FF) || (0xE000 ≤ n && n ≤ 0xFFFD) || 0x10000 ≤ n

namespace Cursor

def place (c : Cursor) : TextPlace := ⟨c.line, c.column⟩

def peek (c : Cursor) (n : Nat) : Option Char := c.rest[n]?

def atEnd (c : Cursor) : Bool := c.rest.isEmpty

def skip (c : Cursor) : Cursor :=
  match c.rest with
  | [] => c
  | x :: rest => { c with rest, index := c.index + x.utf8Size, column := c.column + 1 }

def skipN (c : Cursor) : Nat → Cursor
  | 0 => c
  | n + 1 => c.skip.skipN n

def skipWhile (c : Cursor) (p : Char → Bool) : Cursor :=
  c.skipN (c.rest.takeWhile p).length

/-- The text of a line break as it counts in a scalar, and the place after it. -/
def takeBreak (c : Cursor) : List Char × Cursor :=
  let next (n : Nat) (rest : List Char) : Cursor :=
    { rest, index := c.index + n, line := c.line + 1, column := 0 }
  match c.rest with
  | '\r' :: '\n' :: rest => (['\n'], next 2 rest)
  | b :: rest =>
    if b = '\u2028' ∨ b = '\u2029' then ([b], next b.utf8Size rest)
    else if isBreak b then (['\n'], next b.utf8Size rest)
    else ([], c)
  | [] => ([], c)

def skipBreak (c : Cursor) : Cursor := c.takeBreak.2

/-- The end of a text as a place of its own: the start of a line. -/
def pastEnd (c : Cursor) : Cursor :=
  if c.column = 0 then c else { c with line := c.line + 1, column := 0 }

def startsWith (c : Cursor) (x : Char) : Bool := c.peek 0 = some x

def atBlank (c : Cursor) : Bool := (c.peek 0).any isBlank
def atBreak (c : Cursor) : Bool := (c.peek 0).any isBreak
def atBreakOrEnd (c : Cursor) : Bool := c.atEnd || c.atBreak

/-- Whether a line starts here that ends a document or starts one. -/
def atDocumentMark (c : Cursor) : Bool :=
  c.column = 0 && (c.rest.take 3 = ['-', '-', '-'] || c.rest.take 3 = ['.', '.', '.'])
    && endsWord (c.peek 3)

def skipToLineEnd (c : Cursor) : Cursor :=
  let c := c.skipWhile isBlank
  if c.startsWith '#' then c.skipWhile (!isBreak ·) else c

end Cursor

structure Tag where
  bytes : List UInt8
  deriving DecidableEq, Repr

namespace Tag

def ofText (s : String) : Tag := ⟨s.toUTF8.toList⟩

/-- The tag that bytes spell; a zero byte ends it. -/
def ofBytes (bytes : List UInt8) : Tag := ⟨bytes.takeWhile (· ≠ 0)⟩

def append (start rest : Tag) : Tag := ⟨start.bytes ++ rest.bytes⟩

def bang : Tag := ofText "!"

def core (name : String) : Tag := ofText ("tag:yaml.org,2002:" ++ name)

def isLocal (tag : Tag) : Bool := tag.bytes.head? = some 0x21

/-- The name that a local tag gives: what follows its exclamation mark, or the mark itself where
nothing does. Bytes that are no text give no name. -/
def name? (tag : Tag) : Option String :=
  match tag.bytes with
  | [0x21] => some "!"
  | 0x21 :: name => String.fromUTF8? ⟨name.toArray⟩
  | _ => none

end Tag

/-- A name of a variant without an exclamation mark before it; two names are told apart by this. -/
def bareName (name : String) : String :=
  match name.toList with
  | '!' :: c :: rest => .ofList (c :: rest)
  | _ => name

/-- How a scalar is written; only a plain one can mean anything but its text. -/
inductive ScalarStyle
  | plain
  | singleQuoted
  | doubleQuoted
  | literal
  | folded
  deriving DecidableEq, Repr

inductive Token
  | versionDirective (major minor : Nat)
  | tagDirective (handle : String) (start : Tag)
  | documentStart
  | documentEnd
  | blockSequenceStart
  | blockMappingStart
  | blockEnd
  | flowSequenceStart
  | flowSequenceEnd
  | flowMappingStart
  | flowMappingEnd
  | blockEntry
  | flowEntry
  | key
  | value
  | alias (name : String)
  | anchor (name : String)
  | tag (handle : String) (suffix : Tag)
  | scalar (text : String) (style : ScalarStyle)
  deriving DecidableEq, Repr

structure PlacedToken where
  token : Token
  place : TextPlace
  deriving DecidableEq, Repr

end OpenApiClient.Yaml
