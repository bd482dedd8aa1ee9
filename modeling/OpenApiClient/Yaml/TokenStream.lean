import OpenApiClient.Yaml.Scalar

/-! The tokens of a text.
A block starts where a line is indented deeper than the block around it, and ends where a line is
indented less. That something was a key shows only at the colon after it; so the place where a key may
have started is kept, one for each level of brackets, and the key is put in there. A key of this kind
has to end on its line and within 1024 bytes. -/
namespace OpenApiClient.Yaml

def readName (c : Cursor) : String × Cursor :=
  let name := c.rest.takeWhile isNameChar
  (.ofList name, c.skipN name.length)

def readAnchorName (c : Cursor) : Option (String × Cursor) :=
  let (name, c) := readName c
  if !name.isEmpty
      && (endsWord (c.peek 0) || (c.peek 0).any (· ∈ "?:,]\x7d%@`".toList)) then some (name, c)
  else none

/-- The characters of a tag besides those of names; the last three only inside angle brackets. -/
def isTagChar (verbatim : Bool) (c : Char) : Bool :=
  isNameChar c || c ∈ ";/?:@&=+$.!~*'()%".toList || verbatim && c ∈ [',', '[', ']']

def readPercentBytes : Nat → Cursor → Option (List UInt8 × Cursor)
  | 0, c => some ([], c)
  | n + 1, c =>
    match c.rest with
    | '%' :: a :: b :: _ => do
      let byte := (← hexValue? a) * 16 + (← hexValue? b)
      let (more, c) ← readPercentBytes n (c.skipN 3)
      pure (byte.toUInt8 :: more, c)
    | _ => none

def utf8Length? (lead : Nat) : Option Nat :=
  if lead < 0x80 then some 1
  else if 0xC0 ≤ lead ∧ lead < 0xE0 then some 2
  else if 0xE0 ≤ lead ∧ lead < 0xF0 then some 3
  else if 0xF0 ≤ lead ∧ lead < 0xF8 then some 4
  else none

/-- The bytes of a character written as percent signs with digits. Lead byte and continuations have
to be of their kinds, which not only text is. -/
def readPercentChar (c : Cursor) : Option (List UInt8 × Cursor) := do
  let (lead, _) ← readPercentBytes 1 c
  let length ← utf8Length? (lead.headD 0).toNat
  let (bytes, c) ← readPercentBytes length c
  if bytes.tail.all fun b => 0x80 ≤ b && b < 0xC0 then pure (bytes, c) else none

def readTagBytes (verbatim : Bool) : Nat → Cursor → Option (List UInt8 × Cursor)
  | 0, c => some ([], c)
  | fuel + 1, c =>
    match c.peek 0 with
    | none => some ([], c)
    | some x =>
      if x = '%' then do
        let (bytes, c) ← readPercentChar c
        let (more, c) ← readTagBytes verbatim fuel c
        pure (bytes ++ more, c)
      else if isTagChar verbatim x then do
        let (more, c) ← readTagBytes verbatim fuel c.skip
        pure (x.val.toUInt8 :: more, c)
      else some ([], c)

def readTagHandle (c : Cursor) : Option (String × Cursor) :=
  if c.startsWith '!' then
    let (name, c) := readName c.skip
    if c.startsWith '!' then some ("!" ++ name ++ "!", c.skip) else some ("!" ++ name, c)
  else none

def isFullHandle (handle : String) : Bool :=
  handle.length > 1 && handle.toList.getLast? = some '!'

/-- The handle and the suffix of a tag; a word ends after it, or an item inside brackets. A tag
without a handle stands for itself, and so does an exclamation mark that nothing follows. -/
def readTag (inFlow : Bool) (c : Cursor) : Option ((String × Tag) × Cursor) := do
  let (tag, c) ←
    if c.peek 1 = some '<' then do
      let start := c.skipN 2
      let (suffix, c) ← readTagBytes true start.rest.length start
      if suffix.isEmpty || !c.startsWith '>' then none
      else pure (("", Tag.ofBytes suffix), c.skip)
    else do
      let (handle, next) ← readTagHandle c
      let (suffix, next) ← readTagBytes false next.rest.length next
      if isFullHandle handle then
        if suffix.isEmpty then none else pure ((handle, Tag.ofBytes suffix), next)
      else
        let whole := Tag.ofBytes ((handle.toUTF8.toList.drop 1) ++ suffix)
        pure (if whole.bytes.isEmpty then ("", Tag.bang) else ("!", whole), next)
  if endsWord (c.peek 0) || inFlow && c.startsWith ',' then pure (tag, c) else none

def readVersionNumber (c : Cursor) : Option (Nat × Cursor) :=
  let digits := c.rest.takeWhile Char.isDigit
  if digits.isEmpty || digits.length > 9 then none
  else some (digits.foldl (fun n d => n * 10 + (d.toNat - 48)) 0, c.skipN digits.length)

def readDirective (c : Cursor) : Option (Token × Cursor) := do
  let (name, c) := readName c
  if name.isEmpty || !endsWord (c.peek 0) then none
  else
    let start := c.skipWhile isBlank
    let (token, c) ←
      match name with
      | "YAML" => do
        let (major, c) ← readVersionNumber start
        if c.startsWith '.' then
          let (minor, c) ← readVersionNumber c.skip
          pure (Token.versionDirective major minor, c)
        else none
      | "TAG" => do
        let (handle, c) ← readTagHandle start
        if !(isFullHandle handle || handle = "!") || !c.atBlank then none
        else
          let c := c.skipWhile isBlank
          let (start, c) ← readTagBytes true c.rest.length c
          if start.isEmpty || !endsWord (c.peek 0) then none
          else pure (Token.tagDirective handle (.ofBytes start), c)
      | _ => none
    let c := c.skipToLineEnd
    if c.atBreakOrEnd then pure (token, c.skipBreak) else none

/-- A place where a key may have started. -/
structure PossibleKey where
  required : Bool
  token : Nat
  index : Nat
  place : TextPlace
  deriving DecidableEq, Repr

structure Scan where
  /-- More than the characters of the text; no reader takes more rounds. -/
  bound : Nat
  cursor : Cursor
  tokens : Array PlacedToken := #[]
  /-- The indentation of the innermost block; -1 outside of all blocks. -/
  indent : Int := -1
  outerIndents : List Int := []
  keyAllowed : Bool := true
  /-- The place of a possible key for each level of brackets, the innermost first. -/
  keys : List (Option PossibleKey) := [none]
  deriving Repr

namespace Scan

def inFlow (s : Scan) : Bool := s.keys.length > 1

def push (s : Scan) (place : TextPlace) (token : Token) : Scan :=
  { s with tokens := s.tokens.push ⟨token, place⟩ }

/-- A block that starts at a place, unless the innermost block starts at its column or later. -/
def openBlock (s : Scan) (place : TextPlace) (index : Nat) (token : Token) : Scan :=
  if !s.inFlow && s.indent < place.column then
    { s with
      outerIndents := s.indent :: s.outerIndents
      indent := place.column
      tokens := s.tokens.insertIdxIfInBounds index ⟨token, place⟩ }
  else s

def closeBlocks (s : Scan) (column : Int) : Scan :=
  if s.inFlow then s
  else
    let deeper := (s.indent :: s.outerIndents).takeWhile (· > column)
    let indents := (s.indent :: s.outerIndents).dropWhile (· > column)
    { s with
      tokens := s.tokens ++ deeper.map fun _ => PlacedToken.mk .blockEnd s.cursor.place
      indent := indents.headD (-1)
      outerIndents := indents.tail }

def dropKey (s : Scan) : Option Scan :=
  match s.keys with
  | some key :: outer => if key.required then none else some { s with keys := none :: outer }
  | _ => some s

def saveKey (s : Scan) : Option Scan :=
  if s.keyAllowed then do
    let s ← s.dropKey
    let key : PossibleKey :=
      { required := !s.inFlow && s.indent = s.cursor.column
        token := s.tokens.size
        index := s.cursor.index
        place := s.cursor.place }
    pure { s with keys := some key :: s.keys.tail }
  else some s

def isStale (s : Scan) (key : PossibleKey) : Bool :=
  key.place.line < s.cursor.line || key.index + 1024 < s.cursor.index

def dropStaleKeys (s : Scan) : Option Scan :=
  let stale (key : Option PossibleKey) : Bool := key.any s.isStale
  if s.keys.any fun key => stale key && key.any (·.required) then none
  else some { s with keys := s.keys.map fun key => if stale key then none else key }

def toToken : Nat → Scan → Scan
  | 0, s => s
  | fuel + 1, s =>
    let c := s.cursor
    let c := if c.column = 0 && c.startsWith '\ufeff' then c.skip else c
    let c := c.skipWhile fun x => x = ' ' || x = '\t' && (s.inFlow || !s.keyAllowed)
    let c := if c.startsWith '#' then c.skipWhile (!isBreak ·) else c
    if c.atBreak then
      toToken fuel { s with cursor := c.skipBreak, keyAllowed := s.keyAllowed || !s.inFlow }
    else { s with cursor := c }

def single (s : Scan) (token : Token) (keyAllowed : Bool) : Scan :=
  { s with cursor := s.cursor.skip, keyAllowed }.push s.cursor.place token

def atTop (s : Scan) : Option Scan := do
  let s ← (s.closeBlocks (-1)).dropKey
  pure { s with keyAllowed := false }

def scanDirective (s : Scan) : Option Scan := do
  let s ← s.atTop
  let (token, cursor) ← readDirective s.cursor.skip
  pure ({ s with cursor }.push s.cursor.place token)

def scanDocumentMark (s : Scan) : Option Scan := do
  let s ← s.atTop
  let token := if s.cursor.startsWith '-' then Token.documentStart else .documentEnd
  pure ({ s with cursor := s.cursor.skipN 3 }.push s.cursor.place token)

def scanOpening (s : Scan) (token : Token) : Option Scan := do
  let s ← s.saveKey
  pure ({ s with keys := none :: s.keys }.single token true)

def scanClosing (s : Scan) (token : Token) : Option Scan := do
  let s ← s.dropKey
  let keys := if s.inFlow then s.keys.tail else s.keys
  pure ({ s with keys }.single token false)

def scanFlowEntry (s : Scan) : Option Scan := do
  pure ((← s.dropKey).single .flowEntry true)

def scanBlockEntry (s : Scan) : Option Scan := do
  if !s.inFlow && !s.keyAllowed then none
  else
    let s ← (s.openBlock s.cursor.place s.tokens.size .blockSequenceStart).dropKey
    pure (s.single .blockEntry true)

def scanKey (s : Scan) : Option Scan := do
  if !s.inFlow && !s.keyAllowed then none
  else
    let s ← (s.openBlock s.cursor.place s.tokens.size .blockMappingStart).dropKey
    pure (s.single .key (!s.inFlow))

/-- A colon makes a key of what started at the noted place; else it belongs to an explicit key. -/
def scanValue (s : Scan) : Option Scan :=
  match s.keys.head? with
  | some (some key) =>
    let s := { s with
      tokens := s.tokens.insertIdxIfInBounds key.token ⟨.key, key.place⟩
      keys := none :: s.keys.tail }
    let s := s.openBlock key.place key.token .blockMappingStart
    some (s.single .value false)
  | _ =>
    if !s.inFlow && !s.keyAllowed then none
    else
      let s := s.openBlock s.cursor.place s.tokens.size .blockMappingStart
      some (s.single .value (!s.inFlow))

def scanNode (s : Scan) (read : Cursor → Option (Token × Cursor)) : Option Scan := do
  let s ← s.saveKey
  let (token, cursor) ← read s.cursor
  pure ({ s with cursor, keyAllowed := false }.push s.cursor.place token)

def readAnchorToken (make : String → Token) (c : Cursor) : Option (Token × Cursor) := do
  let (name, c) ← readAnchorName c.skip
  pure (make name, c)

def readTagToken (inFlow : Bool) (c : Cursor) : Option (Token × Cursor) := do
  let ((handle, suffix), c) ← readTag inFlow c
  pure (.tag handle suffix, c)

def readQuotedToken (bound : Nat) (quote : Char) (style : ScalarStyle) (c : Cursor) :
    Option (Token × Cursor) := do
  let (text, c) ← readQuoted quote bound c.skip
  pure (.scalar (.ofList text) style, c)

def scanBlockScalar (s : Scan) (literal : Bool) : Option Scan := do
  let s ← s.dropKey
  let (text, cursor) ← readBlock s.bound literal s.indent s.cursor.skip
  pure ({ s with cursor, keyAllowed := true }.push s.cursor.place
    (.scalar (.ofList text) (if literal then .literal else .folded)))

def scanPlain (s : Scan) : Option Scan := do
  let s ← s.saveKey
  let (text, broken, cursor) ←
    readPlain s.inFlow (s.indent + 1) s.bound {} s.cursor
  pure ({ s with cursor, keyAllowed := broken }.push s.cursor.place (.scalar (.ofList text) .plain))

def atPlain (s : Scan) : Bool :=
  match s.cursor.peek 0 with
  | none => false
  | some x =>
    !(isBlank x || isBreak x || x ∈ "-?:,[]\x7b\x7d#&*!|>'\"%@`".toList)
      || x = '-' && !(s.cursor.peek 1).any isBlank
      || !s.inFlow && (x = '?' || x = ':') && !endsWord (s.cursor.peek 1)

def next (s : Scan) : Option (Scan × Bool) := do
  let s ← (toToken s.bound s).dropStaleKeys
  let s := s.closeBlocks s.cursor.column
  let going (s : Option Scan) : Option (Scan × Bool) := s.map fun s => (s, true)
  match s.cursor.peek 0 with
  | none => do
    let s ← ({ s with cursor := s.cursor.pastEnd }.closeBlocks (-1)).dropKey
    pure (s, false)
  | some x =>
    let one := s.cursor.peek 1
    if s.cursor.column = 0 && x = '%' then going s.scanDirective
    else if s.cursor.atDocumentMark then going s.scanDocumentMark
    else if x = '[' then going (s.scanOpening .flowSequenceStart)
    else if x = '\x7b' then going (s.scanOpening .flowMappingStart)
    else if x = ']' then going (s.scanClosing .flowSequenceEnd)
    else if x = '\x7d' then going (s.scanClosing .flowMappingEnd)
    else if x = ',' then going s.scanFlowEntry
    else if x = '-' && endsWord one then going s.scanBlockEntry
    else if x = '?' && (s.inFlow || endsWord one) then going s.scanKey
    else if x = ':' && (s.inFlow || endsWord one) then going s.scanValue
    else if x = '*' then going (s.scanNode (readAnchorToken .alias))
    else if x = '&' then going (s.scanNode (readAnchorToken .anchor))
    else if x = '!' then going (s.scanNode (readTagToken s.inFlow))
    else if x = '|' && !s.inFlow then going (s.scanBlockScalar true)
    else if x = '>' && !s.inFlow then going (s.scanBlockScalar false)
    else if x = '\'' then going (s.scanNode (readQuotedToken s.bound '\'' .singleQuoted))
    else if x = '"' then going (s.scanNode (readQuotedToken s.bound '"' .doubleQuoted))
    else if s.atPlain then going s.scanPlain
    else none

def run : Nat → Scan → Option (List PlacedToken)
  | 0, s => some s.tokens.toList
  | fuel + 1, s => do
    let (s, more) ← s.next
    if more then run fuel s else pure s.tokens.toList

end Scan

def tokens? (text : List Char) : Option (List PlacedToken) :=
  let bound := text.length + 2
  if text.all isAllowed then Scan.run bound { bound, cursor := { rest := text } } else none

end OpenApiClient.Yaml
