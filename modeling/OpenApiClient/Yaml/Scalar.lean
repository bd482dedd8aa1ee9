import OpenApiClient.Yaml.Token

/-! Scalars.
The text of plain, quoted and block scalars. Line breaks inside plain and quoted scalars are folded:
one becomes a space, and of several the first is dropped. -/
namespace OpenApiClient.Yaml

structure Gap where
  blanks : List Char := []
  firstBreak : List Char := []
  moreBreaks : List Char := []
  /-- Whether a line has ended in the gap; blanks after that are indentation. -/
  broken : Bool := false
  deriving DecidableEq, Repr

def Gap.text (gap : Gap) : List Char :=
  if gap.broken then
    if gap.firstBreak = ['\n'] then
      if gap.moreBreaks.isEmpty then [' '] else gap.moreBreaks
    else gap.firstBreak ++ gap.moreBreaks
  else gap.blanks

/-- Reads on through blanks and line breaks. A tab that stands for indentation left of `margin` is
refused. -/
def readGap (margin : Int) : Nat → Gap → Cursor → Option (Gap × Cursor)
  | 0, gap, c => some (gap, c)
  | fuel + 1, gap, c =>
    match c.peek 0 with
    | none => some (gap, c)
    | some x =>
      if isBlank x then
        if gap.broken then
          if x = '\t' ∧ (c.column : Int) < margin then none
          else readGap margin fuel gap c.skip
        else readGap margin fuel { gap with blanks := gap.blanks ++ [x] } c.skip
      else if isBreak x then
        let (text, next) := c.takeBreak
        if gap.broken then
          readGap margin fuel { gap with moreBreaks := gap.moreBreaks ++ text } next
        else
          readGap margin fuel { gap with blanks := [], firstBreak := text, broken := true } next
      else some (gap, c)

def isFlowIndicator (c : Char) : Bool := c ∈ [',', '[', ']', '\x7b', '\x7d']

/-- A piece of a plain scalar without blanks; a colon before a bracket is refused inside brackets. -/
def readPlainPiece (inFlow : Bool) : Nat → Cursor → Option (List Char × Cursor)
  | 0, c => some ([], c)
  | fuel + 1, c =>
    match c.peek 0 with
    | none => some ([], c)
    | some x =>
      if isBlank x || isBreak x then some ([], c)
      else if inFlow && x = ':' && (c.peek 1).any (fun y => isFlowIndicator y || y = '?') then none
      else if x = ':' && endsWord (c.peek 1) || inFlow && isFlowIndicator x then some ([], c)
      else do
        let (more, c) ← readPlainPiece inFlow fuel c.skip
        pure (x :: more, c)

/-- A plain scalar, whose lines have to be indented by `margin` outside of brackets. Also tells
whether a line ended after it. -/
def readPlain (inFlow : Bool) (margin : Int) :
    Nat → Gap → Cursor → Option (List Char × Bool × Cursor)
  | 0, gap, c => some ([], gap.broken, c)
  | fuel + 1, gap, c =>
    if c.atDocumentMark || c.startsWith '#' then some ([], gap.broken, c)
    else do
      let (piece, c) ← readPlainPiece inFlow fuel c
      if piece.isEmpty then pure ([], gap.broken, c)
      else
        let text := gap.text ++ piece
        if !(c.atBlank || c.atBreak) then pure (text, false, c)
        else
          let (gap, c) ← readGap margin fuel {} c
          if !inFlow && (c.column : Int) < margin then pure (text, gap.broken, c)
          else
            let (more, broken, c) ← readPlain inFlow margin fuel gap c
            pure (text ++ more, broken, c)

def hexValue? (c : Char) : Option Nat :=
  let n := c.toNat
  if c.isDigit then some (n - 48)
  else if 97 ≤ n ∧ n ≤ 102 then some (n - 87)
  else if 65 ≤ n ∧ n ≤ 70 then some (n - 55)
  else none

def hexNumber? (digits : List Char) : Option Nat :=
  digits.foldl (fun n d => do pure ((← n) * 16 + (← hexValue? d))) (some 0)

def simpleEscape? : Char → Option Char
  | '0' => some '\x00'
  | 'a' => some '\x07'
  | 'b' => some '\x08'
  | 't' => some '\t'
  | '\t' => some '\t'
  | 'n' => some '\n'
  | 'v' => some '\x0b'
  | 'f' => some '\x0c'
  | 'r' => some '\r'
  | 'e' => some '\x1b'
  | ' ' => some ' '
  | '"' => some '"'
  | '/' => some '/'
  | '\\' => some '\\'
  | 'N' => some '\u0085'
  | '_' => some '\u00a0'
  | 'L' => some '\u2028'
  | 'P' => some '\u2029'
  | _ => none

def escapeLength? : Char → Option Nat
  | 'x' => some 2
  | 'u' => some 4
  | 'U' => some 8
  | _ => none

def readEscape (c : Cursor) : Option (Char × Cursor) := do
  let letter ← c.peek 1
  match simpleEscape? letter with
  | some x => pure (x, c.skipN 2)
  | none =>
    let length ← escapeLength? letter
    let digits := (c.rest.drop 2).take length
    if digits.length < length then none
    else
      let n ← hexNumber? digits
      if n.isValidChar then pure (Char.ofNat n, c.skipN (2 + length)) else none

/-- A piece of a quoted scalar without blanks, up to its end, a blank or an escaped line break, and
whether it was the last of these. -/
def readQuotedPiece (quote : Char) : Nat → Cursor → Option (List Char × Bool × Cursor)
  | 0, c => some ([], false, c)
  | fuel + 1, c =>
    match c.peek 0 with
    | none => some ([], false, c)
    | some x =>
      if isBlank x || isBreak x then some ([], false, c)
      else if x = '\'' && quote = '\'' && c.peek 1 = some '\'' then do
        let (more, escaped, c) ← readQuotedPiece quote fuel (c.skipN 2)
        pure ('\'' :: more, escaped, c)
      else if x = quote then some ([], false, c)
      else if x = '\\' && quote = '"' then
        if (c.peek 1).any isBreak then some ([], true, c.skip.skipBreak)
        else do
          let (y, c) ← readEscape c
          let (more, escaped, c) ← readQuotedPiece quote fuel c
          pure (y :: more, escaped, c)
      else do
        let (more, escaped, c) ← readQuotedPiece quote fuel c.skip
        pure (x :: more, escaped, c)

def readQuoted (quote : Char) : Nat → Cursor → Option (List Char × Cursor)
  | 0, _ => none
  | fuel + 1, c =>
    if c.atDocumentMark || c.atEnd then none
    else do
      let (piece, escaped, c) ← readQuotedPiece quote fuel c
      if c.startsWith quote then pure (piece, c.skip)
      else
        let (gap, c) ← readGap 0 fuel { broken := escaped } c
        let (more, c) ← readQuoted quote fuel c
        pure (piece ++ gap.text ++ more, c)

inductive Chomping
  | strip
  | clip
  | keep
  deriving DecidableEq, Repr

structure BlockHeader where
  chomping : Chomping := .clip
  indent : Option Nat := none
  deriving DecidableEq, Repr

def chompingOf? : Option Char → Option Chomping
  | some '+' => some .keep
  | some '-' => some .strip
  | _ => none

def indentDigit (c : Cursor) : Option (Option Nat) :=
  match c.peek 0 with
  | some x => if x.isDigit then if x = '0' then none else some (some (x.toNat - 48)) else some none
  | none => some none

def readBlockHeader (c : Cursor) : Option (BlockHeader × Cursor) := do
  match chompingOf? (c.peek 0) with
  | some chomping =>
    let indent ← indentDigit c.skip
    pure (⟨chomping, indent⟩, if indent.isSome then c.skipN 2 else c.skip)
  | none =>
    match ← indentDigit c with
    | none => pure ({}, c)
    | some indent =>
      match chompingOf? (c.skip.peek 0) with
      | some chomping => pure (⟨chomping, some indent⟩, c.skipN 2)
      | none => pure (⟨.clip, some indent⟩, c.skip)

/-- Passes over indentation and empty lines. While the indentation of the block is unknown, the
deepest line counts; a tab in place of indentation is refused. -/
def readBlockBreaks (indent : Option Nat) :
    Nat → Nat → List Char → Cursor → Option (Nat × List Char × Cursor)
  | 0, deepest, breaks, c => some (deepest, breaks, c)
  | fuel + 1, deepest, breaks, c =>
    let spaces := (c.rest.takeWhile (· = ' ')).length
    let c := c.skipN <| match indent with
      | none => spaces
      | some indent => min spaces (indent - c.column)
    let deepest := max deepest c.column
    let short := match indent with
      | none => true
      | some indent => c.column < indent
    if short && c.startsWith '\t' then none
    else if c.atBreak then
      let (text, c) := c.takeBreak
      readBlockBreaks indent fuel deepest (breaks ++ text) c
    else some (deepest, breaks, c)

structure BlockText where
  text : List Char := []
  lastBreak : List Char := []
  moreBreaks : List Char := []
  indented : Bool := false
  deriving DecidableEq, Repr

/-- The text before a further line: the breaks, or a space where two lines are folded. -/
def BlockText.beforeLine (block : BlockText) (literal indented : Bool) : List Char :=
  if !literal && block.lastBreak = ['\n'] && !block.indented && !indented then
    block.text ++ if block.moreBreaks.isEmpty then [' '] else block.moreBreaks
  else block.text ++ block.lastBreak ++ block.moreBreaks

def readBlockLines (literal : Bool) (indent : Nat) :
    Nat → BlockText → Cursor → Option (BlockText × Cursor)
  | 0, block, c => some (block, c)
  | fuel + 1, block, c =>
    if c.column = indent && !c.atEnd then do
      let indented := c.atBlank
      let line := c.rest.takeWhile (!isBreak ·)
      let (lastBreak, next) := (c.skipN line.length).takeBreak
      let (_, moreBreaks, next) ← readBlockBreaks (some indent) fuel 0 [] next
      readBlockLines literal indent fuel
        ⟨block.beforeLine literal indented ++ line, lastBreak, moreBreaks, indented⟩ next
    else some (block, c)

def readBlock (bound : Nat) (literal : Bool) (parent : Int) (c : Cursor) : Option (List Char × Cursor) := do
  let (header, c) ← readBlockHeader c
  let c := c.skipToLineEnd
  if !c.atBreakOrEnd then none
  else
    let c := c.skipBreak
    let given := header.indent.map fun n => (if parent ≥ 0 then parent.toNat + n else n)
    let (deepest, breaks, c) ← readBlockBreaks given bound 0 [] c
    let indent := given.getD (max (max deepest (parent + 1).toNat) 1)
    let (block, c) ← readBlockLines literal indent bound { moreBreaks := breaks } c
    let kept := match header.chomping with
      | .strip => []
      | .clip => block.lastBreak
      | .keep => block.lastBreak ++ block.moreBreaks
    pure (block.text ++ kept, c)

end OpenApiClient.Yaml
