import OpenApiClient.Text.LetterCase

/-! Texts taken apart and put together.
Blanks are the characters with the Unicode property White_Space. A line ends at a line feed, which
takes a carriage return before it along; a carriage return elsewhere is text. Replacing goes from left
to right and does not look at an occurrence again that it has replaced. A name is cut into words at
the characters that no word holds, before an uppercase letter that follows a lowercase one, and before
the last letter of an uppercase run when a lowercase letter follows. -/
namespace OpenApiClient.Text

def isBlank (c : Char) : Bool :=
  let n := c.toNat
  (9 ≤ n && n ≤ 13) || n == 0x20 || n == 0x85 || n == 0xA0 || n == 0x1680
    || (0x2000 ≤ n && n ≤ 0x200A) || n == 0x2028 || n == 0x2029 || n == 0x202F || n == 0x205F
    || n == 0x3000

def dropEnd (p : Char → Bool) (cs : List Char) : List Char :=
  (cs.reverse.dropWhile p).reverse

def trim (cs : List Char) : List Char := dropEnd isBlank (cs.dropWhile isBlank)

/-- The pieces between line feeds; one more than there are line feeds. -/
def splitLineFeeds : List Char → List (List Char)
  | [] => [[]]
  | c :: rest =>
    match splitLineFeeds rest with
    | [] => [[c]]
    | piece :: more => if c = '\n' then [] :: piece :: more else (c :: piece) :: more

def dropReturn (line : List Char) : List Char :=
  if line.getLast? = some '\r' then line.dropLast else line

/-- Lines out of pieces: the last piece had no line feed, and is no line when nothing is in it. -/
def linesOfPieces : List (List Char) → List (List Char)
  | [] => []
  | [last] => if last.isEmpty then [] else [last]
  | piece :: rest => dropReturn piece :: linesOfPieces rest

def lines (cs : List Char) : List (List Char) := linesOfPieces (splitLineFeeds cs)

def singleLine (cs : List Char) : List Char :=
  [' '].intercalate ((lines (trim cs)).map trim)

/-- Replaces each occurrence of a pattern; `skip` characters of the one under way are still left. -/
def replaceFrom (pattern replacement : List Char) (skip : Nat) : List Char → List Char
  | [] => []
  | c :: rest =>
    match skip with
    | n + 1 => replaceFrom pattern replacement n rest
    | 0 =>
      if pattern.isPrefixOf (c :: rest) then
        replacement ++ replaceFrom pattern replacement (pattern.length - 1) rest
      else c :: replaceFrom pattern replacement 0 rest

def replaceAll (pattern replacement text : List Char) : List Char :=
  replaceFrom pattern replacement 0 text

inductive LetterRun
  | fresh
  | lowercase
  | uppercase
  deriving DecidableEq, Repr

def LetterRun.after (run : LetterRun) (c : Char) : LetterRun :=
  if isLower c then lowercase else if isUpper c then uppercase else run

/-- The words of a stretch of word characters; `word` is the one under way, in reverse. -/
def cutStretch (run : LetterRun) (word : List Char) : List Char → List (List Char)
  | [] => []
  | [c] => [(c :: word).reverse]
  | c :: next :: rest =>
    if run.after c = .lowercase ∧ isUpper next then
      (c :: word).reverse :: cutStretch .fresh [] (next :: rest)
    else if run = .uppercase ∧ isUpper c ∧ isLower next then
      word.reverse :: cutStretch .fresh [c] (next :: rest)
    else
      cutStretch (run.after c) (c :: word) (next :: rest)

def stretches : List Char → List (List Char)
  | [] => [[]]
  | c :: rest =>
    match stretches rest with
    | [] => [[c]]
    | stretch :: more =>
      if isAlphanumeric c then (c :: stretch) :: more else [] :: stretch :: more

def words (name : List Char) : List (List Char) :=
  (stretches name).flatMap (cutStretch .fresh [])

/-- The words run together, each with a capital: `user_info` is `UserInfo`. -/
def upperCamel (name : String) : String :=
  .ofList ((words name.toList).flatMap capitalize)

def lowerCamel (name : String) : String :=
  match words name.toList with
  | [] => ""
  | first :: rest => .ofList (lowerWord first ++ rest.flatMap capitalize)

end OpenApiClient.Text
