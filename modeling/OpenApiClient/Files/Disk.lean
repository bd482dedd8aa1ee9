/-! Paths and disks.
A path is a text; its pieces stand between slashes. Empty pieces mean nothing, and neither does a dot,
except at the front of a relative path. Paths are joined and cut as texts, so that what a user wrote
is what a message shows. A disk holds files and directories by their places, and there are no links. -/
namespace OpenApiClient

inductive FileError
  | notFound
  | alreadyExists
  | notADirectory
  | isADirectory
  | nameTooLong
  | nulInName
  | other (text : String)
  deriving DecidableEq, Repr

def FileError.message : FileError → String
  | notFound => "No such file or directory (os error 2)"
  | alreadyExists => "File exists (os error 17)"
  | notADirectory => "Not a directory (os error 20)"
  | isADirectory => "Is a directory (os error 21)"
  | nameTooLong => "File name too long (os error 36)"
  | nulInName => "file name contained an unexpected NUL byte"
  | other text => text

namespace Path

def splitSlash : List Char → List (List Char)
  | [] => [[]]
  | c :: rest =>
    if c = '/' then [] :: splitSlash rest
    else match splitSlash rest with
      | [] => [[c]]
      | piece :: pieces => (c :: piece) :: pieces

def pieces (path : String) : List String := (splitSlash path.toList).map .ofList

def isAbsolute (path : String) : Bool := path.toList.head? = some '/'

def endsWithSlash (path : String) : Bool := path.toList.getLast? = some '/'

def join (directory path : String) : String :=
  if isAbsolute path then path
  else if directory.isEmpty || endsWithSlash directory then directory ++ path
  else directory ++ "/" ++ path

/-- Whether a piece means nothing where it stands. -/
def isIdle (piece : String) : Bool := piece.isEmpty || piece = "."

/-- The pieces at the front of a path that mean nothing but are kept: a dot, or the root. -/
def fixedLength (path : String) : Nat :=
  if isAbsolute path then 1
  else if (pieces path).head? = some "." then 1
  else 0

def dropIdle (pieces : List String) : List String := (pieces.reverse.dropWhile isIdle).reverse

def ofPieces (absolute : Bool) (pieces : List String) : String :=
  if absolute && pieces.length ≤ 1 then "/" else "/".intercalate pieces

/-- The steps of a path: its pieces that mean something, with the root and a dot at the front. -/
def steps (path : String) : List String :=
  let pieces := pieces path
  let fixed := fixedLength path
  (if isAbsolute path then ["/"] else pieces.take fixed)
    ++ (pieces.drop fixed).filter (!isIdle ·)

def same (a b : String) : Bool := steps a = steps b

def parent? (path : String) : Option String :=
  let pieces := pieces path
  let fixed := fixedLength path
  let inner := dropIdle (pieces.drop fixed)
  if inner.isEmpty then if fixed = 1 && !isAbsolute path then some "" else none
  else some (ofPieces (isAbsolute path) (pieces.take fixed ++ dropIdle inner.dropLast))

end Path

inductive Entry
  | directory
  | file (content : ByteArray)

/-- The names that lead to an entry from the root. -/
abbrev Place := List String

structure Disk where
  entries : List (Place × Entry) := []
  current : Place := []

namespace Disk

def lookup (disk : Disk) (place : Place) : Option Entry :=
  if place = [] then some .directory else disk.entries.lookup place

def putEntry (place : Place) (entry : Entry) : List (Place × Entry) → List (Place × Entry)
  | [] => [(place, entry)]
  | (p, e) :: rest =>
    if p = place then (place, entry) :: rest else (p, e) :: putEntry place entry rest

def put (disk : Disk) (place : Place) (entry : Entry) : Disk :=
  { disk with entries := putEntry place entry disk.entries }

theorem lookup_putEntry (place : Place) (entry : Entry) (entries : List (Place × Entry))
    (p : Place) :
    (putEntry place entry entries).lookup p =
      if p = place then some entry else entries.lookup p := by
  induction entries with
  | nil =>
    by_cases h : p = place
    · simp [putEntry, h]
    · simp [putEntry, List.lookup_cons, h, beq_eq_false_iff_ne.2 h]
  | cons head rest ih =>
    obtain ⟨q, e⟩ := head
    by_cases hp : p = q
    · subst hp
      by_cases h : p = place <;> simp [putEntry, h]
    · have ne : (p == q) = false := beq_eq_false_iff_ne.2 hp
      by_cases h : q = place
      · subst h
        simp [putEntry, List.lookup_cons, ne, hp]
      · simp [putEntry, List.lookup_cons, h, ne, ih]

theorem lookup_put (disk : Disk) {place : Place} (h : place ≠ []) (entry : Entry) (p : Place) :
    (disk.put place entry).lookup p = if p = place then some entry else disk.lookup p := by
  by_cases hp : p = []
  · subst hp
    simp [lookup, h.symm]
  · simp [lookup, put, hp, lookup_putEntry]

/-- The greatest number of bytes of a name. -/
def maxName : Nat := 255

/-- The number of bytes that a path has to stay below. -/
def pathLimit : Nat := 4096

def step (place : Place) (piece : String) : Except FileError Place :=
  if Path.isIdle piece then .ok place
  else if piece = ".." then .ok place.dropLast
  else if piece.utf8ByteSize > maxName then .error .nameTooLong
  else .ok (place ++ [piece])

def walk (disk : Disk) (place : Place) : List String → Except FileError Place
  | [] => .ok place
  | piece :: rest => do
    let next ← step place piece
    match disk.lookup next with
    | some .directory => disk.walk next rest
    | some (.file _) => .error .notADirectory
    | none => .error .notFound

/-- Where a path leads: a directory that is there and a last piece to be taken from it. -/
structure Target where
  directory : Place
  piece : String
  slashed : Bool
  deriving DecidableEq, Repr

def target (disk : Disk) (path : String) : Except FileError Target :=
  if '\x00' ∈ path.toList then .error .nulInName
  else if path.isEmpty then .error .notFound
  else if path.utf8ByteSize ≥ pathLimit then .error .nameTooLong
  else do
    let pieces := (Path.pieces path).filter (!·.isEmpty)
    let start := if Path.isAbsolute path then [] else disk.current
    let directory ← disk.walk start pieces.dropLast
    pure ⟨directory, pieces.getLast?.getD ".", Path.endsWithSlash path⟩

/-- Whether the last piece of a path is a name, and not a way through directories. -/
def Target.isName (target : Target) : Bool := !Path.isIdle target.piece && target.piece ≠ ".."

def find (disk : Disk) (path : String) : Except FileError (Place × Entry) := do
  let target ← disk.target path
  let place ← step target.directory target.piece
  match disk.lookup place with
  | some .directory => pure (place, .directory)
  | some (.file content) =>
    if target.slashed then .error .notADirectory else pure (place, .file content)
  | none => .error .notFound

def has (disk : Disk) (path : String) : Bool := (disk.find path).isOk

def isDirectory (disk : Disk) (path : String) : Bool :=
  match disk.find path with
  | .ok (_, .directory) => true
  | _ => false

def read (disk : Disk) (path : String) : Except FileError ByteArray := do
  match ← disk.find path with
  | (_, .file content) => pure content
  | (_, .directory) => .error .isADirectory

def write (disk : Disk) (path : String) (content : ByteArray) : Except FileError Disk := do
  let target ← disk.target path
  if target.slashed || !target.isName then .error .isADirectory
  else
    let place ← step target.directory target.piece
    match disk.lookup place with
    | some .directory => .error .isADirectory
    | _ => pure (disk.put place (.file content))

def makeDirectory (disk : Disk) (path : String) : Except FileError Disk := do
  let target ← disk.target path
  if !target.isName then .error .alreadyExists
  else
    let place ← step target.directory target.piece
    match disk.lookup place with
    | some _ => .error .alreadyExists
    | none => pure (disk.put place .directory)

def remove (disk : Disk) (path : String) : Disk :=
  match disk.find path with
  | .ok (place, _) =>
    { disk with entries := disk.entries.filter fun (p, _) => !place.isPrefixOf p }
  | .error _ => disk

def listed (place : Place) : Entry → String × Option ByteArray
  | .directory => ("/".intercalate place ++ "/", none)
  | .file content => ("/".intercalate place, some content)

def listing (disk : Disk) : List (String × Option ByteArray) :=
  let below := disk.entries.filter fun (p, _) =>
    disk.current.isPrefixOf p && p.length > disk.current.length
  (below.map fun (p, e) => listed (p.drop disk.current.length) e).mergeSort fun a b => a.1 ≤ b.1

end Disk

end OpenApiClient
