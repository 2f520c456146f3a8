import NodeLaunch.Files.Snapshot

/-!
# File trees

A file system as a value: a list of entries under absolute names and a working
directory. Paths are followed as a Unix kernel follows them, name by name, so a
`..` after a missing directory fails and a `.` after a file does too. The null
device is the one special file; links and permissions are not part of the model.
-/

namespace NodeLaunch

inductive Entry
  | directory
  | text (content : String)
  | binary
  /-- The null device: it takes what is written to it and stays empty. -/
  | sink
  deriving DecidableEq, Repr

def Entry.ofBytes (bytes : ByteArray) : Entry :=
  match String.fromUTF8? bytes with
  | some content => .text content
  | none => .binary

/-- Names from the root downwards; the root itself is the empty list. -/
abbrev Place := List SystemText

structure FileTree where
  workingDirectory : Place
  entries : List (Place × Entry)
  deriving Repr

namespace FileTree

def longestPath : Nat := 4095
def longestName : Nat := 255

def empty (workingDirectory : Place) : FileTree := ⟨workingDirectory, []⟩

/-- The entry at a place. The working directory and those above it exist. -/
def at? (tree : FileTree) (place : Place) : Option Entry :=
  if place.isPrefixOf tree.workingDirectory then some .directory
  else (tree.entries.find? (·.1 == place)).map (·.2)

def stepTo (tree : FileTree) (place : Place) (piece : SystemText) : Except FileError Place :=
  if tree.at? place = some .directory then
    if piece = "." then .ok place
    else if piece = ".." then .ok place.dropLast
    else if piece.bytes.length > longestName then .error .nameTooLong
    else .ok (place ++ [piece])
  else if (tree.at? place).isSome then .error .notADirectory
  else .error .notFound

def follow (tree : FileTree) : Place → List SystemText → Except FileError Place
  | place, [] => .ok place
  | place, piece :: rest => do
    let next ← tree.stepTo place piece
    tree.follow next rest

def named (path : Path) : List SystemText := path.pieces.filter fun piece => piece.bytes ≠ []

/-- The place a path leads to. Its last name need not exist; all before it are
directories. -/
def locate (tree : FileTree) (path : Path) : Except FileError Place := do
  if path.text.bytes.contains 0 then throw .nulInName
  if path.text = "" then throw .notFound
  if path.text.bytes.length > longestPath then throw .nameTooLong
  let start := if path.isAbsolute then [] else tree.workingDirectory
  tree.follow start (named path)

/-- A path written with a slash at its end can only name a directory. -/
def endsInSlash (path : Path) : Bool := path.text.bytes.getLast? == some SystemText.slash

def look (tree : FileTree) (path : Path) : Except FileError Entry := do
  let place ← tree.locate path
  match tree.at? place with
  | none => .error .notFound
  | some .directory => .ok .directory
  | some file => if endsInSlash path then .error .notADirectory else .ok file

def read (tree : FileTree) (path : Path) : Except FileError String := do
  match ← tree.look path with
  | .text content => .ok content
  | .sink => .ok ""
  | .binary => .error .notText
  | .directory => .error .isADirectory

def snapshot (tree : FileTree) : Snapshot where
  isFile path :=
    match tree.look path with
    | .ok (.text _) | .ok .binary => true
    | _ => false
  isDirectory path :=
    match tree.look path with
    | .ok .directory => true
    | _ => false
  read := tree.read

def put (tree : FileTree) (place : Place) (entry : Entry) : FileTree :=
  { tree with entries := (place, entry) :: tree.entries.filter (·.1 != place) }

def endsInDots (path : Path) : Bool :=
  match (named path).getLast? with
  | some piece => piece = "." ∨ piece = ".."
  | none => false

def write (tree : FileTree) (path : Path) (content : String) : Except FileError FileTree := do
  let place ← tree.locate path
  if endsInSlash path ∨ endsInDots path ∨ tree.at? place = some .directory then
    throw .isADirectory
  if tree.at? place = some .sink then return tree
  return tree.put place (.text content)

def ancestors (place : Place) : List Place :=
  (List.range (place.length + 1)).map place.take

def install (tree : FileTree) (path : Path) (entry : Entry) : FileTree :=
  let start := if path.isAbsolute then [] else tree.workingDirectory
  let place := (named path).foldl
    (fun (place : Place) (piece : SystemText) =>
      if piece = "." then place else if piece = ".." then place.dropLast else place ++ [piece])
    start
  let withParents := (ancestors place.dropLast).foldl
    (fun tree above => if (tree.at? above).isSome then tree else tree.put above .directory) tree
  if entry = .directory ∧ (withParents.at? place).isSome then withParents
  else withParents.put place entry

def remove (tree : FileTree) (path : Path) : FileTree × Bool :=
  match tree.look path, tree.locate path with
  | .ok _, .ok place =>
    ({ tree with entries := tree.entries.filter fun (other, _) => !place.isPrefixOf other }, true)
  | _, _ => (tree, false)

end FileTree

end NodeLaunch
