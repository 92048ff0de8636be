import Amalgamation.Path
import Amalgamation.SortedList
import Amalgamation.Text.Lines

/-!
# File trees

A file tree says what stands at each location: a file or a directory. A location is the list of the
names that lead to it from the root. There are no links, so a path is followed from left to right:
every segment needs a directory to start from, a name goes into it, and `..` goes back to the
location above. Relative paths start at the working directory.

Reading, creating directories and writing fail in the ways that a file system lets them fail, and
leave the tree as a failing file system call would.
-/

set_option autoImplicit false

namespace Amalgamation

/-- The names that lead from the root to a place. -/
abbrev Location := List Text

/-- What a file holds: text, or bytes that are no UTF-8 text. -/
inductive FileContent where
  | text (text : Text)
  | undecodable
  deriving DecidableEq, Repr

/-- What stands at a location. -/
inductive FileNode where
  | file (content : FileContent)
  | directory
  deriving DecidableEq, Repr

/-- Why a file could not be used. -/
inductive FileFault where
  | notFound
  | notADirectory
  | isADirectory
  | alreadyExists
  | nameTooLong
  /-- The path holds a zero character, which ends a path for the system. -/
  | zeroCharacter
  | notText
  deriving DecidableEq, Repr

/-- The words of the system for a fault. -/
def FileFault.message : FileFault → Text
  | .notFound => "No such file or directory (os error 2)".toList
  | .notADirectory => "Not a directory (os error 20)".toList
  | .isADirectory => "Is a directory (os error 21)".toList
  | .alreadyExists => "File exists (os error 17)".toList
  | .nameTooLong => "File name too long (os error 36)".toList
  | .zeroCharacter => "file name contained an unexpected NUL byte".toList
  | .notText => "stream did not contain valid UTF-8".toList

/-- What stands where. A location that is listed twice holds what is listed first. -/
structure FileTree where
  entries : List (Location × FileNode)
  workingDirectory : Location
  deriving DecidableEq, Repr

namespace FileTree

/-- A tree with nothing in it but the working directory and what is above it. -/
def bare (workingDirectory : Location) : FileTree :=
  ⟨(List.range workingDirectory.length).map fun n => (workingDirectory.take (n + 1), .directory),
    workingDirectory⟩

/-! ## Looking up -/

/-- What stands at a location; the root is always a directory. -/
def nodeAt (tree : FileTree) : Location → Option FileNode
  | [] => some .directory
  | location => (tree.entries.find? fun entry => entry.1 = location).map (·.2)

/-- The most bytes that a name may have. -/
def nameLimit : Nat := 255

/-- The number of bytes from which on a path is too long. -/
def pathLimit : Nat := 4096

/-- What is wrong with a path whatever the tree holds. -/
def pathFault? (path : Path) : Option FileFault :=
  if '\x00' ∈ path.text then some .zeroCharacter
  else if path.text = [] then some .notFound
  else if pathLimit ≤ (String.ofList path.text).utf8ByteSize then some .nameTooLong
  else none

/-- Takes one segment of a path from a location. -/
def enter (tree : FileTree) (location : Location) (segment : Text) : Except FileFault Location :=
  match tree.nodeAt location with
  | none => .error .notFound
  | some (.file _) => .error .notADirectory
  | some .directory =>
    if Path.isFiller segment then .ok location
    else if segment = ['.', '.'] then .ok location.dropLast
    else if nameLimit < (String.ofList segment).utf8ByteSize then .error .nameTooLong
    else .ok (location ++ [segment])

/-- Takes the segments of a path from a location. -/
def follow (tree : FileTree) (location : Location) : List Text → Except FileFault Location
  | [] => .ok location
  | segment :: segments =>
    match tree.enter location segment with
    | .error fault => .error fault
    | .ok next => follow tree next segments

/-- Where a path starts. -/
def startOf (tree : FileTree) (path : Path) : Location :=
  if path.isAbsolute then [] else tree.workingDirectory

/-- The location that some segments of a path lead to. -/
def locateAlong (tree : FileTree) (path : Path) (segments : List Text) :
    Except FileFault Location :=
  match pathFault? path with
  | some fault => .error fault
  | none => tree.follow (tree.startOf path) segments

/-- The location that a path leads to, whether or not anything stands there. -/
def locate (tree : FileTree) (path : Path) : Except FileFault Location :=
  tree.locateAlong path path.segments

/-- What a path leads to. -/
def node (tree : FileTree) (path : Path) : Option FileNode :=
  match tree.locate path with
  | .error _ => none
  | .ok location => tree.nodeAt location

/-- Whether a path leads to a file. -/
def isFile (tree : FileTree) (path : Path) : Bool :=
  match tree.node path with
  | some (.file _) => true
  | _ => false

/-- Whether a path leads to a directory. -/
def isDirectory (tree : FileTree) (path : Path) : Bool := tree.node path = some .directory

/-- The text of the file that a path leads to. -/
def read (tree : FileTree) (path : Path) : Except FileFault Text :=
  match tree.locate path with
  | .error fault => .error fault
  | .ok location =>
    match tree.nodeAt location with
    | none => .error .notFound
    | some .directory => .error .isADirectory
    | some (.file .undecodable) => .error .notText
    | some (.file (.text text)) => .ok text

/-! ## Changing -/

/-- The tree with a node put at a location. -/
def put (tree : FileTree) (location : Location) (node : FileNode) : FileTree :=
  { tree with entries := (location, node) :: tree.entries.filter fun entry => entry.1 ≠ location }

/-- The tree with a node put at a location, and with directories above it where nothing stood. -/
def putWithParents (tree : FileTree) (location : Location) (node : FileNode) : FileTree :=
  let above := ((List.range location.length).map location.take).reverse
  let missing := above.takeWhile fun location => (tree.nodeAt location).isNone
  let withParents := { tree with entries := missing.map (·, FileNode.directory) ++ tree.entries }
  withParents.put location node

/-- Writes a text to the file that a path leads to, which is created if its directory is there. -/
def write (tree : FileTree) (path : Path) (text : Text) : Except FileFault FileTree :=
  match tree.locate path with
  | .error fault => .error fault
  | .ok location =>
    if tree.nodeAt location = some .directory then .error .isADirectory
    else .ok (tree.put location (.file (.text text)))

/-- Creates the directory that a path leads to. Slashes at the end of the path do not count. -/
def makeDirectory (tree : FileTree) (path : Path) : Except FileFault FileTree :=
  match tree.locateAlong path (path.segments.reverse.dropWhile (· = [])).reverse with
  | .error fault => .error fault
  | .ok location =>
    match tree.nodeAt location with
    | some _ => .error .alreadyExists
    | none => .ok (tree.put location .directory)

/-- Creates the directory that a path leads to, if there is none yet. For an empty path nothing has
to be created. -/
def ensureDirectory (tree : FileTree) (path : Path) : Except FileFault FileTree :=
  match tree.makeDirectory path with
  | .ok tree => .ok tree
  | .error fault => if path.text = [] || tree.isDirectory path then .ok tree else .error fault

/-- Creates the directory that a path leads to, if there is none yet. Where it cannot be created
because something above it is missing, the first of the paths above it is created in the same way
before. The tree is returned as it was left, with the fault that ended the work. -/
def ensureBelow (tree : FileTree) (path : Path) : List Path → FileTree × Except FileFault Unit
  | [] =>
    match tree.ensureDirectory path with
    | .ok tree => (tree, .ok ())
    | .error fault => (tree, .error fault)
  | parent :: above =>
    match tree.ensureDirectory path with
    | .ok tree => (tree, .ok ())
    | .error .notFound =>
      match ensureBelow tree parent above with
      | (tree, .error fault) => (tree, .error fault)
      | (tree, .ok ()) =>
        match tree.ensureDirectory path with
        | .ok tree => (tree, .ok ())
        | .error fault => (tree, .error fault)
    | .error fault => (tree, .error fault)

/-- Creates the directory that a path leads to, and those above it. -/
def makeDirectories (tree : FileTree) (path : Path) : FileTree × Except FileFault Unit :=
  tree.ensureBelow path path.ancestors

/-! ## Listing -/

/-- The names that stand directly in a directory, in order. -/
def namesIn (tree : FileTree) (path : Path) : List Text :=
  match tree.locate path with
  | .error _ => []
  | .ok location =>
    SortedList.ofList (· < ·)
      (tree.entries.filterMap fun entry =>
        if entry.1.dropLast = location then entry.1.getLast? else none)

/-- The number of names in the longest location that is listed. -/
def height (tree : FileTree) : Nat :=
  tree.entries.foldr (fun entry height => max entry.1.length height) 0

end FileTree

end Amalgamation
