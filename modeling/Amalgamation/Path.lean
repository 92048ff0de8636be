import Amalgamation.Text.Basic

/-!
# Paths

A path is a text; `/` separates its segments. Empty segments and `.` segments stand for nothing,
except that a leading `/` is the root and a leading `.` is kept as the place itself. What is left
are the components of the path, and two spellings with the same components are the same path.

`Path.join` puts a path below a directory, and `Path.relativeTo` takes a directory away again: it
compares by components and returns the remainder as it was written.
-/

set_option autoImplicit false

namespace Amalgamation

/-- A path as it was written. -/
structure Path where
  text : Text
  deriving DecidableEq, Repr

namespace Path

/-- One step of a path. -/
inductive Component where
  | root
  | here
  | up
  | name (name : Text)
  deriving DecidableEq, Repr

/-! ## Segments and components -/

/-- The pieces between the slashes. -/
def segments (path : Path) : List Text := Text.splitOn '/' path.text

/-- Whether the path starts at the root. -/
def isAbsolute (path : Path) : Bool := path.text.head? = some '/'

/-- Whether a segment stands for nothing. -/
def isFiller (segment : Text) : Bool := segment = [] || segment = ['.']

/-- The component that a segment stands for, fillers apart. -/
def Component.ofSegment (segment : Text) : Component :=
  if segment = ['.', '.'] then .up else .name segment

/-- The anchor of a path (the root, or the place itself) and the segments after it. -/
def anchored (path : Path) : Option Component × List Text :=
  match path.segments with
  | [] => (none, [])
  | segment :: rest =>
    if path.isAbsolute then (some .root, rest)
    else if segment = ['.'] then (some .here, rest)
    else (none, segment :: rest)

/-- The components of the segments of a list. -/
def componentsOf (segments : List Text) : List Component :=
  (segments.filter fun segment => !isFiller segment).map Component.ofSegment

/-- The components of a path. -/
def components (path : Path) : List Component :=
  path.anchored.1.toList ++ componentsOf path.anchored.2

/-! ## Names -/

/-- The last component, if it is a name. -/
def fileName (path : Path) : Option Text :=
  match path.components.getLast? with
  | some (.name name) => some name
  | _ => none

/-- What follows the last dot of a name. A name without a dot, or with its only dot in front, has no
extension. -/
def extensionOf (name : Text) : Option Text :=
  let suffix := (name.reverse.takeWhile (· ≠ '.')).reverse
  let stem := (name.reverse.dropWhile (· ≠ '.')).tail
  if stem = [] then none else some suffix

/-- The extension of the last component. -/
def extension (path : Path) : Option Text := path.fileName.bind extensionOf

/-! ## Joining and taking away -/

/-- The second path seen from the first. An absolute path stands for itself everywhere. -/
def join (base path : Path) : Path :=
  if path.isAbsolute then path
  else if base.text = [] ∨ base.text.getLast? = some '/' then ⟨base.text ++ path.text⟩
  else ⟨base.text ++ '/' :: path.text⟩

/-- The segments after the first `n` that are not fillers. -/
def dropSegments : Nat → List Text → List Text
  | 0, segments => segments
  | _ + 1, [] => []
  | n + 1, segment :: segments =>
    if isFiller segment then dropSegments (n + 1) segments else dropSegments n segments

/-- The segments without the fillers at the end. -/
def dropTrailingFillers (segments : List Text) : List Text :=
  (segments.reverse.dropWhile isFiller).reverse

/-- The path with an anchor and segments after it, without the fillers at its end. -/
def ofAnchored (anchor : Option Component) (segments : List Text) : Path :=
  let segments := dropTrailingFillers segments
  match anchor with
  | some .root => ⟨'/' :: Text.joinWith ['/'] segments⟩
  | some _ => ⟨Text.joinWith ['/'] (['.'] :: segments)⟩
  | none => ⟨Text.joinWith ['/'] segments⟩

/-- The path as written, without the fillers at its end. -/
def withoutTrailingFillers (path : Path) : Path := ofAnchored path.anchored.1 path.anchored.2

/-- The paths with fewer components that the path begins with, the longest first. The path with no
components is the last of them, unless the path is absolute. -/
def ancestors (path : Path) : List Path :=
  let (anchor, segments) := path.anchored
  let ends := (List.range segments.length).filter fun n => !(segments[n]?.all isFiller)
  let below := (ends.map fun n => ofAnchored anchor (segments.take n)).reverse
  if anchor = some .here then below ++ [⟨[]⟩] else below

/-- What is left of a path after its first `n` components, as it was written. -/
def dropComponents (n : Nat) (path : Path) : Path :=
  match n, path.anchored with
  | 0, _ => path.withoutTrailingFillers
  | n + 1, (some _, rest) => remainder (dropSegments n rest)
  | n + 1, (none, rest) => remainder (dropSegments (n + 1) rest)
where
  /-- The segments that are left, without the fillers around them. -/
  remainder (segments : List Text) : Path :=
    ⟨Text.joinWith ['/'] (dropTrailingFillers (segments.dropWhile isFiller))⟩

/-- The path as seen from a directory above it, or the path itself if the directory is not above
it. -/
def relativeTo (base path : Path) : Path :=
  if base.components.isPrefixOf path.components then path.dropComponents base.components.length
  else path

/-- The text that shows a path relative to a directory; a backslash is shown as a slash. -/
def displayed (base path : Path) : Text :=
  (relativeTo base path).text.map fun c => if c = '\\' then '/' else c

/-! ## Order -/

/-- Components are ordered: the root, the place itself, the place above, then names by their
characters. -/
def Component.key : Component → List Nat
  | .root => [0]
  | .here => [1]
  | .up => [2]
  | .name text => 3 :: text.map Char.toNat

/-- The key by which paths are ordered: component by component. -/
def key (path : Path) : List (List Nat) := path.components.map Component.key

/-- Whether a path comes before another. -/
def isBelow (a b : Path) : Bool := a.key < b.key

example : displayed ⟨"a".toList⟩ ⟨"a/b//c".toList⟩ = "b//c".toList := by decide

example : ancestors ⟨"./a//b/../".toList⟩ =
    [⟨"./a//b".toList⟩, ⟨"./a".toList⟩, ⟨".".toList⟩, ⟨[]⟩] := by decide

example : ancestors ⟨"/a/b".toList⟩ = [⟨"/a".toList⟩, ⟨"/".toList⟩] := by decide

example : displayed ⟨".".toList⟩ ⟨"a/b".toList⟩ = "a/b".toList := by decide

end Path

end Amalgamation
