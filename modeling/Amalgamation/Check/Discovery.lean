import Amalgamation.FileTree

/-!
# Finding source files

The source files below a directory are the files whose extension is one of those asked for, except
those in a directory that is hidden or holds build products. Such a directory is not entered, unless
it is the starting one: the starting directory itself is searched whatever its name is. A limited
search starts at the directories `src` and `include` below the given one.

A directory is listed by its path, so the files in it are found only if that path leads to it. The
path of a file may be too long to lead anywhere, since a file is found by its name in the directory.
-/

set_option autoImplicit false

namespace Amalgamation.Discovery

/-- Whether a directory of this name is left out. -/
def isSkipped (name : Text) : Bool :=
  name.head? = some '.' || name = "build".toList || name = "target".toList

/-- Whether a path has one of the extensions. -/
def hasExtension (extensions : List Text) (path : Path) : Bool :=
  path.extension.any fun suffix => suffix ∈ extensions

/-- The files that a walk finds at or below a location when it comes there by a path, each by the
path that leads on to it. A directory is listed by its path, and one that is left out is not
entered. The walk looks at `depth` nodes at most that stand one inside another. -/
def walk (tree : FileTree) : (depth : Nat) → Path → Location → List Path
  | 0, _, _ => []
  | depth + 1, path, location =>
    match tree.nodeAt location with
    | none => []
    | some (.file _) => [path]
    | some .directory =>
      (tree.namesIn path).flatMap fun name =>
        let inside := location ++ [name]
        if tree.nodeAt inside = some .directory && isSkipped name then []
        else walk tree depth (path.join ⟨name⟩) inside

/-- The source files at or below one starting path, in no particular order. -/
def searchFrom (tree : FileTree) (extensions : List Text) (start : Path) : List Path :=
  match tree.locate start with
  | .error _ => []
  | .ok location => (walk tree (tree.height + 1) start location).filter (hasExtension extensions)

/-- The paths that a search starts from. -/
def startingPaths (tree : FileTree) (root : Path) (limit : Bool) : List Path :=
  if limit then
    [root.join ⟨"src".toList⟩, root.join ⟨"include".toList⟩].filter tree.isDirectory
  else [root]

/-- The source files below a directory, each once and in order. -/
def sources (tree : FileTree) (root : Path) (limit : Bool) (extensions : List Text) : List Path :=
  SortedList.ofList Path.isBelow
    ((startingPaths tree root limit).flatMap (searchFrom tree extensions))

end Amalgamation.Discovery
