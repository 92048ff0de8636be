import Amalgamation.CommandLine.Run
import Std.Time.DateTime
import Std.Time.Format

/-!
# The program

The program takes a picture of the directories that a command looks at, runs the command on this
picture, writes to the disk what the run has changed in it, and shows the texts of the outcome.
-/

set_option autoImplicit false

namespace Amalgamation.Program

open CommandLine

/-- The content of a file on the disk. -/
def readContent (path : Text) : IO FileContent := do
  let bytes ← IO.FS.readBinFile (String.ofList path)
  match String.fromUTF8? bytes with
  | some text => return .text text.toList
  | none => return .undecodable

/-- The path that leads to a location. -/
def pathTo (location : Location) : Text := '/' :: Text.joinWith ['/'] location

/-- Adds to a tree what stands on the disk at a location and below it. -/
partial def addAt (tree : FileTree) (location : Location) : IO FileTree := do
  let path := pathTo location
  let root := (← IO.currentDir) / String.ofList path
  if !(← root.pathExists) then return tree
  if ← root.isDir then
    let mut grown := tree.put location .directory
    for entry in ← root.readDir do
      grown ← addAt grown (location ++ [entry.fileName.toList])
    return grown
  else return tree.put location (.file (← readContent path))

/-- Adds to a tree what stands on the disk where a path leads to, with the directories above it. -/
def addPath (tree : FileTree) (path : Path) : IO FileTree := do
  let names := (tree.startOf path ++ path.segments).filter fun name => !Path.isFiller name
  let above := (List.range names.length).map names.take
  let grown := above.foldl
    (fun tree location => if location = [] then tree else tree.put location .directory) tree
  addAt grown names

/-- The paths that a command looks at once its configuration is known. -/
def pathsOf (world : World) : Command → List Path
  | .bundle file projectDir settings =>
    match loadConfig world file projectDir with
    | .error _ => []
    | .ok config =>
      let config := config.setAll settings
      config.searchRoots ++ [config.outputRoot]
  | .check file projectDir _ _ =>
    match loadConfig world file projectDir with
    | .error _ => []
    | .ok config => [config.projectDir]
  | _ => []

/-- The file that a command reads its configuration from. -/
def configPathOf : Command → List Path
  | .bundle file _ _ => file.toList
  | .check file _ _ _ => file.toList
  | _ => []

/-- The time, in UTC. -/
def timestamp : IO Text := do
  let now ← Std.Time.Timestamp.now
  let wall := Std.Time.PlainDateTime.ofWallTime (now.toWallTime Std.Time.TimeZone.Offset.zero)
  return (wall.format "uuuu-MM-dd HH:mm:ss").toList ++ " +0000".toList

/-- The environment variables that a run may ask for. -/
def environment : IO (Text → Option Text) := do
  let source ← IO.getEnv "AMALGAMATE_SOURCE_PATH"
  let header ← IO.getEnv "AMALGAMATE_INCLUDE_PATH"
  let output ← IO.getEnv "AMALGAMATE_OUTPUT_PATH"
  return fun name =>
    if name = "AMALGAMATE_SOURCE_PATH".toList then source.map (·.toList)
    else if name = "AMALGAMATE_INCLUDE_PATH".toList then header.map (·.toList)
    else if name = "AMALGAMATE_OUTPUT_PATH".toList then output.map (·.toList)
    else none

/-- Writes to the disk what one tree has and another has not. -/
def writeChanges (before after : FileTree) : IO Unit := do
  for (location, node) in after.entries.reverse do
    if before.nodeAt location ≠ some node then
      match node with
      | .directory => IO.FS.createDirAll (String.ofList (pathTo location))
      | .file (.text text) =>
        IO.FS.writeFile (String.ofList (pathTo location)) (String.ofList text)
      | .file .undecodable => pure ()

/-- Runs the program. -/
def start (arguments : List String) : IO UInt32 := do
  let directory := (← IO.currentDir).toString.toList
  let names := (Text.splitOn '/' directory).filter fun name => !Path.isFiller name
  let arguments := arguments.map (·.toList)
  let command := Command.ofArguments arguments
  let mut world : World := ⟨.bare names, ← environment, ← timestamp⟩
  for path in command.toList.flatMap configPathOf do
    world := { world with tree := ← addPath world.tree path }
  for path in command.toList.flatMap (pathsOf world) do
    world := { world with tree := ← addPath world.tree path }
  let (tree, outcome) := CommandLine.run world arguments
  writeChanges world.tree tree
  IO.print (String.ofList outcome.stdout)
  IO.eprint (String.ofList outcome.stderr)
  return outcome.exitCode.toUInt32

end Amalgamation.Program

/-- The program. -/
def main (arguments : List String) : IO UInt32 := Amalgamation.Program.start arguments
