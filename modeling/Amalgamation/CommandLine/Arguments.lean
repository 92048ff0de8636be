import Amalgamation.Config.Basic

/-!
# Command line arguments

The program has two commands, `bundle` and `check`, each with options of its own. An option that
takes a value is written `--name value` or `--name=value`; every option may be given once, except
that `--with` may be repeated and takes a list with commas. `--` ends the options, and since there
are no other arguments nothing may follow it. Arguments that break these rules are not understood,
and `Command.ofArguments` gives no command for them.
-/

set_option autoImplicit false

namespace Amalgamation.CommandLine

/-- What an option takes. -/
inductive OptionKind where
  | flag
  /-- A path, which must not be empty. -/
  | path
  /-- A list of texts with commas between them. -/
  | list
  deriving DecidableEq, Repr

/-- An option of a command. -/
structure CommandOption where
  name : Text
  kind : OptionKind
  deriving DecidableEq, Repr

/-- An option that was given, with its value; the value of a flag is empty. -/
structure Given where
  name : Text
  value : Text
  deriving DecidableEq, Repr

/-- The options that both commands have. -/
def commonOptions : List CommandOption :=
  [⟨"config".toList, .path⟩, ⟨"project-dir".toList, .path⟩, ⟨"verbose".toList, .flag⟩]

/-- The options of `bundle`. -/
def bundleOptions : List CommandOption :=
  commonOptions ++
    [⟨"source-dir".toList, .path⟩, ⟨"include-dir".toList, .path⟩, ⟨"output-dir".toList, .path⟩,
      ⟨"with".toList, .list⟩, ⟨"debug-sources".toList, .flag⟩]

/-- The options of `check`. -/
def checkOptions : List CommandOption :=
  commonOptions ++ [⟨"limit".toList, .flag⟩, ⟨"json".toList, .flag⟩]

/-- What the program is asked to do. -/
inductive Command where
  | bundle (config projectDir : Option Path) (settings : List Config.Setting)
  | check (config projectDir : Option Path) (limit json : Bool)
  | version
  | help
  deriving DecidableEq, Repr

/-! ## Reading options -/

/-- What came of reading options: they were not understood, help was asked for, or there they
are. -/
inductive OptionsRead where
  | failed
  | help
  | given (options : List Given)
  deriving DecidableEq, Repr

/-- Whether an argument can be the value of an option before it: it does not look like an option. -/
def isValue : Text → Bool
  | ['-'] => true
  | '-' :: _ => false
  | _ => true

/-- The options that were given and one more, unless it must not be given again or its value is
wrong. -/
def record (given : List Given) (option : CommandOption) (value : Text) : Option (List Given) :=
  if option.kind ≠ .list ∧ given.any (fun other => other.name = option.name) then none
  else if option.kind = .path ∧ value = [] then none
  else some (given ++ [⟨option.name, value⟩])

/-- The name and the value of a long option. -/
def splitLong (text : Text) : Text × Option Text :=
  match text.dropWhile (· ≠ '=') with
  | [] => (text, none)
  | _ :: value => (text.takeWhile (· ≠ '='), some value)

/-- What the letters of a short option ask for, one after another: `v` is `--verbose`. -/
def readLetters (given : List Given) : Text → OptionsRead
  | [] => .given given
  | 'h' :: _ => .help
  | 'v' :: letters =>
    match record given ⟨"verbose".toList, .flag⟩ [] with
    | none => .failed
    | some given => readLetters given letters
  | _ => .failed

/-- Reads the arguments of a command. `pending` is the option whose value must come next. -/
def readOptions (options : List CommandOption) :
    (pending : Option CommandOption) → List Given → List Text → OptionsRead
  | none, given, [] => .given given
  | some _, _, [] => .failed
  | some option, given, argument :: arguments =>
    if isValue argument then
      match record given option argument with
      | none => .failed
      | some given => readOptions options none given arguments
    else .failed
  | none, given, argument :: arguments =>
    match argument with
    | ['-', '-'] => if arguments = [] then .given given else .failed
    | '-' :: '-' :: long =>
      let (name, value) := splitLong long
      if name = "help".toList ∧ value = none then .help
      else
        match options.find? fun option => option.name = name with
        | none => .failed
        | some option =>
          match option.kind, value with
          | .flag, none =>
            match record given option [] with
            | none => .failed
            | some given => readOptions options none given arguments
          | .flag, some _ => .failed
          | _, some value =>
            match record given option value with
            | none => .failed
            | some given => readOptions options none given arguments
          | _, none => readOptions options (some option) given arguments
    | ['-'] => .failed
    | '-' :: letters =>
      match readLetters given letters with
      | .failed => .failed
      | .help => .help
      | .given given => readOptions options none given arguments
    | _ => .failed

/-! ## From options to commands -/

/-- The values that were given for an option. -/
def valuesOf (given : List Given) (name : String) : List Text :=
  (given.filter fun option => option.name = name.toList).map (·.value)

/-- Whether an option was given. -/
def isGiven (given : List Given) (name : String) : Bool := valuesOf given name ≠ []

/-- The path that was given for an option. -/
def pathOf (given : List Given) (name : String) : Option Path :=
  (valuesOf given name).head?.map Path.mk

/-- The changes of the configuration that the options of `bundle` ask for. -/
def bundleSettings (given : List Given) : List Config.Setting :=
  let features := (valuesOf given "with").flatMap (Text.splitOn ',')
  ((pathOf given "source-dir").map Config.Setting.sourceDir).toList ++
    ((pathOf given "include-dir").map Config.Setting.includeDir).toList ++
    ((pathOf given "output-dir").map Config.Setting.outputDir).toList ++
    (if features = [] then [] else [.enabledFeatures features]) ++
    (if isGiven given "debug-sources" then [.debugSources true] else [])

/-- The command `bundle` with its arguments. -/
def bundleCommand (arguments : List Text) : Option Command :=
  match readOptions bundleOptions none [] arguments with
  | .failed => none
  | .help => some .help
  | .given given =>
    some (.bundle (pathOf given "config") (pathOf given "project-dir") (bundleSettings given))

/-- The command `check` with its arguments. -/
def checkCommand (arguments : List Text) : Option Command :=
  match readOptions checkOptions none [] arguments with
  | .failed => none
  | .help => some .help
  | .given given =>
    some (.check (pathOf given "config") (pathOf given "project-dir") (isGiven given "limit")
      (isGiven given "json"))

namespace Command

/-- What the letters of a short option in front of the command ask for: a command, or to go on. -/
def ofLetters (verbose : Bool) : Text → Option (Bool × Option Command)
  | [] => some (verbose, none)
  | 'v' :: letters => if verbose then none else ofLetters true letters
  | 'V' :: _ => some (verbose, some .version)
  | 'h' :: _ => some (verbose, some .help)
  | _ => none

/-- What `help` asks for; the name of a command may follow it. -/
def ofHelp : List Text → Option Command
  | [] => some .help
  | [name] =>
    if ["bundle".toList, "check".toList, "help".toList].contains name then some .help else none
  | _ => none

/-- The command that some arguments ask for; `verbose` says whether `--verbose` was already given in
front of the command. -/
def ofArgumentsFrom (verbose : Bool) : List Text → Option Command
  | [] => none
  | argument :: arguments =>
    if argument = "bundle".toList then bundleCommand arguments
    else if argument = "check".toList then checkCommand arguments
    else if argument = "help".toList then ofHelp arguments
    else if argument = "--help".toList then some .help
    else if argument = "--version".toList then some .version
    else if argument = "--verbose".toList then
      if verbose then none else ofArgumentsFrom true arguments
    else
      match argument with
      | '-' :: letter :: letters =>
        match ofLetters verbose (letter :: letters) with
        | none => none
        | some (_, some command) => some command
        | some (verbose, none) => ofArgumentsFrom verbose arguments
      | _ => none

/-- The command that some arguments ask for. -/
def ofArguments (arguments : List Text) : Option Command := ofArgumentsFrom false arguments

end Command

end Amalgamation.CommandLine
