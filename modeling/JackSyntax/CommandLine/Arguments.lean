/-
**Command line arguments.**

Arguments are given as bytes.  They are read from left to right, and the first that cannot stand
where it is decides, as does the first that asks for help or for the version.  Short options may
share a dash; the value of an option may follow in the same argument, after an equals sign or
without one, or in the next argument.  After `--` every argument is a path.

Main definitions:

* `Options`, `Destination` — what to analyze, and where the outputs go;
* `Request` — what the arguments ask for;
* `UsageError` — why arguments cannot be understood, and `UsageError.message`;
* `Argument` — one argument or option, and `readArguments` — those of a command line;
* `parseArguments` — the request of a command line.
-/

import JackSyntax.FileSystem.Path

set_option relaxedAutoImplicit false
set_option autoImplicit false

namespace JackSyntax.CommandLine

/-- Where outputs go. -/
inductive Destination where
  /-- Next to each input. -/
  | beside
  /-- Into a directory. -/
  | inside (directory : Path)
  | standardOutput
  deriving DecidableEq

/-- The directory that a destination names. -/
def Destination.directory? : Destination → Option Path
  | .inside directory => some directory
  | _ => none

/-- What to analyze, and how. -/
structure Options where
  path : Path
  withTokens : Bool
  destination : Destination
  verbose : Bool
  deriving DecidableEq

/-- What a command line asks for. -/
inductive Request where
  | analyze (options : Options)
  | help
  | version
  deriving DecidableEq

/-- The options without a value. -/
inductive Flag where
  | tokens
  | standardOutput
  | verbose
  deriving DecidableEq

/-- The name of a flag. -/
def Flag.name : Flag → String
  | .tokens => "--tokens"
  | .standardOutput => "--stdout"
  | .verbose => "--verbose"

/-- The option for the directory of the outputs. -/
def directoryOption : String := "--out-dir <DIR>"

/-- The argument that names the inputs. -/
def pathArgument : String := "<PATH>"

/-- Why arguments cannot be understood. -/
inductive UsageError where
  | unexpectedArgument (text : String)
  | unexpectedValue (value option : String)
  | missingValue (option : String)
  | repeated (option : String)
  | conflict
  | missingPath
  deriving DecidableEq

/-- The text of a usage error. -/
def UsageError.message : UsageError → String
  | .unexpectedArgument text => "unexpected argument '" ++ text ++ "' found"
  | .unexpectedValue value option =>
      "unexpected value '" ++ value ++ "' for '" ++ option ++ "' found; no more were expected"
  | .missingValue option => "a value is required for '" ++ option ++ "' but none was supplied"
  | .repeated option => "the argument '" ++ option ++ "' cannot be used multiple times"
  | .conflict =>
      "the argument '" ++ directoryOption ++ "' cannot be used with '" ++
        Flag.standardOutput.name ++ "'"
  | .missingPath =>
      "the following required arguments were not provided:\n  " ++ pathArgument

/-! ### Single arguments -/

/-- One argument or option of a command line. -/
inductive Argument where
  | path (bytes : Bytes)
  | directory (bytes : Bytes)
  | flag (flag : Flag)
  | help
  | version
  /-- What cannot be understood, whatever follows it. -/
  | invalid (error : UsageError)
  deriving DecidableEq

/-- The byte of a dash. -/
def dash : UInt8 := '-'.toUInt8

/-- The byte of an equals sign. -/
def equalsSign : UInt8 := '='.toUInt8

/-- The option of a letter, for the letters of options without a value. -/
def shortOption? : Char → Option Argument
  | 't' => some (.flag .tokens)
  | 'v' => some (.flag .verbose)
  | 'h' => some .help
  | 'V' => some .version
  | _ => none

/-- The option of a long name, for options without a value. -/
def longOption? (name : String) : Option Argument :=
  match name with
  | "tokens" => some (.flag .tokens)
  | "verbose" => some (.flag .verbose)
  | "stdout" => some (.flag .standardOutput)
  | "help" => some .help
  | "version" => some .version
  | _ => none

/-- Letters that share a dash, as they are shown if the first is that of no option: this letter, or
all of them if they begin with no character. -/
def shownLetters (letters : Bytes) : String :=
  match frontChar? letters with
  | some c => c.toString
  | none => lossy letters

/-- The directory that stands behind its option, with or without an equals sign. -/
def readDirectory : Bytes → List Argument × Bool
  | [] => ([], true)
  | byte :: value => ([.directory (if byte = equalsSign then value else byte :: value)], false)

/-- The options that share a dash.  The second part tells whether the last one still needs a
value. -/
def readCluster : Bytes → List Argument × Bool
  | [] => ([], false)
  | letter :: letters =>
      if letter = 'o'.toUInt8 then readDirectory letters
      else
        match shortOption? (Char.ofUInt8 letter) with
        | some option => (option :: (readCluster letters).1, (readCluster letters).2)
        | none =>
            ([.invalid (.unexpectedArgument ("-" ++ shownLetters (letter :: letters)))], false)

/-- The option with a long name, which may have a value behind an equals sign.  The second part
tells whether it still needs a value.  A name that is no text is shown as none of the options. -/
def readLong (bytes : Bytes) : List Argument × Bool :=
  let name := lossy (bytes.takeWhile (· != equalsSign))
  match name, bytes.dropWhile (· != equalsSign) with
  | "out-dir", [] => ([], true)
  | "out-dir", _ :: value => ([.directory value], false)
  | name, value =>
      match longOption? name, value with
      | some option, [] => ([option], false)
      | some _, _ :: value => ([.invalid (.unexpectedValue (lossy value) ("--" ++ name))], false)
      | none, _ => ([.invalid (.unexpectedArgument ("--" ++ name))], false)

/-- Whether an argument is read as an option: it begins with a dash and is not the dash alone. -/
def isOption : Bytes → Bool
  | first :: _ :: _ => first == dash
  | _ => false

/-- The options in an argument.  The second part tells whether the last one still needs a value. -/
def readOption : Bytes → List Argument × Bool
  | _ :: second :: rest => if second = dash then readLong rest else readCluster (second :: rest)
  | _ => ([], false)

/-- The arguments and options of a command line.  The value of an option may not look like an
option when it stands in an argument of its own. -/
def readArguments : List Bytes → List Argument
  | [] => []
  | argument :: rest =>
      if argument = [dash, dash] then rest.map .path
      else if isOption argument then
        match readOption argument, rest with
        | (options, false), rest => options ++ readArguments rest
        | (options, true), [] => options ++ [.invalid (.missingValue directoryOption)]
        | (options, true), value :: rest =>
            if isOption value then options ++ [.invalid (.missingValue directoryOption)]
            else options ++ .directory value :: readArguments rest
      else .path argument :: readArguments rest

/-! ### Whole command lines -/

/-- What has been read of a command line. -/
structure Given where
  path? : Option Bytes
  directory? : Option Bytes
  flags : List Flag
  deriving DecidableEq

/-- The options of a complete command line. -/
def Given.finish (given : Given) : Except UsageError Request :=
  match given.path?, given.directory?, given.flags.contains .standardOutput with
  | none, _, _ => .error .missingPath
  | some _, some _, true => .error .conflict
  | some path, directory?, toOutput =>
      .ok (.analyze
        { path := ⟨path⟩
          withTokens := given.flags.contains .tokens
          destination :=
            match directory? with
            | some directory => .inside ⟨directory⟩
            | none => if toOutput then .standardOutput else .beside
          verbose := given.flags.contains .verbose })

/-- The request of arguments and options, after those that were given before. -/
def Given.request (given : Given) : List Argument → Except UsageError Request
  | [] => given.finish
  | .invalid error :: _ => .error error
  | .help :: _ => .ok .help
  | .version :: _ => .ok .version
  | .path bytes :: rest =>
      if given.path?.isSome then .error (.unexpectedArgument (lossy bytes))
      else if bytes.isEmpty then .error (.missingValue pathArgument)
      else request { given with path? := some bytes } rest
  | .directory bytes :: rest =>
      if given.directory?.isSome then .error (.repeated directoryOption)
      else if bytes.isEmpty then .error (.missingValue directoryOption)
      else request { given with directory? := some bytes } rest
  | .flag flag :: rest =>
      if given.flags.contains flag then .error (.repeated flag.name)
      else request { given with flags := flag :: given.flags } rest

/-- The request of a command line. -/
def parseArguments (arguments : List Bytes) : Except UsageError Request :=
  Given.request ⟨none, none, []⟩ (readArguments arguments)

end JackSyntax.CommandLine
