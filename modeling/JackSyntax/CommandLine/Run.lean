/-
**Running a command line.**

Every input is analyzed, also after others have failed, and every failure is reported.  An input
whose outputs cannot be printed has failed like one whose outputs cannot be written.

Main definitions:

* `Report` — the exit code of a run and its diagnostics;
* `Outcome` — what the analysis of one input contributes to it;
* `failures`, `summary` — how many inputs have failed, and the last line of a detailed report;
* `printTexts` — printing the texts of an input;
* `analyzeInput`, `analyzeInputs` — the analysis of one input and of several;
* `run` — the analysis of all inputs of a path;
* `execute` — a command line.
-/

import JackSyntax.Analysis.Inputs
import JackSyntax.Analysis.Outputs
import JackSyntax.CommandLine.Arguments
import JackSyntax.CommandLine.Output

set_option relaxedAutoImplicit false
set_option autoImplicit false

namespace JackSyntax.CommandLine

/-! ### Texts -/

/-- The name of the program. -/
def programName : String := "jack-analyzer"

/-- The version of the program. -/
def programVersion : String := "0.1.0"

/-- The form of a command line. -/
def usage : String := "Usage: " ++ programName ++ " [OPTIONS] <PATH>"

/-- The description of the arguments and options. -/
def helpText : String :=
  "Writes the parse tree of each Jack source file as nested XML tags\n\n" ++ usage ++ "\n\n" ++
  "Arguments:\n" ++
  "  <PATH>  A .jack file, or a directory whose .jack files are all analyzed\n\n" ++
  "Options:\n" ++
  "  -t, --tokens         Also write the flat token listing as <Name>T.xml\n" ++
  "  -o, --out-dir <DIR>  Write outputs here instead of next to each source file\n" ++
  "      --stdout         Print outputs instead of writing files\n" ++
  "  -v, --verbose        Report each file written and a summary of the batch\n" ++
  "  -h, --help           Print help\n" ++
  "  -V, --version        Print version\n"

/-- The name and version of the program. -/
def versionText : String := programName ++ " " ++ programVersion ++ "\n"

/-- The diagnostic of an error that ends the run before any input is analyzed. -/
def fatalMessage (error : SystemError) : String :=
  "Error: " ++
    (match error.code? with
      | some code => "Os \x7b code: " ++ toString code ++ ", "
      | none => "Error \x7b ") ++
    "kind: " ++ error.kind ++ ", message: \"" ++ error.text ++ "\" \x7d"

/-! ### Runs -/

/-- What a run leaves behind apart from files and what it has printed. -/
structure Report where
  exitCode : UInt32
  /-- The lines of the error output. -/
  diagnostics : List String
  deriving DecidableEq

/-- The text of the error output. -/
def Report.errorOutput (report : Report) : String :=
  String.join (report.diagnostics.map (· ++ "\n"))

/-- What the analysis of one input contributes to a report. -/
structure Outcome where
  diagnostics : List String
  succeeded : Bool
  deriving DecidableEq

/-- The outcome of an input that failed. -/
def Outcome.failed (error : AnalysisError) : Outcome := ⟨["error: " ++ error.message], false⟩

/-- The outcome of an input whose outputs were written. -/
def Outcome.wrote (verbose : Bool) (paths : List Path) : Outcome :=
  ⟨if verbose then paths.map fun path => "wrote " ++ path.text else [], true⟩

/-- The outcome of an input whose outputs were printed. -/
def Outcome.printed : Outcome := ⟨[], true⟩

/-- How many inputs have failed. -/
def failures (outcomes : List Outcome) : Nat := outcomes.countP fun outcome => !outcome.succeeded

/-- No more inputs have failed than there are, so that the difference is the number of the
others. -/
theorem failures_le_length (outcomes : List Outcome) : failures outcomes ≤ outcomes.length :=
  List.countP_le_length

/-- The last line of a detailed report. -/
def summary (outcomes : List Outcome) : String :=
  toString (outcomes.length - failures outcomes) ++ " of " ++ toString outcomes.length ++
    " file(s) analyzed"

/-- The report of a run over inputs. -/
def Report.ofOutcomes (verbose : Bool) (outcomes : List Outcome) : Report where
  exitCode := if failures outcomes = 0 then 0 else 1
  diagnostics :=
    outcomes.flatMap Outcome.diagnostics ++ if verbose then [summary outcomes] else []

/-- Makes the directory that a destination names. -/
def prepare {m : Type → Type} [Monad m] [MonadFiles m] (destination : Destination) :
    m (Except SystemError Unit) :=
  match destination.directory? with
  | some directory => makeDirectories directory
  | none => return .ok ()

section

variable {m : Type → Type} [Monad m] [MonadOutput m]

/-- Prints the texts of an input until one fails. -/
def printTexts (input : Path) : List String → m (Except AnalysisError Unit)
  | [] => return .ok ()
  | text :: texts => do
      match ← MonadOutput.print text with
      | .error error => return .error (.system input error)
      | .ok () => printTexts input texts

/-- Prints a text about the program.  It is no error if this fails. -/
def inform (text : String) : m Report := do
  let _ ← MonadOutput.print text
  return ⟨0, []⟩

variable [MonadFiles m]

/-- Analyzes one input. -/
def analyzeInput (options : Options) (input : Path) : m Outcome := do
  match ← compileFile options.withTokens input with
  | .error error => return .failed error
  | .ok compiled =>
      match options.destination with
      | .standardOutput =>
          match ← printTexts input compiled.texts with
          | .ok () => return .printed
          | .error error => return .failed error
      | destination =>
          match ← writeOutputs (compiled.outputs input destination.directory?) with
          | .ok paths => return .wrote options.verbose paths
          | .error error => return .failed error

/-- Analyzes inputs one after the other. -/
def analyzeInputs (options : Options) : List Path → m (List Outcome)
  | [] => return []
  | input :: inputs => do
      let outcome ← analyzeInput options input
      let others ← analyzeInputs options inputs
      return outcome :: others

/-- Analyzes all inputs of a path. -/
def run (options : Options) : m Report := do
  match ← inputsAt options.path with
  | .error error => return ⟨1, ["error: " ++ error.message]⟩
  | .ok inputs =>
      match ← prepare options.destination with
      | .error error => return ⟨1, [fatalMessage error]⟩
      | .ok () => return .ofOutcomes options.verbose (← analyzeInputs options inputs)

/-- Does what the arguments of a command line ask for. -/
def execute (arguments : List Bytes) : m Report :=
  match parseArguments arguments with
  | .error error =>
      return ⟨2, ["error: " ++ error.message, "", usage, "",
        "For more information, try '--help'."]⟩
  | .ok .help => inform helpText
  | .ok .version => inform versionText
  | .ok (.analyze options) => run options

end

end JackSyntax.CommandLine
