import PdfText.CommandLine.Arguments
import PdfText.CommandLine.LogFilter
import PdfText.Extractor

/-!
# The command line

The command extracts the text of a PDF into a file and says in one line what came of it. Help and
the version are printed where they are asked for, and words that cannot be understood are
complained about.

The words, the paths among them and the setting of the log are Unicode text. What a system hands over
that is not UTF-8 lies outside of this.

## Main definitions

* `CommandLine.Outcome` — what a run prints and how it exits
* `CommandLine.run` — a whole run
-/

namespace PdfText.CommandLine

/-- What a run prints and how it exits. -/
structure Outcome where
  /-- The number that tells success from failure. -/
  exitCode : Nat
  /-- What goes to the output. -/
  printed : String := ""
  /-- What is complained about. -/
  complaint : String := ""
  deriving DecidableEq, Repr

/-- The words that are expected. -/
def usage : String := "Usage: extract_pdf [OPTIONS] <INPUT_PDF> <OUTPUT_TXT>\n"

/-- What the command does and what its words mean. -/
def helpText : String :=
  "Extract the text of every page of a PDF into a text file\n\n" ++ usage ++
  "\nArguments:\n" ++
  "  <INPUT_PDF>   PDF file to extract text from\n" ++
  "  <OUTPUT_TXT>  Text file to write, created or truncated\n" ++
  "\nOptions:\n" ++
  "  -p, --password <PASSWORD>  User password for encrypted PDFs\n" ++
  "  -v, --verbose...           Log more detail to stderr (repeat for more)\n" ++
  "  -h, --help                 Print help\n" ++
  "  -V, --version              Print version\n"

/-- The name and the version of the command. -/
def versionText : String := "extract_pdf 0.1.0\n"

/-- The exit code of success. -/
def success : Nat := 0

/-- The exit code of failure. -/
def failure : Nat := 1

/-- The exit code of a run that ends in a defect. -/
def breakdown : Nat := 101

/-- What is said about words that cannot be understood. -/
def complaintAbout (reason : Rejection) : String :=
  "error: " ++ reason.message ++ "\n\n" ++ (if reason.showsUsage then usage ++ "\n" else "") ++
    "For more information, try '--help'.\n"

/-- What is said when an extraction has ended. -/
def outcomeOf (arguments : Arguments) : Except (Halt ExtractError) Summary → Outcome
  | .ok _ =>
    { exitCode := success
      printed := "Successfully extracted text from " ++ arguments.input ++ " to " ++
        arguments.output ++ "\n" }
  | .error (.cause error) =>
    { exitCode := failure
      printed := "Error extracting text from " ++ arguments.input ++ ": " ++ error.message ++ "\n" }
  | .error (.defect _) =>
    { exitCode := breakdown, complaint := "the extraction broke down\n" }

variable {m : Type → Type} [Monad m]

/-- Runs an extraction, if there is anything to extract from. -/
def extract (around : Surroundings m) (setting : Option String) (arguments : Arguments) :
    m Outcome := do
  if ← around.isPresent arguments.input then
    let logged := around.logging (LogFilter.choose setting arguments.verbosity)
    let extractor : Extractor := { password := arguments.password }
    let result ← (extractor.extractToFile logged arguments.input arguments.output).run
    if result.isOk then logged.report .runDone
    return outcomeOf arguments result
  else
    return { exitCode := failure, printed := "PDF file not found: " ++ arguments.input ++ "\n" }

/-- A whole run, given the setting for the log and the words of the command line. -/
def run (around : Surroundings m) (setting : Option String) (words : List String) :
    m Outcome :=
  match Invocation.ofWords words with
  | .help => return { exitCode := success, printed := helpText }
  | .version => return { exitCode := success, printed := versionText }
  | .rejected reason => return { exitCode := failure, complaint := complaintAbout reason }
  | .extraction arguments => extract around setting arguments

end PdfText.CommandLine
