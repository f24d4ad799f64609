import CobolAtlas.Arguments
import CobolAtlas.Report

/-!
# The command

One run of the program: from the arguments over the configuration and the checks of source and
destination to the report. Checks come before any work, and the report is written before anything
is printed, so a run that fails leaves nothing behind.
-/

namespace CobolAtlas

/-- What a run leaves besides the disk. -/
structure Outcome where
  code : Nat
  stdout : String := ""
  stderr : String := ""
  events : List Event := []
  deriving DecidableEq, Repr

namespace Command

variable {m : Type → Type} [Monad m]

/-- The exit code of a failed analysis or of a report that cannot be written. -/
def analysisFailed : Nat := 1

def badArguments : Nat := 2

def badInput : Nat := 100

/-- The exit code of a destination that cannot be written. -/
def outputLocked : Nat := 200

def versionLine : String := "cobol-xref 0.1.0\n"

def usage : String :=
  "Usage: cobol-xref [OPTIONS] [SOURCE]\n\nOptions:\n"
    ++ "  -c, --config <CONFIG>          JSON configuration file\n"
    ++ "  -o, --output <OUTPUT>          Report destination\n"
    ++ "  -d, --dictionary <DICTIONARY>  Table-name dictionary CSV\n"
    ++ "      --encoding <ENCODING>      Source encoding label\n"
    ++ "      --json                     Print the JSON report instead of the text summary\n"
    ++ "  -v, --verbose                  Log progress at info level\n"
    ++ "  -h, --help                     Print help\n"
    ++ "  -V, --version                  Print version\n"

def failure (code : Nat) (message : String) (events : List Event) : Outcome :=
  { code := code, stderr := "Error: " ++ message ++ "\n", events := events }

/-- Why a destination cannot be written, if it cannot. A missing file only needs its directory. -/
def destinationFault? (disk : Disk m) (path : String) : m (Option String) := do
  if ← disk.isPresent path then
    match ← disk.checkWritable path with
    | .ok () => return none
    | .error fault => return some fault.message
  else
    let parent := (Path.parent? path).getD ""
    let directory := if parent.isEmpty then "." else parent
    if ← disk.isDirectory directory then return none
    return some ("directory " ++ directory ++ " does not exist")

def deliver (disk : Disk m) (arguments : Arguments) (config : Config) (report : Report)
    (events : List Event) : m Outcome := do
  let path := config.resultPath
  match ← disk.write path report.jsonText with
  | .error fault =>
    return failure analysisFailed
      ("Failed to write report: " ++ path ++ "\n\nCaused by:\n    " ++ fault.message) events
  | .ok () =>
    let stdout := if arguments.json then report.jsonText ++ "\n" else report.text
    return { code := 0, stdout := stdout, events := events ++ [.reportWritten path] }

/-- Analyses a source that is there and delivers its report. -/
def report (decoding : Charset.Decoding) (disk : Disk m) (arguments : Arguments) (config : Config)
    (source : String) : m Outcome := do
  match config.charset? with
  | none => return failure badInput (AnalysisFault.unknownCharset config.encoding).message []
  | some charset =>
    let dictionary ← Dictionary.load disk config.dictionaryPath
    let analysis ← analyzeFile disk source charset config.scanOptions dictionary.value decoding
    let events := dictionary.events ++ analysis.events
    match analysis.value with
    | .error fault => return failure analysisFailed fault.message events
    | .ok analysis => deliver disk arguments config (Report.ofAnalysis analysis) events

def runWith (decoding : Charset.Decoding) (disk : Disk m) (arguments : Arguments)
    (config : Config) : m Outcome := do
  match arguments.source with
  | none => return failure badInput "no source file given" []
  | some source =>
    if ← disk.isFile source then
      match ← destinationFault? disk config.resultPath with
      | some reason =>
        return failure outputLocked
          ("report destination " ++ config.resultPath ++ " is not writable: " ++ reason) []
      | none => report decoding disk arguments config source
    else return failure badInput ("source file not found: " ++ source) []

def runArguments (decoding : Charset.Decoding) (disk : Disk m) (arguments : Arguments) :
    m Outcome := do
  match ← Config.resolve disk (arguments.value? .config) "." with
  | .error fault => return failure badInput fault.message []
  | .ok config => runWith decoding disk arguments (arguments.apply config)

def run (disk : Disk m) (arguments : List String)
    (decoding : Charset.Decoding := Charset.decode) : m Outcome :=
  match Arguments.parse arguments with
  | .version => pure { code := 0, stdout := versionLine }
  | .help => pure { code := 0, stdout := usage }
  | .misuse => pure { code := badArguments, stderr := usage }
  | .analyze arguments => runArguments decoding disk arguments

end Command

end CobolAtlas
