import CobolAtlas.Config

/-!
# Command line arguments

Options with a value are written `--name value`, `--name=value`, `-n value`, `-nvalue` or
`-n=value`; flags have no value, and short ones may stand together. Arguments are taken from left
to right, and the first that does not fit ends the reading. No option may be given twice.
-/

namespace CobolAtlas

inductive ValueOption where
  | config
  | output
  | dictionary
  | encoding
  deriving DecidableEq, Repr

namespace ValueOption

def ofName? : String → Option ValueOption
  | "config" => some config
  | "output" => some output
  | "dictionary" => some dictionary
  | "encoding" => some encoding
  | _ => none

def ofLetter? : Char → Option ValueOption
  | 'c' => some config
  | 'o' => some output
  | 'd' => some dictionary
  | _ => none

end ValueOption

structure Arguments where
  source : Option String := none
  /-- The values of options, the last one first. -/
  values : List (ValueOption × String) := []
  json : Bool := false
  verbose : Bool := false
  deriving DecidableEq, Repr

inductive Invocation where
  | analyze (arguments : Arguments)
  | version
  | help
  /-- The arguments do not fit. -/
  | misuse
  deriving DecidableEq, Repr

namespace Arguments

def value? (arguments : Arguments) (option : ValueOption) : Option String :=
  (arguments.values.find? fun entry => entry.1 = option).map Prod.snd

/-! ### Taking one argument -/

/-- Gives an option its value. Paths are not empty. -/
def setValue? (arguments : Arguments) (option : ValueOption) (value : String) :
    Option Arguments :=
  if (arguments.value? option).isSome then none
  else if option ≠ .encoding && value.isEmpty then none
  else some { arguments with values := (option, value) :: arguments.values }

def setJson? (arguments : Arguments) : Option Arguments :=
  if arguments.json then none else some { arguments with json := true }

def setVerbose? (arguments : Arguments) : Option Arguments :=
  if arguments.verbose then none else some { arguments with verbose := true }

/-- Takes the source. There is one, and its path is not empty. -/
def setSource? (arguments : Arguments) (path : String) : Option Arguments :=
  if arguments.source.isSome || path.isEmpty then none
  else some { arguments with source := some path }

/-- Where the reading goes on behind an argument. -/
inductive Next where
  | goOn (arguments : Arguments)
  /-- The next argument is the value of an option. -/
  | await (arguments : Arguments) (option : ValueOption)
  | stop (invocation : Invocation)
  deriving DecidableEq, Repr

def Next.ofOption : Option Arguments → Next
  | some arguments => .goOn arguments
  | none => .stop .misuse

/-- An option with its long name, and the value behind an equals sign. -/
def takeLong (arguments : Arguments) (name : String) (value : Option String) : Next :=
  match ValueOption.ofName? name, value with
  | some option, some value => .ofOption (arguments.setValue? option value)
  | some option, none => .await arguments option
  | none, some _ => .stop .misuse
  | none, none =>
    match name with
    | "json" => .ofOption arguments.setJson?
    | "verbose" => .ofOption arguments.setVerbose?
    | "version" => .stop .version
    | "help" => .stop .help
    | _ => .stop .misuse

/-- Options with their letters. What follows the letter of an option with a value is the value. -/
def takeLetters (arguments : Arguments) : List Char → Next
  | [] => .goOn arguments
  | letter :: rest =>
    match ValueOption.ofLetter? letter, rest with
    | some option, [] => .await arguments option
    | some option, '=' :: value => .ofOption (arguments.setValue? option (String.ofList value))
    | some option, value => .ofOption (arguments.setValue? option (String.ofList value))
    | none, _ =>
      match letter with
      | 'v' =>
        match arguments.setVerbose? with
        | some arguments => takeLetters arguments rest
        | none => .stop .misuse
      | 'V' => .stop .version
      | 'h' => .stop .help
      | _ => .stop .misuse

inductive Form where
  /-- Two hyphens end the options. -/
  | endOfOptions
  | long (name : String) (value : Option String)
  | letters (letters : List Char)
  | plain
  deriving DecidableEq, Repr

/-- The form of an argument. A hyphen on its own is no option. -/
def form (argument : String) : Form :=
  match argument.toList with
  | ['-', '-'] => .endOfOptions
  | '-' :: '-' :: rest =>
    let name := String.ofList (rest.takeWhile (· ≠ '='))
    match rest.dropWhile (· ≠ '=') with
    | _ :: value => .long name (some (String.ofList value))
    | [] => .long name none
  | '-' :: letter :: rest => .letters (letter :: rest)
  | _ => .plain

/-! ### Taking all arguments -/

/-- Takes the arguments behind the end of the options. -/
def takePlain (arguments : Arguments) : List String → Invocation
  | [] => .analyze arguments
  | path :: rest =>
    match arguments.setSource? path with
    | some arguments => takePlain arguments rest
    | none => .misuse

/-- Takes arguments, where `awaited` is an option whose value comes next. An argument that looks
like an option is no value. -/
def take (arguments : Arguments) (awaited : Option ValueOption) : List String → Invocation
  | [] => if awaited.isSome then .misuse else .analyze arguments
  | argument :: rest =>
    match awaited, form argument with
    | some option, .plain =>
      match arguments.setValue? option argument with
      | some arguments => take arguments none rest
      | none => .misuse
    | some _, _ => .misuse
    | none, .endOfOptions => takePlain arguments rest
    | none, .plain =>
      match arguments.setSource? argument with
      | some arguments => take arguments none rest
      | none => .misuse
    | none, .long name value => goOn (takeLong arguments name value) rest
    | none, .letters letters => goOn (takeLetters arguments letters) rest
where
  /-- Goes on behind an option. -/
  goOn (next : Next) (rest : List String) : Invocation :=
    match next with
    | .goOn arguments => take arguments none rest
    | .await arguments option => take arguments (some option) rest
    | .stop invocation => invocation

def parse (arguments : List String) : Invocation :=
  take {} none arguments

def apply (arguments : Arguments) (config : Config) : Config :=
  { config with
    resultPath := (arguments.value? .output).getD config.resultPath
    dictionaryPath := (arguments.value? .dictionary).getD config.dictionaryPath
    encoding := (arguments.value? .encoding).getD config.encoding }

end Arguments

end CobolAtlas
