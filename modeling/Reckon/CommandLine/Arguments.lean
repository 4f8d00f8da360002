import Reckon.Text.Basic
import Reckon.Text.Quoted

/-!
The arguments of the command line. Each argument is first classed by itself: an
option, which may be shortened to a prefix that fits one option only, the
separator `--`, after which nothing is an option, or a plain argument. Then the
options take their values and the first plain argument is the expression.
-/

namespace Reckon.CommandLine

inductive Flag where
  | help | showTree | file | logLevel
  deriving DecidableEq, Repr

namespace Flag

def spellings : List (String × Flag) :=
  [("-h", .help), ("--help", .help), ("--ast", .showTree), ("--file", .file),
    ("--log-level", .logLevel)]

def title : Flag → String
  | .help => "-h/--help"
  | .showTree => "--ast"
  | .file => "--file"
  | .logLevel => "--log-level"

def takesValue : Flag → Bool
  | .file | .logLevel => true
  | .help | .showTree => false

def ofSpelling? (text : String) : Option Flag :=
  (spellings.find? (·.1 == text)).map (·.2)

end Flag

inductive UsageError where
  | ambiguous (argument : String) (spellings : List String)
  | expectedValue (flag : Flag)
  | ignoredValue (flag : Flag) (value : String)
  | unrecognized (arguments : List String)
  deriving DecidableEq

def UsageError.message : UsageError → String
  | .ambiguous argument spellings =>
      "ambiguous option: " ++ argument ++ " could match " ++ String.intercalate ", " spellings
  | .expectedValue flag => "argument " ++ flag.title ++ ": expected one argument"
  | .ignoredValue flag value =>
      "argument " ++ flag.title ++ ": ignored explicit argument " ++ Text.quote value
  | .unrecognized arguments =>
      "unrecognized arguments: " ++ String.intercalate " " arguments

/-- What an argument is by itself. An option may have a value attached by an equals
sign; to a one-letter option letters are attached, with the sign or without it. -/
inductive Role where
  | plain
  | separator
  | option (flag : Flag) (attached : Option String)
  | letters (flag : Flag) (attached : List Char)
  | unknown
  deriving DecidableEq

structure Argument where
  text : String
  role : Role
  deriving DecidableEq

def Role.isOption : Role → Bool
  | .plain | .separator => false
  | .option _ _ | .letters _ _ | .unknown => true

/-- The text before the first equals sign, and the text after it if there is one. -/
def splitValue (text : List Char) : List Char × Option String :=
  match text.dropWhile (· ≠ '=') with
  | [] => (text, none)
  | _ :: value => (text.takeWhile (· ≠ '='), some (String.ofList value))

/-- A minus sign and digits, with a point among or before them, up to the end or a
line feed there. -/
def isNegativeNumber (text : List Char) : Bool :=
  match text with
  | '-' :: digits =>
      let digits := if digits.getLast? = some '\n' then digits.dropLast else digits
      match digits.dropWhile Text.isDecimalDigit with
      | [] => digits ≠ []
      | '.' :: fraction => fraction ≠ [] && fraction.all Text.isDecimalDigit
      | _ => false
  | _ => false

def completions (name : List Char) : List (String × Flag) :=
  Flag.spellings.filter fun (spelling, _) => name.isPrefixOf spelling.toList

def otherRole (text : List Char) : Role :=
  if isNegativeNumber text || ' ' ∈ text then .plain else .unknown

/-- An argument that starts with a minus sign and is longer than that. -/
def dashedRole (text : String) : Except UsageError Role :=
  let (name, value) := splitValue text.toList
  match Flag.ofSpelling? text, Flag.ofSpelling? (String.ofList name), text.toList with
  | some flag, _, _ => .ok (.option flag none)
  | none, some flag, '-' :: '-' :: _ => .ok (.option flag value)
  | none, some flag, _ => .ok (.letters flag (value.getD "").toList)
  | none, none, '-' :: '-' :: _ =>
      match completions name with
      | [] => .ok (otherRole text.toList)
      | [(_, flag)] => .ok (.option flag value)
      | several => .error (.ambiguous text (several.map (·.1)))
  | none, none, letters =>
      match Flag.ofSpelling? (String.ofList (letters.take 2)) with
      | some flag => .ok (.letters flag (letters.drop 2))
      | none => .ok (otherRole letters)

def classify (text : String) : Except UsageError Argument :=
  match text.toList with
  | '-' :: _ :: _ => (dashedRole text).map (⟨text, ·⟩)
  | _ => .ok ⟨text, .plain⟩

/-- Classes all arguments before any of them acts. -/
def classifyAll : List String → Except UsageError (List Argument)
  | [] => .ok []
  | "--" :: rest => .ok (⟨"--", .separator⟩ :: rest.map (⟨·, .plain⟩))
  | text :: rest => do
      let first ← classify text
      let more ← classifyAll rest
      return first :: more

structure Options where
  expression : Option String
  showTree : Bool
  file : Option String
  logLevel : Option String
  deriving DecidableEq

def Options.default : Options := ⟨none, false, none, some "WARNING"⟩

inductive Request where
  | help
  | run (options : Options)
  deriving DecidableEq

/-- What the arguments so far have set, whether an expression is still awaited, and
the arguments that have no use. -/
structure State where
  options : Options
  awaiting : Bool
  leftover : List String

namespace State

def initial : State := ⟨.default, true, []⟩

def leave (state : State) (arguments : List Argument) : State :=
  { state with leftover := state.leftover ++ arguments.map Argument.text }

/-- The first plain argument is the expression. -/
def takePlain (state : State) (text : String) : State :=
  if state.awaiting then
    { state with options := { state.options with expression := some text }, awaiting := false }
  else state.leave [⟨text, .plain⟩]

def setValue (state : State) (flag : Flag) (value : Option String) : State :=
  match flag with
  | .file => { state with options := { state.options with file := value } }
  | .logLevel => { state with options := { state.options with logLevel := value } }
  | .help | .showTree => state

def setFlag (state : State) : State :=
  { state with options := { state.options with showTree := true } }

end State

/-- Letters attached to a one-letter option are one-letter options in turn. Such
options take no value, and help is the only one. -/
def attachedLetters (flag : Flag) : List Char → Except UsageError Request
  | ['h'] => .ok .help
  | 'h' :: rest => attachedLetters flag rest
  | letters => .error (.ignoredValue flag (String.ofList letters))

/-- A separator that is attached as a value takes away the value the option had. -/
def attachedValue? (value : String) : Option String :=
  if value = "--" then none else some value

/-- After the last option. A separator next to the expression belongs to it. -/
def State.finish (state : State) (arguments : List Argument) : State :=
  if state.awaiting then
    match arguments with
    | ⟨_, .separator⟩ :: ⟨text, .plain⟩ :: rest
    | ⟨text, .plain⟩ :: ⟨_, .separator⟩ :: rest
    | ⟨text, .plain⟩ :: rest => (state.takePlain text).leave rest
    | ⟨_, .separator⟩ :: rest | rest => state.leave rest
  else state.leave arguments

def conclude (state : State) : Except UsageError Request :=
  if state.leftover.isEmpty then .ok (.run state.options)
  else .error (.unrecognized state.leftover)

def interpret (state : State) : List Argument → Except UsageError Request
  | ⟨_, .option flag (some value)⟩ :: rest =>
      if flag.takesValue then interpret (state.setValue flag (attachedValue? value)) rest
      else .error (.ignoredValue flag value)
  | ⟨_, .option .help none⟩ :: _ => .ok .help
  | ⟨_, .option .showTree none⟩ :: rest => interpret state.setFlag rest
  | ⟨_, .option flag none⟩ :: ⟨value, .plain⟩ :: rest =>
      interpret (state.setValue flag (some value)) rest
  | ⟨_, .option flag none⟩ :: _ => .error (.expectedValue flag)
  | ⟨_, .letters flag attached⟩ :: _ => attachedLetters flag attached
  | ⟨text, .unknown⟩ :: rest => interpret (state.leave [⟨text, .unknown⟩]) rest
  | ⟨text, .plain⟩ :: rest =>
      if rest.any (·.role.isOption) then interpret (state.takePlain text) rest
      else conclude (state.finish (⟨text, .plain⟩ :: rest))
  | arguments => conclude (state.finish arguments)

def parse (arguments : List String) : Except UsageError Request := do
  interpret .initial (← classifyAll arguments)

def usage : String :=
  "usage: parsemath [-h] [--ast] [--file FILE] [--log-level LOG_LEVEL] [expr]\n"

def help : String :=
  usage ++ "
Evaluate arithmetic expressions.

positional arguments:
  expr                  expression to evaluate; omit for interactive mode

options:
  -h, --help            show this help message and exit
  --ast                 print the parsed tree before the result
  --file FILE           evaluate every non-blank line of a file
  --log-level LOG_LEVEL
                        logging level (default: WARNING)
"

def usageErrorText (error : UsageError) : String :=
  usage ++ "parsemath: error: " ++ error.message ++ "\n"

end Reckon.CommandLine
