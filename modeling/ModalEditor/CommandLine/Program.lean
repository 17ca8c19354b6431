import ModalEditor.CommandLine.Arguments
import ModalEditor.Engine.Basic
/-!
# The program

Two commands: `test` tells how keys are read, and `run` applies keys to a text. A third command line
starts the screen.
-/
namespace ModalEditor.CommandLine

/-- How a run of the program ends: without running at all, or with what it printed. -/
inductive Exit
  | stopped (stop : Stop)
  | done (status : Nat) (out err : Text)
deriving DecidableEq, Repr

inductive Request
  | test (keys : Text) (language : Option Text)
  | run (keys line : Text) (row column : Int) (tabWidth : Option Int)
deriving DecidableEq, Repr

def isInteger (t : Text) : Bool := (Text.readInt? t).isSome

def isLanguage (t : Text) : Bool := (Language.ofCode t).toOption.isSome

def integerChoice (name : String) : Choice := ⟨name.toList, .value isInteger⟩

def textChoice (name : String) : Choice := ⟨name.toList, .value fun _ => true⟩

def verboseChoice : Choice := ⟨"--verbose".toList, .switch⟩

def testChoices : List Choice := [⟨"--lang".toList, .value isLanguage⟩, verboseChoice]

def runChoices : List Choice :=
  [textChoice "--line", integerChoice "--cursor", integerChoice "--row", integerChoice "--tab-width",
    verboseChoice]

def Reading.integer? (r : Reading) (name : String) : Option Int := (r.value? name).bind Text.readInt?

def readCommand (name : Text) (args : List Text) : Except Stop (Request × Bool) := do
  if name = "test".toList then
    let r ← readArguments testChoices true args
    return (.test (r.plain.getD []) (r.value? "--lang"), r.leftover)
  else if name = "run".toList then
    let r ← readArguments runChoices true args
    return (.run (r.plain.getD []) ((r.value? "--line").getD []) ((r.integer? "--row").getD 0)
      ((r.integer? "--cursor").getD 0) (r.integer? "--tab-width"), r.leftover)
  else throw .usage

/-- Reads the arguments of the program: the first plain one names the command, and all that follow are
the command's. -/
def readRequest (leftover : Bool) : List Text → Except Stop Request
  | [] => .error .usage
  | arg :: rest => do
    match ← classify [helpChoice] arg with
    | .plain name =>
      let (request, more) ← readCommand name rest
      if leftover || more then throw .usage
      return request
    | .option _ none => throw .help
    | .option _ (some _) => throw .usage
    | .marker => throw .usage
    | .unknown => readRequest true rest

def orDash (t : Text) : Text := if t = [] then ['-'] else t

def printed (lines : List Text) : Text := lines.flatMap fun line => line ++ ['\n']

def labelled (label : String) (t : Text) : Text := label.toList ++ t

def runTest (env : Environment) (keys : Text) (language : Option Text) : Except Fault Exit := do
  let spoken ← match language with
    | some code => Language.ofCode code
    | none => do pure (← env.settings).language
  let valid ← isValidCommand keys
  let head := [labelled "input:     " keys,
    labelled "valid:     " (if valid then "yes".toList else "no".toList)]
  match ← (Session.read {} keys).2 with
  | none => return .done (if valid then 0 else 1) (printed head) []
  | some command =>
    let count ← match command.count with
      | some n => Text.writeNat n.val
      | none => pure []
    let described ← command.describe spoken
    return .done 0 (printed (head ++
      [labelled "operator:  " (orDash command.operatorKeys),
        labelled "motion:    " (orDash command.motionKeys),
        labelled "count:     " (orDash count),
        labelled "object:    " (orDash ((command.object?.map TextObject.keys).getD [])),
        labelled "register:  " (orDash (command.register.getD [])),
        labelled "described: " described])) []

/-- The settings of the environment, with a tab width of the command line. -/
def chosenSettings (env : Environment) (tabWidth : Option Int) : Except Fault Settings := do
  let settings ← env.settings
  match tabWidth with
  | some width => settings.withTabWidth width
  | none => return settings

def report (mode : Mode) (last : Outcome) : Text :=
  printed (last.lines ++
    [labelled "cursor:    " (Text.intDigits last.cursor.line ++ ':' :: Text.intDigits last.cursor.column),
      labelled "mode:      " mode.name] ++
    match last.register with
    | some name => [labelled "register:  \"" (name ++ " = ".toList ++ Text.quoted last.deleted)]
    | none => [])

/-- Applies keys to a text. No time passes meanwhile. -/
def runKeys (env : Environment) (keys line : Text) (position : Position) (tabWidth : Option Int) :
    Except Fault Exit := do
  let settings ← chosenSettings env tabWidth
  let engine : Engine Nat := .start settings settings.idleTimeout 0 none
  let (engine, answer) :=
    (engine.runFrom keys (Text.lines (Text.breakEscapes line)) (some position)).value
  match answer with
  | .error (.lineOutside p) =>
    return .done 2 [] (printed [labelled "error: " (Fault.lineOutside p).message])
  | .error (.columnOutside p) =>
    return .done 2 [] (printed [labelled "error: " (Fault.columnOutside p).message])
  | .error fault => throw fault
  | .ok outcomes =>
    match outcomes.getLast? with
    | none =>
      return .done 1 (printed [labelled "pending:   " (orDash engine.pendingKeys.value.2)]) []
    | some last => return .done (if last.noop then 1 else 0) (report engine.session.mode last) []

def program (env : Environment) (args : List Text) : Except Fault Exit :=
  match readRequest false args with
  | .error stop => .ok (.stopped stop)
  | .ok (.test keys language) => runTest env keys language
  | .ok (.run keys line row column tabWidth) => runKeys env keys line ⟨row, column⟩ tabWidth

structure Launch where
  lines : List Text
  settings : Settings
deriving Repr

def launchChoices : List Choice := [textChoice "--text", integerChoice "--tab-width"]

/-- Reads the command line that starts the screen. -/
def launch (env : Environment) (args : List Text) : Except Fault (Except Stop Launch) :=
  match readArguments launchChoices false args with
  | .error stop => .ok (.error stop)
  | .ok r =>
    if r.leftover then .ok (.error .usage)
    else do
      let settings ← chosenSettings env (r.integer? "--tab-width")
      let text := (r.value? "--text").getD "hello world".toList
      return .ok ⟨Text.lines (Text.breakEscapes text), settings⟩

end ModalEditor.CommandLine
