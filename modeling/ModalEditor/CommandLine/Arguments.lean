import ModalEditor.Text.DecimalDigit
import ModalEditor.Text.Basic
/-!
# Command line arguments

Arguments are options, values of options, and at most one plain argument. An option may be shortened to
a beginning that no other option has, and its value may follow an equals sign. After `--` nothing is an
option; joined to an option it is no value, and the option counts as not given. An argument that looks
like a negative number, or holds a space, is plain.
-/
namespace ModalEditor.CommandLine

/-- Why the reading of arguments ended early: they were wrong, or help was asked for. -/
inductive Stop
  | usage
  | help
deriving DecidableEq, Repr

def Stop.status : Stop → Nat
  | usage => 2
  | help => 0

/-- What an option does: it shows help, turns something on, or takes a value of some form. -/
inductive OptionKind
  | help
  | switch
  | value (accepts : Text → Bool)

structure Choice where
  name : Text
  kind : OptionKind

/-- The help option, which every command line has. -/
def helpChoice : Choice := ⟨"--help".toList, .help⟩

/-- One argument by its role; a joined value follows an equals sign. Help with anything that does not
belong to it counts as help with a value. -/
inductive Token
  | plain (t : Text)
  | marker
  | option (choice : Choice) (joined : Option Text)
  | unknown

/-- Whether what follows the short name of help is that name again, any number of times. Behind an equals
sign it has to be there. -/
def helpCluster : Text → Bool
  | '=' :: more => more ≠ [] && more.all (· = 'h')
  | more => more.all (· = 'h')

/-- A minus sign and digits, perhaps with a point among them. -/
def isNegativeNumber (t : Text) : Bool :=
  match t with
  | '-' :: rest =>
    let rest := if rest.getLast? = some '\n' then rest.dropLast else rest
    let whole := rest.takeWhile Text.isDecimalDigit
    match rest.dropWhile Text.isDecimalDigit with
    | [] => whole ≠ []
    | '.' :: decimals => decimals ≠ [] && decimals.all Text.isDecimalDigit
    | _ => false
  | _ => false

def splitAtEquals (t : Text) : Text × Option Text :=
  match t.dropWhile (· ≠ '=') with
  | [] => (t, none)
  | _ :: value => (t.takeWhile (· ≠ '='), some value)

/-- The role of an argument among some options. An option that may be meant in two ways is an error. -/
def classify (choices : List Choice) (arg : Text) : Except Stop Token :=
  match arg with
  | [] => .ok (.plain arg)
  | ['-'] => .ok (.plain arg)
  | ['-', '-'] => .ok .marker
  | '-' :: 'h' :: more => .ok (.option helpChoice (if helpCluster more then none else some []))
  | '-' :: '-' :: _ =>
    let (name, joined) := splitAtEquals arg
    match choices.find? (·.name = name) with
    | some choice => .ok (.option choice joined)
    | none =>
      match choices.filter fun choice => name.isPrefixOf choice.name with
      | [choice] => .ok (.option choice joined)
      | _ :: _ :: _ => .error .usage
      | [] => .ok (if ' ' ∈ arg then .plain arg else .unknown)
  | '-' :: _ => .ok (if isNegativeNumber arg ∨ ' ' ∈ arg then .plain arg else .unknown)
  | _ => .ok (.plain arg)

def tokens (choices : List Choice) : List Text → Except Stop (List Token)
  | [] => .ok []
  | arg :: rest => do
    match ← classify choices arg with
    | .marker => return .marker :: rest.map .plain
    | token => return token :: (← tokens choices rest)

/-- What was read: the plain argument, the values of options, the switches, and whether anything was
left over. -/
structure Reading where
  plain : Option Text := none
  values : List (Text × Text) := []
  switches : List Text := []
  leftover : Bool := false

namespace Reading

def value? (r : Reading) (name : String) : Option Text := r.values.lookup name.toList

def take (r : Reading) (name value : Text) : Reading := { r with values := (name, value) :: r.values }

def forget (r : Reading) (name : Text) : Reading :=
  { r with values := r.values.filter fun entry => entry.1 ≠ name }

end Reading

/-- Goes through the arguments from left to right. `wanted` says whether a plain argument is wanted. -/
def readTokens (wanted : Bool) (r : Reading) : List Token → Except Stop Reading
  | [] => .ok r
  | .unknown :: rest => readTokens wanted { r with leftover := true } rest
  | .option choice joined :: rest =>
    match choice.kind, joined with
    | .help, none => .error .help
    | .switch, none => readTokens wanted { r with switches := choice.name :: r.switches } rest
    | .value accepts, some value =>
      if value = ['-', '-'] then readTokens wanted (r.forget choice.name) rest
      else if accepts value then readTokens wanted (r.take choice.name value) rest else .error .usage
    | .value accepts, none =>
      match rest with
      | .plain value :: rest =>
        if accepts value then readTokens wanted (r.take choice.name value) rest else .error .usage
      | _ => .error .usage
    | _, some _ => .error .usage
  | .plain t :: .marker :: rest =>
    if wanted ∧ r.plain.isNone then readTokens wanted { r with plain := some t } rest
    else readTokens wanted { r with leftover := true } rest
  | .plain t :: rest =>
    if wanted ∧ r.plain.isNone then readTokens wanted { r with plain := some t } rest
    else readTokens wanted { r with leftover := true } rest
  | .marker :: .plain t :: rest =>
    if wanted ∧ r.plain.isNone then readTokens wanted { r with plain := some t } rest
    else readTokens wanted { r with leftover := true } rest
  | .marker :: rest => readTokens wanted { r with leftover := true } rest

def readArguments (choices : List Choice) (wanted : Bool) (args : List Text) :
    Except Stop Reading := do
  let r ← readTokens wanted {} (← tokens (helpChoice :: choices) args)
  if wanted ∧ r.plain.isNone then throw .usage
  return r

end ModalEditor.CommandLine
