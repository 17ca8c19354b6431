import ModalEditor.Text.Basic
import ModalEditor.Text.LetterCase
/-!
# Log calls

What the editor asks of a logger, kept as data: a step answers its value together with the calls made
on the way, in order. Projecting the value forgets the calls.
-/
namespace ModalEditor

inductive Level
  | debug
  | info
  | warning
  | error
  | critical
deriving DecidableEq, Repr

namespace Level

def name : Level → Text
  | debug => "debug".toList
  | info => "info".toList
  | warning => "warning".toList
  | error => "error".toList
  | critical => "critical".toList

def all : List Level := [debug, info, warning, error, critical]

def ofName? (t : Text) : Option Level := all.find? fun level => level.name = Text.lower t

end Level

/-- What a block of work is followed as. -/
inductive Scope
  | component
  | profile
deriving DecidableEq, Repr

def Scope.name : Scope → Text
  | component => "track_component".toList
  | profile => "profile".toList

inductive LogAction
  | addContext (key value : Text)
  /-- A key of context without a value. -/
  | bareContext (key : Text)
  | removeContext (key : Text)
  | enter (scope : Scope) (name : Text)
  | leave (scope : Scope) (name : Text)
  | entry (level : Level) (message : Text) (fields : List (Text × Text))
  /-- A structured entry without fields. -/
  | bareEntry (level : Level) (message : Text)
  | plain (level : Level) (message : Text)
deriving DecidableEq, Repr

inductive LogMethod
  | plain (level : Level)
  | entry (level : Level)
  | addContext
  | removeContext
  | follow (scope : Scope)
deriving DecidableEq, Repr

namespace LogMethod

def name : LogMethod → Text
  | plain level => level.name
  | entry level => level.name ++ "_with".toList
  | addContext => "add_context".toList
  | removeContext => "remove_context".toList
  | follow scope => scope.name

/-- All that a logger does, with structured entries or without. -/
def all (structured : Bool) : List LogMethod :=
  Level.all.map plain ++ (if structured then Level.all.map entry else []) ++
    [addContext, removeContext, follow .component, follow .profile]

def ofName? (structured : Bool) (t : Text) : Option LogMethod :=
  (all structured).find? fun method => method.name = Text.lower t

/-- What a method requests when one text is all it is given. A block that is never entered requests
nothing. -/
def action? (text : Text) : LogMethod → Option LogAction
  | plain level => some (.plain level text)
  | entry level => some (.bareEntry level text)
  | addContext => some (.bareContext text)
  | removeContext => some (.removeContext text)
  | follow _ => none

end LogMethod

/-- A request with the name of the logger it goes to. -/
structure LogCall where
  logger : Text
  action : LogAction
deriving DecidableEq, Repr

/-- A value with the log calls made on the way to it. -/
structure Logged (α : Type) where
  value : α
  calls : List LogCall

namespace Logged

variable {α β : Type}

instance : Monad Logged where
  pure a := ⟨a, []⟩
  bind x f := ⟨(f x.value).value, x.calls ++ (f x.value).calls⟩

def call (logger : Text) (action : LogAction) : Logged Unit := ⟨(), [⟨logger, action⟩]⟩

@[simp] theorem value_pure (a : α) : (pure a : Logged α).value = a := rfl

@[simp] theorem calls_pure (a : α) : (pure a : Logged α).calls = [] := rfl

@[simp] theorem value_bind (x : Logged α) (f : α → Logged β) :
    (x >>= f).value = (f x.value).value := rfl

@[simp] theorem calls_bind (x : Logged α) (f : α → Logged β) :
    (x >>= f).calls = x.calls ++ (f x.value).calls := rfl

@[simp] theorem value_map (f : α → β) (x : Logged α) : (f <$> x).value = f x.value := rfl

@[simp] theorem calls_map (f : α → β) (x : Logged α) : (f <$> x).calls = x.calls := by
  change x.calls ++ [] = x.calls
  exact List.append_nil _

@[simp] theorem value_call (logger : Text) (action : LogAction) :
    (call logger action).value = () := rfl

@[simp] theorem calls_call (logger : Text) (action : LogAction) :
    (call logger action).calls = [⟨logger, action⟩] := rfl

instance : LawfulMonad Logged := LawfulMonad.mk' Logged
  (fun x => by cases x; simp [Functor.map])
  (fun _ _ => by simp [Bind.bind, Pure.pure])
  (fun _ _ _ => by simp [Bind.bind, List.append_assoc])

end Logged

def defaultLogger : Text := "vimline".toList

/-- The logger that is meant by an optional name; an empty name means the default one. -/
def loggerNameOr (default : Text) : Option Text → Text
  | none => default
  | some [] => default
  | some name => name

def loggerName : Option Text → Text := loggerNameOr defaultLogger

end ModalEditor
