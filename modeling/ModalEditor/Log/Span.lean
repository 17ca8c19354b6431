import ModalEditor.Log.Call
import ModalEditor.Log.Value
/-!
# Events and spans

An event is one log entry. A span brackets a piece of work: its metadata becomes context of the logger
for the time of the work, the work is profiled and counted for a component, and its failure is logged.
-/
namespace ModalEditor

/-- An entry for a named event, with texts as its data. -/
def logEvent (logger : Text) (level : Level) (name : Text) (data : List (Text × Text)) : Logged Unit :=
  .call logger (.entry level ("event::".toList ++ name)
    (Fields.putAll [("event".toList, name)] data))

/-- Asks a logger by name to take a named event. A level of a logger with structured entries gets the
data as fields; any other method of the logger gets it as one text. -/
def recordEvent (logger : Text) (structured : Bool) (level : Value) (name : Text)
    (data : Fields Value) : Logged (Except Fault Unit) :=
  let message := "event::".toList ++ name
  let payload := Fields.putAll [("event".toList, Value.text name)] data
  let action : Except Fault (Option LogAction) := do
    let asked ← level.written
    match if structured then Level.ofName? asked else none with
    | some known => return some (.entry known message (← payload.written))
    | none =>
      let method ← Fault.unless (.unknownLevel asked) (LogMethod.ofName? structured asked)
      return method.action? (message ++ ' ' :: (← (Value.record payload).nested))
  match action with
  | .error fault => pure (.error fault)
  | .ok none => pure (.ok ())
  | .ok (some action) => Except.ok <$> Logged.call logger action

/-- What a span says of itself: its name, its component, and what was noted so far. -/
structure SpanRecord where
  name : Text
  component : Option Text
  notes : Fields Text

namespace SpanRecord

def note (record : SpanRecord) (key value : Text) : SpanRecord :=
  { record with notes := record.notes.put key value }

/-- Notes several values in turn, up to the first that cannot be written. -/
def noteAll (record : SpanRecord) : List (Text × Value) → SpanRecord × Except Fault Unit
  | [] => (record, .ok ())
  | (key, value) :: rest =>
    match value.written with
    | .error fault => (record, .error fault)
    | .ok t => (record.note key t).noteAll rest

def payload (record : SpanRecord) (extra : List (Text × Text)) : Fields Text :=
  let head : Fields Text := [("span".toList, record.name)]
  let located := match record.component with
    | some component => head.put "component".toList component
    | none => head
  (located.putAll record.notes).putAll extra

end SpanRecord

/-- The component that a span counts for: none, one of its own name, or another one. -/
inductive ComponentChoice
  | none
  | sameName
  | named (component : Text)
deriving DecidableEq, Repr

def ComponentChoice.name? (choice : ComponentChoice) (span : Text) : Option Text :=
  match choice with
  | .none => Option.none
  | .sameName => (some span).filter (· ≠ [])
  | .named component => (some component).filter (· ≠ [])

/-- Makes metadata context of a logger, one key after the other, up to the first value that cannot be
written. -/
def pushContext (logger : Text) : Fields Value → Logged (Except Fault (Fields Text))
  | [] => pure (.ok [])
  | (key, value) :: rest =>
    match value.written with
    | .error fault => pure (.error fault)
    | .ok t => do
      Logged.call logger (.addContext key t)
      return (← pushContext logger rest).map ((key, t) :: ·)

def popContext (logger : Text) : List Text → Logged Unit
  | [] => pure ()
  | key :: rest => do
    Logged.call logger (.removeContext key)
    popContext logger rest

def span {α : Type} (logger name : Text) (component : ComponentChoice) (metadata : Fields Value)
    (work : SpanRecord → Logged (SpanRecord × Except Fault α)) :
    Logged (Except Fault (SpanRecord × α)) := do
  match ← pushContext logger metadata with
  | .error fault => return .error fault
  | .ok notes =>
    let counted := component.name? name
    if let some c := counted then Logged.call logger (.enter .component c)
    Logged.call logger (.enter .profile name)
    let (record, answer) ← work ⟨name, counted, notes⟩
    if let .error fault := answer then
      Logged.call logger (.entry .error "span::fail".toList
        (record.payload [("reason".toList, fault.message)]))
    popContext logger (notes.map Prod.fst)
    Logged.call logger (.leave .profile name)
    if let some c := counted then Logged.call logger (.leave .component c)
    return answer.map (record, ·)

/-- Runs work that may fail inside a span of the default logger or a named one; `status` words the
outcome. -/
def spanned {α : Type} (logger : Option Text) (name component : Text) (metadata : Fields Value)
    (status : α → Option Text) (work : Logged (Except Fault α)) : Logged (Except Fault α) := do
  let answer ← span (loggerName logger) name (.named component) metadata fun record => do
    let answer ← work
    let noted := match answer with
      | .ok a => (status a).elim record (record.note "status".toList)
      | .error _ => record
    return (noted, answer)
  return answer.map Prod.snd

theorem value_pushContext (logger : Text) (fields : Fields Value) :
    (pushContext logger fields).value = fields.written := by
  induction fields with
  | nil => rfl
  | cons entry rest ih =>
    obtain ⟨key, value⟩ := entry
    simp only [Fields.written] at ih
    cases h : value.written with
    | error fault => simp [pushContext, Fields.written, Fields.mapValues, h, bind, Except.bind]
    | ok t =>
      simp only [pushContext, Fields.written, Fields.mapValues, h, Logged.value_bind,
        Logged.value_pure, ih]
      cases Fields.mapValues Value.written rest <;> rfl

/-- A span answers what its work answers, unless its metadata cannot be written. -/
theorem value_spanned {α : Type} (logger : Option Text) (name component : Text)
    (metadata : Fields Value) (status : α → Option Text) (work : Logged (Except Fault α)) :
    (spanned logger name component metadata status work).value =
      metadata.written.bind fun _ => work.value := by
  have h := value_pushContext (loggerName logger) metadata
  unfold spanned span
  simp only [Logged.value_bind, h]
  cases metadata.written with
  | error fault => rfl
  | ok notes =>
    cases hw : work.value <;> cases (ComponentChoice.named component).name? name <;>
      simp [hw, Except.map, Except.bind]

def foundStatus {α : Type} (found : Option α) : Option Text :=
  some (if found.isSome then "hit".toList else "miss".toList)

end ModalEditor
