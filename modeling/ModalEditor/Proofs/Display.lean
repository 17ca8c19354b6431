import ModalEditor.Proofs.Runs
/-!
# What a host shows

A host tells its hooks about the text, the cursor and the mode. A step either ends by showing all of them, or
changes none of them and says nothing about them, also when it fails; so the hooks always know the host as
it is.
-/
namespace ModalEditor

variable {τ : Type}

namespace HookCall

def line? : HookCall → Option (List Text × Position)
  | line lines cursor => some (lines, cursor)
  | _ => none

def mode? : HookCall → Option Text
  | mode label => some label
  | _ => none

def status? : HookCall → Option Text
  | status text => some text
  | _ => none

end HookCall

def lastShown {α : Type} (what : HookCall → Option α) (calls : List HookCall) : Option α :=
  (calls.filterMap what).getLast?

theorem lastShown_append {α : Type} (what : HookCall → Option α) (earlier later : List HookCall) :
    lastShown what (earlier ++ later) = (lastShown what later).or (lastShown what earlier) := by
  rw [lastShown, List.filterMap_append, List.getLast?_append]
  rfl

namespace Host

/-- How a step from `h` to `after` deals with its hooks: it shows all of `after` in the end, or leaves what
it does not show. -/
inductive Published (h : Host τ) : Host τ → List HookCall → Prop
  | shown (after : Host τ) (before : List HookCall) : Published h after (before ++ after.refresh)
  | silent {after : Host τ} {calls : List HookCall} (hlines : after.lines = h.lines)
    (hcursor : after.cursor = h.cursor) (hmode : after.mode = h.mode)
    (hline : lastShown HookCall.line? calls = none) (hlabel : lastShown HookCall.mode? calls = none) :
    Published h after calls

/-- The calls so far show the host as it is. -/
def UpToDate (h : Host τ) (calls : List HookCall) : Prop :=
  lastShown HookCall.line? calls = some (h.lines, h.cursor) ∧
    lastShown HookCall.mode? calls = some h.mode.label

private theorem upToDate_refresh (h : Host τ) (before : List HookCall) :
    h.UpToDate (before ++ h.refresh) := by
  constructor
  · rw [lastShown_append]
    rfl
  · rw [lastShown_append]
    rfl

theorem UpToDate.step {h after : Host τ} {earlier calls : List HookCall} (hseen : h.UpToDate earlier)
    (hstep : h.Published after calls) : after.UpToDate (earlier ++ calls) := by
  cases hstep with
  | shown before =>
    rw [← List.append_assoc]
    exact upToDate_refresh after (earlier ++ before)
  | silent hlines hcursor hmode hline hlabel =>
    constructor
    · rw [lastShown_append, hline, hlines, hcursor]
      exact hseen.1
    · rw [lastShown_append, hlabel, hmode]
      exact hseen.2

section

variable {h : Host τ}

theorem Published.idle (h : Host τ) : h.Published h [] := .silent rfl rfl rfl rfl rfl

theorem Published.refresh (h after : Host τ) : h.Published after after.refresh := .shown after []

theorem Published.log {after : Host τ} {calls : List HookCall} (hstep : h.Published after calls)
    (text : Text) : h.Published after (.log text :: calls) := by
  cases hstep with
  | shown before => exact .shown after (.log text :: before)
  | silent hlines hcursor hmode hline hlabel => exact .silent hlines hcursor hmode hline hlabel

private theorem leaveInsert_published (h : Host τ) : h.Published h.leaveInsert.host h.leaveInsert.shown :=
  .shown h.leaveInsert.host [.status []]

private theorem insert_published (h : Host τ) (text : Text) :
    h.Published (h.insert text).host (h.insert text).shown := by
  have htyped (line : Text) (column : Int) :
      h.Published (h.retype line column).host (h.retype line column).shown := .refresh h _
  unfold insert
  split
  · exact .idle h
  · split
    · exact .idle h
    · dsimp only
      split
      · split
        · exact .idle h
        · exact htyped _ _
      · split
        · exact htyped _ _
        · exact .idle h

private theorem apply_published (h before : Host τ) (o : Outcome) :
    h.Published (before.apply o).host (before.apply o).shown :=
  .shown (before.apply o).host [.status (outcomeStatus o), .log (outcomeLog o)]

variable [LE τ] [DecidableLE τ]

private theorem processTimeouts_published (h : Host τ) :
    h.Published h.processTimeouts.host h.processTimeouts.shown := by
  unfold processTimeouts
  rw [Engine.value_processTimeouts]
  dsimp only
  split <;> exact .silent rfl rfl rfl rfl rfl

private theorem enterInsert_published (h : Host τ) (key : Text) :
    h.Published (h.polled.enterInsert key).host (h.polled.enterInsert key).shown := by
  unfold enterInsert
  split
  · exact .silent rfl rfl rfl rfl rfl
  · exact .refresh h _

variable [Add τ]

private theorem feed_published {key : Text} (hkey : key ∉ Engine.escapeKeys) (hmode : h.mode ≠ .insert) :
    h.Published (h.feed key).host (h.feed key).shown := by
  have hanswered : h.Answered (h.feed key) := feed_answered hkey hmode
  generalize h.feed key = step at hanswered ⊢
  cases hanswered with
  | failed hposition hkept => exact .silent rfl hposition hkept rfl rfl
  | waits hposition hkept => exact .silent rfl hposition hkept rfl rfl
  | done => exact apply_published h _ _

private theorem route_published (h : Host τ) (key : Text) (text : Option Text) :
    h.Published (h.route key text).host (h.route key text).shown := by
  have hrouted := route_routed h key text
  generalize h.route key text = step at hrouted ⊢
  cases hrouted with
  | left => exact leaveInsert_published h
  | typed => exact insert_published h (text.getD key)
  | began => exact enterInsert_published h key
  | fed hkey hmode => exact feed_published hkey hmode

private theorem handleKey_published (h : Host τ) (key : Text) (text : Option Text) :
    h.Published (h.handleKey key text).host (h.handleKey key text).shown :=
  (route_published h key text).log (h.keyLog key)

def shown (h : Host τ) : HostEvent τ → List HookCall
  | .key key text => (h.handleKey key text).shown
  | .advance _ => []
  | .timeouts => h.processTimeouts.shown

def record (h : Host τ) : List (HostEvent τ) → List HookCall
  | [] => []
  | event :: rest => h.shown event ++ (h.after event).record rest

private theorem after_published (h : Host τ) (event : HostEvent τ) :
    h.Published (h.after event) (h.shown event) := by
  cases event with
  | key key text => exact handleKey_published h key text
  | advance duration => exact .silent rfl rfl rfl rfl rfl
  | timeouts => exact processTimeouts_published h

theorem UpToDate.run {earlier : List HookCall} (hseen : h.UpToDate earlier)
    (events : List (HostEvent τ)) : (h.run events).UpToDate (earlier ++ h.record events) := by
  induction events generalizing h earlier with
  | nil =>
    rw [record, List.append_nil]
    exact hseen
  | cons event rest ih =>
    rw [record, ← List.append_assoc]
    exact ih (hseen.step (after_published h event))

/-- From its start on and after any events, those that fail included, the text and the cursor that a host
showed last are its own, and so is the mode. -/
theorem shows_itself (engine : Engine τ) (lines : List Text) (events : List (HostEvent τ)) :
    let first := start engine lines
    let calls := first.shown ++ first.host.record events
    let h := first.host.run events
    lastShown HookCall.line? calls = some (h.lines, h.cursor) ∧
      lastShown HookCall.mode? calls = some h.mode.label := by
  intro first calls h
  have hseen : first.host.UpToDate first.shown := upToDate_refresh first.host []
  exact hseen.run events

end

end Host
end ModalEditor
