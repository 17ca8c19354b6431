import Mathlib.Algebra.Order.Group.Nat
import Mathlib.Algebra.Order.Monoid.Unbundled.Basic
import ModalEditor.KeyBuffer
/-!
# Waiting keys

Stale keys are not dropped by a clock but by whoever looks at the buffer next. What a buffer shows still
depends on its history alone: it is what was pushed since the last reset, and it does not matter how often
anybody looked.
-/
namespace ModalEditor

variable {τ : Type}

/-! ### Parsers in the log -/

/-- The texts that a parser was called on, as its spans have them. -/
def parserInputs (calls : List LogCall) : List Text :=
  calls.filterMap fun call =>
    match call.action with
    | .addContext key t => if key = "input".toList then some t else none
    | _ => none

private theorem parserInputs_append (calls more : List LogCall) :
    parserInputs (calls ++ more) = parserInputs calls ++ parserInputs more := List.filterMap_append

private theorem Session.parserInputs_parse (s : Session) (logger : Option Text) (keys : Text) :
    parserInputs (s.parse logger keys).calls = [keys] := by
  unfold Session.parse
  obtain ⟨after, answer⟩ := s.read keys
  cases answer with
  | error fault => rfl
  | ok found => rfl

/-! ### Buffers -/

def completed (found : Except Fault (Option Command)) : Except Fault (Option Command) :=
  found.map (·.filter fun c => !c.pending)

def isCommand : Except Fault (Option Command) → Bool
  | .ok (some _) => true
  | _ => false

namespace IdleTimer

variable [AddCommMonoid τ] [LinearOrder τ] [IsOrderedCancelAddMonoid τ] {t : IdleTimer τ} {wait : τ}

private theorem expired_advance (h : 0 ≤ wait) (hexpired : t.expired = true) :
    (t.advance wait).expired = true := by
  cases hdeadline : t.deadline with
  | none => simp [expired, hdeadline] at hexpired
  | some deadline =>
    simp only [expired, hdeadline, Option.any_some, decide_eq_true_eq] at hexpired
    simpa [expired, advance, hdeadline] using hexpired.trans (le_add_of_nonneg_right h)

private theorem expired_arm_advance (t : IdleTimer τ) (wait : τ) :
    (t.arm.advance wait).expired = decide (t.timeout ≤ wait) := by
  simp [expired, advance, arm]

end IdleTimer

namespace KeyBuffer

theorem afterRead_eq (b : KeyBuffer τ) (s : Session) (found : Except Fault (Option Command)) :
    b.afterRead s found =
      (if isCommand (completed found) then b.clear else b, s, completed found) := by
  cases found with
  | error fault => rfl
  | ok found =>
    cases found with
    | none => rfl
    | some c =>
      cases h : c.pending <;> simp [afterRead, completed, isCommand, Except.map, Option.filter_some, h]

section

variable [LE τ] [DecidableLE τ]

private theorem parserInputs_processTimeouts (b : KeyBuffer τ) :
    parserInputs b.processTimeouts.calls = [] := by
  unfold processTimeouts
  dsimp only
  split <;> rfl

private theorem parserInputs_polled (b : KeyBuffer τ) : parserInputs b.polled.calls = [] := by
  rw [polled, Logged.calls_map, parserInputs_processTimeouts]

private theorem parserInputs_parse (b : KeyBuffer τ) (s : Session) (logger : Option Text) :
    parserInputs (b.parse s logger).calls = if b.fresh.keys = [] then [] else [b.fresh.keys] := by
  rw [parse, Logged.calls_bind, parserInputs_append, parserInputs_polled, List.nil_append, value_polled]
  by_cases h : b.fresh.keys = []
  · rw [if_pos h, if_pos h]
    rfl
  · rw [if_neg h, if_neg h, Logged.calls_bind, Logged.calls_pure, List.append_nil,
      Session.parserInputs_parse]

end

section

variable [AddMonoid τ]

private theorem advance_zero (b : KeyBuffer τ) : b.advance 0 = b := by
  simp [advance, IdleTimer.advance]

private theorem advance_advance (b : KeyBuffer τ) (wait more : τ) :
    (b.advance wait).advance more = b.advance (wait + more) := by
  simp [advance, IdleTimer.advance, add_assoc]

end

section

variable [AddCommMonoid τ] [LinearOrder τ] [IsOrderedCancelAddMonoid τ] {wait : τ}

private theorem fresh_advance_fresh (b : KeyBuffer τ) (h : 0 ≤ wait) :
    (b.fresh.advance wait).fresh = (b.advance wait).fresh := by
  by_cases hexpired : b.timer.expired = true
  · have hlater := IdleTimer.expired_advance h hexpired
    rw [fresh_of_expired hexpired, fresh_of_expired (b := b.advance wait) hlater]
    rfl
  · rw [fresh_of_not_expired hexpired]

private theorem text_arm_advance (keys : Text) (t : IdleTimer τ) (wait : τ) :
    ((⟨keys, t.arm⟩ : KeyBuffer τ).advance wait).text = if t.timeout ≤ wait then [] else keys := by
  have hexpired := t.expired_arm_advance wait
  by_cases h : t.timeout ≤ wait
  · rw [if_pos h, text, fresh_of_expired (hexpired.trans (decide_eq_true h))]
    rfl
  · rw [if_neg h, text, fresh_of_not_expired (by simp [advance, hexpired, h])]
    rfl

end

end KeyBuffer

/-! ### Readers -/

inductive View
  | text
  | length
  | pending
deriving DecidableEq, Repr

/-- What a host does to a buffer, and the time that passes. -/
inductive ReaderEvent (τ : Type)
  | push (key : Text)
  | clear
  | parse
  | look (view : View)
  | processTimeouts
  | advance (wait : τ)

inductive ReaderAnswer
  | done
  | command (found : Except Fault (Option Command))
  | text (keys : Text)
  | length (n : Nat)
  | flag (b : Bool)

def View.of (view : View) (keys : Text) : ReaderAnswer :=
  match view with
  | text => .text keys
  | length => .length keys.length
  | pending => .flag (keys ≠ [])

def ReaderEvent.isPoll : ReaderEvent τ → Bool
  | look _ | processTimeouts => true
  | _ => false

def ReaderAnswer.isCommand : ReaderAnswer → Bool
  | command found => ModalEditor.isCommand found
  | _ => false

abbrev History (τ : Type) := List (ReaderEvent τ × ReaderAnswer)

/-- The keys that were pushed since the last reset, if `waited` is the time that passed behind the
history. A reset is a clear, a parse that answered a command, and a wait behind a push that reached the
timeout. -/
def pushedSince [Add τ] [Zero τ] [LE τ] [DecidableLE τ] (timeout waited : τ) : History τ → Text
  | [] => []
  | (event, answer) :: earlier =>
    match event with
    | .push key => if timeout ≤ waited then [] else pushedSince timeout 0 earlier ++ key
    | .clear => []
    | .parse => if answer.isCommand then [] else pushedSince timeout waited earlier
    | .look _ | .processTimeouts => pushedSince timeout waited earlier
    | .advance wait => pushedSince timeout (wait + waited) earlier

/-- A key buffer together with the session that its keys are read against. -/
structure KeyReader (τ : Type) where
  buffer : KeyBuffer τ
  session : Session
  logger : Option Text

namespace KeyReader

def start (timeout now : τ) (session : Session) (logger : Option Text) : KeyReader τ :=
  ⟨{ timer := { timeout, now } }, session, logger⟩

section

variable [LE τ] [DecidableLE τ]

def fresh (r : KeyReader τ) : KeyReader τ := { r with buffer := r.buffer.fresh }

theorem fresh_fresh (r : KeyReader τ) : r.fresh.fresh = r.fresh := by
  simp only [fresh, KeyBuffer.fresh_fresh]

variable [Add τ]

def step (r : KeyReader τ) : ReaderEvent τ → Logged (KeyReader τ × ReaderAnswer)
  | .push key => do
    let buffer ← r.buffer.push key
    return ({ r with buffer }, .done)
  | .clear => pure ({ r with buffer := r.buffer.clear }, .done)
  | .parse => do
    let (buffer, session, found) ← r.buffer.parse r.session r.logger
    return ({ r with buffer, session }, .command found)
  | .look view => do
    let buffer ← r.buffer.polled
    return ({ r with buffer }, view.of buffer.keys)
  | .processTimeouts => do
    let (buffer, dropped) ← r.buffer.processTimeouts
    return ({ r with buffer }, .flag dropped)
  | .advance wait => pure ({ r with buffer := r.buffer.advance wait }, .done)

def run (r : KeyReader τ) : List (ReaderEvent τ) → KeyReader τ
  | [] => r
  | event :: rest => (r.step event).value.1.run rest

def history (r : KeyReader τ) (past : History τ) : List (ReaderEvent τ) → History τ
  | [] => past
  | event :: rest =>
    (r.step event).value.1.history ((event, (r.step event).value.2) :: past) rest

private theorem value_step_parse (r : KeyReader τ) :
    let read := r.session.read r.buffer.fresh.keys
    (r.step .parse).value =
      ({ r with
          buffer := if isCommand (completed read.2) then r.buffer.clear else r.buffer.fresh
          session := read.1 },
        .command (completed read.2)) := by
  simp only [step, Logged.value_bind, Logged.value_pure, KeyBuffer.value_parse]
  by_cases h : r.buffer.fresh.keys = []
  · rw [if_pos h, h]
    rfl
  · rw [if_neg h, KeyBuffer.afterRead_eq, KeyBuffer.clear_fresh]

private theorem parserInputs_step (r : KeyReader τ) (event : ReaderEvent τ) :
    parserInputs (r.step event).calls =
      match event with
      | .parse => if r.buffer.fresh.keys = [] then [] else [r.buffer.fresh.keys]
      | _ => [] := by
  cases event with
  | push key => simp [step, KeyBuffer.push, KeyBuffer.parserInputs_polled]
  | parse => simp [step, KeyBuffer.parserInputs_parse]
  | look view => simp [step, KeyBuffer.parserInputs_polled]
  | processTimeouts => simp [step, KeyBuffer.parserInputs_processTimeouts]
  | _ => rfl

private theorem step_poll {r : KeyReader τ} {event : ReaderEvent τ} (h : event.isPoll = true) :
    (r.step event).value.1 = r.fresh := by
  cases event with
  | look view => simp [step, fresh]
  | processTimeouts => simp [step, fresh]
  | _ => cases h

private theorem value_step_parse_fresh (r : KeyReader τ) :
    (r.fresh.step .parse).value = (r.step .parse).value := by
  simp only [value_step_parse, fresh, KeyBuffer.fresh_fresh, KeyBuffer.clear_fresh]

private theorem answer_step_fresh (r : KeyReader τ) {event : ReaderEvent τ} (h : event ≠ .processTimeouts) :
    (r.fresh.step event).value.2 = (r.step event).value.2 := by
  cases event with
  | push key => rfl
  | clear => rfl
  | parse => rw [value_step_parse_fresh]
  | look view => simp [step, fresh, KeyBuffer.fresh_fresh]
  | processTimeouts => exact absurd rfl h
  | advance wait => rfl

end

section

variable [AddCommMonoid τ] [LinearOrder τ] [IsOrderedCancelAddMonoid τ]
  {timeout : τ} {r : KeyReader τ} {past : History τ} {events : List (ReaderEvent τ)}

/-- A reader shows what a history says, now and after any further wait: a wait that is yet to come may
still make its keys stale. -/
structure Shows (timeout : τ) (past : History τ) (r : KeyReader τ) : Prop where
  timeout_eq : r.buffer.timer.timeout = timeout
  text_eq : ∀ waited, 0 ≤ waited → (r.buffer.advance waited).text = pushedSince timeout waited past

theorem Shows.fresh (h : Shows timeout past r) : Shows timeout past r.fresh := by
  refine ⟨r.buffer.fresh_timer.2.trans h.timeout_eq, ?_⟩
  intro waited hwaited
  rw [← h.text_eq waited hwaited, KeyBuffer.text, KeyBuffer.text]
  exact congrArg KeyBuffer.keys (r.buffer.fresh_advance_fresh hwaited)

theorem Shows.step (h : Shows timeout past r) (event : ReaderEvent τ)
    (hforward : ∀ wait, event = .advance wait → 0 ≤ wait) :
    Shows timeout ((event, (r.step event).value.2) :: past) (r.step event).value.1 := by
  cases event with
  | push key =>
    -- the gap before the key counts for the earlier ones alone, and the timer starts again
    have hnow : r.buffer.text = pushedSince timeout 0 past := by
      rw [← h.text_eq 0 le_rfl, KeyBuffer.advance_zero]
    have hpushed : (r.step (.push key)).value.1.buffer =
        ⟨r.buffer.text ++ key, r.buffer.fresh.timer.arm⟩ := r.buffer.value_push key
    refine ⟨?_, ?_⟩
    · rw [hpushed]
      exact h.fresh.timeout_eq
    · intro waited _
      rw [hpushed, KeyBuffer.text_arm_advance, r.buffer.fresh_timer.2, h.timeout_eq, hnow]
      rfl
  | clear => exact ⟨h.timeout_eq, fun _ _ => rfl⟩
  | parse =>
    rw [value_step_parse]
    dsimp only
    cases hcommand : isCommand (completed (r.session.read r.buffer.fresh.keys).2) with
    | true =>
      rw [if_pos rfl]
      refine ⟨h.timeout_eq, ?_⟩
      intro waited _
      exact (if_pos hcommand).symm
    | false =>
      rw [if_neg Bool.false_ne_true]
      refine ⟨h.fresh.timeout_eq, ?_⟩
      intro waited hwaited
      exact (h.fresh.text_eq waited hwaited).trans (if_neg (Bool.eq_false_iff.1 hcommand)).symm
  | look view =>
    rw [step_poll rfl]
    exact ⟨h.fresh.timeout_eq, h.fresh.text_eq⟩
  | processTimeouts =>
    rw [step_poll rfl]
    exact ⟨h.fresh.timeout_eq, h.fresh.text_eq⟩
  | advance wait =>
    have hwait := hforward wait rfl
    refine ⟨h.timeout_eq, ?_⟩
    intro waited hwaited
    have hlater : (r.buffer.advance wait).advance waited = r.buffer.advance (wait + waited) :=
      KeyBuffer.advance_advance r.buffer wait waited
    exact (congrArg KeyBuffer.text hlater).trans (h.text_eq _ (add_nonneg hwait hwaited))

theorem Shows.run (h : Shows timeout past r) (hforward : ∀ wait, .advance wait ∈ events → 0 ≤ wait) :
    Shows timeout (r.history past events) (r.run events) := by
  induction events generalizing r past with
  | nil => exact h
  | cons event rest ih =>
    have hstep := h.step event fun wait hwait => hforward wait (hwait ▸ List.mem_cons_self)
    exact ih hstep fun wait hwait => hforward wait (List.mem_cons_of_mem event hwait)

/-! ### Looks on the way -/

private theorem fresh_step_fresh (r : KeyReader τ) {event : ReaderEvent τ}
    (hforward : ∀ wait, event = .advance wait → 0 ≤ wait) :
    (r.fresh.step event).value.1.fresh = (r.step event).value.1.fresh := by
  cases event with
  | push key => simp [step, fresh, KeyBuffer.fresh_fresh]
  | clear => simp [step, fresh, KeyBuffer.clear_fresh]
  | parse => rw [value_step_parse_fresh]
  | look view =>
    rw [step_poll rfl, step_poll rfl, fresh_fresh]
  | processTimeouts =>
    rw [step_poll rfl, step_poll rfl, fresh_fresh]
  | advance wait => simp [step, fresh, KeyBuffer.fresh_advance_fresh _ (hforward wait rfl)]

private theorem fresh_run_congr {s : KeyReader τ} (hsame : r.fresh = s.fresh)
    (hforward : ∀ wait, .advance wait ∈ events → 0 ≤ wait) :
    (r.run events).fresh = (s.run events).fresh := by
  induction events generalizing r s with
  | nil => exact hsame
  | cons event rest ih =>
    have hevent (wait : τ) (hwait : event = .advance wait) : 0 ≤ wait :=
      hforward wait (hwait ▸ List.mem_cons_self)
    have hstep : (r.step event).value.1.fresh = (s.step event).value.1.fresh := by
      rw [← r.fresh_step_fresh hevent, hsame, s.fresh_step_fresh hevent]
    exact ih hstep fun wait hwait => hforward wait (List.mem_cons_of_mem event hwait)

/-- A run comes to the same, up to a last look, if every look on the way is left out. -/
theorem fresh_run_filter (hforward : ∀ wait, .advance wait ∈ events → 0 ≤ wait) :
    (r.run (events.filter (!·.isPoll))).fresh = (r.run events).fresh := by
  induction events generalizing r with
  | nil => rfl
  | cons event rest ih =>
    have hrest (wait : τ) (hwait : .advance wait ∈ rest) : 0 ≤ wait :=
      hforward wait (List.mem_cons_of_mem event hwait)
    cases hpoll : event.isPoll with
    | true =>
      -- the look is gone from the filtered run, and the rest of the run cannot tell
      have hlook : r.fresh = (r.step event).value.1.fresh := by
        rw [step_poll hpoll, fresh_fresh]
      rw [List.filter_cons_of_neg (by simp [hpoll]), ih hrest]
      exact fresh_run_congr hlook hrest
    | false =>
      rw [List.filter_cons_of_pos (by simp [hpoll])]
      exact ih hrest

private theorem answer_run_congr {others : List (ReaderEvent τ)}
    (hforward : ∀ wait, .advance wait ∈ events → 0 ≤ wait)
    (hsame : others.filter (!·.isPoll) = events.filter (!·.isPoll)) {event : ReaderEvent τ}
    (h : event ≠ .processTimeouts) :
    ((r.run others).step event).value.2 = ((r.run events).step event).value.2 := by
  have hothers (wait : τ) (hwait : .advance wait ∈ others) : 0 ≤ wait := by
    have hkept : .advance wait ∈ events.filter (!·.isPoll) :=
      hsame ▸ List.mem_filter.2 ⟨hwait, rfl⟩
    exact hforward wait (List.mem_filter.1 hkept).1
  have hfresh : (r.run others).fresh = (r.run events).fresh := by
    rw [← fresh_run_filter hothers, hsame, fresh_run_filter hforward]
  rw [← answer_step_fresh _ h, hfresh, answer_step_fresh _ h]

/-- Stale keys take no part in anything. Whatever was done to a buffer, it shows the keys that were
pushed since the last reset, and its parser is called on them or not at all; looks on the way change no
later answer. -/
theorem answers_pushedSince (timeout now : τ) (session : Session) (logger : Option Text)
    (events : List (ReaderEvent τ)) (hforward : ∀ wait, .advance wait ∈ events → 0 ≤ wait) :
    let r := start timeout now session logger
    let after := r.run events
    let waiting := pushedSince timeout 0 (r.history [] events)
    (∀ view, (after.step (.look view)).value.2 = view.of waiting) ∧
      (after.step .parse).value.2 = .command (completed (after.session.read waiting).2) ∧
      (∀ event, parserInputs (after.step event).calls =
        match event with
        | .parse => if waiting = [] then [] else [waiting]
        | _ => []) ∧
      ∀ others, others.filter (!·.isPoll) = events.filter (!·.isPoll) →
        ∀ event, event ≠ .processTimeouts →
          ((r.run others).step event).value.2 = (after.step event).value.2 := by
  intro r after waiting
  -- the history tells what waits, whatever was polled on the way
  have hshows : Shows timeout (r.history [] events) after := Shows.run ⟨rfl, fun _ _ => rfl⟩ hforward
  have hkeys : after.buffer.fresh.keys = waiting := by
    have htext := hshows.text_eq 0 le_rfl
    rwa [KeyBuffer.advance_zero] at htext
  refine ⟨?_, ?_, ?_, ?_⟩
  · intro view
    rw [← hkeys]
    simp [step]
  · rw [value_step_parse, hkeys]
  · intro event
    rw [← hkeys]
    exact after.parserInputs_step event
  · intro others hsame event hevent
    exact answer_run_congr hforward hsame hevent

/-- A key that went stale does not join the next ones, and the word motion is read without it. -/
theorem answers_pushedSince_stale :
    let events : List (ReaderEvent Nat) :=
      [.push ['d'], .advance 2, .parse, .advance 1, .push ['2'], .look .length, .advance 2, .push ['w']]
    let after := (start 3 0 {} none).run events
    (after.step (.look .text)).value.2 = .text ['2', 'w'] ∧
      (after.step .parse).value.2 =
        .command (.ok (some ⟨none, some (.motion ['w']), some ⟨2, by decide⟩, none⟩)) ∧
      parserInputs (after.step .parse).calls = [['2', 'w']] := by
  intro events after
  obtain ⟨hview, hparse, hinputs, -⟩ :=
    answers_pushedSince 3 0 {} none events fun wait _ => Nat.zero_le wait
  exact ⟨(hview .text).trans (by rfl), hparse.trans (by rfl), (hinputs .parse).trans (by rfl)⟩

end

end KeyReader
end ModalEditor
