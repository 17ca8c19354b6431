import Mathlib.Data.List.ReduceOption
import ModalEditor.Host
import ModalEditor.Proofs.Execute
import ModalEditor.Proofs.Typing
/-!
# Feeding keys

A key that the engine reads joins the keys that wait. Then all of them wait on, or they are refused, or they
are a command, which runs and leaves no keys. Whoever feeds the keys one by one, and keeps the lines and the
cursor of each outcome, sees what a run of the engine answers.
-/
namespace ModalEditor

variable {τ : Type}

private theorem Session.read_frame (s : Session) (keys : Text) :
    ∃ search, (s.read keys).1 = { s with lastSearch := search } := by
  unfold Session.read
  split
  · exact ⟨s.lastSearch, rfl⟩
  · split
    · exact ⟨s.lastSearch, rfl⟩
    · split
      · split
        · next search _ => exact ⟨some search, rfl⟩
        · exact ⟨s.lastSearch, rfl⟩
      · exact ⟨s.lastSearch, rfl⟩

theorem Session.read_of_error (s : Session) {keys : Text} {fault : Fault}
    (h : (s.read keys).2 = .error fault) :
    (s.read keys).1 = s ∧ Grammar.read keys = .error fault := by
  unfold Session.read at h ⊢
  split at h
  · cases h
  · split at h
    · cases h
    · next hforward hback =>
      simp only [if_neg hforward, if_neg hback]
      split at h
      · split at h <;> cases h
      · exact ⟨rfl, h⟩

private theorem Session.read_of_answer_waits (s : Session) {keys : Text} (h : Waits (s.read keys).2) :
    (s.read keys).1 = s ∧ Waits (Grammar.read keys) := by
  by_cases hforward : keys = [';']
  · subst hforward
    exact ⟨rfl, trivial⟩
  by_cases hback : keys = [',']
  · subst hback
    exact ⟨rfl, trivial⟩
  rw [read_answer s hforward hback] at h
  rw [s.read_of_waits hforward hback h]
  exact ⟨rfl, h⟩

namespace Engine

variable {e : Engine τ} {key : Text} {lines : List Text} {cursor : Option Position}

variable [LE τ] [DecidableLE τ] [Add τ]

/-- The buffer that a key is read from: what waited and the key, unless the timer takes them at once. -/
def pushed (e : Engine τ) (key : Text) : KeyBuffer τ :=
  KeyBuffer.fresh ⟨e.buffer.text ++ key, e.buffer.fresh.timer.arm⟩

def reading (e : Engine τ) (key : Text) : Session × Except Fault (Option Command) :=
  e.session.read (e.pushed key).keys

theorem reading_frame (e : Engine τ) (key : Text) :
    ∃ search, (e.reading key).1 = { e.session with lastSearch := search } :=
  e.session.read_frame (e.pushed key).keys

/-- What a key that the engine reads may leave, and what it answers. -/
inductive Fed (e : Engine τ) (key : Text) (lines : List Text) (cursor : Option Position) :
    Engine τ × Except Fault (Option Outcome) → Prop
  | waits (h : Session.Waits (e.reading key).2) :
    Fed e key lines cursor ({ e with buffer := e.pushed key }, .ok none)
  | refused {fault : Fault} (h : (e.reading key).2 = .error fault) :
    Fed e key lines cursor ({ e with buffer := e.pushed key }, .error fault)
  | completed {c : Command} (h : (e.reading key).2 = .ok (some c)) (hdone : c.pending = false)
    {after : Engine τ} {answer : Except Fault Outcome}
    (hran : ({ e with buffer := (e.pushed key).clear, session := (e.reading key).1 }.execute c lines
      cursor).value = (after, answer)) :
    Fed e key lines cursor (after, answer.map some)

theorem value_parse_reading (e : Engine τ) (key : Text) :
    (KeyBuffer.parse ⟨e.buffer.text ++ key, e.buffer.fresh.timer.arm⟩ e.session e.logger).value =
      (e.pushed key).afterRead (e.reading key).1 (e.reading key).2 := by
  rw [KeyBuffer.value_parse]
  split
  · -- reading no keys at all is no case of its own: it finds nothing either
    next hnone =>
    have hkeys : (e.pushed key).keys = [] := hnone
    rw [reading, hkeys]
    rfl
  · rfl

theorem feed_unread (lines : List Text) (cursor : Option Position)
    (h : key ∈ escapeKeys ∨ e.session.mode = .insert) :
    ∃ after : Engine τ, (e.feed key lines cursor).value = (after, .ok none) ∧
      after.session.marks = e.session.marks ∧ after.session.position = e.session.position := by
  rw [value_feed]
  split
  · exact ⟨_, rfl, rfl, rfl⟩
  · next hkey =>
    rw [if_pos (h.resolve_left hkey)]
    exact ⟨_, rfl, rfl, rfl⟩

theorem feed_fed (hkey : key ∉ escapeKeys) (hmode : e.session.mode ≠ .insert) :
    Fed e key lines cursor (e.feed key lines cursor).value := by
  rw [value_feed, if_neg hkey, if_neg hmode, value_parse_reading]
  cases hread : (e.reading key).2 with
  | error fault =>
    have hsame : (e.reading key).1 = e.session := (e.session.read_of_error hread).1
    simp only [KeyBuffer.afterRead, executeRead, hsame]
    exact .refused hread
  | ok found =>
    have hwaits (h : Session.Waits (.ok found)) :
        Fed e key lines cursor ({ e with buffer := e.pushed key, session := (e.reading key).1 },
          .ok none) := by
      rw [← hread] at h
      have hsame : (e.reading key).1 = e.session := (e.session.read_of_answer_waits h).1
      rw [hsame]
      exact .waits h
    cases found with
    | none => exact hwaits trivial
    | some c =>
      cases hpending : c.pending with
      | true =>
        simp only [KeyBuffer.afterRead, hpending, if_true]
        exact hwaits hpending
      | false =>
        simp only [KeyBuffer.afterRead, hpending, Bool.false_eq_true, if_false]
        exact .completed hread hpending rfl

theorem Fed.kept {fed : Engine τ × Except Fault (Option Outcome)} (h : Fed e key lines cursor fed)
    (hanswer : ∀ o, fed.2 ≠ .ok (some o)) :
    fed.1.session.position = e.session.position ∧ fed.1.session.mode = e.session.mode := by
  cases h with
  | waits => exact ⟨rfl, rfl⟩
  | refused => exact ⟨rfl, rfl⟩
  | @completed c hread hdone after answer hran =>
    cases answer with
    | ok o => exact absurd rfl (hanswer o)
    | error fault =>
      obtain ⟨search, hsession⟩ := e.reading_frame key
      rw [eq_of_execute_error hran, hsession]
      exact ⟨rfl, rfl⟩

theorem Fed.outcome_sound {fed : Engine τ × Except Fault (Option Outcome)} {o : Outcome}
    (h : Fed e key lines cursor fed) (hs : Sound lines (cursor.getD e.session.position))
    (hanswer : fed.2 = .ok (some o)) : Sound o.lines o.cursor := by
  cases h with
  | waits => cases hanswer
  | refused => cases hanswer
  | @completed c hread hdone after answer hran =>
    cases answer with
    | error => cases hanswer
    | ok =>
      cases hanswer
      obtain ⟨search, hsession⟩ := e.reading_frame key
      refine Engine.outcome_sound ?_ hran
      simp only [hsession]
      exact hs

private theorem Fed.keys_of_error {fed : Engine τ × Except Fault (Option Outcome)} {fault : Fault}
    (h : Fed e key lines cursor fed) (hfault : fed.2 = .error fault) :
    fed.1.buffer.keys = [] ∨ Grammar.read fed.1.buffer.keys = .error fault := by
  cases h with
  | waits => cases hfault
  | refused hread =>
    cases hfault
    exact .inr (e.session.read_of_error hread).2
  | @completed c hread hdone after answer hran =>
    cases answer with
    | ok o => cases hfault
    | error =>
      rw [eq_of_execute_error hran]
      exact .inl rfl

theorem Fed.waits_of_none {fed : Engine τ × Except Fault (Option Outcome)}
    (h : Fed e key lines cursor fed) (hnone : fed.2 = .ok none) :
    Session.Waits (Grammar.read fed.1.buffer.keys) ∧ fed.1.buffer.fresh = fed.1.buffer := by
  cases h with
  | waits hread => exact ⟨(e.session.read_of_answer_waits hread).2, KeyBuffer.fresh_fresh _⟩
  | refused => cases hnone
  | @completed c hread hdone after answer hran => cases answer <;> cases hnone

theorem Fed.position {fed : Engine τ × Except Fault (Option Outcome)}
    (h : Fed e key lines (some e.session.position) fed) :
    fed.1.session.position =
      match fed.2 with
      | .ok (some o) => o.cursor
      | _ => e.session.position := by
  cases h with
  | waits => rfl
  | refused => rfl
  | @completed c hread hdone after answer hran =>
    have hfed : Fed e key lines (some e.session.position) (after, answer.map some) :=
      .completed hread hdone hran
    cases answer with
    | error fault =>
      have hkept := hfed.kept fun o h => by cases h
      exact hkept.1
    | ok o =>
      obtain ⟨search, hsession⟩ := e.reading_frame key
      rw [hsession] at hran
      exact execute_cursor hran

private theorem Fed.modes_of_some {fed : Engine τ × Except Fault (Option Outcome)} {o : Outcome}
    (h : Fed e key lines cursor fed) (hanswer : fed.2 = .ok (some o)) :
    fed.1.buffer.keys = [] ∧
      (fed.1.session.mode = e.session.mode ∨ fed.1.session.mode = .insert) := by
  cases h with
  | waits => cases hanswer
  | refused => cases hanswer
  | @completed c hread hdone after answer hran =>
    cases answer with
    | error => cases hanswer
    | ok =>
      obtain ⟨search, hsession⟩ := e.reading_frame key
      refine ⟨by rw [(execute_ok hran).1]; rfl, ?_⟩
      rw [hsession] at hran
      have hmode := execute_mode hran
      exact hmode

private theorem value_feed_fresh (hkey : key ∉ escapeKeys) (hmode : e.session.mode ≠ .insert) :
    (({ e with buffer := e.buffer.fresh } : Engine τ).feed key lines cursor).value =
      (e.feed key lines cursor).value := by
  simp only [value_feed, if_neg hkey, if_neg hmode, KeyBuffer.text, KeyBuffer.fresh_fresh]

end Engine

theorem Host.feed_eq [LE τ] [DecidableLE τ] [Add τ] (h : Host τ) (key : Text) :
    h.feed key =
      match (h.engine.feed key h.lines (some h.cursor)).value with
      | (engine, .error fault) => ⟨{ h with engine }, [], .error fault⟩
      | (engine, .ok none) =>
        ⟨{ h with engine := { engine with buffer := engine.buffer.fresh } },
          [.status engine.buffer.text], .ok false⟩
      | (engine, .ok (some o)) => Host.apply { h with engine } o := by
  unfold Host.feed
  rcases (h.engine.feed key h.lines (some h.cursor)).value with ⟨engine, fault | _ | o⟩
  · rfl
  · simp only [Engine.value_pendingKeys]
  · rfl

namespace Host

variable {h : Host τ} {key : Text}

def polled [LE τ] [DecidableLE τ] (h : Host τ) : Host τ :=
  { h with engine := { h.engine with buffer := h.engine.buffer.fresh } }

variable [LE τ] [DecidableLE τ] [Add τ]

private theorem feed_polled (hkey : key ∉ Engine.escapeKeys) (hmode : h.mode ≠ .insert) :
    h.polled.feed key = h.feed key := by
  have hsame : (h.polled.engine.feed key h.polled.lines (some h.polled.cursor)).value =
      (h.engine.feed key h.lines (some h.cursor)).value := Engine.value_feed_fresh hkey hmode
  rw [feed_eq, feed_eq, hsame]
  rfl

/-- How a key that the engine reads can end in a host: it fails, keys wait, or there is an outcome. Only
behind an outcome the cursor may be another one, which is the outcome's, or the mode. -/
inductive Answered (h : Host τ) : HostStep τ Bool → Prop
  | failed {engine : Engine τ} {fault : Fault} (hposition : engine.session.position = h.cursor)
    (hmode : engine.session.mode = h.mode)
    (hkeys : engine.buffer.keys = [] ∨ Grammar.read engine.buffer.keys = .error fault) :
    Answered h ⟨{ h with engine }, [], .error fault⟩
  | waits {engine : Engine τ} (hposition : engine.session.position = h.cursor)
    (hmode : engine.session.mode = h.mode) (hwaits : Session.Waits (Grammar.read engine.buffer.keys)) :
    Answered h ⟨{ h with engine }, [.status engine.buffer.keys], .ok false⟩
  | done {engine : Engine τ} {o : Outcome} (hposition : engine.session.position = o.cursor)
    (hmodes : engine.session.mode = h.mode ∨ engine.session.mode = .insert)
    (hkeys : engine.buffer.keys = []) (hsound : Sound h.lines h.cursor → Sound o.lines o.cursor) :
    Answered h (Host.apply { h with engine } o)

theorem feed_answered (hkey : key ∉ Engine.escapeKeys) (hmode : h.mode ≠ .insert) :
    h.Answered (h.feed key) := by
  have hfed : Engine.Fed h.engine key h.lines (some h.cursor)
      (h.engine.feed key h.lines (some h.cursor)).value := Engine.feed_fed hkey hmode
  rw [feed_eq]
  cases hvalue : (h.engine.feed key h.lines (some h.cursor)).value with
  | mk engine answer =>
    rw [hvalue] at hfed
    rcases answer with fault | _ | o
    · obtain ⟨hposition, hkept⟩ := hfed.kept fun o heq => nomatch heq
      exact .failed hposition hkept (hfed.keys_of_error rfl)
    · obtain ⟨hposition, hkept⟩ := hfed.kept fun o heq => nomatch heq
      -- looking at the waiting keys for the status line finds nothing stale
      obtain ⟨hwaits, hfresh⟩ := hfed.waits_of_none rfl
      simp only [KeyBuffer.text, hfresh]
      exact .waits hposition hkept hwaits
    · obtain ⟨hkeys, hmodes⟩ := hfed.modes_of_some rfl
      exact .done hfed.position hmodes hkeys fun hs => hfed.outcome_sound hs rfl

/-- Where a key can go. -/
inductive Routed (h : Host τ) (key : Text) (text : Option Text) : HostStep τ Bool → Prop
  | left (hkey : key ∈ Engine.escapeKeys) : Routed h key text h.leaveInsert
  | typed (hmode : h.mode = .insert) : Routed h key text (h.insert (text.getD key))
  | began (hmode : h.mode ≠ .insert) (hinsert : key ∈ insertKeys) (hnone : h.engine.buffer.text = []) :
    Routed h key text (h.polled.enterInsert key)
  | fed (hkey : key ∉ Engine.escapeKeys) (hmode : h.mode ≠ .insert)
    (hinsert : key ∈ insertKeys → h.engine.buffer.text ≠ []) : Routed h key text (h.feed key)

theorem route_routed (h : Host τ) (key : Text) (text : Option Text) :
    Routed h key text (h.route key text) := by
  unfold route
  split
  · next hkey => exact .left hkey
  · next hkey =>
    split
    · next hmode => exact .typed hmode
    · next hmode =>
      split
      · next hinsert =>
        simp only [Engine.value_pendingKeys]
        split
        · next hnone => exact .began hmode hinsert hnone
        · next hsome =>
          have hfed : h.polled.feed key = h.feed key := feed_polled hkey hmode
          rw [polled] at hfed
          rw [hfed]
          exact .fed hkey hmode fun _ => hsome
      · next hinsert => exact .fed hkey hmode fun hin => absurd hin hinsert

end Host

/-! ### Keys one by one -/

/-- An engine, and the lines and the cursor that its outcomes leave with whoever feeds it. -/
structure Typist (τ : Type) where
  engine : Engine τ
  lines : List Text
  cursor : Option Position

namespace Typist

variable [LE τ] [DecidableLE τ] [Add τ]

def press (t : Typist τ) (key : Char) : Typist τ × Except Fault (Option Outcome) :=
  match (t.engine.feed [key] t.lines t.cursor).value with
  | (engine, .ok (some o)) => (⟨engine, o.lines, some o.cursor⟩, .ok (some o))
  | (engine, answer) => ({ t with engine }, answer)

/-- The typist behind some keys, or behind the first of them that failed. -/
def after (t : Typist τ) : Text → Typist τ
  | [] => t
  | key :: rest =>
    match (t.press key).2 with
    | .error _ => (t.press key).1
    | .ok _ => (t.press key).1.after rest

def answers (t : Typist τ) : Text → Except Fault (List (Option Outcome))
  | [] => .ok []
  | key :: rest =>
    match (t.press key).2 with
    | .error fault => .error fault
    | .ok found => ((t.press key).1.answers rest).map (found :: ·)

end Typist

/-- A run of an engine is its keys fed one by one; it answers the outcomes alone. -/
theorem Engine.value_runFrom [LE τ] [DecidableLE τ] [Add τ] (e : Engine τ) (keys : Text)
    (lines : List Text) (cursor : Option Position) :
    (e.runFrom keys lines cursor).value =
      (((⟨e, lines, cursor⟩ : Typist τ).after keys).engine,
        ((⟨e, lines, cursor⟩ : Typist τ).answers keys).map List.reduceOption) := by
  induction keys generalizing e lines cursor with
  | nil => rfl
  | cons key rest ih =>
    simp only [runFrom, Typist.after, Typist.answers, Typist.press, Logged.value_bind]
    cases hfed : (e.feed [key] lines cursor).value with
    | mk engine answer =>
      rcases answer with fault | _ | o
      · rfl
      · simp only [ih]
        cases (⟨engine, lines, cursor⟩ : Typist τ).answers rest <;> rfl
      · simp only [Logged.value_bind, Logged.value_pure, ih]
        cases (⟨engine, o.lines, some o.cursor⟩ : Typist τ).answers rest <;> rfl

end ModalEditor
