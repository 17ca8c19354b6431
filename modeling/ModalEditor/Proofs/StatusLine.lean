import ModalEditor.Proofs.Display
/-!
# Waiting keys in the status line

When keys wait, the host shows them in its status line. They stay there until the status line is next
written to, and meanwhile the buffer holds just these keys, unless one of two things happened: a key failed,
or a key began to insert text and found that the keys were stale.
-/
namespace ModalEditor

variable {τ : Type}

namespace Host

theorem insert_quiet (h : Host τ) (text : Text) :
    (h.insert text).host.engine.buffer = h.engine.buffer ∧
      lastShown HookCall.status? (h.insert text).shown = none := by
  unfold insert
  split
  · exact ⟨rfl, rfl⟩
  · split
    · exact ⟨rfl, rfl⟩
    · dsimp only
      split
      · split <;> exact ⟨rfl, rfl⟩
      · split <;> exact ⟨rfl, rfl⟩

theorem enterInsert_quiet (h : Host τ) (key : Text) :
    (h.enterInsert key).host.engine.buffer = h.engine.buffer ∧
      lastShown HookCall.status? (h.enterInsert key).shown = none := by
  unfold enterInsert
  split <;> exact ⟨rfl, rfl⟩

variable [LE τ] [DecidableLE τ] {h : Host τ} {p : Text}

private theorem processTimeouts_silent
    (hquiet : lastShown HookCall.status? h.processTimeouts.shown = none) :
    h.processTimeouts.host.engine.buffer.keys = h.engine.buffer.keys := by
  unfold processTimeouts at hquiet ⊢
  rw [Engine.value_processTimeouts] at hquiet ⊢
  dsimp only at hquiet ⊢
  split at hquiet
  · cases hquiet
  · next hnone =>
    by_cases hexpired : h.engine.buffer.timer.expired = true
    · have hkeys : h.engine.buffer.keys = [] := by
        by_contra hsome
        exact hnone (by simp [hexpired, hsome])
      rw [KeyBuffer.fresh_keys_nil hkeys, hkeys]
    · rw [KeyBuffer.fresh_of_not_expired hexpired]

/-- What a step of a key can be when it leaves the status line alone: the key is typed, it begins to
insert, or it fails. -/
inductive Silent (h : Host τ) (key : Text) : HostStep τ Bool → Prop
  | typed {step : HostStep τ Bool} (hmode : h.mode = .insert)
    (hkeys : step.host.engine.buffer = h.engine.buffer) : Silent h key step
  | began {step : HostStep τ Bool} (hinsert : key ∈ insertKeys) (hmode : h.mode ≠ .insert)
    (hnone : h.engine.buffer.text = []) (hkeys : step.host.engine.buffer.keys = []) :
    Silent h key step
  | failed {step : HostStep τ Bool} {fault : Fault} (hmode : h.mode ≠ .insert)
    (hfault : step.answer = .error fault)
    (hkeys : step.host.engine.buffer.keys = [] ∨
      ∃ fault, Grammar.read step.host.engine.buffer.keys = .error fault) : Silent h key step

private theorem Silent.typed_of_keys {key : Text} {step : HostStep τ Bool} (hstep : Silent h key step)
    (hp : p ≠ []) (hread : Session.Waits (Grammar.read p))
    (hkeys : step.host.engine.buffer.keys = p) : h.mode = .insert ∧ h.engine.buffer.keys = p := by
  cases hstep with
  | typed hmode hsame => exact ⟨hmode, by rw [← hsame, hkeys]⟩
  | began _ _ _ hnone => exact absurd (hkeys.symm.trans hnone) hp
  | failed _ _ hleft =>
    rw [hkeys] at hleft
    rcases hleft with hnone | ⟨fault, hfault⟩
    · exact absurd hnone hp
    · rw [hfault] at hread
      exact hread.elim

variable [Add τ]

/-- The events that may leave the status line behind the buffer. -/
def Slips (h : Host τ) : HostEvent τ → Prop
  | .key key text =>
    (∃ fault, (h.handleKey key text).answer = .error fault) ∨
      (key ∈ insertKeys ∧ h.mode ≠ .insert ∧ h.engine.buffer.text = [])
  | _ => False

private theorem feed_silent {key : Text} (hkey : key ∉ Engine.escapeKeys) (hmode : h.mode ≠ .insert)
    (hquiet : lastShown HookCall.status? (h.feed key).shown = none) : Silent h key (h.feed key) := by
  have hanswered : h.Answered (h.feed key) := feed_answered hkey hmode
  generalize h.feed key = step at hanswered hquiet ⊢
  cases hanswered with
  | failed _ _ hkeys => exact .failed hmode rfl (hkeys.imp_right fun hread => ⟨_, hread⟩)
  | waits => cases hquiet
  | done => cases hquiet

private theorem route_silent {key : Text} {text : Option Text}
    (hquiet : lastShown HookCall.status? (h.route key text).shown = none) :
    Silent h key (h.route key text) := by
  have hrouted := route_routed h key text
  generalize h.route key text = step at hrouted hquiet ⊢
  cases hrouted with
  | left => cases hquiet
  | typed hmode => exact .typed hmode (insert_quiet h _).1
  | began hmode hinsert hnone =>
    refine .began hinsert hmode hnone ?_
    rw [(enterInsert_quiet h.polled key).1]
    exact hnone
  | fed hkey hmode => exact feed_silent hkey hmode hquiet

/-- Keys that were shown and wait in the buffer. -/
structure Shows (h : Host τ) (p : Text) : Prop where
  keys : h.engine.buffer.keys = p
  mode : h.mode ≠ .insert

private theorem keys_of_after {event : HostEvent τ} (hp : p ≠ []) (hread : Session.Waits (Grammar.read p))
    (hquiet : lastShown HookCall.status? (h.shown event) = none)
    (hkeys : (h.after event).engine.buffer.keys = p) : h.engine.buffer.keys = p := by
  cases event with
  | key key text =>
    have hsilent : Silent h key (h.route key text) := route_silent hquiet
    exact (hsilent.typed_of_keys hp hread hkeys).2
  | advance duration => exact hkeys
  | timeouts => exact (processTimeouts_silent hquiet).symm.trans hkeys

section

variable {event : HostEvent τ} (hshows : h.Shows p) (hp : p ≠ [])
  (hread : Session.Waits (Grammar.read p))
  (hquiet : lastShown HookCall.status? (h.shown event) = none)

include hshows hquiet

theorem Shows.kept (hslips : ¬h.Slips event) : (h.after event).Shows p := by
  cases event with
  | key key text =>
    have hsilent : Silent h key (h.route key text) := route_silent hquiet
    cases hsilent with
    | typed hmode => exact absurd hmode hshows.mode
    | began hinsert hmode hnone => exact absurd (.inr ⟨hinsert, hmode, hnone⟩) hslips
    | failed _ hfault => exact absurd (.inl ⟨_, hfault⟩) hslips
  | advance duration => exact ⟨hshows.keys, hshows.mode⟩
  | timeouts =>
    refine ⟨(processTimeouts_silent hquiet).trans hshows.keys, ?_⟩
    simp only [after, processTimeouts, Engine.value_processTimeouts]
    exact hshows.mode

include hp hread

private theorem Shows.lost (hslips : h.Slips event) : (h.after event).engine.buffer.keys ≠ p := by
  cases event with
  | key key text =>
    intro hkeys
    have hsilent : Silent h key (h.route key text) := route_silent hquiet
    exact hshows.mode (hsilent.typed_of_keys hp hread hkeys).1
  | advance duration => exact hslips.elim
  | timeouts => exact hslips.elim

end

private theorem quiet_cons {event : HostEvent τ} {rest : List (HostEvent τ)}
    (hquiet : lastShown HookCall.status? (h.record (event :: rest)) = none) :
    lastShown HookCall.status? (h.shown event) = none ∧
      lastShown HookCall.status? ((h.after event).record rest) = none := by
  rw [record, lastShown_append, Option.or_eq_none_iff] at hquiet
  exact hquiet.symm

private theorem keys_of_run {events : List (HostEvent τ)} (hp : p ≠ []) (hread : Session.Waits (Grammar.read p))
    (hquiet : lastShown HookCall.status? (h.record events) = none)
    (hkeys : (h.run events).engine.buffer.keys = p) : h.engine.buffer.keys = p := by
  induction events generalizing h with
  | nil => exact hkeys
  | cons event rest ih =>
    obtain ⟨hfirst, hlater⟩ := quiet_cons hquiet
    exact keys_of_after hp hread hfirst (ih hlater hkeys)

/-- Keys that wait do so until an event slips, as long as the status line is left alone. -/
theorem Shows.run_iff {events : List (HostEvent τ)} (hshows : h.Shows p) (hp : p ≠ [])
    (hread : Session.Waits (Grammar.read p))
    (hquiet : lastShown HookCall.status? (h.record events) = none) :
    (h.run events).engine.buffer.keys = p ↔
      ∀ earlier event later, events = earlier ++ event :: later →
        ¬(h.run earlier).Slips event := by
  induction events generalizing h with
  | nil =>
    refine iff_of_true hshows.keys fun earlier event later hnone => ?_
    exact absurd hnone.symm (List.append_ne_nil_of_right_ne_nil _ (List.cons_ne_nil _ _))
  | cons first rest ih =>
    obtain ⟨hfirst, hlater⟩ := quiet_cons hquiet
    by_cases hslips : h.Slips first
    · -- the slip comes first: the keys are gone, and no silent event brings them back
      refine iff_of_false (fun hkeys => ?_) fun hnever => hnever [] first rest rfl hslips
      exact hshows.lost hp hread hfirst hslips (keys_of_run hp hread hlater hkeys)
    · rw [show h.run (first :: rest) = (h.after first).run rest from rfl,
        ih (hshows.kept hfirst hslips) hlater]
      constructor
      · intro hnever earlier event later hsplit
        rcases List.cons_eq_append_iff.1 hsplit with ⟨rfl, hhead⟩ | ⟨before, rfl, hrest⟩
        · cases hhead
          exact hslips
        · exact hnever before event later hrest
      · intro hnever earlier event later hsplit
        exact hnever (first :: earlier) event later (by rw [hsplit, List.cons_append])

private theorem feed_shows {key : Text} (hkey : key ∉ Engine.escapeKeys) (hmode : h.mode ≠ .insert)
    (hshown : (h.feed key).shown = [.status p]) :
    (h.feed key).host.Shows p ∧ Session.Waits (Grammar.read p) := by
  have hanswered : h.Answered (h.feed key) := feed_answered hkey hmode
  generalize h.feed key = step at hanswered hshown ⊢
  cases hanswered with
  | failed => cases hshown
  | @waits engine _ hkept hwaits =>
    obtain rfl : engine.buffer.keys = p := by simpa using hshown
    rw [← hkept] at hmode
    exact ⟨⟨rfl, hmode⟩, hwaits⟩
  | done => cases hshown

private theorem handleKey_shows {key : Text} {text : Option Text}
    (hshown : (h.handleKey key text).shown = [.log (h.keyLog key), .status p]) :
    (h.handleKey key text).host.Shows p ∧ Session.Waits (Grammar.read p) := by
  have hroute : (h.route key text).shown = [.status p] := (List.cons.inj hshown).2
  have hstatus : lastShown HookCall.status? (h.route key text).shown = some p := by
    rw [hroute]
    rfl
  have hrouted := route_routed h key text
  simp only [handleKey]
  generalize h.route key text = step at hrouted hroute hstatus ⊢
  cases hrouted with
  | left => cases hroute
  | typed =>
    rw [(insert_quiet h _).2] at hstatus
    cases hstatus
  | began =>
    rw [(enterInsert_quiet h.polled key).2] at hstatus
    cases hstatus
  | fed hkey hmode => exact feed_shows hkey hmode hroute

/-- Behind a key that showed the keys that wait, and until the status line is next written to, these keys
are what the buffer holds if and only if no event slipped. -/
theorem shown_keys_wait_iff {key : Text} {text : Option Text} {events : List (HostEvent τ)}
    (hshown : (h.handleKey key text).shown = [.log (h.keyLog key), .status p]) (hp : p ≠ [])
    (hquiet : lastShown HookCall.status? ((h.handleKey key text).host.record events) = none) :
    ((h.handleKey key text).host.run events).engine.buffer.keys = p ↔
      ∀ earlier event later, events = earlier ++ event :: later →
        ¬((h.handleKey key text).host.run earlier).Slips event := by
  obtain ⟨hshows, hread⟩ := handleKey_shows hshown
  exact hshows.run_iff hp hread hquiet

/-- Nothing but a pause shorter than the timeout, and a look for stale keys. -/
theorem shown_keys_wait_iff_pause :
    let h : Host Nat := ⟨Engine.start {} 3 0 none, [['a', 'b']]⟩
    let shown : Host Nat := (h.handleKey ['2'] none).host
    (shown.run [.advance 1, .timeouts]).engine.buffer.keys = ['2'] ↔
      ∀ earlier event later, [HostEvent.advance 1, .timeouts] = earlier ++ event :: later →
        ¬(shown.run earlier).Slips event :=
  shown_keys_wait_iff (by rfl) (by decide) (by rfl)

/-- An operator goes stale and a key begins to insert: the operator is gone from the buffer, and the status
line still shows it. -/
theorem shown_keys_gone :
    let h : Host Nat := ⟨Engine.start {} 3 0 none, [['a', 'b']]⟩
    let shown : Host Nat := (h.handleKey ['d'] none).host
    let later : List (HostEvent Nat) := [.advance 3, .key ['i'] none]
    (h.handleKey ['d'] none).shown = [.log (h.keyLog ['d']), .status ['d']] ∧
      lastShown HookCall.status? (shown.record later) = none ∧
      (shown.run later).engine.buffer.keys = [] := by
  decide

end Host
end ModalEditor
