import Mathlib.Data.List.Induction
import ModalEditor.Proofs.StatusLine
import ModalEditor.Proofs.Typing
import ModalEditor.Screen
/-!
# The keys behind a screen

A screen hands keys to its host, and the host hands some of them to its engine, where they wait until they
make a command. A key that types a character enters that character. The backspace key enters its own name
unless text is being inserted, and since no command has so many keys that are no digits, the name stays.
-/
namespace ModalEditor

/-! ### No command is as long as a name -/

namespace Grammar

def nonDigits (keys : Text) : Nat := keys.countP fun c => !Text.isDecimalDigit c

private theorem nonDigits_append (keys more : Text) : nonDigits (keys ++ more) = nonDigits keys + nonDigits more :=
  List.countP_append

private theorem nonDigits_cons_le (key : Char) (keys : Text) : nonDigits (key :: keys) ≤ nonDigits keys + 1 := by
  rw [nonDigits, List.countP_cons, nonDigits]
  split <;> omega

private theorem nonDigits_le_length (keys : Text) : nonDigits keys ≤ keys.length := List.countP_le_length

private theorem nonDigits_numeral {digits : Option Text} (h : ∀ d ∈ digits, Numeral d) :
    nonDigits (digits.getD []) = 0 := by
  rw [nonDigits, List.countP_eq_zero]
  intro c hc
  cases digits with
  | none => simp at hc
  | some digits => simp [(h digits rfl).isDecimalDigit c hc]

private theorem Aim.nonDigits_keys_le (aim : Aim) : nonDigits aim.keys ≤ 2 := by
  apply Nat.le_trans (nonDigits_le_length aim.keys)
  cases aim <;> simp [keys]

private theorem Body.nonDigits_keys_le {b : Body} (hinner : ∀ digits ∈ b.inner, Numeral digits) :
    nonDigits b.keys ≤ 3 := by
  have hnone := nonDigits_numeral hinner
  -- an operator, a count and what follows the count
  have hoperand (op : Operator) {rest : Text} (hrest : nonDigits rest ≤ 2) :
      nonDigits (op.key :: (b.inner.getD [] ++ rest)) ≤ 3 := by
    have hcons := nonDigits_cons_le op.key (b.inner.getD [] ++ rest)
    rw [nonDigits_append, hnone] at hcons
    omega
  cases b with
  | yankLine => decide
  | atOnce op => exact Nat.le_trans (nonDigits_le_length _) (by simp [keys])
  | waiting op inner =>
    rw [keys, ← List.append_nil (inner.getD [])]
    exact hoperand op (by decide)
  | doubled op inner => exact hoperand op (Nat.le_trans (nonDigits_le_length _) (by simp))
  | aimed op inner aim => exact hoperand op aim.nonDigits_keys_le
  | bare aim => exact Nat.le_succ_of_le aim.nonDigits_keys_le

private theorem Phrase.WellFormed.nonDigits_le {p : Phrase} (h : p.WellFormed) : nonDigits p.keys ≤ 5 := by
  have hregister : nonDigits (p.register.elim [] fun name => ['"', name]) ≤ 2 := by
    apply Nat.le_trans (nonDigits_le_length _)
    cases p.register <;> simp
  have hbody := Body.nonDigits_keys_le h.body.1
  rw [keys, nonDigits_append, nonDigits_append, nonDigits_numeral h.outer]
  omega

end Grammar

private theorem Session.read_backspace (s : Session) (keys : Text) (c : Command) :
    (s.read (keys ++ "backspace".toList)).2 ≠ .ok (some c) := by
  intro hread
  have hlength : 9 ≤ (keys ++ "backspace".toList).length := by
    rw [List.length_append]
    exact Nat.le_add_left 9 keys.length
  have hlong (key : Char) : keys ++ "backspace".toList ≠ [key] := by
    intro hkeys
    rw [hkeys] at hlength
    simp at hlength
  rw [s.read_answer (hlong ';') (hlong ',')] at hread
  obtain ⟨p, hp, -, hkeys, -⟩ := Grammar.read_sound hread
  have hfew := hp.nonDigits_le
  have hname : Grammar.nonDigits "backspace".toList = 9 := by decide
  rw [hkeys, Grammar.nonDigits_append, hname] at hfew
  omega

/-! ### The keys of a host -/

variable {τ : Type}

section

variable [Add τ] [LE τ] [DecidableLE τ]

theorem Engine.Fed.buffer {e : Engine τ} {key : Text} {lines : List Text} {cursor : Option Position}
    {fed : Engine τ × Except Fault (Option Outcome)} (h : Engine.Fed e key lines cursor fed) :
    fed.1.buffer = e.pushed key ∨
      fed.1.buffer = (e.pushed key).clear ∧ ∃ c, (e.reading key).2 = .ok (some c) := by
  cases h with
  | waits => exact .inl rfl
  | refused => exact .inl rfl
  | @completed c hread hdone after answer hran =>
    rw [value_execute, Prod.mk.injEq] at hran
    rw [← hran.1]
    exact .inr ⟨rfl, c, hread⟩

private theorem Engine.pushed_keys {e : Engine τ} (hpatient : e.buffer.timer.Patient) (key : Text) :
    (e.pushed key).keys = e.buffer.text ++ key := by
  rw [pushed, (e.buffer.fresh_patient_iff.2 hpatient).fresh_arm]

private theorem Engine.pushed_keys_nil {e : Engine τ} (hhasty : ¬e.buffer.timer.Patient) (key : Text) :
    (e.pushed key).keys = [] := by
  have hstale : e.buffer.fresh.timer.arm.expired = true := by
    rw [← e.buffer.fresh_patient_iff, IdleTimer.Patient, not_not] at hhasty
    exact decide_eq_true hhasty
  rw [pushed, KeyBuffer.fresh_of_expired hstale, KeyBuffer.clear]

namespace Host

variable {h : Host τ} {key : Text} {text : Option Text}

private theorem feed_buffer (hkey : key ∉ Engine.escapeKeys) (hmode : h.mode ≠ .insert) :
    (h.feed key).host.engine.buffer = h.engine.pushed key ∨
      (h.feed key).host.engine.buffer = (h.engine.pushed key).clear ∧
        ∃ c, (h.engine.reading key).2 = .ok (some c) := by
  have hfed : Engine.Fed h.engine key h.lines (some h.cursor)
      (h.engine.feed key h.lines (some h.cursor)).value := Engine.feed_fed hkey hmode
  have hbuffer := hfed.buffer
  rw [feed_eq]
  rcases hvalue : (h.engine.feed key h.lines (some h.cursor)).value with ⟨engine, fault | _ | o⟩
  · rw [hvalue] at hbuffer
    exact hbuffer
  · -- the status line asks for the keys, which drops none
    rw [hvalue] at hfed hbuffer
    have hfresh : engine.buffer.fresh = engine.buffer := (hfed.waits_of_none rfl).2
    dsimp only
    rw [hfresh]
    exact hbuffer
  · rw [hvalue] at hbuffer
    exact hbuffer

private theorem keys_handleKey (hs : h.Sound) :
    (h.handleKey key text).host.engine.buffer.keys = [] ∨
      (h.handleKey key text).host.engine.buffer.keys = h.engine.buffer.text ++ key ∧
        key ∉ Engine.escapeKeys ∧ h.mode ≠ .insert ∧ h.engine.buffer.timer.Patient := by
  have hrouted := route_routed h key text
  show (h.route key text).host.engine.buffer.keys = [] ∨
    (h.route key text).host.engine.buffer.keys = h.engine.buffer.text ++ key ∧ _
  generalize h.route key text = step at hrouted ⊢
  cases hrouted with
  | left =>
    left
    unfold leaveInsert
    dsimp only
    split <;> simp [moveTo, withSession, KeyBuffer.clear]
  | typed hmode =>
    have hnone : h.engine.buffer.keys = [] := by
      rcases hs.modes with hnormal | ⟨-, hkeys⟩
      · rw [hnormal] at hmode
        cases hmode
      · exact hkeys
    left
    rw [(insert_quiet h _).1, hnone]
  | began _ _ hnone =>
    left
    rw [(enterInsert_quiet h.polled key).1]
    exact hnone
  | fed hkey hmode =>
    rcases feed_buffer hkey hmode with hpushed | ⟨hclear, -⟩
    · rw [hpushed]
      by_cases hpatient : h.engine.buffer.timer.Patient
      · right
        rw [Engine.pushed_keys hpatient]
        exact ⟨rfl, hkey, hmode, hpatient⟩
      · exact .inl (Engine.pushed_keys_nil hpatient key)
    · left
      rw [hclear]
      rfl

private theorem keys_backspace (hpatient : h.engine.buffer.timer.Patient) (hmode : h.mode ≠ .insert) :
    (h.handleKey "backspace".toList text).host.engine.buffer.keys =
      h.engine.buffer.text ++ "backspace".toList := by
  have hescape : "backspace".toList ∉ Engine.escapeKeys := by decide
  have hinsert : "backspace".toList ∉ insertKeys := by decide
  have hpushed := Engine.pushed_keys hpatient "backspace".toList
  have hroute : h.route "backspace".toList text = h.feed "backspace".toList := by
    rw [route, if_neg hescape, if_neg hmode, if_neg hinsert]
  show (h.route "backspace".toList text).host.engine.buffer.keys = _
  rw [hroute]
  rcases feed_buffer hescape hmode with hbuffer | ⟨-, c, hread⟩
  · rw [hbuffer, hpushed]
  · rw [Engine.reading, hpushed] at hread
    exact absurd hread (h.engine.session.read_backspace _ c)

end Host

end

/-! ### Key events -/

/-- The keys of a terminal that have a meaning of their own. -/
def namedKeys : List Text :=
  ["ctrl+c".toList, "ctrl+q".toList, "escape".toList, "backspace".toList]

namespace KeyEvent

variable {e : KeyEvent}

/-- The character that a key types, if it types one. -/
def typed (e : KeyEvent) : Text :=
  if e.key ∈ namedKeys ∨ ¬e.printable then [] else e.character.getD []

private theorem normalize?_cases {key : Text} {text : Option Text} (h : e.normalize? = some (key, text)) :
    key ∈ Engine.escapeKeys ∧ e.key ≠ "backspace".toList ∨
      key = "backspace".toList ∧ e.key = "backspace".toList ∨
      key = e.typed ∧ e.key ≠ "backspace".toList := by
  unfold normalize? at h
  split at h
  · cases h
  · next hquit =>
    split at h
    · next hescape =>
      cases h
      left
      rw [hescape]
      decide
    · next hescape =>
      split at h
      · next hback =>
        cases h
        exact .inr (.inl ⟨rfl, hback⟩)
      · next hback =>
        have hname : e.key ∉ namedKeys := by
          simp only [namedKeys, List.mem_cons, List.not_mem_nil, or_false]
          simp only [not_or] at hquit ⊢
          exact ⟨hquit.1, hquit.2, hescape, hback⟩
        split at h
        · next c hc =>
          split at h
          · next hprintable =>
            cases h
            refine .inr (.inr ⟨?_, hback⟩)
            have htypes : ¬(e.key ∈ namedKeys ∨ ¬e.printable) :=
              not_or.2 ⟨hname, not_not.2 hprintable.2⟩
            rw [typed, if_neg htypes, hc, Option.getD_some]
          · cases h
        · cases h

private theorem typed_of_unread (h : e.normalize? = none) : e.typed = [] := by
  unfold typed
  split
  · rfl
  · next htypes =>
    obtain ⟨hname, hprintable⟩ := not_or.1 htypes
    simp only [namedKeys, List.mem_cons, List.not_mem_nil, or_false, not_or] at hname
    obtain ⟨hcopy, hquit, hescape, hback⟩ := hname
    rw [normalize?, if_neg (not_or.2 ⟨hcopy, hquit⟩), if_neg hescape, if_neg hback] at h
    split at h
    · next c hc =>
      split at h
      · cases h
      · next hsilent =>
        have hnone : c = [] := by
          by_contra hsome
          exact hsilent ⟨hsome, not_not.1 hprintable⟩
        rw [hc, hnone]
        rfl
    · next hc =>
      rw [hc]
      rfl

end KeyEvent

/-- What happens to a screen: a key is reported, time passes, or its clock asks for stale keys. -/
inductive ScreenEvent (τ : Type)
  | key (event : KeyEvent)
  | advance (duration : τ)
  | timeouts

namespace ScreenEvent

def typed : ScreenEvent τ → Text
  | key event => event.typed
  | _ => []

def forHost? : ScreenEvent τ → Option (HostEvent τ)
  | key event => event.normalize?.map fun heard => .key heard.1 heard.2
  | advance duration => some (.advance duration)
  | timeouts => some .timeouts

end ScreenEvent

/-! ### Screens -/

namespace Screen

def keys (s : Screen τ) : Text := s.host.elim [] fun h => h.engine.buffer.keys

def inserting (s : Screen τ) : Prop := ∃ h, s.host = some h ∧ h.mode = .insert

/-- A key that joins the buffer of the screen may wait there. -/
def Patient [Add τ] [LE τ] (s : Screen τ) : Prop :=
  ∃ h, s.host = some h ∧ h.engine.buffer.timer.Patient

private theorem host_showAll (s : Screen τ) (calls : List HookCall) : (s.showAll calls).1.host = s.host := by
  induction calls generalizing s with
  | nil => rfl
  | cons call rest ih =>
    have hfirst : (s.showCall call).1.host = s.host := by
      cases call <;> rfl
    rw [← hfirst]
    exact ih (s.showCall call).1

structure Ready (s : Screen τ) (h : Host τ) : Prop where
  host : s.host = some h
  sound : h.Sound

private theorem mount_ready (s : Screen τ) (settings : Settings) (idle now : τ) (logger : Option Text)
    (text : Text) :
    (s.mount (Engine.start settings idle now logger) text).1.Ready
      (Host.start (Engine.start settings idle now logger) (Text.lines text)).host := by
  have hlines := Text.lines_ne_nil text
  refine ⟨host_showAll _ _, Host.start_sound (.of_lines text) rfl (.inl rfl) ?_⟩
  obtain ⟨first, others, hfirst⟩ := List.exists_cons_of_ne_nil hlines
  exact ⟨0, 0, first, rfl, by simp [Host.start, hfirst], Nat.zero_le _⟩

variable {s : Screen τ} {h : Host τ}

private theorem Ready.keys_eq (hr : s.Ready h) : s.keys = h.engine.buffer.keys := by
  rw [keys, hr.host, Option.elim_some]

private theorem Ready.inserting_iff (hr : s.Ready h) : s.inserting ↔ h.mode = .insert := by
  simp [inserting, hr.host]

private theorem Ready.patient_iff [Add τ] [LE τ] (hr : s.Ready h) : s.Patient ↔ h.engine.buffer.timer.Patient := by
  simp [Patient, hr.host]

variable [LE τ] [DecidableLE τ]

def text (s : Screen τ) : Text := s.host.elim [] fun h => h.engine.buffer.text

theorem Ready.text_eq (hr : s.Ready h) : s.text = h.engine.buffer.text := by
  rw [text, hr.host, Option.elim_some]

private theorem Ready.text_eq_keys_or (hr : s.Ready h) : s.text = s.keys ∨ s.text = [] := by
  rw [hr.text_eq, hr.keys_eq, KeyBuffer.text, KeyBuffer.fresh]
  split
  · exact .inr rfl
  · exact .inl rfl

variable [Add τ]

def after (s : Screen τ) : ScreenEvent τ → Screen τ
  | .key event => (s.onKey event).1
  | .advance duration => s.advance duration
  | .timeouts => s.processTimeouts.1

def run (s : Screen τ) (events : List (ScreenEvent τ)) : Screen τ := events.foldl after s

private theorem run_snoc (s : Screen τ) (events : List (ScreenEvent τ)) (event : ScreenEvent τ) :
    s.run (events ++ [event]) = (s.run events).after event := List.foldl_concat ..

/-- A key that the host gets leaves no keys, or those that waited and the character that it types. -/
def Types (s : Screen τ) (event : KeyEvent) : Prop :=
  event.normalize? = none ∨ (s.after (.key event)).keys = [] ∨
    (s.after (.key event)).keys = s.text ++ event.typed

/-- Every key of a run enters at most the character that it types. -/
def OnlyTypes (s : Screen τ) (events : List (ScreenEvent τ)) : Prop :=
  ∀ earlier event, earlier ++ [.key event] <+: events → (s.run earlier).Types event

private theorem host_after (hhost : s.host = some h) (event : ScreenEvent τ) :
    (s.after event).host = some (event.forHost?.elim h h.after) := by
  cases event with
  | key event =>
    rw [after, onKey, hhost]
    cases hheard : event.normalize? with
    | none => simp [ScreenEvent.forHost?, hheard, hhost]
    | some heard => simp [ScreenEvent.forHost?, hheard, host_showAll, Host.after]
  | advance duration => simp [after, advance, hhost, ScreenEvent.forHost?, Host.after]
  | timeouts => simp [after, processTimeouts, hhost, host_showAll, ScreenEvent.forHost?, Host.after]

theorem Ready.after (hr : s.Ready h) (event : ScreenEvent τ) :
    (s.after event).Ready (event.forHost?.elim h h.after) := by
  refine ⟨host_after hr.host event, ?_⟩
  cases event.forHost? with
  | none => exact hr.sound
  | some event => exact Host.after_sound hr.sound event

theorem Ready.run (hr : s.Ready h) (events : List (ScreenEvent τ)) :
    ∃ later, (s.run events).Ready later := by
  induction events using List.reverseRecOn with
  | nil => exact ⟨h, hr⟩
  | append_singleton events event ih =>
    obtain ⟨later, hlater⟩ := ih
    rw [run_snoc]
    exact ⟨_, hlater.after event⟩

/-- A key enters at most its character, unless it is the backspace key and nothing is being inserted. -/
theorem Ready.types_iff (hr : s.Ready h) (event : KeyEvent) :
    s.Types event ↔ (event.key = "backspace".toList → s.Patient → s.inserting) := by
  cases hheard : event.normalize? with
  | none =>
    refine iff_of_true (.inl hheard) fun hback _ => ?_
    simp [KeyEvent.normalize?, hback] at hheard
  | some heard =>
    obtain ⟨key, text⟩ := heard
    have hkeys : (s.after (.key event)).keys = (h.handleKey key text).host.engine.buffer.keys := by
      rw [(hr.after (.key event)).keys_eq]
      simp [ScreenEvent.forHost?, hheard, Host.after]
    have hleft : (h.handleKey key text).host.engine.buffer.keys = [] ∨
        (h.handleKey key text).host.engine.buffer.keys = h.engine.buffer.text ++ key ∧
          key ∉ Engine.escapeKeys ∧ h.mode ≠ .insert ∧ h.engine.buffer.timer.Patient :=
      Host.keys_handleKey hr.sound
    rw [Types, hkeys, hr.text_eq, hr.inserting_iff, hr.patient_iff]
    constructor
    · intro htypes hback hpatient
      by_contra hmode
      -- the name joined the keys, but the backspace key types nothing
      have hname : key = "backspace".toList := by
        rcases KeyEvent.normalize?_cases hheard with ⟨-, hne⟩ | ⟨hname, -⟩ | ⟨-, hne⟩
        · exact absurd hback hne
        · exact hname
        · exact absurd hback hne
      have hnamed : event.key ∈ namedKeys := by
        rw [hback]
        decide
      have htyped : event.typed = [] := if_pos (.inl hnamed)
      rw [hname, Host.keys_backspace hpatient hmode, htyped, hheard] at htypes
      simp at htypes
    · intro hback
      rcases hleft with hnone | ⟨hjoined, hescape, hmode, hpatient⟩
      · exact .inr (.inl hnone)
      · rcases KeyEvent.normalize?_cases hheard with ⟨hin, -⟩ | ⟨-, hsame⟩ | ⟨htyped, -⟩
        · exact absurd hin hescape
        · exact absurd (hback hsame hpatient) hmode
        · exact .inr (.inr (by rw [hjoined, htyped]))

private theorem Ready.keys_after (hr : s.Ready h) {event : ScreenEvent τ}
    (htypes : ∀ e, event = .key e → s.Types e) :
    (s.after event).keys = [] ∨ (s.after event).keys = event.typed ∨
      (s.after event).keys = s.keys ++ event.typed := by
  have hafter := (hr.after event).keys_eq
  cases event with
  | advance duration =>
    right
    right
    rw [hafter, hr.keys_eq]
    exact (List.append_nil _).symm
  | timeouts =>
    have hfresh : (h.after .timeouts).engine.buffer = h.engine.buffer.fresh := by
      show h.processTimeouts.host.engine.buffer = _
      rw [Host.processTimeouts, Engine.value_processTimeouts]
    have hpolled : (s.after .timeouts).keys = s.text := by
      rw [hafter, hr.text_eq]
      exact congrArg KeyBuffer.keys hfresh
    rcases hr.text_eq_keys_or with hsame | hstale
    · right
      right
      rw [hpolled, hsame]
      exact (List.append_nil _).symm
    · exact .inl (by rw [hpolled, hstale])
  | key e =>
    rcases htypes e rfl with hunread | hnone | hjoined
    · right
      right
      rw [hafter, hr.keys_eq]
      simp [ScreenEvent.forHost?, ScreenEvent.typed, hunread, KeyEvent.typed_of_unread hunread]
    · exact .inl hnone
    · rcases hr.text_eq_keys_or with hsame | hstale
      · exact .inr (.inr (by rw [hjoined, hsame]; rfl))
      · exact .inr (.inl (by rw [hjoined, hstale]; rfl))

private theorem OnlyTypes.keys_eq {events : List (ScreenEvent τ)} (hr : s.Ready h) (hnone : s.keys = [])
    (htypes : s.OnlyTypes events) :
    ∃ later, later <:+ events ∧ (s.run events).keys = later.flatMap ScreenEvent.typed := by
  induction events using List.reverseRecOn with
  | nil => exact ⟨[], List.nil_suffix, hnone⟩
  | append_singleton events event ih =>
    obtain ⟨later, ⟨earlier, hsplit⟩, hkeys⟩ :=
      ih fun before e hstart => htypes before e (hstart.trans (List.prefix_append events [event]))
    obtain ⟨_, hlater⟩ := hr.run events
    have hnow (e : KeyEvent) (he : event = .key e) : (s.run events).Types e :=
      htypes events e (he ▸ List.prefix_rfl)
    have hstep := hlater.keys_after hnow
    rw [run_snoc]
    rcases hstep with hleft | hleft | hleft
    · exact ⟨[], List.nil_suffix, hleft⟩
    · exact ⟨[event], List.suffix_append events [event], by simp [hleft]⟩
    · exact ⟨later ++ [event], ⟨earlier, by rw [← List.append_assoc, hsplit]⟩, by simp [hleft, hkeys]⟩

/-- Every key of a run enters at most the character that it types exactly if the backspace key comes only
while text is being inserted, or where no key may wait. Then the keys in the buffer are the characters typed
last, in order. -/
theorem onlyTypes_iff (settings : Settings) (idle now : τ) (logger : Option Text) (screen : Screen τ)
    (text : Text) (events : List (ScreenEvent τ)) :
    let s := (screen.mount (Engine.start settings idle now logger) text).1
    (s.OnlyTypes events ↔ ∀ earlier event, earlier ++ [.key event] <+: events →
      event.key = "backspace".toList → (s.run earlier).Patient → (s.run earlier).inserting) ∧
    (s.OnlyTypes events →
      ∃ later, later <:+ events ∧ (s.run events).keys = later.flatMap ScreenEvent.typed) := by
  intro s
  have hr := screen.mount_ready settings idle now logger text
  refine ⟨?_, fun htypes => OnlyTypes.keys_eq hr ?_ htypes⟩
  · unfold OnlyTypes
    apply forall_congr'
    intro earlier
    apply forall_congr'
    intro event
    apply imp_congr_right
    intro _
    obtain ⟨_, hlater⟩ := Ready.run hr earlier
    exact hlater.types_iff event
  · rw [hr.keys_eq]
    rfl

/-- The backspace key comes in insert mode only, and then a command begins. -/
theorem onlyTypes_iff_insert :
    let s := (Screen.mount {} (Engine.start {} 3 0 none : Engine Nat) ['a']).1
    let events : List (ScreenEvent Nat) := [.key ⟨['i'], some ['i'], true⟩,
      .key ⟨"backspace".toList, none, false⟩, .key ⟨"escape".toList, none, false⟩,
      .key ⟨['d'], some ['d'], true⟩]
    s.OnlyTypes events ∧
      ∃ later, later <:+ events ∧ (s.run events).keys = later.flatMap ScreenEvent.typed := by
  intro s events
  obtain ⟨hiff, hkeys⟩ := onlyTypes_iff {} 3 0 none {} ['a'] events
  have htypes : s.OnlyTypes events := by
    apply hiff.2
    intro earlier event hstart hback _
    obtain ⟨rest, hsplit⟩ := hstart
    rcases earlier with _ | ⟨first, _ | ⟨second, _ | ⟨third, _ | ⟨fourth, more⟩⟩⟩⟩
    · cases (List.cons.inj hsplit).1
      exact absurd hback (by decide)
    · cases (List.cons.inj hsplit).1
      exact ⟨_, rfl, rfl⟩
    · cases (List.cons.inj (List.cons.inj (List.cons.inj hsplit).2).2).1
      exact absurd hback (by decide)
    · cases (List.cons.inj (List.cons.inj (List.cons.inj (List.cons.inj hsplit).2).2).2).1
      exact absurd hback (by decide)
    · have hlength := congrArg List.length hsplit
      simp [events] at hlength
  exact ⟨htypes, hkeys htypes⟩

/-- The backspace key of an editor into which nothing was typed: its name waits, though no key typed a
character. -/
theorem backspace_waits :
    let s := (Screen.mount {} (Engine.start {} 3 0 none : Engine Nat) ['a']).1
    let events : List (ScreenEvent Nat) := [.key ⟨"backspace".toList, none, false⟩]
    (s.run events).keys = "backspace".toList ∧
      ¬∃ typed : List Text, typed.Sublist (events.map ScreenEvent.typed) ∧
        (s.run events).keys = typed.flatten := by
  intro s events
  have hwaits : (s.run events).keys = "backspace".toList := by decide
  refine ⟨hwaits, ?_⟩
  intro htyped
  obtain ⟨typed, hsub, hkeys⟩ := htyped
  have hnone : typed.flatten = [] := by
    rw [List.flatten_eq_nil_iff]
    intro t ht
    exact List.mem_singleton.1 (hsub.subset ht)
  rw [hwaits, hnone] at hkeys
  exact absurd hkeys (by decide)

end Screen

end ModalEditor
