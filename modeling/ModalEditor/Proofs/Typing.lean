import Mathlib.Algebra.Order.Group.Nat
import Mathlib.Algebra.Order.Monoid.Unbundled.Basic
import ModalEditor.Engine.Basic
import ModalEditor.Proofs.Reading
/-!
# Typing

Keys that come one by one end in the same command as keys that are read at once. No prefix of a
command is a command of its own, so whatever was typed waits until the last key.
-/
namespace ModalEditor.Grammar

variable {register : Option Text} {count : Option Count} {operator : Option Operator}
variable {keys more : Text} {c : Command}

private theorem not_simple_of_mem {key : Char} (h : key ∈ ['f', 'F', 't', 'T', 'i', 'a']) :
    key ∉ simpleMotions := by
  have hall : (simpleMotions.all (· ∉ ['f', 'F', 't', 'T', 'i', 'a'])) = true := by decide
  exact fun hsimple => of_decide_eq_true (List.all_eq_true.1 hall key hsimple) h

private theorem Aim.keys_append_ne {aim other : Aim} (h : aim.WellFormed) (ho : other.WellFormed)
    (hmore : more ≠ []) : other.keys ≠ aim.keys ++ more := by
  intro heq
  have hlength := congrArg List.length heq
  have hpos := List.length_pos_iff.2 hmore
  rw [List.length_append] at hlength
  have htwo : other.keys.length ≤ 2 := by cases other <;> simp [keys]
  -- a target of two keys is too long to begin another one, and a simple motion begins none
  cases aim with
  | search key c =>
    have hthis : (Aim.search key c).keys.length = 2 := rfl
    omega
  | object scope key =>
    have hthis : (Aim.object scope key).keys.length = 2 := rfl
    omega
  | simple key =>
    have hsimple : key ∈ simpleMotions := h
    cases other with
    | search first c =>
      cases heq
      exact not_simple_of_mem (List.mem_append_left ['i', 'a'] ho) hsimple
    | object scope c =>
      cases heq
      exact not_simple_of_mem (List.mem_append_right ['f', 'F', 't', 'T'] ho.1) hsimple
    | simple first =>
      have hthis : (Aim.simple key).keys.length = (Aim.simple first).keys.length := rfl
      omega

private theorem readAim?_append (h : readAim? register count operator keys = some c) (hmore : more ≠ []) :
    readAim? register count operator (keys ++ more) = none := by
  obtain ⟨aim, haim, rfl, -⟩ := readAim?_sound h
  cases hread : readAim? register count operator (aim.keys ++ more) with
  | none => rfl
  | some d =>
    obtain ⟨other, hother, hkeys, -⟩ := readAim?_sound hread
    exact absurd hkeys (Aim.keys_append_ne haim hother hmore)

private theorem finishOperand_append {op : Operator} (h : finishOperand register count op keys = some c)
    (hkeys : keys ≠ []) (hmore : more ≠ []) :
    finishOperand register count op (keys ++ more) = none := by
  obtain ⟨key, others, rfl⟩ := List.exists_cons_of_ne_nil hkeys
  rw [List.cons_append]
  unfold finishOperand at h ⊢
  dsimp only at h ⊢
  split at h
  · next hkey => rw [if_pos hkey, if_neg (by simp [hmore])]
  · next hkey =>
    rw [if_neg hkey]
    exact readAim?_append h hmore

private theorem readOperand_append {op : Operator} (h : readOperand register count op keys = .ok (some c))
    (hdone : c.pending = false) (hop : op.takesTarget = true) (hmore : more ≠ []) :
    readOperand register count op (keys ++ more) = .ok none := by
  rw [readOperand_eq] at h ⊢
  obtain ⟨⟨inner, rest⟩, hcount, hfinish⟩ := map_eq_ok_iff.1 h
  have hrest : rest ≠ [] := by
    intro hsame
    subst hsame
    cases hfinish
    simp [Command.pending, hop] at hdone
  rw [takeCount_append hcount hrest]
  exact congrArg Except.ok (finishOperand_append hfinish hrest hmore)

private theorem readBody_append (h : readBody register count keys = .ok (some c)) (hdone : c.pending = false)
    (hmore : more ≠ []) : readBody register count (keys ++ more) = .ok none := by
  obtain ⟨b, hb, rfl, -, -⟩ := readBody_sound h
  have hwaiting (op : Operator) (rest : Text) (hkey : op.key ∈ Body.waitingKeys)
      (h : readBody register count (op.key :: rest) = .ok (some c)) :
      readBody register count (op.key :: rest ++ more) = .ok none := by
    have hop := (takesTarget_iff op).2 hkey
    rw [readBody_operator, if_pos hop] at h
    rw [List.cons_append, readBody_operator, if_pos hop]
    exact readOperand_append h hdone hop hmore
  cases b with
  | yankLine => exact congrArg Except.ok (if_neg hmore)
  | atOnce op =>
    have hat := (not_takesTarget_iff op).2 hb.2
    rw [Body.keys, List.cons_append, readBody_operator, hat]
    exact congrArg Except.ok (if_neg hmore)
  | waiting op inner => exact hwaiting op (inner.getD []) hb.2 h
  | doubled op inner => exact hwaiting op (inner.getD [] ++ [op.key]) hb.2 h
  | aimed op inner aim => exact hwaiting op (inner.getD [] ++ aim.keys) hb.2.1 h
  | bare aim =>
    obtain ⟨key, rest, hcons, hkey, -⟩ := Aim.WellFormed.keys_cons hb.2
    rw [Body.keys, hcons, readBody_aim hkey] at h
    rw [Body.keys, hcons, List.cons_append, readBody_aim hkey, ← List.cons_append]
    exact congrArg Except.ok (readAim?_append (Except.ok.inj h) hmore)

private theorem takeRegister?_append {rest : Text} (h : takeRegister? keys = some (register, rest))
    (hkeys : keys ≠ []) (more : Text) :
    takeRegister? (keys ++ more) = some (register, rest ++ more) := by
  obtain ⟨key, others, rfl⟩ := List.exists_cons_of_ne_nil hkeys
  by_cases hkey : key = '"'
  · subst hkey
    cases others with
    | nil => cases h
    | cons name others =>
      rw [takeRegister?, Option.ite_none_right_eq_some] at h
      obtain ⟨hname, heq⟩ := h
      cases heq
      exact if_pos hname
  · rw [takeRegister?_of_ne hkey] at h
    cases h
    exact takeRegister?_of_ne hkey

/-- No command that is complete is a proper prefix of another one. -/
theorem read_append (h : read keys = .ok (some c)) (hdone : c.pending = false) (hmore : more ≠ []) :
    read (keys ++ more) = .ok none := by
  have hkeys : keys ≠ [] := by
    intro hsame
    subst hsame
    cases h
  unfold read at h ⊢
  split at h
  · cases h
  · next register rest hregister =>
    obtain ⟨⟨count, body⟩, hcount, hread⟩ := bind_eq_ok_iff.1 h
    have hbody : body ≠ [] := by
      intro hsame
      subst hsame
      cases hread
    rw [takeRegister?_append hregister hkeys]
    dsimp only
    rw [takeCount_append hcount hbody]
    exact readBody_append hread hdone hmore

private theorem read_append_error {fault : Fault} (h : read keys = .error fault) (more : Text) :
    ∃ fault, read (keys ++ more) = .error fault := by
  obtain ⟨lead, digits, rest, rfl, hlead, hlong⟩ := read_error_iff.1 ⟨fault, h⟩
  exact read_error_iff.2 ⟨lead, digits, rest ++ more, List.append_assoc _ rest more, hlead, hlong⟩

end ModalEditor.Grammar

namespace ModalEditor

open Grammar

theorem read_repeat_ne {key : Char} (hkey : key ∈ [';', ',']) (more : Text) (c : Command) :
    Grammar.read (key :: more) ≠ .ok (some c) := by
  intro h
  obtain ⟨⟨name, outer, b⟩, hp, -, hkeys, -⟩ := read_sound h
  cases name with
  | some name =>
    have hmark : '"' = key := (List.cons.inj hkeys).1
    subst hmark
    exact absurd hkey (by decide)
  | none =>
    cases outer with
    | some digits =>
      obtain ⟨first, rest, rfl, hbounds, -⟩ := hp.outer digits rfl
      have hfirst : first = key := (List.cons.inj hkeys).1
      subst hfirst
      simp only [List.mem_cons, List.not_mem_nil, or_false] at hkey
      rcases hkey with rfl | rfl <;> exact absurd hbounds (by decide)
    | none =>
      obtain ⟨first, rest, hcons, hmem, -⟩ := hp.body.keys_cons
      have hfirst : first = key := (List.cons.inj (hcons.symm.trans hkeys)).1
      subst hfirst
      simp only [List.mem_cons, List.not_mem_nil, or_false] at hkey
      rcases hkey with rfl | rfl <;> exact absurd hmem (by decide)

namespace Session

/-- An answer after which keys are kept and nothing is done. -/
def Waits : Except Fault (Option Command) → Prop
  | .error _ => False
  | .ok none => True
  | .ok (some c) => c.pending = true

private theorem motion?_of_pending {c : Command} (h : c.pending = true) : c.motion? = none := by
  obtain ⟨operator, target, count, register⟩ := c
  simp only [Command.pending, Bool.and_eq_true, Option.isNone_iff_eq_none] at h
  rw [Command.motion?, h.2]

theorem read_of_waits (s : Session) {keys : Text} (hforward : keys ≠ [';']) (hback : keys ≠ [','])
    (h : Waits (Grammar.read keys)) : s.read keys = (s, Grammar.read keys) := by
  unfold Session.read
  rw [if_neg hforward, if_neg hback]
  split
  · next c heq =>
    rw [heq] at h ⊢
    rw [motion?_of_pending h]
    rfl
  · rfl

private theorem read_waits (s : Session) {t : Session} {keys more : Text} {c : Command}
    (h : (t.read (keys ++ more)).2 = .ok (some c)) (hmore : more ≠ []) :
    Waits (s.read keys).2 ∧ (s.read keys).1 = s := by
  by_cases hkeys : keys = []
  · subst hkeys
    exact ⟨trivial, rfl⟩
  have hlength (key : Char) : keys ++ more ≠ [key] := by
    intro heq
    have htwo := congrArg List.length heq
    have hleft := List.length_pos_iff.2 hkeys
    have hright := List.length_pos_iff.2 hmore
    rw [List.length_append, List.length_singleton] at htwo
    omega
  rw [read_answer t (hlength ';') (hlength ',')] at h
  have hforward : keys ≠ [';'] := by
    intro hsame
    subst hsame
    exact read_repeat_ne (by decide) more c h
  have hback : keys ≠ [','] := by
    intro hsame
    subst hsame
    exact read_repeat_ne (by decide) more c h
  -- a refusal would stay one, and a complete command has no continuation
  have hwaits : Waits (Grammar.read keys) := by
    cases hread : Grammar.read keys with
    | error fault =>
      obtain ⟨fault, hfault⟩ := read_append_error hread more
      rw [hfault] at h
      cases h
    | ok found =>
      cases found with
      | none => exact trivial
      | some d =>
        cases hpending : d.pending with
        | true => exact hpending
        | false =>
          rw [read_append hread hpending hmore] at h
          cases h
  rw [s.read_of_waits hforward hback hwaits]
  exact ⟨hwaits, rfl⟩

end Session

namespace IdleTimer

/-- A timer that is started now does not go off now. -/
def Patient {τ : Type} [Add τ] [LE τ] (t : IdleTimer τ) : Prop := ¬t.now + t.timeout ≤ t.now

/-- Where time is exact, every timeout that may be set is patient; only a clock that rounds could lose
a positive timeout in a large time. -/
theorem patient_of_pos {τ : Type} [AddZeroClass τ] [Preorder τ] [AddLeftStrictMono τ] {t : IdleTimer τ}
    (h : 0 < t.timeout) : t.Patient :=
  not_le_of_gt (lt_add_of_pos_right t.now h)

variable {τ : Type} [Add τ] [LE τ]

theorem Patient.fresh_arm [DecidableLE τ] {t : IdleTimer τ} (h : t.Patient) (keys : Text) :
    (KeyBuffer.mk keys t.arm).fresh = ⟨keys, t.arm⟩ := by
  have hexpired : t.arm.expired = false := decide_eq_false h
  exact KeyBuffer.fresh_of_not_expired (Bool.eq_false_iff.1 hexpired)

end IdleTimer

theorem KeyBuffer.fresh_patient_iff {τ : Type} [Add τ] [LE τ] [DecidableLE τ] (b : KeyBuffer τ) :
    b.fresh.timer.Patient ↔ b.timer.Patient := by
  rw [IdleTimer.Patient, IdleTimer.Patient, b.fresh_timer.1, b.fresh_timer.2]

namespace Engine

variable {τ : Type} [Add τ] [LE τ] [DecidableLE τ]

/-- The engine after keys that came one by one while neither the lines nor the time changed. -/
def typed (e : Engine τ) (keys : Text) (lines : List Text) (cursor : Option Position) : Engine τ :=
  keys.foldl (fun e key => (e.feed [key] lines cursor).value.1) e

/-- An engine that waits with some keys: they are in its buffer, and all else is as it was. -/
structure Holds (e : Engine τ) (keys : Text) (d : Engine τ) : Prop where
  session : d.session = e.session
  settings : d.settings = e.settings
  logger : d.logger = e.logger
  text : d.buffer.text = keys
  patient : d.buffer.timer.Patient

variable {e d : Engine τ} {keys : Text} {key : Char} {lines : List Text} {cursor : Option Position}

theorem holds_nil (hkeys : e.buffer.keys = []) (hpatient : e.buffer.timer.Patient) : e.Holds [] e :=
  ⟨rfl, rfl, rfl, KeyBuffer.fresh_keys_nil hkeys, hpatient⟩

private theorem Holds.fresh_patient (h : e.Holds keys d) : d.buffer.fresh.timer.Patient :=
  d.buffer.fresh_patient_iff.2 h.patient

theorem Holds.value_feed (h : e.Holds keys d) (hescape : key ≠ '\x1b')
    (hmode : e.session.mode ≠ .insert) :
    (d.feed [key] lines cursor).value =
      let read := KeyBuffer.afterRead ⟨keys ++ [key], d.buffer.fresh.timer.arm⟩
        (e.session.read (keys ++ [key])).1 (e.session.read (keys ++ [key])).2
      (executeRead { d with buffer := read.1, session := read.2.1 } lines cursor read.2.2).value := by
  have hkey : [key] ∉ escapeKeys := by
    simp [escapeKeys, hescape]
  rw [Engine.value_feed, if_neg hkey, if_neg (by rw [h.session]; exact hmode), h.text, h.session,
    h.logger, KeyBuffer.value_parse, h.fresh_patient.fresh_arm, if_neg (by simp)]

theorem Holds.feed_waits (h : e.Holds keys d) (lines : List Text) (cursor : Option Position)
    (hescape : key ≠ '\x1b')
    (hmode : e.session.mode ≠ .insert) (hwaits : Session.Waits (e.session.read (keys ++ [key])).2)
    (hsession : (e.session.read (keys ++ [key])).1 = e.session) :
    (d.feed [key] lines cursor).value.2 = .ok none ∧
      e.Holds (keys ++ [key]) (d.feed [key] lines cursor).value.1 := by
  have hpatient : d.buffer.fresh.timer.Patient := h.fresh_patient
  have hholds : e.Holds (keys ++ [key])
      { d with buffer := ⟨keys ++ [key], d.buffer.fresh.timer.arm⟩, session := e.session } := by
    refine ⟨rfl, h.settings, h.logger, ?_, hpatient⟩
    rw [KeyBuffer.text, hpatient.fresh_arm]
  rw [h.value_feed hescape hmode, hsession]
  cases hread : (e.session.read (keys ++ [key])).2 with
  | error fault => rw [hread] at hwaits; exact hwaits.elim
  | ok found =>
    cases found with
    | none => exact ⟨rfl, hholds⟩
    | some c =>
      rw [hread] at hwaits
      have hpending : c.pending = true := hwaits
      simp only [KeyBuffer.afterRead, hpending, if_true]
      exact ⟨rfl, hholds⟩

private theorem Holds.feed_completes (h : e.Holds keys d) (hescape : key ≠ '\x1b')
    (hmode : e.session.mode ≠ .insert) {c : Command}
    (hread : (e.session.read (keys ++ [key])).2 = .ok (some c)) (hdone : c.pending = false) :
    let executed :=
      ({ e with session := (e.session.read (keys ++ [key])).1 }.execute c lines cursor).value
    (d.feed [key] lines cursor).value.2 = executed.2.map some ∧
      (d.feed [key] lines cursor).value.1.session = executed.1.session ∧
      (d.feed [key] lines cursor).value.1.buffer.keys = [] := by
  intro executed
  rw [h.value_feed hescape hmode, hread]
  simp only [KeyBuffer.afterRead, hdone, executeRead, Bool.false_eq_true, if_false,
    Logged.value_bind, Logged.value_pure, value_execute, h.settings, executed, true_and]
  rfl

/-- Keys that only begin a command pile up. -/
theorem Holds.typed {before more : Text} (h : e.Holds before d) (lines : List Text)
    (cursor : Option Position) (hescape : '\x1b' ∉ keys)
    (hmode : e.session.mode ≠ .insert) {c : Command}
    (hread : (e.session.read (before ++ keys ++ more)).2 = .ok (some c)) (hmore : more ≠ []) :
    e.Holds (before ++ keys) (d.typed keys lines cursor) := by
  induction keys generalizing before d with
  | nil => simpa [Engine.typed] using h
  | cons key rest ih =>
    rw [List.mem_cons, not_or] at hescape
    have hsplit : before ++ key :: rest ++ more = (before ++ [key]) ++ (rest ++ more) := by simp
    have hlater : rest ++ more ≠ [] := by simp [hmore]
    obtain ⟨hwaits, hsession⟩ := e.session.read_waits (hsplit ▸ hread) hlater
    obtain ⟨-, hholds⟩ := h.feed_waits lines cursor (Ne.symm hescape.1) hmode hwaits hsession
    have hrest := ih hholds hescape.2 (by simpa using hread)
    simpa [Engine.typed] using hrest

/-- Keys that are read as a command may as well come one by one. None but the last has an answer or
touches the session; the last one answers what executing the command does, with the same session behind
it, and leaves no keys. No session reads a complete command in less than all of the keys. -/
theorem typed_eq_parsed {command : Command} (lines : List Text) (cursor : Option Position)
    (hmode : e.session.mode ≠ .insert) (hkeys : e.buffer.keys = [])
    (hpatient : e.buffer.timer.Patient) (hescape : '\x1b' ∉ keys)
    (hparse : (e.session.parse e.logger keys).value.2 = .ok (some command))
    (hdone : command.pending = false) :
    let executed := ({ e with session := (e.session.parse e.logger keys).value.1 }.execute command lines
      cursor).value
    (∀ before key rest, keys = before ++ key :: rest →
      let fed := ((e.typed before lines cursor).feed [key] lines cursor).value
      if rest = [] then
        fed.2 = executed.2.map some ∧ fed.1.session = executed.1.session ∧ fed.1.buffer.keys = []
      else fed.2 = .ok none ∧ fed.1.session = e.session) ∧
    ∀ before rest, keys = before ++ rest → rest ≠ [] → ∀ (s : Session) (c : Command),
      (s.parse e.logger before).value.2 = .ok (some c) → c.pending = true := by
  rw [Session.value_parse] at hparse ⊢
  refine ⟨?_, ?_⟩
  · rintro before key rest rfl
    have hkey : key ≠ '\x1b' := by
      intro hsame
      subst hsame
      simp at hescape
    have hbefore : '\x1b' ∉ before := fun hmem => hescape (List.mem_append_left _ hmem)
    -- the keys before this one only begin the command, so all of them wait
    have hholds := (holds_nil hkeys hpatient).typed lines cursor hbefore hmode hparse
      (List.cons_ne_nil key rest)
    dsimp only
    split
    · next hlast =>
      subst hlast
      exact hholds.feed_completes hkey hmode hparse hdone
    · next hmore =>
      have hsplit : before ++ key :: rest = (before ++ [key]) ++ rest := by simp
      obtain ⟨hwaits, hsession⟩ := e.session.read_waits (hsplit ▸ hparse) hmore
      obtain ⟨hanswer, hafter⟩ := hholds.feed_waits lines cursor hkey hmode hwaits hsession
      exact ⟨hanswer, hafter.session⟩
  · rintro before rest rfl hrest s c hc
    rw [Session.value_parse] at hc
    have hwaits := (s.read_waits hparse hrest).1
    rw [hc] at hwaits
    exact hwaits

/-- The keys of `d2w` come one by one and cut two words. -/
theorem typed_eq_parsed_words :
    let e : Engine Nat := Engine.start {} 3 0 none
    let command : Command := ⟨some .delete, some (.motion ['w']), some ⟨2, by decide⟩, none⟩
    let lines : List Text := [['a', ' ', 'b', ' ', 'c']]
    let executed := ({ e with session := (e.session.parse e.logger ['d', '2', 'w']).value.1 }.execute
      command lines none).value
    (∀ before key rest, ['d', '2', 'w'] = before ++ key :: rest →
      let fed := ((e.typed before lines none).feed [key] lines none).value
      if rest = [] then
        fed.2 = executed.2.map some ∧ fed.1.session = executed.1.session ∧ fed.1.buffer.keys = []
      else fed.2 = .ok none ∧ fed.1.session = e.session) ∧
    ∀ before rest, ['d', '2', 'w'] = before ++ rest → rest ≠ [] → ∀ (s : Session) (c : Command),
      (s.parse e.logger before).value.2 = .ok (some c) → c.pending = true :=
  typed_eq_parsed _ none (by decide) rfl (IdleTimer.patient_of_pos (by decide)) (by decide) rfl rfl

end Engine
end ModalEditor
