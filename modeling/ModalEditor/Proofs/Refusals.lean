import ModalEditor.Proofs.Feeding
import ModalEditor.Proofs.Totality
/-!
# Keys that are refused

Keys are meant never to fail. Four kinds of them do: those that make a count of too many digits, those that
complete a command whose counts multiply to a number of too many digits, those that complete a yank, a paste or
an indent of something too large, and those that put a text under a register name in upper case that has no
register in lower case. Nothing else fails, on any buffer whose rows and columns the log can hold.
-/
namespace ModalEditor

variable {τ : Type}

/-! ### Registers -/

namespace RegisterBank

/-- A name that a text can be written under: in lower case, or with a register name as its lower form. -/
def Writable (name : Text) : Prop :=
  ∃ c, name = [c] ∧ (Text.isUpper c = true →
    ∃ l, Text.lowerChar c = [l] ∧ Text.isUpper l = false ∧ isRegisterName [l] = true)

theorem eq_singleton_of_isRegisterName {name : Text} (h : isRegisterName name = true) : ∃ c, name = [c] := by
  unfold isRegisterName at h
  split at h
  · exact ⟨_, rfl⟩
  · cases h

theorem set_error_iff (bank : RegisterBank) {name : Text} (hname : isRegisterName name = true)
    (value : RegisterValue) :
    (∃ fault, bank.set name value = .error fault) ↔ ¬Writable name := by
  obtain ⟨c, rfl⟩ := eq_singleton_of_isRegisterName hname
  have hwritable : Writable [c] ↔ (Text.isUpper c = true →
      ∃ l, Text.lowerChar c = [l] ∧ Text.isUpper l = false ∧ isRegisterName [l] = true) := by
    constructor
    · rintro ⟨_, ⟨⟩, h⟩
      exact h
    · exact fun h => ⟨c, rfl, h⟩
  rw [hwritable, set, if_neg (by simp [hname])]
  by_cases hupper : Text.isUpper c = true
  · simp only [hupper, if_true, true_implies]
    split
    · next l hlower =>
      cases hagain : Text.isUpper l <;> cases hvalid : isRegisterName [l] <;>
        simp [hlower, hagain, hvalid]
    · next hspread =>
      refine iff_of_true ⟨_, rfl⟩ ?_
      rintro ⟨l, hlower, -⟩
      exact hspread l hlower
  · simp [hupper]

private theorem isRegisterName_nameOr {name : Option Text} (h : ∀ n ∈ name, isRegisterName n = true) :
    isRegisterName (nameOr name) = true := by
  rcases name with _ | _ | ⟨c, rest⟩
  · decide
  · exact absurd (h [] rfl) (by decide)
  · exact h _ rfl

private theorem store_error_iff (bank : RegisterBank) {name : Option Text}
    (hname : ∀ n ∈ name, isRegisterName n = true) (value : RegisterValue) :
    (∃ fault, bank.store name value = .error fault) ↔ ¬Writable (nameOr name) :=
  bank.set_error_iff (isRegisterName_nameOr hname) value

end RegisterBank

/-! ### Commands that were read -/

namespace Session

open Grammar

theorem cases_of_read (s : Session) {keys : Text} {c : Command} (h : (s.read keys).2 = .ok (some c)) :
    (∃ (op : Operator) (search : CharSearch),
        c = { operator := some op, target := some (.motion search.keys) }) ∨
      ∃ p : Phrase, p.WellFormed ∧ p.Describes c := by
  have hrepeat {reversed : Bool} (hfound : s.repeatSearch? reversed = some c) :
      ∃ (op : Operator) (search : CharSearch),
        c = { operator := some op, target := some (.motion search.keys) } := by
    obtain ⟨search, -, rfl⟩ := Option.map_eq_some_iff.1 hfound
    cases reversed with
    | false => exact ⟨_, search, rfl⟩
    | true => exact ⟨_, search.flip, rfl⟩
  by_cases hforward : keys = [';']
  · subst hforward
    exact .inl (hrepeat (Except.ok.inj h))
  by_cases hback : keys = [',']
  · subst hback
    exact .inl (hrepeat (Except.ok.inj h))
  rw [read_answer s hforward hback] at h
  obtain ⟨p, hp, -, -, hdescribes⟩ := read_sound h
  exact .inr ⟨p, hp, hdescribes⟩

theorem parts_of_read (s : Session) {keys : Text} {c : Command} (h : (s.read keys).2 = .ok (some c)) :
    (∀ name ∈ c.register, isRegisterName name = true) ∧ c.motion? ≠ some [] := by
  rcases s.cases_of_read h with ⟨op, search, rfl⟩ | ⟨p, hp, hdescribes⟩
  · constructor
    · intro name hname
      cases hname
    · intro hnone
      have hkeys : search.keys = [] := Option.some.inj hnone
      obtain ⟨char, forward, till⟩ := search
      cases forward <;> cases till <;> cases hkeys
  constructor
  · intro name hname
    rw [hdescribes.register] at hname
    obtain ⟨n, hn, rfl⟩ := Option.map_eq_some_iff.1 hname
    exact hp.register n hn
  · rw [hdescribes.motion]
    cases p.body with
    | aimed _ _ aim => cases aim <;> simp [Body.motion?, Aim.motion?]
    | bare aim => cases aim <;> simp [Body.motion?, Aim.motion?]
    | _ => simp [Body.motion?]

theorem read_error_iff (s : Session) {keys : Text} :
    (∃ fault, (s.read keys).2 = .error fault) ↔ LongCount keys := by
  rw [← Grammar.read_error_iff]
  constructor
  · rintro ⟨fault, h⟩
    exact ⟨fault, (s.read_of_error h).2⟩
  · rintro ⟨fault, h⟩
    have hforward : keys ≠ [';'] := by
      rintro rfl
      cases h
    have hback : keys ≠ [','] := by
      rintro rfl
      cases h
    exact ⟨fault, (s.read_answer hforward hback).trans h⟩

end Session

/-! ### Running a command -/

namespace Command

variable {c : Command} {registers : RegisterBank} {style : IndentStyle} {p : Position}
  {lines : List Text}

/-- What makes a command fail that was read: a count with too many digits, copies or a unit of indent that are
too large, or a text for a register that cannot be written. -/
def Fails (c : Command) (registers : RegisterBank) (style : IndentStyle) (p : Position)
    (lines : List Text) : Prop :=
  ¬Loggable c.times ∨ c.TooLarge registers style p lines ∨
    ∃ edit, (c.edit registers style p lines).value = .ok (some edit) ∧ c.stores edit = true ∧
      ¬RegisterBank.Writable (RegisterBank.nameOr c.register)

theorem written_of_loggable (htimes : Loggable c.times) : ∃ t, c.written = .ok t := by
  unfold written
  cases hcount : c.count with
  | none => exact ⟨_, rfl⟩
  | some n =>
    have hn : Loggable n.val := by
      rw [times, hcount] at htimes
      exact htimes
    have hdigits : Text.writeNat n.val = .ok (Text.intDigits n.val) := if_pos hn
    simp only [hdigits]
    exact ⟨_, rfl⟩

end Command

namespace Session

variable {c : Command} {lines : List Text} {cursor : Option Position}

theorem stored_error_iff (s : Session) (hregister : ∀ name ∈ c.register, isRegisterName name = true)
    (edit : Edit) :
    (∃ fault, s.stored c edit = .error fault) ↔
      c.stores edit = true ∧ ¬RegisterBank.Writable (RegisterBank.nameOr c.register) := by
  have hstore := s.registers.store_error_iff hregister
    ⟨edit.taken, if c.linewise then .line else .character⟩
  unfold stored
  split
  · next hstores =>
    simp only [hstores, true_and, ← hstore, store]
    cases s.registers.store c.register ⟨edit.taken, if c.linewise then .line else .character⟩ with
    | error fault => exact iff_of_true ⟨fault, rfl⟩ ⟨fault, rfl⟩
    | ok bank => exact iff_of_false (fun ⟨_, h⟩ => nomatch h) fun ⟨_, h⟩ => nomatch h
  · next hstores => exact iff_of_false (fun ⟨_, h⟩ => nomatch h) fun h => hstores h.1

/-- At a place inside a buffer that the log can hold, a command fails for these reasons alone. -/
theorem execute_error_iff (s : Session) (style : IndentStyle)
    (hinside : Inside lines (cursor.getD s.position)) (hfits : Fits lines)
    (hregister : ∀ name ∈ c.register, isRegisterName name = true) (hmotion : c.motion? ≠ some []) :
    (∃ fault, (s.execute style c lines cursor).value.2 = .error fault) ↔
      c.Fails s.registers style (cursor.getD s.position) lines := by
  rw [value_execute, ensurePosition_of_inside hinside]
  dsimp only
  -- the log writes the count before anything is edited, so a long count hides every other failure
  have hwritten := c.context_written
  by_cases htimes : Loggable c.times
  · rw [if_pos htimes] at hwritten
    obtain ⟨texts, htexts⟩ := hwritten
    have hlarge := Command.edit_error_iff hinside hfits htimes hmotion s.registers style
    have hbound : (c.context.written.bind fun _ =>
        (c.edit s.registers style (cursor.getD s.position) lines).value) =
          (c.edit s.registers style (cursor.getD s.position) lines).value := by
      rw [htexts]
      rfl
    rw [hbound, Command.Fails, ← hlarge, or_iff_right (not_not_intro htimes)]
    cases (c.edit s.registers style (cursor.getD s.position) lines).value with
    | error fault => exact iff_of_true ⟨fault, rfl⟩ (.inl ⟨fault, rfl⟩)
    | ok found =>
      cases found with
      | none =>
        obtain ⟨t, ht⟩ := c.written_of_loggable htimes
        change (∃ fault, (s.decline c lines (cursor.getD s.position)).value.2 = .error fault) ↔ _
        rw [value_decline, ht]
        simp [Except.map]
      | some edit =>
        change (∃ fault, (s.commit c edit).value.2 = .error fault) ↔ _
        rw [or_iff_right (not_exists_error_ok _)]
        simp only [Except.ok.injEq, Option.some.injEq, exists_eq_left', ← s.stored_error_iff hregister edit,
          value_commit]
        cases s.stored c edit with
        | error fault => exact iff_of_true ⟨fault, rfl⟩ ⟨fault, rfl⟩
        | ok stored => exact iff_of_false (not_exists_error_ok _) (not_exists_error_ok _)
  · rw [if_neg htimes] at hwritten
    rw [hwritten]
    exact iff_of_true ⟨_, rfl⟩ (.inl htimes)

end Session

/-! ### Pressing keys -/

namespace Typist

def place (t : Typist τ) : Position := t.cursor.getD t.engine.session.position

def wait [Add τ] (t : Typist τ) (duration : τ) : Typist τ :=
  { t with engine := t.engine.advance duration }

variable [LE τ] [DecidableLE τ] [Add τ] {t first : Typist τ}

/-- What a typist can come to: keys are pressed, also after some that failed, and time passes. -/
inductive Reached (first : Typist τ) : Typist τ → Prop
  | start : Reached first first
  | press {t : Typist τ} (h : Reached first t) (key : Char) : Reached first (t.press key).1
  | wait {t : Typist τ} (h : Reached first t) (duration : τ) : Reached first (t.wait duration)

/-- The keys that fail: they make too long a count, or they complete a command that fails. -/
def Refuses (t : Typist τ) (key : Char) : Prop :=
  [key] ∉ Engine.escapeKeys ∧ t.engine.session.mode ≠ .insert ∧
    (Grammar.LongCount (t.engine.pushed [key]).keys ∨
      ∃ c, (t.engine.reading [key]).2 = .ok (some c) ∧ c.pending = false ∧
        c.Fails t.engine.session.registers t.engine.settings.indentStyle t.place t.lines)

private theorem press_answer (t : Typist τ) (key : Char) :
    (t.press key).2 = (t.engine.feed [key] t.lines t.cursor).value.2 := by
  unfold press
  split
  · next heq => rw [heq]
  · next heq => rw [heq]

private theorem press_of_none {key : Char}
    (h : (t.engine.feed [key] t.lines t.cursor).value.2 = .ok none) :
    t.press key = ({ t with engine := (t.engine.feed [key] t.lines t.cursor).value.1 }, .ok none) := by
  unfold press
  cases hvalue : (t.engine.feed [key] t.lines t.cursor).value with
  | mk engine answer =>
    rw [hvalue] at h
    obtain rfl : answer = .ok none := h
    rfl

private theorem press_unread {key : Char}
    (h : [key] ∈ Engine.escapeKeys ∨ t.engine.session.mode = .insert) :
    ∃ engine : Engine τ, t.press key = ({ t with engine }, .ok none) ∧
      engine.session.position = t.engine.session.position := by
  obtain ⟨engine, hvalue, -, hposition⟩ := Engine.feed_unread t.lines t.cursor h
  refine ⟨engine, ?_, hposition⟩
  rw [press, hvalue]

private theorem press_sound (hs : Sound t.lines t.place) (key : Char) :
    Sound (t.press key).1.lines (t.press key).1.place := by
  have hstays {engine : Engine τ} (hposition : engine.session.position = t.engine.session.position) :
      Sound t.lines (t.cursor.getD engine.session.position) := by
    rw [hposition]
    exact hs
  by_cases hunread : [key] ∈ Engine.escapeKeys ∨ t.engine.session.mode = .insert
  · obtain ⟨engine, hpress, hposition⟩ := press_unread hunread
    rw [hpress]
    exact hstays hposition
  · obtain ⟨hkey, hmode⟩ := not_or.1 hunread
    have hfed : Engine.Fed t.engine [key] t.lines t.cursor
        (t.engine.feed [key] t.lines t.cursor).value := Engine.feed_fed hkey hmode
    unfold press
    cases hvalue : (t.engine.feed [key] t.lines t.cursor).value with
    | mk engine answer =>
      rw [hvalue] at hfed
      rcases answer with fault | _ | o
      · exact hstays (hfed.kept fun o h => nomatch h).1
      · exact hstays (hfed.kept fun o h => nomatch h).1
      · exact hfed.outcome_sound hs rfl

theorem Reached.sound (h : Reached first t) (hs : Sound first.lines first.place) :
    Sound t.lines t.place := by
  induction h with
  | start => exact hs
  | press _ key ih => exact press_sound ih key
  | wait _ duration ih => exact ih

private theorem press_error_iff_of_sound (hs : Sound t.lines t.place) (hfits : Fits t.lines) (key : Char) :
    (∃ fault, (t.press key).2 = .error fault) ↔ t.Refuses key := by
  by_cases hunread : [key] ∈ Engine.escapeKeys ∨ t.engine.session.mode = .insert
  · obtain ⟨engine, hpress, -⟩ := press_unread hunread
    rw [hpress]
    refine iff_of_false ?_ ?_
    · rintro ⟨_, ⟨⟩⟩
    · rintro ⟨hkey, hmode, -⟩
      exact hunread.elim hkey hmode
  obtain ⟨hkey, hmode⟩ := not_or.1 hunread
  have hfed : Engine.Fed t.engine [key] t.lines t.cursor
      (t.engine.feed [key] t.lines t.cursor).value := Engine.feed_fed hkey hmode
  have hlong : (∃ fault, (t.engine.reading [key]).2 = .error fault) ↔
      Grammar.LongCount (t.engine.pushed [key]).keys := t.engine.session.read_error_iff
  rw [press_answer, Refuses, ← hlong]
  simp only [hkey, hmode, not_false_eq_true, ne_eq, true_and]
  generalize (t.engine.feed [key] t.lines t.cursor).value = fed at hfed
  cases hfed with
  | waits hread =>
    refine iff_of_false ?_ ?_
    · rintro ⟨_, ⟨⟩⟩
    · rintro (⟨fault, h⟩ | ⟨c, h, hdone, -⟩)
      · rw [h] at hread
        exact hread
      · rw [h] at hread
        exact absurd hread (by simp [Session.Waits, hdone])
  | @refused fault hread => exact iff_of_true ⟨fault, rfl⟩ (.inl ⟨fault, hread⟩)
  | @completed c hread hdone after answer hran =>
    -- the command runs behind a read that changed the last search at most, so it fails as it would before
    obtain ⟨search, hsession⟩ := t.engine.reading_frame [key]
    obtain ⟨hregister, hmotion⟩ := t.engine.session.parts_of_read hread
    have hplace : Inside t.lines (t.cursor.getD (t.engine.reading [key]).1.position) := by
      rw [hsession]
      exact hs.inside
    have hfails := (t.engine.reading [key]).1.execute_error_iff t.engine.settings.indentStyle hplace
      hfits hregister hmotion
    have hanswer : ((t.engine.reading [key]).1.execute t.engine.settings.indentStyle c t.lines
        t.cursor).value.2 = answer := congrArg Prod.snd hran
    rw [hanswer, hsession] at hfails
    rw [hread]
    have hfault : (∃ fault, answer.map some = .error fault) ↔ ∃ fault, answer = .error fault := by
      cases answer <;> simp [Except.map]
    rw [hfault, hfails]
    constructor
    · exact fun h => .inr ⟨c, rfl, hdone, h⟩
    · rintro (⟨fault, h⟩ | ⟨c, h, -, hfail⟩)
      · cases h
      · cases h
        exact hfail

/-- Behind any keys that were pressed, and any pauses, a key fails exactly if it is one of those that the
typist's engine refuses. The typist began in a place inside single lines, and the log can hold the rows and
columns of its lines now. -/
theorem press_error_iff {settings : Settings} {idle now : τ} {logger : Option Text}
    {lines : List Text} {cursor : Option Position} (hl : ∀ line ∈ lines, '\n' ∉ line)
    (hcursor : ensurePosition lines (cursor.getD {}) = .ok (cursor.getD {}))
    (hreached : Reached ⟨Engine.start settings idle now logger, lines, cursor⟩ t)
    (hfits : Fits t.lines) (key : Char) :
    (∃ fault, (t.press key).2 = .error fault) ↔ t.Refuses key := by
  have hinside : Inside lines (cursor.getD {}) := (ensurePosition_eq_ok_iff.1 hcursor).2
  have hfirst : Sound lines (cursor.getD {}) := ⟨hl, hinside⟩
  exact press_error_iff_of_sound (hreached.sound hfirst) hfits key

/-- A register in upper case that has no single character in lower case cannot be copied to. -/
theorem press_error_iff_register :
    let first : Typist Nat := ⟨Engine.start {} 3 0 none, [['a']], none⟩
    let t := (((first.press '"').1.press 'İ').1.press 'y').1
    (t.press 'y').2 = .error (.badRegister ['i', '\u0307']) ∧ t.Refuses 'y' := by
  intro first t
  have hreached : Reached first t := .press (.press (.press .start '"') 'İ') 'y'
  have hfails : (t.press 'y').2 = .error (.badRegister ['i', '\u0307']) := by decide +kernel
  have hfits : Fits t.lines := ⟨by decide, by decide⟩
  exact ⟨hfails, (press_error_iff (by decide) rfl hreached hfits 'y').1 ⟨_, hfails⟩⟩

open Grammar

private theorem answers_long_count {e d : Engine τ} {before digits : Text} (h : e.Holds before d)
    (hmode : e.session.mode ≠ .insert) (hnumeral : Numeral (before ++ digits))
    (hshort : before.length ≤ Text.numeralLimit)
    (hlong : Text.numeralLimit < (before ++ digits).length) (lines : List Text)
    (cursor : Option Position) :
    (⟨d, lines, cursor⟩ : Typist τ).answers digits = .error (.numeralTooLong (Text.numeralLimit + 1)) := by
  -- on the digits to come: each moves to those that wait, which were few enough so far
  induction digits generalizing before d with
  | nil =>
    rw [List.append_nil] at hlong
    omega
  | cons key rest ih =>
    have hsplit : before ++ key :: rest = before ++ [key] ++ rest := by simp
    rw [hsplit] at hnumeral hlong
    have hpart : Numeral (before ++ [key]) := hnumeral.of_append (by simp)
    have hdigit {c : Char} (hc : c ∈ before ++ [key]) : Text.isDecimalDigit c = true :=
      hpart.isDecimalDigit c hc
    have hescape : key ≠ '\x1b' := by
      rintro rfl
      exact absurd (hdigit (List.mem_append_right before List.mem_cons_self)) (by decide)
    have hforward : before ++ [key] ≠ [';'] := by
      intro hsame
      exact absurd (hdigit (hsame ▸ List.mem_cons_self : ';' ∈ before ++ [key])) (by decide)
    have hback : before ++ [key] ≠ [','] := by
      intro hsame
      exact absurd (hdigit (hsame ▸ List.mem_cons_self : ',' ∈ before ++ [key])) (by decide)
    have hread := read_numeral hpart
    by_cases hfull : (before ++ [key]).length ≤ Text.numeralLimit
    · rw [if_pos hfull] at hread
      have hwaits : Session.Waits (Grammar.read (before ++ [key])) := by
        rw [hread]
        trivial
      have hkept := e.session.read_of_waits hforward hback hwaits
      obtain ⟨hanswer, hholds⟩ := h.feed_waits lines cursor hescape hmode
        (by rw [hkept]; exact hwaits) (by rw [hkept])
      have hpress : (⟨d, lines, cursor⟩ : Typist τ).press key =
          (⟨(d.feed [key] lines cursor).value.1, lines, cursor⟩, .ok none) := press_of_none hanswer
      simp only [answers, hpress, ih hholds hnumeral hfull hlong]
      rfl
    · have hlast : (before ++ [key]).length = Text.numeralLimit + 1 := by
        rw [List.length_append, List.length_singleton] at hfull ⊢
        omega
      rw [if_neg hfull, hlast] at hread
      have hpress : ((⟨d, lines, cursor⟩ : Typist τ).press key).2 =
          .error (.numeralTooLong (Text.numeralLimit + 1)) := by
        rw [press_answer, h.value_feed hescape hmode, e.session.read_answer hforward hback, hread]
        rfl
      simp only [answers, hpress]

/-- One digit too many for a count, and nothing else was typed. -/
theorem long_count_fails :
    (⟨Engine.start {} 3 0 none, [[]], none⟩ : Typist Nat).answers
        (List.replicate (Text.numeralLimit + 1) '1') =
      .error (.numeralTooLong (Text.numeralLimit + 1)) := by
  have hholds : (Engine.start {} 3 0 none : Engine Nat).Holds [] (Engine.start {} 3 0 none) :=
    Engine.holds_nil rfl (IdleTimer.patient_of_pos (by decide))
  have hnumeral : Numeral (List.replicate (Text.numeralLimit + 1) '1') := by
    refine ⟨'1', List.replicate Text.numeralLimit '1', rfl, by decide, fun c hc => ?_⟩
    rw [List.eq_of_mem_replicate hc]
    decide
  have hlong : Text.numeralLimit < ([] ++ List.replicate (Text.numeralLimit + 1) '1').length := by
    rw [List.nil_append, List.length_replicate]
    exact Nat.lt_succ_self _
  exact answers_long_count hholds (by decide) hnumeral (Nat.zero_le _) hlong [[]] none

end Typist

end ModalEditor
