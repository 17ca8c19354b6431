import ModalEditor.Proofs.Feeding
/-!
# Hosts in step with runs

A host that is typed into and an engine that runs the same keys are two drivers of one engine: the host
reads its cursor from the session and keeps its own lines, the run keeps the lines and the cursor of the last
outcome. As long as every key is one for the engine, both come to the same.
-/
namespace ModalEditor

variable {τ : Type}

variable [LE τ] [DecidableLE τ] [Add τ]

namespace Host

variable {h : Host τ} {key : Char}

/-- The driver that a run of the host's engine is, seen from the host. -/
def typist (h : Host τ) : Typist τ := ⟨h.engine, h.lines, some h.cursor⟩

/-- Whether a key changed something: it leaves a mode, or its command was done. -/
def changed (key : Char) (found : Option Outcome) : Bool :=
  [key] ∈ Engine.escapeKeys || found.any (!·.noop)

private theorem feed_typist (hkey : [key] ∉ Engine.escapeKeys) (hmode : h.mode ≠ .insert) :
    (h.feed [key]).host.typist = (h.typist.press key).1 ∧
      (h.feed [key]).answer = (h.typist.press key).2.map (changed key) := by
  have hfed : Engine.Fed h.engine [key] h.lines (some h.engine.session.position)
      (h.engine.feed [key] h.lines (some h.engine.session.position)).value :=
    Engine.feed_fed hkey hmode
  have hquiet : decide ([key] ∈ Engine.escapeKeys) = false := decide_eq_false hkey
  cases hvalue : (h.engine.feed [key] h.lines (some h.cursor)).value with
  | mk engine answer =>
    have hposition := hfed.position
    rw [cursor] at hvalue
    rw [hvalue] at hfed hposition
    simp only [feed_eq, typist, Typist.press, cursor, hvalue]
    rcases answer with fault | _ | o
    · have hsame : engine.session.position = h.engine.session.position := hposition
      simp [hsame, Except.map]
    · -- the look for waiting keys that the status line takes finds nothing stale
      have hsame : engine.session.position = h.engine.session.position := hposition
      have hfresh : engine.buffer.fresh = engine.buffer := (hfed.waits_of_none rfl).2
      simp [hsame, hfresh, changed, hquiet, Except.map]
    · have hmoved : engine.session.position = o.cursor := hposition
      simp [apply, hmoved, changed, hquiet, Except.map]

private theorem leaveInsert_typist (hkey : [key] ∈ Engine.escapeKeys) (hmode : h.mode ≠ .insert) :
    h.leaveInsert.host.typist = (h.typist.press key).1 ∧
      h.leaveInsert.answer = (h.typist.press key).2.map (changed key) := by
  have hvalue (lines : List Text) (cursor : Option Position) :
      (h.engine.feed [key] lines cursor).value = (h.engine.escape.value, .ok none) := by
    rw [Engine.value_feed, if_pos hkey, Engine.value_escape]
  simp only [leaveInsert, typist, Typist.press, hvalue, hmode, false_and, if_false]
  simp [changed, hkey, Except.map, cursor, Session.inMode]

private theorem handleKey_typist (text : Option Text) (hmode : h.mode ≠ .insert)
    (hinsert : [key] ∈ insertKeys → h.engine.buffer.text ≠ []) :
    (h.handleKey [key] text).host.typist = (h.typist.press key).1 ∧
      (h.handleKey [key] text).answer = (h.typist.press key).2.map (changed key) := by
  have hrouted := route_routed h [key] text
  simp only [handleKey]
  generalize h.route [key] text = step at hrouted ⊢
  cases hrouted with
  | left hkey => exact leaveInsert_typist hkey hmode
  | typed htyping => exact absurd htyping hmode
  | began _ hbegins hnone => exact absurd hnone (hinsert hbegins)
  | fed hkey => exact feed_typist hkey hmode

/-- Every key arrives where the engine reads it: not while text is typed, and not as one that begins to
insert. -/
def Reads (h : Host τ) : Text → Prop
  | [] => True
  | key :: rest =>
    (h.mode ≠ .insert ∧ ([key] ∈ insertKeys → h.engine.buffer.text ≠ [])) ∧
      match (h.handleKey [key] (some [key])).answer with
      | .error _ => True
      | .ok _ => (h.handleKey [key] (some [key])).host.Reads rest

instance decidableReads (h : Host τ) : (keys : Text) → Decidable (h.Reads keys)
  | [] => isTrue trivial
  | key :: rest =>
    have : Decidable (match (h.handleKey [key] (some [key])).answer with
        | .error _ => True
        | .ok _ => (h.handleKey [key] (some [key])).host.Reads rest) :=
      match (h.handleKey [key] (some [key])).answer with
      | .error _ => isTrue trivial
      | .ok _ => decidableReads _ rest
    inferInstanceAs (Decidable (_ ∧ _))

/-- Typing keeps step with the keys of a run, and so do the answers. -/
theorem type_typist {keys : Text} (hreads : h.Reads keys) :
    (h.type keys).host.typist = h.typist.after keys ∧
      (h.type keys).answer = (h.typist.answers keys).map (List.zipWith changed keys) := by
  -- what the two drivers share is the typist: engine, lines and cursor, whoever keeps them
  induction keys generalizing h with
  | nil => exact ⟨rfl, rfl⟩
  | cons key rest ih =>
    obtain ⟨⟨hmode, hinsert⟩, hlater⟩ := hreads
    obtain ⟨hstep, hanswer⟩ := handleKey_typist (some [key]) hmode hinsert
    simp only [type, Typist.after, Typist.answers]
    cases hpress : (h.typist.press key).2 with
    | error fault =>
      rw [hpress] at hanswer
      simp only [hanswer, Except.map]
      exact ⟨hstep, trivial⟩
    | ok found =>
      rw [hpress] at hanswer
      simp only [hanswer, Except.map] at hlater ⊢
      obtain ⟨hrest, hflags⟩ := ih hlater
      rw [← hstep, hflags]
      refine ⟨hrest, ?_⟩
      cases (h.handleKey [key] (some [key])).host.typist.answers rest <;> rfl

end Host

private theorem Typist.press_lines (t : Typist τ) {key : Char} {found : Option Outcome}
    (h : (t.press key).2 = .ok found) :
    (t.press key).1.lines = (found.map Outcome.lines).getD t.lines := by
  cases hvalue : (t.engine.feed [key] t.lines t.cursor).value with
  | mk engine answer =>
    simp only [press, hvalue] at h ⊢
    rcases answer with fault | _ | o <;> cases h <;> rfl

private theorem Typist.lines_after {t : Typist τ} {keys : Text} {answers : List (Option Outcome)}
    (h : t.answers keys = .ok answers) :
    (t.after keys).lines = (answers.reduceOption.getLast?.map Outcome.lines).getD t.lines := by
  induction keys generalizing t answers with
  | nil =>
    cases h
    rfl
  | cons key rest ih =>
    rw [Typist.answers] at h
    rw [Typist.after]
    cases hpress : (t.press key).2 with
    | error fault =>
      rw [hpress] at h
      cases h
    | ok found =>
      rw [hpress] at h
      obtain ⟨later, hlater, rfl⟩ := map_eq_ok_iff.1 h
      simp only [ih hlater]
      have hlines := t.press_lines hpress
      cases found with
      | none => rw [List.reduceOption_cons_of_none, hlines]; rfl
      | some o =>
        rw [List.reduceOption_cons_of_some, hlines]
        cases hlast : later.reduceOption.getLast? <;> simp [List.getLast?_cons, hlast]

/-- Keys that are typed into a host leave the engine as a run of them does, and the lines of the run's last
outcome; the keys that changed something are those whose outcome in the run was done, and those that leave a
mode. -/
theorem Host.type_eq_runFrom {h : Host τ} {keys : Text} (hreads : h.Reads keys) :
    (h.type keys).host.engine = (h.engine.runFrom keys h.lines (some h.cursor)).value.1 ∧
      match (h.engine.runFrom keys h.lines (some h.cursor)).value.2 with
      | .error fault => (h.type keys).answer = .error fault
      | .ok outcomes =>
        (h.type keys).host.lines = (outcomes.getLast?.map Outcome.lines).getD h.lines ∧
          ∃ found, h.typist.answers keys = .ok found ∧ outcomes = found.reduceOption ∧
            (h.type keys).answer = .ok (List.zipWith changed keys found) := by
  obtain ⟨hstep, hflags⟩ := type_typist hreads
  have hengine : (h.type keys).host.engine = (h.typist.after keys).engine :=
    congrArg Typist.engine hstep
  have hlines : (h.type keys).host.lines = (h.typist.after keys).lines :=
    congrArg Typist.lines hstep
  have hrun : (h.engine.runFrom keys h.lines (some h.cursor)).value =
      ((h.typist.after keys).engine, (h.typist.answers keys).map List.reduceOption) :=
    h.engine.value_runFrom keys h.lines (some h.cursor)
  rw [hrun, hflags, hengine, hlines]
  refine ⟨rfl, ?_⟩
  cases hanswers : h.typist.answers keys with
  | error fault => rfl
  | ok found => exact ⟨Typist.lines_after hanswers, found, rfl, rfl, rfl⟩

/-- With `i` behind an operator, keys that an escape drops, and a command that finds nothing to do. -/
theorem Host.type_eq_runFrom_object :
    let h : Host Nat := ⟨Engine.start {} 3 0 none, [['a', ' ', 'b']]⟩
    let keys : Text := ['d', 'i', 'w', 'P', '2', '\x1b', 'h']
    (h.type keys).host.engine = (h.engine.runFrom keys h.lines (some h.cursor)).value.1 ∧
      (h.type keys).answer = .ok [false, false, true, true, false, true, false] := by
  intro h keys
  have hreads : h.Reads keys := by decide
  obtain ⟨hengine, -⟩ := type_eq_runFrom hreads
  exact ⟨hengine, by decide⟩

end ModalEditor
