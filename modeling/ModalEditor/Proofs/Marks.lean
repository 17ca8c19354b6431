import ModalEditor.Proofs.Histories
import ModalEditor.Proofs.OutsidePlaces
/-!
# Marks

A mark is the place where the cursor stood when it was set, and a jump goes back to that place. The engine keeps
no lines, so a mark does not move with them: when lines or columns that stood there are gone, a jump leaves the
buffer. This is the only way out of it, and the next jump into the buffer leads back in. While the cursor is
outside, every key that completes a command is refused.
-/
namespace ModalEditor

variable {τ : Type}

/-! ### Marks of a session -/

namespace Session

private theorem lookup_putMark (marks : List (Char × Position)) (name other : Char) (p : Position) :
    (putMark marks name p).lookup other = if other = name then some p else marks.lookup other := by
  induction marks with
  | nil => by_cases h : other = name <;> simp [putMark, h]
  | cons entry rest ih =>
    obtain ⟨n, q⟩ := entry
    by_cases hn : n = name
    · subst hn
      by_cases h : other = n
      · simp [putMark, h]
      · have hne : (other == n) = false := by simpa using h
        simp [putMark, List.lookup_cons, h, hne]
    · simp only [putMark, hn, if_false, List.lookup_cons, ih]
      by_cases h : other = name
      · subst h
        have hne : (other == n) = false := by simpa using Ne.symm hn
        simp [hne]
      · simp [h]

private theorem eq_of_markName? {name : Text} {c : Char} (h : markName? name = some c) : name = [c] := by
  unfold markName? at h
  split at h
  · split at h
    · cases h
      rfl
    · cases h
  · cases h

private theorem mark?_of_setMark {s marked : Session} {name : Text} {position : Option Position}
    (h : s.setMark name position = .ok marked) (other : Text) :
    marked.mark? other = if other = name then some (position.getD s.position) else s.mark? other := by
  obtain ⟨c, hname, hmarked⟩ := bind_eq_ok_iff.1 h
  cases hmarked
  cases hfind : markName? name with
  | none =>
    rw [hfind] at hname
    cases hname
  | some found =>
    rw [hfind] at hname
    cases hname
    obtain rfl := eq_of_markName? hfind
    cases hother : markName? other with
    | none =>
      have hne : other ≠ [c] := by
        rintro rfl
        rw [hfind] at hother
        cases hother
      simp [mark?, hother, hne]
    | some d =>
      obtain rfl := eq_of_markName? hother
      simp [mark?, hother, lookup_putMark]

end Session

/-! ### Navigators -/

/-- An engine, and the lines that its outcomes leave with the host. -/
structure Navigator (τ : Type) where
  engine : Engine τ
  lines : List Text

/-- What a host does with marks: it feeds keys, marks the cursor's place, jumps there, and lets time pass. -/
inductive NavigatorEvent (τ : Type)
  | feed (key : Text)
  | setMark (name : Text)
  | jump (name : Text)
  | advance (wait : τ)

namespace Navigator

def place (n : Navigator τ) : Position := n.engine.session.position

private theorem jumpToMark_answer (e : Engine τ) (name : Text) : (e.jumpToMark name).2 = e.session.mark? name := by
  unfold Engine.jumpToMark
  split
  · next h => rw [h]
  · next h => rw [h]

variable [LE τ] [DecidableLE τ] [Add τ]

/-- The navigator behind an event, also one that failed; the lines of an outcome are kept. -/
def after (n : Navigator τ) : NavigatorEvent τ → Navigator τ
  | .feed key =>
    match (n.engine.feed key n.lines none).value with
    | (engine, .ok (some o)) => ⟨engine, o.lines⟩
    | (engine, _) => { n with engine }
  | .setMark name =>
    match n.engine.setMark name none with
    | .ok engine => { n with engine }
    | .error _ => n
  | .jump name => { n with engine := (n.engine.jumpToMark name).1 }
  | .advance wait => { n with engine := n.engine.advance wait }

def run (n : Navigator τ) (events : List (NavigatorEvent τ)) : Navigator τ := events.foldl after n

/-- Where a jump that found its mark has led, and the lines that were there then. -/
def landing? (n : Navigator τ) : NavigatorEvent τ → Option (List Text × Position)
  | .jump name => (n.engine.jumpToMark name).2.map fun p => (n.lines, p)
  | _ => none

/-- A mark that was set, and the place of the cursor then. -/
def marking? (n : Navigator τ) : NavigatorEvent τ → Option (Text × Position)
  | .setMark name =>
    match n.engine.setMark name none with
    | .ok _ => some (name, n.place)
    | .error _ => none
  | _ => none

def landings (n : Navigator τ) (events : List (NavigatorEvent τ)) : List (List Text × Position) :=
  noted after landing? n events

def markings (n : Navigator τ) (events : List (NavigatorEvent τ)) : List (Text × Position) :=
  noted after marking? n events

variable {n first : Navigator τ}

private theorem after_feed (n : Navigator τ) (key : Text) :
    (n.after (.feed key)).engine.session.marks = n.engine.session.marks ∧
      ((n.after (.feed key)).lines = n.lines ∧ (n.after (.feed key)).place = n.place ∨
        Inside n.lines n.place ∧
          (SingleLines n.lines → Sound (n.after (.feed key)).lines (n.after (.feed key)).place)) := by
  -- a key that is not read changes the mode and the waiting keys at most
  by_cases hunread : key ∈ Engine.escapeKeys ∨ n.engine.session.mode = .insert
  · obtain ⟨engine, hvalue, hmarks, hposition⟩ := Engine.feed_unread n.lines none hunread
    have hafter : n.after (.feed key) = { n with engine } := by rw [after, hvalue]
    rw [hafter]
    exact ⟨hmarks, .inl ⟨rfl, hposition⟩⟩
  · obtain ⟨hkey, hmode⟩ := not_or.1 hunread
    have hfed : Engine.Fed n.engine key n.lines none (n.engine.feed key n.lines none).value :=
      Engine.feed_fed hkey hmode
    obtain ⟨hmarks, hmoved⟩ := hfed.moved
    cases hvalue : (n.engine.feed key n.lines none).value with
    | mk engine answer =>
      rw [hvalue] at hfed hmarks hmoved
      rcases answer with fault | _ | o
      · have hafter : n.after (.feed key) = { n with engine } := by rw [after, hvalue]
        rw [hafter]
        exact ⟨hmarks, .inl ⟨rfl, hmoved⟩⟩
      · have hafter : n.after (.feed key) = { n with engine } := by rw [after, hvalue]
        rw [hafter]
        exact ⟨hmarks, .inl ⟨rfl, hmoved⟩⟩
      · have hafter : n.after (.feed key) = ⟨engine, o.lines⟩ := by rw [after, hvalue]
        obtain ⟨hinside, hposition⟩ := hmoved
        have hplace : (⟨engine, o.lines⟩ : Navigator τ).place = o.cursor := hposition
        rw [hafter, hplace]
        refine ⟨hmarks, .inr ⟨hinside, fun hl => ?_⟩⟩
        exact hfed.outcome_sound ⟨hl, hinside⟩ rfl

private theorem mark?_after (n : Navigator τ) (event : NavigatorEvent τ) (name : Text) :
    (n.after event).engine.session.mark? name =
      ((n.marking? event).bind fun marking => if marking.1 = name then some marking.2 else none).or
        (n.engine.session.mark? name) := by
  cases event with
  | feed key =>
    have hmarks := (n.after_feed key).1
    simp only [marking?, Option.bind_none, Option.none_or, Session.mark?, hmarks]
  | setMark other =>
    cases hset : n.engine.session.setMark other none with
    | error fault =>
      have hengine : n.engine.setMark other none = .error fault := by
        rw [Engine.setMark, hset]
        rfl
      simp only [after, marking?, hengine, Option.bind_none, Option.none_or]
    | ok marked =>
      have hengine : n.engine.setMark other none = .ok { n.engine with session := marked } := by
        rw [Engine.setMark, hset]
        rfl
      simp only [after, marking?, hengine, Session.mark?_of_setMark hset, Option.bind_some, Option.getD_none]
      by_cases hsame : name = other
      · simp [hsame, place]
      · simp [hsame, Ne.symm hsame]
  | jump other =>
    simp only [after, marking?, Option.bind_none, Option.none_or, Engine.jumpToMark]
    split <;> rfl
  | advance wait => rfl

private theorem inside_after_iff (hl : SingleLines n.lines) {event : NavigatorEvent τ}
    (hevent : n.landing? event = none) :
    Inside (n.after event).lines (n.after event).place ↔ Inside n.lines n.place := by
  cases event with
  | feed key =>
    obtain ⟨-, ⟨hlines, hplace⟩ | ⟨hinside, hsound⟩⟩ := n.after_feed key
    · rw [hlines, hplace]
    · exact iff_of_true (hsound hl).inside hinside
  | setMark name =>
    simp only [after]
    split
    · next hset =>
      obtain ⟨marked, hmarked, hengine⟩ := bind_eq_ok_iff.1 hset
      obtain ⟨c, -, hsession⟩ := bind_eq_ok_iff.1 hmarked
      cases hsession
      cases hengine
      exact Iff.rfl
    · exact Iff.rfl
  | jump name =>
    have hnone : n.engine.session.mark? name = none := by
      simpa [landing?, jumpToMark_answer] using hevent
    simp only [after, Engine.jumpToMark, hnone]
  | advance wait => exact Iff.rfl

private theorem after_landing {event : NavigatorEvent τ} {landing : List Text × Position}
    (h : n.landing? event = some landing) :
    (n.after event).lines = landing.1 ∧ (n.after event).place = landing.2 := by
  cases event with
  | jump name =>
    obtain ⟨p, hp, rfl⟩ := Option.map_eq_some_iff.1 h
    rw [jumpToMark_answer] at hp
    refine ⟨rfl, ?_⟩
    simp only [after, place, Engine.jumpToMark, hp]
    rfl
  | _ => cases h

private theorem after_single (hl : SingleLines n.lines) (event : NavigatorEvent τ) :
    SingleLines (n.after event).lines := by
  cases event with
  | feed key =>
    obtain ⟨-, ⟨hlines, -⟩ | ⟨-, hsound⟩⟩ := n.after_feed key
    · rwa [hlines]
    · exact (hsound hl).single
  | setMark name =>
    simp only [after]
    split <;> exact hl
  | jump name => exact hl
  | advance wait => exact hl

/-- The cursor is inside the buffer exactly if the latest jump that found its mark led inside, or if there was
none. -/
theorem run_inside_iff (hl : SingleLines first.lines) (hstart : Inside first.lines first.place)
    (events : List (NavigatorEvent τ)) :
    SingleLines (first.run events).lines ∧
      (Inside (first.run events).lines (first.run events).place ↔
        ∀ landing ∈ (first.landings events).getLast?, Inside landing.1 landing.2) := by
  induction events using List.reverseRecOn with
  | nil => exact ⟨hl, iff_of_true hstart fun _ h => nomatch h⟩
  | append_singleton earlier event ih =>
    obtain ⟨hsingle, hinside⟩ := ih
    have hrun : first.run (earlier ++ [event]) = (first.run earlier).after event := by
      rw [run, List.foldl_append]
      rfl
    have hnoted : first.landings (earlier ++ [event]) =
        first.landings earlier ++ ((first.run earlier).landing? event).toList := noted_concat _ _ _
    rw [hrun, hnoted]
    refine ⟨after_single hsingle event, ?_⟩
    cases hevent : (first.run earlier).landing? event with
    | none =>
      rw [Option.toList_none, List.append_nil, ← hinside]
      exact inside_after_iff hsingle hevent
    | some landing =>
      obtain ⟨hlines, hplace⟩ := after_landing hevent
      rw [Option.toList_some, List.getLast?_concat, hlines, hplace]
      simp

private theorem place_after_jump (n : Navigator τ) (name : Text) :
    (n.after (.jump name)).place = (n.engine.session.mark? name).getD n.place := by
  simp only [after, place, Engine.jumpToMark]
  split
  · next h => rw [h]; rfl
  · next h => rw [h]; rfl

/-- A mark leads back to where it was set last, and not always into the buffer. Behind every run that began
inside single lines the cursor is accepted exactly if the latest jump that found its mark, if there was one, led
to a place that was accepted for the lines at that time. A key is refused for the place of the cursor exactly if
the cursor is not accepted and the key completes a command. -/
theorem run_marks (hl : ∀ line ∈ first.lines, '\n' ∉ line)
    (hstart : ensurePosition first.lines first.place = .ok first.place)
    (events : List (NavigatorEvent τ)) :
    let n := first.run events
    (∀ name, (n.after (.jump name)).place =
      (((first.markings events).filterMap fun marking =>
        if marking.1 = name then some marking.2 else none).getLast?.or
          (first.engine.session.mark? name)).getD n.place) ∧
      (ensurePosition n.lines n.place = .ok n.place ↔
        ∀ landing ∈ (first.landings events).getLast?,
          ensurePosition landing.1 landing.2 = .ok landing.2) ∧
      ∀ key, (∃ fault, (n.engine.feed key n.lines none).value.2 = .error fault ∧
          fault.isOutside = true) ↔
        ensurePosition n.lines n.place ≠ .ok n.place ∧
          n.engine.completed? (.feed key n.lines none) ≠ none := by
  intro n
  have haccepted {lines : List Text} {p : Position} : ensurePosition lines p = .ok p ↔ Inside lines p := by
    rw [ensurePosition_eq_ok_iff, and_iff_right rfl]
  refine ⟨fun name => ?_, ?_, fun key => ?_⟩
  · rw [place_after_jump]
    exact congrArg (Option.getD · n.place)
      (last_noted (fun n => n.engine.session.mark? name) _ (fun n event => n.mark?_after event name) first events)
  · simp only [haccepted]
    exact (run_inside_iff hl (haccepted.1 hstart) events).2
  · rw [ne_eq, haccepted]
    exact n.engine.feed_outside_iff key n.lines none

/-- A mark on the first line is still inside the buffer when that line was deleted and the next one took its
place. -/
theorem run_marks_first_line :
    let first : Navigator Nat := ⟨Engine.start {} 3 0 none, [['a'], ['b']]⟩
    let n := first.run [.setMark ['k'], .feed ['d'], .feed ['d'], .jump ['k']]
    n.lines = [['b']] ∧ ensurePosition n.lines n.place = .ok n.place := by
  intro first n
  have hlandings : first.landings [.setMark ['k'], .feed ['d'], .feed ['d'], .jump ['k']] =
      [([['b']], ⟨0, 0⟩)] := by decide +kernel
  obtain ⟨-, haccepted, -⟩ := @run_marks Nat _ _ _ first (by decide) rfl
    [.setMark ['k'], .feed ['d'], .feed ['d'], .jump ['k']]
  rw [hlandings] at haccepted
  refine ⟨by decide +kernel, haccepted.2 ?_⟩
  rintro landing ⟨⟩
  rfl

/-- A jump to a mark on a line that is gone leaves the buffer, and so does a paste inside a line that holds a
line break; then the next motion is refused. -/
theorem run_marks_outside :
    let deleted : Navigator Nat :=
      ⟨{ (Engine.start {} 3 0 none : Engine Nat) with session := { position := ⟨1, 0⟩ } }, [['a'], ['b']]⟩
    let broken : Navigator Nat :=
      ⟨{ (Engine.start {} 3 0 none : Engine Nat) with session := { position := ⟨0, 3⟩ } },
        [['a', '\n', 'b', 'c']]⟩
    let n := deleted.run [.setMark ['m'], .feed ['d'], .feed ['d'], .jump ['m']]
    let m := broken.run [.feed ['y'], .feed ['F'], .feed ['b'], .feed ['P']]
    (ensurePosition deleted.lines deleted.place = .ok deleted.place ∧
      ensurePosition n.lines n.place = .error (.lineOutside ⟨1, 0⟩) ∧
      (n.engine.feed ['w'] n.lines none).value.2 = .error (.lineOutside ⟨1, 0⟩)) ∧
    (ensurePosition broken.lines broken.place = .ok broken.place ∧
      ensurePosition m.lines m.place = .error (.columnOutside ⟨0, 2⟩) ∧
      (m.engine.feed ['w'] m.lines none).value.2 = .error (.columnOutside ⟨0, 2⟩)) := by
  decide +kernel

end Navigator

end ModalEditor
