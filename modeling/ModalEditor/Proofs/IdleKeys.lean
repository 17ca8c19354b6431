import ModalEditor.Proofs.SearchHistory
/-!
# Keys that change nothing

A host answers to each key whether it changed anything. If the answer is no, the lines and the session are as
they were, whichever way the key went. Only the keys that wait may be others, and the last search, which is
another one only if the key completed a search that then found nothing.
-/
namespace ModalEditor

variable {τ : Type}

namespace Engine

variable [LE τ] [DecidableLE τ] [Add τ] {e : Engine τ} {key : Text} {lines : List Text}
  {cursor : Option Position}

private theorem reading_session {c : Command} (h : (e.reading key).2 = .ok (some c)) :
    (e.reading key).1 = e.session ∨
      ∃ s, Grammar.TypesSearch (e.pushed key).keys s ∧
        (e.reading key).1 = { e.session with lastSearch := some s } := by
  obtain ⟨search, hsession⟩ := e.reading_frame key
  have hsearch : search = (Grammar.searchIn? (e.pushed key).keys).or e.session.lastSearch := by
    have hlast := e.session.read_lastSearch h
    rw [← hlast]
    exact (congrArg Session.lastSearch hsession).symm
  rw [hsession, hsearch]
  cases hfound : Grammar.searchIn? (e.pushed key).keys with
  | none => exact .inl rfl
  | some s => exact .inr ⟨s, (Grammar.searchIn?_eq_some_iff h).1 hfound, rfl⟩

private theorem Fed.eq_of_none {fed : Engine τ × Except Fault (Option Outcome)} (h : Fed e key lines cursor fed)
    (hnone : fed.2 = .ok none) : fed.1 = { e with buffer := fed.1.buffer } := by
  cases h with
  | waits => rfl
  | refused => cases hnone
  | @completed c hread hdone after answer hran => cases answer <;> cases hnone

theorem Fed.idle {fed : Engine τ × Except Fault (Option Outcome)} {o : Outcome}
    (h : Fed e key lines cursor fed) (hanswer : fed.2 = .ok (some o)) (hnoop : o.noop = true) :
    (e.reading key).2 = .ok (some o.command) ∧ o.lines = lines ∧
      fed.1 = { e with buffer := fed.1.buffer, session := (e.reading key).1 } := by
  cases h with
  | waits => cases hanswer
  | refused => cases hanswer
  | @completed c hread hdone after answer hran =>
    cases answer with
    | error => cases hanswer
    | ok =>
      cases hanswer
      obtain ⟨hafter, hidle | ⟨edit, -, -, hdid, -⟩⟩ := execute_ok hran
      · obtain ⟨hsame, rfl⟩ := hidle
        refine ⟨hread, rfl, ?_⟩
        rw [hafter, hsame]
      · rw [hdid] at hnoop
        cases hnoop

end Engine

namespace Host

variable {h : Host τ} {key : Text} {text : Option Text}

private theorem insert_idle_or (h : Host τ) (typed : Text) :
    (h.insert typed).host = h ∨ (h.insert typed).answer = .ok true := by
  unfold insert
  split
  · exact .inl rfl
  · split
    · exact .inl rfl
    · dsimp only
      split
      · split
        · exact .inl rfl
        · exact .inr rfl
      · split
        · exact .inr rfl
        · exact .inl rfl

private theorem enterInsert_answer_ne (h : Host τ) (key : Text) : (h.enterInsert key).answer ≠ .ok false := by
  unfold enterInsert
  split <;> simp

variable [LE τ] [DecidableLE τ] [Add τ]

/-- A host behind a key that changed nothing: the keys that wait may be others, and so may the last search. -/
structure Idle (h : Host τ) (key : Text) (after : Host τ) : Prop where
  lines : after.lines = h.lines
  engine : after.engine = { h.engine with
    buffer := after.engine.buffer
    session := { h.engine.session with lastSearch := after.engine.session.lastSearch } }
  /-- Another search was typed out in keys that were a command, and the command had nothing to do. -/
  search : after.engine.session.lastSearch ≠ h.engine.session.lastSearch →
    ∃ (s : CharSearch) (o : Outcome), after.engine.session.lastSearch = some s ∧
      Grammar.TypesSearch (h.engine.pushed key).keys s ∧
      (h.engine.reading key).2 = .ok (some o.command) ∧
      (h.engine.feed key h.lines (some h.cursor)).value.2 = .ok (some o) ∧ o.noop = true

theorem Idle.refl (h : Host τ) (key : Text) : h.Idle key h := ⟨rfl, rfl, fun hsearch => absurd rfl hsearch⟩

private theorem feed_idle (hkey : key ∉ Engine.escapeKeys) (hmode : h.mode ≠ .insert)
    (hfalse : (h.feed key).answer = .ok false) : h.Idle key (h.feed key).host := by
  have hfed : Engine.Fed h.engine key h.lines (some h.cursor)
      (h.engine.feed key h.lines (some h.cursor)).value := Engine.feed_fed hkey hmode
  rw [feed_eq] at hfalse ⊢
  cases hvalue : (h.engine.feed key h.lines (some h.cursor)).value with
  | mk engine answer =>
    rw [hvalue] at hfed hfalse
    rcases answer with fault | _ | o
    · cases hfalse
    · have hsame : engine = { h.engine with buffer := engine.buffer } := hfed.eq_of_none rfl
      dsimp only
      rw [hsame]
      exact ⟨rfl, rfl, fun hsearch => absurd rfl hsearch⟩
    · have hnoop : o.noop = true := by simpa [apply] using hfalse
      obtain ⟨hread, hlines, hengine⟩ := hfed.idle rfl hnoop
      have hengine : engine = { h.engine with
        buffer := engine.buffer, session := (h.engine.reading key).1 } := hengine
      rcases Engine.reading_session hread with hsession | ⟨s, htypes, hsession⟩
      · rw [hengine, hsession]
        exact ⟨hlines, rfl, fun hsearch => absurd rfl hsearch⟩
      · rw [hengine, hsession]
        refine ⟨hlines, rfl, fun _ => ⟨s, o, rfl, htypes, hread, ?_, hnoop⟩⟩
        rw [hvalue]

/-- A key whose answer is that it changed nothing left the host idle. -/
theorem handleKey_idle (hfalse : (h.handleKey key text).answer = .ok false) :
    h.Idle key (h.handleKey key text).host := by
  have hrouted := route_routed h key text
  change (h.route key text).answer = .ok false at hfalse
  change h.Idle key (h.route key text).host
  generalize h.route key text = step at hrouted hfalse ⊢
  cases hrouted with
  | left => cases hfalse
  | typed =>
    rcases insert_idle_or h (text.getD key) with hsame | hchanged
    · rw [hsame]
      exact .refl h key
    · rw [hchanged] at hfalse
      cases hfalse
  | began => exact absurd hfalse (enterInsert_answer_ne h.polled key)
  | fed hkey hmode => exact feed_idle hkey hmode hfalse

/-- A search for a character that is not there changes nothing, and is the last search from then on. -/
theorem handleKey_idle_search :
    let first : Host Nat := (start (Engine.start {} 3 0 none) [['a', 'b']]).host
    let h : Host Nat := (first.type ['d', 'f']).host
    let after : Host Nat := (h.handleKey ['z'] none).host
    (h.handleKey ['z'] none).answer = .ok false ∧ h.Idle ['z'] after ∧
      h.engine.session.lastSearch = none ∧ after.engine.session.lastSearch = some ⟨'z', true, false⟩ := by
  intro first h after
  have hfalse : (h.handleKey ['z'] none).answer = .ok false := by decide
  exact ⟨hfalse, handleKey_idle hfalse, by decide, by decide⟩

end Host
end ModalEditor
