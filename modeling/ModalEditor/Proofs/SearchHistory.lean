import ModalEditor.Proofs.Histories
import ModalEditor.Proofs.Refusals
import ModalEditor.Proofs.Waiting
/-!
# The history of searches

Which search `;` and `,` repeat is told by what was typed: it is the one of the latest keys that were a command
with a search typed out in it. Nothing else that happens to an engine is remembered as a search. The operator of
the repetition is the one of the latest command that was done, if that takes a target.
-/
namespace ModalEditor

variable {τ : Type}

/-! ### Searches in keys -/

namespace Grammar

def Aim.search? : Aim → Option CharSearch
  | search key c => some ⟨c, key = 'f' ∨ key = 't', key = 't' ∨ key = 'T'⟩
  | _ => none

def Body.search? : Body → Option CharSearch
  | aimed _ _ aim | bare aim => aim.search?
  | _ => none

/-- The keys of a command in which a search is typed out. -/
def TypesSearch (keys : Text) (s : CharSearch) : Prop :=
  ∃ p : Phrase, p.WellFormed ∧ p.Longest ∧ p.keys = keys ∧ p.body.search? = some s

/-- What reading some keys finds to be remembered as a search. -/
def searchIn? (keys : Text) : Option CharSearch :=
  match Grammar.read keys with
  | .ok (some c) => c.motion?.bind CharSearch.ofSearchKeys?
  | _ => none

private theorem Aim.search?_eq {aim : Aim} (h : aim.WellFormed) :
    aim.motion?.bind CharSearch.ofSearchKeys? = aim.search? := by
  cases aim with
  | search key c =>
    have hkey : key ∈ ['f', 'F', 't', 'T'] := h
    simp only [List.mem_cons, List.not_mem_nil, or_false] at hkey
    rcases hkey with rfl | rfl | rfl | rfl <;> rfl
  | object scope key => rfl
  | simple key => simp [motion?, search?, CharSearch.ofSearchKeys?]

private theorem Body.search?_eq {b : Body} (h : b.WellFormed) :
    b.motion?.bind CharSearch.ofSearchKeys? = b.search? := by
  cases b with
  | yankLine => rfl
  | atOnce op => rfl
  | waiting op inner => rfl
  | doubled op inner => cases op <;> rfl
  | aimed op inner aim => exact Aim.search?_eq h.2.2
  | bare aim => exact Aim.search?_eq h.2

private theorem TypesSearch.two_le_length {keys : Text} {s : CharSearch} (h : TypesSearch keys s) :
    2 ≤ keys.length := by
  obtain ⟨⟨name, outer, b⟩, -, -, rfl, hsearch⟩ := h
  have haim {aim : Aim} (hsome : aim.search? = some s) : aim.keys.length = 2 := by
    cases aim <;> first | rfl | cases hsome
  have hbody : 2 ≤ b.keys.length := by
    cases b with
    | aimed op inner aim =>
      have htwo := haim hsearch
      simp only [Body.keys, List.length_cons, List.length_append]
      omega
    | bare aim => exact Nat.le_of_eq (haim hsearch).symm
    | _ => cases hsearch
  exact Nat.le_trans hbody (List.suffix_append _ b.keys).length_le

private theorem Body.keys_of_inner {b : Body} (hb : b.WellFormed) {digits : Text} (h : digits ∈ b.inner) :
    ∃ (op : Operator) (more : Text), op.takesTarget = true ∧ b.keys = op.key :: (digits ++ more) := by
  cases b with
  | waiting op inner =>
    cases h
    exact ⟨op, [], (takesTarget_iff op).2 hb.2, by simp [keys]⟩
  | doubled op inner =>
    cases h
    exact ⟨op, [op.key], (takesTarget_iff op).2 hb.2, rfl⟩
  | aimed op inner aim =>
    cases h
    exact ⟨op, aim.keys, (takesTarget_iff op).2 hb.2.1, rfl⟩
  | _ => cases h

/-- Among some keys the latest in which a search is typed out, as that search. -/
def LatestSearch (typed : List Text) : Option CharSearch → Prop
  | none => ∀ keys ∈ typed, ∀ s, ¬TypesSearch keys s
  | some s => ∃ earlier keys later, typed = earlier ++ keys :: later ∧ TypesSearch keys s ∧
    ∀ others ∈ later, ∀ t, ¬TypesSearch others t

private theorem describes_of_read {keys : Text} {c : Command} {p : Phrase} (h : Grammar.read keys = .ok (some c))
    (hp : p.WellFormed) (hlongest : p.Longest) (hkeys : p.keys = keys) : p.Describes c := by
  subst hkeys
  have hshort : ¬LongCount p.keys := by
    intro hlong
    obtain ⟨fault, hfault⟩ := read_error_iff.2 hlong
    rw [hfault] at h
    cases h
  have houter : ∀ digits ∈ p.outer, digits.length ≤ Text.numeralLimit := by
    intro digits hdigits
    refine Nat.le_of_not_lt fun hlong => hshort ?_
    refine ⟨_, digits, p.body.keys, ?_, .register hp.register, hp.outer digits hdigits, hlong⟩
    rw [Phrase.keys, Option.mem_def.1 hdigits, Option.getD_some]
  have hinner : ∀ digits ∈ p.body.inner, digits.length ≤ Text.numeralLimit := by
    intro digits hdigits
    refine Nat.le_of_not_lt fun hlong => hshort ?_
    obtain ⟨op, more, htakes, hbody⟩ := Body.keys_of_inner hp.body hdigits
    refine ⟨_, digits, more, ?_, .operator hp.register hp.outer htakes, hp.body.1 digits hdigits, hlong⟩
    rw [Phrase.keys, hbody]
    simp
  obtain ⟨d, hread, hdescribes⟩ := read_complete hp hlongest houter hinner
  cases hread.symm.trans h
  exact hdescribes

private theorem searchIn?_repeat {key : Char} (hkey : key ∈ [';', ',']) : searchIn? [key] = none := by
  unfold searchIn?
  split
  · next c hread => exact absurd hread (read_repeat_ne hkey [] c)
  · rfl

theorem searchIn?_eq_some_iff {s : Session} {keys : Text} {c : Command} {t : CharSearch}
    (h : (s.read keys).2 = .ok (some c)) : searchIn? keys = some t ↔ TypesSearch keys t := by
  have hrepeat {key : Char} (hkey : key ∈ [';', ',']) : searchIn? [key] = some t ↔ TypesSearch [key] t := by
    refine iff_of_false ?_ fun htypes => ?_
    · simp [searchIn?_repeat hkey]
    · have htwo := htypes.two_le_length
      simp at htwo
  by_cases hforward : keys = [';']
  · subst hforward
    exact hrepeat (by decide)
  by_cases hback : keys = [',']
  · subst hback
    exact hrepeat (by decide)
  rw [s.read_answer hforward hback] at h
  have hmeant {p : Phrase} (hp : p.WellFormed) (hdescribes : p.Describes c) :
      searchIn? keys = p.body.search? := by
    rw [searchIn?, h]
    dsimp only
    rw [hdescribes.motion, Body.search?_eq hp.body]
  constructor
  · intro hfound
    obtain ⟨p, hp, hlongest, hkeys, hdescribes⟩ := read_sound h
    exact ⟨p, hp, hlongest, hkeys, (hmeant hp hdescribes).symm.trans hfound⟩
  · rintro ⟨p, hp, hlongest, hkeys, hsearch⟩
    exact (hmeant hp (describes_of_read h hp hlongest hkeys)).trans hsearch

private theorem latestSearch_getLast? {typed : List Text}
    (h : ∀ keys ∈ typed, ∀ s, searchIn? keys = some s ↔ TypesSearch keys s) :
    LatestSearch typed (typed.filterMap searchIn?).getLast? := by
  -- on the keys from the end: the last of them are a search, or the latest one is further back
  induction typed using List.reverseRecOn with
  | nil =>
    intro keys hkeys
    cases hkeys
  | append_singleton earlier keys ih =>
    have hlast := ih fun k hk => h k (List.mem_append_left _ hk)
    have hkeys := h keys List.mem_concat_self
    rw [List.filterMap_append]
    cases hfound : searchIn? keys with
    | some s =>
      rw [List.filterMap_cons_some hfound, List.filterMap_nil, List.getLast?_concat]
      exact ⟨earlier, keys, [], rfl, (hkeys s).1 hfound, by simp⟩
    | none =>
      have hnone (t : CharSearch) : ¬TypesSearch keys t := by
        intro htypes
        rw [(hkeys t).2 htypes] at hfound
        cases hfound
      rw [List.filterMap_cons_none hfound, List.filterMap_nil, List.append_nil]
      cases hbefore : (earlier.filterMap searchIn?).getLast? with
      | none =>
        rw [hbefore] at hlast
        intro others hothers
        rcases List.mem_append.1 hothers with hothers | hothers
        · exact hlast others hothers
        · rw [List.mem_singleton.1 hothers]
          exact hnone
      | some s =>
        rw [hbefore] at hlast
        obtain ⟨first, typed, later, rfl, htypes, hlater⟩ := hlast
        refine ⟨first, typed, later ++ [keys], by simp, htypes, ?_⟩
        intro others hothers
        rcases List.mem_append.1 hothers with hothers | hothers
        · exact hlater others hothers
        · rw [List.mem_singleton.1 hothers]
          exact hnone

end Grammar

theorem Session.read_lastSearch (s : Session) {keys : Text} {c : Command}
    (h : (s.read keys).2 = .ok (some c)) :
    (s.read keys).1.lastSearch = (Grammar.searchIn? keys).or s.lastSearch := by
  unfold Session.read at h ⊢
  split
  · next hforward =>
    rw [hforward, Grammar.searchIn?_repeat (by decide)]
    rfl
  · next hforward =>
    split
    · next hback =>
      rw [hback, Grammar.searchIn?_repeat (by decide)]
      rfl
    · next hback =>
      rw [if_neg hforward, if_neg hback] at h
      cases hread : Grammar.read keys with
      | error fault =>
        rw [hread] at h
        cases h
      | ok found =>
        cases found with
        | none =>
          rw [hread] at h
          cases h
        | some d =>
          rw [Grammar.searchIn?, hread]
          dsimp only
          split
          · next search hsearch => rw [hsearch, Option.some_or]
          · next hnone => rw [hnone, Option.none_or]

/-- The operator of a repeated search: the one of the latest command that was done, if that takes a target. -/
def repeatOperator (done : List Command) : Operator :=
  ((done.getLast?.bind Command.operator).filter fun op => op.key ∈ ['d', 'c', 'y', '>', '<']).getD .delete

private theorem repeatOperator_eq (done : List Command) :
    repeatOperator done =
      ((done.getLast?.bind Command.operator).filter Operator.takesTarget).getD .delete := by
  have hkeys : (fun op : Operator => decide (op.key ∈ ['d', 'c', 'y', '>', '<'])) =
      Operator.takesTarget := by
    funext op
    cases op <;> rfl
  rw [repeatOperator, hkeys]

private theorem Session.value_parse_repeat (s : Session) (logger : Option Text) {key : Char}
    (hkey : key ∈ [';', ',']) :
    (s.parse logger [key]).value = (s, .ok (s.repeatSearch? (key = ','))) := by
  rw [value_parse]
  simp only [List.mem_cons, List.not_mem_nil, or_false] at hkey
  rcases hkey with rfl | rfl <;> rfl

private theorem CharSearch.ofKeys_keys (s : CharSearch) : ofKeys s.keys = .ok s := by
  obtain ⟨c, forward, till⟩ := s
  cases forward <;> cases till <;> rfl

/-! ### Engines -/

/-- What happens to an engine: a key comes, time passes, or somebody asks for stale keys to be dropped. -/
inductive EngineEvent (τ : Type)
  | feed (key : Text) (lines : List Text) (cursor : Option Position)
  | advance (wait : τ)
  | timeouts

theorem isCommand_completed_iff {found : Except Fault (Option Command)} :
    isCommand (completed found) = true ↔ ∃ c, found = .ok (some c) ∧ c.pending = false := by
  cases found with
  | error fault => simp [completed, isCommand, Except.map]
  | ok found =>
    cases found with
    | none => simp [completed, isCommand, Except.map]
    | some c => cases h : c.pending <;> simp [completed, isCommand, Except.map, Option.filter_some, h]

def commandDone : Except Fault (Option Outcome) → Option Command
  | .ok (some o) => if o.noop then none else some o.command
  | _ => none

namespace Engine

private theorem execute_remembers {e after : Engine τ} {c : Command} {lines : List Text}
    {cursor : Option Position} {answer : Except Fault Outcome}
    (h : (e.execute c lines cursor).value = (after, answer)) :
    after.session.lastSearch = e.session.lastSearch ∧
      after.session.lastCommand = (commandDone (answer.map some)).or e.session.lastCommand := by
  cases answer with
  | error fault =>
    rw [eq_of_execute_error h]
    exact ⟨rfl, rfl⟩
  | ok o =>
    rcases (execute_ok h).2 with ⟨hsame, rfl⟩ | ⟨edit, -, -, rfl, htook⟩
    · rw [hsame]
      exact ⟨rfl, rfl⟩
    · exact ⟨htook.lastSearch, htook.lastCommand⟩

variable [LE τ] [DecidableLE τ] [Add τ]

def after (e : Engine τ) : EngineEvent τ → Engine τ
  | .feed key lines cursor => (e.feed key lines cursor).value.1
  | .advance wait => e.advance wait
  | .timeouts => e.processTimeouts.value.1

def run (e : Engine τ) (events : List (EngineEvent τ)) : Engine τ := events.foldl after e

/-- The keys that an event makes the parser complete, whatever becomes of the command. -/
def completed? (e : Engine τ) : EngineEvent τ → Option Text
  | .feed key _ _ =>
    if key ∈ escapeKeys ∨ e.session.mode = .insert then none
    else
      let pushed := (e.buffer.push key).value
      if isCommand (pushed.parse e.session e.logger).value.2.2 then some pushed.text else none
  | _ => none

/-- The command that an event makes the engine run, if it is done in the end. -/
def done? (e : Engine τ) : EngineEvent τ → Option Command
  | .feed key lines cursor => commandDone (e.feed key lines cursor).value.2
  | _ => none

def completions (e : Engine τ) (events : List (EngineEvent τ)) : List Text :=
  noted after completed? e events

def commandsDone (e : Engine τ) (events : List (EngineEvent τ)) : List Command :=
  noted after done? e events

variable {e : Engine τ} {key : Text} {lines : List Text} {cursor : Option Position}

theorem completed?_feed (hkey : key ∉ escapeKeys) (hmode : e.session.mode ≠ .insert) :
    e.completed? (.feed key lines cursor) =
      if isCommand (completed (e.reading key).2) then some (e.pushed key).keys else none := by
  have hparse := e.value_parse_reading key
  rw [KeyBuffer.afterRead_eq] at hparse
  rw [completed?, if_neg (not_or.2 ⟨hkey, hmode⟩), KeyBuffer.value_push]
  simp only [KeyBuffer.text] at hparse ⊢
  rw [hparse]
  rfl

private theorem remembers_of_fed {fed : Engine τ × Except Fault (Option Outcome)} (h : Fed e key lines cursor fed) :
    fed.1.session.lastSearch =
        ((if isCommand (completed (e.reading key).2) then some (e.pushed key).keys else none).bind
          Grammar.searchIn?).or e.session.lastSearch ∧
      fed.1.session.lastCommand = (commandDone fed.2).or e.session.lastCommand := by
  cases h with
  | waits h =>
    refine ⟨?_, rfl⟩
    rw [if_neg, Option.bind_none, Option.none_or]
    intro hcompleted
    obtain ⟨c, hread, hdone⟩ := isCommand_completed_iff.1 hcompleted
    rw [hread] at h
    cases hdone.symm.trans h
  | refused h =>
    rw [h]
    exact ⟨rfl, rfl⟩
  | @completed c h hdone after answer hran =>
    obtain ⟨hsearch, hcommand⟩ := execute_remembers hran
    obtain ⟨search, hframe⟩ := e.reading_frame key
    have hcompleted := isCommand_completed_iff.2 ⟨c, h, hdone⟩
    have hbefore : (e.reading key).1.lastCommand = e.session.lastCommand := by rw [hframe]
    rw [if_pos hcompleted]
    constructor
    · rw [hsearch]
      exact e.session.read_lastSearch h
    · rw [hcommand]
      dsimp only
      rw [hbefore]

private theorem searchIn?_of_completed {event : EngineEvent τ} {keys : Text} {s : CharSearch}
    (h : e.completed? event = some keys) :
    Grammar.searchIn? keys = some s ↔ Grammar.TypesSearch keys s := by
  cases event with
  | advance wait => cases h
  | timeouts => cases h
  | feed key lines cursor =>
    by_cases hread : key ∈ escapeKeys ∨ e.session.mode = .insert
    · rw [completed?, if_pos hread] at h
      cases h
    · rw [completed?_feed (fun hkey => hread (.inl hkey)) fun hmode => hread (.inr hmode)] at h
      split at h
      · next hcompleted =>
        cases h
        obtain ⟨c, hanswer, -⟩ := isCommand_completed_iff.1 hcompleted
        exact Grammar.searchIn?_eq_some_iff hanswer
      · cases h

/-- What one event does to the last search and the last command: it overwrites them with what it completes
and with what it gets done. -/
theorem after_remembers (e : Engine τ) (event : EngineEvent τ) :
    (e.after event).session.lastSearch =
        ((e.completed? event).bind Grammar.searchIn?).or e.session.lastSearch ∧
      (e.after event).session.lastCommand = (e.done? event).or e.session.lastCommand := by
  cases event with
  | advance wait => exact ⟨rfl, rfl⟩
  | timeouts =>
    rw [after, value_processTimeouts]
    exact ⟨rfl, rfl⟩
  | feed key lines cursor =>
    by_cases hkey : key ∈ escapeKeys
    · rw [completed?, if_pos (.inl hkey), after, done?, value_feed, if_pos hkey]
      exact ⟨rfl, rfl⟩
    · by_cases hmode : e.session.mode = .insert
      · rw [completed?, if_pos (.inr hmode), after, done?, value_feed, if_neg hkey, if_pos hmode]
        exact ⟨rfl, rfl⟩
      · rw [completed?_feed hkey hmode]
        exact remembers_of_fed (feed_fed hkey hmode)

/-- The search that is remembered is always the one of the latest keys that were a command with a search
typed out in it, and no other event changes it. The key `;` repeats it, and `,` repeats it the other way round,
with the operator of the latest command that was done if that takes a target, and with a delete otherwise. -/
theorem run_searches (settings : Settings) (idle now : τ) (logger : Option Text)
    (events : List (EngineEvent τ)) :
    let first : Engine τ := .start settings idle now logger
    let e := first.run events
    Grammar.LatestSearch (first.completions events) e.session.lastSearch ∧
      (∀ event, (∀ keys ∈ e.completed? event, ∀ s, ¬Grammar.TypesSearch keys s) →
        (e.after event).session.lastSearch = e.session.lastSearch) ∧
      ∀ (log : Option Text) (key : Char), key ∈ [';', ','] →
        let found := (e.session.parse log [key]).value
        found.1 = e.session ∧
          match e.session.lastSearch with
          | none => found.2 = .ok none
          | some search => ∃ keys,
            found.2 = .ok (some
              { operator := some (repeatOperator (first.commandsDone events)),
                target := some (.motion keys) }) ∧
              CharSearch.ofKeys keys = .ok (if key = ',' then search.flip else search) := by
  intro first e
  -- each event overwrites what is remembered, so a run leaves what was noted last
  have hlast : e.session.lastSearch =
      ((first.completions events).filterMap Grammar.searchIn?).getLast? := by
    have hkept := last_noted (fun e => e.session.lastSearch) Grammar.searchIn?
      (fun e event => (after_remembers e event).1) first events
    exact hkept.trans Option.or_none
  have hdone : e.session.lastCommand = (first.commandsDone events).getLast? := by
    have hstep (e : Engine τ) (event : EngineEvent τ) :
        (e.after event).session.lastCommand = ((e.done? event).bind some).or e.session.lastCommand := by
      rw [(after_remembers e event).2]
      cases e.done? event <;> rfl
    have hkept := last_noted (fun e => e.session.lastCommand) some hstep first events
    rw [List.filterMap_some] at hkept
    exact hkept.trans Option.or_none
  refine ⟨?_, ?_, ?_⟩
  · rw [hlast]
    refine Grammar.latestSearch_getLast? fun keys hkeys s => ?_
    obtain ⟨before, event, hkeys⟩ := noted_of_mem hkeys
    exact searchIn?_of_completed hkeys
  · intro event hnone
    rw [(after_remembers e event).1]
    cases hkeys : e.completed? event with
    | none => rfl
    | some keys =>
      cases hfound : Grammar.searchIn? keys with
      | none => rw [Option.bind_some, hfound, Option.none_or]
      | some s => exact absurd ((searchIn?_of_completed hkeys).1 hfound) (hnone keys hkeys s)
  · intro log key hkey found
    have hfound : found = _ := e.session.value_parse_repeat log hkey
    rw [hfound]
    refine ⟨rfl, ?_⟩
    cases hsearch : e.session.lastSearch with
    | none => simp [Session.repeatSearch?, hsearch]
    | some search =>
      refine ⟨if key = ',' then search.flip.keys else search.keys, ?_, ?_⟩
      · simp [Session.repeatSearch?, hsearch, hdone, repeatOperator_eq]
      · split <;> exact CharSearch.ofKeys_keys _

end Engine

end ModalEditor
