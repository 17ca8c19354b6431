import ModalEditor.Proofs.Refusals
import ModalEditor.Proofs.Repetition
/-!
# Motions with a count

A motion alone moves the cursor to where its repetitions end and leaves the lines as they are. For a motion
that always leaves its column that is the goal which the count names. A motion that may be where it wants to be
does not leave a goal that it began on.
-/
namespace ModalEditor

variable {τ : Type}

namespace Typist

/-- Runs one command and takes the lines of its outcome, and the cursor if it does not leave that to the
session. -/
def execute (t : Typist τ) (c : Command) : Typist τ × Except Fault Outcome :=
  match (t.engine.execute c t.lines t.cursor).value with
  | (engine, .ok o) => (⟨engine, o.lines, t.cursor.map fun _ => o.cursor⟩, .ok o)
  | (engine, .error fault) => ({ t with engine }, .error fault)

def executeTimes (t : Typist τ) (c : Command) : Nat → Except Fault (Typist τ)
  | 0 => .ok t
  | n + 1 =>
    match t.execute c with
    | (_, .error fault) => .error fault
    | (after, .ok _) => after.executeTimes c n

variable {t after : Typist τ} {c : Command} {o : Outcome}

theorem execute_ok (h : t.execute c = (after, .ok o)) : after.lines = o.lines ∧ after.place = o.cursor := by
  unfold execute at h
  split at h
  · next engine o' hran =>
    cases h
    refine ⟨rfl, ?_⟩
    cases hcursor : t.cursor with
    | some p => rfl
    | none =>
      rw [hcursor] at hran
      exact Engine.execute_cursor hran
  · cases h

theorem executeTimes_succ (h : t.execute c = (after, .ok o)) (n : Nat) :
    t.executeTimes c (n + 1) = after.executeTimes c n := by
  rw [executeTimes, h]

private theorem execute_answer (hinside : Inside t.lines t.place) :
    (t.execute c).2 = (t.engine.session.settle c t.lines t.place (c.context.written.bind fun _ =>
      (c.edit t.engine.session.registers t.engine.settings.indentStyle t.place t.lines).value)).value.2 := by
  have hrun := t.engine.execute_inside c (rfl : t.cursor.getD _ = t.place) hinside
  have hanswer : (t.execute c).2 = (t.engine.execute c t.lines t.cursor).value.2 := by
    unfold execute
    split <;> next heq => rw [heq]
  rw [hanswer, hrun]
  rfl

theorem execute_long_count (hinside : Inside t.lines t.place) (htimes : ¬Loggable c.times) :
    (t.execute c).2 = .error .numberTooLong := by
  have hcontext := c.context_written
  rw [if_neg htimes] at hcontext
  rw [execute_answer hinside, hcontext]
  rfl

/-- Inside a buffer a command answers what was found to do, if that can be stored. Before that, only a count
that is too long for the log stops it. -/
theorem execute_eq (hinside : Inside t.lines t.place)
    (hstored : ∀ edit, ∃ stored, t.engine.session.stored c edit = .ok stored) :
    (t.execute c).2 =
      if Loggable c.times then
        (c.edit t.engine.session.registers t.engine.settings.indentStyle t.place t.lines).value.map
          fun found => (found.map c.outcome).getD (c.idleOutcome t.lines t.place)
      else .error .numberTooLong := by
  split
  · next htimes =>
    have hcontext := c.context_written
    rw [if_pos htimes] at hcontext
    -- past its own span, a command is refused only where its edit is
    obtain ⟨texts, htexts⟩ := hcontext
    rw [execute_answer hinside, htexts]
    show (t.engine.session.settle c t.lines t.place (Logged.value _)).value.2 = _
    cases (c.edit t.engine.session.registers t.engine.settings.indentStyle t.place t.lines).value with
    | error fault => rfl
    | ok found =>
      cases found with
      | none =>
        obtain ⟨text, hwritten⟩ := c.written_of_loggable htimes
        show (t.engine.session.decline c t.lines t.place).value.2 = _
        rw [Session.value_decline, hwritten]
        rfl
      | some edit =>
        obtain ⟨stored, hstored⟩ := hstored edit
        show (t.engine.session.commit c edit).value.2 = _
        rw [Session.value_commit, hstored]
        rfl
  · next htimes => exact execute_long_count hinside htimes

end Typist

/-! ### One motion -/

section

variable {motion : Motion} {keys : Text} {lines : List Text} {p : Position} {n : Nat}

private theorem onLine_of_inside (h : Inside lines p) : OnLine (lineOf lines p.line) p.column := by
  obtain ⟨line, column, -, -, hline, hcolumn, hle⟩ := h.current
  rw [hline, hcolumn]
  exact ⟨Int.natCast_nonneg column, Int.ofNat_le.2 hle⟩

private theorem Range.between_withColumn (p : Position) (column : Int) :
    (if (between p (p.withColumn column)).start = p then (between p (p.withColumn column)).stop
      else (between p (p.withColumn column)).start) = p.withColumn column := by
  unfold between
  split
  · exact if_pos rfl
  · exact ite_eq_right_iff.2 Eq.symm

private theorem Position.elim_withColumn_eq_self_iff {found : Option Int} :
    found.elim p p.withColumn = p ↔ ∀ column ∈ found, column = p.column := by
  cases found with
  | none => simp
  | some column =>
    obtain ⟨row, here⟩ := p
    simp [withColumn]

private theorem Command.value_onMotion_none (hmotion : Motion.ofKeys? keys = some motion)
    (hrepeats : motion.repeats = true) (hinside : Inside lines p) (hn : 0 < n) (style : IndentStyle) :
    (onMotion none keys n p lines style).value =
      .ok ((motion.landing (lineOf lines p.line) p.column n).map fun goal =>
        ⟨lines, [], p.withColumn goal⟩) := by
  have hreach := Motion.reachTimes_eq hmotion hrepeats (onLine_of_inside hinside) hn
  rw [onMotion, Logged.value_bind, Motion.value_reportedTimes, hreach]
  cases motion.landing (lineOf lines p.line) p.column n with
  | none => rfl
  | some goal =>
    simp only [Option.map_some, Range.between_withColumn]
    rfl

variable {t : Typist τ} {c : Command}

private theorem Typist.execute_motion (hinside : Inside t.lines t.place) (hmotion : Motion.ofKeys? keys = some motion)
    (hrepeats : motion.repeats = true) (hop : c.operator = none) (htarget : c.target = some (.motion keys))
    (htimes : c.times = n) :
    ∃ o : Outcome, o.lines = t.lines ∧
      o.cursor =
        (motion.landing (lineOf t.lines t.place.line) t.place.column n).elim t.place t.place.withColumn ∧
      (o.noop = true ↔ motion.goals (lineOf t.lines t.place.line) t.place.column = []) ∧
      (t.execute c).2 = if Loggable n then .ok o else .error .numberTooLong := by
  subst htimes
  have hstored (edit : Edit) : t.engine.session.stored c edit = .ok t.engine.session := by
    rw [Session.stored, Command.stores_eq_false hop]
    rfl
  have hanswer := execute_eq hinside fun edit => ⟨_, hstored edit⟩
  rw [Command.edit_motion_none hop htarget,
    Command.value_onMotion_none hmotion hrepeats hinside c.times_pos] at hanswer
  rw [← Motion.landing_eq_none_iff c.times_pos]
  cases hlanding : motion.landing (lineOf t.lines t.place.line) t.place.column c.times with
  | none =>
    rw [hlanding] at hanswer
    exact ⟨c.idleOutcome t.lines t.place, rfl, rfl, iff_of_true rfl rfl, hanswer⟩
  | some goal =>
    rw [hlanding] at hanswer
    exact ⟨c.outcome ⟨t.lines, [], t.place.withColumn goal⟩, rfl, rfl,
      iff_of_false Bool.false_ne_true (Option.some_ne_none goal), hanswer⟩

/-! ### Jumps -/

private theorem Motion.goal_inside (hinside : Inside lines p) {goal : Int} {rest : List Int}
    (h : motion.goals (lineOf lines p.line) p.column = goal :: rest) : Inside lines (p.withColumn goal) := by
  have hon := onLine_of_inside hinside
  have htarget : motion.targetColumn p.column (lineOf lines p.line) = .ok (some goal) := by
    rw [targetColumn_eq_head motion hon, h, List.head?_cons]
  have hreached := (Motion.targetColumn_onLine hon htarget).1
  exact hinside.withColumn hreached.1 hreached.2

private theorem Typist.executeTimes_jump (hinside : Inside t.lines t.place)
    (hmotion : Motion.ofKeys? keys = some motion) (hjumps : motion.jumps = true) (hop : c.operator = none)
    (htarget : c.target = some (.motion keys)) (hcount : c.times = 1) (n : Nat) :
    ∃ after, t.executeTimes c n = .ok after ∧ after.lines = t.lines ∧
      after.place =
        (motion.landing (lineOf t.lines t.place.line) t.place.column n).elim t.place t.place.withColumn := by
  simp only [Motion.landing_of_jumps hjumps]
  -- on the number of jumps, for any typist: behind one jump the goals are the others
  induction n generalizing t with
  | zero => exact ⟨t, rfl, rfl, rfl⟩
  | succ n ih =>
    obtain ⟨o, holines, hcursor, -, hanswer⟩ :=
      t.execute_motion hinside hmotion (Motion.repeats_of_jumps hjumps) hop htarget hcount
    rw [if_pos loggable_one] at hanswer
    rw [Motion.landing_one] at hcursor
    obtain ⟨mid, hrun⟩ : ∃ mid, t.execute c = (mid, .ok o) := ⟨_, Prod.ext rfl hanswer⟩
    obtain ⟨hlines, hplace⟩ := execute_ok hrun
    rw [holines] at hlines
    rw [hcursor] at hplace
    rw [executeTimes_succ hrun]
    cases hgoals : motion.goals (lineOf t.lines t.place.line) t.place.column with
    | nil =>
      have hstays : mid.place = t.place := by rw [hplace, hgoals]; rfl
      obtain ⟨after, hafter, hafterLines, hafterPlace⟩ := ih (t := mid) (by rw [hlines, hstays]; exact hinside)
      rw [hlines, hstays, hgoals] at hafterPlace
      refine ⟨after, hafter, hafterLines.trans hlines, ?_⟩
      rw [hafterPlace, List.take_nil, List.take_nil]
    | cons goal rest =>
      have hmoved : mid.place = t.place.withColumn goal := by rw [hplace, hgoals]; rfl
      have hrest : motion.goals (lineOf mid.lines mid.place.line) mid.place.column = rest := by
        rw [hlines, hmoved]
        exact Motion.goals_of_jumps hjumps hgoals
      obtain ⟨after, hafter, hafterLines, hafterPlace⟩ := ih (t := mid) (by
        rw [hlines, hmoved]
        exact Motion.goal_inside hinside hgoals)
      rw [hrest, hmoved] at hafterPlace
      refine ⟨after, hafter, hafterLines.trans hlines, ?_⟩
      rw [hafterPlace, List.take_succ_cons, List.getLast?_cons]
      cases (rest.take n).getLast? <;> rfl

end

/-- A jump with a count comes to the goal that the count names, or to the last one if there are fewer, and has
nothing to do exactly if there is none. So many single jumps come to the same place. What stops it is only a
count that is too long for the log. -/
theorem Typist.execute_jump (t : Typist τ) (hinside : Inside t.lines t.place) {keys : Text} {motion : Motion}
    (hmotion : Motion.ofKeys? keys = some motion) (hjumps : motion.jumps = true) (count : Count)
    (register : Option Text) :
    let single : Command := { target := some (.motion keys), register }
    let goals := motion.goals (lineOf t.lines t.place.line) t.place.column
    if Loggable count.val then
      ∃ o, (t.execute { single with count := some count }).2 = .ok o ∧
        o.lines = t.lines ∧
        o.cursor = (goals[min count.val goals.length - 1]?).elim t.place t.place.withColumn ∧
        (o.noop = true ↔ goals = []) ∧
        ∃ after, t.executeTimes single count.val = .ok after ∧ after.lines = t.lines ∧ after.place = o.cursor
    else (t.execute { single with count := some count }).2 = .error .numberTooLong := by
  intro single goals
  obtain ⟨o, hlines, hcursor, hnoop, hanswer⟩ :=
    t.execute_motion (c := { single with count := some count }) hinside hmotion
      (Motion.repeats_of_jumps hjumps) rfl rfl rfl
  split
  · next hcount =>
    obtain ⟨after, hafter, hafterLines, hafterPlace⟩ :=
      t.executeTimes_jump (c := single) hinside hmotion hjumps rfl rfl rfl count.val
    refine ⟨o, hanswer.trans (if_pos hcount), hlines, ?_, hnoop, after, hafter, hafterLines,
      hafterPlace.trans hcursor.symm⟩
    rw [hcursor]
    exact congrArg (Option.elim · t.place t.place.withColumn)
      (Motion.landing_eq_getElem? (Motion.head?_ne_of_jumps hjumps _ _) count.pos)
  · next hcount => exact hanswer.trans (if_neg hcount)

/-- Five words forward where only two words begin. -/
theorem Typist.execute_jump_words :
    let t : Typist Nat := ⟨Engine.start {} 3 0 none, ["ab c, d".toList], some ⟨0, 1⟩⟩
    Inside t.lines t.place ∧ Motion.ofKeys? ['w'] = some (.wordStart false) ∧
      (Motion.wordStart false).jumps = true ∧
      ∃ o, (t.execute { target := some (.motion ['w']), count := some ⟨5, by decide⟩ }).2 = .ok o ∧
        o.cursor = ⟨0, 6⟩ ∧ o.noop = false ∧
        ∃ after, t.executeTimes { target := some (.motion ['w']) } 5 = .ok after ∧ after.lines = t.lines ∧
          after.place = o.cursor := by
  intro t
  have hinside : Inside t.lines t.place := ⟨0, 1, "ab c, d".toList, rfl, rfl, by decide⟩
  have hgoals : (Motion.wordStart false).goals (lineOf t.lines t.place.line) t.place.column = [3, 6] := by
    decide
  have hmotion : Motion.ofKeys? ['w'] = some (.wordStart false) := rfl
  have hjump := t.execute_jump hinside hmotion rfl ⟨5, by decide⟩ none
  simp only [hgoals] at hjump
  rw [if_pos (by decide)] at hjump
  obtain ⟨o, hanswer, -, hcursor, hnoop, hsteps⟩ := hjump
  have hdone : o.noop = false := Bool.eq_false_iff.2 fun h => List.cons_ne_nil _ _ (hnoop.1 h)
  exact ⟨hinside, hmotion, rfl, o, hanswer, hcursor, hdone, hsteps⟩

/-- There is a word to jump to, but the count is too long for the log. -/
theorem Typist.jump_long_count :
    let t : Typist Nat := ⟨Engine.start {} 3 0 none, ["a b".toList], none⟩
    Inside t.lines t.place ∧
      (Motion.wordStart false).goals (lineOf t.lines t.place.line) t.place.column = [2] ∧
      (t.execute { target := some (.motion ['w']),
                   count := some ⟨10 ^ Text.numeralLimit, Nat.pow_pos (by decide)⟩ }).2 =
        .error .numberTooLong := by
  intro t
  have hinside : Inside t.lines t.place := ⟨0, 0, "a b".toList, rfl, rfl, by decide⟩
  exact ⟨hinside, by decide, execute_long_count hinside not_loggable_limit⟩

/-- A motion that may be where it wants to be stays there if it is, whatever its count. From anywhere else it
comes to the goal that the count names, or to the last one if there are fewer. So it misses that goal exactly if
it begins on the first one and the count names another. It does not come nearer with a larger count, and has
nothing to do exactly if there is no goal. What stops it is only a count that is too long for the log. -/
theorem Typist.execute_mayStay (t : Typist τ) (hinside : Inside t.lines t.place) {keys : Text} {motion : Motion}
    (hmotion : Motion.ofKeys? keys = some motion) (hmayStay : motion.mayStay = true) (count : Count)
    (register : Option Text) :
    let single : Command := { target := some (.motion keys), register }
    let column := t.place.column
    let goals := motion.goals (lineOf t.lines t.place.line) column
    let nth := (goals[min count.val goals.length - 1]?).elim t.place t.place.withColumn
    if Loggable count.val then
      ∃ o, (t.execute { single with count := some count }).2 = .ok o ∧
        o.lines = t.lines ∧
        o.cursor = (if goals.head? = some column then t.place else nth) ∧
        (o.cursor = nth ↔ ¬(goals.head? = some column ∧ 1 < count.val ∧ 1 < goals.length)) ∧
        (o.noop = true ↔ goals = []) ∧
        ∀ more : Count, count.val ≤ more.val → Loggable more.val →
          ∃ o', (t.execute { single with count := some more }).2 = .ok o' ∧
            (o.cursor.column - column).natAbs ≤ (o'.cursor.column - column).natAbs
    else (t.execute { single with count := some count }).2 = .error .numberTooLong := by
  intro single column goals nth
  have hrepeats : motion.repeats = true := by rw [Motion.repeats, hmayStay, Bool.or_true]
  have hrun (n : Count) := t.execute_motion (c := { single with count := some n }) (n := n.val) hinside hmotion
    hrepeats rfl rfl rfl
  obtain ⟨o, hlines, hcursor, hnoop, hanswer⟩ := hrun count
  split
  · next hcount =>
    have hnth : o.cursor = if goals.head? = some column then t.place else nth := by
      rw [hcursor]
      split
      · next hfirst =>
        rw [Motion.landing, if_pos hfirst]
        rfl
      · next hfirst => exact congrArg (Option.elim · _ _) (Motion.landing_eq_getElem? hfirst count.pos)
    refine ⟨o, hanswer.trans (if_pos hcount), hlines, hnth, ?_, hnoop, ?_⟩
    · rw [hnth]
      split
      · next hfirst =>
        rw [eq_comm, Position.elim_withColumn_eq_self_iff, Motion.nth_eq_self_iff hfirst count.pos]
        exact not_congr (and_iff_right hfirst).symm
      · next hfirst => exact iff_of_true rfl fun h => hfirst h.1
    · intro more hmore hmoreCount
      obtain ⟨o', -, hcursor', -, hanswer'⟩ := hrun more
      refine ⟨o', hanswer'.trans (if_pos hmoreCount), ?_⟩
      -- a larger count never lands nearer to the cursor
      rw [hcursor, hcursor']
      cases hlanding : motion.landing (lineOf t.lines t.place.line) t.place.column count.val with
      | none =>
        rw [Option.elim_none, Int.sub_self]
        exact Nat.zero_le _
      | some near =>
        obtain ⟨far, hfar, hle⟩ := Motion.landing_mono count.pos hmore hlanding
        rw [hfar]
        exact hle
  · next hcount => exact hanswer.trans (if_neg hcount)

/-- Up to the third of two characters that are ahead, from a place between them. -/
theorem Typist.execute_mayStay_search :
    let t : Typist Nat := ⟨Engine.start {} 3 0 none, ["x.x..x".toList], some ⟨0, 0⟩⟩
    Inside t.lines t.place ∧ Motion.ofKeys? ['t', 'x'] = some (.search ⟨'x', true, true⟩) ∧
      (Motion.search ⟨'x', true, true⟩).mayStay = true ∧
      ∃ o, (t.execute { target := some (.motion ['t', 'x']), count := some ⟨3, by decide⟩ }).2 = .ok o ∧
        o.lines = t.lines ∧ o.cursor = ⟨0, 4⟩ ∧ o.noop = false := by
  intro t
  have hinside : Inside t.lines t.place := ⟨0, 0, "x.x..x".toList, rfl, rfl, by decide⟩
  have hgoals :
      (Motion.search ⟨'x', true, true⟩).goals (lineOf t.lines t.place.line) t.place.column = [1, 4] := by
    decide
  have hmotion : Motion.ofKeys? ['t', 'x'] = some (.search ⟨'x', true, true⟩) := rfl
  have hsearch := t.execute_mayStay hinside hmotion rfl ⟨3, by decide⟩ none
  simp only [hgoals] at hsearch
  rw [if_pos (by decide)] at hsearch
  obtain ⟨o, hanswer, hlines, hcursor, -, hnoop, -⟩ := hsearch
  have hdone : o.noop = false := Bool.eq_false_iff.2 fun h => List.cons_ne_nil _ _ (hnoop.1 h)
  exact ⟨hinside, hmotion, rfl, o, hanswer, hlines, hcursor, hdone⟩

/-- From the end of a word, the end of the second word from there is not reached. -/
theorem Typist.counted_wordEnd_stays :
    let t : Typist Nat := ⟨Engine.start {} 3 0 none, ["ab cd".toList], some ⟨0, 1⟩⟩
    Inside t.lines t.place ∧
      (Motion.wordEnd false).goals (lineOf t.lines t.place.line) t.place.column = [1, 4] ∧
      (t.execute { target := some (.motion ['e']), count := some ⟨2, by decide⟩ }).2.map Outcome.cursor =
        .ok ⟨0, 1⟩ :=
  ⟨⟨0, 1, "ab cd".toList, rfl, rfl, by decide⟩, by decide, by decide⟩

end ModalEditor
