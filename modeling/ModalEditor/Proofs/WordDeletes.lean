import ModalEditor.Proofs.CountedMotions
import ModalEditor.Proofs.CutLines
import ModalEditor.Proofs.Pieces
import ModalEditor.Proofs.Reinsertion
/-!
# Deletes up to words

A delete up to the start of a word takes out what lies between the cursor and that column. With a count it cuts
the line once, and leaves what so many single deletes leave.
-/
namespace ModalEditor

namespace Motion

section

variable {motion : Motion} {line : Text} {column n : Nat} {goal : Nat}

/-- The range that is taken out by deletes up to words can be written into the log. -/
def CutFits (motion : Motion) (line : Text) (row column n : Nat) : Prop :=
  ∀ goal ∈ motion.landing line column n, Loggable row ∧ Loggable (max column goal.toNat - 1)

instance (row : Nat) : Decidable (motion.CutFits line row column n) :=
  inferInstanceAs (Decidable (∀ goal ∈ motion.landing line column n, _))

variable {row : Nat}

private theorem cutFits_of_none (h : motion.landing line column n = none) : motion.CutFits line row column n := by
  intro goal hgoal
  rw [h] at hgoal
  cases hgoal

private theorem cutFits_of_some_iff (h : motion.landing line column n = some (goal : Int)) :
    motion.CutFits line row column n ↔ Loggable row ∧ Loggable (max column goal - 1) := by
  rw [CutFits, h]
  simp

theorem CutFits.succ (hword : motion.wordwise = true) (h : motion.CutFits line row column (n + 1)) :
    motion.CutFits line row column 1 ∧
      motion.CutFits (motion.cutTimes line column 1).1 row (motion.cutTimes line column 1).2 n := by
  cases goesOn hword line column n with
  | nowhere hnone =>
    rw [cutTimes_of_none (hnone 1)]
    exact ⟨cutFits_of_none (hnone 1), cutFits_of_none (hnone n)⟩
  | last hfirst hnth hnext =>
    rw [cutTimes_of_some hfirst]
    exact ⟨(cutFits_of_some_iff hfirst).2 ((cutFits_of_some_iff hnth).1 h), cutFits_of_none hnext⟩
  | @further g k hfirst hbeyond hnth hnext =>
    obtain ⟨hrow, hlast⟩ := (cutFits_of_some_iff hnth).1 h
    rw [cutTimes_of_some hfirst, cutFits_of_some_iff hfirst, cutFits_of_some_iff hnext]
    refine ⟨⟨hrow, hlast.mono (by omega)⟩, hrow, hlast.mono ?_⟩
    show max (min column g) (k - (max column g - column)) - 1 ≤ max column k - 1
    omega

end

end Motion

/-! ### Deletes in a buffer -/

variable {τ : Type}

section

variable {t : Typist τ} {c : Command} {motion : Motion} {keys line : Text} {lines : List Text}
variable {row column n : Nat}

private theorem set_same (hat : lines[row]? = some line) : lines.set row line = lines := by
  obtain ⟨hlt, rfl⟩ := List.getElem?_eq_some_iff.1 hat
  exact List.set_getElem_self hlt

private theorem Range.between_row (row column goal : Nat) :
    between ⟨row, column⟩ (Position.withColumn ⟨row, column⟩ goal) =
      ⟨⟨row, (min column goal : Nat)⟩, ⟨row, (max column goal : Nat)⟩⟩ := by
  have hbefore : (⟨row, column⟩ : Position) ≤ Position.withColumn ⟨row, column⟩ goal ↔ column ≤ goal := by
    simp [Position.le_def, Position.withColumn]
  rw [between]
  by_cases hforward : column ≤ goal
  · rw [if_pos (hbefore.2 hforward), Nat.min_eq_left hforward, Nat.max_eq_right hforward]
    rfl
  · have hback : goal ≤ column := by omega
    rw [if_neg fun hle => hforward (hbefore.1 hle), Nat.min_eq_right hback, Nat.max_eq_left hback]
    rfl

theorem Motion.operatorRange_between (hmotion : ofKeys? keys = some motion) (row column goal : Nat) :
    operatorRange keys (.between ⟨row, column⟩ (Position.withColumn ⟨row, column⟩ goal)) =
      if motion.exclusive = true ∧ column = goal then none
      else some ⟨⟨row, (min column goal : Nat)⟩,
        ⟨row, ((max column goal + if motion.exclusive then 0 else 1 : Nat) : Int) - 1⟩⟩ := by
  have hempty : ((max column goal : Nat) : Int) ≤ (min column goal : Nat) ↔ column = goal := by omega
  rw [Range.between_row, operatorRange, isExclusive, hmotion, Option.any_some]
  cases motion.exclusive with
  | true => simp only [if_true, true_and, hempty, Nat.add_zero, Position.withColumn]
  | false => simp

private theorem Operator.value_operate_delete_piece (hat : lines[row]? = some line) {first stop : Nat}
    (hlt : first < stop) (style : IndentStyle) :
    (Operator.delete.operate ⟨⟨row, first⟩, ⟨row, (stop : Int) - 1⟩⟩ lines 1 style).value =
      if Loggable row ∧ Loggable (stop - 1) then .ok (some (Operator.delete.onPiece lines row line first stop))
      else .error .numberTooLong := by
  have hstop : ((stop : Int) - 1).natAbs = stop - 1 := by omega
  have hnumbers : (∀ n ∈ operateNumbers ⟨⟨row, first⟩, ⟨row, (stop : Int) - 1⟩⟩ 1, Loggable n.natAbs) ↔
      Loggable row ∧ Loggable (stop - 1) := by
    simp only [operateNumbers, List.forall_mem_cons, Int.natAbs_natCast, hstop]
    constructor
    · intro h
      exact ⟨h.1, h.2.2.2.1⟩
    · intro h
      exact ⟨h.1, h.2.mono (by omega), h.1, h.2, loggable_one, List.forall_mem_nil _⟩
  have hvalue := @Operator.value_operate_loggable .delete rfl ⟨⟨row, first⟩, ⟨row, (stop : Int) - 1⟩⟩ lines
    1 style
  by_cases hfits : Loggable row ∧ Loggable (stop - 1)
  · rw [if_pos (hnumbers.2 hfits), Operator.onRange, deleteRange_row hat] at hvalue
    rw [if_pos hfits, ← Operator.operate_piece rfl hat hvalue]
    exact hvalue
  · rw [if_neg fun h => hfits (hnumbers.1 h)] at hvalue
    rw [if_neg hfits]
    exact hvalue

private theorem Command.value_onMotion_delete (hmotion : Motion.ofKeys? keys = some motion)
    (hword : motion.wordwise = true) (hat : lines[row]? = some line) (hcolumn : column ≤ line.length)
    (hn : 0 < n) (style : IndentStyle) :
    (onMotion (some .delete) keys n ⟨row, column⟩ lines style).value =
      if motion.CutFits line row column n then
        .ok ((motion.landing line column n).map fun goal =>
          Operator.delete.onPiece lines row line (min column goal.toNat) (max column goal.toNat))
      else .error .numberTooLong := by
  have hjumps := Motion.jumps_of_wordwise hword
  have hon : OnLine line (⟨row, column⟩ : Position).column :=
    ⟨Int.natCast_nonneg column, Int.ofNat_le.2 hcolumn⟩
  have hline : lineOf lines (⟨row, column⟩ : Position).line = line := lineOf_of_getElem? hat
  rw [onMotion, hline, Logged.value_bind, Motion.value_reportedTimes,
    Motion.reachTimes_eq hmotion (Motion.repeats_of_jumps hjumps) hon hn]
  cases hlanding : motion.landing line (⟨row, column⟩ : Position).column n with
  | none =>
    rw [if_pos (Motion.cutFits_of_none hlanding)]
    rfl
  | some goal =>
    obtain ⟨g, rfl, -⟩ := Motion.exists_of_mem_goals hword (Motion.mem_goals_of_landing hlanding)
    have hmoved : column ≠ g := by
      rintro rfl
      exact Motion.head?_ne_of_jumps hjumps line column (Motion.landing_eq_self_iff.1 hlanding)
    have htrimmed := Motion.operatorRange_between hmotion row column g
    rw [if_neg fun h => hmoved h.2, Motion.exclusive_of_wordwise hword, if_pos rfl, Nat.add_zero] at htrimmed
    simp only [Option.map_some, htrimmed]
    rw [Operator.value_operate_delete_piece hat (by omega) style]
    simp only [Motion.cutFits_of_some_iff hlanding, Int.toNat_natCast]

theorem Command.linewise_eq_false (hmotion : Motion.ofKeys? keys = some motion)
    (htarget : c.target = some (.motion keys)) : c.linewise = false := by
  have hdoubled : ∀ doubled ∈ linewiseMotions, Motion.ofKeys? doubled = none := by decide
  rw [linewise, motion?, htarget]
  refine decide_eq_false fun hmem => ?_
  rw [hdoubled keys hmem] at hmotion
  cases hmotion

private theorem Session.exists_stored (s : Session) (hregister : c.register = none) (edit : Edit) :
    ∃ stored, s.stored c edit = .ok stored := by
  cases hstored : s.stored c edit with
  | ok stored => exact ⟨stored, rfl⟩
  | error fault =>
    have hfails := (s.stored_error_iff (c := c) (by simp [hregister]) edit).1 ⟨fault, hstored⟩
    rw [hregister] at hfails
    exact absurd ⟨unnamed, rfl, fun hupper => absurd hupper (by decide)⟩ hfails.2

private theorem Typist.execute_delete (hat : t.lines[row]? = some line) (hcolumn : column ≤ line.length)
    (hplace : t.place = ⟨row, column⟩) (hmotion : Motion.ofKeys? keys = some motion)
    (hword : motion.wordwise = true) (hop : c.operator = some .delete)
    (htarget : c.target = some (.motion keys)) (hregister : c.register = none) (htimes : c.times = n) :
    ∃ o : Outcome, o.lines = t.lines.set row (motion.cutTimes line column n).1 ∧
      o.cursor = ⟨row, (motion.cutTimes line column n).2⟩ ∧
      (t.execute c).2 =
        if Loggable n ∧ motion.CutFits line row column n then .ok o else .error .numberTooLong := by
  subst htimes
  have hinside : Inside t.lines t.place := ⟨row, column, line, hplace, hat, hcolumn⟩
  have hanswer := execute_eq hinside (t.engine.session.exists_stored hregister)
  rw [Command.edit_motion hop rfl htarget (Command.linewise_eq_false hmotion htarget), hplace,
    Command.value_onMotion_delete hmotion hword hat hcolumn c.times_pos, apply_ite (Except.map _)] at hanswer
  simp only [ite_and]
  cases hlanding : motion.landing line column c.times with
  | none =>
    rw [hlanding] at hanswer
    rw [Motion.cutTimes_of_none hlanding]
    exact ⟨c.idleOutcome t.lines ⟨row, column⟩, (set_same hat).symm, rfl, hanswer⟩
  | some goal =>
    rw [hlanding] at hanswer
    rw [Motion.cutTimes, hlanding]
    exact ⟨c.outcome (Operator.delete.onPiece t.lines row line (min column goal.toNat) (max column goal.toNat)),
      rfl, rfl, hanswer⟩

/-- Single deletes in a row cut the line once up to where a motion with their number ends. -/
theorem Typist.executeTimes_delete (hat : t.lines[row]? = some line) (hcolumn : column ≤ line.length)
    (hplace : t.place = ⟨row, column⟩) (hmotion : Motion.ofKeys? keys = some motion)
    (hword : motion.wordwise = true) (hop : c.operator = some .delete)
    (htarget : c.target = some (.motion keys)) (hregister : c.register = none) (hcount : c.times = 1) (n : Nat)
    (hfits : motion.CutFits line row column n) :
    ∃ after, t.executeTimes c n = .ok after ∧
      after.lines = t.lines.set row (motion.cutTimes line column n).1 ∧
      after.place = ⟨row, (motion.cutTimes line column n).2⟩ := by
  -- on the number of deletes, for any line: the line behind one delete is a line of the same run
  induction n generalizing t line column with
  | zero =>
    have hnone : motion.landing line column 0 = none :=
      Motion.landing_of_jumps (Motion.jumps_of_wordwise hword) line column 0
    rw [Motion.cutTimes_of_none hnone]
    exact ⟨t, rfl, (set_same hat).symm, hplace⟩
  | succ n ih =>
    obtain ⟨hfirst, hrest⟩ := hfits.succ hword
    obtain ⟨o, holines, hocursor, hanswer⟩ :=
      t.execute_delete hat hcolumn hplace hmotion hword hop htarget hregister hcount
    rw [if_pos ⟨loggable_one, hfirst⟩] at hanswer
    obtain ⟨mid, hrun⟩ : ∃ mid, t.execute c = (mid, .ok o) := ⟨_, Prod.ext rfl hanswer⟩
    obtain ⟨hlines, hmid⟩ := execute_ok hrun
    rw [holines] at hlines
    rw [hocursor] at hmid
    have hmidLine : mid.lines[row]? = some (motion.cutTimes line column 1).1 := by
      rw [hlines, List.getElem?_set_self (List.getElem?_eq_some_iff.1 hat).1]
    obtain ⟨after, hafter, hafterLines, hafterPlace⟩ := ih hmidLine (Motion.cutTimes_le hcolumn) hmid hrest
    rw [← Motion.cutTimes_succ hword hcolumn] at hafterLines hafterPlace
    refine ⟨after, by rw [executeTimes_succ hrun, hafter], ?_, hafterPlace⟩
    rw [hafterLines, hlines, List.set_set]

end

/-- A delete up to a word with a count leaves the lines and the cursor that so many single ones leave. It is
stopped by a count that is too long for the log, and by nothing else on a buffer that the log can hold. -/
theorem Typist.delete_words (t : Typist τ) (hinside : Inside t.lines t.place) {keys : Text} {motion : Motion}
    (hmotion : Motion.ofKeys? keys = some motion) (hword : motion.wordwise = true) (count : Count) :
    let single : Command := { operator := some .delete, target := some (.motion keys) }
    let counted : Command := { single with count := some count }
    (∀ after o, t.execute counted = (after, .ok o) →
      ∃ after', t.executeTimes single count.val = .ok after' ∧ after'.lines = after.lines ∧
        after'.place = after.place) ∧
    (Loggable count.val → Fits t.lines → ∃ o, (t.execute counted).2 = .ok o) ∧
    (¬Loggable count.val → (t.execute counted).2 = .error .numberTooLong) := by
  intro single counted
  obtain ⟨row, column, line, hplace, hat, hcolumn⟩ := id hinside
  obtain ⟨o, hlines, hcursor, hanswer⟩ :=
    t.execute_delete (c := counted) hat hcolumn hplace hmotion hword rfl rfl rfl rfl
  refine ⟨fun after o' hran => ?_, fun hcount hfits => ?_, execute_long_count (c := counted) hinside⟩
  · have hsame : (if Loggable counted.times ∧ motion.CutFits line row column counted.times then .ok o
        else .error .numberTooLong : Except Fault Outcome) = .ok o' := by
      rw [← hanswer, hran]
    split at hsame
    · next hfits =>
      obtain rfl := Except.ok.inj hsame
      obtain ⟨hafterLines, hafterPlace⟩ := execute_ok hran
      obtain ⟨after', hafter', hlines', hplace'⟩ :=
        t.executeTimes_delete (c := single) hat hcolumn hplace hmotion hword rfl rfl rfl rfl _ hfits.2
      exact ⟨after', hafter', by rw [hlines', hafterLines, hlines], by rw [hplace', hafterPlace, hcursor]⟩
    · cases hsame
  · refine ⟨o, hanswer.trans (if_pos ⟨hcount, fun goal hgoal => ?_⟩)⟩
    obtain ⟨g, rfl, hg⟩ := Motion.exists_of_mem_goals hword (Motion.mem_goals_of_landing hgoal)
    have hline : Loggable line.length := hfits.columns line (List.mem_of_getElem? hat)
    exact ⟨hfits.loggable_row hat, hline.mono (by omega)⟩

/-- The second of two words, when the first cut would have run the rest of the line together. -/
theorem Typist.delete_words_joined :
    let t : Typist Nat := ⟨Engine.start {} 3 0 none, ["ab c, d".toList], some ⟨0, 1⟩⟩
    let single : Command := { operator := some .delete, target := some (.motion ['w']) }
    Inside t.lines t.place ∧ Motion.ofKeys? ['w'] = some (.wordStart false) ∧
      (Motion.wordStart false).wordwise = true ∧
      ∃ after o, t.execute { single with count := some ⟨2, by decide⟩ } = (after, .ok o) ∧
        after.lines = ["ad".toList] ∧ after.place = ⟨0, 1⟩ ∧
        ∃ after', t.executeTimes single 2 = .ok after' ∧ after'.lines = after.lines ∧
          after'.place = after.place := by
  intro t single
  have hinside : Inside t.lines t.place := ⟨0, 1, "ab c, d".toList, rfl, rfl, by decide⟩
  have hmotion : Motion.ofKeys? ['w'] = some (.wordStart false) := rfl
  obtain ⟨hsame, hruns, -⟩ := t.delete_words hinside hmotion rfl ⟨2, by decide⟩
  obtain ⟨o, ho⟩ := hruns (by decide) ⟨by decide, by decide⟩
  have hlines : (t.execute { single with count := some ⟨2, by decide⟩ }).1.lines = ["ad".toList] := by decide
  have hplace : (t.execute { single with count := some ⟨2, by decide⟩ }).1.place = ⟨0, 1⟩ := by decide
  exact ⟨hinside, hmotion, rfl, _, o, Prod.ext rfl ho, hlines, hplace, hsame _ o (Prod.ext rfl ho)⟩

/-- There is a word to delete up to, and single deletes come to an end however many they are. But their number
is too long for the log. -/
theorem Typist.delete_words_long_count :
    let t : Typist Nat := ⟨Engine.start {} 3 0 none, ["a b".toList], none⟩
    let single : Command := { operator := some .delete, target := some (.motion ['w']) }
    Inside t.lines t.place ∧
      (t.execute { single with count := some ⟨10 ^ Text.numeralLimit, Nat.pow_pos (by decide)⟩ }).2 =
        .error .numberTooLong ∧
      ∃ after, t.executeTimes single (10 ^ Text.numeralLimit) = .ok after ∧ after.lines = ["b".toList] ∧
        after.place = ⟨0, 0⟩ := by
  intro t single
  have hinside : Inside t.lines t.place := ⟨0, 0, "a b".toList, rfl, rfl, by decide⟩
  have htimes (count : Count) : ({ single with count := some count } : Command).times = count.val := rfl
  have hmotion : Motion.ofKeys? ['w'] = some (.wordStart false) := rfl
  have hgoals : (Motion.wordStart false).goals "a b".toList (0 : Nat) = [2] := by decide
  have hsteps (n : Nat) (hn : 0 < n) :
      ∃ after, t.executeTimes single n = .ok after ∧ after.lines = ["b".toList] ∧ after.place = ⟨0, 0⟩ := by
    have hlanding : (Motion.wordStart false).landing "a b".toList (0 : Nat) n = some ((2 : Nat) : Int) := by
      have hall : [(2 : Int)].take n = [2] := List.take_of_length_le hn
      rw [Motion.landing_of_jumps rfl, hgoals, hall]
      rfl
    have hfits : (Motion.wordStart false).CutFits "a b".toList 0 0 n :=
      (Motion.cutFits_of_some_iff hlanding).2 ⟨by decide, by decide⟩
    have hcut := t.executeTimes_delete (c := single) rfl (Nat.zero_le _) rfl hmotion rfl rfl rfl rfl rfl n hfits
    rwa [Motion.cutTimes_of_some hlanding] at hcut
  refine ⟨hinside, execute_long_count hinside ?_, hsteps _ (Nat.pow_pos (by decide))⟩
  rw [htimes]
  exact not_loggable_limit

end ModalEditor
