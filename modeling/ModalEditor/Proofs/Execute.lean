import ModalEditor.Engine.Basic
import ModalEditor.Proofs.Columns
import ModalEditor.Proofs.Edits
/-!
# Executing is all or nothing

A command that fails or has nothing to do leaves the session as it was. One that is done leaves the
cursor of its outcome, and a register only if the operator keeps text; its lines and cursor are sound
again whenever it began on a sound buffer.
-/
namespace ModalEditor

variable {τ : Type}

section

variable {lines : List Text} {row column : Nat} {line : Text} {style : IndentStyle} {edit : Edit}

theorem Motion.operatorRange_row {keys : Text} {first last row : Int} {trimmed : Range}
    (hle : first ≤ last) (h : operatorRange keys ⟨⟨row, first⟩, ⟨row, last⟩⟩ = some trimmed) :
    ∃ stop : Int, trimmed = ⟨⟨row, first⟩, ⟨row, stop⟩⟩ ∧ first ≤ stop ∧ stop ≤ last := by
  unfold operatorRange at h
  split at h
  · split at h
    · cases h
    · next hsome =>
      simp only [true_and] at hsome
      exact ⟨last - 1, (Option.some.inj h).symm, by omega, by omega⟩
  · exact ⟨last, (Option.some.inj h).symm, hle, Int.le_refl last⟩

private theorem Command.onMotion_sound {operator : Option Operator} {keys : Text} {times : Nat}
    (hwidth : 0 < style.width) (hl : SingleLines lines) (hat : lines[row]? = some line)
    (hcolumn : column ≤ line.length)
    (h : (onMotion operator keys times ⟨row, column⟩ lines style).value = .ok (some edit)) :
    Sound edit.lines edit.cursor := by
  have hline : lineOf lines (⟨row, column⟩ : Position).line = line := lineOf_of_getElem? hat
  simp only [onMotion, hline, Logged.value_bind, Motion.value_reportedTimes] at h
  cases hreach : Motion.reachTimes keys ⟨row, column⟩ line times with
  | error fault => simp [hreach] at h
  | ok found =>
    cases found with
    | none => simp [hreach] at h
    | some range =>
      -- both ends of the range stand on the cursor's line
      obtain ⟨first, last, rfl, hle, hlast⟩ := Motion.reachTimes_row hcolumn hreach
      simp only [hreach] at h
      cases operator with
      | none =>
        cases h
        refine ⟨hl, ?_⟩
        dsimp only
        split
        · exact ⟨row, last, line, rfl, hat, hlast⟩
        · exact ⟨row, first, line, rfl, hat, Nat.le_trans hle hlast⟩
      | some op =>
        cases htrim : Motion.operatorRange keys ⟨⟨row, first⟩, ⟨row, last⟩⟩ with
        | none => simp [htrim] at h
        | some trimmed =>
          obtain ⟨stop, rfl, -⟩ := Motion.operatorRange_row (Int.ofNat_le.2 hle) htrim
          simp only [htrim] at h
          exact Operator.operate_sound hwidth hl hat (Nat.le_trans hle hlast) h

private theorem Command.onObject_sound {op : Operator} {object : TextObject} (hwidth : 0 < style.width)
    (hl : SingleLines lines) (hat : lines[row]? = some line)
    (h : (onObject op object ⟨row, column⟩ lines style).value = .ok (some edit)) :
    Sound edit.lines edit.cursor := by
  have hline : lineOf lines (⟨row, column⟩ : Position).line = line := lineOf_of_getElem? hat
  simp only [onObject, hline, Logged.value_bind, TextObject.value_reported] at h
  cases hfind : object.find? line column row with
  | none => simp [hfind] at h
  | some found =>
    obtain ⟨first, last, ⟨hlow, hhigh⟩, -, -, hrange⟩ := TextObject.find?_onLine hfind
    obtain ⟨first, rfl⟩ := Int.eq_ofNat_of_zero_le hlow
    simp only [hfind, hrange] at h
    exact Operator.operate_sound hwidth hl hat (Int.ofNat_le.1 hhigh) h

end

/-! ### What a command makes of its target -/

theorem Operator.hasRange_of_takesTarget {op : Operator} (h : op.takesTarget = true) :
    op.hasRange = true := by
  cases op <;> first | rfl | cases h

section

variable {c : Command} {op : Operator} {keys : Text} {style : IndentStyle} {p : Position} {lines : List Text}

theorem Command.edit_linewise (hop : c.operator = some op) (htakes : op.takesTarget = true)
    (hline : c.linewise = true) (registers : RegisterBank) :
    c.edit registers style p lines = op.operateLines p lines c.times style := by
  obtain ⟨operator, target, count, register⟩ := c
  subst hop
  rcases target with _ | keys | object
  · cases hline
  · have hkeys : keys ∈ linewiseMotions := of_decide_eq_true hline
    rw [edit, if_neg (by simp [pending])]
    cases op <;> first | exact if_pos hkeys | cases htakes
  · cases hline

theorem Command.edit_motion (hop : c.operator = some op) (htakes : op.takesTarget = true)
    (htarget : c.target = some (.motion keys)) (hline : c.linewise = false) (registers : RegisterBank) :
    c.edit registers style p lines = onMotion (some op) keys c.times p lines style := by
  obtain ⟨operator, target, count, register⟩ := c
  subst hop
  subst htarget
  have hkeys : keys ∉ linewiseMotions := of_decide_eq_false hline
  rw [edit, if_neg (by simp [pending])]
  cases op <;> first | exact if_neg hkeys | cases htakes

theorem Command.edit_object {object : TextObject} (hop : c.operator = some op) (htakes : op.takesTarget = true)
    (htarget : c.target = some (.object object)) (registers : RegisterBank) :
    c.edit registers style p lines = onObject op object p lines style := by
  obtain ⟨operator, target, count, register⟩ := c
  subst hop
  subst htarget
  rw [edit, if_neg (by simp [pending])]
  cases op <;> first | rfl | cases htakes

theorem Command.edit_motion_none (hop : c.operator = none) (htarget : c.target = some (.motion keys))
    (registers : RegisterBank) (style : IndentStyle) :
    c.edit registers style p lines = onMotion none keys c.times p lines style := by
  obtain ⟨operator, target, count, register⟩ := c
  subst hop
  subst htarget
  rfl

theorem Command.edit_idle (hop : c.operator = none) (hmotion : c.motion? = none) (registers : RegisterBank)
    (style : IndentStyle) : c.edit registers style p lines = pure (.ok none) := by
  obtain ⟨operator, target, count, register⟩ := c
  subst hop
  rcases target with _ | keys | object
  · rfl
  · cases hmotion
  · rfl

theorem Command.edit_pending (hpending : c.pending = true) (registers : RegisterBank) (style : IndentStyle) :
    c.edit registers style p lines = pure (.ok none) :=
  if_pos hpending

theorem Command.edit_paste (hop : c.operator = some op) (hput : op = .paste ∨ op = .pasteBefore)
    (registers : RegisterBank) (style : IndentStyle) :
    let value := registers.get (RegisterBank.nameOr c.register)
    c.edit registers style p lines =
      pure (pasteText value.text p lines (op = .pasteBefore) value.linewise c.times) := by
  obtain ⟨operator, target, count, register⟩ := c
  subst hop
  rcases hput with rfl | rfl <;> rfl

theorem Command.edit_join (hop : c.operator = some .join) (registers : RegisterBank) (style : IndentStyle) :
    c.edit registers style p lines = Operator.join.operate ⟨p, p⟩ lines c.times style := by
  obtain ⟨operator, target, count, register⟩ := c
  subst hop
  rfl

theorem Command.stores_eq_false (hop : c.operator = none) (edit : Edit) : c.stores edit = false := by
  rw [stores, hop]
  rfl

end

/-- Whatever a command makes of a sound buffer is sound. -/
theorem Command.edit_sound {c : Command} {registers : RegisterBank} {style : IndentStyle}
    {p : Position} {lines : List Text} {edit : Edit} (hwidth : 0 < style.width) (hs : Sound lines p)
    (h : (c.edit registers style p lines).value = .ok (some edit)) : Sound edit.lines edit.cursor := by
  obtain ⟨hl, row, column, line, rfl, hat, hcolumn⟩ := hs
  unfold Command.edit at h
  split at h
  · cases h
  · split at h
    · exact pasteText_sound hl hat hcolumn h
    · exact pasteText_sound hl hat hcolumn h
    · exact Operator.operate_sound hwidth hl hat hcolumn h
    · split at h
      · exact onObject_sound hwidth hl hat h
      · cases h
      · split at h
        · exact Operator.operateLines_sound hwidth hl hat hcolumn h
        · exact onMotion_sound hwidth hl hat hcolumn h
      · exact onMotion_sound hwidth hl hat hcolumn h
      · cases h

/-- What a session keeps of a command that was done with an outcome. -/
structure Session.Took (before : Session) (command : Command) (o : Outcome) (after : Session) :
    Prop where
  position : after.position = o.cursor
  lastCommand : after.lastCommand = some command
  mode : after.mode = if command.operator = some .change then .insert else before.mode
  marks : after.marks = before.marks
  lastSearch : after.lastSearch = before.lastSearch
  visualStart : after.visualStart = before.visualStart
  registers : if command.operator ∈ [some .delete, some .change, some .yank] ∧
        (o.deleted ≠ [] ∨ command.linewise = true) then
      before.registers.store command.register
        ⟨o.deleted, if command.linewise then .line else .character⟩ = .ok after.registers
    else after.registers = before.registers

theorem Command.stores_iff {c : Command} {edit : Edit} :
    c.stores edit = true ↔ c.operator ∈ [some .delete, some .change, some .yank] ∧
      (edit.taken ≠ [] ∨ c.linewise = true) := by
  have hkeeps : c.operator.any Operator.keepsText = true ↔
      c.operator ∈ [some .delete, some .change, some .yank] := by
    cases c.operator with
    | none => decide
    | some op => cases op <;> decide
  rw [← hkeeps]
  simp [stores]

private theorem Session.stored_eq_ok {s stored : Session} {c : Command} {edit : Edit}
    (h : s.stored c edit = .ok stored) :
    ∃ bank, stored = { s with registers := bank } ∧
      if c.stores edit then
        s.registers.store c.register ⟨edit.taken, if c.linewise then .line else .character⟩ = .ok bank
      else bank = s.registers := by
  unfold Session.stored at h
  split at h
  · next hstores =>
    obtain ⟨bank, hbank, hstored⟩ := bind_eq_ok_iff.1 h
    exact ⟨bank, (Except.ok.inj hstored).symm, by rw [if_pos hstores]; exact hbank⟩
  · next hstores => exact ⟨s.registers, (Except.ok.inj h).symm, by rw [if_neg hstores]⟩

private theorem Session.commit_atomic (s : Session) (c : Command) (edit : Edit) :
    match (s.commit c edit).value with
    | (after, .error _) => after = s
    | (after, .ok o) => o = c.outcome edit ∧ s.Took c o after := by
  rw [value_commit]
  cases hstored : s.stored c edit with
  | error fault => rfl
  | ok stored =>
    obtain ⟨bank, rfl, hbank⟩ := stored_eq_ok hstored
    refine ⟨rfl, ?_⟩
    have hregisters : (if c.operator = some .change then
        ({ s with registers := bank } : Session).inMode .insert else { s with registers := bank }) =
          { s with registers := bank, mode := if c.operator = some .change then .insert else s.mode } := by
      split <;> rfl
    simp only [hregisters]
    simp only [Command.stores_iff] at hbank
    exact ⟨rfl, rfl, rfl, rfl, rfl, rfl, hbank⟩

/-- Whatever a command was found to do, the session is as it was after a failure or an idle outcome,
and takes the outcome of the edit otherwise. -/
theorem Session.settle_atomic (s : Session) (c : Command) (lines : List Text) (p : Position)
    (found : Except Fault (Option Edit)) :
    match (s.settle c lines p found).value with
    | (after, .error _) => after = s
    | (after, .ok o) =>
      (after = s ∧ o = c.idleOutcome lines p) ∨
        ∃ edit, found = .ok (some edit) ∧ o = c.outcome edit ∧ s.Took c o after := by
  cases found with
  | error fault => rfl
  | ok edit =>
    cases edit with
    | none =>
      simp only [settle, value_decline]
      cases c.written with
      | error fault => rfl
      | ok written => exact .inl ⟨rfl, rfl⟩
    | some edit =>
      have hcommit := s.commit_atomic c edit
      simp only [settle]
      split at hcommit
      · exact hcommit
      · exact .inr ⟨edit, rfl, hcommit⟩

private theorem Session.execute_atomic (s : Session) (style : IndentStyle) (c : Command) (lines : List Text)
    (cursor : Option Position) :
    match (s.execute style c lines cursor).value with
    | (after, .error _) => after = s
    | (after, .ok o) =>
      (after = s ∧ o = c.idleOutcome lines (cursor.getD s.position)) ∨
        ∃ edit, Inside lines (cursor.getD s.position) ∧
          (c.edit s.registers style (cursor.getD s.position) lines).value = .ok (some edit) ∧
          o = c.outcome edit ∧ s.Took c o after := by
  rw [value_execute]
  cases hensure : ensurePosition lines (cursor.getD s.position) with
  | error fault => rfl
  | ok p =>
    obtain ⟨rfl, hinside⟩ := ensurePosition_eq_ok_iff.1 hensure
    -- what is settled was found past the span, so it is the edit of the command
    have hsettle := s.settle_atomic c lines (cursor.getD s.position)
      (c.context.written.bind fun _ =>
        (c.edit s.registers style (cursor.getD s.position) lines).value)
    dsimp only
    split at hsettle
    · next h =>
      rw [h]
      exact hsettle
    · next h =>
      rw [h]
      refine hsettle.imp_right ?_
      rintro ⟨edit, hfound, ho, htook⟩
      obtain ⟨_, -, hedit⟩ := bind_eq_ok_iff.1 hfound
      exact ⟨edit, hinside, hedit, ho, htook⟩

section

variable {e after : Engine τ} {c : Command} {lines : List Text} {cursor : Option Position} {o : Outcome}

theorem Engine.eq_of_execute_error {fault : Fault}
    (h : (e.execute c lines cursor).value = (after, .error fault)) : after = e := by
  have hatomic := e.session.execute_atomic e.settings.indentStyle c lines cursor
  rw [value_execute] at h
  split at hatomic
  · next hrun =>
    rw [hrun] at h
    cases h
    rw [hatomic]
  · next hrun =>
    rw [hrun] at h
    cases h

theorem Engine.execute_ok (h : (e.execute c lines cursor).value = (after, .ok o)) :
    after = { e with session := after.session } ∧
      ((after.session = e.session ∧ o = c.idleOutcome lines (cursor.getD e.session.position)) ∨
        ∃ edit, Inside lines (cursor.getD e.session.position) ∧
          (c.edit e.session.registers e.settings.indentStyle (cursor.getD e.session.position)
            lines).value = .ok (some edit) ∧
          o = c.outcome edit ∧ e.session.Took c o after.session) := by
  have hatomic := e.session.execute_atomic e.settings.indentStyle c lines cursor
  rw [value_execute] at h
  split at hatomic
  · next hrun =>
    rw [hrun] at h
    cases h
  · next hrun =>
    rw [hrun] at h
    cases h
    exact ⟨rfl, hatomic⟩

theorem Engine.execute_done (h : (e.execute c lines cursor).value = (after, .ok o))
    (hdone : o ≠ c.idleOutcome lines (cursor.getD e.session.position)) :
    ∃ edit, Inside lines (cursor.getD e.session.position) ∧
      (c.edit e.session.registers e.settings.indentStyle (cursor.getD e.session.position) lines).value =
        .ok (some edit) ∧
      o = c.outcome edit ∧ e.session.Took c o after.session ∧ after.settings = e.settings := by
  obtain ⟨hafter, hran⟩ := execute_ok h
  obtain ⟨edit, hinside, hedit, ho, htook⟩ := hran.resolve_left fun hidle => hdone hidle.2
  have hsettings : after.settings = e.settings := by rw [hafter]
  exact ⟨edit, hinside, hedit, ho, htook, hsettings⟩

theorem Engine.outcome_sound (hs : Sound lines (cursor.getD e.session.position))
    (h : (e.execute c lines cursor).value = (after, .ok o)) : Sound o.lines o.cursor := by
  rcases (execute_ok h).2 with ⟨-, rfl⟩ | ⟨edit, -, hedit, rfl, -⟩
  · exact hs
  · exact Command.edit_sound (Int.natCast_pos.2 e.settings.tabWidth_pos) hs hedit

theorem Engine.execute_cursor
    (h : (e.execute c lines (some e.session.position)).value = (after, .ok o)) :
    after.session.position = o.cursor := by
  rcases (execute_ok h).2 with ⟨hsame, rfl⟩ | ⟨edit, -, -, -, htook⟩
  · rw [hsame]
    rfl
  · exact htook.position

theorem Engine.execute_mode (h : (e.execute c lines cursor).value = (after, .ok o)) :
    after.session.mode = e.session.mode ∨ after.session.mode = .insert := by
  rcases (execute_ok h).2 with ⟨hsame, -⟩ | ⟨edit, -, -, -, htook⟩
  · exact .inl (by rw [hsame])
  · rw [htook.mode]
    split
    · exact .inr rfl
    · exact .inl rfl

end

/-- Executing is all or nothing. A failure and an idle outcome leave the engine as it was; an outcome
that was done is taken as a whole. -/
theorem Engine.execute_allOrNothing (e : Engine τ) (command : Command) (lines : List Text)
    (cursor : Option Position) :
    match (e.execute command lines cursor).value with
    | (after, .error _) => after = e
    | (after, .ok o) =>
      if o.noop then after = e ∧ o.lines = lines ∧ o.cursor = cursor.getD e.session.position
      else after = { e with session := after.session } ∧ e.session.Took command o after.session := by
  rw [value_execute]
  have hatomic := e.session.execute_atomic e.settings.indentStyle command lines cursor
  split at hatomic
  · next h => simp [h, hatomic]
  · next h =>
    simp only [h]
    rcases hatomic with ⟨rfl, rfl⟩ | ⟨edit, -, -, rfl, htook⟩
    · simp [Command.idleOutcome]
    · simpa [Command.outcome] using htook

end ModalEditor
