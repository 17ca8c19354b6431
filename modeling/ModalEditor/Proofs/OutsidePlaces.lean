import ModalEditor.Proofs.SearchHistory
/-!
# Places outside the buffer

A command looks at its cursor before it does anything, and refuses one outside the buffer. Behind that look
nothing is refused for a place any more: whatever fails then is a number or a register name.
-/
namespace ModalEditor

variable {τ : Type}

def Fault.isOutside : Fault → Bool
  | .lineOutside _ | .columnOutside _ => true
  | _ => false

private theorem isOutside_of_ensurePosition {lines : List Text} {p : Position} {fault : Fault}
    (h : ensurePosition lines p = .error fault) : fault.isOutside = true := by
  unfold ensurePosition at h
  split at h
  · cases h
    rfl
  · split at h
    · cases h
      rfl
    · cases h

/-- A step that refuses nothing for its place. -/
def NeverOutside {α : Type} (x : Except Fault α) : Prop :=
  ∀ fault, x = .error fault → fault.isOutside = false

namespace NeverOutside

variable {α β : Type}

theorem ok (a : α) : NeverOutside (.ok a) := fun _ h => nomatch h

private theorem of_total {x : Except Fault α} (h : ∃ a, x = .ok a) : NeverOutside x := by
  obtain ⟨a, rfl⟩ := h
  exact ok a

theorem error {fault : Fault} (h : fault.isOutside = false) :
    NeverOutside (.error fault : Except Fault α) := by
  rintro _ ⟨⟩
  exact h

theorem bind {x : Except Fault α} {f : α → Except Fault β} (hx : NeverOutside x)
    (hf : ∀ a, NeverOutside (f a)) : NeverOutside (x.bind f) := by
  cases x with
  | error fault => exact error (hx fault rfl)
  | ok a => exact hf a

end NeverOutside

/-! ### The log -/

private theorem writeInt_neverOutside (n : Int) : NeverOutside (Text.writeInt n) := by
  unfold Text.writeInt
  split
  · exact .ok _
  · exact .error rfl

private theorem Position.written_neverOutside (p : Position) : NeverOutside p.written :=
  (writeInt_neverOutside _).bind fun _ => (writeInt_neverOutside _).bind fun _ => .ok _

private theorem Fields.written_neverOutside {fields : Fields Value}
    (h : ∀ entry ∈ fields, NeverOutside entry.2.written) : NeverOutside fields.written := by
  induction fields with
  | nil => exact .ok []
  | cons entry rest ih =>
    refine (h entry List.mem_cons_self).bind fun _ => ?_
    exact (ih fun e he => h e (List.mem_cons_of_mem _ he)).bind fun _ => .ok _

private theorem operateContext_neverOutside (range : Range) (count : Int) :
    NeverOutside (operateContext range count).written := by
  apply Fields.written_neverOutside
  intro entry hentry
  simp only [operateContext, List.mem_cons, List.not_mem_nil, or_false] at hentry
  rcases hentry with rfl | rfl | rfl
  · exact range.start.written_neverOutside
  · exact range.stop.written_neverOutside
  · exact writeInt_neverOutside count

private theorem Command.written_neverOutside (c : Command) : NeverOutside c.written := by
  unfold written
  cases c.count with
  | none => exact .ok _
  | some n =>
    refine NeverOutside.bind ?_ fun _ => .ok _
    exact writeInt_neverOutside n.val

/-! ### Edits -/

private theorem copies_neverOutside {α : Type} (count : Int) (xs : List α) : NeverOutside (copies count xs) := by
  unfold copies
  split
  · exact .ok _
  · exact .error rfl

private theorem Text.copies_neverOutside (count : Int) (t : Text) : NeverOutside (Text.copies count t) := by
  unfold Text.copies
  split
  · exact .error rfl
  · exact ModalEditor.copies_neverOutside count t

private theorem Text.copyLines_neverOutside (count : Int) (t : Text) : NeverOutside (Text.copyLines count t) := by
  unfold Text.copyLines
  split
  · exact .error rfl
  · exact (ModalEditor.copies_neverOutside count [t]).bind fun _ => .ok _

private theorem pasteText_neverOutside (text : Text) (position : Position) (lines : List Text)
    (before linewise : Bool) (count : Int) :
    NeverOutside (pasteText text position lines before linewise count) := by
  unfold pasteText
  split
  · exact .ok none
  · split
    · exact (copies_neverOutside _ _).bind fun _ => .ok _
    · exact (Text.copies_neverOutside _ _).bind fun _ => .ok _

section

variable {lines : List Text} {row : Nat} {line : Text}

private theorem Operator.onRange_neverOutside (op : Operator) (hat : lines[row]? = some line)
    (first last count : Int) (style : IndentStyle) :
    NeverOutside (op.onRange ⟨⟨row, first⟩, ⟨row, last⟩⟩ lines count style) := by
  cases op with
  | delete => exact .of_total ⟨_, deleteRange_row hat first last⟩
  | change => exact .of_total ⟨_, deleteRange_row hat first last⟩
  | yank =>
    rw [onRange, yankRange_row hat]
    refine NeverOutside.bind ?_ fun _ => .ok _
    split
    · exact Text.copyLines_neverOutside _ _
    · exact .ok _
  | indent =>
    rw [onRange, indentLines_eq (hasLine_of_getElem? hat)]
    split
    · exact .error rfl
    · exact .ok _
  | _ => exact .ok _

private theorem Operator.operate_neverOutside (op : Operator) (hat : lines[row]? = some line)
    (first last count : Int) (style : IndentStyle) :
    NeverOutside (op.operate ⟨⟨row, first⟩, ⟨row, last⟩⟩ lines count style).value := by
  rw [value_operate]
  split
  · exact (operateContext_neverOutside _ _).bind fun _ => op.onRange_neverOutside hat _ _ _ _
  · exact .ok none

private theorem Operator.operateLines_neverOutside (op : Operator) (hat : lines[row]? = some line)
    (column count : Int) (style : IndentStyle) :
    NeverOutside (op.operateLines ⟨row, column⟩ lines count style).value := by
  have hcut (keepIndent : Bool) : NeverOutside
      ((Fields.written [("line".toList, .integer row), ("count".toList, .integer count)]).bind fun _ =>
        some <$> cutLines keepIndent ⟨row, column⟩ lines count) := by
    refine NeverOutside.bind (Fields.written_neverOutside ?_) fun _ => .of_total ?_
    · intro entry hentry
      simp only [List.mem_cons, List.not_mem_nil, or_false] at hentry
      rcases hentry with rfl | rfl
      · exact writeInt_neverOutside row
      · exact writeInt_neverOutside count
    · obtain ⟨last, stop, -, -, -, hrange⟩ := linewiseRange_row hat column count
      rw [cutLines, hrange]
      cases keepIndent <;> exact ⟨_, rfl⟩
  rw [value_operateLines op count style (hasLine_of_getElem? hat)]
  cases op with
  | delete => exact hcut false
  | change => exact hcut true
  | yank => exact Operator.operate_neverOutside .yank hat _ _ _ _
  | indent => exact Operator.operate_neverOutside .indent hat _ _ _ _
  | dedent => exact Operator.operate_neverOutside .dedent hat _ _ _ _
  | _ => exact .ok none

end

private theorem Command.edit_neverOutside {c : Command} {lines : List Text} {p : Position}
    (hinside : Inside lines p) (hmotion : c.motion? ≠ some []) (registers : RegisterBank)
    (style : IndentStyle) : NeverOutside (c.edit registers style p lines).value := by
  obtain ⟨row, column, line, rfl, hat, -, hlocated⟩ := edit_located hinside hmotion registers style
  generalize (c.edit registers style ⟨row, column⟩ lines).value = edit at hlocated
  cases hlocated with
  | found edit => exact .ok edit
  | put text before linewise => exact pasteText_neverOutside _ _ _ _ _ _
  | onRange op => exact op.operate_neverOutside hat _ _ _ style
  | onLines op => exact op.operateLines_neverOutside hat _ _ style

/-! ### Sessions -/

private theorem RegisterBank.set_neverOutside (bank : RegisterBank) (name : Text) (value : RegisterValue) :
    NeverOutside (bank.set name value) := by
  unfold set
  split
  · split
    · exact .error rfl
    · split
      · split
        · split
          · exact .error rfl
          · split
            · exact .ok _
            · exact .error rfl
        · exact .error rfl
      · exact .ok _
  · exact .error rfl

namespace Session

private theorem settle_neverOutside (s : Session) (c : Command) (lines : List Text) (p : Position)
    {found : Except Fault (Option Edit)} (hfound : NeverOutside found) :
    NeverOutside (s.settle c lines p found).value.2 := by
  cases found with
  | error fault => exact .error (hfound fault rfl)
  | ok found =>
    cases found with
    | none =>
      rw [settle, value_decline]
      exact c.written_neverOutside.bind fun _ => .ok _
    | some edit =>
      have hstored : NeverOutside (s.stored c edit) := by
        unfold stored
        split
        · exact (s.registers.set_neverOutside _ _).bind fun _ => .ok _
        · exact .ok s
      rw [settle, value_commit]
      cases hstore : s.stored c edit with
      | error fault => exact .error (hstored fault hstore)
      | ok stored => exact .ok _

/-- A command is refused for its place exactly when its cursor is outside the buffer. -/
theorem execute_outside_iff (s : Session) (style : IndentStyle) {c : Command} (lines : List Text)
    (cursor : Option Position) (hmotion : c.motion? ≠ some []) :
    (∃ fault, (s.execute style c lines cursor).value.2 = .error fault ∧ fault.isOutside = true) ↔
      ¬Inside lines (cursor.getD s.position) := by
  rw [value_execute]
  by_cases hinside : Inside lines (cursor.getD s.position)
  · rw [ensurePosition_of_inside hinside]
    refine iff_of_false ?_ (not_not.2 hinside)
    rintro ⟨fault, hfault, houtside⟩
    have hcontext : NeverOutside c.context.written := by
      apply Fields.written_neverOutside
      intro entry hentry
      simp only [Command.context, List.mem_cons, List.not_mem_nil, or_false] at hentry
      rcases hentry with rfl | rfl | rfl
      · exact .ok _
      · exact .ok _
      · exact writeInt_neverOutside c.times
    have hsettled := s.settle_neverOutside c lines (cursor.getD s.position)
      (hcontext.bind fun _ => Command.edit_neverOutside hinside hmotion s.registers style)
    rw [hsettled fault hfault] at houtside
    cases houtside
  · refine iff_of_true ?_ hinside
    cases hensure : ensurePosition lines (cursor.getD s.position) with
    | error fault => exact ⟨fault, rfl, isOutside_of_ensurePosition hensure⟩
    | ok p => exact absurd (ensurePosition_eq_ok_iff.1 hensure).2 hinside

end Session

/-! ### Keys -/

namespace Grammar

private theorem takeCount_neverOutside (keys : Text) : NeverOutside (takeCount keys) := by
  unfold takeCount
  split
  · exact .ok _
  · next digits rest _ =>
    refine NeverOutside.bind ?_ fun _ => .ok _
    unfold Text.readDigits
    split
    · exact .ok _
    · exact .error rfl

private theorem read_neverOutside (keys : Text) : NeverOutside (read keys) := by
  unfold read
  split
  · exact .ok none
  · next register rest _ =>
    refine (takeCount_neverOutside rest).bind fun ⟨count, body⟩ => ?_
    dsimp only
    unfold readBody
    split
    · exact .ok none
    · exact .ok _
    · split
      · split
        · rw [readOperand_eq]
          exact (takeCount_neverOutside _).bind fun _ => .ok _
        · exact .ok _
      · exact .ok _

end Grammar

namespace Engine

variable {e after : Engine τ} {c : Command} {key : Text} {lines : List Text} {cursor : Option Position}
  {o : Outcome}

private theorem inside_of_execute_ok (h : (e.execute c lines cursor).value = (after, .ok o)) :
    Inside lines (cursor.getD e.session.position) := by
  rw [value_execute, Session.value_execute] at h
  cases hensure : ensurePosition lines (cursor.getD e.session.position) with
  | error fault =>
    rw [hensure] at h
    cases h
  | ok p => exact (ensurePosition_eq_ok_iff.1 hensure).2

variable [LE τ] [DecidableLE τ] [Add τ]

theorem Fed.moved {fed : Engine τ × Except Fault (Option Outcome)} (h : Fed e key lines none fed) :
    fed.1.session.marks = e.session.marks ∧
      match fed.2 with
      | .ok (some o) => Inside lines e.session.position ∧ fed.1.session.position = o.cursor
      | _ => fed.1.session.position = e.session.position := by
  cases h with
  | waits => exact ⟨rfl, rfl⟩
  | refused => exact ⟨rfl, rfl⟩
  | @completed c hread hdone after answer hran =>
    obtain ⟨search, hsession⟩ := e.reading_frame key
    rw [hsession] at hran
    cases answer with
    | error fault =>
      rw [eq_of_execute_error hran]
      exact ⟨rfl, rfl⟩
    | ok o =>
      have hinside := inside_of_execute_ok hran
      rcases (execute_ok hran).2 with ⟨hsame, rfl⟩ | ⟨edit, -, -, -, htook⟩
      · rw [hsame]
        exact ⟨rfl, hinside, rfl⟩
      · exact ⟨htook.marks, hinside, htook.position⟩

theorem feed_outside_iff (e : Engine τ) (key : Text) (lines : List Text) (cursor : Option Position) :
    (∃ fault, (e.feed key lines cursor).value.2 = .error fault ∧ fault.isOutside = true) ↔
      ¬Inside lines (cursor.getD e.session.position) ∧ e.completed? (.feed key lines cursor) ≠ none := by
  -- a key that is not read, that waits or that is refused says nothing about the cursor's place
  by_cases hunread : key ∈ escapeKeys ∨ e.session.mode = .insert
  · obtain ⟨after, hvalue, -⟩ := feed_unread lines cursor hunread
    rw [hvalue, completed?, if_pos hunread]
    refine iff_of_false ?_ fun h => h.2 rfl
    rintro ⟨_, ⟨⟩, -⟩
  obtain ⟨hkey, hmode⟩ := not_or.1 hunread
  rw [completed?_feed hkey hmode]
  have hfed : Fed e key lines cursor (e.feed key lines cursor).value := feed_fed hkey hmode
  generalize (e.feed key lines cursor).value = fed at hfed
  cases hfed with
  | waits hread =>
    refine iff_of_false ?_ fun h => h.2 (if_neg fun hcompleted => ?_)
    · rintro ⟨_, ⟨⟩, -⟩
    · obtain ⟨c, hanswer, hdone⟩ := isCommand_completed_iff.1 hcompleted
      rw [hanswer] at hread
      cases hdone.symm.trans hread
  | @refused fault hread =>
    refine iff_of_false ?_ fun h => h.2 ?_
    · rintro ⟨_, ⟨⟩, houtside⟩
      rw [Grammar.read_neverOutside _ fault (e.session.read_of_error hread).2] at houtside
      cases houtside
    · rw [hread]
      rfl
  | @completed c hread hdone after answer hran =>
    obtain ⟨search, hsession⟩ := e.reading_frame key
    have houtside := (e.reading key).1.execute_outside_iff e.settings.indentStyle lines cursor
      (e.session.parts_of_read hread).2
    have hanswer : ((e.reading key).1.execute e.settings.indentStyle c lines cursor).value.2 = answer :=
      congrArg Prod.snd hran
    rw [hanswer, hsession] at houtside
    have hfault : (∃ fault, answer.map some = .error fault ∧ fault.isOutside = true) ↔
        ∃ fault, answer = .error fault ∧ fault.isOutside = true := by
      cases answer <;> simp [Except.map]
    rw [hfault, houtside, if_pos (isCommand_completed_iff.2 ⟨c, hread, hdone⟩)]
    simp

end Engine

end ModalEditor
