import Mathlib.Algebra.Order.Group.Nat
import ModalEditor.Proofs.PasteBack
/-!
# Edits that are found or declined

From a place inside a buffer no motion looks outside its line, no text object leaves it, and no operator
misses a row. All that can stop an edit are numbers that are too long for the log, and copies or units of
indent that are too large. Lengths that count lines and characters of a buffer are never too long, so the
count of the command is what matters, with the text that it repeats and the width of a step.
-/
namespace ModalEditor

/-! ### Numbers in the log -/

private theorem loggable_iff {n : Nat} : Loggable n ↔ n < 10 ^ Text.numeralLimit :=
  Nat.length_toDigits_le_iff (by decide) (by decide)

theorem Loggable.mono {m n : Nat} (hn : Loggable n) (h : m ≤ n) : Loggable m :=
  loggable_iff.2 (Nat.lt_of_le_of_lt h (loggable_iff.1 hn))

theorem loggable_one : Loggable 1 := by decide

theorem not_loggable_limit : ¬Loggable (10 ^ Text.numeralLimit) :=
  fun h => Nat.lt_irrefl _ (loggable_iff.1 h)

/-- A buffer whose rows and columns can be written into the log. -/
structure Fits (lines : List Text) : Prop where
  rows : Loggable lines.length
  columns : ∀ line ∈ lines, Loggable line.length

/-- A value that is written as a number, or by numbers, that the log can hold. -/
def Value.Brief : Value → Prop
  | .text _ => True
  | .integer n => Loggable n.natAbs
  | .position p => Loggable p.line.natAbs ∧ Loggable p.column.natAbs
  | _ => False

theorem writeInt_of_loggable {n : Int} (h : Loggable n.natAbs) :
    Text.writeInt n = .ok (Text.intDigits n) := if_pos h

theorem Value.Brief.written {v : Value} (h : v.Brief) : ∃ t, v.written = .ok t := by
  cases v with
  | text t => exact ⟨t, rfl⟩
  | integer n => exact ⟨_, writeInt_of_loggable h⟩
  | position p =>
    obtain ⟨hline, hcolumn⟩ := h
    exact ⟨_, by
      simp only [Value.written, Value.nested, Position.written, writeInt_of_loggable hline,
        writeInt_of_loggable hcolumn]
      rfl⟩
  | nothing => exact h.elim
  | flag => exact h.elim
  | list => exact h.elim
  | record => exact h.elim

theorem Fields.written_of_brief {fields : Fields Value} (h : ∀ entry ∈ fields, entry.2.Brief) :
    ∃ texts, fields.written = .ok texts := by
  induction fields with
  | nil => exact ⟨[], rfl⟩
  | cons entry rest ih =>
    obtain ⟨t, ht⟩ := (h entry List.mem_cons_self).written
    obtain ⟨texts, htexts⟩ := ih fun e he => h e (List.mem_cons_of_mem _ he)
    refine ⟨(entry.1, t) :: texts, ?_⟩
    rw [Fields.written] at htexts ⊢
    simp only [Fields.mapValues, ht, htexts]
    rfl

theorem writeInt_of_not_loggable {n : Int} (h : ¬Loggable n.natAbs) :
    Text.writeInt n = .error .numberTooLong := if_neg h

def Value.Simple : Value → Prop
  | .text _ | .integer _ | .position _ => True
  | _ => False

theorem Value.Simple.written_of_not_brief {v : Value} (h : v.Simple) (hlong : ¬v.Brief) :
    v.written = .error .numberTooLong := by
  cases v with
  | text t => exact absurd trivial hlong
  | integer n => exact writeInt_of_not_loggable hlong
  | position p =>
    simp only [Value.written, Value.nested, Position.written]
    by_cases hline : Loggable p.line.natAbs
    · have hcolumn : ¬Loggable p.column.natAbs := fun hcolumn => hlong ⟨hline, hcolumn⟩
      rw [writeInt_of_loggable hline, writeInt_of_not_loggable hcolumn]
      rfl
    · rw [writeInt_of_not_loggable hline]
      rfl
  | nothing => exact h.elim
  | flag => exact h.elim
  | list => exact h.elim
  | record => exact h.elim

theorem Fields.written_of_not_brief {fields : Fields Value} (h : ∀ entry ∈ fields, entry.2.Simple)
    (hlong : ¬∀ entry ∈ fields, entry.2.Brief) : fields.written = .error .numberTooLong := by
  induction fields with
  | nil => exact absurd (List.forall_mem_nil _) hlong
  | cons entry rest ih =>
    rw [written, mapValues]
    by_cases hentry : entry.2.Brief
    · obtain ⟨t, ht⟩ := hentry.written
      have hrest : ¬∀ e ∈ rest, e.2.Brief := fun hrest => hlong (List.forall_mem_cons.2 ⟨hentry, hrest⟩)
      have hfault := ih (fun e he => h e (List.mem_cons_of_mem _ he)) hrest
      rw [written] at hfault
      rw [ht, hfault]
      rfl
    · rw [(h entry List.mem_cons_self).written_of_not_brief hentry]
      rfl

theorem Command.context_written (c : Command) :
    if Loggable c.times then ∃ texts, c.context.written = .ok texts
    else c.context.written = .error .numberTooLong := by
  split
  · next htimes =>
    apply Fields.written_of_brief
    intro entry hentry
    simp only [context, List.mem_cons, List.not_mem_nil, or_false] at hentry
    rcases hentry with rfl | rfl | rfl
    · trivial
    · trivial
    · exact htimes
  · next htimes =>
    simp only [context, Fields.written, Fields.mapValues, Value.written, Value.nested,
      writeInt_natCast, if_neg htimes]
    rfl

def operateNumbers (range : Range) (count : Int) : List Int :=
  [range.start.line, range.start.column, range.stop.line, range.stop.column, count]

private theorem operateContext_brief_iff (range : Range) (count : Int) :
    (∀ entry ∈ operateContext range count, entry.2.Brief) ↔
      ∀ n ∈ operateNumbers range count, Loggable n.natAbs := by
  simp only [operateContext, operateNumbers, List.forall_mem_cons, Value.Brief, List.not_mem_nil,
    false_implies, implies_true, and_assoc]

theorem Operator.value_operate_loggable {op : Operator} (hop : op.hasRange = true) (range : Range)
    (lines : List Text) (count : Int) (style : IndentStyle) :
    (op.operate range lines count style).value =
      if ∀ n ∈ operateNumbers range count, Loggable n.natAbs then op.onRange range lines count style
      else .error .numberTooLong := by
  rw [value_operate, if_pos hop]
  split
  · next hnumbers =>
    obtain ⟨texts, htexts⟩ :=
      Fields.written_of_brief ((operateContext_brief_iff range count).2 hnumbers)
    rw [htexts]
    rfl
  · next hnumbers =>
    have hlong : (operateContext range count).written = .error .numberTooLong := by
      apply Fields.written_of_not_brief
      · simp [operateContext, Value.Simple]
      · exact fun hbrief => hnumbers ((operateContext_brief_iff range count).1 hbrief)
    rw [hlong]
    rfl

theorem Operator.value_operate_long_count {op : Operator} (hop : op.hasRange = true) (range : Range)
    (lines : List Text) {count : Nat} (hcount : ¬Loggable count) (style : IndentStyle) :
    (op.operate range lines count style).value = .error .numberTooLong := by
  rw [value_operate_loggable hop, if_neg]
  intro hnumbers
  exact hcount (hnumbers count (by simp [operateNumbers]))

/-- What an operator answers for an edit of a range: the edit, if the log can hold the numbers of the range and
the count. -/
def operateAnswer (range : Range) (count : Int) (edit : Edit) : Except Fault (Option Edit) :=
  if ∀ n ∈ operateNumbers range count, Loggable n.natAbs then .ok (some edit) else .error .numberTooLong

theorem Operator.value_operate_of_onRange {op : Operator} (hop : op.hasRange = true) {range : Range}
    {lines : List Text} {count : Int} {style : IndentStyle} {edit : Edit}
    (hedit : op.onRange range lines count style = .ok (some edit)) :
    (op.operate range lines count style).value = operateAnswer range count edit := by
  rw [value_operate_loggable hop, hedit, operateAnswer]

/-! ### Motions -/

theorem findChar_total {line char : Text} {column : Int} (hon : OnLine line column)
    (forward till : Bool) : ∃ found, findChar line column char forward till = .ok found := by
  obtain ⟨hlow, hhigh⟩ := hon
  unfold findChar
  split
  · exact ⟨_, if_neg (by omega)⟩
  · exact ⟨_, if_neg (by omega)⟩

namespace Motion

variable {keys line : Text} {position : Position}

private theorem targetColumn_total (motion : Motion) {column : Int} (hon : OnLine line column) :
    ∃ found, motion.targetColumn column line = .ok found := by
  cases motion with
  | search s => exact findChar_total hon s.forward s.till
  | _ => exact ⟨_, rfl⟩

private theorem target_total (hon : OnLine line position.column) :
    ∃ found, target keys position line = .ok found := by
  unfold target
  split
  · exact ⟨none, rfl⟩
  · next motion _ =>
    obtain ⟨found, hfound⟩ := motion.targetColumn_total hon
    exact ⟨_, by rw [hfound]; rfl⟩

private theorem repeatFrom_total {n : Nat} {reached : Position}
    (hnext : OnLine line (reached.column + nudge keys)) :
    ∃ last, repeatFrom keys line n reached = .ok last := by
  induction n generalizing reached with
  | zero => exact ⟨reached, rfl⟩
  | succ n ih =>
    have hon : OnLine line (reached.withColumn (reached.column + nudge keys)).column := hnext
    obtain ⟨found, hfound⟩ := @target_total keys _ _ hon
    rw [repeatFrom, hfound]
    cases found with
    | none => exact ⟨reached, rfl⟩
    | some next =>
      obtain ⟨-, -, hstep⟩ := target_onLine hon hfound
      change ∃ last, (if next = reached then .ok reached else repeatFrom keys line n next) = .ok last
      split
      · exact ⟨reached, rfl⟩
      · exact ih hstep

private theorem furthest_total (count : Nat) (hon : OnLine line position.column) :
    ∃ last, furthest keys line count position = .ok last := by
  cases count with
  | zero => exact ⟨position, rfl⟩
  | succ n =>
    obtain ⟨found, hfound⟩ := @target_total keys _ _ hon
    rw [furthest, hfound]
    cases found with
    | none => exact ⟨position, rfl⟩
    | some next =>
      obtain ⟨-, -, hstep⟩ := target_onLine hon hfound
      change ∃ last, (if next = position then .ok position else repeatFrom keys line n next) = .ok last
      split
      · exact ⟨position, rfl⟩
      · exact repeatFrom_total hstep

theorem reach_total (hon : OnLine line position.column) :
    ∃ found, reach keys position line = .ok found := by
  obtain ⟨found, hfound⟩ := @target_total keys _ _ hon
  rw [reach, hfound]
  exact ⟨_, rfl⟩

theorem reachTimes_total (count : Nat) (hkeys : keys ≠ []) (hon : OnLine line position.column) :
    ∃ found, reachTimes keys position line count = .ok found := by
  unfold reachTimes
  rw [if_neg hkeys]
  split
  · exact reach_total hon
  · obtain ⟨last, hlast⟩ := @furthest_total keys _ _ count hon
    rw [hlast]
    dsimp only
    split
    · exact reach_total hon
    · exact ⟨_, rfl⟩

end Motion

/-! ### Operators -/

section

variable {lines : List Text} {row : Nat} {line : Text} {style : IndentStyle}

/-- What is too large for an operator that works on a piece of a line: the copies that a yank makes of it, or
the unit of indent. -/
def Operator.TooLarge (op : Operator) (piece : Text) (count : Nat) (style : IndentStyle) : Prop :=
  match op with
  | .yank => 1 < count ∧ (sizeLimit ≤ count ∨ sizeLimit < count * (piece.length + 1))
  | .indent => style.spaces = true ∧ ¬IsSize style.width
  | _ => False

private theorem indentLines_error_iff (hat : lines[row]? = some line) (first last count : Int) :
    (∃ fault, indentLines ⟨⟨row, first⟩, ⟨row, last⟩⟩ lines count style = .error fault) ↔
      style.spaces = true ∧ ¬IsSize style.width := by
  rw [indentLines_eq (hasLine_of_getElem? hat), exists_error_ite, or_iff_left (not_exists_error_ok _)]

private theorem yankRange_error_iff (hat : lines[row]? = some line) (first last : Int) (count : Nat) :
    (∃ fault, yankRange ⟨⟨row, first⟩, ⟨row, last⟩⟩ lines count = .error fault) ↔
      Operator.yank.TooLarge (Slice.between line first (last + 1)) count style := by
  have hmany : (1 : Int) < count ↔ 1 < count := by omega
  simp only [yankRange_row hat, hmany, Operator.TooLarge]
  split
  · next hone =>
    rw [and_iff_right hone, exists_error_map, Text.copyLines_natCast, exists_error_ite, exists_error_ite,
      or_iff_left (not_exists_error_ok _)]
  · next hone => exact iff_of_false (not_exists_error_ok _) fun h => hone h.1

private theorem Operator.onRange_error_iff (op : Operator) (hat : lines[row]? = some line) (first last : Int)
    (count : Nat) (style : IndentStyle) :
    (∃ fault, op.onRange ⟨⟨row, first⟩, ⟨row, last⟩⟩ lines count style = .error fault) ↔
      op.TooLarge (Slice.between line first (last + 1)) count style := by
  cases op with
  | delete =>
    rw [onRange, deleteRange_row hat]
    exact iff_of_false (not_exists_error_ok _) id
  | change =>
    rw [onRange, deleteRange_row hat]
    exact iff_of_false (not_exists_error_ok _) id
  | yank => exact yankRange_error_iff hat first last count
  | indent => exact indentLines_error_iff hat first last count
  | dedent => exact iff_of_false (not_exists_error_ok _) id
  | join => exact iff_of_false (not_exists_error_ok _) id
  | paste => exact iff_of_false (not_exists_error_ok _) id
  | pasteBefore => exact iff_of_false (not_exists_error_ok _) id

private theorem pasteText_error_iff (hat : lines[row]? = some line) (text : Text) (column : Int)
    (before linewise : Bool) {count : Nat} (hcount : 0 < count) :
    (∃ fault, pasteText text ⟨row, column⟩ lines before linewise count = .error fault) ↔
      text ≠ [] ∧ (sizeLimit ≤ count ∨
        linewise = false ∧ 1 < count ∧ sizeLimit ≤ count * text.length) := by
  by_cases htext : text = []
  · rw [pasteText, if_pos (.inl htext)]
    exact iff_of_false (not_exists_error_ok _) fun h => h.1 htext
  have hline : hasLine lines (⟨row, column⟩ : Position).line = true := hasLine_of_getElem? hat
  have hn : (max (count : Int) 1).toNat = count := by omega
  cases linewise with
  | true =>
    simp [pasteText_lines_eq htext hline, hn, exists_error_ite, htext]
  | false =>
    simp [pasteText_inside_eq htext hline, hn, exists_error_ite, htext]

variable (hfits : Fits lines) (hat : lines[row]? = some line)

include hfits hat

theorem Fits.loggable_row : Loggable row :=
  hfits.rows.mono (Nat.le_of_lt (List.getElem?_eq_some_iff.1 hat).1)

private theorem Fits.loggable_column {column : Int} (hcolumn : OnLine line column) : Loggable column.natAbs := by
  obtain ⟨hlow, hhigh⟩ := hcolumn
  exact (hfits.columns line (List.mem_of_getElem? hat)).mono (by omega)

private theorem Operator.operate_error_iff (op : Operator) {first last : Int} (hfirst : OnLine line first)
    (hlast : OnLine line last) {count : Nat} (hcount : Loggable count) (style : IndentStyle) :
    (∃ fault, (op.operate ⟨⟨row, first⟩, ⟨row, last⟩⟩ lines count style).value = .error fault) ↔
      op.TooLarge (Slice.between line first (last + 1)) count style := by
  cases hop : op.hasRange with
  | true =>
    have hrow : Loggable row := hfits.loggable_row hat
    have hnumbers : ∀ n ∈ operateNumbers ⟨⟨row, first⟩, ⟨row, last⟩⟩ count, Loggable n.natAbs := by
      simp only [operateNumbers, List.forall_mem_cons, List.not_mem_nil, false_implies, implies_true,
        and_true]
      exact ⟨hrow, hfits.loggable_column hat hfirst, hrow, hfits.loggable_column hat hlast, hcount⟩
    rw [value_operate_loggable hop, if_pos hnumbers]
    exact op.onRange_error_iff hat first last count style
  | false =>
    rw [value_operate, if_neg (Bool.eq_false_iff.1 hop)]
    refine iff_of_false (not_exists_error_ok _) ?_
    cases op <;> first | exact id | cases hop

private theorem Operator.operateLines_error_iff (op : Operator) {column count : Nat} (hcolumn : column ≤ line.length)
    (hcount : Loggable count) (style : IndentStyle) :
    (∃ fault, (op.operateLines ⟨row, column⟩ lines count style).value = .error fault) ↔
      op.TooLarge line count style := by
  have hon : OnLine line (column : Int) := ⟨Int.natCast_nonneg column, Int.ofNat_le.2 hcolumn⟩
  have hcut (keepIndent : Bool) : ¬∃ fault,
      ((Fields.written [("line".toList, .integer row), ("count".toList, .integer count)]).bind fun _ =>
        some <$> cutLines keepIndent ⟨row, column⟩ lines count) = .error fault := by
    have hwritten : ∃ texts,
        Fields.written [("line".toList, .integer row), ("count".toList, .integer count)] = .ok texts := by
      apply Fields.written_of_brief
      intro entry hentry
      simp only [List.mem_cons, List.not_mem_nil, or_false] at hentry
      rcases hentry with rfl | rfl
      · exact hfits.loggable_row hat
      · exact hcount
    obtain ⟨texts, htexts⟩ := hwritten
    obtain ⟨last, stop, -, -, -, hrange⟩ := linewiseRange_row hat column count
    rw [htexts, cutLines, hrange]
    cases keepIndent <;> exact not_exists_error_ok _
  rw [value_operateLines op count style (hasLine_of_getElem? hat)]
  -- whole lines are cut out without looking at their columns; the others work on one range of the row
  cases op with
  | delete => exact iff_of_false (hcut false) id
  | change => exact iff_of_false (hcut true) id
  | yank =>
    have hzero : OnLine line 0 := ⟨Int.le_refl 0, Int.natCast_nonneg _⟩
    have hend : OnLine line (max 0 ((line.length : Int) - 1)) := by
      unfold OnLine
      omega
    have hyank := Operator.yank.operate_error_iff hfits hat hzero hend hcount {}
    rw [between_whole] at hyank
    simp only [wholeLine, lineOf_of_getElem? hat]
    exact hyank
  | indent => exact Operator.indent.operate_error_iff hfits hat hon hon hcount style
  | dedent => exact Operator.dedent.operate_error_iff hfits hat hon hon hcount style
  | paste => exact iff_of_false (not_exists_error_ok _) id
  | pasteBefore => exact iff_of_false (not_exists_error_ok _) id
  | join => exact iff_of_false (not_exists_error_ok _) id

end

/-! ### Commands -/

/-- Whether the target of a command is found at a place. -/
def Command.Finds (c : Command) (p : Position) (lines : List Text) : Prop :=
  ∃ target range, c.target = some target ∧
    target.range? c.times p (lineOf lines p.line) = .ok (some range)

/-- What is too large for a command at a place: the copies that it pastes, or what its operator makes of the
cursor's line, as often as the command says, or of its target, once. -/
def Command.TooLarge (c : Command) (registers : RegisterBank) (style : IndentStyle) (p : Position)
    (lines : List Text) : Prop :=
  match c.operator with
  | none => False
  | some .paste | some .pasteBefore =>
    let value := registers.get (RegisterBank.nameOr c.register)
    value.text ≠ [] ∧ (sizeLimit ≤ c.times ∨
      value.linewise = false ∧ 1 < c.times ∧ sizeLimit ≤ c.times * value.text.length)
  | some op =>
    if c.linewise = true then op.TooLarge (lineOf lines p.line) c.times style
    else c.Finds p lines ∧ op.TooLarge [] 1 style

section

variable {c : Command} {op : Operator} {registers : RegisterBank} {style : IndentStyle} {p : Position}
  {lines : List Text}

private theorem Operator.tooLarge_one_iff (op : Operator) (piece other : Text) :
    op.TooLarge piece 1 style ↔ op.TooLarge other 1 style := by
  cases op <;> simp [TooLarge]

private theorem Command.tooLarge_iff (hop : c.operator = some op) (htakes : op.takesTarget = true) :
    c.TooLarge registers style p lines ↔
      if c.linewise = true then op.TooLarge (lineOf lines p.line) c.times style
      else c.Finds p lines ∧ op.TooLarge [] 1 style := by
  rw [TooLarge, hop]
  cases op <;> first | exact Iff.rfl | cases htakes

private theorem Command.tooLarge_paste_iff (hop : c.operator = some op) (hput : op = .paste ∨ op = .pasteBefore) :
    let value := registers.get (RegisterBank.nameOr c.register)
    c.TooLarge registers style p lines ↔ value.text ≠ [] ∧ (sizeLimit ≤ c.times ∨
      value.linewise = false ∧ 1 < c.times ∧ sizeLimit ≤ c.times * value.text.length) := by
  rw [TooLarge, hop]
  rcases hput with rfl | rfl <;> exact Iff.rfl

end

/-- What the edit of a command can be at a place of a row, and what is too large for it there. It is found or
declined at once, or a text is put in, or an operator makes it, of a range in the row or of whole lines from the
row down. -/
inductive Command.Located (c : Command) (registers : RegisterBank) (style : IndentStyle) (lines : List Text)
    (row column : Nat) (line : Text) : Except Fault (Option Edit) → Prop
  | found (edit : Option Edit) (hlarge : ¬c.TooLarge registers style ⟨row, column⟩ lines) :
    Located c registers style lines row column line (.ok edit)
  | put (text : Text) (before linewise : Bool)
    (hlarge : c.TooLarge registers style ⟨row, column⟩ lines ↔ text ≠ [] ∧ (sizeLimit ≤ c.times ∨
      linewise = false ∧ 1 < c.times ∧ sizeLimit ≤ c.times * text.length)) :
    Located c registers style lines row column line
      (pasteText text ⟨row, column⟩ lines before linewise c.times)
  | onRange (op : Operator) {first last : Int} (hfirst : OnLine line first) (hlast : OnLine line last)
    {count : Nat} (hcount : count = 1 ∨ count = c.times)
    (hlarge : c.TooLarge registers style ⟨row, column⟩ lines ↔
      op.TooLarge (Slice.between line first (last + 1)) count style) :
    Located c registers style lines row column line
      (op.operate ⟨⟨row, first⟩, ⟨row, last⟩⟩ lines count style).value
  | onLines (op : Operator)
    (hlarge : c.TooLarge registers style ⟨row, column⟩ lines ↔ op.TooLarge line c.times style) :
    Located c registers style lines row column line
      (op.operateLines ⟨row, column⟩ lines c.times style).value

section

variable {c : Command} {lines : List Text} {row column : Nat} {line : Text}

private theorem Target.range?_total {target : Target} (hkeys : target ≠ .motion []) (times : Nat)
    (hcolumn : column ≤ line.length) :
    ∃ found, target.range? times ⟨row, column⟩ line = .ok found := by
  cases target with
  | motion keys =>
    have hon : OnLine line (⟨row, column⟩ : Position).column :=
      ⟨Int.natCast_nonneg column, Int.ofNat_le.2 hcolumn⟩
    obtain ⟨found, hfound⟩ := Motion.reachTimes_total times (fun h => hkeys (congrArg _ h)) hon
    exact ⟨_, by rw [range?, hfound]; rfl⟩
  | object o => exact ⟨_, rfl⟩

private theorem Command.onMotion_none_total {keys : Text} (hkeys : keys ≠ []) (times : Nat)
    (hat : lines[row]? = some line) (hcolumn : column ≤ line.length) (style : IndentStyle) :
    ∃ edit, (onMotion none keys times ⟨row, column⟩ lines style).value = .ok edit := by
  have hline : lineOf lines (⟨row, column⟩ : Position).line = line := lineOf_of_getElem? hat
  have hon : OnLine line (⟨row, column⟩ : Position).column :=
    ⟨Int.natCast_nonneg column, Int.ofNat_le.2 hcolumn⟩
  obtain ⟨found, hfound⟩ := Motion.reachTimes_total times hkeys hon
  simp only [onMotion, hline, Logged.value_bind, Motion.value_reportedTimes, hfound]
  cases found with
  | none => exact ⟨none, rfl⟩
  | some range => exact ⟨_, rfl⟩

private theorem Command.located_of_target {op : Operator} {target : Target} (hop : c.operator = some op)
    (htakes : op.takesTarget = true) (hline : c.linewise = false) (htarget : c.target = some target)
    (hkeys : target ≠ .motion []) (hat : lines[row]? = some line) (hcolumn : column ≤ line.length)
    (registers : RegisterBank) (style : IndentStyle) :
    c.Located registers style lines row column line (c.edit registers style ⟨row, column⟩ lines).value := by
  have hat' : lineOf lines (⟨row, column⟩ : Position).line = line := lineOf_of_getElem? hat
  have hlarge : c.TooLarge registers style ⟨row, column⟩ lines ↔
      c.Finds ⟨row, column⟩ lines ∧ op.TooLarge [] 1 style := by
    rw [tooLarge_iff hop htakes, if_neg (by simp [hline])]
  obtain ⟨found, hfound⟩ := Target.range?_total hkeys c.times hcolumn
  rw [value_edit_target hop htakes hline htarget, hat', hfound]
  cases found with
  | none =>
    refine .found none fun h => ?_
    obtain ⟨⟨other, range, hother, hrange⟩, -⟩ := hlarge.1 h
    rw [htarget] at hother
    cases hother
    rw [hat', hfound] at hrange
    cases hrange
  | some range =>
    have hfinds : c.Finds ⟨row, column⟩ lines := ⟨target, range, htarget, by rw [hat', hfound]⟩
    obtain ⟨first, last, hfirst, hlast, -, rfl⟩ := Target.range?_onLine hcolumn hfound
    refine .onRange op hfirst hlast (.inl rfl) ?_
    rw [hlarge, and_iff_right hfinds]
    exact op.tooLarge_one_iff _ _

end

theorem Command.edit_located {c : Command} {lines : List Text} {p : Position} (hinside : Inside lines p)
    (hmotion : c.motion? ≠ some []) (registers : RegisterBank) (style : IndentStyle) :
    ∃ (row column : Nat) (line : Text), p = ⟨row, column⟩ ∧ lines[row]? = some line ∧
      column ≤ line.length ∧
      c.Located registers style lines row column line (c.edit registers style p lines).value := by
  obtain ⟨row, column, line, rfl, hat, hcolumn⟩ := hinside
  refine ⟨row, column, line, rfl, hat, hcolumn, ?_⟩
  have hat' : lineOf lines (⟨row, column⟩ : Position).line = line := lineOf_of_getElem? hat
  have hkeys {target : Target} (htarget : c.target = some target) : target ≠ .motion [] := by
    rintro rfl
    exact hmotion (by rw [motion?, htarget])
  -- the cases of an edit: a motion alone, an operator at the cursor, whole lines, a target
  cases hop : c.operator with
  | none =>
    have hlarge : ¬c.TooLarge registers style ⟨row, column⟩ lines := by
      rw [TooLarge, hop]
      exact id
    cases hkeys' : c.motion? with
    | none =>
      rw [edit_idle hop hkeys']
      exact .found none hlarge
    | some keys =>
      have htarget : c.target = some (.motion keys) := by
        unfold motion? at hkeys'
        split at hkeys' <;> simp_all
      have hsome : keys ≠ [] := fun h => hmotion (hkeys'.trans (congrArg some h))
      obtain ⟨edit, hedit⟩ := onMotion_none_total hsome c.times hat hcolumn style
      rw [edit_motion_none hop htarget, hedit]
      exact .found edit hlarge
  | some op =>
    cases htakes : op.takesTarget with
    | false =>
      have hput : op = .join ∨ op = .paste ∨ op = .pasteBefore := by
        cases op <;> simp [Operator.takesTarget] at htakes ⊢
      rcases hput with rfl | hput
      · have hon : OnLine line (column : Int) := ⟨Int.natCast_nonneg column, Int.ofNat_le.2 hcolumn⟩
        rw [edit_join hop]
        refine .onRange .join hon hon (.inr rfl) ?_
        simp [TooLarge, hop, Operator.TooLarge]
      · rw [edit_paste hop hput]
        exact .put _ _ _ (tooLarge_paste_iff hop hput)
    | true =>
      cases hline : c.linewise with
      | true =>
        rw [edit_linewise hop htakes hline]
        refine .onLines op ?_
        rw [tooLarge_iff hop htakes, if_pos hline, hat']
      | false =>
        cases htarget : c.target with
        | none =>
          rw [edit_pending (by simp [pending, hop, htakes, htarget])]
          refine .found none fun hlarge => ?_
          rw [tooLarge_iff hop htakes, if_neg (by simp [hline])] at hlarge
          obtain ⟨⟨target, range, hfound, -⟩, -⟩ := hlarge
          rw [htarget] at hfound
          cases hfound
        | some target =>
          exact located_of_target hop htakes hline htarget (hkeys htarget) hat hcolumn registers style

/-- From a place inside a buffer, a command whose count can be logged finds its edit or declines, unless
something is too large for it. -/
theorem Command.edit_error_iff {c : Command} {lines : List Text} {p : Position} (hinside : Inside lines p)
    (hfits : Fits lines) (htimes : Loggable c.times) (hmotion : c.motion? ≠ some [])
    (registers : RegisterBank) (style : IndentStyle) :
    (∃ fault, (c.edit registers style p lines).value = .error fault) ↔
      c.TooLarge registers style p lines := by
  obtain ⟨row, column, line, rfl, hat, hcolumn, hlocated⟩ := edit_located hinside hmotion registers style
  generalize (c.edit registers style ⟨row, column⟩ lines).value = edit at hlocated
  cases hlocated with
  | found edit hlarge => exact iff_of_false (not_exists_error_ok edit) hlarge
  | put text before linewise hlarge =>
    rw [hlarge]
    exact pasteText_error_iff hat text column before linewise c.times_pos
  | onRange op hfirst hlast hcount hlarge =>
    rw [hlarge]
    refine op.operate_error_iff hfits hat hfirst hlast ?_ style
    rcases hcount with rfl | rfl
    · exact loggable_one
    · exact htimes
  | onLines op hlarge =>
    rw [hlarge]
    exact op.operateLines_error_iff hfits hat hcolumn htimes style

end ModalEditor
