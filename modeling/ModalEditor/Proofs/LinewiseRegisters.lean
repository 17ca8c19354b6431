import ModalEditor.Proofs.RegisterHistory
/-!
# Whole lines in registers

A doubled delete, change or yank puts whole lines into a register. Under the unnamed register's mark, a
lowercase letter or a digit they stay whole lines, and a paste puts them below the cursor, unless they are a
single empty line. In upper case they go behind what is there as plain text: an unset register does not
learn that they are lines, and in a register of lines the first of them runs on from the last line that was
there.
-/
namespace ModalEditor

variable {τ : Type}

/-! ### Counting lines -/

namespace Text

private theorem length_lines_cons (c : Char) (rest : Text) :
    (lines (c :: rest)).length = (lines rest).length + if c = '\n' then 1 else 0 := by
  by_cases h : c = '\n'
  · simp [lines, h]
  · simp only [lines, h, if_false, Nat.add_zero]
    cases hl : lines rest with
    | nil => exact absurd hl (lines_ne_nil rest)
    | cons first others => rfl

private theorem length_lines_append (front back : Text) :
    (lines (front ++ back)).length + 1 = (lines front).length + (lines back).length := by
  induction front with
  | nil =>
    rw [List.nil_append, lines, List.length_singleton]
    omega
  | cons c rest ih =>
    rw [List.cons_append, length_lines_cons, length_lines_cons]
    omega

private theorem unlines_eq_nil_iff {rows : List Text} (hne : rows ≠ []) (h : SingleLines rows) :
    unlines rows = [] ↔ rows = [[]] := by
  constructor
  · intro hnone
    rw [← lines_unlines hne h, hnone, lines]
  · rintro rfl
    rfl

end Text

/-! ### What goes into the register -/

def Command.doubled (op : Operator) (count : Option Count) (register : Option Text) : Command :=
  ⟨some op, some (.motion [op.key, op.key]), count, register⟩

/-- The rows that a doubled operator puts into a register: copies of the line that it yanks, or the lines
that it takes out. -/
def Operator.keptRows (op : Operator) (count row : Nat) (lines : List Text) : List Text :=
  if op = .yank then List.replicate count (lineOf lines row) else (lines.drop row).take count

section

variable {lines : List Text} {row count : Nat} {line : Text} {op : Operator}

private theorem Operator.keptRows_single (op : Operator) (hl : SingleLines lines)
    (hat : lines[row]? = some line) (count : Nat) : SingleLines (op.keptRows count row lines) := by
  unfold keptRows
  split
  · intro kept hkept
    rw [lineOf_of_getElem? hat] at hkept
    rw [(List.mem_replicate.1 hkept).2]
    exact hl.of_getElem? hat
  · exact (hl.drop row).take count

private theorem Operator.keptRows_ne_nil (op : Operator) (hat : lines[row]? = some line) (hcount : 0 < count) :
    op.keptRows count row lines ≠ [] := by
  have hlt : row < lines.length := (List.getElem?_eq_some_iff.1 hat).1
  apply List.ne_nil_of_length_pos
  unfold keptRows
  split
  · rwa [List.length_replicate]
  · rw [List.length_take, List.length_drop]
    omega

private theorem Operator.eq_of_keepsText (h : op.keepsText = true) : op = .delete ∨ op = .change ∨ op = .yank := by
  cases op <;> simp [keepsText] at h ⊢

private theorem Command.edit_doubled (hop : op.keepsText = true) (count : Option Count) (register : Option Text)
    (registers : RegisterBank) (style : IndentStyle) (p : Position) (lines : List Text) :
    (doubled op count register).edit registers style p lines =
      op.operateLines p lines (doubled op count register).times style := by
  rcases Operator.eq_of_keepsText hop with rfl | rfl | rfl <;> rfl

private theorem Command.linewise_doubled (hop : op.keepsText = true) (count : Option Count)
    (register : Option Text) : (doubled op count register).linewise = true := by
  rcases Operator.eq_of_keepsText hop with rfl | rfl | rfl <;> rfl

private theorem cutLines_taken (hat : lines[row]? = some line) (hcount : 0 < count) {keepIndent : Bool}
    {column : Int} {edit : Edit} (h : cutLines keepIndent ⟨row, column⟩ lines count = .ok edit) :
    edit.taken = Text.unlines ((lines.drop row).take count) := by
  obtain ⟨last, stop, -, -, hnext, hrange⟩ := linewiseRange_row hat column count
  have hcounted : (max (count : Int) 1).toNat = count := by omega
  rw [hcounted] at hnext
  have hnextInt : ((last : Int) + 1).toNat = row + min count (lines.length - row) := by omega
  have hremoved : (lines.take (row + min count (lines.length - row))).drop row =
      (lines.drop row).take count := by
    rw [List.drop_take, Nat.add_sub_cancel_left, ← List.length_drop, List.take_eq_take_iff]
    omega
  simp only [cutLines, hrange, bind, Except.bind, pure, Except.pure, Int.toNat_natCast, hnextInt,
    hremoved] at h
  split at h
  · cases h
    rfl
  · cases h
    rfl

private theorem yankRange_wholeLine_taken (hat : lines[row]? = some line) (hcount : 0 < count) {edit : Edit}
    (h : yankRange (wholeLine lines row) lines count = .ok (some edit)) :
    edit.taken = Text.unlines (List.replicate count line) := by
  rw [wholeLine, lineOf_of_getElem? hat, yankRange_row hat, between_whole] at h
  obtain ⟨taken, htaken, hedit⟩ := map_eq_ok_iff.1 h
  cases hedit
  split at htaken
  · exact Text.eq_of_copyLines htaken
  · have hone : count = 1 := by omega
    subst hone
    cases htaken
    simp [Text.unlines, List.intercalate]

private theorem Operator.operateLines_taken (hkeeps : op.keepsText = true) (hat : lines[row]? = some line)
    (hcount : 0 < count) {column : Int} {style : IndentStyle} {edit : Edit}
    (h : (op.operateLines ⟨row, column⟩ lines count style).value = .ok (some edit)) :
    edit.taken = Text.unlines (op.keptRows count row lines) := by
  rw [op.value_operateLines _ _ (hasLine_of_getElem? hat)] at h
  have hcut {keepIndent : Bool} {fields : Fields Value} (hop : op ≠ .yank)
      (hfound : (fields.written.bind fun _ =>
        some <$> cutLines keepIndent ⟨row, column⟩ lines count) = .ok (some edit)) :
      edit.taken = Text.unlines (op.keptRows count row lines) := by
    obtain ⟨_, -, hfound⟩ := bind_eq_ok_iff.1 hfound
    cases hcut : cutLines keepIndent ⟨row, column⟩ lines count with
    | error fault =>
      rw [hcut] at hfound
      cases hfound
    | ok found =>
      rw [hcut] at hfound
      cases hfound
      rw [cutLines_taken hat hcount hcut, keptRows, if_neg hop]
  rcases eq_of_keepsText hkeeps with rfl | rfl | rfl
  · exact hcut (by decide) h
  · exact hcut (by decide) h
  · have hyank : (Operator.yank.operate (wholeLine lines row) lines count {}).value = .ok (some edit) := h
    rw [Operator.value_operate, if_pos (show Operator.yank.hasRange = true from rfl)] at hyank
    obtain ⟨_, -, hfound⟩ := bind_eq_ok_iff.1 hyank
    rw [yankRange_wholeLine_taken hat hcount hfound, keptRows, if_pos rfl, lineOf_of_getElem? hat]

end

/-! ### What a paste makes of it -/

section

variable {lines : List Text} {row : Nat} {line : Text}

private theorem pasteOnce_lines_iff (hat : lines[row]? = some line) (column : Int) {text : Text}
    {rows : List Text} (hsingle : SingleLines rows) (hsome : rows ≠ []) :
    ((pasteOnce text ⟨row, column⟩ lines false true).map Edit.lines).getD lines =
        lines.take (row + 1) ++ rows ++ lines.drop (row + 1) ↔
      text = Text.unlines rows ∧ text ≠ [] := by
  have hlt : row < lines.length := (List.getElem?_eq_some_iff.1 hat).1
  by_cases htext : text = []
  · -- nothing is pasted, and then the rows are missing
    rw [pasteOnce, if_pos (.inl htext)]
    refine iff_of_false ?_ fun h => h.2 htext
    intro hsame
    have hlength := congrArg List.length hsame
    have hpos := List.length_pos_iff.2 hsome
    simp only [Option.map_none, Option.getD_none, List.length_append, List.length_take,
      List.length_drop] at hlength
    omega
  · rw [pasteOnce, if_neg (not_or.2 ⟨htext, by simp [hasLine_of_getElem? hat]⟩), if_pos rfl]
    simp only [pasteLines, Option.map_some, Option.getD_some, Int.toNat_natCast,
      Bool.false_eq_true, if_false, List.append_cancel_right_eq, List.append_cancel_left_eq]
    constructor
    · intro hrows
      rw [← hrows, Text.unlines_lines]
      exact ⟨rfl, htext⟩
    · rintro ⟨rfl, -⟩
      exact Text.lines_unlines hsome hsingle

private theorem pasteOnce_inside_ne (hl : SingleLines lines) (hat : lines[row]? = some line) (column : Int)
    {rows : List Text} (hsingle : SingleLines rows) (hsome : rows ≠ []) :
    ((pasteOnce (Text.unlines rows) ⟨row, column⟩ lines false false).map Edit.lines).getD lines ≠
      lines.take (row + 1) ++ rows ++ lines.drop (row + 1) := by
  have hlt : row < lines.length := (List.getElem?_eq_some_iff.1 hat).1
  have hpos := List.length_pos_iff.2 hsome
  have hbreak : '\n' ∉ line := hl.of_getElem? hat
  -- the two parts of the cut line hold no break
  have hpieces (cut : Int) : (Text.lines (Slice.before line cut ++ Text.unlines rows ++
      Slice.after line cut)).length = rows.length := by
    have hbefore : Text.lines (Slice.before line cut) = [Slice.before line cut] :=
      Text.lines_of_no_break fun h => hbreak (Slice.mem_of_mem_before h)
    have hafter : Text.lines (Slice.after line cut) = [Slice.after line cut] :=
      Text.lines_of_no_break fun h => hbreak (Slice.mem_of_mem_after h)
    have hfront := Text.length_lines_append (Slice.before line cut) (Text.unlines rows)
    have hwhole := Text.length_lines_append (Slice.before line cut ++ Text.unlines rows)
      (Slice.after line cut)
    rw [Text.lines_unlines hsome hsingle, hbefore, List.length_singleton] at hfront
    rw [hafter, List.length_singleton] at hwhole
    omega
  intro hsame
  have hlength := congrArg List.length hsame
  rw [List.length_append, List.length_append, List.length_take, List.length_drop] at hlength
  by_cases htext : Text.unlines rows = []
  · rw [pasteOnce, if_pos (.inl htext), Option.map_none, Option.getD_none] at hlength
    omega
  · rw [pasteOnce, if_neg (not_or.2 ⟨htext, by simp [hasLine_of_getElem? hat]⟩),
      if_neg Bool.false_ne_true] at hlength
    simp only [pasteInside, lineOf_of_getElem? hat, Option.map_some, Option.getD_some,
      Int.toNat_natCast, List.length_append, List.length_take, List.length_drop, hpieces] at hlength
    omega

end

/-! ### Doubled operators and the paste behind them -/

namespace RegisterBank

/-- The rows that a write under a name leaves in front of its own: in upper case what the register holds. -/
def rowsBefore (bank : RegisterBank) (name : Char) : List Text :=
  if name.isUpper = true then ((bank.find? [name]).map fun held => Text.lines held.text).getD [] else []

private theorem get_of_store_lines {bank after : RegisterBank} {name : Option Char} {text : Text}
    (hname : ∀ c ∈ name, isEverydayName c = true)
    (h : bank.store (name.map fun c => [c]) ⟨text, .line⟩ = .ok after) :
    after.get [name.getD unnamed] = after.get [unnamed] ∧
      after.get [unnamed] =
        if (name.getD unnamed).isUpper = true then (bank.get [name.getD unnamed]).extend text
        else ⟨text, .line⟩ := by
  have hc : isEverydayName (name.getD unnamed) = true := by
    cases name with
    | none => decide
    | some c => exact hname c rfl
  have hstore : bank.set [name.getD unnamed] ⟨text, .line⟩ = .ok after := by
    cases name with
    | none => exact h
    | some c => exact h
  have hunnamed : Text.lower [unnamed] = [unnamed] := by decide
  rw [set_everyday bank hc] at hstore
  have hget := bank.get_congr (lower_toLower hc)
  rw [← Except.ok.inj hstore, get_write, get_write, if_pos (Or.inl (lower_everyday hc)),
    if_pos (Or.inr hunnamed), hget]
  exact ⟨rfl, rfl⟩

private theorem kind_behind_lines {bank : RegisterBank} {r : Char} (text : Text)
    (hheld : ∀ v ∈ bank.find? [r], r.isUpper = true → v.kind = .line) :
    (if r.isUpper = true then (bank.get [r]).extend text else ⟨text, .line⟩ : RegisterValue).kind = .line ↔
      ¬(r.isUpper = true ∧ bank.find? [r] = none) := by
  by_cases hup : r.isUpper = true
  · rw [if_pos hup, get]
    cases hfind : bank.find? [r] with
    | none => simp [hup, RegisterValue.extend]
    | some v => simpa [RegisterValue.extend] using hheld v hfind hup
  · simp [hup]

/-- What a paste makes of rows that were written under a name: they come back behind the rows before them
unless they went behind those in upper case, or are one empty row. -/
theorem paste_behind_lines_iff {bank : RegisterBank} {r : Char} {rows lines : List Text} {row : Nat}
    {line : Text} (hl : SingleLines lines) (hat : lines[row]? = some line) (column : Int)
    (hsingle : SingleLines rows) (hsome : rows ≠ [])
    (hheld : ∀ v ∈ bank.find? [r], r.isUpper = true → v.kind = .line) :
    let value : RegisterValue :=
      if r.isUpper = true then (bank.get [r]).extend (Text.unlines rows) else ⟨Text.unlines rows, .line⟩
    ((pasteOnce value.text ⟨row, column⟩ lines false value.linewise).map Edit.lines).getD lines =
        lines.take (row + 1) ++ (bank.rowsBefore r ++ rows) ++ lines.drop (row + 1) ↔
      r.isUpper = false ∧ rows ≠ [[]] := by
  intro value
  by_cases hup : r.isUpper = true
  · refine iff_of_false ?_ (by simp [hup])
    simp only [value, if_pos hup, rowsBefore, get]
    cases hfind : bank.find? [r] with
    | none => exact pasteOnce_inside_ne hl hat column hsingle hsome
    | some v =>
      have hkind : ((some v).getD {} : RegisterValue).linewise = true := decide_eq_true (hheld v hfind hup)
      have hwhole : SingleLines (Text.lines v.text ++ rows) := (SingleLines.of_lines v.text).append hsingle
      have hne : Text.lines v.text ++ rows ≠ [] := by simp
      intro hsame
      have htext := ((pasteOnce_lines_iff hat column hwhole hne).1 (by
        rw [← hkind]
        exact hsame)).1
      -- one row is missing where the two texts meet
      have hcount := Text.length_lines_append v.text (Text.unlines rows)
      have hrows := congrArg (fun t => (Text.lines t).length) htext
      simp only [RegisterValue.extend, Option.getD_some] at hrows
      rw [Text.lines_unlines hne hwhole, List.length_append] at hrows
      rw [Text.lines_unlines hsome hsingle] at hcount
      omega
  · simp only [value, if_neg hup, rowsBefore, List.nil_append]
    refine (pasteOnce_lines_iff hat column hsingle hsome).trans ?_
    simp [hup, Text.unlines_eq_nil_iff hsome hsingle]

end RegisterBank

namespace Engine

variable {e after : Engine τ} {op : Operator} {count : Option Count} {name : Option Char}
  {lines : List Text} {cursor : Option Position} {o : Outcome}

private theorem store_of_execute_doubled (hop : op.keepsText = true) {row column : Nat} {line : Text}
    {register : Option Text} (hat : lines[row]? = some line)
    (hcursor : cursor.getD e.session.position = ⟨row, column⟩)
    (h : (e.execute (.doubled op count register) lines cursor).value = (after, .ok o))
    (hdone : o.noop = false) :
    e.session.registers.store register
      ⟨Text.unlines (op.keptRows (Command.doubled op count register).times row lines), .line⟩ =
        .ok after.session.registers := by
  have hbusy : o ≠ (Command.doubled op count register).idleOutcome lines
      (cursor.getD e.session.position) := by
    rintro rfl
    cases hdone
  obtain ⟨edit, -, hedit, rfl, htook, -⟩ := execute_done h hbusy
  have hline := Command.linewise_doubled hop count register
  rw [hcursor, Command.edit_doubled hop] at hedit
  have htaken := Operator.operateLines_taken hop hat (Command.times_pos _) hedit
  have hkeeps : some op ∈ [some Operator.delete, some .change, some .yank] := by
    simpa using Operator.eq_of_keepsText hop
  have hstored := htook.registers
  rw [if_pos ⟨hkeeps, Or.inr hline⟩, hline] at hstored
  rw [← htaken]
  exact hstored

/-- Rows that were put into a register by a doubled operator. The register and the unnamed one hold lines
unless the rows went behind nothing in upper case. A paste from the register finds its text; what is put below
the cursor's line are the rows that were held before and the new ones exactly if the name is not in upper
case and the new ones are not a single empty row. -/
theorem doubled_paste_iff (hop : op.keepsText = true) (hname : ∀ c ∈ name, isEverydayName c = true)
    (hl : ∀ line ∈ lines, '\n' ∉ line)
    (hheld : ∀ v ∈ e.session.registers.find? [name.getD unnamed],
      (name.getD unnamed).isUpper = true → v.kind = .line)
    (h : (e.execute (.doubled op count (name.map fun c => [c])) lines cursor).value = (after, .ok o))
    (hdone : o.noop = false) :
    let register := name.getD unnamed
    let row := (cursor.getD e.session.position).line.toNat
    let rows := op.keptRows ((count.map Count.val).getD 1) row lines
    ((after.session.registers.get [register]).kind = .line ∧
        (after.session.registers.get [unnamed]).kind = .line ↔
      ¬(register.isUpper = true ∧ e.session.registers.find? [register] = none)) ∧
    ∀ (others : List Text) (p : Position), (∀ line ∈ others, '\n' ∉ line) → Inside others p →
      ∃ back, (after.execute { operator := some .paste, register := name.map fun c => [c] } others
          (some p)).value.2 = .ok back ∧
        (back.lines = others.take (p.line.toNat + 1) ++
            (e.session.registers.rowsBefore register ++ rows) ++ others.drop (p.line.toNat + 1) ↔
          register.isUpper = false ∧ rows ≠ [[]]) := by
  intro register row rows
  have hbusy : o ≠ (Command.doubled op count (name.map fun c => [c])).idleOutcome lines
      (cursor.getD e.session.position) := by
    rintro rfl
    cases hdone
  obtain ⟨-, ⟨row', column, line, hcursor, hat, -⟩, -⟩ := execute_done h hbusy
  have hrow : row = row' := by simp [row, hcursor]
  rw [← hrow] at hat hcursor
  -- what is pasted later depends on this write alone
  have hstored := store_of_execute_doubled hop hat hcursor h hdone
  obtain ⟨hsame, hunnamed⟩ := RegisterBank.get_of_store_lines hname hstored
  have hsingle : SingleLines rows := op.keptRows_single hl hat _
  have hsome : rows ≠ [] := op.keptRows_ne_nil hat (Command.times_pos (.doubled op count none))
  constructor
  · rw [hsame, and_self, hunnamed]
    exact RegisterBank.kind_behind_lines _ hheld
  · rintro others p hothers ⟨row, column, line, rfl, hat, hcolumn⟩
    obtain ⟨back, hback, hlines⟩ := after.execute_pasteFrom .paste (name.map fun c => [c])
      (some ⟨row, column⟩) (by decide) rfl ⟨row, column, line, rfl, hat, hcolumn⟩
    have hnamed : RegisterBank.nameOr (name.map fun c => [c]) = [register] := by
      cases name <;> rfl
    refine ⟨back, hback, ?_⟩
    rw [hlines, hnamed, hsame, hunnamed]
    exact RegisterBank.paste_behind_lines_iff hothers hat column hsingle hsome hheld

/-- In lower case a deleted line comes back below the other one. -/
theorem doubled_paste_iff_lower :
    let cut := ((Engine.start {} 3 0 none : Engine Nat).execute (.doubled .delete none (some ['a']))
      [['a'], ['b']] none).value
    ∃ o back, cut.2 = .ok o ∧ (cut.1.session.registers.get ['a']).kind = .line ∧
      (cut.1.execute { operator := some .paste, register := some ['a'] } o.lines (some ⟨0, 0⟩)).value.2 =
        .ok back ∧
      back.lines = [['b'], ['a']] := by
  intro cut
  have hname : ∀ c ∈ some 'a', isEverydayName c = true := by
    rintro c ⟨⟩
    decide
  have hheld : ∀ v ∈ (Engine.start {} 3 0 none : Engine Nat).session.registers.find? ['a'],
      'a'.isUpper = true → v.kind = .line := fun v _ hupper => nomatch hupper
  obtain ⟨hkind, hpaste⟩ := @doubled_paste_iff Nat (Engine.start {} 3 0 none) cut.1 .delete none (some 'a')
    [['a'], ['b']] none ⟨_, [['b']], ⟨0, 0⟩, ['a'], some ['a'], false⟩ rfl hname (by decide) hheld rfl rfl
  obtain ⟨back, hback, hlines⟩ := hpaste [['b']] ⟨0, 0⟩ (by decide) ⟨0, 0, ['b'], rfl, rfl, by decide⟩
  exact ⟨_, back, rfl, (hkind.2 (by decide)).1, hback, hlines.2 (by decide)⟩

/-- In upper case the register does not learn that it holds a line, and the line comes back inside the other
one. -/
theorem doubled_upper_inside :
    let cut := ((Engine.start {} 3 0 none : Engine Nat).execute (.doubled .delete none (some ['A']))
      [['a'], ['b']] none).value
    ∃ o back, cut.2 = .ok o ∧ o.noop = false ∧ (cut.1.session.registers.get ['A']).kind = .character ∧
      (cut.1.execute { operator := some .paste, register := some ['A'] } o.lines none).value.2 =
        .ok back ∧
      back.lines ≠ [['b'], ['a']] :=
  ⟨_, _, rfl, rfl, by decide, rfl, by decide⟩

end Engine

end ModalEditor
