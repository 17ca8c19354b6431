import ModalEditor.Proofs.Totality
/-!
# Putting a deleted range back

A delete takes a range out and leaves one line at its place, with the cursor at the seam. Put in at the
cursor, the text that it took gives the buffer back, whether the range lies on one line or runs over several
ones. A yank takes the same text and leaves the buffer alone. Only numbers that the log cannot hold keep the
two from answering.
-/
namespace ModalEditor

/-- The lines with a text put in at a position. Each line break of the text cuts the line. -/
def reinsert (lines : List Text) (p : Position) (text : Text) : List Text :=
  let line := lineOf lines p.line
  lines.take p.line.toNat ++
    Text.lines (Slice.before line p.column ++ text ++ Slice.after line p.column) ++
    lines.drop (p.line.toNat + 1)

section

variable {lines : List Text} {range : Range} {row next : Nat} {first last : Text}

private theorem extract_rows (hfirst : lines[row]? = some first) (hlast : lines[next]? = some last)
    {column stop : Nat} (hstart : range.start = ⟨row, column⟩) (hnext : lastLine range lines = next)
    (hstop : range.stop.column + 1 = stop) (horder : row < next ∨ row = next ∧ column ≤ stop) :
    ∃ taken, extract range lines = .ok taken ∧
      first.take column ++ taken ++ last.drop stop =
        Text.unlines ((lines.take (next + 1)).drop row) := by
  simp only [extract, hstart, hnext, hstop, Slice.entry?_natCast, hfirst, hlast, Fault.unless_some,
    bind, Except.bind]
  -- on several rows the range takes the end of the first and the front of the last, on one row a piece of it
  rcases horder with hlt | ⟨rfl, hle⟩
  · have hrows : (row : Int) ≠ next := by omega
    have hinner : Slice.between lines ((row : Int) + 1) next = (lines.take next).drop (row + 1) :=
      Slice.between_natCast lines (row + 1) next
    rw [if_neg hrows, hinner, Slice.after_natCast, Slice.before_natCast]
    refine ⟨_, rfl, ?_⟩
    have hhead := Text.unlines_append_unlines [] (first.take column) (first.drop column)
      ((lines.take next).drop (row + 1) ++ [last.take stop])
    have htail := Text.unlines_append_unlines (first :: (lines.take next).drop (row + 1))
      (last.take stop) (last.drop stop) []
    simp only [List.nil_append, Text.unlines_singleton, List.take_append_drop] at hhead htail
    rw [List.cons_append, hhead, ← List.cons_append, htail, drop_take_ends hlt hfirst hlast]
  · have hsame : first = last := Option.some.inj (hfirst.symm.trans hlast)
    subst hsame
    obtain ⟨hrow, rfl⟩ := List.getElem?_eq_some_iff.1 hfirst
    rw [if_pos rfl, Slice.between_natCast]
    refine ⟨_, rfl, ?_⟩
    rw [take_append_piece_append_drop _ hle, drop_take_succ (Nat.le_refl row) hfirst,
      List.drop_of_length_le (List.length_take_le ..), List.nil_append, Text.unlines_singleton]

theorem deleteRange_of_extract (hfirst : lines[row]? = some first) (hlast : lines[next]? = some last)
    {column stop : Nat} (hstart : range.start = ⟨row, column⟩) (hnext : lastLine range lines = next)
    (hstop : range.stop.column + 1 = stop) (hle : row ≤ next) {taken : Text}
    (htaken : extract range lines = .ok taken) :
    deleteRange range lines =
      .ok (some ⟨lines.take row ++ [first.take column ++ last.drop stop] ++ lines.drop (next + 1), taken,
        range.start⟩) := by
  have hrow : row < lines.length := (List.getElem?_eq_some_iff.1 hfirst).1
  have hreplace := Slice.replace_natCast lines [first.take column ++ last.drop stop]
    (Nat.le_succ_of_le hle) (Nat.le_of_lt hrow)
  have hbelow : ((next + 1 : Nat) : Int) = next + 1 := rfl
  rw [deleteRange, htaken, hstart, hnext, hstop]
  simp only [hasLine_of_getElem? hfirst, Slice.entry?_natCast, hfirst, hlast, Slice.before_natCast,
    Slice.after_natCast]
  rw [← hreplace]
  rfl

private theorem yankRange_of_extract (hline : hasLine lines range.start.line = true) {taken : Text}
    (htaken : extract range lines = .ok taken) :
    yankRange range lines 1 = .ok (some ⟨lines, taken, range.start⟩) := by
  rw [yankRange, htaken, hline]
  rfl

theorem reinsert_seam (hrow : row ≤ lines.length) (head tail text : Text) :
    reinsert (lines.take row ++ [head ++ tail] ++ lines.drop next) ⟨row, head.length⟩ text =
      lines.take row ++ Text.lines (head ++ text ++ tail) ++ lines.drop next := by
  have hlength : (lines.take row).length = row := List.length_take_of_le hrow
  have hat : (lines.take row ++ [head ++ tail] ++ lines.drop next)[row]? = some (head ++ tail) :=
    getElem?_splice hrow rfl
  have hbefore : (lines.take row ++ [head ++ tail] ++ lines.drop next).take row = lines.take row := by
    rw [List.append_assoc, List.take_append_of_le_length (by omega), List.take_of_length_le (by omega)]
  have hbehind : (lines.take row ++ [head ++ tail] ++ lines.drop next).drop (row + 1) =
      lines.drop next := by
    rw [List.drop_append_of_le_length (by simp [hlength]), List.drop_of_length_le (by simp [hlength]),
      List.nil_append]
  simp only [reinsert, Int.toNat_natCast, lineOf_of_getElem? hat, hbefore, hbehind, Slice.before_natCast,
    Slice.after_natCast, List.take_left, List.drop_left]

theorem deleteRange_reinserts_rows (hl : SingleLines lines) (hfirst : lines[row]? = some first)
    (hlast : lines[next]? = some last) {column stop : Nat} (hstart : range.start = ⟨row, column⟩)
    (hnext : lastLine range lines = next) (hstop : range.stop.column + 1 = stop)
    (hinline : column ≤ first.length) (horder : row < next ∨ row = next ∧ column ≤ stop) :
    ∃ edit, deleteRange range lines = .ok (some edit) ∧ edit.cursor = range.start ∧
      reinsert edit.lines edit.cursor edit.taken = lines ∧
      yankRange range lines 1 = .ok (some ⟨lines, edit.taken, range.start⟩) := by
  have hrow : row < lines.length := (List.getElem?_eq_some_iff.1 hfirst).1
  obtain ⟨taken, htaken, hrows⟩ := extract_rows hfirst hlast hstart hnext hstop horder
  refine ⟨_, deleteRange_of_extract hfirst hlast hstart hnext hstop (by omega) htaken, rfl, ?_, ?_⟩
  · have hseam := @reinsert_seam lines row (next + 1) (Nat.le_of_lt hrow) (first.take column)
      (last.drop stop) taken
    have hblock : (lines.take (next + 1)).drop row ≠ [] := by
      intro hnone
      have hlength := congrArg List.length hnone
      rw [List.length_drop, List.length_take, List.length_nil] at hlength
      omega
    rw [List.length_take_of_le hinline, ← hstart, hrows,
      Text.lines_unlines hblock ((hl.take (next + 1)).drop row),
      take_append_piece_append_drop lines (by omega)] at hseam
    exact hseam
  · exact yankRange_of_extract (by rw [hstart]; exact hasLine_of_getElem? hfirst) htaken

/-- A delete of a range that lies inside the buffer from its first row to its last answers, and what it took
gives the buffer back. A yank takes the same. -/
theorem deleteRange_reinserts (hl : SingleLines lines) (hinside : Inside lines range.start)
    (horder : range.Ordered) (hend : range.stop.line < lines.length) (hcolumn : 0 ≤ range.stop.column) :
    ∃ edit, deleteRange range lines = .ok (some edit) ∧ edit.cursor = range.start ∧
      reinsert edit.lines edit.cursor edit.taken = lines ∧
      yankRange range lines 1 = .ok (some ⟨lines, edit.taken, range.start⟩) := by
  obtain ⟨row, column, first, hstart, hfirst, hinline⟩ := hinside
  have hordered : range.start.line < range.stop.line ∨
      range.start.line = range.stop.line ∧ range.start.column ≤ range.stop.column := horder
  simp only [hstart] at hordered
  obtain ⟨next, hnext⟩ : ∃ next : Nat, range.stop.line = next := Int.eq_ofNat_of_zero_le (by omega)
  obtain ⟨stop, hstop⟩ : ∃ stop : Nat, range.stop.column + 1 = stop := Int.eq_ofNat_of_zero_le (by omega)
  have hbelow : next < lines.length := by omega
  have hlast : lines[next]? = some lines[next] := List.getElem?_eq_getElem hbelow
  have hlastLine : lastLine range lines = next := by
    simp only [lastLine]
    omega
  exact deleteRange_reinserts_rows hl hfirst hlast hstart hlastLine hstop hinline (by omega)

end

/-! ### In the log -/

/-- The text that a delete takes gives the buffer back where the delete leaves the cursor, for a range on
one line and for one that runs over several. A yank takes the same text. What the log cannot hold stops the
one as well as the other. -/
theorem operate_delete_reinserts {lines : List Text} {range : Range} (hl : SingleLines lines)
    (hinside : Inside lines range.start) (horder : range.Ordered) (hend : range.stop.line < lines.length)
    (hcolumn : 0 ≤ range.stop.column) (count : Int) (style : IndentStyle) :
    ∃ edit : Edit, edit.cursor = range.start ∧
      reinsert edit.lines edit.cursor edit.taken = lines ∧
      (operateKeys ['d'] range lines count style).value =
        (if ∀ n ∈ operateNumbers range count, Loggable n.natAbs then .ok (some edit)
        else .error .numberTooLong) ∧
      (operateKeys ['y'] range lines 1 style).value =
        (if ∀ n ∈ operateNumbers range 1, Loggable n.natAbs then
          .ok (some ⟨lines, edit.taken, range.start⟩)
        else .error .numberTooLong) := by
  obtain ⟨edit, hdelete, hcursor, hback, hyank⟩ :=
    deleteRange_reinserts hl hinside horder hend hcolumn
  refine ⟨edit, hcursor, hback, ?_, ?_⟩
  · show (Operator.delete.operate range lines count style).value = _
    rw [Operator.value_operate_loggable rfl, Operator.onRange, hdelete]
  · show (Operator.yank.operate range lines 1 style).value = _
    rw [Operator.value_operate_loggable rfl, Operator.onRange, hyank]

/-- A range that starts at the end of a line, runs over an empty one and ends behind the end of a third. -/
theorem operate_delete_reinserts_rows :
    let lines : List Text := [['a', 'b'], [], ['c'], ['d']]
    let range : Range := ⟨⟨0, 2⟩, ⟨2, 5⟩⟩
    (SingleLines lines ∧ Inside lines range.start ∧ range.Ordered ∧ range.stop.line < lines.length ∧
      0 ≤ range.stop.column) ∧
    ∃ edit : Edit, edit.cursor = range.start ∧
      reinsert edit.lines edit.cursor edit.taken = lines ∧
      (operateKeys ['d'] range lines 3 {}).value = .ok (some edit) ∧
      (operateKeys ['y'] range lines 1 {}).value = .ok (some ⟨lines, edit.taken, range.start⟩) := by
  intro lines range
  have hl : SingleLines lines := by
    unfold SingleLines
    decide
  have hinside : Inside lines range.start := ⟨0, 2, ['a', 'b'], rfl, rfl, by decide⟩
  obtain ⟨edit, hcursor, hback, hdelete, hyank⟩ :=
    operate_delete_reinserts hl hinside (by decide : range.Ordered) (by decide) (by decide) 3 {}
  rw [if_pos (by decide)] at hdelete hyank
  exact ⟨⟨hl, hinside, by decide, by decide, by decide⟩, edit, hcursor, hback, hdelete, hyank⟩

/-- A count that is too long for the log stops a delete that would not even look at it. -/
theorem operate_delete_long_count :
    let lines : List Text := [['a']]
    let range : Range := ⟨⟨0, 0⟩, ⟨0, 0⟩⟩
    (SingleLines lines ∧ Inside lines range.start ∧ range.Ordered ∧ range.stop.line < lines.length ∧
      0 ≤ range.stop.column) ∧
    (operateKeys ['d'] range lines (10 ^ Text.numeralLimit : Nat) {}).value = .error .numberTooLong := by
  intro lines range
  have hl : SingleLines lines := by
    unfold SingleLines
    decide
  refine ⟨⟨hl, ⟨0, 0, ['a'], rfl, rfl, by decide⟩, by decide, by decide, by decide⟩, ?_⟩
  show (Operator.delete.operate range lines (10 ^ Text.numeralLimit : Nat) {}).value = _
  exact Operator.value_operate_long_count rfl range lines not_loggable_limit {}

end ModalEditor
