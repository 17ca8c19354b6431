import ModalEditor.Proofs.Totality
/-!
# Moving lines right and back

A move to the right puts one unit of indent in front of each row of a block, and a move to the left takes the
unit off again, whatever blanks led the rows before. The cursor does not always come back with its row: to the
right it goes by the characters of the unit, but to the left by the width of a step, however few characters the
row loses.
-/
namespace ModalEditor

section

variable {lines : List Text} {style : IndentStyle}

/-! ### Rows -/

private theorem dedentWidth_blanks_append (hwidth : 0 < style.width) (line : Text) :
    style.dedentWidth (style.blanks ++ line) = style.blanks.length := by
  unfold IndentStyle.dedentWidth IndentStyle.blanks
  cases style.spaces with
  | false =>
    rw [if_pos ⟨rfl, rfl⟩]
    rfl
  | true =>
    have hlead : Text.indent (List.replicate style.width.toNat ' ' ++ line) =
        List.replicate style.width.toNat ' ' ++ Text.indent line := by
      apply List.takeWhile_append_of_pos
      intro c hc
      rw [List.eq_of_mem_replicate hc]
      decide
    rw [if_neg (fun h => Bool.noConfusion h.1), if_pos rfl, hlead, List.length_append, List.length_replicate]
    omega

private theorem after_dedentWidth_blanks_append (hwidth : 0 < style.width) (line : Text) :
    Slice.after (style.blanks ++ line) (style.dedentWidth (style.blanks ++ line)) = line := by
  rw [dedentWidth_blanks_append hwidth, Slice.after_natCast, List.drop_left]

private theorem exists_removed (hwidth : 0 < style.width) (line : Text) :
    ∃ removed : Text, removed.length = style.dedentWidth line ∧
      line = removed ++ Slice.after line (style.dedentWidth line) := by
  obtain ⟨hlow, hhigh, -⟩ := dedentWidth_bounds hwidth line
  obtain ⟨n, hn⟩ := Int.eq_ofNat_of_zero_le hlow
  refine ⟨line.take n, ?_, ?_⟩
  · rw [List.length_take, hn]
    omega
  · rw [hn, Slice.after_natCast, List.take_append_drop]

private theorem mapLines_mapLines {f g : Text → Text} (hback : ∀ t, g (f t) = t) (first : Nat) (count : Int)
    (lines : List Text) : mapLines g first count (mapLines f first count lines) = lines := by
  apply List.ext_getElem?
  intro row
  rw [getElem?_mapLines, getElem?_mapLines]
  split
  · rw [Option.map_map]
    exact (congrArg (Option.map · _) (funext hback)).trans Option.map_id_apply
  · rfl

/-! ### Blocks of rows -/

private theorem hasLine_mapLines (f : Text → Text) (first : Nat) (count : Int) (lines : List Text) (row : Int) :
    hasLine (mapLines f first count lines) row = hasLine lines row := by
  rw [hasLine, hasLine, length_mapLines]

/-- What a move to the right answers for an edit: the edit, if there is such a unit of indent and the log can
hold the numbers of the range and the count. -/
def indentAnswer (range : Range) (count : Int) (style : IndentStyle) (edit : Edit) :
    Except Fault (Option Edit) :=
  if (∀ n ∈ operateNumbers range count, Loggable n.natAbs) ∧ style.spaces = true ∧ ¬IsSize style.width then
    .error .countTooLarge
  else operateAnswer range count edit

private theorem value_operate_indent (range : Range) (hline : hasLine lines range.start.line = true) (count : Int)
    (style : IndentStyle) :
    (operateKeys ['>'] range lines count style).value = indentAnswer range count style
      ⟨mapLines (style.blanks ++ ·) range.start.line.toNat count lines, [],
        ⟨range.start.line, range.start.column + style.blanks.length⟩⟩ := by
  show (Operator.indent.operate range lines count style).value = _
  rw [Operator.value_operate_loggable rfl, Operator.onRange, indentLines_eq hline, indentAnswer, operateAnswer]
  by_cases hnumbers : ∀ n ∈ operateNumbers range count, Loggable n.natAbs
  · rw [if_pos hnumbers, if_pos hnumbers]
    by_cases hlarge : style.spaces = true ∧ ¬IsSize style.width
    · rw [if_pos hlarge, if_pos ⟨hnumbers, hlarge⟩]
    · rw [if_neg hlarge, if_neg fun h => hlarge h.2]
  · rw [if_neg hnumbers, if_neg hnumbers, if_neg fun h => hnumbers h.1]

private theorem value_operate_dedent (range : Range) (hline : hasLine lines range.start.line = true) (count : Int)
    (style : IndentStyle) :
    (operateKeys ['<'] range lines count style).value = operateAnswer range count
      ⟨mapLines (fun line => Slice.after line (style.dedentWidth line)) range.start.line.toNat count lines, [],
        ⟨range.start.line, max 0 (range.start.column - style.width)⟩⟩ := by
  have hedit : Operator.dedent.onRange range lines count style = .ok (some _) :=
    congrArg Except.ok (if_pos hline)
  exact Operator.value_operate_of_onRange rfl hedit

end

/-- A move to the right puts a unit of indent in front of each row of its block, and the same move to the left
gives the lines back. Neither changes a row outside the block. Only numbers that the log cannot hold keep them
from answering, and the move to the right a unit of indent whose width is no size. -/
theorem operate_indent_dedent {lines : List Text} {range : Range} (hlow : 0 ≤ range.start.line)
    (hhigh : range.start.line < lines.length) (count : Int) {style : IndentStyle} (hwidth : 0 < style.width) :
    ∃ right left back : Edit,
      (operateKeys ['>'] range lines count style).value = indentAnswer range count style right ∧
      (operateKeys ['<'] range lines count style).value = operateAnswer range count left ∧
      (operateKeys ['<'] range right.lines count style).value = operateAnswer range count back ∧
      back.lines = lines ∧
      ∀ row : Nat,
        if range.start.line ≤ row ∧ row < range.start.line + max count 1 then
          right.lines[row]? = lines[row]?.map (style.blanks ++ ·)
        else right.lines[row]? = lines[row]? ∧ left.lines[row]? = lines[row]? := by
  have hline : hasLine lines range.start.line = true := hasLine_iff.2 ⟨hlow, hhigh⟩
  refine ⟨_, _, _, value_operate_indent range hline count style, value_operate_dedent range hline count style,
    value_operate_dedent range ((hasLine_mapLines ..).trans hline) count style, ?_, fun row => ?_⟩
  · exact mapLines_mapLines (after_dedentWidth_blanks_append hwidth) _ count lines
  · have hfirst : (range.start.line.toNat : Int) = range.start.line := Int.toNat_of_nonneg hlow
    have hblock : range.start.line ≤ row ∧ row < range.start.line + max count 1 ↔
        range.start.line.toNat ≤ row ∧ (row : Int) < range.start.line.toNat + max count 1 := by omega
    simp only [getElem?_mapLines, ← hblock]
    split
    · rfl
    · exact ⟨rfl, rfl⟩

/-- Rows that are led by a tab, by nothing and by another blank, moved by tabs. The block reaches over the end of
the buffer. -/
theorem operate_indent_dedent_blanks :
    let lines : List Text := [['a'], ['\t', 'b'], [], ['\u3000', ' ', 'c']]
    let range : Range := ⟨⟨1, 7⟩, ⟨0, 0⟩⟩
    let style : IndentStyle := ⟨4, false⟩
    (0 ≤ range.start.line ∧ range.start.line < lines.length ∧ 0 < style.width) ∧
    ∃ right back : Edit,
      (operateKeys ['>'] range lines 9 style).value = .ok (some right) ∧
      (operateKeys ['<'] range right.lines 9 style).value = .ok (some back) ∧
      right.lines[3]? = some ['\t', '\u3000', ' ', 'c'] ∧ back.lines = lines := by
  intro lines range style
  obtain ⟨right, left, back, hright, -, hback, hlines, hrows⟩ :=
    @operate_indent_dedent lines range (by decide) (by decide) 9 style (by decide)
  have hrow := hrows 3
  rw [if_pos (by decide)] at hrow
  rw [indentAnswer, if_neg (by decide)] at hright
  rw [operateAnswer, if_pos (by decide)] at hright hback
  exact ⟨⟨by decide, by decide, by decide⟩, right, back, hright, hback, hrow, hlines⟩

/-- A count that is too long for the log stops a move to the right, although the block ends with the buffer. -/
theorem operate_indent_long_count :
    let lines : List Text := [['a']]
    let range : Range := ⟨⟨0, 0⟩, ⟨0, 0⟩⟩
    (0 ≤ range.start.line ∧ range.start.line < lines.length ∧ 0 < ({} : IndentStyle).width) ∧
    (operateKeys ['>'] range lines (10 ^ Text.numeralLimit : Nat) {}).value = .error .numberTooLong := by
  intro lines range
  refine ⟨⟨by decide, by decide, by decide⟩, ?_⟩
  show (Operator.indent.operate range lines (10 ^ Text.numeralLimit : Nat) {}).value = _
  exact Operator.value_operate_long_count rfl range lines not_loggable_limit {}

/-! ### The cursor -/

/-- A move to the left takes characters off the front of the cursor's row and sends the cursor left by the width
of a step. So the cursor stays on its character exactly if the row lost as many characters, or all in front of
the cursor; and behind a move to the right it comes back exactly if a step is as wide as it has characters, or
the cursor began in the first column. -/
theorem operate_dedent_cursor_iff {lines : List Text} {p : Position} (hinside : Inside lines p) (count : Int)
    {style : IndentStyle} (hwidth : 0 < style.width) :
    ∃ (left right back : Edit) (removed : Text),
      (operateKeys ['<'] ⟨p, p⟩ lines count style).value = operateAnswer ⟨p, p⟩ count left ∧
      (operateKeys ['>'] ⟨p, p⟩ lines count style).value = indentAnswer ⟨p, p⟩ count style right ∧
      (operateKeys ['<'] ⟨right.cursor, right.cursor⟩ right.lines count style).value =
        operateAnswer ⟨right.cursor, right.cursor⟩ count back ∧
      lineOf lines p.line = removed ++ lineOf left.lines p.line ∧
      left.cursor = ⟨p.line, max 0 (p.column - style.width)⟩ ∧
      (left.cursor = ⟨p.line, max 0 (p.column - removed.length)⟩ ↔
        removed.length = style.width ∨ p.column ≤ removed.length) ∧
      right.cursor = ⟨p.line, p.column + style.blanks.length⟩ ∧ back.lines = lines ∧
      (back.cursor = p ↔ style.spaces = true ∨ style.width = 1 ∨ p.column = 0) := by
  obtain ⟨row, column, line, rfl, hat, hcolumn⟩ := hinside
  have hline : hasLine lines row = true := hasLine_of_getElem? hat
  obtain ⟨removed, hlength, hremoved⟩ := exists_removed hwidth line
  obtain ⟨-, -, hstep⟩ := dedentWidth_bounds hwidth line
  refine ⟨_, _, _, removed, value_operate_dedent ⟨⟨row, column⟩, ⟨row, column⟩⟩ hline count style,
    value_operate_indent ⟨⟨row, column⟩, ⟨row, column⟩⟩ hline count style,
    value_operate_dedent _ ((hasLine_mapLines ..).trans hline) count style, ?_, rfl, ?_, rfl, ?_, ?_⟩
  · have hleft := getElem?_mapLines_first (fun line => Slice.after line (style.dedentWidth line)) hat count
    rw [lineOf_of_getElem? hat, Int.toNat_natCast, lineOf_of_getElem? hleft]
    exact hremoved
  · rw [Position.mk.injEq, and_iff_right rfl]
    show max 0 ((column : Int) - style.width) = max 0 ((column : Int) - removed.length) ↔
      (removed.length : Int) = style.width ∨ (column : Int) ≤ removed.length
    omega
  · exact mapLines_mapLines (after_dedentWidth_blanks_append hwidth) _ count lines
  · have hunit : (style.blanks.length : Int) = if style.spaces = true then style.width else 1 := by
      unfold IndentStyle.blanks
      split
      · rw [List.length_replicate]
        omega
      · rfl
    rw [Position.mk.injEq, and_iff_right rfl]
    -- behind a tab the cursor is one column further, and it goes back by a whole width
    show max 0 ((column : Int) + style.blanks.length - style.width) = column ↔
      style.spaces = true ∨ style.width = 1 ∨ (column : Int) = 0
    rw [hunit]
    split
    · next hspaces => exact iff_of_true (by omega) (.inl hspaces)
    · next htabs =>
      rw [or_iff_right htabs]
      omega

/-- A tab is one character, and a step to the left is four columns here. -/
theorem operate_dedent_cursor_iff_tabs :
    let lines : List Text := [[], ['\t', '\t', 'a', 'b', 'c', 'd']]
    let p : Position := ⟨1, 5⟩
    let style : IndentStyle := ⟨4, false⟩
    (Inside lines p ∧ 0 < style.width) ∧
    ∃ left right back : Edit,
      (operateKeys ['<'] ⟨p, p⟩ lines 1 style).value = .ok (some left) ∧ left.cursor = ⟨1, 1⟩ ∧
      (operateKeys ['>'] ⟨p, p⟩ lines 1 style).value = .ok (some right) ∧
      (operateKeys ['<'] ⟨right.cursor, right.cursor⟩ right.lines 1 style).value = .ok (some back) ∧
      back.lines = lines ∧ back.cursor ≠ p := by
  intro lines p style
  have hinside : Inside lines p := ⟨1, 5, ['\t', '\t', 'a', 'b', 'c', 'd'], rfl, rfl, by decide⟩
  obtain ⟨left, right, back, removed, hleft, hright, hback, -, hcursor, -, hmoved, hlines, hreturns⟩ :=
    operate_dedent_cursor_iff hinside 1 (by decide : 0 < style.width)
  rw [indentAnswer, if_neg (by decide)] at hright
  rw [operateAnswer, if_pos (by decide)] at hleft hright
  rw [operateAnswer, if_pos (by rw [hmoved]; decide)] at hback
  exact ⟨⟨hinside, by decide⟩, left, right, back, hleft, hcursor, hright, hback, hlines,
    fun hsame => absurd (hreturns.1 hsame) (by decide)⟩

/-- On a row without indent nothing is taken off, but the cursor leaves its character. -/
theorem operate_dedent_cursor_slides :
    let lines : List Text := [['a', 'b', 'c']]
    let p : Position := ⟨0, 2⟩
    (Inside lines p ∧ 0 < ({} : IndentStyle).width) ∧
    (operateKeys ['<'] ⟨p, p⟩ lines 1 {}).value = .ok (some ⟨lines, [], ⟨0, 0⟩⟩) ∧ p ≠ ⟨0, 0⟩ := by
  intro lines p
  refine ⟨⟨⟨0, 2, ['a', 'b', 'c'], rfl, rfl, by decide⟩, by decide⟩, ?_, by decide⟩
  rw [value_operate_dedent ⟨p, p⟩ (by decide), operateAnswer, if_pos (by decide)]
  rfl

end ModalEditor
