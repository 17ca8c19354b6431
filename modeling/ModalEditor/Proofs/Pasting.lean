import ModalEditor.Proofs.Edits
/-!
# Pasting inserts

A paste puts copies of a text into the buffer and changes nothing else. Into a line they go at one place of the
text that the lines make together; as lines they go in as rows. What was there before is left when they are taken
out again, and the cursor is on what was put in.
-/
namespace ModalEditor

namespace Text

private theorem unlines_rows (above below : List Text) {rows : List Text} (hrows : rows ≠ []) :
    unlines (above ++ rows ++ below) = unlines (above ++ unlines rows :: below) := by
  induction above with
  | nil =>
    cases below with
    | nil => rw [List.nil_append, List.nil_append, List.append_nil, unlines_singleton]
    | cons next more =>
      rw [List.nil_append, List.nil_append, unlines_cons _ (List.cons_ne_nil next more), unlines,
        intercalate_append hrows (List.cons_ne_nil next more), List.append_assoc]
      rfl
  | cons line above ih =>
    rw [List.append_assoc, List.cons_append, List.cons_append,
      unlines_cons _ (List.append_ne_nil_of_right_ne_nil _ (List.append_ne_nil_of_left_ne_nil hrows _)),
      unlines_cons _ (List.append_ne_nil_of_right_ne_nil _ (List.cons_ne_nil _ _)), ← List.append_assoc, ih]

private theorem unlines_middle (above below : List Text) (head middle tail : Text) :
    unlines (above ++ (head ++ (middle ++ tail)) :: below) =
      unlines (above ++ [head]) ++ middle ++ unlines (tail :: below) := by
  have hback := unlines_append_unlines [] middle tail below
  rw [List.nil_append, List.nil_append, unlines_singleton] at hback
  rw [List.append_assoc, hback, unlines_append_unlines]

private theorem unlines_snoc (above : List Text) (last : Text) :
    unlines (above ++ [last]) = above.flatMap (· ++ ['\n']) ++ last := by
  induction above with
  | nil => rw [List.nil_append, unlines_singleton, List.flatMap_nil, List.nil_append]
  | cons line above ih =>
    rw [List.cons_append, unlines_cons _ (List.append_ne_nil_of_right_ne_nil _ (List.cons_ne_nil _ _)), ih,
      List.flatMap_cons, List.append_assoc, List.append_assoc]
    rfl

end Text

/-- The number of characters in front of a place, those of the rows above it with their line breaks. -/
def offset (lines : List Text) (p : Position) : Nat :=
  ((lines.take p.line.toNat).flatMap (· ++ ['\n'])).length + p.column.toNat

section

variable {lines : List Text} {row : Nat} {line : Text}

private theorem unlines_parts (hat : lines[row]? = some line) (cut : Nat) :
    Text.unlines (lines.take row ++ [line.take cut]) ++ Text.unlines (line.drop cut :: lines.drop (row + 1)) =
      Text.unlines lines := by
  obtain ⟨hlt, rfl⟩ := List.getElem?_eq_some_iff.1 hat
  rw [Text.unlines_append_unlines, List.take_append_drop, ← List.drop_eq_getElem_cons hlt,
    List.take_append_drop]

private theorem length_unlines_offset {cut : Nat} (hcut : cut ≤ line.length) :
    (Text.unlines (lines.take row ++ [line.take cut])).length = offset lines ⟨row, cut⟩ := by
  rw [Text.unlines_snoc, List.length_append, List.length_take_of_le hcut]
  rfl

private theorem offset_le (hat : lines[row]? = some line) {cut : Nat} (hcut : cut ≤ line.length) :
    offset lines ⟨row, cut⟩ ≤ (Text.unlines lines).length := by
  rw [← unlines_parts hat cut, List.length_append, length_unlines_offset hcut]
  exact Nat.le_add_right _ _

private theorem take_drop_offset (hat : lines[row]? = some line) {cut : Nat} (hcut : cut ≤ line.length) :
    (Text.unlines lines).take (offset lines ⟨row, cut⟩) = Text.unlines (lines.take row ++ [line.take cut]) ∧
      (Text.unlines lines).drop (offset lines ⟨row, cut⟩) =
        Text.unlines (line.drop cut :: lines.drop (row + 1)) := by
  rw [← unlines_parts hat cut, ← length_unlines_offset hcut]
  exact ⟨List.take_left, List.drop_left⟩

/-- A paste into a line inserts its text at one place. -/
theorem unlines_pasteInside (hat : lines[row]? = some line) {payload : Text} (hsome : payload ≠ [])
    {column : Nat} (hcolumn : column ≤ line.length) (before : Bool) :
    let place := offset lines ⟨row, pasteColumn line column before⟩
    Text.unlines (pasteInside payload ⟨row, column⟩ lines before).lines =
      (Text.unlines lines).take place ++ payload ++ (Text.unlines lines).drop place := by
  intro place
  obtain ⟨hfront, hback⟩ := take_drop_offset hat (pasteColumn_le hcolumn before)
  rw [pasteInside_eq hat hsome, Text.unlines_rows _ _ (Text.lines_ne_nil _), Text.unlines_lines,
    Text.unlines_middle, hfront, hback]

private theorem offset_pasteInside (hat : lines[row]? = some line) {payload : Text} (hsome : payload ≠ [])
    (column : Nat) (before : Bool) :
    let edit := pasteInside payload ⟨row, column⟩ lines before
    let place := offset lines ⟨row, pasteColumn line column before⟩
    place ≤ offset edit.lines edit.cursor ∧ offset edit.lines edit.cursor < place + payload.length := by
  intro edit place
  have hlt : row < lines.length := (List.getElem?_eq_some_iff.1 hat).1
  have hpayload : 0 < payload.length := List.length_pos_iff.2 hsome
  have hedit : edit = _ := pasteInside_eq hat hsome column before
  have habove : edit.lines.take row = lines.take row := by
    rw [hedit, List.append_assoc]
    exact List.take_left' (List.length_take_of_le (Nat.le_of_lt hlt))
  obtain ⟨n, hcursor, hlow, hhigh⟩ : ∃ n : Nat, edit.cursor = ⟨row, n⟩ ∧ pasteColumn line column before ≤ n ∧
      n < pasteColumn line column before + payload.length := by
    refine ⟨_, congrArg Edit.cursor hedit, ?_⟩
    split <;> omega
  simp only [place, hcursor, offset, Int.toNat_natCast, habove]
  omega

private theorem take_append_drop_splice {α : Type} {xs : List α} {n : Nat} (hn : n ≤ xs.length) (piece : List α) :
    (xs.take n ++ piece ++ xs.drop n).take n ++ (xs.take n ++ piece ++ xs.drop n).drop (n + piece.length) =
      xs := by
  have hlength : (xs.take n).length = n := List.length_take_of_le hn
  have hfront : (xs.take n ++ piece).length = n + piece.length := by
    rw [List.length_append, hlength]
  rw [List.drop_left' hfront, List.append_assoc, List.take_left' hlength, List.take_append_drop]

private theorem pasteInside_inserts (hl : SingleLines lines) (hat : lines[row]? = some line) {payload : Text}
    (hsome : payload ≠ []) {column : Nat} (hcolumn : column ≤ line.length) (before : Bool) :
    let edit := pasteInside payload ⟨row, column⟩ lines before
    let place := offset lines ⟨row, pasteColumn line column before⟩
    Text.unlines edit.lines = (Text.unlines lines).take place ++ payload ++ (Text.unlines lines).drop place ∧
      Text.lines ((Text.unlines edit.lines).take place ++
        (Text.unlines edit.lines).drop (place + payload.length)) = lines ∧
      SingleLines edit.lines ∧ Inside edit.lines edit.cursor ∧
      place ≤ offset edit.lines edit.cursor ∧ offset edit.lines edit.cursor < place + payload.length := by
  intro edit place
  have hin : place ≤ (Text.unlines lines).length := offset_le hat (pasteColumn_le hcolumn before)
  have hinserted : Text.unlines edit.lines =
      (Text.unlines lines).take place ++ payload ++ (Text.unlines lines).drop place :=
    unlines_pasteInside hat hsome hcolumn before
  obtain ⟨hsingle, hinside⟩ := pasteInside_sound hl hat hsome hcolumn before
  refine ⟨hinserted, ?_, hsingle, hinside, offset_pasteInside hat hsome column before⟩
  rw [hinserted, take_append_drop_splice hin,
    Text.lines_unlines (List.ne_nil_of_mem (List.mem_of_getElem? hat)) hl]

private theorem pasteLines_inserts (hl : SingleLines lines) (hat : lines[row]? = some line) {block : List Text}
    (hblock : SingleLines block) (hsome : block ≠ []) (column : Nat) (before : Bool) :
    let edit := pasteLines block ⟨row, column⟩ lines before
    let top := if before = true then row else row + 1
    edit.lines = lines.take top ++ block ++ lines.drop top ∧
      edit.lines.take top ++ edit.lines.drop (top + block.length) = lines ∧
      SingleLines edit.lines ∧ Inside edit.lines edit.cursor ∧
      top ≤ edit.cursor.line ∧ edit.cursor.line < top + block.length := by
  intro edit top
  have hlt : row < lines.length := (List.getElem?_eq_some_iff.1 hat).1
  have hin : top ≤ lines.length := by
    simp only [top]
    split <;> omega
  have hpos : 0 < block.length := List.length_pos_iff.2 hsome
  obtain ⟨hsingle, hinside⟩ := pasteLines_sound hl hat hblock hsome column before
  refine ⟨rfl, take_append_drop_splice hin block, hsingle, hinside, ?_⟩
  show (top : Int) ≤ top ∧ (top : Int) < top + block.length
  omega

end

/-- What a paste of a text makes of a buffer. Into a line it inserts the copies at one place of the text of all
lines, in front of the cursor or behind it; as lines it puts them above the cursor's row or below it. Taken out
again, they leave the buffer as it was. The new buffer is one of single lines, and its cursor is inside and on
what was put in. Only a count that is no size, or copies that make too long a text, keep a paste from answering. -/
theorem pasteText_inserts {lines : List Text} {p : Position} {text : Text} (hl : SingleLines lines)
    (hinside : Inside lines p) (htext : text ≠ []) (before : Bool) (count : Int) :
    let n := (max count 1).toNat
    (∃ edit : Edit,
      pasteText text p lines before false count =
        (if sizeLimit ≤ n then .error .countTooLarge
        else if 1 < n ∧ sizeLimit ≤ n * text.length then .error .textTooLong
        else .ok (some edit)) ∧
      let place := offset lines ⟨p.line, pasteColumn (lineOf lines p.line) p.column.toNat before⟩
      let payload := (List.replicate n text).flatten
      Text.unlines edit.lines =
          (Text.unlines lines).take place ++ payload ++ (Text.unlines lines).drop place ∧
        Text.lines ((Text.unlines edit.lines).take place ++
          (Text.unlines edit.lines).drop (place + payload.length)) = lines ∧
        SingleLines edit.lines ∧ Inside edit.lines edit.cursor ∧
        place ≤ offset edit.lines edit.cursor ∧ offset edit.lines edit.cursor < place + payload.length) ∧
    ∃ edit : Edit,
      pasteText text p lines before true count =
        (if sizeLimit ≤ n then .error .countTooLarge else .ok (some edit)) ∧
      let row := if before = true then p.line.toNat else p.line.toNat + 1
      let block := (List.replicate n (Text.lines text)).flatten
      edit.lines = lines.take row ++ block ++ lines.drop row ∧
        edit.lines.take row ++ edit.lines.drop (row + block.length) = lines ∧
        SingleLines edit.lines ∧ Inside edit.lines edit.cursor ∧
        row ≤ edit.cursor.line ∧ edit.cursor.line < row + block.length := by
  obtain ⟨row, column, line, rfl, hat, hcolumn⟩ := hinside
  intro n
  have hline : hasLine lines row = true := hasLine_of_getElem? hat
  constructor
  · have hsome : (List.replicate n text).flatten ≠ [] := copies_ne_nil htext count
    refine ⟨_, pasteText_inside_eq htext hline before count, ?_⟩
    rw [lineOf_of_getElem? hat]
    exact pasteInside_inserts hl hat hsome hcolumn before
  · have hsome : (List.replicate n (Text.lines text)).flatten ≠ [] :=
      copies_ne_nil (Text.lines_ne_nil text) count
    refine ⟨_, pasteText_lines_eq htext hline before count, ?_⟩
    exact pasteLines_inserts hl hat ((SingleLines.of_lines text).replicate n) hsome column before

/-- A text that ends a line in its middle, put behind the first character of a line and below the line. -/
theorem pasteText_inserts_pieces :
    let lines : List Text := [['a', 'd'], []]
    let text : Text := ['b', '\n', 'c']
    let p : Position := ⟨0, 0⟩
    (SingleLines lines ∧ Inside lines p ∧ text ≠ []) ∧
    (∃ edit : Edit, pasteText text p lines false false 2 = .ok (some edit) ∧
      Text.unlines edit.lines = ['a', 'b', '\n', 'c', 'b', '\n', 'c', 'd', '\n'] ∧
      Inside edit.lines edit.cursor) ∧
    ∃ edit : Edit, pasteText text p lines false true 2 = .ok (some edit) ∧
      edit.lines = [['a', 'd'], ['b'], ['c'], ['b'], ['c'], []] ∧ Inside edit.lines edit.cursor := by
  intro lines text p
  have hl : SingleLines lines := by simp [lines, SingleLines]
  have hinside : Inside lines p := ⟨0, 0, ['a', 'd'], rfl, rfl, by decide⟩
  have htext : text ≠ [] := by decide
  obtain ⟨⟨edit, hinto, hinserted, -, -, hcursor, -⟩, edit', hbelow, hrows, -, -, hcursor', -⟩ :=
    pasteText_inserts hl hinside htext false 2
  rw [if_neg (by decide)] at hinto hbelow
  rw [if_neg (by decide)] at hinto
  exact ⟨⟨hl, hinside, htext⟩, ⟨edit, hinto, hinserted, hcursor⟩, edit', hbelow, hrows, hcursor'⟩

/-- A count that is no size stops a paste of a single character, into a line and as a line. -/
theorem pasteText_large_count :
    let lines : List Text := [[]]
    let p : Position := ⟨0, 0⟩
    (SingleLines lines ∧ Inside lines p) ∧
    pasteText ['a'] p lines false false sizeLimit = .error .countTooLarge ∧
    pasteText ['a'] p lines false true sizeLimit = .error .countTooLarge := by
  intro lines p
  exact ⟨⟨by simp [lines, SingleLines], 0, 0, [], rfl, rfl, by decide⟩, rfl, rfl⟩

end ModalEditor
