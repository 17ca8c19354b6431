import ModalEditor.Edit.Operate
import ModalEditor.Proofs.Buffer
/-!
# Edits of a sound buffer

Every edit of a sound buffer leaves a sound one. An operator needs no more for that than a range that
begins at a place inside and ends on the same line: where on the line it ends does not matter, since a
slice is clamped to the line.
-/
namespace ModalEditor

private theorem sound_splice {lines others : List Text} (hl : SingleLines lines) (ho : SingleLines others)
    {row next column : Nat} (hrow : row ≤ lines.length) {first : Text}
    (hfirst : others[0]? = some first) (hcolumn : column ≤ first.length) :
    Sound (lines.take row ++ others ++ lines.drop next) ⟨row, column⟩ :=
  ⟨hl.splice ho row next, row, column, first, rfl, getElem?_splice hrow hfirst, hcolumn⟩

section

variable {lines : List Text} {row : Nat} {line : Text}

private theorem extract_row (hat : lines[row]? = some line) (first last : Int) :
    extract ⟨⟨row, first⟩, ⟨row, last⟩⟩ lines = .ok (Slice.between line first (last + 1)) := by
  have hlt : row < lines.length := (List.getElem?_eq_some_iff.1 hat).1
  have hrow : lastLine ⟨⟨row, first⟩, ⟨row, last⟩⟩ lines = row := by
    simp only [lastLine]
    omega
  simp [extract, hrow, hat, bind, Except.bind, pure, Except.pure]

theorem between_whole (line : Text) :
    Slice.between line 0 (max 0 ((line.length : Int) - 1) + 1) = line := by
  obtain ⟨stop, hstop, hall⟩ : ∃ stop : Nat, max 0 ((line.length : Int) - 1) + 1 = stop ∧
      line.length ≤ stop := ⟨max 1 line.length, by omega, by omega⟩
  rw [hstop]
  refine (Slice.between_natCast line 0 stop).trans ?_
  rw [List.take_of_length_le hall, List.drop_zero]

theorem deleteRange_row (hat : lines[row]? = some line) (first last : Int) :
    deleteRange ⟨⟨row, first⟩, ⟨row, last⟩⟩ lines =
      .ok (some ⟨lines.take row ++ [Slice.before line first ++ Slice.after line (last + 1)] ++
        lines.drop (row + 1), Slice.between line first (last + 1), ⟨row, first⟩⟩) := by
  have hlt : row < lines.length := (List.getElem?_eq_some_iff.1 hat).1
  have hrow : lastLine ⟨⟨row, first⟩, ⟨row, last⟩⟩ lines = row := by
    simp only [lastLine]
    omega
  have hreplace := Slice.replace_natCast lines
    [Slice.before line first ++ Slice.after line (last + 1)] (Nat.le_succ row) (Nat.le_of_lt hlt)
  simp only [deleteRange, hasLine_of_getElem? hat, extract_row hat, hrow, Slice.entry?_natCast, hat]
  simpa [bind, Except.bind, pure, Except.pure] using hreplace

theorem yankRange_row (hat : lines[row]? = some line) (first last count : Int) :
    yankRange ⟨⟨row, first⟩, ⟨row, last⟩⟩ lines count =
      (if 1 < count then Text.copyLines count (Slice.between line first (last + 1))
        else .ok (Slice.between line first (last + 1))).map
        fun taken => some ⟨lines, taken, ⟨row, first⟩⟩ := by
  simp only [yankRange, hasLine_of_getElem? hat, extract_row hat, bind, Except.bind, pure, Except.pure,
    Bool.true_eq_false, if_false]
  split <;> rfl

private theorem deleteRange_sound (hl : SingleLines lines) (hat : lines[row]? = some line) {first : Nat}
    (hfirst : first ≤ line.length) (last : Int) {edit : Edit}
    (h : deleteRange ⟨⟨row, first⟩, ⟨row, last⟩⟩ lines = .ok (some edit)) :
    Sound edit.lines edit.cursor := by
  rw [deleteRange_row hat] at h
  cases h
  have hlt : row < lines.length := (List.getElem?_eq_some_iff.1 hat).1
  have hline := hl.of_getElem? hat
  refine sound_splice hl (SingleLines.singleton ?_) (Nat.le_of_lt hlt) rfl ?_
  · intro hbreak
    rcases List.mem_append.1 hbreak with h | h
    · exact hline (Slice.mem_of_mem_before h)
    · exact hline (Slice.mem_of_mem_after h)
  · rw [List.length_append, Slice.before_natCast, List.length_take_of_le hfirst]
    omega

private theorem yankRange_sound (hl : SingleLines lines) (hat : lines[row]? = some line) {first : Nat}
    (hfirst : first ≤ line.length) (last count : Int) {edit : Edit}
    (h : yankRange ⟨⟨row, first⟩, ⟨row, last⟩⟩ lines count = .ok (some edit)) :
    Sound edit.lines edit.cursor := by
  rw [yankRange_row hat] at h
  obtain ⟨taken, -, hedit⟩ := map_eq_ok_iff.1 h
  cases hedit
  exact ⟨hl, row, first, line, rfl, hat, hfirst⟩

/-! ### Moving lines -/

theorem length_mapLines (f : Text → Text) (first : Nat) (count : Int) (lines : List Text) :
    (mapLines f first count lines).length = lines.length := by
  simp only [mapLines, List.length_append, List.length_map, List.length_take, List.length_drop]
  omega

theorem getElem?_mapLines (f : Text → Text) (first : Nat) (count : Int) (lines : List Text) (row : Nat) :
    (mapLines f first count lines)[row]? =
      if first ≤ row ∧ (row : Int) < first + max count 1 then lines[row]?.map f else lines[row]? := by
  have hblock (rows : List Text) (n i : Nat) :
      ((rows.take n).map f ++ rows.drop n)[i]? = if i < n then rows[i]?.map f else rows[i]? := by
    rw [List.getElem?_append, List.getElem?_map, List.getElem?_drop, List.length_map, List.length_take]
    split <;> grind
  rw [mapLines, List.append_assoc, List.getElem?_append, hblock, List.getElem?_take, List.getElem?_drop,
    List.length_take]
  split <;> grind

theorem getElem?_mapLines_first (f : Text → Text) (hat : lines[row]? = some line) (count : Int) :
    (mapLines f row count lines)[row]? = some (f line) := by
  rw [getElem?_mapLines, if_pos (by omega), hat, Option.map_some]

theorem SingleLines.mapLines {f : Text → Text} (hf : ∀ t, '\n' ∉ t → '\n' ∉ f t)
    (hl : SingleLines lines) (first : Nat) (count : Int) :
    SingleLines (ModalEditor.mapLines f first count lines) := by
  have hmap : SingleLines (((lines.drop first).take (max count 1).toNat).map f) := by
    intro t ht
    obtain ⟨u, hu, rfl⟩ := List.mem_map.1 ht
    exact hf u ((hl.drop first).take _ u hu)
  exact ((hl.take first).append hmap).append ((hl.drop first).drop _)

/-- What leads a line that was moved right: the unit of indent, were there room for any width. -/
def IndentStyle.blanks (style : IndentStyle) : Text :=
  if style.spaces then List.replicate style.width.toNat ' ' else ['\t']

private theorem IndentStyle.unit_eq (style : IndentStyle) :
    style.unit = if style.spaces = true ∧ ¬IsSize style.width then .error .countTooLarge
      else .ok style.blanks := by
  unfold IndentStyle.unit blanks
  cases style.spaces with
  | false => rfl
  | true =>
    -- copies of a single character are no longer than there are copies
    have hshort : ¬(IsSize style.width ∧ 1 < style.width ∧
        sizeLimit ≤ style.width * ([' '] : Text).length) := by
      rintro ⟨hsize, -, hlong⟩
      rw [List.length_singleton, Int.natCast_one, Int.mul_one] at hlong
      exact Int.not_le.2 hsize.2 hlong
    simp only [Text.copies, if_neg hshort, copies, List.flatten_replicate_singleton, if_true, true_and,
      ite_not]

theorem indentLines_eq {range : Range} (hline : hasLine lines range.start.line = true) (count : Int)
    (style : IndentStyle) :
    indentLines range lines count style =
      if style.spaces = true ∧ ¬IsSize style.width then .error .countTooLarge
      else .ok (some ⟨mapLines (style.blanks ++ ·) range.start.line.toNat count lines, [],
        ⟨range.start.line, range.start.column + style.blanks.length⟩⟩) := by
  rw [indentLines, if_neg (Bool.not_eq_false _ ▸ hline), style.unit_eq]
  split <;> rfl

private theorem indentLines_sound {style : IndentStyle} (hl : SingleLines lines)
    (hat : lines[row]? = some line) {first : Nat} (hfirst : first ≤ line.length) {last count : Int}
    {edit : Edit} (h : indentLines ⟨⟨row, first⟩, ⟨row, last⟩⟩ lines count style = .ok (some edit)) :
    Sound edit.lines edit.cursor := by
  have hblanks : '\n' ∉ style.blanks := by
    unfold IndentStyle.blanks
    split
    · exact fun hbreak => absurd (List.eq_of_mem_replicate hbreak) (by decide)
    · decide
  rw [indentLines_eq (hasLine_of_getElem? hat)] at h
  split at h
  · cases h
  · cases h
    refine ⟨hl.mapLines (fun t ht hbreak => ?_) row count, row, first + style.blanks.length,
      style.blanks ++ line, rfl, getElem?_mapLines_first _ hat count, ?_⟩
    · exact (List.mem_append.1 hbreak).elim hblanks ht
    · rw [List.length_append]
      omega

theorem dedentWidth_bounds {style : IndentStyle} (hwidth : 0 < style.width) (line : Text) :
    0 ≤ style.dedentWidth line ∧ style.dedentWidth line ≤ line.length ∧
      style.dedentWidth line ≤ style.width := by
  have hindent : (Text.indent line).length ≤ line.length := (Text.indent_sublist line).length_le
  unfold IndentStyle.dedentWidth
  split
  · next htab =>
    have hpos : 0 < line.length := by
      cases line with
      | nil => simp at htab
      | cons c rest => exact Nat.succ_pos _
    omega
  · omega

private theorem dedentLines_sound {style : IndentStyle} (hwidth : 0 < style.width) (hl : SingleLines lines)
    (hat : lines[row]? = some line) {first : Nat} (hfirst : first ≤ line.length) {last count : Int}
    {edit : Edit} (h : dedentLines ⟨⟨row, first⟩, ⟨row, last⟩⟩ lines count style = some edit) :
    Sound edit.lines edit.cursor := by
  rw [dedentLines, if_pos (hasLine_of_getElem? hat)] at h
  cases h
  obtain ⟨hlow, hhigh, hstep⟩ := dedentWidth_bounds hwidth line
  obtain ⟨n, hn⟩ := Int.eq_ofNat_of_zero_le hlow
  have hcolumn : max 0 ((first : Int) - style.width) = ((first - style.width.toNat : Nat) : Int) := by
    omega
  refine ⟨hl.mapLines (fun t ht hbreak => ht (Slice.mem_of_mem_after hbreak)) row count, row,
    first - style.width.toNat, Slice.after line (style.dedentWidth line), by rw [hcolumn],
    getElem?_mapLines_first _ hat count, ?_⟩
  rw [hn, Slice.after_natCast, List.length_drop]
  omega

/-! ### Joining -/

private theorem mem_intercalate {sep : Text} {ts : List Text} {c : Char} (h : c ∈ List.intercalate sep ts) :
    c ∈ sep ∨ ∃ t ∈ ts, c ∈ t := by
  induction ts with
  | nil => simp at h
  | cons t rest ih =>
    cases rest with
    | nil => exact Or.inr ⟨t, by simp, by simpa using h⟩
    | cons u more =>
      rw [List.intercalate_cons_cons, List.mem_append, List.mem_append] at h
      rcases h with (h | h) | h
      · exact Or.inr ⟨t, by simp, h⟩
      · exact Or.inl h
      · rcases ih h with h | ⟨v, hv, hc⟩
        · exact Or.inl h
        · exact Or.inr ⟨v, List.mem_cons_of_mem t hv, hc⟩

private theorem joinedLine_single {block : List Text} (hb : SingleLines block) : '\n' ∉ joinedLine block := by
  cases block with
  | nil => simp [joinedLine]
  | cons first others =>
    intro hbreak
    rcases mem_intercalate hbreak with h | ⟨t, ht, hc⟩
    · exact absurd h (by decide)
    · rcases List.mem_cons.1 (List.mem_filter.1 ht).1 with rfl | ht
      · exact hb first (by simp) ((Text.trim_sublist first).subset hc)
      · obtain ⟨u, hu, rfl⟩ := List.mem_map.1 ht
        exact hb u (List.mem_cons_of_mem first hu) ((Text.trimStart_sublist u).subset hc)

private theorem joinLines_sound (hl : SingleLines lines) (hat : lines[row]? = some line) (first last count : Int) :
    Sound (joinLines ⟨⟨row, first⟩, ⟨row, last⟩⟩ lines count).lines
      (joinLines ⟨⟨row, first⟩, ⟨row, last⟩⟩ lines count).cursor := by
  have hlt : row < lines.length := (List.getElem?_eq_some_iff.1 hat).1
  unfold joinLines
  simp only
  split
  · exact ⟨hl, row, 0, line, by simp, hat, Nat.zero_le _⟩
  · have hcolumn (head joined : Text) : min (head.length : Int) (max 0 ((joined.length : Int) - 1)) =
        ((min head.length (joined.length - 1) : Nat) : Int) := by omega
    rw [hcolumn]
    refine sound_splice hl (SingleLines.singleton ?_) (Nat.le_of_lt hlt) rfl ?_
    · exact joinedLine_single ((hl.drop _).take _)
    · omega

/-! ### Pasting -/

theorem pasteLines_sound (hl : SingleLines lines) (hat : lines[row]? = some line) {block : List Text}
    (hblock : SingleLines block) (hsome : block ≠ []) (column : Int) (before : Bool) :
    Sound (pasteLines block ⟨row, column⟩ lines before).lines
      (pasteLines block ⟨row, column⟩ lines before).cursor := by
  have hlt : row < lines.length := (List.getElem?_eq_some_iff.1 hat).1
  obtain ⟨first, others, rfl⟩ := List.exists_cons_of_ne_nil hsome
  simp only [pasteLines, Int.toNat_natCast]
  exact sound_splice hl hblock (by split <;> omega) rfl (firstNonBlank_le first)

theorem SingleLines.replicate {rows : List Text} (h : SingleLines rows) (n : Nat) :
    SingleLines (List.replicate n rows).flatten := by
  intro line hline
  obtain ⟨copy, hcopy, hmem⟩ := List.mem_flatten.1 hline
  rw [List.eq_of_mem_replicate hcopy] at hmem
  exact h line hmem

theorem copies_ne_nil {α : Type} {xs : List α} (hxs : xs ≠ []) (count : Int) :
    (List.replicate (max count 1).toNat xs).flatten ≠ [] := by
  obtain ⟨n, hn⟩ : ∃ n, (max count 1).toNat = n + 1 := ⟨(max count 1).toNat - 1, by omega⟩
  rw [hn, List.replicate_succ, List.flatten_cons]
  exact List.append_ne_nil_of_left_ne_nil hxs _

def pasteColumn (line : Text) (column : Nat) (before : Bool) : Nat :=
  if before = true ∨ line = [] then column else min (column + 1) line.length

theorem pasteColumn_le {column : Nat} (hcolumn : column ≤ line.length) (before : Bool) :
    pasteColumn line column before ≤ line.length := by
  unfold pasteColumn
  split
  · exact hcolumn
  · exact Nat.min_le_right _ _

/-- A paste into a line puts the pieces of one long line in its place. The cursor goes to the end of what was put
in if there is one piece, and otherwise to its start. -/
theorem pasteInside_eq (hat : lines[row]? = some line) {payload : Text} (hsome : payload ≠ []) (column : Nat)
    (before : Bool) :
    let cut := pasteColumn line column before
    let pieces := Text.lines (line.take cut ++ (payload ++ line.drop cut))
    pasteInside payload ⟨row, column⟩ lines before =
      ⟨lines.take row ++ pieces ++ lines.drop (row + 1), [],
        ⟨row, (if pieces.length = 1 then cut + payload.length - 1 else cut : Nat)⟩⟩ := by
  intro cut pieces
  have hpayload : 0 < payload.length := List.length_pos_iff.2 hsome
  have hcut : (if before = false ∧ line ≠ [] then min ((column : Int) + 1) (line.length : Int)
      else (column : Int)) = cut := by
    by_cases hhere : before = true ∨ line = []
    · have hstays : ¬(before = false ∧ line ≠ []) := by
        rcases hhere with rfl | rfl <;> simp
      rw [if_neg hstays]
      simp only [cut, pasteColumn, if_pos hhere]
    · rw [if_pos (by simpa using hhere)]
      simp only [cut, pasteColumn, if_neg hhere]
      omega
  have hcursor : (if pieces.length = 1 then (cut : Int) + payload.length - 1 else cut) =
      ((if pieces.length = 1 then cut + payload.length - 1 else cut : Nat) : Int) := by
    split <;> omega
  rw [← hcursor]
  simp only [pasteInside, lineOf_of_getElem? hat, hcut, Slice.before_natCast, Slice.after_natCast,
    List.append_assoc, Int.toNat_natCast, pieces]

theorem pasteInside_sound (hl : SingleLines lines) (hat : lines[row]? = some line) {payload : Text}
    (hsome : payload ≠ []) {column : Nat} (hcolumn : column ≤ line.length) (before : Bool) :
    Sound (pasteInside payload ⟨row, column⟩ lines before).lines
      (pasteInside payload ⟨row, column⟩ lines before).cursor := by
  have hlt : row < lines.length := (List.getElem?_eq_some_iff.1 hat).1
  have hcut := pasteColumn_le hcolumn before
  rw [pasteInside_eq hat hsome]
  generalize pasteColumn line column before = cut at hcut
  have hhead : '\n' ∉ line.take cut := fun hbreak => hl.of_getElem? hat (List.mem_of_mem_take hbreak)
  obtain ⟨first, others, hrest, hpieces⟩ := Text.lines_append_of_no_break hhead (payload ++ line.drop cut)
  have hlength : (line.take cut).length = cut := List.length_take_of_le hcut
  refine sound_splice hl (SingleLines.of_lines _) (Nat.le_of_lt hlt) (congrArg (·[0]?) hpieces) ?_
  rw [hpieces, List.length_append, hlength]
  split
  · next hone =>
    -- a payload without a break: what is behind the cut is still one line
    have hothers : others = [] := List.length_eq_zero_iff.1 (Nat.succ.inj hone)
    have hwhole : first = payload ++ line.drop cut := by
      rw [← Text.unlines_lines (payload ++ line.drop cut), hrest, hothers, Text.unlines_singleton]
    rw [hwhole, List.length_append]
    omega
  · omega

theorem pasteText_inside_eq {text : Text} (htext : text ≠ []) {p : Position}
    (hline : hasLine lines p.line = true) (before : Bool) (count : Int) :
    let n := (max count 1).toNat
    pasteText text p lines before false count =
      if sizeLimit ≤ n then .error .countTooLarge
      else if 1 < n ∧ sizeLimit ≤ n * text.length then .error .textTooLong
      else .ok (some (pasteInside (List.replicate n text).flatten p lines before)) := by
  intro n
  have hn : max count 1 = (n : Int) := by omega
  rw [pasteText, if_neg (not_or.2 ⟨htext, Bool.not_eq_false _ ▸ hline⟩), if_neg Bool.false_ne_true, hn,
    Text.copies_natCast]
  split
  · rfl
  · split <;> rfl

theorem pasteText_lines_eq {text : Text} (htext : text ≠ []) {p : Position}
    (hline : hasLine lines p.line = true) (before : Bool) (count : Int) :
    let n := (max count 1).toNat
    pasteText text p lines before true count =
      if sizeLimit ≤ n then .error .countTooLarge
      else .ok (some (pasteLines (List.replicate n (Text.lines text)).flatten p lines before)) := by
  intro n
  have hn : max count 1 = (n : Int) := by omega
  rw [pasteText, if_neg (not_or.2 ⟨htext, Bool.not_eq_false _ ▸ hline⟩), if_pos rfl, hn, copies_natCast]
  split <;> rfl

theorem pasteText_sound (hl : SingleLines lines) (hat : lines[row]? = some line) {text : Text}
    {column : Nat} (hcolumn : column ≤ line.length) {before linewise : Bool} {count : Int} {edit : Edit}
    (h : pasteText text ⟨row, column⟩ lines before linewise count = .ok (some edit)) :
    Sound edit.lines edit.cursor := by
  unfold pasteText at h
  split at h
  · cases h
  · next hsome =>
    have htext : text ≠ [] := fun e => hsome (Or.inl e)
    split at h
    · obtain ⟨block, hblock, hedit⟩ := bind_eq_ok_iff.1 h
      cases hedit
      rw [eq_of_copies hblock]
      exact pasteLines_sound hl hat ((SingleLines.of_lines text).replicate _)
        (copies_ne_nil (Text.lines_ne_nil text) count) column before
    · obtain ⟨payload, hpayload, hedit⟩ := bind_eq_ok_iff.1 h
      cases hedit
      rw [Text.eq_of_copies hpayload]
      exact pasteInside_sound hl hat (copies_ne_nil htext count) hcolumn before

/-! ### Whole lines -/

theorem linewiseRange_row (hat : lines[row]? = some line) (column count : Int) :
    ∃ last stop : Nat, row ≤ last ∧ last < lines.length ∧
      last + 1 = row + min (max count 1).toNat (lines.length - row) ∧
      linewiseRange ⟨row, column⟩ lines count = .ok ⟨⟨row, 0⟩, ⟨last, stop⟩⟩ := by
  have hlt : row < lines.length := (List.getElem?_eq_some_iff.1 hat).1
  obtain ⟨last, hlast, hrow, hin, hnext⟩ : ∃ last : Nat,
      min ((row : Int) + max count 1 - 1) ((lines.length : Int) - 1) = last ∧
        row ≤ last ∧ last < lines.length ∧
        last + 1 = row + min (max count 1).toNat (lines.length - row) :=
    ⟨(min ((row : Int) + max count 1 - 1) ((lines.length : Int) - 1)).toNat, by omega, by omega,
      by omega, by omega⟩
  have hstop : max 0 ((lines[last].length : Int) - 1) = (lines[last].length - 1 : Nat) := by omega
  refine ⟨last, lines[last].length - 1, hrow, hin, hnext, ?_⟩
  simp [linewiseRange, hlast, hstop, List.getElem?_eq_getElem hin, bind, Except.bind, pure, Except.pure]

theorem cutLines_sound (hl : SingleLines lines) (hat : lines[row]? = some line) (column : Int)
    {keepIndent : Bool} {count : Int} {edit : Edit}
    (h : cutLines keepIndent ⟨row, column⟩ lines count = .ok edit) : Sound edit.lines edit.cursor := by
  obtain ⟨hlt, rfl⟩ := List.getElem?_eq_some_iff.1 hat
  obtain ⟨last, stop, hrow, hin, -, hrange⟩ := linewiseRange_row hat column count
  unfold cutLines at h
  rw [hrange] at h
  have hnext : ((last : Int) + 1).toNat = last + 1 := by omega
  simp only [bind, Except.bind, pure, Except.pure, Int.toNat_natCast, hnext] at h
  split at h
  · -- A change leaves the indent of the first line, with the cursor behind it.
    cases h
    refine sound_splice hl (SingleLines.singleton ?_) (Nat.le_of_lt hlt) rfl (Nat.le_refl _)
    intro hbreak
    have hmem := (Text.indent_sublist _).subset hbreak
    cases hhead : (lines.take (last + 1)).drop row with
    | nil => simp [hhead] at hmem
    | cons first others =>
      rw [hhead, List.headD_cons] at hmem
      exact (hl.take (last + 1)).drop row first (by simp [hhead]) hmem
  · -- A delete leaves the other lines, or an empty one if there are none.
    cases h
    have hkept := (hl.take row).append (hl.drop (last + 1))
    generalize lines.take row ++ lines.drop (last + 1) = kept at hkept
    have hleft : SingleLines (if kept = [] then [[]] else kept) := by
      split
      · exact SingleLines.singleton (by simp)
      · exact hkept
    have hpos : 0 < (if kept = [] then [[]] else kept).length := by
      split
      · exact Nat.one_pos
      · next hne => exact List.length_pos_iff.2 hne
    generalize (if kept = [] then [[]] else kept) = left at hleft hpos
    have hat' : left[min row (left.length - 1)]? = some left[min row (left.length - 1)] :=
      List.getElem?_eq_getElem (by omega)
    simp only [hat', Option.getD_some]
    exact ⟨hleft, min row (left.length - 1), _, _, by simp, hat', firstNonBlank_le _⟩

/-! ### Operators -/

private theorem Operator.onRange_sound {op : Operator} {style : IndentStyle} (hwidth : 0 < style.width)
    (hl : SingleLines lines) (hat : lines[row]? = some line) {first : Nat} (hfirst : first ≤ line.length)
    {last count : Int} {edit : Edit}
    (h : op.onRange ⟨⟨row, first⟩, ⟨row, last⟩⟩ lines count style = .ok (some edit)) :
    Sound edit.lines edit.cursor := by
  cases op with
  | delete => exact deleteRange_sound hl hat hfirst last h
  | change => exact deleteRange_sound hl hat hfirst last h
  | yank => exact yankRange_sound hl hat hfirst last count h
  | indent => exact indentLines_sound hl hat hfirst h
  | dedent => exact dedentLines_sound hwidth hl hat hfirst (Except.ok.inj h)
  | join =>
    cases h
    exact joinLines_sound hl hat first last count
  | paste => cases h
  | pasteBefore => cases h

theorem Operator.operate_sound {op : Operator} {style : IndentStyle} (hwidth : 0 < style.width)
    (hl : SingleLines lines) (hat : lines[row]? = some line) {first : Nat} (hfirst : first ≤ line.length)
    {last count : Int} {edit : Edit}
    (h : (op.operate ⟨⟨row, first⟩, ⟨row, last⟩⟩ lines count style).value = .ok (some edit)) :
    Sound edit.lines edit.cursor := by
  rw [Operator.value_operate] at h
  split at h
  · obtain ⟨_, -, h⟩ := bind_eq_ok_iff.1 h
    exact op.onRange_sound hwidth hl hat hfirst h
  · cases h

theorem Operator.operateLines_sound {op : Operator} {style : IndentStyle} (hwidth : 0 < style.width)
    (hl : SingleLines lines) (hat : lines[row]? = some line) {column : Nat}
    (hcolumn : column ≤ line.length) {count : Int} {edit : Edit}
    (h : (op.operateLines ⟨row, column⟩ lines count style).value = .ok (some edit)) :
    Sound edit.lines edit.cursor := by
  rw [Operator.value_operateLines op count style (hasLine_of_getElem? hat)] at h
  have hcut {keepIndent : Bool} {written : Except Fault (Fields Text)}
      (h : (written.bind fun _ => some <$> cutLines keepIndent ⟨row, column⟩ lines count) =
        .ok (some edit)) : Sound edit.lines edit.cursor := by
    obtain ⟨_, -, h⟩ := bind_eq_ok_iff.1 h
    obtain ⟨found, hfound, hedit⟩ := map_eq_ok_iff.1 h
    cases hedit
    exact cutLines_sound hl hat column hfound
  cases op with
  | delete => exact hcut h
  | change => exact hcut h
  | yank =>
    have hstyle : 0 < ({} : IndentStyle).width := by decide
    exact Operator.operate_sound hstyle hl hat (Nat.zero_le line.length) h
  | indent => exact Operator.operate_sound hwidth hl hat hcolumn h
  | dedent => exact Operator.operate_sound hwidth hl hat hcolumn h
  | paste => cases h
  | pasteBefore => cases h
  | join => cases h

end

end ModalEditor
