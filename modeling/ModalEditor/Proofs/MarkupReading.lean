import ModalEditor.Markup
import ModalEditor.Proofs.Buffer
/-!
# Reading the text on the screen

A screen reads markup: a bracket with a backslash in front of it is a bracket, and any other opening bracket
opens a tag. Escaped text is read as it was. The tags around the cursor's cell are read as tags unless the
text puts a backslash in front of one: then the tag becomes text and the backslash is gone.
-/
namespace ModalEditor.Markup

/-- What is read of a markup: characters, and tags by name. -/
inductive Piece
  | char (c : Char)
  | tag (name : Text)
deriving DecidableEq, Repr

/-- A reader of markup. Nothing is known of what it makes of a tag that is never closed. -/
structure Reader where
  read : Text → List Piece
  read_nil : read [] = []
  read_escaped (rest : Text) : read ('\\' :: '[' :: rest) = .char '[' :: read rest
  read_char {c : Char} {rest : Text} (hopen : c ≠ '[') (hescape : c = '\\' → rest.head? ≠ some '[') :
    read (c :: rest) = .char c :: read rest
  read_tag {name : Text} (hopen : '[' ∉ name) (hclose : ']' ∉ name) (rest : Text) :
    read ('[' :: name ++ ']' :: rest) = .tag name :: read rest

/-- Reads a markup outside tags, or inside a tag whose name has begun. -/
def readPlain : Option Text → Text → List Piece
  | none, [] => []
  | some name, [] => [.tag name]
  | none, '\\' :: '[' :: rest => .char '[' :: readPlain none rest
  | none, '[' :: rest => readPlain (some []) rest
  | none, c :: rest => .char c :: readPlain none rest
  | some name, ']' :: rest => .tag name :: readPlain none rest
  | some name, c :: rest => readPlain (some (name ++ [c])) rest

private theorem readPlain_name {name : Text} (hclose : ']' ∉ name) (begun rest : Text) :
    readPlain (some begun) (name ++ ']' :: rest) = .tag (begun ++ name) :: readPlain none rest := by
  induction name generalizing begun with
  | nil => simp [readPlain]
  | cons c name ih =>
    have hc : c = ']' → False := fun h => hclose (by simp [h])
    have hname : ']' ∉ name := fun h => hclose (List.mem_cons_of_mem c h)
    simp [readPlain, ih hname]

def Reader.plain : Reader where
  read := readPlain none
  read_nil := rfl
  read_escaped _ := rfl
  read_char {c rest} hopen hescape := by
    cases rest with
    | nil => simp [readPlain]
    | cons d rest =>
      by_cases hc : c = '\\'
      · have hd : d ≠ '[' := by simpa using hescape hc
        simp [readPlain, hc, hd]
      · simp [readPlain, hc]
  read_tag {name} _ hclose rest := by
    have hname := readPlain_name hclose [] rest
    simpa [readPlain] using hname

/-! ### Escaped text -/

private theorem escape_cons (c : Char) (t : Text) :
    escape (c :: t) = (if c = '[' then ['\\', '['] else [c]) ++ escape t := List.flatMap_cons

private theorem escape_append (t u : Text) : escape (t ++ u) = escape t ++ escape u := List.flatMap_append

private theorem head?_escape_cons_ne (c : Char) (t rest : Text) : (escape (c :: t) ++ rest).head? ≠ some '[' := by
  rw [escape_cons]
  split
  · simp
  · next hc => simpa using hc

private theorem escape_unlines (ls : List Text) : escape (Text.unlines ls) = Text.unlines (ls.map escape) := by
  induction ls with
  | nil => rfl
  | cons first others ih =>
    by_cases hothers : others = []
    · simp [hothers]
    · have hmap : others.map escape ≠ [] := by simpa using hothers
      rw [List.map_cons, Text.unlines_cons first hothers, Text.unlines_cons _ hmap, escape_append,
        escape_cons, ih, if_neg (by decide), List.singleton_append]

namespace Reader

variable (reader : Reader)

private theorem read_escape_append {t rest : Text} (h : t.getLast? = some '\\' → rest.head? ≠ some '[') :
    reader.read (escape t ++ rest) = t.map .char ++ reader.read rest := by
  induction t with
  | nil => rfl
  | cons c t ih =>
    have hmore : t.getLast? = some '\\' → rest.head? ≠ some '[' := by
      intro hlast
      apply h
      rw [List.getLast?_cons, hlast, Option.getD_some]
    rw [escape_cons, List.map_cons, List.cons_append, ← ih hmore]
    split
    · next hc =>
      rw [hc]
      exact reader.read_escaped _
    · next hc =>
      refine reader.read_char hc ?_
      intro hescape
      cases t with
      | nil => exact h (by rw [hescape]; rfl)
      | cons d t => exact head?_escape_cons_ne d t rest

private theorem read_escape (t : Text) : reader.read (escape t) = t.map .char := by
  have h := @read_escape_append reader t [] (fun _ => by simp)
  simpa [reader.read_nil] using h

/-- A tag behind escaped text is read for itself exactly if that text does not end with a backslash. -/
theorem read_seam_iff (t : Text) {rest : Text} (hrest : rest.head? = some '[') (expected : List Piece) :
    reader.read (escape t ++ rest) = t.map .char ++ expected ↔
      t.getLast? ≠ some '\\' ∧ reader.read rest = expected := by
  by_cases hlast : t.getLast? = some '\\'
  · obtain ⟨front, rfl⟩ := List.getLast?_eq_some_iff.1 hlast
    obtain ⟨name, rfl⟩ := List.head?_eq_some_iff.1 hrest
    -- the backslash goes to the bracket, so that a bracket is read in its place
    have hread : reader.read (escape (front ++ ['\\']) ++ '[' :: name) =
        front.map .char ++ .char '[' :: reader.read name := by
      rw [escape_append, List.append_assoc]
      show reader.read (escape front ++ '\\' :: '[' :: name) = _
      rw [reader.read_escape_append (fun _ => by simp), reader.read_escaped]
    simp [hread]
  · rw [reader.read_escape_append (fun h => absurd h hlast), List.append_cancel_left_eq]
    exact (and_iff_right hlast).symm

private theorem read_openTag (rest : Text) :
    reader.read (openTag ++ rest) = .tag "reverse".toList :: reader.read rest :=
  @read_tag reader "reverse".toList (by decide) (by decide) rest

private theorem read_closeTag (rest : Text) :
    reader.read (closeTag ++ rest) = .tag "/reverse".toList :: reader.read rest :=
  @read_tag reader "/reverse".toList (by decide) (by decide) rest

end Reader

/-! ### The cursor's cell -/

def highlighted (before : Text) (cell : Char) (behind : Text) : List Piece :=
  before.map .char ++ .tag "reverse".toList :: .char cell :: .tag "/reverse".toList ::
    behind.map .char

section

variable {lines : List Text} {row column : Nat} {current : Text} {cursor : Position}

private theorem linesFrom_below {first : Nat} (h : cursor.line < first) (lines : List Text) :
    linesFrom first cursor lines = lines.map escape := by
  induction lines generalizing first with
  | nil => rfl
  | cons current lines ih => rw [linesFrom, if_neg (by omega), ih (by omega), List.map_cons]

private theorem linesFrom_cursor (hat : lines[row]? = some current) {first : Nat}
    (hcursor : cursor.line = (first + row : Nat)) :
    linesFrom first cursor lines =
      (lines.take row).map escape ++ cursorLine current cursor.column :: (lines.drop (row + 1)).map escape := by
  induction lines generalizing first row with
  | nil => simp at hat
  | cons head lines ih =>
    cases row with
    | zero =>
      have hline : head = current := Option.some.inj hat
      rw [linesFrom, if_pos (by omega), linesFrom_below (by omega), hline]
      rfl
    | succ row =>
      rw [linesFrom, if_neg (by omega), ih hat (by omega)]
      rfl

def textBefore (lines : List Text) (row column : Nat) (current : Text) : Text :=
  Text.unlines (lines.take row ++ [current.take column])

def textBehind (lines : List Text) (row column : Nat) (current : Text) : Text :=
  Text.unlines (current.drop (column + 1) :: lines.drop (row + 1))

private theorem textBefore_cell_textBehind (hat : lines[row]? = some current) :
    textBefore lines row column current ++ (current[column]?).toList ++ textBehind lines row column current =
      Text.unlines lines := by
  obtain ⟨hlt, rfl⟩ := List.getElem?_eq_some_iff.1 hat
  have hcell := Text.unlines_append_unlines (lines.take row) (lines[row].take column)
    (lines[row][column]?).toList []
  rw [Text.unlines_singleton, ← List.take_add_one] at hcell
  rw [textBefore, textBehind, hcell, Text.unlines_append_unlines, List.take_append_drop,
    ← List.drop_eq_getElem_cons hlt, List.take_append_drop]

private theorem cursorLine_eq (hcolumn : column ≤ current.length) :
    cursorLine current column = escape (current.take column) ++
      (openTag ++ escape [(current[column]?).getD ' '] ++ closeTag) ++ escape (current.drop (column + 1)) := by
  have hcell : Slice.between current (column : Int) (column + 1) = (current[column]?).toList := by
    have hbetween : Slice.between current (column : Int) (column + 1) =
        (current.take (column + 1)).drop column := Slice.between_natCast current column (column + 1)
    have hlength : (current.take column).length = column := List.length_take_of_le hcolumn
    rw [hbetween, List.take_add_one, List.drop_append_of_le_length (by omega),
      List.drop_of_length_le (by omega), List.nil_append]
  have hshown : (if (current[column]?).toList = [] then [' '] else (current[column]?).toList) =
      [(current[column]?).getD ' '] := by
    cases current[column]? <;> rfl
  have hafter : Slice.after current ((column : Int) + 1) = current.drop (column + 1) :=
    Slice.after_natCast current (column + 1)
  simp only [cursorLine, hcell, hshown, hafter, Slice.before_natCast, List.append_assoc]

private theorem render_eq (hat : lines[row]? = some current) (hcolumn : column ≤ current.length) :
    render lines ⟨row, column⟩ =
      escape (textBefore lines row column current) ++
        (openTag ++ escape [(current[column]?).getD ' '] ++ closeTag) ++
        escape (textBehind lines row column current) := by
  have hrows := @linesFrom_cursor lines row current ⟨row, column⟩ hat 0 (by simp)
  have hfront := Text.unlines_append_unlines ((lines.take row).map escape) (escape (current.take column))
    (openTag ++ escape [(current[column]?).getD ' '] ++ closeTag) []
  rw [Text.unlines_singleton] at hfront
  rw [render, hrows, textBefore, textBehind, escape_unlines, escape_unlines, List.map_append,
    List.map_singleton, List.map_cons, hfront, Text.unlines_append_unlines, cursorLine_eq hcolumn]

end

namespace Reader

/-- A screen reads its text back, with the cursor's cell between the tags and a space for the end of a line,
exactly if neither of the tags stands behind a backslash: there is none in front of the cell, and the cell
is none. -/
theorem read_render_iff (reader : Reader) {lines : List Text} {row column : Nat} {current : Text}
    (hat : lines[row]? = some current) (hcolumn : column ≤ current.length) :
    let before := textBefore lines row column current
    let behind := textBehind lines row column current
    before ++ (current[column]?).toList ++ behind = Text.unlines lines ∧
    (reader.read (render lines ⟨row, column⟩) = highlighted before ((current[column]?).getD ' ') behind ↔
      before.getLast? ≠ some '\\' ∧ current[column]? ≠ some '\\') := by
  intro before behind
  refine ⟨textBefore_cell_textBehind hat, ?_⟩
  have hcell : [(current[column]?).getD ' '].getLast? ≠ some '\\' ↔ current[column]? ≠ some '\\' := by
    cases current[column]? <;> simp
  have htail : reader.read (escape [(current[column]?).getD ' '] ++ (closeTag ++ escape behind)) =
      [(current[column]?).getD ' '].map .char ++ .tag "/reverse".toList :: behind.map .char ↔
        current[column]? ≠ some '\\' := by
    rw [reader.read_seam_iff _ rfl, reader.read_closeTag, reader.read_escape, hcell]
    exact and_iff_left rfl
  rw [render_eq hat hcolumn, highlighted, List.append_assoc, List.append_assoc, List.append_assoc,
    reader.read_seam_iff _ rfl, reader.read_openTag, List.cons_inj_right]
  exact and_congr_right fun _ => htail

/-- A bracket and a backslash in front of the cell, which is the end of its line. -/
theorem read_render_iff_end :
    let lines : List Text := [['\\', 'a'], ['['], ['b', ']']]
    lines[1]? = some ['['] ∧ 1 ≤ ['['].length ∧
      Reader.plain.read (render lines ⟨1, 1⟩) =
        highlighted (textBefore lines 1 1 ['[']) ' ' (textBehind lines 1 1 ['[']) := by
  intro lines
  have hread := @read_render_iff Reader.plain lines 1 1 ['['] rfl (by decide)
  exact ⟨rfl, by decide, hread.2.2 ⟨by decide, by decide⟩⟩

/-- A backslash at the end of a text is lost to the tag behind it, which is shown as text. -/
theorem read_render_backslash :
    Reader.plain.read (render [['\\']] ⟨0, 1⟩) ≠ highlighted ['\\'] ' ' [] := by
  decide

end Reader

end ModalEditor.Markup
