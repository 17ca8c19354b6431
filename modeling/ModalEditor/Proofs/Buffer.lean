import ModalEditor.Engine.Execute
import ModalEditor.Text.Slice
/-!
# Sound buffers

A buffer with its cursor is sound when no line holds a line break and the cursor stands on a column
of one of the lines or at its end. Inside a buffer signed places count from the start, so each part of
the buffer is a plain `take` or `drop` of it.
-/
namespace ModalEditor

def SingleLines (lines : List Text) : Prop := ∀ line ∈ lines, '\n' ∉ line

/-- A position on a column of a line, or at the end of that line. -/
def Inside (lines : List Text) (p : Position) : Prop :=
  ∃ (row column : Nat) (line : Text),
    p = ⟨row, column⟩ ∧ lines[row]? = some line ∧ column ≤ line.length

/-- A buffer of single lines and a cursor in it. -/
structure Sound (lines : List Text) (cursor : Position) : Prop where
  single : SingleLines lines
  inside : Inside lines cursor

theorem hasLine_iff {lines : List Text} {row : Int} :
    hasLine lines row = true ↔ 0 ≤ row ∧ row < lines.length := by
  simp [hasLine]

theorem hasLine_of_getElem? {lines : List Text} {row : Nat} {line : Text}
    (h : lines[row]? = some line) : hasLine lines row = true := by
  have hr : row < lines.length := (List.getElem?_eq_some_iff.1 h).1
  exact hasLine_iff.2 ⟨by omega, by omega⟩

theorem lineOf_of_getElem? {lines : List Text} {row : Nat} {line : Text}
    (h : lines[row]? = some line) : lineOf lines row = line := by
  simp [lineOf, h]

theorem ensurePosition_eq_ok_iff {lines : List Text} {p q : Position} :
    ensurePosition lines p = .ok q ↔ p = q ∧ Inside lines p := by
  constructor
  · intro h
    unfold ensurePosition at h
    split at h
    · simp at h
    · next hline =>
      split at h
      · simp at h
      · next hcolumn =>
        have hbounds := hasLine_iff.1 ((Bool.not_eq_false _).mp hline)
        obtain ⟨row, hrow⟩ := Int.eq_ofNat_of_zero_le hbounds.1
        obtain ⟨column, hcol⟩ : ∃ column : Nat, p.column = column :=
          Int.eq_ofNat_of_zero_le (by omega)
        have hlt : row < lines.length := by omega
        have hat : lines[row]? = some lines[row] := List.getElem?_eq_getElem hlt
        refine ⟨by simpa using h, row, column, lines[row], ?_, hat, ?_⟩
        · obtain ⟨line, col⟩ := p
          simp only at hrow hcol
          rw [hrow, hcol]
        · rw [hrow, lineOf_of_getElem? hat] at hcolumn
          omega
  · rintro ⟨rfl, row, column, line, rfl, hat, hcolumn⟩
    have hline := hasLine_of_getElem? hat
    simpa [ensurePosition, hline, lineOf_of_getElem? hat] using hcolumn

theorem ensurePosition_of_inside {lines : List Text} {p : Position} (h : Inside lines p) :
    ensurePosition lines p = .ok p :=
  ensurePosition_eq_ok_iff.2 ⟨rfl, h⟩

theorem Inside.ne_nil {lines : List Text} {p : Position} (h : Inside lines p) : lines ≠ [] := by
  obtain ⟨row, column, line, -, hat, -⟩ := h
  intro hsame
  subst hsame
  simp at hat

theorem Inside.current {lines : List Text} {p : Position} (h : Inside lines p) :
    ∃ (line : Text) (column : Nat), line ∈ lines ∧ Slice.entry? lines p.line = some line ∧
      lineOf lines p.line = line ∧ p.column = column ∧ column ≤ line.length := by
  obtain ⟨row, column, line, rfl, hat, hcolumn⟩ := h
  refine ⟨line, column, List.mem_of_getElem? hat, ?_, lineOf_of_getElem? hat, rfl, hcolumn⟩
  rw [Slice.entry?_natCast, hat]

theorem Inside.withColumn {lines : List Text} {p : Position} (h : Inside lines p) {column : Int}
    (hlow : 0 ≤ column) (hhigh : column ≤ (lineOf lines p.line).length) :
    Inside lines (p.withColumn column) := by
  obtain ⟨row, _, line, rfl, hat, -⟩ := h
  obtain ⟨n, rfl⟩ := Int.eq_ofNat_of_zero_le hlow
  rw [lineOf_of_getElem? hat] at hhigh
  exact ⟨row, n, line, rfl, hat, by omega⟩

namespace SingleLines

variable {lines others : List Text}

theorem append (h : SingleLines lines) (h' : SingleLines others) : SingleLines (lines ++ others) := by
  intro line hline
  exact (List.mem_append.1 hline).elim (h line) (h' line)

private theorem sublist (h : SingleLines lines) (hs : others.Sublist lines) : SingleLines others :=
  fun line hline => h line (hs.subset hline)

theorem singleton {line : Text} (h : '\n' ∉ line) : SingleLines [line] := by
  intro l hl
  rw [List.mem_singleton.1 hl]
  exact h

theorem take (h : SingleLines lines) (n : Nat) : SingleLines (lines.take n) :=
  h.sublist (List.take_sublist n lines)

theorem drop (h : SingleLines lines) (n : Nat) : SingleLines (lines.drop n) :=
  h.sublist (List.drop_sublist n lines)

theorem of_getElem? (h : SingleLines lines) {row : Nat} {line : Text}
    (hat : lines[row]? = some line) : '\n' ∉ line :=
  h line (List.mem_of_getElem? hat)

theorem splice (h : SingleLines lines) (h' : SingleLines others) (start stop : Nat) :
    SingleLines (lines.take start ++ others ++ lines.drop stop) :=
  ((h.take start).append h').append (h.drop stop)

theorem of_lines (t : Text) : SingleLines (Text.lines t) := fun _ h => Text.not_mem_of_mem_lines h

end SingleLines

theorem getElem?_splice {lines others : List Text} {start stop : Nat} (h : start ≤ lines.length)
    {first : Text} (hfirst : others[0]? = some first) :
    (lines.take start ++ others ++ lines.drop stop)[start]? = some first := by
  have hlen : (lines.take start).length = start := List.length_take_of_le h
  have hpos : 0 < others.length := (List.getElem?_eq_some_iff.1 hfirst).1
  rw [List.append_assoc, List.getElem?_append_right (by omega), hlen, Nat.sub_self,
    List.getElem?_append_left hpos, hfirst]

end ModalEditor
