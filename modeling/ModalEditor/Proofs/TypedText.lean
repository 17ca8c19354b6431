import ModalEditor.Host
import ModalEditor.Proofs.Buffer
/-!
# Typed text

While text is inserted, a printable character goes in before the cursor and the backspace key takes the
character before the cursor out. So a text that was typed is taken back by as many backspace keys, and nothing
but its line and the column of the cursor changes meanwhile.
-/
namespace ModalEditor

variable {τ : Type}

namespace Host

/-- Text is inserted on a row, between a text before the cursor and a text behind it. -/
structure Inserts (h : Host τ) (row : Nat) (before behind : Text) : Prop where
  mode : h.mode = .insert
  cursor : h.cursor = ⟨row, before.length⟩
  line : h.lines[row]? = some (before ++ behind)

/-- The host with these texts on a row, and the cursor between them. -/
def withTexts (h : Host τ) (row : Nat) (before behind : Text) : Host τ :=
  { h.moveTo ⟨row, before.length⟩ with lines := h.lines.set row (before ++ behind) }

/-- A key, with the text that it types if any, that takes a character back. -/
def TakesBack (key : Text × Option Text) : Prop :=
  key.1 ∉ Engine.escapeKeys ∧ key.2.getD key.1 ∈ backspaceKeys

def takeKeys [Add τ] [LE τ] [DecidableLE τ] (h : Host τ) :
    List (Text × Option Text) → HostStep τ (List Bool)
  | [] => ⟨h, [], .ok []⟩
  | (key, text) :: rest =>
    let step := h.handleKey key text
    match step.answer with
    | .error fault => ⟨step.host, step.shown, .error fault⟩
    | .ok changed =>
      let later := takeKeys step.host rest
      ⟨later.host, step.shown ++ later.shown, later.answer.map (changed :: ·)⟩

private theorem not_control_of_printable {c : Char} (hc : Text.isPrintable c = true) :
    [c] ∉ Engine.escapeKeys ∧ [c] ∉ backspaceKeys := by
  have hcontrols : ∀ key ∈ Engine.escapeKeys ++ backspaceKeys,
      ¬(key.length = 1 ∧ key.all Text.isPrintable = true) := by decide
  have hnone : [c] ∉ Engine.escapeKeys ++ backspaceKeys := by
    intro hmem
    exact hcontrols [c] hmem ⟨rfl, by simpa using hc⟩
  simpa [not_or] using hnone

variable {h : Host τ} {row : Nat} {before behind : Text}

private theorem withTexts_withTexts (h : Host τ) (row : Nat) (before behind before' behind' : Text) :
    (h.withTexts row before behind).withTexts row before' behind' = h.withTexts row before' behind' := by
  simp [withTexts, moveTo, withSession, Session.setPosition]

namespace Inserts

private theorem after_withTexts (hs : h.Inserts row before behind) (before' behind' : Text) :
    (h.withTexts row before' behind').Inserts row before' behind' :=
  ⟨hs.mode, rfl, List.getElem?_set_self (List.getElem?_eq_some_iff.1 hs.line).1⟩

private theorem withTexts_same (hs : h.Inserts row before behind) : h.withTexts row before behind = h := by
  obtain ⟨hrow, hline⟩ := List.getElem?_eq_some_iff.1 hs.line
  have hposition : h.engine.session.position = ⟨row, before.length⟩ := hs.cursor
  have hset : h.lines.set row (before ++ behind) = h.lines := by
    rw [← hline, List.set_getElem_self]
  simp only [withTexts, moveTo, withSession, Session.setPosition, hset, ← hposition]

theorem entry? (hs : h.Inserts row before behind) :
    Slice.entry? h.lines h.cursor.line = some (before ++ behind) := by
  rw [hs.cursor, Slice.entry?_natCast, hs.line]

private theorem retype_eq (hs : h.Inserts row before behind) (before' behind' : Text) {column : Int}
    (hcolumn : column = before'.length) :
    h.retype (before' ++ behind') column =
      ⟨h.withTexts row before' behind', (h.withTexts row before' behind').refresh, .ok true⟩ := by
  have hrow : row < h.lines.length := (List.getElem?_eq_some_iff.1 hs.line).1
  have hput : Slice.put h.lines h.cursor.line (before' ++ behind') = h.lines.set row (before' ++ behind') := by
    rw [hs.cursor]
    exact Slice.put_natCast h.lines hrow (before' ++ behind')
  have hmoved : h.cursor.withColumn column = ⟨row, before'.length⟩ := by
    rw [hs.cursor, hcolumn]
    rfl
  have hhost : ({ h with lines := Slice.put h.lines h.cursor.line (before' ++ behind') } : Host τ).moveTo
      (h.cursor.withColumn column) = h.withTexts row before' behind' := by
    rw [hput, hmoved]
    rfl
  rw [← hhost]
  rfl

private theorem insert_char (hs : h.Inserts row before behind) {c : Char} (hc : Text.isPrintable c = true) :
    (h.insert [c]).host = h.withTexts row (before ++ [c]) behind ∧ (h.insert [c]).answer = .ok true := by
  have hback : [c] ∉ backspaceKeys := (not_control_of_printable hc).2
  have hone : ([c] : Text).length = 1 ∧ ([c] : Text).all Text.isPrintable = true := ⟨rfl, by simpa using hc⟩
  have hcut : Slice.before (before ++ behind) h.cursor.column ++ [c] ++
      Slice.after (before ++ behind) h.cursor.column = before ++ [c] ++ behind := by
    rw [hs.cursor, Slice.before_natCast, Slice.after_natCast, List.take_left, List.drop_left]
  have hcolumn : h.cursor.column + 1 = ((before ++ [c]).length : Int) := by
    rw [hs.cursor, List.length_append]
    rfl
  simp only [insert, hs.entry?, if_neg (List.cons_ne_nil c []), if_neg hback, if_pos hone, hcut]
  rw [hs.retype_eq (before ++ [c]) behind hcolumn]
  exact ⟨rfl, rfl⟩

private theorem insert_backspace {c : Char} (hs : h.Inserts row (before ++ [c]) behind) {text : Text}
    (hback : text ∈ backspaceKeys) :
    (h.insert text).host = h.withTexts row before behind ∧ (h.insert text).answer = .ok true := by
  have hsome : text ≠ [] := by
    rintro rfl
    revert hback
    decide
  have hcolumn : h.cursor.column = (before.length : Int) + 1 := by
    rw [hs.cursor, List.length_append]
    rfl
  have hpos : ¬h.cursor.column = 0 := by omega
  have hless : h.cursor.column - 1 = before.length := by omega
  have hcut : Slice.before (before ++ [c] ++ behind) (h.cursor.column - 1) ++
      Slice.after (before ++ [c] ++ behind) h.cursor.column = before ++ behind := by
    rw [hless, hs.cursor, Slice.before_natCast, Slice.after_natCast, List.drop_left, List.append_assoc,
      List.take_left]
  simp only [insert, hs.entry?, if_neg hsome, if_pos hback, if_neg hpos, hcut]
  rw [hs.retype_eq before behind hless]
  exact ⟨rfl, rfl⟩

variable [Add τ] [LE τ] [DecidableLE τ]

private theorem handleKey_typed (hs : h.Inserts row before behind) {key : Text} (hkey : key ∉ Engine.escapeKeys)
    (text : Option Text) :
    (h.handleKey key text).host = (h.insert (text.getD key)).host ∧
      (h.handleKey key text).answer = (h.insert (text.getD key)).answer := by
  have hroute : h.route key text = h.insert (text.getD key) := by
    rw [route, if_neg hkey, if_pos hs.mode]
  simp only [handleKey, hroute, and_self]

/-- The characters of a text go in one behind the other. -/
theorem type_text {typed : Text} (hs : h.Inserts row before behind)
    (htyped : ∀ c ∈ typed, Text.isPrintable c = true) :
    (h.type typed).host = h.withTexts row (before ++ typed) behind ∧
      (h.type typed).answer = .ok (List.replicate typed.length true) := by
  induction typed generalizing h before with
  | nil =>
    rw [List.append_nil, hs.withTexts_same]
    exact ⟨rfl, rfl⟩
  | cons c rest ih =>
    obtain ⟨hc, hrest⟩ := List.forall_mem_cons.1 htyped
    obtain ⟨hhost, hanswer⟩ := hs.handleKey_typed (not_control_of_printable hc).1 (some [c])
    rw [Option.getD_some, (hs.insert_char hc).1] at hhost
    rw [Option.getD_some, (hs.insert_char hc).2] at hanswer
    obtain ⟨hlater, hanswers⟩ := ih (hs.after_withTexts (before ++ [c]) behind) hrest
    simp only [type, hanswer, hhost, hlater, hanswers]
    rw [withTexts_withTexts, List.append_assoc]
    exact ⟨rfl, rfl⟩

private theorem takeKeys_back {typed : Text} {keys : List (Text × Option Text)}
    (hs : h.Inserts row (before ++ typed) behind) (hlength : keys.length = typed.length)
    (hkeys : ∀ key ∈ keys, TakesBack key) :
    (h.takeKeys keys).host = h.withTexts row before behind ∧
      (h.takeKeys keys).answer = .ok (List.replicate typed.length true) := by
  -- on the keys: each takes the last character of what is left of the typed text
  induction keys generalizing h typed with
  | nil =>
    obtain rfl : typed = [] := List.eq_nil_of_length_eq_zero hlength.symm
    rw [List.append_nil] at hs
    exact ⟨hs.withTexts_same.symm, rfl⟩
  | cons key rest ih =>
    obtain ⟨first, text⟩ := key
    obtain ⟨⟨hescape, hback⟩, hrest⟩ := List.forall_mem_cons.1 hkeys
    obtain ⟨earlier, c, rfl⟩ : ∃ earlier c, typed = earlier ++ [c] := by
      rcases List.eq_nil_or_concat typed with rfl | ⟨earlier, c, rfl⟩
      · cases hlength
      · exact ⟨earlier, c, List.concat_eq_append⟩
    rw [← List.append_assoc] at hs
    obtain ⟨hhost, hanswer⟩ := hs.handleKey_typed hescape text
    rw [(hs.insert_backspace hback).1] at hhost
    rw [(hs.insert_backspace hback).2] at hanswer
    have hfewer : rest.length = earlier.length := by simpa using hlength
    obtain ⟨hlater, hanswers⟩ := ih (hs.after_withTexts (before ++ earlier) behind) hfewer hrest
    simp only [takeKeys, hanswer, hhost, hlater, hanswers]
    rw [withTexts_withTexts, List.length_append]
    exact ⟨rfl, rfl⟩

private theorem handleKey_escape (hs : h.Inserts row before behind) {key : Text} (hkey : key ∈ Engine.escapeKeys)
    (text : Option Text) :
    (h.handleKey key text).answer = .ok true ∧ (h.handleKey key text).host.lines = h.lines ∧
      (h.handleKey key text).host.mode = .normal ∧
      (h.handleKey key text).host.cursor = ⟨row, max 0 ((before.length : Int) - 1)⟩ := by
  have hroute : h.route key text = h.leaveInsert := by rw [route, if_pos hkey]
  have hescaped : ({ h with engine := h.engine.escape.value } : Host τ).cursor = ⟨row, before.length⟩ := by
    rw [Engine.value_escape]
    exact hs.cursor
  simp only [handleKey, hroute, leaveInsert, hs.mode, true_and, hescaped]
  split
  · next hpos =>
    have hstep : max 0 ((before.length : Int) - 1) = before.length - 1 := by omega
    rw [hstep, Engine.value_escape]
    exact ⟨rfl, rfl, rfl⟩
  · next hzero =>
    have hstep : max 0 ((before.length : Int) - 1) = before.length := by omega
    rw [hstep, hescaped, Engine.value_escape]
    exact ⟨rfl, rfl, rfl⟩

end Inserts

variable [Add τ] [LE τ] [DecidableLE τ]

/-- A text that is typed where the cursor is stands there with the cursor behind it, and nothing else of the
host is another. As many backspace keys bring back the host as it was; an escape key leaves the lines and puts
the cursor on the last character that was typed, or on the one before if there was none. -/
theorem type_at_cursor {column : Nat} {line typed : Text} (hmode : h.mode = .insert)
    (hcursor : h.cursor = ⟨row, column⟩) (hline : h.lines[row]? = some line) (hcolumn : column ≤ line.length)
    (htyped : ∀ c ∈ typed, Text.isPrintable c = true) :
    let after := (h.type typed).host
    (h.type typed).answer = .ok (List.replicate typed.length true) ∧
      after.lines = h.lines.set row (line.take column ++ typed ++ line.drop column) ∧
      after.engine = { h.engine with
        session := { h.engine.session with position := ⟨row, column + typed.length⟩ } } ∧
      (∀ keys : List (Text × Option Text), keys.length = typed.length → (∀ key ∈ keys, TakesBack key) →
        (after.takeKeys keys).host = h ∧
          (after.takeKeys keys).answer = .ok (List.replicate typed.length true)) ∧
      ∀ key ∈ Engine.escapeKeys, ∀ text,
        (after.handleKey key text).answer = .ok true ∧ (after.handleKey key text).host.lines = after.lines ∧
          (after.handleKey key text).host.mode = .normal ∧
          (after.handleKey key text).host.cursor = ⟨row, max 0 ((column : Int) + typed.length - 1)⟩ := by
  intro after
  have hbefore : (line.take column).length = column := List.length_take_of_le hcolumn
  have hs : h.Inserts row (line.take column) (line.drop column) :=
    ⟨hmode, by rw [hbefore]; exact hcursor, by rw [List.take_append_drop]; exact hline⟩
  obtain ⟨hhost, hanswer⟩ := hs.type_text htyped
  have hplace : (line.take column ++ typed).length = column + typed.length := by
    rw [List.length_append, hbefore]
  have hafter : after = h.withTexts row (line.take column ++ typed) (line.drop column) := hhost
  have hthere := hs.after_withTexts (line.take column ++ typed) (line.drop column)
  rw [← hafter] at hthere
  -- the host is the old one with other texts around the cursor, so the rest is read off it
  refine ⟨hanswer, ?_, ?_, ?_, ?_⟩
  · rw [hafter]
    rfl
  · rw [hafter, withTexts, hplace]
    rfl
  · intro keys hlength hkeys
    obtain ⟨hback, hanswers⟩ := hthere.takeKeys_back hlength hkeys
    rw [hafter, withTexts_withTexts, hs.withTexts_same] at hback
    exact ⟨hafter ▸ hback, hanswers⟩
  · intro key hkey text
    have hleft := hthere.handleKey_escape hkey text
    rw [hplace, Int.natCast_add] at hleft
    exact hleft

/-- A changed word: what is typed in its place begins with a blank, is taken back and is typed again. -/
theorem type_at_cursor_change :
    let first : Host Nat := (start (Engine.start {} 3 0 none) [['x'], ['a', ' ', 'b']]).host
    let h : Host Nat := ((first.moveTo ⟨1, 0⟩).type ['c', 'i', 'w']).host
    let typed : Text := [' ', 'i', '\'']
    h.mode = .insert ∧ (h.type typed).host.lines = [['x'], [' ', 'i', '\'', ' ', 'b']] ∧
      ((h.type typed).host.takeKeys [("backspace".toList, none), (['\x7f'], none),
        (['\x08'], some ['\x08'])]).host = h ∧
      ((h.type typed).host.handleKey "ESC".toList none).host.cursor = ⟨1, 2⟩ := by
  intro first h typed
  have hmode : h.mode = .insert := by decide
  have hcursor : h.cursor = ⟨(1 : Nat), (0 : Nat)⟩ := by decide
  have hline : h.lines[1]? = some [' ', 'b'] := by decide
  have htyped : typed.all Text.isPrintable = true := by decide
  obtain ⟨-, hlines, -, hback, hleft⟩ := type_at_cursor hmode hcursor hline (Nat.zero_le _) (List.all_eq_true.1 htyped)
  refine ⟨hmode, hlines.trans (by decide), (hback _ rfl ?_).1, ?_⟩
  · unfold TakesBack
    decide
  · exact (hleft _ (by decide) none).2.2.2.trans (by decide)

end Host
end ModalEditor
