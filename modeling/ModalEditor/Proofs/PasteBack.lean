import ModalEditor.Proofs.Pieces
/-!
# Pasting back what was deleted

A deleted piece of a line comes back with a paste before the cursor, and deleted lines come back with a
paste above or below it. The unnamed register carries the text from one command to the other. Only a
single empty line is lost: its text is the empty one, and an empty text is not pasted.
-/
namespace ModalEditor

variable {τ : Type}

/-! ### Registers -/

/-- A name under which a text is written as it is: the unnamed register's, or a lowercase letter or a digit
of ASCII. -/
def isPlainName (name : Text) : Bool :=
  match name with
  | [c] => c = unnamed || c.isLower || c.isDigit
  | _ => false

namespace RegisterBank

theorem lookup_putEntry_self (entries : List (Char × RegisterValue)) (name : Char)
    (value : RegisterValue) : (putEntry entries name value).lookup name = some value := by
  induction entries with
  | nil => simp [putEntry]
  | cons entry rest ih =>
    obtain ⟨n, v⟩ := entry
    by_cases h : n = name
    · simp [putEntry, h]
    · have hne : (name == n) = false := by simpa using Ne.symm h
      simp [putEntry, h, List.lookup_cons, ih, hne]

private theorem get_unnamed_write (bank : RegisterBank) (name : Char) (value : RegisterValue) :
    (bank.write name value).get [unnamed] = value := by
  have hlower : Text.lower [unnamed] = [unnamed] := by decide
  simp [get, find?, hlower, write, lookup_putEntry_self]

private theorem set_of_plain {name : Text} (h : isPlainName name = true) (bank : RegisterBank)
    (value : RegisterValue) : ∃ c, bank.set name value = .ok (bank.write c value) := by
  unfold isPlainName at h
  split at h
  · next c =>
    refine ⟨c, ?_⟩
    simp only [Bool.or_eq_true, decide_eq_true_eq] at h
    obtain ⟨hname, hupper⟩ : isRegisterName [c] = true ∧ Text.isUpper c = false := by
      rcases h with (rfl | h) | h
      · exact ⟨by decide, by decide⟩
      · exact ⟨by simp [isRegisterName, Text.isAlphanumeric_of_isAlphanum, Text.isAlphanum_iff, h],
          Text.isUpper_eq_false (.inl h)⟩
      · exact ⟨by simp [isRegisterName, Text.isAlphanumeric_of_isAlphanum, Text.isAlphanum_iff, h],
          Text.isUpper_eq_false (.inr h)⟩
    simp [set, hname, hupper]
  · cases h

private theorem get_unnamed_of_store {bank after : RegisterBank} {name : Option Text} {value : RegisterValue}
    (hname : ∀ n ∈ name, isPlainName n = true) (h : bank.store name value = .ok after) :
    after.get [unnamed] = value := by
  have hplain : isPlainName (nameOr name) = true := by
    rcases name with _ | _ | ⟨c, rest⟩
    · decide
    · exact absurd (hname [] rfl) (by decide)
    · exact hname _ rfl
  obtain ⟨c, hset⟩ := bank.set_of_plain hplain value
  rw [store, hset] at h
  rw [← Except.ok.inj h]
  exact bank.get_unnamed_write c value

end RegisterBank

/-! ### Pastes -/

def pasteOnce (text : Text) (position : Position) (lines : List Text) (before linewise : Bool) :
    Option Edit :=
  if text = [] ∨ hasLine lines position.line = false then none
  else if linewise then some (pasteLines (Text.lines text) position lines before)
  else some (pasteInside text position lines before)

private theorem pasteText_one (text : Text) (position : Position) (lines : List Text) (before linewise : Bool) :
    pasteText text position lines before linewise 1 =
      .ok (pasteOnce text position lines before linewise) := by
  unfold pasteText pasteOnce
  rw [show max (1 : Int) 1 = 1 from rfl, copies_one, Text.copies_one]
  split
  · rfl
  · split <;> rfl

theorem Engine.execute_inside (e : Engine τ) (c : Command) {lines : List Text}
    {cursor : Option Position} {p : Position} (hcursor : cursor.getD e.session.position = p)
    (hinside : Inside lines p) :
    let settled := (e.session.settle c lines p (c.context.written.bind fun _ =>
      (c.edit e.session.registers e.settings.indentStyle p lines).value)).value
    (e.execute c lines cursor).value = ({ e with session := settled.1 }, settled.2) := by
  rw [value_execute, Session.value_execute, hcursor, ensurePosition_of_inside hinside]

theorem Engine.execute_pasteFrom (e : Engine τ) (op : Operator) (register : Option Text)
    (cursor : Option Position) {lines : List Text} {p : Position} (hop : op ∈ [.paste, .pasteBefore])
    (hcursor : cursor.getD e.session.position = p) (hinside : Inside lines p) :
    let value := e.session.registers.get (RegisterBank.nameOr register)
    ∃ o, (e.execute { operator := some op, register } lines cursor).value.2 = .ok o ∧
      o.lines = ((pasteOnce value.text p lines (op = .pasteBefore) value.linewise).map
        Edit.lines).getD lines := by
  intro value
  simp only [List.mem_cons, List.not_mem_nil, or_false] at hop
  -- what the log says about the command does not depend on the register
  obtain ⟨context, hcontext⟩ : ∃ context,
      ({ operator := some op } : Command).context.written = .ok context := by
    rcases hop with rfl | rfl <;> exact ⟨_, rfl⟩
  have hfound : (({ operator := some op, register } : Command).context.written.bind fun _ =>
      (({ operator := some op, register } : Command).edit e.session.registers e.settings.indentStyle
        p lines).value) =
          .ok (pasteOnce value.text p lines (op = .pasteBefore) value.linewise) := by
    have hsame : ({ operator := some op, register } : Command).context.written = .ok context := hcontext
    rw [hsame]
    rcases hop with rfl | rfl <;> exact pasteText_one ..
  obtain ⟨text, hwritten⟩ : ∃ text,
      ({ operator := some op, register } : Command).written = .ok text := ⟨_, rfl⟩
  rw [e.execute_inside _ hcursor hinside, hfound]
  cases hpaste : pasteOnce value.text p lines (op = .pasteBefore) value.linewise with
  | none =>
    rw [Session.settle, Session.value_decline, hwritten]
    exact ⟨_, rfl, rfl⟩
  | some edit =>
    have hstored : e.session.stored { operator := some op, register } edit = .ok e.session := by
      rcases hop with rfl | rfl <;> rfl
    rw [Session.settle, Session.value_commit, hstored]
    exact ⟨_, rfl, rfl⟩

private theorem Engine.execute_paste (e : Engine τ) (op : Operator) {lines : List Text}
    (hop : op ∈ [.paste, .pasteBefore]) (hinside : Inside lines e.session.position) :
    let value := e.session.registers.get [unnamed]
    ∃ o, (e.execute { operator := some op } lines none).value.2 = .ok o ∧
      o.lines = ((pasteOnce value.text e.session.position lines (op = .pasteBefore)
        value.linewise).map Edit.lines).getD lines :=
  e.execute_pasteFrom op none none hop rfl hinside

/-! ### Pieces of a line -/

section

variable {lines : List Text} {row : Nat} {line : Text}

theorem take_append_piece_append_drop {α : Type} (xs : List α) {first stop : Nat} (hle : first ≤ stop) :
    xs.take first ++ (xs.take stop).drop first ++ xs.drop stop = xs := by
  have hfirst : xs.take first = (xs.take stop).take first := by
    rw [List.take_take, Nat.min_eq_left hle]
  rw [hfirst, List.take_append_drop, List.take_append_drop]

private theorem pasteOnce_piece (hat : lines[row]? = some line) (hbreak : '\n' ∉ line) {first stop : Nat}
    (hle : first ≤ stop) (hstop : stop ≤ line.length) (htaken : (line.take stop).drop first ≠ []) :
    (pasteOnce ((line.take stop).drop first) ⟨row, first⟩
      (lines.set row (line.take first ++ line.drop stop)) true false).map Edit.lines = some lines := by
  obtain ⟨hlt, rfl⟩ := List.getElem?_eq_some_iff.1 hat
  have hrest : (lines.set row (lines[row].take first ++ lines[row].drop stop))[row]? =
      some (lines[row].take first ++ lines[row].drop stop) := List.getElem?_set_self hlt
  have hlength : (lines[row].take first).length = first := List.length_take_of_le (by omega)
  have hbefore : (lines[row].take first ++ lines[row].drop stop).take first = lines[row].take first := by
    rw [List.take_append_of_le_length (by omega), List.take_of_length_le (by omega)]
  have hafter : (lines[row].take first ++ lines[row].drop stop).drop first = lines[row].drop stop := by
    rw [List.drop_append_of_le_length (by omega), List.drop_of_length_le (by omega), List.nil_append]
  rw [pasteOnce, if_neg (by simp [htaken, hasLine_of_getElem? hrest]), if_neg Bool.false_ne_true]
  simp only [pasteInside, lineOf_of_getElem? hrest, Bool.true_eq_false, false_and, if_false,
    Slice.before_natCast, Slice.after_natCast, hbefore, hafter, take_append_piece_append_drop _ hle,
    Text.lines_of_no_break hbreak, Int.toNat_natCast, Option.map_some, Option.some.injEq]
  rw [List.take_set_of_le (Nat.le_refl row), List.drop_set_of_lt (Nat.lt_succ_self row),
    List.append_assoc, List.singleton_append, ← List.drop_eq_getElem_cons hlt, List.take_append_drop]

end

namespace Engine

/-- A deleted piece of a line comes back. If a delete on a motion or a text object took any text, then a
paste before the cursor that it left restores the lines. -/
theorem delete_pasteBefore {e : Engine τ} {c : Command} {lines : List Text} {cursor : Option Position}
    {o : Outcome} (hop : c.operator = some .delete) (hline : c.linewise = false)
    (hregister : ∀ name ∈ c.register, isPlainName name = true) (hl : ∀ line ∈ lines, '\n' ∉ line)
    (h : (e.execute c lines cursor).value.2 = .ok o) (htaken : o.deleted ≠ []) :
    let after := (e.execute c lines cursor).value.1
    ∃ back, (after.execute { operator := some .pasteBefore } o.lines none).value.2 = .ok back ∧
      back.lines = lines := by
  intro after
  have hbusy : o ≠ c.idleOutcome lines (cursor.getD e.session.position) := by
    intro hidle
    rw [hidle] at htaken
    exact htaken rfl
  obtain ⟨edit, hinside, hedit, rfl, htook, -⟩ := execute_done (Prod.ext rfl h) hbusy
  -- what was taken is a piece of the cursor's line
  have hwidth : 0 < e.settings.indentStyle.width := Int.natCast_pos.2 e.settings.tabWidth_pos
  have hsound := Command.edit_sound hwidth ⟨hl, hinside⟩ hedit
  obtain ⟨row, column, line, hposition, hat, hcolumn⟩ := hinside
  rw [hposition] at hedit
  obtain ⟨first, stop, hle, hstop, hpiece⟩ := Command.edit_piece hline hat hcolumn
  have hsame : ({ c with operator := some .delete, register := c.register } : Command) = c := by
    rw [← hop]
  have hcut : edit = Operator.delete.onPiece lines row line first stop :=
    hpiece .delete c.register e.session.registers e.settings.indentStyle edit rfl (by rw [hsame]; exact hedit)
  subst hcut
  -- the unnamed register holds it, and the cursor is where it was
  have hstored := htook.registers
  rw [if_pos ⟨by simp [hop], .inl htaken⟩, hline] at hstored
  have hvalue := RegisterBank.get_unnamed_of_store hregister hstored
  have hcursor : after.session.position = ⟨row, first⟩ := htook.position
  obtain ⟨back, hback, hlines⟩ := after.execute_paste .pasteBefore (by decide)
    (by rw [hcursor]; exact hsound.inside)
  refine ⟨back, hback, ?_⟩
  rw [hlines, hvalue, hcursor]
  have hrestored := pasteOnce_piece hat (hl line (List.mem_of_getElem? hat)) hle hstop htaken
  exact congrArg (Option.getD · (Operator.delete.onPiece lines row line first stop).lines) hrestored

/-- Two words go into a register of their own and come back. -/
theorem delete_pasteBefore_words :
    let c : Command := ⟨some .delete, some (.motion ['w']), some ⟨2, by decide⟩, some ['a']⟩
    let lines : List Text := [[], ['(', 'a', ' ', 'b', ')', 'c']]
    let after := ((Engine.start {} 3 0 none : Engine Nat).execute c lines (some ⟨1, 1⟩)).value.1
    ∃ back, (after.execute { operator := some .pasteBefore } [[], ['(', 'c']] none).value.2 = .ok back ∧
      back.lines = lines :=
  delete_pasteBefore (c := ⟨some .delete, some (.motion ['w']), some ⟨2, by decide⟩, some ['a']⟩)
    (o := ⟨_, [[], ['(', 'c']], ⟨1, 1⟩, ['a', ' ', 'b', ')'], some ['a'], false⟩)
    rfl rfl (by decide) (by decide) (by rfl) (by decide)

end Engine

/-! ### Whole lines -/

section

variable {lines : List Text} {row : Nat} {line : Text}

private theorem cutLines_block (hat : lines[row]? = some line) (column : Int) {n block : Nat} (hn : 0 < n)
    (hblock : block = min n (lines.length - row)) (hrest : block < lines.length) :
    ∃ left : Int, cutLines false ⟨row, column⟩ lines n =
      .ok ⟨lines.take row ++ lines.drop (row + block), Text.unlines ((lines.drop row).take block),
        ⟨(min row (lines.length - block - 1) : Nat), left⟩⟩ := by
  obtain ⟨last, stop, hrow, hin, hnext, hrange⟩ := linewiseRange_row hat column n
  have hcount : (max (n : Int) 1).toNat = n := by omega
  rw [hcount, ← hblock] at hnext
  have hnextInt : ((last : Int) + 1).toNat = row + block := by omega
  have hkept : (lines.take row ++ lines.drop (row + block)).length = lines.length - block := by
    rw [List.length_append, List.length_take, List.length_drop]
    omega
  have hsome : lines.take row ++ lines.drop (row + block) ≠ [] := by
    intro hnone
    rw [hnone, List.length_nil] at hkept
    omega
  have hremoved : (lines.take (row + block)).drop row = (lines.drop row).take block := by
    rw [List.drop_take, Nat.add_sub_cancel_left]
  simp only [cutLines, hrange, bind, Except.bind, pure, Except.pure, Int.toNat_natCast, hnextInt,
    hremoved, Bool.false_eq_true, if_false, if_neg hsome, hkept]
  exact ⟨_, rfl⟩

private theorem unlines_block_eq_nil_iff (hat : lines[row]? = some line) {block : Nat} (hblock : 0 < block)
    (hin : row + block ≤ lines.length) :
    Text.unlines ((lines.drop row).take block) = [] ↔ line = [] ∧ block = 1 := by
  obtain ⟨hlt, rfl⟩ := List.getElem?_eq_some_iff.1 hat
  obtain ⟨n, rfl⟩ : ∃ n, block = n + 1 := ⟨block - 1, by omega⟩
  rw [List.drop_eq_getElem_cons hlt, List.take_succ_cons]
  cases hmore : (lines.drop (row + 1)).take n with
  | nil =>
    have hlength := congrArg List.length hmore
    rw [List.length_take, List.length_drop, List.length_nil] at hlength
    have hone : n = 0 := by omega
    simp [Text.unlines, hone]
  | cons second more =>
    have hne : n ≠ 0 := by
      intro hzero
      rw [hzero, List.take_zero] at hmore
      cases hmore
    simp [Text.unlines, hne]

/-- Lines that were taken out as a block go back above the line that followed them, or below the last line
if none did. Only the empty text is not pasted. -/
theorem pasteOnce_block (hl : ∀ line ∈ lines, '\n' ∉ line) {block : Nat} (hblock : 0 < block)
    (hin : row + block ≤ lines.length) (hrest : block < lines.length) (left : Int) :
    (pasteOnce (Text.unlines ((lines.drop row).take block))
        ⟨(min row (lines.length - block - 1) : Nat), left⟩ (lines.take row ++ lines.drop (row + block))
        (row + block ≠ lines.length) true).map Edit.lines =
      if Text.unlines ((lines.drop row).take block) = [] then none else some lines := by
  have hfront : (lines.take row).length = row := List.length_take_of_le (by omega)
  have hhas : hasLine (lines.take row ++ lines.drop (row + block))
      (min row (lines.length - block - 1) : Nat) = true := by
    rw [hasLine_iff, List.length_append, hfront, List.length_drop]
    omega
  have hsingle : SingleLines ((lines.drop row).take block) :=
    SingleLines.take (SingleLines.drop hl row) block
  have hsome : (lines.drop row).take block ≠ [] := by
    intro hnone
    have hlength := congrArg List.length hnone
    rw [List.length_take, List.length_drop, List.length_nil] at hlength
    omega
  -- the block stood above the cursor's line, or below it if that is the last line now
  have hbelow : (if decide (row + block ≠ lines.length) = true then min row (lines.length - block - 1)
      else min row (lines.length - block - 1) + 1) = row := by
    by_cases hend : row + block = lines.length
    · rw [if_neg (by simp [hend])]
      omega
    · rw [if_pos (by simp [hend])]
      omega
  have htake : (lines.take row ++ lines.drop (row + block)).take row = lines.take row := by
    rw [List.take_append_of_le_length (by omega), List.take_of_length_le (by omega)]
  have hdrop : (lines.take row ++ lines.drop (row + block)).drop row = lines.drop (row + block) := by
    rw [List.drop_append_of_le_length (by omega), List.drop_of_length_le (by omega), List.nil_append]
  have hwhole := take_append_piece_append_drop lines (Nat.le_add_right row block)
  rw [List.drop_take, Nat.add_sub_cancel_left] at hwhole
  by_cases hempty : Text.unlines ((lines.drop row).take block) = []
  · rw [if_pos hempty, pasteOnce, if_pos (.inl hempty), Option.map_none]
  · rw [if_neg hempty, pasteOnce, if_neg (not_or.2 ⟨hempty, (Bool.not_eq_false _).mpr hhas⟩),
      if_pos rfl]
    simp only [pasteLines, Int.toNat_natCast, hbelow, htake, hdrop, Text.lines_unlines hsome hsingle]
    rw [Option.map_some, hwhole]

end

def Command.deleteLines (count : Option Count) : Command :=
  ⟨some .delete, some (.motion ['d', 'd']), count, none⟩

namespace Session

private theorem stored_deleteLines (s : Session) (count : Option Count) (edit : Edit) :
    s.stored (.deleteLines count) edit =
      .ok { s with registers := s.registers.write unnamed ⟨edit.taken, .line⟩ } := by
  have hstores : (Command.deleteLines count).stores edit = true :=
    Command.stores_iff.2 ⟨by simp [Command.deleteLines], .inr rfl⟩
  rw [stored, if_pos hstores]
  rfl

end Session

/-- The numbers that can be written into the log. -/
def Loggable (n : Nat) : Prop := (Nat.toDigits 10 n).length ≤ Text.numeralLimit

instance : DecidablePred Loggable := fun _ => inferInstanceAs (Decidable (_ ≤ _))

theorem writeInt_natCast (n : Nat) :
    Text.writeInt n = if Loggable n then .ok (Text.intDigits n) else .error .numberTooLong := rfl

private theorem Command.found_deleteLines {lines : List Text} {row : Nat} {line : Text}
    (hat : lines[row]? = some line) (column : Int) (count : Option Count) (registers : RegisterBank)
    (style : IndentStyle) :
    ((deleteLines count).context.written.bind fun _ =>
        ((deleteLines count).edit registers style ⟨row, column⟩ lines).value) =
      if Loggable (deleteLines count).times ∧ Loggable row then
        some <$> cutLines false ⟨row, column⟩ lines (deleteLines count).times
      else .error .numberTooLong := by
  have hedit : ((deleteLines count).edit registers style ⟨row, column⟩ lines).value =
      (Fields.written [("line".toList, .integer row),
        ("count".toList, .integer (deleteLines count).times)]).bind
          fun _ => some <$> cutLines false ⟨row, column⟩ lines (deleteLines count).times :=
    Operator.value_operateLines .delete _ style (hasLine_of_getElem? hat)
  rw [hedit]
  simp only [context, Fields.written, Fields.mapValues, Value.written, Value.nested, writeInt_natCast]
  by_cases hn : Loggable (deleteLines count).times
  · by_cases hrow : Loggable row
    · simp only [hn, hrow, and_self, if_true]
      rfl
    · simp only [hn, hrow, and_false, if_true, if_false]
      rfl
  · simp only [hn, false_and, if_false]
    rfl

namespace Engine

variable {e : Engine τ} {lines : List Text} {cursor : Option Position} {row column block : Nat}
  {line : Text} {count : Option Count}

private theorem execute_deleteLines (hl : ∀ line ∈ lines, '\n' ∉ line) (hat : lines[row]? = some line)
    (hcolumn : column ≤ line.length) (hcursor : cursor.getD e.session.position = ⟨row, column⟩)
    (hblock : block = min (Command.deleteLines count).times (lines.length - row))
    (hrest : block < lines.length) :
    let run := (e.execute (.deleteLines count) lines cursor).value
    if Loggable (Command.deleteLines count).times ∧ Loggable row then
      ∃ o left, run.2 = .ok o ∧ o.lines = lines.take row ++ lines.drop (row + block) ∧
        run.1.session.position = ⟨(min row (lines.length - block - 1) : Nat), left⟩ ∧
        Inside o.lines run.1.session.position ∧
        run.1.session.registers.get [unnamed] = ⟨Text.unlines ((lines.drop row).take block), .line⟩
    else ∃ fault, run.2 = .error fault := by
  intro run
  have hinside : Inside lines ⟨row, column⟩ := ⟨row, column, line, rfl, hat, hcolumn⟩
  have hrun : run = _ := e.execute_inside (.deleteLines count) hcursor hinside
  rw [Command.found_deleteLines hat] at hrun
  split
  · next hfits =>
    obtain ⟨left, hcut⟩ := cutLines_block hat column (Command.times_pos _) hblock hrest
    have hsound := cutLines_sound hl hat column hcut
    rw [if_pos hfits, hcut] at hrun
    simp only [Functor.map, Except.map, Session.settle, Session.value_commit,
      Session.stored_deleteLines] at hrun
    refine ⟨_, left, congrArg Prod.snd hrun, rfl, ?_⟩
    rw [hrun]
    exact ⟨rfl, hsound.inside, RegisterBank.get_unnamed_write _ _ _⟩
  · next hlong =>
    rw [if_neg hlong] at hrun
    exact ⟨_, congrArg Prod.snd hrun⟩

private theorem paste_deleteLines (hl : ∀ line ∈ lines, '\n' ∉ line) (hat : lines[row]? = some line)
    (hcolumn : column ≤ line.length) (hcursor : cursor.getD e.session.position = ⟨row, column⟩)
    (hblock : block = min (Command.deleteLines count).times (lines.length - row))
    (hrest : block < lines.length) :
    let cut := (e.execute (.deleteLines count) lines cursor).value
    let op : Operator := if row + block = lines.length then .paste else .pasteBefore
    if Loggable (Command.deleteLines count).times ∧ Loggable row then
      ∃ o back, cut.2 = .ok o ∧
        (cut.1.execute { operator := some op } o.lines none).value.2 = .ok back ∧
        back.lines = if line = [] ∧ block = 1 then lines.take row ++ lines.drop (row + block) else lines
    else ∃ fault, cut.2 = .error fault := by
  intro cut op
  have hlt := (List.getElem?_eq_some_iff.1 hat).1
  have hpos := (Command.deleteLines count).times_pos
  have hsome : 0 < block := by omega
  have hin : row + block ≤ lines.length := by omega
  have hcut := execute_deleteLines hl hat hcolumn hcursor hblock hrest
  split
  · next hfits =>
    rw [if_pos hfits] at hcut
    obtain ⟨o, left, ho, hlines, hposition, hinside, hvalue⟩ := hcut
    have hop : op ∈ [.paste, .pasteBefore] := by
      simp only [op]
      split <;> decide
    have hbefore : decide (op = .pasteBefore) = decide (row + block ≠ lines.length) := by
      by_cases hend : row + block = lines.length <;> simp [op, hend]
    obtain ⟨back, hback, hfinal⟩ := cut.1.execute_paste op hop hinside
    have hpasted := pasteOnce_block hl hsome hin hrest left
    refine ⟨o, back, ho, hback, ?_⟩
    rw [hfinal, hvalue, hposition, hbefore, hlines]
    refine (congrArg (Option.getD · _) hpasted).trans ?_
    simp only [unlines_block_eq_nil_iff hat hsome hin]
    split <;> rfl
  · next hlong =>
    rwa [if_neg hlong] at hcut

/-- A doubled delete comes back. The paste restores the lines unless the block is a single empty line,
whose text counts as none; the log must be able to hold the count and the row. -/
theorem deleteLines_paste_iff (hl : ∀ line ∈ lines, '\n' ∉ line) (hat : lines[row]? = some line)
    (hcolumn : column ≤ line.length) (hcursor : cursor.getD e.session.position = ⟨row, column⟩)
    (hblock : block = min (Command.deleteLines count).times (lines.length - row))
    (hrest : block < lines.length) :
    let cut := (e.execute (.deleteLines count) lines cursor).value
    let op : Operator := if row + block = lines.length then .paste else .pasteBefore
    (∃ o back, cut.2 = .ok o ∧
        (cut.1.execute { operator := some op } o.lines none).value.2 = .ok back ∧ back.lines = lines) ↔
      ¬(line = [] ∧ block = 1) ∧
        Loggable (Command.deleteLines count).times ∧ Loggable row := by
  intro cut op
  have hpaste := paste_deleteLines hl hat hcolumn hcursor hblock hrest
  -- without the empty line that was deleted there is one line too few
  have hshort : block = 1 → lines.take row ++ lines.drop (row + block) ≠ lines := by
    intro hone hsame
    have hlt := (List.getElem?_eq_some_iff.1 hat).1
    have hlength := congrArg List.length hsame
    rw [List.length_append, List.length_take, List.length_drop] at hlength
    omega
  constructor
  · rintro ⟨o, back, ho, hback, hlines⟩
    by_cases hfits : Loggable (Command.deleteLines count).times ∧ Loggable row
    · rw [if_pos hfits] at hpaste
      obtain ⟨o', back', ho', hback', hlines'⟩ := hpaste
      cases Except.ok.inj (ho.symm.trans ho')
      cases Except.ok.inj (hback.symm.trans hback')
      refine ⟨fun hempty => ?_, hfits⟩
      rw [if_pos hempty, hlines] at hlines'
      exact hshort hempty.2 hlines'.symm
    · rw [if_neg hfits] at hpaste
      obtain ⟨fault, hfault⟩ := hpaste
      cases ho.symm.trans hfault
  · rintro ⟨hsome, hfits⟩
    rw [if_pos hfits] at hpaste
    obtain ⟨o, back, ho, hback, hlines⟩ := hpaste
    rw [if_neg hsome] at hlines
    exact ⟨o, back, ho, hback, hlines⟩

/-- Two lines, one of them empty, come back to the end of the buffer. -/
theorem deleteLines_paste_iff_tail :
    let lines : List Text := [['a'], ['b', 'c'], []]
    let cut := ((Engine.start {} 3 0 none : Engine Nat).execute (.deleteLines (some ⟨5, by decide⟩))
      lines (some ⟨1, 2⟩)).value
    ∃ o back, cut.2 = .ok o ∧
      (cut.1.execute { operator := some .paste } o.lines none).value.2 = .ok back ∧
      back.lines = lines :=
  have hback := @deleteLines_paste_iff Nat (Engine.start {} 3 0 none) [['a'], ['b', 'c'], []]
    (some ⟨1, 2⟩) 1 2 2 ['b', 'c'] (some ⟨5, by decide⟩) (by decide) rfl (by decide) rfl rfl (by decide)
  hback.2 ⟨by decide, by decide, by decide⟩

/-- An empty line on its own is lost: what was stored for it is not pasted. -/
theorem deleteLines_empty_lost :
    let lines : List Text := [[], ['a']]
    let cut := ((Engine.start {} 3 0 none : Engine Nat).execute (.deleteLines none) lines none).value
    ∃ o back, cut.2 = .ok o ∧
      (cut.1.execute { operator := some .pasteBefore } o.lines none).value.2 = .ok back ∧
      back.lines ≠ lines :=
  ⟨_, _, rfl, rfl, by decide⟩

end Engine
end ModalEditor
