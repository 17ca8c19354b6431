import ModalEditor.Proofs.Refusals
import ModalEditor.Proofs.Spans
/-!
# Contexts that are left behind

A step of the engine closes every block that it opens, and it takes away every context that it adds, also when
it fails, with one exception. A span whose metadata has a number that is too long for the log stops before it
begins, and what it already put into the context stays there.
-/
namespace ModalEditor

/-- Some calls close their blocks, and they leave keys in the context exactly if something is the case. -/
def StrandsIff (calls : List LogCall) (p : Prop) : Prop := ∃ left, Leaves calls left ∧ (left ≠ [] ↔ p)

/-- Metadata of which the first value can be written, but not every one. -/
def Fields.Cut (fields : Fields Value) : Prop :=
  fields.writtenFront ≠ [] ∧ ∃ fault, fields.written = .error fault

namespace StrandsIff

variable {calls more : List LogCall} {p q : Prop}

private theorem of_leaves_nil (h : Leaves calls []) (hp : ¬p) : StrandsIff calls p :=
  ⟨[], h, iff_of_false (fun h => h rfl) hp⟩

theorem nil (hp : ¬p) : StrandsIff [] p := of_leaves_nil .nil hp

theorem congr (h : StrandsIff calls p) (hpq : p ↔ q) : StrandsIff calls q := by
  obtain ⟨left, hleft, hiff⟩ := h
  exact ⟨left, hleft, hiff.trans hpq⟩

theorem append (h : StrandsIff calls p) (hmore : StrandsIff more q) : StrandsIff (calls ++ more) (p ∨ q) := by
  obtain ⟨left, hleft, hiff⟩ := h
  obtain ⟨others, hothers, hiff'⟩ := hmore
  refine ⟨left ++ others, hleft.append hothers, ?_⟩
  rw [← hiff, ← hiff', Ne, List.append_eq_nil_iff, not_and_or]

private theorem append_closed (h : StrandsIff calls False) (hmore : StrandsIff more q) :
    StrandsIff (calls ++ more) q := (h.append hmore).congr (or_iff_right not_false)

theorem contextsClosed_iff (h : StrandsIff calls p) : ContextsClosed calls ↔ ¬p := by
  obtain ⟨left, hleft, hiff⟩ := h
  rw [hleft.contextsClosed_iff, ← hiff, not_not]

theorem blocksClosed (h : StrandsIff calls p) : BlocksClosed calls := by
  obtain ⟨left, hleft, -⟩ := h
  exact hleft.blocksClosed

section

variable {α : Type} {name component : Text} {metadata : Fields Value} {status : α → Option Text}
  {work : Logged (Except Fault α)}

theorem spanned_of_error {fault : Fault} (h : metadata.written = .error fault) :
    StrandsIff (spanned none name component metadata status work).calls metadata.Cut :=
  ⟨_, .spanned_of_error h, by simp [Fields.Cut, h]⟩

/-- A span leaves what is left of its metadata if they are cut, and else what its work leaves. -/
theorem spanned (hwork : StrandsIff work.calls p) :
    StrandsIff (spanned none name component metadata status work).calls
      (metadata.Cut ∨ (∃ notes, metadata.written = .ok notes) ∧ p) := by
  cases h : metadata.written with
  | error fault => exact (spanned_of_error h).congr (by simp)
  | ok notes =>
    obtain ⟨left, hleft, hiff⟩ := hwork
    refine ⟨left, .spanned_of_ok h hleft, ?_⟩
    simp [Fields.Cut, h, hiff]

private theorem spanned_texts (h : ∃ notes, metadata.written = .ok notes) (status : α → Option Text)
    (answer : Except Fault α) (hp : ¬p) :
    StrandsIff (ModalEditor.spanned none name component metadata status (pure answer)).calls p := by
  obtain ⟨notes, hnotes⟩ := h
  exact of_leaves_nil (.spanned_of_ok hnotes .nil) hp

end

end StrandsIff

/-! ### Metadata -/

private theorem Fields.cut_cons_iff {key : Text} {value : Value} {rest : Fields Value}
    (h : ∀ entry ∈ (key, value) :: rest, entry.2.Simple) :
    Fields.Cut ((key, value) :: rest) ↔ value.Brief ∧ ¬∀ entry ∈ rest, entry.2.Brief := by
  have hall : (∀ entry ∈ (key, value) :: rest, entry.2.Brief) ↔
      value.Brief ∧ ∀ entry ∈ rest, entry.2.Brief := List.forall_mem_cons
  by_cases hfirst : value.Brief
  · obtain ⟨t, ht⟩ := hfirst.written
    have hfront : writtenFront ((key, value) :: rest) ≠ [] := by simp [writtenFront, ht]
    by_cases hrest : ∀ entry ∈ rest, entry.2.Brief
    · obtain ⟨texts, htexts⟩ := Fields.written_of_brief (hall.2 ⟨hfirst, hrest⟩)
      refine iff_of_false (fun hcut => ?_) fun hcut => hcut.2 hrest
      obtain ⟨fault, hfault⟩ := hcut.2
      rw [htexts] at hfault
      cases hfault
    · have hlong := Fields.written_of_not_brief h fun hbrief => hrest (hall.1 hbrief).2
      exact iff_of_true ⟨hfront, _, hlong⟩ ⟨hfirst, hrest⟩
  · have hlong := (h _ List.mem_cons_self).written_of_not_brief hfirst
    have hfront : writtenFront ((key, value) :: rest) = [] := by
      rw [writtenFront, hlong]
    exact iff_of_false (fun hcut => hcut.1 hfront) fun hcut => hfirst hcut.1

/-- The start of a range can be written into the log and its end cannot. -/
def Range.Overruns (range : Range) : Prop :=
  (Value.position range.start).Brief ∧ ¬(Value.position range.stop).Brief

private theorem not_overruns_point (p : Position) : ¬Range.Overruns ⟨p, p⟩ := fun h => h.2 h.1

private theorem operateContext_cut_iff (range : Range) {count : Nat} (hcount : Loggable count) :
    (operateContext range count).Cut ↔ range.Overruns := by
  have hsimple : ∀ entry ∈ operateContext range count, entry.2.Simple := by
    simp [operateContext, Value.Simple]
  have hbrief : (Value.integer count).Brief := hcount
  rw [operateContext, Fields.cut_cons_iff hsimple]
  simp [Range.Overruns, hbrief]

/-! ### Edits -/

section

variable {lines : List Text} {p : Position} {style : IndentStyle} {count : Nat}

private theorem Operator.operate_strandsIff (op : Operator) (range : Range) (lines : List Text)
    (hcount : Loggable count) (style : IndentStyle) :
    StrandsIff (op.operate range lines count style).calls (op.hasRange = true ∧ range.Overruns) := by
  unfold operate
  split
  · next hrange =>
    have hwork : StrandsIff (pure (op.onRange range lines count style) :
        Logged (Except Fault (Option Edit))).calls False := .nil not_false
    refine hwork.spanned.congr ?_
    rw [operateContext_cut_iff range hcount]
    simp [hrange]
  · next hrange => exact .nil fun h => hrange h.1

private theorem Operator.operateLines_strandsIff (op : Operator) (hline : hasLine lines p.line = true)
    (hcount : Loggable count) (style : IndentStyle) :
    StrandsIff (op.operateLines p lines count style).calls
      (op = .yank ∧ (wholeLine lines p.line).Overruns) := by
  have hcut (keepIndent : Bool) (name : Text) : StrandsIff (spanned none name "operators".toList
      [("line".toList, .integer p.line), ("count".toList, .integer count)] (fun _ => none)
      (pure (some <$> cutLines keepIndent p lines count))).calls False := by
    have hwork : StrandsIff (pure (some <$> cutLines keepIndent p lines count) :
        Logged (Except Fault (Option Edit))).calls False := .nil not_false
    refine hwork.spanned.congr ?_
    have hbrief : (Value.integer count).Brief := hcount
    rw [Fields.cut_cons_iff (by simp [Value.Simple])]
    simp [hbrief]
  have hpoint := not_overruns_point p
  unfold operateLines
  rw [if_neg (by rw [hline]; decide)]
  cases op with
  | delete => exact (hcut false _).congr (by simp)
  | change => exact (hcut true _).congr (by simp)
  | yank => exact (yank.operate_strandsIff (wholeLine lines p.line) lines hcount {}).congr (by simp [hasRange])
  | indent => exact (indent.operate_strandsIff ⟨p, p⟩ lines hcount style).congr (by simp [hpoint])
  | dedent => exact (dedent.operate_strandsIff ⟨p, p⟩ lines hcount style).congr (by simp [hpoint])
  | paste => exact .nil (by simp)
  | pasteBefore => exact .nil (by simp)
  | join => exact .nil (by simp)

private theorem Motion.reportedTimes_strandsIff (keys line : Text) (times : Nat) :
    StrandsIff (reportedTimes keys p line times).calls False := by
  have hreported : StrandsIff (reported keys p line).calls False :=
    .spanned_texts ⟨_, rfl⟩ foundStatus (reach keys p line) not_false
  unfold reportedTimes
  split
  · exact hreported
  · split
    · exact .nil not_false
    · split
      · exact .nil not_false
      · split
        · exact hreported
        · exact .nil not_false

/-- The range that an operator works on when it looks at both of its ends: that of the target, or a whole
line that is yanked. -/
inductive Command.Works (c : Command) (p : Position) (lines : List Text) : Range → Prop
  | target {op : Operator} {target : Target} {range : Range} (hop : c.operator = some op)
    (htakes : op.takesTarget = true) (htarget : c.target = some target) (hline : c.linewise = false)
    (hrange : target.range? c.times p (lineOf lines p.line) = .ok (some range)) : Works c p lines range
  | yankedLine (hop : c.operator = some .yank) (hline : c.linewise = true) :
    Works c p lines (wholeLine lines p.line)

private theorem Target.range?_motion_iff {keys line : Text} {times : Nat} {range : Range} :
    (Target.motion keys).range? times p line = .ok (some range) ↔
      ∃ whole, Motion.reachTimes keys p line times = .ok (some whole) ∧
        Motion.operatorRange keys whole = some range := by
  rw [range?, bind_eq_ok_iff]
  constructor
  · intro h
    obtain ⟨found, hreach, htrim⟩ := h
    obtain ⟨whole, rfl, hrange⟩ := Option.bind_eq_some_iff.1 (Except.ok.inj htrim)
    exact ⟨whole, hreach, hrange⟩
  · intro h
    obtain ⟨whole, hreach, hrange⟩ := h
    exact ⟨some whole, hreach, congrArg Except.ok hrange⟩

private theorem Command.onMotion_strandsIff (operator : Option Operator)
    (hop : ∀ op ∈ operator, op.takesTarget = true) (keys : Text) (times : Nat) (p : Position)
    (lines : List Text) (style : IndentStyle) :
    StrandsIff (onMotion operator keys times p lines style).calls
      (operator ≠ none ∧ ∃ range, (Target.motion keys).range? times p (lineOf lines p.line) =
        .ok (some range) ∧ range.Overruns) := by
  have hreported := @Motion.reportedTimes_strandsIff p keys (lineOf lines p.line) times
  rw [onMotion, Logged.calls_bind, Motion.value_reportedTimes]
  refine hreported.append_closed ?_
  simp only [Target.range?_motion_iff]
  cases hreach : Motion.reachTimes keys p (lineOf lines p.line) times with
  | error fault => exact .nil (by simp)
  | ok found =>
    cases found with
    | none => exact .nil (by simp)
    | some whole =>
      cases operator with
      | none => exact .nil (by simp)
      | some op =>
        cases htrim : Motion.operatorRange keys whole with
        | none =>
          simp only [htrim]
          exact .nil (by simp [htrim])
        | some trimmed =>
          simp only [htrim]
          refine (op.operate_strandsIff trimmed lines loggable_one style).congr ?_
          simp [htrim, Operator.hasRange_of_takesTarget (hop op rfl)]

private theorem Command.onObject_strandsIff {op : Operator} (hop : op.takesTarget = true) (object : TextObject)
    (times : Nat) (p : Position) (lines : List Text) (style : IndentStyle) :
    StrandsIff (onObject op object p lines style).calls
      (∃ range, (Target.object object).range? times p (lineOf lines p.line) = .ok (some range) ∧
        range.Overruns) := by
  have hreported : StrandsIff (object.reported (lineOf lines p.line) p.column p.line).calls False :=
    .spanned_texts ⟨_, rfl⟩ foundStatus _ not_false
  rw [onObject, Logged.calls_bind, TextObject.value_reported]
  refine hreported.append_closed ?_
  cases hfind : object.find? (lineOf lines p.line) p.column p.line with
  | none => exact .nil (by simp [Target.range?, hfind])
  | some found =>
    refine (op.operate_strandsIff found.range lines loggable_one style).congr ?_
    simp [Target.range?, hfind, Operator.hasRange_of_takesTarget hop]

private theorem Command.edit_closed {c : Command} (htimes : Loggable c.times)
    (h : ∀ op ∈ c.operator, op.takesTarget = true → c.target = none) (registers : RegisterBank)
    (style : IndentStyle) : StrandsIff (c.edit registers style p lines).calls False := by
  obtain ⟨operator, target, count, register⟩ := c
  unfold edit
  split
  · exact .nil not_false
  · next hpending =>
    rcases operator with _ | op
    · rcases target with _ | keys | object
      · exact .nil not_false
      · exact (onMotion_strandsIff none (by simp) keys _ p lines style).congr (by simp)
      · exact .nil not_false
    · cases op with
      | paste => exact .nil not_false
      | pasteBefore => exact .nil not_false
      | join =>
        have hpoint := not_overruns_point p
        exact (Operator.join.operate_strandsIff ⟨p, p⟩ lines htimes style).congr (by simp [hpoint])
      | _ =>
        have htarget : target = none := h _ rfl rfl
        subst htarget
        exact absurd rfl hpending

private theorem Command.edit_strandsIff {c : Command} (htimes : Loggable c.times)
    (hline : hasLine lines p.line = true) (registers : RegisterBank) (style : IndentStyle) :
    StrandsIff (c.edit registers style p lines).calls (∃ range, c.Works p lines range ∧ range.Overruns) := by
  -- only an operator with a target comes to a range with two ends
  by_cases hwaits : ∃ op target, c.operator = some op ∧ op.takesTarget = true ∧ c.target = some target
  · obtain ⟨op, target, hop, htakes, htarget⟩ := hwaits
    cases hlinewise : c.linewise with
    | true =>
      rw [edit_linewise hop htakes hlinewise]
      refine (op.operateLines_strandsIff hline htimes style).congr ?_
      constructor
      · intro h
        obtain ⟨rfl, hover⟩ := h
        exact ⟨_, .yankedLine hop hlinewise, hover⟩
      · intro h
        obtain ⟨range, hworks, hover⟩ := h
        cases hworks with
        | target _ _ _ hnot => rw [hlinewise] at hnot; cases hnot
        | yankedLine hyank => exact ⟨Option.some.inj (hop.symm.trans hyank), hover⟩
    | false =>
      have hworks {range : Range} : c.Works p lines range ↔
          target.range? c.times p (lineOf lines p.line) = .ok (some range) := by
        constructor
        · intro h
          cases h with
          | target _ _ hother _ hrange =>
            rw [htarget] at hother
            cases hother
            exact hrange
          | yankedLine _ hnot => rw [hlinewise] at hnot; cases hnot
        · intro h
          exact .target hop htakes htarget hlinewise h
      simp only [hworks]
      cases target with
      | motion keys =>
        rw [edit_motion hop htakes htarget hlinewise]
        refine (onMotion_strandsIff (some op) ?_ keys _ p lines style).congr (by simp)
        intro other hother
        cases hother
        exact htakes
      | object object =>
        rw [edit_object hop htakes htarget]
        exact onObject_strandsIff htakes object _ p lines style
  · have hnone : ¬∃ range, c.Works p lines range ∧ range.Overruns := by
      intro h
      obtain ⟨range, hworks, -⟩ := h
      cases hworks with
      | target hop htakes htarget => exact hwaits ⟨_, _, hop, htakes, htarget⟩
      | yankedLine hop hlinewise =>
        cases htarget : c.target with
        | none => simp [linewise, motion?, htarget] at hlinewise
        | some target => exact hwaits ⟨_, target, hop, rfl, htarget⟩
    refine (edit_closed htimes ?_ registers style).congr (iff_of_false not_false hnone)
    intro op hop htakes
    by_contra hsome
    obtain ⟨target, htarget⟩ := Option.ne_none_iff_exists'.1 hsome
    exact hwaits ⟨op, target, hop, htakes, htarget⟩

end

/-! ### Steps of the engine -/

/-- A command leaves a context behind: its count is too long for the log, or the end of the range that it
works on is, where the start is not. -/
def Command.Strands (c : Command) (p : Position) (lines : List Text) : Prop :=
  ¬Loggable c.times ∨ ∃ range, c.Works p lines range ∧ range.Overruns

private theorem Command.context_cut_iff (c : Command) : c.context.Cut ↔ ¬Loggable c.times := by
  rw [context, Fields.cut_cons_iff (by simp [Value.Simple])]
  simp [Value.Brief]

theorem Leaves.logEvent (level : Level) (name : Text) (data : List (Text × Text)) :
    Leaves (ModalEditor.logEvent defaultLogger level name data).calls [] :=
  .of_entries (List.forall_mem_singleton.2 ⟨_, _, _, rfl⟩)

theorem Leaves.setMode (s : Session) (mode : Mode) : Leaves (s.setMode mode).calls [] := by
  unfold Session.setMode
  split
  · exact .logEvent _ _ _
  · exact .nil

private theorem Session.settle_leaves (s : Session) (c : Command) (lines : List Text) (p : Position)
    (found : Except Fault (Option Edit)) : Leaves (s.settle c lines p found).calls [] := by
  rcases found with fault | _ | edit
  · exact .nil
  · rw [settle, decline]
    split
    · exact .nil
    · exact (Leaves.logEvent _ _ _).append .nil
  · rw [settle, commit]
    split
    · exact .nil
    · split
      · exact (Leaves.setMode _ _).append ((Leaves.logEvent _ _ _).append .nil)
      · exact Leaves.nil.append ((Leaves.logEvent _ _ _).append .nil)

private theorem Session.execute_strandsIff (s : Session) (style : IndentStyle) (c : Command) (lines : List Text)
    (cursor : Option Position) :
    StrandsIff (s.execute style c lines cursor).calls
      (Inside lines (cursor.getD s.position) ∧ c.Strands (cursor.getD s.position) lines) := by
  unfold execute
  cases hplace : ensurePosition lines (cursor.getD s.position) with
  | error fault =>
    refine .nil fun h => ?_
    rw [ensurePosition_of_inside h.1] at hplace
    cases hplace
  | ok p =>
    obtain ⟨rfl, hinside⟩ := ensurePosition_eq_ok_iff.1 hplace
    have hline : hasLine lines (cursor.getD s.position).line = true := by
      obtain ⟨row, column, line, hposition, hat, -⟩ := hinside
      rw [hposition]
      exact hasLine_of_getElem? hat
    have hcontext := c.context_written
    have hspan : StrandsIff (spanned none "engine::execute".toList "engine".toList c.context
        (fun found => some (if found.isSome then "ok".toList else "noop".toList))
        (c.edit s.registers style (cursor.getD s.position) lines)).calls
        (c.Strands (cursor.getD s.position) lines) := by
      -- a count that cannot be written cuts the metadata of this span, and the edit never begins
      by_cases htimes : Loggable c.times
      · rw [if_pos htimes] at hcontext
        refine (c.edit_strandsIff htimes hline s.registers style).spanned.congr ?_
        rw [c.context_cut_iff, Command.Strands]
        simp [hcontext]
      · rw [if_neg htimes] at hcontext
        refine (StrandsIff.spanned_of_error hcontext).congr ?_
        rw [c.context_cut_iff]
        exact iff_of_true htimes (.inl htimes)
    have hsettled := s.settle_leaves c lines (cursor.getD s.position)
    refine (hspan.append (.of_leaves_nil (hsettled _) not_false)).congr ?_
    rw [or_false]
    exact (and_iff_right hinside).symm

namespace Leaves

variable {τ : Type} [LE τ] [DecidableLE τ]

theorem polled (b : KeyBuffer τ) : Leaves b.polled.calls [] := by
  have hsteps : Leaves b.processTimeouts.calls [] := by
    unfold KeyBuffer.processTimeouts
    dsimp only
    split
    · exact (Leaves.logEvent _ _ _).append .nil
    · exact .nil
  rw [KeyBuffer.polled, Logged.calls_map]
  exact hsteps

theorem push [Add τ] (b : KeyBuffer τ) (key : Text) : Leaves (b.push key).calls [] :=
  (polled b).append .nil

theorem parse (b : KeyBuffer τ) (s : Session) (logger : Option Text) :
    Leaves (b.parse s logger).calls [] := by
  have hread (keys : Text) : Leaves (s.parse logger keys).calls [] := by
    have hspan := @Leaves.spanned_of_ok (Option Command) logger "parser::parse".toList "parser".toList
      [("input".toList, .text keys)]
      (fun found => some (if found.isSome then "match".toList else "miss".toList)) (pure (s.read keys).2)
      [] _ rfl .nil
    exact hspan.append .nil
  rw [KeyBuffer.parse, Logged.calls_bind]
  refine (polled b).append ?_
  split
  · exact .nil
  · exact (hread _).append .nil

end Leaves

namespace Engine

variable {τ : Type}

private theorem execute_strandsIff (e : Engine τ) (c : Command) (lines : List Text) (cursor : Option Position) :
    StrandsIff (e.execute c lines cursor).calls
      (Inside lines (cursor.getD e.session.position) ∧ c.Strands (cursor.getD e.session.position) lines) := by
  have hsession := e.session.execute_strandsIff e.settings.indentStyle c lines cursor
  rw [execute, Logged.calls_bind, Logged.calls_pure, List.append_nil]
  exact hsession

variable [LE τ] [DecidableLE τ] [Add τ]

def Strands (e : Engine τ) (key : Text) (lines : List Text) (cursor : Option Position) : Prop :=
  key ∉ escapeKeys ∧ e.session.mode ≠ .insert ∧
    ∃ c, (e.reading key).2 = .ok (some c) ∧ c.pending = false ∧
      Inside lines (cursor.getD e.session.position) ∧ c.Strands (cursor.getD e.session.position) lines

private theorem executeRead_strandsIff {e : Engine τ} {key : Text} (hkey : key ∉ escapeKeys)
    (hmode : e.session.mode ≠ .insert) (lines : List Text) (cursor : Option Position) :
    let read := (e.pushed key).afterRead (e.reading key).1 (e.reading key).2
    StrandsIff (executeRead { e with buffer := read.1, session := read.2.1 } lines cursor read.2.2).calls
      (e.Strands key lines cursor) := by
  intro read
  obtain ⟨search, hsession⟩ := e.reading_frame key
  rcases hanswer : (e.reading key).2 with fault | _ | c
  · simp only [read, hanswer, KeyBuffer.afterRead]
    exact .nil (by simp [Strands, hanswer])
  · simp only [read, hanswer, KeyBuffer.afterRead]
    exact .nil (by simp [Strands, hanswer])
  · cases hpending : c.pending with
    | true =>
      simp only [read, hanswer, KeyBuffer.afterRead, hpending, if_true]
      exact .nil (by simp [Strands, hanswer, hpending])
    | false =>
      simp only [read, hanswer, KeyBuffer.afterRead, hpending, Bool.false_eq_true, if_false, executeRead]
      rw [Logged.calls_bind, Logged.calls_pure, List.append_nil]
      refine (execute_strandsIff _ c lines cursor).congr ?_
      simp [Strands, hanswer, hpending, hsession, hkey, hmode]

private theorem feed_strandsIff (e : Engine τ) (key : Text) (lines : List Text) (cursor : Option Position) :
    StrandsIff (e.feed key lines cursor).calls (e.Strands key lines cursor) := by
  unfold feed
  split
  · next hkey =>
    have hescape : Leaves e.escape.calls [] := (Leaves.setMode _ _).append .nil
    exact .of_leaves_nil (hescape.append .nil) fun h => h.1 hkey
  · next hkey =>
    split
    · next hmode => exact .nil fun h => h.2.1 hmode
    · next hmode =>
      have hpush := Leaves.push e.buffer key
      have hparse := Leaves.parse ⟨e.buffer.text ++ key, e.buffer.fresh.timer.arm⟩ e.session e.logger
      have hvalue := e.value_parse_reading key
      rw [Logged.calls_bind, KeyBuffer.value_push, Logged.calls_bind]
      refine .append_closed (.of_leaves_nil hpush not_false)
        (.append_closed (.of_leaves_nil hparse not_false) ?_)
      have hread := executeRead_strandsIff hkey hmode lines cursor
      rw [← hvalue] at hread
      exact hread

end Engine

/-- What is asked of an engine: to take a key, to run keys, or to execute a command. -/
inductive EngineStep
  | feed (key : Text)
  | run (keys : Text)
  | execute (command : Command)

namespace Typist

variable {τ : Type} [LE τ] [DecidableLE τ] [Add τ]

def calls (t : Typist τ) : EngineStep → List LogCall
  | .feed key => (t.engine.feed key t.lines t.cursor).calls
  | .run keys => (t.engine.runFrom keys t.lines t.cursor).calls
  | .execute command => (t.engine.execute command t.lines t.cursor).calls

/-- The steps that leave a context behind. A run does so if one of its keys does, and none before fails. -/
def Strands (t : Typist τ) : EngineStep → Prop
  | .feed key => t.engine.Strands key t.lines t.cursor
  | .run keys => ∃ earlier key later, keys = earlier ++ key :: later ∧
      (∃ found, t.answers earlier = .ok found) ∧
      (t.after earlier).engine.Strands [key] (t.after earlier).lines (t.after earlier).cursor
  | .execute command => Inside t.lines t.place ∧ command.Strands t.place t.lines

private theorem strands_run_cons_iff (t : Typist τ) (key : Char) (rest : Text) :
    t.Strands (.run (key :: rest)) ↔ t.Strands (.feed [key]) ∨
      (∃ found, (t.press key).2 = .ok found) ∧ (t.press key).1.Strands (.run rest) := by
  -- a run is its first key and, if that key does not fail, the run of the others
  constructor
  · intro h
    obtain ⟨earlier, k, later, hsplit, ⟨found, hfound⟩, hstrands⟩ := h
    rcases List.cons_eq_append_iff.1 hsplit with ⟨rfl, hhead⟩ | ⟨before, rfl, hrest⟩
    · cases hhead
      exact .inl hstrands
    · right
      cases hpress : (t.press key).2 with
      | error fault =>
        simp only [answers, hpress] at hfound
        cases hfound
      | ok first =>
        simp only [answers, hpress] at hfound
        simp only [after, hpress] at hstrands
        refine ⟨⟨first, rfl⟩, before, k, later, hrest, ?_, hstrands⟩
        cases hothers : (t.press key).1.answers before with
        | error fault =>
          rw [hothers] at hfound
          cases hfound
        | ok others => exact ⟨others, rfl⟩
  · intro h
    rcases h with hfirst | ⟨⟨first, hpress⟩, earlier, k, later, hrest, ⟨found, hfound⟩, hstrands⟩
    · exact ⟨[], key, rest, rfl, ⟨[], rfl⟩, hfirst⟩
    · refine ⟨key :: earlier, k, later, by rw [hrest, List.cons_append], ⟨first :: found, ?_⟩, ?_⟩
      · simp only [answers, hpress, hfound]
        rfl
      · simp only [after, hpress]
        exact hstrands

private theorem calls_run_cons (t : Typist τ) (key : Char) (rest : Text) :
    t.calls (.run (key :: rest)) = t.calls (.feed [key]) ++
      match (t.press key).2 with
      | .error _ => []
      | .ok _ => (t.press key).1.calls (.run rest) := by
  simp only [calls, Engine.runFrom, Logged.calls_bind, press]
  rcases (t.engine.feed [key] t.lines t.cursor).value with ⟨engine, fault | _ | o⟩
  · rfl
  · rfl
  · simp

private theorem strandsIff (t : Typist τ) (step : EngineStep) : StrandsIff (t.calls step) (t.Strands step) := by
  cases step with
  | feed key => exact t.engine.feed_strandsIff key t.lines t.cursor
  | execute command => exact t.engine.execute_strandsIff command t.lines t.cursor
  | run keys =>
    induction keys generalizing t with
    | nil =>
      refine .nil fun hstrands => ?_
      obtain ⟨earlier, key, later, hsplit, -⟩ := hstrands
      simp at hsplit
    | cons key rest ih =>
      rw [calls_run_cons]
      refine StrandsIff.congr (.append (t.engine.feed_strandsIff [key] t.lines t.cursor) ?_)
        (t.strands_run_cons_iff key rest).symm
      cases (t.press key).2 with
      | error fault => exact .nil (by simp)
      | ok found => exact (ih (t.press key).1).congr (by simp)

/-- Whatever an engine is asked to do, and also where it fails, every block that is entered is left, in the
opposite order. Every context that is added is taken away as well, unless a number is too long for the log. -/
theorem spans_closed (t : Typist τ) (step : EngineStep) :
    BlocksClosed (t.calls step) ∧ (ContextsClosed (t.calls step) ↔ ¬t.Strands step) :=
  ⟨(t.strandsIff step).blocksClosed, (t.strandsIff step).contextsClosed_iff⟩

private theorem not_contextsClosed_of_long_count {t : Typist τ} {c : Command} (hinside : Inside t.lines t.place)
    (hcount : ¬Loggable c.times) : ¬ContextsClosed (t.calls (.execute c)) := by
  rw [(t.strandsIff (.execute c)).contextsClosed_iff]
  exact fun hnot => hnot ⟨hinside, .inl hcount⟩

/-- A delete of so many lines that their number is too long for the log: its span stops in the middle. -/
theorem long_count_strands :
    ¬ContextsClosed ((⟨Engine.start {} 3 0 none, [['a']], none⟩ : Typist Nat).calls
      (.execute (.deleteLines (some ⟨10 ^ Text.numeralLimit, Nat.pow_pos (by decide)⟩)))) := by
  have htimes (count : Count) : (Command.deleteLines (some count)).times = count.val := rfl
  have hinside : Inside [['a']] ⟨0, 0⟩ := ⟨0, 0, ['a'], rfl, rfl, Nat.zero_le _⟩
  refine not_contextsClosed_of_long_count hinside ?_
  rw [htimes]
  exact not_loggable_limit

end Typist

end ModalEditor
