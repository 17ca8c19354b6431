import ModalEditor.Log.Span
/-!
# What spans leave in a logger

A span puts its metadata into the context of a logger, opens its blocks, lets the work run, takes the
context away and closes the blocks, also when the work fails. Only a value of the metadata that cannot be
written ends it before: then the keys in front of that value stay in the context.
-/
namespace ModalEditor

/-! ### Contexts and blocks -/

/-- What a call adds to the number of times that a key is in the context of a logger. -/
def LogCall.change (logger key : Text) (call : LogCall) : Int :=
  if call.logger ≠ logger then 0
  else
    match call.action with
    | .addContext k _ | .bareContext k => if k = key then 1 else 0
    | .removeContext k => if k = key then -1 else 0
    | _ => 0

/-- How many times a key is in the context of a logger after some calls. -/
def held (logger key : Text) : List LogCall → Int
  | [] => 0
  | call :: rest => call.change logger key + held logger key rest

/-- Whatever is put into a context is taken out of it later, and nothing else is. -/
def ContextsClosed (calls : List LogCall) : Prop :=
  ∀ logger key, held logger key calls = 0 ∧ ∀ earlier, earlier <+: calls → 0 ≤ held logger key earlier

structure Block where
  logger : Text
  scope : Scope
  name : Text
deriving DecidableEq, Repr

/-- The open blocks after a call, the innermost first. No other than that one can be left. -/
def blocksAfter (opened : List Block) (call : LogCall) : Option (List Block) :=
  match call.action with
  | .enter scope name => some (⟨call.logger, scope, name⟩ :: opened)
  | .leave scope name =>
    match opened with
    | [] => none
    | block :: others => if block = ⟨call.logger, scope, name⟩ then some others else none
  | _ => some opened

/-- The blocks that are open after some calls, unless one was left that was not the innermost. -/
def openBlocks (opened : List Block) (calls : List LogCall) : Option (List Block) :=
  calls.foldlM blocksAfter opened

/-- Every block that is entered is left, in the opposite order. -/
def BlocksClosed (calls : List LogCall) : Prop := openBlocks [] calls = some []

section

variable (logger key : Text)

private theorem held_append (earlier later : List LogCall) :
    held logger key (earlier ++ later) = held logger key earlier + held logger key later := by
  induction earlier with
  | nil => simp [held]
  | cons call rest ih => rw [List.cons_append, held, held, ih, Int.add_assoc]

private theorem held_eq_zero {calls : List LogCall} (h : ∀ call ∈ calls, call.change logger key = 0) :
    held logger key calls = 0 := by
  induction calls with
  | nil => rfl
  | cons call rest ih =>
    rw [held, h call List.mem_cons_self, Int.zero_add]
    exact ih fun c hc => h c (List.mem_cons_of_mem call hc)

def countFor (asked : Text) (keys : List Text) : Int := if asked = logger then keys.count key else 0

private theorem countFor_cons (asked k : Text) (keys : List Text) :
    countFor logger key asked (k :: keys) =
      (if asked = logger ∧ k = key then 1 else 0) + countFor logger key asked keys := by
  unfold countFor
  by_cases hlogger : asked = logger
  · by_cases hkey : k = key
    · simp [hlogger, hkey, Int.add_comm]
    · simp [hlogger, hkey]
  · simp [hlogger]

private theorem countFor_nonneg (asked : Text) (keys : List Text) : 0 ≤ countFor logger key asked keys := by
  unfold countFor
  split <;> omega

private theorem countFor_take_le (asked : Text) (keys : List Text) (n : Nat) :
    countFor logger key asked (keys.take n) ≤ countFor logger key asked keys := by
  unfold countFor
  split
  · exact Int.ofNat_le.2 ((List.take_sublist n keys).count_le key)
  · exact Int.le_refl 0

def addCalls (asked : Text) (entries : Fields Text) : List LogCall :=
  entries.map fun entry => ⟨asked, .addContext entry.1 entry.2⟩

def removeCalls (asked : Text) (keys : List Text) : List LogCall :=
  keys.map fun k => ⟨asked, .removeContext k⟩

private theorem held_addCalls (asked : Text) (entries : Fields Text) :
    held logger key (addCalls asked entries) = countFor logger key asked (entries.map Prod.fst) := by
  induction entries with
  | nil => simp [addCalls, held, countFor]
  | cons entry rest ih =>
    have hchange : LogCall.change logger key ⟨asked, .addContext entry.1 entry.2⟩ =
        if asked = logger ∧ entry.1 = key then 1 else 0 := by
      by_cases hlogger : asked = logger <;> simp [LogCall.change, hlogger]
    rw [addCalls, List.map_cons, held, hchange, List.map_cons, countFor_cons, ← ih, addCalls]

private theorem held_removeCalls (asked : Text) (keys : List Text) :
    held logger key (removeCalls asked keys) = -countFor logger key asked keys := by
  induction keys with
  | nil => simp [removeCalls, held, countFor]
  | cons k rest ih =>
    have hchange : LogCall.change logger key ⟨asked, .removeContext k⟩ =
        -if asked = logger ∧ k = key then 1 else 0 := by
      by_cases hlogger : asked = logger
      · by_cases hkey : k = key <;> simp [LogCall.change, hlogger, hkey]
      · simp [LogCall.change, hlogger]
    rw [removeCalls, List.map_cons, held, hchange, countFor_cons, Int.neg_add, ← ih, removeCalls]

end

/-! ### What some calls leave -/

/-- No beginning of some calls takes a key out of a context more often than it puts it in, but for so many
times. -/
def Low (logger key : Text) (n : Int) (calls : List LogCall) : Prop :=
  ∀ earlier, earlier <+: calls → 0 ≤ n + held logger key earlier

section

variable {logger key : Text} {n : Int} {calls more : List LogCall}

theorem Low.mono (h : Low logger key n calls) {m : Int} (hle : n ≤ m) : Low logger key m calls := by
  intro earlier hearlier
  have hlow := h earlier hearlier
  omega

theorem Low.append (h : Low logger key n calls) (hmore : Low logger key (n + held logger key calls) more) :
    Low logger key n (calls ++ more) := by
  intro earlier hearlier
  rcases List.prefix_or_prefix_of_prefix hearlier (List.prefix_append calls more) with hin | ⟨rest, rfl⟩
  · exact h earlier hin
  · have hrest := hmore rest ((List.prefix_append_right_inj calls).1 hearlier)
    rw [held_append]
    omega

private theorem Low.of_change_eq_zero (h : ∀ call ∈ calls, call.change logger key = 0) :
    Low logger key 0 calls := by
  intro earlier hearlier
  rw [held_eq_zero logger key fun call hcall => h call (hearlier.subset hcall)]
  omega

private theorem low_addCalls (asked : Text) (entries : Fields Text) : Low logger key 0 (addCalls asked entries) := by
  intro earlier hearlier
  rw [List.prefix_iff_eq_take.1 hearlier, addCalls, ← List.map_take, ← addCalls, held_addCalls]
  have hcount := countFor_nonneg logger key asked ((entries.take earlier.length).map Prod.fst)
  omega

private theorem low_removeCalls (asked : Text) (keys : List Text) :
    Low logger key (countFor logger key asked keys) (removeCalls asked keys) := by
  intro earlier hearlier
  rw [List.prefix_iff_eq_take.1 hearlier, removeCalls, ← List.map_take, ← removeCalls, held_removeCalls]
  have hcount := countFor_take_le logger key asked keys earlier.length
  omega

end

private theorem openBlocks_nil (opened : List Block) : openBlocks opened [] = some opened := rfl

private theorem openBlocks_cons (opened : List Block) (call : LogCall) (rest : List LogCall) :
    openBlocks opened (call :: rest) = (blocksAfter opened call).bind fun left => openBlocks left rest :=
  List.foldlM_cons

private theorem openBlocks_append (opened : List Block) (calls more : List LogCall) :
    openBlocks opened (calls ++ more) = (openBlocks opened calls).bind fun left => openBlocks left more :=
  List.foldlM_append

/-- A call that concerns no block. -/
def LogCall.noBlock (call : LogCall) : Bool :=
  match call.action with
  | .enter _ _ | .leave _ _ => false
  | _ => true

private theorem openBlocks_of_noBlock {calls : List LogCall} (h : ∀ call ∈ calls, call.noBlock = true)
    (opened : List Block) : openBlocks opened calls = some opened := by
  induction calls with
  | nil => rfl
  | cons call rest ih =>
    have hcall : blocksAfter opened call = some opened := by
      have hno := h call List.mem_cons_self
      obtain ⟨logger, action⟩ := call
      cases action with
      | enter => cases hno
      | leave => cases hno
      | _ => rfl
    rw [openBlocks_cons, hcall]
    exact ih fun c hc => h c (List.mem_cons_of_mem call hc)

/-- Some calls close their blocks and leave some keys in the context of the default logger. -/
structure Leaves (calls : List LogCall) (left : List Text) : Prop where
  held : ∀ logger key, held logger key calls = countFor logger key defaultLogger left
  low : ∀ logger key, Low logger key 0 calls
  blocks : ∀ opened, openBlocks opened calls = some opened

namespace Leaves

variable {calls more : List LogCall} {left : List Text}

theorem nil : Leaves [] [] := by
  refine ⟨?_, ?_, fun opened => rfl⟩
  · intro logger key
    simp [ModalEditor.held, countFor]
  · intro logger key
    exact Low.of_change_eq_zero fun call hcall => absurd hcall List.not_mem_nil

theorem append (h : Leaves calls left) {others : List Text} (hmore : Leaves more others) :
    Leaves (calls ++ more) (left ++ others) := by
  refine ⟨?_, ?_, ?_⟩
  · intro logger key
    rw [held_append, h.held, hmore.held]
    unfold countFor
    split <;> simp
  · intro logger key
    refine (h.low logger key).append ((hmore.low logger key).mono ?_)
    have hcount := countFor_nonneg logger key defaultLogger left
    rw [h.held]
    omega
  · intro opened
    rw [openBlocks_append, h.blocks, Option.bind_some, hmore.blocks]

theorem of_entries (h : ∀ call ∈ calls, ∃ level message fields, call.action = .entry level message fields) :
    Leaves calls [] := by
  have hchange (logger key : Text) : ∀ call ∈ calls, call.change logger key = 0 := by
    intro call hcall
    obtain ⟨level, message, fields, haction⟩ := h call hcall
    simp [LogCall.change, haction]
  refine ⟨?_, ?_, ?_⟩
  · intro logger key
    rw [held_eq_zero logger key (hchange logger key)]
    simp [countFor]
  · intro logger key
    exact .of_change_eq_zero (hchange logger key)
  · apply openBlocks_of_noBlock
    intro call hcall
    obtain ⟨level, message, fields, haction⟩ := h call hcall
    rw [LogCall.noBlock, haction]

theorem blocksClosed (h : Leaves calls left) : BlocksClosed calls := h.blocks []

theorem contextsClosed_iff (h : Leaves calls left) : ContextsClosed calls ↔ left = [] := by
  constructor
  · intro hclosed
    rw [List.eq_nil_iff_forall_not_mem]
    intro key hkey
    have hheld := h.held defaultLogger key
    rw [(hclosed defaultLogger key).1, countFor, if_pos rfl] at hheld
    have hpos := List.count_pos_iff.2 hkey
    omega
  · intro hnone logger key
    refine ⟨?_, ?_⟩
    · rw [h.held, hnone]
      simp [countFor]
    · intro earlier hearlier
      have hlow := h.low logger key earlier hearlier
      omega

end Leaves

/-! ### Spans -/

def Fields.writtenFront : Fields Value → Fields Text
  | [] => []
  | (key, value) :: rest =>
    match value.written with
    | .error _ => []
    | .ok t => (key, t) :: Fields.writtenFront rest

private theorem Fields.writtenFront_of_ok {fields : Fields Value} {texts : Fields Text}
    (h : fields.written = .ok texts) : fields.writtenFront = texts := by
  induction fields generalizing texts with
  | nil =>
    cases h
    rfl
  | cons entry rest ih =>
    obtain ⟨key, value⟩ := entry
    rw [written, mapValues] at h
    obtain ⟨t, ht, h⟩ := bind_eq_ok_iff.1 h
    obtain ⟨others, hothers, h⟩ := bind_eq_ok_iff.1 h
    cases h
    rw [writtenFront, ht]
    simp only [ih hothers]

private theorem calls_pushContext (logger : Text) (fields : Fields Value) :
    (pushContext logger fields).calls = addCalls logger fields.writtenFront := by
  induction fields with
  | nil => rfl
  | cons entry rest ih =>
    obtain ⟨key, value⟩ := entry
    cases h : value.written with
    | error fault => simp [pushContext, Fields.writtenFront, h, addCalls]
    | ok t => simp [pushContext, Fields.writtenFront, h, addCalls, ih]

private theorem calls_popContext (logger : Text) (keys : List Text) :
    (popContext logger keys).calls = removeCalls logger keys := by
  induction keys with
  | nil => rfl
  | cons key rest ih => simp [popContext, removeCalls, ih]

def enterCalls (asked name : Text) (counted : Option Text) : List LogCall :=
  (counted.map fun c => ⟨asked, .enter .component c⟩).toList ++ [⟨asked, .enter .profile name⟩]

def leaveCalls (asked name : Text) (counted : Option Text) : List LogCall :=
  ⟨asked, .leave .profile name⟩ :: (counted.map fun c => ⟨asked, .leave .component c⟩).toList

private theorem noBlock_addCalls (asked : Text) (entries : Fields Text) :
    ∀ call ∈ addCalls asked entries, call.noBlock = true := by
  intro call hcall
  obtain ⟨entry, -, rfl⟩ := List.mem_map.1 hcall
  rfl

private theorem noBlock_removeCalls (asked : Text) (keys : List Text) :
    ∀ call ∈ removeCalls asked keys, call.noBlock = true := by
  intro call hcall
  obtain ⟨k, -, rfl⟩ := List.mem_map.1 hcall
  rfl

private theorem change_enterCalls (logger key asked name : Text) (counted : Option Text) :
    ∀ call ∈ enterCalls asked name counted, call.change logger key = 0 := by
  cases counted <;> simp [enterCalls, LogCall.change]

private theorem change_leaveCalls (logger key asked name : Text) (counted : Option Text) :
    ∀ call ∈ leaveCalls asked name counted, call.change logger key = 0 := by
  cases counted <;> simp [leaveCalls, LogCall.change]

private theorem openBlocks_wrapped (asked name : Text) (counted : Option Text) {inner : List LogCall}
    (hinner : ∀ opened, openBlocks opened inner = some opened) (opened : List Block) :
    openBlocks opened (enterCalls asked name counted ++ inner ++ leaveCalls asked name counted) =
      some opened := by
  cases counted with
  | none =>
    simp [enterCalls, leaveCalls, openBlocks_append, openBlocks_cons, openBlocks_nil, blocksAfter, hinner]
  | some c =>
    simp [enterCalls, leaveCalls, openBlocks_append, openBlocks_cons, openBlocks_nil, blocksAfter, hinner]

section

variable {α : Type} {logger : Option Text} {name component : Text} {metadata : Fields Value}
  {status : α → Option Text} {work : Logged (Except Fault α)} {left : List Text}

private theorem calls_spanned_of_error {fault : Fault} (h : metadata.written = .error fault) :
    (spanned logger name component metadata status work).calls =
      addCalls (loggerName logger) metadata.writtenFront := by
  have hvalue := value_pushContext (loggerName logger) metadata
  rw [h] at hvalue
  simp [spanned, span, hvalue, calls_pushContext]

private theorem calls_spanned_of_ok {notes : Fields Text} (h : metadata.written = .ok notes) :
    ∃ (counted : Option Text) (failed : List LogCall),
      (∀ call ∈ failed, ∃ level message fields, call.action = .entry level message fields) ∧
      (spanned logger name component metadata status work).calls =
        addCalls (loggerName logger) notes ++ (enterCalls (loggerName logger) name counted ++
          (work.calls ++ failed ++ removeCalls (loggerName logger) (notes.map Prod.fst)) ++
          leaveCalls (loggerName logger) name counted) := by
  have hvalue := value_pushContext (loggerName logger) metadata
  rw [h] at hvalue
  have hfront := Fields.writtenFront_of_ok h
  generalize hcounted : (ComponentChoice.named component).name? name = counted
  cases hwork : work.value with
  | ok a =>
    refine ⟨counted, [], by simp, ?_⟩
    cases counted <;>
      simp [spanned, span, hvalue, calls_pushContext, calls_popContext, hfront, hwork, hcounted,
        enterCalls, leaveCalls]
  | error fault =>
    refine ⟨counted, [⟨loggerName logger, .entry .error "span::fail".toList
      (SpanRecord.payload ⟨name, counted, notes⟩ [("reason".toList, fault.message)])⟩], by simp, ?_⟩
    cases counted <;>
      simp [spanned, span, hvalue, calls_pushContext, calls_popContext, hfront, hwork, hcounted,
        enterCalls, leaveCalls]

theorem Leaves.spanned_of_error {fault : Fault} (h : metadata.written = .error fault) :
    Leaves (spanned none name component metadata status work).calls (metadata.writtenFront.map Prod.fst) := by
  rw [calls_spanned_of_error h]
  exact ⟨fun logger key => held_addCalls logger key _ _, fun logger key => low_addCalls _ _,
    openBlocks_of_noBlock (noBlock_addCalls _ _)⟩

theorem Leaves.spanned_of_ok {notes : Fields Text} (h : metadata.written = .ok notes)
    (hwork : Leaves work.calls left) :
    Leaves (spanned logger name component metadata status work).calls left := by
  obtain ⟨counted, failed, hfailed, hcalls⟩ :=
    @calls_spanned_of_ok α logger name component metadata status work notes h
  have hinner : Leaves (work.calls ++ failed) left := by
    have happend := hwork.append (of_entries hfailed)
    rwa [List.append_nil] at happend
  rw [hcalls]
  generalize loggerName logger = asked
  refine ⟨?_, ?_, ?_⟩
  · intro logger key
    rw [held_append, held_append, held_append, held_append, held_addCalls, hinner.held,
      held_removeCalls, held_eq_zero logger key (change_enterCalls logger key _ _ _),
      held_eq_zero logger key (change_leaveCalls logger key _ _ _)]
    omega
  · intro logger key
    have hcount := countFor_nonneg logger key asked (notes.map Prod.fst)
    have hleft := countFor_nonneg logger key defaultLogger left
    -- the context of the span itself carries the keys that it takes out at its end
    refine (low_addCalls asked notes).append ?_
    rw [held_addCalls]
    refine (Low.append ?_ ?_).append ?_
    · exact (Low.of_change_eq_zero (change_enterCalls logger key _ _ _)).mono (by omega)
    · rw [held_eq_zero logger key (change_enterCalls logger key _ _ _)]
      refine Low.append ((hinner.low logger key).mono (by omega)) ?_
      rw [hinner.held]
      exact (low_removeCalls asked _).mono (by omega)
    · refine (Low.of_change_eq_zero (change_leaveCalls logger key _ _ _)).mono ?_
      rw [held_append, held_append, hinner.held, held_removeCalls,
        held_eq_zero logger key (change_enterCalls logger key _ _ _)]
      omega
  · intro opened
    rw [openBlocks_append, openBlocks_of_noBlock (noBlock_addCalls _ _), Option.bind_some]
    apply openBlocks_wrapped
    intro opened
    rw [openBlocks_append, hinner.blocks, Option.bind_some]
    exact openBlocks_of_noBlock (noBlock_removeCalls _ _) opened

end

end ModalEditor
