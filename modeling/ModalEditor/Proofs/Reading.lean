import ModalEditor.Proofs.Phrases
import ModalEditor.Session
/-!
# Reading phrases

Reading accepts exactly the phrases whose counts take every digit that they can, and gives the commands
that they describe. Each part of the grammar is taken twice: what was read is such a part, and every such
part is read.
-/
namespace ModalEditor.Grammar

private theorem ofKey?_eq_some {key : Char} {op : Operator} (h : Operator.ofKey? key = some op) :
    op.key = key := by
  simpa using List.find?_some h

theorem takesTarget_iff (op : Operator) : op.takesTarget = true ↔ op.key ∈ Body.waitingKeys := by
  cases op <;> decide

theorem not_takesTarget_iff (op : Operator) :
    op.takesTarget = false ↔ op.key ∈ ['p', 'P', 'J'] := by
  cases op <;> decide

private theorem map_val_combine (outer inner : Option Count) :
    (combine outer inner).map Count.val = times (outer.map Count.val) (inner.map Count.val) := by
  cases outer <;> cases inner <;> rfl

private theorem ofKey?_isSome_iff (around : Bool) (key : Char) :
    (TextObject.ofKey? around key).isSome ↔
      key ∈ ['w', 'W', '"', '\'', '(', ')', '[', ']', '\x7b', '\x7d'] := by
  unfold TextObject.ofKey?
  split <;> simp_all

theorem ofKeys?_isSome_iff (scope key : Char) :
    (TextObject.ofKeys? [scope] [key]).isSome ↔ (Aim.object scope key).WellFormed := by
  have hinner := ofKey?_isSome_iff false key
  have haround := ofKey?_isSome_iff true key
  unfold Aim.WellFormed
  by_cases hi : scope = 'i'
  · simp [hi, TextObject.ofKeys?, hinner]
  · by_cases ha : scope = 'a'
    · simp [ha, TextObject.ofKeys?, haround]
    · simp [hi, ha, TextObject.ofKeys?]

/-- The command that a target makes behind an operator, or without one. -/
structure Aim.Makes (aim : Aim) (register : Option Text) (count : Option Count)
    (operator : Option Operator) (c : Command) : Prop where
  register : c.register = register
  count : c.count = count
  operator : c.operator = operator.or aim.operator?
  motion : c.motion? = aim.motion?
  object : c.object? = aim.object?

/-- The command that a body makes behind a register and a count. -/
structure Body.Makes (b : Body) (register : Option Text) (outer : Option Count) (c : Command) :
    Prop where
  register : c.register = register
  count : c.count.map Count.val = times (outer.map Count.val) (b.inner.map numeralValue)
  operator : c.operator = b.operator?
  motion : c.motion? = b.motion?
  object : c.object? = b.object?

section

variable {register : Option Text} {count outer : Option Count} {operator : Option Operator}
variable {keys : Text} {c : Command}

theorem readAim?_sound (h : readAim? register count operator keys = some c) :
    ∃ aim : Aim, aim.WellFormed ∧ aim.keys = keys ∧ aim.Makes register count operator c := by
  obtain ⟨target, htarget, rfl⟩ := Option.map_eq_some_iff.1 h
  unfold readTarget? at htarget
  split at htarget
  · next key =>
    split at htarget
    · next hsimple =>
      cases htarget
      exact ⟨.simple key, hsimple, rfl, rfl, rfl, Option.or_none.symm, rfl, rfl⟩
    · cases htarget
  · next key c =>
    split at htarget
    · next hsearch =>
      cases htarget
      exact ⟨.search key c, by simpa [Aim.WellFormed] using hsearch, rfl, rfl, rfl,
        Option.or_none.symm, rfl, rfl⟩
    · obtain ⟨object, hobject, rfl⟩ := Option.map_eq_some_iff.1 htarget
      have hsome : (TextObject.ofKeys? [key] [c]).isSome := by rw [hobject]; rfl
      exact ⟨.object key c, (ofKeys?_isSome_iff key c).1 hsome, rfl, rfl, rfl,
        by cases operator <;> rfl, rfl, hobject.symm⟩
  · cases htarget

private theorem readAim?_complete {aim : Aim} (h : aim.WellFormed) :
    ∃ c, readAim? register count operator aim.keys = some c ∧ aim.Makes register count operator c := by
  cases aim with
  | search key c =>
    have hsearch : key = 'f' ∨ key = 'F' ∨ key = 't' ∨ key = 'T' := by simpa [Aim.WellFormed] using h
    refine ⟨⟨operator, some (.motion [key, c]), count, register⟩, ?_, rfl, rfl, ?_, rfl, rfl⟩
    · simp [readAim?, readTarget?, Aim.keys, hsearch, operatorFor]
    · exact Option.or_none.symm
  | object scope key =>
    obtain ⟨object, hobject⟩ := Option.isSome_iff_exists.1 ((ofKeys?_isSome_iff scope key).2 h)
    have hscope : ¬(scope = 'f' ∨ scope = 'F' ∨ scope = 't' ∨ scope = 'T') := by
      have hmem := h.1
      simp only [List.mem_cons, List.not_mem_nil, or_false] at hmem
      rcases hmem with rfl | rfl <;> decide
    refine ⟨⟨some (operator.getD .delete), some (.object object), count, register⟩, ?_, rfl, rfl, ?_,
      rfl, hobject.symm⟩
    · simp [readAim?, readTarget?, Aim.keys, hscope, hobject, operatorFor]
    · cases operator <;> rfl
  | simple key =>
    have hsimple : key ∈ simpleMotions := h
    refine ⟨⟨operator, some (.motion [key]), count, register⟩, ?_, rfl, rfl, ?_, rfl, rfl⟩
    · simp [readAim?, readTarget?, Aim.keys, hsimple, operatorFor]
    · exact Option.or_none.symm

theorem Aim.Makes.aimed {aim : Aim} {op : Operator} {inner : Option Text} {number : Option Count}
    (hnumber : number.map Count.val = inner.map numeralValue)
    (h : aim.Makes register (combine outer number) (some op) c) :
    (Body.aimed op inner aim).Makes register outer c :=
  ⟨h.register, by rw [h.count, map_val_combine, hnumber]; rfl, h.operator, h.motion, h.object⟩

def finishOperand (register : Option Text) (count : Option Count) (op : Operator) (keys : Text) :
    Option Command :=
  match keys with
  | [] => some ⟨some op, none, count, register⟩
  | key :: more =>
    if key = op.key then
      if more = [] then some ⟨some op, some (.motion [key, key]), count, register⟩ else none
    else readAim? register count (some op) keys

private theorem finishOperand_aim {op : Operator} {key : Char} (h : key ≠ op.key) :
    finishOperand register count op (key :: keys) = readAim? register count (some op) (key :: keys) :=
  if_neg h

theorem readOperand_eq (op : Operator) :
    readOperand register outer op keys =
      (takeCount keys).map fun taken =>
        finishOperand register (combine outer taken.1) op taken.2 := by
  unfold readOperand
  cases takeCount keys with
  | error fault => rfl
  | ok taken =>
    obtain ⟨number, rest⟩ := taken
    cases rest with
    | nil => rfl
    | cons key more =>
      change (if key = op.key then _ else _) = Except.ok (finishOperand _ _ op (key :: more))
      unfold finishOperand
      dsimp only
      split <;> rfl

private theorem readOperand_sound {op : Operator} (hop : op.key ∈ Body.waitingKeys)
    (h : readOperand register outer op keys = .ok (some c)) :
    ∃ b : Body, b.WellFormed ∧ b.keys = op.key :: keys ∧ b.Makes register outer c ∧
      ∀ op digits, b ≠ .aimed op (some digits) (.simple '0') := by
  rw [readOperand_eq] at h
  obtain ⟨⟨number, rest⟩, hcount, hfinish⟩ := map_eq_ok_iff.1 h
  obtain ⟨inner, rfl, hinner, hnumber⟩ := takeCount_eq_ok hcount
  have hnumerals : ∀ digits ∈ inner, Numeral digits := fun d hd => (hinner d hd).1
  have htimes : (combine outer number).map Count.val =
      times (outer.map Count.val) (inner.map numeralValue) := by rw [map_val_combine, hnumber]
  unfold finishOperand at hfinish
  dsimp only at hfinish
  split at hfinish
  · cases hfinish
    refine ⟨.waiting op inner, ⟨hnumerals, hop⟩, by simp [Body.keys], ⟨rfl, htimes, rfl, rfl, rfl⟩, ?_⟩
    intro op digits hbody
    cases hbody
  · next key more =>
    split at hfinish
    · next hkey =>
      split at hfinish
      · next hmore =>
        cases hfinish
        refine ⟨.doubled op inner, ⟨hnumerals, hop⟩, by simp [Body.keys, hkey, hmore],
          ⟨rfl, htimes, rfl, by rw [hkey]; rfl, rfl⟩, ?_⟩
        intro op digits hbody
        cases hbody
      · cases hfinish
    · obtain ⟨aim, haim, hkeys, hmakes⟩ := readAim?_sound hfinish
      refine ⟨.aimed op inner aim, ⟨hnumerals, hop, haim⟩, by simp [Body.keys, hkeys],
        hmakes.aimed hnumber, ?_⟩
      intro op digits heq
      cases heq
      -- a motion `0` would have been one more digit of the count
      have hstop := (hinner digits rfl).2
      rw [← hkeys] at hstop
      exact absurd (hstop '0' rfl) (by decide)

theorem readBody_sound (h : readBody register outer keys = .ok (some c)) :
    ∃ b : Body, b.WellFormed ∧ b.keys = keys ∧ b.Makes register outer c ∧
      ∀ op digits, b ≠ .aimed op (some digits) (.simple '0') := by
  have hnone : outer.map Count.val = times (outer.map Count.val) none := by cases outer <;> rfl
  unfold readBody at h
  split at h
  · cases h
  · split at h
    · next hrest =>
      cases h
      refine ⟨.yankLine, ⟨by simp [Body.inner], trivial⟩, by rw [hrest]; rfl,
        ⟨rfl, hnone, rfl, rfl, rfl⟩, ?_⟩
      intro op digits hbody
      cases hbody
    · cases h
  · next key rest _ =>
    split at h
    · next op hop =>
      have hkey := ofKey?_eq_some hop
      subst hkey
      split at h
      · next hwaiting => exact readOperand_sound ((takesTarget_iff op).1 hwaiting) h
      · next hatOnce =>
        split at h
        · next hrest =>
          cases h
          refine ⟨.atOnce op, ⟨by simp [Body.inner], ?_⟩, by rw [hrest]; rfl,
            ⟨rfl, hnone, rfl, rfl, rfl⟩, ?_⟩
          · exact (not_takesTarget_iff op).1 (Bool.eq_false_iff.2 hatOnce)
          · intro op digits hbody
            cases hbody
        · cases h
    · obtain ⟨aim, haim, hkeys, hmakes⟩ := readAim?_sound (Except.ok.inj h)
      refine ⟨.bare aim, ⟨by simp [Body.inner], haim⟩, hkeys,
        ⟨hmakes.register, by rw [hmakes.count]; exact hnone, hmakes.operator, hmakes.motion,
          hmakes.object⟩, ?_⟩
      intro op digits hbody
      cases hbody

private theorem takeRegister?_sound {rest : Text} (h : takeRegister? keys = some (register, rest)) :
    ∃ name : Option Char, (∀ n ∈ name, isRegisterName [n] = true) ∧
      keys = (name.elim [] fun n => ['"', n]) ++ rest ∧ register = name.map fun n => [n] := by
  unfold takeRegister? at h
  split at h
  · next name others =>
    split at h
    · next hname =>
      cases h
      exact ⟨some name, by simpa using hname, rfl, rfl⟩
    · cases h
  · cases h
  · cases h
    exact ⟨none, by simp, rfl, rfl⟩

/-- What was read is a phrase, and the command is the one that it describes. -/
theorem read_sound (h : read keys = .ok (some c)) :
    ∃ p : Phrase, p.WellFormed ∧ p.Longest ∧ p.keys = keys ∧ p.Describes c := by
  unfold read at h
  split at h
  · cases h
  · next register rest hregister =>
    obtain ⟨⟨count, body⟩, hcount, hread⟩ := bind_eq_ok_iff.1 h
    obtain ⟨digits, rfl, hdigits, hvalue⟩ := takeCount_eq_ok hcount
    obtain ⟨b, hb, hkeys, hmakes, hinner⟩ := readBody_sound hread
    obtain ⟨name, hname, hlead, hmeant⟩ := takeRegister?_sound hregister
    refine ⟨⟨name, digits, b⟩, ⟨hname, fun d hd => (hdigits d hd).1, hb⟩, ⟨?_, hinner⟩, ?_,
      ⟨by rw [hmakes.register, hmeant], ?_, hmakes.operator, hmakes.motion, hmakes.object⟩⟩
    · intro houter hbody
      obtain ⟨d, hd⟩ := Option.ne_none_iff_exists'.1 houter
      have hstop := (hdigits d hd).2
      rw [← hkeys, show b = .bare (.simple '0') from hbody] at hstop
      exact absurd (hstop '0' rfl) (by decide)
    · rw [hlead, Phrase.keys, hkeys, List.append_assoc]
    · rw [hmakes.count, hvalue]
      rfl

def aimKeys : Text :=
  ['f', 'F', 't', 'T', 'i', 'a', 'w', 'W', 'b', 'B', 'e', 'E', '0', '^', '$']

theorem Aim.WellFormed.keys_cons {aim : Aim} (h : aim.WellFormed) :
    ∃ key rest, aim.keys = key :: rest ∧ key ∈ aimKeys ∧ (key = '0' → aim = .simple '0') := by
  cases aim with
  | search key c =>
    have hkey : key ∈ ['f', 'F', 't', 'T'] := h
    refine ⟨key, [c], rfl, ?_, ?_⟩
    · exact List.mem_append_left ['i', 'a', 'w', 'W', 'b', 'B', 'e', 'E', '0', '^', '$'] hkey
    · intro hsame
      subst hsame
      exact absurd hkey (by decide)
  | object scope key =>
    have hscope : scope ∈ ['i', 'a'] := h.1
    refine ⟨scope, [key], rfl, ?_, ?_⟩
    · exact List.mem_append_right ['f', 'F', 't', 'T'] (List.mem_append_left
        ['w', 'W', 'b', 'B', 'e', 'E', '0', '^', '$'] hscope)
    · intro hsame
      subst hsame
      exact absurd hscope (by decide)
  | simple key =>
    have hkey : key ∈ ['w', 'W', 'b', 'B', 'e', 'E', '0', '^', '$'] := h
    refine ⟨key, [], rfl, ?_, ?_⟩
    · exact List.mem_append_right ['f', 'F', 't', 'T', 'i', 'a'] hkey
    · intro hsame
      subst hsame
      rfl

private theorem no_operator_of_mem_aimKeys {key : Char} (h : key ∈ aimKeys) (op : Operator) :
    key ≠ op.key := by
  intro hsame
  subst hsame
  cases op <;> exact absurd h (by decide)

def bodyKeys : Text := 'Y' :: (Operator.all.map Operator.key ++ aimKeys)

private theorem mem_bodyKeys_of_mem_aimKeys {key : Char} (h : key ∈ aimKeys) : key ∈ bodyKeys :=
  List.mem_cons_of_mem 'Y' (List.mem_append_right (Operator.all.map Operator.key) h)

private theorem op_key_mem_bodyKeys (op : Operator) : op.key ∈ bodyKeys := by
  cases op <;> decide

theorem Body.WellFormed.keys_cons {b : Body} (h : b.WellFormed) :
    ∃ key rest, b.keys = key :: rest ∧ key ∈ bodyKeys ∧ (key = '0' → b = .bare (.simple '0')) := by
  have hop (op : Operator) (rest : Text) : ∃ key more, op.key :: rest = key :: more ∧ key ∈ bodyKeys ∧
      (key = '0' → b = .bare (.simple '0')) := by
    refine ⟨op.key, rest, rfl, op_key_mem_bodyKeys op, ?_⟩
    intro hzero
    cases op <;> exact absurd hzero (by decide)
  cases b with
  | yankLine => exact ⟨'Y', [], rfl, by decide, fun hzero => absurd hzero (by decide)⟩
  | atOnce op => exact hop op []
  | waiting op inner => exact hop op (inner.getD [])
  | doubled op inner => exact hop op (inner.getD [] ++ [op.key])
  | aimed op inner aim => exact hop op (inner.getD [] ++ aim.keys)
  | bare aim =>
    obtain ⟨key, rest, hcons, hkey, hmeant⟩ := Aim.WellFormed.keys_cons h.2
    exact ⟨key, rest, hcons, mem_bodyKeys_of_mem_aimKeys hkey, fun hzero => by rw [hmeant hzero]⟩

private theorem not_mark_of_mem_bodyKeys {key : Char} (h : key ∈ bodyKeys) : key ≠ '"' := by
  intro hsame
  subst hsame
  exact absurd h (by decide)

private theorem not_numeral_of_mem_bodyKeys {key : Char} (h : key ∈ bodyKeys) : ¬('1' ≤ key ∧ key ≤ '9') := by
  have hall : (bodyKeys.all fun key => !decide ('1' ≤ key ∧ key ≤ '9')) = true := by decide
  simpa only [Bool.not_eq_true', decide_eq_false_iff_not] using List.all_eq_true.1 hall key h

private theorem no_digit_of_mem_bodyKeys {key : Char} (h : key ∈ bodyKeys) (hzero : key ≠ '0') :
    Text.isDecimalDigit key = false := by
  have hall : (bodyKeys.all fun key => key = '0' || !Text.isDecimalDigit key) = true := by decide
  simpa [hzero] using List.all_eq_true.1 hall key h

private theorem op_key_no_digit (op : Operator) : NoDigit [op.key] := by
  intro c heq
  cases heq
  cases op <;> decide

theorem readBody_operator (op : Operator) :
    readBody register outer (op.key :: keys) =
      if op.takesTarget then readOperand register outer op keys
      else .ok (if keys = [] then some ⟨some op, none, outer, register⟩ else none) := by
  cases op <;> rfl

theorem readBody_aim {key : Char} (h : key ∈ aimKeys) :
    readBody register outer (key :: keys) = .ok (readAim? register outer none (key :: keys)) := by
  have hY : key ≠ 'Y' := by
    intro hsame
    subst hsame
    exact absurd h (by decide)
  have hop : Operator.ofKey? key = none := by
    cases hfound : Operator.ofKey? key with
    | none => rfl
    | some op => exact absurd (ofKey?_eq_some hfound).symm (no_operator_of_mem_aimKeys h op)
  unfold readBody
  split
  · next hnil => cases hnil
  · next heq =>
    cases heq
    exact absurd rfl hY
  · next heq =>
    cases heq
    rw [hop]

private theorem readOperand_complete {op : Operator} {inner : Option Text} {rest : Text}
    (hinner : ∀ d ∈ inner, Numeral d ∧ d.length ≤ Text.numeralLimit)
    (hstop : inner ≠ none → NoDigit rest) (hfirst : ∀ c ∈ rest.head?, ¬('1' ≤ c ∧ c ≤ '9')) :
    ∃ count : Option Count,
      count.map Count.val = times (outer.map Count.val) (inner.map numeralValue) ∧
        readOperand register outer op (inner.getD [] ++ rest) =
          .ok (finishOperand register count op rest) := by
  obtain ⟨number, hcount, hnumber⟩ := takeCount_complete hinner hstop hfirst
  refine ⟨combine outer number, ?_, ?_⟩
  · rw [map_val_combine, hnumber]
  · rw [readOperand_eq, hcount]
    rfl

private theorem readBody_complete {b : Body} (hb : b.WellFormed)
    (hinner : ∀ digits ∈ b.inner, digits.length ≤ Text.numeralLimit)
    (hzero : ∀ op digits, b ≠ .aimed op (some digits) (.simple '0')) :
    ∃ c, readBody register outer b.keys = .ok (some c) ∧ b.Makes register outer c := by
  obtain ⟨hnumerals, hkeys⟩ := hb
  have hreadable : ∀ d ∈ b.inner, Numeral d ∧ d.length ≤ Text.numeralLimit :=
    fun d hd => ⟨hnumerals d hd, hinner d hd⟩
  have hnone : outer.map Count.val = times (outer.map Count.val) none := by cases outer <;> rfl
  -- the first key tells what the body is; a count ends where the first key of the target stands
  cases b with
  | yankLine => exact ⟨_, rfl, rfl, hnone, rfl, rfl, rfl⟩
  | atOnce op =>
    have hat := (not_takesTarget_iff op).2 hkeys
    refine ⟨⟨some op, none, outer, register⟩, ?_, rfl, hnone, rfl, rfl, rfl⟩
    rw [Body.keys, readBody_operator, hat]
    rfl
  | waiting op inner =>
    have hnil : ∀ c ∈ ([] : Text).head?, ¬('1' ≤ c ∧ c ≤ '9') := by
      intro c heq
      cases heq
    obtain ⟨count, hcount, hread⟩ := readOperand_complete hreadable (fun _ => noDigit_nil) hnil
    refine ⟨⟨some op, none, count, register⟩, ?_, rfl, hcount, rfl, rfl, rfl⟩
    rw [Body.keys, readBody_operator, if_pos ((takesTarget_iff op).2 hkeys)]
    rw [List.append_nil] at hread
    exact hread
  | doubled op inner =>
    have hfirst : ∀ c ∈ [op.key].head?, ¬('1' ≤ c ∧ c ≤ '9') := by
      intro c heq
      cases heq
      exact not_numeral_of_mem_bodyKeys (op_key_mem_bodyKeys op)
    obtain ⟨count, hcount, hread⟩ := readOperand_complete hreadable
      (fun _ => op_key_no_digit op) hfirst
    refine ⟨⟨some op, some (.motion [op.key, op.key]), count, register⟩, ?_, rfl, hcount, rfl, rfl, rfl⟩
    rw [Body.keys, readBody_operator, if_pos ((takesTarget_iff op).2 hkeys)]
    refine hread.trans ?_
    simp [finishOperand]
  | aimed op inner aim =>
    obtain ⟨hop, haim⟩ := hkeys
    obtain ⟨key, rest, hcons, hkey, hmeant⟩ := haim.keys_cons
    -- behind a count the motion `0` alone would begin with a digit
    have hdigit : inner ≠ none → NoDigit aim.keys := by
      intro hsome
      obtain ⟨digits, rfl⟩ := Option.ne_none_iff_exists'.1 hsome
      rw [hcons]
      intro c heq
      cases heq
      refine no_digit_of_mem_bodyKeys (mem_bodyKeys_of_mem_aimKeys hkey) fun h0 => ?_
      exact hzero op digits (by rw [hmeant h0])
    have hfirst : ∀ c ∈ aim.keys.head?, ¬('1' ≤ c ∧ c ≤ '9') := by
      rw [hcons]
      intro c heq
      cases heq
      exact not_numeral_of_mem_bodyKeys (mem_bodyKeys_of_mem_aimKeys hkey)
    obtain ⟨count, hcount, hread⟩ := readOperand_complete hreadable hdigit hfirst
    obtain ⟨c, hc, hmakes⟩ : ∃ c, readAim? register count (some op) aim.keys = some c ∧
        aim.Makes register count (some op) c := readAim?_complete haim
    refine ⟨c, ?_, hmakes.register, by rw [hmakes.count]; exact hcount, hmakes.operator,
      hmakes.motion, hmakes.object⟩
    rw [Body.keys, readBody_operator, if_pos ((takesTarget_iff op).2 hop)]
    refine hread.trans ?_
    rw [hcons, finishOperand_aim (no_operator_of_mem_aimKeys hkey op), ← hcons, hc]
  | bare aim =>
    obtain ⟨key, rest, hcons, hkey, -⟩ := Aim.WellFormed.keys_cons hkeys
    obtain ⟨c, hc, hmakes⟩ : ∃ c, readAim? register outer none aim.keys = some c ∧
        aim.Makes register outer none c := readAim?_complete hkeys
    refine ⟨c, ?_, hmakes.register, by rw [hmakes.count]; exact hnone, hmakes.operator, hmakes.motion,
      hmakes.object⟩
    rw [Body.keys, hcons, readBody_aim hkey, ← hcons]
    exact congrArg Except.ok hc

theorem takeRegister?_of_ne {key : Char} (h : key ≠ '"') :
    takeRegister? (key :: keys) = some (none, key :: keys) := by
  unfold takeRegister?
  split <;> simp_all

private theorem takeRegister?_complete {name : Option Char} (hname : ∀ n ∈ name, isRegisterName [n] = true)
    (hrest : ∀ c ∈ keys.head?, c ≠ '"') :
    takeRegister? ((name.elim [] fun n => ['"', n]) ++ keys) = some (name.map fun n => [n], keys) := by
  cases name with
  | none =>
    cases keys with
    | nil => rfl
    | cons c rest => exact takeRegister?_of_ne (hrest c rfl)
  | some n =>
    change (if isRegisterName [n] then _ else _) = _
    rw [if_pos (hname n rfl)]
    rfl

/-- Every phrase whose counts take every digit is read as the command that it describes. -/
theorem read_complete {p : Phrase} (hp : p.WellFormed) (hlongest : p.Longest)
    (houter : ∀ digits ∈ p.outer, digits.length ≤ Text.numeralLimit)
    (hinner : ∀ digits ∈ p.body.inner, digits.length ≤ Text.numeralLimit) :
    ∃ c, read p.keys = .ok (some c) ∧ p.Describes c := by
  obtain ⟨name, outer, b⟩ := p
  obtain ⟨key, rest, hcons, hkey, hmeant⟩ := hp.body.keys_cons
  have hstop : outer ≠ none → NoDigit b.keys := by
    intro hsome
    rw [hcons]
    intro c heq
    cases heq
    exact no_digit_of_mem_bodyKeys hkey fun h0 => hlongest.outer hsome (hmeant h0)
  have hfirst : ∀ c ∈ b.keys.head?, ¬('1' ≤ c ∧ c ≤ '9') := by
    rw [hcons]
    intro c heq
    cases heq
    exact not_numeral_of_mem_bodyKeys hkey
  have hmark : ∀ c ∈ (outer.getD [] ++ b.keys).head?, c ≠ '"' := by
    cases outer with
    | none =>
      rw [Option.getD_none, List.nil_append, hcons]
      intro c heq
      cases heq
      exact not_mark_of_mem_bodyKeys hkey
    | some digits =>
      obtain ⟨first, more, hdigits, hbounds, -⟩ := hp.outer digits rfl
      rw [Option.getD_some, hdigits]
      rintro c ⟨⟩ rfl
      exact absurd hbounds (by decide)
  -- no part runs into the next one, so each is cut off whole
  obtain ⟨count, hcount, hvalue⟩ :=
    takeCount_complete (fun d hd => ⟨hp.outer d hd, houter d hd⟩) hstop hfirst
  obtain ⟨c, hread, hmakes⟩ : ∃ c, readBody (name.map fun n => [n]) count b.keys = .ok (some c) ∧
      b.Makes (name.map fun n => [n]) count c := readBody_complete hp.body hinner hlongest.inner
  refine ⟨c, ?_, hmakes.register, ?_, hmakes.operator, hmakes.motion, hmakes.object⟩
  · rw [Phrase.keys, List.append_assoc, read, takeRegister?_complete hp.register hmark]
    dsimp only
    rw [hcount]
    exact hread
  · rw [hmakes.count, hvalue]
    rfl

private theorem readOperand_error_iff {op : Operator} :
    (∃ fault, readOperand register outer op keys = .error fault) ↔
      ∃ fault, takeCount keys = .error fault := by
  rw [readOperand_eq]
  cases takeCount keys <;> simp [Except.map]

private theorem readBody_error_iff :
    (∃ fault, readBody register outer keys = .error fault) ↔
      ∃ (op : Operator) (rest : Text), op.takesTarget = true ∧ keys = op.key :: rest ∧
        ∃ fault, takeCount rest = .error fault := by
  constructor
  · rintro ⟨fault, h⟩
    unfold readBody at h
    split at h
    · cases h
    · cases h
    · next key rest _ =>
      split at h
      · next op hop =>
        split at h
        · next htakes =>
          obtain rfl := ofKey?_eq_some hop
          exact ⟨op, rest, htakes, rfl, readOperand_error_iff.1 ⟨fault, h⟩⟩
        · cases h
      · cases h
  · rintro ⟨op, rest, htakes, rfl, hrest⟩
    rw [readBody_operator, if_pos htakes]
    exact readOperand_error_iff.2 hrest

/-- What stands in front of a count: a register, or a register, a count and an operator that waits. -/
inductive CountLead : Text → Prop
  | register {name : Option Char} (hname : ∀ n ∈ name, isRegisterName [n] = true) :
    CountLead (name.elim [] fun n => ['"', n])
  | operator {name : Option Char} (hname : ∀ n ∈ name, isRegisterName [n] = true) {outer : Option Text}
    (houter : ∀ d ∈ outer, Numeral d) {op : Operator} (htakes : op.takesTarget = true) :
    CountLead ((name.elim [] fun n => ['"', n]) ++ outer.getD [] ++ [op.key])

/-- Keys with a count that has too many digits. -/
def LongCount (keys : Text) : Prop :=
  ∃ lead digits more, keys = lead ++ digits ++ more ∧ CountLead lead ∧ Numeral digits ∧
    Text.numeralLimit < digits.length

private theorem Numeral.head_ne_mark {digits : Text} (h : Numeral digits) (more : Text) :
    ∀ c ∈ (digits ++ more).head?, c ≠ '"' := by
  obtain ⟨first, rest, rfl, hfirst, -⟩ := h
  intro c hc
  cases hc
  rintro rfl
  exact absurd hfirst (by decide)

theorem read_error_iff : (∃ fault, read keys = .error fault) ↔ LongCount keys := by
  constructor
  · rintro ⟨fault, h⟩
    unfold read at h
    split at h
    · cases h
    · next register rest hregister =>
      obtain ⟨name, hname, rfl, -⟩ := takeRegister?_sound hregister
      cases hcount : takeCount rest with
      | error fault =>
        obtain ⟨digits, ⟨more, rfl⟩, hlong⟩ := takeCount_eq_error hcount
        exact ⟨_, digits, more, (List.append_assoc _ _ _).symm, .register hname, hlong⟩
      | ok taken =>
        obtain ⟨count, body⟩ := taken
        obtain ⟨outer, rfl, houter, -⟩ := takeCount_eq_ok hcount
        rw [hcount] at h
        obtain ⟨op, behind, htakes, rfl, hrefused⟩ := readBody_error_iff.1 ⟨fault, h⟩
        obtain ⟨digits, ⟨more, rfl⟩, hlong⟩ := takeCount_error_iff.1 hrefused
        exact ⟨_, digits, more, by simp, .operator hname (fun d hd => (houter d hd).1) htakes, hlong⟩
  · rintro ⟨lead, digits, more, rfl, hlead, hnumeral, hlong⟩
    obtain ⟨fault, hrefused⟩ : ∃ fault, takeCount (digits ++ more) = .error fault :=
      takeCount_error_iff.2 ⟨digits, List.prefix_append digits more, hnumeral, hlong⟩
    -- what leads the long count is cut off as it was typed
    cases hlead with
    | register hname =>
      rw [List.append_assoc, read, takeRegister?_complete hname (hnumeral.head_ne_mark more)]
      exact ⟨fault, by simp only [hrefused]; rfl⟩
    | @operator name hname outer houter op htakes =>
      have hkeys : (name.elim [] fun n => ['"', n]) ++ outer.getD [] ++ [op.key] ++ digits ++ more =
          (name.elim [] fun n => ['"', n]) ++ (outer.getD [] ++ op.key :: (digits ++ more)) := by simp
      have hmark : ∀ c ∈ (outer.getD [] ++ op.key :: (digits ++ more)).head?, c ≠ '"' := by
        cases outer with
        | none =>
          intro c hc
          cases hc
          exact not_mark_of_mem_bodyKeys (op_key_mem_bodyKeys op)
        | some d => exact (houter d rfl).head_ne_mark _
      have hstop : NoDigit (op.key :: (digits ++ more)) := op_key_no_digit op
      rw [hkeys, read, takeRegister?_complete hname hmark]
      rcases takeCount_refused_or houter hstop with ⟨fault, houter⟩ | ⟨count, houter⟩
      · exact ⟨fault, by simp only [houter]; rfl⟩
      · simp only [houter]
        exact readBody_error_iff.2 ⟨op, digits ++ more, htakes, rfl, fault, hrefused⟩

theorem read_numeral {digits : Text} (h : Numeral digits) :
    read digits = if digits.length ≤ Text.numeralLimit then .ok none
      else .error (.numeralTooLong digits.length) := by
  have hregister : takeRegister? digits = some (none, digits) := by
    obtain ⟨first, rest, rfl, hfirst, -⟩ := h
    refine takeRegister?_of_ne ?_
    rintro rfl
    exact absurd hfirst (by decide)
  have hcut : takeDigits digits = (digits, []) := by
    have hall := takeDigits_numeral h noDigit_nil
    rwa [List.append_nil] at hall
  rw [read, hregister]
  dsimp only
  rw [takeCount_of_digits hcut h.ne_nil, Text.readDigits]
  split <;> rfl

private theorem read_eq_error {fault : Fault} (h : read keys = .error fault) :
    ∃ digits, digits <:+: keys ∧ Numeral digits ∧ Text.numeralLimit < digits.length := by
  obtain ⟨lead, digits, more, rfl, -, hlong⟩ := read_error_iff.1 ⟨fault, h⟩
  exact ⟨digits, List.infix_append lead digits more, hlong⟩

end

end ModalEditor.Grammar

namespace ModalEditor.Session

open Grammar

theorem read_answer (s : Session) {keys : Text} (hforward : keys ≠ [';']) (hback : keys ≠ [',']) :
    (s.read keys).2 = Grammar.read keys := by
  unfold Session.read
  rw [if_neg hforward, if_neg hback]
  split
  · next heq => split <;> exact heq.symm
  · rfl

/-- Keys without too long a row of digits are a command exactly when they are a phrase whose counts take
every digit that they can, and then it is the command that the phrase describes. All other keys are
nothing, and none are refused. -/
theorem parse_iff_phrase (s : Session) (logger : Option Text) {keys : Text} (hforward : keys ≠ [';'])
    (hback : keys ≠ [','])
    (hdigits : ∀ run, run <:+: keys → (∀ c ∈ run, Text.isDecimalDigit c = true) →
      run.length ≤ Text.numeralLimit) :
    (∀ c, (s.parse logger keys).value.2 = .ok (some c) ↔
        ∃ p : Phrase, p.WellFormed ∧ p.Longest ∧ p.keys = keys ∧ p.Describes c) ∧
      ((s.parse logger keys).value.2 = .ok none ↔
        ¬∃ p : Phrase, p.WellFormed ∧ p.Longest ∧ p.keys = keys) := by
  rw [value_parse, read_answer s hforward hback]
  -- a phrase is refused only for long counts, and those are rows of digits in the keys
  have hcomplete : ∀ p : Phrase, p.WellFormed → p.Longest → p.keys = keys →
      ∃ c, Grammar.read keys = .ok (some c) ∧ p.Describes c := by
    rintro p hp hlongest rfl
    refine read_complete hp hlongest (fun d hd => ?_) fun d hd => ?_
    · exact hdigits d (p.outer_infix hd) (hp.outer d hd).isDecimalDigit
    · exact hdigits d (p.inner_infix hd) (hp.body.1 d hd).isDecimalDigit
  constructor
  · intro c
    constructor
    · exact read_sound
    · rintro ⟨p, hp, hlongest, hkeys, hc⟩
      obtain ⟨d, hread, hd⟩ := hcomplete p hp hlongest hkeys
      rw [hread, hc.unique hd]
  · constructor
    · rintro hnone ⟨p, hp, hlongest, hkeys⟩
      obtain ⟨d, hread, -⟩ := hcomplete p hp hlongest hkeys
      rw [hread] at hnone
      cases hnone
    · intro hno
      cases hread : Grammar.read keys with
      | error fault =>
        obtain ⟨digits, hinfix, hnumeral, hlong⟩ := read_eq_error hread
        exact absurd (hdigits digits hinfix hnumeral.isDecimalDigit) (Nat.not_le_of_lt hlong)
      | ok found =>
        cases found with
        | none => rfl
        | some c =>
          obtain ⟨p, hp, hlongest, hkeys, -⟩ := read_sound hread
          exact absurd ⟨p, hp, hlongest, hkeys⟩ hno

/-- Both counts of `2d3w` are read, and nothing else could be meant. -/
theorem parse_iff_phrase_counts :
    (∀ c, (({} : Session).parse none ['2', 'd', '3', 'w']).value.2 = .ok (some c) ↔
        ∃ p : Phrase, p.WellFormed ∧ p.Longest ∧ p.keys = ['2', 'd', '3', 'w'] ∧ p.Describes c) ∧
      ((({} : Session).parse none ['2', 'd', '3', 'w']).value.2 = .ok none ↔
        ¬∃ p : Phrase, p.WellFormed ∧ p.Longest ∧ p.keys = ['2', 'd', '3', 'w']) :=
  parse_iff_phrase {} none (by decide) (by decide) fun _ hrun _ => Nat.le_trans hrun.length_le (by decide)

/-- A motion `0` directly behind a count is a digit of it, so `10` waits although it is a phrase. -/
theorem parse_zero_behind_count :
    ¬((∃ c, (({} : Session).parse none ['1', '0']).value.2 = .ok (some c)) ↔
      ∃ p : Phrase, p.WellFormed ∧ p.keys = ['1', '0']) := by
  intro h
  have hnone : (({} : Session).parse none ['1', '0']).value.2 = .ok none := by
    rw [value_parse, read_answer {} (by decide) (by decide)]
    rfl
  have hnumeral : Numeral ['1'] := ⟨'1', [], rfl, by decide, by simp⟩
  have hphrase : (⟨none, some ['1'], .bare (.simple '0')⟩ : Phrase).WellFormed := by
    refine ⟨by simp, ?_, by simp [Body.inner], ?_⟩
    · intro digits heq
      cases heq
      exact hnumeral
    · exact (by decide : '0' ∈ ['w', 'W', 'b', 'B', 'e', 'E', '0', '^', '$'])
  obtain ⟨c, hc⟩ := h.2 ⟨_, hphrase, rfl⟩
  rw [hnone] at hc
  cases hc

end ModalEditor.Session
