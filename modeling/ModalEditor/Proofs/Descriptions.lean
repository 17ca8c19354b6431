import ModalEditor.Command.Description
import ModalEditor.Proofs.Refusals
/-!
# Descriptions tell commands apart

A description puts its parts one behind the other and escapes nothing: a label, a count, a target in parentheses
and a register. Still no two commands that were read of keys have the same description. Each part but the label
begins with a mark of its own, with which no label goes on, and the first key of a target says how many keys the
target has.
-/
namespace ModalEditor

/-! ### Parts -/

/-- A part that may be left out: a space, a mark and what the part says. -/
def markedPart (mark : Char) (said : Option Text) : Text := said.elim [] fun t => ' ' :: mark :: t

/-- What can stand behind a part: nothing, or a part with one of these marks. -/
def Follows (marks t : Text) : Prop := t = [] ∨ ∃ mark ∈ marks, ∃ more, t = ' ' :: mark :: more

def spokenPart (mark : Char) (said : Option Text) : List Text := (said.map (mark :: ·)).toList

private theorem intercalate_space (first : Text) (parts : List Text) :
    List.intercalate [' '] (first :: parts) = first ++ parts.flatMap (' ' :: ·) := by
  induction parts generalizing first with
  | nil => simp
  | cons next parts ih => simp [List.intercalate_cons_cons, ih]

@[simp] theorem flatMap_spokenPart (mark : Char) (said : Option Text) :
    (spokenPart mark said).flatMap (' ' :: ·) = markedPart mark said := by
  cases said with
  | none => rfl
  | some said => simp [spokenPart, markedPart]

private theorem Follows.markedPart {marks t : Text} (h : Follows marks t) (mark : Char) (said : Option Text) :
    Follows (mark :: marks) (markedPart mark said ++ t) := by
  cases said with
  | none =>
    apply h.imp_right
    rintro ⟨other, hother, more, rfl⟩
    exact ⟨other, List.mem_cons_of_mem mark hother, more, rfl⟩
  | some said => exact .inr ⟨mark, List.mem_cons_self, said ++ t, rfl⟩

private theorem Follows.noDigit {marks t : Text} (h : Follows marks t) : ∀ c ∈ t.head?, ¬c.isDigit = true := by
  rcases h with rfl | ⟨mark, -, more, rfl⟩
  · simp
  · simp

/-- What follows a part never looks like that part. So if what it says is told from any text behind it, the part
is told from all that follows. -/
theorem markedPart_append_inj {α : Type} {say : α → Text} {mark : Char} {marks s t : Text} {a b : Option α}
    (hmark : mark ∉ marks) (hs : Follows marks s) (ht : Follows marks t)
    (hsay : ∀ x ∈ a, ∀ y ∈ b, say x ++ s = say y ++ t → x = y ∧ s = t)
    (h : markedPart mark (a.map say) ++ s = markedPart mark (b.map say) ++ t) : a = b ∧ s = t := by
  have hnot {u v : Text} (hu : Follows marks u) : u ≠ ' ' :: mark :: v := by
    rintro rfl
    rcases hu with hnil | ⟨other, hother, more, heq⟩
    · cases hnil
    · cases heq
      exact hmark hother
  cases a with
  | none =>
    cases b with
    | none => exact ⟨rfl, h⟩
    | some y => exact absurd h (hnot hs)
  | some x =>
    cases b with
    | none => exact absurd h.symm (hnot ht)
    | some y =>
      have hsaid : say x ++ s = say y ++ t := by simpa [markedPart] using h
      obtain ⟨rfl, hrest⟩ := hsay x rfl y rfl hsaid
      exact ⟨rfl, hrest⟩

private theorem toDigits_append_inj {m n : Nat} {s t : Text} (hs : ∀ c ∈ s.head?, ¬c.isDigit = true)
    (ht : ∀ c ∈ t.head?, ¬c.isDigit = true) (h : Nat.toDigits 10 m ++ s = Nat.toDigits 10 n ++ t) :
    m = n ∧ s = t := by
  have hcut (k : Nat) {u : Text} (hu : ∀ c ∈ u.head?, ¬c.isDigit = true) :
      (Nat.toDigits 10 k ++ u).takeWhile Char.isDigit = Nat.toDigits 10 k := by
    rw [List.takeWhile_append_of_pos fun c => Nat.isDigit_of_mem_toDigits (by decide) (by decide)]
    cases u with
    | nil => simp
    | cons c more => simp [hu c rfl]
  have hdigits : Nat.toDigits 10 m = Nat.toDigits 10 n := by
    rw [← hcut m hs, h, hcut n ht]
  have hsame : m = n := by
    rw [← Nat.ofDigitChars_ten_toDigits (n := m), hdigits, Nat.ofDigitChars_ten_toDigits]
  refine ⟨hsame, ?_⟩
  rwa [hdigits, List.append_cancel_left_eq] at h

/-! ### Labels -/

private theorem label_prefix {language : Language} {a b : Option Operator}
    (h : Command.label language a <+: Command.label language b) :
    a = b ∨ a = some .paste ∧ b = some .pasteBefore := by
  have hall : ∀ language ∈ [Language.english, .chinese], ∀ a ∈ none :: Operator.all.map some,
      ∀ b ∈ none :: Operator.all.map some, Command.label language a <+: Command.label language b →
        a = b ∨ a = some .paste ∧ b = some .pasteBefore := by decide
  have hlanguage : language ∈ [Language.english, .chinese] := by cases language <;> decide
  have hmem (a : Option Operator) : a ∈ none :: Operator.all.map some := by
    rcases a with _ | op
    · decide
    · cases op <;> decide
  exact hall language hlanguage a (hmem a) b (hmem b) h

private theorem eq_of_label_append {language : Language} {a b : Option Operator} {more t : Text}
    (h : Command.label language b = Command.label language a ++ more)
    (hmore : Follows ['x', '(', '['] (more ++ t)) : a = b := by
  rcases label_prefix ⟨more, h.symm⟩ with hsame | ⟨rfl, rfl⟩
  · exact hsame
  · have hnot {c d : Char} {rest : Text} (hcd : c = ' ' → d ∉ ['x', '(', '[']) :
        ¬Follows ['x', '(', '['] (c :: d :: rest) := by
      rintro (hnil | ⟨mark, hmark, later, heq⟩)
      · cases hnil
      · cases heq
        exact hcd rfl hmark
    cases language with
    | english =>
      have hlabel : "Paste".toList ++ " Before".toList = "Paste".toList ++ more := h
      obtain rfl := List.append_cancel_left hlabel
      exact absurd hmore (hnot (by decide))
    | chinese =>
      have hlabel : "粘贴".toList ++ "到前面".toList = "粘贴".toList ++ more := h
      obtain rfl := List.append_cancel_left hlabel
      exact absurd hmore (hnot (by decide))

private theorem label_append_inj {language : Language} {a b : Option Operator} {s t : Text}
    (hs : Follows ['x', '(', '['] s) (ht : Follows ['x', '(', '['] t)
    (h : Command.label language a ++ s = Command.label language b ++ t) : a = b ∧ s = t := by
  have hsame : a = b := by
    rcases List.append_eq_append_iff.1 h with ⟨more, hlabel, rfl⟩ | ⟨more, hlabel, rfl⟩
    · exact eq_of_label_append hlabel hs
    · exact (eq_of_label_append hlabel ht).symm
  subst hsame
  exact ⟨rfl, List.append_cancel_left h⟩

/-! ### Targets -/

namespace Target

def keys : Target → Text
  | motion keys => keys
  | object o => o.keys

inductive Readable : Target → Prop
  | simple {key : Char} (h : key ∈ Grammar.simpleMotions) : Readable (.motion [key])
  | search (s : CharSearch) : Readable (.motion s.keys)
  | doubled {op : Operator} (h : op.takesTarget = true) : Readable (.motion [op.key, op.key])
  | object {scope key : Char} {o : TextObject} (h : TextObject.ofKeys? [scope] [key] = some o) :
    Readable (.object o)

def named (keys : Text) : Target :=
  match keys with
  | [scope, key] => ((TextObject.ofKeys? [scope] [key]).map .object).getD (.motion keys)
  | _ => .motion keys

end Target

theorem TextObject.ofKeys?_keys {scope key : Char} {o : TextObject} (h : ofKeys? [scope] [key] = some o) :
    scope ∈ ['i', 'a'] ∧ ∃ k, o.keys = [scope, k] ∧ ofKeys? [scope] [k] = some o := by
  have hsome : (ofKeys? [scope] [key]).isSome := by rw [h]; rfl
  obtain ⟨hscope, hkey⟩ := (Grammar.ofKeys?_isSome_iff scope key).1 hsome
  refine ⟨hscope, ?_⟩
  simp only [List.mem_cons, List.not_mem_nil, or_false] at hscope hkey
  rcases hscope with rfl | rfl <;>
    rcases hkey with rfl | rfl | rfl | rfl | rfl | rfl | rfl | rfl | rfl | rfl <;>
      · obtain rfl := Option.some.inj h
        exact ⟨_, rfl, rfl⟩

namespace Target.Readable

variable {t u : Target}

private theorem named_keys (h : t.Readable) : named t.keys = t := by
  cases h with
  | simple => rfl
  | search s =>
    obtain ⟨c, forward, till⟩ := s
    cases forward <;> cases till <;> rfl
  | @doubled op => cases op <;> rfl
  | object hobject =>
    obtain ⟨-, k, hkeys, hagain⟩ := TextObject.ofKeys?_keys hobject
    simp only [keys, hkeys, named, hagain, Option.map_some, Option.getD_some]

theorem keys_cons (h : t.Readable) :
    ∃ first rest, t.keys = first :: rest ∧ rest.length = if first ∈ Grammar.simpleMotions then 0 else 1 := by
  cases h with
  | @simple key hkey => exact ⟨key, [], rfl, by rw [if_pos hkey]; rfl⟩
  | search s =>
    obtain ⟨c, forward, till⟩ := s
    cases forward <;> cases till <;> exact ⟨_, [c], rfl, rfl⟩
  | @doubled op => cases op <;> exact ⟨_, _, rfl, rfl⟩
  | object hobject =>
    obtain ⟨hscope, k, hkeys, -⟩ := TextObject.ofKeys?_keys hobject
    refine ⟨_, [k], hkeys, ?_⟩
    simp only [List.mem_cons, List.not_mem_nil, or_false] at hscope
    rcases hscope with rfl | rfl <;> rfl

private theorem append_inj (ht : t.Readable) (hu : u.Readable) {x y : Text} (h : t.keys ++ x = u.keys ++ y) :
    t = u ∧ x = y := by
  obtain ⟨first, rest, hkeys, hlength⟩ := ht.keys_cons
  obtain ⟨other, rest', hkeys', hlength'⟩ := hu.keys_cons
  have hsame : t.keys = u.keys ∧ x = y := by
    rw [hkeys, hkeys'] at h ⊢
    have hfirst : first = other := (List.cons.inj h).1
    apply List.append_inj h
    simp only [List.length_cons, hlength, hlength', hfirst]
  refine ⟨?_, hsame.2⟩
  rw [← ht.named_keys, hsame.1, hu.named_keys]

end Target.Readable

/-! ### Descriptions -/

namespace Command

def description (c : Command) (language : Language) : Text :=
  label language c.operator ++
    (markedPart 'x' (c.count.map fun n => Nat.toDigits 10 n.val) ++
      (markedPart '(' (c.target.map fun t => t.keys ++ [')']) ++
        markedPart '[' (c.register.map fun name => '"' :: name ++ [']'])))

variable {c d : Command} {language : Language}

private theorem countPart_of_loggable (h : Loggable c.times) :
    countPart c.count = .ok (spokenPart 'x' (c.count.map fun n => Nat.toDigits 10 n.val)) := by
  obtain ⟨operator, target, count, register⟩ := c
  cases count with
  | none => rfl
  | some n =>
    have hwritten : Text.writeNat n.val = .ok (Text.intDigits n.val) := writeInt_of_loggable h
    simp only [countPart, hwritten]
    rfl

private theorem countPart_of_not_loggable (h : ¬Loggable c.times) : countPart c.count = .error .numberTooLong := by
  obtain ⟨operator, target, count, register⟩ := c
  cases count with
  | none => exact absurd loggable_one h
  | some n =>
    have hlong : Text.writeNat n.val = .error .numberTooLong := writeInt_of_not_loggable h
    simp only [countPart, hlong]
    rfl

private theorem targetPart_eq {target : Option Target} (h : ∀ t ∈ target, t.keys ≠ []) :
    targetPart target = spokenPart '(' (target.map fun t => t.keys ++ [')']) := by
  cases target with
  | none => rfl
  | some t =>
    have hkeys : inParens t.keys = ['(' :: t.keys ++ [')']] := if_neg (h t rfl)
    cases t with
    | motion keys => exact hkeys
    | object o => exact hkeys

private theorem registerPart_eq {register : Option Text} (h : register ≠ some []) :
    registerPart register = spokenPart '[' (register.map fun name => '"' :: name ++ [']']) := by
  cases register with
  | none => rfl
  | some name =>
    cases name with
    | nil => exact absurd rfl h
    | cons first rest => rfl

private theorem describe_of_loggable (htimes : Loggable c.times) (htarget : ∀ t ∈ c.target, t.keys ≠ [])
    (hregister : c.register ≠ some []) : c.describe language = .ok (c.description language) := by
  rw [describe, countPart_of_loggable htimes, targetPart_eq htarget, registerPart_eq hregister]
  apply congrArg Except.ok
  rw [List.cons_append, List.cons_append, intercalate_space]
  simp [description]

private theorem describe_of_not_loggable (h : ¬Loggable c.times) : c.describe language = .error .numberTooLong := by
  rw [describe, countPart_of_not_loggable h]
  rfl

/-- A description tells its command, if the targets are such that their keys tell them. -/
theorem eq_of_description (hc : ∀ t ∈ c.target, t.Readable) (hd : ∀ t ∈ d.target, t.Readable)
    (h : c.description language = d.description language) : c = d := by
  have hregister (c : Command) :
      Follows ['['] (markedPart '[' (c.register.map fun name => '"' :: name ++ [']'])) := by
    simpa using Follows.markedPart (.inl rfl : Follows [] []) '[' (c.register.map fun name => '"' :: name ++ [']'])
  have htarget (c : Command) := (hregister c).markedPart '(' (c.target.map fun t => t.keys ++ [')'])
  have hcount (c : Command) := (htarget c).markedPart 'x' (c.count.map fun n => Nat.toDigits 10 n.val)
  -- part by part from the front: what can follow a part never looks like more of it
  obtain ⟨hoperators, h⟩ := label_append_inj (hcount c) (hcount d) h
  obtain ⟨hcounts, h⟩ : c.count = d.count ∧ _ := by
    apply markedPart_append_inj (by decide) (htarget c) (htarget d) _ h
    intro m _ n _ hsaid
    obtain ⟨hval, hrest⟩ := toDigits_append_inj (htarget c).noDigit (htarget d).noDigit hsaid
    have hsame : m = n := by
      cases m
      cases n
      cases hval
      rfl
    exact ⟨hsame, hrest⟩
  obtain ⟨htargets, h⟩ : c.target = d.target ∧ _ := by
    apply markedPart_append_inj (by decide) (hregister c) (hregister d) _ h
    intro t ht u hu hsaid
    simp only [List.append_assoc] at hsaid
    obtain ⟨hsame, hrest⟩ := (hc t ht).append_inj (hd u hu) hsaid
    exact ⟨hsame, (List.cons.inj hrest).2⟩
  obtain ⟨hregisters, -⟩ : c.register = d.register ∧ ([] : Text) = [] := by
    have hnone : Follows [] [] := .inl rfl
    apply markedPart_append_inj List.not_mem_nil hnone hnone _ (by simpa using h)
    intro name _ other _ hsaid
    simpa using hsaid
  cases c
  cases d
  cases hoperators
  cases hcounts
  cases htargets
  cases hregisters
  rfl

private theorem eq_of_mem_target {t : Target} (h : t ∈ c.target) :
    (∃ keys ∈ c.motion?, t = .motion keys) ∨ ∃ o ∈ c.object?, t = .object o := by
  obtain ⟨operator, target, count, register⟩ := c
  cases h
  cases t with
  | motion keys => exact .inl ⟨keys, rfl, rfl⟩
  | object o => exact .inr ⟨o, rfl, rfl⟩

end Command

/-! ### Commands that are read of keys -/

namespace Grammar

private theorem Aim.readable {aim : Aim} (h : aim.WellFormed) :
    (∀ keys ∈ aim.motion?, (Target.motion keys).Readable) ∧ ∀ o ∈ aim.object?, (Target.object o).Readable := by
  cases aim with
  | search key c =>
    refine ⟨?_, by simp [object?]⟩
    intro keys hkeys
    cases hkeys
    simp only [WellFormed, List.mem_cons, List.not_mem_nil, or_false] at h
    rcases h with rfl | rfl | rfl | rfl
    · exact .search ⟨c, true, false⟩
    · exact .search ⟨c, false, false⟩
    · exact .search ⟨c, true, true⟩
    · exact .search ⟨c, false, true⟩
  | object scope key => exact ⟨by simp [motion?], fun o ho => .object ho⟩
  | simple key =>
    refine ⟨?_, by simp [object?]⟩
    intro keys hkeys
    cases hkeys
    exact .simple h

private theorem Body.readable {b : Body} (h : b.WellFormed) :
    (∀ keys ∈ b.motion?, (Target.motion keys).Readable) ∧ ∀ o ∈ b.object?, (Target.object o).Readable := by
  cases b with
  | yankLine =>
    refine ⟨?_, by simp [object?]⟩
    intro keys hkeys
    cases hkeys
    have htakes : Operator.yank.takesTarget = true := rfl
    exact .doubled htakes
  | doubled op inner =>
    refine ⟨?_, by simp [object?]⟩
    intro keys hkeys
    cases hkeys
    exact .doubled ((takesTarget_iff op).2 h.2)
  | aimed op inner aim => exact Aim.readable h.2.2
  | bare aim => exact Aim.readable h.2
  | _ => exact ⟨by simp [motion?], by simp [object?]⟩

end Grammar

namespace Session

private theorem readable_of_read (s : Session) {keys : Text} {c : Command} (h : (s.read keys).2 = .ok (some c)) :
    ∀ t ∈ c.target, t.Readable := by
  intro t ht
  rcases s.cases_of_read h with ⟨op, search, rfl⟩ | ⟨p, hp, hdescribes⟩
  · cases ht
    exact .search search
  obtain ⟨hmotion, hobject⟩ := Grammar.Body.readable hp.body
  rcases Command.eq_of_mem_target ht with ⟨keys, hkeys, rfl⟩ | ⟨o, ho, rfl⟩
  · rw [hdescribes.motion] at hkeys
    exact hmotion keys hkeys
  · rw [hdescribes.object] at ho
    exact hobject o ho

private theorem describe_of_read (s : Session) {keys : Text} {c : Command} (h : (s.read keys).2 = .ok (some c))
    (htimes : Loggable c.times) (language : Language) : c.describe language = .ok (c.description language) := by
  apply Command.describe_of_loggable htimes
  · intro t ht
    obtain ⟨first, rest, hkeys, -⟩ := (s.readable_of_read h t ht).keys_cons
    rw [hkeys]
    exact List.cons_ne_nil first rest
  · intro hempty
    have hname := (s.parts_of_read h).1 [] hempty
    cases hname

/-- Two commands that were read of keys, in any sessions, have different descriptions in every language. A
description fails only for a count that is too long to write. -/
theorem describe_inj (s s' : Session) (logger logger' : Option Text) {keys keys' : Text} {c d : Command}
    (hc : (s.parse logger keys).value.2 = .ok (some c)) (hd : (s'.parse logger' keys').value.2 = .ok (some d))
    (language : Language) :
    ((∃ t, c.describe language = .ok t) ↔ Loggable c.times) ∧
      ∀ t, c.describe language = .ok t → d.describe language = .ok t → c = d := by
  rw [value_parse] at hc hd
  have hloggable {r : Session} {keys : Text} {e : Command} (he : (r.read keys).2 = .ok (some e)) :
      (∃ t, e.describe language = .ok t) ↔ Loggable e.times := by
    constructor
    · rintro ⟨t, ht⟩
      by_contra hlong
      rw [Command.describe_of_not_loggable hlong] at ht
      cases ht
    · intro htimes
      exact ⟨_, r.describe_of_read he htimes language⟩
  refine ⟨hloggable hc, ?_⟩
  intro t ht hu
  have hsame : c.description language = d.description language := by
    have htext := s.describe_of_read hc ((hloggable hc).1 ⟨t, ht⟩) language
    have htext' := s'.describe_of_read hd ((hloggable hd).1 ⟨t, hu⟩) language
    apply Except.ok.inj
    rw [← htext, ht, ← hu, htext']
  exact Command.eq_of_description (s.readable_of_read hc) (s'.readable_of_read hd) hsame

/-- With a parenthesis that is searched for, and with it and a register. -/
theorem describe_inj_parenthesis :
    ∃ c d : Command,
      (({} : Session).parse none "df)".toList).value.2 = .ok (some c) ∧
        (({} : Session).parse none "\"xdf)".toList).value.2 = .ok (some d) ∧
        (∃ t, c.describe .english = .ok t) ∧ ∀ t, c.describe .english = .ok t → d.describe .english ≠ .ok t := by
  have hc : (({} : Session).parse none "df)".toList).value.2 =
      .ok (some ⟨some .delete, some (.motion "f)".toList), none, none⟩) := rfl
  have hd : (({} : Session).parse none "\"xdf)".toList).value.2 =
      .ok (some ⟨some .delete, some (.motion "f)".toList), none, some "x".toList⟩) := rfl
  obtain ⟨hwritten, htold⟩ := describe_inj {} {} none none hc hd .english
  refine ⟨_, _, hc, hd, hwritten.2 loggable_one, ?_⟩
  intro t ht hu
  cases htold t ht hu

end Session

end ModalEditor
