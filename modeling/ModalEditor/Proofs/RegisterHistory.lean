import Mathlib.Data.List.Induction
import ModalEditor.Proofs.PasteBack
/-!
# Register histories

A bank keeps one value for each register, and no more of its past. What a letter or a digit holds is what the
writes under its name come to: the latest one in lower case, with all that was written in upper case since put
behind it. The unnamed register holds what the latest write left in the register that it named.
-/
namespace ModalEditor

/-- A value that is written into a bank; `store` takes no name for the unnamed register. -/
inductive RegisterWrite
  | set (name : Char) (value : RegisterValue)
  | store (name : Option Char) (value : RegisterValue)

namespace RegisterWrite

def name : RegisterWrite → Char
  | set name _ => name
  | store name _ => name.getD unnamed

def value : RegisterWrite → RegisterValue
  | set _ value | store _ value => value

def apply (w : RegisterWrite) (bank : RegisterBank) : Except Fault RegisterBank :=
  match w with
  | set name value => bank.set [name] value
  | store name value => bank.store (name.map fun n => [n]) value

private theorem apply_eq_set (w : RegisterWrite) (bank : RegisterBank) :
    w.apply bank = bank.set [w.name] w.value := by
  cases w with
  | set name value => rfl
  | store name value => cases name <;> rfl

end RegisterWrite

/-- The names of everyday registers: the unnamed one's mark, and the letters and digits of ASCII. -/
def isEverydayName (c : Char) : Bool := c = unnamed || c.isAlphanum

/-- What the register of a lowercase letter or a digit holds behind some writes. A write under its own name
replaces the value; a write under the name in upper case puts a text behind the value, whose kind stays. -/
def heldBehind (n : Char) (writes : List RegisterWrite) : RegisterValue :=
  writes.foldl (fun value w =>
    if w.name = n then w.value
    else if w.name = n.toUpper then ⟨value.text ++ w.value.text, value.kind⟩
    else value) {}

def unnamedBehind (writes : List RegisterWrite) : RegisterValue :=
  match writes.getLast? with
  | none => {}
  | some w => if w.name = unnamed then w.value else heldBehind w.name.toLower writes

/-! ### Letter case of everyday names -/

private theorem ascii_of_isEverydayName {c : Char} (h : isEverydayName c = true) : c.toNat < 128 := by
  simp only [isEverydayName, Bool.or_eq_true, decide_eq_true_eq] at h
  rcases h with rfl | h
  · decide
  · exact Text.ascii_of_isAlphanum h

private theorem everyday_case {c : Char} (h : isEverydayName c = true) :
    isEverydayName c.toLower = true ∧ c.toLower.isUpper = false ∧
      if c.isUpper = true then c.toLower.isLower = true ∧ c.toLower.toUpper = c
      else c.toLower = c ∧ (c = unnamed ∨ c.isLower = true ∨ c.isDigit = true) := by
  have hascii : c.toNat < 128 := ascii_of_isEverydayName h
  revert h
  exact Text.of_ascii hascii (by decide +kernel)

theorem Text.lower_singleton (c : Char) : lower [c] = lowerChar c := List.flatMap_singleton ..

theorem lower_everyday {c : Char} (h : isEverydayName c = true) : Text.lower [c] = [c.toLower] := by
  rw [Text.lower_singleton, Text.lowerChar_of_ascii (ascii_of_isEverydayName h)]

theorem lower_toLower {c : Char} (h : isEverydayName c = true) : Text.lower [c.toLower] = Text.lower [c] := by
  obtain ⟨hlower, hagain, -⟩ := everyday_case h
  have hcase := (everyday_case hlower).2.2
  rw [hagain, if_neg Bool.false_ne_true] at hcase
  rw [lower_everyday hlower, lower_everyday h, hcase.1]

private theorem letter_case {n : Char} (h : n.isLower = true ∨ n.isDigit = true) :
    isEverydayName n = true ∧ isEverydayName n.toUpper = true ∧ n ≠ unnamed ∧ n.isUpper = false ∧
      n.toLower = n ∧ n.toUpper.toLower = n := by
  have hascii : n.toNat < 128 := by
    apply Text.ascii_of_isAlphanum
    rcases h with h | h <;> simp [Text.isAlphanum_iff, h]
  revert h
  exact Text.of_ascii hascii (by decide +kernel)

private theorem lower_letter {n : Char} (h : n.isLower = true ∨ n.isDigit = true) :
    Text.lower [n] = [n] ∧ Text.lower [n.toUpper] = [n] := by
  obtain ⟨hname, hupper, -, -, hsame, hback⟩ := letter_case h
  rw [lower_everyday hname, lower_everyday hupper, hsame, hback]
  exact ⟨rfl, rfl⟩

private theorem isRegisterName_of_everyday {c : Char} (h : isEverydayName c = true) :
    isRegisterName [c] = true := by
  simp only [isEverydayName, Bool.or_eq_true, decide_eq_true_eq] at h
  rcases h with rfl | h
  · decide
  · simp [isRegisterName, Text.isAlphanumeric_of_isAlphanum h]

/-! ### One write -/

namespace RegisterBank

theorem lookup_putEntry_ne (entries : List (Char × RegisterValue)) {name other : Char}
    (value : RegisterValue) (h : other ≠ name) :
    (putEntry entries name value).lookup other = entries.lookup other := by
  induction entries with
  | nil => simp [putEntry, h]
  | cons entry rest ih =>
    obtain ⟨n, v⟩ := entry
    by_cases hn : n = name
    · subst hn
      have hne : (other == n) = false := by simpa using h
      simp [putEntry, List.lookup_cons, hne]
    · simp only [putEntry, hn, if_false, List.lookup_cons, ih]

theorem get_congr (bank : RegisterBank) {name other : Text} (h : Text.lower name = Text.lower other) :
    bank.get name = bank.get other := by
  rw [get, get, find?, find?, h]

theorem get_write (bank : RegisterBank) (c : Char) (value : RegisterValue) (name : Text) :
    (bank.write c value).get name =
      if Text.lower name = [c] ∨ Text.lower name = [unnamed] then value else bank.get name := by
  unfold get find?
  split
  · next l hl =>
    simp only [hl, List.cons.injEq, and_true, write]
    by_cases hunnamed : l = unnamed
    · subst hunnamed
      simp [lookup_putEntry_self]
    · rw [lookup_putEntry_ne _ _ hunnamed]
      by_cases hc : l = c
      · subst hc
        simp [lookup_putEntry_self]
      · simp [lookup_putEntry_ne _ _ hc, hc, hunnamed]
  · next hl =>
    rw [if_neg]
    rintro (h | h)
    · exact hl _ h
    · exact hl _ h

theorem set_everyday (bank : RegisterBank) {c : Char} (h : isEverydayName c = true)
    (value : RegisterValue) :
    bank.set [c] value =
      .ok (bank.write c.toLower
        (if c.isUpper = true then (bank.get [c.toLower]).extend value.text else value)) := by
  obtain ⟨hlower, hagain, hcase⟩ := everyday_case h
  have hascii := ascii_of_isEverydayName h
  have hupper := Text.isUpper_of_ascii hascii
  have hlowerUpper := Text.isUpper_of_ascii (ascii_of_isEverydayName hlower)
  rw [set, if_neg (by simp [isRegisterName_of_everyday h])]
  cases hup : c.isUpper with
  | true =>
    simp [hupper, hup, Text.lowerChar_of_ascii hascii, hlowerUpper, hagain,
      isRegisterName_of_everyday hlower]
  | false =>
    rw [hup, if_neg Bool.false_ne_true] at hcase
    simp [hupper, hup, hcase.1]

/-! ### Many writes -/

/-- Writes one value after the other, up to the first that is refused. -/
def writeAll (bank : RegisterBank) (writes : List RegisterWrite) : Except Fault RegisterBank :=
  writes.foldlM (fun bank w => w.apply bank) bank

private theorem writeAll_snoc {bank before : RegisterBank} {earlier : List RegisterWrite}
    (h : bank.writeAll earlier = .ok before) (w : RegisterWrite) :
    bank.writeAll (earlier ++ [w]) = before.set [w.name] w.value := by
  rw [writeAll] at h
  rw [writeAll, List.foldlM_append, h, ← w.apply_eq_set]
  exact bind_pure (w.apply before)

private theorem heldBehind_snoc (n : Char) (earlier : List RegisterWrite) (w : RegisterWrite) :
    heldBehind n (earlier ++ [w]) =
      if w.name = n then w.value
      else if w.name = n.toUpper then (heldBehind n earlier).extend w.value.text
      else heldBehind n earlier := by
  simp [heldBehind, List.foldl_append, RegisterValue.extend]

/-- One more write takes every register that agrees with its history to one that agrees with the longer
history. -/
theorem get_set_heldBehind {bank : RegisterBank} {earlier : List RegisterWrite} {w : RegisterWrite}
    (hw : isEverydayName w.name = true) {n : Char} (hn : n.isLower = true ∨ n.isDigit = true)
    (hheld : bank.get [n] = heldBehind n earlier) :
    (bank.write w.name.toLower
      (if w.name.isUpper = true then (bank.get [w.name.toLower]).extend w.value.text
        else w.value)).get [n] = heldBehind n (earlier ++ [w]) := by
  obtain ⟨-, -, hunnamed, hupper, -, hback⟩ := letter_case hn
  obtain ⟨-, -, hcase⟩ := everyday_case hw
  rw [get_write, (lower_letter hn).1, heldBehind_snoc]
  simp only [List.cons.injEq, and_true, hunnamed, or_false]
  -- a name in upper case goes behind the register of its lower form, any other name replaces its own
  by_cases hup : w.name.isUpper = true
  · rw [if_pos hup] at hcase
    have hne : w.name ≠ n := by
      rintro rfl
      rw [hup] at hupper
      cases hupper
    rw [if_pos hup, if_neg hne]
    by_cases hsame : n = w.name.toLower
    · have hmeant : w.name = n.toUpper := by rw [hsame, hcase.2]
      rw [if_pos hsame, if_pos hmeant, ← hsame, hheld]
    · have hother : w.name ≠ n.toUpper := by
        intro heq
        exact hsame (by rw [heq, hback])
      rw [if_neg hsame, if_neg hother, hheld]
  · rw [if_neg hup] at hcase
    rw [if_neg hup, hcase.1]
    by_cases hsame : w.name = n
    · rw [if_pos hsame, if_pos hsame.symm]
    · have hother : w.name ≠ n.toUpper := by
        intro heq
        apply hsame
        rw [← hcase.1, heq, hback]
      rw [if_neg hsame, if_neg (Ne.symm hsame), if_neg hother, hheld]

/-- What a bank shows behind some writes under everyday names. -/
structure Shows (bank : RegisterBank) (writes : List RegisterWrite) : Prop where
  held : ∀ n : Char, n.isLower = true ∨ n.isDigit = true → bank.get [n] = heldBehind n writes
  mirrored : bank.get [unnamed] = unnamedBehind writes

private theorem shows_empty : empty.Shows [] := by
  refine ⟨?_, rfl⟩
  intro n hn
  have hne : (n == unnamed) = false := by simpa using (letter_case hn).2.2.1
  simp [get, find?, (lower_letter hn).1, empty, List.lookup_cons, hne, heldBehind]

theorem Shows.write {bank : RegisterBank} {earlier : List RegisterWrite} (h : bank.Shows earlier)
    {w : RegisterWrite} (hw : isEverydayName w.name = true) :
    ∃ after, bank.set [w.name] w.value = .ok after ∧ after.Shows (earlier ++ [w]) ∧
      ∀ name, Text.lower name ≠ Text.lower [w.name] → Text.lower name ≠ [unnamed] →
        after.get name = bank.get name := by
  have hheld {n : Char} (hn : n.isLower = true ∨ n.isDigit = true) :=
    get_set_heldBehind hw hn (h.held n hn)
  obtain ⟨-, -, hcase⟩ := everyday_case hw
  refine ⟨_, bank.set_everyday hw w.value, ⟨fun n hn => hheld hn, ?_⟩, ?_⟩
  · -- the unnamed register shows what the write left in the register that it named
    have hunnamed : Text.lower [unnamed] = [unnamed] := by decide
    have hlast : unnamedBehind (earlier ++ [w]) =
        if w.name = unnamed then w.value else heldBehind w.name.toLower (earlier ++ [w]) := by
      simp [unnamedBehind]
    rw [get_write, if_pos (.inr hunnamed), hlast]
    by_cases hname : w.name = unnamed
    · rw [if_pos hname, hname]
      rfl
    · have hletter : w.name.toLower.isLower = true ∨ w.name.toLower.isDigit = true := by
        split at hcase
        · exact .inl hcase.1
        · rw [hcase.1]
          exact hcase.2.resolve_left hname
      rw [if_neg hname, ← hheld hletter, get_write]
      exact (if_pos (Or.inl (lower_letter hletter).1)).symm
  · intro name hother hnot
    rw [lower_everyday hw] at hother
    rw [get_write, if_neg (not_or.2 ⟨hother, hnot⟩)]

private theorem exists_writeAll_shows (writes : List RegisterWrite)
    (hnames : ∀ w ∈ writes, isEverydayName w.name = true) :
    ∃ bank, empty.writeAll writes = .ok bank ∧ bank.Shows writes := by
  induction writes using List.reverseRecOn with
  | nil => exact ⟨empty, rfl, shows_empty⟩
  | append_singleton earlier w ih =>
    obtain ⟨before, hbefore, hshown⟩ := ih fun w hw => hnames w (List.mem_append_left [_] hw)
    obtain ⟨after, hafter, hgood, -⟩ := hshown.write (hnames w List.mem_concat_self)
    exact ⟨after, by rw [writeAll_snoc hbefore, hafter], hgood⟩

/-- Writes under everyday names are never refused, and what the bank shows behind them is their history:
each letter and digit holds what was written to it, in either case of its name; the unnamed register holds
what the latest write left in the register that it named; and that write changed no other register. -/
theorem writeAll_shows_history (writes : List RegisterWrite)
    (hnames : ∀ w ∈ writes, isEverydayName w.name = true) :
    ∃ bank, empty.writeAll writes = .ok bank ∧
      (∀ n : Char, n.isLower = true ∨ n.isDigit = true → bank.get [n] = heldBehind n writes) ∧
      (∀ n : Char, n.isLower = true → bank.get [n.toUpper] = bank.get [n]) ∧
      bank.get [unnamed] = unnamedBehind writes ∧
      ∀ earlier w, writes = earlier ++ [w] →
        ∃ before, empty.writeAll earlier = .ok before ∧
          ∀ name, Text.lower name ≠ Text.lower [w.name] → Text.lower name ≠ [unnamed] →
            bank.get name = before.get name := by
  obtain ⟨bank, hbank, hshown⟩ := exists_writeAll_shows writes hnames
  refine ⟨bank, hbank, hshown.held, ?_, hshown.mirrored, ?_⟩
  · intro n hn
    obtain ⟨hlower, hupper⟩ := lower_letter (.inl hn)
    exact bank.get_congr (hupper.trans hlower.symm)
  · rintro earlier w rfl
    obtain ⟨before, hbefore, hgood⟩ :=
      exists_writeAll_shows earlier fun w hw => hnames w (List.mem_append_left [_] hw)
    obtain ⟨after, hafter, -, hothers⟩ := hgood.write (hnames w List.mem_concat_self)
    rw [writeAll_snoc hbefore, hafter] at hbank
    cases hbank
    exact ⟨before, hbefore, hothers⟩

/-- Lines in a register, more text behind them, and a last write past the name's own register. -/
theorem writeAll_shows_history_mixed :
    let writes : List RegisterWrite := [.set 'a' ⟨['x'], .line⟩, .store (some 'A') ⟨['y'], .character⟩,
      .set 'B' ⟨['z'], .line⟩, .store none ⟨['u'], .line⟩]
    ∃ bank, empty.writeAll writes = .ok bank ∧ bank.get ['a'] = ⟨['x', 'y'], .line⟩ ∧
      bank.get ['B'] = ⟨['z'], .character⟩ ∧ bank.get [unnamed] = ⟨['u'], .line⟩ := by
  intro writes
  obtain ⟨bank, hbank, hheld, hcase, hunnamed, -⟩ := writeAll_shows_history writes (by decide)
  refine ⟨bank, hbank, ?_, ?_, hunnamed⟩
  · exact hheld 'a' (by decide)
  · exact (hcase 'b' (by decide)).trans (hheld 'b' (by decide))

end RegisterBank
end ModalEditor
