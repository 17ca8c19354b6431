import ModalEditor.Proofs.Refusals
import ModalEditor.Proofs.RegisterHistory
/-!
# Names of registers

A bank writes under a name as it is and reads under the name in lower case. The two meet if the lower form of
the name has no other lower form itself, which holds of every letter, and if a name that is not in upper case
is its own lower form, which does not hold of letters in title case. Appending reads a register before it writes
it, so that under an uppercase name, where writing appends already, what is there comes twice.
-/
namespace ModalEditor

/-! ### Lower forms -/

namespace Text

private theorem toNat_ofNat {n : Nat} (h : n.isValidChar) : (Char.ofNat n).toNat = n := by
  rw [Char.ofNat, dif_pos h]
  rfl

namespace CaseRun

def lowest (run : CaseRun) : Nat := (run.first + run.distance).toNat

def highest (run : CaseRun) : Nat := (run.last + run.distance).toNat

/-- Whether all that a run moves to lies on one side of another run, or between its members. -/
def passes (run other : CaseRun) : Bool :=
  Nat.blt run.highest other.first || Nat.blt other.last run.lowest ||
    Nat.beq other.step 2 && (Nat.beq run.step 2 || Nat.beq run.first run.last) &&
      Nat.beq ((run.lowest + other.first) % 2) 1

variable {run other : CaseRun} {n m : Nat}

private theorem bounds_of_move? (h : run.move? n = some m) : run.lowest ≤ m ∧ m ≤ run.highest := by
  unfold move? at h
  split at h
  · obtain rfl := Option.some.inj h
    rw [lowest, highest]
    omega
  · cases h

private theorem move?_eq_none (hpasses : run.passes other = true) (hpos : 0 < run.lowest) (h : run.move? n = some m) :
    other.move? m = none := by
  have hbounds := bounds_of_move? h
  unfold move? at h
  split at h
  · next hmember =>
    obtain rfl := Option.some.inj h
    rw [move?, if_neg]
    rintro ⟨hfirst, hlast, hstep⟩
    simp only [passes, Bool.or_eq_true, Bool.and_eq_true, Nat.blt_eq, Nat.beq_eq] at hpasses
    rcases hpasses with (habove | hbelow) | ⟨⟨hother, hrun⟩, hodd⟩
    · omega
    · omega
    · -- the members of the other run are of one parity, and the run moves to the other one
      have heven : (n - run.first) % 2 = 0 := by
        rcases hrun with htwo | hone
        · rw [← htwo]
          exact hmember.2.2
        · omega
      rw [hother] at hstep
      rw [lowest] at hodd hpos
      omega
  · cases h

end CaseRun

/-- Whether all that a table moves to are characters from `a` on that the table does not move again. -/
def CaseTable.settles (table : CaseTable) : Bool :=
  (table.spreads.all fun spread => spread.2.length != 1) &&
    table.runs.all fun run =>
      Nat.ble 0x61 run.lowest && (Nat.blt run.highest 0xD800 ||
        Nat.blt 0xDFFF run.lowest && Nat.blt run.highest 0x110000) &&
      (table.spreads.all fun spread => Nat.blt run.highest spread.1 || Nat.blt spread.1 run.lowest) &&
      table.runs.all run.passes

private theorem settles_lowerTable : lowerTable.settles = true := by decide +kernel

variable {c l : Char}

private theorem CaseTable.apply_of_settles {table : CaseTable} (hsettles : table.settles = true)
    (h : table.apply c = [l]) : l = c ∨ 0x61 ≤ l.toNat ∧ table.apply l = [l] := by
  simp only [settles, Bool.and_eq_true, Bool.or_eq_true, List.all_eq_true, Nat.ble_eq, Nat.blt_eq,
    bne_iff_ne] at hsettles
  obtain ⟨hspreads, hruns⟩ := hsettles
  unfold apply at h
  split at h
  · next codes hcodes =>
    -- a character that spreads becomes more or less than one
    obtain ⟨before, rest, hsplit, -⟩ := List.lookup_eq_some_iff.1 hcodes
    have hlength := congrArg List.length h
    rw [List.length_map] at hlength
    exact absurd hlength (hspreads (c.toNat, codes) (by simp [hsplit]))
  · split at h
    · next m hmoved =>
      obtain ⟨run, hrun, hmove⟩ := List.exists_of_findSome?_eq_some hmoved
      obtain ⟨⟨⟨hlow, hvalid⟩, hapart⟩, hpasses⟩ := hruns run hrun
      have hbounds := CaseRun.bounds_of_move? hmove
      have hl : l.toNat = m := by
        rw [← (List.cons.inj h).1]
        exact toNat_ofNat (by unfold Nat.isValidChar; omega)
      have hunspread : table.spreads.lookup m = none := by
        rw [List.lookup_eq_none_iff]
        intro spread hspread
        have := hapart spread hspread
        simp only [bne_iff_ne, ne_eq]
        omega
      have hunmoved : table.runs.findSome? (·.move? m) = none := by
        rw [List.findSome?_eq_none_iff]
        intro other hother
        exact CaseRun.move?_eq_none (hpasses other hother) (by omega) hmove
      refine .inr ⟨by omega, ?_⟩
      rw [apply, hl, hunspread, hunmoved]
    · exact .inl (List.cons.inj h).1.symm

private theorem lowerChar_cases (h : lowerChar c = [l]) : l = c ∨ 0x61 ≤ l.toNat ∧ lowerChar l = [l] :=
  lowerTable.apply_of_settles settles_lowerTable h

private theorem lowerChar_lowerChar (h : lowerChar c = [l]) : lowerChar l = [l] := by
  rcases lowerChar_cases h with rfl | ⟨-, hstays⟩
  · exact h
  · exact hstays

end Text

namespace RegisterBank

/-! ### Reading back -/

private theorem contains_write (bank : RegisterBank) (l : Char) (value : RegisterValue) {name : Text}
    (h : Text.lower name = [l]) : (bank.write l value).contains name = true := by
  have hfound : ((bank.write l value).entries.lookup l).isSome = true := by
    rw [write]
    by_cases hunnamed : l = unnamed
    · rw [hunnamed, lookup_putEntry_self]
      rfl
    · rw [lookup_putEntry_ne _ _ hunnamed, lookup_putEntry_self]
      rfl
  rw [contains, find?, h]
  exact hfound

private theorem get_write_lower (bank : RegisterBank) (l : Char) (value : RegisterValue) {name : Text}
    (h : Text.lower name = [l]) : (bank.write l value).get name = value := by
  rw [get_write, if_pos (.inl h)]

/-- A name that writes and reads mean the same register by: it can be written, and it is its own lower form if
it is not in upper case. -/
def ReadsBack (c : Char) : Prop :=
  Writable [c] ∧ (Text.isUpper c = false → Text.lowerChar c = [c])

variable {c : Char}

private theorem set_of_readsBack (bank : RegisterBank) (hname : isRegisterName [c] = true) (h : ReadsBack c)
    (value : RegisterValue) :
    ∃ l, Text.lower [c] = [l] ∧
      bank.set [c] value = .ok (bank.write l
        (if Text.isUpper c = true then (bank.get [c]).extend value.text else value)) := by
  obtain ⟨⟨_, ⟨⟩, hwritable⟩, hlower⟩ := h
  rw [set, if_neg (by simp [hname])]
  cases hupper : Text.isUpper c with
  | true =>
    obtain ⟨l, hl, hagain, hvalid⟩ := hwritable hupper
    have hstays : Text.lower [l] = Text.lower [c] := by
      rw [Text.lower_singleton, Text.lower_singleton, Text.lowerChar_lowerChar hl, hl]
    refine ⟨l, (Text.lower_singleton c).trans hl, ?_⟩
    simp [hl, hagain, hvalid, bank.get_congr hstays]
  | false =>
    exact ⟨c, (Text.lower_singleton c).trans (hlower hupper), by simp⟩

private theorem get_set_of_lower_ne {bank after : RegisterBank} {value : RegisterValue}
    (hupper : Text.isUpper c = false) (hlower : Text.lowerChar c ≠ [c]) (h : bank.set [c] value = .ok after) :
    after.get [c] = bank.get [c] := by
  have hunnamed : Text.lowerChar c ≠ [unnamed] := by
    intro heq
    rcases Text.lowerChar_cases heq with hsame | ⟨hletter, -⟩
    · exact hlower (by rw [heq, hsame])
    · exact absurd hletter (by decide)
  unfold set at h
  dsimp only at h
  rw [hupper] at h
  split at h
  · cases h
  · obtain rfl := Except.ok.inj h
    rw [get_write, Text.lower_singleton, if_neg (not_or.2 ⟨hlower, hunnamed⟩)]

/-- A text that was written under a register name is read back under it, behind what was there if the name is in
upper case. This holds of every text if the name can be written and is in upper case or its own lower form, and
of not every text otherwise. -/
theorem set_readsBack_iff (bank : RegisterBank) {name : Text} (hname : isRegisterName name = true) :
    ∃ c, name = [c] ∧
      ((∀ value, ∃ after, bank.set name value = .ok after ∧
        (after.get name).text = (if Text.isUpper c = true then (bank.get name).text else []) ++ value.text ∧
        after.contains name = true) ↔ ReadsBack c) := by
  obtain ⟨c, rfl⟩ := eq_singleton_of_isRegisterName hname
  refine ⟨c, rfl, ?_, ?_⟩
  · intro hall
    constructor
    · by_contra hnot
      obtain ⟨fault, hfault⟩ := (bank.set_error_iff hname {}).2 hnot
      obtain ⟨after, hafter, -⟩ := hall {}
      rw [hfault] at hafter
      cases hafter
    · intro hupper
      by_contra hlower
      -- one more character than is read there now
      obtain ⟨after, hafter, htext, -⟩ := hall ((bank.get [c]).extend ['x'])
      rw [get_set_of_lower_ne hupper hlower hafter, hupper] at htext
      have hlength := congrArg List.length htext
      simp [RegisterValue.extend] at hlength
  · intro hreads value
    obtain ⟨l, hl, hset⟩ := bank.set_of_readsBack hname hreads value
    refine ⟨_, hset, ?_, bank.contains_write l _ hl⟩
    rw [bank.get_write_lower l _ hl]
    split <;> rfl

/-- In upper case a text goes behind the other one. -/
theorem set_readsBack_upper :
    let bank : RegisterBank := empty.write 'é' ⟨['x'], .line⟩
    isRegisterName ['É'] = true ∧
      ∃ after, bank.set ['É'] ⟨['y'], .character⟩ = .ok after ∧ (after.get ['É']).text = ['x', 'y'] ∧
        after.contains ['É'] = true := by
  intro bank
  have hname : isRegisterName ['É'] = true := by decide
  obtain ⟨c, hc, hreads⟩ := set_readsBack_iff bank hname
  obtain rfl : 'É' = c := (List.cons.inj hc).1
  have hreadsBack : ReadsBack 'É' :=
    ⟨⟨'É', rfl, fun _ => ⟨'é', by decide, by decide, by decide⟩⟩, fun h => absurd h (by decide)⟩
  exact ⟨hname, hreads.2 hreadsBack ⟨['y'], .character⟩⟩

/-- A letter in title case is written where it is not read, the dotted capital I has a lower form of two
characters, and a mathematical capital has none. -/
theorem set_not_readBack :
    (isRegisterName ['ǅ'] = true ∧ Text.isUpper 'ǅ' = false ∧
      ∃ after, empty.set ['ǅ'] ⟨['x'], .character⟩ = .ok after ∧ (after.get ['ǅ']).text = [] ∧
        after.contains ['ǅ'] = false) ∧
      (isRegisterName ['İ'] = true ∧ empty.set ['İ'] ⟨['x'], .character⟩ = .error (.badRegister ['i', '\u0307'])) ∧
      isRegisterName ['𝐀'] = true ∧ empty.set ['𝐀'] ⟨['x'], .character⟩ = .error (.noLowerRegister ['𝐀']) := by
  refine ⟨⟨by decide +kernel, by decide +kernel, ?_⟩, ⟨by decide, by decide⟩, by decide +kernel, by decide +kernel⟩
  exact ⟨empty.write 'ǅ' ⟨['x'], .character⟩, by decide +kernel, by decide, by decide⟩

/-! ### Appending -/

private theorem lookup_write_ne (bank : RegisterBank) {l other : Char} (value : RegisterValue) (hother : other ≠ l)
    (hunnamed : other ≠ unnamed) : (bank.write l value).entries.lookup other = bank.entries.lookup other := by
  rw [write, lookup_putEntry_ne _ _ hunnamed, lookup_putEntry_ne _ _ hother]

/-- What is appended under an everyday name lands in the register of the name. In upper case that is what is there
and then the text: it was put behind what is there to be written, and is put there once more by the write. -/
theorem append_of_everyday (bank : RegisterBank) (h : isEverydayName c = true) (text : Text) :
    bank.append [c] text =
      .ok (bank.write c.toLower
        ((bank.get [c]).extend ((if c.isUpper = true then (bank.get [c]).text else []) ++ text))) := by
  rw [append, bank.set_everyday h, bank.get_congr (lower_toLower h)]
  split <;> simp [RegisterValue.extend]

/-- Appending under an everyday name puts the text behind what is there, keeps its kind, and changes no register
but this one and the unnamed one, which are alike then. But in upper case what is there comes twice, so that the
text is all that was added only if nothing was there. -/
theorem append_everyday (bank : RegisterBank) {c : Char} (h : isEverydayName c = true) (text : Text) :
    ∃ after, bank.append [c] text = .ok after ∧
      (after.get [c]).text =
        (bank.get [c]).text ++ (if c.isUpper = true then (bank.get [c]).text else []) ++ text ∧
      ((after.get [c]).text = (bank.get [c]).text ++ text ↔ c.isUpper = false ∨ (bank.get [c]).text = []) ∧
      (after.get [c]).kind = (bank.get [c]).kind ∧
      after.get [unnamed] = after.get [c] ∧
      ∀ other, other ≠ c.toLower → other ≠ unnamed →
        after.entries.lookup other = bank.entries.lookup other := by
  have hheld := bank.get_write_lower c.toLower
    ((bank.get [c]).extend ((if c.isUpper = true then (bank.get [c]).text else []) ++ text)) (lower_everyday h)
  refine ⟨_, bank.append_of_everyday h text, ?_, ?_, ?_, ?_, ?_⟩
  · rw [hheld, RegisterValue.extend, List.append_assoc]
  · rw [hheld, RegisterValue.extend, List.append_cancel_left_eq, List.append_left_eq_self]
    cases c.isUpper <;> simp
  · rw [hheld]
    rfl
  · rw [hheld, get_write, if_pos (.inr (by decide))]
  · intro other hother hunnamed
    exact bank.lookup_write_ne _ hother hunnamed

/-- In lower case the text stands behind the one that was there. -/
theorem append_everyday_lower :
    let bank : RegisterBank := empty.write 'a' ⟨['x'], .line⟩
    isEverydayName 'a' = true ∧
      ∃ after, bank.append ['a'] ['y'] = .ok after ∧ (after.get ['a']).text = ['x', 'y'] ∧
        (after.get ['a']).kind = .line ∧ after.get [unnamed] = after.get ['a'] := by
  intro bank
  have hname : isEverydayName 'a' = true := by decide
  obtain ⟨after, hafter, htext, -, hkind, hunnamed, -⟩ := append_everyday bank hname ['y']
  exact ⟨hname, after, hafter, htext, hkind, hunnamed⟩

/-- In upper case the text that was there comes twice. -/
theorem append_upper_twice :
    let bank : RegisterBank := empty.write 'a' ⟨['x'], .character⟩
    ∃ after, bank.append ['A'] ['y'] = .ok after ∧ (after.get ['A']).text = ['x', 'x', 'y'] ∧
      (after.get ['A']).text ≠ (bank.get ['A']).text ++ ['y'] :=
  ⟨_, rfl, by decide, by decide⟩

end RegisterBank
end ModalEditor
