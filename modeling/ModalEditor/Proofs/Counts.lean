import ModalEditor.Command.Grammar
/-!
# Reading counts

A count is a numeral of the grammar, and reading takes it with every digit that it can. So the keys are
a numeral and a rest that no digit begins, and the number read is the one that the digits name.
-/
namespace ModalEditor.Grammar

/-- The digits of a count: one from 1 to 9 and then digits of any script. -/
def Numeral (digits : Text) : Prop :=
  ∃ c rest, digits = c :: rest ∧ ('1' ≤ c ∧ c ≤ '9') ∧ ∀ d ∈ rest, Text.isDecimalDigit d = true

/-- The number that digits name, most significant first. -/
def numeralValue (digits : Text) : Nat :=
  digits.foldl (fun n c => 10 * n + (Text.digitValue? c).getD 0) 0

/-- No decimal digit stands at the front of some keys. -/
def NoDigit (keys : Text) : Prop := ∀ c ∈ keys.head?, Text.isDecimalDigit c = false

theorem noDigit_nil : NoDigit [] := by
  intro c heq
  cases heq

private theorem isDigit_of_bounds {c : Char} (h : '1' ≤ c ∧ c ≤ '9') : c.isDigit = true := by
  have h1 : 49 ≤ c.val := h.1
  have h9 : c.val ≤ 57 := h.2
  simp only [Char.isDigit, Bool.and_eq_true, decide_eq_true_eq]
  exact ⟨UInt32.le_trans (by decide) h1, h9⟩

private theorem isDecimalDigit_of_bounds {c : Char} (h : '1' ≤ c ∧ c ≤ '9') :
    Text.isDecimalDigit c = true := by
  simp [Text.isDecimalDigit, Text.digitValue?_of_isDigit (isDigit_of_bounds h)]

theorem Numeral.ne_nil {digits : Text} (h : Numeral digits) : digits ≠ [] := by
  obtain ⟨c, rest, rfl, -, -⟩ := h
  exact List.cons_ne_nil c rest

theorem Numeral.isDecimalDigit {digits : Text} (h : Numeral digits) :
    ∀ c ∈ digits, Text.isDecimalDigit c = true := by
  obtain ⟨c, rest, rfl, hc, hrest⟩ := h
  intro d hd
  rcases List.mem_cons.1 hd with rfl | hd
  · exact isDecimalDigit_of_bounds hc
  · exact hrest d hd

theorem Numeral.of_append {digits more : Text} (h : Numeral (digits ++ more)) (hdigits : digits ≠ []) :
    Numeral digits := by
  obtain ⟨first, others, rfl⟩ := List.exists_cons_of_ne_nil hdigits
  obtain ⟨c, rest, hkeys, hc, hrest⟩ := h
  obtain ⟨rfl, rfl⟩ := List.cons.inj hkeys
  exact ⟨first, others, rfl, hc, fun d hd => hrest d (List.mem_append_left more hd)⟩

private theorem value_foldl_push (digits : Text) (g : Text.Gathered) :
    (digits.foldl (fun (g : Text.Gathered) c => g.push ((Text.digitValue? c).getD 0)) g).value =
      digits.foldl (fun n c => 10 * n + (Text.digitValue? c).getD 0) g.value := by
  induction digits generalizing g with
  | nil => rfl
  | cons c rest ih => rw [List.foldl_cons, List.foldl_cons, ih, Text.Gathered.value_push]

private theorem digitsValue_eq_numeralValue (digits : Text) :
    Text.digitsValue digits = numeralValue digits :=
  value_foldl_push digits {}

private theorem le_foldl_digits (digits : Text) (n : Nat) :
    n ≤ digits.foldl (fun n c => 10 * n + (Text.digitValue? c).getD 0) n := by
  induction digits generalizing n with
  | nil => exact Nat.le_refl n
  | cons c rest ih =>
    have hstep := ih (10 * n + (Text.digitValue? c).getD 0)
    rw [List.foldl_cons]
    omega

private theorem numeralValue_pos {digits : Text} (h : Numeral digits) : 0 < numeralValue digits := by
  obtain ⟨c, rest, rfl, hc, -⟩ := h
  have hfirst : (Text.digitValue? c).getD 0 = c.toNat - 48 := by
    rw [Text.digitValue?_of_isDigit (isDigit_of_bounds hc)]
    rfl
  have hlow : 49 ≤ c.toNat := UInt32.le_iff_toNat_le.1 hc.1
  have hle := le_foldl_digits rest (10 * 0 + (Text.digitValue? c).getD 0)
  rw [numeralValue, List.foldl_cons]
  omega

section

variable {keys rest more digits : Text}

private theorem takeDigits_cut (keys : Text) :
    keys = (takeDigits keys).1 ++ (takeDigits keys).2 ∧
      ((takeDigits keys).1 = [] ∨ (Numeral (takeDigits keys).1 ∧ NoDigit (takeDigits keys).2)) := by
  unfold takeDigits
  cases keys with
  | nil => exact ⟨rfl, .inl rfl⟩
  | cons c others =>
    dsimp only
    split
    · next hc =>
      refine ⟨by simp [List.takeWhile_append_dropWhile], .inr ⟨⟨c, _, rfl, hc, ?_⟩, ?_⟩⟩
      · exact fun d hd => List.all_eq_true.1 List.all_takeWhile d hd
      · intro d hd
        have hstop := List.head?_dropWhile_not Text.isDecimalDigit others
        rw [Option.mem_def.1 hd] at hstop
        simpa using hstop
    · exact ⟨rfl, .inl rfl⟩

theorem takeDigits_numeral (h : Numeral digits) (hrest : NoDigit rest) :
    takeDigits (digits ++ rest) = (digits, rest) := by
  obtain ⟨c, others, rfl, hc, hdigits⟩ := h
  have hstop : rest.takeWhile Text.isDecimalDigit = [] ∧ rest.dropWhile Text.isDecimalDigit = rest := by
    cases rest with
    | nil => exact ⟨rfl, rfl⟩
    | cons d more =>
      have hd : Text.isDecimalDigit d = false := hrest d rfl
      simp [hd]
  rw [List.cons_append, takeDigits, if_pos hc, List.takeWhile_append_of_pos hdigits,
    List.dropWhile_append_of_pos hdigits, hstop.1, hstop.2, List.append_nil]

private theorem takeDigits_none (h : ∀ c ∈ keys.head?, ¬('1' ≤ c ∧ c ≤ '9')) :
    takeDigits keys = ([], keys) := by
  cases keys with
  | nil => rfl
  | cons c others => rw [takeDigits, if_neg (h c rfl)]

private theorem readDigits_eq_ok {n : Nat} (h : Text.readDigits digits = .ok n) : n = numeralValue digits := by
  rw [← digitsValue_eq_numeralValue]
  unfold Text.readDigits at h
  split at h
  · exact (Except.ok.inj h).symm
  · cases h

private theorem readDigits_of_short (h : digits.length ≤ Text.numeralLimit) :
    Text.readDigits digits = .ok (numeralValue digits) := by
  rw [Text.readDigits, if_pos h, digitsValue_eq_numeralValue]

private theorem ofNat?_of_numeral (h : Numeral digits) :
    Count.ofNat? (numeralValue digits) = some ⟨numeralValue digits, numeralValue_pos h⟩ :=
  dif_pos (numeralValue_pos h)

theorem takeCount_of_digits (h : takeDigits keys = (digits, rest)) (hdigits : digits ≠ []) :
    takeCount keys = do return (Count.ofNat? (← Text.readDigits digits), rest) := by
  obtain ⟨c, others, rfl⟩ := List.exists_cons_of_ne_nil hdigits
  rw [takeCount, h]

theorem takeCount_eq_ok {count : Option Count} (h : takeCount keys = .ok (count, rest)) :
    ∃ digits : Option Text, keys = digits.getD [] ++ rest ∧
      (∀ d ∈ digits, Numeral d ∧ NoDigit rest) ∧ count.map Count.val = digits.map numeralValue := by
  obtain ⟨hkeys, hcut⟩ := takeDigits_cut keys
  cases hpair : takeDigits keys with
  | mk digits left =>
    rw [hpair] at hkeys hcut
    by_cases hdigits : digits = []
    · rw [takeCount, hpair, hdigits] at h
      cases h
      exact ⟨none, by simpa [hdigits] using hkeys, by simp, rfl⟩
    · rw [takeCount_of_digits hpair hdigits] at h
      obtain ⟨n, hread, hpairs⟩ := bind_eq_ok_iff.1 h
      cases hpairs
      obtain ⟨hnumeral, hstop⟩ := hcut.resolve_left hdigits
      refine ⟨some digits, hkeys, ?_, ?_⟩
      · intro d heq
        cases heq
        exact ⟨hnumeral, hstop⟩
      · rw [readDigits_eq_ok hread, ofNat?_of_numeral hnumeral]
        rfl

theorem takeCount_complete {digits : Option Text}
    (h : ∀ d ∈ digits, Numeral d ∧ d.length ≤ Text.numeralLimit) (hstop : digits ≠ none → NoDigit rest)
    (hfirst : ∀ c ∈ rest.head?, ¬('1' ≤ c ∧ c ≤ '9')) :
    ∃ count : Option Count, takeCount (digits.getD [] ++ rest) = .ok (count, rest) ∧
      count.map Count.val = digits.map numeralValue := by
  cases digits with
  | none =>
    refine ⟨none, ?_, rfl⟩
    rw [Option.getD_none, List.nil_append, takeCount, takeDigits_none hfirst]
  | some d =>
    obtain ⟨hnumeral, hshort⟩ := h d rfl
    have hcut := takeDigits_numeral hnumeral (hstop (Option.some_ne_none d))
    refine ⟨some ⟨numeralValue d, numeralValue_pos hnumeral⟩, ?_, rfl⟩
    rw [Option.getD_some, takeCount_of_digits hcut hnumeral.ne_nil, readDigits_of_short hshort]
    change Except.ok (Count.ofNat? (numeralValue d), rest) = _
    rw [ofNat?_of_numeral hnumeral]

theorem takeCount_eq_error {fault : Fault} (h : takeCount keys = .error fault) :
    ∃ digits, digits <+: keys ∧ Numeral digits ∧ Text.numeralLimit < digits.length := by
  obtain ⟨hkeys, hcut⟩ := takeDigits_cut keys
  cases hpair : takeDigits keys with
  | mk digits left =>
    rw [hpair] at hkeys hcut
    by_cases hdigits : digits = []
    · rw [takeCount, hpair, hdigits] at h
      cases h
    · refine ⟨digits, ⟨left, hkeys.symm⟩, (hcut.resolve_left hdigits).1, ?_⟩
      refine Nat.lt_of_not_le fun hshort => ?_
      rw [takeCount_of_digits hpair hdigits, readDigits_of_short hshort] at h
      cases h

private theorem takeDigits_append (h : (takeDigits keys).2 ≠ []) (more : Text) :
    takeDigits (keys ++ more) = ((takeDigits keys).1, (takeDigits keys).2 ++ more) := by
  cases keys with
  | nil => exact absurd rfl h
  | cons c others =>
    rw [List.cons_append]
    unfold takeDigits at h ⊢
    dsimp only at h ⊢
    split at h
    · next hc =>
      have hstop : ¬(others.takeWhile Text.isDecimalDigit).length = others.length := by
        intro hall
        have hsplit := congrArg List.length
          (@List.takeWhile_append_dropWhile _ Text.isDecimalDigit others)
        rw [List.length_append] at hsplit
        have hnil : (others.dropWhile Text.isDecimalDigit).length = 0 := by omega
        exact h (List.eq_nil_of_length_eq_zero hnil)
      rw [if_pos hc, if_pos hc, List.takeWhile_append, List.dropWhile_append, if_neg hstop]
      simp [h]
    · next hc => rw [if_neg hc, if_neg hc, List.cons_append]

private theorem takeDigits_longer (keys more : Text) :
    (takeDigits keys).1 <+: (takeDigits (keys ++ more)).1 := by
  cases keys with
  | nil => exact List.nil_prefix
  | cons c others =>
    rw [List.cons_append]
    unfold takeDigits
    dsimp only
    split
    · rw [List.takeWhile_append]
      refine List.prefix_cons_inj c |>.2 ?_
      split
      · next hall =>
        rw [(List.takeWhile_prefix Text.isDecimalDigit).eq_of_length hall]
        exact List.prefix_append others _
      · exact List.prefix_refl _
    · exact List.nil_prefix

theorem takeCount_append {count : Option Count} (h : takeCount keys = .ok (count, rest))
    (hrest : rest ≠ []) (more : Text) : takeCount (keys ++ more) = .ok (count, rest ++ more) := by
  cases hpair : takeDigits keys with
  | mk digits left =>
    have happend : left ≠ [] → takeDigits (keys ++ more) = (digits, left ++ more) := by
      intro hleft
      rw [takeDigits_append (by rw [hpair]; exact hleft), hpair]
    by_cases hdigits : digits = []
    · rw [takeCount, hpair, hdigits] at h
      cases h
      rw [takeCount, happend hrest, hdigits]
    · rw [takeCount_of_digits hpair hdigits] at h
      obtain ⟨n, hread, hpairs⟩ := bind_eq_ok_iff.1 h
      cases hpairs
      rw [takeCount_of_digits (happend hrest) hdigits, hread]
      rfl

private theorem takeCount_append_error {fault : Fault} (h : takeCount keys = .error fault) (more : Text) :
    ∃ fault, takeCount (keys ++ more) = .error fault := by
  have hlead := takeDigits_longer keys more
  cases hpair : takeDigits keys with
  | mk digits left =>
    cases hlonger : takeDigits (keys ++ more) with
    | mk longer after =>
      rw [hpair, hlonger] at hlead
      by_cases hdigits : digits = []
      · rw [takeCount, hpair, hdigits] at h
        cases h
      · have hlong : ¬digits.length ≤ Text.numeralLimit := by
          intro hshort
          rw [takeCount_of_digits hpair hdigits, readDigits_of_short hshort] at h
          cases h
        have hmore : ¬longer.length ≤ Text.numeralLimit :=
          fun hshort => hlong (Nat.le_trans hlead.length_le hshort)
        have hne : longer ≠ [] := by
          intro hsame
          subst hsame
          exact hdigits (List.prefix_nil.1 hlead)
        refine ⟨.numeralTooLong longer.length, ?_⟩
        rw [takeCount_of_digits hlonger hne, Text.readDigits, if_neg hmore]
        rfl

theorem takeCount_error_iff :
    (∃ fault, takeCount keys = .error fault) ↔
      ∃ digits, digits <+: keys ∧ Numeral digits ∧ Text.numeralLimit < digits.length := by
  constructor
  · rintro ⟨fault, h⟩
    exact takeCount_eq_error h
  · rintro ⟨digits, ⟨more, rfl⟩, hnumeral, hlong⟩
    have hcut : takeDigits digits = (digits, []) := by
      have hall := takeDigits_numeral hnumeral noDigit_nil
      rwa [List.append_nil] at hall
    have hrefused : takeCount digits = .error (.numeralTooLong digits.length) := by
      rw [takeCount_of_digits hcut hnumeral.ne_nil, Text.readDigits, if_neg (Nat.not_le.2 hlong)]
      rfl
    exact takeCount_append_error hrefused more

theorem takeCount_refused_or {digits : Option Text} (h : ∀ d ∈ digits, Numeral d) (hstop : NoDigit rest) :
    (∃ fault, takeCount (digits.getD [] ++ rest) = .error fault) ∨
      ∃ count, takeCount (digits.getD [] ++ rest) = .ok (count, rest) := by
  by_cases hshort : ∀ d ∈ digits, d.length ≤ Text.numeralLimit
  · have hfirst : ∀ c ∈ rest.head?, ¬('1' ≤ c ∧ c ≤ '9') := by
      intro c hc hbounds
      have hdigit : Text.isDecimalDigit c = true := isDecimalDigit_of_bounds hbounds
      rw [hstop c hc] at hdigit
      cases hdigit
    obtain ⟨count, hcount, -⟩ :=
      takeCount_complete (fun d hd => ⟨h d hd, hshort d hd⟩) (fun _ => hstop) hfirst
    exact .inr ⟨count, hcount⟩
  · obtain ⟨d, hd⟩ := Classical.not_forall.1 hshort
    obtain ⟨rfl, hlong⟩ := Classical.not_imp.1 hd
    exact .inl (takeCount_error_iff.2 ⟨d, List.prefix_append d rest, h d rfl, Nat.lt_of_not_le hlong⟩)

end

end ModalEditor.Grammar
