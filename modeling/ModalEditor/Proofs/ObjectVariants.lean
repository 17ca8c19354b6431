import ModalEditor.Proofs.Columns
/-!
# Inner and around

A piece in quotes or brackets has an inner and an around variant, and both come from one pair of delimiters. So one
is found whenever the other is, and the around variant is the inner one with a delimiter on both sides, also where
there is nothing between them. Quotes pair up from the left, so no mark that counts lies inside a quoted piece.
-/
namespace ModalEditor

/-! ### Quotes -/

def Unescaped (mark : Char) (t : Text) (i : Nat) : Prop :=
  t[i]? = some mark ∧ ∀ k, k + 1 = i → t[k]? ≠ some '\\'

section

variable {mark : Char} {t : Text} {column n : Nat} {previous : Option Char}

/-- From any column on, the scan finds the marks that do not follow a backslash, if it knows the character before. -/
theorem mem_quoteColumns_iff
    (hprevious : previous ≠ some '\\' ↔ ∀ k, k + 1 = column → t[k]? ≠ some '\\') :
    n ∈ quoteColumns [mark] column previous (t.drop column) ↔ Unescaped mark t n ∧ column ≤ n := by
  generalize hrest : t.drop column = rest
  -- on what is left of the line, for any column and whatever stands before it
  induction rest generalizing column previous with
  | nil =>
    have hlength : t.length ≤ column := List.drop_eq_nil_iff.1 hrest
    simp only [quoteColumns, List.not_mem_nil, false_iff]
    rintro ⟨⟨hmark, -⟩, hcolumn⟩
    have hn := (List.getElem?_eq_some_iff.1 hmark).1
    omega
  | cons c rest ih =>
    obtain ⟨hc, hnext⟩ := of_drop_eq_cons hrest
    have hlater : some c ≠ some '\\' ↔ ∀ k, k + 1 = column + 1 → t[k]? ≠ some '\\' := by
      rw [← hc]
      exact ⟨fun h k hk => Nat.succ.inj hk ▸ h, fun h => h column rfl⟩
    have hhere : [c] = [mark] ∧ previous ≠ some '\\' ↔ Unescaped mark t column := by
      rw [Unescaped, hc, hprevious, List.cons.injEq, Option.some_inj]
      exact and_congr_left fun _ => and_iff_left rfl
    simp only [quoteColumns]
    split
    · next hmark =>
      rw [List.mem_cons, ih hlater hnext]
      constructor
      · rintro (rfl | ⟨h, hle⟩)
        · exact ⟨hhere.1 hmark, Nat.le_refl n⟩
        · exact ⟨h, Nat.le_of_succ_le hle⟩
      · rintro ⟨h, hle⟩
        rcases Nat.eq_or_lt_of_le hle with hsame | hless
        · exact .inl hsame.symm
        · exact .inr ⟨h, hless⟩
    · next hnot =>
      rw [ih hlater hnext]
      refine and_congr_right fun h => ⟨Nat.le_of_succ_le, fun hle => Nat.lt_of_le_of_ne hle ?_⟩
      rintro rfl
      exact hnot (hhere.2 h)

private theorem mem_quoteColumns_line : n ∈ quoteColumns [mark] 0 none t ↔ Unescaped mark t n := by
  have hscan := @mem_quoteColumns_iff mark t 0 n none (by simp)
  rw [List.drop_zero] at hscan
  rw [hscan]
  exact and_iff_left (Nat.zero_le _)

private theorem not_between_of_mem_pairUp {ns : List Nat} (hns : ns.Pairwise (· < ·)) {pair : Nat × Nat}
    (h : pair ∈ pairUp ns) (hn : n ∈ ns) : ¬(pair.1 < n ∧ n < pair.2) := by
  induction ns using pairUp.induct with
  | case1 a b rest ih =>
    have hab : a < b := List.rel_of_pairwise_cons hns List.mem_cons_self
    have hrest {k : Nat} (hk : k ∈ rest) : b < k := List.rel_of_pairwise_cons hns.of_cons hk
    rw [pairUp] at h
    rcases List.mem_cons.1 h with rfl | h
    · rcases List.mem_cons.1 hn with rfl | hn
      · omega
      · rcases List.mem_cons.1 hn with rfl | hn
        · omega
        · have hbehind := hrest hn
          omega
    · have hfirst := hrest (mem_pairUp h).1
      rcases List.mem_cons.1 hn with rfl | hn
      · omega
      · rcases List.mem_cons.1 hn with rfl | hn
        · omega
        · exact ih hns.of_cons.of_cons h hn
  | case2 ns hshort => simp [pairUp] at h

end

def Range.widen (r : Range) : Range :=
  ⟨r.start.withColumn (r.start.column - 1), r.stop.withColumn (r.stop.column + 1)⟩

namespace TextObject

/-- The characters that stand around a piece: its brackets, or its mark of one character on both sides. -/
def Delimited (o : TextObject) (opening closing : Char) : Prop :=
  o.kind.delimiters? = some (opening, closing) ∨ o.kind = .quote ∧ o.mark = some [opening] ∧ closing = opening

def withAround (o : TextObject) (around : Bool) : TextObject := { o with around }

def Found.Holds (found : Found) (line : Text) : Prop :=
  found.text = Slice.between line found.range.start.column (found.range.stop.column + 1)

variable {o : TextObject} {opening closing : Char} {line : Text} {column row : Int} {found : Found}
variable {pair : Nat × Nat}

private theorem Delimited.not_word (h : o.Delimited opening closing) : o.kind ≠ .word ∧ o.kind ≠ .bigWord := by
  rcases h with hbrackets | ⟨hquote, -⟩
  · exact not_word_of_delimiters hbrackets
  · rw [hquote]
    exact ⟨by decide, by decide⟩

private theorem delimitersAt?_around (h : o.delimitersAt? line column = some pair) :
    pair.1 ≤ column ∧ column ≤ pair.2 := by
  unfold delimitersAt? at h
  split at h
  all_goals simpa using List.find?_some h

private theorem delimitersAt?_chars {t : Text} (hd : o.Delimited opening closing)
    (h : o.delimitersAt? t column = some pair) :
    t[pair.1]? = some opening ∧ t[pair.2]? = some closing := by
  rcases hd with hbrackets | ⟨hquote, hmark, rfl⟩
  · rw [delimitersAt?, hbrackets] at h
    obtain ⟨hpair, -⟩ := pairAround?_topPairs_iff.1 h
    exact ⟨hpair.opens, hpair.closing_at⟩
  · rw [delimitersAt?, hquote, hmark] at h
    obtain ⟨hfirst, hlast⟩ := mem_pairUp (List.mem_of_find?_eq_some h)
    exact ⟨(mem_quoteColumns_line.1 hfirst).1, (mem_quoteColumns_line.1 hlast).1⟩

private theorem not_unescaped_between (hquote : o.kind = .quote) (hd : o.Delimited opening closing)
    (h : o.delimitersAt? line column = some pair) {i : Nat} (hfirst : pair.1 < i) (hlast : i < pair.2) :
    ¬Unescaped opening line i := by
  intro hmarked
  rcases hd with hbrackets | ⟨-, hmark, -⟩
  · rw [hquote] at hbrackets
    cases hbrackets
  · rw [delimitersAt?, hquote, hmark] at h
    exact not_between_of_mem_pairUp (quoteColumns_pairwise _ _ _ _) (List.mem_of_find?_eq_some h)
      (mem_quoteColumns_line.2 hmarked) ⟨hfirst, hlast⟩

theorem find?_inner_eq (hword : o.kind ≠ .word) (hbig : o.kind ≠ .bigWord) (hinner : o.around = false) :
    o.find? line column row = (o.delimitersAt? line column).map fun pair =>
      ⟨⟨⟨row, (pair.1 : Int) + 1⟩, ⟨row, (pair.2 : Int) - 1⟩⟩, (line.take pair.2).drop (pair.1 + 1)⟩ := by
  rw [find?, bounds?_eq_delimiters hword hbig, Option.map_map, hinner]
  congr 1
  funext pair
  refine congrArg (Found.mk _) ?_
  calc
    Slice.between line ((pair.1 : Int) + 1) ((pair.2 : Int) - 1 + 1) =
        Slice.between line ((pair.1 + 1 : Nat) : Int) (pair.2 : Int) := by rw [Int.sub_add_cancel, Int.natCast_succ]
    _ = (line.take pair.2).drop (pair.1 + 1) := Slice.between_natCast line (pair.1 + 1) pair.2

private theorem find?_holds (h : o.find? line column row = some found) : found.Holds line := by
  obtain ⟨bounds, -, rfl⟩ := Option.map_eq_some_iff.1 h
  rfl

/-- The inner variant of a piece in quotes or brackets is found exactly if the around variant is. The around one
takes one column more on both sides, and so its text has a delimiter more on both sides. It lies around the column
and on the line. Each text is what the line holds there. No mark that counts lies between two quotes. -/
theorem reported_variants (hd : o.Delimited opening closing) (line : Text) (column row : Int) :
    ∃ inner around, ((o.withAround false).reported line column row).value = .ok inner ∧
      ((o.withAround true).reported line column row).value = .ok around ∧
      inner.isSome = around.isSome ∧
      ∀ inside outside, inner = some inside → around = some outside →
        outside.range = inside.range.widen ∧ outside.text = opening :: (inside.text ++ [closing]) ∧
        inside.Holds line ∧ outside.Holds line ∧
        outside.range.start.line = row ∧ outside.range.stop.line = row ∧
        0 ≤ outside.range.start.column ∧ outside.range.start.column ≤ column ∧
        column ≤ outside.range.stop.column ∧ outside.range.stop.column < line.length ∧
        (o.kind = .quote → ∀ i : Nat, outside.range.start.column < i → i < outside.range.stop.column →
          ¬Unescaped opening line i) := by
  obtain ⟨hword, hbig⟩ := hd.not_word
  have hinner : (o.withAround false).find? line column row = _ := find?_inner_eq hword hbig rfl
  have haround : (o.withAround true).find? line column row = _ := find?_around_eq hword hbig rfl
  -- both variants look for the same delimiters
  have hsame (around : Bool) : (o.withAround around).delimitersAt? line column = o.delimitersAt? line column := rfl
  rw [hsame] at hinner haround
  refine ⟨_, _, value_reported _ line column row, value_reported _ line column row, ?_, ?_⟩
  · rw [hinner, haround, Option.isSome_map, Option.isSome_map]
  · intro inside outside hinside houtside
    have hinsideHolds := find?_holds hinside
    have houtsideHolds := find?_holds houtside
    rw [hinner] at hinside
    rw [haround] at houtside
    obtain ⟨pair, hpair, rfl⟩ := Option.map_eq_some_iff.1 hinside
    rw [hpair] at houtside
    obtain rfl := Option.some.inj houtside
    obtain ⟨hless, hlast⟩ := delimitersAt?_lt hpair
    obtain ⟨hlow, hhigh⟩ := delimitersAt?_around hpair
    obtain ⟨hopening, hclosing⟩ := delimitersAt?_chars hd hpair
    refine ⟨?_, drop_take_ends hless hopening hclosing, hinsideHolds, houtsideHolds, rfl, rfl,
      Int.natCast_nonneg _, hlow, hhigh, Int.ofNat_lt.2 hlast, ?_⟩
    · simp [Range.widen, Position.withColumn]
    · intro hquote i hfirst hstop
      exact not_unescaped_between hquote hd hpair (Int.ofNat_lt.1 hfirst) (Int.ofNat_lt.1 hstop)

/-- The mark behind the backslash does not count, and is part of the piece. -/
theorem reported_variants_escaped :
    let o : TextObject := ⟨.quote, false, some ['"'], by decide⟩
    let line : Text := ['"', '\\', '"', '"']
    o.Delimited '"' '"' ∧
      ∃ inside outside, ((o.withAround false).reported line 2 0).value = .ok (some inside) ∧
        ((o.withAround true).reported line 2 0).value = .ok (some outside) ∧
        outside.range = inside.range.widen ∧ outside.text = '"' :: (inside.text ++ ['"']) ∧
        inside.text = ['\\', '"'] ∧ ¬Unescaped '"' line 2 := by
  intro o line
  have hd : o.Delimited '"' '"' := .inr ⟨rfl, rfl, rfl⟩
  obtain ⟨inner, around, hinner, haround, -, hall⟩ := reported_variants hd line 2 0
  have hinside : inner = some ⟨⟨⟨0, 1⟩, ⟨0, 2⟩⟩, ['\\', '"']⟩ := Except.ok.inj (hinner.symm.trans rfl)
  have houtside : around = some ⟨⟨⟨0, 0⟩, ⟨0, 3⟩⟩, ['"', '\\', '"', '"']⟩ :=
    Except.ok.inj (haround.symm.trans rfl)
  obtain ⟨hrange, htext, -, -, -, -, -, -, -, -, hquote⟩ := hall _ _ hinside houtside
  exact ⟨hd, _, _, hinside ▸ hinner, houtside ▸ haround, hrange, htext, rfl,
    hquote rfl 2 (by decide) (by decide)⟩

end TextObject

end ModalEditor
