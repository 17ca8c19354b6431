import ModalEditor.Proofs.Repetition
import ModalEditor.Proofs.Totality
import ModalEditor.Proofs.WordColumns
/-!
# Mirrored searches

A search to the left sees a line as the search to the right sees the mirrored one. A search may begin on a column of the
line, on its end, and on the column in front of it, which is where the end goes to on the mirrored line. There what holds
of one direction holds of the other, also with a count.
-/
namespace ModalEditor

/-- Where a column of a line is on the mirrored line. -/
def mirror (line : Text) (column : Int) : Int := (line.length : Int) - 1 - column

def Position.mirror (line : Text) (p : Position) : Position := p.withColumn (ModalEditor.mirror line p.column)

section

variable {line : Text} {i j : Int}

@[simp] theorem mirror_reverse (line : Text) : mirror line.reverse = mirror line := by
  funext column
  rw [mirror, mirror, List.length_reverse]

private theorem mirror_involutive (line : Text) : Function.Involutive (mirror line) :=
  fun column => Int.sub_sub_self _ column

private theorem Position.mirror_inj {p q : Position} : p.mirror line = q.mirror line ↔ p = q := by
  obtain ⟨row, column⟩ := p
  obtain ⟨row', column'⟩ := q
  simp [Position.mirror, Position.withColumn, (mirror_involutive line).injective.eq_iff]

private theorem mirror_lt_mirror : mirror line i < mirror line j ↔ j < i := by
  simp only [mirror]
  omega

private theorem mem_columnsOf_reverse {x : Char} (h : i ∈ columnsOf line x) :
    mirror line i ∈ columnsOf line.reverse x := by
  obtain ⟨n, hn, rfl⟩ := mem_columnsOf.1 h
  have hbound := (List.getElem?_eq_some_iff.1 hn).1
  refine mem_columnsOf.2 ⟨line.length - 1 - n, ?_, ?_⟩
  · rw [List.getElem?_reverse (by omega), ← hn]
    congr 1
    omega
  · rw [mirror]
    omega

private theorem columnsOf_reverse (line : Text) (x : Char) :
    columnsOf line.reverse x = (columnsOf line x).reverse.map (mirror line) := by
  apply List.Pairwise.eq_of_mem_iff (r := (· < ·)) (columnsOf_pairwise line.reverse x)
  · refine List.pairwise_map.2 (List.pairwise_reverse.2 ((columnsOf_pairwise line x).imp ?_))
    exact mirror_lt_mirror.2
  · intro i
    simp only [List.mem_map, List.mem_reverse]
    constructor
    · intro hi
      have hback := mem_columnsOf_reverse hi
      rw [List.reverse_reverse, mirror_reverse] at hback
      exact ⟨mirror line i, hback, mirror_involutive line i⟩
    · rintro ⟨j, hj, rfl⟩
      exact mem_columnsOf_reverse hj

end

/-! ### One search -/

namespace Motion

variable {line : Text} {column : Int}

private theorem goals_mirror (s : CharSearch) (line : Text) (column : Int) :
    (search s.flip).goals line.reverse (mirror line column) = ((search s).goals line column).map (mirror line) := by
  obtain ⟨x, forward, till⟩ := s
  cases forward with
  | true =>
    have hstop (i : Int) : (if till then mirror line i + 1 else mirror line i) =
        mirror line (if till then i - 1 else i) := by
      simp only [mirror]
      split <;> omega
    simp [goals, CharSearch.flip, columnsOf_reverse, List.filter_map, Function.comp_def, mirror_lt_mirror, hstop]
  | false =>
    have hstop (i : Int) : (if till then mirror line i - 1 else mirror line i) =
        mirror line (if till then i + 1 else i) := by
      simp only [mirror]
      split <;> omega
    simp [goals, CharSearch.flip, columnsOf_reverse, List.filter_map, Function.comp_def, mirror_lt_mirror, hstop]

private theorem findChar_mirror (s : CharSearch) (hlow : -1 ≤ column) (hhigh : column ≤ line.length) :
    findChar line.reverse (mirror line column) [s.char] s.flip.forward s.till =
      (findChar line column [s.char] s.forward s.till).map (Option.map (mirror line)) := by
  have hlow' : -1 ≤ mirror line column := by
    rw [mirror]
    omega
  have hhigh' : mirror line column ≤ line.reverse.length := by
    rw [mirror, List.length_reverse]
    omega
  rw [findChar_eq_head s hlow hhigh, Except.map, ← List.head?_map, ← goals_mirror]
  exact findChar_eq_head s.flip hlow' hhigh'

end Motion

private theorem findChar_till (line char : Text) (column : Int) (forward : Bool) :
    findChar line column char forward true =
      (findChar line column char forward false).map (Option.map fun i => if forward then i - 1 else i + 1) := by
  unfold findChar
  cases forward
  all_goals
    simp only [if_true, Bool.false_eq_true, if_false]
    split
    · rfl
    · rw [Except.map, Option.map_map]
      rfl

private theorem findChar_till_nearer {line char : Text} {column i j : Int} {forward : Bool}
    (hfound : findChar line column char forward false = .ok (some i))
    (htill : findChar line column char forward true = .ok (some j)) :
    (i - j).natAbs = 1 ∧ (j - column).natAbs + 1 = (i - column).natAbs := by
  rw [findChar_till, hfound] at htill
  cases forward with
  | true =>
    obtain ⟨_, hright, -, rfl⟩ := findChar_right hfound
    have hj : i - 1 = j := Option.some.inj (Except.ok.inj htill)
    omega
  | false =>
    obtain ⟨_, -, hleft, rfl⟩ := findChar_left hfound
    have hj : i + 1 = j := Option.some.inj (Except.ok.inj htill)
    omega

def heldRight (t : Text) (x : Char) (column : Nat) : Set Nat := {i | column < i ∧ t[i]? = some x}

private theorem findChar_right_least (line : Text) (x : Char) {column : Nat} (hcolumn : column ≤ line.length) :
    ∃ found, findChar line column [x] true false = .ok found ∧
      (found = none ↔ heldRight line x column = ∅) ∧
      ∀ j, found = some j ↔ ∃ i, IsLeast (heldRight line x column) i ∧ (i : Int) = j := by
  -- Unless it is a till search, a search is after the columns of the character themselves.
  have hgoals : (Motion.search ⟨x, true, false⟩).goals line column =
      (columnsOf line x).filter ((column : Int) < ·) :=
    List.map_id _
  have hmem (j : Int) : j ∈ (columnsOf line x).filter ((column : Int) < ·) ↔
      ∃ i ∈ heldRight line x column, (i : Int) = j := by
    rw [List.mem_filter, mem_columnsOf, decide_eq_true_eq]
    constructor
    · rintro ⟨⟨n, hn, rfl⟩, hright⟩
      exact ⟨n, ⟨Int.ofNat_lt.1 hright, hn⟩, rfl⟩
    · rintro ⟨n, ⟨hright, hn⟩, rfl⟩
      exact ⟨⟨n, hn, rfl⟩, Int.ofNat_lt.2 hright⟩
  refine ⟨_, Motion.findChar_eq_head ⟨x, true, false⟩ (by omega) (Int.ofNat_le.2 hcolumn), ?_, ?_⟩
  · rw [hgoals, head?_eq_none_iff_empty hmem]
  · rw [hgoals]
    refine head?_eq_some_iff_extreme ((columnsOf_pairwise line x).filter _) hmem fun j => ?_
    simp only [IsLeast, mem_lowerBounds, Int.ofNat_lt, Nat.not_lt]

/-- From a column of a line, or its end, a search to the left finds the character exactly if the search to the right
finds it on the mirrored line, and stops on the mirrored column. A search to the right stops on the nearest column
right of the cursor that holds the character, and finds nothing exactly if there is none. A till search, to either side,
finds the character exactly if the other search does, and stops one column nearer the cursor. -/
theorem findChar_mirrored (line : Text) (x : Char) {column : Nat} (hcolumn : column ≤ line.length) :
    (∀ till, ∃ found, findChar line.reverse (mirror line column) [x] true till = .ok found ∧
      findChar line column [x] false till = .ok (found.map (mirror line))) ∧
    (∃ found, findChar line column [x] true false = .ok found ∧
      (found = none ↔ heldRight line x column = ∅) ∧
      ∀ j, found = some j ↔ ∃ i, IsLeast (heldRight line x column) i ∧ (i : Int) = j) ∧
    ∀ forward, ∃ found beside, findChar line column [x] forward false = .ok found ∧
      findChar line column [x] forward true = .ok beside ∧ (beside = none ↔ found = none) ∧
      ∀ i ∈ found, ∀ j ∈ beside, (i - j).natAbs = 1 ∧ (j - column).natAbs + 1 = (i - column).natAbs := by
  have hon : OnLine line column := ⟨Int.natCast_nonneg column, Int.ofNat_le.2 hcolumn⟩
  refine ⟨fun till => ?_, findChar_right_least line x hcolumn, fun forward => ?_⟩
  · obtain ⟨left, hleft⟩ : ∃ left, findChar line column [x] false till = .ok left :=
      findChar_total hon false till
    have hright := Motion.findChar_mirror ⟨x, false, till⟩ (by omega) hon.2
    rw [hleft] at hright
    refine ⟨_, hright, ?_⟩
    rw [hleft, Option.map_map, (mirror_involutive line).comp_self, Option.map_id, id]
  · obtain ⟨found, hfound⟩ : ∃ found, findChar line column [x] forward false = .ok found :=
      findChar_total hon forward false
    have htill := findChar_till line [x] column forward
    rw [hfound] at htill
    refine ⟨found, _, hfound, htill, Option.map_eq_none_iff, ?_⟩
    rintro i rfl j hj
    exact findChar_till_nearer hfound (hj ▸ htill)

/-- Behind the end of a line a till search may stay, and its mirror image leaves the line in front. -/
theorem findChar_mirrored_behind_end :
    let line : Text := ['a', 'b', 'a', 'b']
    4 ≤ line.length ∧ mirror line 4 = -1 ∧
      findChar line.reverse (-1) ['b'] true true = .ok (some (-1)) ∧
      findChar line 4 ['b'] false true = .ok (some (mirror line (-1))) ∧
      heldRight line 'b' 4 = ∅ ∧
      findChar line 4 ['b'] false false = .ok (some 3) ∧ ((4 : Int) - 4).natAbs + 1 = ((3 : Int) - 4).natAbs := by
  intro line
  have hcolumn : 4 ≤ line.length := Nat.le_refl 4
  obtain ⟨hmirror, ⟨ahead, hahead, hnone, -⟩, htill⟩ := findChar_mirrored line 'b' hcolumn
  obtain ⟨found, hfound, hleft⟩ := hmirror true
  obtain rfl : some (-1) = found := Except.ok.inj hfound
  obtain rfl : none = ahead := Except.ok.inj hahead
  obtain ⟨found, beside, hfound', hbeside, -, hnearer⟩ := htill false
  obtain rfl : some 3 = found := Except.ok.inj hfound'
  obtain rfl : some 4 = beside := Except.ok.inj hbeside
  exact ⟨hcolumn, rfl, hfound, hleft, hnone.1 rfl, hfound', (hnearer 3 rfl 4 rfl).2⟩

/-! ### Searches with a count -/

namespace Motion

variable {line : Text}

theorem ofKeys?_keys (s : CharSearch) : ofKeys? s.keys = some (.search s) := by
  obtain ⟨x, forward, till⟩ := s
  cases forward <;> cases till <;> rfl

private theorem stride_flip (s : CharSearch) : (search s.flip).stride = -(search s).stride := by
  obtain ⟨x, forward, till⟩ := s
  cases forward <;> cases till <;> rfl

private theorem target_mirror (s : CharSearch) {p : Position} (hlow : -1 ≤ p.column)
    (hhigh : p.column ≤ line.length) :
    target s.flip.keys (p.mirror line) line.reverse =
      (target s.keys p line).map (Option.map (Position.mirror line)) := by
  have hfound := findChar_mirror s hlow hhigh
  simp only [target, ofKeys?_keys, targetColumn, Position.mirror, Position.withColumn]
  rw [CharSearch.flip] at hfound ⊢
  rw [hfound]
  cases findChar line p.column [s.char] s.forward s.till with
  | error fault => rfl
  | ok found => cases found <;> rfl

private theorem stride_of_target {s : CharSearch} {p next : Position} (hlow : -1 ≤ p.column)
    (hhigh : p.column ≤ line.length) (h : target s.keys p line = .ok (some next)) :
    -1 ≤ next.column + (search s).stride ∧ next.column + (search s).stride ≤ line.length := by
  rw [target, ofKeys?_keys] at h
  obtain ⟨found, hfound, hnext⟩ := bind_eq_ok_iff.1 h
  obtain ⟨i, rfl, rfl⟩ := Option.map_eq_some_iff.1 (Except.ok.inj hnext)
  obtain ⟨x, forward, till⟩ := s
  cases forward with
  | true =>
    obtain ⟨j, hj, hj', rfl⟩ := findChar_right hfound
    cases till <;> simp [stride, Position.withColumn] <;> omega
  | false =>
    obtain ⟨j, hj, hj', rfl⟩ := findChar_left hfound
    cases till <;> simp [stride, Position.withColumn] <;> omega

private theorem look_mirror {look : Except Fault (Option Position)} {p : Position}
    {go go' : Position → Except Fault Position}
    (hgo : ∀ next, look = .ok (some next) → go' (next.mirror line) = (go next).map (Position.mirror line)) :
    (do
      match ← look.map (Option.map (Position.mirror line)) with
      | none => return p.mirror line
      | some next => if next = p.mirror line then return p.mirror line else go' next) =
    (do
      match ← look with
      | none => return p
      | some next => if next = p then return p else go next).map (Position.mirror line) := by
  cases look with
  | error fault => rfl
  | ok found =>
    cases found with
    | none => rfl
    | some next =>
      have hsame : next.mirror line = p.mirror line ↔ next = p := Position.mirror_inj
      simp only [Except.map, bind, Except.bind, Option.map_some, hsame]
      split
      · rfl
      · exact hgo next rfl

/-- Repeated on the mirrored line, the search in the other direction keeps in step with the search. -/
theorem repeatFrom_mirror (s : CharSearch) {reached : Position} (hlow : -1 ≤ reached.column + (search s).stride)
    (hhigh : reached.column + (search s).stride ≤ line.length) (n : Nat) :
    repeatFrom s.flip.keys line.reverse n (reached.mirror line) =
      (repeatFrom s.keys line n reached).map (Position.mirror line) := by
  induction n generalizing reached with
  | zero => rfl
  | succ n ih =>
    have hlook : (reached.mirror line).withColumn ((reached.mirror line).column + nudge s.flip.keys) =
        (reached.withColumn (reached.column + nudge s.keys)).mirror line := by
      rw [nudge_eq_stride (ofKeys?_keys s), nudge_eq_stride (ofKeys?_keys s.flip), stride_flip]
      simp only [Position.mirror, Position.withColumn, ModalEditor.mirror, Position.mk.injEq, true_and]
      omega
    rw [← nudge_eq_stride (ofKeys?_keys s)] at hlow hhigh
    rw [repeatFrom, repeatFrom, hlook, target_mirror s hlow hhigh]
    refine look_mirror fun next hnext => ?_
    obtain ⟨hlow', hhigh'⟩ := stride_of_target hlow hhigh hnext
    exact ih hlow' hhigh'

/-- With a count, the search in the other direction ends on the mirrored line where the search ends on the line. -/
theorem furthest_mirror (s : CharSearch) {p : Position} (hlow : -1 ≤ p.column) (hhigh : p.column ≤ line.length)
    (n : Nat) :
    furthest s.flip.keys line.reverse n (p.mirror line) =
      (furthest s.keys line n p).map (Position.mirror line) := by
  cases n with
  | zero => rfl
  | succ n =>
    rw [furthest, furthest, target_mirror s hlow hhigh]
    refine look_mirror fun next hnext => ?_
    obtain ⟨hlow', hhigh'⟩ := stride_of_target hlow hhigh hnext
    exact repeatFrom_mirror s hlow' hhigh' n

end Motion
end ModalEditor
