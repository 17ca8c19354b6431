import ModalEditor.Proofs.Feeding
/-!
# Runs of a host

A host that was set up on single lines with its cursor on them stays so, whatever keys come, however
time passes, and whether a step fails or not. In insert mode no keys wait.
-/
namespace ModalEditor

variable {τ : Type}

/-- The invariant of a host: its text is sound at its cursor, and keys wait in normal mode only. -/
structure Host.Sound (h : Host τ) : Prop where
  text : ModalEditor.Sound h.lines h.cursor
  modes : h.mode = .normal ∨ (h.mode = .insert ∧ h.engine.buffer.keys = [])

namespace Host

section

variable {h : Host τ}

private theorem moveTo_sound (hs : h.Sound) {column : Int} (hlow : 0 ≤ column)
    (hhigh : column ≤ (lineOf h.lines h.cursor.line).length) :
    (h.moveTo (h.cursor.withColumn column)).Sound :=
  ⟨⟨hs.text.single, hs.text.inside.withColumn hlow hhigh⟩, hs.modes⟩

private theorem insertColumn_onLine (key : Text) {line : Text} {column : Int} (hon : OnLine line column) :
    OnLine line (insertColumn key line column) := by
  obtain ⟨hlow, hhigh⟩ := hon
  unfold insertColumn OnLine
  split
  · omega
  · split
    · omega
    · split <;> omega

private theorem enterInsert_sound (hs : h.Sound) (hkeys : h.engine.buffer.keys = []) (key : Text) :
    (h.enterInsert key).host.Sound := by
  obtain ⟨line, column, -, hentry, hline, hcol, hcolumn⟩ := hs.text.inside.current
  have hon : OnLine line h.cursor.column := by
    rw [hcol]
    exact ⟨Int.natCast_nonneg column, Int.ofNat_le.2 hcolumn⟩
  obtain ⟨hlow, hhigh⟩ := insertColumn_onLine key hon
  have hmoved := moveTo_sound hs hlow (by rw [hline]; exact hhigh)
  simp only [enterInsert, hentry]
  exact ⟨hmoved.text, .inr ⟨rfl, hkeys⟩⟩

private theorem leaveInsert_sound (hs : h.Sound) : h.leaveInsert.host.Sound := by
  have hescaped : ({ h with engine := h.engine.escape.value } : Host τ).Sound := by
    refine ⟨?_, .inl ?_⟩
    · simpa [cursor, Session.inMode] using hs.text
    · simp [mode, Session.inMode]
  unfold leaveInsert
  dsimp only
  split
  · next hback =>
    obtain ⟨line, column, -, -, hline, hcol, hcolumn⟩ := hescaped.text.inside.current
    refine moveTo_sound hescaped (by omega) ?_
    rw [hline]
    omega
  · exact hescaped

private theorem retype_sound (hs : h.Sound) {line : Text} {column : Nat} (hline : '\n' ∉ line)
    (hcolumn : column ≤ line.length) : (h.retype line column).host.Sound := by
  obtain ⟨row, old, former, hcursor, hat, -⟩ := hs.text.inside
  have hrow : row < h.lines.length := (List.getElem?_eq_some_iff.1 hat).1
  have hlines : (h.retype line column).host.lines = h.lines.set row line := by
    rw [← Slice.put_natCast h.lines hrow line]
    simp [retype, moveTo, withSession, hcursor]
  refine ⟨⟨?_, ?_⟩, hs.modes⟩
  · rw [hlines]
    intro l hl
    rcases List.mem_or_eq_of_mem_set hl with hl | rfl
    · exact hs.text.single l hl
    · exact hline
  · rw [hlines]
    refine ⟨row, column, line, ?_, List.getElem?_set_self hrow, hcolumn⟩
    change h.cursor.withColumn column = _
    rw [hcursor]
    rfl

private theorem advance_sound [Add τ] (hs : h.Sound) (duration : τ) : (h.advance duration).Sound :=
  ⟨hs.text, hs.modes⟩

private theorem newline_not_printable : Text.isPrintable '\n' ≠ true := by decide

private theorem insert_sound (hs : h.Sound) (text : Text) : (h.insert text).host.Sound := by
  obtain ⟨line, column, hmem, hentry, -, hcol, hcolumn⟩ := hs.text.inside.current
  have hsingle : '\n' ∉ line := hs.text.single line hmem
  -- a key that changes the line puts in or takes out one character, and none is a line break
  simp only [insert, hentry, hcol]
  split
  · exact hs
  · split
    · split
      · exact hs
      · next hpos =>
        obtain ⟨n, rfl⟩ : ∃ n, column = n + 1 := ⟨column - 1, by omega⟩
        have hback : ((n + 1 : Nat) : Int) - 1 = n := by omega
        rw [hback]
        refine retype_sound hs ?_ ?_
        · intro hbreak
          rcases List.mem_append.1 hbreak with hb | hb
          · exact hsingle (Slice.mem_of_mem_before hb)
          · exact hsingle (Slice.mem_of_mem_after hb)
        · rw [List.length_append, Slice.before_natCast, List.length_take_of_le (by omega)]
          omega
    · split
      · next hprintable =>
        obtain ⟨hone, hall⟩ := hprintable
        rw [← Int.natCast_succ]
        refine retype_sound hs ?_ ?_
        · intro hbreak
          rcases List.mem_append.1 hbreak with hb | hb
          · rcases List.mem_append.1 hb with hb | hb
            · exact hsingle (Slice.mem_of_mem_before hb)
            · exact newline_not_printable (List.all_eq_true.1 hall _ hb)
          · exact hsingle (Slice.mem_of_mem_after hb)
        · rw [List.length_append, List.length_append, Slice.before_natCast,
            List.length_take_of_le hcolumn, hone]
          omega
      · exact hs

end

section

variable [LE τ] [DecidableLE τ] {h : Host τ}

private theorem fresh_sound (hs : h.Sound) :
    ({ h with engine := { h.engine with buffer := h.engine.buffer.fresh } } : Host τ).Sound := by
  refine ⟨hs.text, hs.modes.imp_right ?_⟩
  rintro ⟨hmode, hkeys⟩
  exact ⟨hmode, KeyBuffer.fresh_keys_nil hkeys⟩

private theorem processTimeouts_sound (hs : h.Sound) : h.processTimeouts.host.Sound := by
  unfold processTimeouts
  rw [Engine.value_processTimeouts]
  exact fresh_sound hs

variable [Add τ]

private theorem feed_sound (hs : h.Sound) (hmode : h.mode = .normal) {key : Text}
    (hkey : key ∉ Engine.escapeKeys) : (h.feed key).host.Sound := by
  have hkept {engine : Engine τ} (hposition : engine.session.position = h.cursor)
      (hsame : engine.session.mode = h.mode) : ({ h with engine } : Host τ).Sound := by
    refine ⟨?_, .inl (hsame.trans hmode)⟩
    change ModalEditor.Sound h.lines engine.session.position
    rw [hposition]
    exact hs.text
  have hanswered : h.Answered (h.feed key) := feed_answered hkey (by rw [hmode]; decide)
  generalize h.feed key = step at hanswered ⊢
  cases hanswered with
  | failed hposition hsame => exact hkept hposition hsame
  | waits hposition hsame => exact hkept hposition hsame
  | @done engine o hposition hmodes hkeys hsound =>
    refine ⟨?_, hmodes.imp (fun hsame => hsame.trans hmode) fun hinsert => ⟨hinsert, hkeys⟩⟩
    change ModalEditor.Sound o.lines engine.session.position
    rw [hposition]
    exact hsound hs.text

private theorem route_sound (hs : h.Sound) (key : Text) (text : Option Text) :
    (h.route key text).host.Sound := by
  have hnormal (hmode : h.mode ≠ .insert) : h.mode = .normal :=
    hs.modes.resolve_right fun hinsert => hmode hinsert.1
  have hrouted := route_routed h key text
  generalize h.route key text = step at hrouted ⊢
  cases hrouted with
  | left => exact leaveInsert_sound hs
  | typed => exact insert_sound hs (text.getD key)
  | began _ _ hnone => exact enterInsert_sound (fresh_sound hs) hnone key
  | fed hkey hmode => exact feed_sound hs (hnormal hmode) hkey

private theorem handleKey_sound (hs : h.Sound) (key : Text) (text : Option Text) :
    (h.handleKey key text).host.Sound := route_sound hs key text

end

theorem start_sound {engine : Engine τ} {lines : List Text} (hl : SingleLines lines)
    (hkeys : engine.buffer.keys = [])
    (hmode : engine.session.mode = .normal ∨ engine.session.mode = .insert)
    (hinside : Inside (start engine lines).host.lines engine.session.position) :
    (start engine lines).host.Sound := by
  refine ⟨⟨?_, hinside⟩, hmode.imp_right fun hm => ⟨hm, hkeys⟩⟩
  unfold start
  dsimp only
  split
  · exact .singleton List.not_mem_nil
  · exact hl

end Host

/-- What happens to a host: a key comes, time passes, or somebody asks for stale keys to be dropped. -/
inductive HostEvent (τ : Type)
  | key (key : Text) (text : Option Text)
  | advance (duration : τ)
  | timeouts

namespace Host

variable [LE τ] [DecidableLE τ] [Add τ]

/-- The host after an event, also after one that failed. -/
def after (h : Host τ) : HostEvent τ → Host τ
  | .key key text => (h.handleKey key text).host
  | .advance duration => h.advance duration
  | .timeouts => h.processTimeouts.host

def run (h : Host τ) (events : List (HostEvent τ)) : Host τ := events.foldl after h

theorem after_sound {h : Host τ} (hs : h.Sound) (event : HostEvent τ) : (h.after event).Sound := by
  cases event with
  | key key text => exact handleKey_sound hs key text
  | advance duration => exact advance_sound hs duration
  | timeouts => exact processTimeouts_sound hs

private theorem run_sound {h : Host τ} (hs : h.Sound) (events : List (HostEvent τ)) :
    (h.run events).Sound := by
  induction events generalizing h with
  | nil => exact hs
  | cons event rest ih => exact ih (after_sound hs event)

/-- After every run of a host that began on single lines there is a line, none holds a line break, the
cursor is accepted, and the mode is normal or insert, the latter with no keys waiting. -/
theorem run_accepted {engine : Engine τ} {lines : List Text} (events : List (HostEvent τ))
    (hl : ∀ line ∈ lines, '\n' ∉ line) (hkeys : engine.buffer.keys = [])
    (hmode : engine.session.mode = .normal ∨ engine.session.mode = .insert)
    (hposition : ensurePosition (start engine lines).host.lines engine.session.position =
      .ok engine.session.position) :
    let h := (start engine lines).host.run events
    (h.lines ≠ [] ∧ ∀ line ∈ h.lines, '\n' ∉ line) ∧
      ensurePosition h.lines h.cursor = .ok h.cursor ∧
      (h.mode = .normal ∨ h.mode = .insert) ∧ (h.mode = .insert → h.engine.buffer.keys = []) := by
  intro h
  have hinside := (ensurePosition_eq_ok_iff.1 hposition).2
  have hs : h.Sound := run_sound (start_sound hl hkeys hmode hinside) events
  refine ⟨⟨hs.text.inside.ne_nil, hs.text.single⟩, ensurePosition_of_inside hs.text.inside, ?_, ?_⟩
  · exact hs.modes.imp_right And.left
  · intro hinsert
    rcases hs.modes with hnormal | hm
    · rw [hnormal] at hinsert
      cases hinsert
    · exact hm.2

/-- The only line is cut and put back behind the empty one that is left; then a character is typed. -/
theorem run_accepted_typing :
    let h := (start (Engine.start {} 3 0 none : Engine Nat) [['a', 'b']]).host.run
      [.key ['d'] none, .key ['d'] none, .key ['p'] none, .advance 5, .timeouts, .key ['i'] none,
        .key ['x'] none]
    (h.lines ≠ [] ∧ ∀ line ∈ h.lines, '\n' ∉ line) ∧
      ensurePosition h.lines h.cursor = .ok h.cursor ∧
      (h.mode = .normal ∨ h.mode = .insert) ∧ (h.mode = .insert → h.engine.buffer.keys = []) :=
  run_accepted _ (by decide) rfl (.inl rfl) rfl

end Host
end ModalEditor
