import AiGateway.Sse.Reader

/-!
# A conforming client

A client decodes its stream before it reads it, which drops one leading
byte-order mark.  Between two frames it has nothing collected, and a comment
frame read there changes no event.
-/

namespace AiGateway.Sse

set_option autoImplicit false

open AiGateway.Text

def byteOrderMark : Bytes := [0xEF, 0xBB, 0xBF]

def stripBom (bytes : Bytes) : Bytes :=
  if byteOrderMark.isPrefixOf bytes then bytes.drop byteOrderMark.length else bytes

/-- The client after the octets it was sent. -/
def client (bytes : Bytes) : Reader := ({} : Reader).read (stripBom bytes)

/-- A line that adds to the open event. -/
def collects (line : Bytes) : Bool :=
  !isComment line && (line.takeWhile (· != colon) == utf8 "event" ||
    line.takeWhile (· != colon) == utf8 "data")

namespace Reader

/-- The client stands at the start of a line with nothing collected. -/
structure Idle (r : Reader) : Prop where
  line : r.line = []
  eventType : r.eventType = []
  dataLines : r.dataLines = []

/-- What every reader satisfies that started empty: only lines that collect leave something to
dispatch. -/
def Collected (r : Reader) : Prop :=
  (∀ l ∈ r.openLines, collects l = false) → r.eventType = [] ∧ r.dataLines = []

theorem field_of_not_collects {r : Reader} {line : Bytes} (h : collects line = false) :
    r.field line = r := by
  unfold collects at h
  unfold field
  split
  · rfl
  · next hComment =>
    simp only [hComment, Bool.not_false, Bool.true_and, Bool.or_eq_false_iff, beq_eq_false_iff_ne,
      ne_eq] at h
    rw [if_neg h.1, if_neg h.2]

theorem Collected.endLine {r : Reader} (h : r.Collected) : r.endLine.Collected := by
  cases hLine : r.line with
  | nil =>
    intro _
    simp [Reader.endLine, hLine, dispatch]
  | cons b bs =>
    have hOpen : r.line ≠ [] := by
      rw [hLine]
      exact List.cons_ne_nil b bs
    unfold Collected
    rw [endLine_openLines hOpen]
    intro hIdle
    have hLast : collects r.line = false := hIdle _ (by simp)
    have hEmpty : r.line.isEmpty = false := by simpa using hOpen
    simp only [Reader.endLine, hEmpty, field_of_not_collects hLast]
    exact h fun l hl => hIdle l (by simp [hl])

theorem Collected.step {r : Reader} (h : r.Collected) (b : UInt8) : (r.step b).Collected := by
  unfold Reader.step
  split
  · split
    · exact h
    · exact h.endLine
  · split
    · exact h.endLine
    · exact h

theorem Collected.read {r : Reader} (h : r.Collected) (bytes : Bytes) :
    (r.read bytes).Collected := by
  induction bytes generalizing r with
  | nil => exact h
  | cons b bs ih => exact ih (h.step b)

theorem collected_empty : Collected {} := fun _ => ⟨rfl, rfl⟩

/-! ## Behind a byte-order mark -/

/-- A reader of a stream and one that keeps the byte-order mark in front of it. -/
inductive Marked (r r' : Reader) : Prop where
  | first (hLine : r'.line = byteOrderMark ++ r.line) (hCr : r.afterCr = false)
      (hCr' : r'.afterCr = false)
  | later (hLine : r.line = r'.line) (hCr : r.afterCr = r'.afterCr)
      (hOpen : (∃ l ∈ r'.openLines, byteOrderMark <+: l) ∨ r.openLines = r'.openLines)

theorem Marked.endLine {r r' : Reader} (h : Marked r r') :
    (∃ l ∈ r'.endLine.openLines, byteOrderMark <+: l) ∨
      r.endLine.openLines = r'.endLine.openLines := by
  cases h with
  | first hLine hCr hCr' =>
    have hNonempty : r'.line ≠ [] := by
      rw [hLine]
      exact List.cons_ne_nil _ _
    left
    refine ⟨r'.line, ?_, ?_⟩
    · rw [endLine_openLines hNonempty]
      exact List.mem_append_right _ (List.mem_singleton_self _)
    · rw [hLine]
      exact List.prefix_append _ _
  | later hLine hCr hOpen =>
    cases hBlank : r.line with
    | nil =>
      right
      rw [endLine_openLines_blank hBlank, endLine_openLines_blank (hLine ▸ hBlank)]
    | cons b bs =>
      have hNonempty : r.line ≠ [] := by
        rw [hBlank]
        exact List.cons_ne_nil b bs
      rw [endLine_openLines hNonempty, endLine_openLines (hLine ▸ hNonempty)]
      rcases hOpen with ⟨l, hl, hMark⟩ | hSame
      · exact .inl ⟨l, List.mem_append_left _ hl, hMark⟩
      · exact .inr (by rw [hSame, hLine])

theorem Marked.step {r r' : Reader} (h : Marked r r') (b : UInt8) :
    Marked (r.step b) (r'.step b) := by
  have hSame : r.afterCr = r'.afterCr := by
    cases h with
    | first _ hCr hCr' => rw [hCr, hCr']
    | later _ hCr _ => exact hCr
  unfold Reader.step
  rw [← hSame]
  split
  · split
    · next hAfter =>
      cases h with
      | first _ hCr _ => rw [hCr] at hAfter; cases hAfter
      | later hLine _ hOpen => exact .later hLine rfl hOpen
    · exact .later (by simp) (by simp) h.endLine
  · split
    · exact .later (by simp) rfl h.endLine
    · cases h with
      | first hLine _ _ => exact .first (by rw [hLine, List.append_assoc]) rfl rfl
      | later hLine _ hOpen => exact .later (by rw [hLine]) rfl hOpen

theorem Marked.read {r r' : Reader} (h : Marked r r') (bytes : Bytes) :
    Marked (r.read bytes) (r'.read bytes) := by
  induction bytes generalizing r r' with
  | nil => exact h
  | cons b bs ih => exact ih (h.step b)

end Reader

/-- What a reader of the raw octets shows of the client: at the start of a line, with nothing
collected and no line behind a byte-order mark. -/
theorem client_idle {bytes : Bytes} (hLine : (({} : Reader).read bytes).line = [])
    (hOpen : ∀ l ∈ (({} : Reader).read bytes).openLines,
      collects l = false ∧ ¬byteOrderMark <+: l) :
    (client bytes).Idle := by
  unfold client stripBom
  split
  · next hMark =>
    obtain ⟨rest, rfl⟩ := List.isPrefixOf_iff_prefix.mp hMark
    rw [List.drop_left]
    have hStart : Reader.Marked {} (({} : Reader).read byteOrderMark) := .first rfl rfl rfl
    have hRead := hStart.read rest
    rw [← Reader.read_append] at hRead
    cases hRead with
    | first hFirst _ _ =>
      rw [hLine] at hFirst
      cases hFirst
    | later hSame _ hLines =>
      rcases hLines with ⟨l, hl, hBom⟩ | hLines
      · exact absurd hBom (hOpen l hl).2
      · rw [← hLines] at hOpen
        obtain ⟨hType, hData⟩ := Reader.collected_empty.read rest fun l hl => (hOpen l hl).1
        exact ⟨hSame.trans hLine, hType, hData⟩
  · obtain ⟨hType, hData⟩ := Reader.collected_empty.read bytes fun l hl => (hOpen l hl).1
    exact ⟨hLine, hType, hData⟩

/-- Octets that are already more than a piece of a byte-order mark settle what is stripped. -/
theorem client_append {bytes : Bytes} (h : ¬bytes <+: byteOrderMark ∨ bytes = byteOrderMark)
    (rest : Bytes) : client (bytes ++ rest) = (client bytes).read rest := by
  have hStrip : stripBom (bytes ++ rest) = stripBom bytes ++ rest := by
    unfold stripBom
    cases hMark : byteOrderMark.isPrefixOf bytes with
    | true =>
      obtain ⟨tail, rfl⟩ := List.isPrefixOf_iff_prefix.mp hMark
      have hLonger : byteOrderMark.isPrefixOf (byteOrderMark ++ tail ++ rest) = true := by
        rw [List.append_assoc]
        exact List.isPrefixOf_iff_prefix.mpr (List.prefix_append _ _)
      rw [hLonger, if_pos rfl, if_pos rfl, List.append_assoc, List.drop_left, List.drop_left]
    | false =>
      have hNot : ¬byteOrderMark <+: bytes := by
        rw [← List.isPrefixOf_iff_prefix, hMark]
        exact Bool.false_ne_true
      have hLonger : byteOrderMark.isPrefixOf (bytes ++ rest) = false := by
        rw [← Bool.not_eq_true, List.isPrefixOf_iff_prefix]
        intro hLong
        rcases List.prefix_or_prefix_of_prefix hLong (List.prefix_append bytes rest) with hIn | hIn
        · exact hNot hIn
        · rcases h with hPiece | hWhole
          · exact hPiece hIn
          · exact hNot (hWhole ▸ List.prefix_rfl)
      rw [hLonger, if_neg Bool.false_ne_true, if_neg Bool.false_ne_true]
  unfold client
  rw [hStrip, Reader.read_append]

/-! ## Comment frames -/

namespace Reader

/-- A comment and a blank line after it, read by an idle client. -/
theorem Idle.read_comment {r : Reader} (h : r.Idle) {comment : Bytes}
    (hPlain : ∀ b ∈ comment, b ≠ lf ∧ b ≠ cr) :
    (r.read (colon :: comment ++ [lf, lf])).Idle ∧
      (r.read (colon :: comment ++ [lf, lf])).events = r.events ∧
      (r.read (colon :: comment ++ [lf, lf])).afterCr = false := by
  have hFirst : r.step colon = { r with line := [colon], afterCr := false } := by
    simp [Reader.step, colon, lf, cr, h.line]
  have hRead : r.read (colon :: comment ++ [lf, lf]) =
      ({ r with line := colon :: comment, afterCr := false } : Reader).read [lf, lf] := by
    rw [List.cons_append, read_cons, hFirst, read_append, read_plain rfl hPlain]
    rfl
  have hLine : ({ r with line := colon :: comment, afterCr := false } : Reader).step lf =
      { r with line := [], afterCr := false, openLines := r.openLines ++ [colon :: comment] } := by
    simp [Reader.step, Reader.endLine, field, isComment]
  have hBlank : ({ r with
        line := [], afterCr := false, openLines := r.openLines ++ [colon :: comment] } :
      Reader).step lf =
      { r with line := [], afterCr := false, openLines := [], eventType := [], dataLines := [] } := by
    simp [Reader.step, Reader.endLine, dispatch, h.dataLines]
  rw [hRead, read_cons, hLine, read_cons, hBlank, read_nil]
  exact ⟨⟨rfl, rfl, rfl⟩, rfl, rfl⟩

/-- Two idle clients with the same events read the same from here on: what one of them may still
wait for is the line feed of a line that has ended. -/
theorem Idle.read_events {r r' : Reader} (h : r.Idle) (h' : r'.Idle) (hEvents : r.events = r'.events)
    (hCr : r'.afterCr = false) (bytes : Bytes) : (r.read bytes).events = (r'.read bytes).events := by
  cases bytes with
  | nil => exact hEvents
  | cons b bs =>
    have hAhead : Ahead [] (r.step b) (r'.step b) := by
      have hStart : Ahead [] { r with afterCr := false } r' :=
        ⟨h.line.trans h'.line.symm, hCr.symm, h.eventType.trans h'.eventType.symm,
          h.dataLines.trans h'.dataLines.symm, hEvents⟩
      have hEnd : Ahead [] r.endLine r'.endLine := hStart.endLine
      unfold Reader.step
      rw [hCr]
      split
      · split
        · -- the line feed that a blank line is to the second client
          have hBlank : r'.endLine.eventType = [] ∧ r'.endLine.dataLines = [] ∧
              r'.endLine.events = r'.events := by
            simp [Reader.endLine, h'.line, dispatch, h'.dataLines]
          simp only [Bool.false_eq_true, if_false]
          exact ⟨by rw [endLine_line, h.line], (endLine_afterCr r').symm,
            h.eventType.trans hBlank.1.symm, h.dataLines.trans hBlank.2.1.symm,
            hEvents.trans hBlank.2.2.symm⟩
        · exact hEnd
      · split
        · exact ⟨hEnd.line, rfl, hEnd.eventType, hEnd.dataLines, hEnd.events⟩
        · exact ⟨by rw [h.line, h'.line], rfl, hStart.eventType, hStart.dataLines, hStart.events⟩
    exact (hAhead.read bs).events

end Reader

end AiGateway.Sse
