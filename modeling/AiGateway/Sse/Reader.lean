import AiGateway.Base.Text

/-!
# Reading an event stream

The event-stream format as a client reads it: lines end with LF, CR or CRLF, a
blank line dispatches the events collected since the last one, a line led by a
colon is a comment, and only the fields `event` and `data` take part in an
event.  A leading byte-order mark is not told apart from other octets.
-/

namespace AiGateway.Sse

set_option autoImplicit false

open AiGateway.Text

structure Event where
  eventType : Bytes
  data : Bytes
  deriving DecidableEq, Repr

/-- A reader between two octets.  `openLines` are the complete lines since the
last blank one. -/
structure Reader where
  line : Bytes := []
  afterCr : Bool := false
  eventType : Bytes := []
  dataLines : List Bytes := []
  openLines : List Bytes := []
  events : List Event := []
  deriving DecidableEq, Repr

def isComment (line : Bytes) : Bool := line.head? == some colon

namespace Reader

def dispatch (r : Reader) : Reader :=
  { r with
    eventType := []
    dataLines := []
    openLines := []
    events :=
      if r.dataLines.isEmpty then r.events
      else r.events ++ [⟨r.eventType, [lf].intercalate r.dataLines⟩] }

/-- The value of a field line, without the one space that may follow the colon. -/
def fieldValue (line : Bytes) : Bytes :=
  match (line.dropWhile (· != colon)).drop 1 with
  | b :: bs => if b = space then bs else b :: bs
  | [] => []

def field (r : Reader) (line : Bytes) : Reader :=
  if isComment line then r
  else if line.takeWhile (· != colon) = utf8 "event" then { r with eventType := fieldValue line }
  else if line.takeWhile (· != colon) = utf8 "data" then
    { r with dataLines := r.dataLines ++ [fieldValue line] }
  else r

def endLine (r : Reader) : Reader :=
  let line := r.line
  let r := { r with line := [], afterCr := false }
  if line.isEmpty then r.dispatch else { r.field line with openLines := r.openLines ++ [line] }

def step (r : Reader) (b : UInt8) : Reader :=
  if b = lf then if r.afterCr then { r with afterCr := false } else r.endLine
  else if b = cr then { r.endLine with afterCr := true }
  else { r with line := r.line ++ [b], afterCr := false }

def read (r : Reader) (bytes : Bytes) : Reader := bytes.foldl step r

/-- No line is unfinished, and since the last blank line there were comments only. -/
def EndsFrame (r : Reader) : Prop := r.line = [] ∧ ∀ l ∈ r.openLines, isComment l = true

instance (r : Reader) : Decidable r.EndsFrame := inferInstanceAs (Decidable (_ ∧ _))

@[simp] theorem read_nil (r : Reader) : r.read [] = r := rfl

@[simp] theorem read_cons (r : Reader) (b : UInt8) (bs : Bytes) :
    r.read (b :: bs) = (r.step b).read bs := rfl

theorem read_append (r : Reader) (xs ys : Bytes) : r.read (xs ++ ys) = (r.read xs).read ys :=
  List.foldl_append ..

@[simp] theorem dispatch_line (r : Reader) : r.dispatch.line = r.line := rfl

@[simp] theorem dispatch_afterCr (r : Reader) : r.dispatch.afterCr = r.afterCr := rfl

@[simp] theorem field_line (r : Reader) (l : Bytes) : (r.field l).line = r.line := by
  unfold field
  split_ifs <;> rfl

@[simp] theorem field_afterCr (r : Reader) (l : Bytes) : (r.field l).afterCr = r.afterCr := by
  unfold field
  split_ifs <;> rfl

@[simp] theorem endLine_line (r : Reader) : r.endLine.line = [] := by
  unfold endLine
  simp only
  split <;> simp

@[simp] theorem endLine_afterCr (r : Reader) : r.endLine.afterCr = false := by
  unfold endLine
  simp only
  split <;> simp

theorem endLine_openLines_blank {r : Reader} (h : r.line = []) : r.endLine.openLines = [] := by
  simp [endLine, h, dispatch]

theorem endLine_openLines {r : Reader} (h : r.line ≠ []) :
    r.endLine.openLines = r.openLines ++ [r.line] := by
  have hEmpty : r.line.isEmpty = false := by simpa using h
  simp [endLine, hEmpty]

@[simp] theorem field_openLines (r : Reader) (l : Bytes) : (r.field l).openLines = r.openLines := by
  unfold field
  split_ifs <;> rfl

/-- What every reader satisfies that started empty: a carriage return ended its
line, and comments leave nothing to dispatch. -/
structure Sound (r : Reader) : Prop where
  lineEnded : r.afterCr = true → r.line = []
  nothingCollected : (∀ l ∈ r.openLines, isComment l = true) → r.dataLines = [] ∧ r.eventType = []

theorem sound_empty : Sound {} := ⟨fun _ => rfl, fun _ => ⟨rfl, rfl⟩⟩

theorem Sound.endLine {r : Reader} (h : r.Sound) : r.endLine.Sound := by
  refine ⟨fun _ => endLine_line r, ?_⟩
  by_cases hLine : r.line = []
  · intro _
    simp [Reader.endLine, hLine, dispatch]
  · rw [endLine_openLines hLine]
    intro hOpen
    have hComment : isComment r.line = true := hOpen _ (by simp)
    have hEmpty : r.line.isEmpty = false := by simpa using hLine
    simp only [Reader.endLine, hEmpty, field, hComment, if_true]
    exact h.nothingCollected fun l hl => hOpen l (by simp [hl])

theorem Sound.step {r : Reader} (h : r.Sound) (b : UInt8) : (r.step b).Sound := by
  unfold Reader.step
  split
  · split
    · exact ⟨fun hCr => (Bool.false_ne_true hCr).elim, h.nothingCollected⟩
    · exact h.endLine
  · split
    · exact ⟨fun _ => endLine_line r, h.endLine.nothingCollected⟩
    · exact ⟨fun hCr => (Bool.false_ne_true hCr).elim, h.nothingCollected⟩

theorem Sound.read {r : Reader} (h : r.Sound) (bytes : Bytes) : (r.read bytes).Sound := by
  induction bytes generalizing r with
  | nil => exact h
  | cons b bs ih => exact ih (h.step b)

/-- Two line feeds end whatever frame is open. -/
theorem read_blankLine {r : Reader} (h : r.Sound) :
    (r.read [lf, lf]).line = [] ∧ (r.read [lf, lf]).openLines = [] ∧
      (r.read [lf, lf]).afterCr = false := by
  have hBlank : ∀ r : Reader, r.afterCr = false → r.line = [] →
      (r.step lf).line = [] ∧ (r.step lf).openLines = [] ∧ (r.step lf).afterCr = false := by
    intro r hCr hLine
    have hStep : r.step lf = r.endLine := by simp [Reader.step, hCr]
    rw [hStep]
    exact ⟨endLine_line r, endLine_openLines_blank hLine, endLine_afterCr r⟩
  rw [read_cons, read_cons, read_nil]
  cases hCr : r.afterCr with
  | false =>
    have hStep : r.step lf = r.endLine := by simp [Reader.step, hCr]
    rw [hStep]
    exact hBlank _ (endLine_afterCr r) (endLine_line r)
  | true =>
    have hStep : r.step lf = { r with afterCr := false } := by simp [Reader.step, hCr]
    rw [hStep]
    exact hBlank _ rfl (h.lineEnded hCr)

theorem endsFrame_of_blankLine {r : Reader} (h : r.Sound) (bytes : Bytes) :
    (r.read (bytes ++ [lf, lf])).EndsFrame := by
  rw [read_append]
  obtain ⟨hLine, hOpen, -⟩ := read_blankLine (h.read bytes)
  refine ⟨hLine, ?_⟩
  rw [hOpen]
  simp

/-- Two readers in the same place of the same frame, the first of which has
already dispatched `before`. -/
structure Ahead (before : List Event) (r r' : Reader) : Prop where
  line : r.line = r'.line
  afterCr : r.afterCr = r'.afterCr
  eventType : r.eventType = r'.eventType
  dataLines : r.dataLines = r'.dataLines
  events : r.events = before ++ r'.events

theorem Ahead.field {before : List Event} {r r' : Reader} (h : Ahead before r r') (l : Bytes) :
    Ahead before (r.field l) (r'.field l) := by
  unfold Reader.field
  split_ifs
  · exact h
  · exact ⟨h.line, h.afterCr, rfl, h.dataLines, h.events⟩
  · exact ⟨h.line, h.afterCr, h.eventType, by rw [h.dataLines], h.events⟩
  · exact h

theorem Ahead.endLine {before : List Event} {r r' : Reader} (h : Ahead before r r') :
    Ahead before r.endLine r'.endLine := by
  unfold Reader.endLine
  simp only [h.line]
  split
  · refine ⟨rfl, rfl, rfl, rfl, ?_⟩
    simp only [dispatch, h.dataLines, h.eventType, h.events]
    split
    · rfl
    · rw [List.append_assoc]
  · have hField := Ahead.field
      (⟨rfl, rfl, h.eventType, h.dataLines, h.events⟩ :
        Ahead before { r with line := [], afterCr := false } { r' with line := [], afterCr := false })
      r'.line
    exact ⟨hField.line, hField.afterCr, hField.eventType, hField.dataLines, hField.events⟩

theorem Ahead.step {before : List Event} {r r' : Reader} (h : Ahead before r r') (b : UInt8) :
    Ahead before (r.step b) (r'.step b) := by
  unfold Reader.step
  rw [h.afterCr]
  split
  · split
    · exact ⟨h.line, rfl, h.eventType, h.dataLines, h.events⟩
    · exact h.endLine
  · split
    · exact ⟨h.endLine.line, rfl, h.endLine.eventType, h.endLine.dataLines, h.endLine.events⟩
    · exact ⟨by rw [h.line], rfl, h.eventType, h.dataLines, h.events⟩

theorem Ahead.read {before : List Event} {r r' : Reader} (h : Ahead before r r') (bytes : Bytes) :
    Ahead before (r.read bytes) (r'.read bytes) := by
  induction bytes generalizing r r' with
  | nil => exact h
  | cons b bs ih => exact ih (h.step b)

/-- Where a frame has ended, the events of what follows are its own. -/
theorem EndsFrame.read_events {r : Reader} (hSound : r.Sound) (h : r.EndsFrame) {b : UInt8}
    (hb : b ≠ lf) (bs : Bytes) :
    (r.read (b :: bs)).events = r.events ++ (({} : Reader).read (b :: bs)).events := by
  obtain ⟨hData, hType⟩ := hSound.nothingCollected h.2
  have hFirst : Ahead r.events (r.step b) (({} : Reader).step b) := by
    unfold Reader.step
    rw [if_neg hb, if_neg hb]
    split
    · have hEnd : Ahead r.events { r with afterCr := false } {} :=
        ⟨h.1, rfl, hType, hData, by simp⟩
      have hEnd' := hEnd.endLine
      exact ⟨hEnd'.line, rfl, hEnd'.eventType, hEnd'.dataLines, hEnd'.events⟩
    · exact ⟨by rw [h.1], rfl, hType, hData, by simp⟩
  exact (hFirst.read bs).events

/-- Octets that end no line. -/
theorem read_plain {r : Reader} (hCr : r.afterCr = false) {bytes : Bytes}
    (h : ∀ b ∈ bytes, b ≠ lf ∧ b ≠ cr) : r.read bytes = { r with line := r.line ++ bytes } := by
  induction bytes generalizing r with
  | nil => simp
  | cons b bs ih =>
    obtain ⟨hLf, hNotCr⟩ := h b List.mem_cons_self
    have hStep : r.step b = { r with line := r.line ++ [b] } := by
      simp [Reader.step, hLf, hNotCr, hCr]
    have hRest := ih (r := { r with line := r.line ++ [b] }) hCr
      fun c hc => h c (List.mem_cons_of_mem b hc)
    rw [read_cons, hStep, hRest]
    simp

/-- A whole field line. -/
theorem read_fieldLine {r : Reader} (hCr : r.afterCr = false) (hLine : r.line = []) {line : Bytes}
    (hNonempty : line ≠ []) (h : ∀ b ∈ line, b ≠ lf ∧ b ≠ cr) :
    r.read (line ++ [lf]) =
      { r.field line with openLines := r.openLines ++ [line] } := by
  have hEmpty : line.isEmpty = false := by simpa using hNonempty
  rw [read_append, read_plain hCr h, hLine, List.nil_append]
  simp only [read_cons, read_nil, Reader.step, if_true, hCr, Bool.false_eq_true, if_false,
    Reader.endLine, hEmpty]
  rw [← hCr, ← hLine]

theorem read_blank {r : Reader} (hCr : r.afterCr = false) (hLine : r.line = []) :
    r.read [lf] = r.dispatch := by
  simp only [read_cons, read_nil, Reader.step, if_true, hCr, Bool.false_eq_true, if_false,
    Reader.endLine, hLine, List.isEmpty_nil]
  rw [← hCr, ← hLine]

theorem field_data (r : Reader) (value : Bytes) :
    r.field (utf8 "data: " ++ value) = { r with dataLines := r.dataLines ++ [value] } := by
  have hData : utf8 "data: " = [0x64, 0x61, 0x74, 0x61, 0x3A, 0x20] := by decide
  have hName : utf8 "data" = [0x64, 0x61, 0x74, 0x61] := by decide
  have hEvent : utf8 "event" = [0x65, 0x76, 0x65, 0x6E, 0x74] := by decide
  simp [field, isComment, fieldValue, hData, hName, hEvent, colon, space]

theorem field_event (r : Reader) (value : Bytes) :
    r.field (utf8 "event: " ++ value) = { r with eventType := value } := by
  have hLine : utf8 "event: " = [0x65, 0x76, 0x65, 0x6E, 0x74, 0x3A, 0x20] := by decide
  have hEvent : utf8 "event" = [0x65, 0x76, 0x65, 0x6E, 0x74] := by decide
  simp [field, isComment, fieldValue, hLine, hEvent, colon, space]

/-- A frame with one data line, read where no line is open and nothing was
collected but perhaps an event type. -/
theorem read_dataFrame {r : Reader} (hCr : r.afterCr = false) (hLine : r.line = [])
    (hData : r.dataLines = []) {value : Bytes} (h : ∀ b ∈ value, b ≠ lf ∧ b ≠ cr) :
    r.read (utf8 "data: " ++ value ++ [lf, lf]) =
      { r with
        eventType := []
        openLines := []
        events := r.events ++ [⟨r.eventType, value⟩] } := by
  have hPlain : ∀ b ∈ utf8 "data: " ++ value, b ≠ lf ∧ b ≠ cr := by
    intro b hb
    rcases List.mem_append.mp hb with hb | hb
    · exact utf8_ne_lineEnd (by decide) b hb
    · exact h b hb
  have hNonempty : utf8 "data: " ++ value ≠ [] := by
    intro hNil
    exact absurd (List.append_eq_nil_iff.mp hNil).1 (by decide)
  have hSplit : utf8 "data: " ++ value ++ [lf, lf] = (utf8 "data: " ++ value ++ [lf]) ++ [lf] := by
    simp
  rw [hSplit, read_append, read_fieldLine hCr hLine hNonempty hPlain, field_data,
    read_blank (by exact hCr) (by exact hLine)]
  simp [dispatch, hData]

end Reader

end AiGateway.Sse
