import AiGateway.Proxy.Classify

/-!
# The events of a byte stream

An event is a run of lines closed by a blank line or by the end of the body.
`streamEvents` reads them off the bytes; the tracker, fed the bytes within its
limits, dispatches these events in order.
-/

namespace AiGateway.Stream

set_option autoImplicit false

open AiGateway.Json AiGateway.Text

/-- The lines of a byte string that go on from an open line, carriage returns
dropped: those a line feed ends, and what follows the last line feed. -/
def splitLines (line : Bytes) : Bytes → List Bytes × Bytes
  | [] => ([], line)
  | b :: bs =>
    if b = lf then (line :: (splitLines [] bs).1, (splitLines [] bs).2)
    else if b = cr then splitLines line bs
    else splitLines (line ++ [b]) bs

/-- An event: the frame it carries, whether a line of it counts as content, and
whether one of its lines was a field. -/
structure SseEvent where
  frame : Frame := ⟨"", []⟩
  visible : Bool := false
  field : Bool := false
  deriving DecidableEq, Repr

/-- Whether the first octet of a line announces more than a comment. -/
def opensField (line : Bytes) : Bool := line.head?.any fun b => b != colon && b != space

namespace SseEvent

/-- One more line of the event, not blank. -/
def readLine (e : SseEvent) (line : Bytes) : SseEvent :=
  let e := { e with visible := e.visible || opensField line }
  if line.head? = some colon then e
  else
    let text := trim (fromUtf8Lossy line)
    match stripPrefix text "event:" with
    | some value =>
      { e with field := true, frame := { e.frame with eventName := trim value } }
    | none =>
      match stripPrefix text "data:" with
      | some value =>
        { e with
          field := true
          frame := { e.frame with dataLines := e.frame.dataLines ++ [trim value] } }
      | none =>
        if startsWith text "id:" || startsWith text "retry:" then { e with field := true }
        else { e with visible := true }

end SseEvent

/-- The events of a sequence of lines; the last one is open at its end. -/
def eventsOf (e : SseEvent) : List Bytes → List SseEvent
  | [] => [e]
  | line :: rest => if line = [] then e :: eventsOf {} rest else eventsOf (e.readLine line) rest

/-- The events of a body; its end closes the last line and the last event. -/
def streamEvents (bytes : Bytes) : List SseEvent :=
  eventsOf {} ((splitLines [] bytes).1 ++ [(splitLines [] bytes).2])

namespace SseEventTracker

/-- The tracker with an event open. -/
def opened (t : SseEventTracker) (e : SseEvent) : SseEventTracker :=
  { t with
    eventName := e.frame.eventName
    dataLines := e.frame.dataLines
    frameNonComment := e.visible
    sawSseFrame := t.sawSseFrame || e.field }

/-- The tracker with a line open. -/
def typing (t : SseEventTracker) (line : Bytes) : SseEventTracker :=
  { t with line, frameNonComment := t.frameNonComment || opensField line }

theorem typing_nil {t : SseEventTracker} (h : t.line = []) : t.typing [] = t := by
  obtain ⟨line⟩ := t
  cases h
  simp [typing, opensField]

theorem opened_nil {t : SseEventTracker} (h : t.Clean) : t.opened {} = t := by
  have hComment := h.comment
  have hName := h.eventName
  have hData := h.dataLines
  obtain ⟨⟩ := t
  simp_all [opened]

theorem pushByte_typing (t : SseEventTracker) (line : Bytes) (b : UInt8) :
    (t.typing line).pushByte b = t.typing (line ++ [b]) := by
  cases line with
  | nil => simp [typing, pushByte, opensField]
  | cons c cs => simp [typing, pushByte, opensField]

theorem readLine_opened {t : SseEventTracker} (e : SseEvent) (line : Bytes) :
    { t.opened e with frameNonComment := e.visible || opensField line }.readLine line =
      t.opened (e.readLine line) := by
  unfold readLine SseEvent.readLine
  by_cases hColon : line.head? = some colon
  · simp only [hColon, if_true]
    rfl
  · simp only [hColon, if_false]
    cases stripPrefix (trim (fromUtf8Lossy line)) "event:" with
    | some value => simp [opened]
    | none =>
      cases stripPrefix (trim (fromUtf8Lossy line)) "data:" with
      | some value => simp [opened]
      | none =>
        simp only
        split
        · simp [opened]
        · rfl

section

variable (parse : String → Option Value)

/-- Dispatching an event, with what the chunk has reported so far. -/
def dispatchEvent (r : SseEventTracker × SseActivity) (e : SseEvent) :
    SseEventTracker × SseActivity := (r.1.opened e).dispatch parse r.2

/-- The end of the body, reported in one activity with what came before. -/
def closeOpen (r : SseEventTracker × SseActivity) : SseEventTracker × SseActivity :=
  let r := if r.1.line.isEmpty then r else r.1.processLine parse r.2
  r.1.dispatch parse r.2

theorem applyClass_tracker (t : SseEventTracker) (a b : SseActivity) (c : FrameClass)
    (content : Bool) : (t.applyClass a c content).1 = (t.applyClass b c content).1 := by
  unfold applyClass
  split
  · rfl
  · split
    · split
      · rfl
      · rfl
    · rfl

/-- What a tracker becomes does not depend on what was reported before. -/
theorem dispatch_tracker (t : SseEventTracker) (a b : SseActivity) :
    (t.dispatch parse a).1 = (t.dispatch parse b).1 := by
  unfold dispatch
  split
  · rfl
  · simp only
    split
    · rfl
    · exact applyClass_tracker _ _ _ _ _

theorem closeOpen_tracker (t : SseEventTracker) (a : SseActivity) :
    (closeOpen parse (t, a)).1 = (t.finishEof parse).1 := by
  unfold closeOpen finishEof
  simp only
  split
  · exact dispatch_tracker parse t a {}
  · by_cases hLine : t.line = []
    · rw [processLine_blank parse hLine, processLine_blank parse hLine,
        dispatch_tracker parse _ a {}]
      exact dispatch_tracker parse _ _ _
    · rw [processLine_of_ne parse hLine, processLine_of_ne parse hLine]
      exact dispatch_tracker parse _ _ _

theorem processLine_typing {t : SseEventTracker} (hLine : t.line = []) (e : SseEvent)
    {line : Bytes} (h : line ≠ []) (a : SseActivity) :
    ((t.opened e).typing line).processLine parse a = (t.opened (e.readLine line), a) := by
  rw [processLine_of_ne parse (by exact h), ← readLine_opened]
  have hTaken : { (t.opened e).typing line with line := [] } =
      { t.opened e with frameNonComment := e.visible || opensField line } := by
    rw [← hLine]
    rfl
  rw [hTaken]
  rfl

theorem dispatchEvent_withCount (r : SseEventTracker × SseActivity) (n : Nat) (e : SseEvent) :
    dispatchEvent parse (r.1.withCount n, r.2) e =
      ((dispatchEvent parse r e).1.withCount n, (dispatchEvent parse r e).2) :=
  dispatch_withCount parse (r.1.opened e) n r.2

theorem foldl_dispatchEvent_withCount (r : SseEventTracker × SseActivity) (n : Nat)
    (es : List SseEvent) :
    es.foldl (dispatchEvent parse) (r.1.withCount n, r.2) =
      ((es.foldl (dispatchEvent parse) r).1.withCount n,
        (es.foldl (dispatchEvent parse) r).2) := by
  induction es generalizing r with
  | nil => rfl
  | cons e es ih =>
    rw [List.foldl_cons, List.foldl_cons, dispatchEvent_withCount]
    exact ih (dispatchEvent parse r e)

theorem dispatchEvent_clean {r : SseEventTracker × SseActivity} (h : r.1.line = [])
    (e : SseEvent) : (dispatchEvent parse r e).1.Clean :=
  dispatch_clean parse (t := r.1.opened e) h r.2

/-- What a tracker is left with at the end of a body of which `bytes` are still to
be read. -/
def Dispatches (t : SseEventTracker) (e : SseEvent) (line bytes : Bytes) (a : SseActivity)
    (r : SseEventTracker × SseActivity) : Prop :=
  ∃ n, closeOpen parse r =
    (((eventsOf e ((splitLines line bytes).1 ++ [(splitLines line bytes).2])).foldl
        (dispatchEvent parse) (t, a)).1.withCount n,
      ((eventsOf e ((splitLines line bytes).1 ++ [(splitLines line bytes).2])).foldl
        (dispatchEvent parse) (t, a)).2)

theorem Dispatches.recount {t : SseEventTracker} {e : SseEvent} {line bytes : Bytes}
    {a : SseActivity} {r : SseEventTracker × SseActivity} {k : Nat}
    (h : Dispatches parse (t.withCount k) e line bytes a r) : Dispatches parse t e line bytes a r := by
  obtain ⟨n, hn⟩ := h
  refine ⟨n, ?_⟩
  rw [hn, foldl_dispatchEvent_withCount parse (t, a), withCount_withCount]

theorem dispatches_nil {t : SseEventTracker} (hClean : t.Clean) (e : SseEvent) (line : Bytes)
    (a : SseActivity) : Dispatches parse t e line [] a ((t.opened e).typing line, a) := by
  by_cases hLine : line = []
  · subst hLine
    rw [typing_nil (t := t.opened e) hClean.line]
    refine ⟨(dispatchEvent parse (t, a) e).1.frameBytes, ?_⟩
    have hOpen : (t.opened e).line.isEmpty = true := by
      rw [List.isEmpty_iff]
      exact hClean.line
    have hAfter := dispatchEvent_clean parse (r := (t, a)) hClean.line e
    have hLast : dispatchEvent parse (dispatchEvent parse (t, a) e) {} =
        dispatchEvent parse (t, a) e := by
      rw [dispatchEvent, opened_nil hAfter, dispatch_of_clean parse hAfter]
    simp only [closeOpen, hOpen, if_true, splitLines, List.nil_append, eventsOf, List.foldl_cons,
      List.foldl_nil, hLast, withCount_self]
    rfl
  · refine ⟨((t.opened (e.readLine line)).dispatch parse a).1.frameBytes, ?_⟩
    have hOpen : ((t.opened e).typing line).line.isEmpty = false := by simpa [typing] using hLine
    simp only [closeOpen, hOpen, Bool.false_eq_true, if_false,
      processLine_typing parse hClean.line e hLine, splitLines, List.nil_append, eventsOf, hLine,
      List.foldl_cons, List.foldl_nil, dispatchEvent, withCount_self]

/-- Within the limits a tracker dispatches the events of the bytes it is fed, in
order. -/
theorem dispatches_feedBytes {t : SseEventTracker} (hClean : t.Clean) (e : SseEvent)
    (line bytes : Bytes) (a : SseActivity)
    (hLimit : (((t.opened e).typing line).feedBytes parse a bytes).1.terminal ≠
      some .bufferLimitExceeded) :
    Dispatches parse t e line bytes a (((t.opened e).typing line).feedBytes parse a bytes) := by
  induction bytes generalizing t e line a with
  | nil => exact dispatches_nil parse hClean e line a
  | cons b bs ih =>
    rw [feedBytes] at hLimit ⊢
    have hFull : ¬maxSseFrameBytes ≤ ((t.opened e).typing line).frameBytes := by
      intro hFull
      rw [if_pos hFull] at hLimit
      exact hLimit rfl
    rw [if_neg hFull] at hLimit ⊢
    simp only at hLimit ⊢
    have hCount : { (t.opened e).typing line with
        frameBytes := ((t.opened e).typing line).frameBytes + 1 } =
        ((t.withCount (t.frameBytes + 1)).opened e).typing line := rfl
    rw [hCount] at hLimit ⊢
    have hNext : (t.withCount (t.frameBytes + 1)).Clean :=
      ⟨hClean.line, hClean.dataLines, hClean.eventName, hClean.comment⟩
    by_cases hLf : b = lf
    · rw [if_pos hLf] at hLimit ⊢
      by_cases hLine : line = []
      · -- a blank line closes the event
        subst hLine
        rw [typing_nil (t := (t.withCount (t.frameBytes + 1)).opened e) hNext.line,
          processLine_blank parse (by exact hNext.line)] at hLimit ⊢
        have hEvent : SseEventTracker.dispatch parse
            { (t.withCount (t.frameBytes + 1)).opened e with frameBytes := 0 } a =
            dispatchEvent parse (t.withCount 0, a) e := rfl
        rw [hEvent] at hLimit ⊢
        have hAfter := dispatchEvent_clean parse (r := (t.withCount 0, a)) hClean.line e
        by_cases hStop : (dispatchEvent parse (t.withCount 0, a) e).1.terminal =
            some .bufferLimitExceeded
        · rw [if_pos hStop] at hLimit
          exact absurd hStop hLimit
        · rw [if_neg hStop] at hLimit ⊢
          have hOpen : (((dispatchEvent parse (t.withCount 0, a) e).1.opened {}).typing []) =
              (dispatchEvent parse (t.withCount 0, a) e).1 := by
            rw [opened_nil hAfter, typing_nil hAfter.line]
          rw [← hOpen] at hLimit ⊢
          have hRest := ih hAfter {} [] (dispatchEvent parse (t.withCount 0, a) e).2 hLimit
          apply Dispatches.recount parse (k := 0)
          obtain ⟨n, hn⟩ := hRest
          refine ⟨n, ?_⟩
          rw [hn, splitLines, if_pos hLf]
          rfl
      · -- the line goes to the open event
        rw [processLine_typing parse hNext.line e hLine] at hLimit ⊢
        simp only at hLimit ⊢
        by_cases hStop : ((t.withCount (t.frameBytes + 1)).opened (e.readLine line)).terminal =
            some .bufferLimitExceeded
        · rw [if_pos hStop] at hLimit
          exact absurd hStop hLimit
        · rw [if_neg hStop] at hLimit ⊢
          have hOpen : ((t.withCount (t.frameBytes + 1)).opened (e.readLine line)).typing [] =
              (t.withCount (t.frameBytes + 1)).opened (e.readLine line) :=
            typing_nil hNext.line
          rw [← hOpen] at hLimit ⊢
          have hRest := (ih hNext (e.readLine line) [] a hLimit).recount
          obtain ⟨n, hn⟩ := hRest
          refine ⟨n, ?_⟩
          rw [hn, splitLines, if_pos hLf]
          simp only [List.cons_append, eventsOf, hLine, if_false]
    · rw [if_neg hLf] at hLimit ⊢
      by_cases hCr : b = cr
      · rw [if_pos hCr] at hLimit ⊢
        obtain ⟨n, hn⟩ := (ih hNext e line a hLimit).recount
        refine ⟨n, ?_⟩
        rw [hn, splitLines, if_neg hLf, if_pos hCr]
      · rw [if_neg hCr, pushByte_typing] at hLimit ⊢
        obtain ⟨n, hn⟩ := (ih hNext e (line ++ [b]) a hLimit).recount
        refine ⟨n, ?_⟩
        rw [hn, splitLines, if_neg hLf, if_neg hCr]

end

/-- Before each octet the bytes of the open event are below the limit.  The state
is that of `openStep`. -/
def FitsSize (s : Bool × Nat) : Bytes → Prop
  | [] => True
  | b :: bs => s.2 < maxSseFrameBytes ∧ FitsSize (openStep s b) bs

theorem fitsSize_append (s : Bool × Nat) (xs ys : Bytes) :
    FitsSize s (xs ++ ys) ↔ FitsSize s xs ∧ FitsSize (xs.foldl openStep s) ys := by
  induction xs generalizing s with
  | nil => simp [FitsSize]
  | cons x xs ih =>
    rw [List.cons_append, FitsSize, FitsSize, ih, and_assoc]
    rfl

section

variable (parse : String → Option Value)

/-- A feed that stays clear of the limits was small enough. -/
theorem feedBytes_fitsSize {t : SseEventTracker} (a : SseActivity) (bytes : Bytes)
    (h : (t.feedBytes parse a bytes).1.terminal ≠ some .bufferLimitExceeded) :
    FitsSize (t.line.isEmpty, t.frameBytes) bytes := by
  induction bytes generalizing t a with
  | nil => trivial
  | cons b bs ih =>
    rw [feedBytes] at h
    by_cases hFull : maxSseFrameBytes ≤ t.frameBytes
    · rw [if_pos hFull] at h
      exact absurd rfl h
    · rw [if_neg hFull] at h
      simp only at h
      refine ⟨Nat.lt_of_not_le hFull, ?_⟩
      by_cases hLf : b = lf
      · rw [if_pos hLf] at h
        split at h
        · exact absurd (by assumption) h
        · have hRest := ih _ h
          rw [processLine_line, processLine_frameBytes] at hRest
          rw [openStep, if_pos hLf]
          exact hRest
      · rw [if_neg hLf] at h
        by_cases hCr : b = cr
        · rw [if_pos hCr] at h
          have hRest := ih _ h
          simpa [openStep, hCr, cr, lf] using hRest
        · rw [if_neg hCr] at h
          have hRest := ih _ h
          have hPushed : (t.line ++ [b]).isEmpty = false := by simp
          have hOpen : (t.line.isEmpty && b == cr) = false := by simp [hCr]
          rw [openStep, if_neg hLf, hOpen]
          simpa [pushByte, hPushed] using hRest

variable {parse}

theorem mergeTerminal_isSome {c : Option StreamTermination} (h : c.isSome = true)
    (d : Option StreamTermination) : (mergeTerminal c d).isSome = true := by
  cases d with
  | none => exact h
  | some d =>
    cases c with
    | none => cases h
    | some c =>
      simp only [mergeTerminal]
      split_ifs <;> rfl

theorem applyClass_isSome {t : SseEventTracker} (h : t.terminal.isSome = true) (a : SseActivity)
    (c : FrameClass) (content : Bool) :
    (t.applyClass a c content).1.terminal.isSome = true := by
  unfold applyClass
  split
  · exact mergeTerminal_isSome h c.gateway
  · split
    · split
      · exact mergeTerminal_isSome h (some .upstreamError)
      · exact mergeTerminal_isSome h c.terminal
    · exact h

theorem dispatch_isSome {t : SseEventTracker} (h : t.terminal.isSome = true) (a : SseActivity) :
    (t.dispatch parse a).1.terminal.isSome = true := by
  unfold dispatch
  split
  · exact h
  · simp only
    split
    · rfl
    · apply applyClass_isSome
      rw [observeChoices_eq]
      exact h

theorem foldl_dispatchEvent_isSome {r : SseEventTracker × SseActivity}
    (h : r.1.terminal.isSome = true) (es : List SseEvent) :
    (es.foldl (dispatchEvent parse) r).1.terminal.isSome = true := by
  induction es generalizing r with
  | nil => exact h
  | cons e es ih => exact ih (dispatch_isSome (t := r.1.opened e) h r.2)

/-- The count makes no difference to what is dispatched. -/
theorem isSome_of_withCount {t : SseEventTracker} {a : SseActivity} {es : List SseEvent} (k : Nat)
    (h : (es.foldl (dispatchEvent parse) (t.withCount k, a)).1.terminal.isSome = true) :
    (es.foldl (dispatchEvent parse) (t, a)).1.terminal.isSome = true := by
  rw [foldl_dispatchEvent_withCount parse (t, a)] at h
  exact h

variable (parse) in
/-- A limit reached within the bytes, but not for their number, is one that an event of theirs
has settled before. -/
def LimitSettled (bytes : Bytes) : Prop :=
  ∀ (t : SseEventTracker), t.Clean → ∀ (e : SseEvent) (line : Bytes) (a : SseActivity),
    (((t.opened e).typing line).feedBytes parse a bytes).1.terminal = some .bufferLimitExceeded →
    FitsSize (line.isEmpty, t.frameBytes) bytes →
    ((eventsOf e ((splitLines line bytes).1 ++ [(splitLines line bytes).2])).foldl
      (dispatchEvent parse) (t, a)).1.terminal.isSome = true

/-- A blank line dispatches the event, and the rest is read afresh. -/
theorem LimitSettled.blank {bs : Bytes} (ih : LimitSettled parse bs) {t : SseEventTracker}
    (hClean : t.Clean) (e : SseEvent) (a : SseActivity)
    (h : (if (dispatchEvent parse (t, a) e).1.terminal = some .bufferLimitExceeded then
        dispatchEvent parse (t, a) e
      else (dispatchEvent parse (t, a) e).1.feedBytes parse (dispatchEvent parse (t, a) e).2
        bs).1.terminal = some .bufferLimitExceeded)
    (hRest : FitsSize (true, t.frameBytes) bs) :
    ((e :: eventsOf {} ((splitLines [] bs).1 ++ [(splitLines [] bs).2])).foldl
      (dispatchEvent parse) (t, a)).1.terminal.isSome = true := by
  have hAfter := dispatchEvent_clean parse (r := (t, a)) hClean.line e
  rw [List.foldl_cons]
  by_cases hStop : (dispatchEvent parse (t, a) e).1.terminal = some .bufferLimitExceeded
  · apply foldl_dispatchEvent_isSome
    rw [hStop]
    rfl
  · rw [if_neg hStop] at h
    have hOpen : (((dispatchEvent parse (t, a) e).1.opened {}).typing []) =
        (dispatchEvent parse (t, a) e).1 := by
      rw [opened_nil hAfter, typing_nil hAfter.line]
    rw [← hOpen] at h
    refine ih _ hAfter {} [] _ h ?_
    rw [dispatchEvent, dispatch_frameBytes]
    exact hRest

/-- A line that is not blank belongs to the event. -/
theorem LimitSettled.line {bs : Bytes} (ih : LimitSettled parse bs) {t : SseEventTracker}
    (hClean : t.Clean) (e : SseEvent) (a : SseActivity)
    (h : (if (t.opened e).terminal = some .bufferLimitExceeded then (t.opened e, a)
      else (t.opened e).feedBytes parse a bs).1.terminal = some .bufferLimitExceeded)
    (hRest : FitsSize (true, t.frameBytes) bs) :
    ((eventsOf e ((splitLines [] bs).1 ++ [(splitLines [] bs).2])).foldl
      (dispatchEvent parse) (t, a)).1.terminal.isSome = true := by
  by_cases hStop : (t.opened e).terminal = some .bufferLimitExceeded
  · apply foldl_dispatchEvent_isSome
    have hTerminal : t.terminal = some .bufferLimitExceeded := hStop
    rw [hTerminal]
    rfl
  · rw [if_neg hStop] at h
    have hOpen : (t.opened e).typing [] = t.opened e := typing_nil hClean.line
    rw [← hOpen] at h
    exact ih t hClean e [] a h hRest

/-- Any other byte belongs to the line, unless it is a carriage return. -/
theorem LimitSettled.byte {bs : Bytes} (ih : LimitSettled parse bs) {t : SseEventTracker}
    (hClean : t.Clean) (e : SseEvent) (line : Bytes) (a : SseActivity) {b : UInt8}
    (h : (if b = cr then ((t.opened e).typing line).feedBytes parse a bs
      else (((t.opened e).typing line).pushByte b).feedBytes parse a bs).1.terminal =
        some .bufferLimitExceeded)
    (hRest : FitsSize (line.isEmpty && b == cr, t.frameBytes) bs) :
    let lines := if b = cr then splitLines line bs else splitLines (line ++ [b]) bs
    ((eventsOf e (lines.1 ++ [lines.2])).foldl (dispatchEvent parse) (t, a)).1.terminal.isSome =
      true := by
  dsimp only
  by_cases hCr : b = cr
  · rw [if_pos hCr] at h ⊢
    refine ih t hClean e line a h ?_
    simpa [hCr] using hRest
  · rw [if_neg hCr] at h ⊢
    rw [pushByte_typing] at h
    have hPushed : (line ++ [b]).isEmpty = false := by simp
    have hOpen : (line.isEmpty && b == cr) = false := by simp [hCr]
    refine ih t hClean e (line ++ [b]) a h ?_
    rw [hPushed, ← hOpen]
    exact hRest

variable (parse) in
/-- Reaching a limit has two causes: the size of an event, or an event itself. -/
theorem feedBytes_limit (bytes : Bytes) : LimitSettled parse bytes := by
  induction bytes with
  | nil =>
    intro t hClean e line a h hSize
    apply foldl_dispatchEvent_isSome
    rw [show t.terminal = _ from h]
    rfl
  | cons b bs ih =>
    rintro t hClean e line a h ⟨hFirst, hRest⟩
    have hFull : ¬maxSseFrameBytes ≤ ((t.opened e).typing line).frameBytes :=
      Nat.not_le_of_lt hFirst
    have hCount : { (t.opened e).typing line with
        frameBytes := ((t.opened e).typing line).frameBytes + 1 } =
        ((t.withCount (t.frameBytes + 1)).opened e).typing line := rfl
    rw [feedBytes, if_neg hFull] at h
    simp only at h
    rw [hCount] at h
    have hNext : (t.withCount (t.frameBytes + 1)).Clean :=
      ⟨hClean.line, hClean.dataLines, hClean.eventName, hClean.comment⟩
    rw [splitLines]
    by_cases hLf : b = lf
    · rw [if_pos hLf] at h ⊢
      rw [openStep, if_pos hLf] at hRest
      by_cases hLine : line = []
      · subst hLine
        rw [typing_nil (t := (t.withCount (t.frameBytes + 1)).opened e) hNext.line,
          processLine_blank parse (by exact hNext.line)] at h
        simp only [List.cons_append, eventsOf, if_true]
        have hReset : (t.withCount 0).Clean :=
          ⟨hClean.line, hClean.dataLines, hClean.eventName, hClean.comment⟩
        exact isSome_of_withCount 0 (ih.blank hReset e a h hRest)
      · have hEmpty : line.isEmpty = false := by simpa using hLine
        rw [processLine_typing parse hNext.line e hLine] at h
        simp only [hEmpty] at hRest
        simp only [List.cons_append, eventsOf, hLine, if_false]
        exact isSome_of_withCount _ (ih.line hNext (e.readLine line) a h hRest)
    · rw [if_neg hLf] at h ⊢
      rw [openStep, if_neg hLf] at hRest
      exact isSome_of_withCount _ (ih.byte hNext e line a h hRest)

end

end SseEventTracker

end AiGateway.Stream
