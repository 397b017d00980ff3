import AiGateway.Proxy.Tracker
import AiGateway.Proxy.ErrorFrame

/-!
# Trackers that differ in their byte count

Two trackers that agree on everything but the number of bytes of the open frame
answer every feed alike, until the larger count reaches the limit.
-/

namespace AiGateway.Stream.SseEventTracker

set_option autoImplicit false

open AiGateway.Json AiGateway.Text

def withCount (t : SseEventTracker) (n : Nat) : SseEventTracker := { t with frameBytes := n }

@[simp] theorem withCount_self (t : SseEventTracker) : t.withCount t.frameBytes = t := rfl

@[simp] theorem withCount_withCount (t : SseEventTracker) (m n : Nat) :
    (t.withCount m).withCount n = t.withCount n := rfl

@[simp] theorem withCount_frameBytes (t : SseEventTracker) (n : Nat) :
    (t.withCount n).frameBytes = n := rfl

@[simp] theorem withCount_terminal (t : SseEventTracker) (n : Nat) :
    (t.withCount n).terminal = t.terminal := rfl

variable (parse : String → Option Value)

theorem observeChoices_withCount (t : SseEventTracker) (n : Nat) (cs : List Value) :
    (t.withCount n).observeChoices cs =
      ((t.observeChoices cs).1.withCount n, (t.observeChoices cs).2) := by
  induction cs generalizing t with
  | nil => rfl
  | cons c cs ih =>
    unfold observeChoices
    split
    · exact ih { t with
        sawChatFinish := true
        unfinishedChatChoices := t.unfinishedChatChoices.erase (choiceIndex c) }
    · rw [show (t.withCount n).unfinishedChatChoices = t.unfinishedChatChoices from rfl]
      split
      · rfl
      · exact ih { t with
          unfinishedChatChoices := insert (choiceIndex c) t.unfinishedChatChoices }

theorem applyClass_withCount (t : SseEventTracker) (n : Nat) (a : SseActivity) (c : FrameClass)
    (content : Bool) :
    (t.withCount n).applyClass a c content =
      ((t.applyClass a c content).1.withCount n, (t.applyClass a c content).2) := by
  unfold applyClass
  split
  · rfl
  · split
    · split <;> rfl
    · rfl

theorem dispatch_withCount (t : SseEventTracker) (n : Nat) (a : SseActivity) :
    (t.withCount n).dispatch parse a =
      ((t.dispatch parse a).1.withCount n, (t.dispatch parse a).2) := by
  have hTake : ∀ data parsed, (t.withCount n).takeFrame data parsed =
      (t.takeFrame data parsed).withCount n := fun _ _ => rfl
  unfold dispatch
  rw [show (t.withCount n).frameNonComment = t.frameNonComment from rfl,
    show (t.withCount n).dataLines = t.dataLines from rfl,
    show (t.withCount n).eventName = t.eventName from rfl]
  split
  · rfl
  · simp only [hTake, observeChoices_withCount]
    split
    · rfl
    · exact applyClass_withCount _ _ _ _ _

theorem readLine_withCount (t : SseEventTracker) (n : Nat) (line : Bytes) :
    (t.withCount n).readLine line = (t.readLine line).withCount n := by
  unfold readLine
  split
  · rfl
  · simp only
    split
    · rfl
    · split
      · rfl
      · split <;> rfl

theorem processLine_withCount (t : SseEventTracker) (n : Nat) (a : SseActivity) :
    (t.withCount n).processLine parse a =
      ((t.processLine parse a).1.withCount (if t.line.isEmpty then 0 else n),
        (t.processLine parse a).2) := by
  by_cases hLine : t.line = []
  · have hZero : { t with frameBytes := 0 } = t.withCount 0 := rfl
    have hZero' : { t.withCount n with frameBytes := 0 } = t.withCount 0 := rfl
    have hEmpty : t.line.isEmpty = true := by simpa using hLine
    rw [processLine_blank parse (t := t.withCount n) hLine, processLine_blank parse hLine, hZero,
      hZero', dispatch_withCount, if_pos hEmpty]
    rfl
  · have hEmpty : t.line.isEmpty = false := by simpa using hLine
    have hTaken : { t.withCount n with line := [] } = { t with line := [] }.withCount n := rfl
    rw [processLine_of_ne parse (t := t.withCount n) hLine, processLine_of_ne parse hLine, hTaken,
      hEmpty]
    simp only [readLine_withCount, Bool.false_eq_true, if_false]
    rfl

/-- The bytes of the open frame: after a blank line none, with carriage returns
counted but not told apart.  The flag says that the open line is empty. -/
def openStep (s : Bool × Nat) (b : UInt8) : Bool × Nat :=
  if b = lf then (true, if s.1 then 0 else s.2 + 1)
  else (s.1 && b == cr, s.2 + 1)

theorem pushByte_withCount (t : SseEventTracker) (n : Nat) (b : UInt8) :
    (t.withCount n).pushByte b = (t.pushByte b).withCount n := rfl

theorem processLine_frameBytes (t : SseEventTracker) (a : SseActivity) :
    (t.processLine parse a).1.frameBytes = if t.line.isEmpty then 0 else t.frameBytes := by
  have hSelf := processLine_withCount parse t t.frameBytes a
  rw [withCount_self] at hSelf
  conv_lhs => rw [hSelf]
  rfl

/-- Feeding the same bytes to trackers that differ in their count. -/
theorem feedBytes_withCount {t : SseEventTracker} {n : Nat} (hn : n ≤ t.frameBytes)
    (a : SseActivity) (bytes : Bytes)
    (hLimit : (t.feedBytes parse a bytes).1.terminal ≠ some .bufferLimitExceeded) :
    (t.withCount n).feedBytes parse a bytes =
        ((t.feedBytes parse a bytes).1.withCount
          (bytes.foldl openStep (t.line.isEmpty, n)).2, (t.feedBytes parse a bytes).2) ∧
      (bytes.foldl openStep (t.line.isEmpty, n)).1 =
        (t.feedBytes parse a bytes).1.line.isEmpty ∧
      (bytes.foldl openStep (t.line.isEmpty, n)).2 ≤ (t.feedBytes parse a bytes).1.frameBytes := by
  induction bytes generalizing t n a with
  | nil => exact ⟨rfl, rfl, hn⟩
  | cons b bs ih =>
    rw [feedBytes] at hLimit
    rw [List.foldl_cons, feedBytes, feedBytes, withCount_frameBytes]
    by_cases hFull : maxSseFrameBytes ≤ t.frameBytes
    · rw [if_pos hFull] at hLimit
      exact absurd rfl hLimit
    · have hFull' : ¬maxSseFrameBytes ≤ n := by omega
      rw [if_neg hFull] at hLimit ⊢
      rw [if_neg hFull']
      simp only at hLimit ⊢
      have hCount : { t.withCount n with frameBytes := n + 1 } =
          { t with frameBytes := t.frameBytes + 1 }.withCount (n + 1) := rfl
      generalize hNext : { t with frameBytes := t.frameBytes + 1 } = u at hCount hLimit ⊢
      have hLine : t.line = u.line := by rw [← hNext]
      have hn' : n + 1 ≤ u.frameBytes := by
        rw [← hNext]
        exact Nat.succ_le_succ hn
      rw [hCount, hLine]
      by_cases hLf : b = lf
      · rw [if_pos hLf] at hLimit ⊢
        rw [if_pos hLf, processLine_withCount]
        by_cases hStop : (u.processLine parse a).1.terminal = some .bufferLimitExceeded
        · rw [if_pos hStop] at hLimit
          exact absurd hStop hLimit
        · simp only [withCount_terminal, hStop, if_false] at hLimit ⊢
          have hEmpty := processLine_line parse u a
          have hBytes := processLine_frameBytes parse u a
          have hLe : (if u.line.isEmpty then 0 else n + 1) ≤ (u.processLine parse a).1.frameBytes := by
            rw [hBytes]
            split <;> omega
          have hStep : openStep (u.line.isEmpty, n) b =
              ((u.processLine parse a).1.line.isEmpty, if u.line.isEmpty then 0 else n + 1) := by
            rw [openStep, if_pos hLf, hEmpty]
            rfl
          rw [hStep]
          exact ih hLe _ hLimit
      · rw [if_neg hLf] at hLimit ⊢
        rw [if_neg hLf]
        by_cases hCr : b = cr
        · rw [if_pos hCr] at hLimit ⊢
          rw [if_pos hCr]
          have hStep : openStep (u.line.isEmpty, n) b = (u.line.isEmpty, n + 1) := by
            simp [openStep, hCr, cr, lf]
          rw [hStep]
          exact ih hn' _ hLimit
        · rw [if_neg hCr] at hLimit ⊢
          rw [if_neg hCr, pushByte_withCount]
          have hPush : (u.pushByte b).line.isEmpty = false := by simp [pushByte]
          have hStep : openStep (u.line.isEmpty, n) b = ((u.pushByte b).line.isEmpty, n + 1) := by
            simp [openStep, hLf, hCr, hPush]
          have hLe : n + 1 ≤ (u.pushByte b).frameBytes := hn'
          rw [hStep]
          exact ih hLe _ hLimit

theorem feed_withCount {t : SseEventTracker} {n : Nat} (hn : n ≤ t.frameBytes) (bytes : Bytes)
    (hLimit : (t.feed parse bytes).1.terminal ≠ some .bufferLimitExceeded) :
    (t.withCount n).feed parse bytes =
        ((t.feed parse bytes).1.withCount (bytes.foldl openStep (t.line.isEmpty, n)).2,
          (t.feed parse bytes).2) ∧
      (bytes.foldl openStep (t.line.isEmpty, n)).1 = (t.feed parse bytes).1.line.isEmpty ∧
      (bytes.foldl openStep (t.line.isEmpty, n)).2 ≤ (t.feed parse bytes).1.frameBytes := by
  have hRaw : (t.withCount n).rawEvent bytes = t.rawEvent bytes := rfl
  unfold feed at hLimit ⊢
  rw [withCount_terminal, hRaw]
  by_cases hStart : t.terminal = some .bufferLimitExceeded
  · rw [if_pos hStart] at hLimit
    exact absurd hStart hLimit
  · simp only [hStart, if_false] at hLimit ⊢
    by_cases hEvent : t.rawEvent bytes = true
    · simp only [hEvent, if_true] at hLimit ⊢
      exact feedBytes_withCount parse (t := { t with sawProviderEvent := true }) hn _ bytes hLimit
    · simp only [hEvent] at hLimit ⊢
      exact feedBytes_withCount parse hn _ bytes hLimit

theorem dispatch_frameBytes (t : SseEventTracker) (a : SseActivity) :
    (t.dispatch parse a).1.frameBytes = t.frameBytes := by
  have hSelf := dispatch_withCount parse t t.frameBytes a
  rw [withCount_self] at hSelf
  conv_lhs => rw [hSelf]
  rfl

theorem finishEof_withCount (t : SseEventTracker) (n : Nat) :
    ∃ m, (t.withCount n).finishEof parse =
      ((t.finishEof parse).1.withCount m, (t.finishEof parse).2) := by
  unfold finishEof
  rw [show (t.withCount n).line = t.line from rfl]
  split
  · exact ⟨n, dispatch_withCount parse t n _⟩
  · simp only [processLine_withCount, dispatch_withCount]
    exact ⟨_, rfl⟩

end AiGateway.Stream.SseEventTracker
