import AiGateway.Base.Lossy
import AiGateway.Proxy.FeedFrame
import Mathlib.Data.Finset.Insert

/-!
# The tracker is bounded and its failures stay

The frame counter is taken back at a blank line only, where nothing of the frame
is kept; between two blank lines it pays for the line being read and for the
texts already decoded.
-/

namespace AiGateway.Stream.SseEventTracker

set_option autoImplicit false

open AiGateway.Json AiGateway.Text

/-- The octets of the decoded texts of the open frame. -/
def textBytes (t : SseEventTracker) : Nat :=
  (utf8 t.eventName).length + (t.dataLines.map fun line => (utf8 line).length).sum

def heldBytes (t : SseEventTracker) : Nat := t.line.length + t.textBytes

/-- An octet of the frame pays for three octets of text. -/
structure Bounded (t : SseEventTracker) : Prop where
  frame : t.frameBytes ≤ maxSseFrameBytes
  text : 3 * t.line.length + t.textBytes ≤ 3 * t.frameBytes
  choices : t.unfinishedChatChoices.card ≤ maxTrackedChatChoices

theorem Bounded.heldBytes_le {t : SseEventTracker} (h : t.Bounded) :
    t.heldBytes ≤ 3 * maxSseFrameBytes := by
  have hFrame := h.frame
  have hText := h.text
  unfold heldBytes
  omega

theorem textBytes_of_clean {t : SseEventTracker} (h : t.Clean) : t.textBytes = 0 := by
  rw [textBytes, h.eventName, h.dataLines]
  rfl

theorem bounded_of_clean {t : SseEventTracker} (h : t.Clean)
    (hFrame : t.frameBytes ≤ maxSseFrameBytes)
    (hChoices : t.unfinishedChatChoices.card ≤ maxTrackedChatChoices) : t.Bounded := by
  refine ⟨hFrame, ?_, hChoices⟩
  rw [textBytes_of_clean h, h.line]
  exact Nat.zero_le _

theorem bounded_empty : ({} : SseEventTracker).Bounded :=
  bounded_of_clean ⟨rfl, rfl, rfl, rfl⟩ (Nat.zero_le _) (Nat.zero_le _)

theorem observeChoices_card (t : SseEventTracker) (cs : List Value)
    (h : t.unfinishedChatChoices.card ≤ maxTrackedChatChoices) :
    (t.observeChoices cs).1.unfinishedChatChoices.card ≤ maxTrackedChatChoices := by
  induction cs generalizing t with
  | nil => exact h
  | cons choice rest ih =>
    unfold observeChoices
    split
    · apply ih
      exact Nat.le_trans (Finset.card_le_card (Finset.erase_subset _ _)) h
    · split
      · exact h
      · next hRoom =>
        apply ih
        by_cases hHeld : choiceIndex choice ∈ t.unfinishedChatChoices
        · rw [Finset.insert_eq_of_mem hHeld]
          exact h
        · have hFree : t.unfinishedChatChoices.card < maxTrackedChatChoices :=
            Nat.lt_of_not_le fun hFull => hRoom ⟨hFull, hHeld⟩
          exact Nat.le_trans (Finset.card_insert_le _ _) hFree

theorem limitExceeded_bounded {t : SseEventTracker} (h : t.frameBytes ≤ maxSseFrameBytes)
    (a : SseActivity) : (t.limitExceeded a).1.Bounded := by
  refine ⟨h, ?_, Nat.zero_le _⟩
  change 3 * 0 + 0 ≤ _
  exact Nat.zero_le _

section

variable (parse : String → Option Value)

theorem dispatch_card {t : SseEventTracker} (a : SseActivity)
    (h : t.unfinishedChatChoices.card ≤ maxTrackedChatChoices) :
    (t.dispatch parse a).1.unfinishedChatChoices.card ≤ maxTrackedChatChoices := by
  unfold dispatch
  split
  · exact h
  · simp only
    split
    · rw [limitExceeded, Finset.card_empty]
      exact Nat.zero_le _
    · rw [applyClass_eq]
      dsimp only
      exact observeChoices_card (t.takeFrame _ _) _ h

theorem dispatch_bounded {t : SseEventTracker} (hLine : t.line = []) (a : SseActivity)
    (hFrame : t.frameBytes ≤ maxSseFrameBytes)
    (hChoices : t.unfinishedChatChoices.card ≤ maxTrackedChatChoices) :
    (t.dispatch parse a).1.Bounded := by
  refine bounded_of_clean (dispatch_clean parse hLine a) ?_ (dispatch_card parse a hChoices)
  rw [dispatch_frameBytes]
  exact hFrame

theorem readLine_textBytes_le (t : SseEventTracker) (line : Bytes) :
    (t.readLine line).textBytes ≤ t.textBytes + 3 * line.length := by
  have hText := Nat.le_trans (utf8_trim_length_le (fromUtf8Lossy line))
    (utf8_fromUtf8Lossy_length_le line)
  have hValue : ∀ {p value}, stripPrefix (trim (fromUtf8Lossy line)) p = some value →
      (utf8 (trim value)).length ≤ 3 * line.length := fun hStrip =>
    Nat.le_trans (Nat.le_trans (utf8_trim_length_le _) (utf8_stripPrefix_length_le hStrip)) hText
  unfold readLine
  split
  · exact Nat.le_add_right _ _
  · simp only
    split
    · next value hEvent =>
      have hName := hValue hEvent
      simp only [textBytes]
      omega
    · split
      · next value hData =>
        have hLine := hValue hData
        simp only [textBytes, List.map_append, List.map_cons, List.map_nil, List.sum_append,
          List.sum_cons, List.sum_nil]
        omega
      · split <;> exact Nat.le_add_right _ _

theorem readLine_keeps (t : SseEventTracker) (line : Bytes) :
    (t.readLine line).line = t.line ∧ (t.readLine line).frameBytes = t.frameBytes ∧
      (t.readLine line).unfinishedChatChoices = t.unfinishedChatChoices := by
  unfold readLine
  split
  · exact ⟨rfl, rfl, rfl⟩
  · simp only
    split
    · exact ⟨rfl, rfl, rfl⟩
    · split
      · exact ⟨rfl, rfl, rfl⟩
      · split <;> exact ⟨rfl, rfl, rfl⟩

theorem Bounded.processLine {t : SseEventTracker} (h : t.Bounded) (a : SseActivity) :
    (t.processLine parse a).1.Bounded := by
  by_cases hLine : t.line = []
  · rw [processLine_blank parse hLine]
    exact dispatch_bounded parse (t := { t with frameBytes := 0 }) hLine a (Nat.zero_le _) h.choices
  · rw [processLine_of_ne parse hLine]
    obtain ⟨hEmpty, hFrame, hChoices⟩ := readLine_keeps { t with line := [] } t.line
    refine ⟨hFrame.trans_le h.frame, ?_, (congrArg Finset.card hChoices).trans_le h.choices⟩
    have hText := readLine_textBytes_le { t with line := [] } t.line
    have hOld : ({ t with line := [] } : SseEventTracker).textBytes = t.textBytes := rfl
    have hPaid := h.text
    simp only at hEmpty hFrame ⊢
    rw [hEmpty, hFrame, List.length_nil]
    omega

/-- One octet more in the frame, and at most one more in the line. -/
theorem Bounded.feedBytes {t : SseEventTracker} (h : t.Bounded) (a : SseActivity) (bytes : Bytes) :
    (t.feedBytes parse a bytes).1.Bounded := by
  induction bytes generalizing t a with
  | nil => exact h
  | cons b bs ih =>
    unfold SseEventTracker.feedBytes
    split
    · exact limitExceeded_bounded h.frame a
    · next hRoom =>
      have hCounted : ({ t with frameBytes := t.frameBytes + 1 } : SseEventTracker).Bounded :=
        ⟨Nat.lt_of_not_le hRoom, Nat.le_trans h.text (Nat.mul_le_mul_left 3 (Nat.le_succ _)),
          h.choices⟩
      have hPushed :
          (({ t with frameBytes := t.frameBytes + 1 } : SseEventTracker).pushByte b).Bounded := by
        refine ⟨hCounted.frame, ?_, h.choices⟩
        have hText := h.text
        change 3 * (t.line ++ [b]).length + t.textBytes ≤ 3 * (t.frameBytes + 1)
        rw [List.length_append, List.length_singleton]
        omega
      simp only
      split
      · split
        · exact hCounted.processLine parse a
        · exact ih (hCounted.processLine parse a) _
      · split
        · exact ih hCounted a
        · exact ih hPushed a

theorem Bounded.feed {t : SseEventTracker} (h : t.Bounded) (bytes : Bytes) :
    (t.feed parse bytes).1.Bounded := by
  unfold SseEventTracker.feed
  split
  · exact h
  · split
    · have hSeen : ({ t with sawProviderEvent := true } : SseEventTracker).Bounded :=
        ⟨h.frame, h.text, h.choices⟩
      exact hSeen.feedBytes parse _ bytes
    · exact h.feedBytes parse {} bytes

theorem Bounded.finishEof {t : SseEventTracker} (h : t.Bounded) :
    (t.finishEof parse).1.Bounded := by
  unfold SseEventTracker.finishEof
  split
  · next hLine =>
    exact dispatch_bounded parse (List.isEmpty_iff.mp hLine) _ h.frame h.choices
  · have hRead := h.processLine parse {}
    exact dispatch_bounded parse (processLine_line parse t {}) _ hRead.frame hRead.choices

end

/-- What may become of a termination: a failure stays, unless a limit is hit. -/
def TerminalAfter (before after : Option StreamTermination) : Prop :=
  failing before = true → after = before ∨ after = some .bufferLimitExceeded

theorem TerminalAfter.refl (c : Option StreamTermination) : TerminalAfter c c := fun _ => .inl rfl

theorem TerminalAfter.limit (c : Option StreamTermination) :
    TerminalAfter c (some .bufferLimitExceeded) := fun _ => .inr rfl

theorem TerminalAfter.trans {c d e : Option StreamTermination} (h : TerminalAfter c d)
    (h' : TerminalAfter d e) : TerminalAfter c e := by
  intro hFailing
  rcases h hFailing with rfl | rfl
  · exact h' hFailing
  · exact .inr ((h' rfl).elim id id)

theorem TerminalAfter.merge (c d : Option StreamTermination) :
    TerminalAfter c (mergeTerminal c d) := by
  intro hFailing
  cases c with
  | none => cases hFailing
  | some e =>
    have hFailure : e ≠ .completed := by
      rintro rfl
      cases hFailing
    exact .inl (mergeTerminal_failure hFailure d)

section

variable (parse : String → Option Value)

theorem applyClass_terminalAfter (t : SseEventTracker) (a : SseActivity) (c : FrameClass)
    (content : Bool) : TerminalAfter t.terminal (t.applyClass a c content).1.terminal := by
  unfold applyClass
  split
  · exact .merge _ _
  · split
    · split
      · exact .merge t.terminal (some .upstreamError)
      · exact .merge t.terminal c.terminal
    · exact .refl _

theorem dispatch_terminalAfter (t : SseEventTracker) (a : SseActivity) :
    TerminalAfter t.terminal (t.dispatch parse a).1.terminal := by
  unfold dispatch
  split
  · exact .refl _
  · dsimp only
    split
    · exact .limit _
    · refine TerminalAfter.trans ?_ (applyClass_terminalAfter _ _ _ _)
      rw [observeChoices_eq]
      exact .refl _

theorem processLine_terminalAfter (t : SseEventTracker) (a : SseActivity) :
    TerminalAfter t.terminal (t.processLine parse a).1.terminal := by
  by_cases hLine : t.line = []
  · rw [processLine_blank parse hLine]
    exact dispatch_terminalAfter parse { t with frameBytes := 0 } a
  · rw [processLine_of_ne parse hLine, readLine_terminal]
    exact .refl _

theorem feedBytes_terminalAfter (t : SseEventTracker) (a : SseActivity) (bytes : Bytes) :
    TerminalAfter t.terminal (t.feedBytes parse a bytes).1.terminal := by
  induction bytes generalizing t a with
  | nil => exact .refl _
  | cons b bs ih =>
    unfold feedBytes
    split
    · exact .limit _
    · have hLine := processLine_terminalAfter parse { t with frameBytes := t.frameBytes + 1 } a
      dsimp only
      split
      · split
        · exact hLine
        · exact hLine.trans (ih _ _)
      · split
        · exact ih { t with frameBytes := t.frameBytes + 1 } a
        · exact ih ({ t with frameBytes := t.frameBytes + 1 }.pushByte b) a

theorem feed_terminalAfter (t : SseEventTracker) (bytes : Bytes) :
    TerminalAfter t.terminal (t.feed parse bytes).1.terminal := by
  unfold feed
  split
  · exact .refl _
  · split
    · exact feedBytes_terminalAfter parse { t with sawProviderEvent := true } _ bytes
    · exact feedBytes_terminalAfter parse t {} bytes

theorem finishEof_terminalAfter (t : SseEventTracker) :
    TerminalAfter t.terminal (t.finishEof parse).1.terminal := by
  unfold finishEof
  dsimp only
  split
  · exact dispatch_terminalAfter parse t {}
  · exact (processLine_terminalAfter parse t {}).trans (dispatch_terminalAfter parse _ _)

/-- A call on the tracker. -/
inductive Call where
  | feed (bytes : Bytes)
  | finishEof

def call (t : SseEventTracker) : Call → SseEventTracker
  | .feed bytes => (t.feed parse bytes).1
  | .finishEof => (t.finishEof parse).1

def callAll (t : SseEventTracker) (calls : List Call) : SseEventTracker :=
  calls.foldl (call parse) t

theorem Bounded.callAll {t : SseEventTracker} (h : t.Bounded) (calls : List Call) :
    (t.callAll parse calls).Bounded := by
  induction calls generalizing t with
  | nil => exact h
  | cons c rest ih =>
    cases c with
    | feed bytes => exact ih (h.feed parse bytes)
    | finishEof => exact ih (h.finishEof parse)

theorem callAll_terminalAfter (t : SseEventTracker) (calls : List Call) :
    TerminalAfter t.terminal (t.callAll parse calls).terminal := by
  induction calls generalizing t with
  | nil => exact .refl _
  | cons c rest ih =>
    cases c with
    | feed bytes => exact (feed_terminalAfter parse t bytes).trans (ih (t.feed parse bytes).1)
    | finishEof => exact (finishEof_terminalAfter parse t).trans (ih (t.finishEof parse).1)

/-- Whatever is fed, the tracker keeps its limits, and a failure it has recorded
is never taken back. -/
theorem tracker_keeps_limits_and_failures (calls : List Call) :
    let t := callAll parse {} calls
    t.frameBytes ≤ maxSseFrameBytes ∧ t.heldBytes ≤ 3 * maxSseFrameBytes ∧
      t.unfinishedChatChoices.card ≤ maxTrackedChatChoices ∧
      ∀ later : List Call,
        (t.terminal = some .bufferLimitExceeded →
          (t.callAll parse later).terminal = some .bufferLimitExceeded) ∧
        ∀ e, t.terminal = some e → e.isFailure = true →
          (t.callAll parse later).terminal ≠ none ∧
            (t.callAll parse later).terminal ≠ some .completed := by
  intro t
  have hBounded : t.Bounded := bounded_empty.callAll parse calls
  refine ⟨hBounded.frame, hBounded.heldBytes_le, hBounded.choices, ?_⟩
  intro later
  have hAfter := callAll_terminalAfter parse t later
  constructor
  · intro hLimit
    rw [hLimit] at hAfter
    exact (hAfter rfl).elim id id
  · intro e hTerminal hFailure
    have hLater : failing (t.callAll parse later).terminal = true := by
      rw [hTerminal] at hAfter
      rcases hAfter hFailure with hSame | hLimit
      · rw [hSame]
        exact hFailure
      · rw [hLimit]
        rfl
    constructor
    · intro hNone
      rw [hNone] at hLater
      cases hLater
    · intro hCompleted
      rw [hCompleted] at hLater
      cases hLater

end

end AiGateway.Stream.SseEventTracker
