import AiGateway.Proxy.Stream

/-!
# Lemmas on the event tracker

What each operation of the tracker leaves alone, and what a dispatch leaves
behind.
-/

namespace AiGateway.Stream.SseEventTracker

set_option autoImplicit false

open AiGateway.Json AiGateway.Text

variable (parse : String → Option Value)

theorem observeChoices_eq (t : SseEventTracker) (cs : List Value) :
    (t.observeChoices cs).1 =
      { t with
        sawChatFinish := (t.observeChoices cs).1.sawChatFinish
        unfinishedChatChoices := (t.observeChoices cs).1.unfinishedChatChoices } := by
  induction cs generalizing t with
  | nil => rfl
  | cons c cs ih =>
    unfold observeChoices
    split
    · rw [ih]
    · split
      · rfl
      · rw [ih]

theorem applyClass_eq (t : SseEventTracker) (a : SseActivity) (c : FrameClass) (content : Bool) :
    (t.applyClass a c content).1 =
      { t with
        sawProviderEvent := (t.applyClass a c content).1.sawProviderEvent
        terminal := (t.applyClass a c content).1.terminal } := by
  unfold applyClass
  split
  · rfl
  · split
    · split <;> rfl
    · rfl

/-- The tracker holds no part of a frame. -/
structure Clean (t : SseEventTracker) : Prop where
  line : t.line = []
  dataLines : t.dataLines = []
  eventName : t.eventName = ""
  comment : t.frameNonComment = false

theorem safeForHeartbeat_iff (t : SseEventTracker) : t.safeForHeartbeat = true ↔ t.Clean := by
  simp only [safeForHeartbeat, Bool.and_eq_true, List.isEmpty_iff, Bool.not_eq_true',
    String.isEmpty_iff]
  constructor
  · rintro ⟨⟨⟨hLine, hData⟩, hName⟩, hComment⟩
    exact ⟨hLine, hData, hName, hComment⟩
  · intro h
    exact ⟨⟨⟨h.line, h.dataLines⟩, h.eventName⟩, h.comment⟩

theorem dispatch_of_clean {t : SseEventTracker} (h : t.Clean) (a : SseActivity) :
    t.dispatch parse a = (t, a) := by
  simp [dispatch, h.dataLines, h.eventName, h.comment]

theorem dispatch_clean {t : SseEventTracker} (h : t.line = []) (a : SseActivity) :
    (t.dispatch parse a).1.Clean := by
  unfold dispatch
  split
  · rename_i hEmpty
    simp only [Bool.and_eq_true, Bool.not_eq_true', List.isEmpty_iff, String.isEmpty_iff] at hEmpty
    exact ⟨h, hEmpty.1.2, hEmpty.2, hEmpty.1.1⟩
  · simp only
    split
    · refine ⟨rfl, rfl, rfl, ?_⟩
      simp only [limitExceeded]
      rw [observeChoices_eq]
      rfl
    · rw [applyClass_eq, observeChoices_eq]
      exact ⟨h, rfl, rfl, rfl⟩

theorem processLine_line (t : SseEventTracker) (a : SseActivity) :
    (t.processLine parse a).1.line = [] := by
  unfold processLine
  simp only
  split
  · exact (dispatch_clean parse rfl a).line
  · unfold readLine
    split
    · rfl
    · simp only
      split
      · rfl
      · split
        · rfl
        · split <;> rfl

theorem processLine_blank {t : SseEventTracker} (h : t.line = []) (a : SseActivity) :
    t.processLine parse a = { t with frameBytes := 0 }.dispatch parse a := by
  obtain ⟨line⟩ := t
  cases h
  rfl

theorem processLine_of_ne {t : SseEventTracker} (h : t.line ≠ []) (a : SseActivity) :
    t.processLine parse a = ({ t with line := [] }.readLine t.line, a) := by
  have hEmpty : t.line.isEmpty = false := by simpa using h
  simp [processLine, hEmpty]

theorem readLine_comment {t : SseEventTracker} {line : Bytes}
    (h : (t.readLine line).frameNonComment = false) : t.frameNonComment = false := by
  unfold readLine at h
  split at h
  · exact h
  · simp only at h
    split at h
    · exact h
    · split at h
      · exact h
      · split at h
        · exact h
        · cases h

theorem processLine_comment {t : SseEventTracker} (hLine : t.line ≠ []) (a : SseActivity)
    (h : (t.processLine parse a).1.frameNonComment = false) : t.frameNonComment = false := by
  rw [processLine_of_ne parse hLine] at h
  dsimp only at h
  have hRead := readLine_comment h
  exact hRead

/-- The end of the body leaves no part of a frame behind. -/
theorem finishEof_clean (t : SseEventTracker) : (t.finishEof parse).1.Clean := by
  unfold finishEof
  refine dispatch_clean parse ?_ _
  split
  · simpa using ‹t.line.isEmpty = true›
  · exact processLine_line parse t {}

/-- Whether a termination is known and is a failure. -/
def failing (e : Option StreamTermination) : Bool := e.any StreamTermination.isFailure

theorem failing_mergeTerminal (c d : Option StreamTermination) :
    failing (mergeTerminal c d) = (failing c || failing d) := by
  cases d with
  | none => simp [mergeTerminal, failing]
  | some d =>
    cases c with
    | none => simp [mergeTerminal, failing]
    | some c =>
      by_cases hc : c = .completed
      · by_cases hd : d = .completed <;>
          simp [mergeTerminal, failing, StreamTermination.isFailure, hc, hd]
      · simp [mergeTerminal, failing, StreamTermination.isFailure, hc]

theorem classifyFrame_terminal (eventName data : String) :
    failing (classifyFrame parse eventName data).terminal = false := by
  unfold classifyFrame
  simp only
  split
  · rfl
  · split
    · rfl
    · split
      · rfl
      · split
        · rfl
        · split
          · rfl
          · split
            · rfl
            · split <;> rfl

/-- An activity reports the tracker's own termination, and an error exactly when
that is a failure. -/
structure Agrees (t : SseEventTracker) (a : SseActivity) : Prop where
  terminal : a.terminal = t.terminal
  error : a.error = failing a.terminal

namespace Agrees

variable {t : SseEventTracker} {a : SseActivity}

theorem congr {t' : SseEventTracker} (h : Agrees t a) (hTerminal : t'.terminal = t.terminal) :
    Agrees t' a := ⟨h.terminal.trans hTerminal.symm, h.error⟩

theorem limitExceeded (t : SseEventTracker) (a : SseActivity) :
    Agrees (t.limitExceeded a).1 (t.limitExceeded a).2 := ⟨rfl, rfl⟩

theorem applyClass (h : Agrees t a) {c : FrameClass} (hClass : failing c.terminal = false)
    (content : Bool) : Agrees (t.applyClass a c content).1 (t.applyClass a c content).2 := by
  unfold SseEventTracker.applyClass
  split
  · refine ⟨by simp only [h.terminal], ?_⟩
    simp only [failing_mergeTerminal, h.error]
    rfl
  · split
    · split
      · refine ⟨by simp only [h.terminal], ?_⟩
        simp only [failing_mergeTerminal]
        simp [failing, StreamTermination.isFailure]
      · refine ⟨by simp only [h.terminal], ?_⟩
        simp only [failing_mergeTerminal, h.error, hClass, Bool.or_false]
    · exact h

theorem dispatch (h : Agrees t a) : Agrees (t.dispatch parse a).1 (t.dispatch parse a).2 := by
  unfold SseEventTracker.dispatch
  split
  · exact h
  · simp only
    split
    · exact limitExceeded _ _
    · refine applyClass (h.congr ?_) (classifyFrame_terminal parse _ _) _
      rw [observeChoices_eq]
      rfl

theorem readLine (h : Agrees t a) (line : Bytes) : Agrees (t.readLine line) a := by
  unfold SseEventTracker.readLine
  split
  · exact h
  · simp only
    split
    · exact h.congr rfl
    · split
      · exact h.congr rfl
      · split <;> exact h.congr rfl

theorem processLine (h : Agrees t a) :
    Agrees (t.processLine parse a).1 (t.processLine parse a).2 := by
  unfold SseEventTracker.processLine
  simp only
  have hTaken : Agrees { t with line := [] } a := h.congr rfl
  split
  · exact dispatch parse (hTaken.congr rfl)
  · exact hTaken.readLine t.line

theorem feedBytes (h : Agrees t a) (bytes : Bytes) :
    Agrees (t.feedBytes parse a bytes).1 (t.feedBytes parse a bytes).2 := by
  induction bytes generalizing t a with
  | nil => exact h
  | cons b bs ih =>
    unfold SseEventTracker.feedBytes
    split
    · exact limitExceeded _ _
    · simp only
      have hCount : Agrees { t with frameBytes := t.frameBytes + 1 } a := h.congr rfl
      split
      · split
        · exact processLine parse hCount
        · exact ih (processLine parse hCount)
      · split
        · exact ih hCount
        · exact ih (hCount.congr rfl)

theorem feed (h : t.terminal = none) (bytes : Bytes) :
    Agrees (t.feed parse bytes).1 (t.feed parse bytes).2 := by
  unfold SseEventTracker.feed
  rw [if_neg (by simp [h])]
  split
  · exact feedBytes parse ⟨h.symm, rfl⟩ bytes
  · exact feedBytes parse ⟨h.symm, rfl⟩ bytes

theorem finishEof (h : t.terminal = none) :
    Agrees (t.finishEof parse).1 (t.finishEof parse).2 := by
  unfold SseEventTracker.finishEof
  refine dispatch parse ?_
  split
  · exact ⟨h.symm, rfl⟩
  · exact processLine parse ⟨h.symm, rfl⟩

/-- A feed that reports nothing leaves the stream open. -/
theorem not_reports (h : Agrees t a) (hQuiet : ¬(a.error = true ∨ a.terminal.isSome = true)) :
    t.terminal = none := by
  rw [← h.terminal]
  simpa using fun hSome => hQuiet (.inr (Option.isSome_iff_ne_none.mpr hSome))

end Agrees

theorem terminationOfCode_ne (code : String) : terminationOfCode code ≠ .completed := by
  unfold terminationOfCode
  split_ifs <;> simp

theorem classifyFrame_gateway (eventName data : String) :
    (classifyFrame parse eventName data).gateway ≠ some .completed := by
  have hCode : ∀ data, terminationFromCode parse data ≠ some .completed := by
    intro data h
    exact terminationOfCode_ne _ (Option.some.inj h)
  unfold classifyFrame
  simp only
  split
  · exact hCode data
  · split
    · simp
    · split
      · simp
      · split
        · exact hCode _
        · split
          · exact hCode data
          · split
            · simp
            · split <;> simp

/-- A stream counts as completed only after a provider event. -/
def CompletedSeen (t : SseEventTracker) : Prop :=
  t.terminal = some .completed → t.sawProviderEvent = true

theorem mergeTerminal_completed {c d : Option StreamTermination} (hd : d ≠ some .completed)
    (h : mergeTerminal c d = some .completed) : c = some .completed := by
  cases d with
  | none => exact h
  | some d =>
    have hd' : d ≠ .completed := fun hEq => hd (by rw [hEq])
    cases c with
    | none => exact absurd h hd
    | some c =>
      by_cases hc : c = .completed
      · rw [hc]
      · simp [mergeTerminal, hc, StreamTermination.isFailure] at h

theorem CompletedSeen.applyClass {t : SseEventTracker} (h : t.CompletedSeen) (a : SseActivity)
    {c : FrameClass} (hGateway : c.gateway ≠ some .completed) (content : Bool) :
    (t.applyClass a c content).1.CompletedSeen := by
  unfold SseEventTracker.applyClass
  split
  · exact fun hCompleted => h (mergeTerminal_completed hGateway hCompleted)
  · split
    · split <;> exact fun _ => rfl
    · exact h

theorem CompletedSeen.dispatch {t : SseEventTracker} (h : t.CompletedSeen) (a : SseActivity) :
    (t.dispatch parse a).1.CompletedSeen := by
  unfold SseEventTracker.dispatch
  split
  · exact h
  · simp only
    split
    · intro hCompleted
      cases hCompleted
    · refine CompletedSeen.applyClass ?_ a (classifyFrame_gateway parse _ _) _
      rw [observeChoices_eq]
      exact h

theorem CompletedSeen.readLine {t : SseEventTracker} (h : t.CompletedSeen) (line : Bytes) :
    (t.readLine line).CompletedSeen := by
  unfold SseEventTracker.readLine
  split
  · exact h
  · simp only
    split
    · exact h
    · split
      · exact h
      · split <;> exact h

theorem finishEof_completedSeen {t : SseEventTracker} (h : t.CompletedSeen) :
    (t.finishEof parse).1.CompletedSeen := by
  unfold finishEof
  refine CompletedSeen.dispatch parse ?_ _
  split
  · exact h
  · by_cases hLine : t.line = []
    · rw [processLine_blank parse hLine]
      have hReset : CompletedSeen { t with frameBytes := 0 } := h
      exact hReset.dispatch parse _
    · rw [processLine_of_ne parse hLine]
      have hTaken : CompletedSeen { t with line := [] } := h
      exact hTaken.readLine t.line

end AiGateway.Stream.SseEventTracker
