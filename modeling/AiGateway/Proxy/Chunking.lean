import AiGateway.Proxy.FeedFrame
import AiGateway.Proxy.Passthrough

/-!
# Observation does not depend on chunking

Where the provider's chunks end decides only when a raw body counts as an event.
Everything else a tracker has read off a stream is a function of its bytes.
-/

namespace AiGateway.Stream.SseEventTracker

set_option autoImplicit false

open AiGateway.Json AiGateway.Text

/-- All that a tracker has observed, apart from the flag that looks at the start
of a chunk. -/
def observed (t : SseEventTracker) : SseEventTracker := { t with sawProviderEvent := false }

@[simp] theorem observed_terminal (t : SseEventTracker) : t.observed.terminal = t.terminal := rfl

@[simp] theorem observed_line (t : SseEventTracker) : t.observed.line = t.line := rfl

@[simp] theorem observed_frameBytes (t : SseEventTracker) :
    t.observed.frameBytes = t.frameBytes := rfl

theorem terminal_of_observed {t u : SseEventTracker} (h : t.observed = u.observed) :
    t.terminal = u.terminal := by
  have hTerminal : t.observed.terminal = u.observed.terminal := by rw [h]
  exact hTerminal

theorem observeChoices_observed (t : SseEventTracker) (cs : List Value) :
    t.observed.observeChoices cs =
      ((t.observeChoices cs).1.observed, (t.observeChoices cs).2) := by
  induction cs generalizing t with
  | nil => rfl
  | cons c cs ih =>
    unfold observeChoices
    split
    · exact ih { t with
        sawChatFinish := true
        unfinishedChatChoices := t.unfinishedChatChoices.erase (choiceIndex c) }
    · rw [show t.observed.unfinishedChatChoices = t.unfinishedChatChoices from rfl]
      split
      · rfl
      · exact ih { t with
          unfinishedChatChoices := insert (choiceIndex c) t.unfinishedChatChoices }

theorem applyClass_observed (t : SseEventTracker) (a b : SseActivity) (c : FrameClass)
    (content : Bool) :
    (t.observed.applyClass b c content).1.observed = (t.applyClass a c content).1.observed := by
  unfold applyClass
  split
  · rfl
  · split
    · split
      · rfl
      · rfl
    · rfl

theorem limitExceeded_observed (t : SseEventTracker) (a b : SseActivity) :
    (t.observed.limitExceeded b).1.observed = (t.limitExceeded a).1.observed := rfl

theorem readLine_observed (t : SseEventTracker) (line : Bytes) :
    t.observed.readLine line = (t.readLine line).observed := by
  unfold readLine
  split
  · rfl
  · simp only
    split
    · rfl
    · split
      · rfl
      · split
        · rfl
        · rfl

section

variable (parse : String → Option Value)

theorem dispatch_observed (t : SseEventTracker) (a b : SseActivity) :
    (t.observed.dispatch parse b).1.observed = (t.dispatch parse a).1.observed := by
  have hTake : ∀ data parsed, t.observed.takeFrame data parsed =
      (t.takeFrame data parsed).observed := fun _ _ => rfl
  unfold dispatch
  rw [show t.observed.frameNonComment = t.frameNonComment from rfl,
    show t.observed.dataLines = t.dataLines from rfl,
    show t.observed.eventName = t.eventName from rfl]
  split
  · rfl
  · simp only [hTake, observeChoices_observed]
    split
    · exact limitExceeded_observed _ _ _
    · exact applyClass_observed _ _ _ _ _

theorem processLine_observed (t : SseEventTracker) (a b : SseActivity) :
    (t.observed.processLine parse b).1.observed = (t.processLine parse a).1.observed := by
  by_cases hLine : t.line = []
  · rw [processLine_blank parse (t := t.observed) hLine, processLine_blank parse hLine]
    exact dispatch_observed parse { t with frameBytes := 0 } a b
  · rw [processLine_of_ne parse (t := t.observed) hLine, processLine_of_ne parse hLine]
    have hRead := readLine_observed { t with line := [] } t.line
    generalize { t with line := [] }.readLine t.line = u at hRead
    have hTaken : { t.observed with line := [] } = { t with line := [] }.observed := rfl
    simp only [observed_line, hTaken, hRead]
    rfl

theorem feedBytes_observed (t : SseEventTracker) (a b : SseActivity) (bytes : Bytes) :
    (t.observed.feedBytes parse b bytes).1.observed = (t.feedBytes parse a bytes).1.observed := by
  induction bytes generalizing t a b with
  | nil => rfl
  | cons x xs ih =>
    unfold feedBytes
    rw [observed_frameBytes]
    split
    · exact limitExceeded_observed t a b
    · simp only
      have hCount : { t.observed with frameBytes := t.frameBytes + 1 } =
          { t with frameBytes := t.frameBytes + 1 }.observed := rfl
      rw [hCount]
      generalize { t with frameBytes := t.frameBytes + 1 } = u
      split
      · have hLine := processLine_observed parse u a b
        rw [terminal_of_observed hLine]
        split
        · exact hLine
        · -- both sides go on from trackers that agree on what was observed
          rw [← ih _ (u.processLine parse a).2 {}, ← ih _ (u.observed.processLine parse b).2 {},
            hLine]
      · split
        · exact ih u a b
        · exact ih (u.pushByte x) a b

theorem finishEof_observed (t : SseEventTracker) :
    (t.observed.finishEof parse).1.observed = (t.finishEof parse).1.observed := by
  unfold finishEof
  rw [observed_line]
  split
  · exact dispatch_observed parse t {} {}
  · rw [← dispatch_observed parse (t.observed.processLine parse {}).1 _ {},
      ← dispatch_observed parse (t.processLine parse {}).1 _ {}, processLine_observed parse t {} {}]

/-- A chunk is read byte by byte, wherever it starts. -/
theorem feed_observed {t : SseEventTracker} (h : t.terminal ≠ some .bufferLimitExceeded)
    (bytes : Bytes) :
    (t.feed parse bytes).1.observed = (t.feedBytes parse {} bytes).1.observed := by
  unfold feed
  rw [if_neg h]
  split
  · rw [← feedBytes_observed parse t {} {}, ← feedBytes_observed parse _ _ {}]
    rfl
  · rfl

/-- The loop over the bytes stops at the limit and nowhere else. -/
theorem feedBytes_append {t : SseEventTracker} (h : t.terminal ≠ some .bufferLimitExceeded)
    (a : SseActivity) (xs ys : Bytes) :
    t.feedBytes parse a (xs ++ ys) =
      if (t.feedBytes parse a xs).1.terminal = some .bufferLimitExceeded then
        t.feedBytes parse a xs
      else (t.feedBytes parse a xs).1.feedBytes parse (t.feedBytes parse a xs).2 ys := by
  induction xs generalizing t a with
  | nil =>
    rw [List.nil_append, feedBytes, if_neg h]
  | cons x xs ih =>
    rw [List.cons_append, feedBytes, feedBytes]
    split
    · exact (if_pos rfl).symm
    · simp only
      split
      · split
        · rfl
        · rename_i hGo
          exact ih hGo _
      · split
        · exact ih (t := { t with frameBytes := t.frameBytes + 1 }) h a
        · exact ih (t := { t with frameBytes := t.frameBytes + 1 }.pushByte x) h a

theorem feed_congr {t u : SseEventTracker} (h : t.observed = u.observed) (bytes : Bytes) :
    (t.feed parse bytes).1.observed = (u.feed parse bytes).1.observed := by
  have hTerminal := terminal_of_observed h
  by_cases hLimit : u.terminal = some .bufferLimitExceeded
  · rw [feed_of_limit parse hLimit, feed_of_limit parse (hTerminal.trans hLimit)]
    exact h
  · rw [feed_observed parse hLimit, feed_observed parse (hTerminal ▸ hLimit),
      ← feedBytes_observed parse t {} {}, ← feedBytes_observed parse u {} {}, h]

/-- A chunk may be cut anywhere. -/
theorem feed_append (t : SseEventTracker) (xs ys : Bytes) :
    (t.feed parse (xs ++ ys)).1.observed =
      ((t.feed parse xs).1.feed parse ys).1.observed := by
  by_cases hLimit : t.terminal = some .bufferLimitExceeded
  · rw [feed_of_limit parse hLimit, feed_of_limit parse hLimit, feed_of_limit parse hLimit]
  · rw [feed_congr parse (feed_observed parse hLimit xs), feed_observed parse hLimit,
      feedBytes_append parse hLimit]
    split
    · rename_i hStop
      rw [feed_of_limit parse hStop]
    · rename_i hGo
      rw [feed_observed parse hGo, ← feedBytes_observed parse _ _ {}]
      exact feedBytes_observed parse _ {} {} ys

theorem feedAll_flatten (t : SseEventTracker) (chunks : List Bytes) :
    (feedAll parse t chunks).observed = (t.feed parse chunks.flatten).1.observed := by
  induction chunks generalizing t with
  | nil =>
    by_cases hLimit : t.terminal = some .bufferLimitExceeded
    · rw [List.flatten_nil, feed_of_limit parse hLimit]
      rfl
    · rw [List.flatten_nil, feed_observed parse hLimit]
      rfl
  | cons c cs ih =>
    rw [List.flatten_cons, feed_append]
    exact ih (t.feed parse c).1

/-- However the bytes of a stream are cut into chunks, at its end the tracker has
observed what it observes of the bytes in one piece. -/
theorem finishEof_of_chunks (t : SseEventTracker) (chunks : List Bytes) :
    ((feedAll parse t chunks).finishEof parse).1.observed =
      ((t.feed parse chunks.flatten).1.finishEof parse).1.observed := by
  rw [← finishEof_observed parse (feedAll parse t chunks), feedAll_flatten, finishEof_observed]

end

end AiGateway.Stream.SseEventTracker
