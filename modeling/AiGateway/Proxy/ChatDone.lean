import AiGateway.Proxy.Frames

/-!
# When the gateway adds the `[DONE]` of a chat completion

The tracker keeps one flag and one set for the choices of a stream.  Read against
the history of all the events, the set holds the choices whose last mention was
unfinished.
-/

namespace AiGateway.Stream

set_option autoImplicit false

open AiGateway.Json AiGateway.Text SseEventTracker

/-- A choice an event mentions: its index, and whether it carries a finish reason. -/
abbrev Mention := Nat × Bool

def mentionOf (choice : Value) : Mention := (choiceIndex choice, choiceFinished choice)

def lastMention (history : List Mention) (index : Nat) : Option Bool :=
  (history.filter fun m => m.1 == index).getLast?.map Prod.snd

/-- The open choices after one more mention. -/
def note (s : Finset Nat) (m : Mention) : Finset Nat := if m.2 then s.erase m.1 else insert m.1 s

/-- No more choices are open at once than the tracker holds. -/
def FitsChoices (s : Finset Nat) : List Mention → Prop
  | [] => True
  | m :: ms =>
    (m.2 = false → m.1 ∉ s → s.card < maxTrackedChatChoices) ∧ FitsChoices (note s m) ms

theorem fitsChoices_append (s : Finset Nat) (xs ys : List Mention) :
    FitsChoices s (xs ++ ys) ↔ FitsChoices s xs ∧ FitsChoices (xs.foldl note s) ys := by
  induction xs generalizing s with
  | nil => simp [FitsChoices]
  | cons x xs ih =>
    rw [List.cons_append, FitsChoices, FitsChoices, ih, and_assoc]
    rfl

theorem lastMention_snoc (history : List Mention) (m : Mention) (index : Nat) :
    lastMention (history ++ [m]) index =
      if m.1 = index then some m.2 else lastMention history index := by
  unfold lastMention
  rw [List.filter_append]
  by_cases hIndex : m.1 = index
  · simp [hIndex]
  · simp [hIndex]

/-- The open choices are those whose last mention was unfinished. -/
theorem mem_openChoices (history : List Mention) (index : Nat) :
    index ∈ history.foldl note ∅ ↔ lastMention history index = some false := by
  induction history using List.reverseRecOn with
  | nil => simp [lastMention]
  | append_singleton history m ih =>
    rw [List.foldl_append, List.foldl_cons, List.foldl_nil, lastMention_snoc]
    obtain ⟨i, finished⟩ := m
    cases finished with
    | true =>
      by_cases hIndex : i = index
      · simp [note, hIndex]
      · simp [note, hIndex, ih, Ne.symm hIndex]
    | false =>
      by_cases hIndex : i = index
      · simp [note, hIndex]
      · simp [note, hIndex, ih, Ne.symm hIndex]

theorem lastMention_isSome {history : List Mention} {m : Mention} (h : m ∈ history) :
    lastMention history m.1 = some true ∨ lastMention history m.1 = some false := by
  have hSome : (lastMention history m.1).isSome = true := by
    rw [lastMention, Option.isSome_map, Option.isSome_iff_ne_none, ne_eq, List.getLast?_eq_none_iff,
      List.filter_eq_nil_iff]
    intro hNone
    exact hNone m h (beq_self_eq_true m.1)
  obtain ⟨b, hb⟩ := Option.isSome_iff_exists.mp hSome
  rw [hb]
  cases b
  · exact .inr rfl
  · exact .inl rfl

/-- Every choice was last mentioned as finished exactly when none is open. -/
theorem openChoices_eq_empty (history : List Mention) :
    history.foldl note ∅ = ∅ ↔ ∀ m ∈ history, lastMention history m.1 = some true := by
  rw [Finset.eq_empty_iff_forall_notMem]
  constructor
  · intro h m hm
    apply (lastMention_isSome hm).resolve_right
    rw [← mem_openChoices]
    exact h m.1
  · intro h index hOpen
    rw [mem_openChoices] at hOpen
    obtain ⟨m, hm, hFirst⟩ : ∃ m ∈ history, m.1 = index := by
      by_contra hNone
      have hFilter : history.filter (fun m => m.1 == index) = [] := by
        rw [List.filter_eq_nil_iff]
        intro m hm hEq
        exact hNone ⟨m, hm, by simpa using hEq⟩
      rw [lastMention, hFilter] at hOpen
      cases hOpen
    rw [← hFirst, h m hm] at hOpen
    cases hOpen

namespace SseEventTracker

/-- The loop over the choices notes their mentions, unless the limit is hit. -/
theorem observeChoices_note (t : SseEventTracker) (cs : List Value) :
    ((t.observeChoices cs).2 = false ↔ FitsChoices t.unfinishedChatChoices (cs.map mentionOf)) ∧
      ((t.observeChoices cs).2 = false →
        (t.observeChoices cs).1.unfinishedChatChoices =
            (cs.map mentionOf).foldl note t.unfinishedChatChoices ∧
          (t.observeChoices cs).1.sawChatFinish =
            (t.sawChatFinish || (cs.map mentionOf).any Prod.snd)) := by
  induction cs generalizing t with
  | nil => simp [observeChoices, FitsChoices]
  | cons c cs ih =>
    rw [observeChoices, List.map_cons, FitsChoices]
    by_cases hFinished : choiceFinished c = true
    · rw [if_pos hFinished]
      obtain ⟨hFits, hNoted⟩ := ih { t with
        sawChatFinish := true
        unfinishedChatChoices := t.unfinishedChatChoices.erase (choiceIndex c) }
      have hNote : note t.unfinishedChatChoices (mentionOf c) =
          t.unfinishedChatChoices.erase (choiceIndex c) := by simp [note, mentionOf, hFinished]
      refine ⟨?_, fun hOk => ?_⟩
      · rw [hFits, hNote]
        simp [mentionOf, hFinished]
      · obtain ⟨hSet, hSaw⟩ := hNoted hOk
        rw [hSet, hSaw, List.foldl_cons, hNote]
        simp [mentionOf, hFinished]
    · rw [if_neg hFinished]
      have hOpen : choiceFinished c = false := by simpa using hFinished
      have hNote : note t.unfinishedChatChoices (mentionOf c) =
          insert (choiceIndex c) t.unfinishedChatChoices := by simp [note, mentionOf, hOpen]
      split
      · rename_i hLimit
        simp only [Bool.true_eq_false, false_iff, false_implies, and_true]
        intro hFits
        have hCard := hFits.1 hOpen hLimit.2
        omega
      · rename_i hRoom
        obtain ⟨hFits, hNoted⟩ := ih { t with
          unfinishedChatChoices := insert (choiceIndex c) t.unfinishedChatChoices }
        have hFirst : (mentionOf c).2 = false → (mentionOf c).1 ∉ t.unfinishedChatChoices →
            t.unfinishedChatChoices.card < maxTrackedChatChoices := by
          intro _ hNew
          have hLt : ¬maxTrackedChatChoices ≤ t.unfinishedChatChoices.card := fun hLe =>
            hRoom ⟨hLe, hNew⟩
          omega
        refine ⟨?_, fun hOk => ?_⟩
        · rw [hFits, hNote]
          exact ⟨fun h => ⟨hFirst, h⟩, fun h => h.2⟩
        · obtain ⟨hSet, hSaw⟩ := hNoted hOk
          rw [hSet, hSaw, List.foldl_cons, hNote]
          simp [mentionOf, hOpen]

end SseEventTracker

section

variable (parse : String → Option Value)

/-- An event that neither ends the stream nor fails it. -/
def Unclassified (e : SseEvent) : Prop :=
  classifyFrame parse e.frame.eventName e.frame.data = ⟨none, false, none⟩

instance (e : SseEvent) : Decidable (Unclassified parse e) := inferInstanceAs (Decidable (_ = _))

def mentions (e : SseEvent) : List Mention := (choicesOf (parse e.frame.data)).map mentionOf

def history (es : List SseEvent) : List Mention := es.flatMap (mentions parse)

variable {parse}

theorem classifyFrame_blank (hReader : JsonReader parse) :
    classifyFrame parse "" "" = ⟨none, false, none⟩ := by
  have hTrim : trim "" = "" := by decide
  have hLower : toAsciiLowercase "" = "" := by decide
  have hType : startsWith "" "gateway_" = false := by decide
  unfold classifyFrame
  simp [hTrim, hLower, hType, hReader.empty]

theorem mergeTerminal_open (c : Option StreamTermination) : mergeTerminal none c = c := by
  cases c with
  | none => rfl
  | some c => rfl

theorem applyClass_terminal {t : SseEventTracker} (h : t.terminal = none) (a : SseActivity)
    {c : FrameClass} {content : Bool} (hContent : content = false → c = ⟨none, false, none⟩) :
    (t.applyClass a c content).1.terminal = none ↔ c = ⟨none, false, none⟩ := by
  obtain ⟨terminal, error, gateway⟩ := c
  unfold SseEventTracker.applyClass
  cases gateway with
  | some g => simp [h, mergeTerminal_open]
  | none =>
    cases content with
    | false => simpa [h] using hContent
    | true =>
      cases error with
      | true => simp [h, mergeTerminal_open]
      | false => simp [h, mergeTerminal_open]

theorem applyClass_choices (t : SseEventTracker) (a : SseActivity) (c : FrameClass)
    (content : Bool) :
    (t.applyClass a c content).1.unfinishedChatChoices = t.unfinishedChatChoices ∧
      (t.applyClass a c content).1.sawChatFinish = t.sawChatFinish := by
  rw [applyClass_eq]
  exact ⟨rfl, rfl⟩

/-- One event of an open stream: whether the stream stays open, and the choices
noted if it does. -/
theorem dispatchEvent_open (hReader : JsonReader parse) {r : SseEventTracker × SseActivity}
    (h : r.1.terminal = none) (e : SseEvent) :
    ((dispatchEvent parse r e).1.terminal = none ↔
        Unclassified parse e ∧ FitsChoices r.1.unfinishedChatChoices (mentions parse e)) ∧
      ((dispatchEvent parse r e).1.terminal = none →
        (dispatchEvent parse r e).1.unfinishedChatChoices =
            (mentions parse e).foldl note r.1.unfinishedChatChoices ∧
          (dispatchEvent parse r e).1.sawChatFinish =
            (r.1.sawChatFinish || (mentions parse e).any Prod.snd)) := by
  have hBlank : e.frame.data = "" → e.frame.eventName = "" → Unclassified parse e := by
    intro hData hName
    rw [Unclassified, hData, hName]
    exact classifyFrame_blank hReader
  unfold dispatchEvent SseEventTracker.dispatch
  split
  · rename_i hEmpty
    simp only [opened, Bool.and_eq_true, Bool.not_eq_true', List.isEmpty_iff, String.isEmpty_iff]
      at hEmpty
    have hData : e.frame.data = "" := by simp [Frame.data, hEmpty.1.2]
    have hMentions : mentions parse e = [] := by
      simp [mentions, hData, hReader.empty, choicesOf]
    refine ⟨?_, fun _ => ?_⟩
    · rw [hMentions]
      exact ⟨fun _ => ⟨hBlank hData hEmpty.2, trivial⟩, fun _ => h⟩
    · simp [hMentions, opened]
  · simp only
    rw [show "\n".intercalate (r.1.opened e).dataLines = e.frame.data from rfl,
      show (r.1.opened e).eventName = e.frame.eventName from rfl]
    generalize hTaken : (r.1.opened e).takeFrame e.frame.data (parse e.frame.data) = u
    have hSet : u.unfinishedChatChoices = r.1.unfinishedChatChoices := by rw [← hTaken]; rfl
    have hSaw : u.sawChatFinish = r.1.sawChatFinish := by rw [← hTaken]; rfl
    have hOpen : (u.observeChoices (choicesOf (parse e.frame.data))).1.terminal = none := by
      rw [observeChoices_eq, ← hTaken]
      exact h
    obtain ⟨hFits, hNoted⟩ := observeChoices_note u (choicesOf (parse e.frame.data))
    cases hOver : (u.observeChoices (choicesOf (parse e.frame.data))).2 with
    | true =>
      simp only [if_true]
      have hLimit : ¬FitsChoices r.1.unfinishedChatChoices (mentions parse e) := by
        rw [← hSet]
        intro hOk
        rw [hFits.mpr hOk] at hOver
        cases hOver
      refine ⟨?_, fun hNone => ?_⟩
      · simp [limitExceeded, hLimit]
      · simp [limitExceeded] at hNone
    | false =>
      simp only [Bool.false_eq_true, if_false]
      obtain ⟨hNotedSet, hNotedSaw⟩ := hNoted hOver
      have hContent : ((r.1.opened e).frameNonComment || !e.frame.data.isEmpty ||
          !e.frame.eventName.isEmpty) = false → Unclassified parse e := by
        intro hContent
        simp only [Bool.or_eq_false_iff, Bool.not_eq_false', String.isEmpty_iff] at hContent
        exact hBlank hContent.1.2 hContent.2
      refine ⟨?_, fun _ => ?_⟩
      · rw [applyClass_terminal hOpen _ hContent, ← hSet]
        exact ⟨fun hClass => ⟨hClass, hFits.mp hOver⟩, fun hBoth => hBoth.1⟩
      · obtain ⟨hKeptSet, hKeptSaw⟩ := applyClass_choices
          (u.observeChoices (choicesOf (parse e.frame.data))).1 r.2
          (classifyFrame parse e.frame.eventName e.frame.data)
          ((r.1.opened e).frameNonComment || !e.frame.data.isEmpty || !e.frame.eventName.isEmpty)
        rw [hKeptSet, hKeptSaw, hNotedSet, hNotedSaw, hSet, hSaw]
        exact ⟨rfl, rfl⟩

/-- The events of an open stream: the stream stays open exactly when none of them
is classified and the choices fit, and then every mention was noted. -/
theorem foldl_dispatchEvent_open (hReader : JsonReader parse) {r : SseEventTracker × SseActivity}
    (h : r.1.terminal = none) (es : List SseEvent) :
    ((es.foldl (dispatchEvent parse) r).1.terminal = none ↔
        (∀ e ∈ es, Unclassified parse e) ∧
          FitsChoices r.1.unfinishedChatChoices (history parse es)) ∧
      ((es.foldl (dispatchEvent parse) r).1.terminal = none →
        (es.foldl (dispatchEvent parse) r).1.unfinishedChatChoices =
            (history parse es).foldl note r.1.unfinishedChatChoices ∧
          (es.foldl (dispatchEvent parse) r).1.sawChatFinish =
            (r.1.sawChatFinish || (history parse es).any Prod.snd)) := by
  induction es generalizing r with
  | nil => simp [history, FitsChoices, h]
  | cons e es ih =>
    obtain ⟨hFirst, hNoted⟩ := dispatchEvent_open hReader h e
    have hHistory : history parse (e :: es) = mentions parse e ++ history parse es := rfl
    rw [List.foldl_cons, hHistory, fitsChoices_append]
    cases hOpen : (dispatchEvent parse r e).1.terminal with
    | some terminal =>
      have hSome : (es.foldl (dispatchEvent parse) (dispatchEvent parse r e)).1.terminal.isSome =
          true := foldl_dispatchEvent_isSome (by rw [hOpen]; rfl) es
      refine ⟨⟨fun hNone => ?_, fun hAll => ?_⟩, fun hNone => ?_⟩
      · rw [hNone] at hSome
        cases hSome
      · rw [hFirst.mpr ⟨hAll.1 e List.mem_cons_self, hAll.2.1⟩] at hOpen
        cases hOpen
      · rw [hNone] at hSome
        cases hSome
    | none =>
      obtain ⟨hClass, hFits⟩ := hFirst.mp hOpen
      obtain ⟨hSet, hSaw⟩ := hNoted hOpen
      obtain ⟨hRest, hRestNoted⟩ := ih hOpen
      rw [hSet] at hRest hRestNoted
      refine ⟨?_, fun hNone => ?_⟩
      · rw [hRest, List.forall_mem_cons]
        exact ⟨fun hBoth => ⟨⟨hClass, hBoth.1⟩, hFits, hBoth.2⟩,
          fun hAll => ⟨hAll.1.2, hAll.2.2⟩⟩
      · obtain ⟨hRestSet, hRestSaw⟩ := hRestNoted hNone
        rw [hRestSet, hRestSaw, hSaw, List.foldl_append, List.any_append, Bool.or_assoc]
        exact ⟨rfl, rfl⟩

variable (parse) in
theorem processLine_isSome {t : SseEventTracker} (h : t.terminal.isSome = true) (a : SseActivity) :
    (t.processLine parse a).1.terminal.isSome = true := by
  by_cases hLine : t.line = []
  · rw [processLine_blank parse hLine]
    exact dispatch_isSome (t := { t with frameBytes := 0 }) h a
  · rw [processLine_of_ne parse hLine]
    simp only [readLine_terminal]
    exact h

theorem feedBytes_isSome {t : SseEventTracker} (h : t.terminal.isSome = true) (a : SseActivity)
    (bytes : Bytes) : (t.feedBytes parse a bytes).1.terminal.isSome = true := by
  induction bytes generalizing t a with
  | nil => exact h
  | cons b bs ih =>
    unfold feedBytes
    split
    · rfl
    · simp only
      split
      · have hLine := processLine_isSome parse (t := { t with frameBytes := t.frameBytes + 1 }) h a
        split
        · exact hLine
        · exact ih hLine _
      · split
        · exact ih (t := { t with frameBytes := t.frameBytes + 1 }) h a
        · exact ih (t := { t with frameBytes := t.frameBytes + 1 }.pushByte b) h a

theorem feed_isSome {t : SseEventTracker} (h : t.terminal.isSome = true) (bytes : Bytes) :
    (t.feed parse bytes).1.terminal.isSome = true := by
  by_cases hLimit : t.terminal = some .bufferLimitExceeded
  · rw [feed_of_limit parse hLimit]
    exact h
  · rw [terminal_of_observed (feed_observed parse hLimit bytes)]
    exact feedBytes_isSome h {} bytes

theorem feedAll_isSome {t : SseEventTracker} (h : t.terminal.isSome = true) (chunks : List Bytes) :
    (feedAll parse t chunks).terminal.isSome = true := by
  induction chunks generalizing t with
  | nil => exact h
  | cons c cs ih => exact ih (feed_isSome h c)

theorem finishEof_isSome {t : SseEventTracker} (h : t.terminal.isSome = true) :
    (t.finishEof parse).1.terminal.isSome = true := by
  unfold finishEof
  apply dispatch_isSome
  split
  · exact h
  · exact processLine_isSome parse h {}

variable (parse) in
/-- A chat completion that reached its end: no event ended or failed the stream, a
finish reason was seen, the last mention of every choice carried one, and nothing
went over the limits. -/
structure ChatComplete (bytes : Bytes) : Prop where
  size : FitsSize (true, 0) bytes
  unclassified : ∀ e ∈ streamEvents bytes, Unclassified parse e
  choices : FitsChoices ∅ (history parse (streamEvents bytes))
  finish : ∃ m ∈ history parse (streamEvents bytes), m.2 = true
  closed : ∀ m ∈ history parse (streamEvents bytes),
    lastMention (history parse (streamEvents bytes)) m.1 = some true

/-- What the tracker holds at the end of a body, against the body's history. -/
theorem chatComplete_iff (hReader : JsonReader parse) (bytes : Bytes) :
    ((({} : SseEventTracker).feed parse bytes).1.finishEof parse).1.terminal = none ∧
        ((({} : SseEventTracker).feed parse bytes).1.finishEof parse).1.sawChatFinish = true ∧
        ((({} : SseEventTracker).feed parse bytes).1.finishEof parse).1.unfinishedChatChoices = ∅ ↔
      ChatComplete parse bytes := by
  have hFresh : ({} : SseEventTracker).Clean := ⟨rfl, rfl, rfl, rfl⟩
  have hStart : (({} : SseEventTracker).opened {}).typing [] = {} := rfl
  obtain ⟨hOpen, hNoted⟩ := foldl_dispatchEvent_open hReader (r := (({} : SseEventTracker), {})) rfl
    (streamEvents bytes)
  have hEnd : ((({} : SseEventTracker).feed parse bytes).1.finishEof parse).1.observed =
      (closeOpen parse (({} : SseEventTracker).feedBytes parse {} bytes)).1.observed := by
    rw [closeOpen_tracker, ← finishEof_observed parse (SseEventTracker.feed parse {} bytes).1,
      feed_observed parse (by simp), finishEof_observed]
  generalize ((({} : SseEventTracker).feed parse bytes).1.finishEof parse).1 = final at hEnd ⊢
  by_cases hLimit : (({} : SseEventTracker).feedBytes parse {} bytes).1.terminal =
      some .bufferLimitExceeded
  · -- over a limit the tracker holds a failure, and some condition is broken
    have hClosed : final.terminal.isSome = true := by
      rw [terminal_of_observed hEnd, closeOpen_tracker]
      apply finishEof_isSome
      rw [hLimit]
      rfl
    constructor
    · intro hFinal
      rw [hFinal.1] at hClosed
      cases hClosed
    · intro hComplete
      have hSome : ((streamEvents bytes).foldl (dispatchEvent parse)
          (({} : SseEventTracker), {})).1.terminal.isSome = true :=
        feedBytes_limit parse bytes _ hFresh {} [] {} (hStart ▸ hLimit) hComplete.size
      rw [hOpen.mpr ⟨hComplete.unclassified, hComplete.choices⟩] at hSome
      cases hSome
  · obtain ⟨n, hn⟩ := dispatches_feedBytes parse hFresh {} [] bytes {} (hStart ▸ hLimit)
    rw [hStart] at hn
    rw [hn] at hEnd
    have hTerminal : final.terminal =
        ((streamEvents bytes).foldl (dispatchEvent parse) ({}, {})).1.terminal := by
      rw [terminal_of_observed hEnd]
      rfl
    have hSaw : final.observed.sawChatFinish =
        ((streamEvents bytes).foldl (dispatchEvent parse) ({}, {})).1.sawChatFinish := by
      rw [hEnd]
      rfl
    have hSet : final.observed.unfinishedChatChoices =
        ((streamEvents bytes).foldl (dispatchEvent parse) ({}, {})).1.unfinishedChatChoices := by
      rw [hEnd]
      rfl
    have hFields : final.sawChatFinish = final.observed.sawChatFinish ∧
        final.unfinishedChatChoices = final.observed.unfinishedChatChoices := ⟨rfl, rfl⟩
    rw [hFields.1, hFields.2, hTerminal, hSaw, hSet]
    constructor
    · rintro ⟨hNone, hFinish, hEmpty⟩
      obtain ⟨hClass, hFits⟩ := hOpen.mp hNone
      obtain ⟨hNotedSet, hNotedSaw⟩ := hNoted hNone
      refine ⟨feedBytes_fitsSize parse (t := {}) {} bytes hLimit, hClass, hFits, ?_, ?_⟩
      · rw [hNotedSaw] at hFinish
        simpa using hFinish
      · rw [← openChoices_eq_empty]
        exact hNotedSet.symm.trans hEmpty
    · intro hComplete
      have hNone := hOpen.mpr ⟨hComplete.unclassified, hComplete.choices⟩
      obtain ⟨hNotedSet, hNotedSaw⟩ := hNoted hNone
      refine ⟨hNone, ?_, ?_⟩
      · rw [hNotedSaw]
        simpa using hComplete.finish
      · rw [hNotedSet]
        exact (openChoices_eq_empty _).mpr hComplete.closed

end

end AiGateway.Stream
