import AiGateway.Proxy.DoneAppended

/-!
# Streams of metadata

Comments, `id:` and `retry:` fields and blank lines are no events of a provider.
The tracker agrees on comments and blank lines; the first octet of a field makes
it count the event that holds the field.
-/

namespace AiGateway.Stream

set_option autoImplicit false

open AiGateway.Json AiGateway.Text SseEventTracker

/-- A blank line or a comment. -/
def SilentLine (line : Bytes) : Prop := line = [] ∨ line.head? = some colon

/-- A line that carries no event: blank, a comment, or an `id:` or `retry:` field. -/
def MetadataLine (line : Bytes) : Prop :=
  SilentLine line ∨ utf8 "id:" <+: line ∨ utf8 "retry:" <+: line

instance (line : Bytes) : Decidable (SilentLine line) := inferInstanceAs (Decidable (_ ∨ _))

instance (line : Bytes) : Decidable (MetadataLine line) :=
  inferInstanceAs (Decidable (_ ∨ _ <+: _ ∨ _ <+: _))

/-- The lines of the bytes that go on from an open line, the last one open. -/
def linesFrom (line bytes : Bytes) : List Bytes :=
  (splitLines line bytes).1 ++ [(splitLines line bytes).2]

def MetadataOnly (bytes : Bytes) : Prop := ∀ line ∈ linesFrom [] bytes, MetadataLine line

instance (bytes : Bytes) : Decidable (MetadataOnly bytes) :=
  inferInstanceAs (Decidable (∀ line ∈ linesFrom [] bytes, MetadataLine line))

/-- Comments and blank lines only, and no run of comments over the size limit. -/
structure Silent (bytes : Bytes) : Prop where
  lines : ∀ line ∈ linesFrom [] bytes, SilentLine line
  size : FitsSize (true, 0) bytes

theorem linesFrom_lf (line bs : Bytes) : linesFrom line (lf :: bs) = line :: linesFrom [] bs := by
  simp [linesFrom, splitLines]

theorem linesFrom_cr (line bs : Bytes) : linesFrom line (cr :: bs) = linesFrom line bs := by
  simp [linesFrom, splitLines, show cr ≠ lf by decide]

theorem linesFrom_of_ne {b : UInt8} (hLf : b ≠ lf) (hCr : b ≠ cr) (line bs : Bytes) :
    linesFrom line (b :: bs) = linesFrom (line ++ [b]) bs := by
  simp [linesFrom, splitLines, hLf, hCr]

/-- The open line is the start of one of the lines. -/
theorem linesFrom_open (line bytes : Bytes) : ∃ more, line ++ more ∈ linesFrom line bytes := by
  induction bytes generalizing line with
  | nil => exact ⟨[], by simp [linesFrom, splitLines]⟩
  | cons b bs ih =>
    by_cases hLf : b = lf
    · rw [hLf, linesFrom_lf]
      exact ⟨[], by simp⟩
    · by_cases hCr : b = cr
      · rw [hCr, linesFrom_cr]
        exact ih line
      · rw [linesFrom_of_ne hLf hCr]
        obtain ⟨more, hMore⟩ := ih (line ++ [b])
        exact ⟨b :: more, by simpa using hMore⟩

/-- The first octet of a line among silent ones. -/
theorem colon_of_silent {b : UInt8} {bs : Bytes} (hLf : b ≠ lf) (hCr : b ≠ cr)
    (h : ∀ line ∈ linesFrom [] (b :: bs), SilentLine line) : b = colon := by
  rw [linesFrom_of_ne hLf hCr] at h
  obtain ⟨more, hMore⟩ := linesFrom_open [b] bs
  rcases h _ hMore with hBlank | hComment
  · simp at hBlank
  · simpa using hComment

theorem looksLikeSseControl_of_silent {c rest : Bytes}
    (h : ∀ line ∈ linesFrom [] (c ++ rest), SilentLine line) : looksLikeSseControl c = true := by
  induction c with
  | nil => decide
  | cons b bs ih =>
    have hBreak : ∀ {x : UInt8}, x = lf ∨ x = cr → looksLikeSseControl bs = true →
        looksLikeSseControl (x :: bs) = true := by
      intro x hx hBs
      have hStart : trimStart (fromUtf8Lossy (x :: bs)) = trimStart (fromUtf8Lossy bs) := by
        rcases hx with rfl | rfl
        · simp [fromUtf8Lossy, decodeLossyFrom, lf, firstOctet, trimStart, trimStartChars,
            show isWhitespace (Char.ofNat 10) = true by decide]
        · simp [fromUtf8Lossy, decodeLossyFrom, cr, firstOctet, trimStart, trimStartChars,
            show isWhitespace (Char.ofNat 13) = true by decide]
      unfold looksLikeSseControl at hBs ⊢
      rw [hStart]
      exact hBs
    rw [List.cons_append] at h
    by_cases hLf : b = lf
    · rw [hLf, linesFrom_lf] at h
      exact hBreak (.inl hLf) (ih fun line hLine => h line (List.mem_cons_of_mem _ hLine))
    · by_cases hCr : b = cr
      · rw [hCr, linesFrom_cr] at h
        exact hBreak (.inr hCr) (ih h)
      · rw [colon_of_silent hLf hCr h]
        simp [looksLikeSseControl, fromUtf8Lossy, decodeLossyFrom, colon, firstOctet, trimStart,
          trimStartChars, show isWhitespace (Char.ofNat 58) = false by decide, startsWith]

/-- A tracker that has seen nothing but comments and blank lines. -/
structure Hushed (t : SseEventTracker) : Prop where
  dataLines : t.dataLines = []
  eventName : t.eventName = ""
  comment : t.frameNonComment = false
  event : t.sawProviderEvent = false
  terminal : t.terminal = none
  line : SilentLine t.line

theorem Hushed.clean {t : SseEventTracker} (h : Hushed t) (hLine : t.line = []) : t.Clean :=
  ⟨hLine, h.dataLines, h.eventName, h.comment⟩

/-- What is left of a silent body: its remaining lines and their size. -/
structure SilentRest (t : SseEventTracker) (bytes : Bytes) : Prop where
  lines : ∀ line ∈ linesFrom t.line bytes, SilentLine line
  size : FitsSize (t.line.isEmpty, t.frameBytes) bytes

section

variable (parse : String → Option Value)

theorem feedBytes_hushed {t : SseEventTracker} (h : Hushed t) (a : SseActivity) (c rest : Bytes)
    (hRest : SilentRest t (c ++ rest)) :
    Hushed (t.feedBytes parse a c).1 ∧ (t.feedBytes parse a c).2 = a ∧
      SilentRest (t.feedBytes parse a c).1 rest := by
  induction c generalizing t with
  | nil => exact ⟨h, rfl, hRest⟩
  | cons b bs ih =>
    obtain ⟨hLines, hFirst, hSize⟩ := hRest
    have hFull : ¬maxSseFrameBytes ≤ t.frameBytes := Nat.not_le_of_lt hFirst
    rw [feedBytes, if_neg hFull]
    simp only
    rw [List.cons_append] at hLines
    by_cases hLf : b = lf
    · rw [if_pos hLf]
      rw [hLf, linesFrom_lf] at hLines
      rw [openStep, if_pos hLf] at hSize
      -- a blank line closes nothing, a comment adds nothing
      have hLine : ({ t with frameBytes := t.frameBytes + 1 }.processLine parse a) =
          ({ t with
            line := []
            frameBytes := if t.line.isEmpty then 0 else t.frameBytes + 1 }, a) := by
        rcases h.line with hBlank | hComment
        · rw [processLine_blank parse (by exact hBlank), dispatch_of_clean]
          · simp [hBlank]
          · exact ⟨hBlank, h.dataLines, h.eventName, h.comment⟩
        · have hOpen : t.line ≠ [] := by
            intro hEmpty
            rw [hEmpty] at hComment
            cases hComment
          have hEmpty : t.line.isEmpty = false := by simpa using hOpen
          rw [processLine_of_ne parse (by exact hOpen)]
          simp [readLine, hComment, hEmpty]
      have hGoes : t.terminal ≠ some .bufferLimitExceeded := by simp [h.terminal]
      rw [hLine]
      simp only [hGoes, if_false]
      apply ih
      · exact ⟨h.dataLines, h.eventName, h.comment, h.event, h.terminal, .inl rfl⟩
      · exact ⟨fun line hMem => hLines line (List.mem_cons_of_mem _ hMem), hSize⟩
    · rw [if_neg hLf]
      rw [openStep, if_neg hLf] at hSize
      by_cases hCr : b = cr
      · rw [if_pos hCr]
        rw [hCr, linesFrom_cr] at hLines
        apply ih
        · exact ⟨h.dataLines, h.eventName, h.comment, h.event, h.terminal, h.line⟩
        · refine ⟨hLines, ?_⟩
          simpa [hCr] using hSize
      · rw [if_neg hCr]
        have hColon : t.line = [] → b = colon := by
          intro hBlank
          rw [hBlank] at hLines
          exact colon_of_silent hLf hCr hLines
        have hHead : (t.line ++ [b]).head? = some colon := by
          rcases h.line with hBlank | hComment
          · simp [hBlank, hColon hBlank]
          · rw [List.head?_append, hComment]
            rfl
        have hComment : ({ t with frameBytes := t.frameBytes + 1 }.pushByte b).frameNonComment =
            false := by
          cases hLine : t.line with
          | nil => simp [pushByte, h.comment, hColon hLine]
          | cons x xs => simp [pushByte, h.comment]
        apply ih
        · exact ⟨h.dataLines, h.eventName, hComment, h.event, h.terminal, .inr hHead⟩
        · rw [linesFrom_of_ne hLf hCr] at hLines
          refine ⟨hLines, ?_⟩
          have hPushed : ({ t with frameBytes := t.frameBytes + 1 }.pushByte b).line.isEmpty =
              false := by simp [pushByte]
          have hOpen : (t.line.isEmpty && b == cr) = false := by simp [hCr]
          rw [hPushed, ← hOpen]
          exact hSize

theorem feed_hushed {t : SseEventTracker} (h : Hushed t) (c rest : Bytes)
    (hRest : SilentRest t (c ++ rest)) :
    Hushed (t.feed parse c).1 ∧ (t.feed parse c).2 = {} ∧
      SilentRest (t.feed parse c).1 rest := by
  have hRaw : t.rawEvent c = false := by
    unfold rawEvent
    cases hLine : t.line with
    | cons x xs => simp
    | nil =>
      have hLines := hRest.lines
      rw [hLine] at hLines
      simp [looksLikeSseControl_of_silent hLines]
  unfold feed
  rw [if_neg (by simp [h.terminal]), hRaw]
  exact feedBytes_hushed parse h {} c rest hRest

theorem finishEof_hushed {t : SseEventTracker} (h : Hushed t) :
    (t.finishEof parse).2 = {} ∧ (t.finishEof parse).1.sawProviderEvent = false ∧
      (t.finishEof parse).1.terminal = none := by
  unfold finishEof
  rcases h.line with hBlank | hComment
  · simp only [hBlank, List.isEmpty_nil, if_true]
    rw [dispatch_of_clean parse (h.clean hBlank)]
    exact ⟨rfl, h.event, h.terminal⟩
  · have hOpen : t.line ≠ [] := by
      intro hEmpty
      rw [hEmpty] at hComment
      cases hComment
    have hEmpty : t.line.isEmpty = false := by simpa using hOpen
    have hLine : t.processLine parse {} = ({ t with line := [] }, {}) := by
      rw [processLine_of_ne parse hOpen]
      simp [readLine, hComment]
    have hClean : SseEventTracker.Clean { t with line := [] } :=
      ⟨rfl, h.dataLines, h.eventName, h.comment⟩
    simp only [hEmpty, Bool.false_eq_true, if_false, hLine]
    rw [dispatch_of_clean parse hClean]
    exact ⟨rfl, h.event, h.terminal⟩

/-- Every prefix of the chunks of a silent body. -/
theorem feedAll_hushed {t : SseEventTracker} (h : Hushed t) (chunks : List Bytes) (rest : Bytes)
    (hRest : SilentRest t (chunks.flatten ++ rest)) :
    Hushed (feedAll parse t chunks) ∧ SilentRest (feedAll parse t chunks) rest := by
  induction chunks generalizing t with
  | nil => exact ⟨h, hRest⟩
  | cons c cs ih =>
    rw [List.flatten_cons, List.append_assoc] at hRest
    obtain ⟨hNext, -, hNextRest⟩ := feed_hushed parse h c _ hRest
    exact ih hNext hNextRest

end

/-- The wrapper hears nothing in the chunks: no feed and no end reports a provider
event, and every session over them keeps the first event's deadline and ends, if
no timer fires before, with the failure of an empty stream. -/
structure Unheard (parse : String → Option Value) (chunks : List Bytes) : Prop where
  feeds : ∀ before c after, chunks = before ++ c :: after →
    ((feedAll parse {} before).feed parse c).2.providerEvent = false
  eof : ((feedAll parse {} chunks).finishEof parse).2.providerEvent = false ∧
    (endOf parse chunks).sawProviderEvent = false
  native : ∀ (protocol : Protocol) (config : StreamConfig)
    (requestStarted connectedAt instantMax : Instant) (ticks : List Tick) (n : Nat),
    let s := (Session.wrapNativeBody (chunks.map .chunk) protocol config requestStarted
      connectedAt instantMax ticks).run parse n
    (s.state.firstDeadline = if s.state.config.firstEventTimeout = 0 then none
      else s.state.checkedAdd s.state.connectedAt s.state.config.firstEventTimeout) ∧
    (s.state.finishAfterPending = true →
      ∃ c ∈ s.emitted, c.origin = .errorFrame .emptyStream ∨ c.origin.timedOut = true)

/-- What a session over a silent body has come to. -/
structure UnheardView (parse : String → Option Value) (upstream : List UpstreamItem) (v : View) :
    Prop where
  passed : ∃ taken, PassedThrough parse upstream taken v
  event : v.tracker.sawProviderEvent = false
  ended : v.finished = true →
    ∃ c ∈ v.emitted, c.origin = .errorFrame .emptyStream ∨ c.origin.timedOut = true

section

variable {parse : String → Option Value}

theorem hushed_fresh : Hushed {} := ⟨rfl, rfl, rfl, rfl, rfl, .inl rfl⟩

variable (parse) in
/-- A silent body is heard at none of its chunks. -/
theorem silent_prefix {chunks : List Bytes} (h : Silent chunks.flatten) (before after : List Bytes)
    (hSplit : chunks = before ++ after) :
    Hushed (feedAll parse {} before) ∧ SilentRest (feedAll parse {} before) after.flatten := by
  apply feedAll_hushed parse hushed_fresh
  rw [← List.flatten_append, ← hSplit]
  exact ⟨h.lines, h.size⟩

theorem eofFailure_of_unheard (protocol : Protocol) {t : SseEventTracker}
    (hTerminal : t.terminal = none) (hEvent : t.sawProviderEvent = false) :
    eofFailure protocol t = some .emptyStream ∧ eofDone protocol t = false := by
  simp [eofFailure, eofDone, hTerminal, hEvent]

theorem pass_unheard {s : Session} {chunks : List Bytes} (hSilent : Silent chunks.flatten)
    (h : UnheardView parse (chunks.map .chunk) s.view) :
    UnheardView parse (chunks.map .chunk) (s.pass parse).view := by
  have hPassed := pass_passedThrough parse h.passed
  cases Session.pass_view parse s with
  | still _ hView => exact hView ▸ h
  | effect cause _ written hRunning hEmitted hEffect =>
    obtain ⟨taken, hTaken⟩ := h.passed
    have hSplit := hTaken.split
    have hBody : nonEmptyChunks (chunks.map .chunk) =
        nonEmptyChunks taken ++ nonEmptyChunks s.view.upstream := by
      rw [hSplit, nonEmptyChunks_append]
    rw [← nonEmptyChunks_flatten] at hSilent
    obtain ⟨hHushed, hRest⟩ := silent_prefix parse hSilent _ _ hBody
    rw [← hTaken.tracker hRunning] at hHushed hRest
    have hFeed : ∀ bytes rest, s.view.upstream = .chunk bytes :: rest → bytes ≠ [] →
        (s.view.tracker.feed parse bytes).1.sawProviderEvent = false ∧
          ¬(s.view.tracker.feed parse bytes).2.reports := by
      intro bytes rest hUpstream hBytes
      have hNext : nonEmptyChunks s.view.upstream = bytes :: nonEmptyChunks rest := by
        rw [hUpstream, ← List.singleton_append, nonEmptyChunks_append, nonEmptyChunks_chunk hBytes]
        rfl
      rw [hNext, List.flatten_cons] at hRest
      obtain ⟨hAfter, hQuiet, -⟩ := feed_hushed parse hHushed bytes _ hRest
      rw [hQuiet]
      exact ⟨hAfter.event, by simp [SseActivity.reports]⟩
    obtain ⟨-, hEndEvent, hEndTerminal⟩ := finishEof_hushed parse hHushed
    obtain ⟨hEmptyStream, hNoDone⟩ := eofFailure_of_unheard s.state.protocol hEndTerminal hEndEvent
    refine ⟨hPassed, ?_, ?_⟩
    all_goals
      clear hPassed
      generalize (s.pass parse).view = v' at hEmitted hEffect ⊢
      obtain ⟨emitted', t', u', finished'⟩ := v'
      simp only at hEmitted hEffect ⊢
    · cases hEffect with
      | wait | skip | withheld | heartbeat | transport | timeout => exact h.event
      | quiet bytes rest hUpstream hBytes => exact (hFeed bytes _ hUpstream hBytes).1
      | reported bytes rest hUpstream hBytes => exact (hFeed bytes _ hUpstream hBytes).1
      | limit bytes rest hUpstream hBytes => exact (hFeed bytes _ hUpstream hBytes).1
      | eofClosed => exact hEndEvent
      | eofFailed => exact hEndEvent
      | eofDone _ hDone =>
        rw [hNoDone] at hDone
        cases hDone
    · intro hFinished
      rw [hEmitted]
      cases hEffect with
      | wait | skip | withheld | heartbeat | quiet => cases hFinished
      | reported bytes rest hUpstream hBytes hReports =>
        exact absurd hReports (hFeed bytes _ hUpstream hBytes).2
      | limit bytes rest hUpstream hBytes hTerminal =>
        exact absurd (.inr (by rw [hTerminal]; rfl)) (hFeed bytes _ hUpstream hBytes).2
      | transport rest hUpstream =>
        have hError : UpstreamItem.error ∈ chunks.map UpstreamItem.chunk := by
          rw [hSplit, hUpstream]
          simp
        simp at hError
      | timeout e hTimeout =>
        exact ⟨_, List.mem_append_right _ (errorFrame_mem_failureChunks _ _), .inr hTimeout⟩
      | eofClosed _ hFailure =>
        rw [hEmptyStream] at hFailure
        cases hFailure
      | eofFailed e _ hFailure =>
        rw [hEmptyStream, Option.some.injEq] at hFailure
        refine ⟨_, List.mem_append_right _ (errorFrame_mem_failureChunks _ _), .inl ?_⟩
        rw [← hFailure]
        rfl
      | eofDone _ hDone =>
        rw [hNoDone] at hDone
        cases hDone

theorem unheard_of_silent {chunks : List Bytes} (h : Silent chunks.flatten) :
    Unheard parse chunks := by
  refine ⟨?_, ?_, ?_⟩
  · intro before c after hSplit
    obtain ⟨hHushed, hRest⟩ := silent_prefix parse h before (c :: after) hSplit
    rw [List.flatten_cons] at hRest
    rw [(feed_hushed parse hHushed c _ hRest).2.1]
  · obtain ⟨hHushed, -⟩ := silent_prefix parse h chunks [] (by simp)
    obtain ⟨hQuiet, hEvent, -⟩ := finishEof_hushed parse hHushed
    rw [hQuiet]
    exact ⟨rfl, hEvent⟩
  · intro protocol config requestStarted connectedAt instantMax ticks n s
    have hRun : UnheardView parse (chunks.map .chunk) s.view :=
      Session.run_induction parse (C := fun _ => True)
        (P := fun s => UnheardView parse (chunks.map .chunk) s.view)
        ⟨⟨[], .start parse rfl rfl rfl rfl⟩, rfl,
          fun h => by cases h⟩
        (fun _ hView _ => pass_unheard h hView) n fun _ _ => trivial
    have hEvent : s.state.tracker.sawProviderEvent = false := hRun.event
    refine ⟨?_, hRun.ended⟩
    unfold NativeState.firstDeadline
    simp [hEvent]

end

theorem trimChars_head {c : Char} (hVisible : isWhitespace c = false) (cs : List Char) :
    ∃ rest, trimChars (c :: cs) = c :: rest := by
  have hStart : trimStartChars (c :: cs) = c :: cs := by simp [trimStartChars, hVisible]
  have hEnd : ∃ kept, trimStartChars (c :: cs).reverse = kept ++ [c] := by
    rw [List.reverse_cons, trimStartChars, List.dropWhile_append]
    split
    · exact ⟨[], by simp [hVisible]⟩
    · exact ⟨_, rfl⟩
  obtain ⟨kept, hKept⟩ := hEnd
  exact ⟨kept.reverse, by rw [trimChars, hStart, hKept]; simp⟩

/-- A line that begins like a metadata field is no other field. -/
theorem fieldless_of_start {field : String} {c : Char} {cs : List Char}
    (hField : field.toList = c :: cs) (hPrintable : Printable field)
    (hVisible : isWhitespace c = false) {line : Bytes} (h : utf8 field <+: line)
    {name : String} {d : Char} {ds : List Char} (hName : name.toList = d :: ds) (hOther : c ≠ d) :
    stripPrefix (trim (fromUtf8Lossy line)) name = none := by
  obtain ⟨rest, rfl⟩ := h
  rw [fromUtf8Lossy_append hPrintable]
  have hText : (field ++ fromUtf8Lossy rest).toList = c :: (cs ++ (fromUtf8Lossy rest).toList) := by
    rw [String.toList_append, hField]
    rfl
  obtain ⟨tail, hTail⟩ := trimChars_head hVisible (cs ++ (fromUtf8Lossy rest).toList)
  have hNot : startsWith (trim (field ++ fromUtf8Lossy rest)) name = false := by
    simp [startsWith, trim, hText, hTail, hName, List.isPrefixOf, Ne.symm hOther]
  simp [stripPrefix, hNot]

theorem metadata_fields {line : Bytes} (h : utf8 "id:" <+: line ∨ utf8 "retry:" <+: line) :
    stripPrefix (trim (fromUtf8Lossy line)) "event:" = none ∧
      stripPrefix (trim (fromUtf8Lossy line)) "data:" = none ∧ opensField line = true := by
  have hEvent : "event:".toList = 'e' :: "vent:".toList := by decide
  have hData : "data:".toList = 'd' :: "ata:".toList := by decide
  have hOpens : ∀ field : Bytes, opensField field = true → field <+: line →
      opensField line = true := by
    rintro field hField ⟨rest, rfl⟩
    cases field with
    | nil => cases hField
    | cons b bs => exact hField
  rcases h with hId | hRetry
  · have hField : "id:".toList = 'i' :: "d:".toList := by decide
    exact ⟨fieldless_of_start hField (by decide) (by decide) hId hEvent (by decide),
      fieldless_of_start hField (by decide) (by decide) hId hData (by decide),
      hOpens _ (by decide) hId⟩
  · have hField : "retry:".toList = 'r' :: "etry:".toList := by decide
    exact ⟨fieldless_of_start hField (by decide) (by decide) hRetry hEvent (by decide),
      fieldless_of_start hField (by decide) (by decide) hRetry hData (by decide),
      hOpens _ (by decide) hRetry⟩

/-- A metadata line leaves the event's frame alone, and a field makes it visible. -/
theorem readLine_metadata (e : SseEvent) {line : Bytes} (h : MetadataLine line) (hLine : line ≠ []) :
    (e.readLine line).frame = e.frame ∧
      (e.visible = true → (e.readLine line).visible = true) ∧
      (¬SilentLine line → (e.readLine line).visible = true) := by
  unfold SseEvent.readLine
  by_cases hColon : line.head? = some colon
  · simp only [hColon, if_true]
    refine ⟨trivial, fun hVisible => ?_, fun hField => absurd (.inr hColon) hField⟩
    rw [hVisible, Bool.true_or]
  · have hSilent : ¬SilentLine line := fun hSilent => hSilent.elim hLine hColon
    obtain ⟨hEvent, hData, hOpens⟩ := metadata_fields (h.resolve_left hSilent)
    simp only [hColon, if_false, hEvent, hData, hOpens, Bool.or_true]
    split
    · simp
    · simp

/-- The events of metadata lines carry no frame, and one of them is visible if the
first was or a line is a field. -/
theorem eventsOf_metadata {e : SseEvent} (hFrame : e.frame = ⟨"", []⟩) {lines : List Bytes}
    (h : ∀ line ∈ lines, MetadataLine line) :
    (∀ e' ∈ eventsOf e lines, e'.frame = ⟨"", []⟩) ∧
      (e.visible = true ∨ (∃ line ∈ lines, ¬SilentLine line) →
        ∃ e' ∈ eventsOf e lines, e'.visible = true) := by
  induction lines generalizing e with
  | nil => simpa [eventsOf] using hFrame
  | cons line lines ih =>
    obtain ⟨hLine, hLines⟩ := List.forall_mem_cons.mp h
    rw [eventsOf]
    by_cases hBlank : line = []
    · rw [if_pos hBlank]
      obtain ⟨hFrames, hVisible⟩ := ih (e := {}) rfl hLines
      refine ⟨List.forall_mem_cons.mpr ⟨hFrame, hFrames⟩, ?_⟩
      rintro (hFirst | ⟨field, hMem, hField⟩)
      · exact ⟨e, List.mem_cons_self, hFirst⟩
      · rcases List.mem_cons.mp hMem with rfl | hLater
        · exact absurd (.inl hBlank) hField
        · obtain ⟨e', he', hSeen⟩ := hVisible (.inr ⟨field, hLater, hField⟩)
          exact ⟨e', List.mem_cons_of_mem _ he', hSeen⟩
    · rw [if_neg hBlank]
      obtain ⟨hKept, hStays, hShows⟩ := readLine_metadata e hLine hBlank
      obtain ⟨hFrames, hVisible⟩ := ih (e := e.readLine line) (hKept.trans hFrame) hLines
      refine ⟨hFrames, ?_⟩
      rintro (hFirst | ⟨field, hMem, hField⟩)
      · exact hVisible (.inl (hStays hFirst))
      · rcases List.mem_cons.mp hMem with rfl | hLater
        · exact hVisible (.inl (hShows hField))
        · exact hVisible (.inr ⟨field, hLater, hField⟩)

section

variable {parse : String → Option Value}

theorem dispatch_keepsSeen {t : SseEventTracker} (h : t.sawProviderEvent = true)
    (a : SseActivity) : (t.dispatch parse a).1.sawProviderEvent = true := by
  unfold SseEventTracker.dispatch
  split
  · exact h
  · simp only
    split
    · simp only [limitExceeded]
      rw [observeChoices_eq]
      exact h
    · apply applyClass_keepsSeen
      rw [observeChoices_eq]
      exact h

/-- A visible event without a frame is reported all the same. -/
theorem dispatchEvent_visible (hReader : JsonReader parse) (r : SseEventTracker × SseActivity)
    {e : SseEvent} (hFrame : e.frame = ⟨"", []⟩) (hVisible : e.visible = true) :
    (dispatchEvent parse r e).1.sawProviderEvent = true := by
  have hOpen : (r.1.opened e).frameNonComment = true ∧ (r.1.opened e).dataLines = [] ∧
      (r.1.opened e).eventName = "" := by simp [opened, hFrame, hVisible]
  have hData : "\n".intercalate ([] : List String) = "" := by decide
  unfold dispatchEvent SseEventTracker.dispatch
  simp only [hOpen, hData, hReader.empty, choicesOf, Option.bind_none, Option.getD_none,
    observeChoices, classifyFrame_blank hReader, Bool.not_true, Bool.false_and, Bool.false_eq_true,
    if_false, Bool.true_or, SseEventTracker.applyClass, Option.isSome_none, if_true]

theorem foldl_dispatchEvent_visible (hReader : JsonReader parse) (es : List SseEvent)
    (hFrames : ∀ e ∈ es, e.frame = ⟨"", []⟩) (r : SseEventTracker × SseActivity)
    (h : r.1.sawProviderEvent = true ∨ ∃ e ∈ es, e.visible = true) :
    (es.foldl (dispatchEvent parse) r).1.sawProviderEvent = true := by
  induction es generalizing r with
  | nil => simpa using h
  | cons e es ih =>
    obtain ⟨hFrame, hRest⟩ := List.forall_mem_cons.mp hFrames
    rw [List.foldl_cons]
    apply ih hRest
    rcases h with hSeen | ⟨e', he', hVisible⟩
    · exact .inl (dispatch_keepsSeen (t := r.1.opened e) hSeen r.2)
    · rcases List.mem_cons.mp he' with rfl | hLater
      · exact .inl (dispatchEvent_visible hReader r hFrame hVisible)
      · exact .inr ⟨e', hLater, hVisible⟩

theorem startChunk_clean {t : SseEventTracker} (h : t.Clean) (bytes : Bytes) :
    (t.startChunk bytes).1.Clean ∧ (t.startChunk bytes).1.frameBytes = t.frameBytes := by
  unfold startChunk
  split
  · exact ⟨⟨h.line, h.dataLines, h.eventName, h.comment⟩, rfl⟩
  · exact ⟨h, rfl⟩

/-- A body that goes over the size limit ends with that failure, not as an empty
stream. -/
theorem not_limited_of_unheard {bytes : Bytes} (h : Unheard parse [bytes]) :
    (({} : SseEventTracker).feed parse bytes).2.terminal ≠ some .bufferLimitExceeded := by
  intro hLimit
  have hBytes : bytes ≠ [] := by
    rintro rfl
    rw [feed_eq_feedBytes parse (by simp)] at hLimit
    cases hLimit
  obtain ⟨hEnded, hSent⟩ := run_limited hBytes hLimit
  obtain ⟨hPending, hFinished⟩ := Session.run_closed parse ([bytes].map .chunk)
    .openAiChatCompletions untimed 0 0 0 untimedTicks 5 hEnded
  obtain ⟨c, hc, hOrigin⟩ := (h.native .openAiChatCompletions untimed 0 0 0 untimedTicks 5).2
    hFinished
  rw [Session.emitted, hPending, List.append_nil, hSent] at hc
  simp only [List.mem_cons, List.not_mem_nil, or_false] at hc
  rcases hc with rfl | rfl | rfl
  · simp [Origin.timedOut] at hOrigin
  · simp [Chunk.separator, Origin.timedOut] at hOrigin
  · simp [Chunk.errorFrame, Origin.timedOut, StreamTermination.isTimeout] at hOrigin

/-- A stream of metadata is heard by no chunking exactly when it holds comments and
blank lines only, within the size limit: an `id:` or `retry:` field is taken for an
event of the provider. -/
theorem metadata_unheard_iff (hReader : JsonReader parse) {bytes : Bytes}
    (hMetadata : MetadataOnly bytes) :
    (∀ chunks : List Bytes, chunks.flatten = bytes → Unheard parse chunks) ↔ Silent bytes := by
  constructor
  · intro hUnheard
    have hWhole := hUnheard [bytes] (by simp)
    have hLimit := not_limited_of_unheard hWhole
    have hAgrees := Agrees.feed parse (t := {}) rfl bytes
    rw [hAgrees.terminal] at hLimit
    obtain ⟨hClean, hCount⟩ := startChunk_clean (t := {}) ⟨rfl, rfl, rfl, rfl⟩ bytes
    have hFeed := feed_eq_feedBytes parse (t := {}) (by simp) bytes
    have hOpen : ((SseEventTracker.startChunk {} bytes).1.opened {}).typing [] =
        (SseEventTracker.startChunk {} bytes).1 := by
      rw [opened_nil hClean, typing_nil hClean.line]
    rw [hFeed, ← hOpen] at hLimit
    obtain ⟨n, hn⟩ := dispatches_feedBytes parse hClean {} [] bytes _ hLimit
    have hSize := feedBytes_fitsSize parse _ bytes hLimit
    rw [hOpen, hClean.line, hCount] at hSize
    refine ⟨?_, hSize⟩
    intro line hLine
    by_contra hField
    obtain ⟨hFrames, hVisible⟩ := eventsOf_metadata (e := {}) rfl hMetadata
    have hSeen := foldl_dispatchEvent_visible hReader _ hFrames
      ((SseEventTracker.startChunk {} bytes).1, (SseEventTracker.startChunk {} bytes).2)
      (.inr (hVisible (.inr ⟨line, hLine, hField⟩)))
    have hEnd : (endOf parse [bytes]).sawProviderEvent = true := by
      have hTracker : endOf parse [bytes] =
          (closeOpen parse (SseEventTracker.feed parse {} bytes)).1 :=
        (closeOpen_tracker parse _ _).symm
      rw [hTracker, hFeed, ← hOpen, hn]
      exact hSeen
    rw [hWhole.eof.2] at hEnd
    cases hEnd
  · rintro hSilent chunks rfl
    exact unheard_of_silent hSilent

theorem metadata_unheard_iff_comment :
    (∀ chunks : List Bytes, chunks.flatten = utf8 ": up\n\n" → Unheard readHealthy chunks) ↔
      Silent (utf8 ": up\n\n") :=
  metadata_unheard_iff readHealthy_reader (by decide)

/-- An `id:` field alone is taken for an event: the first event's deadline is gone,
and the stream ends as incomplete. -/
theorem id_taken_for_event :
    let bytes := utf8 "id: 1\n\n"
    let s := (Session.wrapNativeBody [.chunk bytes] .openAiChatCompletions {} 0 0 (2 ^ 64)
      (List.replicate 2 ⟨0, .upstream, 0⟩)).run readHealthy 5
    MetadataOnly bytes ∧ (({} : SseEventTracker).feed readHealthy bytes).2.providerEvent = true ∧
      s.state.firstDeadline = none ∧ s.ended = true ∧
      s.sent.map Chunk.origin = [.provider, .errorFrame .incompleteStream] := by
  decide

end

end AiGateway.Stream
