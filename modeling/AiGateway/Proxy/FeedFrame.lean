import AiGateway.Proxy.Counting

/-!
# The gateway's own frames, fed to a tracker

A tracker that holds no part of a frame reads a heartbeat as nothing, the error
frame as the failure it names, and the `[DONE]` frame as completion.
-/

namespace AiGateway.Stream.SseEventTracker

set_option autoImplicit false

open AiGateway.Json AiGateway.Text

variable (parse : String → Option Value)

/-- Octets that end no line, added to a line that has begun. -/
theorem feedBytes_more {t : SseEventTracker} (hLine : t.line ≠ []) (a : SseActivity) {bytes : Bytes}
    (hPlain : ∀ b ∈ bytes, b ≠ lf ∧ b ≠ cr)
    (hFits : t.frameBytes + bytes.length ≤ maxSseFrameBytes) (rest : Bytes) :
    t.feedBytes parse a (bytes ++ rest) =
      { t with
        line := t.line ++ bytes
        frameBytes := t.frameBytes + bytes.length }.feedBytes parse a rest := by
  induction bytes generalizing t with
  | nil => simp
  | cons b bs ih =>
    obtain ⟨hLf, hCr⟩ := hPlain b List.mem_cons_self
    have hEmpty : t.line.isEmpty = false := by simpa using hLine
    rw [List.length_cons] at hFits
    have hFull : ¬maxSseFrameBytes ≤ t.frameBytes := by omega
    have hPush : { t with frameBytes := t.frameBytes + 1 }.pushByte b =
        { t with line := t.line ++ [b], frameBytes := t.frameBytes + 1 } := by
      simp [pushByte, hEmpty]
    rw [List.cons_append, feedBytes, if_neg hFull]
    simp only [if_neg hLf, if_neg hCr]
    rw [hPush]
    have hRest := ih (t := { t with line := t.line ++ [b], frameBytes := t.frameBytes + 1 })
      (by simp) (fun c hc => hPlain c (List.mem_cons_of_mem b hc)) (by simp only; omega)
    rw [hRest]
    simp only [List.append_assoc, List.singleton_append, List.length_cons]
    rw [Nat.add_assoc, Nat.add_comm 1]

theorem readLine_terminal (t : SseEventTracker) (line : Bytes) :
    (t.readLine line).terminal = t.terminal := by
  unfold readLine
  split
  · rfl
  · simp only
    split
    · rfl
    · split
      · rfl
      · split <;> rfl

/-- A whole line that is not blank, fed where no line is open. -/
theorem feedBytes_line {t : SseEventTracker} (hLine : t.line = [])
    (hOpen : t.terminal ≠ some .bufferLimitExceeded) (a : SseActivity) {b : UInt8} {bs : Bytes}
    (hPlain : ∀ c ∈ b :: bs, c ≠ lf ∧ c ≠ cr)
    (hFits : t.frameBytes + (b :: bs).length + 1 ≤ maxSseFrameBytes) (rest : Bytes) :
    t.feedBytes parse a ((b :: bs) ++ lf :: rest) =
      ({ t with
        frameBytes := t.frameBytes + (b :: bs).length + 1
        frameNonComment := t.frameNonComment || (b != colon && b != space) }.readLine
          (b :: bs)).feedBytes parse a rest := by
  obtain ⟨hLf, hCr⟩ := hPlain b List.mem_cons_self
  rw [List.length_cons] at hFits
  have hFull : ¬maxSseFrameBytes ≤ t.frameBytes := by omega
  have hPush : { t with frameBytes := t.frameBytes + 1 }.pushByte b =
      { t with
        line := [b]
        frameBytes := t.frameBytes + 1
        frameNonComment := t.frameNonComment || (b != colon && b != space) } := by
    simp [pushByte, hLine]
  rw [List.cons_append, feedBytes, if_neg hFull]
  simp only [if_neg hLf, if_neg hCr]
  rw [hPush, feedBytes_more parse (by simp) a
    (fun c hc => hPlain c (List.mem_cons_of_mem b hc)) (by simp only; omega)]
  simp only [List.singleton_append]
  have hFull' : ¬maxSseFrameBytes ≤ t.frameBytes + 1 + bs.length := by omega
  rw [feedBytes, if_neg hFull']
  simp only [if_true]
  rw [processLine_of_ne parse (by simp)]
  simp only [readLine_terminal, hOpen, if_false, List.length_cons]
  have hCount : t.frameBytes + 1 + bs.length + 1 = t.frameBytes + (bs.length + 1) + 1 := by omega
  rw [hCount, ← hLine]

theorem feedBytes_blank {t : SseEventTracker} (hLine : t.line = []) (a : SseActivity)
    (hFits : t.frameBytes + 1 ≤ maxSseFrameBytes) (rest : Bytes) :
    t.feedBytes parse a (lf :: rest) =
      if ((t.withCount 0).dispatch parse a).1.terminal = some .bufferLimitExceeded then
        (t.withCount 0).dispatch parse a
      else
        ((t.withCount 0).dispatch parse a).1.feedBytes parse
          ((t.withCount 0).dispatch parse a).2 rest := by
  have hFull : ¬maxSseFrameBytes ≤ t.frameBytes := by omega
  rw [feedBytes, if_neg hFull]
  simp only [if_true]
  rw [processLine_blank parse (by exact hLine)]
  rfl

theorem readLine_colon {t : SseEventTracker} (bs : Bytes) : t.readLine (colon :: bs) = t := by
  simp [readLine]

theorem feed_heartbeat {t : SseEventTracker} (h : t.Clean)
    (hOpen : t.terminal ≠ some .bufferLimitExceeded)
    (hFits : t.frameBytes + heartbeatFrame.length ≤ maxSseFrameBytes) :
    t.feed parse heartbeatFrame = (t.withCount 0, {}) := by
  have hFrame : heartbeatFrame = (colon :: utf8 " gateway-heartbeat") ++ lf :: [lf] := by
    decide
  have hLength : heartbeatFrame.length = 21 := by decide
  have hLength' : (colon :: utf8 " gateway-heartbeat").length = 19 := by decide
  have hRaw : t.rawEvent heartbeatFrame = false := by
    have hControl : looksLikeSseControl heartbeatFrame = true := by decide
    simp [rawEvent, hControl]
  rw [hLength] at hFits
  have hPlain : ∀ c ∈ colon :: utf8 " gateway-heartbeat", c ≠ lf ∧ c ≠ cr := by decide +kernel
  unfold feed
  simp only [hOpen, if_false, hRaw, Bool.false_eq_true]
  rw [hFrame, feedBytes_line parse h.line hOpen {} hPlain (by omega), readLine_colon]
  have hSame : { t with
      frameBytes := t.frameBytes + (colon :: utf8 " gateway-heartbeat").length + 1
      frameNonComment := t.frameNonComment || (colon != colon && colon != space) } =
      t.withCount (t.frameBytes + 20) := by
    rw [hLength']
    simp [withCount]
  have hClean : (t.withCount 0).Clean := ⟨h.line, h.dataLines, h.eventName, h.comment⟩
  rw [hSame, feedBytes_blank parse (by exact h.line) {} (by simp only [withCount_frameBytes]; omega),
    withCount_withCount, dispatch_of_clean parse hClean]
  simp only [withCount_terminal, hOpen, if_false]
  rfl

theorem trim_of_ends {s : String} {first last : Char} (hFirst : s.toList.head? = some first)
    (hLast : s.toList.getLast? = some last) (hVisible : isWhitespace first = false)
    (hVisible' : isWhitespace last = false) : trim s = s := by
  rw [trim, trimChars_of_ends hFirst hLast hVisible hVisible', String.ofList_toList]

/-- A data line whose value is visible at both ends. -/
theorem readLine_data (t : SseEventTracker) {value : String} (first last : Char)
    (hPrintable : Printable value) (hFirst : value.toList.head? = some first)
    (hLast : value.toList.getLast? = some last) (hVisible : isWhitespace first = false)
    (hVisible' : isWhitespace last = false) :
    t.readLine (utf8 "data: " ++ utf8 value) =
      { t with sawSseFrame := true, dataLines := t.dataLines ++ [value] } := by
  have hData : "data: ".toList = ['d', 'a', 't', 'a', ':', ' '] := by decide
  have hText : ("data: " ++ value).toList = 'd' :: 'a' :: 't' :: 'a' :: ':' :: ' ' :: value.toList := by
    rw [String.toList_append, hData]
    rfl
  have hEnd : ("data: " ++ value).toList.getLast? = some last := by
    rw [String.toList_append, List.getLast?_append, hLast]
    rfl
  have hTrim : trim ("data: " ++ value) = "data: " ++ value :=
    trim_of_ends (by rw [hText]; rfl) hEnd (by decide) hVisible'
  have hColon : (utf8 "data: " ++ utf8 value).head? ≠ some colon := by
    have hHead : utf8 "data: " = 0x64 :: utf8 "ata: " := by decide
    simp [hHead, colon]
  have hEvent : stripPrefix ("data: " ++ value) "event:" = none := by
    have hPrefix : "event:".toList = ['e', 'v', 'e', 'n', 't', ':'] := by decide
    simp [stripPrefix, startsWith, hText, hPrefix, List.isPrefixOf]
  have hStrip : (stripPrefix ("data: " ++ value) "data:").map trim = some value := by
    have hPrefix : "data:".toList = ['d', 'a', 't', 'a', ':'] := by decide
    have hSpace : trimChars (' ' :: value.toList) = value.toList := by
      have hDrop : trimChars (' ' :: value.toList) = trimChars value.toList := by
        simp [trimChars, trimStartChars, show isWhitespace ' ' = true from by decide]
      rw [hDrop, trimChars_of_ends hFirst hLast hVisible hVisible']
    simp [stripPrefix, startsWith, hText, hPrefix, List.isPrefixOf, trim, hSpace]
  unfold readLine
  rw [if_neg hColon, ← utf8_append, fromUtf8Lossy_utf8 ((by decide : Printable "data: ").append
    hPrintable)]
  simp only [hTrim, hEvent]
  cases hRest : stripPrefix ("data: " ++ value) "data:" with
  | none =>
    rw [hRest] at hStrip
    cases hStrip
  | some rest =>
    rw [hRest, Option.map_some, Option.some.injEq] at hStrip
    simp only [hStrip]

theorem readLine_body (t : SseEventTracker) (protocol : Protocol) (e : StreamTermination) :
    t.readLine (utf8 "data: " ++ utf8 (gatewayErrorBody protocol e)) =
      { t with
        sawSseFrame := true
        dataLines := t.dataLines ++ [gatewayErrorBody protocol e] } :=
  readLine_data t _ _ (printable_gatewayErrorBody protocol e) (gatewayErrorBody_head protocol e)
    (gatewayErrorBody_last protocol e) (by decide) (by decide)

theorem readLine_done (t : SseEventTracker) :
    t.readLine (utf8 "data: " ++ utf8 "[DONE]") =
      { t with sawSseFrame := true, dataLines := t.dataLines ++ ["[DONE]"] } :=
  readLine_data t '[' ']' (by decide) (by decide) (by decide) (by decide) (by decide)

theorem readLine_eventError (t : SseEventTracker) :
    t.readLine (utf8 "event: error") = { t with sawSseFrame := true, eventName := "error" } := by
  have hColon : (utf8 "event: error").head? ≠ some colon := by decide
  have hStrip : (stripPrefix (trim (fromUtf8Lossy (utf8 "event: error"))) "event:").map trim =
      some "error" := by decide
  unfold readLine
  rw [if_neg hColon]
  simp only
  cases hRest : stripPrefix (trim (fromUtf8Lossy (utf8 "event: error"))) "event:" with
  | none =>
    rw [hRest] at hStrip
    cases hStrip
  | some rest =>
    rw [hRest, Option.map_some, Option.some.injEq] at hStrip
    simp only [hStrip]

theorem get_errorObject_code (e : StreamTermination) :
    codeAt (some (errorObject e)) = some e.code := by
  simp [codeAt, errorObject, Value.get, Fields.get, Value.asStr]

theorem gatewayErrorPayload_error (protocol : Protocol) (e : StreamTermination) :
    (gatewayErrorPayload protocol e).get "error" = some (errorObject e) ∧
      (gatewayErrorPayload protocol e).get "code" = none ∧
      (gatewayErrorPayload protocol e).get "choices" = none := by
  rw [gatewayErrorPayload_eq]
  cases protocol <;> simp [Value.get, Fields.get]

theorem isGatewayCode_code {e : StreamTermination} (h : e ≠ .completed) :
    isGatewayCode e.code = true := by
  cases e with
  | completed => exact absurd rfl h
  | _ => decide

theorem terminationOfCode_code {e : StreamTermination} (h : e ≠ .completed) :
    terminationOfCode e.code = e := by
  cases e with
  | completed => exact absurd rfl h
  | _ => decide

theorem gatewayCode_payload (protocol : Protocol) {e : StreamTermination} (h : e ≠ .completed) :
    gatewayCode (gatewayErrorPayload protocol e) = some e.code := by
  obtain ⟨hError, hCode, -⟩ := gatewayErrorPayload_error protocol e
  have hTop : codeAt (some (gatewayErrorPayload protocol e)) = none := by simp [codeAt, hCode]
  rw [gatewayCode, hTop, hError, get_errorObject_code]
  simp [Option.filter, isGatewayCode_code h]

theorem trim_gatewayErrorBody (protocol : Protocol) (e : StreamTermination) :
    trim (gatewayErrorBody protocol e) = gatewayErrorBody protocol e :=
  trim_of_ends (gatewayErrorBody_head protocol e) (gatewayErrorBody_last protocol e) (by decide)
    (by decide)

theorem gatewayErrorBody_ne (protocol : Protocol) (e : StreamTermination) {s : String} {c : Char}
    (hs : s.toList.head? = some c) (hc : c ≠ '\x7b') : gatewayErrorBody protocol e ≠ s := by
  intro hEq
  have hHead := gatewayErrorBody_head protocol e
  rw [hEq, hs, Option.some.injEq] at hHead
  exact hc hHead

theorem classifyFrame_body {protocol : Protocol} {e : StreamTermination} (he : e ≠ .completed)
    {eventName : String} (hName : eventName = "" ∨ eventName = "error")
    (hParse : parse (gatewayErrorBody protocol e) = some (gatewayErrorPayload protocol e)) :
    classifyFrame parse eventName (gatewayErrorBody protocol e) = ⟨none, true, some e⟩ := by
  have hLower : toAsciiLowercase (trim eventName) = eventName := by
    rcases hName with rfl | rfl <;> decide
  have hDone : trim (gatewayErrorBody protocol e) ≠ "[DONE]" := by
    rw [trim_gatewayErrorBody]
    exact gatewayErrorBody_ne protocol e (c := '[') (by decide) (by decide)
  have hOther : ¬eventName = "gateway.error" ∧ ¬(eventName = "message_stop" ∨
      eventName = "response.completed" ∨ eventName = "response.incomplete" ∨
      eventName = "response.done") := by
    rcases hName with rfl | rfl <;> decide
  have hCode : terminationFromCode parse e.code = some e := by
    have hStarts : startsWith e.code "gateway_" = true := isGatewayCode_code he
    simp [terminationFromCode, hStarts, terminationOfCode_code he]
  unfold classifyFrame
  simp only [hLower, hOther.1, hOther.2, hDone, if_false, hParse, Option.bind_some,
    gatewayCode_payload protocol he, hCode]

/-- The dispatch of a gateway error event. -/
theorem dispatch_body {t : SseEventTracker} {protocol : Protocol} {e : StreamTermination}
    (he : e ≠ .completed) (hName : t.eventName = "" ∨ t.eventName = "error")
    (hData : t.dataLines = [gatewayErrorBody protocol e])
    (hParse : parse (gatewayErrorBody protocol e) = some (gatewayErrorPayload protocol e))
    (a : SseActivity) :
    (t.dispatch parse a).1.terminal = mergeTerminal t.terminal (some e) ∧
      (t.dispatch parse a).2 =
        { a with error := true, terminal := mergeTerminal a.terminal (some e) } := by
  have hJoin : "\n".intercalate [gatewayErrorBody protocol e] = gatewayErrorBody protocol e := by
    simp [String.intercalate_singleton]
  have hChoices : choicesOf (some (gatewayErrorPayload protocol e)) = [] := by
    simp [choicesOf, (gatewayErrorPayload_error protocol e).2.2]
  have hFailure : e.isFailure = true := by simpa [StreamTermination.isFailure] using he
  unfold dispatch
  simp only [hData, List.isEmpty_cons, Bool.and_false, Bool.false_and, Bool.false_eq_true, if_false,
    hJoin, hParse, hChoices, observeChoices, classifyFrame_body parse he hName hParse]
  simp only [applyClass, Option.isSome_some, if_true, Option.any_some, hFailure, Bool.or_true]
  exact ⟨rfl, trivial⟩

theorem classifyFrame_done : classifyFrame parse "" "[DONE]" = ⟨some .completed, false, none⟩ := by
  have hLower : toAsciiLowercase (trim "") = "" := by decide
  have hDone : trim "[DONE]" = "[DONE]" := by decide
  have hName : ¬("" : String) = "gateway.error" := by decide
  simp only [classifyFrame, hLower, hDone, hName, if_false, if_true]

theorem dispatch_done {t : SseEventTracker} (hName : t.eventName = "")
    (hData : t.dataLines = ["[DONE]"]) (hParse : parse "[DONE]" = none) (a : SseActivity) :
    (t.dispatch parse a).1.terminal = mergeTerminal t.terminal (some .completed) ∧
      (t.dispatch parse a).2 =
        { a with providerEvent := true, terminal := mergeTerminal a.terminal (some .completed) } := by
  have hJoin : "\n".intercalate ["[DONE]"] = "[DONE]" := by decide
  have hContent : (!("[DONE]" : String).isEmpty) = true := by decide
  unfold dispatch
  simp only [hData, hName, List.isEmpty_cons, Bool.and_false, Bool.false_and, Bool.false_eq_true,
    if_false, hJoin, hParse, choicesOf, Option.bind_none, Option.getD_none, observeChoices,
    classifyFrame_done, hContent, Bool.or_true, Bool.true_or]
  simp only [applyClass, Option.isSome_none, Bool.false_eq_true, if_false, if_true]
  exact ⟨rfl, trivial⟩

theorem rawEvent_data (t : SseEventTracker) (rest : Bytes) :
    t.rawEvent (utf8 "data: " ++ rest) = false := by
  have hData : "data: ".toList = ['d', 'a', 't', 'a', ':', ' '] := by decide
  have hControl : looksLikeSseControl (utf8 "data: " ++ rest) = true := by
    have hPrefix : "data:".toList = ['d', 'a', 't', 'a', ':'] := by decide
    have hVisible : isWhitespace 'd' = false := by decide
    simp [looksLikeSseControl, fromUtf8Lossy_append (by decide : Printable "data: "), trimStart,
      trimStartChars, startsWith, String.toList_append, hData, hPrefix, hVisible, List.isPrefixOf]
  simp [rawEvent, hControl]

theorem rawEvent_event (t : SseEventTracker) (rest : Bytes) :
    t.rawEvent (utf8 "event: error" ++ rest) = false := by
  have hEvent : "event: error".toList =
      ['e', 'v', 'e', 'n', 't', ':', ' ', 'e', 'r', 'r', 'o', 'r'] := by decide
  have hControl : looksLikeSseControl (utf8 "event: error" ++ rest) = true := by
    have hPrefix : "event:".toList = ['e', 'v', 'e', 'n', 't', ':'] := by decide
    have hVisible : isWhitespace 'e' = false := by decide
    simp [looksLikeSseControl, fromUtf8Lossy_append (by decide : Printable "event: error"),
      trimStart, trimStartChars, startsWith, String.toList_append, hEvent, hPrefix, hVisible,
      List.isPrefixOf]
  simp [rawEvent, hControl]

/-- A data line and the blank line after it, fed where no line is open. -/
theorem feedBytes_dataFrame {t : SseEventTracker} (hLine : t.line = [])
    (hOpen : t.terminal ≠ some .bufferLimitExceeded) (a : SseActivity) {value : String}
    (hPrintable : Printable value)
    (hRead : ∀ u : SseEventTracker, u.readLine (utf8 "data: " ++ utf8 value) =
      { u with sawSseFrame := true, dataLines := u.dataLines ++ [value] })
    (hFits : t.frameBytes + (utf8 "data: " ++ utf8 value ++ [lf, lf]).length ≤ maxSseFrameBytes)
    (rest : Bytes) :
    ∃ u : SseEventTracker, u.line = [] ∧ u.frameBytes = 0 ∧ u.dataLines = t.dataLines ++ [value] ∧
      u.eventName = t.eventName ∧ u.terminal = t.terminal ∧
      t.feedBytes parse a (utf8 "data: " ++ utf8 value ++ [lf, lf] ++ rest) =
        if (u.dispatch parse a).1.terminal = some .bufferLimitExceeded then u.dispatch parse a
        else (u.dispatch parse a).1.feedBytes parse (u.dispatch parse a).2 rest := by
  have hHead : utf8 "data: " = 0x64 :: utf8 "ata: " := by decide
  have hPlain : ∀ c ∈ (0x64 :: (utf8 "ata: " ++ utf8 value) : Bytes), c ≠ lf ∧ c ≠ cr := by
    intro c hc
    rw [← List.cons_append, ← hHead] at hc
    rcases List.mem_append.mp hc with hc | hc
    · exact utf8_ne_lineEnd (by decide) c hc
    · exact utf8_ne_lineEnd hPrintable c hc
  have hSplit : utf8 "data: " ++ utf8 value ++ [lf, lf] ++ rest =
      (0x64 :: (utf8 "ata: " ++ utf8 value)) ++ lf :: lf :: rest := by
    rw [hHead]
    simp
  have hLength : (utf8 "data: " ++ utf8 value ++ [lf, lf]).length =
      (0x64 :: (utf8 "ata: " ++ utf8 value) : Bytes).length + 2 := by
    rw [hHead]
    simp [Nat.add_assoc]
  rw [hLength] at hFits
  have hRead' : ∀ u : SseEventTracker, u.readLine (0x64 :: (utf8 "ata: " ++ utf8 value)) =
      { u with sawSseFrame := true, dataLines := u.dataLines ++ [value] } := by
    intro u
    rw [← List.cons_append, ← hHead]
    exact hRead u
  rw [hSplit, feedBytes_line parse hLine hOpen a hPlain (by omega), hRead',
    feedBytes_blank parse (by exact hLine) a (by simp only; omega)]
  refine ⟨_, ?_, ?_, ?_, ?_, ?_, rfl⟩
  · exact hLine
  all_goals rfl

theorem mergeTerminal_failure {e : StreamTermination} (he : e ≠ .completed)
    (d : Option StreamTermination) : mergeTerminal (some e) d = some e := by
  cases d with
  | none => rfl
  | some d =>
    by_cases hd : d = .completed <;> simp [mergeTerminal, he, hd, StreamTermination.isFailure]

/-- The `[DONE]` frame, fed after an activity `a` where no line is open. -/
theorem feedBytes_done {t : SseEventTracker} (h : t.Clean)
    (hOpen : t.terminal ≠ some .bufferLimitExceeded) (a : SseActivity)
    (hFits : t.frameBytes + chatDoneFrame.length ≤ maxSseFrameBytes)
    (hParse : parse "[DONE]" = none) :
    (t.feedBytes parse a chatDoneFrame).2 =
      { a with providerEvent := true, terminal := mergeTerminal a.terminal (some .completed) } := by
  have hFrame : chatDoneFrame = utf8 "data: " ++ utf8 "[DONE]" ++ [lf, lf] := by decide
  rw [hFrame] at hFits ⊢
  obtain ⟨u, hLine, -, hData, hName, -, hFeed⟩ := feedBytes_dataFrame parse h.line hOpen a
    (by decide) readLine_done hFits []
  rw [h.dataLines, List.nil_append] at hData
  rw [h.eventName] at hName
  obtain ⟨-, hActivity⟩ := dispatch_done parse hName hData hParse a
  rw [List.append_nil] at hFeed
  rw [hFeed]
  split
  · exact hActivity
  · exact hActivity

theorem feed_done {t : SseEventTracker} (h : t.Clean)
    (hOpen : t.terminal ≠ some .bufferLimitExceeded)
    (hFits : t.frameBytes + chatDoneFrame.length ≤ maxSseFrameBytes)
    (hParse : parse "[DONE]" = none) :
    (t.feed parse chatDoneFrame).2 = { providerEvent := true, terminal := some .completed } := by
  have hFrame : chatDoneFrame = utf8 "data: " ++ utf8 "[DONE]\n\n" := by decide
  have hRaw : t.rawEvent chatDoneFrame = false := by
    rw [hFrame]
    exact rawEvent_data t _
  unfold feed
  simp only [hOpen, if_false, hRaw, Bool.false_eq_true]
  exact feedBytes_done parse h hOpen {} hFits hParse

/-- The line `event: error`, fed where nothing is open. -/
theorem feedBytes_eventError {t : SseEventTracker} (h : t.Clean)
    (hOpen : t.terminal ≠ some .bufferLimitExceeded)
    (hFits : t.frameBytes + 13 ≤ maxSseFrameBytes) (rest : Bytes) :
    ∃ u : SseEventTracker, u.line = [] ∧ u.dataLines = [] ∧ u.eventName = "error" ∧
      u.terminal = t.terminal ∧ u.frameBytes = t.frameBytes + 13 ∧
      t.feedBytes parse {} (utf8 "event: error" ++ lf :: rest) = u.feedBytes parse {} rest := by
  have hHead : utf8 "event: error" = 0x65 :: utf8 "vent: error" := by decide
  have hLength : (0x65 :: utf8 "vent: error" : Bytes).length = 12 := by decide
  have hPlain : ∀ c ∈ (0x65 :: utf8 "vent: error" : Bytes), c ≠ lf ∧ c ≠ cr := by decide +kernel
  rw [hHead, feedBytes_line parse h.line hOpen {} hPlain (by rw [hLength]; omega), hLength, ← hHead,
    readLine_eventError]
  refine ⟨_, ?_, ?_, ?_, ?_, ?_, rfl⟩
  · exact h.line
  · exact h.dataLines
  all_goals rfl

/-- The error event alone: what is fed after it is read by a tracker without any
part of a frame, unless the failure is the limit. -/
theorem feedBytes_errorData {t : SseEventTracker} (hLine : t.line = []) (hLines : t.dataLines = [])
    (hName : t.eventName = "" ∨ t.eventName = "error")
    (hOpen : t.terminal ≠ some .bufferLimitExceeded) {protocol : Protocol} {e : StreamTermination}
    (he : e ≠ .completed)
    (hFits : t.frameBytes +
      (utf8 "data: " ++ utf8 (gatewayErrorBody protocol e) ++ [lf, lf]).length ≤ maxSseFrameBytes)
    (hParse : parse (gatewayErrorBody protocol e) = some (gatewayErrorPayload protocol e))
    (rest : Bytes) :
    ∃ u : SseEventTracker, u.Clean ∧ u.frameBytes = 0 ∧
      t.feedBytes parse {} (utf8 "data: " ++ utf8 (gatewayErrorBody protocol e) ++ [lf, lf] ++ rest) =
        if u.terminal = some .bufferLimitExceeded then (u, { error := true, terminal := some e })
        else u.feedBytes parse { error := true, terminal := some e } rest := by
  obtain ⟨u, hLine', hCount, hData, hName', -, hFeed⟩ := feedBytes_dataFrame parse hLine hOpen {}
    (printable_gatewayErrorBody protocol e) (fun u => readLine_body u protocol e) hFits rest
  rw [hLines, List.nil_append] at hData
  rw [← hName'] at hName
  obtain ⟨-, hActivity⟩ := dispatch_body parse he hName hData hParse {}
  refine ⟨(u.dispatch parse {}).1, dispatch_clean parse hLine' {}, ?_, ?_⟩
  · rw [dispatch_frameBytes, hCount]
  · rw [hFeed]
    have hPair : u.dispatch parse {} =
        ((u.dispatch parse {}).1, { error := true, terminal := some e }) := Prod.ext rfl hActivity
    rw [hPair]

end AiGateway.Stream.SseEventTracker

namespace AiGateway.Stream

open AiGateway.Json AiGateway.Text

/-- The part of an error frame that carries the error. -/
def gatewayErrorEvent (protocol : Protocol) (e : StreamTermination) : Bytes :=
  match protocol with
  | .openAiChatCompletions => utf8 "data: " ++ utf8 (gatewayErrorBody protocol e) ++ [lf, lf]
  | .openAiResponses | .anthropicMessages =>
    utf8 "event: error" ++ [lf] ++
      (utf8 "data: " ++ utf8 (gatewayErrorBody protocol e) ++ [lf, lf])

theorem gatewayErrorEvent_length_le (protocol : Protocol) (e : StreamTermination) :
    (gatewayErrorEvent protocol e).length ≤ maxSseFrameBytes := by
  have hBody := gatewayErrorBody_length_le protocol e
  have hData : (utf8 "data: ").length = 6 := by decide
  have hEvent : (utf8 "event: error").length = 12 := by decide
  have hMax : maxSseFrameBytes = 1048576 := rfl
  cases protocol with
  | openAiChatCompletions | openAiResponses | anthropicMessages =>
    simp only [gatewayErrorEvent, List.length_append, hData, hEvent, List.length_cons,
      List.length_nil]
    omega

namespace SseEventTracker

variable (parse : String → Option Value)

theorem feed_errorFrame {t : SseEventTracker} (h : t.Clean)
    (hOpen : t.terminal ≠ some .bufferLimitExceeded) {protocol : Protocol} {e : StreamTermination}
    (he : e ≠ .completed)
    (hFits : t.frameBytes + (gatewayErrorEvent protocol e).length ≤ maxSseFrameBytes)
    (hParse : parse (gatewayErrorBody protocol e) = some (gatewayErrorPayload protocol e))
    (hDone : parse "[DONE]" = none) :
    (t.feed parse (gatewayErrorFrame protocol e)).2.error = true ∧
      (t.feed parse (gatewayErrorFrame protocol e)).2.terminal = some e := by
  rw [gatewayErrorFrame_eq]
  unfold feed
  cases protocol with
  | openAiChatCompletions =>
    simp only [hOpen, if_false, List.append_assoc, rawEvent_data, Bool.false_eq_true]
    obtain ⟨u, hClean, hCount, hFeed⟩ := feedBytes_errorData parse h.line h.dataLines
      (.inl h.eventName) hOpen he hFits hParse chatDoneFrame
    simp only [List.append_assoc] at hFeed
    rw [hFeed]
    split
    · exact ⟨rfl, rfl⟩
    · rename_i hOpen'
      have hFits' : u.frameBytes + chatDoneFrame.length ≤ maxSseFrameBytes := by
        rw [hCount]
        decide
      rw [feedBytes_done parse hClean hOpen' _ hFits' hDone]
      exact ⟨rfl, mergeTerminal_failure he (some .completed)⟩
  | openAiResponses | anthropicMessages =>
    simp only [gatewayErrorEvent, List.length_append, List.append_assoc,
      show (utf8 "event: error").length = 12 from by decide] at hFits
    simp only [hOpen, if_false, List.append_assoc, rawEvent_event, Bool.false_eq_true]
    obtain ⟨v, hLine, hLines, hName, hTerminal, hCount, hFeedLine⟩ :=
      feedBytes_eventError parse h hOpen (by simp only [List.length_singleton] at hFits; omega)
        (utf8 "data: " ++ (utf8 (gatewayErrorBody _ e) ++ [lf, lf]))
    obtain ⟨u, -, -, hFeed⟩ := feedBytes_errorData parse hLine hLines (.inr hName)
      (by rw [hTerminal]; exact hOpen) he
      (by
        simp only [List.length_append, hCount]
        simp only [List.length_singleton] at hFits
        omega) hParse []
    simp only [List.append_nil, List.append_assoc] at hFeed
    rw [List.singleton_append, hFeedLine, hFeed]
    split
    · exact ⟨rfl, rfl⟩
    · exact ⟨rfl, rfl⟩

/-- The separator leaves no part of a frame open, unless closing that frame hits a
limit. -/
theorem feed_separator (t : SseEventTracker) :
    (t.feed parse [lf, lf]).1.terminal = some .bufferLimitExceeded ∨
      (t.feed parse [lf, lf]).1.Clean ∧ (t.feed parse [lf, lf]).1.frameBytes = 0 := by
  have hRaw : t.rawEvent [lf, lf] = false := by
    have hBlank : ([lf, lf] : Bytes).any (!isAsciiWhitespace ·) = false := by decide
    simp only [rawEvent, hBlank, Bool.and_false]
  have hLast : ∀ (u : SseEventTracker) (a : SseActivity), u.line = [] →
      (u.feedBytes parse a [lf]).1.terminal = some .bufferLimitExceeded ∨
        (u.feedBytes parse a [lf]).1.Clean ∧ (u.feedBytes parse a [lf]).1.frameBytes = 0 := by
    intro u a hLine
    by_cases hFull : maxSseFrameBytes ≤ u.frameBytes
    · left
      rw [feedBytes, if_pos hFull]
      rfl
    · rw [feedBytes_blank parse hLine a (by omega)]
      split
      · exact .inl ‹_›
      · rw [feedBytes]
        have hLine' : (u.withCount 0).line = [] := hLine
        refine .inr ⟨dispatch_clean parse hLine' a, ?_⟩
        rw [dispatch_frameBytes, withCount_frameBytes]
  unfold feed
  by_cases hOpen : t.terminal = some .bufferLimitExceeded
  · rw [if_pos hOpen]
    exact .inl hOpen
  · simp only [hOpen, if_false, hRaw, Bool.false_eq_true]
    by_cases hFull : maxSseFrameBytes ≤ t.frameBytes
    · left
      rw [feedBytes, if_pos hFull]
      rfl
    · rw [feedBytes, if_neg hFull]
      simp only [if_true]
      split
      · exact .inl ‹_›
      · exact hLast _ _ (processLine_line parse _ _)

theorem feed_of_limit {t : SseEventTracker} (h : t.terminal = some .bufferLimitExceeded)
    (bytes : Bytes) :
    t.feed parse bytes = (t, { error := true, terminal := some .bufferLimitExceeded }) := by
  rw [feed, if_pos h, h]

end SseEventTracker

end AiGateway.Stream
