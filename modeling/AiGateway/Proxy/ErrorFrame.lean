import AiGateway.Proxy.Stream

/-!
# The gateway error frame

Its text, octet by octet, and what its payload says.
-/

namespace AiGateway.Stream

set_option autoImplicit false

open AiGateway.Json AiGateway.Text

/-- A visible character that a JSON text shows as it is. -/
def isPlainChar (c : Char) : Bool := escapeChar c = [c] && 0x20 ≤ c.toNat && c.toNat < 0x7F

def IsPlain (s : String) : Prop := s.toList.all isPlainChar = true

/-- A text is looked at as the list of its characters. -/
theorem isPlain_ofList {cs : List Char} (h : cs.all isPlainChar = true) :
    IsPlain (String.ofList cs) := by
  rw [IsPlain, String.toList_ofList]
  exact h

theorem length_ofList_le {cs : List Char} {n : ℕ} (h : cs.length ≤ n) :
    (String.ofList cs).length ≤ n := by
  rw [String.length_ofList]
  exact h

theorem IsPlain.escape {s : String} (h : IsPlain s) : s.toList.flatMap escapeChar = s.toList := by
  unfold IsPlain at h
  generalize s.toList = cs at h ⊢
  induction cs with
  | nil => rfl
  | cons c cs ih =>
    simp only [List.all_cons, isPlainChar, Bool.and_eq_true, decide_eq_true_eq] at h
    rw [List.flatMap_cons, h.1.1.1, ih h.2]
    rfl

theorem IsPlain.printable {s : String} (h : IsPlain s) : Printable s := by
  intro c hc
  have hPlain := List.all_eq_true.mp h c hc
  simp only [isPlainChar, Bool.and_eq_true, decide_eq_true_eq] at hPlain
  exact ⟨hPlain.1.2, hPlain.2⟩

theorem isPlain_code (e : StreamTermination) : IsPlain e.code := by
  cases e <;> exact isPlain_ofList (by decide)

theorem isPlain_message (e : StreamTermination) : IsPlain e.message := by
  cases e <;> exact isPlain_ofList (by decide)

theorem escape_code (e : StreamTermination) :
    e.code.toList.flatMap escapeChar = e.code.toList := (isPlain_code e).escape

theorem escape_message (e : StreamTermination) :
    e.message.toList.flatMap escapeChar = e.message.toList := (isPlain_message e).escape

theorem printable_code (e : StreamTermination) : Printable e.code := (isPlain_code e).printable

theorem printable_message (e : StreamTermination) : Printable e.message :=
  (isPlain_message e).printable

theorem renderString_of_escape {s : String} (h : s.toList.flatMap escapeChar = s.toList) :
    renderString s = "\"" ++ s ++ "\"" := by
  rw [renderString, h, String.ofList_toList]

/-- The `error` object that every protocol's payload holds. -/
def errorObject (e : StreamTermination) : Value :=
  .object [("code", .string e.code), ("message", .string e.message), ("type", .string e.code)]

theorem gatewayErrorPayload_eq (protocol : Protocol) (e : StreamTermination) :
    gatewayErrorPayload protocol e =
      match protocol with
      | .openAiChatCompletions => .object [("error", errorObject e)]
      | .openAiResponses | .anthropicMessages =>
        .object [("error", errorObject e), ("type", .string "error")] := by
  have hMessageType : "message" < "type" := by decide
  have hCodeMessage : "code" < "message" := by decide
  have hTypeCode : ¬ "type" < "code" := by decide
  have hMessageCode : ¬ "message" < "code" := by decide
  have hTypeMessage : ¬ "type" < "message" := by decide
  have hTypeError : ¬ "type" < "error" := by decide
  cases protocol <;>
    simp only [gatewayErrorPayload, Value.ofFields, errorObject, List.foldl_cons, List.foldl_nil,
      Fields.insert, hMessageType, hCodeMessage, hTypeCode, hMessageCode, hTypeMessage,
      hTypeError, if_true, if_false, String.reduceEq]

theorem printable_renderString {s : String} (h : s.toList.flatMap escapeChar = s.toList)
    (hs : Printable s) : Printable (renderString s) := by
  rw [renderString_of_escape h]
  exact ((by decide : Printable "\"").append hs).append (by decide)

theorem printable_errorObject (e : StreamTermination) : Printable (render (errorObject e)) := by
  have hCode := printable_renderString (escape_code e) (printable_code e)
  have hMessage := printable_renderString (escape_message e) (printable_message e)
  have hField : ∀ key value, Printable (renderString key) → Printable value →
      Printable (renderString key ++ ":" ++ value) := fun key value hKey hValue =>
    (hKey.append (by decide)).append hValue
  have hFields : Printable (renderFields
      [("code", .string e.code), ("message", .string e.message), ("type", .string e.code)]) := by
    simp only [renderFields, render]
    exact ((hField "code" _ (by decide) hCode).append (by decide)).append
      (((hField "message" _ (by decide) hMessage).append (by decide)).append
        (hField "type" _ (by decide) hCode))
  exact ((by decide : Printable "\x7b").append hFields).append (by decide)

theorem printable_gatewayErrorBody (protocol : Protocol) (e : StreamTermination) :
    Printable (gatewayErrorBody protocol e) := by
  have hError : Printable (renderString "error" ++ ":" ++ render (errorObject e)) :=
    (by decide : Printable (renderString "error" ++ ":")).append (printable_errorObject e)
  have hType : Printable (renderString "type" ++ ":" ++ renderString "error") := by decide
  unfold gatewayErrorBody
  rw [gatewayErrorPayload_eq]
  cases protocol with
  | openAiChatCompletions =>
    simp only [render, renderFields]
    exact ((by decide : Printable "\x7b").append hError).append (by decide)
  | openAiResponses | anthropicMessages =>
    simp only [render, renderFields]
    exact ((by decide : Printable "\x7b").append
      ((hError.append (by decide : Printable ",")).append hType)).append (by decide)

theorem gatewayErrorBody_ends (protocol : Protocol) (e : StreamTermination) :
    ∃ inner, gatewayErrorBody protocol e = "\x7b" ++ inner ++ "\x7d" := by
  unfold gatewayErrorBody
  rw [gatewayErrorPayload_eq]
  cases protocol <;> exact ⟨_, rfl⟩

theorem gatewayErrorBody_head (protocol : Protocol) (e : StreamTermination) :
    (gatewayErrorBody protocol e).toList.head? = some '\x7b' := by
  obtain ⟨inner, hBody⟩ := gatewayErrorBody_ends protocol e
  rw [hBody]
  simp

theorem gatewayErrorBody_last (protocol : Protocol) (e : StreamTermination) :
    (gatewayErrorBody protocol e).toList.getLast? = some '\x7d' := by
  obtain ⟨inner, hBody⟩ := gatewayErrorBody_ends protocol e
  rw [hBody, String.toList_append]
  exact List.getLast?_concat

theorem code_length_le (e : StreamTermination) : e.code.length ≤ 27 := by
  cases e <;> exact length_ofList_le (by decide)

theorem message_length_le (e : StreamTermination) : e.message.length ≤ 46 := by
  cases e <;> exact length_ofList_le (by decide)

theorem gatewayErrorBody_length_le (protocol : Protocol) (e : StreamTermination) :
    (utf8 (gatewayErrorBody protocol e)).length ≤ 300 := by
  have hCode := code_length_le e
  have hMessage := message_length_le e
  have hKeys : ∀ key ∈ ["code", "message", "type", "error"], (renderString key).length ≤ 9 := by
    decide
  have hMarks : ∀ s ∈ ["\x7b", "\x7d", ":", ",", "\""], s.length = 1 := by decide
  simp only [List.forall_mem_cons, List.not_mem_nil, false_implies, implies_true, and_true]
    at hKeys hMarks
  obtain ⟨hCodeKey, hMessageKey, hTypeKey, hErrorKey⟩ := hKeys
  obtain ⟨hOpen, hClose, hColon, hComma, hQuote⟩ := hMarks
  rw [utf8_length (printable_gatewayErrorBody protocol e), gatewayErrorBody, gatewayErrorPayload_eq]
  cases protocol with
  | openAiChatCompletions | openAiResponses | anthropicMessages =>
    simp only [render, renderFields, errorObject, renderString_of_escape (escape_code e),
      renderString_of_escape (escape_message e), String.length_append, hOpen, hClose, hColon,
      hComma, hQuote]
    omega

theorem gatewayErrorFrame_eq (protocol : Protocol) (e : StreamTermination) :
    gatewayErrorFrame protocol e =
      match protocol with
      | .openAiChatCompletions =>
        utf8 "data: " ++ utf8 (gatewayErrorBody protocol e) ++ [lf, lf] ++ chatDoneFrame
      | .openAiResponses | .anthropicMessages =>
        utf8 "event: error" ++ [lf] ++
          (utf8 "data: " ++ utf8 (gatewayErrorBody protocol e) ++ [lf, lf]) := by
  have hDone : utf8 "\n\ndata: [DONE]\n\n" = [lf, lf] ++ chatDoneFrame := by decide
  have hEvent : utf8 "event: error\ndata: " = utf8 "event: error" ++ [lf] ++ utf8 "data: " := by
    decide
  have hEnd : utf8 "\n\n" = [lf, lf] := by decide
  unfold gatewayErrorFrame
  cases protocol with
  | openAiChatCompletions => simp only [utf8_append, hDone, List.append_assoc]
  | openAiResponses | anthropicMessages =>
    simp only [utf8_append, hEvent, hEnd, List.append_assoc]

end AiGateway.Stream
