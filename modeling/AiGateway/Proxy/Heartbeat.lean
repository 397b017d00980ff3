import AiGateway.Proxy.FeedFrame
import AiGateway.Proxy.Standalone
import AiGateway.Sse.Client

/-!
# Where a heartbeat may stand

The wrapper writes a heartbeat when the tracker holds no part of a frame.  The
client is then between two frames and reads the heartbeat as a comment.  The
tracker says nothing once it has hit a limit, and a heartbeat in front of a
byte-order mark keeps the client from dropping the mark.
-/

namespace AiGateway.Stream

set_option autoImplicit false

open AiGateway.Json AiGateway.Text AiGateway.Sse

section

variable (parse : String → Option Value)

/-- The tracker after the chunks of a body. -/
def feedChunks (t : SseEventTracker) (chunks : List Bytes) : SseEventTracker :=
  chunks.foldl (fun t chunk => (t.feed parse chunk).1) t

theorem feed_limited {t : SseEventTracker} (h : t.terminal = some .bufferLimitExceeded)
    (chunk : Bytes) : (t.feed parse chunk).1 = t := by
  simp [SseEventTracker.feed, h]

theorem feedChunks_limited {t : SseEventTracker} (h : t.terminal = some .bufferLimitExceeded)
    (chunks : List Bytes) : feedChunks parse t chunks = t := by
  induction chunks with
  | nil => rfl
  | cons chunk rest ih =>
    change feedChunks parse (t.feed parse chunk).1 rest = t
    rw [feed_limited parse h]
    exact ih

theorem Follows.feedChunks {t : SseEventTracker} {r : Reader} {afterCr : Bool}
    (h : Follows t r) (chunks : List Bytes) (hAfter : r.afterCr = true → afterCr = true)
    (hLines : crlfOnly afterCr chunks.flatten)
    (hLimit : (Stream.feedChunks parse t chunks).terminal ≠ some .bufferLimitExceeded) :
    Follows (Stream.feedChunks parse t chunks) (r.read chunks.flatten) := by
  induction chunks generalizing t r afterCr with
  | nil => exact h
  | cons chunk rest ih =>
    change (Stream.feedChunks parse (t.feed parse chunk).1 rest).terminal ≠ _ at hLimit
    rw [List.flatten_cons] at hLines ⊢
    have hHere : (t.feed parse chunk).1.terminal ≠ some .bufferLimitExceeded := by
      intro hEq
      rw [feedChunks_limited parse hEq] at hLimit
      exact hLimit hEq
    obtain ⟨hNext, afterCr', hAfter', hLines'⟩ := h.feed parse chunk hAfter hLines hHere
    rw [Reader.read_append]
    exact ih hNext hAfter' hLines' hLimit

end

theorem Led.not_collects {line : Bytes} (h : Led line) : collects line = false := by
  cases line with
  | nil => rcases h with h | h <;> cases h
  | cons b bs =>
    have hEvent : utf8 "event" = [0x65, 0x76, 0x65, 0x6E, 0x74] := by decide
    have hData : utf8 "data" = [0x64, 0x61, 0x74, 0x61] := by decide
    rcases h with h | h
    · simp [collects, isComment, h]
    · have hSpace : b = space := by simpa using h
      subst hSpace
      simp [collects, isComment, hEvent, hData, space, colon]

theorem Led.not_marked {line : Bytes} (h : Led line) : ¬byteOrderMark <+: line := by
  rintro ⟨rest, rfl⟩
  rcases h with h | h <;> simp [byteOrderMark, colon, space] at h

theorem heartbeatFrame_eq :
    heartbeatFrame = colon :: utf8 " gateway-heartbeat" ++ [lf, lf] := by decide

theorem read_heartbeat {r : Reader} (h : r.Idle) :
    (r.read heartbeatFrame).Idle ∧ (r.read heartbeatFrame).events = r.events ∧
      (r.read heartbeatFrame).afterCr = false := by
  rw [heartbeatFrame_eq]
  exact h.read_comment (utf8_ne_lineEnd (by decide))

/-- Some heartbeats, one after the other. -/
def heartbeats : ℕ → Bytes
  | 0 => []
  | beats + 1 => heartbeatFrame ++ heartbeats beats

/-- An idle client reads heartbeats as comments. -/
theorem read_heartbeats {r : Reader} (h : r.Idle) (beats : ℕ) :
    (r.read (heartbeats (beats + 1))).Idle ∧ (r.read (heartbeats (beats + 1))).events = r.events ∧
      (r.read (heartbeats (beats + 1))).afterCr = false := by
  obtain ⟨hIdle, hEvents, hCr⟩ := read_heartbeat h
  rw [heartbeats, Reader.read_append]
  induction beats generalizing r with
  | zero =>
    rw [heartbeats, Reader.read_nil]
    exact ⟨hIdle, hEvents, hCr⟩
  | succ beats ih =>
    obtain ⟨hIdle', hEvents', hCr'⟩ := read_heartbeat hIdle
    obtain ⟨hLast, hLastEvents, hLastCr⟩ := ih hIdle hIdle' hEvents' hCr'
    rw [heartbeats, Reader.read_append]
    exact ⟨hLast, hLastEvents.trans hEvents, hLastCr⟩

theorem heartbeats_not_marked (beats : ℕ) (rest : Bytes) :
    ¬byteOrderMark <+: heartbeats (beats + 1) ++ rest := by
  rintro ⟨tail, hTail⟩
  rw [heartbeats, heartbeatFrame_eq] at hTail
  injection hTail with hFirst
  exact absurd hFirst (by decide)

/-- Octets that leave the client at the start of a line are no piece of a byte-order mark. -/
theorem client_append_of_line {bytes rest : Bytes} (hLine : (({} : Reader).read bytes).line = [])
    (hMark : bytes = [] → ¬byteOrderMark <+: rest) :
    client (bytes ++ rest) = (client bytes).read rest := by
  cases bytes with
  | nil =>
    have hNot : byteOrderMark.isPrefixOf rest = false := by
      rw [← Bool.not_eq_true, List.isPrefixOf_iff_prefix]
      exact hMark rfl
    simp only [List.nil_append, client, stripBom, hNot, Bool.false_eq_true, if_false]
    rfl
  | cons b bs =>
    refine client_append (.inl ?_) rest
    intro hPiece
    have hPlain : ∀ c ∈ b :: bs, c ≠ lf ∧ c ≠ cr := by
      have hBom : ∀ c ∈ byteOrderMark, c ≠ lf ∧ c ≠ cr := by simp [byteOrderMark, lf, cr]
      exact fun c hc => hBom c (hPiece.subset hc)
    rw [Reader.read_plain rfl hPlain] at hLine
    exact List.cons_ne_nil b bs hLine

/-- Where the tracker lets a heartbeat through, short of its limits, the client is between two
frames and heartbeats change none of its events, unless they stand before a byte-order mark. -/
theorem heartbeat_between_frames (parse : String → Option Value) {chunks : List Bytes}
    (hLines : crlfOnly false chunks.flatten)
    (hSafe : (feedChunks parse {} chunks).safeForHeartbeat = true)
    (hLimit : (feedChunks parse {} chunks).terminal ≠ some .bufferLimitExceeded) :
    (client chunks.flatten).Idle ∧
      ∀ (beats : ℕ) (rest : Bytes), (chunks.flatten = [] → ¬byteOrderMark <+: rest) →
        (client (chunks.flatten ++ (heartbeats beats ++ rest))).events =
          (client (chunks.flatten ++ rest)).events := by
  have hClean := (SseEventTracker.safeForHeartbeat_iff _).mp hSafe
  have hStart : Follows {} {} := .ofLineEnd Reader.sound_empty rfl rfl rfl (by simp)
  have hFollows := hStart.feedChunks parse chunks (fun h => by cases h) hLines hLimit
  have hLine : (({} : Reader).read chunks.flatten).line = [] := by
    cases hCr : (({} : Reader).read chunks.flatten).afterCr with
    | true => exact hFollows.sound.lineEnded hCr
    | false => rw [hFollows.line hCr, hClean.line]
  have hIdle : (client chunks.flatten).Idle := by
    refine client_idle hLine fun l hl => ?_
    have hLed := hFollows.openLed hClean.comment l hl
    exact ⟨hLed.not_collects, hLed.not_marked⟩
  refine ⟨hIdle, ?_⟩
  intro beats rest hMark
  cases beats with
  | zero => rfl
  | succ beats =>
    obtain ⟨hIdle', hEvents', hCr'⟩ := read_heartbeats hIdle beats
    rw [client_append_of_line hLine fun _ => heartbeats_not_marked beats rest,
      client_append_of_line hLine hMark, Reader.read_append]
    exact (hIdle.read_events hIdle' hEvents'.symm hCr' rest).symm

/-- Two heartbeats behind a comment line that came in two chunks. -/
theorem heartbeat_between_frames_comment :
    (client (utf8 ": ping\r\n")).Idle ∧
      (client (utf8 ": ping\r\n" ++ (heartbeats 2 ++ utf8 "data: x\n\n"))).events =
        (client (utf8 ": ping\r\n" ++ utf8 "data: x\n\n")).events := by
  have hChunks : [utf8 ": pi", utf8 "ng\r\n"].flatten = utf8 ": ping\r\n" := by decide
  have hBetween := heartbeat_between_frames (fun _ => none)
    (by rw [hChunks]; decide : crlfOnly false [utf8 ": pi", utf8 "ng\r\n"].flatten)
    (by decide) (by decide)
  rw [hChunks] at hBetween
  exact ⟨hBetween.1, hBetween.2 2 _ (by decide)⟩

/-! ## Behind a limit, and before a byte-order mark -/

theorem crlfOnly_of_plain {bytes : Bytes} (h : ∀ b ∈ bytes, b ≠ lf ∧ b ≠ cr) :
    crlfOnly false bytes := by
  induction bytes with
  | nil => trivial
  | cons b bs ih =>
    refine ⟨fun hTrue => Bool.noConfusion hTrue, ?_⟩
    have hNotCr : (b == cr) = false := beq_eq_false_iff_ne.mpr (h b List.mem_cons_self).2
    rw [hNotCr]
    exact ih fun c hc => h c (List.mem_cons_of_mem b hc)

/-- The limit clears a comment line, so the tracker reports no open frame. -/
theorem feedBytes_full {parse : String → Option Value} {t : SseEventTracker} (h : t.Clean)
    (hCount : t.frameBytes = 0) (a : SseActivity) {text : Bytes}
    (hPlain : ∀ b ∈ text, b ≠ lf ∧ b ≠ cr) (hFull : text.length + 1 = maxSseFrameBytes)
    (b : UInt8) : (t.feedBytes parse a (colon :: (text ++ [b]))).1.safeForHeartbeat = true := by
  have hRoom : ¬maxSseFrameBytes ≤ t.frameBytes := by
    rw [hCount]
    decide
  have hPush : ({ t with frameBytes := t.frameBytes + 1 } : SseEventTracker).pushByte colon =
      { t with line := [colon], frameBytes := 1 } := by
    simp [SseEventTracker.pushByte, h.line, hCount]
  have hFits : ({ t with line := [colon], frameBytes := 1 } : SseEventTracker).frameBytes +
      text.length ≤ maxSseFrameBytes := by
    change 1 + text.length ≤ maxSseFrameBytes
    omega
  rw [SseEventTracker.feedBytes, if_neg hRoom]
  simp only [if_neg (by decide : colon ≠ lf), if_neg (by decide : colon ≠ cr)]
  rw [hPush, SseEventTracker.feedBytes_more parse (List.cons_ne_nil _ _) a hPlain hFits,
    SseEventTracker.feedBytes, if_pos (by change _ ≤ 1 + text.length; omega)]
  exact (SseEventTracker.safeForHeartbeat_iff _).mpr ⟨rfl, rfl, rfl, h.comment⟩

theorem feedChunks_full (parse : String → Option Value) {text : Bytes}
    (hPlain : ∀ b ∈ text, b ≠ lf ∧ b ≠ cr) (hFull : text.length + 1 = maxSseFrameBytes)
    (b : UInt8) : (feedChunks parse {} [colon :: (text ++ [b])]).safeForHeartbeat = true := by
  change (({} : SseEventTracker).feed parse (colon :: (text ++ [b]))).1.safeForHeartbeat = true
  unfold SseEventTracker.feed
  rw [if_neg (by decide)]
  split
  · exact feedBytes_full ⟨rfl, rfl, rfl, rfl⟩ rfl _ hPlain hFull b
  · exact feedBytes_full ⟨rfl, rfl, rfl, rfl⟩ rfl _ hPlain hFull b

theorem client_openComment {text : Bytes} (hPlain : ∀ b ∈ colon :: text, b ≠ lf ∧ b ≠ cr) :
    ¬(client [colon :: text].flatten).Idle := by
  intro hIdle
  have hMark : byteOrderMark.isPrefixOf (colon :: text) = false := rfl
  have hRead : client (colon :: text) = { line := colon :: text } := by
    unfold client stripBom
    rw [hMark, if_neg Bool.false_ne_true, Reader.read_plain rfl hPlain]
    rfl
  have hLine := hIdle.line
  rw [List.flatten_singleton, hRead] at hLine
  exact List.cons_ne_nil _ _ hLine

/-- As many letters as fit a frame behind its first octet. -/
def frameText : Bytes := List.replicate (maxSseFrameBytes - 1) 0x61

theorem frameText_plain : ∀ b ∈ frameText, b ≠ lf ∧ b ≠ cr := by
  intro b hb
  rw [List.eq_of_mem_replicate hb]
  decide

theorem frameText_length : frameText.length + 1 = maxSseFrameBytes := by
  rw [frameText, List.length_replicate]
  decide

/-- A comment that runs into the tracker's limit is still open where the tracker lets a heartbeat
through, and a heartbeat before a byte-order mark loses the first event. -/
theorem heartbeat_splits_line_or_mark :
    (crlfOnly false [colon :: (frameText ++ [0x61])].flatten ∧
      (feedChunks (fun _ => none) {} [colon :: (frameText ++ [0x61])]).safeForHeartbeat = true ∧
      ¬(client [colon :: (frameText ++ [0x61])].flatten).Idle) ∧
    ((feedChunks (fun _ => none) {} []).safeForHeartbeat = true ∧
      (client (heartbeats 1 ++ (byteOrderMark ++ utf8 "data: x\n\n"))).events ≠
        (client (byteOrderMark ++ utf8 "data: x\n\n")).events) := by
  have hPlain : ∀ b ∈ colon :: (frameText ++ [0x61]), b ≠ lf ∧ b ≠ cr := by
    intro b hb
    rcases List.mem_cons.mp hb with rfl | hb
    · decide
    · rcases List.mem_append.mp hb with hb | hb
      · exact frameText_plain b hb
      · rw [List.mem_singleton.mp hb]
        decide
  constructor
  · refine ⟨?_, feedChunks_full _ frameText_plain frameText_length _, client_openComment hPlain⟩
    rw [List.flatten_singleton]
    exact crlfOnly_of_plain hPlain
  · constructor
    · decide
    · decide

end AiGateway.Stream
