import AiGateway.Proxy.Observe
import AiGateway.Base.LossySearch

/-!
# The reasoning estimate

Between two blocks the estimate keeps a window of six bytes, within a block all of
it.  What it counts is what a search of the whole text finds.
-/

namespace AiGateway.Stream.ThinkingEstimate

set_option autoImplicit false

open AiGateway.Text AiGateway.Search AiGateway.Usage

theorem openTag_eq : openTag = asciiOctets "<think>".toList := utf8_of_printable (by decide)

theorem closeTag_eq : closeTag = asciiOctets "</think>".toList := utf8_of_printable (by decide)

theorem openTag_length : openTag.length = 7 := by
  rw [openTag_eq]
  rfl

theorem closeTag_length : closeTag.length = 8 := by
  rw [closeTag_eq]
  rfl

theorem openTag_ne_nil : openTag ≠ [] := List.ne_nil_of_length_pos (by rw [openTag_length]; decide)

theorem closeTag_ne_nil : closeTag ≠ [] :=
  List.ne_nil_of_length_pos (by rw [closeTag_length]; decide)

/-- The bytes kept between two blocks. -/
def window (seen : Bytes) : Bytes := seen.drop (seen.length - 6)

theorem window_length (seen : Bytes) : (window seen).length = min seen.length 6 := by
  rw [window, List.length_drop]
  omega

theorem endsWith_window (seen : Bytes) (b : UInt8) :
    endsWith (window seen ++ [b]) openTag = endsWith (seen ++ [b]) openTag := by
  have hSuffix : window seen ++ [b] <:+ seen ++ [b] :=
    ⟨seen.take (seen.length - 6), by rw [window, ← List.append_assoc, List.take_append_drop]⟩
  rw [Bool.eq_iff_iff, endsWith, endsWith, List.isSuffixOf_iff_suffix, List.isSuffixOf_iff_suffix]
  constructor
  · intro hTag
    exact hTag.trans hSuffix
  · intro hTag
    apply List.suffix_of_suffix_length_le hTag hSuffix
    have hLength := hTag.length_le
    rw [openTag_length] at hLength ⊢
    rw [List.length_append, List.length_singleton] at hLength ⊢
    rw [window_length]
    omega

theorem window_append (seen : Bytes) (b : UInt8) :
    (if openTag.length ≤ (window seen ++ [b]).length then (window seen ++ [b]).drop 1
      else window seen ++ [b]) = window (seen ++ [b]) := by
  rw [openTag_length, List.length_append, List.length_singleton, window_length]
  rcases Nat.lt_or_ge seen.length 6 with hShort | hLong
  · rw [if_neg (by omega), window, window, List.length_append, List.length_singleton,
      Nat.sub_eq_zero_of_le (by omega), Nat.sub_eq_zero_of_le (by omega)]
    rfl
  · rw [if_pos (by omega), window, window, List.length_append, List.length_singleton,
      ← List.drop_append_of_le_length (by omega), List.drop_drop]
    congr 1
    omega

def blockTokens (countTokens : String → Nat) (blocks : List Bytes) : Nat :=
  (blocks.map fun block => countTokens (fromUtf8Lossy block)).sum

def blockBytes (blocks : List Bytes) : Nat :=
  (blocks.map fun block => block.length + closeTag.length).sum

theorem blockTokens_append (countTokens : String → Nat) (blocks : List Bytes) (block : Bytes) :
    blockTokens countTokens (blocks ++ [block]) =
      blockTokens countTokens blocks + countTokens (fromUtf8Lossy block) := by
  simp [blockTokens]

theorem blockBytes_append (blocks : List Bytes) (block : Bytes) :
    blockBytes (blocks ++ [block]) = blockBytes blocks + (block.length + closeTag.length) := by
  simp [blockBytes]

def spent (phase : Phase UInt8) (blocks : List Bytes) : Nat :=
  blockBytes blocks + (phase.unclosed.getD []).length

def readTag (phase : Phase UInt8) (b : UInt8) : Phase UInt8 × Option Bytes :=
  Search.read openTag closeTag phase b

theorem spent_readTag (phase : Phase UInt8) (b : UInt8) (blocks : List Bytes) :
    spent (readTag phase b).1 (blocks ++ (readTag phase b).2.toList) =
      spent phase blocks + if phase.unclosed.isSome then 1 else 0 := by
  cases phase with
  | outside seen =>
    rw [readTag, Search.read]
    split <;> simp [spent, Phase.unclosed]
  | inside text =>
    rw [readTag, Search.read]
    split
    · next hTag =>
      have hLength := (List.isSuffixOf_iff_suffix.mp hTag).length_le
      rw [closeTag_length, List.length_append, List.length_singleton] at hLength
      simp only [spent, Phase.unclosed, Option.toList_some, blockBytes_append, List.length_take,
        List.length_append, List.length_singleton, closeTag_length, Option.getD_none,
        List.length_nil, Option.getD_some, Option.isSome_some, if_true]
      omega
    · simp [spent, Phase.unclosed, Nat.add_assoc]

/-- The blocks read are more than the estimate looks at. -/
def Exceeded (phase : Phase UInt8) (blocks : List Bytes) : Prop :=
  maxEstimateBytes < spent phase blocks ∨
    phase.unclosed.isSome = true ∧ maxEstimateBytes ≤ spent phase blocks

theorem Exceeded.readTag {phase : Phase UInt8} {blocks : List Bytes} (h : Exceeded phase blocks)
    (b : UInt8) :
    Exceeded (ThinkingEstimate.readTag phase b).1
      (blocks ++ (ThinkingEstimate.readTag phase b).2.toList) := by
  have hSpent := spent_readTag phase b blocks
  left
  rcases h with hMore | ⟨hInside, hFull⟩
  · omega
  · rw [if_pos hInside] at hSpent
    omega

/-- What the estimate holds of the bytes it has read. -/
structure Holds (countTokens : String → Nat) (e : ThinkingEstimate) (phase : Phase UInt8)
    (blocks : List Bytes) : Prop where
  available : e.unavailable = false
  inside : e.inside = phase.unclosed.isSome
  tokens : e.tokens = min (blockTokens countTokens blocks : Int) (2 ^ 63 - 1)
  processed : e.processedBytes = spent phase blocks
  bounded : spent phase blocks ≤ maxEstimateBytes
  pending : e.pending = match phase with
    | .outside seen => window seen
    | .inside text => text
  room : e.pending.length < maxEstimateBytes

def Tracks (countTokens : String → Nat) (e : ThinkingEstimate) (phase : Phase UInt8)
    (blocks : List Bytes) : Prop :=
  Holds countTokens e phase blocks ∨
    e.unavailable = true ∧ e.pending = [] ∧ Exceeded phase blocks

theorem saturatingAddI64_min (a b : Nat) :
    saturatingAddI64 (min (a : Int) (2 ^ 63 - 1)) b = min ((a + b : Nat) : Int) (2 ^ 63 - 1) := by
  unfold saturatingAddI64
  omega

theorem Holds.feed_outside {countTokens : String → Nat} {e : ThinkingEstimate} {seen : Bytes}
    {blocks : List Bytes} (h : Holds countTokens e (.outside seen) blocks) (b : UInt8) :
    Holds countTokens (e.feedByte countTokens b) (readTag (.outside seen) b).1
      (blocks ++ (readTag (.outside seen) b).2.toList) := by
  have hAvailable : ¬e.unavailable = true := by rw [h.available]; exact Bool.false_ne_true
  have hInside : ¬e.inside = true := by rw [h.inside]; exact Bool.false_ne_true
  have hPending : e.pending = window seen := h.pending
  have hNext : ∀ pending, pending = window (seen ++ [b]) →
      Holds countTokens { e with pending } (.outside (seen ++ [b])) blocks := by
    rintro pending rfl
    exact {
      available := h.available
      inside := h.inside
      tokens := h.tokens
      processed := h.processed
      bounded := h.bounded
      pending := rfl
      room := by
        rw [window_length]
        exact Nat.lt_of_le_of_lt (Nat.min_le_right _ _) (by decide) }
  rw [feedByte, if_neg hAvailable]
  dsimp only
  rw [if_neg hInside, hPending, endsWith_window, readTag, Search.read, endsWith]
  have hAppend := window_append seen b
  split
  · dsimp only
    rw [Option.toList_none, List.append_nil]
    exact {
      available := h.available
      inside := rfl
      tokens := h.tokens
      processed := h.processed
      bounded := h.bounded
      pending := rfl
      room := Nat.lt_of_lt_of_le Nat.zero_lt_one (by decide) }
  · dsimp only
    rw [Option.toList_none, List.append_nil]
    split
    · next hFull =>
      rw [if_pos hFull] at hAppend
      exact hNext _ hAppend
    · next hShort =>
      rw [if_neg hShort] at hAppend
      exact hNext _ hAppend

/-- Within a block the byte is counted, and may end the block or the estimate. -/
theorem Holds.feed_inside {countTokens : String → Nat} {e : ThinkingEstimate} {text : Bytes}
    {blocks : List Bytes} (h : Holds countTokens e (.inside text) blocks) (b : UInt8) :
    Tracks countTokens (e.feedByte countTokens b) (readTag (.inside text) b).1
      (blocks ++ (readTag (.inside text) b).2.toList) := by
  have hAvailable : ¬e.unavailable = true := by rw [h.available]; exact Bool.false_ne_true
  have hInside : e.inside = true := h.inside
  have hPending : e.pending = text := h.pending
  have hProcessed := h.processed
  have hSpent := spent_readTag (.inside text) b blocks
  have hUnclosed : (Phase.inside text).unclosed.isSome = true := rfl
  rw [if_pos hUnclosed] at hSpent
  rw [feedByte, if_neg hAvailable]
  dsimp only
  rw [if_pos hInside, hPending]
  rcases Nat.lt_or_ge maxEstimateBytes (e.processedBytes + 1) with hMore | hWithin
  · rw [if_pos hMore]
    refine .inr ⟨rfl, rfl, .inl ?_⟩
    omega
  rw [if_neg (Nat.not_lt.mpr hWithin), endsWith]
  have hBounded : spent (readTag (.inside text) b).1
      (blocks ++ (readTag (.inside text) b).2.toList) ≤ maxEstimateBytes := by omega
  have hCounted : e.processedBytes + 1 = spent (readTag (.inside text) b).1
      (blocks ++ (readTag (.inside text) b).2.toList) := by omega
  rw [readTag, Search.read] at hBounded hCounted hSpent ⊢
  by_cases hTag : closeTag.isSuffixOf (text ++ [b]) = true
  · rw [if_pos hTag] at hBounded hCounted ⊢
    rw [if_pos hTag]
    left
    have hTokens := saturatingAddI64_min (blockTokens countTokens blocks)
    rw [← h.tokens] at hTokens
    exact {
      available := h.available
      inside := rfl
      tokens := by
        dsimp only
        rw [Option.toList_some, blockTokens_append, hTokens, List.length_append,
          List.length_singleton]
      processed := hCounted
      bounded := hBounded
      pending := rfl
      room := Nat.lt_of_lt_of_le Nat.zero_lt_one (by decide) }
  · rw [if_neg hTag] at hBounded hCounted hSpent ⊢
    rw [if_neg hTag]
    dsimp only at hBounded hCounted hSpent ⊢
    rw [Option.toList_none, List.append_nil] at hBounded hCounted hSpent ⊢
    split
    · next hFull =>
      refine .inr ⟨rfl, rfl, .inr ⟨rfl, ?_⟩⟩
      exact Nat.le_trans hFull (Nat.le_add_left _ _)
    · next hRoom =>
      exact .inl {
        available := h.available
        inside := h.inside
        tokens := h.tokens
        processed := hCounted
        bounded := hBounded
        pending := rfl
        room := Nat.lt_of_not_le hRoom }

/-- One byte: the estimate goes on tracking the reading of the text. -/
theorem Tracks.feedByte {countTokens : String → Nat} {e : ThinkingEstimate} {phase : Phase UInt8}
    {blocks : List Bytes} (h : Tracks countTokens e phase blocks) (b : UInt8) :
    Tracks countTokens (e.feedByte countTokens b) (readTag phase b).1
      (blocks ++ (readTag phase b).2.toList) := by
  rcases h with hHolds | ⟨hUnavailable, hPending, hExceeded⟩
  · cases phase with
    | outside seen => exact .inl (hHolds.feed_outside b)
    | inside text => exact hHolds.feed_inside b
  · rw [ThinkingEstimate.feedByte, if_pos hUnavailable]
    exact .inr ⟨hUnavailable, hPending, hExceeded.readTag b⟩

theorem Tracks.feed {countTokens : String → Nat} {e : ThinkingEstimate} {phase : Phase UInt8}
    {blocks : List Bytes} (h : Tracks countTokens e phase blocks) (bytes : Bytes) :
    Tracks countTokens (e.feed countTokens bytes) (readAll openTag closeTag phase bytes).1
      (blocks ++ (readAll openTag closeTag phase bytes).2) := by
  induction bytes generalizing e phase blocks with
  | nil =>
    rw [readAll, List.append_nil]
    exact h
  | cons b bs ih =>
    have hNext := ih (h.feedByte b)
    rw [List.append_assoc] at hNext
    exact hNext

theorem feed_chunks (countTokens : String → Nat) (e : ThinkingEstimate) (chunks : List Bytes) :
    chunks.foldl (ThinkingEstimate.feed countTokens) e = e.feed countTokens chunks.flatten := by
  induction chunks generalizing e with
  | nil => rfl
  | cons chunk rest ih =>
    rw [List.foldl_cons, ih, List.flatten_cons, ThinkingEstimate.feed, ThinkingEstimate.feed,
      ThinkingEstimate.feed, List.foldl_append]

/-- The complete blocks of a text, and what stands after a tag that is not closed. -/
def thinkBlocks (bytes : Bytes) : List Bytes × Option Bytes := scan openTag closeTag bytes

theorem tracks_chunks (countTokens : String → Nat) (chunks : List Bytes) :
    ∃ phase : Phase UInt8, phase.unclosed = (thinkBlocks chunks.flatten).2 ∧
      Tracks countTokens (chunks.foldl (ThinkingEstimate.feed countTokens) {}) phase
        (thinkBlocks chunks.flatten).1 := by
  have hStart : Tracks countTokens {} (.outside []) [] :=
    .inl {
      available := rfl
      inside := rfl
      tokens := rfl
      processed := rfl
      bounded := Nat.zero_le _
      pending := rfl
      room := Nat.lt_of_lt_of_le Nat.zero_lt_one (by decide) }
  have hScan := scan_eq_readAll openTag_ne_nil closeTag_ne_nil chunks.flatten
  rw [thinkBlocks, hScan, feed_chunks]
  exact ⟨_, rfl, hStart.feed chunks.flatten⟩

section

variable (countTokens : String → Nat)

/-- `minimax_chat_thinking_tokens` from a cursor on; the total is an `i64`. -/
def minimaxFrom (haystack : List Char) (total : Int) : Int :=
  match _hOpen : cutAt "<think>".toList haystack with
  | none => total
  | some (_, rest) =>
    match _hClose : cutAt "</think>".toList rest with
    | none => total
    | some (text, later) => minimaxFrom later (addI64 total (countTokens (String.ofList text)))
termination_by haystack.length
decreasing_by
  rw [cutAt_eq_append _hOpen, cutAt_eq_append _hClose]
  simp only [List.length_append, String.length_toList]
  have hTag : "<think>".length = 7 := rfl
  omega

def minimaxChatThinkingTokens (captured : Bytes) : Int :=
  minimaxFrom countTokens (fromUtf8Lossy captured).toList 0

theorem minimaxFrom_step (haystack : List Char) (total : Int) :
    minimaxFrom countTokens haystack total =
      match cutAt "<think>".toList haystack with
      | none => total
      | some (_, rest) =>
        match cutAt "</think>".toList rest with
        | none => total
        | some (text, later) =>
          minimaxFrom countTokens later (addI64 total (countTokens (String.ofList text))) := by
  rw [minimaxFrom]
  split
  · next hOpen => rw [hOpen]
  · next hOpen =>
    rw [hOpen]
    dsimp only
    split
    · next hClose => rw [hClose]
    · next hClose => rw [hClose]

theorem minimaxFrom_eq (haystack : List Char) (total : Int) :
    minimaxFrom countTokens haystack total =
      (scan "<think>".toList "</think>".toList haystack).1.foldl
        (fun total text => addI64 total (countTokens (String.ofList text))) total := by
  have hTag : "<think>".toList ≠ [] := by decide
  induction haystack, total using minimaxFrom.induct countTokens with
  | case1 haystack total hOpen =>
    rw [scan_eq hTag, minimaxFrom_step, hOpen]
    rfl
  | case2 haystack total before rest hOpen hClose =>
    rw [scan_eq hTag, minimaxFrom_step, hOpen]
    dsimp only
    rw [hClose]
    rfl
  | case3 haystack total before rest hOpen text later hClose ih =>
    rw [scan_eq hTag, minimaxFrom_step, hOpen]
    dsimp only
    rw [hClose]
    exact ih

/-- A sum that fits is added up without a carry. -/
theorem foldl_addI64 {α : Type} (count : α → Nat) (xs : List α) {total : Nat}
    (h : total + (xs.map count).sum ≤ 2 ^ 63 - 1) :
    xs.foldl (fun total x => addI64 total (count x)) (total : Int) =
      ((total + (xs.map count).sum : Nat) : Int) := by
  induction xs generalizing total with
  | nil => rfl
  | cons x xs ih =>
    rw [List.map_cons, List.sum_cons] at h
    have hStep : addI64 (total : Int) (count x) = ((total + count x : Nat) : Int) := by
      rw [addI64, Int.bmod_eq_of_le (by omega) (by omega), Int.natCast_add]
    rw [List.foldl_cons, hStep, ih (by omega), List.map_cons, List.sum_cons, Nat.add_assoc]

theorem minimax_eq_blockTokens (captured : Bytes)
    (h : blockTokens countTokens (thinkBlocks captured).1 ≤ 2 ^ 63 - 1) :
    minimaxChatThinkingTokens countTokens captured =
      blockTokens countTokens (thinkBlocks captured).1 := by
  have hOpening : PrintableChars "<think>".toList := by decide
  have hClosing : PrintableChars "</think>".toList := by decide
  have hDecoded := scan_decode hOpening hClosing (by decide) (by decide) captured
  have hFits : 0 + blockTokens countTokens (thinkBlocks captured).1 ≤ 2 ^ 63 - 1 := by omega
  have hSum := foldl_addI64 (fun block => countTokens (fromUtf8Lossy block))
    (thinkBlocks captured).1 hFits
  have hText : (fromUtf8Lossy captured).toList = decode captured := String.toList_ofList
  rw [minimaxChatThinkingTokens, minimaxFrom_eq, hText, hDecoded, ← openTag_eq, ← closeTag_eq,
    List.foldl_map]
  rw [Nat.zero_add] at hSum
  exact hSum

theorem result_chunks (chunks : List Bytes) :
    (chunks.foldl (ThinkingEstimate.feed countTokens) {}).result =
      if (thinkBlocks chunks.flatten).2.isSome = true ∨
          maxEstimateBytes < blockBytes (thinkBlocks chunks.flatten).1 then none
      else some (min (blockTokens countTokens (thinkBlocks chunks.flatten).1 : Int) (2 ^ 63 - 1)) := by
  obtain ⟨phase, hUnclosed, hTracks⟩ := tracks_chunks countTokens chunks
  rw [← hUnclosed]
  rcases hTracks with hHolds | ⟨hUnavailable, -, hExceeded⟩
  · have hBounded := hHolds.bounded
    rw [result, hHolds.available, hHolds.inside, hHolds.tokens]
    cases phase with
    | outside seen =>
      have hKept : ¬((Phase.outside seen).unclosed.isSome = true ∨
          maxEstimateBytes < blockBytes (thinkBlocks chunks.flatten).1) := by
        rintro (hInside | hMore)
        · cases hInside
        · exact Nat.lt_irrefl _ (Nat.lt_of_lt_of_le hMore hBounded)
      rw [if_neg hKept]
      rfl
    | inside text =>
      have hInside : (Phase.inside text).unclosed.isSome = true := rfl
      simp only [hInside, true_or, if_true, Bool.not_true, Bool.and_false, Bool.false_eq_true,
        if_false]
  · have hLost : phase.unclosed.isSome = true ∨
        maxEstimateBytes < blockBytes (thinkBlocks chunks.flatten).1 := by
      rcases hExceeded with hMore | ⟨hInside, -⟩
      · cases phase with
        | outside seen => exact .inr hMore
        | inside text => exact .inl rfl
      · exact .inl hInside
    rw [result, hUnavailable, if_pos hLost]
    rfl

theorem pending_chunks (chunks : List Bytes) :
    (chunks.foldl (ThinkingEstimate.feed countTokens) {}).pending.length < maxEstimateBytes := by
  obtain ⟨phase, -, hTracks⟩ := tracks_chunks countTokens chunks
  rcases hTracks with hHolds | ⟨-, hPending, -⟩
  · exact hHolds.room
  · rw [hPending]
    exact Nat.lt_of_lt_of_le Nat.zero_lt_one (by decide)

/-- The incremental estimate is the scan of the whole text, capped at the largest `i64`. -/
theorem estimate_is_capped_scan (chunks : List Bytes) :
    let estimate := chunks.foldl (ThinkingEstimate.feed countTokens) {}
    let found := thinkBlocks chunks.flatten
    estimate.result =
        (if found.2.isSome = true ∨ maxEstimateBytes < blockBytes found.1 then none
          else some (min (blockTokens countTokens found.1 : Int) (2 ^ 63 - 1))) ∧
      (blockTokens countTokens found.1 ≤ 2 ^ 63 - 1 →
        minimaxChatThinkingTokens countTokens chunks.flatten = blockTokens countTokens found.1) ∧
      estimate.pending.length < maxEstimateBytes :=
  ⟨result_chunks countTokens chunks, minimax_eq_blockTokens countTokens chunks.flatten,
    pending_chunks countTokens chunks⟩

end

def emptyBlocks : Bytes := (List.replicate 8 (openTag ++ closeTag)).flatten

theorem thinkBlocks_emptyBlocks : thinkBlocks emptyBlocks = (List.replicate 8 [], none) := by
  rw [thinkBlocks, scan_eq_readAll openTag_ne_nil closeTag_ne_nil, emptyBlocks, openTag_eq,
    closeTag_eq]
  decide

/-- A sum above the largest `i64` is not what the estimate gives. -/
theorem large_sum_is_capped :
    ∃ (countTokens : String → Nat) (chunks : List Bytes),
      (∀ text, countTokens text < 2 ^ 61) ∧
        (thinkBlocks chunks.flatten).2 = none ∧
        blockBytes (thinkBlocks chunks.flatten).1 ≤ maxEstimateBytes ∧
        (chunks.foldl (ThinkingEstimate.feed countTokens) {}).result ≠
          some (blockTokens countTokens (thinkBlocks chunks.flatten).1 : Int) := by
  refine ⟨fun _ => 2 ^ 60, [emptyBlocks], fun _ => (by decide : 2 ^ 60 < 2 ^ 61), ?_⟩
  have hWhole : [emptyBlocks].flatten = emptyBlocks := List.append_nil _
  have hBytes : blockBytes (List.replicate 8 []) = 64 := by
    rw [blockBytes, closeTag_length]
    rfl
  have hTokens : blockTokens (fun _ => 2 ^ 60) (List.replicate 8 []) = 2 ^ 63 := rfl
  have hBounded : ¬maxEstimateBytes < 64 := by decide
  rw [result_chunks, hWhole, thinkBlocks_emptyBlocks]
  dsimp only
  rw [hBytes, hTokens, if_neg (by simp [hBounded])]
  refine ⟨rfl, by decide, ?_⟩
  intro hEq
  injection hEq with hEq
  exact absurd hEq (by decide)

end AiGateway.Stream.ThinkingEstimate
