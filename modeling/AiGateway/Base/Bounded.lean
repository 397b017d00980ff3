import AiGateway.Base.Relational

/-!
# Reading within a limit

What arrives in chunks is kept as long as it does not get longer than a limit.  The result
depends on what arrives and on how it ends, and not on where it is cut into chunks.
-/

namespace AiGateway.Bounded

set_option autoImplicit false

open AiGateway.Checked

variable {α ε ε' : Type}

/-- The chunks that arrive, and the error that breaks them off. -/
structure Chunked (α ε : Type) where
  chunks : List (List α)
  broken : Option ε

def Chunked.mapError (f : ε → ε') (stream : Chunked α ε) : Chunked α ε' :=
  ⟨stream.chunks, stream.broken.map f⟩

section Reading

variable (limit : Nat) (tooLarge : ε)

def appendChunk (kept chunk : List α) : Except ε (List α) :=
  if limit < kept.length + chunk.length then .error tooLarge else .ok (kept ++ chunk)

def readChunks (stream : Chunked α ε) : Except ε (List α) := do
  let kept ← stream.chunks.foldlM (appendChunk limit tooLarge) []
  match stream.broken with
  | some error => .error error
  | none => .ok kept

end Reading

variable {limit : Nat} {tooLarge : ε}

theorem appendChunk_length {kept chunk : List α} :
    Ensures (appendChunk limit tooLarge kept chunk) fun next => next.length ≤ limit := by
  intro next hNext
  unfold appendChunk at hNext
  split at hNext
  · cases hNext
  · cases hNext
    rw [List.length_append]
    omega

theorem foldlM_appendChunk {kept : List α} (hKept : kept.length ≤ limit)
    (chunks : List (List α)) :
    chunks.foldlM (appendChunk limit tooLarge) kept =
      if limit < kept.length + chunks.flatten.length then .error tooLarge
      else .ok (kept ++ chunks.flatten) := by
  induction chunks generalizing kept with
  | nil =>
    rw [List.flatten_nil, List.length_nil, List.append_nil, if_neg (by omega)]
    rfl
  | cons chunk rest ih =>
    rw [List.foldlM_cons, List.flatten_cons, List.length_append]
    cases hNext : appendChunk limit tooLarge kept chunk with
    | error error =>
      rw [appendChunk] at hNext
      split at hNext
      · next hLong =>
        cases hNext
        rw [if_pos (by omega)]
        rfl
      · cases hNext
    | ok next =>
      have hShort := appendChunk_length next hNext
      rw [appendChunk] at hNext
      split at hNext
      · cases hNext
      · cases hNext
        refine (ih hShort).trans ?_
        rw [List.length_append, List.append_assoc, Nat.add_assoc]

theorem readChunks_eq (stream : Chunked α ε) :
    readChunks limit tooLarge stream =
      if limit < stream.chunks.flatten.length then .error tooLarge
      else match stream.broken with
        | some error => .error error
        | none => .ok stream.chunks.flatten := by
  rw [readChunks, foldlM_appendChunk (Nat.zero_le limit), List.length_nil, Nat.zero_add]
  split
  · rfl
  · rfl

theorem readChunks_eq_ok {stream : Chunked α ε} {body : List α} :
    readChunks limit tooLarge stream = .ok body ↔
      stream.chunks.flatten.length ≤ limit ∧ stream.broken = none ∧
        body = stream.chunks.flatten := by
  rw [readChunks_eq]
  split
  · next hLong =>
    constructor
    · intro h
      cases h
    · rintro ⟨hShort, -⟩
      omega
  · next hShort =>
    cases hBroken : stream.broken with
    | some error => simp
    | none =>
      simp only [Except.ok.injEq, true_and]
      exact ⟨fun h => ⟨by omega, h.symm⟩, fun h => h.2.symm⟩

theorem readChunks_congr {stream stream' : Chunked α ε}
    (hContent : stream.chunks.flatten = stream'.chunks.flatten)
    (hBroken : stream.broken = stream'.broken) :
    readChunks limit tooLarge stream = readChunks limit tooLarge stream' := by
  rw [readChunks_eq, readChunks_eq, hContent, hBroken]

end AiGateway.Bounded
