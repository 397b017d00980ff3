import Mathlib.Data.List.Infix

/-!
# Bracketed blocks of a list

`scan` finds the leftmost blocks between an opening and a closing mark by search.
`read` takes the elements one at a time and finds the same blocks.
-/

namespace AiGateway.Search

set_option autoImplicit false

variable {α : Type} [DecidableEq α]

/-- What stands before and after the first occurrence of a mark. -/
def cutAt (mark : List α) : List α → Option (List α × List α)
  | [] => if mark = [] then some ([], []) else none
  | x :: xs =>
    if mark.isPrefixOf (x :: xs) then some ([], (x :: xs).drop mark.length)
    else (cutAt mark xs).map fun cut => (x :: cut.1, cut.2)

theorem cutAt_eq_none_iff {mark xs : List α} : cutAt mark xs = none ↔ ¬mark <:+: xs := by
  induction xs with
  | nil => simp [cutAt]
  | cons x xs ih =>
    rw [cutAt, List.infix_cons_iff, not_or, ← ih, ← List.isPrefixOf_iff_prefix]
    split
    · next hPrefix => simp [hPrefix]
    · next hPrefix => simp [hPrefix]

theorem cutAt_eq_append {mark xs before after : List α}
    (h : cutAt mark xs = some (before, after)) : xs = before ++ mark ++ after := by
  induction xs generalizing before with
  | nil =>
    rw [cutAt] at h
    split at h
    · next hMark =>
      cases h
      rw [hMark]
      rfl
    · cases h
  | cons x xs ih =>
    rw [cutAt] at h
    split at h
    · next hPrefix =>
      cases h
      obtain ⟨rest, hRest⟩ := List.isPrefixOf_iff_prefix.mp hPrefix
      rw [← hRest, List.drop_left, List.nil_append]
    · obtain ⟨cut, hCut, hEq⟩ := Option.map_eq_some_iff.mp h
      cases hEq
      rw [ih hCut, List.cons_append, List.cons_append]

theorem cutAt_of_first {mark before after : List α}
    (h : ∀ other rest, before ++ mark ++ after = other ++ mark ++ rest →
      before.length ≤ other.length) :
    cutAt mark (before ++ mark ++ after) = some (before, after) := by
  induction before with
  | nil =>
    rw [List.nil_append]
    cases hList : mark ++ after with
    | nil =>
      obtain ⟨rfl, rfl⟩ := List.append_eq_nil_iff.mp hList
      rfl
    | cons x xs =>
      have hPrefix : mark.isPrefixOf (x :: xs) = true := by
        rw [List.isPrefixOf_iff_prefix, ← hList]
        exact List.prefix_append mark after
      rw [cutAt, if_pos hPrefix, ← hList, List.drop_left]
  | cons x rest ih =>
    have hPrefix : ¬mark.isPrefixOf (x :: (rest ++ mark ++ after)) = true := by
      rw [List.isPrefixOf_iff_prefix]
      rintro ⟨tail, hTail⟩
      have hShort := h [] tail hTail.symm
      cases hShort
    rw [List.cons_append, List.cons_append, cutAt, if_neg hPrefix, ih]
    · rfl
    · intro other tail hEq
      have hLonger := h (x :: other) tail (by rw [List.cons_append, List.cons_append, hEq]; rfl)
      exact Nat.le_of_succ_le_succ hLonger

theorem cutAt_first {mark xs before after : List α} (h : cutAt mark xs = some (before, after))
    {other rest : List α} (hOther : xs = other ++ mark ++ rest) :
    before.length ≤ other.length := by
  induction xs generalizing before other with
  | nil =>
    rw [cutAt] at h
    split at h
    · cases h
      exact Nat.zero_le _
    · cases h
  | cons x xs ih =>
    rw [cutAt] at h
    split at h
    · cases h
      exact Nat.zero_le _
    · next hPrefix =>
      obtain ⟨cut, hCut, hEq⟩ := Option.map_eq_some_iff.mp h
      cases hEq
      cases other with
      | nil =>
        refine absurd (List.isPrefixOf_iff_prefix.mpr ?_) hPrefix
        rw [hOther, List.nil_append]
        exact List.prefix_append mark rest
      | cons y other =>
        injection hOther with _ hTail
        exact Nat.succ_le_succ (ih hCut hTail)

/-- The first time a mark has been read to its end, it has been found. -/
theorem cutAt_of_read {mark seen before : List α} {x : α} (hFresh : ¬mark <:+: seen)
    (hRead : before ++ mark = seen ++ [x]) (rest : List α) :
    cutAt mark (seen ++ x :: rest) = some (before, rest) := by
  have hWhole : seen ++ x :: rest = before ++ mark ++ rest := by
    rw [hRead, List.append_assoc]
    rfl
  rw [hWhole]
  apply cutAt_of_first
  intro other tail hEq
  by_contra hShort
  have hLength := congrArg List.length hRead
  simp only [List.length_append, List.length_singleton] at hLength
  have hSeen : seen <+: before ++ mark ++ rest := by
    rw [← hWhole]
    exact List.prefix_append seen _
  have hOther : other ++ mark <+: before ++ mark ++ rest := by
    rw [hEq]
    exact List.prefix_append _ tail
  have hWithin : other ++ mark <+: seen := by
    apply List.prefix_of_prefix_length_le hOther hSeen
    rw [List.length_append]
    omega
  exact hFresh ((List.suffix_append other mark).isInfix.trans hWithin.isInfix)

section

variable (opening closing : List α)

/-- The leftmost blocks of a list one after the other, and what follows an opening
mark that is not closed. -/
def scan (xs : List α) : List (List α) × Option (List α) :=
  match cutAt opening xs with
  | none => ([], none)
  | some (_, rest) =>
    match cutAt closing rest with
    | none => ([], some rest)
    | some (block, later) =>
      if _h : later.length < xs.length then
        let found := scan later
        (block :: found.1, found.2)
      else ([], none)
termination_by xs.length

/-- Between blocks, with what was seen since the last one, or within a block. -/
inductive Phase (α : Type) where
  | outside (seen : List α)
  | inside (text : List α)

def Phase.unclosed : Phase α → Option (List α)
  | .outside _ => none
  | .inside text => some text

/-- One element more, and the block it completes. -/
def read (phase : Phase α) (x : α) : Phase α × Option (List α) :=
  match phase with
  | .outside seen =>
    if opening.isSuffixOf (seen ++ [x]) then (.inside [], none) else (.outside (seen ++ [x]), none)
  | .inside text =>
    if closing.isSuffixOf (text ++ [x]) then
      (.outside [], some ((text ++ [x]).take (text.length + 1 - closing.length)))
    else (.inside (text ++ [x]), none)

def readAll (phase : Phase α) : List α → Phase α × List (List α)
  | [] => (phase, [])
  | x :: xs =>
    let now := read opening closing phase x
    let later := readAll now.1 xs
    (later.1, now.2.toList ++ later.2)

/-- The mark a phase waits for has not been read yet. -/
def Phase.Fresh : Phase α → Prop
  | .outside seen => ¬opening <:+: seen
  | .inside text => ¬closing <:+: text

/-- What a search finds where the reading stands. -/
def resume (phase : Phase α) (rest : List α) : List (List α) × Option (List α) :=
  match phase with
  | .outside seen => scan opening closing (seen ++ rest)
  | .inside text =>
    match cutAt closing (text ++ rest) with
    | none => ([], some (text ++ rest))
    | some (block, later) =>
      (block :: (scan opening closing later).1, (scan opening closing later).2)

variable {opening closing}

theorem resume_nil {phase : Phase α} (h : phase.Fresh opening closing) :
    resume opening closing phase [] = ([], phase.unclosed) := by
  cases phase with
  | outside seen =>
    rw [resume, List.append_nil, scan, cutAt_eq_none_iff.mpr h]
    rfl
  | inside text =>
    rw [resume, List.append_nil, cutAt_eq_none_iff.mpr h]
    rfl

theorem scan_eq (hOpening : opening ≠ []) (xs : List α) :
    scan opening closing xs =
      match cutAt opening xs with
      | none => ([], none)
      | some (_, rest) =>
        match cutAt closing rest with
        | none => ([], some rest)
        | some (block, later) =>
          (block :: (scan opening closing later).1, (scan opening closing later).2) := by
  rw [scan]
  cases hOpen : cutAt opening xs with
  | none => rfl
  | some cut =>
    obtain ⟨before, rest⟩ := cut
    cases hClose : cutAt closing rest with
    | none => simp only [hClose]
    | some cut =>
      obtain ⟨block, later⟩ := cut
      have hLength := congrArg List.length (cutAt_eq_append hOpen)
      have hRest := congrArg List.length (cutAt_eq_append hClose)
      have hMark := List.length_pos_iff.mpr hOpening
      simp only [List.length_append] at hLength hRest
      have hShorter : later.length < xs.length := by omega
      simp only [hClose, hShorter, dif_pos]

theorem scan_of_opened (hOpening : opening ≠ []) {xs before rest : List α}
    (h : cutAt opening xs = some (before, rest)) :
    scan opening closing xs = resume opening closing (.inside []) rest := by
  rw [scan_eq hOpening, h, resume, List.nil_append]

theorem resume_cons (hOpening : opening ≠ []) (hClosing : closing ≠ []) {phase : Phase α}
    (h : phase.Fresh opening closing) (x : α) (rest : List α) :
    (read opening closing phase x).1.Fresh opening closing ∧
      resume opening closing phase (x :: rest) =
        ((read opening closing phase x).2.toList ++
            (resume opening closing (read opening closing phase x).1 rest).1,
          (resume opening closing (read opening closing phase x).1 rest).2) := by
  cases phase with
  | outside seen =>
    rw [read]
    split
    · next hSuffix =>
      obtain ⟨before, hBefore⟩ := List.isSuffixOf_iff_suffix.mp hSuffix
      refine ⟨fun hInfix => hClosing (List.infix_nil.mp hInfix), ?_⟩
      rw [resume, scan_of_opened hOpening (cutAt_of_read h hBefore rest)]
      rfl
    · next hSuffix =>
      rw [List.isSuffixOf_iff_suffix] at hSuffix
      refine ⟨fun hInfix => (List.infix_concat_iff.mp hInfix).elim hSuffix h, ?_⟩
      simp only [resume, List.append_assoc, List.singleton_append]
      rfl
  | inside text =>
    rw [read]
    split
    · next hSuffix =>
      obtain ⟨before, hBefore⟩ := List.isSuffixOf_iff_suffix.mp hSuffix
      refine ⟨fun hInfix => hOpening (List.infix_nil.mp hInfix), ?_⟩
      have hLength := congrArg List.length hBefore
      simp only [List.length_append, List.length_singleton] at hLength
      have hBlock : (text ++ [x]).take (text.length + 1 - closing.length) = before := by
        rw [← hBefore, ← hLength, Nat.add_sub_cancel, List.take_left]
      have hFound : resume opening closing (.inside text) (x :: rest) =
          (before :: (scan opening closing rest).1, (scan opening closing rest).2) := by
        rw [resume, cutAt_of_read h hBefore rest]
      rw [hFound, hBlock]
      rfl
    · next hSuffix =>
      rw [List.isSuffixOf_iff_suffix] at hSuffix
      refine ⟨fun hInfix => (List.infix_concat_iff.mp hInfix).elim hSuffix h, ?_⟩
      simp only [resume, List.append_assoc, List.singleton_append]
      rfl

theorem resume_eq_readAll (hOpening : opening ≠ []) (hClosing : closing ≠ []) {phase : Phase α}
    (h : phase.Fresh opening closing) (xs : List α) :
    resume opening closing phase xs =
      ((readAll opening closing phase xs).2, (readAll opening closing phase xs).1.unclosed) := by
  induction xs generalizing phase with
  | nil => exact resume_nil h
  | cons x xs ih =>
    obtain ⟨hFresh, hStep⟩ := resume_cons hOpening hClosing h x xs
    rw [hStep, ih hFresh]
    rfl

/-- Reading a list once finds what searching it finds. -/
theorem scan_eq_readAll (hOpening : opening ≠ []) (hClosing : closing ≠ []) (xs : List α) :
    scan opening closing xs =
      ((readAll opening closing (.outside []) xs).2,
        (readAll opening closing (.outside []) xs).1.unclosed) := by
  have hFresh : (Phase.outside []).Fresh opening closing := fun hInfix =>
    hOpening (List.infix_nil.mp hInfix)
  exact resume_eq_readAll hOpening hClosing hFresh xs

end

end AiGateway.Search
