import Mathlib.Data.List.Sort

/-!
# Keyset pagination

A listing is cut into pages, and each page but the last names the key of its last
row.  The next page starts after that key.
-/

namespace AiGateway.Keyset

set_option autoImplicit false

variable {α κ τ : Type}

/-- A strict total order, by a test. -/
structure Strict (less : κ → κ → Bool) : Prop where
  irrefl : ∀ a, less a a = false
  trans : ∀ a b c, less a b = true → less b c = true → less a c = true
  total : ∀ a b, a ≠ b → less a b = true ∨ less b a = true

theorem Strict.asymm {less : κ → κ → Bool} (h : Strict less) {a b : κ} (hab : less a b = true)
    (hba : less b a = true) : False := by
  have hSame := h.trans a b a hab hba
  rw [h.irrefl a] at hSame
  cases hSame

theorem Strict.comap {κ' : Type} {less : κ → κ → Bool} (h : Strict less) {f : κ' → κ}
    (hf : Function.Injective f) : Strict fun a b => less (f a) (f b) where
  irrefl a := h.irrefl (f a)
  trans a b c := h.trans (f a) (f b) (f c)
  total a b hOther := h.total (f a) (f b) (hf.ne hOther)

/-- The latest first, and of one time the greatest id first. -/
def newer (less : κ → κ → Bool) (a b : Int × κ) : Bool :=
  decide (b.1 < a.1) || (decide (b.1 = a.1) && less b.2 a.2)

theorem newer_iff {less : κ → κ → Bool} {a b : Int × κ} :
    newer less a b = true ↔ b.1 < a.1 ∨ b.1 = a.1 ∧ less b.2 a.2 = true := by
  simp [newer]

theorem newer_strict {less : κ → κ → Bool} (h : Strict less) : Strict (newer less) where
  irrefl a := by simp [newer, h.irrefl]
  trans a b c hab hbc := by
    rw [newer_iff] at hab hbc ⊢
    rcases hab with hab | ⟨hab, hab'⟩ <;> rcases hbc with hbc | ⟨hbc, hbc'⟩
    · exact .inl (hbc.trans hab)
    · exact .inl (hbc ▸ hab)
    · exact .inl (hab ▸ hbc)
    · exact .inr ⟨hbc.trans hab, h.trans _ _ _ hbc' hab'⟩
  total a b hOther := by
    rw [newer_iff, newer_iff]
    rcases lt_trichotomy a.1 b.1 with hLess | hSame | hMore
    · exact .inr (.inl hLess)
    · have hIds : a.2 ≠ b.2 := fun hIds => hOther (Prod.ext hSame hIds)
      obtain hId | hId := h.total _ _ hIds
      · exact .inr (.inr ⟨hSame, hId⟩)
      · exact .inl (.inr ⟨hSame.symm, hId⟩)
    · exact .inl (.inl hMore)

section Listing

variable (key : α → κ) (less : κ → κ → Bool)

/-- The rows in ascending order of their keys. -/
def orderBy (rows : List α) : List α := rows.insertionSort fun a b => !less (key b) (key a)

/-- The rows after a key, or all of them. -/
def after (cursor : Option κ) (rows : List α) : List α :=
  rows.filter fun row => cursor.all fun bound => less bound (key row)

variable {key less}

theorem orderBy_perm (rows : List α) : (orderBy key less rows).Perm rows :=
  List.perm_insertionSort _ rows

theorem orderBy_pairwise (hLess : Strict less) {rows : List α} (hKeys : (rows.map key).Nodup) :
    (orderBy key less rows).Pairwise fun a b => less (key a) (key b) = true := by
  have hDistinct : ((orderBy key less rows).map key).Nodup :=
    ((orderBy_perm rows).map key).nodup_iff.mpr hKeys
  have hSorted : (orderBy key less rows).Pairwise fun a b => (!less (key b) (key a)) = true := by
    have hTotal : Std.Total fun a b : α => (!less (key b) (key a)) = true := by
      refine ⟨fun a b => ?_⟩
      cases hBefore : less (key b) (key a) with
      | false => exact .inl rfl
      | true =>
        refine .inr ?_
        rw [Bool.not_eq_true', Bool.eq_false_iff]
        exact hLess.asymm hBefore
    have hTrans : IsTrans α fun a b : α => (!less (key b) (key a)) = true := by
      refine ⟨fun a b c hab hbc => ?_⟩
      rw [Bool.not_eq_true'] at hab hbc ⊢
      rw [Bool.eq_false_iff]
      intro hca
      by_cases hSame : key a = key b
      · rw [← hSame, hca] at hbc
        cases hbc
      · obtain hLess' | hMore := hLess.total _ _ hSame
        · rw [hLess.trans _ _ _ hca hLess'] at hbc
          cases hbc
        · rw [hMore] at hab
          cases hab
    exact List.pairwise_insertionSort _ rows
  have hBoth := hSorted.and (List.pairwise_map.mp hDistinct)
  refine hBoth.imp ?_
  rintro a b ⟨hNot, hOther⟩
  rw [Bool.not_eq_true'] at hNot
  obtain hLess' | hMore := hLess.total _ _ hOther
  · exact hLess'
  · rw [hNot] at hMore
    cases hMore

/-- There is one listing of the rows with distinct keys. -/
theorem eq_of_pairwise (hLess : Strict less) {l l' : List α}
    (h : l.Pairwise fun a b => less (key a) (key b) = true)
    (h' : l'.Pairwise fun a b => less (key a) (key b) = true) (hPerm : l.Perm l') : l = l' :=
  List.Perm.eq_of_pairwise (fun _ _ _ _ hab hba => (hLess.asymm hab hba).elim) h h' hPerm

theorem orderBy_filter (hLess : Strict less) {rows : List α} (hKeys : (rows.map key).Nodup)
    (p : α → Bool) : orderBy key less (rows.filter p) = (orderBy key less rows).filter p := by
  have hKept : ((rows.filter p).map key).Nodup := hKeys.sublist (List.filter_sublist.map key)
  exact eq_of_pairwise hLess (orderBy_pairwise hLess hKept) ((orderBy_pairwise hLess hKeys).filter p)
    ((orderBy_perm _).trans ((orderBy_perm rows).filter p).symm)

/-- After the key of a row of the listing comes what is listed after the row. -/
theorem after_of_listing (hLess : Strict less) {listed rest : List α} {row : α}
    (h : (listed ++ row :: rest).Pairwise fun a b => less (key a) (key b) = true) :
    after key less (some (key row)) (listed ++ row :: rest) = rest := by
  obtain ⟨-, hRest, hBefore⟩ := List.pairwise_append.mp h
  rw [after, List.filter_append, List.filter_cons]
  have hNone : listed.filter (fun other => less (key row) (key other)) = [] := by
    apply List.filter_eq_nil_iff.mpr
    intro other hOther hMore
    exact hLess.asymm (hBefore other hOther row List.mem_cons_self) hMore
  have hAll : rest.filter (fun other => less (key row) (key other)) = rest :=
    List.filter_eq_self.mpr (List.pairwise_cons.mp hRest).1
  simp [hNone, hAll, hLess.irrefl]

end Listing

/-! ## Pages -/

theorem exists_last {l : List α} (h : l ≠ []) : ∃ front last, l = front ++ [last] :=
  ⟨l.dropLast, l.getLast h, (List.dropLast_append_getLast h).symm⟩

structure Page (α τ : Type) where
  data : List α
  next : Option τ

/-- A page of the rows found for it, of which there is one more if it has a
successor. -/
def cut (encode : α → τ) (limit : Nat) (found : List α) : Page α τ :=
  if limit < found.length then
    { data := found.take limit, next := (found.take limit).getLast?.map encode }
  else { data := found, next := none }

theorem cut_map {β : Type} (encode : β → τ) (f : α → β) (limit : Nat) (found : List α) :
    cut encode limit (found.map f) =
      { data := (cut (fun row => encode (f row)) limit found).data.map f,
        next := (cut (fun row => encode (f row)) limit found).next } := by
  rw [cut, cut, List.length_map]
  split
  · rw [← List.map_take, List.getLast?_map, Option.map_map]
    rfl
  · rfl

theorem isSome_next_cut {limit : Nat} (hLimit : 0 < limit) (encode : α → τ) (found : List α) :
    (cut encode limit found).next.isSome = decide (limit < found.length) := by
  rw [cut]
  split
  · rename_i hMore
    have hSome : found.take limit ≠ [] := by
      rw [Ne, List.take_eq_nil_iff, not_or]
      refine ⟨Nat.ne_of_gt hLimit, ?_⟩
      rintro rfl
      cases hMore
    obtain ⟨listed, last, hListed⟩ := exists_last hSome
    rw [hListed, List.getLast?_concat, decide_eq_true hMore]
    rfl
  · rename_i hLast
    rw [decide_eq_false hLast]
    rfl

/-- One row more than the page shows is looked for. -/
def page (key : α → κ) (less : κ → κ → Bool) (encode : κ → τ) (limit : Nat) (rows : List α)
    (cursor : Option κ) : Page α τ :=
  cut (fun row => encode (key row)) limit
    ((orderBy key less (after key less cursor rows)).take (limit + 1))

/-- The pages from a cursor on, each asked for with what the one before it named. -/
def follow {π : Type} (next : π → Option τ) (decode : τ → Option κ) (ask : Option κ → π) :
    Nat → Option κ → Option (List π)
  | 0, _ => none
  | fuel + 1, cursor =>
    match next (ask cursor) with
    | none => some [ask cursor]
    | some token =>
      (decode token).bind fun bound =>
        (follow next decode ask fuel (some bound)).map (ask cursor :: ·)

theorem follow_map {π π' : Type} {next : π → Option τ} {next' : π' → Option τ} {f : π → π'}
    (h : ∀ p, next' (f p) = next p) (decode : τ → Option κ) (ask : Option κ → π) :
    ∀ (fuel : Nat) (cursor : Option κ), follow next' decode (fun c => f (ask c)) fuel cursor =
      (follow next decode ask fuel cursor).map (List.map f) := by
  intro fuel
  induction fuel with
  | zero =>
    intro cursor
    rfl
  | succ fuel ih =>
    intro cursor
    rw [follow, follow, h]
    cases next (ask cursor) with
    | none => rfl
    | some token =>
      dsimp only
      cases decode token with
      | none => rfl
      | some bound =>
        rw [Option.bind_some, Option.bind_some, ih, Option.map_map, Option.map_map]
        rfl

section Follow

variable {key : α → κ} {less : κ → κ → Bool} {encode : κ → τ} {decode : τ → Option κ}
  {limit : Nat} {rows : List α}

theorem orderBy_after (hLess : Strict less) (hKeys : (rows.map key).Nodup) (cursor : Option κ) :
    orderBy key less (after key less cursor rows) = after key less cursor (orderBy key less rows) :=
  orderBy_filter hLess hKeys _

/-- A page is the beginning of what is left of the listing. -/
theorem page_of_rest (encode : κ → τ) (hLess : Strict less) (hKeys : (rows.map key).Nodup)
    (hLimit : 0 < limit) {cursor : Option κ} {rest : List α}
    (hRest : after key less cursor (orderBy key less rows) = rest) :
    (rest.length ≤ limit ∧ page key less encode limit rows cursor = ⟨rest, none⟩) ∨
      ∃ listed last left, rest = (listed ++ [last]) ++ left ∧ (listed ++ [last]).length = limit ∧
        page key less encode limit rows cursor =
          ⟨listed ++ [last], some (encode (key last))⟩ := by
  rw [page, orderBy_after hLess hKeys, hRest, cut]
  by_cases hFits : rest.length ≤ limit
  · refine .inl ⟨hFits, ?_⟩
    have hTake : rest.take (limit + 1) = rest := List.take_of_length_le (by omega)
    simp [hTake, Nat.not_lt.mpr hFits]
  · refine .inr ?_
    have hFound : limit < (rest.take (limit + 1)).length := by
      rw [List.length_take]
      omega
    have hTake : (rest.take (limit + 1)).take limit = rest.take limit := by
      rw [List.take_take, Nat.min_eq_left (Nat.le_succ limit)]
    have hShown : (rest.take limit).length = limit := by
      rw [List.length_take]
      omega
    have hSome : rest.take limit ≠ [] := by
      intro hNil
      rw [hNil] at hShown
      exact absurd hShown (Nat.ne_of_lt hLimit)
    obtain ⟨listed, last, hListed⟩ := exists_last hSome
    refine ⟨listed, last, rest.drop limit, ?_, ?_, ?_⟩
    · rw [← hListed, List.take_append_drop]
    · rw [← hListed, hShown]
    · simp only [hFound, if_true, hTake, hListed]
      simp

theorem follow_of_rest (hLess : Strict less) (hKeys : (rows.map key).Nodup) (hLimit : 0 < limit)
    (hDecode : ∀ row ∈ rows, decode (encode (key row)) = some (key row)) :
    ∀ (fuel : Nat) (cursor : Option κ) (rest : List α), rest.length < fuel →
      after key less cursor (orderBy key less rows) = rest →
      (∃ listed, listed ++ rest = orderBy key less rows) →
      ∃ pages, follow Page.next decode (page key less encode limit rows) fuel cursor = some pages ∧
        pages.flatMap Page.data = rest := by
  intro fuel
  induction fuel with
  | zero =>
    intro cursor rest hFuel
    cases hFuel
  | succ fuel ih =>
    rintro cursor rest hFuel hRest ⟨before, hListing⟩
    rw [follow]
    obtain ⟨-, hPage⟩ | ⟨listed, last, left, rfl, hLength, hPage⟩ :=
      page_of_rest encode hLess hKeys hLimit hRest
    · rw [hPage]
      exact ⟨_, rfl, by simp⟩
    · have hSplit : (before ++ listed) ++ last :: left = orderBy key less rows := by
        rw [← hListing]
        simp
      have hLast : last ∈ rows := by
        have hPerm : (orderBy key less rows).Perm rows := orderBy_perm rows
        rw [← hPerm.mem_iff, ← hSplit]
        simp
      have hAfter : after key less (some (key last)) (orderBy key less rows) = left := by
        rw [← hSplit]
        apply after_of_listing hLess
        rw [hSplit]
        exact orderBy_pairwise hLess hKeys
      have hLeft : left.length < fuel := by
        simp only [List.length_append, List.length_cons] at hFuel
        omega
      obtain ⟨pages, hPages, hData⟩ := ih (some (key last)) left hLeft hAfter
        ⟨before ++ listed ++ [last], by rw [← hSplit]; simp⟩
      rw [hPage]
      dsimp only
      rw [hDecode last hLast, Option.bind_some, hPages]
      exact ⟨_, rfl, by simp [hData]⟩

/-- From the first page to the last, the pages are the listing. -/
theorem follow_pages (hLess : Strict less) (hKeys : (rows.map key).Nodup) (hLimit : 0 < limit)
    (hDecode : ∀ row ∈ rows, decode (encode (key row)) = some (key row)) {fuel : Nat}
    (hFuel : rows.length < fuel) :
    ∃ pages, follow Page.next decode (page key less encode limit rows) fuel none = some pages ∧
      pages.flatMap Page.data = orderBy key less rows := by
  apply follow_of_rest hLess hKeys hLimit hDecode fuel none
  · rw [(orderBy_perm rows).length_eq]
    exact hFuel
  · simp [after]
  · exact ⟨[], rfl⟩

end Follow

/-! ## A listing in pages -/

section Visits

variable {π β : Type} (key : α → κ) (less : κ → κ → Bool) (encode : κ → τ) (decode : τ → Option κ)
  (next : π → Option τ) (data : π → List β) (shown : α → β)

/-- Asked for page after page, the rows come in the order of the listing, each
once, and a page names only keys that are read back. -/
structure Visits (ask : Option κ → π) (rows listing : List α) : Prop where
  perm : listing.Perm rows
  ordered : listing.Pairwise fun a b => less (key a) (key b) = true
  followed : ∀ fuel, rows.length < fuel → ∃ pages,
    follow next decode ask fuel none = some pages ∧ pages.flatMap data = listing.map shown
  decoded : ∀ cursor token, next (ask cursor) = some token →
    ∃ bound, encode bound = token ∧ decode token = some bound

variable {key less encode decode next data shown}

theorem next_of_page {limit : Nat} {rows : List α} {cursor : Option κ} {token : τ}
    (h : (page key less encode limit rows cursor).next = some token) :
    ∃ row ∈ rows, encode (key row) = token := by
  rw [page, cut] at h
  split at h
  · obtain ⟨row, hLast, rfl⟩ := Option.map_eq_some_iff.mp h
    refine ⟨row, ?_, rfl⟩
    have hFound := List.mem_of_mem_take (List.mem_of_mem_take (List.mem_of_getLast? hLast))
    exact List.mem_of_mem_filter ((orderBy_perm _).mem_iff.mp hFound)
  · cases h

/-- Pages that are made of the pages of a listing, row by row. -/
theorem visits_of_page (f : Page α τ → π) (hNext : ∀ p, next (f p) = p.next)
    (hData : ∀ p, data (f p) = p.data.map shown) (hLess : Strict less) {limit : Nat}
    (hLimit : 0 < limit) {rows : List α} (hKeys : (rows.map key).Nodup)
    (hDecode : ∀ row ∈ rows, decode (encode (key row)) = some (key row)) :
    Visits key less encode decode next data shown
      (fun cursor => f (page key less encode limit rows cursor)) rows (orderBy key less rows) where
  perm := orderBy_perm rows
  ordered := orderBy_pairwise hLess hKeys
  followed := by
    intro fuel hFuel
    obtain ⟨pages, hPages, hListing⟩ := follow_pages hLess hKeys hLimit hDecode hFuel
    refine ⟨pages.map f, ?_, ?_⟩
    · rw [follow_map hNext, hPages, Option.map_some]
    · rw [← hListing, List.flatMap_map, List.map_flatMap]
      exact List.flatMap_congr fun p _ => hData p
  decoded := by
    intro cursor token hToken
    rw [hNext] at hToken
    obtain ⟨row, hRow, rfl⟩ := next_of_page hToken
    exact ⟨key row, rfl, hDecode row hRow⟩

end Visits

end AiGateway.Keyset
