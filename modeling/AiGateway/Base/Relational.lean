import Mathlib.Data.List.Basic
import Mathlib.Data.List.Nodup

/-!
# Checked computations and keyed rows

Fallible code written as a sequence of checks and edits, and the part of a
relational store such code relies on: rows found by a key, changed in place and
removed.
-/

namespace AiGateway

set_option autoImplicit false

namespace Checked

variable {ε α β γ : Type}

/-- A check that stops the computation with an error. -/
def ensure (condition : Prop) [Decidable condition] (error : ε) : Except ε Unit :=
  if condition then .ok () else .error error

theorem ensure_eq_ok {condition : Prop} [Decidable condition] {error : ε} {u : Unit} :
    ensure condition error = .ok u ↔ condition := by
  unfold ensure
  split <;> simp_all

theorem bind_eq_ok {x : Except ε α} {f : α → Except ε β} {b : β} :
    (x >>= f) = .ok b ↔ ∃ a, x = .ok a ∧ f a = .ok b := by
  cases x with
  | error e => simp [bind, Except.bind]
  | ok a => simp [bind, Except.bind]

theorem pure_eq_ok {a b : α} : (pure a : Except ε α) = .ok b ↔ a = b := by
  simp [pure, Except.pure]

theorem mapError_ok {ε' : Type} {x : Except ε α} {f : ε → ε'} {a : α} :
    x.mapError f = .ok a ↔ x = .ok a := by
  cases x <;> simp [Except.mapError]

/-- A value that may be missing. -/
def require (value : Option α) (error : ε) : Except ε α :=
  match value with
  | some a => .ok a
  | none => .error error

theorem require_eq_ok {value : Option α} {error : ε} {a : α} :
    require value error = .ok a ↔ value = some a := by
  cases value <;> simp [require]

/-- A check made only under a condition. -/
def onlyIf (condition : Bool) (check : Except ε Unit) : Except ε Unit :=
  if condition then check else .ok ()

/-- The errors a list of checks collects; none means success. -/
def collected (errors : List String) (fail : List String → ε) : Except ε Unit :=
  if errors = [] then .ok () else .error (fail errors)

theorem collected_eq_ok {errors : List String} {fail : List String → ε} {u : Unit} :
    collected errors fail = .ok u ↔ errors = [] := by
  unfold collected
  split <;> simp_all

/-- Whether a computation succeeds with a result that passes a test. -/
def succeeds (x : Except ε α) (test : α → Bool) : Bool :=
  match x with
  | .ok a => test a
  | .error _ => false

theorem exists_of_succeeds {x : Except ε α} {test : α → Bool} (h : succeeds x test = true) :
    ∃ a, x = .ok a ∧ test a = true := by
  cases x with
  | ok a => exact ⟨a, rfl, h⟩
  | error e => cases h

/-- What holds of the result whenever the computation succeeds. -/
def Ensures (x : Except ε α) (P : α → Prop) : Prop := ∀ a, x = .ok a → P a

theorem ensures_bind {x : Except ε α} {f : α → Except ε β} {P : β → Prop}
    (h : ∀ a, x = .ok a → Ensures (f a) P) : Ensures (x >>= f) P := by
  intro b hb
  obtain ⟨a, hx, hf⟩ := bind_eq_ok.mp hb
  exact h a hx b hf

/-- A step whose result does not matter to what follows. -/
theorem ensures_then {x : Except ε α} {f : α → Except ε β} {P : β → Prop}
    (h : ∀ a, Ensures (f a) P) : Ensures (x >>= f) P :=
  ensures_bind fun a _ => h a

theorem ensures_seq {x : Except ε α} {f : α → Except ε β} {P : α → Prop} {Q : β → Prop}
    (hx : Ensures x P) (hf : ∀ a, P a → Ensures (f a) Q) : Ensures (x >>= f) Q :=
  ensures_bind fun a ha => hf a (hx a ha)

theorem ensures_pure {a : α} {P : α → Prop} (h : P a) : Ensures (pure a : Except ε α) P := by
  intro b hb
  exact pure_eq_ok.mp hb ▸ h

theorem ensures_error {e : ε} {P : α → Prop} : Ensures (.error e : Except ε α) P := by
  intro a ha
  cases ha

theorem ensures_mapError {ε' : Type} {x : Except ε α} {f : ε → ε'} {P : α → Prop}
    (h : Ensures x P) : Ensures (x.mapError f) P :=
  fun a ha => h a (mapError_ok.mp ha)

theorem Ensures.imp {x : Except ε α} {P Q : α → Prop} (h : Ensures x P) (hPQ : ∀ a, P a → Q a) :
    Ensures x Q :=
  fun a ha => hPQ a (h a ha)

/-- What holds of the error whenever the computation fails. -/
def Fails (x : Except ε α) (P : ε → Prop) : Prop := ∀ e, x = .error e → P e

theorem fails_bind {x : Except ε α} {f : α → Except ε β} {P : ε → Prop} (hx : Fails x P)
    (hf : ∀ a, Fails (f a) P) : Fails (x >>= f) P := by
  intro e he
  cases x with
  | error e' =>
    cases he
    exact hx _ rfl
  | ok a => exact hf a e he

theorem fails_pure {a : α} {P : ε → Prop} : Fails (pure a : Except ε α) P := by
  intro e he
  cases he

theorem fails_ensure {condition : Prop} [Decidable condition] {error : ε} {P : ε → Prop}
    (h : P error) : Fails (ensure condition error) P := by
  intro e he
  unfold ensure at he
  split at he
  · cases he
  · cases he
    exact h

theorem fails_require {value : Option α} {error : ε} {P : ε → Prop} (h : P error) :
    Fails (require value error) P := by
  intro e he
  cases value with
  | none =>
    cases he
    exact h
  | some a => cases he

theorem fails_mapError {ε' : Type} {x : Except ε α} {f : ε → ε'} {P : ε' → Prop}
    (h : ∀ e, P (f e)) : Fails (x.mapError f) P := by
  intro e he
  cases x with
  | error e' =>
    cases he
    exact h _
  | ok a => cases he

/-- A loop fails as one of its steps. -/
theorem fails_foldlM {σ : Type} {step : σ → α → Except ε σ} {P : ε → Prop}
    (h : ∀ s a, Fails (step s a) P) (items : List α) (s : σ) : Fails (items.foldlM step s) P := by
  induction items generalizing s with
  | nil => exact fails_pure
  | cons a items ih =>
    rw [List.foldlM_cons]
    exact fails_bind (h s a) ih

/-- An invariant kept by every successful step of a loop is kept by the loop. -/
theorem ensures_foldlM {σ : Type} {step : σ → α → Except ε σ} {P : σ → Prop} {items : List α}
    (hStep : ∀ s, P s → ∀ a ∈ items, Ensures (step s a) P) {s : σ} (hs : P s) :
    Ensures (items.foldlM step s) P := by
  induction items generalizing s with
  | nil => exact ensures_pure hs
  | cons a items ih =>
    rw [List.foldlM_cons]
    apply ensures_bind
    intro t hFirst
    apply ih (fun s hs b hb => hStep s hs b (List.mem_cons_of_mem a hb))
    exact hStep s hs a List.mem_cons_self t hFirst

/-- The same with an invariant that names the items already taken. -/
theorem ensures_foldlM_prefix {σ : Type} {step : σ → α → Except ε σ} {P : List α → σ → Prop}
    {items : List α} {s : σ}
    (hStep : ∀ done s a rest, items = done ++ a :: rest → P done s →
      Ensures (step s a) (P (done ++ [a]))) (hs : P [] s) :
    Ensures (items.foldlM step s) (P items) := by
  suffices h : ∀ rest done s, items = done ++ rest → P done s →
      Ensures (rest.foldlM step s) (P items) from h items [] s rfl hs
  intro rest
  induction rest with
  | nil =>
    intro done s hItems hDone
    rw [hItems, List.append_nil]
    exact ensures_pure hDone
  | cons a rest ih =>
    intro done s hItems hDone
    rw [List.foldlM_cons]
    refine ensures_seq (hStep done s a rest hItems hDone) fun t hNext => ?_
    refine ih (done ++ [a]) t ?_ hNext
    rw [hItems, List.append_assoc, List.singleton_append]

/-- A loop whose every step succeeds, given what it ensures of the items taken. -/
theorem exists_foldlM_prefix {σ : Type} {step : σ → α → Except ε σ} {P : List α → σ → Prop}
    {items : List α} {s : σ}
    (hStep : ∀ done s a rest, items = done ++ a :: rest → P done s →
      (∃ t, step s a = .ok t) ∧ Ensures (step s a) (P (done ++ [a]))) (hs : P [] s) :
    ∃ t, items.foldlM step s = .ok t ∧ P items t := by
  suffices h : ∀ rest done s, items = done ++ rest → P done s →
      ∃ t, rest.foldlM step s = .ok t ∧ P items t from h items [] s rfl hs
  intro rest
  induction rest with
  | nil =>
    intro done s hItems hDone
    rw [hItems, List.append_nil]
    exact ⟨s, rfl, hDone⟩
  | cons a rest ih =>
    intro done s hItems hDone
    obtain ⟨⟨t, hFirst⟩, hNext⟩ := hStep done s a rest hItems hDone
    have hSplit : items = done ++ [a] ++ rest := by
      rw [hItems, List.append_assoc, List.singleton_append]
    obtain ⟨u, hRest, hu⟩ := ih (done ++ [a]) t hSplit (hNext t hFirst)
    exact ⟨u, bind_eq_ok.mpr ⟨t, hFirst, hRest⟩, hu⟩

theorem map_of_bind {f : β → γ} {x : Except ε α} {g : α → Except ε β} :
    (x >>= g).map f = x >>= fun a => (g a).map f := by
  cases x <;> rfl

theorem bind_congr_ok {x : Except ε α} {f g : α → Except ε β} (h : ∀ a, x = .ok a → f a = g a) :
    (x >>= f) = x >>= g := by
  cases x with
  | error e => rfl
  | ok a => exact h a rfl

theorem bind_of_map {f : α → β} {x : Except ε α} {g : β → Except ε γ} :
    (x.map f >>= g) = x >>= fun a => g (f a) := by
  cases x <;> rfl

/-- A loop seen through a part of its state, given what it ensures of the items taken. -/
theorem map_foldlM_prefix {σ τ : Type} {f : σ → τ} {step : σ → α → Except ε σ}
    {step' : τ → α → Except ε τ} {P : List α → σ → Prop} {items : List α} {s : σ}
    (hStep : ∀ done s a rest, items = done ++ a :: rest → P done s →
      (step s a).map f = step' (f s) a ∧ Ensures (step s a) (P (done ++ [a]))) (hs : P [] s) :
    (items.foldlM step s).map f = items.foldlM step' (f s) := by
  suffices h : ∀ rest done s, items = done ++ rest → P done s →
      (rest.foldlM step s).map f = rest.foldlM step' (f s) from h items [] s rfl hs
  intro rest
  induction rest with
  | nil => exact fun _ _ _ _ => rfl
  | cons a rest ih =>
    intro done s hItems hDone
    obtain ⟨hMap, hNext⟩ := hStep done s a rest hItems hDone
    have hSplit : items = done ++ [a] ++ rest := by
      rw [hItems, List.append_assoc, List.singleton_append]
    rw [List.foldlM_cons, List.foldlM_cons, ← hMap, map_of_bind, bind_of_map]
    exact bind_congr_ok fun t hFirst => ih (done ++ [a]) t hSplit (hNext t hFirst)

/-- Items that change nothing can be left out. -/
theorem foldlM_filter {σ : Type} {step : σ → α → Except ε σ} {p : α → Bool} {items : List α}
    (h : ∀ s, ∀ a ∈ items, p a = false → step s a = .ok s) (s : σ) :
    (items.filter p).foldlM step s = items.foldlM step s := by
  induction items generalizing s with
  | nil => rfl
  | cons a items ih =>
    have hRest := ih fun s b hb => h s b (List.mem_cons_of_mem a hb)
    rw [List.filter_cons]
    split
    · rw [List.foldlM_cons, List.foldlM_cons]
      congr 1
      funext t
      exact hRest t
    · next hp =>
      rw [hRest, List.foldlM_cons, h s a List.mem_cons_self (Bool.eq_false_iff.mpr hp)]
      rfl

/-- Steps that commute may be taken in any order. -/
theorem foldlM_perm {σ : Type} {step : σ → α → Except ε σ}
    (hComm : ∀ s a b, (step s a >>= fun t => step t b) = step s b >>= fun t => step t a)
    {items items' : List α} (h : items.Perm items') (s : σ) :
    items.foldlM step s = items'.foldlM step s := by
  induction h generalizing s with
  | nil => rfl
  | cons a h ih =>
    rw [List.foldlM_cons, List.foldlM_cons]
    congr 1
    funext t
    exact ih t
  | swap a b items =>
    have hTwice := congrArg (fun x => x >>= fun t => items.foldlM step t) (hComm s b a)
    simpa only [List.foldlM_cons, bind_assoc] using hTwice
  | trans _ _ ih ih' => rw [ih, ih']

end Checked

namespace Rows

variable {α κ : Type}

def updateWhere (p : α → Bool) (f : α → α) (rows : List α) : List α :=
  rows.map fun row => if p row then f row else row

theorem mem_updateWhere {p : α → Bool} {f : α → α} {rows : List α} {row : α}
    (h : row ∈ updateWhere p f rows) :
    row ∈ rows ∨ ∃ old ∈ rows, p old = true ∧ row = f old := by
  obtain ⟨old, hOld, rfl⟩ := List.mem_map.mp h
  split
  · next hp => exact .inr ⟨old, hOld, hp, rfl⟩
  · exact .inl hOld

theorem forall_updateWhere {p : α → Bool} {f : α → α} {rows : List α} {P : α → Prop}
    (h : ∀ row ∈ rows, P row) (hf : ∀ row ∈ rows, p row = true → P row → P (f row)) :
    ∀ row ∈ updateWhere p f rows, P row := by
  intro row hRow
  obtain hOld | ⟨old, hOld, hp, rfl⟩ := mem_updateWhere hRow
  · exact h row hOld
  · exact hf old hOld hp (h old hOld)

theorem forall_filter {p : α → Bool} {rows : List α} {P : α → Prop} (h : ∀ row ∈ rows, P row) :
    ∀ row ∈ rows.filter p, P row :=
  fun row hRow => h row (List.mem_filter.mp hRow).1

theorem forall_append_singleton {rows : List α} {new : α} {P : α → Prop}
    (h : ∀ row ∈ rows, P row) (hNew : P new) : ∀ row ∈ rows ++ [new], P row := by
  intro row hRow
  obtain hOld | hLast := List.mem_append.mp hRow
  · exact h row hOld
  · exact List.mem_singleton.mp hLast ▸ hNew

theorem nodup_append_singleton {key : α → κ} {rows : List α} {new : α}
    (h : (rows.map key).Nodup) (hNew : key new ∉ rows.map key) :
    ((rows ++ [new]).map key).Nodup := by
  rw [List.map_append, List.map_singleton, ← List.concat_eq_append, List.nodup_concat]
  exact ⟨hNew, h⟩

/-- A key that occurs once does not occur before its row. -/
theorem key_notMem_of_split {key : α → κ} {rows done rest : List α} {row : α}
    (h : (rows.map key).Nodup) (hSplit : rows = done ++ row :: rest) : key row ∉ done.map key := by
  rw [hSplit, List.map_append, List.map_cons] at h
  intro hEarlier
  exact (List.nodup_append.mp h).2.2 _ hEarlier _ List.mem_cons_self rfl

theorem map_updateWhere {key : α → κ} {p : α → Bool} {f : α → α}
    (hKey : ∀ row, key (f row) = key row) (rows : List α) :
    (updateWhere p f rows).map key = rows.map key := by
  rw [updateWhere, List.map_map]
  apply List.map_congr_left
  intro row _
  rw [Function.comp_apply]
  split
  · exact hKey row
  · rfl

/-- The same change made of two selections of rows. -/
theorem updateWhere_comm {p q : α → Bool} {f : α → α} (hp : ∀ row, p (f row) = p row)
    (hq : ∀ row, q (f row) = q row) (rows : List α) :
    updateWhere p f (updateWhere q f rows) = updateWhere q f (updateWhere p f rows) := by
  simp only [updateWhere, List.map_map]
  apply List.map_congr_left
  intro row _
  simp only [Function.comp_apply]
  cases hpRow : p row <;> cases hqRow : q row <;> simp [hp, hq, hpRow, hqRow]

variable [DecidableEq κ]

def find (key : α → κ) (k : κ) (rows : List α) : Option α := rows.find? fun row => key row = k

theorem find_key {key : α → κ} {k : κ} {rows : List α} {row : α} (h : find key k rows = some row) :
    row ∈ rows ∧ key row = k :=
  ⟨List.mem_of_find?_eq_some h, by simpa using List.find?_some h⟩

/-- A key that occurs once finds its row. -/
theorem find_eq_some_iff {key : α → κ} {rows : List α} (hNodup : (rows.map key).Nodup) {k : κ}
    {row : α} : find key k rows = some row ↔ row ∈ rows ∧ key row = k := by
  refine ⟨find_key, ?_⟩
  rintro ⟨hMem, rfl⟩
  induction rows with
  | nil => cases hMem
  | cons head rest ih =>
    rw [List.map_cons, List.nodup_cons] at hNodup
    obtain rfl | hRest := List.mem_cons.mp hMem
    · simp [find]
    · have hNe : key head ≠ key row := fun hEq =>
        hNodup.1 (hEq ▸ List.mem_map_of_mem hRest)
      simpa [find, hNe] using ih hNodup.2 hRest

theorem find_isSome_iff {key : α → κ} {k : κ} {rows : List α} :
    (find key k rows).isSome = true ↔ k ∈ rows.map key := by
  simp [find, List.find?_isSome, List.mem_map]

theorem find_eq_none_iff {key : α → κ} {k : κ} {rows : List α} :
    find key k rows = none ↔ k ∉ rows.map key := by
  simp [find, List.find?_eq_none, List.mem_map]

theorem find_append_singleton {key : α → κ} {k : κ} {rows : List α} {row : α} :
    find key k (rows ++ [row]) =
      (find key k rows).or (if key row = k then some row else none) := by
  simp [find, List.find?_append]

/-- Removing rows of other keys is not seen by a lookup. -/
theorem find_filter {key : α → κ} {k : κ} {p : α → Bool} {rows : List α}
    (h : ∀ row ∈ rows, key row = k → p row = true) :
    find key k (rows.filter p) = find key k rows := by
  induction rows with
  | nil => rfl
  | cons row rows ih =>
    have hRest := ih fun r hr => h r (List.mem_cons_of_mem row hr)
    rw [List.filter_cons]
    split
    · simp only [find, List.find?_cons] at hRest ⊢
      rw [hRest]
    · next hp =>
      have hNe : key row ≠ k := fun hKey => hp (h row List.mem_cons_self hKey)
      rw [hRest]
      simp [find, hNe]

theorem find_updateWhere {key : α → κ} {p : α → Bool} {f : α → α}
    (hKey : ∀ row, key (f row) = key row) (k : κ) (rows : List α) :
    find key k (updateWhere p f rows) =
      (find key k rows).map fun row => if p row then f row else row := by
  have hSame : ∀ row, key (if p row then f row else row) = key row := by
    intro row
    split
    · exact hKey row
    · rfl
  induction rows with
  | nil => rfl
  | cons row rows ih =>
    simp only [find, updateWhere, List.map_cons, List.find?_cons, hSame] at ih ⊢
    split
    · rfl
    · exact ih

/-- Rows in another order, changed without touching their keys. -/
theorem find_of_perm_map {key : α → κ} {f : α → α} {rows rows' : List α}
    (hPerm : rows'.Perm (rows.map f)) (hKey : ∀ row, key (f row) = key row)
    (hNodup : (rows.map key).Nodup) (k : κ) : find key k rows' = (find key k rows).map f := by
  have hKeys : (rows'.map key).Perm (rows.map key) := by
    have hMap : (rows.map f).map key = rows.map key := by
      simp [hKey]
    exact hMap ▸ hPerm.map key
  cases hFind : find key k rows with
  | none =>
    rw [Option.map_none, find_eq_none_iff, hKeys.mem_iff]
    exact find_eq_none_iff.mp hFind
  | some row =>
    obtain ⟨hMem, rfl⟩ := find_key hFind
    rw [Option.map_some, find_eq_some_iff (hKeys.nodup_iff.mpr hNodup)]
    exact ⟨hPerm.mem_iff.mpr (List.mem_map_of_mem hMem), hKey row⟩

end Rows

end AiGateway
