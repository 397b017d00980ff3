import Mathlib.Data.List.Nodup
import Mathlib.Data.List.Perm.Basic

/-!
# Headers

A header map keeps every value of a name; as it is iterated it is a list of pairs.
-/

namespace AiGateway.Http

set_option autoImplicit false

variable {κ α : Type} [DecidableEq κ]

/-- `HeaderMap::insert`: the value takes the place of all values of its name. -/
def insert (name : κ) (value : α) : List (κ × α) → List (κ × α)
  | [] => [(name, value)]
  | pair :: rest =>
    if pair.1 = name then (name, value) :: rest.filter (·.1 ≠ name)
    else pair :: insert name value rest

/-- The loop that inserts one pair after the other. -/
def insertAll (headers pairs : List (κ × α)) : List (κ × α) :=
  pairs.foldl (fun headers pair => insert pair.1 pair.2 headers) headers

theorem mem_names_insert {name n : κ} {value : α} {headers : List (κ × α)} :
    n ∈ (insert name value headers).map Prod.fst ↔ n = name ∨ n ∈ headers.map Prod.fst := by
  induction headers with
  | nil => simp [insert]
  | cons pair rest ih =>
    rw [insert]
    split
    · next hSame =>
      subst hSame
      by_cases hn : n = pair.1
      · simp [hn]
      · simp [hn]
    · rw [List.map_cons, List.mem_cons, ih, List.map_cons, List.mem_cons, or_left_comm]

theorem nodup_insert (name : κ) (value : α) {headers : List (κ × α)}
    (h : (headers.map Prod.fst).Nodup) : ((insert name value headers).map Prod.fst).Nodup := by
  induction headers with
  | nil => exact List.nodup_singleton name
  | cons pair rest ih =>
    obtain ⟨hNew, hRest⟩ := List.nodup_cons.mp h
    rw [insert]
    split
    · refine List.nodup_cons.mpr ⟨?_, ?_⟩
      · simp
      · exact hRest.sublist (List.filter_sublist.map _)
    · next hOther =>
      refine List.nodup_cons.mpr ⟨?_, ih hRest⟩
      rw [mem_names_insert]
      rintro (hSame | hMem)
      · exact hOther hSame
      · exact hNew hMem

theorem insert_of_not_mem {name : κ} (value : α) {headers : List (κ × α)}
    (h : name ∉ headers.map Prod.fst) : insert name value headers = headers ++ [(name, value)] := by
  induction headers with
  | nil => rfl
  | cons pair rest ih =>
    rw [List.map_cons, List.mem_cons, not_or] at h
    rw [insert, if_neg (Ne.symm h.1), ih h.2, List.cons_append]

theorem nodup_insertAll {headers : List (κ × α)} (h : (headers.map Prod.fst).Nodup)
    (pairs : List (κ × α)) : ((insertAll headers pairs).map Prod.fst).Nodup := by
  induction pairs generalizing headers with
  | nil => exact h
  | cons pair pairs ih => exact ih (nodup_insert pair.1 pair.2 h)

theorem insertAll_of_nodup {headers pairs : List (κ × α)}
    (h : ((headers ++ pairs).map Prod.fst).Nodup) : insertAll headers pairs = headers ++ pairs := by
  induction pairs generalizing headers with
  | nil => rw [List.append_nil]; rfl
  | cons pair pairs ih =>
    have hSplit : headers ++ pair :: pairs = headers ++ [pair] ++ pairs := by simp
    have hNew : pair.1 ∉ headers.map Prod.fst := by
      rw [List.map_append, List.map_cons] at h
      intro hMem
      exact (List.nodup_append.mp h).2.2 pair.1 hMem pair.1 List.mem_cons_self rfl
    rw [insertAll, List.foldl_cons, insert_of_not_mem pair.2 hNew]
    rw [hSplit] at h ⊢
    exact ih h

/-- The loop copies the pairs exactly when no name comes twice. -/
theorem insertAll_perm_iff (pairs : List (κ × α)) :
    (insertAll [] pairs).Perm pairs ↔ (pairs.map Prod.fst).Nodup := by
  constructor
  · intro h
    have hStart : (([] : List (κ × α)).map Prod.fst).Nodup := List.nodup_nil
    exact (h.map Prod.fst).nodup (nodup_insertAll hStart pairs)
  · intro h
    rw [insertAll_of_nodup (by simpa using h), List.nil_append]

end AiGateway.Http
