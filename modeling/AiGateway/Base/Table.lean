import Mathlib.Data.List.Basic
import Mathlib.Data.UInt

/-!
# Finite maps with an iteration order

A table is a list of entries with distinct keys.  Lookups see the entries as a
map; a loop over the map sees them in the order of the list, so that a statement
about every table covers every iteration order.
-/

namespace AiGateway

set_option autoImplicit false

structure Table (K V : Type) where
  entries : List (K × V)
  nodup : (entries.map Prod.fst).Nodup

namespace Table

variable {K V : Type}

def empty : Table K V := ⟨[], List.nodup_nil⟩

instance : Inhabited (Table K V) := ⟨empty⟩

instance [DecidableEq K] [DecidableEq V] : DecidableEq (Table K V) := fun a b =>
  decidable_of_iff (a.entries = b.entries) (by cases a; cases b; simp)

variable [DecidableEq K]

def findEntry (key : K) (entries : List (K × V)) : Option V :=
  (entries.find? fun entry => entry.1 = key).map Prod.snd

def get (t : Table K V) (key : K) : Option V := findEntry key t.entries

def containsKey (t : Table K V) (key : K) : Bool := (t.get key).isSome

/-- Replaces the entry of the key in place, or adds one at the end. -/
def insertEntry (key : K) (value : V) : List (K × V) → List (K × V)
  | [] => [(key, value)]
  | entry :: rest =>
    if entry.1 = key then (key, value) :: rest else entry :: insertEntry key value rest

theorem mem_keys_insertEntry {key : K} {value : V} {k : K} {entries : List (K × V)}
    (h : k ∈ (insertEntry key value entries).map Prod.fst) :
    k = key ∨ k ∈ entries.map Prod.fst := by
  induction entries with
  | nil => simpa [insertEntry] using h
  | cons entry rest ih =>
    rw [insertEntry] at h
    split at h
    · next hEq => simp_all
    · rw [List.map_cons, List.mem_cons] at h ⊢
      obtain hHead | hRest := h
      · exact .inr (.inl hHead)
      · exact (ih hRest).imp_right .inr

theorem nodup_insertEntry {key : K} {value : V} {entries : List (K × V)}
    (h : (entries.map Prod.fst).Nodup) : ((insertEntry key value entries).map Prod.fst).Nodup := by
  induction entries with
  | nil => simp [insertEntry]
  | cons entry rest ih =>
    rw [List.map_cons, List.nodup_cons] at h
    rw [insertEntry]
    split
    · next hEq => simpa [← hEq] using h
    · next hNe =>
      rw [List.map_cons, List.nodup_cons]
      refine ⟨fun hMem => ?_, ih h.2⟩
      obtain hKey | hRest := mem_keys_insertEntry hMem
      · exact hNe hKey
      · exact h.1 hRest

def insert (t : Table K V) (key : K) (value : V) : Table K V :=
  ⟨insertEntry key value t.entries, nodup_insertEntry t.nodup⟩

theorem findEntry_insertEntry (key : K) (value : V) (entries : List (K × V)) (k : K) :
    findEntry k (insertEntry key value entries) =
      if k = key then some value else findEntry k entries := by
  induction entries with
  | nil =>
    by_cases h : key = k
    · simp [insertEntry, findEntry, h]
    · simp [insertEntry, findEntry, h, Ne.symm h]
  | cons entry rest ih =>
    rw [insertEntry]
    split
    · next hEq =>
      by_cases h : key = k
      · simp [findEntry, h]
      · simp [findEntry, h, Ne.symm h, hEq]
    · next hNe =>
      by_cases h : entry.1 = k
      · subst h
        simp [findEntry, hNe]
      · simpa [findEntry, h] using ih

theorem get_insert (t : Table K V) (key : K) (value : V) (k : K) :
    (t.insert key value).get k = if k = key then some value else t.get k :=
  findEntry_insertEntry key value t.entries k

theorem mem_entries_iff (t : Table K V) {key : K} {value : V} :
    (key, value) ∈ t.entries ↔ t.get key = some value := by
  obtain ⟨entries, hNodup⟩ := t
  simp only [get, findEntry]
  induction entries with
  | nil => simp
  | cons entry rest ih =>
    rw [List.map_cons, List.nodup_cons] at hNodup
    rw [List.mem_cons, List.find?_cons]
    by_cases hKey : entry.1 = key
    · have hOut : (key, value) ∉ rest := fun h =>
        hNodup.1 (hKey ▸ List.mem_map_of_mem (f := Prod.fst) h)
      simp [hKey, hOut, Prod.ext_iff, eq_comm]
    · simp only [hKey, decide_false]
      rw [← ih hNodup.2, or_iff_right]
      rintro rfl
      exact hKey rfl

def erase (t : Table K V) (key : K) : Table K V where
  entries := t.entries.filter fun entry => entry.1 ≠ key
  nodup := t.nodup.sublist (List.Sublist.map Prod.fst List.filter_sublist)

theorem get_erase (t : Table K V) (key k : K) :
    (t.erase key).get k = if k = key then none else t.get k := by
  unfold get erase findEntry
  dsimp only
  induction t.entries with
  | nil => simp
  | cons entry rest ih =>
    by_cases hKey : entry.1 = key
    · rw [List.filter_cons_of_neg (by simpa using hKey), ih]
      split
      · rfl
      · next hNe =>
        rw [List.find?_cons_of_neg]
        simpa [hKey] using Ne.symm hNe
    · rw [List.filter_cons_of_pos (by simpa using hKey)]
      by_cases hFound : entry.1 = k
      · have hNe : k ≠ key := by
          rintro rfl
          exact hKey hFound
        simp [hFound, hNe]
      · rw [List.find?_cons_of_neg (by simpa using hFound), ih,
          List.find?_cons_of_neg (by simpa using hFound)]

def isEmpty (t : Table K V) : Bool := t.entries.isEmpty

theorem isEmpty_iff (t : Table K V) : t.isEmpty = true ↔ ∀ key, t.get key = none := by
  unfold isEmpty get findEntry
  cases t.entries with
  | nil => simp
  | cons entry rest =>
    simp only [List.isEmpty_cons, Bool.false_eq_true, false_iff, not_forall]
    exact ⟨entry.1, by simp⟩

theorem isEmpty_of_get {t : Table K V} {key : K} {value : V} (h : t.get key = some value) :
    t.isEmpty = false := by
  rw [Bool.eq_false_iff]
  intro hEmpty
  rw [t.isEmpty_iff.mp hEmpty key] at h
  cases h

def extend (t other : Table K V) : Table K V :=
  other.entries.foldl (fun t entry => t.insert entry.1 entry.2) t

/-! ## Tables with changed values -/

section MapValues

variable {W : Type} (f : V → W)

omit [DecidableEq K] in
theorem keys_map_values (entries : List (K × V)) :
    (entries.map fun entry => (entry.1, f entry.2)).map Prod.fst = entries.map Prod.fst := by
  simp

def mapValues (t : Table K V) : Table K W where
  entries := t.entries.map fun entry => (entry.1, f entry.2)
  nodup := (keys_map_values f t.entries).symm ▸ t.nodup

theorem get_mapValues (t : Table K V) (key : K) : (t.mapValues f).get key = (t.get key).map f := by
  simp only [get, mapValues, findEntry, List.find?_map, Option.map_map]
  rfl

theorem insert_mapValues (t : Table K V) (key : K) (value : V) :
    (t.mapValues f).insert key (f value) = (t.insert key value).mapValues f := by
  have hEntries : ∀ entries : List (K × V),
      insertEntry key (f value) (entries.map fun entry => (entry.1, f entry.2)) =
        (insertEntry key value entries).map fun entry => (entry.1, f entry.2) := by
    intro entries
    induction entries with
    | nil => rfl
    | cons entry rest ih =>
      simp only [List.map_cons, insertEntry]
      split
      · rfl
      · rw [ih, List.map_cons]
  simp only [insert, mapValues, hEntries]

end MapValues

end Table

end AiGateway
