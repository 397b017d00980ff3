import Mathlib.Data.List.Basic
import Mathlib.Data.List.Nodup
import Mathlib.Data.String.Basic

/-!
# Named entries

Lists of named values kept in ascending order of their names, the way a sorted
map is iterated.  An entry put in replaces the one of its name.
-/

namespace AiGateway.Entries

set_option autoImplicit false

variable {α β : Type}

/-- Insertion at the place of the name, replacing an entry with the same name. -/
def insert : List (String × α) → String → α → List (String × α)
  | [], name, value => [(name, value)]
  | (k, v) :: rest, name, value =>
    if k = name then (name, value) :: rest
    else if k < name then (k, v) :: insert rest name value
    else (name, value) :: (k, v) :: rest

def get (entries : List (String × α)) (name : String) : Option α :=
  (entries.find? fun entry => entry.1 == name).map Prod.snd

/-- Entries put in one after the other: of one name, the last stays. -/
def ofList (entries : List (String × α)) : List (String × α) :=
  entries.foldl (fun found entry => insert found entry.1 entry.2) []

def Ascending (entries : List (String × α)) : Prop := entries.Pairwise fun a b => a.1 < b.1

/-! ## Lookups -/

theorem get_cons (k : String) (v : α) (rest : List (String × α)) (name : String) :
    get ((k, v) :: rest) name = if k = name then some v else get rest name := by
  simp only [get, List.find?_cons]
  by_cases hName : k = name
  · simp [hName]
  · rw [if_neg hName, beq_false_of_ne hName]

theorem get_insert (entries : List (String × α)) (name : String) (value : α) (k : String) :
    get (insert entries name value) k = if name = k then some value else get entries k := by
  induction entries with
  | nil => rw [insert, get_cons]
  | cons head rest ih =>
    obtain ⟨name', value'⟩ := head
    rw [insert]
    split
    · next hSame =>
      rw [get_cons, get_cons, hSame]
      split <;> rfl
    · next hOther =>
      split
      · rw [get_cons, ih, get_cons]
        split
        · next hThis => rw [if_neg fun hName => hOther (hThis.trans hName.symm)]
        · rfl
      · rw [get_cons]

theorem get_map (f : α → β) (entries : List (String × α)) (name : String) :
    get (entries.map fun entry => (entry.1, f entry.2)) name = (get entries name).map f := by
  induction entries with
  | nil => rfl
  | cons head rest ih =>
    obtain ⟨k, v⟩ := head
    rw [List.map_cons, get_cons, get_cons, ih]
    split
    · rfl
    · rfl

theorem mem_of_get {entries : List (String × α)} {name : String} {value : α}
    (h : get entries name = some value) : (name, value) ∈ entries := by
  obtain ⟨⟨k, v⟩, hFound, rfl⟩ := Option.map_eq_some_iff.mp h
  have hName := List.find?_some hFound
  obtain rfl : k = name := eq_of_beq hName
  exact List.mem_of_find?_eq_some hFound

theorem get_eq_none {entries : List (String × α)} {name : String}
    (h : ∀ entry ∈ entries, entry.1 ≠ name) : get entries name = none := by
  cases hGet : get entries name with
  | none => rfl
  | some value => exact absurd rfl (h _ (mem_of_get hGet))

/-! ## Ascending entries -/

theorem mem_insert {entries : List (String × α)} {name : String} {value : α}
    {entry : String × α} (h : entry ∈ insert entries name value) :
    entry = (name, value) ∨ entry ∈ entries := by
  induction entries with
  | nil => exact .inl (List.mem_singleton.mp h)
  | cons head rest ih =>
    obtain ⟨k, v⟩ := head
    rw [insert] at h
    split at h
    · obtain hHead | hRest := List.mem_cons.mp h
      · exact .inl hHead
      · exact .inr (List.mem_cons_of_mem _ hRest)
    · split at h
      · obtain hHead | hRest := List.mem_cons.mp h
        · exact .inr (hHead ▸ List.mem_cons_self)
        · exact (ih hRest).imp_right (List.mem_cons_of_mem _)
      · exact List.mem_cons.mp h

theorem ascending_insert {entries : List (String × α)} (h : Ascending entries) (name : String)
    (value : α) : Ascending (insert entries name value) := by
  induction entries with
  | nil => exact List.pairwise_singleton _ _
  | cons head rest ih =>
    obtain ⟨k, v⟩ := head
    obtain ⟨hHead, hRest⟩ := List.pairwise_cons.mp h
    rw [insert]
    split
    · next hSame =>
      subst hSame
      exact List.pairwise_cons.mpr ⟨hHead, hRest⟩
    · next hOther =>
      split
      · next hLess =>
        apply List.pairwise_cons.mpr
        refine ⟨?_, ih hRest⟩
        rintro entry hEntry
        obtain rfl | hOld := mem_insert hEntry
        · exact hLess
        · exact hHead entry hOld
      · next hNotLess =>
        have hLess : name < k := lt_of_le_of_ne (not_lt.mp hNotLess) (Ne.symm hOther)
        apply List.pairwise_cons.mpr
        refine ⟨?_, h⟩
        rintro entry hEntry
        obtain rfl | hOld := List.mem_cons.mp hEntry
        · exact hLess
        · exact hLess.trans (hHead entry hOld)

theorem Ascending.nodup {entries : List (String × α)} (h : Ascending entries) :
    (entries.map Prod.fst).Nodup := by
  rw [List.Nodup, List.pairwise_map]
  exact h.imp fun hLess => ne_of_lt hLess

/-- A name leads to one value. -/
theorem Ascending.unique {entries : List (String × α)} (h : Ascending entries) {name : String}
    {a b : α} (ha : (name, a) ∈ entries) (hb : (name, b) ∈ entries) : a = b := by
  have hEntry := List.inj_on_of_nodup_map h.nodup ha hb rfl
  exact (Prod.mk.inj hEntry).2

theorem Ascending.get_eq_some {entries : List (String × α)} (h : Ascending entries) {name : String}
    {value : α} : get entries name = some value ↔ (name, value) ∈ entries := by
  refine ⟨mem_of_get, ?_⟩
  intro hMem
  cases hGet : get entries name with
  | none =>
    rw [get, Option.map_eq_none_iff, List.find?_eq_none] at hGet
    exact absurd (beq_self_eq_true name) (hGet _ hMem)
  | some found => rw [h.unique (mem_of_get hGet) hMem]

theorem Ascending.ext {entries entries' : List (String × α)} (h : Ascending entries)
    (h' : Ascending entries') (hMem : ∀ entry, entry ∈ entries ↔ entry ∈ entries') :
    entries = entries' := by
  have hPerm : entries.Perm entries' :=
    (List.perm_ext_iff_of_nodup h.nodup.of_map h'.nodup.of_map).mpr hMem
  exact hPerm.eq_of_pairwise (fun _ _ _ _ hab hba => (lt_asymm hab hba).elim) h h'

theorem Ascending.map {entries : List (String × α)} (h : Ascending entries) (f : α → β) :
    Ascending (entries.map fun entry => (entry.1, f entry.2)) :=
  List.pairwise_map.mpr h

/-! ## Entries put in order -/

theorem insert_map (f : α → β) (entries : List (String × α)) (name : String) (value : α) :
    insert (entries.map fun entry => (entry.1, f entry.2)) name (f value) =
      (insert entries name value).map fun entry => (entry.1, f entry.2) := by
  induction entries with
  | nil => rfl
  | cons head rest ih =>
    obtain ⟨k, v⟩ := head
    rw [List.map_cons, insert, insert]
    split
    · rfl
    · split
      · rw [ih, List.map_cons]
      · rfl

section Folds

variable (found : List (String × α)) (entries : List (String × α))

theorem foldl_insert_map (f : α → β) :
    (entries.map fun entry => (entry.1, f entry.2)).foldl
        (fun found entry => insert found entry.1 entry.2)
        (found.map fun entry => (entry.1, f entry.2)) =
      (entries.foldl (fun found entry => insert found entry.1 entry.2) found).map fun entry =>
        (entry.1, f entry.2) := by
  induction entries generalizing found with
  | nil => rfl
  | cons head rest ih => rw [List.map_cons, List.foldl_cons, List.foldl_cons, insert_map, ih]

variable {found} {entries}

theorem mem_foldl_insert {entry : String × α}
    (h : entry ∈ entries.foldl (fun found entry => insert found entry.1 entry.2) found) :
    entry ∈ entries ∨ entry ∈ found := by
  induction entries generalizing found with
  | nil => exact .inr h
  | cons head rest ih =>
    obtain hRest | hInserted := ih h
    · exact .inl (List.mem_cons_of_mem head hRest)
    · obtain rfl | hOld := mem_insert hInserted
      · exact .inl List.mem_cons_self
      · exact .inr hOld

theorem ascending_foldl_insert (h : Ascending found) :
    Ascending (entries.foldl (fun found entry => insert found entry.1 entry.2) found) := by
  induction entries generalizing found with
  | nil => exact h
  | cons head rest ih => exact ih (ascending_insert h head.1 head.2)

theorem insert_last {name : String} {value : α} (h : ∀ entry ∈ found, entry.1 < name) :
    insert found name value = found ++ [(name, value)] := by
  induction found with
  | nil => rfl
  | cons head rest ih =>
    obtain ⟨k, v⟩ := head
    obtain ⟨hHead, hRest⟩ := List.forall_mem_cons.mp h
    rw [insert, if_neg (ne_of_lt hHead), if_pos hHead, ih hRest, List.cons_append]

theorem foldl_insert_of_ascending (h : Ascending (found ++ entries)) :
    entries.foldl (fun found entry => insert found entry.1 entry.2) found = found ++ entries := by
  induction entries generalizing found with
  | nil => rw [List.foldl_nil, List.append_nil]
  | cons head rest ih =>
    have hLast : ∀ entry ∈ found, entry.1 < head.1 := fun entry hEntry =>
      (List.pairwise_append.mp h).2.2 entry hEntry head List.mem_cons_self
    have hSplit : found ++ head :: rest = found ++ [head] ++ rest := by simp
    rw [List.foldl_cons, insert_last hLast, hSplit]
    rw [hSplit] at h
    exact ih h

end Folds

theorem ofList_map (f : α → β) (entries : List (String × α)) :
    ofList (entries.map fun entry => (entry.1, f entry.2)) =
      (ofList entries).map fun entry => (entry.1, f entry.2) :=
  foldl_insert_map [] entries f

theorem mem_of_mem_ofList {entries : List (String × α)} {entry : String × α}
    (h : entry ∈ ofList entries) : entry ∈ entries := by
  obtain hMem | hNil := mem_foldl_insert h
  · exact hMem
  · cases hNil

theorem ascending_ofList (entries : List (String × α)) : Ascending (ofList entries) :=
  ascending_foldl_insert List.Pairwise.nil

/-- Entries in order stay as they are. -/
theorem ofList_of_ascending {entries : List (String × α)} (h : Ascending entries) :
    ofList entries = entries := by
  have hAll : Ascending ([] ++ entries) := h
  exact foldl_insert_of_ascending hAll

/-! ## The last of each name -/

theorem get_append (entries entries' : List (String × α)) (name : String) :
    get (entries ++ entries') name = (get entries name).or (get entries' name) := by
  induction entries with
  | nil => rfl
  | cons head rest ih =>
    obtain ⟨k, v⟩ := head
    rw [List.cons_append, get_cons, get_cons, ih]
    split
    · rfl
    · rfl

theorem get_foldl_insert (found entries : List (String × α)) (name : String) :
    get (entries.foldl (fun found entry => insert found entry.1 entry.2) found) name =
      (get entries.reverse name).or (get found name) := by
  induction entries generalizing found with
  | nil => rfl
  | cons head rest ih =>
    obtain ⟨k, v⟩ := head
    rw [List.foldl_cons, ih, get_insert, List.reverse_cons, get_append, Option.or_assoc, get_cons]
    split
    · rfl
    · rfl

theorem get_ofList (entries : List (String × α)) (name : String) :
    get (ofList entries) name = get entries.reverse name := by
  rw [ofList, get_foldl_insert]
  exact Option.or_none

theorem exists_mem_ofList {entries : List (String × α)} {entry : String × α} (h : entry ∈ entries) :
    ∃ value, (entry.1, value) ∈ ofList entries := by
  cases hGet : get entries.reverse entry.1 with
  | none =>
    rw [get, Option.map_eq_none_iff, List.find?_eq_none] at hGet
    exact absurd (beq_self_eq_true entry.1) (hGet entry (List.mem_reverse.mpr h))
  | some value =>
    rw [← get_ofList] at hGet
    exact ⟨value, mem_of_get hGet⟩

theorem Ascending.ext_get {entries entries' : List (String × α)} (h : Ascending entries)
    (h' : Ascending entries') (hGet : ∀ name, get entries name = get entries' name) :
    entries = entries' := by
  apply h.ext h'
  rintro ⟨name, value⟩
  rw [← h.get_eq_some, ← h'.get_eq_some, hGet]

/-- The entries but those of one name. -/
def without (entries : List (String × α)) (name : String) : List (String × α) :=
  entries.filter fun entry => entry.1 ≠ name

theorem mem_without {entries : List (String × α)} {name : String} {entry : String × α} :
    entry ∈ without entries name ↔ entry ∈ entries ∧ entry.1 ≠ name := by
  simp [without]

theorem Ascending.without {entries : List (String × α)} (h : Ascending entries) (name : String) :
    Ascending (without entries name) :=
  List.Pairwise.filter _ h

theorem get_without (entries : List (String × α)) (name k : String) :
    get (without entries name) k = if k = name then none else get entries k := by
  split
  · next hName =>
    apply get_eq_none
    intro entry hEntry
    rw [hName]
    exact (mem_without.mp hEntry).2
  · next hName =>
    rw [get, get, without, List.find?_filter]
    congr 2
    funext entry
    by_cases hEntry : entry.1 = k
    · simp [hEntry, hName]
    · simp [hEntry]

theorem ofList_without (entries : List (String × α)) (name : String) :
    ofList (without entries name) = without (ofList entries) name := by
  apply (ascending_ofList _).ext_get ((ascending_ofList entries).without name)
  intro k
  have hReverse : (without entries name).reverse = without entries.reverse name :=
    (List.filter_reverse ..).symm
  rw [get_ofList, hReverse, get_without, get_without, get_ofList]

theorem without_insert {entries : List (String × α)} (h : Ascending entries) (name : String)
    (value : α) : without (insert entries name value) name = without entries name := by
  apply ((ascending_insert h name value).without name).ext_get (h.without name)
  intro k
  rw [get_without, get_without, get_insert]
  split
  · rfl
  · next hName => rw [if_neg (Ne.symm hName)]

theorem without_map (f : α → β) (entries : List (String × α)) (name : String) :
    without (entries.map fun entry => (entry.1, f entry.2)) name =
      (without entries name).map fun entry => (entry.1, f entry.2) :=
  List.filter_map

/-- What was put in is all there is of its name. -/
theorem filter_insert {entries : List (String × α)} (h : Ascending entries) (name : String)
    (value : α) : ((insert entries name value).filter fun entry => entry.1 = name) =
      [(name, value)] := by
  have hInsert := ascending_insert h name value
  have hPut : (name, value) ∈ insert entries name value := by
    rw [← hInsert.get_eq_some, get_insert, if_pos rfl]
  apply Ascending.ext (List.Pairwise.filter _ hInsert) (List.pairwise_singleton _ _)
  rintro ⟨k, v⟩
  rw [List.mem_filter, List.mem_singleton]
  constructor
  · rintro ⟨hMem, hName⟩
    obtain rfl : k = name := of_decide_eq_true hName
    rw [hInsert.unique hMem hPut]
  · intro hEntry
    cases hEntry
    exact ⟨hPut, decide_eq_true rfl⟩

end AiGateway.Entries
