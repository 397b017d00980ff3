import AiGateway.Base.Json
import AiGateway.Base.Relational
import AiGateway.Base.Table

/-!
# Tables as objects

A table is written as an object with one member for each entry and read back
member by member.
-/

namespace AiGateway.Collect

set_option autoImplicit false

open AiGateway.Checked AiGateway.Json

variable {E K V ε : Type} [DecidableEq K]

/-- Entries read one after the other into a table. -/
def collect (read : E → Except ε (K × V)) (entries : List E) (start : Table K V) :
    Except ε (Table K V) :=
  entries.foldlM (fun table entry => do
    let pair ← read entry
    return table.insert pair.1 pair.2) start

section Reading

variable {read : E → Except ε (K × V)} {entries : List E}

theorem collect_ok (hRead : ∀ entry ∈ entries, ∃ pair, read entry = .ok pair)
    (start : Table K V) : ∃ table, collect read entries start = .ok table := by
  induction entries generalizing start with
  | nil => exact ⟨start, rfl⟩
  | cons entry rest ih =>
    rw [List.forall_mem_cons] at hRead
    obtain ⟨pair, hPair⟩ := hRead.1
    obtain ⟨table, hTable⟩ := ih hRead.2 (start.insert pair.1 pair.2)
    exact ⟨table, bind_eq_ok.mpr ⟨_, bind_eq_ok.mpr ⟨pair, hPair, rfl⟩, hTable⟩⟩

/-- What is read for a key is found under it, however often it is read. -/
theorem get_collect {expected : K → Option V}
    (hRead : ∀ entry ∈ entries, ∀ pair, read entry = .ok pair → expected pair.1 = some pair.2)
    {start table : Table K V} (h : collect read entries start = .ok table) (key : K) :
    ((∃ entry ∈ entries, ∃ value, read entry = .ok (key, value)) →
      table.get key = expected key) ∧
    ((∀ entry ∈ entries, ∀ value, read entry ≠ .ok (key, value)) →
      table.get key = start.get key) := by
  induction entries generalizing start with
  | nil =>
    cases h
    exact ⟨nofun, fun _ => rfl⟩
  | cons entry rest ih =>
    rw [List.forall_mem_cons] at hRead
    obtain ⟨next, hNext, hRest⟩ := bind_eq_ok.mp h
    obtain ⟨pair, hPair, hInsert⟩ := bind_eq_ok.mp hNext
    rw [← pure_eq_ok.mp hInsert] at hRest
    obtain ⟨hIn, hOut⟩ := ih hRead.2 hRest
    constructor
    · rintro ⟨other, hOther, value, hValue⟩
      by_cases hLater : ∃ entry ∈ rest, ∃ value, read entry = .ok (key, value)
      · exact hIn hLater
      · obtain rfl : other = entry := by
          obtain hHere | hRest := List.mem_cons.mp hOther
          · exact hHere
          · exact absurd ⟨other, hRest, value, hValue⟩ hLater
        obtain rfl : pair = (key, value) := Except.ok.inj (hPair.symm.trans hValue)
        rw [hOut fun entry hEntry value hValue => hLater ⟨entry, hEntry, value, hValue⟩,
          Table.get_insert, if_pos rfl, hRead.1 _ hPair]
    · intro hNone
      rw [List.forall_mem_cons] at hNone
      have hOther : key ≠ pair.1 := by
        rintro rfl
        exact hNone.1 pair.2 hPair
      rw [hOut hNone.2, Table.get_insert, if_neg hOther]

end Reading

section Writing

variable {name : K → String} {encode : V → Value}

/-- A table as the members of an object. -/
def members (name : K → String) (encode : V → Value) (table : Table K V) : Fields :=
  Fields.insertAll [] (table.entries.map fun entry => (name entry.1, encode entry.2))

theorem exists_of_mem_members {table : Table K V} {member : String × Value}
    (h : member ∈ members name encode table) :
    ∃ key value, table.get key = some value ∧ member = (name key, encode value) := by
  obtain hMem | hNil := Fields.mem_insertAll h
  · obtain ⟨⟨key, value⟩, hEntry, rfl⟩ := List.mem_map.mp hMem
    exact ⟨key, value, table.mem_entries_iff.mp hEntry, rfl⟩
  · cases hNil

theorem mem_members (hName : Function.Injective name) {table : Table K V} {key : K} {value : V}
    (h : table.get key = some value) : (name key, encode value) ∈ members name encode table := by
  have hKeys : ((table.entries.map fun entry => (name entry.1, encode entry.2)).map
      Prod.fst).Nodup := by
    have hNames : (table.entries.map fun entry => (name entry.1, encode entry.2)).map Prod.fst =
        (table.entries.map Prod.fst).map name := by
      rw [List.map_map, List.map_map]
      rfl
    rw [hNames]
    exact table.nodup.map hName
  have hSome : (Fields.get (members name encode table) (name key)).isSome = true := by
    rw [members, Fields.get_insertAll hKeys, Option.isSome_or, Bool.or_eq_true]
    refine .inl (Fields.get_isSome_iff.mpr ?_)
    exact List.mem_map_of_mem (List.mem_map_of_mem (table.mem_entries_iff.mpr h))
  obtain ⟨written, hWritten⟩ := Option.isSome_iff_exists.mp hSome
  have hMember := Fields.mem_of_get hWritten
  obtain ⟨key', value', hEntry, hSame⟩ := exists_of_mem_members hMember
  obtain ⟨hKey, rfl⟩ := Prod.mk.inj hSame
  obtain rfl := hName hKey
  obtain rfl := Option.some.inj (h.symm.trans hEntry)
  exact hMember

/-- Reading the members of a table gives its entries again. -/
theorem collect_members (hName : Function.Injective name)
    {read : String × Value → Except ε (K × V)} {table : Table K V}
    (hRead : ∀ key value, table.get key = some value →
      read (name key, encode value) = .ok (key, value)) :
    ∃ found, collect read (members name encode table) .empty = .ok found ∧
      ∀ key, found.get key = table.get key := by
  have hMembers : ∀ member ∈ members name encode table, ∀ pair, read member = .ok pair →
      table.get pair.1 = some pair.2 := by
    rintro member hMember pair hPair
    obtain ⟨key, value, hEntry, rfl⟩ := exists_of_mem_members hMember
    obtain rfl : (key, value) = pair := Except.ok.inj ((hRead key value hEntry).symm.trans hPair)
    exact hEntry
  have hAll : ∀ member ∈ members name encode table, ∃ pair, read member = .ok pair := by
    rintro member hMember
    obtain ⟨key, value, hEntry, rfl⟩ := exists_of_mem_members hMember
    exact ⟨_, hRead key value hEntry⟩
  obtain ⟨found, hFound⟩ := collect_ok hAll .empty
  refine ⟨found, hFound, ?_⟩
  intro key
  obtain ⟨hIn, hOut⟩ := get_collect hMembers hFound key
  cases hEntry : table.get key with
  | some value =>
    rw [hIn ⟨_, mem_members hName hEntry, value, hRead key value hEntry⟩, hEntry]
  | none =>
    refine (hOut ?_).trans rfl
    rintro member hMember value hValue
    rw [hMembers member hMember _ hValue] at hEntry
    cases hEntry

end Writing

end AiGateway.Collect
