import AiGateway.Base.Collect
import AiGateway.Base.Entries

/-!
# Objects as maps

Documents compared for equality, and objects whose members stand in ascending
order of their names: there is one such object for each map.
-/

namespace AiGateway.Json

set_option autoImplicit false

/-! ## Equality of documents -/

mutual
def Value.same : Value → Value → Bool
  | .null, .null => true
  | .bool a, .bool b => a = b
  | .number a, .number b => a = b
  | .string a, .string b => a = b
  | .array items, .array items' => sameItems items items'
  | .object fields, .object fields' => sameMembers fields fields'
  | _, _ => false

def sameItems : List Value → List Value → Bool
  | [], [] => true
  | a :: items, b :: items' => a.same b && sameItems items items'
  | _, _ => false

def sameMembers : List (String × Value) → List (String × Value) → Bool
  | [], [] => true
  | (name, a) :: fields, (name', b) :: fields' =>
    name = name' && a.same b && sameMembers fields fields'
  | _, _ => false
end

mutual
theorem Value.same_iff (a b : Value) : a.same b = true ↔ a = b := by
  cases a <;> cases b
  case null.null => exact ⟨fun _ => rfl, fun _ => rfl⟩
  case bool.bool => rw [Value.same, decide_eq_true_iff, Value.bool.injEq]
  case number.number => rw [Value.same, decide_eq_true_iff, Value.number.injEq]
  case string.string => rw [Value.same, decide_eq_true_iff, Value.string.injEq]
  case array.array items items' => rw [Value.same, sameItems_iff, Value.array.injEq]
  case object.object fields fields' => rw [Value.same, sameMembers_iff, Value.object.injEq]
  all_goals simp [Value.same]

theorem sameItems_iff (items items' : List Value) :
    sameItems items items' = true ↔ items = items' := by
  cases items <;> cases items'
  case nil.nil => exact ⟨fun _ => rfl, fun _ => rfl⟩
  case cons.cons a items b items' =>
    rw [sameItems, Bool.and_eq_true, a.same_iff b, sameItems_iff items items', List.cons.injEq]
  all_goals simp [sameItems]

theorem sameMembers_iff (fields fields' : List (String × Value)) :
    sameMembers fields fields' = true ↔ fields = fields' := by
  cases fields <;> cases fields'
  case nil.nil => exact ⟨fun _ => rfl, fun _ => rfl⟩
  case cons.cons member fields member' fields' =>
    obtain ⟨name, a⟩ := member
    obtain ⟨name', b⟩ := member'
    rw [sameMembers, Bool.and_eq_true, Bool.and_eq_true, decide_eq_true_iff, a.same_iff b,
      sameMembers_iff fields fields', List.cons.injEq, Prod.mk.injEq]
  all_goals simp [sameMembers]
end

instance : DecidableEq Value := fun a b => decidable_of_iff _ (a.same_iff b)

/-! ## Ascending members -/

namespace Fields

abbrev Ascending (fields : Fields) : Prop := Entries.Ascending fields

theorem insert_eq (fields : Fields) (key : String) (value : Value) :
    insert fields key value = Entries.insert fields key value := by
  induction fields with
  | nil => rfl
  | cons head rest ih =>
    obtain ⟨k, v⟩ := head
    rw [insert, Entries.insert, ih]

theorem ascending_insertAll {fields : Fields} (h : Ascending fields) (entries : Fields) :
    Ascending (insertAll fields entries) := by
  have hSame : insertAll fields entries =
      entries.foldl (fun found entry => Entries.insert found entry.1 entry.2) fields := by
    rw [insertAll]
    congr 1
    funext fields entry
    exact insert_eq fields entry.1 entry.2
  rw [hSame]
  exact Entries.ascending_foldl_insert h

end Fields

/-- The object of a map. -/
def Value.IsMap (value : Value) : Prop := ∃ fields : Fields, value = .object fields ∧ fields.Ascending

end AiGateway.Json

namespace AiGateway.Collect

open AiGateway.Checked AiGateway.Json

variable {K V ε : Type} [DecidableEq K] {name : K → String} {encode : V → Value}

omit [DecidableEq K] in
theorem ascending_members (table : Table K V) : Fields.Ascending (members name encode table) :=
  Fields.ascending_insertAll List.Pairwise.nil _

theorem mem_members_iff (hName : Function.Injective name) {table : Table K V}
    {member : String × Value} : member ∈ members name encode table ↔
      ∃ key value, table.get key = some value ∧ member = (name key, encode value) := by
  constructor
  · exact exists_of_mem_members
  · rintro ⟨key, value, hValue, rfl⟩
    exact mem_members hName hValue

/-- Tables with the same entries are written alike. -/
theorem members_congr (hName : Function.Injective name) {table table' : Table K V}
    (h : ∀ key, table.get key = table'.get key) :
    members name encode table = members name encode table' := by
  apply Entries.Ascending.ext (ascending_members table) (ascending_members table')
  intro member
  rw [mem_members_iff hName, mem_members_iff hName]
  simp only [h]

section Reading

variable {read : String × Value → Except ε (K × V)} {fields : Fields}

theorem read_of_collect {start table : Table K V} (h : collect read fields start = .ok table) :
    ∀ member ∈ fields, ∃ pair, read member = .ok pair := by
  induction fields generalizing start with
  | nil => nofun
  | cons head rest ih =>
    obtain ⟨next, hNext, hRest⟩ := bind_eq_ok.mp h
    obtain ⟨pair, hPair, -⟩ := bind_eq_ok.mp hNext
    exact List.forall_mem_cons.mpr ⟨⟨pair, hPair⟩, ih hRest⟩

/-- What an object was read into is written as that object. -/
theorem members_of_collect (hName : Function.Injective name) (hEncode : Function.Injective encode)
    (hRead : ∀ member ∈ fields, ∀ pair, read member = .ok pair →
      member = (name pair.1, encode pair.2))
    (hFields : fields.Ascending) {table : Table K V}
    (h : collect read fields .empty = .ok table) : members name encode table = fields := by
  classical
  let expected : K → Option V := fun key =>
    if hMem : ∃ value, (name key, encode value) ∈ fields then some hMem.choose else none
  have hExpected : ∀ key value, (name key, encode value) ∈ fields → expected key = some value := by
    rintro key value hMem
    have hSome : ∃ value, (name key, encode value) ∈ fields := ⟨value, hMem⟩
    have hSame := hEncode (Entries.Ascending.unique hFields hSome.choose_spec hMem)
    simp only [expected, dif_pos hSome, hSame]
  have hMembers : ∀ member ∈ fields, ∀ pair, read member = .ok pair →
      expected pair.1 = some pair.2 := by
    rintro member hMem pair hPair
    apply hExpected
    rw [← hRead member hMem pair hPair]
    exact hMem
  apply Entries.Ascending.ext (ascending_members table) hFields
  intro member
  rw [mem_members_iff hName]
  constructor
  · rintro ⟨key, value, hValue, rfl⟩
    obtain ⟨hIn, hOut⟩ := get_collect hMembers h key
    by_cases hRead' : ∃ entry ∈ fields, ∃ value, read entry = .ok (key, value)
    · obtain ⟨entry, hEntry, found, hFound⟩ := hRead'
      have hShape := hRead entry hEntry _ hFound
      have hGet := hIn ⟨entry, hEntry, found, hFound⟩
      rw [hMembers entry hEntry _ hFound, hValue] at hGet
      obtain rfl := Option.some.inj hGet
      rw [← hShape]
      exact hEntry
    · have hNone : table.get key = none :=
        hOut fun entry hEntry value hValue => hRead' ⟨entry, hEntry, value, hValue⟩
      rw [hValue] at hNone
      cases hNone
  · rintro hMem
    obtain ⟨⟨key, value⟩, hPair⟩ := read_of_collect h member hMem
    have hGet := (get_collect hMembers h key).1 ⟨member, hMem, value, hPair⟩
    rw [hMembers member hMem _ hPair] at hGet
    exact ⟨key, value, hGet, hRead member hMem _ hPair⟩

end Reading

end AiGateway.Collect
