import AiGateway.Base.Text

/-!
# JSON values

A JSON document model with integer and floating numbers kept apart.  Objects
are association lists; `Value.insert` keeps keys in ascending order, so an
object built with it is rendered in that order.  A float is carried as its
shortest decimal text.
-/

namespace AiGateway.Json

set_option autoImplicit false

inductive Number where
  | posInt (n : UInt64)
  | negInt (i : Int64)
  | float (text : String)
  deriving DecidableEq, Repr

inductive Value where
  | null
  | bool (b : Bool)
  | number (n : Number)
  | string (s : String)
  | array (items : List Value)
  | object (fields : List (String × Value))

abbrev Fields := List (String × Value)

namespace Fields

def get (fields : Fields) (key : String) : Option Value :=
  (fields.find? fun entry => entry.1 == key).map Prod.snd

def remove (fields : Fields) (key : String) : Fields :=
  fields.filter fun entry => entry.1 != key

/-- Insertion at the place of the key in ascending order, replacing an entry
with the same key. -/
def insert : Fields → String → Value → Fields
  | [], key, value => [(key, value)]
  | (k, v) :: rest, key, value =>
    if k = key then (key, value) :: rest
    else if k < key then (k, v) :: insert rest key value
    else (key, value) :: (k, v) :: rest

theorem mem_insert {fields : Fields} {key : String} {value : Value} {entry : String × Value}
    (h : entry ∈ insert fields key value) : entry = (key, value) ∨ entry ∈ fields := by
  induction fields with
  | nil => simpa [insert] using h
  | cons head rest ih =>
    obtain ⟨k, v⟩ := head
    rw [insert] at h
    split at h
    · obtain hHead | hRest := List.mem_cons.mp h
      · exact .inl hHead
      · exact .inr (List.mem_cons_of_mem _ hRest)
    · split at h
      · obtain hHead | hRest := List.mem_cons.mp h
        · exact .inr (hHead ▸ List.mem_cons_self)
        · exact (ih hRest).imp_right (List.mem_cons_of_mem _)
      · obtain hHead | hRest := List.mem_cons.mp h
        · exact .inl hHead
        · exact .inr hRest

theorem get_cons (key : String) (value : Value) (rest : Fields) (k : String) :
    get ((key, value) :: rest) k = if key = k then some value else get rest k := by
  simp only [get, List.find?_cons]
  rcases Decidable.em (key = k) with hKey | hKey
  · simp [hKey]
  · rw [if_neg hKey, beq_false_of_ne hKey]

theorem get_insert (fields : Fields) (key : String) (value : Value) (k : String) :
    get (insert fields key value) k = if key = k then some value else get fields k := by
  induction fields with
  | nil => rw [insert, get_cons]
  | cons head rest ih =>
    obtain ⟨key', value'⟩ := head
    rw [insert]
    split
    · next hSame =>
      rw [get_cons, get_cons, hSame]
      split <;> rfl
    · next hOther =>
      split
      · rw [get_cons, ih, get_cons]
        split
        · next hThis => rw [if_neg fun hKey => hOther (hThis.trans hKey.symm)]
        · rfl
      · rw [get_cons]

theorem get_remove (fields : Fields) (key k : String) :
    get (remove fields key) k = if key = k then none else get fields k := by
  induction fields with
  | nil => simp [remove, get]
  | cons head rest ih =>
    obtain ⟨key', value⟩ := head
    rw [remove, List.filter_cons]
    by_cases hRemoved : key' = key
    · have hDrop : ((key' != key) = true) = False := by simp [hRemoved]
      simp only [hDrop, if_false]
      rw [← remove, ih, get_cons, hRemoved]
      split <;> rfl
    · have hKeep : ((key' != key) = true) = True := by simp [hRemoved]
      simp only [hKeep, if_true]
      rw [← remove, get_cons, get_cons, ih]
      split
      · next hHere => rw [if_neg fun hKey => hRemoved (hHere.trans hKey.symm)]
      · rfl

theorem get_isSome_iff {fields : Fields} {key : String} :
    (get fields key).isSome = true ↔ key ∈ fields.map Prod.fst := by
  simp [get, List.find?_isSome, List.mem_map]

theorem mem_of_get {fields : Fields} {key : String} {value : Value}
    (h : get fields key = some value) : (key, value) ∈ fields := by
  obtain ⟨⟨key', value'⟩, hFound, rfl⟩ := Option.map_eq_some_iff.mp h
  have hKey := List.find?_some hFound
  obtain rfl : key' = key := eq_of_beq hKey
  exact List.mem_of_find?_eq_some hFound

/-- Entries put into an object one after the other. -/
def insertAll (fields entries : Fields) : Fields :=
  entries.foldl (fun fields entry => insert fields entry.1 entry.2) fields

theorem mem_insertAll {fields entries : Fields} {entry : String × Value}
    (h : entry ∈ insertAll fields entries) : entry ∈ entries ∨ entry ∈ fields := by
  induction entries generalizing fields with
  | nil => exact .inr h
  | cons head rest ih =>
    obtain hRest | hInserted := ih h
    · exact .inl (List.mem_cons_of_mem head hRest)
    · obtain rfl | hOld := mem_insert hInserted
      · exact .inl List.mem_cons_self
      · exact .inr hOld

theorem get_insertAll {fields entries : Fields} (h : (entries.map Prod.fst).Nodup)
    (key : String) :
    get (insertAll fields entries) key = (get entries key).or (get fields key) := by
  induction entries generalizing fields with
  | nil => rfl
  | cons head rest ih =>
    obtain ⟨key', value⟩ := head
    rw [List.map_cons, List.nodup_cons] at h
    change get (insertAll (insert fields key' value) rest) key = _
    rw [ih h.2, get_insert, get_cons]
    split
    · next hKey =>
      have hNone : get rest key = none := by
        rw [← Option.not_isSome_iff_eq_none, get_isSome_iff, ← hKey]
        exact h.1
      rw [hNone]
      rfl
    · rfl

end Fields

namespace Value

/-- An object from entries in any order. -/
def ofFields (entries : List (String × Value)) : Value :=
  .object (entries.foldl (fun fields entry => Fields.insert fields entry.1 entry.2) [])

def ofInt (i : Int) : Value :=
  if 0 ≤ i then .number (.posInt (UInt64.ofNat i.toNat)) else .number (.negInt (Int64.ofInt i))

def get (v : Value) (key : String) : Option Value :=
  match v with
  | .object fields => Fields.get fields key
  | _ => none

def asStr : Value → Option String
  | .string s => some s
  | _ => none

def asArray : Value → Option (List Value)
  | .array items => some items
  | _ => none

def asU64 : Value → Option Nat
  | .number (.posInt n) => some n.toNat
  | _ => none

def asI64 : Value → Option Int
  | .number (.posInt n) => if n.toNat < 2 ^ 63 then some n.toNat else none
  | .number (.negInt i) => some i.toInt
  | _ => none

theorem asI64_range {v : Value} {i : Int} (h : v.asI64 = some i) : -2 ^ 63 ≤ i ∧ i < 2 ^ 63 := by
  unfold asI64 at h
  split at h
  · split at h
    · next n hSmall =>
      obtain rfl := Option.some.inj h
      omega
    · cases h
  · next n =>
    obtain rfl := Option.some.inj h
    exact ⟨n.le_toInt, n.toInt_lt⟩
  · cases h

theorem asI64_ofInt {i : Int} (hLow : -2 ^ 63 ≤ i) (hHigh : i < 2 ^ 63) :
    asI64 (ofInt i) = some i := by
  unfold ofInt
  split
  · next hNat =>
    have hToNat : (UInt64.ofNat i.toNat).toNat = i.toNat := by
      rw [UInt64.toNat_ofNat']
      omega
    have hSmall : i.toNat < 2 ^ 63 := by omega
    rw [asI64, hToNat, if_pos hSmall, Int.toNat_of_nonneg hNat]
  · rw [asI64, Int64.toInt_ofInt_of_le hLow hHigh]

end Value

/-- Escapes of the compact writer. -/
def escapeChar (c : Char) : List Char :=
  if c = '"' then ['\\', '"']
  else if c = '\\' then ['\\', '\\']
  else if c.toNat = 0x08 then ['\\', 'b']
  else if c.toNat = 0x09 then ['\\', 't']
  else if c.toNat = 0x0A then ['\\', 'n']
  else if c.toNat = 0x0C then ['\\', 'f']
  else if c.toNat = 0x0D then ['\\', 'r']
  else if c.toNat < 0x20 then
    ['\\', 'u', '0', '0', Nat.digitChar (c.toNat / 16), Nat.digitChar (c.toNat % 16)]
  else [c]

def renderString (s : String) : String :=
  "\"" ++ String.ofList (s.toList.flatMap escapeChar) ++ "\""

def Number.render : Number → String
  | .posInt n => toString n.toNat
  | .negInt i => toString i.toInt
  | .float text => text

mutual
/-- Compact text of a value. -/
def render : Value → String
  | .null => "null"
  | .bool true => "true"
  | .bool false => "false"
  | .number n => n.render
  | .string s => renderString s
  | .array items => "[" ++ renderItems items ++ "]"
  | .object fields => "\x7b" ++ renderFields fields ++ "\x7d"

def renderItems : List Value → String
  | [] => ""
  | [v] => render v
  | v :: rest => render v ++ "," ++ renderItems rest

def renderFields : List (String × Value) → String
  | [] => ""
  | [(k, v)] => renderString k ++ ":" ++ render v
  | (k, v) :: rest => renderString k ++ ":" ++ render v ++ "," ++ renderFields rest
end

end AiGateway.Json
