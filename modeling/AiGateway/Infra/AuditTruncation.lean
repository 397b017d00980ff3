import AiGateway.Base.IntText
import AiGateway.Infra.AuditDiff
import Mathlib.Data.Set.Card

/-!
# What a summary leaves out

The walk reads the full listing of a payload up to the entry that gives it the
last field it may have.  It never goes past that bound, so the mark of a payload
with more fields is never set, and whatever stands after that entry is missing
from the summary without notice.
-/

namespace AiGateway.Audit

set_option autoImplicit false

open AiGateway.Json

/-! ## The walk over a listing -/

namespace Collected

def names (c : Collected) : Finset String := (c.fields.map Prod.fst).toFinset

end Collected

/-- The walk, over the listing of what it walks over. -/
def record (c : Collected) : List Entry → Collected
  | [] => c
  | .field path type :: rest =>
    if maxDiffFields ≤ (c.insert path type).fields.length then c.insert path type
    else record (c.insert path type) rest
  | .sensitive path :: rest => record (c.push path) rest

theorem record_append {c : Collected} (entries entries' : List Entry)
    (hSmall : c.fields.length < maxDiffFields) :
    record c (entries ++ entries') =
      if maxDiffFields ≤ (record c entries).fields.length then record c entries
      else record (record c entries) entries' := by
  induction entries generalizing c with
  | nil => rw [List.nil_append, record, if_neg (Nat.not_le.mpr hSmall)]
  | cons entry rest ih =>
    cases entry with
    | field path type =>
      rw [List.cons_append, record, record]
      by_cases hFull : maxDiffFields ≤ (c.insert path type).fields.length
      · simp only [if_pos hFull]
      · simp only [if_neg hFull]
        exact ih (Nat.not_le.mp hFull)
    | sensitive path =>
      rw [List.cons_append, record, record]
      exact ih hSmall

mutual
theorem collectFields_eq (path : String) (value : Value) {c : Collected}
    (hObject : value.kind = .object) (hSmall : c.fields.length < maxDiffFields) :
    collectFields path value c = record c (listing path value) := by
  cases value with
  | object fields =>
    rw [collectFields, listing]
    exact collectMembers_eq path fields hSmall
  | null | bool | number | string | array => cases hObject

theorem collectMembers_eq (path : String) (fields : Fields) {c : Collected}
    (hSmall : c.fields.length < maxDiffFields) :
    collectMembers path fields c = record c (memberListing path fields) := by
  cases fields with
  | nil => rw [collectMembers, memberListing, record]
  | cons member rest =>
    obtain ⟨key, value⟩ := member
    rw [collectMembers, memberListing]
    by_cases hKey : isSensitiveKey key = true
    · rw [if_pos hKey, if_pos hKey, List.singleton_append, record]
      exact collectMembers_eq path rest hSmall
    · rw [if_neg hKey, if_neg hKey]
      dsimp only
      by_cases hObject : value.kind = .object
      · rw [if_pos hObject, if_pos hObject, record_append _ _ hSmall,
          collectFields_eq _ value hObject hSmall]
        split
        · rfl
        · next hRoom => exact collectMembers_eq path rest (Nat.not_le.mp hRoom)
      · rw [if_neg hObject, if_neg hObject, List.singleton_append, record]
        split
        · rfl
        · next hRoom => exact collectMembers_eq path rest (Nat.not_le.mp hRoom)
end

theorem collectFields_payload (payload : Value) :
    collectFields "" payload .empty = record .empty (listing "" payload) := by
  cases payload with
  | object fields => exact collectFields_eq "" (.object fields) rfl (by decide)
  | null | bool | number | string | array => rfl

/-- An entry with fewer fields before it than a summary may have, those seen already
included. -/
def Early (seen : Finset String) (entries : List Entry) (entry : Entry) : Prop :=
  ∃ before after, entries = before ++ entry :: after ∧
    (seen ∪ fieldPaths before).card < maxDiffFields

theorem Early.room {seen : Finset String} {entries : List Entry} {entry : Entry}
    (h : Early seen entries entry) : seen.card < maxDiffFields := by
  obtain ⟨before, after, -, hRoom⟩ := h
  exact (Finset.card_le_card Finset.subset_union_left).trans_lt hRoom

theorem Early.mem {seen : Finset String} {entries : List Entry} {entry : Entry}
    (h : Early seen entries entry) : entry ∈ entries := by
  obtain ⟨before, after, rfl, -⟩ := h
  exact List.mem_append_right _ List.mem_cons_self

theorem listing_of_leaf (path : String) {value : Value} (h : value.kind ≠ .object) :
    listing path value = [] := by
  cases value with
  | object fields => exact absurd rfl h
  | null | bool | number | string | array => rfl

/-- What an entry says of the payload. -/
def Entry.Holds (payload : Value) : Entry → Prop
  | .field path _ => IsField payload path
  | .sensitive path => IsSensitive payload path

mutual
theorem holds_of_mem_listing {payload value : Value} {path : String}
    (h : Visible payload path value) {entry : Entry} (hEntry : entry ∈ listing path value) :
    entry.Holds payload := by
  cases value with
  | object fields => exact holds_of_mem_memberListing h fields (fun _ => id) hEntry
  | null | bool | number | string | array => cases hEntry

theorem holds_of_mem_memberListing {payload : Value} {path : String} {all : Fields}
    (h : Visible payload path (.object all)) (fields : Fields)
    (hFields : ∀ member ∈ fields, member ∈ all) {entry : Entry}
    (hEntry : entry ∈ memberListing path fields) : entry.Holds payload := by
  cases fields with
  | nil => cases hEntry
  | cons member rest =>
    obtain ⟨key, value⟩ := member
    rw [List.forall_mem_cons] at hFields
    rw [memberListing, List.mem_append] at hEntry
    obtain hHere | hRest := hEntry
    · by_cases hKey : isSensitiveKey key = true
      · rw [if_pos hKey] at hHere
        obtain rfl := List.mem_singleton.mp hHere
        exact ⟨path, all, key, value, h, hFields.1, hKey, rfl⟩
      · rw [if_neg hKey] at hHere
        have hShown := Bool.eq_false_iff.mpr hKey
        by_cases hObject : value.kind = .object
        · rw [if_pos hObject] at hHere
          exact holds_of_mem_listing (h.member hFields.1 hShown) hHere
        · rw [if_neg hObject] at hHere
          obtain rfl := List.mem_singleton.mp hHere
          exact ⟨path, all, key, value, h, hFields.1, hShown, hObject, rfl⟩
    · exact holds_of_mem_memberListing h rest hFields.2 hRest
end

def textsAt (diff : Value) (key : String) : List String :=
  match diff.get key with
  | some (.array items) => items.filterMap Value.asStr
  | _ => []

def changedFields (diff : Value) : List String := textsAt diff "changed_fields"

section Summary

variable (payload : Value)

variable {payload}

end Summary

end AiGateway.Audit
