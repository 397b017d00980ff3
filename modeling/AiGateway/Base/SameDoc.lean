import AiGateway.Base.Entries
import AiGateway.Base.JsonText

/-!
# Documents that say the same

Two documents say the same when they differ at most in how their numbers are
written and in the order and number of times their members are.  A document that
is read and written again says the same exactly when nothing in it is lost: the
value of no number, and no member in favour of another of its name.
-/

namespace AiGateway.JsonText

set_option autoImplicit false

open AiGateway.Json

theorem doc_induction {P : Doc → Prop} (hNull : P .null) (hBool : ∀ b, P (.bool b))
    (hNumber : ∀ l, P (.number l)) (hString : ∀ s, P (.string s))
    (hArray : ∀ items : List Doc, (∀ d ∈ items, P d) → P (.array items))
    (hObject : ∀ members : List (String × Doc), (∀ member ∈ members, P member.2) →
      P (.object members)) (d : Doc) : P d :=
  @Doc.rec P (fun items => ∀ d ∈ items, P d) (fun members => ∀ member ∈ members, P member.2)
    (fun member => P member.2) hNull hBool hNumber hString hArray hObject nofun
    (fun _ _ hHead hRest => List.forall_mem_cons.mpr ⟨hHead, hRest⟩) nofun
    (fun _ _ hHead hRest => List.forall_mem_cons.mpr ⟨hHead, hRest⟩) (fun _ _ h => h) d

mutual
/-- Numbers are compared as exact decimals, arrays item by item, and objects by
what each member of one says in the other. -/
def Same : Doc → Doc → Prop
  | .null, .null => True
  | .bool b, .bool b' => b = b'
  | .number l, .number l' => l.value = l'.value
  | .string s, .string s' => s = s'
  | .array items, .array items' => SameItems items items'
  | .object members, .object members' =>
    Covered members members' ∧ ∀ other ∈ members', Covers members other
  | _, _ => False
termination_by structural d => d

def SameItems : List Doc → List Doc → Prop
  | [], [] => True
  | d :: rest, d' :: rest' => Same d d' ∧ SameItems rest rest'
  | _, _ => False
termination_by structural items => items

/-- Every member is among the others. -/
def Covered : List (String × Doc) → List (String × Doc) → Prop
  | [], _ => True
  | (name, d) :: rest, others =>
    (∃ other ∈ others, name = other.1 ∧ Same d other.2) ∧ Covered rest others
termination_by structural members => members

/-- Some member is the other one. -/
def Covers : List (String × Doc) → String × Doc → Prop
  | [], _ => False
  | (name, d) :: rest, other => (name = other.1 ∧ Same d other.2) ∨ Covers rest other
termination_by structural members => members
end

theorem sameItems_iff {items items' : List Doc} :
    SameItems items items' ↔ List.Forall₂ Same items items' := by
  induction items generalizing items' with
  | nil =>
    cases items' with
    | nil => exact ⟨fun _ => .nil, fun _ => trivial⟩
    | cons d' rest' => exact ⟨False.elim, nofun⟩
  | cons d rest ih =>
    cases items' with
    | nil => exact ⟨False.elim, nofun⟩
    | cons d' rest' => rw [SameItems, ih, List.forall₂_cons]

theorem covered_iff {members others : List (String × Doc)} : Covered members others ↔
    ∀ member ∈ members, ∃ other ∈ others, member.1 = other.1 ∧ Same member.2 other.2 := by
  induction members with
  | nil => exact ⟨fun _ => nofun, fun _ => trivial⟩
  | cons member rest ih => rw [Covered, ih, List.forall_mem_cons]

theorem covers_iff {members : List (String × Doc)} {other : String × Doc} :
    Covers members other ↔ ∃ member ∈ members, member.1 = other.1 ∧ Same member.2 other.2 := by
  induction members with
  | nil => exact ⟨False.elim, nofun⟩
  | cons member rest ih => rw [Covers, ih, List.exists_mem_cons_iff]

theorem same_object_iff {members members' : List (String × Doc)} :
    Same (.object members) (.object members') ↔
      (∀ member ∈ members, ∃ other ∈ members', member.1 = other.1 ∧ Same member.2 other.2) ∧
        ∀ other ∈ members', ∃ member ∈ members, member.1 = other.1 ∧ Same member.2 other.2 := by
  rw [Same, covered_iff]
  simp only [covers_iff]

theorem same_array_iff {items items' : List Doc} :
    Same (.array items) (.array items') ↔ List.Forall₂ Same items items' := by
  rw [Same, sameItems_iff]

/-! ## An equivalence -/

theorem same_refl (d : Doc) : Same d d := by
  induction d using doc_induction with
  | hNull => trivial
  | hBool b => exact rfl
  | hNumber l => exact rfl
  | hString s => exact rfl
  | hArray items ih => exact same_array_iff.mpr (List.forall₂_same.mpr ih)
  | hObject members ih =>
    exact same_object_iff.mpr ⟨fun member hMember => ⟨member, hMember, rfl, ih member hMember⟩,
      fun member hMember => ⟨member, hMember, rfl, ih member hMember⟩⟩

theorem same_symm {d d' : Doc} (h : Same d d') : Same d' d := by
  induction d using doc_induction generalizing d' with
  | hNull =>
    cases d' with
    | null => trivial
    | _ => exact h.elim
  | hBool b =>
    cases d' with
    | bool b' => exact Eq.symm h
    | _ => exact h.elim
  | hNumber l =>
    cases d' with
    | number l' => exact Eq.symm h
    | _ => exact h.elim
  | hString s =>
    cases d' with
    | string s' => exact Eq.symm h
    | _ => exact h.elim
  | hArray items ih =>
    cases d' with
    | array items' =>
      have hItems := same_array_iff.mp h
      apply same_array_iff.mpr
      induction hItems with
      | nil => exact .nil
      | cons hHead hRest ihRest =>
        obtain ⟨hFirst, hOthers⟩ := List.forall_mem_cons.mp ih
        exact .cons (hFirst hHead) (ihRest hOthers (same_array_iff.mpr hRest))
    | _ => exact h.elim
  | hObject members ih =>
    cases d' with
    | object members' =>
      obtain ⟨hCovered, hCovers⟩ := same_object_iff.mp h
      apply same_object_iff.mpr
      constructor
      · intro other hOther
        obtain ⟨member, hMember, hName, hSame⟩ := hCovers other hOther
        exact ⟨member, hMember, hName.symm, ih member hMember hSame⟩
      · intro member hMember
        obtain ⟨other, hOther, hName, hSame⟩ := hCovered member hMember
        exact ⟨other, hOther, hName.symm, ih member hMember hSame⟩
    | _ => exact h.elim

theorem same_trans {d d' d'' : Doc} (h : Same d d') (h' : Same d' d'') : Same d d'' := by
  induction d using doc_induction generalizing d' d'' with
  | hNull =>
    cases d' with
    | null => exact h'
    | _ => exact h.elim
  | hBool b =>
    cases d' with
    | bool b' =>
      obtain rfl : b = b' := h
      exact h'
    | _ => exact h.elim
  | hNumber l =>
    cases d' with
    | number l' =>
      cases d'' with
      | number l'' => exact Eq.trans h h'
      | _ => exact h'.elim
    | _ => exact h.elim
  | hString s =>
    cases d' with
    | string s' =>
      obtain rfl : s = s' := h
      exact h'
    | _ => exact h.elim
  | hArray items ih =>
    cases d' with
    | array items' =>
      cases d'' with
      | array items'' =>
        have hItems := same_array_iff.mp h
        have hItems' := same_array_iff.mp h'
        apply same_array_iff.mpr
        clear h h'
        induction hItems generalizing items'' with
        | nil => exact hItems'
        | cons hHead hRest ihRest =>
          obtain ⟨hFirst, hOthers⟩ := List.forall_mem_cons.mp ih
          cases hItems' with
          | cons hHead' hRest' => exact .cons (hFirst hHead hHead') (ihRest hOthers _ hRest')
      | _ => exact h'.elim
    | _ => exact h.elim
  | hObject members ih =>
    cases d' with
    | object members' =>
      cases d'' with
      | object members'' =>
        obtain ⟨hCovered, hCovers⟩ := same_object_iff.mp h
        obtain ⟨hCovered', hCovers'⟩ := same_object_iff.mp h'
        apply same_object_iff.mpr
        constructor
        · intro member hMember
          obtain ⟨other, hOther, hName, hSame⟩ := hCovered member hMember
          obtain ⟨last, hLast, hName', hSame'⟩ := hCovered' other hOther
          exact ⟨last, hLast, hName.trans hName', ih member hMember hSame hSame'⟩
        · intro last hLast
          obtain ⟨other, hOther, hName', hSame'⟩ := hCovers' last hLast
          obtain ⟨member, hMember, hName, hSame⟩ := hCovers other hOther
          exact ⟨member, hMember, hName.trans hName', ih member hMember hSame hSame'⟩
      | _ => exact h'.elim
    | _ => exact h.elim

/-! ## Reading and writing again -/

section Reread

variable (rewrite : Literal → Literal) (exact : Literal → Prop)

mutual
/-- A document read and written again: every number is written anew, and of the
members of one name the last stays, each at the place of its name. -/
def reread : Doc → Doc
  | .null => .null
  | .bool b => .bool b
  | .number l => .number (rewrite l)
  | .string s => .string s
  | .array items => .array (rereadItems items)
  | .object members => .object (Entries.ofList (rereadMembers members))

def rereadItems : List Doc → List Doc
  | [] => []
  | d :: rest => reread d :: rereadItems rest

def rereadMembers : List (String × Doc) → List (String × Doc)
  | [] => []
  | (name, d) :: rest => (name, reread d) :: rereadMembers rest
end

theorem rereadItems_eq_map (items : List Doc) :
    rereadItems rewrite items = items.map (reread rewrite) := by
  induction items with
  | nil => rfl
  | cons d rest ih => rw [rereadItems, ih, List.map_cons]

theorem rereadMembers_eq_map (members : List (String × Doc)) :
    rereadMembers rewrite members =
      members.map fun member => (member.1, reread rewrite member.2) := by
  induction members with
  | nil => rfl
  | cons member rest ih => rw [rereadMembers, ih, List.map_cons]

theorem reread_object (members : List (String × Doc)) :
    reread rewrite (.object members) = .object ((Entries.ofList members).map fun member =>
      (member.1, reread rewrite member.2)) := by
  rw [reread, rereadMembers_eq_map, Entries.ofList_map]

/-- Members of one name say the same. -/
def Unanimous (members : List (String × Doc)) : Prop :=
  ∀ member ∈ members, ∀ other ∈ members, member.1 = other.1 → Same member.2 other.2

/-- Nothing in the document is lost: its numbers are all exact, and no member
stands in for another one. -/
inductive Survives : Doc → Prop
  | null : Survives .null
  | bool (b : Bool) : Survives (.bool b)
  | number {l : Literal} (h : exact l) : Survives (.number l)
  | string (s : String) : Survives (.string s)
  | array {items : List Doc} (h : ∀ d ∈ items, Survives d) : Survives (.array items)
  | object {members : List (String × Doc)} (hNames : Unanimous members)
    (h : ∀ member ∈ Entries.ofList members, Survives member.2) : Survives (.object members)

variable {rewrite} {exact}

theorem survives_number_iff {l : Literal} : Survives exact (.number l) ↔ exact l := by
  constructor
  · rintro ⟨⟩
    assumption
  · exact .number

theorem survives_array_iff {items : List Doc} :
    Survives exact (.array items) ↔ ∀ d ∈ items, Survives exact d := by
  constructor
  · rintro ⟨⟩
    assumption
  · exact .array

theorem survives_object_iff {members : List (String × Doc)} : Survives exact (.object members) ↔
    Unanimous members ∧ ∀ member ∈ Entries.ofList members, Survives exact member.2 := by
  constructor
  · intro h
    cases h with
    | object hNames h => exact ⟨hNames, h⟩
  · exact fun h => .object h.1 h.2

/-- Every member reappears as the kept one of its name, reread. -/
theorem same_reread_object_iff {members : List (String × Doc)} :
    Same (.object members) (reread rewrite (.object members)) ↔ Unanimous members ∧
      ∀ member ∈ Entries.ofList members, Same member.2 (reread rewrite member.2) := by
  have hUnique := Entries.ascending_ofList members
  rw [reread_object, same_object_iff]
  simp only [List.mem_map, exists_exists_and_eq_and, forall_exists_index, and_imp,
    forall_apply_eq_imp_iff₂]
  constructor
  · rintro ⟨hCovered, -⟩
    have hKept : ∀ member ∈ members, ∀ d, (member.1, d) ∈ Entries.ofList members →
        Same member.2 (reread rewrite d) := by
      intro member hMember d hLast
      obtain ⟨kept, hKept, hName, hSame⟩ := hCovered member hMember
      have hThis : (member.1, kept.2) ∈ Entries.ofList members := by
        rw [hName]
        exact hKept
      rw [hUnique.unique hLast hThis]
      exact hSame
    constructor
    · intro member hMember other hOther hName
      obtain ⟨d, hLast⟩ := Entries.exists_mem_ofList hMember
      have hLast' : (other.1, d) ∈ Entries.ofList members := hName ▸ hLast
      exact same_trans (hKept member hMember d hLast)
        (same_symm (hKept other hOther d hLast'))
    · intro member hMember
      exact hKept member (Entries.mem_of_mem_ofList hMember) member.2 hMember
  · rintro ⟨hNames, hSame⟩
    constructor
    · intro member hMember
      obtain ⟨d, hLast⟩ := Entries.exists_mem_ofList hMember
      have hAlike := hNames member hMember _ (Entries.mem_of_mem_ofList hLast) rfl
      exact ⟨_, hLast, rfl, same_trans hAlike (hSame _ hLast)⟩
    · intro kept hKept
      exact ⟨kept, Entries.mem_of_mem_ofList hKept, rfl, hSame kept hKept⟩

/-- A document says the same once read and written again exactly when nothing in
it is lost. -/
theorem same_reread_iff (hExact : ∀ l, (rewrite l).value = l.value ↔ exact l) (d : Doc) :
    Same d (reread rewrite d) ↔ Survives exact d := by
  induction d using doc_induction with
  | hNull => exact ⟨fun _ => .null, fun _ => trivial⟩
  | hBool b => exact ⟨fun _ => .bool b, fun _ => rfl⟩
  | hNumber l =>
    rw [survives_number_iff, ← hExact]
    exact eq_comm
  | hString s => exact ⟨fun _ => .string s, fun _ => rfl⟩
  | hArray items ih =>
    rw [reread, rereadItems_eq_map, same_array_iff, survives_array_iff, List.forall₂_map_right_iff,
      List.forall₂_same]
    exact forall₂_congr ih
  | hObject members ih =>
    rw [same_reread_object_iff, survives_object_iff]
    refine and_congr_right fun _ => forall₂_congr fun member hMember => ?_
    exact ih member (Entries.mem_of_mem_ofList hMember)

/-! ## One member replaced -/

/-- The same object but for the member of one name, which is there once and
holds the value. -/
def Replaces (name : String) (value : Doc) : Doc → Doc → Prop
  | .object members, .object members' =>
    (members'.filter fun member => member.1 = name) = [(name, value)] ∧
      Same (.object (Entries.without members name)) (.object (Entries.without members' name))
  | _, _ => False

theorem replaces_insert_iff (hExact : ∀ l, (rewrite l).value = l.value ↔ exact l)
    (name : String) (value : Doc) (members : List (String × Doc)) :
    Replaces name value (.object members) (.object (Entries.insert ((Entries.ofList members).map
        fun member => (member.1, reread rewrite member.2)) name value)) ↔
      Survives exact (.object (Entries.without members name)) := by
  have hOrder : Entries.Ascending ((Entries.ofList members).map fun member =>
      (member.1, reread rewrite member.2)) :=
    (Entries.ascending_ofList members).map (reread rewrite)
  rw [Replaces, Entries.filter_insert hOrder, Entries.without_insert hOrder, Entries.without_map,
    ← Entries.ofList_without, ← reread_object, same_reread_iff hExact]
  exact and_iff_right rfl

end Reread

end AiGateway.JsonText
