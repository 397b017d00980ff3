import AiGateway.Infra.AuditTruncation
import AiGateway.Infra.EventPages

/-!
# What secrets cannot change

Each of the three redactors sees the same in two documents that its own list of
sensitive names tells apart nowhere else.  The summary of a request does not even
look at the values of the other members.
-/

namespace AiGateway.Ops

set_option autoImplicit false

open AiGateway.Json

variable (urls : Urls)

mutual
theorem sanitizeJson_of_agree {v w : Value} (h : AgreeOutside isSensitiveKey v w) :
    sanitizeJson urls v = sanitizeJson urls w := by
  cases h with
  | same => rfl
  | array hItems => rw [sanitizeJson, sanitizeJson, sanitizeItems_of_agree hItems]
  | object hMembers => rw [sanitizeJson, sanitizeJson, sanitizeFields_of_agree hMembers]

theorem sanitizeItems_of_agree {items items' : List Value}
    (h : ItemsAgree isSensitiveKey items items') :
    sanitizeItems urls items = sanitizeItems urls items' := by
  cases h with
  | nil => rfl
  | cons hItem hRest =>
    rw [sanitizeItems, sanitizeItems, sanitizeJson_of_agree hItem, sanitizeItems_of_agree hRest]

theorem sanitizeFields_of_agree {fields fields' : Fields}
    (h : MembersAgree isSensitiveKey fields fields') :
    sanitizeFields urls fields = sanitizeFields urls fields' := by
  cases h with
  | nil => rfl
  | shown hMember hRest =>
    rw [sanitizeFields, sanitizeFields, sanitizeJson_of_agree hMember,
      sanitizeFields_of_agree hRest]
  | hidden v w hKey hRest =>
    rw [sanitizeFields, sanitizeFields, if_pos hKey, if_pos hKey, sanitizeFields_of_agree hRest]
end

end AiGateway.Ops

namespace AiGateway.Listing

set_option autoImplicit false

open AiGateway.Json AiGateway.Ops

variable (urls : Urls)

mutual
theorem sanitizeDetails_of_agree {v w : Value} (depth : ℕ)
    (h : AgreeOutside isSensitiveDetail v w) :
    sanitizeDetails urls depth v = sanitizeDetails urls depth w := by
  cases h with
  | same => rfl
  | array hItems =>
    rw [sanitizeDetails, sanitizeDetails, sanitizeValues_of_agree depth maxDetailsFields hItems]
  | object hMembers =>
    rw [sanitizeDetails, sanitizeDetails, sanitizeEntries_of_agree depth maxDetailsFields hMembers]

theorem sanitizeValues_of_agree {items items' : List Value} (depth limit : ℕ)
    (h : ItemsAgree isSensitiveDetail items items') :
    sanitizeValues urls depth limit items = sanitizeValues urls depth limit items' := by
  cases h with
  | nil => rfl
  | cons hItem hRest =>
    cases limit with
    | zero => rw [sanitizeValues, sanitizeValues]
    | succ limit =>
      rw [sanitizeValues, sanitizeValues, sanitizeDetails_of_agree (depth + 1) hItem,
        sanitizeValues_of_agree depth limit hRest]

theorem sanitizeEntries_of_agree {fields fields' : Fields} (depth limit : ℕ)
    (h : MembersAgree isSensitiveDetail fields fields') :
    sanitizeEntries urls depth limit fields = sanitizeEntries urls depth limit fields' := by
  cases h with
  | nil => rfl
  | shown hMember hRest =>
    cases limit with
    | zero => rw [sanitizeEntries, sanitizeEntries]
    | succ limit =>
      rw [sanitizeEntries, sanitizeEntries, sanitizeDetails_of_agree (depth + 1) hMember,
        sanitizeEntries_of_agree depth limit hRest]
  | hidden v w hKey hRest =>
    cases limit with
    | zero => rw [sanitizeEntries, sanitizeEntries]
    | succ limit =>
      rw [sanitizeEntries, sanitizeEntries, if_pos hKey, if_pos hKey,
        sanitizeEntries_of_agree depth limit hRest]
end

end AiGateway.Listing

namespace AiGateway.Audit

set_option autoImplicit false

open AiGateway.Json

theorem SameShape.kind_eq {v w : Value} (h : SameShape isSensitiveKey v w) : w.kind = v.kind := by
  cases h with
  | leaf hLeaf hKind => exact hKind
  | object hMembers => rfl

mutual
/-- Of the values only their types are listed. -/
theorem listing_of_sameShape {v w : Value} (path : String) (h : SameShape isSensitiveKey v w) :
    listing path v = listing path w := by
  cases h with
  | leaf hLeaf hKind =>
    rw [listing_of_leaf path hLeaf, listing_of_leaf path (hKind ▸ hLeaf)]
  | object hMembers => rw [listing, listing, memberListing_of_sameShape path hMembers]

theorem memberListing_of_sameShape {fields fields' : Fields} (path : String)
    (h : MembersSameShape isSensitiveKey fields fields') :
    memberListing path fields = memberListing path fields' := by
  cases h with
  | nil => rfl
  | @shown key v w rest rest' hMember hRest =>
    rw [memberListing, memberListing, SameShape.kind_eq hMember, jsonType, jsonType,
      SameShape.kind_eq hMember, listing_of_sameShape (fieldPath path key) hMember,
      memberListing_of_sameShape path hRest]
  | hidden v w hKey hRest =>
    rw [memberListing, memberListing, if_pos hKey, if_pos hKey,
      memberListing_of_sameShape path hRest]
end

theorem summarizeDiff_of_sameShape {v w : Value} (h : SameShape isSensitiveKey v w) :
    summarizeDiff v = summarizeDiff w := by
  rw [summarizeDiff, summarizeDiff, collectFields_payload, collectFields_payload,
    listing_of_sameShape "" h]

/-- What stands under sensitive names changes nothing that is stored or exported, and the
summary of a request is the same for all values of the same types. -/
theorem secrets_change_nothing (urls : Ops.Urls) :
    (∀ v w, AgreeOutside Ops.isSensitiveKey v w →
      Ops.sanitizeJson urls v = Ops.sanitizeJson urls w) ∧
    (∀ v w, AgreeOutside Listing.isSensitiveDetail v w → ∀ depth,
      Listing.sanitizeDetails urls depth v = Listing.sanitizeDetails urls depth w) ∧
    (∀ v w, SameShape isSensitiveKey v w → summarizeDiff v = summarizeDiff w) := by
  refine ⟨?_, ?_, ?_⟩
  · intro v w h
    exact Ops.sanitizeJson_of_agree urls h
  · intro v w h depth
    exact Listing.sanitizeDetails_of_agree urls depth h
  · intro v w h
    exact summarizeDiff_of_sameShape h

/-- An account with what stands for its password. -/
def accountWith (password : Value) : Value :=
  .object [("name", .string "a"), ("password", password)]

/-- A list of accounts with one password. -/
def accountsWith (password : Value) : Value :=
  .object [("accounts", .array [accountWith password])]

theorem agree_accountsWith {hidden : String → Bool} (h : hidden "password" = true)
    (password password' : Value) :
    AgreeOutside hidden (accountsWith password) (accountsWith password') := by
  apply AgreeOutside.object
  apply MembersAgree.shown _ .nil
  apply AgreeOutside.array
  apply ItemsAgree.cons _ .nil
  apply AgreeOutside.object
  apply MembersAgree.shown (.same _)
  exact .hidden _ _ h .nil

/-- No text is an address. -/
def noUrls : Ops.Urls := ⟨fun _ => none, fun text _ => text⟩

/-- A text and a list of texts as the password, in a list of accounts and as a member. -/
theorem secrets_change_nothing_accounts :
    Ops.sanitizeJson noUrls (accountsWith (.string "first")) =
        Ops.sanitizeJson noUrls (accountsWith (.array [.string "second"])) ∧
      Listing.sanitizeDetails noUrls 0 (accountsWith (.string "first")) =
        Listing.sanitizeDetails noUrls 0 (accountsWith (.array [.string "second"])) ∧
      summarizeDiff (.object [("account", accountWith (.string "first"))]) =
        summarizeDiff (.object [("account", accountWith (.array [.string "second"]))]) := by
  obtain ⟨hJson, hDetails, hDiff⟩ := secrets_change_nothing noUrls
  refine ⟨hJson _ _ ?_, hDetails _ _ ?_ 0, hDiff _ _ ?_⟩
  · exact agree_accountsWith (by decide) _ _
  · exact agree_accountsWith (by decide) _ _
  · apply SameShape.object
    apply MembersSameShape.shown _ .nil
    apply SameShape.object
    refine MembersSameShape.shown ?_ (.hidden _ _ (by decide) .nil)
    exact .leaf nofun rfl

end AiGateway.Audit
