import AiGateway.Base.Members
import AiGateway.Domain.Catalog

/-!
# Precedence of metadata

Each field of the metadata goes its own way: a preset that knows it comes before
the upstream, what a user wrote before both, and a refresh puts back what a user
wrote.
-/

namespace AiGateway.Catalog

set_option autoImplicit false

open AiGateway.Checked AiGateway.Json

namespace MetadataField

theorem mem_all (field : MetadataField) : field ∈ all := by cases field <;> decide

theorem nodup_all : all.Nodup := by decide

end MetadataField

namespace MetadataValues

theorem validate_eq_ok {values : MetadataValues} :
    validate values = .ok () ↔ ∀ field value, values.get field = some value →
      isValid field value = true := by
  rw [validate]
  constructor
  · rintro h field value hValue
    split at h
    · rename_i hNone
      have hField := List.find?_eq_none.mp hNone field field.mem_all
      rw [hValue] at hField
      simpa using hField
    · cases h
  · intro h
    have hNone : (MetadataField.all.find? fun field =>
        (values.get field).any fun value => !isValid field value) = none := by
      apply List.find?_eq_none.mpr
      rintro field - hField
      obtain ⟨value, hValue, hInvalid⟩ := (Option.any_eq_true _ _).mp hField
      rw [h field value hValue] at hInvalid
      cases hInvalid
    rw [hNone]

/-- The value of a field, if there is one that says something. -/
def known (values : MetadataValues) (field : MetadataField) : Option Value :=
  (values.get field).filter fun value => !CatalogMetadata.isUnknownValue field value

/-- There is one valid way to say nothing. -/
theorem eq_unknownValue {field : MetadataField} {value : Value} (hValid : isValid field value = true)
    (hUnknown : CatalogMetadata.isUnknownValue field value = true) : value = field.unknownValue := by
  rw [CatalogMetadata.isUnknownValue, Bool.or_eq_true] at hUnknown
  rcases hUnknown with hNull | hText
  · cases value <;> cases hNull
    cases field <;> first | rfl | cases hValid
  · rw [Bool.and_eq_true, decide_eq_true_iff] at hText
    obtain ⟨hFeature, hText⟩ := hText
    rw [MetadataField.unknownValue, if_pos hFeature]
    cases value <;> cases hText
    rfl

end MetadataValues

namespace CatalogMetadata

/-! ## One field -/

abbrev Entry := Option Value × Option MetadataSource

def entry (metadata : CatalogMetadata) (field : MetadataField) : Entry :=
  (metadata.values.get field, metadata.fieldSources.get field)

/-- What one value laid over a field leaves of it. -/
def overlay (source : MetadataSource) (field : MetadataField) (value : Option Value)
    (old : Entry) : Entry :=
  match value with
  | none => old
  | some value =>
    if isUnknownValue field value ∧ source ≠ .user ∧ old.2 ≠ some .unknown then old
    else (some value, some (if isUnknownValue field value ∧ source ≠ .user then .unknown else source))

/-- A pass over the fields whose steps touch one field each. -/
theorem entry_foldl {step : CatalogMetadata → MetadataField → CatalogMetadata}
    {field : MetadataField} {update : Entry → Entry}
    (hOther : ∀ metadata other, other ≠ field →
      (step metadata other).entry field = metadata.entry field)
    (hHere : ∀ metadata, (step metadata field).entry field = update (metadata.entry field)) :
    ∀ (fields : List MetadataField) (metadata : CatalogMetadata), fields.Nodup →
      (fields.foldl step metadata).entry field =
        if field ∈ fields then update (metadata.entry field) else metadata.entry field := by
  intro fields
  induction fields with
  | nil =>
    intro metadata _
    rfl
  | cons first fields ih =>
    rintro metadata hFields
    obtain ⟨hFirst, hFields⟩ := List.nodup_cons.mp hFields
    rw [List.foldl_cons, ih _ hFields]
    by_cases hSame : first = field
    · obtain rfl := hSame
      rw [if_neg hFirst, if_pos List.mem_cons_self, hHere]
    · rw [hOther metadata first hSame]
      simp [Ne.symm hSame]

theorem entry_all {step : CatalogMetadata → MetadataField → CatalogMetadata}
    {field : MetadataField} {update : Entry → Entry}
    (hOther : ∀ metadata other, other ≠ field →
      (step metadata other).entry field = metadata.entry field)
    (hHere : ∀ metadata, (step metadata field).entry field = update (metadata.entry field))
    (metadata : CatalogMetadata) :
    (MetadataField.all.foldl step metadata).entry field = update (metadata.entry field) := by
  rw [entry_foldl hOther hHere _ _ MetadataField.nodup_all, if_pos field.mem_all]

theorem entry_insert (metadata : CatalogMetadata) (written field : MetadataField) (value : Value)
    (source : MetadataSource) :
    entry { values := metadata.values.insert written value
            fieldSources := metadata.fieldSources.insert written source } field =
      if field = written then (some value, some source) else metadata.entry field := by
  rw [entry, Table.get_insert, Table.get_insert]
  split
  · rfl
  · rfl

theorem entry_unknown (field : MetadataField) :
    unknown.entry field = (some field.unknownValue, some .unknown) := by
  cases field <;> rfl

theorem entry_applyValues (metadata : CatalogMetadata) (values : MetadataValues)
    (source : MetadataSource) (field : MetadataField) :
    (metadata.applyValues values source).entry field =
      overlay source field (values.get field) (metadata.entry field) := by
  rw [applyValues]
  apply entry_all
  · rintro metadata other hOther
    cases values.get other with
    | none => rfl
    | some value =>
      dsimp only
      rw [applyValue]
      split
      · rfl
      · rw [entry_insert, if_neg (Ne.symm hOther)]
  · intro metadata
    cases values.get field with
    | none => rfl
    | some value =>
      dsimp only
      rw [applyValue]
      split
      · rename_i hKept
        exact (if_pos hKept).symm
      · rename_i hWritten
        rw [entry_insert, if_pos rfl]
        exact (if_neg hWritten).symm

/-! ## Resolved metadata -/

/-- The preset if it knows the field, else the upstream if it knows it. -/
def resolvedEntry (upstream : MetadataValues) (preset : Option MetadataValues)
    (field : MetadataField) : Value × MetadataSource :=
  match preset.bind (MetadataValues.known · field) with
  | some value => (value, .preset)
  | none =>
    match MetadataValues.known upstream field with
    | some value => (value, .upstream)
    | none => (field.unknownValue, .unknown)

def Holds (metadata : CatalogMetadata) (field : MetadataField)
    (origin : Value × MetadataSource) : Prop :=
  metadata.entry field = (some origin.1, some origin.2)

def Valid (values : MetadataValues) : Prop := MetadataValues.validate values = .ok ()

/-- A value laid over metadata that knows nothing better. -/
theorem overlay_of_known {source : MetadataSource} {field : MetadataField} {values : MetadataValues}
    (hValid : Valid values) (hSource : source ≠ .user) (old : Value × MetadataSource)
    (hOld : old.2 = .unknown → old.1 = field.unknownValue) :
    overlay source field (values.get field) (some old.1, some old.2) =
      match MetadataValues.known values field with
      | some value => (some value, some source)
      | none => (some old.1, some old.2) := by
  rw [MetadataValues.known]
  cases hValue : values.get field with
  | none => rfl
  | some value =>
    have hField := MetadataValues.validate_eq_ok.mp hValid field value hValue
    rw [overlay, Option.filter_some]
    by_cases hUnknown : isUnknownValue field value = true
    · have hSame := MetadataValues.eq_unknownValue hField hUnknown
      rw [hSame] at hUnknown ⊢
      by_cases hOrigin : old.2 = .unknown
      · simp [hUnknown, hOrigin, hOld hOrigin, hSource]
      · simp [hUnknown, hOrigin, hSource]
    · simp [hUnknown]

theorem holds_upstream {upstream : MetadataValues} (hUpstream : Valid upstream)
    (field : MetadataField) :
    (unknown.applyValues upstream .upstream).Holds field (resolvedEntry upstream none field) := by
  have hSource : MetadataSource.upstream ≠ .user := by decide
  rw [Holds, entry_applyValues, entry_unknown,
    overlay_of_known hUpstream hSource (field.unknownValue, .unknown) fun _ => rfl, resolvedEntry]
  cases MetadataValues.known upstream field with
  | none => rfl
  | some value => rfl

theorem holds_preset {upstream preset : MetadataValues} (hUpstream : Valid upstream)
    (hPreset : Valid preset) (field : MetadataField) :
    ((unknown.applyValues upstream .upstream).applyValues preset .preset).Holds field
      (resolvedEntry upstream (some preset) field) := by
  have hOld : (resolvedEntry upstream none field).2 = .unknown →
      (resolvedEntry upstream none field).1 = field.unknownValue := by
    intro hUnknown
    rw [resolvedEntry] at hUnknown ⊢
    cases hKnown : MetadataValues.known upstream field with
    | none => rfl
    | some value =>
      simp only [hKnown, Option.bind_none] at hUnknown
      cases hUnknown
  have hSource : MetadataSource.preset ≠ .user := by decide
  rw [Holds, entry_applyValues, holds_upstream hUpstream field,
    overlay_of_known hPreset hSource _ hOld]
  rw [resolvedEntry, resolvedEntry, Option.bind_some, Option.bind_none]
  cases MetadataValues.known preset field with
  | none => rfl
  | some value => rfl

theorem resolve_holds {upstream : MetadataValues} {preset : Option MetadataValues}
    (hUpstream : Valid upstream) (hPreset : ∀ values ∈ preset, Valid values) :
    ∃ resolved, resolve upstream preset = .ok resolved ∧
      ∀ field, resolved.Holds field (resolvedEntry upstream preset field) := by
  cases preset with
  | none => exact ⟨_, bind_eq_ok.mpr ⟨(), hUpstream, rfl⟩, holds_upstream hUpstream⟩
  | some values =>
    have hValues : Valid values := hPreset values rfl
    refine ⟨_, bind_eq_ok.mpr ⟨(), hUpstream, bind_eq_ok.mpr ⟨(), hValues, rfl⟩⟩, ?_⟩
    exact holds_preset hUpstream hValues

/-! ## Overrides and refreshes -/

theorem override_holds (metadata : CatalogMetadata) {overrides : MetadataValues}
    (hOverrides : Valid overrides) :
    ∃ overridden, metadata.applyUserOverrides overrides = .ok overridden ∧ ∀ field,
      overridden.entry field =
        match overrides.get field with
        | some value => (some value, some .user)
        | none => metadata.entry field := by
  refine ⟨_, bind_eq_ok.mpr ⟨(), hOverrides, rfl⟩, ?_⟩
  intro field
  rw [entry_applyValues]
  cases overrides.get field with
  | none => rfl
  | some value => simp [overlay]

/-- The step of a refresh that puts a user's field back. -/
def putBack (metadata refreshed : CatalogMetadata) (field : MetadataField) : CatalogMetadata :=
  match metadata.fieldSources.get field, metadata.values.get field with
  | some .user, some value =>
    { values := refreshed.values.insert field value
      fieldSources := refreshed.fieldSources.insert field .user }
  | _, _ => refreshed

/-- What putting a user's field back leaves of the resolved one. -/
def keptEntry (old resolved : Entry) : Entry :=
  match old.2, old.1 with
  | some .user, some value => (some value, some .user)
  | _, _ => resolved

theorem entry_putBack (metadata refreshed : CatalogMetadata) (field : MetadataField) :
    (putBack metadata refreshed field).entry field =
      keptEntry (metadata.entry field) (refreshed.entry field) := by
  rw [putBack, keptEntry, entry.eq_1 metadata]
  cases metadata.fieldSources.get field with
  | none => rfl
  | some source =>
    cases metadata.values.get field with
    | none => cases source <;> rfl
    | some value =>
      cases source with
      | user => exact (entry_insert refreshed field field value .user).trans (if_pos rfl)
      | upstream => rfl
      | preset => rfl
      | unknown => rfl

theorem entry_putBack_other {metadata refreshed : CatalogMetadata} {field other : MetadataField}
    (h : other ≠ field) : (putBack metadata refreshed other).entry field =
      refreshed.entry field := by
  rw [putBack]
  split
  · exact (entry_insert _ _ _ _ _).trans (if_neg h.symm)
  · rfl

theorem refresh_holds (metadata : CatalogMetadata) {upstream : MetadataValues}
    {preset : Option MetadataValues} (hUpstream : Valid upstream)
    (hPreset : ∀ values ∈ preset, Valid values) :
    ∃ refreshed, metadata.refreshedPreservingUserFields false upstream preset = .ok refreshed ∧
      ∀ field, refreshed.entry field = keptEntry (metadata.entry field)
        (some (resolvedEntry upstream preset field).1,
          some (resolvedEntry upstream preset field).2) := by
  obtain ⟨resolved, hResolved, hFields⟩ := resolve_holds hUpstream hPreset
  refine ⟨MetadataField.all.foldl (putBack metadata) resolved,
    bind_eq_ok.mpr ⟨resolved, hResolved, rfl⟩, ?_⟩
  intro field
  have hAll : (MetadataField.all.foldl (putBack metadata) resolved).entry field =
      keptEntry (metadata.entry field) (resolved.entry field) :=
    entry_all (fun _ _ hOther => entry_putBack_other hOther)
      (fun refreshed => entry_putBack metadata refreshed field) resolved
  rw [hAll, hFields field]

theorem keptEntry_user (value : Value) (resolved : Entry) :
    keptEntry (some value, some .user) resolved = (some value, some .user) := rfl

/-- What was kept is kept again, and what was resolved is resolved again. -/
theorem keptEntry_again (old : Entry) {resolved : Entry} (h : resolved.2 ≠ some .user) :
    keptEntry (keptEntry old resolved) resolved = keptEntry old resolved := by
  obtain ⟨value, source⟩ := old
  have hResolved : keptEntry resolved resolved = resolved := by
    obtain ⟨value, source⟩ := resolved
    cases source with
    | none => rfl
    | some source =>
      cases source with
      | user => exact absurd rfl h
      | upstream => rfl
      | preset => rfl
      | unknown => rfl
  cases source with
  | none => exact hResolved
  | some source =>
    cases value with
    | none => cases source <;> exact hResolved
    | some value => cases source <;> first | rfl | exact hResolved

theorem resolvedEntry_ne_user (upstream : MetadataValues) (preset : Option MetadataValues)
    (field : MetadataField) : (resolvedEntry upstream preset field).2 ≠ .user := by
  rw [resolvedEntry]
  split
  · nofun
  · split <;> nofun

/-- The same content, field by field. -/
def Same (a b : CatalogMetadata) : Prop := ∀ field, a.entry field = b.entry field

/-- A refresh changes no field of the metadata. -/
def Settled (metadata : CatalogMetadata) (upstream : MetadataValues)
    (preset : Option MetadataValues) : Prop :=
  ∀ field, keptEntry (metadata.entry field)
    (some (resolvedEntry upstream preset field).1, some (resolvedEntry upstream preset field).2) =
      metadata.entry field

section Settling

variable {upstream : MetadataValues} {preset : Option MetadataValues}

theorem settled_of_kept {metadata : CatalogMetadata} (old : MetadataField → Entry)
    (h : ∀ field, metadata.entry field = keptEntry (old field)
      (some (resolvedEntry upstream preset field).1,
        some (resolvedEntry upstream preset field).2)) :
    metadata.Settled upstream preset := by
  intro field
  rw [h field]
  apply keptEntry_again
  rw [Ne, Option.some.injEq]
  exact resolvedEntry_ne_user upstream preset field

theorem settled_resolve {resolved : CatalogMetadata} (hUpstream : Valid upstream)
    (hPreset : ∀ values ∈ preset, Valid values) (h : resolve upstream preset = .ok resolved) :
    resolved.Settled upstream preset := by
  obtain ⟨same, hSame, hFields⟩ := resolve_holds hUpstream hPreset
  obtain rfl := Except.ok.inj (h.symm.trans hSame)
  exact settled_of_kept (fun _ => (none, none)) hFields

theorem settled_refresh {metadata refreshed : CatalogMetadata} (hUpstream : Valid upstream)
    (hPreset : ∀ values ∈ preset, Valid values)
    (h : metadata.refreshedPreservingUserFields false upstream preset = .ok refreshed) :
    refreshed.Settled upstream preset := by
  obtain ⟨same, hSame, hFields⟩ := refresh_holds metadata hUpstream hPreset
  obtain rfl := Except.ok.inj (h.symm.trans hSame)
  exact settled_of_kept metadata.entry hFields

/-- Settled metadata is refreshed to itself, however it was read. -/
theorem Settled.refresh {metadata stored : CatalogMetadata} (confirmed : Bool)
    (h : confirmed = false → metadata.Settled upstream preset) (hUpstream : Valid upstream)
    (hPreset : ∀ values ∈ preset, Valid values) (hStored : stored.Same metadata) :
    ∃ again, stored.refreshedPreservingUserFields confirmed upstream preset = .ok again ∧
      again.Same metadata := by
  cases confirmed with
  | true => exact ⟨stored, rfl, hStored⟩
  | false =>
    obtain ⟨again, hAgain, hFields⟩ := refresh_holds stored hUpstream hPreset
    refine ⟨again, hAgain, ?_⟩
    intro field
    rw [hFields, hStored field]
    exact h rfl field

end Settling

theorem refresh_again {metadata : CatalogMetadata} {upstream : MetadataValues}
    {preset : Option MetadataValues} (hUpstream : Valid upstream)
    (hPreset : ∀ values ∈ preset, Valid values) (confirmed : Bool) :
    ∃ refreshed, metadata.refreshedPreservingUserFields confirmed upstream preset = .ok refreshed ∧
      ∃ again, refreshed.refreshedPreservingUserFields confirmed upstream preset = .ok again ∧
        again.Same refreshed := by
  cases confirmed with
  | true => exact ⟨metadata, rfl, metadata, rfl, fun _ => rfl⟩
  | false =>
    obtain ⟨refreshed, hRefreshed, -⟩ := refresh_holds metadata hUpstream hPreset
    have hSettled := settled_refresh hUpstream hPreset hRefreshed
    exact ⟨refreshed, hRefreshed,
      Settled.refresh false (fun _ => hSettled) hUpstream hPreset fun _ => rfl⟩

/-! ### Validity -/

theorem resolvedEntry_valid {upstream : MetadataValues} {preset : Option MetadataValues}
    (hUpstream : Valid upstream) (hPreset : ∀ values ∈ preset, Valid values)
    (field : MetadataField) :
    MetadataValues.isValid field (resolvedEntry upstream preset field).1 = true := by
  have hKnown : ∀ values, Valid values → ∀ value, MetadataValues.known values field = some value →
      MetadataValues.isValid field value = true := by
    rintro values hValues value hValue
    rw [MetadataValues.known, Option.filter_eq_some_iff] at hValue
    exact MetadataValues.validate_eq_ok.mp hValues field value hValue.1
  rw [resolvedEntry]
  split
  · next value hValue =>
    obtain ⟨values, hValues, hValue⟩ := Option.bind_eq_some_iff.mp hValue
    exact hKnown values (hPreset values hValues) value hValue
  · split
    · next value hValue => exact hKnown upstream hUpstream value hValue
    · cases field <;> rfl

theorem keptEntry_fst {old resolved : Entry} {value : Value}
    (h : (keptEntry old resolved).1 = some value) : old.1 = some value ∨ resolved.1 = some value := by
  rw [keptEntry] at h
  split at h
  · next kept _ hKept =>
    rw [hKept]
    exact .inl h
  · exact .inr h

/-- Valid values stay valid through a refresh. -/
theorem valid_refreshed {metadata refreshed : CatalogMetadata} {upstream : MetadataValues}
    {preset : Option MetadataValues} {confirmed : Bool} (hMetadata : Valid metadata.values)
    (hUpstream : Valid upstream) (hPreset : ∀ values ∈ preset, Valid values)
    (h : metadata.refreshedPreservingUserFields confirmed upstream preset = .ok refreshed) :
    Valid refreshed.values := by
  cases confirmed with
  | true =>
    obtain rfl := Except.ok.inj h
    exact hMetadata
  | false =>
    obtain ⟨same, hSame, hFields⟩ := refresh_holds metadata hUpstream hPreset
    obtain rfl := Except.ok.inj (h.symm.trans hSame)
    apply MetadataValues.validate_eq_ok.mpr
    intro field value hValue
    have hKept := congrArg Prod.fst (hFields field)
    obtain hOld | hResolved := keptEntry_fst (hKept.symm.trans hValue)
    · exact MetadataValues.validate_eq_ok.mp hMetadata field value hOld
    · obtain rfl := Option.some.inj hResolved
      exact resolvedEntry_valid hUpstream hPreset field

theorem valid_resolved {resolved : CatalogMetadata} {upstream : MetadataValues}
    {preset : Option MetadataValues} (hUpstream : Valid upstream)
    (hPreset : ∀ values ∈ preset, Valid values) (h : resolve upstream preset = .ok resolved) :
    Valid resolved.values := by
  obtain ⟨same, hSame, hFields⟩ := resolve_holds hUpstream hPreset
  obtain rfl := Except.ok.inj (h.symm.trans hSame)
  apply MetadataValues.validate_eq_ok.mpr
  intro field value hValue
  have hEntry := congrArg Prod.fst (hFields field)
  obtain rfl := Option.some.inj (hEntry.symm.trans hValue)
  exact resolvedEntry_valid hUpstream hPreset field

/-! ## Runs of changes -/

inductive Change where
  | refresh (confirmed : Bool) (upstream : MetadataValues) (preset : Option MetadataValues)
  | override (values : MetadataValues)

def Change.apply (metadata : CatalogMetadata) : Change → Except CatalogError CatalogMetadata
  | .refresh confirmed upstream preset =>
    metadata.refreshedPreservingUserFields confirmed upstream preset
  | .override values => metadata.applyUserOverrides values

def Change.Valid : Change → Prop
  | .refresh _ upstream preset =>
    CatalogMetadata.Valid upstream ∧ ∀ values ∈ preset, CatalogMetadata.Valid values
  | .override values => CatalogMetadata.Valid values

/-- A change that does not override the field. -/
def Change.Spares (field : MetadataField) : Change → Prop
  | .refresh _ _ _ => True
  | .override values => values.get field = none

theorem user_of_change {metadata : CatalogMetadata} {change : Change} {field : MetadataField}
    {value : Value} (hValid : change.Valid) (hSpares : change.Spares field)
    (hUser : metadata.Holds field (value, .user)) :
    ∃ changed, change.apply metadata = .ok changed ∧ changed.Holds field (value, .user) := by
  cases change with
  | refresh confirmed upstream preset =>
    cases confirmed with
    | true => exact ⟨metadata, rfl, hUser⟩
    | false =>
      obtain ⟨refreshed, hRefreshed, hFields⟩ :=
        refresh_holds metadata hValid.1 hValid.2
      refine ⟨refreshed, hRefreshed, ?_⟩
      rw [Holds, hFields, hUser, keptEntry_user]
  | override values =>
    obtain ⟨overridden, hOverridden, hFields⟩ := override_holds metadata hValid
    refine ⟨overridden, hOverridden, ?_⟩
    have hNone : values.get field = none := hSpares
    rw [Holds, hFields, hNone]
    exact hUser

/-- What a user wrote survives every run of changes that do not override it. -/
theorem user_of_run {field : MetadataField} {value : Value} :
    ∀ (changes : List Change) (metadata : CatalogMetadata),
      (∀ change ∈ changes, change.Valid ∧ change.Spares field) →
      metadata.Holds field (value, .user) →
      ∃ last, changes.foldlM Change.apply metadata = .ok last ∧
        last.Holds field (value, .user) := by
  intro changes
  induction changes with
  | nil =>
    rintro metadata - hUser
    exact ⟨metadata, rfl, hUser⟩
  | cons change changes ih =>
    rintro metadata hChanges hUser
    obtain ⟨⟨hValid, hSpares⟩, hRest⟩ := List.forall_mem_cons.mp hChanges
    obtain ⟨changed, hChanged, hUser⟩ := user_of_change hValid hSpares hUser
    obtain ⟨last, hLast, hUser⟩ := ih changed hRest hUser
    exact ⟨last, bind_eq_ok.mpr ⟨changed, hChanged, hLast⟩, hUser⟩

/-! ## Stored metadata -/

def readValue (member : String × Value) : Except CatalogError (MetadataField × Value) :=
  match MetadataField.ofName member.1 with
  | some field => .ok (field, member.2)
  | none => .error .json

def readSource (member : String × Value) : Except CatalogError (MetadataField × MetadataSource) :=
  match MetadataField.ofName member.1, member.2.asStr.bind MetadataSource.ofName with
  | some field, some source => .ok (field, source)
  | _, _ => .error .json

theorem ofName_name (field : MetadataField) : MetadataField.ofName field.name = some field := by
  cases field <;> decide

theorem name_injective : Function.Injective MetadataField.name := by
  rintro field field' hName
  exact Option.some.inj ((ofName_name field).symm.trans (hName ▸ ofName_name field'))

theorem values_ofValue (fields : Fields) :
    MetadataValues.ofValue (.object fields) = Collect.collect readValue fields .empty := by
  rw [MetadataValues.ofValue, Collect.collect]
  congr 1
  funext values member
  rw [readValue]
  cases MetadataField.ofName member.1 with
  | none => rfl
  | some field => rfl

theorem sources_ofValue (fields : Fields) :
    FieldSources.ofValue (.object fields) = Collect.collect readSource fields .empty := by
  rw [FieldSources.ofValue, Collect.collect]
  congr 1
  funext sources member
  rw [readSource]
  cases MetadataField.ofName member.1 with
  | none => rfl
  | some field =>
    cases member.2.asStr.bind MetadataSource.ofName with
    | none => rfl
    | some source => rfl

theorem values_of_toValue (values : MetadataValues) :
    ∃ stored, MetadataValues.ofValue (MetadataValues.toValue values) = .ok stored ∧
      ∀ field, stored.get field = values.get field := by
  have hMembers : MetadataValues.toValue values =
      .object (Collect.members MetadataField.name id values) := rfl
  rw [hMembers, values_ofValue]
  apply Collect.collect_members name_injective
  rintro field value -
  rw [readValue, ofName_name]
  rfl

theorem sources_of_toValue (sources : FieldSources) :
    ∃ stored, FieldSources.ofValue (FieldSources.toValue sources) = .ok stored ∧
      ∀ field, stored.get field = sources.get field := by
  have hMembers : FieldSources.toValue sources =
      .object (Collect.members MetadataField.name (fun source => .string source.name) sources) :=
    rfl
  rw [hMembers, sources_ofValue]
  apply Collect.collect_members name_injective
  rintro field source -
  rw [readSource, ofName_name]
  cases source <;> rfl

theorem fromJson_toJson {metadata : CatalogMetadata} (hValid : Valid metadata.values) :
    ∃ stored, fromJson metadata.toJson.1 metadata.toJson.2 = .ok stored ∧
      stored.Same metadata := by
  obtain ⟨values, hValues, hSameValues⟩ := values_of_toValue metadata.values
  obtain ⟨sources, hSources, hSameSources⟩ := sources_of_toValue metadata.fieldSources
  have hStored : MetadataValues.validate values = .ok () := by
    rw [MetadataValues.validate_eq_ok]
    intro field value hValue
    rw [hSameValues] at hValue
    exact MetadataValues.validate_eq_ok.mp hValid field value hValue
  refine ⟨⟨values, sources⟩, ?_, ?_⟩
  · rw [fromJson, toJson]
    exact bind_eq_ok.mpr ⟨values, hValues, bind_eq_ok.mpr
      ⟨sources, hSources, bind_eq_ok.mpr ⟨(), hStored, rfl⟩⟩⟩
  · intro field
    rw [entry, entry, hSameValues, hSameSources]

/-- The same content is stored alike. -/
theorem toJson_congr {a b : CatalogMetadata} (h : a.Same b) : a.toJson = b.toJson := by
  have hValues : Collect.members MetadataField.name id a.values =
      Collect.members MetadataField.name id b.values :=
    Collect.members_congr name_injective fun field => congrArg Prod.fst (h field)
  have hSources :
      Collect.members MetadataField.name (fun source => Value.string source.name) a.fieldSources =
        Collect.members MetadataField.name (fun source => .string source.name) b.fieldSources :=
    Collect.members_congr name_injective fun field => congrArg Prod.snd (h field)
  exact congrArg₂ (fun values sources => (Value.object values, Value.object sources))
    hValues hSources

theorem source_name_injective : Function.Injective MetadataSource.name := by
  rintro source source' hName
  cases source <;> cases source' <;> first | rfl | exact absurd hName (by decide)

theorem readValue_ok {member : String × Value} {pair : MetadataField × Value}
    (h : readValue member = .ok pair) : member = (pair.1.name, pair.2) := by
  rw [readValue] at h
  split at h
  · next field hField =>
    obtain rfl := Except.ok.inj h
    have hName := List.find?_some hField
    rw [decide_eq_true_iff] at hName
    exact Prod.ext hName.symm rfl
  · cases h

theorem readSource_ok {member : String × Value} {pair : MetadataField × MetadataSource}
    (h : readSource member = .ok pair) : member = (pair.1.name, .string pair.2.name) := by
  rw [readSource] at h
  split at h
  · next field source hField hSource =>
    obtain rfl := Except.ok.inj h
    obtain ⟨text, hText, hSource⟩ := Option.bind_eq_some_iff.mp hSource
    have hName := List.find?_some hField
    have hOrigin := List.find?_some hSource
    rw [decide_eq_true_iff] at hName hOrigin
    have hValue : member.2 = .string text := by
      cases hMember : member.2 <;> rw [hMember] at hText <;> cases hText
      rfl
    rw [hOrigin]
    exact Prod.ext hName.symm hValue
  · cases h

theorem fromJson_valid {values sources : Value} {metadata : CatalogMetadata}
    (h : fromJson values sources = .ok metadata) : Valid metadata.values := by
  obtain ⟨readValues, -, h⟩ := bind_eq_ok.mp h
  obtain ⟨readSources, -, h⟩ := bind_eq_ok.mp h
  obtain ⟨⟨⟩, hValid, h⟩ := bind_eq_ok.mp h
  obtain rfl := pure_eq_ok.mp h
  exact hValid

/-- Metadata is stored again as the objects it was read from. -/
theorem toJson_fromJson {values sources : Fields} {metadata : CatalogMetadata}
    (hValues : values.Ascending) (hSources : sources.Ascending)
    (h : fromJson (.object values) (.object sources) = .ok metadata) :
    metadata.toJson = (.object values, .object sources) := by
  obtain ⟨readValues, hReadValues, h⟩ := bind_eq_ok.mp h
  obtain ⟨readSources, hReadSources, h⟩ := bind_eq_ok.mp h
  obtain ⟨⟨⟩, -, h⟩ := bind_eq_ok.mp h
  obtain rfl := pure_eq_ok.mp h
  rw [values_ofValue] at hReadValues
  rw [sources_ofValue] at hReadSources
  have hSource : Function.Injective fun source : MetadataSource => Value.string source.name :=
    fun _ _ hSame => source_name_injective (Value.string.inj hSame)
  have hWritten := Collect.members_of_collect name_injective Function.injective_id
    (fun member _ _ hPair => readValue_ok hPair) hValues hReadValues
  have hWrittenSources := Collect.members_of_collect name_injective hSource
    (fun member _ _ hPair => readSource_ok hPair) hSources hReadSources
  exact congrArg₂ (fun values sources => (Value.object values, Value.object sources))
    hWritten hWrittenSources

/-! ## The precedence -/

/-- A preset before the upstream, a user before both through every run of changes,
a refresh made twice like once, a confirmed record as it was, and the stored form
read back. -/
theorem metadata_precedence (metadata : CatalogMetadata) {upstream overrides : MetadataValues}
    {preset : Option MetadataValues} (hUpstream : Valid upstream)
    (hPreset : ∀ values ∈ preset, Valid values) (hOverrides : Valid overrides) :
    (∃ resolved, resolve upstream preset = .ok resolved ∧
      ∀ field, resolved.Holds field (resolvedEntry upstream preset field)) ∧
    (∃ overridden, metadata.applyUserOverrides overrides = .ok overridden ∧
      ∀ field value, overrides.get field = some value → ∀ changes : List Change,
        (∀ change ∈ changes, change.Valid ∧ change.Spares field) →
        ∃ last, changes.foldlM Change.apply overridden = .ok last ∧
          last.Holds field (value, .user)) ∧
    (∀ confirmed, ∃ refreshed,
      metadata.refreshedPreservingUserFields confirmed upstream preset = .ok refreshed ∧
      ∃ again, refreshed.refreshedPreservingUserFields confirmed upstream preset = .ok again ∧
        again.Same refreshed) ∧
    (∀ other otherPreset,
      metadata.refreshedPreservingUserFields true other otherPreset = .ok metadata) ∧
    (Valid metadata.values → ∃ stored,
      fromJson metadata.toJson.1 metadata.toJson.2 = .ok stored ∧ stored.Same metadata) := by
  refine ⟨resolve_holds hUpstream hPreset, ?_, refresh_again hUpstream hPreset, fun _ _ => rfl,
    fromJson_toJson⟩
  obtain ⟨overridden, hOverridden, hFields⟩ := override_holds metadata hOverrides
  refine ⟨overridden, hOverridden, ?_⟩
  intro field value hValue changes hChanges
  apply user_of_run changes overridden hChanges
  rw [Holds, hFields, hValue]

namespace Listed

def upstream : MetadataValues :=
  (Table.empty.insert .displayName (.string "Model")).insert .contextWindow (.ofInt 8192)

def preset : MetadataValues :=
  (Table.empty.insert .displayName .null).insert .tools (.string "supported")

def overrides : MetadataValues := Table.empty.insert .displayName (.string "Mine")

end Listed

theorem metadata_precedence_listed :
    (∃ resolved, resolve Listed.upstream (some Listed.preset) = .ok resolved ∧
      resolved.Holds .displayName (.string "Model", .upstream) ∧
      resolved.Holds .tools (.string "supported", .preset)) ∧
    ∃ overridden, unknown.applyUserOverrides Listed.overrides = .ok overridden ∧
      ∃ last, [Change.refresh false Listed.upstream (some Listed.preset)].foldlM Change.apply
          overridden = .ok last ∧
        last.Holds .displayName (.string "Mine", .user) := by
  have hUpstream : Valid Listed.upstream := by rfl
  have hPreset : ∀ values ∈ some Listed.preset, Valid values := by
    rintro values hValues
    obtain rfl := Option.mem_some_iff.mp hValues
    rfl
  have hOverrides : Valid Listed.overrides := by rfl
  obtain ⟨⟨resolved, hResolved, hFields⟩, ⟨overridden, hOverridden, hKept⟩, -⟩ :=
    metadata_precedence unknown hUpstream hPreset hOverrides
  refine ⟨⟨resolved, hResolved, hFields .displayName, hFields .tools⟩, overridden, hOverridden, ?_⟩
  apply hKept .displayName _ rfl
  rintro change hChange
  obtain rfl := List.mem_singleton.mp hChange
  exact ⟨⟨hUpstream, hPreset⟩, trivial⟩

end CatalogMetadata

end AiGateway.Catalog
