import AiGateway.Base.Relational
import AiGateway.Base.Table
import AiGateway.Infra.Restore
import AiGateway.Infra.Retention

/-!
# Stored retention policies

A cleanup run keeps the policies it was created with as two JSON objects, one of
days and switches and one of cutoffs written as text.  Whatever is read back from
them has the enabled policies that were stored.
-/

namespace AiGateway.Retention

set_option autoImplicit false

open AiGateway.Checked AiGateway.Health AiGateway.Json AiGateway.Ops

def RetentionKey.toText : RetentionKey → String
  | .usageEvents => "usage_events"
  | .usageAttempts => "usage_attempts"
  | .audit => "audit"
  | .discovery => "discovery"
  | .systemEvents => "system_events"

def retentionKeys : List String :=
  ["usage_events", "usage_attempts", "audit", "discovery", "system_events"]

def maxRetentionDays : Int := 36500

/-- A policy with the days its cutoff was computed from. -/
structure DatedPolicy extends PolicyState where
  retentionDays : Int
deriving DecidableEq

abbrev PolicyMap := Table String DatedPolicy

/-- What a cleanup looks at. -/
def policiesOf (policies : PolicyMap) : Policies := fun key =>
  (policies.get key.toText).map DatedPolicy.toPolicyState

def daysBefore (now : DateTime) (days : Int) : DateTime := now - days * 86400000000

/-- Instants as text, the way a library writes and reads them. -/
structure Rfc3339 where
  write : DateTime → String
  read : String → Option DateTime

/-- From year 0 to year 9999, where the text has the four digits a reader expects. -/
def HasFourDigitYear (instant : DateTime) : Prop :=
  -62167219200000000 ≤ instant ∧ instant < 253402300800000000

/-- A text is read as the instant it was written for, and one with a year of four
digits is read. -/
structure Rfc3339.Lawful (dates : Rfc3339) : Prop where
  faithful : ∀ instant found, dates.read (dates.write instant) = some found → found = instant
  readable : ∀ instant, HasFourDigitYear instant → (dates.read (dates.write instant)).isSome

/-! ## The policy table -/

structure PolicyRow where
  policyKey : String
  retentionDays : Int
  enabled : Bool
deriving DecidableEq

def ValidDays (days : Int) : Prop := 0 ≤ days ∧ days ≤ maxRetentionDays

instance (days : Int) : Decidable (ValidDays days) := inferInstanceAs (Decidable (_ ∧ _))

structure RetentionPolicies where
  rows : List PolicyRow
  keys : (rows.map PolicyRow.policyKey).Nodup
  checked : ∀ row ∈ rows, row.policyKey ∈ retentionKeys ∧ ValidDays row.retentionDays

def loadedPolicy (now : DateTime) (row : PolicyRow) : DatedPolicy where
  enabled := row.enabled
  cutoff := daysBefore now row.retentionDays
  retentionDays := row.retentionDays

def validatePolicyKey (key : String) : Except OpsError Unit :=
  ensure (key ∈ retentionKeys) (.validation ("unknown retention policy '" ++ key ++ "'"))

def validateRetentionDays (days : Int) : Except OpsError Unit :=
  ensure (ValidDays days) (.validation "retention_days must be between 0 and 36500")

def checkSelected (policies : PolicyMap) : List String → Except OpsError Unit
  | [] => .ok ()
  | key :: rest => do
    validatePolicyKey key
    ensure (policies.containsKey key = true)
      (.notFound ("retention policy '" ++ key ++ "' not found"))
    checkSelected policies rest

/-- The selected policies, their cutoffs counted back from now. -/
def loadPolicyMap (stored : RetentionPolicies) (now : DateTime) (selected : Option (List String)) :
    Except OpsError PolicyMap := do
  let rows := stored.rows.filter fun row => selected.all fun keys => keys.contains row.policyKey
  let policies : PolicyMap :=
    rows.foldl (fun policies row => policies.insert row.policyKey (loadedPolicy now row)) .empty
  match selected with
  | none => return policies
  | some keys => do
    checkSelected policies (keys.insertionSort fun a b => a ≤ b)
    return policies

/-! ## Snapshots -/

def policySnapshot (policies : PolicyMap) : Value :=
  .ofFields (policies.entries.map fun entry =>
    (entry.1, .ofFields [("retention_days", .ofInt entry.2.retentionDays),
      ("enabled", .bool entry.2.enabled)]))

def cutoffSnapshot (dates : Rfc3339) (policies : PolicyMap) : Value :=
  .ofFields (policies.entries.map fun entry =>
    (entry.1, if entry.2.enabled then .string (dates.write entry.2.cutoff) else .null))

/-- A missing cutoff is taken from the clock again. -/
def readCutoff (dates : Rfc3339) (clock : DateTime) (days : Int) :
    Option Value → Except OpsError DateTime
  | some (.string text) => require (dates.read text) (.validation "cleanup cutoff is invalid")
  | some .null | none => .ok (daysBefore clock days)
  | some _ => .error (.validation "cleanup cutoff is invalid")

def isI32 (days : Int) : Prop := -2 ^ 31 ≤ days ∧ days < 2 ^ 31

instance (days : Int) : Decidable (isI32 days) := inferInstanceAs (Decidable (_ ∧ _))

def readPolicy (dates : Rfc3339) (clock : DateTime) (cutoffs : Fields) (key : String)
    (state : Value) : Except OpsError DatedPolicy := do
  validatePolicyKey key
  match state with
  | .object fields =>
    let days ← require (((Fields.get fields "retention_days").bind Value.asI64).filter
        fun days => isI32 days)
      (.validation "cleanup retention_days is invalid")
    validateRetentionDays days
    let cutoff ← readCutoff dates clock days (Fields.get cutoffs key)
    let enabled := match Fields.get fields "enabled" with
      | some (.bool enabled) => enabled
      | _ => true
    return { enabled := enabled, cutoff := cutoff, retentionDays := days }
  | _ => .error (.validation "cleanup policy value must be an object")

/-- The clock is read for each key without a cutoff. -/
def policyMapFromSnapshot (dates : Rfc3339) (clock : String → DateTime) (value cutoffs : Value) :
    Except OpsError PolicyMap :=
  match value with
  | .object fields =>
    match cutoffs with
    | .object cutoffFields =>
      fields.foldlM (fun (policies : PolicyMap) entry => do
        let policy ← readPolicy dates (clock entry.1) cutoffFields entry.1 entry.2
        return policies.insert entry.1 policy) .empty
    | _ => .error (.validation "cleanup cutoff_snapshot must be an object")
  | _ => .error (.validation "cleanup policy_snapshot must be an object")

/-! ## What is read back -/

/-- A policy read back: without a stored cutoff it has one of the clock. -/
def DatedPolicy.readBack (clock : DateTime) (policy : DatedPolicy) : DatedPolicy :=
  if policy.enabled then policy
  else { policy with cutoff := daysBefore clock policy.retentionDays }

theorem DatedPolicy.readBack_of_enabled {clock : DateTime} (policy : DatedPolicy)
    (h : policy.enabled = true) : policy.readBack clock = policy := if_pos h

theorem DatedPolicy.enabled_of_readBack {clock : DateTime} (policy : DatedPolicy)
    (h : (policy.readBack clock).enabled = true) : policy.enabled = true := by
  unfold DatedPolicy.readBack at h
  split at h <;> exact h

structure Checked (policies : PolicyMap) : Prop where
  known : ∀ key policy, policies.get key = some policy → key ∈ retentionKeys
  days : ∀ key policy, policies.get key = some policy → ValidDays policy.retentionDays

theorem asI64_ofInt {days : Int} (h : ValidDays days) : Value.asI64 (.ofInt days) = some days := by
  obtain ⟨hLow, hHigh⟩ := h
  have hBound : days ≤ 36500 := hHigh
  exact Value.asI64_ofInt (by omega) (by omega)

def storedPolicy (policy : DatedPolicy) : Value :=
  .ofFields [("retention_days", .ofInt policy.retentionDays), ("enabled", .bool policy.enabled)]

def storedCutoff (dates : Rfc3339) (policy : DatedPolicy) : Value :=
  if policy.enabled then .string (dates.write policy.cutoff) else .null

theorem readPolicy_stored (dates : Rfc3339) (clock : DateTime) (cutoffs : Fields) {key : String}
    {policy : DatedPolicy} (hKey : key ∈ retentionKeys) (hDays : ValidDays policy.retentionDays) :
    readPolicy dates clock cutoffs key (storedPolicy policy) =
      (readCutoff dates clock policy.retentionDays (Fields.get cutoffs key)).map fun cutoff =>
        { enabled := policy.enabled, cutoff := cutoff, retentionDays := policy.retentionDays } := by
  have hNodup : (([("retention_days", Value.ofInt policy.retentionDays),
      ("enabled", Value.bool policy.enabled)] : Fields).map Prod.fst).Nodup := by
    simp
  have hStoredDays : Fields.get (Fields.insertAll [] [("retention_days",
      .ofInt policy.retentionDays), ("enabled", .bool policy.enabled)]) "retention_days" =
        some (.ofInt policy.retentionDays) := by
    rw [Fields.get_insertAll hNodup]
    simp [Fields.get_cons]
  have hStoredFlag : Fields.get (Fields.insertAll [] [("retention_days",
      .ofInt policy.retentionDays), ("enabled", .bool policy.enabled)]) "enabled" =
        some (.bool policy.enabled) := by
    rw [Fields.get_insertAll hNodup]
    simp [Fields.get_cons]
  have hI32 : isI32 policy.retentionDays := by
    obtain ⟨hLow, hHigh⟩ := hDays
    have hBound : policy.retentionDays ≤ 36500 := hHigh
    unfold isI32
    omega
  have hStored : storedPolicy policy = .object (Fields.insertAll [] [("retention_days",
      .ofInt policy.retentionDays), ("enabled", .bool policy.enabled)]) := rfl
  rw [hStored]
  simp only [readPolicy, validatePolicyKey, ensure, if_pos hKey, hStoredDays, hStoredFlag,
    Option.bind_some, asI64_ofInt hDays, Option.filter_some, hI32, decide_true, if_true, require,
    validateRetentionDays, bind, Except.bind, if_pos hDays]
  cases readCutoff dates clock policy.retentionDays (Fields.get cutoffs key) <;> rfl

theorem readCutoff_stored {dates : Rfc3339} (hDates : dates.Lawful) {clock : DateTime}
    {policy : DatedPolicy} {cutoff : DateTime}
    (h : readCutoff dates clock policy.retentionDays (some (storedCutoff dates policy)) =
      .ok cutoff) : cutoff = (policy.readBack clock).cutoff := by
  unfold storedCutoff at h
  unfold DatedPolicy.readBack
  split at h
  · next hEnabled =>
    rw [if_pos hEnabled]
    exact hDates.faithful _ _ (require_eq_ok.mp h)
  · next hDisabled =>
    rw [if_neg hDisabled]
    cases h
    rfl

theorem readCutoff_readable {dates : Rfc3339} (hDates : dates.Lawful) (clock : DateTime)
    {policy : DatedPolicy} (h : policy.enabled = true → HasFourDigitYear policy.cutoff) :
    ∃ cutoff, readCutoff dates clock policy.retentionDays (some (storedCutoff dates policy)) =
      .ok cutoff := by
  unfold storedCutoff
  split
  · next hEnabled =>
    obtain ⟨cutoff, hRead⟩ :=
      Option.isSome_iff_exists.mp (hDates.readable policy.cutoff (h hEnabled))
    exact ⟨cutoff, require_eq_ok.mpr hRead⟩
  · exact ⟨_, rfl⟩

/-! ## The fold over a snapshot -/

section Fold

variable {V : Type} {decode : String → Value → Except OpsError V}

/-- The entries of a table as the fields of an object. -/
def fieldsOf (table : Table String V) (encode : V → Value) : Fields :=
  Fields.insertAll [] (table.entries.map fun entry => (entry.1, encode entry.2))

theorem get_fieldsOf (table : Table String V) (encode : V → Value) (key : String) :
    Fields.get (fieldsOf table encode) key = (table.get key).map encode := by
  have hNodup :
      ((table.entries.map fun entry => (entry.1, encode entry.2)).map Prod.fst).Nodup := by
    rw [List.map_map]
    exact table.nodup
  rw [fieldsOf, Fields.get_insertAll hNodup]
  unfold Table.get
  induction table.entries with
  | nil => rfl
  | cons entry rest ih =>
    rw [List.map_cons, Fields.get_cons, Table.findEntry, List.find?_cons]
    rcases Decidable.em (entry.1 = key) with hKey | hKey
    · simp [hKey]
    · simp only [hKey, decide_false, if_false]
      exact ih

theorem mem_fieldsOf {table : Table String V} {encode : V → Value} {entry : String × Value}
    (h : entry ∈ fieldsOf table encode) :
    ∃ value, table.get entry.1 = some value ∧ entry.2 = encode value := by
  obtain hMem | hNil := Fields.mem_insertAll h
  · obtain ⟨⟨key, value⟩, hIn, rfl⟩ := List.mem_map.mp hMem
    exact ⟨value, table.mem_entries_iff.mp hIn, rfl⟩
  · cases hNil

theorem mem_keys_fieldsOf {table : Table String V} {encode : V → Value} {key : String} :
    key ∈ (fieldsOf table encode).map Prod.fst ↔ (table.get key).isSome = true := by
  rw [← Fields.get_isSome_iff, get_fieldsOf, Option.isSome_map]

def decodeAll (decode : String → Value → Except OpsError V) (fields : Fields)
    (start : Table String V) : Except OpsError (Table String V) :=
  fields.foldlM (fun table entry => do
    let value ← decode entry.1 entry.2
    return table.insert entry.1 value) start

theorem get_decodeAll {expected : String → Option V} {fields : Fields}
    {start table : Table String V}
    (hDecode : ∀ entry ∈ fields, ∀ value, decode entry.1 entry.2 = .ok value →
      expected entry.1 = some value)
    (h : decodeAll decode fields start = .ok table) (key : String) :
    (key ∈ fields.map Prod.fst → table.get key = expected key) ∧
    (key ∉ fields.map Prod.fst → table.get key = start.get key) := by
  induction fields generalizing start with
  | nil =>
    cases h
    exact ⟨nofun, fun _ => rfl⟩
  | cons entry rest ih =>
    rw [List.forall_mem_cons] at hDecode
    obtain ⟨next, hNext, hRest⟩ := bind_eq_ok.mp h
    obtain ⟨value, hValue, hInsert⟩ := bind_eq_ok.mp hNext
    rw [← pure_eq_ok.mp hInsert] at hRest
    obtain ⟨hIn, hOut⟩ := ih hDecode.2 hRest
    rw [List.map_cons, List.mem_cons]
    constructor
    · intro hMem
      by_cases hLater : key ∈ rest.map Prod.fst
      · exact hIn hLater
      · obtain rfl := hMem.resolve_right hLater
        rw [hOut hLater, Table.get_insert, if_pos rfl, hDecode.1 value hValue]
    · rintro hNone
      rw [not_or] at hNone
      rw [hOut hNone.2, Table.get_insert, if_neg hNone.1]

theorem decodeAll_ok {fields : Fields}
    (hDecode : ∀ entry ∈ fields, ∃ value, decode entry.1 entry.2 = .ok value)
    (start : Table String V) : ∃ table, decodeAll decode fields start = .ok table := by
  induction fields generalizing start with
  | nil => exact ⟨start, rfl⟩
  | cons entry rest ih =>
    rw [List.forall_mem_cons] at hDecode
    obtain ⟨value, hValue⟩ := hDecode.1
    obtain ⟨table, hTable⟩ := ih hDecode.2 (start.insert entry.1 value)
    refine ⟨table, bind_eq_ok.mpr ⟨start.insert entry.1 value, ?_, hTable⟩⟩
    exact bind_eq_ok.mpr ⟨value, hValue, rfl⟩

end Fold

section RoundTrip

variable {dates : Rfc3339} {clock : String → DateTime} {policies : PolicyMap}

theorem policyMapFromSnapshot_stored :
    policyMapFromSnapshot dates clock (policySnapshot policies) (cutoffSnapshot dates policies) =
      decodeAll (fun key state => readPolicy dates (clock key)
        (fieldsOf policies (storedCutoff dates)) key state) (fieldsOf policies storedPolicy)
        .empty := rfl

/-- Each policy is read back as it was, with a cutoff of the clock if it is disabled. -/
theorem get_of_policyMapFromSnapshot (hDates : dates.Lawful) (hChecked : Checked policies)
    {found : PolicyMap}
    (h : policyMapFromSnapshot dates clock (policySnapshot policies)
      (cutoffSnapshot dates policies) = .ok found) (key : String) :
    found.get key = (policies.get key).map (DatedPolicy.readBack (clock key)) := by
  rw [policyMapFromSnapshot_stored] at h
  let expected (key : String) : Option DatedPolicy :=
    (policies.get key).map (DatedPolicy.readBack (clock key))
  have hDecode : ∀ entry ∈ fieldsOf policies storedPolicy, ∀ value,
      readPolicy dates (clock entry.1) (fieldsOf policies (storedCutoff dates)) entry.1 entry.2 =
        .ok value → expected entry.1 = some value := by
    intro entry hEntry value hValue
    obtain ⟨policy, hPolicy, hState⟩ := mem_fieldsOf hEntry
    rw [hState, readPolicy_stored dates _ _ (hChecked.known _ policy hPolicy)
      (hChecked.days _ policy hPolicy), get_fieldsOf, hPolicy, Option.map_some] at hValue
    cases hCutoff : readCutoff dates (clock entry.1) policy.retentionDays
        (some (storedCutoff dates policy)) with
    | error error =>
      rw [hCutoff] at hValue
      cases hValue
    | ok cutoff =>
      rw [hCutoff] at hValue
      cases hValue
      simp only [expected, hPolicy, Option.map_some, readCutoff_stored hDates hCutoff]
      unfold DatedPolicy.readBack
      split <;> rfl
  obtain ⟨hIn, hOut⟩ := get_decodeAll hDecode h key
  by_cases hKey : key ∈ (fieldsOf policies storedPolicy).map Prod.fst
  · exact hIn hKey
  · have hNone := hKey
    rw [mem_keys_fieldsOf, Option.not_isSome_iff_eq_none] at hNone
    rw [hOut hKey, hNone]
    rfl

theorem policyMapFromSnapshot_ok (hDates : dates.Lawful) (hChecked : Checked policies)
    (hYears : ∀ key policy, policies.get key = some policy → policy.enabled = true →
      HasFourDigitYear policy.cutoff) :
    ∃ found, policyMapFromSnapshot dates clock (policySnapshot policies)
      (cutoffSnapshot dates policies) = .ok found := by
  rw [policyMapFromSnapshot_stored]
  apply decodeAll_ok
  intro entry hEntry
  obtain ⟨policy, hPolicy, hState⟩ := mem_fieldsOf hEntry
  obtain ⟨cutoff, hCutoff⟩ :=
    readCutoff_readable hDates (clock entry.1) (hYears _ policy hPolicy)
  rw [hState, readPolicy_stored dates _ _ (hChecked.known _ policy hPolicy)
    (hChecked.days _ policy hPolicy), get_fieldsOf, hPolicy, Option.map_some, hCutoff]
  exact ⟨_, rfl⟩

/-- The enabled policies are those that were stored. -/
theorem enabledPolicy_of_readBack {found : PolicyMap}
    (h : ∀ key, found.get key = (policies.get key).map (DatedPolicy.readBack (clock key)))
    (key : RetentionKey) :
    enabledPolicy (policiesOf found) key = enabledPolicy (policiesOf policies) key := by
  simp only [enabledPolicy, policiesOf, h]
  cases policies.get key.toText with
  | none => rfl
  | some policy =>
    cases hEnabled : policy.enabled <;> simp [DatedPolicy.readBack, hEnabled, Option.filter]

end RoundTrip

/-! ## Loaded policies -/

theorem get_foldl_insert {now : DateTime} {rows : List PolicyRow} {start : PolicyMap} {key : String}
    {policy : DatedPolicy}
    (h : (rows.foldl (fun policies row => policies.insert row.policyKey (loadedPolicy now row))
      start).get key = some policy) :
    start.get key = some policy ∨
      ∃ row ∈ rows, row.policyKey = key ∧ policy = loadedPolicy now row := by
  induction rows generalizing start with
  | nil => exact .inl h
  | cons row rest ih =>
    obtain hStart | ⟨found, hFound, hKey⟩ := ih h
    · rw [Table.get_insert] at hStart
      split at hStart
      · next hKey =>
        exact .inr ⟨row, List.mem_cons_self, hKey.symm, (Option.some.inj hStart).symm⟩
      · exact .inl hStart
    · exact .inr ⟨found, List.mem_cons_of_mem row hFound, hKey⟩

theorem mem_of_loadPolicyMap {stored : RetentionPolicies} {now : DateTime}
    {selected : Option (List String)} {policies : PolicyMap}
    (h : loadPolicyMap stored now selected = .ok policies) {key : String} {policy : DatedPolicy}
    (hGet : policies.get key = some policy) :
    ∃ row ∈ stored.rows, row.policyKey = key ∧ policy = loadedPolicy now row := by
  have hLoaded : policies = (stored.rows.filter fun row => selected.all fun keys =>
      keys.contains row.policyKey).foldl (fun policies row =>
        policies.insert row.policyKey (loadedPolicy now row)) .empty := by
    unfold loadPolicyMap at h
    cases selected with
    | none => exact (pure_eq_ok.mp h).symm
    | some keys =>
      obtain ⟨-, -, hPure⟩ := bind_eq_ok.mp h
      exact (pure_eq_ok.mp hPure).symm
  rw [hLoaded] at hGet
  obtain hNone | ⟨row, hRow, hKey, hPolicy⟩ := get_foldl_insert hGet
  · cases hNone
  · exact ⟨row, (List.mem_filter.mp hRow).1, hKey, hPolicy⟩

theorem checked_of_loadPolicyMap {stored : RetentionPolicies} {now : DateTime}
    {selected : Option (List String)} {policies : PolicyMap}
    (h : loadPolicyMap stored now selected = .ok policies) : Checked policies := by
  constructor
  · intro key policy hGet
    obtain ⟨row, hRow, rfl, rfl⟩ := mem_of_loadPolicyMap h hGet
    exact (stored.checked row hRow).1
  · intro key policy hGet
    obtain ⟨row, hRow, rfl, rfl⟩ := mem_of_loadPolicyMap h hGet
    exact (stored.checked row hRow).2

/-- A clock from 1970 to 9999 gives cutoffs with years of four digits. -/
theorem hasFourDigitYear_of_loadPolicyMap {stored : RetentionPolicies} {now : DateTime}
    {selected : Option (List String)} {policies : PolicyMap}
    (h : loadPolicyMap stored now selected = .ok policies)
    (hClock : 0 ≤ now ∧ HasFourDigitYear now) {key : String} {policy : DatedPolicy}
    (hGet : policies.get key = some policy) : HasFourDigitYear policy.cutoff := by
  obtain ⟨row, hRow, -, rfl⟩ := mem_of_loadPolicyMap h hGet
  obtain ⟨hLow, hHigh⟩ := (stored.checked row hRow).2
  have hBound : row.retentionDays ≤ 36500 := hHigh
  have hEpoch : (0 : Int) ≤ now := hClock.1
  have hEnd : (253402300800000000 : Int) > now := hClock.2.2
  constructor
  · change (-62167219200000000 : Int) ≤ now - row.retentionDays * 86400000000
    omega
  · change (253402300800000000 : Int) > now - row.retentionDays * 86400000000
    omega

end AiGateway.Retention
