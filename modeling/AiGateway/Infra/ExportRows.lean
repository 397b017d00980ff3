import AiGateway.Infra.Restore

/-!
# The rows of an export and the check of an import

The export redacts the JSON rows of eleven tables, most of them by one walk over every
value, and puts members back into some after it.  The import walks the rows with a list
of names of its own and refuses an export that shows a secret under one of them.
-/

namespace AiGateway.Ops.ExportRows

set_option autoImplicit false

open AiGateway.Catalog AiGateway.Checked AiGateway.Json AiGateway.Text

/-! ## What the export writes -/

/-- The rows of the exported tables, each row a JSON value. -/
structure TableRows where
  providerPresets : List Value
  modelPresets : List Value
  sources : List Value
  accounts : List Value
  sourceModels : List Value
  sourceModelCapabilities : List Value
  logicalModels : List Value
  modelBindings : List Value
  routes : List Value
  providers : List Value
  virtualKeys : List Value

def TableRows.tables (rows : TableRows) : List (List Value) :=
  [rows.providerPresets, rows.modelPresets, rows.sources, rows.accounts, rows.sourceModels,
    rows.sourceModelCapabilities, rows.logicalModels, rows.modelBindings, rows.routes,
    rows.providers, rows.virtualKeys]

section Export

variable (urls : Urls)

/-- A member that is there is taken out, redacted and put back. -/
def sanitizeMemberAt (fields : Fields) (key : String) : Fields :=
  match fields.get key with
  | none => fields
  | some value => (fields.remove key).insert key (sanitizeJson urls value)

def sanitizeSourceRow : Value → Value
  | .object fields =>
    .object (["auth_config", "provider_preset_snapshot"].foldl (sanitizeMemberAt urls) fields)
  | row => row

/-- What stands in for the secret of an account. -/
def credential (env : Option String) (hadCiphertext : Bool) : Value :=
  match env with
  | some name =>
    if trim name ≠ "" then .object [("kind", .string "secret_ref"), ("name", .string name)]
    else credentialKind "none"
  | none => if hadCiphertext then credentialKind "redacted" else credentialKind "none"

def sanitizeAccountRow : Value → Value
  | .object fields =>
    let env := (Fields.get fields "credential_env").bind Value.asStr
    let hadCiphertext := (Fields.get fields "credential_ciphertext").any fun value => !isNull value
    let fields := Fields.remove fields "credential_ciphertext"
    let fields := Fields.insert fields "credential" (credential env hadCiphertext)
    .object (sanitizeMemberAt urls fields "auth_config")
  | row => row

def sanitizeVirtualKeyRow : Value → Value
  | .object fields => .object (Fields.remove (Fields.remove fields "key_hash") "key_ciphertext")
  | row => row

def exportSource (row : Value) : Value := sanitizeSourceRow urls (sanitizeJson urls row)

def credentialEnv (row : Value) : Value := (row.get "credential_env").getD .null

/-- The reference to the environment is put back as it was. -/
def putBack (env : Value) : Value → Value
  | .object fields => .object (Fields.insert fields "credential_env" env)
  | row => row

def exportAccount (row : Value) : Value :=
  sanitizeAccountRow urls (putBack (credentialEnv row) (sanitizeJson urls row))

/-- The rows of an export, before their number is compared with the limit. -/
def exportedRows (content : TableRows) : TableRows where
  providerPresets := content.providerPresets.map (sanitizeJson urls)
  modelPresets := content.modelPresets.map (sanitizeJson urls)
  sources := content.sources.map (exportSource urls)
  accounts := content.accounts.map (exportAccount urls)
  sourceModels := content.sourceModels.map (sanitizeJson urls)
  sourceModelCapabilities := content.sourceModelCapabilities.map (sanitizeJson urls)
  logicalModels := content.logicalModels.map (sanitizeJson urls)
  modelBindings := content.modelBindings.map (sanitizeJson urls)
  routes := content.routes.map (sanitizeJson urls)
  providers := content.providers.map (sanitizeJson urls)
  virtualKeys := content.virtualKeys.map sanitizeVirtualKeyRow

end Export

/-! ## What the import checks -/

def plaintextCredential : OpsError :=
  .validation "control-plane export contains a plaintext credential field"

/-- The names that the first comparison of the check looks for. -/
def checkedNames : List String :=
  ["credential_ciphertext", "authorization", "api_key", "apikey", "password", "private_key",
    "access_token", "refresh_token"]

mutual
def rejectPlaintextSecretFields : Value → Except OpsError Unit
  | .object fields => rejectMembers fields
  | .array values => rejectItems values
  | _ => .ok ()

def rejectItems : List Value → Except OpsError Unit
  | [] => .ok ()
  | value :: rest => do
    rejectPlaintextSecretFields value
    rejectItems rest

def rejectMembers : List (String × Value) → Except OpsError Unit
  | [] => .ok ()
  | (key, child) :: rest => do
    let lower := toAsciiLowercase key
    ensure (¬(lower ∈ checkedNames ∧ !isNull child ∧ child.asStr.any isPlaintext))
      plaintextCredential
    ensure (¬(lower = "credential" ∧ child.asStr.any isPlaintext)) plaintextCredential
    rejectPlaintextSecretFields child
    rejectMembers rest
end

def validateRows (rows : List Value) : Except OpsError Unit := do
  ensure (rows.length ≤ maxExportRows)
    (.validation ("control-plane export exceeds " ++ toString maxExportRows ++ " rows"))
  rows.forM fun row => do
    ensure (isObject row) (.validation "control-plane export rows must be JSON objects")
    rejectPlaintextSecretFields row

def validateTables (rows : TableRows) : Except OpsError Unit := rows.tables.forM validateRows

/-! ## Secrets in the open -/

/-- A member whose name and text an import refuses, at any depth. -/
inductive ShowsSecret : Value → Prop
  | here {key : String} {value : Value} {fields : Fields} : (key, value) ∈ fields →
      isPlaintextField key value = true → ShowsSecret (.object fields)
  | member {key : String} {value : Value} {fields : Fields} : (key, value) ∈ fields →
      ShowsSecret value → ShowsSecret (.object fields)
  | item {value : Value} {items : List Value} : value ∈ items → ShowsSecret value →
      ShowsSecret (.array items)

theorem showsSecret_object_iff (fields : Fields) :
    ShowsSecret (.object fields) ↔
      ∃ entry ∈ fields, isPlaintextField entry.1 entry.2 = true ∨ ShowsSecret entry.2 := by
  constructor
  · intro h
    cases h with
    | here hMem hField => exact ⟨_, hMem, .inl hField⟩
    | member hMem hValue => exact ⟨_, hMem, .inr hValue⟩
  · rintro ⟨entry, hMem, hField | hValue⟩
    · exact .here hMem hField
    · exact .member hMem hValue

theorem showsSecret_array_iff (items : List Value) :
    ShowsSecret (.array items) ↔ ∃ value ∈ items, ShowsSecret value := by
  constructor
  · intro h
    cases h with
    | item hMem hValue => exact ⟨_, hMem, hValue⟩
  · rintro ⟨value, hMem, hValue⟩
    exact .item hMem hValue

mutual
theorem hasPlaintextSecret_iff :
    (value : Value) → (hasPlaintextSecret value = true ↔ ShowsSecret value)
  | .null | .bool _ | .number _ | .string _ => by
    constructor
    · nofun
    · nofun
  | .array items => by
    rw [hasPlaintextSecret, itemsHavePlaintextSecret_iff items, showsSecret_array_iff]
  | .object fields => by
    rw [hasPlaintextSecret, fieldsHavePlaintextSecret_iff fields, showsSecret_object_iff]

theorem itemsHavePlaintextSecret_iff :
    (items : List Value) →
      (itemsHavePlaintextSecret items = true ↔ ∃ value ∈ items, ShowsSecret value)
  | [] => by
    constructor
    · nofun
    · nofun
  | value :: rest => by
    rw [itemsHavePlaintextSecret, Bool.or_eq_true, hasPlaintextSecret_iff value,
      itemsHavePlaintextSecret_iff rest, List.exists_mem_cons_iff]

theorem fieldsHavePlaintextSecret_iff :
    (fields : List (String × Value)) → (fieldsHavePlaintextSecret fields = true ↔
      ∃ entry ∈ fields, isPlaintextField entry.1 entry.2 = true ∨ ShowsSecret entry.2)
  | [] => by
    constructor
    · nofun
    · nofun
  | (key, value) :: rest => by
    rw [fieldsHavePlaintextSecret, Bool.or_eq_true, Bool.or_eq_true, hasPlaintextSecret_iff value,
      fieldsHavePlaintextSecret_iff rest, List.exists_mem_cons_iff]
end

/-! ## The check finds what is in the open -/

/-- The two comparisons of the check are one list of names. -/
theorem isPlaintextField_iff (key : String) (child : Value) :
    isPlaintextField key child = true ↔
      (toAsciiLowercase key ∈ checkedNames ∧ !isNull child ∧ child.asStr.any isPlaintext) ∨
      (toAsciiLowercase key = "credential" ∧ child.asStr.any isPlaintext) := by
  have hNames : plaintextNames = checkedNames ++ ["credential"] := rfl
  have hFilled : child.asStr.any isPlaintext = true → (!isNull child) = true := by
    intro hText
    cases child with
    | null => cases hText
    | _ => rfl
  rw [isPlaintextField, Bool.and_eq_true, List.contains_iff_mem, hNames, List.mem_append,
    List.mem_singleton]
  constructor
  · rintro ⟨hListed | hCredential, hText⟩
    · exact .inl ⟨hListed, hFilled hText, hText⟩
    · exact .inr ⟨hCredential, hText⟩
  · rintro (⟨hListed, -, hText⟩ | ⟨hCredential, hText⟩)
    · exact ⟨.inl hListed, hText⟩
    · exact ⟨.inr hCredential, hText⟩

theorem ensure_bind {ε α : Type} {condition : Prop} [Decidable condition] {error : ε}
    (rest : Except ε α) :
    (ensure condition error >>= fun _ => rest) = if condition then rest else .error error := by
  rw [ensure]
  split <;> rfl

mutual
theorem rejectPlaintextSecretFields_eq :
    (value : Value) → rejectPlaintextSecretFields value =
      if hasPlaintextSecret value then .error plaintextCredential else .ok ()
  | .null | .bool _ | .number _ | .string _ => rfl
  | .array items => rejectItems_eq items
  | .object fields => rejectMembers_eq fields

theorem rejectItems_eq :
    (items : List Value) → rejectItems items =
      if itemsHavePlaintextSecret items then .error plaintextCredential else .ok ()
  | [] => rfl
  | value :: rest => by
    rw [rejectItems, rejectPlaintextSecretFields_eq value, rejectItems_eq rest,
      itemsHavePlaintextSecret]
    cases hasPlaintextSecret value <;> rfl

theorem rejectMembers_eq :
    (fields : List (String × Value)) → rejectMembers fields =
      if fieldsHavePlaintextSecret fields then .error plaintextCredential else .ok ()
  | [] => rfl
  | (key, child) :: rest => by
    have hField := isPlaintextField_iff key child
    rw [rejectMembers, rejectPlaintextSecretFields_eq child, rejectMembers_eq rest,
      fieldsHavePlaintextSecret, ensure_bind]
    split
    · next hListed =>
      rw [ensure_bind]
      split
      · next hCredential =>
        have hHidden : isPlaintextField key child = false := by
          rw [← Bool.not_eq_true, hField]
          exact not_or.mpr ⟨hListed, hCredential⟩
        rw [hHidden]
        cases hasPlaintextSecret child <;> rfl
      · next hCredential =>
        rw [hField.mpr (.inr (not_not.mp hCredential))]
        rfl
    · next hListed =>
      rw [hField.mpr (.inl (not_not.mp hListed))]
      rfl
end

theorem rejects_iff (value : Value) :
    rejectPlaintextSecretFields value = .error plaintextCredential ↔ ShowsSecret value := by
  rw [rejectPlaintextSecretFields_eq, ← hasPlaintextSecret_iff]
  constructor
  · intro h
    split at h
    · next hShown => exact hShown
    · cases h
  · exact fun hShown => if_pos hShown

/-! ## Rows that are put together again -/

theorem not_showsSecret_sanitizeJson (urls : Urls) (value : Value) :
    ¬ShowsSecret (sanitizeJson urls value) := by
  rw [← hasPlaintextSecret_iff, hasPlaintextSecret_sanitizeJson]
  exact Bool.false_ne_true

theorem showsSecret_of_remove {fields : Fields} {key : String}
    (h : ShowsSecret (.object (Fields.remove fields key))) : ShowsSecret (.object fields) := by
  rw [showsSecret_object_iff] at h ⊢
  obtain ⟨entry, hMem, hShown⟩ := h
  exact ⟨entry, List.mem_of_mem_filter hMem, hShown⟩

theorem showsSecret_of_insert {fields : Fields} {key : String} {value : Value}
    (h : ShowsSecret (.object (Fields.insert fields key value))) :
    isPlaintextField key value = true ∨ ShowsSecret value ∨ ShowsSecret (.object fields) := by
  obtain ⟨entry, hMem, hShown⟩ := (showsSecret_object_iff _).mp h
  rcases Fields.mem_insert hMem with rfl | hOld
  · rcases hShown with hField | hValue
    · exact .inl hField
    · exact .inr (.inl hValue)
  · exact .inr (.inr ((showsSecret_object_iff fields).mpr ⟨entry, hOld, hShown⟩))

theorem isPlaintextField_of_not_mem {key : String}
    (h : toAsciiLowercase key ∉ plaintextNames) (value : Value) :
    isPlaintextField key value = false := by
  have hName : plaintextNames.contains (toAsciiLowercase key) = false := by
    rw [← Bool.not_eq_true, List.contains_iff_mem]
    exact h
  rw [isPlaintextField, hName, Bool.false_and]

/-- A member that is redacted where it stands shows nothing. -/
theorem showsSecret_of_sanitizeMemberAt (urls : Urls) {fields : Fields} {key : String}
    (hKey : toAsciiLowercase key ∉ plaintextNames)
    (h : ShowsSecret (.object (sanitizeMemberAt urls fields key))) :
    ShowsSecret (.object fields) := by
  rw [sanitizeMemberAt] at h
  split at h
  · exact h
  · next value _ =>
    rcases showsSecret_of_insert h with hField | hValue | hRest
    · rw [isPlaintextField_of_not_mem hKey] at hField
      cases hField
    · exact absurd hValue (not_showsSecret_sanitizeJson urls value)
    · exact showsSecret_of_remove hRest

theorem get_sanitizeMemberAt (urls : Urls) (fields : Fields) {key other : String}
    (h : key ≠ other) :
    Fields.get (sanitizeMemberAt urls fields key) other = Fields.get fields other := by
  rw [sanitizeMemberAt]
  split
  · rfl
  · rw [Fields.get_insert, if_neg h, Fields.get_remove, if_neg h]

theorem not_showsSecret_exportSource (urls : Urls) (row : Value) :
    ¬ShowsSecret (exportSource urls row) := by
  have hClean := not_showsSecret_sanitizeJson urls row
  intro h
  rw [exportSource] at h
  cases hRow : sanitizeJson urls row with
  | object fields =>
    rw [hRow] at h hClean
    have hAuth : toAsciiLowercase "auth_config" ∉ plaintextNames := by decide
    have hPreset : toAsciiLowercase "provider_preset_snapshot" ∉ plaintextNames := by decide
    apply hClean
    apply showsSecret_of_sanitizeMemberAt urls hAuth
    exact showsSecret_of_sanitizeMemberAt urls hPreset h
  | _ =>
    rw [hRow] at h hClean
    exact hClean h

theorem not_showsSecret_credential (env : Option String) (hadCiphertext : Bool) :
    ¬ShowsSecret (credential env hadCiphertext) := by
  have hName : ∀ key ∈ ["kind", "name"], toAsciiLowercase key ∉ plaintextNames := by decide
  have hTexts : ∀ texts : List (String × String), (∀ entry ∈ texts, entry.1 ∈ ["kind", "name"]) →
      ¬ShowsSecret (.object (texts.map fun entry => (entry.1, .string entry.2))) := by
    intro texts hKeys h
    obtain ⟨entry, hMem, hShown⟩ := (showsSecret_object_iff _).mp h
    obtain ⟨text, hText, rfl⟩ := List.mem_map.mp hMem
    rcases hShown with hField | hValue
    · rw [isPlaintextField_of_not_mem (hName _ (hKeys text hText))] at hField
      cases hField
    · cases hValue
  have hKind : ∀ kind, ¬ShowsSecret (credentialKind kind) := fun kind =>
    hTexts [("kind", kind)] (by simp)
  cases env with
  | some name =>
    rw [credential.eq_1]
    split
    · exact hTexts [("kind", "secret_ref"), ("name", name)] (by simp)
    · exact hKind _
  | none =>
    rw [credential.eq_2]
    split
    · exact hKind _
    · exact hKind _

theorem asStr_credential (env : Option String) (hadCiphertext : Bool) :
    (credential env hadCiphertext).asStr = none := by
  fun_cases credential env hadCiphertext
  all_goals rfl

/-- Only the reference that is put back can show a secret. -/
theorem showsSecret_exportAccount_iff (urls : Urls) (row : Value) :
    ShowsSecret (exportAccount urls row) ↔ ShowsSecret (credentialEnv row) := by
  cases row with
  | object fields =>
    have hClean := not_showsSecret_sanitizeJson urls (.object fields)
    have hEnv : toAsciiLowercase "credential_env" ∉ plaintextNames := by decide
    rw [sanitizeJson] at hClean
    rw [exportAccount, sanitizeJson, putBack, sanitizeAccountRow]
    constructor
    · intro h
      have hInserted := showsSecret_of_sanitizeMemberAt urls (by decide) h
      rcases showsSecret_of_insert hInserted with hField | hValue | hRest
      · rw [isPlaintextField, asStr_credential, Option.any_none, Bool.and_false] at hField
        cases hField
      · exact absurd hValue (not_showsSecret_credential _ _)
      · rcases showsSecret_of_insert (showsSecret_of_remove hRest) with hField | hEnvValue | hOld
        · rw [isPlaintextField_of_not_mem hEnv] at hField
          cases hField
        · exact hEnvValue
        · exact absurd hOld hClean
    · intro h
      have hGet : ∀ fields', Fields.get fields' "credential_env" =
          some (credentialEnv (.object fields)) → ShowsSecret (.object fields') :=
        fun fields' hMember => .member (Fields.mem_of_get hMember) h
      apply hGet
      rw [get_sanitizeMemberAt urls _ (by decide), Fields.get_insert, if_neg (by decide),
        Fields.get_remove, if_neg (by decide), Fields.get_insert, if_pos rfl]
  | _ => exact iff_of_false (not_showsSecret_sanitizeJson urls _) nofun

/-- A column other than the two that are taken out shows a secret. -/
def KeepsSecret : Value → Prop
  | .object fields => ∃ entry ∈ fields, entry.1 ≠ "key_hash" ∧ entry.1 ≠ "key_ciphertext" ∧
      (isPlaintextField entry.1 entry.2 = true ∨ ShowsSecret entry.2)
  | row => ShowsSecret row

theorem showsSecret_sanitizeVirtualKeyRow_iff (row : Value) :
    ShowsSecret (sanitizeVirtualKeyRow row) ↔ KeepsSecret row := by
  cases row with
  | object fields =>
    rw [sanitizeVirtualKeyRow, showsSecret_object_iff, KeepsSecret]
    simp only [Fields.remove, List.mem_filter, bne_iff_ne, and_assoc]
  | _ => exact Iff.rfl

/-! ## The whole export -/

theorem forM_ne_error {ε α : Type} {items : List α} {f : α → Except ε PUnit} {error : ε}
    (h : ∀ item ∈ items, f item ≠ .error error) : items.forM f ≠ .error error := by
  induction items with
  | nil => nofun
  | cons item rest ih =>
    have hItem : (item :: rest).forM f = (f item >>= fun _ => rest.forM f) := rfl
    rw [hItem]
    cases hFirst : f item with
    | ok _ => exact ih fun other hOther => h other (List.mem_cons_of_mem item hOther)
    | error other =>
      rintro ⟨⟩
      exact h item List.mem_cons_self hFirst

theorem ensure_bind_ne_error {ε α : Type} {condition : Prop} [Decidable condition]
    {other error : ε} {rest : Except ε α} (hOther : other ≠ error) (h : rest ≠ .error error) :
    (ensure condition other >>= fun _ => rest) ≠ .error error := by
  rw [ensure_bind]
  split
  · exact h
  · rintro ⟨⟩
    exact hOther rfl

/-- Rows that show nothing are not refused for a secret. -/
theorem validateTables_ne_plaintextCredential {rows : TableRows}
    (h : ∀ table ∈ rows.tables, ∀ row ∈ table, ¬ShowsSecret row) :
    validateTables rows ≠ .error plaintextCredential := by
  refine forM_ne_error fun table hTable => ?_
  rw [validateRows]
  apply ensure_bind_ne_error
  · decide
  · refine forM_ne_error fun row hRow => ?_
    apply ensure_bind_ne_error
    · simp [plaintextCredential]
    · rw [Ne, rejects_iff]
      exact h table hTable row hRow

/-- Nothing is in the open, and no import refuses the rows for a secret. -/
structure PassesImportCheck (rows : TableRows) : Prop where
  hidden : ∀ table ∈ rows.tables, ∀ row ∈ table, ¬ShowsSecret row
  accepted : validateTables rows ≠ .error plaintextCredential

/-- The walk over every value hides all that the check looks for, so what remains are the two
kinds of values it does not go over. -/
theorem export_passes_iff (urls : Urls) (content : TableRows) :
    PassesImportCheck (exportedRows urls content) ↔
      (∀ row ∈ content.accounts, ¬ShowsSecret (credentialEnv row)) ∧
      ∀ row ∈ content.virtualKeys, ¬KeepsSecret row := by
  constructor
  · rintro ⟨hHidden, -⟩
    constructor
    · intro row hRow hShown
      refine hHidden (content.accounts.map (exportAccount urls)) ?_ _
        (List.mem_map_of_mem hRow) ((showsSecret_exportAccount_iff urls row).mpr hShown)
      simp [TableRows.tables, exportedRows]
    · intro row hRow hShown
      refine hHidden (content.virtualKeys.map sanitizeVirtualKeyRow) ?_ _
        (List.mem_map_of_mem hRow) ((showsSecret_sanitizeVirtualKeyRow_iff row).mpr hShown)
      simp [TableRows.tables, exportedRows]
  · rintro ⟨hAccounts, hKeys⟩
    have hJson : ∀ rows : List Value, ∀ row ∈ rows.map (sanitizeJson urls), ¬ShowsSecret row := by
      intro rows row hRow
      obtain ⟨old, -, rfl⟩ := List.mem_map.mp hRow
      exact not_showsSecret_sanitizeJson urls old
    have hHidden : ∀ table ∈ (exportedRows urls content).tables, ∀ row ∈ table,
        ¬ShowsSecret row := by
      simp only [TableRows.tables, exportedRows, List.forall_mem_cons]
      refine ⟨hJson _, hJson _, ?_, ?_, hJson _, hJson _, hJson _, hJson _, hJson _, hJson _, ?_,
        nofun⟩
      · intro row hRow
        obtain ⟨old, -, rfl⟩ := List.mem_map.mp hRow
        exact not_showsSecret_exportSource urls old
      · intro row hRow
        obtain ⟨old, hOld, rfl⟩ := List.mem_map.mp hRow
        exact mt (showsSecret_exportAccount_iff urls old).mp (hAccounts old hOld)
      · intro row hRow
        obtain ⟨old, hOld, rfl⟩ := List.mem_map.mp hRow
        exact mt (showsSecret_sanitizeVirtualKeyRow_iff old).mp (hKeys old hOld)
    exact ⟨hHidden, validateTables_ne_plaintextCredential hHidden⟩

/-- A virtual key with an object among its models. -/
def keyWithPassword : TableRows where
  providerPresets := []
  modelPresets := []
  sources := []
  accounts := []
  sourceModels := []
  sourceModelCapabilities := []
  logicalModels := []
  modelBindings := []
  routes := []
  providers := []
  virtualKeys :=
    [.object [("allowed_models", .array [.object [("password", .string "hunter2")]]),
      ("key_hash", .string "0f"), ("name", .string "ci")]]

theorem password_in_key_refused :
    ¬∃ urls : Urls, PassesImportCheck (exportedRows urls keyWithPassword) := by
  rintro ⟨urls, hHidden, -⟩
  have hShown : ShowsSecret (.object [("allowed_models",
      .array [.object [("password", .string "hunter2")]]), ("name", .string "ci")]) :=
    .member List.mem_cons_self (.item List.mem_cons_self (.here List.mem_cons_self (by decide)))
  refine hHidden (keyWithPassword.virtualKeys.map sanitizeVirtualKeyRow) ?_ _
    List.mem_cons_self hShown
  simp [TableRows.tables, exportedRows]

end AiGateway.Ops.ExportRows
