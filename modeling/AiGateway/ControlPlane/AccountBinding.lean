import AiGateway.ControlPlane.Runs
import AiGateway.Infra.Secrets

/-!
# Envelopes of accounts

The associated data of an account joins the ids of its source and of the account
with a separator that the ids may contain.
-/

namespace AiGateway.Secrets

set_option autoImplicit false

open AiGateway.Text AiGateway.Base64 AiGateway.ControlPlane AiGateway.Checked

/-- Two joins are equal when they are cut at the same separator, or when one side
goes on to a later separator of the other. -/
theorem join_eq_join_iff {α : Type} {sep : α} {a b c d : List α} :
    a ++ sep :: b = c ++ sep :: d ↔ (a = c ∧ b = d) ∨
      (∃ t, c = a ++ sep :: t ∧ b = t ++ sep :: d) ∨
        ∃ t, a = c ++ sep :: t ∧ d = t ++ sep :: b := by
  constructor
  · intro h
    obtain ⟨t, rfl, hRest⟩ | ⟨t, rfl, hRest⟩ := List.append_eq_append_iff.mp h
    · cases t with
      | nil =>
        rw [List.nil_append, List.cons.injEq] at hRest
        exact .inl ⟨(List.append_nil a).symm, hRest.2⟩
      | cons _ t =>
        rw [List.cons_append, List.cons.injEq] at hRest
        obtain ⟨rfl, hRest⟩ := hRest
        exact .inr (.inl ⟨t, rfl, hRest⟩)
    · cases t with
      | nil =>
        rw [List.nil_append, List.cons.injEq] at hRest
        exact .inl ⟨List.append_nil c, hRest.2.symm⟩
      | cons _ t =>
        rw [List.cons_append, List.cons.injEq] at hRest
        obtain ⟨rfl, hRest⟩ := hRest
        exact .inr (.inr ⟨t, rfl, hRest⟩)
  · rintro (⟨rfl, rfl⟩ | ⟨t, rfl, rfl⟩ | ⟨t, rfl, rfl⟩) <;> simp

/-- The first source id goes on to a separator of the second, and the first
account id makes up for it. -/
def Extends (sourceId accountId sourceId' accountId' : String) : Prop :=
  ∃ t, sourceId' = sourceId ++ "/" ++ t ∧ accountId = t ++ "/" ++ accountId'

theorem extends_iff {s a s' a' : String} :
    Extends s a s' a' ↔
      ∃ t, s'.toList = s.toList ++ '/' :: t ∧ a.toList = t ++ '/' :: a'.toList := by
  constructor
  · rintro ⟨t, rfl, rfl⟩
    exact ⟨t.toList, by simp, by simp⟩
  · rintro ⟨t, hSource, hAccount⟩
    refine ⟨String.ofList t, String.toList_inj.mp ?_, String.toList_inj.mp ?_⟩
    · simp [hSource]
    · simp [hAccount]

theorem accountAad_eq_iff {s a s' a' : String} :
    accountAad s a = accountAad s' a' ↔
      (s = s' ∧ a = a') ∨ Extends s a s' a' ∨ Extends s' a' s a := by
  have hText (s a : String) : (accountAad s a).toList =
      (accountAadPrefix.toList ++ ['/']) ++ (s.toList ++ '/' :: a.toList) := by
    simp [accountAad]
  rw [← String.toList_inj, hText, hText, List.append_cancel_left_eq, join_eq_join_iff,
    String.toList_inj, String.toList_inj, extends_iff, extends_iff]

/-- Data other than that of the seal does not open what it sealed, under any key. -/
def Library.Separates (lib : Library) (aad aad' : Bytes) : Prop :=
  ∀ key key' nonce plaintext payload, lib.sealInPlace key nonce aad plaintext = some payload →
    lib.openInPlace key' nonce aad' payload = none

theorem KeyRing.decrypt_ne_ok {lib : Library} (hLib : lib.Lawful) {aad aad' : Bytes}
    (hSeparates : lib.Separates aad aad') {ring other : KeyRing} {plaintext envelope : String}
    {random : Option Nonce} (h : ring.encrypt lib plaintext aad random = .ok envelope)
    (lease : SecretLease) : other.decrypt lib envelope aad' ≠ .ok lease := by
  obtain ⟨key, nonce, payload, -, -, -, hPayload, rfl⟩ := KeyRing.encrypt_eq_ok h
  have hTag : tagLen ≤ payload.length := by
    rw [hLib.tagged hPayload]
    exact Nat.le_add_left _ _
  rw [KeyRing.decrypt]
  by_cases hWithin :
      (utf8 (envelopeText ring.activeVersion nonce.val payload)).length ≤ maxEnvelopeLen
  · rw [parse_envelopeText lib ring.version nonce hTag hWithin]
    cases hKey : other.keys.get ring.activeVersion with
    | none =>
      simp only [bind, Except.bind, hKey]
      intro hOk
      cases hOk
    | some key' =>
      simp only [bind, Except.bind, hKey, hSeparates key key' nonce _ _ hPayload]
      intro hOk
      cases hOk
  · rw [parseEnvelope, if_pos (by simp [Nat.not_le.mp hWithin])]
    intro hOk
    cases hOk

theorem KeyRing.decrypt_of_resolveAccount {lib : Library} {ring : KeyRing}
    {var : String → Option String} {s a ciphertext : String} {lease : SecretLease}
    (h : ring.resolveAccount lib var s a none (some ciphertext) none = .ok lease) :
    ring.decrypt lib ciphertext (utf8 (accountAad s a)) = .ok lease := by
  rw [KeyRing.resolveAccount, KeyRing.resolveRefs] at h
  by_cases hEmpty : (trim ciphertext).isEmpty = true
  · simp [Option.filter, hEmpty] at h
  · simpa [Option.filter, hEmpty] using h

/-- Another account has other data, and does not get at what was sealed for this one. -/
structure BoundToAccount (s a s' a' : String) : Prop where
  distinct : accountAad s a ≠ accountAad s' a'
  unreadable : ∀ lib : Library, lib.Lawful →
    (accountAad s a ≠ accountAad s' a' →
      lib.Separates (utf8 (accountAad s a)) (utf8 (accountAad s' a'))) →
    ∀ (ring other : KeyRing) (plaintext : String) (random : Option Nonce) (envelope : String),
    ring.encryptForAccount lib s a plaintext random = .ok envelope → ∀ var lease,
    other.resolveAccount lib var s' a' none (some envelope) none ≠ .ok lease

theorem boundToAccount_iff {s a s' a' : String} (hOther : (s, a) ≠ (s', a')) :
    BoundToAccount s a s' a' ↔ ¬ Extends s a s' a' ∧ ¬ Extends s' a' s a := by
  have hSame : ¬ (s = s' ∧ a = a') := by
    rintro ⟨rfl, rfl⟩
    exact hOther rfl
  rw [← not_or]
  constructor
  · rintro ⟨hDistinct, -⟩ hExtends
    exact hDistinct (accountAad_eq_iff.mpr (.inr hExtends))
  · intro hNot
    have hDistinct : accountAad s a ≠ accountAad s' a' := fun hAad =>
      (accountAad_eq_iff.mp hAad).elim hSame hNot
    refine ⟨hDistinct, ?_⟩
    intro lib hLib hSeparates ring other plaintext random envelope hEnvelope var lease hLease
    exact KeyRing.decrypt_ne_ok hLib (hSeparates hDistinct) hEnvelope lease
      (KeyRing.decrypt_of_resolveAccount hLease)

/-- A cipher whose tag says whether the data is the one it was made for. -/
def marking (aad : Bytes) : Library where
  sha256 _ := recordedKey
  sealInPlace _ _ other plaintext :=
    some (plaintext ++ List.replicate tagLen (if other = aad then 1 else 0))
  openInPlace _ _ other payload :=
    if (List.replicate tagLen (if other = aad then 1 else 0)).isSuffixOf payload then
      some (payload.take (payload.length - tagLen))
    else none
  parseObject _ := none

theorem marking_lawful (aad : Bytes) : (marking aad).Lawful where
  opened {key nonce other plaintext payload} h := by
    rw [← Option.some.inj h]
    simp [marking]
  tagged {key nonce other plaintext payload} h := by
    rw [← Option.some.inj h]
    simp
  seals _ _ _ _ _ := rfl

theorem marking_separates {aad aad' : Bytes} (h : aad' ≠ aad) :
    (marking aad).Separates aad aad' := by
  intro key key' nonce plaintext payload hPayload
  rw [← Option.some.inj hPayload]
  have hTag : ¬ List.replicate tagLen (0 : UInt8) <:+ plaintext ++ List.replicate tagLen 1 := by
    rintro ⟨front, hSame⟩
    have hLast := congrArg List.getLast? hSame
    rw [List.getLast?_append, List.getLast?_append] at hLast
    have hEnds : some (0 : UInt8) = some 1 := hLast
    exact absurd hEnds (by decide)
  simp [marking, h, hTag]

/-- The assumption on the cipher can be met. -/
theorem boundToAccount_separated :
    BoundToAccount "a" "b" "a" "c" ∧ (marking (utf8 (accountAad "a" "b"))).Lawful ∧
      (marking (utf8 (accountAad "a" "b"))).Separates (utf8 (accountAad "a" "b"))
        (utf8 (accountAad "a" "c")) := by
  have hBound : BoundToAccount "a" "b" "a" "c" := by
    apply (boundToAccount_iff (by decide)).mpr
    rw [extends_iff, extends_iff]
    constructor
    · rintro ⟨t, hSource, -⟩
      simp at hSource
    · rintro ⟨t, hSource, -⟩
      simp at hSource
  refine ⟨hBound, marking_lawful _, marking_separates fun hSame => ?_⟩
  exact hBound.distinct (utf8_injective hSame).symm

def sourceOf (id : String) : Write := .createSource { Relisted.source with id := id }

def accountOf (sourceId id : String) : Write :=
  .createAccount { id := id, sourceId := sourceId, displayName := id, credentialEnv := some "KEY" }

/-- Both accounts are created, and the envelope of the first opens for the second. -/
theorem account_envelope_crosses :
    (∃ history db, Run Relisted.service Relisted.start history db ∧
      db.accounts.map (fun row => (row.sourceId, row.id)) = [("a", "b/c"), ("a/b", "c")]) ∧
    ¬ BoundToAccount "a" "b/c" "a/b" "c" := by
  constructor
  · obtain ⟨run, hRun, hAccounts⟩ := exists_of_succeeds (show succeeds
      (perform Relisted.service Relisted.start ([sourceOf "a", sourceOf "a/b",
        accountOf "a" "b/c", accountOf "a/b" "c"].map fun write => (0, .write write)))
      (fun run => run.2.accounts.map (fun row => (row.sourceId, row.id)) =
        [("a", "b/c"), ("a/b", "c")]) = true by decide)
    exact ⟨run.1, run.2, run_of_perform run hRun, of_decide_eq_true hAccounts⟩
  · rintro ⟨hDistinct, -⟩
    exact hDistinct (by decide)

end AiGateway.Secrets
