import AiGateway.Base.Lossy
import AiGateway.Domain.Routing

/-!
# Overrides and the order of their map

Among the patterns that match a model a lookup takes the one that the iteration
meets first.  The precedence of routes would take the best one.
-/

namespace AiGateway.Config

set_option autoImplicit false

open AiGateway.Routing AiGateway.Text

/-! ## The best pattern -/

/-- The model itself comes before every prefix, and a longer prefix before a shorter. -/
def RankLe (a b : Bool × Nat) : Prop := a.1 < b.1 ∨ a.1 = b.1 ∧ a.2 ≤ b.2

theorem RankLe.refl (a : Bool × Nat) : RankLe a a := .inr ⟨rfl, Nat.le_refl a.2⟩

theorem RankLe.trans {a b c : Bool × Nat} (hab : RankLe a b) (hbc : RankLe b c) : RankLe a c := by
  obtain hLess | ⟨hSame, hLe⟩ := hab
  · obtain hLess' | ⟨hSame', -⟩ := hbc
    · exact .inl (lt_trans hLess hLess')
    · exact .inl (hSame' ▸ hLess)
  · obtain hLess' | ⟨hSame', hLe'⟩ := hbc
    · exact .inl (hSame ▸ hLess')
    · exact .inr ⟨hSame.trans hSame', Nat.le_trans hLe hLe'⟩

theorem RankLe.total (a b : Bool × Nat) : RankLe a b ∨ RankLe b a := by
  obtain hLess | hSame | hMore := lt_trichotomy a.1 b.1
  · exact .inl (.inl hLess)
  · exact (Nat.le_total a.2 b.2).imp (fun h => .inr ⟨hSame, h⟩) fun h => .inr ⟨hSame.symm, h⟩
  · exact .inr (.inl hMore)

theorem RankLe.antisymm {a b : Bool × Nat} (hab : RankLe a b) (hba : RankLe b a) : a = b := by
  obtain hLess | ⟨hSame, hLe⟩ := hab
  · obtain hLess' | ⟨hSame', -⟩ := hba
    · exact absurd hLess' (lt_asymm hLess)
    · exact absurd hSame'.symm (ne_of_lt hLess)
  · obtain hLess' | ⟨-, hLe'⟩ := hba
    · exact absurd hSame.symm (ne_of_lt hLess')
    · exact Prod.ext hSame (Nat.le_antisymm hLe hLe')

abbrev Overrides := Table String ModelCapabilityOverride

variable {overrides : Overrides} {model : String}

def Matches (model : String) (entry : String × ModelCapabilityOverride) : Prop :=
  (modelMatchRank entry.1 model).isSome

/-- The entry whose pattern the precedence of routes puts first. -/
structure Best (overrides : Overrides) (model : String)
    (entry : String × ModelCapabilityOverride) : Prop where
  mem : entry ∈ overrides.entries
  rank : ∃ rank, modelMatchRank entry.1 model = some rank ∧ ∀ other ∈ overrides.entries,
    ∀ r, modelMatchRank other.1 model = some r → RankLe r rank

/-- What a lookup is meant to give: the exact entry, else the longest prefix, else `*`. -/
inductive Specified (overrides : Overrides) (model : String) :
    Option ModelCapabilityOverride → Prop where
  | best {entry : String × ModelCapabilityOverride} : Best overrides model entry →
      Specified overrides model (some entry.2)
  | unmatched : (∀ entry ∈ overrides.entries, ¬ Matches model entry) →
      Specified overrides model none

theorem exists_best (h : ∃ entry ∈ overrides.entries, Matches model entry) :
    ∃ entry, Best overrides model entry := by
  have hMax : ∀ entries : List (String × ModelCapabilityOverride),
      (∃ entry ∈ entries, Matches model entry) → ∃ entry ∈ entries, ∃ rank,
        modelMatchRank entry.1 model = some rank ∧ ∀ other ∈ entries,
          ∀ r, modelMatchRank other.1 model = some r → RankLe r rank := by
    intro entries
    induction entries with
    | nil =>
      rintro ⟨_, hMem, -⟩
      cases hMem
    | cons entry rest ih =>
      intro hSome
      by_cases hRest : ∃ other ∈ rest, Matches model other
      · obtain ⟨best, hBest, rank, hRank, hMax⟩ := ih hRest
        cases hEntry : modelMatchRank entry.1 model with
        | none =>
          refine ⟨best, List.mem_cons_of_mem entry hBest, rank, hRank, ?_⟩
          intro other hOther r hr
          obtain rfl | hOther := List.mem_cons.mp hOther
          · rw [hEntry] at hr
            cases hr
          · exact hMax other hOther r hr
        | some own =>
          obtain hLe | hLe := RankLe.total own rank
          · refine ⟨best, List.mem_cons_of_mem entry hBest, rank, hRank, ?_⟩
            intro other hOther r hr
            obtain rfl | hOther := List.mem_cons.mp hOther
            · rw [hEntry] at hr
              exact Option.some.inj hr ▸ hLe
            · exact hMax other hOther r hr
          · refine ⟨entry, List.mem_cons_self, own, hEntry, ?_⟩
            intro other hOther r hr
            obtain rfl | hOther := List.mem_cons.mp hOther
            · rw [hEntry] at hr
              exact Option.some.inj hr ▸ RankLe.refl own
            · exact (hMax other hOther r hr).trans hLe
      · obtain ⟨found, hFound, hMatches⟩ := hSome
        obtain rfl | hFound := List.mem_cons.mp hFound
        · obtain ⟨own, hOwn⟩ := Option.isSome_iff_exists.mp hMatches
          refine ⟨found, List.mem_cons_self, own, hOwn, ?_⟩
          intro other hOther r hr
          obtain rfl | hOther := List.mem_cons.mp hOther
          · rw [hOwn] at hr
            exact Option.some.inj hr ▸ RankLe.refl own
          · exact absurd ⟨other, hOther, Option.isSome_of_mem hr⟩ hRest
        · exact absurd ⟨found, hFound, hMatches⟩ hRest
  obtain ⟨entry, hMem, hRank⟩ := hMax overrides.entries h
  exact ⟨entry, hMem, hRank⟩

theorem patternPrefix_eq_some {pattern : String} {start : List Char}
    (h : patternPrefix pattern = some start) : pattern.toList = start ++ ['*'] := by
  rw [patternPrefix] at h
  split at h
  · next hLast =>
    obtain ⟨front, hFront⟩ := List.getLast?_eq_some_iff.mp hLast
    rw [← Option.some.inj h, hFront, List.dropLast_concat]
  · cases h

theorem prefixMatches_iff {pattern : String} :
    prefixMatches pattern model = true ↔
      ∃ start, pattern.toList = start ++ ['*'] ∧ start <+: model.toList := by
  rw [prefixMatches]
  constructor
  · intro h
    split at h
    · next start hStart =>
      exact ⟨start, patternPrefix_eq_some hStart, List.isPrefixOf_iff_prefix.mp h⟩
    · cases h
  · rintro ⟨start, hPattern, hStart⟩
    have hSome : patternPrefix pattern = some start := by
      simp [patternPrefix, hPattern]
    rw [hSome]
    exact List.isPrefixOf_iff_prefix.mpr hStart

theorem prefixMatches_star : prefixMatches "*" model = true :=
  prefixMatches_iff.mpr ⟨[], rfl, List.nil_prefix⟩

theorem matches_iff {entry : String × ModelCapabilityOverride} :
    Matches model entry ↔ entry.1 = model ∨ prefixMatches entry.1 model = true := by
  rw [Matches, modelMatchRank]
  by_cases hExact : entry.1 = model
  · simp [hExact]
  · by_cases hStar : entry.1 = "*"
    · have hOther : "*" ≠ model := hStar ▸ hExact
      simp [hStar, hOther, prefixMatches_star]
    · by_cases hPrefix : prefixMatches entry.1 model = true
      · simp [hExact, hStar, hPrefix]
      · simp [hExact, hStar, hPrefix]

theorem rank_of_prefix {pattern : String} {n : Nat}
    (h : modelMatchRank pattern model = some (false, n)) :
    ∃ start, pattern.toList = start ++ ['*'] ∧ start <+: model.toList ∧ octetCount start = n := by
  have hSize (start : List Char) (hPattern : pattern.toList = start ++ ['*']) :
      octetCount start = pattern.utf8ByteSize - 1 := by
    have hOctets : pattern.utf8ByteSize = octetCount pattern.toList := utf8_length_eq pattern
    have hStar : octetCount ['*'] = 1 := by decide
    rw [hOctets, hPattern, octetCount_append, hStar]
    rfl
  rw [modelMatchRank] at h
  split at h
  · cases h
  · split at h
    · next hStar =>
      have hZero : 0 = n := congrArg Prod.snd (Option.some.inj h)
      exact ⟨[], hStar ▸ rfl, List.nil_prefix, hZero⟩
    · split at h
      · next hPrefix =>
        obtain ⟨start, hPattern, hStart⟩ := prefixMatches_iff.mp hPrefix
        have hRank : pattern.utf8ByteSize - 1 = n := congrArg Prod.snd (Option.some.inj h)
        exact ⟨start, hPattern, hStart, (hSize start hPattern).trans hRank⟩
      · cases h

theorem eq_of_prefix_of_octetCount {a b : List Char} (h : a <+: b)
    (hCount : octetCount a = octetCount b) : a = b := by
  obtain ⟨rest, rfl⟩ := h
  rw [octetCount_append] at hCount
  have hLength := length_le_octetCount rest
  have hNil : rest.length = 0 := by omega
  rw [List.eq_nil_of_length_eq_zero hNil, List.append_nil]

/-- Two patterns of one rank are one pattern. -/
theorem pattern_eq_of_rank {p q : String} {rank : Bool × Nat}
    (hp : modelMatchRank p model = some rank) (hq : modelMatchRank q model = some rank) :
    p = q := by
  obtain ⟨exact, n⟩ := rank
  cases exact with
  | true =>
    have hExact : ∀ {pattern : String}, modelMatchRank pattern model = some (true, n) →
        pattern = model := by
      intro pattern h
      rw [modelMatchRank] at h
      split at h
      · assumption
      · split at h
        · cases h
        · split at h <;> cases h
    exact (hExact hp).trans (hExact hq).symm
  | false =>
    obtain ⟨a, hPattern, ha, hCount⟩ := rank_of_prefix hp
    obtain ⟨b, hPattern', hb, hCount'⟩ := rank_of_prefix hq
    have hSame : a = b := by
      obtain hab | hba := List.prefix_or_prefix_of_prefix ha hb
      · exact eq_of_prefix_of_octetCount hab (hCount.trans hCount'.symm)
      · exact (eq_of_prefix_of_octetCount hba (hCount'.trans hCount.symm)).symm
    rw [← String.toList_inj, hPattern, hPattern', hSame]

theorem Best.unique {a b : String × ModelCapabilityOverride} (ha : Best overrides model a)
    (hb : Best overrides model b) : a = b := by
  obtain ⟨r, hr, hrMax⟩ := ha.rank
  obtain ⟨t, ht, htMax⟩ := hb.rank
  have hSame : r = t := (htMax a ha.mem r hr).antisymm (hrMax b hb.mem t ht)
  have hKey : a.1 = b.1 := pattern_eq_of_rank hr (hSame ▸ ht)
  exact List.inj_on_of_nodup_map overrides.nodup ha.mem hb.mem hKey

/-! ## Lookups in any order -/

/-- The same map, iterated in another order. -/
def Reordered {K V : Type} (t u : Table K V) : Prop := t.entries.Perm u.entries

theorem Reordered.get {K V : Type} [DecidableEq K] {t u : Table K V} (h : Reordered t u)
    (key : K) : t.get key = u.get key := by
  apply Option.ext
  intro value
  rw [← Table.mem_entries_iff, ← Table.mem_entries_iff]
  exact h.mem_iff

theorem findModelOverride_eq_get (h : overrides.containsKey model = true) :
    findModelOverride overrides model = overrides.get model := by
  obtain ⟨value, hValue⟩ := Option.isSome_iff_exists.mp h
  simp [findModelOverride, hValue]

/-- Without an exact entry the first one that matches is found. -/
theorem findModelOverride_of_not_exact (h : overrides.containsKey model = false) :
    findModelOverride overrides model =
      (overrides.entries.find? fun entry =>
        entry.1 = "*" || prefixMatches entry.1 model).map Prod.snd := by
  rw [Table.containsKey, Option.isSome_eq_false_iff, Option.isNone_iff_eq_none] at h
  rw [findModelOverride, h]
  rfl

theorem star_or_prefix_iff (h : overrides.containsKey model = false)
    {entry : String × ModelCapabilityOverride} (hEntry : entry ∈ overrides.entries) :
    (decide (entry.1 = "*") || prefixMatches entry.1 model) = true ↔ Matches model entry := by
  have hOther : entry.1 ≠ model := by
    rintro rfl
    rw [Table.containsKey, (overrides.mem_entries_iff).mp hEntry] at h
    cases h
  rw [matches_iff, Bool.or_eq_true, decide_eq_true_eq]
  constructor
  · rintro (hStar | hPrefix)
    · exact .inr (hStar ▸ prefixMatches_star)
    · exact .inr hPrefix
  · rintro (hExact | hPrefix)
    · exact absurd hExact hOther
    · exact .inr hPrefix

/-- Every order of the map gives what is specified. -/
def OrderFree (overrides : Overrides) (model : String) : Prop :=
  ∀ order : Overrides, Reordered overrides order →
    Specified overrides model (findModelOverride order model)

/-- There is an exact entry, or all the patterns that match say the same. -/
def Settled (overrides : Overrides) (model : String) : Prop :=
  overrides.containsKey model = true ∨
    ∀ a ∈ overrides.entries, ∀ b ∈ overrides.entries, Matches model a → Matches model b →
      a.2 = b.2

theorem best_of_exact {value : ModelCapabilityOverride} (h : overrides.get model = some value) :
    Best overrides model (model, value) where
  mem := overrides.mem_entries_iff.mpr h
  rank := by
    refine ⟨(true, model.utf8ByteSize), by simp [modelMatchRank], ?_⟩
    intro other _ r hr
    rw [modelMatchRank] at hr
    split at hr
    · next hSame =>
      rw [← Option.some.inj hr, hSame]
      exact RankLe.refl _
    · split at hr
      · rw [← Option.some.inj hr]
        exact .inl rfl
      · split at hr
        · rw [← Option.some.inj hr]
          exact .inl rfl
        · cases hr

theorem Settled.orderFree (h : Settled overrides model) : OrderFree overrides model := by
  intro order hOrder
  have hGet : order.get model = overrides.get model := (hOrder.get model).symm
  cases hExact : overrides.containsKey model with
  | true =>
    have hOrderExact : order.containsKey model = true := by
      rw [Table.containsKey, hGet]
      exact hExact
    obtain ⟨value, hValue⟩ := Option.isSome_iff_exists.mp hExact
    rw [findModelOverride_eq_get hOrderExact, hGet, hValue]
    exact .best (best_of_exact hValue)
  | false =>
    have hOrderExact : order.containsKey model = false := by
      rw [Table.containsKey, hGet]
      exact hExact
    have hSame := h.resolve_left (by simp [hExact])
    rw [findModelOverride_of_not_exact hOrderExact]
    cases hFind : order.entries.find? fun entry =>
        decide (entry.1 = "*") || prefixMatches entry.1 model with
    | none =>
      refine .unmatched fun entry hEntry hMatches => ?_
      have hOrderEntry := hOrder.mem_iff.mp hEntry
      exact List.find?_eq_none.mp hFind entry hOrderEntry
        ((star_or_prefix_iff hOrderExact hOrderEntry).mpr hMatches)
    | some found =>
      have hOrderFound := List.mem_of_find?_eq_some hFind
      have hFound := hOrder.mem_iff.mpr hOrderFound
      have hTest := List.find?_some hFind
      have hMatches : Matches model found := (star_or_prefix_iff hOrderExact hOrderFound).mp hTest
      obtain ⟨best, hBest⟩ := exists_best ⟨found, hFound, hMatches⟩
      obtain ⟨_, hRank, -⟩ := hBest.rank
      have hValue : found.2 = best.2 :=
        hSame found hFound best hBest.mem hMatches (Option.isSome_of_mem hRank)
      rw [Option.map_some, hValue]
      exact .best hBest

/-- An order in which the entry comes first. -/
theorem exists_first {entry : String × ModelCapabilityOverride}
    (hEntry : entry ∈ overrides.entries) :
    ∃ order : Overrides, Reordered overrides order ∧ order.entries.head? = some entry := by
  obtain ⟨before, after, hEntries⟩ := List.append_of_mem hEntry
  have hPerm : overrides.entries.Perm (entry :: (before ++ after)) := by
    rw [hEntries]
    exact List.perm_middle
  exact ⟨⟨entry :: (before ++ after), (hPerm.map Prod.fst).nodup_iff.mp overrides.nodup⟩, hPerm,
    rfl⟩

theorem best_of_orderFree (hFree : OrderFree overrides model)
    (hExact : overrides.containsKey model = false) {entry : String × ModelCapabilityOverride}
    (hEntry : entry ∈ overrides.entries) (hMatches : Matches model entry) :
    ∃ best, Best overrides model best ∧ best.2 = entry.2 := by
  obtain ⟨order, hOrder, hHead⟩ := exists_first hEntry
  have hOrderExact : order.containsKey model = false := by
    rw [Table.containsKey, ← hOrder.get model]
    exact hExact
  have hSpecified := hFree order hOrder
  obtain ⟨rest, hEntries⟩ := List.head?_eq_some_iff.mp hHead
  have hTest := (star_or_prefix_iff hOrderExact (hOrder.mem_iff.mp hEntry)).mpr hMatches
  rw [findModelOverride_of_not_exact hOrderExact, hEntries] at hSpecified
  simp only [List.find?_cons, hTest, Option.map_some] at hSpecified
  generalize hValue : entry.2 = value at hSpecified
  cases hSpecified with
  | best hBest => exact ⟨_, hBest, rfl⟩

theorem orderFree_iff : OrderFree overrides model ↔ Settled overrides model := by
  constructor
  · intro hFree
    cases hExact : overrides.containsKey model with
    | true => exact .inl hExact
    | false =>
      refine .inr fun a ha b hb hMatchesA hMatchesB => ?_
      obtain ⟨best, hBest, hA⟩ := best_of_orderFree hFree hExact ha hMatchesA
      obtain ⟨best', hBest', hB⟩ := best_of_orderFree hFree hExact hb hMatchesB
      rw [← hA, ← hB, hBest.unique hBest']
  · exact Settled.orderFree

theorem Specified.unique {a b : Option ModelCapabilityOverride} (ha : Specified overrides model a)
    (hb : Specified overrides model b) : a = b := by
  cases ha with
  | best hBest =>
    cases hb with
    | best hBest' => rw [hBest.unique hBest']
    | unmatched hNone =>
      obtain ⟨_, hRank, -⟩ := hBest.rank
      exact absurd (Option.isSome_of_mem hRank) (hNone _ hBest.mem)
  | unmatched hNone =>
    cases hb with
    | best hBest =>
      obtain ⟨_, hRank, -⟩ := hBest.rank
      exact absurd (Option.isSome_of_mem hRank) (hNone _ hBest.mem)
    | unmatched _ => rfl

theorem findModelOverride_reordered {order : Overrides} (hOrder : Reordered overrides order)
    (h : Settled overrides model) :
    findModelOverride overrides model = findModelOverride order model :=
  (h.orderFree overrides (List.Perm.refl _)).unique (h.orderFree order hOrder)

/-! ## Configurations in any order -/

/-- Errors of configurations whose parts correspond. -/
theorem flatten_mapIdx_perm {α β : Type} {R : α → α → Prop} {l l' : List α}
    (h : List.Forall₂ R l l') : ∀ (f g : Nat → α → List β),
    (∀ i a b, R a b → (f i a).Perm (g i b)) →
    ((l.mapIdx f).flatten).Perm (l'.mapIdx g).flatten := by
  induction h with
  | nil =>
    intro f g _
    exact .refl _
  | cons hHead _ ih =>
    intro f g hStep
    rw [List.mapIdx_cons, List.mapIdx_cons, List.flatten_cons, List.flatten_cons]
    exact (hStep 0 _ _ hHead).append
      (ih (fun i => f (i + 1)) (fun i => g (i + 1)) fun i a b hab => hStep (i + 1) a b hab)

def ProviderConfig.Reordered (p p' : ProviderConfig) : Prop :=
  ∃ order, Config.Reordered p.modelOverrides order ∧ p' = { p with modelOverrides := order }

def AccountConfig.Reordered (a a' : AccountConfig) : Prop :=
  ∃ order, Config.Reordered a.modelOverrides order ∧ a' = { a with modelOverrides := order }

namespace GatewayConfig

/-- One configuration, read twice. -/
structure Reordered (c c' : GatewayConfig) : Prop where
  listenAddr : c'.listenAddr = c.listenAddr
  providers : List.Forall₂ ProviderConfig.Reordered c.providers c'.providers
  accounts : List.Forall₂ AccountConfig.Reordered c.accounts c'.accounts
  routes : c'.routes = c.routes

structure SettledFor (c : GatewayConfig) (model : String) : Prop where
  providers : ∀ provider ∈ c.providers, Settled provider.modelOverrides model
  accounts : ∀ account ∈ c.accounts, Settled account.modelOverrides model

theorem find_reordered {α : Type} {R : α → α → Prop} {p : α → Bool} {l l' : List α}
    (h : List.Forall₂ R l l') (hp : ∀ a b, R a b → p a = p b) :
    Option.Rel (fun a b => a ∈ l ∧ R a b) (l.find? p) (l'.find? p) := by
  induction h with
  | nil => exact .none
  | @cons a b l l' hab _ ih =>
    rw [List.find?_cons, List.find?_cons, ← hp a b hab]
    cases p a with
    | true => exact .some ⟨List.mem_cons_self, hab⟩
    | false =>
      dsimp only
      generalize l.find? p = x at ih ⊢
      generalize l'.find? p = y at ih ⊢
      cases ih with
      | none => exact .none
      | some hBoth => exact .some ⟨List.mem_cons_of_mem a hBoth.1, hBoth.2⟩

variable {c c' : GatewayConfig}

theorem provider_reordered (h : Reordered c c') (id : String) :
    Option.Rel (fun p p' => p ∈ c.providers ∧ p.Reordered p') (c.provider id) (c'.provider id) := by
  apply find_reordered h.providers
  rintro p p' ⟨order, -, rfl⟩
  rfl

theorem account_reordered (h : Reordered c c') (id : String) :
    Option.Rel (fun a a' => a ∈ c.accounts ∧ a.Reordered a') (c.account id) (c'.account id) := by
  apply find_reordered h.accounts
  rintro a a' ⟨order, -, rfl⟩
  rfl

theorem accountOf_reordered (h : Reordered c c') (accountId : Option String) :
    Option.Rel (fun a a' => a ∈ c.accounts ∧ a.Reordered a')
      (accountId.bind c.account) (accountId.bind c'.account) := by
  cases accountId with
  | none => exact .none
  | some id => exact account_reordered h id

theorem protocolCapability_reordered (h : Reordered c c') {model : String}
    (hSettled : c.SettledFor model) (providerId : String) (accountId : Option String)
    (protocol : Protocol) :
    c.protocolCapability providerId accountId model protocol =
      c'.protocolCapability providerId accountId model protocol := by
  have hAccount := accountOf_reordered h accountId
  have hProvider := provider_reordered h providerId
  unfold protocolCapability
  generalize accountId.bind c.account = a at hAccount ⊢
  generalize accountId.bind c'.account = a' at hAccount ⊢
  generalize c.provider providerId = p at hProvider ⊢
  generalize c'.provider providerId = p' at hProvider ⊢
  cases hAccount with
  | none =>
    cases hProvider with
    | none => rfl
    | some hBoth =>
      obtain ⟨hMem, order, hOrder, rfl⟩ := hBoth
      have hFound := findModelOverride_reordered hOrder (hSettled.providers _ hMem)
      simp only [Option.bind_none, Option.bind_some, hFound]
  | some hAccount =>
    obtain ⟨hMem, order, hOrder, rfl⟩ := hAccount
    have hFound := findModelOverride_reordered hOrder (hSettled.accounts _ hMem)
    cases hProvider with
    | none => simp only [Option.bind_none, Option.bind_some, hFound]
    | some hBoth =>
      obtain ⟨hMem', order', hOrder', rfl⟩ := hBoth
      have hFound' := findModelOverride_reordered hOrder' (hSettled.providers _ hMem')
      simp only [Option.bind_some, hFound, hFound']

theorem capabilities_reordered (h : Reordered c c') {model : String}
    (hSettled : c.SettledFor model) (providerId : String) (accountId : Option String) :
    c.capabilities providerId accountId model = c'.capabilities providerId accountId model := by
  have hAccount := accountOf_reordered h accountId
  have hProvider := provider_reordered h providerId
  unfold capabilities
  generalize accountId.bind c.account = a at hAccount ⊢
  generalize accountId.bind c'.account = a' at hAccount ⊢
  generalize c.provider providerId = p at hProvider ⊢
  generalize c'.provider providerId = p' at hProvider ⊢
  cases hAccount with
  | none =>
    cases hProvider with
    | none => rfl
    | some hBoth =>
      obtain ⟨hMem, order, hOrder, rfl⟩ := hBoth
      have hFound := findModelOverride_reordered hOrder (hSettled.providers _ hMem)
      simp only [Option.bind_none, Option.bind_some, Option.map_some, hFound]
  | some hAccount =>
    obtain ⟨hMem, order, hOrder, rfl⟩ := hAccount
    have hFound := findModelOverride_reordered hOrder (hSettled.accounts _ hMem)
    cases hProvider with
    | none => simp only [Option.bind_none, Option.bind_some, Option.map_none, hFound]
    | some hBoth =>
      obtain ⟨hMem', order', hOrder', rfl⟩ := hBoth
      have hFound' := findModelOverride_reordered hOrder' (hSettled.providers _ hMem')
      simp only [Option.bind_some, Option.map_some, hFound, hFound']

/-! ## Validation -/

theorem validateProvider_reordered (index : Nat) {p p' : ProviderConfig} (h : p.Reordered p') :
    (validateProvider index p).Perm (validateProvider index p') := by
  obtain ⟨order, hOrder, rfl⟩ := h
  exact (List.Perm.refl _).append (hOrder.flatMap_right _)

theorem validateAccount_reordered (h : Reordered c c') (index : Nat) {a a' : AccountConfig}
    (hAccount : a.Reordered a') :
    (c.validateAccount index a).Perm (c'.validateAccount index a') := by
  obtain ⟨order, hOrder, rfl⟩ := hAccount
  have hProvider := provider_reordered h a.providerId
  unfold validateAccount
  dsimp only
  generalize c.provider a.providerId = p at hProvider ⊢
  generalize c'.provider a.providerId = p' at hProvider ⊢
  cases hProvider with
  | none => exact (List.Perm.refl _).append (hOrder.flatMap_right _)
  | some hBoth =>
    obtain ⟨-, _, -, rfl⟩ := hBoth
    exact (List.Perm.refl _).append (hOrder.flatMap_right _)

theorem validateRouteFallback_reordered (h : Reordered c c') {route : RouteConfig}
    (hSettled : c.SettledFor route.model) (scope : String) (provider : ProviderConfig)
    (order : Overrides) (index : Nat) (id : String) :
    c.validateRouteFallback scope route provider index id =
      c'.validateRouteFallback scope route { provider with modelOverrides := order } index id := by
  have hAccount := account_reordered h id
  unfold validateRouteFallback
  generalize c.account id = a at hAccount ⊢
  generalize c'.account id = a' at hAccount ⊢
  cases hAccount with
  | none => rfl
  | @some account _ hBoth =>
    obtain ⟨-, _, -, rfl⟩ := hBoth
    have hProvider := provider_reordered h account.providerId
    simp only [protocolCapability_reordered h hSettled]
    generalize c.provider account.providerId = p at hProvider ⊢
    generalize c'.provider account.providerId = p' at hProvider ⊢
    cases hProvider with
    | none => rfl
    | some hBoth =>
      obtain ⟨-, _, -, rfl⟩ := hBoth
      rfl

theorem validateRoute_reordered (h : Reordered c c') {route : RouteConfig}
    (hSettled : c.SettledFor route.model) (index : Nat) :
    c.validateRoute index route = c'.validateRoute index route := by
  have hProtocol (scope : String) (provider : ProviderConfig) (order : Overrides) (i : Nat)
      (protocol : Protocol) : c.validateRouteProtocol scope route provider i protocol =
        c'.validateRouteProtocol scope route { provider with modelOverrides := order } i
          protocol := by
    unfold validateRouteProtocol
    simp only [protocolCapability_reordered h hSettled]
  have hProvider := provider_reordered h route.providerId
  unfold validateRoute
  generalize c.provider route.providerId = p at hProvider ⊢
  generalize c'.provider route.providerId = p' at hProvider ⊢
  cases hProvider with
  | none => rfl
  | some hBoth =>
    obtain ⟨-, order, -, rfl⟩ := hBoth
    simp only [hProtocol _ _ order, validateRouteFallback_reordered h hSettled _ _ order]

theorem validationErrors_reordered (h : Reordered c c')
    (hSettled : ∀ route ∈ c.routes, c.SettledFor route.model) :
    c.validationErrors.Perm c'.validationErrors := by
  have hRoutes : c.routes.mapIdx c.validateRoute = c'.routes.mapIdx c'.validateRoute := by
    rw [h.routes]
    apply List.mapIdx_eq_mapIdx_iff.mpr
    intro i hi
    exact validateRoute_reordered h (hSettled _ (List.getElem_mem hi)) i
  rw [validationErrors, validationErrors, hRoutes]
  refine (List.Perm.append ?_ ?_).append (List.Perm.refl _)
  · exact flatten_mapIdx_perm h.providers _ _ fun i p p' => validateProvider_reordered i
  · exact flatten_mapIdx_perm h.accounts _ _ fun i a a' => validateAccount_reordered h i

end GatewayConfig

end AiGateway.Config
