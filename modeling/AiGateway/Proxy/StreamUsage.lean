import AiGateway.Proxy.Readings
import Mathlib.Data.List.Induction

/-!
# Usage of a stream

The counters merged from the events of a stream are, key by key, the last ones
reported.  A total is the exception: a later input or output without a total
takes it back.
-/

namespace AiGateway.Usage

set_option autoImplicit false

open AiGateway.Json

/-- The last value reported, newest usage last. -/
def last (read : Value → Option Int) (usages : List Value) : Option Int :=
  usages.reverse.findSome? read

def lastReported (usages : List Value) (key : String) : Option Int := last (reported · key) usages

def lastDetail (usages : List Value) (details key : String) : Option Int :=
  last (reportedDetail · details key) usages

def updates (usage : Value) : Bool :=
  ["input_tokens", "prompt_tokens", "output_tokens", "completion_tokens"].any fun key =>
    (reported usage key).isSome

/-- The total that stands, newest usage first. -/
def totalFrom : List Value → Option Int
  | [] => none
  | usage :: older =>
    (reported usage "total_tokens").or (if updates usage then none else totalFrom older)

def lastTotal (usages : List Value) : Option Int := totalFrom usages.reverse

def reports (usage : Value) : Bool :=
  countedKeys.any (fun key => (reported usage key).isSome) ||
    detailKeys.any fun details => (reportedDetail usage details.1 details.2).isSome

def streamReadings (usages : List Value) : Readings where
  input := ((lastReported usages "input_tokens").or (lastReported usages "prompt_tokens")).getD 0
  output :=
    ((lastReported usages "output_tokens").or (lastReported usages "completion_tokens")).getD 0
  reasoning :=
    ((lastDetail usages "output_tokens_details" "reasoning_tokens").or
      ((lastDetail usages "completion_tokens_details" "reasoning_tokens").or
        (lastReported usages "reasoning_tokens"))).getD 0
  details :=
    (lastDetail usages "input_tokens_details" "cached_tokens").or
      (lastDetail usages "prompt_tokens_details" "cached_tokens")
  cacheRead := (lastReported usages "cache_read_input_tokens").getD 0
  cached := (lastReported usages "cached_tokens").getD 0
  creation := (lastReported usages "cache_creation_input_tokens").getD 0
  total := lastTotal usages

theorem last_concat (read : Value → Option Int) (usages : List Value) (usage : Value) :
    last read (usages ++ [usage]) = (read usage).or (last read usages) := by
  rw [last, List.reverse_concat, List.findSome?_cons, last]
  cases read usage <;> rfl

theorem lastTotal_concat (usages : List Value) (usage : Value) :
    lastTotal (usages ++ [usage]) =
      (reported usage "total_tokens").or (if updates usage then none else lastTotal usages) := by
  rw [lastTotal, List.reverse_concat, totalFrom, lastTotal]

theorem last_mem {read : Value → Option Int} {usages : List Value} {n : Int}
    (h : last read usages = some n) : ∃ usage ∈ usages, read usage = some n := by
  obtain ⟨usage, hMem, hRead⟩ := List.exists_of_findSome?_eq_some h
  exact ⟨usage, List.mem_reverse.mp hMem, hRead⟩

theorem lastReported_range {usages : List Value} {key : String} {n : Int}
    (h : lastReported usages key = some n) : -2 ^ 63 ≤ n ∧ n < 2 ^ 63 := by
  obtain ⟨usage, -, hRead⟩ := last_mem h
  exact reported_range hRead

theorem lastDetail_range {usages : List Value} {details key : String} {n : Int}
    (h : lastDetail usages details key = some n) : -2 ^ 63 ≤ n ∧ n < 2 ^ 63 := by
  obtain ⟨usage, -, hRead⟩ := last_mem h
  exact reportedDetail_range hRead

theorem totalFrom_mem {usages : List Value} {n : Int} (h : totalFrom usages = some n) :
    ∃ usage ∈ usages, reported usage "total_tokens" = some n := by
  induction usages with
  | nil => cases h
  | cons usage older ih =>
    rw [totalFrom, Option.or_eq_some_iff] at h
    rcases h with hHere | ⟨-, hOlder⟩
    · exact ⟨usage, List.mem_cons_self, hHere⟩
    · split at hOlder
      · cases hOlder
      · obtain ⟨found, hMem, hRead⟩ := ih hOlder
        exact ⟨found, List.mem_cons_of_mem usage hMem, hRead⟩

theorem lastTotal_range {usages : List Value} {n : Int} (h : lastTotal usages = some n) :
    -2 ^ 63 ≤ n ∧ n < 2 ^ 63 := by
  obtain ⟨usage, -, hRead⟩ := totalFrom_mem h
  exact reported_range hRead

theorem get_mergeCounter (usage : Value) (current : Fields) (key k : String) :
    Fields.get (mergeCounter usage current key) k =
      if key = k then ((reported usage key).map Value.ofInt).or (Fields.get current k)
      else Fields.get current k := by
  unfold mergeCounter
  rw [reported_eq]
  cases reported usage key with
  | none => simp
  | some n => rw [Fields.get_insert, Option.map_some, Option.some_or]

theorem get_mergeCounters (usage : Value) (keys : List String) (current : Fields) (k : String) :
    Fields.get (keys.foldl (mergeCounter usage) current) k =
      if k ∈ keys then ((reported usage k).map Value.ofInt).or (Fields.get current k)
      else Fields.get current k := by
  induction keys generalizing current with
  | nil => rfl
  | cons key rest ih =>
    rw [List.foldl_cons, ih, get_mergeCounter]
    by_cases hHere : key = k
    · rw [if_pos hHere, if_pos (List.mem_cons.mpr (.inl hHere.symm)), hHere]
      split
      · cases reported usage k <;> rfl
      · rfl
    · rw [if_neg hHere]
      have hMem : k ∈ key :: rest ↔ k ∈ rest := by simp [Ne.symm hHere]
      simp only [hMem]

/-- The details object a merge leaves behind. -/
def detailObject (key : String) (n : Int) : Value := .object [(key, Value.ofInt n)]

theorem get_mergeDetail (usage : Value) (current : Fields) (details : String × String)
    (k : String) :
    Fields.get (mergeDetail usage current details) k =
      if details.1 = k then
        ((reportedDetail usage details.1 details.2).map (detailObject details.2)).or
          (Fields.get current k)
      else Fields.get current k := by
  unfold mergeDetail
  rw [reportedDetail_eq]
  cases reportedDetail usage details.1 details.2 with
  | none => simp
  | some n => rw [Fields.get_insert, Option.map_some, Option.some_or, detailObject]

theorem get_mergeDetails_of_notMem (usage : Value) {entries : List (String × String)}
    {k : String} (h : k ∉ entries.map Prod.fst) (current : Fields) :
    Fields.get (entries.foldl (mergeDetail usage) current) k = Fields.get current k := by
  induction entries generalizing current with
  | nil => rfl
  | cons details rest ih =>
    rw [List.map_cons, List.mem_cons, not_or] at h
    rw [List.foldl_cons, ih h.2, get_mergeDetail, if_neg (Ne.symm h.1)]

theorem get_mergeDetails (usage : Value) {entries : List (String × String)}
    (hNodup : (entries.map Prod.fst).Nodup) {details : String × String} (h : details ∈ entries)
    (current : Fields) :
    Fields.get (entries.foldl (mergeDetail usage) current) details.1 =
      ((reportedDetail usage details.1 details.2).map (detailObject details.2)).or
        (Fields.get current details.1) := by
  induction entries generalizing current with
  | nil => cases h
  | cons head rest ih =>
    rw [List.map_cons, List.nodup_cons] at hNodup
    rw [List.foldl_cons]
    rcases List.mem_cons.mp h with rfl | hRest
    · rw [get_mergeDetails_of_notMem usage hNodup.1, get_mergeDetail, if_pos rfl]
    · have hOther : head.1 ≠ details.1 := fun hSame =>
        hNodup.1 (hSame ▸ List.mem_map_of_mem hRest)
      rw [ih hNodup.2 hRest, get_mergeDetail, if_neg hOther]

def withoutStaleTotal (current : Fields) (usage : Value) : Fields :=
  if (reported usage "total_tokens").isNone && updates usage then
    Fields.remove current "total_tokens"
  else current

theorem mergeSseUsage_eq (current : Fields) (usage : Value) :
    mergeSseUsage current usage =
      detailKeys.foldl (mergeDetail usage)
        (countedKeys.foldl (mergeCounter usage) (withoutStaleTotal current usage)) := by
  have hInteger : ∀ key, hasI64 usage key = (reported usage key).isSome := fun key => by
    rw [hasI64, reported_eq]
  unfold mergeSseUsage withoutStaleTotal updates
  simp only [funext hInteger, Option.not_isSome]

theorem countedKey_notMem : ∀ key ∈ countedKeys, key ∉ detailKeys.map Prod.fst := by decide

theorem detailKey_notMem :
    ∀ details ∈ detailKeys, details.1 ∉ countedKeys ∧ details.1 ≠ "total_tokens" := by
  decide

theorem detailKeys_nodup : (detailKeys.map Prod.fst).Nodup := by decide

theorem get_withoutStaleTotal (current : Fields) (usage : Value) {key : String}
    (h : key ≠ "total_tokens") :
    Fields.get (withoutStaleTotal current usage) key = Fields.get current key := by
  unfold withoutStaleTotal
  split
  · rw [Fields.get_remove, if_neg (Ne.symm h)]
  · rfl

theorem get_merge_counter (current : Fields) (usage : Value) {key : String}
    (hKey : key ∈ countedKeys) (hOther : key ≠ "total_tokens") :
    Fields.get (mergeSseUsage current usage) key =
      ((reported usage key).map Value.ofInt).or (Fields.get current key) := by
  rw [mergeSseUsage_eq, get_mergeDetails_of_notMem usage (countedKey_notMem key hKey),
    get_mergeCounters, if_pos hKey, get_withoutStaleTotal current usage hOther]

theorem get_merge_total (current : Fields) (usage : Value) :
    Fields.get (mergeSseUsage current usage) "total_tokens" =
      ((reported usage "total_tokens").map Value.ofInt).or
        (if updates usage then none else Fields.get current "total_tokens") := by
  have hKey : "total_tokens" ∈ countedKeys := by decide
  rw [mergeSseUsage_eq, get_mergeDetails_of_notMem usage (countedKey_notMem _ hKey),
    get_mergeCounters, if_pos hKey, withoutStaleTotal]
  cases reported usage "total_tokens" with
  | some n => rfl
  | none =>
    cases updates usage with
    | true => simp [Fields.get_remove]
    | false => rfl

theorem get_merge_detail (current : Fields) (usage : Value) {details : String × String}
    (h : details ∈ detailKeys) :
    Fields.get (mergeSseUsage current usage) details.1 =
      ((reportedDetail usage details.1 details.2).map (detailObject details.2)).or
        (Fields.get current details.1) := by
  obtain ⟨hNotMem, hOther⟩ := detailKey_notMem details h
  rw [mergeSseUsage_eq, get_mergeDetails usage detailKeys_nodup h, get_mergeCounters,
    if_neg hNotMem, get_withoutStaleTotal current usage hOther]

theorem foldl_eq_self {α β : Type} {step : β → α → β} {start : β} {items : List α}
    (h : ∀ item ∈ items, step start item = start) : items.foldl step start = start := by
  induction items with
  | nil => rfl
  | cons item rest ih =>
    rw [List.foldl_cons, h item List.mem_cons_self]
    exact ih fun other hOther => h other (List.mem_cons_of_mem item hOther)

theorem reports_eq_false {usage : Value} (h : reports usage = false) :
    (∀ key ∈ countedKeys, reported usage key = none) ∧
      ∀ details ∈ detailKeys, reportedDetail usage details.1 details.2 = none := by
  simpa [reports] using h

theorem updates_of_not_reports {usage : Value} (h : reports usage = false) :
    updates usage = false := by
  have hMem : ∀ key ∈ ["input_tokens", "prompt_tokens", "output_tokens", "completion_tokens"],
      key ∈ countedKeys := by decide
  simp only [updates, List.any_eq_false, Bool.not_eq_true, Option.isSome_eq_false_iff,
    Option.isNone_iff_eq_none]
  exact fun key hKey => (reports_eq_false h).1 key (hMem key hKey)

theorem merge_of_not_reports (current : Fields) {usage : Value} (h : reports usage = false) :
    mergeSseUsage current usage = current := by
  obtain ⟨hCounters, hDetails⟩ := reports_eq_false h
  have hStart : withoutStaleTotal current usage = current := by
    rw [withoutStaleTotal, updates_of_not_reports h, Bool.and_false]
    rfl
  rw [mergeSseUsage_eq, hStart]
  have hKept : countedKeys.foldl (mergeCounter usage) current = current := by
    apply foldl_eq_self
    intro key hKey
    rw [mergeCounter, reported_eq, hCounters key hKey]
  rw [hKept]
  apply foldl_eq_self
  intro details hMem
  rw [mergeDetail, reportedDetail_eq, hDetails details hMem]

theorem merge_of_reports (current : Fields) {usage : Value} (h : reports usage = true) :
    mergeSseUsage current usage ≠ [] := by
  intro hEmpty
  have hNone : ∀ key, Fields.get (mergeSseUsage current usage) key = none := fun key => by
    rw [hEmpty]
    rfl
  rw [reports, Bool.or_eq_true, List.any_eq_true, List.any_eq_true] at h
  rcases h with ⟨key, hKey, hSome⟩ | ⟨details, hDetails, hSome⟩
  · obtain ⟨n, hRead⟩ := Option.isSome_iff_exists.mp hSome
    have hGet := hNone key
    by_cases hTotal : key = "total_tokens"
    · rw [hTotal] at hGet hRead
      rw [get_merge_total, hRead] at hGet
      cases hGet
    · rw [get_merge_counter current usage hKey hTotal, hRead] at hGet
      cases hGet
  · obtain ⟨n, hRead⟩ := Option.isSome_iff_exists.mp hSome
    have hGet := hNone details.1
    rw [get_merge_detail current usage hDetails, hRead] at hGet
    cases hGet

/-- What merging the usages one after the other leaves behind. -/
structure Merged (usages : List Value) (counters : Fields) : Prop where
  counter : ∀ key ∈ countedKeys, key ≠ "total_tokens" →
    Fields.get counters key = (lastReported usages key).map Value.ofInt
  total : Fields.get counters "total_tokens" = (lastTotal usages).map Value.ofInt
  detail : ∀ details ∈ detailKeys, Fields.get counters details.1 =
    (lastDetail usages details.1 details.2).map (detailObject details.2)
  empty : counters = [] ↔ usages.any reports = false

theorem map_or {α β : Type} (f : α → β) (x y : Option α) :
    (x.map f).or (y.map f) = (x.or y).map f := by
  cases x <;> rfl

theorem Merged.nil : Merged [] [] := by
  refine ⟨fun _ _ _ => rfl, rfl, fun _ _ => rfl, ?_⟩
  simp

theorem Merged.concat {usages : List Value} {counters : Fields} (h : Merged usages counters)
    (usage : Value) : Merged (usages ++ [usage]) (mergeSseUsage counters usage) := by
  constructor
  · intro key hKey hOther
    rw [get_merge_counter counters usage hKey hOther, h.counter key hKey hOther, map_or,
      lastReported, lastReported, last_concat]
  · rw [get_merge_total, h.total, lastTotal_concat]
    cases updates usage with
    | true => exact map_or Value.ofInt _ none
    | false => exact map_or Value.ofInt _ _
  · intro details hDetails
    rw [get_merge_detail counters usage hDetails, h.detail details hDetails, map_or, lastDetail,
      lastDetail, last_concat]
  · rw [List.any_append, List.any_cons, List.any_nil, Bool.or_false, Bool.or_eq_false_iff]
    cases hReports : reports usage with
    | true => simp [merge_of_reports counters hReports]
    | false => rw [merge_of_not_reports counters hReports, h.empty, and_iff_left rfl]

def mergeAll (usages : List Value) : Fields := usages.foldl mergeSseUsage []

theorem merged_mergeAll (usages : List Value) : Merged usages (mergeAll usages) := by
  induction usages using List.reverseRecOn with
  | nil => exact .nil
  | append_singleton usages usage ih =>
    rw [mergeAll, List.foldl_append, List.foldl_cons, List.foldl_nil]
    exact ih.concat usage

theorem entry_merged {usages : List Value} {counters : Fields} (h : Merged usages counters)
    (key : String) (hKey : key ∈ countedKeys) (hOther : key ≠ "total_tokens") :
    entry (.object counters) key = (lastReported usages key).map some := by
  rw [entry, Value.get, h.counter key hKey hOther, Option.map_map]
  cases hLast : lastReported usages key with
  | none => rfl
  | some n =>
    obtain ⟨hLow, hHigh⟩ := lastReported_range hLast
    exact congrArg some (Value.asI64_ofInt hLow hHigh)

theorem reported_merged {usages : List Value} {counters : Fields} (h : Merged usages counters)
    (key : String) (hKey : key ∈ countedKeys) (hOther : key ≠ "total_tokens") :
    reported (.object counters) key = lastReported usages key := by
  rw [reported, entry_merged h key hKey hOther]
  cases lastReported usages key <;> rfl

theorem total_merged {usages : List Value} {counters : Fields} (h : Merged usages counters) :
    reported (.object counters) "total_tokens" = lastTotal usages := by
  rw [reported, entry, Value.get, h.total, Option.map_map]
  cases hLast : lastTotal usages with
  | none => rfl
  | some n =>
    obtain ⟨hLow, hHigh⟩ := lastTotal_range hLast
    exact Value.asI64_ofInt hLow hHigh

theorem detailEntry_merged {usages : List Value} {counters : Fields} (h : Merged usages counters)
    {details : String × String} (hDetails : details ∈ detailKeys) :
    detailEntry (.object counters) details.1 details.2 =
      (lastDetail usages details.1 details.2).map some := by
  rw [detailEntry, Value.get, h.detail details hDetails, Option.map_map]
  cases hLast : lastDetail usages details.1 details.2 with
  | none => rfl
  | some n =>
    obtain ⟨hLow, hHigh⟩ := lastDetail_range hLast
    have hGet : (detailObject details.2 n).get details.2 = some (.ofInt n) := by
      rw [detailObject, Value.get, Fields.get_cons, if_pos rfl]
    simp only [Option.map_some, Function.comp_apply, hGet, Option.bind_some,
      Value.asI64_ofInt hLow hHigh]

theorem firstPresent_pair (x y : Option Int) :
    firstPresent [x.map some, y.map some] = x.or y := by
  cases x <;> cases y <;> rfl

theorem firstPresent_triple (x y z : Option Int) :
    firstPresent [x.map some, y.map some, z.map some] = x.or (y.or z) := by
  cases x with
  | none => exact firstPresent_pair y z
  | some n => rfl

theorem readings_merged {usages : List Value} {counters : Fields} (h : Merged usages counters) :
    readingsBy firstPresent (.object counters) = streamReadings usages := by
  have hDetail : ∀ details key, (details, key) ∈ detailKeys →
      detailEntry (.object counters) details key = (lastDetail usages details key).map some :=
    fun details key hDetails => detailEntry_merged h hDetails
  rw [readingsBy, inputEntries, outputEntries, reasoningEntries, cachedEntries,
    entry_merged h "input_tokens" (by decide) (by decide),
    entry_merged h "prompt_tokens" (by decide) (by decide),
    entry_merged h "output_tokens" (by decide) (by decide),
    entry_merged h "completion_tokens" (by decide) (by decide),
    entry_merged h "reasoning_tokens" (by decide) (by decide),
    hDetail "output_tokens_details" "reasoning_tokens" (by decide),
    hDetail "completion_tokens_details" "reasoning_tokens" (by decide),
    hDetail "input_tokens_details" "cached_tokens" (by decide),
    hDetail "prompt_tokens_details" "cached_tokens" (by decide),
    reported_merged h "cache_read_input_tokens" (by decide) (by decide),
    reported_merged h "cached_tokens" (by decide) (by decide),
    reported_merged h "cache_creation_input_tokens" (by decide) (by decide),
    total_merged h, firstPresent_pair, firstPresent_pair, firstPresent_pair, firstPresent_triple,
    streamReadings]

def InI64 (n : Int) : Prop := -2 ^ 63 ≤ n ∧ n < 2 ^ 63

theorem addI64_eq_iff (a b : Int) : addI64 a b = a + b ↔ InI64 (a + b) := by
  rw [addI64, InI64]
  constructor
  · intro hExact
    rw [← hExact]
    exact ⟨Int.le_bmod (by decide), Int.bmod_lt (by decide)⟩
  · rintro ⟨hLow, hHigh⟩
    exact Int.bmod_eq_of_le hLow hHigh

/-- The usage an event brings, if it is looked at and has one. -/
def observedUsage (event : String × Option Value) : Option Value :=
  if event.1 = "" ∨ event.1 = "[DONE]" then none else event.2.bind usageValue

def observeAll (events : List (String × Option Value)) : SseUsageAccumulator :=
  events.foldl (fun acc event => acc.observe event.1 event.2) {}

theorem observe_counters (acc : SseUsageAccumulator) (event : String × Option Value) :
    (acc.observe event.1 event.2).counters =
      match observedUsage event with
      | some usage => mergeSseUsage acc.counters usage
      | none => acc.counters := by
  obtain ⟨data, parsed⟩ := event
  unfold SseUsageAccumulator.observe observedUsage
  by_cases hSkip : data = "" ∨ data = "[DONE]"
  · simp only [hSkip, if_true]
  · simp only [hSkip, if_false]
    cases parsed with
    | none => rfl
    | some value =>
      dsimp only [Option.bind_some]
      cases usageValue value <;> rfl

theorem observeAll_counters (events : List (String × Option Value)) :
    (observeAll events).counters = mergeAll (events.filterMap observedUsage) := by
  induction events using List.reverseRecOn with
  | nil => rfl
  | append_singleton events event ih =>
    rw [observeAll, List.foldl_append, List.foldl_cons, List.foldl_nil, observe_counters,
      ← observeAll, ih, List.filterMap_append, mergeAll, mergeAll, List.foldl_append]
    cases hUsage : observedUsage event <;> simp [hUsage]

/-- A stream's report, by the last integers it reported. -/
theorem report_observeAll (events : List (String × Option Value)) :
    (observeAll events).report =
      if (events.filterMap observedUsage).any reports then
        some ((streamReadings (events.filterMap observedUsage)).report "parsed")
      else none := by
  have hMerged := merged_mergeAll (events.filterMap observedUsage)
  rw [SseUsageAccumulator.report, observeAll_counters, reportFromUsage_eq, readings_merged hMerged]
  by_cases hAny : (events.filterMap observedUsage).any reports = true
  · have hSome : (mergeAll (events.filterMap observedUsage)).isEmpty = false := by
      rw [List.isEmpty_eq_false_iff]
      intro hEmpty
      rw [hMerged.empty.mp hEmpty] at hAny
      cases hAny
    rw [hSome, hAny]
    rfl
  · rw [Bool.not_eq_true] at hAny
    rw [hMerged.empty.mpr hAny, hAny]
    rfl

theorem last_of_silent {read : Value → Option Int} {usages : List Value}
    (h : ∀ usage ∈ usages, read usage = none) : last read usages = none := by
  rw [last, List.findSome?_eq_none_iff]
  exact fun usage hUsage => h usage (List.mem_reverse.mp hUsage)

theorem streamReadings_of_silent {usages : List Value} (h : usages.any reports = false) :
    streamReadings usages = ⟨0, 0, 0, none, 0, 0, 0, none⟩ := by
  have hSilent : ∀ usage ∈ usages, reports usage = false := by
    simpa only [List.any_eq_false, Bool.not_eq_true] using h
  have hReported : ∀ key ∈ countedKeys, lastReported usages key = none := fun key hKey =>
    last_of_silent fun usage hUsage => (reports_eq_false (hSilent usage hUsage)).1 key hKey
  have hDetail : ∀ details key, (details, key) ∈ detailKeys →
      lastDetail usages details key = none := fun details key hMem =>
    last_of_silent fun usage hUsage =>
      (reports_eq_false (hSilent usage hUsage)).2 (details, key) hMem
  have hTotal : lastTotal usages = none := by
    cases hLast : lastTotal usages with
    | none => rfl
    | some n =>
      obtain ⟨usage, hUsage, hRead⟩ := totalFrom_mem hLast
      rw [(reports_eq_false (hSilent usage (List.mem_reverse.mp hUsage))).1 _ (by decide)] at hRead
      cases hRead
  rw [streamReadings, hReported "input_tokens" (by decide), hReported "prompt_tokens" (by decide),
    hReported "output_tokens" (by decide), hReported "completion_tokens" (by decide),
    hReported "reasoning_tokens" (by decide), hReported "cache_read_input_tokens" (by decide),
    hReported "cached_tokens" (by decide), hReported "cache_creation_input_tokens" (by decide),
    hDetail "output_tokens_details" "reasoning_tokens" (by decide),
    hDetail "completion_tokens_details" "reasoning_tokens" (by decide),
    hDetail "input_tokens_details" "cached_tokens" (by decide),
    hDetail "prompt_tokens_details" "cached_tokens" (by decide), hTotal]
  rfl

/-- Each counter of a stream's report is the last one reported, exactly when the
sums it needs are 64-bit integers. -/
theorem stream_report_is_last_reported_iff (events : List (String × Option Value)) :
    let usages := events.filterMap observedUsage
    let input := (lastReported usages "input_tokens").or (lastReported usages "prompt_tokens")
    let output :=
      (lastReported usages "output_tokens").or (lastReported usages "completion_tokens")
    let details :=
      (lastDetail usages "input_tokens_details" "cached_tokens").or
        (lastDetail usages "prompt_tokens_details" "cached_tokens")
    let cacheRead := (lastReported usages "cache_read_input_tokens").getD 0
    let cached := (lastReported usages "cached_tokens").getD 0
    let creation := (lastReported usages "cache_creation_input_tokens").getD 0
    let reasoning :=
      (lastDetail usages "output_tokens_details" "reasoning_tokens").or
        ((lastDetail usages "completion_tokens_details" "reasoning_tokens").or
          (lastReported usages "reasoning_tokens"))
    ((observeAll events).report.isSome = usages.any reports ∧
      ∀ report, (observeAll events).report = some report →
        report.inputTokens = input.getD 0 ∧ report.outputTokens = output.getD 0 ∧
        report.totalTokens = (lastTotal usages).getD (input.getD 0 + output.getD 0) ∧
        report.cacheReadTokens = details.getD (cacheRead + cached) ∧
        report.cacheCreationTokens = (if details.isSome then 0 else creation) ∧
        report.reasoningTokens = reasoning.getD 0) ↔
    (lastTotal usages = none → InI64 (input.getD 0 + output.getD 0)) ∧
      (details = none → InI64 (cacheRead + cached)) := by
  intro usages input output details cacheRead cached creation reasoning
  have hReport := report_observeAll events
  have hSome : (observeAll events).report.isSome = usages.any reports := by
    rw [hReport]
    split
    · next hAny => exact hAny.symm
    · next hAny =>
      rw [Bool.not_eq_true] at hAny
      exact hAny.symm
  have hTotal : (lastTotal usages).getD (addI64 (input.getD 0) (output.getD 0)) =
      (lastTotal usages).getD (input.getD 0 + output.getD 0) ↔
        (lastTotal usages = none → InI64 (input.getD 0 + output.getD 0)) := by
    rw [← addI64_eq_iff]
    cases lastTotal usages <;> simp
  have hRead : details.getD (addI64 cacheRead cached) = details.getD (cacheRead + cached) ↔
      (details = none → InI64 (cacheRead + cached)) := by
    rw [← addI64_eq_iff]
    cases details <;> simp
  rw [← hTotal, ← hRead]
  constructor
  · rintro ⟨-, hExact⟩
    by_cases hAny : usages.any reports = true
    · rw [if_pos hAny] at hReport
      obtain ⟨-, -, hTotalTokens, hReadTokens, -, -⟩ := hExact _ hReport
      exact ⟨hTotalTokens, hReadTokens⟩
    · rw [Bool.not_eq_true] at hAny
      have hSilent := streamReadings_of_silent hAny
      have hZero : addI64 0 0 = 0 + 0 := by decide
      have hInput : input.getD 0 = 0 := congrArg Readings.input hSilent
      have hOutput : output.getD 0 = 0 := congrArg Readings.output hSilent
      have hCacheRead : cacheRead = 0 := congrArg Readings.cacheRead hSilent
      have hCached : cached = 0 := congrArg Readings.cached hSilent
      rw [hInput, hOutput, hCacheRead, hCached, hZero]
      exact ⟨rfl, rfl⟩
  · rintro ⟨hTotalTokens, hReadTokens⟩
    refine ⟨hSome, ?_⟩
    intro report hEq
    rw [hReport] at hEq
    split at hEq
    · obtain rfl := Option.some.inj hEq
      exact ⟨rfl, rfl, hTotalTokens, hReadTokens, rfl, rfl⟩
    · cases hEq

def overflowingUsage : Value :=
  .object [("input_tokens", .ofInt (2 ^ 63 - 1)), ("output_tokens", .ofInt 1)]

/-- No total is reported, and the one the report derives is negative. -/
theorem derived_total_overflows :
    lastTotal [overflowingUsage] = none ∧
      ((observeAll [("usage", some (.object [("usage", overflowingUsage)]))]).report.map
        fun report => (report.inputTokens, report.outputTokens, report.totalTokens)) =
          some (2 ^ 63 - 1, 1, -2 ^ 63) := by
  decide

end AiGateway.Usage
