import AiGateway.ControlPlane.ModelDiscovery

/-!
# What comes of a discovery

An answer is accepted by its bytes alone, and its models are found whatever their order.
A discovery that is recorded as succeeded has made the listed models the available ones; any
other one has left the tables alone.
-/

namespace AiGateway.ControlPlane.ModelDiscovery

set_option autoImplicit false

open AiGateway.Bounded AiGateway.Catalog AiGateway.Checked AiGateway.Health AiGateway.Json
  AiGateway.Text

/-! ## The models of a list -/

section Parsing

variable {parser : DiscoveryParser}

/-- The model that an item describes, if it describes one. -/
def DiscoveryParser.readModel (parser : DiscoveryParser) (item : Value) : Option DiscoveredModel :=
  if isObject item = true then
    (parser.modelId item).bind fun id =>
      (fromFields (parser.fields item)).toOption.map fun metadata => ⟨id, item, metadata⟩
  else none

theorem toOption_eq_some {ε α : Type} {x : Except ε α} {a : α} :
    x.toOption = some a ↔ x = .ok a := by
  cases x <;> simp [Except.toOption]

theorem readModel_eq_some {item : Value} {model : DiscoveredModel} :
    parser.readModel item = some model ↔ isObject item = true ∧
      parser.modelId item = some model.id ∧ model.snapshot = item ∧
        fromFields (parser.fields item) = .ok model.metadata := by
  obtain ⟨id, snapshot, metadata⟩ := model
  rw [DiscoveryParser.readModel]
  split
  · next hObject =>
    simp only [Option.bind_eq_some_iff, Option.map_eq_some_iff, toOption_eq_some,
      DiscoveredModel.mk.injEq, hObject, true_and]
    constructor
    · rintro ⟨_, hId, _, hMetadata, rfl, rfl, rfl⟩
      exact ⟨hId, rfl, hMetadata⟩
    · rintro ⟨hId, rfl, hMetadata⟩
      exact ⟨_, hId, _, hMetadata, rfl, rfl, rfl⟩
  · next hOther => simp [hOther]

theorem parseModel_eq_ok {parsed next : List DiscoveredModel} {item : Value} :
    parser.parseModel parsed item = .ok next ↔ ∃ model, parser.readModel item = some model ∧
      model.id ∉ parsed.map DiscoveredModel.id ∧ next = parsed ++ [model] := by
  simp only [DiscoveryParser.parseModel, bind_eq_ok, ensure_eq_ok, require_eq_ok, mapError_ok,
    pure_eq_ok, readModel_eq_some]
  constructor
  · rintro ⟨_, hObject, id, hId, _, hNew, metadata, hMetadata, rfl⟩
    exact ⟨⟨id, item, metadata⟩, ⟨hObject, hId, rfl, hMetadata⟩, hNew, rfl⟩
  · rintro ⟨⟨id, _, metadata⟩, ⟨hObject, hId, rfl, hMetadata⟩, hNew, rfl⟩
    exact ⟨(), hObject, id, hId, (), hNew, metadata, hMetadata, rfl⟩

/-- The models of the items that describe one. -/
def DiscoveryParser.found (parser : DiscoveryParser) (items : List Value) : List DiscoveredModel :=
  items.filterMap parser.readModel

theorem foldlM_parseModel_eq_ok {items : List Value} {parsed result : List DiscoveredModel}
    (hParsed : (parsed.map DiscoveredModel.id).Nodup) :
    items.foldlM parser.parseModel parsed = .ok result ↔
      (∀ item ∈ items, (parser.readModel item).isSome = true) ∧
        ((parsed ++ parser.found items).map DiscoveredModel.id).Nodup ∧
        result = parsed ++ parser.found items := by
  induction items generalizing parsed with
  | nil =>
    rw [List.foldlM_nil, pure_eq_ok, DiscoveryParser.found, List.filterMap_nil, List.append_nil]
    constructor
    · rintro rfl
      refine ⟨?_, hParsed, rfl⟩
      rintro item hItem
      cases hItem
    · rintro ⟨-, -, rfl⟩
      rfl
  | cons item rest ih =>
    simp only [List.foldlM_cons, bind_eq_ok, parseModel_eq_ok, List.forall_mem_cons]
    constructor
    · rintro ⟨_, ⟨model, hModel, hNew, rfl⟩, hRest⟩
      have hNext : ((parsed ++ [model]).map DiscoveredModel.id).Nodup :=
        Rows.nodup_append_singleton hParsed hNew
      obtain ⟨hAll, hNodup, rfl⟩ := (ih hNext).mp hRest
      have hFound : parser.found (item :: rest) = model :: parser.found rest :=
        List.filterMap_cons_some hModel
      rw [List.append_assoc, List.singleton_append] at hNodup ⊢
      rw [hFound, hModel]
      exact ⟨⟨rfl, hAll⟩, hNodup, rfl⟩
    · rintro ⟨⟨hSome, hAll⟩, hNodup, hResult⟩
      obtain ⟨model, hModel⟩ := Option.isSome_iff_exists.mp hSome
      have hFound : parser.found (item :: rest) = [model] ++ parser.found rest :=
        List.filterMap_cons_some hModel
      rw [hFound, ← List.append_assoc] at hNodup hResult
      have hNext : ((parsed ++ [model]).map DiscoveredModel.id).Nodup := by
        rw [List.map_append] at hNodup
        exact (List.nodup_append.mp hNodup).1
      refine ⟨_, ⟨model, hModel, ?_, rfl⟩, (ih hNext).mpr ⟨hAll, hNodup, hResult⟩⟩
      rw [List.map_append, List.nodup_append] at hNext
      intro hOld
      exact hNext.2.2 model.id hOld model.id List.mem_cons_self rfl

/-- The items at the path of the list. -/
def DiscoveryParser.items (parser : DiscoveryParser) (raw : Value) : Option (List Value) :=
  (valueAtPath raw parser.listPath).bind Value.asArray

def sortModels (models : List DiscoveredModel) : List DiscoveredModel :=
  models.insertionSort fun a b => a.id ≤ b.id

theorem sortModels_perm (models : List DiscoveredModel) : (sortModels models).Perm models :=
  List.perm_insertionSort _ models

theorem parseDiscoveredModels_eq_ok {raw : Value} {models : List DiscoveredModel} :
    parser.parseDiscoveredModels raw = .ok models ↔ ∃ items, parser.items raw = some items ∧
      (∀ item ∈ items, (parser.readModel item).isSome = true) ∧
        ((parser.found items).map DiscoveredModel.id).Nodup ∧
        models = sortModels (parser.found items) := by
  have hNone : (([] : List DiscoveredModel).map DiscoveredModel.id).Nodup := List.nodup_nil
  simp only [DiscoveryParser.parseDiscoveredModels, bind_eq_ok, require_eq_ok, pure_eq_ok,
    foldlM_parseModel_eq_ok hNone, List.nil_append]
  constructor
  · rintro ⟨items, hItems, _, ⟨hAll, hNodup, rfl⟩, rfl⟩
    exact ⟨items, hItems, hAll, hNodup, rfl⟩
  · rintro ⟨items, hItems, hAll, hNodup, rfl⟩
    exact ⟨items, hItems, _, ⟨hAll, hNodup, rfl⟩, rfl⟩

theorem sortModels_of_perm {models models' : List DiscoveredModel}
    (hNodup : (models.map DiscoveredModel.id).Nodup) (hPerm : models'.Perm models) :
    sortModels models' = sortModels models := by
  have hOrder : Order.Preorder fun a b : DiscoveredModel => decide (a.id ≤ b.id) :=
    ⟨fun a b => by simpa using le_total a.id b.id,
      fun a b c => by simpa using fun h h' => le_trans h h'⟩
  have hSorted := Order.insertionSort_eq_of_perm hOrder
    (fun a hA b hB hLe hGe => by
      have hSame := le_antisymm (of_decide_eq_true hLe) (of_decide_eq_true hGe)
      exact List.inj_on_of_nodup_map hNodup hA hB hSame) hPerm
  simpa only [sortModels, decide_eq_true_eq] using hSorted

/-- A failure that the table of runs has room for. -/
structure SafeFailure.Recordable (failure : SafeFailure) : Prop where
  code : trim failure.code ≠ ""
  message : trim failure.message ≠ ""
  httpStatus : failure.httpStatus.all (fun status => 100 ≤ status && status ≤ 599) = true

/-- A document that is not the list the parser expects. -/
theorem parseDiscoveredModels_recordable {raw : Value} {failure : SafeFailure}
    (h : parser.parseDiscoveredModels raw = .error failure) : failure.Recordable := by
  have hShape : SafeFailure.invalidShape.Recordable := ⟨by decide, by decide, rfl⟩
  have hTwice : SafeFailure.duplicateModel.Recordable := ⟨by decide, by decide, rfl⟩
  have hMetadata : SafeFailure.invalidMetadata.Recordable := ⟨by decide, by decide, rfl⟩
  have hModel : ∀ parsed item, Fails (parser.parseModel parsed item) SafeFailure.Recordable := by
    intro parsed item
    refine fails_bind (fails_ensure hShape) fun _ => ?_
    refine fails_bind (fails_require hShape) fun _ => ?_
    refine fails_bind (fails_ensure hTwice) fun _ => ?_
    exact fails_bind (fails_mapError fun _ => hMetadata) fun _ => fails_pure
  have hModels : Fails (parser.parseDiscoveredModels raw) SafeFailure.Recordable := by
    refine fails_bind (fails_require hShape) fun items => ?_
    exact fails_bind (fails_foldlM hModel items []) fun _ => fails_pure
  exact hModels failure h

/-- The models of a list do not depend on the order of its items. -/
theorem parseDiscoveredModels_perm {raw raw' : Value} {items items' : List Value}
    (hItems : parser.items raw = some items) (hItems' : parser.items raw' = some items')
    (hPerm : items.Perm items') {models : List DiscoveredModel}
    (h : parser.parseDiscoveredModels raw = .ok models) :
    parser.parseDiscoveredModels raw' = .ok models := by
  obtain ⟨_, hSome, hAll, hNodup, rfl⟩ := parseDiscoveredModels_eq_ok.mp h
  obtain rfl := Option.some.inj (hItems.symm.trans hSome)
  have hFound : (parser.found items').Perm (parser.found items) := hPerm.symm.filterMap _
  refine parseDiscoveredModels_eq_ok.mpr ⟨items', hItems', fun item hItem => ?_, ?_, ?_⟩
  · exact hAll item (hPerm.mem_iff.mpr hItem)
  · exact (hFound.map _).nodup_iff.mpr hNodup
  · exact (sortModels_of_perm hNodup hFound).symm

end Parsing

/-! ## Answers -/

section Answers

variable {parse : Bytes → Option Value} {parser : DiscoveryParser}

theorem readJsonLimited_eq_ok {response : Response} {raw : Value} :
    readJsonLimited parse response = .ok raw ↔
      response.contentLength.all (· ≤ maxDiscoveryResponseBytes) = true ∧
        response.body.broken = none ∧
        response.body.chunks.flatten.length ≤ maxDiscoveryResponseBytes ∧
        parse response.body.chunks.flatten = some raw := by
  simp only [readJsonLimited, bind_eq_ok, ensure_eq_ok, require_eq_ok, readChunks_eq_ok,
    Chunked.mapError, Option.map_eq_none_iff]
  constructor
  · rintro ⟨_, hDeclared, _, ⟨hShort, hWhole, rfl⟩, hParsed⟩
    exact ⟨hDeclared, hWhole, hShort, hParsed⟩
  · rintro ⟨hDeclared, hWhole, hShort, hParsed⟩
    exact ⟨(), hDeclared, _, ⟨hShort, hWhole, rfl⟩, hParsed⟩

/-- Two responses that say the same, wherever their bodies are cut. -/
structure SameResponse (response response' : Response) : Prop where
  status : response.status = response'.status
  contentLength : response.contentLength = response'.contentLength
  content : response.body.chunks.flatten = response'.body.chunks.flatten
  broken : response.body.broken = response'.body.broken

theorem readJsonLimited_congr {response response' : Response} (h : SameResponse response response') :
    readJsonLimited parse response = readJsonLimited parse response' := by
  have hBody : readChunks maxDiscoveryResponseBytes (.tooLarge response'.status)
        (response.body.mapError SafeFailure.transport) =
      readChunks maxDiscoveryResponseBytes (.tooLarge response'.status)
        (response'.body.mapError SafeFailure.transport) := by
    refine readChunks_congr h.content ?_
    rw [Chunked.mapError, Chunked.mapError, h.broken]
  rw [readJsonLimited, readJsonLimited, h.status, h.contentLength, hBody]

theorem fetchListing_congr {response response' : Response} (h : SameResponse response response') :
    fetchListing parse parser (.ok response) = fetchListing parse parser (.ok response') := by
  rw [fetchListing, fetchListing, h.status, readJsonLimited_congr h]

theorem fetchListing_eq_ok {answer : Except TransportError Response} {listing : Listing} :
    fetchListing parse parser answer = .ok listing ↔ ∃ response, answer = .ok response ∧
      (200 ≤ response.status ∧ response.status ≤ 299) ∧ listing.httpStatus = response.status ∧
      readJsonLimited parse response = .ok listing.raw ∧
      parser.parseDiscoveredModels listing.raw = .ok listing.models := by
  obtain ⟨httpStatus, raw, models⟩ := listing
  cases answer with
  | error error => simp [fetchListing]
  | ok response =>
    simp only [fetchListing, bind_eq_ok, ensure_eq_ok, pure_eq_ok, Listing.mk.injEq,
      Except.ok.injEq, exists_eq_left']
    constructor
    · rintro ⟨_, hStatus, _, hRaw, _, hModels, rfl, rfl, rfl⟩
      exact ⟨hStatus, rfl, hRaw, hModels⟩
    · rintro ⟨hStatus, rfl, hRaw, hModels⟩
      exact ⟨(), hStatus, raw, hRaw, models, hModels, rfl, rfl, rfl⟩

/-! ## What the catalogue checks -/

theorem items_not_null {raw : Value} {items : List Value} (h : parser.items raw = some items) :
    isNull raw = false := by
  cases raw with
  | null =>
    obtain ⟨value, hValue, hArray⟩ := Option.bind_eq_some_iff.mp h
    rw [valueAtPath] at hValue
    cases hPath : ((parser.listPath.toList.splitOn '.').map String.ofList).filter (· ≠ "") with
    | nil =>
      rw [hPath] at hValue
      cases hValue
      cases hArray
    | cons segment rest =>
      rw [hPath] at hValue
      cases hValue
  | _ => rfl

theorem fromFields_valid {fields : List (MetadataField × Value)} {values : MetadataValues}
    (h : fromFields fields = .ok values) : MetadataValues.validate values = .ok () := by
  obtain ⟨_, hValid, hSame⟩ := bind_eq_ok.mp h
  rw [← pure_eq_ok.mp hSame]
  exact hValid

/-- A model as the parser leaves it. -/
structure DiscoveredModel.Sound (model : DiscoveredModel) : Prop where
  named : trim model.id ≠ ""
  object : isObject model.snapshot = true
  valid : MetadataValues.validate model.metadata = .ok ()

theorem sound_of_readModel {item : Value} {model : DiscoveredModel}
    (h : parser.readModel item = some model) : model.Sound := by
  obtain ⟨hObject, hId, hSnapshot, hMetadata⟩ := readModel_eq_some.mp h
  obtain ⟨-, hNamed⟩ := Option.filter_eq_some_iff.mp hId
  exact ⟨of_decide_eq_true hNamed, hSnapshot ▸ hObject, fromFields_valid hMetadata⟩

theorem parsed_sound {raw : Value} {models : List DiscoveredModel}
    (h : parser.parseDiscoveredModels raw = .ok models) : ∀ model ∈ models, model.Sound := by
  obtain ⟨items, -, -, -, rfl⟩ := parseDiscoveredModels_eq_ok.mp h
  intro model hModel
  obtain ⟨item, -, hItem⟩ := List.mem_filterMap.mp ((sortModels_perm _).mem_iff.mp hModel)
  exact sound_of_readModel hItem

theorem parsed_nodup {raw : Value} {models : List DiscoveredModel}
    (h : parser.parseDiscoveredModels raw = .ok models) :
    (models.map DiscoveredModel.id).Nodup := by
  obtain ⟨items, -, -, hNodup, rfl⟩ := parseDiscoveredModels_eq_ok.mp h
  exact ((sortModels_perm _).map _).nodup_iff.mpr hNodup

/-- The ids are those that the items of the list name. -/
theorem mem_parsed {raw : Value} {models : List DiscoveredModel}
    (h : parser.parseDiscoveredModels raw = .ok models) (m : String) :
    m ∈ models.map DiscoveredModel.id ↔
      ∃ items, parser.items raw = some items ∧ ∃ item ∈ items, parser.modelId item = some m := by
  obtain ⟨items, hItems, hAll, -, rfl⟩ := parseDiscoveredModels_eq_ok.mp h
  rw [((sortModels_perm _).map _).mem_iff, List.mem_map]
  constructor
  · rintro ⟨model, hModel, rfl⟩
    obtain ⟨item, hItem, hRead⟩ := List.mem_filterMap.mp hModel
    exact ⟨items, hItems, item, hItem, (readModel_eq_some.mp hRead).2.1⟩
  · rintro ⟨items', hItems', item, hItem, hId⟩
    obtain rfl := Option.some.inj (hItems.symm.trans hItems')
    obtain ⟨model, hRead⟩ := Option.isSome_iff_exists.mp (hAll item hItem)
    refine ⟨model, List.mem_filterMap.mpr ⟨item, hItem, hRead⟩, ?_⟩
    exact Option.some.inj ((readModel_eq_some.mp hRead).2.1.symm.trans hId)

end Answers

/-! ## Runs -/

section Runs

variable {catalogue next : Catalogue} {call : DiscoveryCall} {execution : DiscoveryExecution}

theorem insertRun_eq_ok {run : DiscoveryRun} :
    catalogue.insertRun run = .ok next ↔
      run.meetsChecks = true ∧ next = ⟨catalogue.db, catalogue.runs ++ [run]⟩ := by
  rw [Catalogue.insertRun]
  split
  · next hChecks => simp [hChecks, eq_comm]
  · next hChecks => simp [hChecks]

/-- A run that is recorded, and tells of no model. -/
structure Recorded (call : DiscoveryCall) (catalogue next : Catalogue)
    (execution : DiscoveryExecution) : Prop where
  db : next.db = catalogue.db
  runs : next.runs = catalogue.runs ++ [execution.run]
  source : execution.run.sourceId = call.sourceId
  checks : execution.run.meetsChecks = true
  status : execution.run.status ≠ .succeeded
  models : execution.models = []

theorem recordDiscoveryFailure_recorded {status : DiscoveryStatus} {failure : SafeFailure}
    (hStatus : status ≠ .succeeded)
    (h : recordDiscoveryFailure call status failure catalogue = .ok (next, execution)) :
    Recorded call catalogue next execution := by
  obtain ⟨_, -, h⟩ := bind_eq_ok.mp h
  obtain ⟨source, -, h⟩ := bind_eq_ok.mp h
  obtain ⟨_, -, h⟩ := bind_eq_ok.mp h
  obtain ⟨written, hWritten, h⟩ := bind_eq_ok.mp h
  obtain ⟨rfl, rfl⟩ := Prod.mk.inj (pure_eq_ok.mp h)
  obtain ⟨hChecks, rfl⟩ := insertRun_eq_ok.mp hWritten
  exact ⟨rfl, rfl, rfl, hChecks, hStatus, rfl⟩

/-- What two executions have in common that differ in the document they stored or in the
failure they tell of. -/
structure SameOutcome (next next' : Catalogue) (execution execution' : DiscoveryExecution) :
    Prop where
  db : next'.db = next.db
  diff : execution'.diff = execution.diff
  models : execution'.models = execution.models
  status : execution'.run.status = execution.run.status

/-- A failure can be recorded in place of another one. -/
theorem recordDiscoveryFailure_other {failure failure' : SafeFailure}
    (hFailure : failure'.Recordable)
    (h : recordDiscoveryFailure call .failed failure catalogue = .ok (next, execution)) :
    ∃ next' execution',
      recordDiscoveryFailure call .failed failure' catalogue = .ok (next', execution') ∧
        SameOutcome next next' execution execution' := by
  obtain ⟨_, hTexts, h⟩ := bind_eq_ok.mp h
  obtain ⟨source, hSource, h⟩ := bind_eq_ok.mp h
  obtain ⟨_, hAccount, h⟩ := bind_eq_ok.mp h
  obtain ⟨written, hWritten, h⟩ := bind_eq_ok.mp h
  obtain ⟨rfl, rfl⟩ := Prod.mk.inj (pure_eq_ok.mp h)
  obtain ⟨hChecks, rfl⟩ := insertRun_eq_ok.mp hWritten
  obtain ⟨-, -, hTimes⟩ := ensure_eq_ok.mp hTexts
  have hMeets : ∀ run : DiscoveryRun, run.httpStatus = failure'.httpStatus →
      run.startedAt = call.startedAt → run.completedAt = call.completedAt →
      run.status = .failed → run.rawSnapshot.isNone = true → run.errorCode.isSome = true →
      run.errorMessage.isSome = true → run.meetsChecks = true := by
    intro run hHttp hStart hEnd hStatus hRaw hCode hMessage
    rw [DiscoveryRun.meetsChecks, hHttp, hFailure.httpStatus, hStart, hEnd, hStatus, hRaw, hCode,
      hMessage, decide_eq_true hTimes]
    rfl
  refine ⟨_, _, bind_eq_ok.mpr ⟨(), ensure_eq_ok.mpr ⟨hFailure.code, hFailure.message, hTimes⟩,
    bind_eq_ok.mpr ⟨source, hSource, bind_eq_ok.mpr ⟨(), hAccount, bind_eq_ok.mpr ⟨_,
      insertRun_eq_ok.mpr ⟨?_, rfl⟩, rfl⟩⟩⟩⟩, rfl, rfl, rfl, rfl⟩
  exact hMeets _ rfl rfl rfl rfl rfl rfl rfl

variable {parse : Bytes → Option Value} {collation : String → String → Bool} {now : DateTime}

/-- A call that returns recorded a failure, or it applied a listing. -/
theorem discover_cases {attempt : Attempt}
    (h : discover parse collation now call attempt catalogue = .ok (next, execution)) :
    Recorded call catalogue next execution ∨ ∃ source parser answer listing,
      attempt = .sent parser answer ∧ fetchListing parse parser answer = .ok listing ∧
        applyListing collation now call source listing catalogue = .ok (next, execution) := by
  obtain ⟨source, -, h⟩ := bind_eq_ok.mp h
  cases attempt with
  | unsupported reason =>
    exact .inl (recordDiscoveryFailure_recorded (by decide) h)
  | noCredential =>
    obtain ⟨_, -, h⟩ := bind_eq_ok.mp h
    exact .inl (recordDiscoveryFailure_recorded (by decide) h)
  | sent parser answer =>
    obtain ⟨_, -, h⟩ := bind_eq_ok.mp h
    cases hListing : fetchListing parse parser answer with
    | error failure =>
      rw [hListing] at h
      exact .inl (recordDiscoveryFailure_recorded (by decide) h)
    | ok listing =>
      rw [hListing] at h
      exact .inr ⟨source, parser, answer, listing, rfl, hListing, h⟩

theorem refreshOf_eq_ok {t : Tables} {model : DiscoveredModel} {refresh : SourceModelRefresh}
    (h : refreshOf collation call t model = .ok refresh) :
    refresh.sourceId = call.sourceId ∧ refresh.upstreamModelId = model.id ∧
      refresh.rawSnapshot = model.snapshot ∧ refresh.upstreamMetadata = model.metadata ∧
      refresh.matchedPreset.isSome = refresh.presetMetadata.isSome ∧
      ∀ values ∈ refresh.presetMetadata, MetadataValues.validate values = .ok () := by
  unfold refreshOf at h
  cases hPreset : matchModelPreset collation t model.id with
  | none =>
    rw [hPreset] at h
    cases h
    refine ⟨rfl, rfl, rfl, rfl, rfl, ?_⟩
    rintro values hValues
    cases hValues
  | some record =>
    rw [hPreset] at h
    obtain ⟨metadata, hMetadata, hSame⟩ := bind_eq_ok.mp h
    rw [← pure_eq_ok.mp hSame]
    refine ⟨rfl, rfl, rfl, rfl, rfl, ?_⟩
    rintro values hValues
    cases hValues
    exact CatalogMetadata.fromJson_valid (domainCheck_ok.mp hMetadata)

theorem mapM_eq_ok {ε α β : Type} {f : α → Except ε β} {items : List α} {results : List β} :
    items.mapM f = .ok results ↔ items.map f = results.map .ok := by
  induction items generalizing results with
  | nil =>
    rw [List.mapM_nil, pure_eq_ok, List.map_nil, eq_comm, eq_comm (a := [])]
    exact List.map_eq_nil_iff.symm
  | cons item rest ih =>
    simp only [List.mapM_cons, bind_eq_ok, pure_eq_ok, List.map_cons]
    constructor
    · rintro ⟨first, hFirst, others, hOthers, rfl⟩
      rw [List.map_cons, hFirst, ih.mp hOthers]
    · intro h
      cases results with
      | nil => cases h
      | cons first others =>
        obtain ⟨hFirst, hOthers⟩ := List.cons.inj h
        exact ⟨first, hFirst, others, ih.mpr hOthers, rfl⟩

theorem modelIds_applyInput {listing : Listing} {models : List SourceModelRefresh} {t : Tables}
    (h : listing.models.mapM (refreshOf collation call t) = .ok models) :
    (applyInput call listing models).modelIds = listing.ids := by
  have hRead := mapM_eq_ok.mp h
  change models.map SourceModelRefresh.upstreamModelId = listing.models.map DiscoveredModel.id
  clear h
  generalize listing.models = found at hRead
  induction found generalizing models with
  | nil => rw [List.map_eq_nil_iff.mp hRead.symm, List.map_nil, List.map_nil]
  | cons model rest ih =>
    cases models with
    | nil => cases hRead
    | cons refresh others =>
      obtain ⟨hFirst, hOthers⟩ := List.cons.inj hRead
      rw [List.map_cons, List.map_cons, ih hOthers, (refreshOf_eq_ok hFirst).2.1]

theorem exists_refreshOf {listing : Listing} {models : List SourceModelRefresh} {t : Tables}
    (h : listing.models.mapM (refreshOf collation call t) = .ok models) :
    ∀ refresh ∈ models, ∃ model ∈ listing.models,
      refreshOf collation call t model = .ok refresh := by
  intro refresh hRefresh
  have hMem : (.ok refresh : Except CatalogError _) ∈ models.map .ok :=
    List.mem_map_of_mem hRefresh
  rw [← mapM_eq_ok.mp h] at hMem
  exact List.mem_map.mp hMem

theorem forM_eq_ok {ε α : Type} {f : α → Except ε Unit} {items : List α}
    (h : ∀ item ∈ items, f item = .ok ()) : items.forM f = .ok () := by
  induction items with
  | nil => rfl
  | cons item rest ih =>
    rw [List.forall_mem_cons] at h
    change (f item >>= fun _ => rest.forM f) = .ok ()
    exact bind_eq_ok.mpr ⟨(), h.1, ih h.2⟩

/-- What the parser accepts, the catalogue has nothing against. -/
theorem listing_passes_checks {parser : DiscoveryParser}
    {answer : Except TransportError Response} {listing : Listing} {t : Tables}
    {models : List SourceModelRefresh}
    (hListing : fetchListing parse parser answer = .ok listing)
    (hModels : listing.models.mapM (refreshOf collation call t) = .ok models)
    (hSource : trim call.sourceId ≠ "") (hTimes : call.startedAt ≤ call.completedAt) :
    validateDiscovery (applyInput call listing models) = .ok () ∧
      (applyInput call listing models).discovered.forM
        (validateDiscovered (applyInput call listing models)) = .ok () := by
  obtain ⟨response, -, hStatus, hSame, -, hParsed⟩ := fetchListing_eq_ok.mp hListing
  obtain ⟨items, hItems, -⟩ := parseDiscoveredModels_eq_ok.mp hParsed
  have hSound := parsed_sound hParsed
  constructor
  · have hIds : (applyInput call listing models).modelIds.Nodup := by
      rw [modelIds_applyInput hModels]
      exact parsed_nodup hParsed
    refine bind_eq_ok.mpr ⟨(), ensure_eq_ok.mpr ?_, bind_eq_ok.mpr ⟨(), ensure_eq_ok.mpr ?_,
      bind_eq_ok.mpr ⟨(), ensure_eq_ok.mpr (items_not_null hItems), ensure_eq_ok.mpr hIds⟩⟩⟩
    · change 200 ≤ (listing.httpStatus : Int) ∧ (listing.httpStatus : Int) ≤ 299
      omega
    · exact ⟨Int.natCast_nonneg _, hTimes⟩
  · refine forM_eq_ok fun refresh hRefresh => ?_
    have hMem : refresh ∈ models := (discovered_perm _).mem_iff.mp hRefresh
    obtain ⟨model, hModel, hRead⟩ := exists_refreshOf hModels refresh hMem
    obtain ⟨hCall, hId, hSnapshot, hUpstream, hTogether, hPreset⟩ := refreshOf_eq_ok hRead
    have hModelSound := hSound model hModel
    refine bind_eq_ok.mpr ⟨(), ?_, ensure_eq_ok.mpr hCall⟩
    refine bind_eq_ok.mpr ⟨(), ensure_eq_ok.mpr ?_, bind_eq_ok.mpr ⟨(), ensure_eq_ok.mpr ?_,
      bind_eq_ok.mpr ⟨(), ensure_eq_ok.mpr ?_, bind_eq_ok.mpr ⟨(), ?_, ?_⟩⟩⟩⟩
    · exact ⟨hCall ▸ hSource, hId ▸ hModelSound.named⟩
    · exact hSnapshot ▸ hModelSound.object
    · exact hTogether
    · exact domainCheck_ok.mpr (hUpstream ▸ hModelSound.valid)
    · cases hMetadata : refresh.presetMetadata with
      | none => rfl
      | some values => exact domainCheck_ok.mpr (hPreset values hMetadata)

theorem applyListing_eq_ok {source : SourceRow} {listing : Listing} :
    applyListing collation now call source listing catalogue = .ok (next, execution) →
      ∃ models result, listing.models.mapM (refreshOf collation call catalogue.db.toTables) =
          .ok models ∧
        applyDiscoveryDiff now (applyInput call listing models) catalogue.db = .ok result ∧
        next = ⟨result.db, catalogue.runs ++ [execution.run]⟩ ∧
        execution.run.meetsChecks = true ∧ execution.run.sourceId = call.sourceId ∧
        execution.run.status = .succeeded ∧ execution.run.rawSnapshot = some listing.raw ∧
        execution.run.discoveredModelCount = models.length ∧ execution.diff = result.diff ∧
        execution.models = result.models := by
  intro h
  obtain ⟨models, hModels, h⟩ := bind_eq_ok.mp h
  obtain ⟨result, hResult, h⟩ := bind_eq_ok.mp h
  obtain ⟨written, hWritten, h⟩ := bind_eq_ok.mp h
  obtain ⟨rfl, rfl⟩ := Prod.mk.inj (pure_eq_ok.mp h)
  obtain ⟨hChecks, rfl⟩ := insertRun_eq_ok.mp hWritten
  exact ⟨models, result, hModels, hResult, rfl, hChecks, rfl, rfl, rfl, rfl, rfl, rfl⟩

/-- What a call that applied an answer has done. -/
structure Applied (parse : Bytes → Option Value) (call : DiscoveryCall) (attempt : Attempt)
    (catalogue next : Catalogue) (execution : DiscoveryExecution) (ids : List String) : Prop where
  status : execution.run.status = .succeeded
  answered : ∃ parser response raw items, attempt = .sent parser (.ok response) ∧
    (200 ≤ response.status ∧ response.status ≤ 299) ∧ response.body.broken = none ∧
    response.body.chunks.flatten.length ≤ maxDiscoveryResponseBytes ∧
    parse response.body.chunks.flatten = some raw ∧ execution.run.rawSnapshot = some raw ∧
    parser.items raw = some items ∧
    ∀ m, m ∈ ids ↔ ∃ item ∈ items, parser.modelId item = some m
  once : ids.Nodup
  counted : execution.run.discoveredModelCount = ids.length
  only : OnlyModels catalogue.db next.db
  available : ∀ s m, next.db.isAvailable s m =
    if s = call.sourceId then decide (m ∈ ids) else catalogue.db.isAvailable s m
  confirmed : ∀ s m, next.db.isConfirmed s m = catalogue.db.isConfirmed s m
  decisions : ∀ s m old, catalogue.db.sourceModel? s m = some old →
    ∃ new, next.db.sourceModel? s m = some new ∧ KeepsDecisions old new

theorem applied_of_listing {parser : DiscoveryParser} {answer : Except TransportError Response}
    {source : SourceRow} {listing : Listing}
    (hListing : fetchListing parse parser answer = .ok listing)
    (h : applyListing collation now call source listing catalogue = .ok (next, execution)) :
    Applied parse call (.sent parser answer) catalogue next execution listing.ids := by
  obtain ⟨models, result, hModels, hResult, rfl, -, -, hStatus, hRaw, hCount, -, -⟩ :=
    applyListing_eq_ok h
  obtain ⟨response, rfl, hOk, -, hRead, hParsed⟩ := fetchListing_eq_ok.mp hListing
  obtain ⟨-, hWhole, hShort, hJson⟩ := readJsonLimited_eq_ok.mp hRead
  obtain ⟨items, hItems, -⟩ := parseDiscoveredModels_eq_ok.mp hParsed
  have hIds := modelIds_applyInput hModels
  have hDb : applyDiscovery now (applyInput call listing models) catalogue.db = .ok result.db := by
    rw [← applyDiscoveryDiff_db, hResult]
    rfl
  have hListed := applyDiscovery_listed now _ catalogue.db result.db hDb
  constructor
  case status => exact hStatus
  case answered =>
    refine ⟨parser, response, listing.raw, items, rfl, hOk, hWhole, hShort, hJson, hRaw, hItems,
      fun m => ?_⟩
    rw [Listing.ids, mem_parsed hParsed, hItems]
    simp only [Option.some.injEq, exists_eq_left']
  case once => exact parsed_nodup hParsed
  case counted => rw [hCount, ← hIds, DiscoveryApplyInput.modelIds, List.length_map]; rfl
  case only => exact hListed.only
  case available =>
    intro s m
    rw [hListed.available, DiscoveryApplyInput.lists, hIds]
    rfl
  case confirmed => exact hListed.confirmed
  case decisions => exact (applied_losesNothing hResult).decisions

/-- A discovery that returns has recorded one run.  Unless the run succeeded, the tables are
as before; if it did, the upstream's answer was whole, within the limit and JSON, and exactly
the models that it lists are available, with no decision taken away. -/
theorem discovery_applies_the_answer (parse : Bytes → Option Value)
    (collation : String → String → Bool) (now : DateTime) (call : DiscoveryCall)
    (attempt : Attempt) (catalogue next : Catalogue) (execution : DiscoveryExecution)
    (h : discover parse collation now call attempt catalogue = .ok (next, execution)) :
    next.runs = catalogue.runs ++ [execution.run] ∧ execution.run.sourceId = call.sourceId ∧
      execution.run.meetsChecks = true ∧
      ((execution.run.status ≠ .succeeded ∧ next.db = catalogue.db ∧ execution.models = []) ∨
        ∃ ids, Applied parse call attempt catalogue next execution ids) := by
  obtain hRecorded | ⟨source, parser, answer, listing, rfl, hListing, hApply⟩ := discover_cases h
  · exact ⟨hRecorded.runs, hRecorded.source, hRecorded.checks,
      .inl ⟨hRecorded.status, hRecorded.db, hRecorded.models⟩⟩
  · obtain ⟨_, _, -, -, rfl, hChecks, hSource, -⟩ := applyListing_eq_ok hApply
    exact ⟨rfl, hSource, hChecks, .inr ⟨_, applied_of_listing hListing hApply⟩⟩

end Runs

namespace Answered

/-- The list of one model, and the document it says. -/
def body : Bytes :=
  [0x7B, 0x22, 0x64, 0x22, 0x3A, 0x5B, 0x7B, 0x22, 0x69, 0x22, 0x3A, 0x22, 0x6D, 0x22, 0x7D, 0x5D,
    0x7D]

def document : Value := .object [("d", .array [.object [("i", .string "m")]])]

def parse (bytes : Bytes) : Option Value := if bytes = body then some document else none

def account : AccountRow where
  id := "a"
  sourceId := "s"
  displayName := "a"
  credentialEnv := some "KEY"
  credentialCiphertext := none
  enabled := true
  weight := 1
  health := {}
  createdAt := 0
  updatedAt := 0

def catalogue : Catalogue where
  db :=
    { Listing.db.toTables with
      accounts := [account]
      keys := by decide
      references := by decide
      checks := by decide }
  runs := []

def call : DiscoveryCall where
  sourceId := "s"
  accountId := "a"
  requestedBy := ""
  startedAt := 0
  completedAt := 1
  latencyMs := 3

def attempt : Attempt :=
  .sent ⟨"d", "i", .empty⟩ (.ok ⟨200, none, ⟨[body.take 5, body.drop 5], none⟩⟩)

end Answered

/-- An answer in two chunks, which lists one model. -/
theorem one_model_listed : ∃ next execution,
    discover Answered.parse (fun _ _ => true) 1 Answered.call Answered.attempt Answered.catalogue =
      .ok (next, execution) ∧
    execution.run.meetsChecks = true ∧ execution.run.discoveredModelCount = 1 := by
  obtain ⟨⟨next, execution⟩, hCall, hCount⟩ := exists_of_succeeds (show succeeds
      (discover Answered.parse (fun _ _ => true) 1 Answered.call Answered.attempt
        Answered.catalogue) (fun result => result.2.run.discoveredModelCount = 1) = true by decide)
  have hApplied := discovery_applies_the_answer Answered.parse (fun _ _ => true) 1 Answered.call
    Answered.attempt Answered.catalogue next execution hCall
  exact ⟨next, execution, hCall, hApplied.2.2.1, of_decide_eq_true hCount⟩

/-! ## The same answer in another form -/

section Forms

variable {catalogue next : Catalogue} {call : DiscoveryCall} {execution : DiscoveryExecution}
  {parse : Bytes → Option Value} {collation : String → String → Bool} {now : DateTime}

theorem discover_congr {parser : DiscoveryParser} {response response' : Response}
    (h : SameResponse response response') :
    discover parse collation now call (.sent parser (.ok response)) catalogue =
      discover parse collation now call (.sent parser (.ok response')) catalogue := by
  unfold discover
  refine bind_congr_ok fun source _ => bind_congr_ok fun _ _ => ?_
  rw [fetchListing_congr h]

theorem applyDiscoveryDiff_raw {input : DiscoveryApplyInput} {raw : Value} {db : Db}
    (hRaw : isNull input.rawSnapshot = false) (hRaw' : isNull raw = false) :
    applyDiscoveryDiff now { input with rawSnapshot := raw } db =
      applyDiscoveryDiff now input db := by
  have hValid : validateDiscovery { input with rawSnapshot := raw } = validateDiscovery input := by
    rw [validateDiscovery, validateDiscovery, hRaw, hRaw']
    rfl
  rw [applyDiscoveryDiff, applyDiscoveryDiff, hValid]
  rfl

theorem meetsChecks_raw {run : DiscoveryRun} {raw : Value} (raw' : Value)
    (hRaw : run.rawSnapshot = some raw) :
    { run with rawSnapshot := some raw' }.meetsChecks = run.meetsChecks := by
  rw [DiscoveryRun.meetsChecks, DiscoveryRun.meetsChecks, hRaw]
  rfl

/-- A listing with the same models has the same effect, whatever document it came in. -/
theorem applyListing_raw {source : SourceRow} {listing : Listing} {raw : Value}
    (hRaw : isNull listing.raw = false) (hRaw' : isNull raw = false)
    (h : applyListing collation now call source listing catalogue = .ok (next, execution)) :
    ∃ next' execution', applyListing collation now call source { listing with raw } catalogue =
        .ok (next', execution') ∧ SameOutcome next next' execution execution' := by
  obtain ⟨models, hModels, h⟩ := bind_eq_ok.mp h
  obtain ⟨result, hResult, h⟩ := bind_eq_ok.mp h
  obtain ⟨written, hWritten, h⟩ := bind_eq_ok.mp h
  obtain ⟨rfl, rfl⟩ := Prod.mk.inj (pure_eq_ok.mp h)
  obtain ⟨hChecks, rfl⟩ := insertRun_eq_ok.mp hWritten
  have hSame := @applyDiscoveryDiff_raw now (applyInput call listing models) raw catalogue.db
    hRaw hRaw'
  refine ⟨_, _, bind_eq_ok.mpr ⟨models, hModels, bind_eq_ok.mpr ⟨result, hSame.trans hResult,
    bind_eq_ok.mpr ⟨_, insertRun_eq_ok.mpr ⟨?_, rfl⟩, rfl⟩⟩⟩, rfl, rfl, rfl, rfl⟩
  exact (meetsChecks_raw raw rfl).trans hChecks

theorem discover_eq_ok_of_listing {parser : DiscoveryParser}
    {answer : Except TransportError Response} {listing : Listing}
    (hListing : fetchListing parse parser answer = .ok listing) :
    discover parse collation now call (.sent parser answer) catalogue = .ok (next, execution) ↔
      ∃ source, catalogue.db.source? call.sourceId = some source ∧
        validateAccountForSource catalogue.db.toTables call.sourceId (some call.accountId) = .ok () ∧
        applyListing collation now call source listing catalogue = .ok (next, execution) := by
  simp only [discover, bind_eq_ok, require_eq_ok, hListing]
  constructor
  · rintro ⟨source, hSource, _, hAccount, hApply⟩
    exact ⟨source, hSource, hAccount, hApply⟩
  · rintro ⟨source, hSource, hAccount, hApply⟩
    exact ⟨source, hSource, (), hAccount, hApply⟩

theorem discover_eq_ok_of_failure {parser : DiscoveryParser}
    {answer : Except TransportError Response} {failure : SafeFailure}
    (hListing : fetchListing parse parser answer = .error failure) :
    discover parse collation now call (.sent parser answer) catalogue = .ok (next, execution) ↔
      ∃ source, catalogue.db.source? call.sourceId = some source ∧
        validateAccountForSource catalogue.db.toTables call.sourceId (some call.accountId) = .ok () ∧
        recordDiscoveryFailure call .failed failure catalogue = .ok (next, execution) := by
  simp only [discover, bind_eq_ok, require_eq_ok, hListing]
  constructor
  · rintro ⟨source, hSource, _, hAccount, hRecord⟩
    exact ⟨source, hSource, hAccount, hRecord⟩
  · rintro ⟨source, hSource, hAccount, hRecord⟩
    exact ⟨source, hSource, (), hAccount, hRecord⟩

/-- An answer that was read as JSON is listed as its document is parsed. -/
theorem fetchListing_of_read {parser : DiscoveryParser} {response : Response} {raw : Value}
    (hStatus : 200 ≤ response.status ∧ response.status ≤ 299)
    (hRead : readJsonLimited parse response = .ok raw) :
    fetchListing parse parser (.ok response) =
      (parser.parseDiscoveredModels raw).map fun models => ⟨response.status, raw, models⟩ := by
  rw [fetchListing, ensure, if_pos hStatus, hRead]
  change (parser.parseDiscoveredModels raw >>= fun models => pure _) = _
  cases parser.parseDiscoveredModels raw <;> rfl

/-- The order of the listed models shows in the stored document and in the code of a failure
alone. -/
theorem discover_perm {parser : DiscoveryParser} {response response' : Response}
    {raw raw' : Value} {items items' : List Value} (hSame : response.status = response'.status)
    (hRead : readJsonLimited parse response = .ok raw)
    (hRead' : readJsonLimited parse response' = .ok raw')
    (hItems : parser.items raw = some items) (hItems' : parser.items raw' = some items')
    (hPerm : items.Perm items')
    (h : discover parse collation now call (.sent parser (.ok response)) catalogue =
      .ok (next, execution)) :
    ∃ next' execution',
      discover parse collation now call (.sent parser (.ok response')) catalogue =
        .ok (next', execution') ∧ SameOutcome next next' execution execution' := by
  by_cases hStatus : 200 ≤ response.status ∧ response.status ≤ 299
  · have hListing := @fetchListing_of_read parse parser _ _ hStatus hRead
    have hListing' := @fetchListing_of_read parse parser _ _ (hSame ▸ hStatus) hRead'
    cases hModels : parser.parseDiscoveredModels raw with
    | ok models =>
      rw [hModels] at hListing
      rw [parseDiscoveredModels_perm hItems hItems' hPerm hModels, ← hSame] at hListing'
      obtain ⟨source, hSource, hAccount, hApply⟩ := (discover_eq_ok_of_listing hListing).mp h
      obtain ⟨next', execution', hApply', hOutcome⟩ :=
        applyListing_raw (items_not_null hItems) (items_not_null hItems') hApply
      exact ⟨next', execution', (discover_eq_ok_of_listing hListing').mpr
        ⟨source, hSource, hAccount, hApply'⟩, hOutcome⟩
    | error failure =>
      cases hModels' : parser.parseDiscoveredModels raw' with
      | ok models =>
        rw [parseDiscoveredModels_perm hItems' hItems hPerm.symm hModels'] at hModels
        cases hModels
      | error failure' =>
        rw [hModels] at hListing
        rw [hModels'] at hListing'
        obtain ⟨source, hSource, hAccount, hRecord⟩ := (discover_eq_ok_of_failure hListing).mp h
        obtain ⟨next', execution', hRecord', hOutcome⟩ :=
          recordDiscoveryFailure_other (parseDiscoveredModels_recordable hModels') hRecord
        exact ⟨next', execution', (discover_eq_ok_of_failure hListing').mpr
          ⟨source, hSource, hAccount, hRecord'⟩, hOutcome⟩
  · -- both answers are refused for their status, before they are read
    have hListing : fetchListing parse parser (.ok response) =
        fetchListing parse parser (.ok response') := by
      rw [fetchListing, fetchListing, hSame, ensure, if_neg (hSame ▸ hStatus)]
      rfl
    refine ⟨next, execution, ?_, rfl, rfl, rfl, rfl⟩
    rw [← h]
    unfold discover
    refine bind_congr_ok fun source _ => bind_congr_ok fun _ _ => ?_
    rw [hListing]

/-- The reading of an answer leaves nothing to chance.  Where the body is cut is irrelevant,
and so is the order of the listed models, of which only the stored document and the code of a
failure tell.  And what the parser accepts passes every check that the catalogue makes of it. -/
theorem discovery_ignores_cuts_and_order (parse : Bytes → Option Value)
    (collation : String → String → Bool) (now : DateTime) (call : DiscoveryCall)
    (parser : DiscoveryParser) (catalogue : Catalogue) :
    (∀ response response' : Response, SameResponse response response' →
      discover parse collation now call (.sent parser (.ok response)) catalogue =
        discover parse collation now call (.sent parser (.ok response')) catalogue) ∧
    (∀ (response response' : Response) (raw raw' : Value) (items items' : List Value),
      response.status = response'.status →
      readJsonLimited parse response = .ok raw → readJsonLimited parse response' = .ok raw' →
      parser.items raw = some items → parser.items raw' = some items' → items.Perm items' →
      ∀ next execution,
        discover parse collation now call (.sent parser (.ok response)) catalogue =
          .ok (next, execution) →
        ∃ next' execution',
          discover parse collation now call (.sent parser (.ok response')) catalogue =
            .ok (next', execution') ∧ SameOutcome next next' execution execution') ∧
    ∀ (answer : Except TransportError Response) (listing : Listing) (t : Tables)
      (models : List SourceModelRefresh), fetchListing parse parser answer = .ok listing →
      listing.models.mapM (refreshOf collation call t) = .ok models →
      trim call.sourceId ≠ "" → call.startedAt ≤ call.completedAt →
      validateDiscovery (applyInput call listing models) = .ok () ∧
        (applyInput call listing models).discovered.forM
          (validateDiscovered (applyInput call listing models)) = .ok () := by
  refine ⟨fun _ _ => discover_congr, ?_, fun _ _ _ _ => listing_passes_checks⟩
  intro response response' raw raw' items items' hSame hRead hRead' hItems hItems' hPerm next
    execution h
  exact discover_perm hSame hRead hRead' hItems hItems' hPerm h

end Forms

namespace Reordered

/-- Two models listed in one order and in the other. -/
def body : Bytes :=
  [0x7B, 0x22, 0x64, 0x22, 0x3A, 0x5B, 0x7B, 0x22, 0x69, 0x22, 0x3A, 0x22, 0x6D, 0x22, 0x7D, 0x2C,
    0x7B, 0x22, 0x69, 0x22, 0x3A, 0x22, 0x6E, 0x22, 0x7D, 0x5D, 0x7D]

def body' : Bytes :=
  [0x7B, 0x22, 0x64, 0x22, 0x3A, 0x5B, 0x7B, 0x22, 0x69, 0x22, 0x3A, 0x22, 0x6E, 0x22, 0x7D, 0x2C,
    0x7B, 0x22, 0x69, 0x22, 0x3A, 0x22, 0x6D, 0x22, 0x7D, 0x5D, 0x7D]

def m : Value := .object [("i", .string "m")]

def n : Value := .object [("i", .string "n")]

def document : Value := .object [("d", .array [m, n])]

def document' : Value := .object [("d", .array [n, m])]

def parse (bytes : Bytes) : Option Value :=
  if bytes = body then some document else if bytes = body' then some document' else none

def parser : DiscoveryParser := ⟨"d", "i", .empty⟩

def response (chunks : List Bytes) : Response := ⟨200, none, ⟨chunks, none⟩⟩

def discovered (chunks : List Bytes) : Except CatalogError (Catalogue × DiscoveryExecution) :=
  discover parse (fun _ _ => true) 1 Answered.call (.sent parser (.ok (response chunks)))
    Answered.catalogue

end Reordered

/-- Two models, in one chunk, in two, and in the other order. -/
theorem two_models_listed : ∃ next execution next' execution',
    Reordered.discovered [Reordered.body] = .ok (next, execution) ∧
    execution.run.discoveredModelCount = 2 ∧
    Reordered.discovered [Reordered.body.take 5, Reordered.body.drop 5] =
      Reordered.discovered [Reordered.body] ∧
    Reordered.discovered [Reordered.body'] = .ok (next', execution') ∧
    SameOutcome next next' execution execution' ∧
    ∃ listing models, fetchListing Reordered.parse Reordered.parser
        (.ok (Reordered.response [Reordered.body])) = .ok listing ∧ listing.models.length = 2 ∧
      validateDiscovery (applyInput Answered.call listing models) = .ok () := by
  obtain ⟨hCuts, hOrder, hChecks⟩ := discovery_ignores_cuts_and_order Reordered.parse
    (fun _ _ => true) 1 Answered.call Reordered.parser Answered.catalogue
  obtain ⟨⟨next, execution⟩, hCall, hCount⟩ := exists_of_succeeds (show succeeds
      (Reordered.discovered [Reordered.body])
      (fun result => result.2.run.discoveredModelCount = 2) = true by decide +kernel)
  have hSame : SameResponse (Reordered.response [Reordered.body.take 5, Reordered.body.drop 5])
      (Reordered.response [Reordered.body]) := ⟨rfl, rfl, by decide +kernel, rfl⟩
  have hRead : readJsonLimited Reordered.parse (Reordered.response [Reordered.body]) =
      .ok Reordered.document := by
    exact readJsonLimited_eq_ok.mpr ⟨rfl, rfl, by decide +kernel, by decide +kernel⟩
  have hRead' : readJsonLimited Reordered.parse (Reordered.response [Reordered.body']) =
      .ok Reordered.document' := by
    exact readJsonLimited_eq_ok.mpr ⟨rfl, rfl, by decide +kernel, by decide +kernel⟩
  obtain ⟨next', execution', hCall', hOutcome⟩ := hOrder (Reordered.response [Reordered.body])
    (Reordered.response [Reordered.body']) _ _ _ _ rfl hRead hRead' rfl rfl
    (List.Perm.swap Reordered.n Reordered.m []) next execution hCall
  obtain ⟨listing, hListing, hTwo⟩ := exists_of_succeeds (show succeeds
      (fetchListing Reordered.parse Reordered.parser (.ok (Reordered.response [Reordered.body])))
      (fun listing => listing.models.length = 2) = true by decide +kernel)
  obtain ⟨_, -, -, hApply⟩ := (discover_eq_ok_of_listing hListing).mp hCall
  obtain ⟨models, _, hModels, -⟩ := applyListing_eq_ok hApply
  obtain ⟨hValid, -⟩ := hChecks _ listing _ models hListing hModels (by decide) (by decide)
  exact ⟨next, execution, next', execution', hCall, of_decide_eq_true hCount, hCuts _ _ hSame,
    hCall', hOutcome, listing, models, hListing, of_decide_eq_true hTwo, hValid⟩

/-! ## Many discoveries -/

structure Step where
  now : DateTime
  call : DiscoveryCall
  attempt : Attempt

section History

variable (parse : Bytes → Option Value) (collation : String → String → Bool)

/-- A call that fails leaves the catalogue as it is. -/
def serve (catalogue : Catalogue) (step : Step) : Catalogue :=
  match discover parse collation step.now step.call step.attempt catalogue with
  | .ok (next, _) => next
  | .error _ => catalogue

/-- What a call listed, if it succeeds. -/
def listedIds (catalogue : Catalogue) (step : Step) : Option (List String) :=
  match discover parse collation step.now step.call step.attempt catalogue, step.attempt with
  | .ok (_, execution), .sent parser answer =>
    if execution.run.status = .succeeded then
      (fetchListing parse parser answer).toOption.map Listing.ids
    else none
  | _, _ => none

/-- What the last call that succeeded for a source listed. -/
def lastListed (sourceId : String) : List Step → Catalogue → Option (List String)
  | [], _ => none
  | step :: rest, catalogue =>
    (lastListed sourceId rest (serve parse collation catalogue step)).or
      (if step.call.sourceId = sourceId then listedIds parse collation catalogue step else none)

/-- What any call leaves alone, and what it sets. -/
structure Kept (before after : Catalogue) : Prop where
  only : OnlyModels before.db after.db
  confirmed : ∀ s m, after.db.isConfirmed s m = before.db.isConfirmed s m
  runs : ∃ added, after.runs = before.runs ++ added ∧ ∀ run ∈ added, run.meetsChecks = true

variable {parse collation}

theorem Kept.refl (catalogue : Catalogue) : Kept catalogue catalogue :=
  ⟨.refl _, fun _ _ => rfl, [], (List.append_nil _).symm,
    fun _ hRun => absurd hRun List.not_mem_nil⟩

theorem Kept.trans {before mid after : Catalogue} (h : Kept before mid) (h' : Kept mid after) :
    Kept before after where
  only := h.only.trans h'.only
  confirmed s m := (h'.confirmed s m).trans (h.confirmed s m)
  runs := by
    obtain ⟨added, hRuns, hChecks⟩ := h.runs
    obtain ⟨later, hLater, hChecks'⟩ := h'.runs
    refine ⟨added ++ later, by rw [hLater, hRuns, List.append_assoc], fun run hRun => ?_⟩
    exact (List.mem_append.mp hRun).elim (hChecks run) (hChecks' run)

theorem kept_append {catalogue next : Catalogue} {run : DiscoveryRun}
    (hOnly : OnlyModels catalogue.db next.db)
    (hConfirmed : ∀ s m, next.db.isConfirmed s m = catalogue.db.isConfirmed s m)
    (hRuns : next.runs = catalogue.runs ++ [run]) (hChecks : run.meetsChecks = true) :
    Kept catalogue next where
  only := hOnly
  confirmed := hConfirmed
  runs := ⟨[run], hRuns, List.forall_mem_singleton.mpr hChecks⟩

theorem serve_step (catalogue : Catalogue) (step : Step) :
    Kept catalogue (serve parse collation catalogue step) ∧
    ∀ s m, (serve parse collation catalogue step).db.isAvailable s m =
      ((if step.call.sourceId = s then listedIds parse collation catalogue step else none).map
        fun ids => decide (m ∈ ids)).getD (catalogue.db.isAvailable s m) := by
  rw [serve, listedIds]
  cases hCall : discover parse collation step.now step.call step.attempt catalogue with
  | error error =>
    refine ⟨.refl catalogue, fun s m => ?_⟩
    rw [ite_self]
    rfl
  | ok result =>
    obtain ⟨next, execution⟩ := result
    obtain hRecorded | ⟨source, parser, answer, listing, hSent, hListing, hApply⟩ :=
      discover_cases hCall
    · refine ⟨kept_append (hRecorded.db ▸ .refl _) (fun s m => by rw [hRecorded.db])
        hRecorded.runs hRecorded.checks, fun s m => ?_⟩
      dsimp only
      rw [hRecorded.db]
      cases step.attempt with
      | sent parser answer => simp [hRecorded.status]
      | unsupported reason => simp
      | noCredential => simp
    · have hApplied := applied_of_listing hListing hApply
      obtain ⟨_, _, -, -, hNext, hChecks, -⟩ := applyListing_eq_ok hApply
      have hRuns : next.runs = catalogue.runs ++ [execution.run] := by rw [hNext]
      refine ⟨kept_append hApplied.only hApplied.confirmed hRuns hChecks, fun s m => ?_⟩
      rw [hSent]
      dsimp only
      rw [if_pos hApplied.status, hListing, hApplied.available s m]
      by_cases hHere : step.call.sourceId = s
      · subst hHere
        rw [if_pos rfl, if_pos rfl]
        rfl
      · rw [if_neg (Ne.symm hHere), if_neg hHere]
        rfl

theorem serveAll_step (steps : List Step) (catalogue : Catalogue) :
    Kept catalogue (steps.foldl (serve parse collation) catalogue) ∧
    ∀ s m, (steps.foldl (serve parse collation) catalogue).db.isAvailable s m =
      ((lastListed parse collation s steps catalogue).map fun ids => decide (m ∈ ids)).getD
        (catalogue.db.isAvailable s m) := by
  induction steps generalizing catalogue with
  | nil => exact ⟨.refl catalogue, fun _ _ => rfl⟩
  | cons step rest ih =>
    obtain ⟨hStep, hAvailable⟩ := @serve_step parse collation catalogue step
    obtain ⟨hRest, hLater⟩ := ih (serve parse collation catalogue step)
    refine ⟨hStep.trans hRest, fun s m => ?_⟩
    rw [List.foldl_cons, hLater s m, hAvailable s m, lastListed]
    cases lastListed parse collation s rest (serve parse collation catalogue step) with
    | none => rfl
    | some ids => rfl

/-- After any discoveries, successful or not, of any sources in any order: a source's
available models are those that its last successful discovery listed, the others are as they
were, nothing is confirmed and nothing but models is changed.  The runs are a log: it only
grows, and by entries that meet the checks of its table. -/
theorem availability_is_last_listing (parse : Bytes → Option Value)
    (collation : String → String → Bool) (steps : List Step) (catalogue : Catalogue) :
    let final := steps.foldl (serve parse collation) catalogue
    (∀ s m, final.db.isAvailable s m =
      ((lastListed parse collation s steps catalogue).map fun ids => decide (m ∈ ids)).getD
        (catalogue.db.isAvailable s m)) ∧
    (∀ s m, final.db.isConfirmed s m = catalogue.db.isConfirmed s m) ∧
    OnlyModels catalogue.db final.db ∧
    ∃ added, final.runs = catalogue.runs ++ added ∧ ∀ run ∈ added, run.meetsChecks = true := by
  obtain ⟨hKept, hAvailable⟩ := @serveAll_step parse collation steps catalogue
  exact ⟨hAvailable, hKept.confirmed, hKept.only, hKept.runs⟩

end History

end AiGateway.ControlPlane.ModelDiscovery
