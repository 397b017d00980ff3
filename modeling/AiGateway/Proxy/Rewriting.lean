import AiGateway.Base.Members
import AiGateway.Base.SameDoc
import AiGateway.Proxy.Attribution
import Mathlib.Algebra.Order.Ring.Int
import Mathlib.Tactic.NormNum

/-!
# What rewriting the model changes

A request for a mapped model is read as JSON, its top-level model replaced, and
written again.  Numbers pass through 64-bit integers and doubles on the way, and
an object keeps one member of a name, so more than the model may change.
-/

namespace AiGateway.Proxy

set_option autoImplicit false

open AiGateway.Json AiGateway.JsonText AiGateway.Text

/-- The doubles as the JSON library reads and writes them: a number is read as the
nearest double, and a double is written as a number that is read as that double.
Which double is nearest depends on the value alone, up to the sign of zero. -/
structure Doubles where
  Double : Type
  nearest : Literal → Double
  text : Double → String
  literal : Double → Literal
  readNumber_text : ∀ y, readNumber (text y).toList = some (literal y, [])
  nearest_literal : ∀ y, nearest (literal y) = y
  value_nearest : ∀ {l l' : Literal}, l.value = l'.value →
    (literal (nearest l)).value = (literal (nearest l')).value

namespace Doubles

variable (doubles : Doubles)

/-- An integer that fits `u64` or, behind a sign, `i64` is read as such; any other
number is read as the nearest double. -/
def toNumber (l : Literal) : Number :=
  if l.plain ∧ ¬ l.negative ∧ l.digits < 2 ^ 64 then .posInt (UInt64.ofNat l.digits)
  else if l.plain ∧ l.negative ∧ 0 < l.digits ∧ l.digits ≤ 2 ^ 63 then
    .negInt (Int64.ofInt (-l.digits))
  else .float (doubles.text (doubles.nearest l))

mutual
def toValue : Doc → Value
  | .null => .null
  | .bool b => .bool b
  | .number l => .number (doubles.toNumber l)
  | .string s => .string s
  | .array items => .array (toItems items)
  | .object members => .object (Fields.insertAll [] (toFields members))

def toItems : List Doc → List Value
  | [] => []
  | d :: rest => toValue d :: toItems rest

def toFields : List (String × Doc) → Fields
  | [] => []
  | (name, d) :: rest => (name, toValue d) :: toFields rest
end

/-- What the library reads as JSON is JSON, and it reads the value the text has
up to its numbers and the members it keeps. -/
def Reads (parse : Bytes → Option Value) : Prop :=
  ∀ {body : Bytes} {v : Value}, parse body = some v →
    ∃ d, readBytes body = some d ∧ v = doubles.toValue d

theorem toItems_eq_map (items : List Doc) : doubles.toItems items = items.map doubles.toValue := by
  induction items with
  | nil => rfl
  | cons d rest ih => rw [toItems, ih, List.map_cons]

theorem toFields_eq_map (members : List (String × Doc)) : doubles.toFields members =
    members.map fun member => (member.1, doubles.toValue member.2) := by
  induction members with
  | nil => rfl
  | cons member rest ih => rw [toFields, ih, List.map_cons]

/-! ## Numbers -/

/-- An integer in the range of `u64` or, when negative, `i64`. -/
def Fits (l : Literal) : Prop :=
  l.plain = true ∧ if l.negative then 0 < l.digits ∧ l.digits ≤ 2 ^ 63 else l.digits < 2 ^ 64

/-- The number fits an integer type or is the decimal a double is written as. -/
def Exact (l : Literal) : Prop := Fits l ∨ ∃ y, (doubles.literal y).value = l.value

/-- A number read and written again. -/
def rewrite (l : Literal) : Literal := ofNumber (doubles.toNumber l)

theorem value_ofInt (i : Int) : (Literal.ofInt i).value = i := by
  rw [Literal.value, Literal.ofInt]
  rcases lt_or_ge i 0 with hNegative | hNat
  · simp [Nat.cast_natAbs, abs_of_neg hNegative, hNegative]
  · simp [Nat.cast_natAbs, abs_of_nonneg hNat, not_lt.mpr hNat]

theorem value_of_plain {l : Literal} (h : l.plain = true) :
    l.value = (if l.negative then -1 else 1) * (l.digits : ℚ) := by
  rw [Literal.value, l.whole h, zpow_zero, mul_one]

theorem value_rewrite_of_fits {l : Literal} (h : Fits l) : (doubles.rewrite l).value = l.value := by
  obtain ⟨hPlain, hRange⟩ := h
  rw [rewrite, toNumber, value_of_plain hPlain]
  cases hSign : l.negative with
  | false =>
    rw [hSign] at hRange
    have hSmall : l.digits < 2 ^ 64 := hRange
    rw [if_pos ⟨hPlain, by simp, hSmall⟩, ofNumber, value_ofInt, UInt64.toNat_ofNat_of_lt' hSmall]
    simp
  | true =>
    rw [hSign] at hRange
    obtain ⟨hPos, hSmall⟩ : 0 < l.digits ∧ l.digits ≤ 2 ^ 63 := hRange
    rw [if_neg (by simp), if_pos ⟨hPlain, rfl, hPos, hSmall⟩, ofNumber, value_ofInt,
      Int64.toInt_ofInt_of_le (by omega) (by omega)]
    simp

theorem toNumber_of_not_fits {l : Literal} (h : ¬ Fits l) :
    doubles.toNumber l = .float (doubles.text (doubles.nearest l)) := by
  rw [toNumber, if_neg, if_neg]
  · rintro ⟨hPlain, hSign, hRange⟩
    exact h ⟨hPlain, by rw [if_pos hSign]; exact hRange⟩
  · rintro ⟨hPlain, hSign, hRange⟩
    exact h ⟨hPlain, by rw [if_neg hSign]; exact hRange⟩

theorem rewrite_of_not_fits {l : Literal} (h : ¬ Fits l) :
    doubles.rewrite l = doubles.literal (doubles.nearest l) := by
  rw [rewrite, doubles.toNumber_of_not_fits h, ofNumber, doubles.readNumber_text]
  rfl

/-- The numbers whose value is kept. -/
theorem value_rewrite_iff (l : Literal) : (doubles.rewrite l).value = l.value ↔ doubles.Exact l := by
  by_cases hFits : Fits l
  · exact ⟨fun _ => .inl hFits, fun _ => doubles.value_rewrite_of_fits hFits⟩
  · rw [doubles.rewrite_of_not_fits hFits]
    constructor
    · intro h
      exact .inr ⟨doubles.nearest l, h⟩
    · intro h
      obtain ⟨y, hValue⟩ := h.resolve_left hFits
      -- the nearest double of a decimal some double is written as is that double
      rw [doubles.value_nearest hValue.symm, doubles.nearest_literal, hValue]

theorem readableNumber_toNumber (l : Literal) : ReadableNumber (doubles.toNumber l) := by
  rw [toNumber]
  split
  · trivial
  split
  · trivial
  · exact ⟨_, doubles.readNumber_text _⟩

/-! ## Values -/

theorem insertAll_nil (fields : Fields) : Fields.insertAll [] fields = Entries.ofList fields := by
  rw [Fields.insertAll, Entries.ofList]
  congr 1
  funext found field
  exact Fields.insert_eq found field.1 field.2

theorem toValue_object (members : List (String × Doc)) :
    doubles.toValue (.object members) = .object ((Entries.ofList members).map fun member =>
      (member.1, doubles.toValue member.2)) := by
  rw [toValue, insertAll_nil, toFields_eq_map, Entries.ofList_map]

theorem readable_toValue (d : Doc) : Readable (doubles.toValue d) := by
  induction d using doc_induction with
  | hNull => trivial
  | hBool b => trivial
  | hNumber l => exact doubles.readableNumber_toNumber l
  | hString s => trivial
  | hArray items ih =>
    rw [toValue, toItems_eq_map, Readable, readableItems_iff]
    exact List.forall_mem_map.mpr ih
  | hObject members ih =>
    rw [toValue_object, Readable, readableFields_iff]
    exact List.forall_mem_map.mpr fun member hMember =>
      ih member (Entries.mem_of_mem_ofList hMember)

/-- What the library reads and writes says what the document read again says. -/
theorem ofValue_toValue (d : Doc) : ofValue (doubles.toValue d) = reread doubles.rewrite d := by
  induction d using doc_induction with
  | hNull => rfl
  | hBool b => rfl
  | hNumber l => rfl
  | hString s => rfl
  | hArray items ih =>
    rw [toValue, toItems_eq_map, ofValue, ofItems_eq_map, reread, rereadItems_eq_map,
      List.map_map]
    exact congrArg Doc.array (List.map_congr_left ih)
  | hObject members ih =>
    rw [toValue_object, ofValue, ofFields_eq_map, reread_object, List.map_map]
    refine congrArg Doc.object (List.map_congr_left fun member hMember => ?_)
    exact congrArg (Prod.mk member.1) (ih member (Entries.mem_of_mem_ofList hMember))

/-! ## The body sent -/

/-- The members the library keeps, read and written again. -/
def kept (members : List (String × Doc)) : List (String × Doc) :=
  (Entries.ofList members).map fun member => (member.1, reread doubles.rewrite member.2)

theorem ascending_kept (members : List (String × Doc)) : Entries.Ascending (doubles.kept members) :=
  (Entries.ascending_ofList members).map (reread doubles.rewrite)

theorem readBytes_rewritten {members : List (String × Doc)} {fields : Fields}
    (h : doubles.toValue (.object members) = .object fields) (upstreamModelId : String) :
    readBytes (utf8 (render (.object (Fields.insert fields "model" (.string upstreamModelId))))) =
      some (.object (Entries.insert (doubles.kept members) "model" (.string upstreamModelId))) := by
  have hReadable : Readable (.object fields) := by
    rw [← h]
    exact doubles.readable_toValue _
  have hInserted : Readable (.object (Fields.insert fields "model" (.string upstreamModelId))) := by
    rw [Readable, readableFields_iff] at hReadable ⊢
    intro field hField
    obtain rfl | hOld := Fields.mem_insert hField
    · trivial
    · exact hReadable field hOld
  have hKept : fields.map (fun field => (field.1, ofValue field.2)) = doubles.kept members := by
    have hSame := doubles.ofValue_toValue (.object members)
    rw [h, ofValue, ofFields_eq_map, reread_object] at hSame
    exact Doc.object.inj hSame
  rw [readBytes_render hInserted, ofValue, ofFields_eq_map, Fields.insert_eq,
    ← Entries.insert_map ofValue, hKept]
  rfl

end Doubles

/-- The top-level model, of several the last. -/
def topModel : Doc → Option Doc
  | .object members => Entries.get members.reverse "model"
  | _ => none

/-- The same model leaves the body as it is; another one takes the place of the
top-level model and changes nothing else.  The model recorded is the one sent. -/
structure RewritesOnlyModel (body : Bytes) (requestedModel upstreamModelId : String) (sent : Bytes)
    (recorded : Option String) : Prop where
  unmapped : upstreamModelId = requestedModel → sent = body
  mapped : upstreamModelId ≠ requestedModel → ∃ written rewritten, readBytes body = some written ∧
    readBytes sent = some rewritten ∧
      Replaces "model" (.string upstreamModelId) written rewritten
  records : ∃ rewritten model, readBytes sent = some rewritten ∧
    topModel rewritten = some (.string model) ∧ recorded = some model

/-- Outside the top-level model every number is exact and no name stands for two
different members. -/
def Lossless (doubles : Doubles) (body : Bytes) : Prop :=
  ∀ {members : List (String × Doc)}, readBytes body = some (.object members) →
    Survives doubles.Exact (.object (Entries.without members "model"))

section Prepared

variable {doubles : Doubles} {parse : Bytes → Option Value} {body : Bytes} {m u : String}

theorem topModel_insert {members : List (String × Doc)} (h : Entries.Ascending members)
    (value : Doc) : topModel (.object (Entries.insert members "model" value)) = some value := by
  rw [topModel, ← Entries.get_ofList,
    Entries.ofList_of_ascending (Entries.ascending_insert h "model" value), Entries.get_insert,
    if_pos rfl]

/-- A request that names its model is an object whose last model is that one. -/
theorem exists_members (hReads : doubles.Reads parse) {payload : Value}
    (hParsed : parse body = some payload) (hNamed : payload.get "model" = some (.string m)) :
    ∃ members fields, readBytes body = some (.object members) ∧
      doubles.toValue (.object members) = .object fields ∧ payload = .object fields ∧
      topModel (.object members) = some (.string m) := by
  obtain ⟨d, hBody, rfl⟩ := hReads hParsed
  cases d with
  | object members =>
    refine ⟨members, _, hBody, rfl, rfl, ?_⟩
    rw [doubles.toValue_object] at hNamed
    have hGet : (Entries.get (Entries.ofList members) "model").map doubles.toValue =
        some (.string m) := by
      rw [← Entries.get_map]
      exact hNamed
    obtain ⟨model, hModel, hString⟩ := Option.map_eq_some_iff.mp hGet
    rw [topModel, ← Entries.get_ofList, hModel]
    cases model with
    | string s => rw [Value.string.inj hString]
    | _ => cases hString
  | _ => cases hNamed

theorem prepareModelRequest_same : prepareModelRequest parse body m m = ⟨body, m⟩ := by
  rw [prepareModelRequest, if_pos rfl]

theorem prepareModelRequest_mapped {fields : Fields} (hParsed : parse body = some (.object fields))
    (hOther : u ≠ m) : prepareModelRequest parse body m u =
      ⟨utf8 (render (.object (Fields.insert fields "model" (.string u)))), u⟩ := by
  rw [prepareModelRequest, if_neg hOther, hParsed]

theorem prepared_rewritesOnlyModel_iff (hReads : doubles.Reads parse) {payload : Value}
    (hParsed : parse body = some payload) (hNamed : payload.get "model" = some (.string m)) :
    RewritesOnlyModel body m u (prepareModelRequest parse body m u).body
        (some (prepareModelRequest parse body m u).upstreamModelId) ↔
      u = m ∨ Lossless doubles body := by
  obtain ⟨members, fields, hBody, hFields, rfl, hModel⟩ := exists_members hReads hParsed hNamed
  by_cases hSame : u = m
  · subst hSame
    rw [prepareModelRequest_same]
    refine iff_of_true ?_ (.inl rfl)
    exact ⟨fun _ => rfl, fun hOther => absurd rfl hOther, _, _, hBody, hModel, rfl⟩
  · have hSent := doubles.readBytes_rewritten hFields u
    have hReplaces := replaces_insert_iff doubles.value_rewrite_iff "model" (.string u) members
    rw [prepareModelRequest_mapped hParsed hSame]
    constructor
    · intro h
      obtain ⟨written, rewritten, hWritten, hRewritten, hOnly⟩ := h.mapped hSame
      obtain rfl := Option.some.inj (hBody.symm.trans hWritten)
      obtain rfl := Option.some.inj (hSent.symm.trans hRewritten)
      refine .inr fun {members'} hBody' => ?_
      obtain rfl := Doc.object.inj (Option.some.inj (hBody.symm.trans hBody'))
      exact hReplaces.mp hOnly
    · intro h
      have hSurvives := (h.resolve_left hSame) hBody
      refine ⟨fun hThis => absurd hThis hSame, fun _ => ?_, ?_⟩
      · exact ⟨_, _, hBody, hSent, hReplaces.mpr hSurvives⟩
      · exact ⟨_, u, hSent, topModel_insert (doubles.ascending_kept members) _, rfl⟩

end Prepared

theorem rewrites_only_model_iff (doubles : Doubles) (env : Env) (context : AttemptContext)
    (hReads : doubles.Reads context.parse) (candidate : FallbackCandidate) (attemptNo : Nat)
    (isFallback : Bool) (w : World) :
    RewritesOnlyModel context.body context.model candidate.upstreamModel
        (execute env context candidate attemptNo isFallback w).1.requestBody
        (execute env context candidate attemptNo isFallback w).1.usage.upstreamModelId ↔
      candidate.upstreamModel = context.model ∨ Lossless doubles context.body :=
  prepared_rewritesOnlyModel_iff hReads context.parsed context.named

namespace Seeded

/-- The request for model `m` with a number written as the text. -/
def body (text : String) : Bytes :=
  utf8 (render (.object [("model", .string "m"), ("seed", .number (.float text))]))

theorem readBytes_body {text : String} {l : Literal} (h : readNumber text.toList = some (l, [])) :
    readBytes (body text) = some (.object [("model", .string "m"), ("seed", .number l)]) := by
  have hNumber : ofNumber (.float text) = l := by
    rw [ofNumber, h]
    rfl
  have hReadable : Readable (.object [("model", .string "m"), ("seed", .number (.float text))]) :=
    ⟨trivial, ⟨l, h⟩, trivial⟩
  rw [body, readBytes_render hReadable, ← hNumber]
  rfl

def fraction : Literal := ⟨false, 5, -1, false, nofun⟩

def large : Literal := .ofInt 18446744073709551616

def rounded : Literal := ⟨false, 18446744073709552, 3, false, nofun⟩

/-- The doubles next to `0.5` and `2 ^ 64`, as they are written. -/
def doubles : Doubles where
  Double := Bool
  nearest l := decide (l.value = fraction.value)
  text small := if small then "0.5" else "1.8446744073709552e+19"
  literal small := if small then fraction else rounded
  readNumber_text small := by cases small <;> decide
  nearest_literal small := by
    cases small
    · simp only [Bool.false_eq_true, if_false, decide_eq_false_iff_not]
      norm_num [Literal.value, fraction, rounded]
    · exact decide_eq_true rfl
  value_nearest h := by rw [h]

def parse (body : Bytes) : Option Value := (readBytes body).map doubles.toValue

theorem reads : doubles.Reads parse := by
  intro body v h
  obtain ⟨d, hBody, hValue⟩ := Option.map_eq_some_iff.mp h
  exact ⟨d, hBody, hValue.symm⟩

def payload (l : Literal) : Value :=
  doubles.toValue (.object [("model", .string "m"), ("seed", .number l)])

theorem parse_body {text : String} {l : Literal} (h : readNumber text.toList = some (l, [])) :
    parse (body text) = some (payload l) := by
  rw [parse, readBytes_body h]
  rfl

theorem get_payload (l : Literal) : (payload l).get "model" = some (.string "m") := by
  rw [payload, Doubles.toValue_object]
  change Entries.get _ "model" = _
  rw [Entries.get_map, Entries.get_ofList]
  rfl

theorem read_fraction : readNumber "0.5".toList = some (fraction, []) := by decide

theorem read_large : readNumber "18446744073709551616".toList = some (large, []) := by decide

def context : AttemptContext where
  parse := parse
  parseDate _ := none
  body := body "0.5"
  payload := payload fraction
  model := "m"
  protocol := .openAiChatCompletions
  requestId := "request"
  virtualKeyId := none
  clientSource := "client"
  isStreamed := false
  totalTimeout := 0
  parsed := parse_body read_fraction
  named := get_payload fraction

def candidate : FallbackCandidate where
  account := { id := "a", providerId := "s", displayName := "a" }
  provider := { id := "s", name := "s", baseUrl := "https://up.example" }
  providerId := "s"
  sourceId := "s"
  upstreamModel := "u"
  protocolUpstream := .openAiChatCompletions
  mode := "native"
  upstreamEndpoint := none
  degradedFeatures := []

def env : Env where
  health _ _ := Health.unknownHealth true "unknown"
  elapsed _ := 0
  now _ := 0
  subsecNanos _ := 0
  forward _ _ _ := .ok { status := 200 }

theorem lossless_iff {text : String} {l : Literal} (h : readNumber text.toList = some (l, [])) :
    Lossless doubles (body text) ↔ doubles.Exact l := by
  have hBody := readBytes_body h
  have hWithout : Entries.without [("model", Doc.string "m"), ("seed", Doc.number l)] "model" =
      [("seed", .number l)] := by simp [Entries.without]
  have hSurvives : Survives doubles.Exact (.object [("seed", .number l)]) ↔ doubles.Exact l := by
    have hKept : Entries.ofList [("seed", Doc.number l)] = [("seed", .number l)] := rfl
    rw [survives_object_iff, hKept, List.forall_mem_singleton, survives_number_iff]
    refine and_iff_right ?_
    intro member hMember other hOther _
    rw [List.mem_singleton.mp hMember, List.mem_singleton.mp hOther]
    exact same_refl _
  constructor
  · intro hLossless
    rw [← hSurvives, ← hWithout]
    exact hLossless hBody
  · intro hExact members hMembers
    obtain rfl := Doc.object.inj (Option.some.inj (hBody.symm.trans hMembers))
    rw [hWithout, hSurvives]
    exact hExact

end Seeded

theorem large_seed_changed : ¬ RewritesOnlyModel (Seeded.body "18446744073709551616") "m" "u"
    (prepareModelRequest Seeded.parse (Seeded.body "18446744073709551616") "m" "u").body
    (some (prepareModelRequest Seeded.parse (Seeded.body "18446744073709551616") "m"
      "u").upstreamModelId) := by
  have hParsed := Seeded.parse_body Seeded.read_large
  rw [prepared_rewritesOnlyModel_iff Seeded.reads hParsed (Seeded.get_payload _),
    Seeded.lossless_iff Seeded.read_large]
  rintro (hSame | ⟨-, hRange⟩ | ⟨small, hValue⟩)
  · exact absurd hSame (by decide)
  · exact absurd hRange (by decide)
  · cases small
    · change Seeded.rounded.value = Seeded.large.value at hValue
      norm_num [Seeded.rounded, Seeded.large, Literal.ofInt, Literal.value] at hValue
    · change Seeded.fraction.value = Seeded.large.value at hValue
      norm_num [Seeded.fraction, Seeded.large, Literal.ofInt, Literal.value] at hValue

theorem rewrites_only_model_fraction :
    RewritesOnlyModel Seeded.context.body Seeded.context.model "u"
      (execute Seeded.env Seeded.context Seeded.candidate 1 false {}).1.requestBody
      (execute Seeded.env Seeded.context Seeded.candidate 1 false {}).1.usage.upstreamModelId :=
  (rewrites_only_model_iff Seeded.doubles Seeded.env Seeded.context Seeded.reads Seeded.candidate
    1 false {}).mpr (.inr ((Seeded.lossless_iff Seeded.read_fraction).mpr (.inr ⟨true, rfl⟩)))

end AiGateway.Proxy
