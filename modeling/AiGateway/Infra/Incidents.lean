import AiGateway.Infra.Events

/-!
# Consistency of the incident log

The flag agrees with the map whenever the lock is free.  A marked incident
belongs to exactly one call, which knows how much of the incident is in the log
and whether a failure was reported since the mark; hence no row is written
twice, and a failure reported during a recovery opens a new incident.
-/

namespace AiGateway.Events

set_option autoImplicit false

open AiGateway.Concurrent AiGateway.Health Relation

namespace EventRepository

variable (r : EventRepository)

def failures (id : Nat) : Nat := r.systemEvents.count (.connectionFailed id)

def recovered (id : Nat) : Nat := r.systemEvents.count (.connectionRecovered id)

/-- The flag as it will be when the lock is free. -/
def settledFlag : Bool :=
  match r.lock with
  | .free => r.hasDatabaseIncidents
  | .storing value => value

theorem failures_stored (event : SystemEvent) (id : Nat) :
    (r.stored event).failures id =
      r.failures id + if event = .connectionFailed id then 1 else 0 := by
  simp [failures, stored, List.count_append, List.count_singleton]

theorem recovered_stored (event : SystemEvent) (id : Nat) :
    (r.stored event).recovered id =
      r.recovered id + if event = .connectionRecovered id then 1 else 0 := by
  simp [recovered, stored, List.count_append, List.count_singleton]

end EventRepository

/-- A recovery is stored only after the failure with the same id. -/
def Ordered (events : List SystemEvent) : Prop :=
  ∀ id before after, events = before ++ .connectionRecovered id :: after →
    .connectionFailed id ∈ before

theorem Ordered.concat {events : List SystemEvent} {event : SystemEvent} (h : Ordered events)
    (hNew : ∀ id, event = .connectionRecovered id → .connectionFailed id ∈ events) :
    Ordered (events ++ [event]) := by
  intro id before after hSplit
  obtain rfl | ⟨rest, last, rfl⟩ := List.eq_nil_or_concat after
  · obtain ⟨rfl, hEvent⟩ := List.append_inj' hSplit rfl
    exact hNew id (List.singleton_inj.mp hEvent)
  · rw [List.concat_eq_append, ← List.cons_append, ← List.append_assoc] at hSplit
    exact h id before rest (List.append_inj' hSplit rfl).1

open EventRepository

/-! ## The map -/

/-- Incidents are filed under their component, under distinct ids that were
drawn. -/
structure Filed (r : EventRepository) : Prop where
  keyed : ∀ c inc, r.incident? c = some inc → inc.component = c ∧ inc.id < r.nextId
  distinct : ∀ c c' inc inc', r.incident? c = some inc → r.incident? c' = some inc' →
    inc.id = inc'.id → c = c'

/-- An entry that keeps the id of the old one, or takes a new id. -/
theorem Filed.insert {r r' : EventRepository} (h : Filed r) {c : String} {inc : DatabaseIncident}
    (hGet : ∀ k, r'.incident? k = if k = c then some inc else r.incident? k)
    (hComponent : inc.component = c) (hNext : r.nextId ≤ r'.nextId) (hId : inc.id < r'.nextId)
    (hOwn : inc.id = r.nextId ∨ ∃ old, r.incident? c = some old ∧ old.id = inc.id) :
    Filed r' := by
  have hOther : ∀ k old, k ≠ c → r.incident? k = some old → old.id ≠ inc.id := by
    intro k old hNe hOld hSame
    obtain hFresh | ⟨own, hOwn, hOwnId⟩ := hOwn
    · have hLt := (h.keyed k old hOld).2
      omega
    · exact hNe (h.distinct k c old own hOld hOwn (hSame.trans hOwnId.symm))
  constructor
  · intro k x hx
    rw [hGet] at hx
    split at hx
    · next hKey =>
      cases hx
      exact ⟨hComponent.trans hKey.symm, hId⟩
    · obtain ⟨hKeyed, hLt⟩ := h.keyed k x hx
      exact ⟨hKeyed, by omega⟩
  · intro k k' x x' hx hx' hSame
    rw [hGet] at hx hx'
    split at hx
    · next hKey =>
      cases hx
      split at hx'
      · next hKey' => exact hKey.trans hKey'.symm
      · next hKey' => exact absurd hSame.symm (hOther k' x' hKey' hx')
    · next hKey =>
      split at hx'
      · cases hx'
        exact absurd hSame (hOther k x hKey hx)
      · exact h.distinct k k' x x' hx hx' hSame

theorem Filed.erase {r r' : EventRepository} (h : Filed r) {c : String}
    (hGet : ∀ k, r'.incident? k = if k = c then none else r.incident? k)
    (hNext : r'.nextId = r.nextId) : Filed r' := by
  have hOld : ∀ k x, r'.incident? k = some x → r.incident? k = some x := by
    intro k x hx
    rw [hGet] at hx
    split at hx
    · cases hx
    · exact hx
  constructor
  · intro k x hx
    rw [hNext]
    exact h.keyed k x (hOld k x hx)
  · intro k k' x x' hx hx'
    exact h.distinct k k' x x' (hOld k x hx) (hOld k' x' hx')

/-! ## What a failure and the two closing sections do -/

/-- A failure reported while the incident is being recovered is noted once. -/
def noted (now : DateTime) (incident : DatabaseIncident) : DatabaseIncident :=
  if incident.recovering ∧ incident.failureDuringRecoveryAt = none then
    { incident with failureDuringRecoveryAt := some now }
  else incident

theorem incident?_remember_some {r : EventRepository} {c : String} {inc : DatabaseIncident}
    (h : r.incident? c = some inc) (now : DateTime) (k : String) :
    (r.rememberDatabaseFailure c now).incident? k =
      if k = c then some (noted now inc) else r.incident? k := by
  have hKept : r.rememberDatabaseFailure c now =
      if inc.recovering ∧ inc.failureDuringRecoveryAt = none then
        { r with
          reports := r.reports ++ [(c, now)]
          databaseIncidents := r.databaseIncidents.insert c
            { inc with failureDuringRecoveryAt := some now } }
      else { r with reports := r.reports ++ [(c, now)] } := by
    unfold rememberDatabaseFailure
    dsimp only
    rw [show ({ r with reports := r.reports ++ [(c, now)] } : EventRepository).incident? c =
      some inc from h]
  rw [hKept, noted]
  split
  · exact r.databaseIncidents.get_insert c _ k
  · split
    · next hKey => rw [hKey]; exact h
    · rfl

theorem remember_none {r : EventRepository} {c : String} (h : r.incident? c = none)
    (now : DateTime) :
    r.rememberDatabaseFailure c now =
      { r with
        reports := r.reports ++ [(c, now)]
        databaseIncidents :=
          r.databaseIncidents.insert c (newDatabaseIncident r.nextId c now)
        nextId := r.nextId + 1
        lock := .storing true } := by
  unfold rememberDatabaseFailure
  dsimp only
  rw [show ({ r with reports := r.reports ++ [(c, now)] } : EventRepository).incident? c =
    none from h]

/-- Nothing but the map and the reports changes under a known component. -/
theorem remember_some {r : EventRepository} {c : String} {inc : DatabaseIncident}
    (h : r.incident? c = some inc) (now : DateTime) :
    ∃ incidents, r.rememberDatabaseFailure c now =
      { r with reports := r.reports ++ [(c, now)], databaseIncidents := incidents } := by
  unfold rememberDatabaseFailure
  dsimp only
  rw [show ({ r with reports := r.reports ++ [(c, now)] } : EventRepository).incident? c =
    some inc from h]
  dsimp only
  split
  · exact ⟨_, rfl⟩
  · exact ⟨_, rfl⟩

theorem close_reopens {r : EventRepository} {inc current : DatabaseIncident} {at' : DateTime}
    (h : r.incident? inc.component = some current) (hId : current.id = inc.id)
    (hFailed : current.failureDuringRecoveryAt = some at') :
    r.closeRecovery inc =
      { r with
        databaseIncidents := r.databaseIncidents.insert inc.component
          (newDatabaseIncident r.nextId inc.component at')
        nextId := r.nextId + 1 } := by
  unfold closeRecovery
  rw [h]
  dsimp only
  rw [if_neg (by simpa using hId), hFailed]

theorem close_removes {r : EventRepository} {inc current : DatabaseIncident}
    (h : r.incident? inc.component = some current) (hId : current.id = inc.id)
    (hQuiet : current.failureDuringRecoveryAt = none) :
    r.closeRecovery inc =
      { r with
        databaseIncidents := r.databaseIncidents.erase inc.component
        lock := if (r.databaseIncidents.erase inc.component).isEmpty then .storing false
          else r.lock } := by
  unfold closeRecovery
  rw [h]
  dsimp only
  rw [if_neg (by simpa using hId), hQuiet]

/-- An incident whose recovery was given up. -/
def released (persisted : Bool) (incident : DatabaseIncident) : DatabaseIncident :=
  { incident with
    persisted := incident.persisted || persisted
    recovering := false
    failureDuringRecoveryAt := none }

theorem release_of_current {r : EventRepository} {inc current : DatabaseIncident}
    (h : r.incident? inc.component = some current) (hId : current.id = inc.id)
    (persisted : Bool) :
    r.releaseDatabaseRecovery inc persisted =
      { r with
        databaseIncidents :=
          r.databaseIncidents.insert inc.component (released persisted current) } := by
  unfold releaseDatabaseRecovery
  rw [h]
  dsimp only
  rw [if_neg (by simpa using hId)]
  rfl

/-! ## What a call knows -/

/-- The first failure of a component among some reports. -/
def firstReport (component : String) (reports : List (String × DateTime)) : Option DateTime :=
  (reports.find? fun report => report.1 = component).map Prod.snd

theorem firstReport_concat (component c : String) (now : DateTime)
    (reports : List (String × DateTime)) :
    firstReport component (reports ++ [(c, now)]) =
      (firstReport component reports).or (if c = component then some now else none) := by
  unfold firstReport
  rw [List.find?_append, Option.map_or]
  congr 1
  rw [List.find?_singleton]
  by_cases h : c = component
  · simp [h]
  · simp [h]

/-- The incident carries the first failure reported since its mark. -/
structure Noted (r : EventRepository) (current : DatabaseIncident) (since : Nat) : Prop where
  bound : since ≤ r.reports.length
  first : current.failureDuringRecoveryAt =
    firstReport current.component (r.reports.drop since)

/-- What a call knows of its incident, as the map and the log have it. -/
def Recovery.Fits (r : EventRepository) (current : DatabaseIncident) : Recovery → Prop
  | .marked incident since =>
    incident.persisted = current.persisted ∧ r.failures current.id = current.persisted.toNat ∧
      r.recovered current.id = 0 ∧ Noted r current since
  | .writing _ since persisted =>
    persisted = true ∧ r.failures current.id = 1 ∧ r.recovered current.id = 0 ∧
      Noted r current since
  | .closing _ since =>
    r.failures current.id = 1 ∧ r.recovered current.id = 1 ∧ Noted r current since
  | .releasing _ persisted =>
    r.failures current.id = (current.persisted || persisted).toNat ∧ r.recovered current.id = 0
  | .waiting _ | .returned | .dropped => True

/-- The incident of a call is in the map, marked, and fits what the call knows. -/
def Tracks (r : EventRepository) (call : Recovery) : Prop :=
  ∀ inc ∈ call.incident?, ∃ current, r.incident? inc.component = some current ∧
    current.id = inc.id ∧ current.recovering = true ∧ call.Fits r current

theorem Tracks.frame {r r' : EventRepository} {call : Recovery} (h : Tracks r call)
    (hGet : ∀ inc ∈ call.incident?, r'.incident? inc.component = r.incident? inc.component)
    (hFailures : ∀ inc ∈ call.incident?, r'.failures inc.id = r.failures inc.id)
    (hRecovered : ∀ inc ∈ call.incident?, r'.recovered inc.id = r.recovered inc.id)
    (hReports : r'.reports = r.reports) : Tracks r' call := by
  intro inc hInc
  obtain ⟨current, hFound, hId, hMarked, hFits⟩ := h inc hInc
  refine ⟨current, (hGet inc hInc).trans hFound, hId, hMarked, ?_⟩
  have hFailures' : r'.failures current.id = r.failures current.id := by
    rw [hId]
    exact hFailures inc hInc
  have hRecovered' : r'.recovered current.id = r.recovered current.id := by
    rw [hId]
    exact hRecovered inc hInc
  have hNoted : ∀ since, Noted r current since → Noted r' current since := by
    rintro since ⟨hBound, hFirst⟩
    exact ⟨by rwa [hReports], by rwa [hReports]⟩
  cases call with
  | marked incident since =>
    obtain ⟨hPersisted, h1, h2, h3⟩ := hFits
    exact ⟨hPersisted, hFailures'.trans h1, hRecovered'.trans h2, hNoted since h3⟩
  | writing incident since persisted =>
    obtain ⟨hPersisted, h1, h2, h3⟩ := hFits
    exact ⟨hPersisted, hFailures'.trans h1, hRecovered'.trans h2, hNoted since h3⟩
  | closing incident since =>
    obtain ⟨h1, h2, h3⟩ := hFits
    exact ⟨hFailures'.trans h1, hRecovered'.trans h2, hNoted since h3⟩
  | releasing incident persisted =>
    obtain ⟨h1, h2⟩ := hFits
    exact ⟨hFailures'.trans h1, hRecovered'.trans h2⟩
  | waiting component => trivial
  | returned => trivial
  | dropped => trivial

theorem Tracks.same {r r' : EventRepository} {call : Recovery} (h : Tracks r call)
    (hIncidents : r'.databaseIncidents = r.databaseIncidents)
    (hEvents : r'.systemEvents = r.systemEvents) (hReports : r'.reports = r.reports) :
    Tracks r' call := by
  refine h.frame (fun _ _ => ?_) (fun _ _ => ?_) (fun _ _ => ?_) hReports
  · rw [incident?, hIncidents, incident?]
  · rw [failures, hEvents, failures]
  · rw [recovered, hEvents, recovered]

/-- One when the call has marked the incident with this id. -/
def Recovery.holds (id : Nat) (call : Recovery) : Nat :=
  if call.incident?.any fun inc => inc.id = id then 1 else 0

theorem holds_eq_one {call : Recovery} {inc : DatabaseIncident} (h : inc ∈ call.incident?) :
    call.holds inc.id = 1 := by
  rw [Option.mem_def] at h
  simp [Recovery.holds, h]

theorem holds_of_none {call : Recovery} (h : call.incident? = none) (id : Nat) :
    call.holds id = 0 := by
  simp [Recovery.holds, h]

structure Consistent (r : EventRepository) : Prop where
  flag : r.settledFlag = !r.databaseIncidents.isEmpty
  filed : Filed r
  calls : ∀ call ∈ r.recoveries, Tracks r call
  single : ∀ id, (r.recoveries.map (Recovery.holds id)).sum ≤ 1
  idle : ∀ c inc, r.incident? c = some inc → inc.recovering = false →
    r.failures inc.id = inc.persisted.toNat ∧ r.recovered inc.id = 0
  held : ∀ c inc, r.incident? c = some inc → inc.recovering = true →
    ∃ call ∈ r.recoveries, ∃ i ∈ call.incident?, i.id = inc.id
  ledger : ∀ id, r.failures id ≤ 1 ∧ r.recovered id ≤ r.failures id ∧
    (r.nextId ≤ id → r.failures id = 0)
  order : Ordered r.systemEvents

/-- A call holds the incident of a component exactly when it is for it. -/
theorem Consistent.apart {r : EventRepository} (h : Consistent r) {call : Recovery}
    (hCall : call ∈ r.recoveries) {c : String} {inc current : DatabaseIncident}
    (hInc : inc ∈ call.incident?) (hFound : r.incident? c = some current) :
    inc.id = current.id ↔ inc.component = c := by
  obtain ⟨own, hOwn, hOwnId, -, -⟩ := h.calls call hCall inc hInc
  constructor
  · intro hSame
    exact h.filed.distinct _ _ own current hOwn hFound (hOwnId.trans hSame)
  · rintro rfl
    rw [hFound, Option.some_inj] at hOwn
    rw [← hOwnId, hOwn]

/-- While a call holds an incident, the other calls are for other incidents and
other components. -/
theorem Consistent.others {r : EventRepository} (h : Consistent r) {a b : Recovery}
    {recoveries : List Recovery} (hMoves : Moves a b r.recoveries recoveries)
    {inc : DatabaseIncident} (hA : inc ∈ a.incident?) :
    ∃ others : List Recovery, (∀ x, x ∈ r.recoveries ↔ x = a ∨ x ∈ others) ∧
      (∀ x, x ∈ recoveries ↔ x = b ∨ x ∈ others) ∧
      ∀ x ∈ others, ∀ i ∈ x.incident?, i.id ≠ inc.id ∧ i.component ≠ inc.component := by
  obtain ⟨others, hOld, hNew, hSum⟩ := hMoves.exists_others
  refine ⟨others, hOld, hNew, fun x hx i hi => ?_⟩
  obtain ⟨current, hFound, hId, -, -⟩ := h.calls a hMoves.mem_old inc hA
  have hNe : i.id ≠ inc.id := by
    intro hSame
    have hOne := h.single inc.id
    have hX := le_sum_of_mem hx (Recovery.holds inc.id)
    rw [hSum, holds_eq_one hA] at hOne
    rw [← hSame, holds_eq_one hi, hSame] at hX
    omega
  refine ⟨hNe, fun hComponent => hNe ?_⟩
  rw [(h.apart ((hOld x).mpr (.inr hx)) hi hFound).mpr hComponent, hId]

/-! ## Steps that touch no incident -/

theorem Consistent.storeFlag {r : EventRepository} (h : Consistent r) {value : Bool}
    (hHeld : r.lock = .storing value) :
    Consistent { r with hasDatabaseIncidents := value, lock := .free } := by
  obtain ⟨hFlag, hFiled, hCalls, hSingle, hIdle, hKept, hLedger, hOrder⟩ := h
  refine ⟨?_, ⟨hFiled.keyed, hFiled.distinct⟩, ?_, hSingle, hIdle, hKept, hLedger, hOrder⟩
  · rw [settledFlag, hHeld] at hFlag
    exact hFlag
  · exact fun call hCall => (hCalls call hCall).same rfl rfl rfl

theorem Consistent.enter {r : EventRepository} (h : Consistent r) (component : String) :
    Consistent { r with recoveries := r.recoveries ++ [.waiting component] } := by
  obtain ⟨hFlag, hFiled, hCalls, hSingle, hIdle, hKept, hLedger, hOrder⟩ := h
  refine ⟨hFlag, ⟨hFiled.keyed, hFiled.distinct⟩, ?_, ?_, hIdle, ?_, hLedger, hOrder⟩
  · intro call hCall
    obtain hOld | hNew := List.mem_append.mp hCall
    · exact (hCalls call hOld).same rfl rfl rfl
    · rw [List.mem_singleton.mp hNew]
      rintro inc ⟨⟩
  · intro id
    simpa [Recovery.holds, Recovery.incident?] using hSingle id
  · intro c inc hFound hMarked
    obtain ⟨call, hCall, hInc⟩ := hKept c inc hFound hMarked
    exact ⟨call, List.mem_append_left _ hCall, hInc⟩

/-- A call that holds nothing goes away. -/
theorem Consistent.leave {r : EventRepository} (h : Consistent r) {a b : Recovery}
    {recoveries : List Recovery} (hMoves : Moves a b r.recoveries recoveries)
    (hA : a.incident? = none) (hB : b.incident? = none) :
    Consistent { r with recoveries := recoveries } := by
  obtain ⟨hFlag, hFiled, hCalls, hSingle, hIdle, hKept, hLedger, hOrder⟩ := h
  refine ⟨hFlag, ⟨hFiled.keyed, hFiled.distinct⟩, ?_, ?_, hIdle, ?_, hLedger, hOrder⟩
  · intro call hCall
    obtain rfl | hOld := hMoves.mem hCall
    · intro inc hInc
      rw [hB] at hInc
      cases hInc
    · exact (hCalls call hOld).same rfl rfl rfl
  · intro id
    have hSum := hMoves.sum (Recovery.holds id)
    rw [holds_of_none hA, holds_of_none hB] at hSum
    have hOne := hSingle id
    change (recoveries.map (Recovery.holds id)).sum ≤ 1
    omega
  · intro c inc hFound hMarked
    obtain ⟨call, hCall, i, hI, hId⟩ := hKept c inc hFound hMarked
    refine ⟨call, hMoves.mem_kept hCall ?_, i, hI, hId⟩
    rintro rfl
    rw [hA] at hI
    cases hI

/-! ## A reported failure -/

theorem noted_id (now : DateTime) (inc : DatabaseIncident) :
    (noted now inc).id = inc.id ∧ (noted now inc).component = inc.component ∧
      (noted now inc).persisted = inc.persisted ∧ (noted now inc).recovering = inc.recovering := by
  unfold noted
  split <;> simp

theorem noted_failure {inc : DatabaseIncident} (now : DateTime) (hMarked : inc.recovering = true) :
    (noted now inc).failureDuringRecoveryAt = inc.failureDuringRecoveryAt.or (some now) := by
  unfold noted
  cases hFailed : inc.failureDuringRecoveryAt with
  | none => simp [hMarked]
  | some first => simp [hFailed]

/-- A new report is noted by the incident of its component and no other. -/
theorem Noted.report {r r' : EventRepository} {current : DatabaseIncident} {since : Nat}
    (h : Noted r current since) {c : String} {now : DateTime}
    (hReports : r'.reports = r.reports ++ [(c, now)]) (hMarked : current.recovering = true) :
    Noted r' (if current.component = c then noted now current else current) since := by
  obtain ⟨hBound, hFirst⟩ := h
  have hDrop : r'.reports.drop since = r.reports.drop since ++ [(c, now)] := by
    rw [hReports, List.drop_append_of_le_length hBound]
  constructor
  · rw [hReports, List.length_append]
    omega
  · rw [hDrop]
    split
    · next hHere =>
      rw [noted_failure now hMarked, (noted_id now current).2.1, firstReport_concat, hHere,
        if_pos rfl, hFirst, hHere]
    · next hThere =>
      rw [firstReport_concat, if_neg (Ne.symm hThere), Option.or_none, hFirst]

theorem Recovery.Fits.report {r r' : EventRepository} {current : DatabaseIncident}
    {call : Recovery} (h : call.Fits r current) {c : String} {now : DateTime}
    (hReports : r'.reports = r.reports ++ [(c, now)])
    (hEvents : r'.systemEvents = r.systemEvents) (hMarked : current.recovering = true) :
    call.Fits r' (if current.component = c then noted now current else current) := by
  have hNoted : ∀ since, Noted r current since → Noted r' _ since :=
    fun since hOld => hOld.report hReports hMarked
  have hSame : (if current.component = c then noted now current else current).id = current.id ∧
      (if current.component = c then noted now current else current).persisted =
        current.persisted := by
    split
    · exact ⟨(noted_id now current).1, (noted_id now current).2.2.1⟩
    · exact ⟨rfl, rfl⟩
  have hFailures : ∀ id, r'.failures id = r.failures id := fun id => by
    rw [failures, hEvents, failures]
  have hRecovered : ∀ id, r'.recovered id = r.recovered id := fun id => by
    rw [recovered, hEvents, recovered]
  cases call with
  | marked incident since =>
    obtain ⟨hPersisted, h1, h2, h3⟩ := h
    refine ⟨?_, ?_, ?_, hNoted since h3⟩
    · rw [hSame.2, hPersisted]
    · rw [hSame.1, hSame.2, hFailures, h1]
    · rw [hSame.1, hRecovered, h2]
  | writing incident since persisted =>
    obtain ⟨hPersisted, h1, h2, h3⟩ := h
    refine ⟨hPersisted, ?_, ?_, hNoted since h3⟩
    · rw [hSame.1, hFailures, h1]
    · rw [hSame.1, hRecovered, h2]
  | closing incident since =>
    obtain ⟨h1, h2, h3⟩ := h
    refine ⟨?_, ?_, hNoted since h3⟩
    · rw [hSame.1, hFailures, h1]
    · rw [hSame.1, hRecovered, h2]
  | releasing incident persisted =>
    obtain ⟨h1, h2⟩ := h
    refine ⟨?_, ?_⟩
    · rw [hSame.1, hSame.2, hFailures, h1]
    · rw [hSame.1, hRecovered, h2]
  | waiting component => trivial
  | returned => trivial
  | dropped => trivial

/-- A report on a component whose incident, if any, becomes `entry`. -/
theorem Tracks.report {r r' : EventRepository} (hFiled : Filed r) {call : Recovery}
    (h : Tracks r call) {c : String} {now : DateTime}
    (hReports : r'.reports = r.reports ++ [(c, now)])
    (hEvents : r'.systemEvents = r.systemEvents)
    (hHere : ∀ inc, r.incident? c = some inc → r'.incident? c = some (noted now inc))
    (hThere : ∀ k, k ≠ c → r'.incident? k = r.incident? k) : Tracks r' call := by
  intro inc hInc
  obtain ⟨current, hFound, hId, hMarked, hFits⟩ := h inc hInc
  have hComponent := (hFiled.keyed _ current hFound).1
  refine ⟨if current.component = c then noted now current else current, ?_, ?_, ?_,
    hFits.report hReports hEvents hMarked⟩
  · rw [hComponent]
    split
    · next hSame =>
      subst hSame
      exact hHere current hFound
    · next hNe => rw [hThere _ hNe, hFound]
  · split
    · rw [(noted_id now current).1, hId]
    · exact hId
  · split
    · rw [(noted_id now current).2.2.2, hMarked]
    · exact hMarked

theorem Consistent.report_known {r : EventRepository} (h : Consistent r) {c : String}
    {inc : DatabaseIncident} (hFound : r.incident? c = some inc) (now : DateTime) :
    Consistent (r.rememberDatabaseFailure c now) := by
  have hGet := incident?_remember_some hFound now
  obtain ⟨incidents, hEq⟩ := remember_some hFound now
  obtain ⟨hId, hComponent, hPersisted, hRecovering⟩ := noted_id now inc
  have hHere : (r.rememberDatabaseFailure c now).incident? c = some (noted now inc) := by
    rw [hGet, if_pos rfl]
  obtain ⟨hKeyed, hDrawn⟩ := h.filed.keyed c inc hFound
  -- an entry now and the entry of the same component before differ in the note at most
  have hOld : ∀ k x, (r.rememberDatabaseFailure c now).incident? k = some x →
      ∃ y, r.incident? k = some y ∧ x.id = y.id ∧ x.persisted = y.persisted ∧
        x.recovering = y.recovering := by
    intro k x hx
    rw [hGet] at hx
    split at hx
    · next hKey =>
      cases hx
      exact ⟨inc, hKey ▸ hFound, hId, hPersisted, hRecovering⟩
    · exact ⟨x, hx, rfl, rfl, rfl⟩
  have hFiled : Filed (r.rememberDatabaseFailure c now) := by
    refine h.filed.insert hGet (hComponent.trans hKeyed) ?_ ?_ (.inr ⟨inc, hFound, hId.symm⟩)
    · exact Nat.le_of_eq (by rw [hEq])
    · rw [hEq, hId]
      exact hDrawn
  have hFailures : ∀ id, (r.rememberDatabaseFailure c now).failures id = r.failures id := by
    intro id
    rw [hEq]
    rfl
  have hRecovered : ∀ id, (r.rememberDatabaseFailure c now).recovered id = r.recovered id := by
    intro id
    rw [hEq]
    rfl
  refine ⟨?_, hFiled, ?_, ?_, ?_, ?_, ?_, ?_⟩
  · have hFull := Table.isEmpty_of_get hHere
    have hFlag := h.flag
    rw [Table.isEmpty_of_get hFound] at hFlag
    rw [hFull, ← hFlag, hEq]
    rfl
  · intro call hCall
    have hCall' : call ∈ r.recoveries := by rwa [hEq] at hCall
    refine (h.calls call hCall').report h.filed (by rw [hEq]) (by rw [hEq]) ?_ ?_
    · intro x hx
      rw [hFound, Option.some_inj] at hx
      rw [← hx, hHere]
    · intro k hNe
      rw [hGet, if_neg hNe]
  · rw [hEq]
    exact h.single
  · intro k x hx hIdle
    obtain ⟨y, hy, hxId, hxPersisted, hxRecovering⟩ := hOld k x hx
    rw [hFailures, hRecovered, hxId, hxPersisted]
    exact h.idle k y hy (hxRecovering ▸ hIdle)
  · intro k x hx hMarked
    obtain ⟨y, hy, hxId, -, hxRecovering⟩ := hOld k x hx
    rw [hEq, hxId]
    exact h.held k y hy (hxRecovering ▸ hMarked)
  · intro id
    rw [hFailures, hRecovered, hEq]
    exact h.ledger id
  · rw [hEq]
    exact h.order

theorem Consistent.report_new {r : EventRepository} (h : Consistent r) {c : String}
    (hNone : r.incident? c = none) (now : DateTime) :
    Consistent (r.rememberDatabaseFailure c now) := by
  rw [remember_none hNone now]
  have hGet : ∀ k, (r.databaseIncidents.insert c (newDatabaseIncident r.nextId c now)).get k =
      if k = c then some (newDatabaseIncident r.nextId c now) else r.incident? k :=
    fun k => r.databaseIncidents.get_insert c _ k
  refine ⟨?_, ?_, ?_, h.single, ?_, ?_, ?_, h.order⟩
  · have hFull : (r.databaseIncidents.insert c (newDatabaseIncident r.nextId c now)).isEmpty =
        false := by
      apply Table.isEmpty_of_get
      rw [hGet c, if_pos rfl]
    change true = !(r.databaseIncidents.insert c (newDatabaseIncident r.nextId c now)).isEmpty
    rw [hFull]
    rfl
  · exact h.filed.insert hGet rfl (Nat.le_succ _) (Nat.lt_succ_self _) (.inl rfl)
  · intro call hCall
    refine (h.calls call hCall).report h.filed rfl rfl ?_ ?_
    · intro x hx
      rw [hNone] at hx
      cases hx
    · intro k hNe
      exact (hGet k).trans (if_neg hNe)
  · intro k x hx hIdle
    have hx' := (hGet k).symm.trans hx
    split at hx'
    · cases hx'
      obtain ⟨-, hLe, hNew⟩ := h.ledger r.nextId
      have hZero := hNew (Nat.le_refl _)
      change r.failures r.nextId = 0 ∧ r.recovered r.nextId = 0
      omega
    · exact h.idle k x hx' hIdle
  · intro k x hx hMarked
    have hx' := (hGet k).symm.trans hx
    split at hx'
    · cases hx'
      cases hMarked
    · exact h.held k x hx' hMarked
  · intro id
    obtain ⟨h1, h2, h3⟩ := h.ledger id
    refine ⟨h1, h2, fun hLe => h3 ?_⟩
    exact Nat.le_of_succ_le hLe

/-! ## Steps of a call that holds an incident -/

/-- A call goes on with its incident; the map stays and the log changes for that
incident only. -/
theorem Consistent.goOn {r : EventRepository} (h : Consistent r) {a b : Recovery}
    {recoveries : List Recovery} (hMoves : Moves a b r.recoveries recoveries)
    {inc : DatabaseIncident} (hA : a.incident? = some inc) (hB : b.incident? = some inc)
    {events : List SystemEvent}
    (hFits : ∀ current, current.id = inc.id → a.Fits r current →
      b.Fits { r with systemEvents := events } current)
    (hOther : ∀ id, id ≠ inc.id →
      events.count (.connectionFailed id) = r.failures id ∧
        events.count (.connectionRecovered id) = r.recovered id)
    (hLedger : events.count (.connectionFailed inc.id) ≤ 1 ∧
      events.count (.connectionRecovered inc.id) ≤ events.count (.connectionFailed inc.id))
    (hOrder : Ordered events) :
    Consistent { r with systemEvents := events, recoveries := recoveries } := by
  obtain ⟨others, hOldMem, hNewMem, hApart⟩ := h.others hMoves hA
  obtain ⟨current, hFound, hId, hMarked, hKnown⟩ := h.calls a hMoves.mem_old inc hA
  have hDrawn := (h.filed.keyed _ current hFound).2
  refine ⟨h.flag, ⟨h.filed.keyed, h.filed.distinct⟩, ?_, ?_, ?_, ?_, ?_, hOrder⟩
  · intro call hCall
    obtain rfl | hOther' := (hNewMem call).mp hCall
    · intro i hi
      rw [hB] at hi
      cases hi
      refine ⟨current, hFound, hId, hMarked, ?_⟩
      have hNew := hFits current hId hKnown
      cases call with
      | marked incident since => exact ⟨hNew.1, hNew.2.1, hNew.2.2.1, hNew.2.2.2.1, hNew.2.2.2.2⟩
      | writing incident since persisted =>
        exact ⟨hNew.1, hNew.2.1, hNew.2.2.1, hNew.2.2.2.1, hNew.2.2.2.2⟩
      | closing incident since => exact ⟨hNew.1, hNew.2.1, hNew.2.2.1, hNew.2.2.2⟩
      | releasing incident persisted => exact hNew
      | waiting component => trivial
      | returned => trivial
      | dropped => trivial
    · have hOld := h.calls call ((hOldMem call).mpr (.inr hOther'))
      refine hOld.frame (fun _ _ => rfl) (fun i hi => ?_) (fun i hi => ?_) rfl
      · exact (hOther i.id (hApart call hOther' i hi).1).1
      · exact (hOther i.id (hApart call hOther' i hi).1).2
  · intro id
    have hSum := hMoves.sum (Recovery.holds id)
    have hOne := h.single id
    have hSame : b.holds id = a.holds id := by simp only [Recovery.holds, hA, hB]
    change (recoveries.map (Recovery.holds id)).sum ≤ 1
    omega
  · intro k x hx hIdle
    have hNe : x.id ≠ inc.id := by
      intro hSame
      have hKey := h.filed.distinct k _ x current hx hFound (hSame.trans hId.symm)
      subst hKey
      have hEq : x = current := Option.some_inj.mp (hx.symm.trans hFound)
      rw [hEq, hMarked] at hIdle
      cases hIdle
    have hOld := h.idle k x hx hIdle
    exact ⟨(hOther x.id hNe).1.trans hOld.1, (hOther x.id hNe).2.trans hOld.2⟩
  · intro k x hx hBusy
    obtain ⟨call, hCall, i, hi, hSame⟩ := h.held k x hx hBusy
    obtain rfl | hOther' := (hOldMem call).mp hCall
    · rw [hA] at hi
      cases hi
      exact ⟨b, hMoves.mem_new, inc, hB, hSame⟩
    · exact ⟨call, (hNewMem call).mpr (.inr hOther'), i, hi, hSame⟩
  · intro id
    rcases Nat.decEq id inc.id with hNe | rfl
    · obtain ⟨h1, h2, h3⟩ := h.ledger id
      refine ⟨?_, ?_, ?_⟩
      · exact (hOther id hNe).1.trans_le h1
      · exact (hOther id hNe).2.trans_le (h2.trans_eq (hOther id hNe).1.symm)
      · exact fun hLe => (hOther id hNe).1.trans (h3 hLe)
    · refine ⟨hLedger.1, hLedger.2, fun hLe => ?_⟩
      rw [← hId] at hLe
      exact absurd hDrawn (Nat.not_lt.mpr hLe)

/-- A call lets its incident go: its component is left with an idle incident or
with none. -/
theorem Consistent.letGo {r r' : EventRepository} (h : Consistent r) {a b : Recovery}
    {recoveries : List Recovery} (hMoves : Moves a b r.recoveries recoveries)
    {inc : DatabaseIncident} (hA : a.incident? = some inc) (hB : b.incident? = none)
    (hEvents : r'.systemEvents = r.systemEvents) (hReports : r'.reports = r.reports)
    (hNext : r.nextId ≤ r'.nextId)
    (hThere : ∀ k, k ≠ inc.component → r'.incident? k = r.incident? k)
    (hHere : ∀ x, r'.incident? inc.component = some x → x.recovering = false ∧
      r.failures x.id = x.persisted.toNat ∧ r.recovered x.id = 0)
    (hFlag : r'.settledFlag = !r'.databaseIncidents.isEmpty) (hFiled : Filed r') :
    Consistent { r' with recoveries := recoveries } := by
  obtain ⟨others, hOldMem, hNewMem, hApart⟩ := h.others hMoves hA
  obtain ⟨current, hFound, hId, hMarked, -⟩ := h.calls a hMoves.mem_old inc hA
  have hFailures : ∀ id, r'.failures id = r.failures id := fun id => by
    rw [failures, hEvents, failures]
  have hRecovered : ∀ id, r'.recovered id = r.recovered id := fun id => by
    rw [recovered, hEvents, recovered]
  refine ⟨hFlag, ⟨hFiled.keyed, hFiled.distinct⟩, ?_, ?_, ?_, ?_, ?_, ?_⟩
  · intro call hCall
    obtain rfl | hOther := (hNewMem call).mp hCall
    · intro i hi
      rw [hB] at hi
      cases hi
    · have hOld := h.calls call ((hOldMem call).mpr (.inr hOther))
      refine hOld.frame (fun i hi => ?_) (fun i _ => hFailures i.id) (fun i _ => hRecovered i.id)
        hReports
      exact hThere i.component (hApart call hOther i hi).2
  · intro id
    have hSum := hMoves.sum (Recovery.holds id)
    have hOne := h.single id
    rw [holds_of_none hB] at hSum
    change (recoveries.map (Recovery.holds id)).sum ≤ 1
    omega
  · intro k x hx hIdle
    change r'.failures x.id = _ ∧ r'.recovered x.id = _
    rw [hFailures, hRecovered]
    rcases Classical.em (k = inc.component) with rfl | hNe
    · exact (hHere x hx).2
    · exact h.idle k x ((hThere k hNe).symm.trans hx) hIdle
  · intro k x hx hBusy
    rcases Classical.em (k = inc.component) with rfl | hNe
    · rw [(hHere x hx).1] at hBusy
      cases hBusy
    · have hx' := (hThere k hNe).symm.trans hx
      obtain ⟨call, hCall, i, hi, hSame⟩ := h.held k x hx' hBusy
      obtain rfl | hOther := (hOldMem call).mp hCall
      · rw [hA] at hi
        cases hi
        exact absurd (h.filed.distinct k _ x current hx' hFound (hSame.symm.trans hId.symm)) hNe
      · exact ⟨call, (hNewMem call).mpr (.inr hOther), i, hi, hSame⟩
  · intro id
    obtain ⟨h1, h2, h3⟩ := h.ledger id
    change r'.failures id ≤ 1 ∧ r'.recovered id ≤ r'.failures id ∧ (r'.nextId ≤ id → r'.failures id = 0)
    rw [hFailures, hRecovered]
    exact ⟨h1, h2, fun hLe => h3 (Nat.le_trans hNext hLe)⟩
  · change Ordered r'.systemEvents
    rw [hEvents]
    exact h.order

theorem Consistent.mark {r : EventRepository} (h : Consistent r) {component : String}
    {incident : DatabaseIncident} {recoveries : List Recovery}
    (hFound : r.incident? component = some incident) (hIdle : incident.recovering = false)
    (hMoves : Moves (.waiting component) (.marked (markedIncident incident) r.reports.length)
      r.recoveries recoveries) :
    Consistent { r.markRecovery component incident with recoveries := recoveries } := by
  obtain ⟨hKeyed, hDrawn⟩ := h.filed.keyed component incident hFound
  have hGet : ∀ k, (r.markRecovery component incident).incident? k =
      if k = component then some (markedIncident incident) else r.incident? k :=
    fun k => r.databaseIncidents.get_insert component _ k
  -- an idle incident is held by no call
  have hApart : ∀ call ∈ r.recoveries, ∀ i ∈ call.incident?,
      i.id ≠ incident.id ∧ i.component ≠ component := by
    intro call hCall i hi
    have hIff := h.apart hCall hi hFound
    have hNe : i.component ≠ component := by
      intro hSame
      obtain ⟨own, hOwn, -, hBusy, -⟩ := h.calls call hCall i hi
      rw [hSame, hFound, Option.some_inj] at hOwn
      rw [← hOwn, hIdle] at hBusy
      cases hBusy
    exact ⟨fun hSame => hNe (hIff.mp hSame), hNe⟩
  obtain ⟨hFailures, hRecovered⟩ := h.idle component incident hFound hIdle
  refine ⟨?_, ?_, ?_, ?_, ?_, ?_, h.ledger, h.order⟩
  · have hFull : (r.databaseIncidents.insert component (markedIncident incident)).isEmpty =
        false := Table.isEmpty_of_get ((hGet component).trans (if_pos rfl))
    have hFlag := h.flag
    rw [Table.isEmpty_of_get hFound] at hFlag
    change r.settledFlag = !(r.databaseIncidents.insert component (markedIncident incident)).isEmpty
    rw [hFull, hFlag]
  · refine h.filed.insert hGet hKeyed (Nat.le_refl _) hDrawn (.inr ⟨incident, hFound, rfl⟩)
  · intro call hCall
    obtain rfl | hOld := hMoves.mem hCall
    · rintro i ⟨⟩
      refine ⟨markedIncident incident, ?_, rfl, rfl, rfl, hFailures, hRecovered, ?_, ?_⟩
      · change (r.markRecovery component incident).incident? incident.component = _
        rw [hKeyed, hGet, if_pos rfl]
      · exact Nat.le_refl _
      · change none = firstReport _ (r.reports.drop r.reports.length)
        rw [List.drop_length]
        rfl
    · refine (h.calls call hOld).frame (fun i hi => ?_) (fun _ _ => rfl) (fun _ _ => rfl) rfl
      exact (hGet i.component).trans (if_neg (hApart call hOld i hi).2)
  · intro id
    have hSum := hMoves.sum (Recovery.holds id)
    have hOne := h.single id
    change (recoveries.map (Recovery.holds id)).sum ≤ 1
    have hWaiting : (Recovery.waiting component).incident? = none := rfl
    rw [holds_of_none hWaiting] at hSum
    rcases Nat.decEq id incident.id with hNe | rfl
    · have hZero : (Recovery.marked (markedIncident incident) r.reports.length).holds id = 0 := by
        simp [Recovery.holds, Recovery.incident?, markedIncident, Ne.symm hNe]
      omega
    · have hZero : (r.recoveries.map (Recovery.holds incident.id)).sum = 0 := by
        rcases Nat.eq_zero_or_pos (r.recoveries.map (Recovery.holds incident.id)).sum with hz | hPos
        · exact hz
        · obtain ⟨call, hCall, hHolds⟩ := exists_of_sum_pos hPos
          cases hInc : call.incident? with
          | none => simp [holds_of_none hInc] at hHolds
          | some i =>
            have hNe := (hApart call hCall i hInc).1
            simp [Recovery.holds, hInc, hNe] at hHolds
      have hLe : (Recovery.marked (markedIncident incident) r.reports.length).holds incident.id ≤
          1 := by
        unfold Recovery.holds
        split <;> omega
      omega
  · intro k x hx hIdle'
    have hx' := (hGet k).symm.trans hx
    split at hx'
    · cases hx'
      cases hIdle'
    · exact h.idle k x hx' hIdle'
  · intro k x hx hBusy
    have hx' := (hGet k).symm.trans hx
    split at hx'
    · cases hx'
      exact ⟨_, hMoves.mem_new, markedIncident incident, rfl, rfl⟩
    · obtain ⟨call, hCall, i, hi, hSame⟩ := h.held k x hx' hBusy
      refine ⟨call, hMoves.mem_kept hCall ?_, i, hi, hSame⟩
      rintro rfl
      cases hi

theorem Consistent.storeFailure {r : EventRepository} (h : Consistent r)
    {incident : DatabaseIncident} {since : Nat} {recoveries : List Recovery}
    (hNew : incident.persisted = false)
    (hMoves : Moves (.marked incident since) (.writing incident since true) r.recoveries
      recoveries) :
    Consistent { r.stored (.connectionFailed incident.id) with recoveries := recoveries } := by
  obtain ⟨current, -, hId, -, hPersisted, hFailures, hRecovered, -⟩ :=
    h.calls _ hMoves.mem_old incident rfl
  rw [← hPersisted, hNew, hId] at hFailures
  rw [hId] at hRecovered
  have hFailed := r.failures_stored (.connectionFailed incident.id) incident.id
  have hNone := r.recovered_stored (.connectionFailed incident.id) incident.id
  rw [if_pos rfl, hFailures] at hFailed
  rw [if_neg (by simp), hRecovered] at hNone
  refine h.goOn hMoves rfl rfl ?_ ?_ ?_ ?_
  · rintro x hx ⟨-, -, -, hBound, hFirst⟩
    refine ⟨rfl, ?_, ?_, hBound, hFirst⟩
    · rw [hx]
      exact hFailed
    · rw [hx]
      exact hNone
  · intro id hNe
    constructor
    · refine (r.failures_stored _ id).trans ?_
      rw [if_neg (by simpa using Ne.symm hNe), Nat.add_zero]
    · refine (r.recovered_stored _ id).trans ?_
      rw [if_neg (by simp), Nat.add_zero]
  · exact ⟨Nat.le_of_eq hFailed, Nat.le_trans (Nat.le_of_eq hNone) (Nat.zero_le _)⟩
  · exact h.order.concat fun id hEvent => by cases hEvent

theorem Consistent.storeRecovery {r : EventRepository} (h : Consistent r)
    {incident : DatabaseIncident} {since : Nat} {persisted : Bool} {recoveries : List Recovery}
    (hMoves : Moves (.writing incident since persisted) (.closing incident since) r.recoveries
      recoveries) :
    Consistent { r.stored (.connectionRecovered incident.id) with recoveries := recoveries } := by
  obtain ⟨current, -, hId, -, -, hFailures, hRecovered, -⟩ :=
    h.calls _ hMoves.mem_old incident rfl
  rw [hId] at hFailures hRecovered
  have hFailed := r.failures_stored (.connectionRecovered incident.id) incident.id
  have hOne := r.recovered_stored (.connectionRecovered incident.id) incident.id
  rw [if_neg (by simp), hFailures] at hFailed
  rw [if_pos rfl, hRecovered] at hOne
  refine h.goOn hMoves rfl rfl ?_ ?_ ?_ ?_
  · rintro x hx ⟨-, -, -, hBound, hFirst⟩
    refine ⟨?_, ?_, hBound, hFirst⟩
    · rw [hx]
      exact hFailed
    · rw [hx]
      exact hOne
  · intro id hNe
    constructor
    · refine (r.failures_stored _ id).trans ?_
      rw [if_neg (by simp), Nat.add_zero]
    · refine (r.recovered_stored _ id).trans ?_
      rw [if_neg (by simpa using Ne.symm hNe), Nat.add_zero]
  · exact ⟨Nat.le_of_eq hFailed, Nat.le_of_eq (hOne.trans hFailed.symm)⟩
  · refine h.order.concat fun id hEvent => ?_
    cases hEvent
    exact List.count_pos_iff.mp (by rw [← failures, hFailures]; exact Nat.one_pos)

/-- A call that goes on without writing. -/
theorem Consistent.goOn_unwritten {r : EventRepository} (h : Consistent r) {a b : Recovery}
    {recoveries : List Recovery} (hMoves : Moves a b r.recoveries recoveries)
    {inc : DatabaseIncident} (hA : a.incident? = some inc) (hB : b.incident? = some inc)
    (hFits : ∀ current, current.id = inc.id → a.Fits r current → b.Fits r current) :
    Consistent { r with recoveries := recoveries } := by
  obtain ⟨h1, h2, -⟩ := h.ledger inc.id
  exact h.goOn hMoves hA hB hFits (fun _ _ => ⟨rfl, rfl⟩) ⟨h1, h2⟩ h.order

theorem Consistent.close {r : EventRepository} (h : Consistent r) {incident : DatabaseIncident}
    {since : Nat} {recoveries : List Recovery} (hFree : r.lock = .free)
    (hMoves : Moves (.closing incident since) .returned r.recoveries recoveries) :
    Consistent { r.closeRecovery incident with recoveries := recoveries } := by
  obtain ⟨current, hFound, hId, -, -⟩ := h.calls _ hMoves.mem_old incident rfl
  cases hFailed : current.failureDuringRecoveryAt with
  | some failedAt =>
    rw [close_reopens hFound hId hFailed]
    have hGet : ∀ k, (r.databaseIncidents.insert incident.component
        (newDatabaseIncident r.nextId incident.component failedAt)).get k =
          if k = incident.component then
            some (newDatabaseIncident r.nextId incident.component failedAt)
          else r.incident? k :=
      fun k => r.databaseIncidents.get_insert _ _ k
    obtain ⟨-, hLe, hZero⟩ := h.ledger r.nextId
    have hNone := hZero (Nat.le_refl _)
    refine h.letGo hMoves rfl rfl rfl rfl (Nat.le_succ _) (fun k hNe => ?_) (fun x hx => ?_) ?_ ?_
    · exact (hGet k).trans (if_neg hNe)
    · have hx' := (hGet incident.component).symm.trans hx
      rw [if_pos rfl] at hx'
      cases hx'
      refine ⟨rfl, hNone, ?_⟩
      change r.recovered r.nextId = 0
      omega
    · have hFlag := h.flag
      rw [Table.isEmpty_of_get hFound] at hFlag
      have hFull := Table.isEmpty_of_get ((hGet incident.component).trans (if_pos rfl))
      dsimp only
      rw [hFull, ← hFlag]
      rfl
    · exact h.filed.insert hGet rfl (Nat.le_succ _) (Nat.lt_succ_self _) (.inl rfl)
  | none =>
    rw [close_removes hFound hId hFailed]
    have hGet : ∀ k, (r.databaseIncidents.erase incident.component).get k =
        if k = incident.component then none else r.incident? k :=
      fun k => r.databaseIncidents.get_erase _ k
    refine h.letGo hMoves rfl rfl rfl rfl (Nat.le_refl _) (fun k hNe => ?_) (fun x hx => ?_) ?_ ?_
    · exact (hGet k).trans (if_neg hNe)
    · have hx' := (hGet incident.component).symm.trans hx
      rw [if_pos rfl] at hx'
      cases hx'
    · unfold settledFlag
      dsimp only
      cases hEmpty : (r.databaseIncidents.erase incident.component).isEmpty with
      | true => simp
      | false =>
        have hFlag := h.flag
        rw [Table.isEmpty_of_get hFound, settledFlag, hFree] at hFlag
        simpa [hFree] using hFlag
    · exact h.filed.erase hGet rfl

theorem Consistent.release {r : EventRepository} (h : Consistent r) {incident : DatabaseIncident}
    {persisted : Bool} {recoveries : List Recovery}
    (hMoves : Moves (.releasing incident persisted) .returned r.recoveries recoveries) :
    Consistent { r.releaseDatabaseRecovery incident persisted with recoveries := recoveries } := by
  obtain ⟨current, hFound, hId, -, hFailures, hRecovered⟩ :=
    h.calls _ hMoves.mem_old incident rfl
  obtain ⟨hKeyed, hDrawn⟩ := h.filed.keyed _ current hFound
  rw [release_of_current hFound hId]
  have hGet : ∀ k, (r.databaseIncidents.insert incident.component
      (released persisted current)).get k =
        if k = incident.component then some (released persisted current) else r.incident? k :=
    fun k => r.databaseIncidents.get_insert _ _ k
  refine h.letGo hMoves rfl rfl rfl rfl (Nat.le_refl _) (fun k hNe => ?_) (fun x hx => ?_) ?_ ?_
  · exact (hGet k).trans (if_neg hNe)
  · have hx' := (hGet incident.component).symm.trans hx
    rw [if_pos rfl] at hx'
    cases hx'
    exact ⟨rfl, hFailures, hRecovered⟩
  · have hFlag := h.flag
    rw [Table.isEmpty_of_get hFound] at hFlag
    have hFull := Table.isEmpty_of_get ((hGet incident.component).trans (if_pos rfl))
    dsimp only
    rw [hFull, ← hFlag]
    rfl
  · exact h.filed.insert hGet hKeyed (Nat.le_refl _) hDrawn (.inr ⟨current, hFound, rfl⟩)

/-! ## Runs -/

theorem consistent_step {r r' : EventRepository} (h : Consistent r) (hStep : Step r r') :
    Consistent r' := by
  cases hStep with
  | databaseFailed component now hFree =>
    cases hFound : r.incident? component with
    | some inc => exact h.report_known hFound now
    | none => exact h.report_new hFound now
  | storeFlag hHeld => exact h.storeFlag hHeld
  | databaseRecovered component hFlag => exact h.enter component
  | advance hAdvance hMoves =>
    cases hAdvance with
    | absent hFree hNone => exact h.leave hMoves rfl rfl
    | busy hFree hFound hBusy => exact h.leave hMoves rfl rfl
    | mark hFree hFound hIdle => exact h.mark hFound hIdle hMoves
    | storeFailure hNew => exact h.storeFailure hNew hMoves
    | loseFailure hNew =>
      refine h.goOn_unwritten hMoves rfl rfl ?_
      rintro current - ⟨hPersisted, hFailures, hRecovered, -⟩
      refine ⟨?_, hRecovered⟩
      rw [hFailures, Bool.or_false]
    | skipFailure hOld =>
      refine h.goOn_unwritten hMoves rfl rfl ?_
      rintro current - ⟨hPersisted, hFailures, hRecovered, hNoted⟩
      rw [← hPersisted, hOld] at hFailures
      exact ⟨rfl, hFailures, hRecovered, hNoted⟩
    | storeRecovery => exact h.storeRecovery hMoves
    | loseRecovery =>
      refine h.goOn_unwritten hMoves rfl rfl ?_
      rintro current - ⟨hPersisted, hFailures, hRecovered, -⟩
      refine ⟨?_, hRecovered⟩
      rw [hFailures, hPersisted, Bool.or_true]
      rfl
    | close hFree => exact h.close hFree hMoves
    | release hFree => exact h.release hMoves

theorem consistent_start : Consistent {} := by
  refine ⟨rfl, ⟨?_, ?_⟩, ?_, ?_, ?_, ?_, ?_, ?_⟩
  · rintro c inc ⟨⟩
  · rintro c c' inc inc' ⟨⟩
  · rintro call ⟨⟩
  · exact fun _ => Nat.zero_le 1
  · rintro c inc ⟨⟩
  · rintro c inc ⟨⟩
  · exact fun _ => ⟨Nat.zero_le 1, Nat.le_refl 0, fun _ => rfl⟩
  · rintro id (_ | ⟨_, _⟩) after ⟨⟩

structure IncidentLog (r : EventRepository) : Prop where
  flag : r.lock = .free → (r.hasDatabaseIncidents = true ↔ r.databaseIncidents.isEmpty = false)
  failedOnce : ∀ id, r.failures id ≤ 1
  recoveredOnce : ∀ id, r.recovered id ≤ 1
  order : Ordered r.systemEvents
  /-- A call whose recovery is stored opens a new incident if a failure of its
  component was reported since the mark, dated by the first one. -/
  reopened : ∀ incident since, .closing incident since ∈ r.recoveries →
    ∀ report ∈ r.reports.drop since, report.1 = incident.component →
    ∀ call r', Advance r (.closing incident since) call r' →
      ∃ failedAt, firstReport incident.component (r.reports.drop since) = some failedAt ∧
        r'.incident? incident.component =
          some (newDatabaseIncident r.nextId incident.component failedAt) ∧
        incident.id < r.nextId ∧ r.failures r.nextId = 0

theorem firstReport_isSome {component : String} {reports : List (String × DateTime)}
    {report : String × DateTime} (hMem : report ∈ reports) (hSame : report.1 = component) :
    ∃ failedAt, firstReport component reports = some failedAt := by
  unfold firstReport
  cases hFind : reports.find? fun report => report.1 = component with
  | some found => exact ⟨found.2, rfl⟩
  | none =>
    have hNone := List.find?_eq_none.mp hFind report hMem
    simp [hSame] at hNone

theorem incidentLog_of_consistent {r : EventRepository} (h : Consistent r) : IncidentLog r where
  flag hFree := by
    have hFlag := h.flag
    rw [settledFlag, hFree] at hFlag
    rw [show r.hasDatabaseIncidents = !r.databaseIncidents.isEmpty from hFlag]
    simp
  failedOnce id := (h.ledger id).1
  recoveredOnce id := Nat.le_trans (h.ledger id).2.1 (h.ledger id).1
  order := h.order
  reopened incident since hCall report hReport hSame call r' hAdvance := by
    obtain ⟨current, hFound, hId, -, -, -, -, hFirst⟩ := h.calls _ hCall incident rfl
    obtain ⟨hKeyed, hDrawn⟩ := h.filed.keyed _ current hFound
    obtain ⟨failedAt, hFailed⟩ := firstReport_isSome hReport hSame
    rw [hKeyed, hFailed] at hFirst
    cases hAdvance with
    | close hFree =>
      refine ⟨failedAt, hFailed, ?_, hId ▸ hDrawn, (h.ledger r.nextId).2.2 (Nat.le_refl _)⟩
      rw [close_reopens hFound hId hFirst]
      exact (r.databaseIncidents.get_insert _ _ _).trans (if_pos rfl)

/-- Whatever calls interleave and whichever of their inserts fail, the flag, the
log and the reopened incidents are consistent. -/
theorem incident_log_consistent {r : EventRepository} (h : ReflTransGen Step {} r) :
    IncidentLog r :=
  incidentLog_of_consistent (invariant h consistent_step consistent_start)

/-- A failure reported between the two inserts of a recovery. -/
theorem reachable_failure_during_recovery : ∃ r : EventRepository, ReflTransGen Step {} r ∧
    ∃ incident since, .closing incident since ∈ r.recoveries ∧
      (incident.component, (7 : DateTime)) ∈ r.reports.drop since := by
  have h1 : ReflTransGen Step {} _ := .single (.databaseFailed (r := {}) "usage" 5 rfl)
  have h2 := h1.tail (.storeFlag rfl)
  have h3 := h2.tail (.databaseRecovered "usage" rfl)
  have h4 := h3.tail (.advance (.mark rfl rfl rfl) (.at [] []))
  have h5 := h4.tail (.advance (.storeFailure rfl) (.at [] []))
  have h6 := h5.tail (.databaseFailed "usage" 7 rfl)
  have h7 := h6.tail (.advance .storeRecovery (.at [] []))
  exact ⟨_, h7, _, _, List.mem_cons_self, by decide⟩

theorem incident_log_consistent_reopened : ∃ r : EventRepository, IncidentLog r ∧
    ∃ incident since, .closing incident since ∈ r.recoveries ∧
      (incident.component, (7 : DateTime)) ∈ r.reports.drop since := by
  obtain ⟨r, hRun, hCall⟩ := reachable_failure_during_recovery
  exact ⟨r, incident_log_consistent hRun, hCall⟩

end AiGateway.Events
