import AiGateway.Infra.Incidents

/-!
# Recoveries that are cancelled

The mark of a recovery is taken off by code that runs after an await.  A call
dropped before it has marked anything leaves the map as it was; a call dropped
with its mark set leaves the incident marked for good.
-/

namespace AiGateway.Events

set_option autoImplicit false

open AiGateway.Concurrent AiGateway.Health EventRepository Relation

/-- An incident is marked only while a call for its component is in progress. -/
def Unstuck (r : EventRepository) : Prop :=
  ∀ c inc, r.incident? c = some inc → inc.recovering = true →
    ∃ call ∈ r.recoveries, call.component? = some c

/-- Calls run to completion, or are dropped while they wait for the first lock. -/
inductive Undisturbed (r r' : EventRepository) : Prop where
  | step (hStep : Step r r')
  | drop {component : String} (hDrop : Drop (.waiting component) r r')

/-- Calls run or are dropped wherever they wait. -/
inductive Cancellable (r r' : EventRepository) : Prop where
  | step (hStep : Step r r')
  | drop {a : Recovery} (hDrop : Drop a r r')

theorem consistent_undisturbed {r r' : EventRepository} (h : Consistent r)
    (hStep : Undisturbed r r') : Consistent r' := by
  cases hStep with
  | step hStep => exact consistent_step h hStep
  | drop hDrop =>
    obtain ⟨hMoves⟩ := hDrop
    exact h.leave hMoves rfl rfl

theorem component?_of_incident? {call : Recovery} {inc : DatabaseIncident}
    (h : call.incident? = some inc) : call.component? = some inc.component := by
  cases call with
  | marked incident since => cases h; rfl
  | writing incident since persisted => cases h; rfl
  | closing incident since => cases h; rfl
  | releasing incident persisted => cases h; rfl
  | waiting component => cases h
  | returned => cases h
  | dropped => cases h

theorem unstuck_of_consistent {r : EventRepository} (h : Consistent r) : Unstuck r := by
  intro c inc hFound hMarked
  obtain ⟨call, hCall, i, hInc, hId⟩ := h.held c inc hFound hMarked
  refine ⟨call, hCall, ?_⟩
  rw [component?_of_incident? hInc, (h.apart hCall hInc hFound).mp hId]

/-! ## A mark without a call -/

/-- The incident with this id is marked and no call holds it. -/
structure Abandoned (c : String) (id : Nat) (r : EventRepository) : Prop where
  marked : ∃ inc, r.incident? c = some inc ∧ inc.id = id ∧ inc.recovering = true
  unheld : ∀ call ∈ r.recoveries, ∀ inc ∈ call.incident?, inc.id ≠ id
  own : ∀ k inc, r.incident? k = some inc → inc.id = id → k = c
  drawn : id < r.nextId

/-- A step that keeps the marked incident, gives its id to no other component
and starts no call on it. -/
theorem Abandoned.keep {c : String} {id : Nat} {r r' : EventRepository} (h : Abandoned c id r)
    (hMarked : ∀ inc, r.incident? c = some inc → inc.id = id → inc.recovering = true →
      ∃ inc', r'.incident? c = some inc' ∧ inc'.id = id ∧ inc'.recovering = true)
    (hCalls : ∀ call ∈ r'.recoveries, call ∈ r.recoveries ∨
      ∀ inc ∈ call.incident?, inc.id ≠ id)
    (hOwn : ∀ k inc, r'.incident? k = some inc → inc.id = r.nextId ∨
      ∃ old, r.incident? k = some old ∧ old.id = inc.id)
    (hNext : r.nextId ≤ r'.nextId) : Abandoned c id r' where
  marked := by
    obtain ⟨inc, hFound, hId, hBusy⟩ := h.marked
    exact hMarked inc hFound hId hBusy
  unheld call hCall := by
    obtain hOld | hNew := hCalls call hCall
    · exact h.unheld call hOld
    · exact hNew
  own k inc hFound hId := by
    obtain hFresh | ⟨old, hOld, hSame⟩ := hOwn k inc hFound
    · have hDrawn := h.drawn
      omega
    · exact h.own k old hOld (hSame.trans hId)
  drawn := Nat.lt_of_lt_of_le h.drawn hNext

/-- A section that ends the recovery of an incident changes the entry that holds
it, and no other. -/
def Ends (incident : DatabaseIncident) (r r' : EventRepository) : Prop :=
  ∀ k, r'.incident? k = r.incident? k ∨
    ∃ current, r.incident? k = some current ∧ current.id = incident.id ∧
      ∀ inc, r'.incident? k = some inc → inc.id = r.nextId ∨ inc.id = current.id

theorem ends_close (r : EventRepository) (incident : DatabaseIncident) :
    Ends incident r (r.closeRecovery incident) ∧
      r.nextId ≤ (r.closeRecovery incident).nextId := by
  cases hFound : r.incident? incident.component with
  | none =>
    rw [closeRecovery, hFound]
    exact ⟨fun _ => .inl rfl, Nat.le_refl _⟩
  | some current =>
    rcases Nat.decEq current.id incident.id with hNe | hId
    · rw [closeRecovery, hFound]
      dsimp only
      rw [if_pos hNe]
      exact ⟨fun _ => .inl rfl, Nat.le_refl _⟩
    · have hEnds : ∀ entry : Option DatabaseIncident, ∀ r' : EventRepository,
          (∀ inc ∈ entry, inc.id = r.nextId) →
          (∀ k, r'.incident? k = if k = incident.component then entry else r.incident? k) →
          Ends incident r r' := by
        intro entry r' hEntry hGet k
        rw [hGet]
        split
        · next hKey =>
          refine .inr ⟨current, hKey ▸ hFound, hId, fun inc hInc => .inl (hEntry inc hInc)⟩
        · exact .inl rfl
      cases hFailed : current.failureDuringRecoveryAt with
      | some failedAt =>
        rw [close_reopens hFound hId hFailed]
        refine ⟨hEnds (some _) _ ?_ (r.databaseIncidents.get_insert _ _), Nat.le_succ _⟩
        rintro inc ⟨⟩
        rfl
      | none =>
        rw [close_removes hFound hId hFailed]
        refine ⟨hEnds none _ ?_ (r.databaseIncidents.get_erase _), Nat.le_refl _⟩
        rintro inc ⟨⟩

theorem ends_release (r : EventRepository) (incident : DatabaseIncident) (persisted : Bool) :
    Ends incident r (r.releaseDatabaseRecovery incident persisted) ∧
      r.nextId ≤ (r.releaseDatabaseRecovery incident persisted).nextId := by
  cases hFound : r.incident? incident.component with
  | none =>
    rw [releaseDatabaseRecovery, hFound]
    exact ⟨fun _ => .inl rfl, Nat.le_refl _⟩
  | some current =>
    rcases Nat.decEq current.id incident.id with hNe | hId
    · rw [releaseDatabaseRecovery, hFound]
      dsimp only
      rw [if_pos hNe]
      exact ⟨fun _ => .inl rfl, Nat.le_refl _⟩
    · rw [release_of_current hFound hId]
      refine ⟨fun k => ?_, Nat.le_refl _⟩
      have hGet := r.databaseIncidents.get_insert incident.component (released persisted current) k
      rcases Classical.em (k = incident.component) with hKey | hKey
      · rw [if_pos hKey] at hGet
        refine .inr ⟨current, hKey ▸ hFound, hId, fun inc hInc => ?_⟩
        have hSame := Option.some_inj.mp (hInc.symm.trans hGet)
        exact .inr (hSame ▸ rfl)
      · rw [if_neg hKey] at hGet
        exact .inl hGet

theorem Abandoned.ends {c : String} {id : Nat} {r r' : EventRepository} (h : Abandoned c id r)
    {incident : DatabaseIncident} (hEnds : Ends incident r r') (hNext : r.nextId ≤ r'.nextId)
    (hNe : incident.id ≠ id)
    (hCalls : ∀ call ∈ r'.recoveries, call ∈ r.recoveries ∨ ∀ inc ∈ call.incident?, inc.id ≠ id) :
    Abandoned c id r' := by
  refine h.keep ?_ hCalls ?_ hNext
  · intro inc hFound hId hBusy
    obtain hSame | ⟨current, hCurrent, hCurrentId, -⟩ := hEnds c
    · exact ⟨inc, hSame.trans hFound, hId, hBusy⟩
    · have hEq := Option.some_inj.mp (hFound.symm.trans hCurrent)
      rw [hEq, hCurrentId] at hId
      exact absurd hId hNe
  · intro k inc hFound
    obtain hSame | ⟨current, hCurrent, -, hNew⟩ := hEnds k
    · exact .inr ⟨inc, hSame.symm.trans hFound, rfl⟩
    · obtain hFresh | hOld := hNew inc hFound
      · exact .inl hFresh
      · exact .inr ⟨current, hCurrent, hOld.symm⟩

/-- A step that leaves the map alone. -/
theorem Abandoned.still {c : String} {id : Nat} {r r' : EventRepository} (h : Abandoned c id r)
    (hIncidents : r'.databaseIncidents = r.databaseIncidents) (hNext : r'.nextId = r.nextId)
    (hCalls : ∀ call ∈ r'.recoveries, call ∈ r.recoveries ∨ ∀ inc ∈ call.incident?, inc.id ≠ id) :
    Abandoned c id r' := by
  have hGet : ∀ k, r'.incident? k = r.incident? k := fun k => by
    rw [incident?, hIncidents, incident?]
  refine h.keep ?_ hCalls ?_ (Nat.le_of_eq hNext.symm)
  · exact fun inc hFound hId hBusy => ⟨inc, (hGet c).trans hFound, hId, hBusy⟩
  · exact fun k inc hFound => .inr ⟨inc, (hGet k).symm.trans hFound, rfl⟩

theorem Abandoned.report {c : String} {id : Nat} {r : EventRepository} (h : Abandoned c id r)
    (k : String) (now : DateTime) : Abandoned c id (r.rememberDatabaseFailure k now) := by
  cases hFound : r.incident? k with
  | some inc =>
    have hGet := incident?_remember_some hFound now
    obtain ⟨incidents, hEq⟩ := remember_some hFound now
    obtain ⟨hId, -, -, hRecovering⟩ := noted_id now inc
    refine h.keep ?_ ?_ ?_ ?_
    · intro x hx hxId hBusy
      rw [hGet]
      split
      · next hKey =>
        have hSame := Option.some_inj.mp (hx.symm.trans (hKey ▸ hFound))
        subst hSame
        exact ⟨_, rfl, hId.trans hxId, hRecovering.trans hBusy⟩
      · exact ⟨x, hx, hxId, hBusy⟩
    · intro call hCall
      rw [hEq] at hCall
      exact .inl hCall
    · intro j x hx
      rw [hGet] at hx
      split at hx
      · next hKey =>
        cases hx
        exact .inr ⟨inc, hKey ▸ hFound, hId.symm⟩
      · exact .inr ⟨x, hx, rfl⟩
    · exact Nat.le_of_eq (by rw [hEq])
  | none =>
    rw [remember_none hFound now]
    have hGet := r.databaseIncidents.get_insert k (newDatabaseIncident r.nextId k now)
    refine h.keep ?_ (fun call hCall => .inl hCall) ?_ (Nat.le_succ _)
    · intro x hx hxId hBusy
      have hKey : c ≠ k := by
        rintro rfl
        rw [hFound] at hx
        cases hx
      exact ⟨x, (hGet c).trans ((if_neg hKey).trans hx), hxId, hBusy⟩
    · intro j x hx
      have hx' := (hGet j).symm.trans hx
      split at hx'
      · cases hx'
        exact .inl rfl
      · exact .inr ⟨x, hx', rfl⟩

/-- Once a call went on with the same incident or with none, it is not on the
abandoned one. -/
theorem Abandoned.moved {c : String} {id : Nat} {r : EventRepository} (h : Abandoned c id r)
    {a b : Recovery} {recoveries : List Recovery} (hMoves : Moves a b r.recoveries recoveries)
    (hSame : ∀ inc ∈ b.incident?, a.incident? = some inc) :
    ∀ call ∈ recoveries, call ∈ r.recoveries ∨ ∀ inc ∈ call.incident?, inc.id ≠ id := by
  intro call hCall
  obtain rfl | hOld := hMoves.mem hCall
  · exact .inr fun inc hInc => h.unheld a hMoves.mem_old inc (hSame inc hInc)
  · exact .inl hOld

theorem abandoned_step {c : String} {id : Nat} {r r' : EventRepository} (h : Abandoned c id r)
    (hStep : Cancellable r r') : Abandoned c id r' := by
  cases hStep with
  | drop hDrop =>
    obtain ⟨hMoves⟩ := hDrop
    exact h.still rfl rfl (h.moved hMoves (by rintro inc ⟨⟩))
  | step hStep =>
    cases hStep with
    | databaseFailed component now hFree => exact h.report component now
    | storeFlag hHeld => exact h.still rfl rfl fun call hCall => .inl hCall
    | databaseRecovered component hFlag =>
      refine h.still rfl rfl fun call hCall => ?_
      obtain hOld | hNew := List.mem_append.mp hCall
      · exact .inl hOld
      · rw [List.mem_singleton.mp hNew]
        exact .inr (by rintro inc ⟨⟩)
    | advance hAdvance hMoves =>
      cases hAdvance with
      | absent hFree hNone => exact h.still rfl rfl (h.moved hMoves (by rintro inc ⟨⟩))
      | busy hFree hFound hBusy => exact h.still rfl rfl (h.moved hMoves (by rintro inc ⟨⟩))
      | @mark component incident hFree hFound hIdle =>
        have hGet := r.databaseIncidents.get_insert component (markedIncident incident)
        have hOther : incident.id ≠ id ∧ component ≠ c := by
          have hNe : component ≠ c := by
            rintro rfl
            obtain ⟨inc, hInc, -, hBusy⟩ := h.marked
            rw [hFound, Option.some_inj] at hInc
            rw [← hInc, hIdle] at hBusy
            cases hBusy
          exact ⟨fun hId => hNe (h.own component incident hFound hId), hNe⟩
        refine h.keep ?_ ?_ ?_ (Nat.le_refl _)
        · intro inc hInc hId hBusy
          exact ⟨inc, (hGet c).trans ((if_neg (Ne.symm hOther.2)).trans hInc), hId, hBusy⟩
        · intro call hCall
          obtain rfl | hOld := hMoves.mem hCall
          · refine .inr ?_
            rintro inc ⟨⟩
            exact hOther.1
          · exact .inl hOld
        · intro k x hx
          have hx' := (hGet k).symm.trans hx
          split at hx'
          · next hKey =>
            cases hx'
            exact .inr ⟨incident, hKey ▸ hFound, rfl⟩
          · exact .inr ⟨x, hx', rfl⟩
      | storeFailure hNew => exact h.still rfl rfl (h.moved hMoves fun _ hInc => hInc)
      | loseFailure hNew => exact h.still rfl rfl (h.moved hMoves fun _ hInc => hInc)
      | skipFailure hOld => exact h.still rfl rfl (h.moved hMoves fun _ hInc => hInc)
      | storeRecovery => exact h.still rfl rfl (h.moved hMoves fun _ hInc => hInc)
      | loseRecovery => exact h.still rfl rfl (h.moved hMoves fun _ hInc => hInc)
      | @close incident since hFree =>
        obtain ⟨hEnds, hNext⟩ := ends_close r incident
        exact h.ends hEnds hNext (h.unheld _ hMoves.mem_old incident rfl)
          (h.moved hMoves (by rintro inc ⟨⟩))
      | @release incident persisted hFree =>
        obtain ⟨hEnds, hNext⟩ := ends_release r incident persisted
        exact h.ends hEnds hNext (h.unheld _ hMoves.mem_old incident rfl)
          (h.moved hMoves (by rintro inc ⟨⟩))

theorem abandoned_of_drop {r r' : EventRepository} (h : Consistent r) {a : Recovery}
    {inc : DatabaseIncident} (hInc : a.incident? = some inc) (hDrop : Drop a r r') :
    Abandoned inc.component inc.id r' := by
  obtain ⟨hMoves⟩ := hDrop
  obtain ⟨others, -, hNewMem, hApart⟩ := h.others hMoves hInc
  obtain ⟨current, hFound, hId, hMarked, -⟩ := h.calls a hMoves.mem_old inc hInc
  refine ⟨⟨current, hFound, hId, hMarked⟩, ?_, ?_, ?_⟩
  · intro call hCall i hi
    obtain rfl | hOther := (hNewMem call).mp hCall
    · cases hi
    · exact (hApart call hOther i hi).1
  · intro k x hx hxId
    exact h.filed.distinct k _ x current hx hFound (hxId.trans hId.symm)
  · rw [← hId]
    exact (h.filed.keyed _ current hFound).2

/-- As long as no call is dropped with its mark set, an incident is marked only
while a call for its component is in progress; a call dropped with its mark set
leaves the mark behind for good. -/
theorem recovery_mark_released {r : EventRepository} (h : ReflTransGen Undisturbed {} r) :
    Unstuck r ∧ ∀ a inc r' later, a.incident? = some inc → Drop a r r' →
      ReflTransGen Cancellable r' later →
        ∃ current, later.incident? inc.component = some current ∧ current.id = inc.id ∧
          current.recovering = true := by
  have hConsistent : Consistent r := invariant h consistent_undisturbed consistent_start
  refine ⟨unstuck_of_consistent hConsistent, ?_⟩
  intro a inc r' later hInc hDrop hLater
  have hAbandoned := abandoned_of_drop hConsistent hInc hDrop
  exact (invariant hLater abandoned_step hAbandoned).marked

/-- A recovery under way. -/
theorem reachable_marked : ∃ r : EventRepository, ReflTransGen Undisturbed {} r ∧
    r.recoveries = [.marked (markedIncident (newDatabaseIncident 0 "usage" 5)) 1] := by
  have h1 : ReflTransGen Undisturbed {} _ := .single (.step (.databaseFailed (r := {}) "usage" 5 rfl))
  have h2 := h1.tail (.step (.storeFlag rfl))
  have h3 := h2.tail (.step (.databaseRecovered "usage" rfl))
  have h4 := h3.tail (.step (.advance (.mark rfl rfl rfl) (.at [] [])))
  exact ⟨_, h4, rfl⟩

theorem recovery_mark_released_marked : ∃ r : EventRepository, r.recoveries ≠ [] ∧ Unstuck r := by
  obtain ⟨r, hRun, hCalls⟩ := reachable_marked
  exact ⟨r, by simp [hCalls], (recovery_mark_released hRun).1⟩

/-- A request cancelled while its recovery is being written. -/
theorem dropped_recovery_stuck :
    ∃ r : EventRepository, ReflTransGen Cancellable {} r ∧
      (∀ call ∈ r.recoveries, call.component? = none) ∧
      ∃ inc, r.incident? "usage" = some inc ∧ inc.recovering = true := by
  have h1 : ReflTransGen Cancellable {} _ := .single (.step (.databaseFailed (r := {}) "usage" 5 rfl))
  have h2 := h1.tail (.step (.storeFlag rfl))
  have h3 := h2.tail (.step (.databaseRecovered "usage" rfl))
  have h4 := h3.tail (.step (.advance (.mark rfl rfl rfl) (.at [] [])))
  have h5 := h4.tail (.drop (.drop (.at [] [])))
  refine ⟨_, h5, ?_, _, rfl, rfl⟩
  intro call hCall
  rw [List.mem_singleton.mp hCall]
  rfl

end AiGateway.Events
