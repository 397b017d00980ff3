import AiGateway.Base.Concurrent
import AiGateway.Infra.ReplayedRuns

/-!
# Writing the usage of a request

A finished request is recorded with its attempts in one transaction.  The answer
to a commit may be lost, and the writer of a streamed request then tries again,
at most three times.  The writers of different requests run at the same time.
-/

namespace AiGateway.Accounting

set_option autoImplicit false

open AiGateway.Concurrent AiGateway.Health AiGateway.Migrations AiGateway.Proxy Relation

/-- What a finished request is recorded with.  Its attempts are numbered. -/
structure Request where
  event : UsageEvent
  attempts : List UsageAttempt
  numbered : (attempts.map UsageAttempt.attemptNo).Nodup

def Request.id (request : Request) : String := request.event.requestId

/-- How a transaction ends for its caller. -/
inductive Fate where
  | committed
  /-- Committed, and the caller sees an error. -/
  | unanswered
  | rolledBack

def Fate.commits : Fate → Bool
  | .committed | .unanswered => true
  | .rolledBack => false

def Fate.answers : Fate → Bool
  | .committed => true
  | .unanswered | .rolledBack => false

/-- One write, and whether it returned without an error. -/
def writeUsage (now : DateTime) (fate : Fate) (request : Request) (d : Database) :
    Database × Bool :=
  match insertUsageWithAttempts now request.event request.attempts d with
  | .error _ => (d, false)
  | .ok d' => (if fate.commits then d' else d, fate.answers)

/-! ## Writers -/

inductive Point where
  | writing (attempt : Nat)
  | returned (ok : Bool)
  deriving DecidableEq

structure Writer where
  request : Request
  streamed : Bool
  point : Point

namespace Writer

/-- Only the usage of a stream is written with retries. -/
def tries (w : Writer) : Nat := if w.streamed then 3 else 1

def start (request : Request) (streamed : Bool) : Writer := ⟨request, streamed, .writing 1⟩

/-- The loop of `retry_usage_write` after its write of the given number returned. -/
def next (w : Writer) (attempt : Nat) (ok : Bool) : Writer :=
  { w with
    point :=
      if ok then .returned true
      else if attempt < w.tries then .writing (attempt + 1)
      else .returned false }

end Writer

structure System where
  database : Database
  writers : List Writer

def eventsOf (d : Database) (id : String) : List UsageEventRow :=
  d.usageEvents.filter fun row => row.event.requestId = id

def attemptsOf (d : Database) (id : String) : List UsageAttemptRow :=
  d.usageEventAttempts.filter fun row => row.requestId = id

/-- A request gets an id that no other one has. -/
structure Fresh (s : System) (id : String) : Prop where
  events : eventsOf s.database id = []
  attempts : attemptsOf s.database id = []
  writers : ∀ w ∈ s.writers, w.request.id ≠ id

inductive Step : System → System → Prop where
  | begin {s : System} {request : Request} (streamed : Bool) (fresh : Fresh s request.id) :
      Step s { s with writers := s.writers ++ [.start request streamed] }
  | write {s : System} {w : Writer} {writers : List Writer} {attempt : Nat} {d : Database}
      {ok : Bool} (now : DateTime) (fate : Fate) (writing : w.point = .writing attempt)
      (written : writeUsage now fate w.request s.database = (d, ok))
      (moves : Moves w (w.next attempt ok) s.writers writers) : Step s ⟨d, writers⟩
  /-- Any transaction that leaves the two tables alone. -/
  | other {s : System} {d : Database} (events : d.usageEvents = s.database.usageEvents)
      (attempts : d.usageEventAttempts = s.database.usageEventAttempts) :
      Step s { s with database := d }

/-! ## What one write does to the tables -/

section Tables

variable {now : DateTime} {d d' : Database} {id : String}

theorem filter_insertUsageEvent_other {event : UsageEvent} (h : event.requestId ≠ id)
    (rows : List UsageEventRow) :
    (insertUsageEvent now event rows).filter (fun row => row.event.requestId = id) =
      rows.filter fun row => row.event.requestId = id := by
  rw [insertUsageEvent]
  split
  · rfl
  · rw [List.filter_append]
    simp [usageRow, h]

theorem filter_insertUsageAttempts_other {rid : String} (h : rid ≠ id)
    (attempts : List UsageAttempt) (rows : List UsageAttemptRow) :
    (attempts.foldl (insertUsageAttempt now rid) rows).filter (fun row => row.requestId = id) =
      rows.filter fun row => row.requestId = id := by
  induction attempts generalizing rows with
  | nil => rfl
  | cons attempt rest ih =>
    rw [List.foldl_cons, ih, insertUsageAttempt]
    split
    · rfl
    · rw [List.filter_append]
      simp [attemptRow, h]

/-- The attempts already there and those still to come have different numbers. -/
theorem filter_insertUsageAttempts (attempts : List UsageAttempt) {before : List UsageAttempt}
    {rows : List UsageAttemptRow}
    (hNumbered : ((before ++ attempts).map UsageAttempt.attemptNo).Nodup)
    (hRows : (rows.filter fun row => row.requestId = id) = before.map (attemptRow now id)) :
    ((attempts.foldl (insertUsageAttempt now id) rows).filter fun row => row.requestId = id) =
      (before ++ attempts).map (attemptRow now id) := by
  induction attempts generalizing before rows with
  | nil => rw [List.append_nil]; exact hRows
  | cons attempt rest ih =>
    have hNew : (rows.any fun row =>
        row.requestId = id && row.attempt.attemptNo = attempt.attemptNo) = false := by
      rw [List.any_eq_false]
      intro row hRow hSame
      rw [Bool.and_eq_true, decide_eq_true_iff, decide_eq_true_iff] at hSame
      have hFound : row ∈ rows.filter fun row => row.requestId = id :=
        List.mem_filter.mpr ⟨hRow, decide_eq_true hSame.1⟩
      rw [hRows] at hFound
      obtain ⟨earlier, hEarlier, rfl⟩ := List.mem_map.mp hFound
      rw [List.map_append, List.nodup_append] at hNumbered
      exact hNumbered.2.2 _ (List.mem_map_of_mem hEarlier) _
        (List.mem_map_of_mem List.mem_cons_self) hSame.2
    rw [List.foldl_cons, insertUsageAttempt, hNew, if_neg (by decide)]
    rw [List.append_cons] at hNumbered
    rw [List.append_cons before]
    apply ih hNumbered
    rw [List.filter_append, hRows, List.map_append]
    simp [attemptRow]

theorem insertUsageAttempts_of_recorded (attempts : List UsageAttempt)
    {rows : List UsageAttemptRow}
    (h : ∀ attempt ∈ attempts, ∃ row ∈ rows,
      row.requestId = id ∧ row.attempt.attemptNo = attempt.attemptNo) :
    attempts.foldl (insertUsageAttempt now id) rows = rows := by
  induction attempts with
  | nil => rfl
  | cons attempt rest ih =>
    rw [List.forall_mem_cons] at h
    obtain ⟨⟨row, hRow, hId, hNo⟩, hRest⟩ := h
    have hFound : (rows.any fun row =>
        row.requestId = id && row.attempt.attemptNo = attempt.attemptNo) = true :=
      List.any_eq_true.mpr ⟨row, hRow, by simp [hId, hNo]⟩
    rw [List.foldl_cons, insertUsageAttempt, if_pos hFound]
    exact ih hRest

end Tables

/-- The tables hold the request once, as one transaction wrote it. -/
def RecordedOnce (d : Database) (request : Request) : Prop :=
  ∃ now, eventsOf d request.id = [usageRow now request.event] ∧
    attemptsOf d request.id = request.attempts.map (attemptRow now request.id)

def Unrecorded (d : Database) (id : String) : Prop := eventsOf d id = [] ∧ attemptsOf d id = []

section Write

variable {now : DateTime} {fate : Fate} {request : Request} {d d' : Database} {ok : Bool}

/-- A write leaves the tables or commits its transaction, and one that returned well
has committed. -/
theorem writeUsage_cases (h : writeUsage now fate request d = (d', ok)) :
    (d' = d ∧ ok = false) ∨
      insertUsageWithAttempts now request.event request.attempts d = .ok d' := by
  rw [writeUsage] at h
  split at h
  · obtain ⟨rfl, rfl⟩ := Prod.mk.inj h
    exact .inl ⟨rfl, rfl⟩
  · next next hNext =>
    obtain ⟨rfl, rfl⟩ := Prod.mk.inj h
    cases fate with
    | committed => exact .inr hNext
    | unanswered => exact .inr hNext
    | rolledBack => exact .inl ⟨rfl, rfl⟩

theorem insertUsageWithAttempts_tables
    (h : insertUsageWithAttempts now request.event request.attempts d = .ok d') :
    d'.usageEvents = insertUsageEvent now request.event d.usageEvents ∧
      d'.usageEventAttempts =
        request.attempts.foldl (insertUsageAttempt now request.id) d.usageEventAttempts := by
  rw [insertUsageWithAttempts] at h
  split at h
  · obtain rfl := Except.ok.inj h
    exact ⟨rfl, rfl⟩
  · cases h

theorem inserted_other (h : insertUsageWithAttempts now request.event request.attempts d = .ok d')
    {id : String} (hId : request.id ≠ id) :
    eventsOf d' id = eventsOf d id ∧ attemptsOf d' id = attemptsOf d id := by
  obtain ⟨hEvents, hAttempts⟩ := insertUsageWithAttempts_tables h
  constructor
  · rw [eventsOf, hEvents, filter_insertUsageEvent_other hId, eventsOf]
  · rw [attemptsOf, hAttempts, filter_insertUsageAttempts_other hId, attemptsOf]

theorem inserted_first (h : insertUsageWithAttempts now request.event request.attempts d = .ok d')
    (hNone : Unrecorded d request.id) : RecordedOnce d' request := by
  obtain ⟨hEvents, hAttempts⟩ := insertUsageWithAttempts_tables h
  refine ⟨now, ?_, ?_⟩
  · have hNew : (d.usageEvents.any fun row => row.event.requestId = request.event.requestId) =
        false := by
      rw [List.any_eq_false]
      intro row hRow hSame
      have hFound : row ∈ eventsOf d request.id := List.mem_filter.mpr ⟨hRow, hSame⟩
      rw [hNone.1] at hFound
      cases hFound
    have hBefore : (d.usageEvents.filter fun row => row.event.requestId = request.id) = [] :=
      hNone.1
    rw [eventsOf, hEvents, insertUsageEvent, hNew, if_neg (by decide), List.filter_append, hBefore]
    simp [usageRow, Request.id]
  · rw [attemptsOf, hAttempts]
    have hNumbered : (([] ++ request.attempts).map UsageAttempt.attemptNo).Nodup :=
      request.numbered
    exact filter_insertUsageAttempts request.attempts hNumbered hNone.2

theorem inserted_again (h : insertUsageWithAttempts now request.event request.attempts d = .ok d')
    (hOnce : RecordedOnce d request) : RecordedOnce d' request := by
  obtain ⟨hEvents, hAttempts⟩ := insertUsageWithAttempts_tables h
  obtain ⟨first, hEvent, hMade⟩ := hOnce
  have hThere : insertUsageEvent now request.event d.usageEvents = d.usageEvents := by
    have hFound : usageRow first request.event ∈ eventsOf d request.id := by
      rw [hEvent]
      exact List.mem_singleton_self _
    obtain ⟨hRow, hSame⟩ := List.mem_filter.mp hFound
    rw [insertUsageEvent, if_pos (List.any_eq_true.mpr ⟨_, hRow, hSame⟩)]
  have hNumbers : ∀ attempt ∈ request.attempts, ∃ row ∈ d.usageEventAttempts,
      row.requestId = request.id ∧ row.attempt.attemptNo = attempt.attemptNo := by
    intro attempt hAttempt
    have hFound : attemptRow first request.id attempt ∈ attemptsOf d request.id := by
      rw [hMade]
      exact List.mem_map_of_mem hAttempt
    obtain ⟨hRow, -⟩ := List.mem_filter.mp hFound
    exact ⟨_, hRow, rfl, rfl⟩
  refine ⟨first, ?_, ?_⟩
  · rw [eventsOf, hEvents, hThere]
    exact hEvent
  · rw [attemptsOf, hAttempts, insertUsageAttempts_of_recorded _ hNumbers]
    exact hMade

end Write

/-! ## Runs -/

/-- Where a writer stands, and what the tables hold of its request then. -/
structure Accounted (d : Database) (w : Writer) : Prop where
  recorded : RecordedOnce d w.request ∨ Unrecorded d w.request.id
  answered : w.point = .returned true → RecordedOnce d w.request
  tried : ∀ attempt, w.point = .writing attempt → 1 ≤ attempt ∧ attempt ≤ w.tries

structure Invariant (start : Database) (s : System) : Prop where
  distinct : (s.writers.map fun w => w.request.id).Nodup
  accounted : ∀ w ∈ s.writers, Accounted s.database w
  kept : ∀ id, (∀ w ∈ s.writers, w.request.id ≠ id) →
    eventsOf s.database id = eventsOf start id ∧ attemptsOf s.database id = attemptsOf start id

theorem Accounted.of_same {d d' : Database} {w : Writer} (h : Accounted d w)
    (hEvents : eventsOf d' w.request.id = eventsOf d w.request.id)
    (hAttempts : attemptsOf d' w.request.id = attemptsOf d w.request.id) : Accounted d' w := by
  have hOnce : RecordedOnce d w.request → RecordedOnce d' w.request := by
    rintro ⟨now, hEvent, hMade⟩
    exact ⟨now, hEvents.trans hEvent, hAttempts.trans hMade⟩
  refine ⟨?_, fun hPoint => hOnce (h.answered hPoint), h.tried⟩
  rcases h.recorded with hRecorded | ⟨hNone, hNone'⟩
  · exact .inl (hOnce hRecorded)
  · exact .inr ⟨hEvents.trans hNone, hAttempts.trans hNone'⟩

theorem Writer.next_tried {w : Writer} {attempt : Nat} (hWriting : 1 ≤ attempt ∧ attempt ≤ w.tries)
    (ok : Bool) (n : Nat) (hPoint : (w.next attempt ok).point = .writing n) :
    1 ≤ n ∧ n ≤ (w.next attempt ok).tries := by
  have hTries : (w.next attempt ok).tries = w.tries := rfl
  rw [Writer.next] at hPoint
  dsimp only at hPoint
  split at hPoint
  · cases hPoint
  · split at hPoint
    · next hMore =>
      obtain rfl := Point.writing.inj hPoint
      rw [hTries]
      omega
    · cases hPoint

theorem Writer.ok_of_next {w : Writer} {attempt : Nat} {ok : Bool}
    (h : (w.next attempt ok).point = .returned true) : ok = true := by
  cases ok with
  | true => rfl
  | false =>
    rw [Writer.next] at h
    dsimp only at h
    rw [if_neg (by decide)] at h
    split at h
    · cases h
    · cases h

theorem Accounted.write {now : DateTime} {fate : Fate} {d d' : Database} {w : Writer} {ok : Bool}
    {attempt : Nat} (h : Accounted d w) (hWriting : w.point = .writing attempt)
    (hWritten : writeUsage now fate w.request d = (d', ok)) : Accounted d' (w.next attempt ok) := by
  have hTried := Writer.next_tried (h.tried attempt hWriting) ok
  rcases writeUsage_cases hWritten with ⟨rfl, rfl⟩ | hInserted
  · refine ⟨h.recorded, fun hPoint => ?_, hTried⟩
    cases Writer.ok_of_next hPoint
  · have hOnce : RecordedOnce d' w.request :=
      h.recorded.elim (inserted_again hInserted) (inserted_first hInserted)
    exact ⟨.inl hOnce, fun _ => hOnce, hTried⟩

theorem Invariant.step {start : Database} {s t : System} (h : Invariant start s)
    (hStep : Step s t) : Invariant start t := by
  cases hStep with
  | @begin request streamed fresh =>
    refine ⟨?_, ?_, ?_⟩
    · rw [List.map_append, List.nodup_append]
      refine ⟨h.distinct, List.nodup_singleton _, ?_⟩
      intro id hId new hNew
      obtain ⟨w, hw, rfl⟩ := List.mem_map.mp hId
      obtain rfl := List.mem_singleton.mp hNew
      exact fresh.writers w hw
    · intro w hw
      obtain hOld | hNew := List.mem_append.mp hw
      · exact h.accounted w hOld
      · obtain rfl := List.mem_singleton.mp hNew
        refine ⟨.inr ⟨fresh.events, fresh.attempts⟩, fun hPoint => ?_, ?_⟩
        · cases hPoint
        · intro n hPoint
          obtain rfl := Point.writing.inj hPoint
          refine ⟨le_rfl, ?_⟩
          rw [Writer.tries]
          split <;> decide
    · intro id hId
      exact h.kept id fun w hw => hId w (List.mem_append_left _ hw)
  | @write w writers attempt d ok now fate writing written moves =>
    obtain ⟨before, after, hWriters, rfl⟩ := moves.exists_eq
    have hDistinct := h.distinct
    rw [hWriters, List.map_append, List.map_cons, List.nodup_middle, List.nodup_cons] at hDistinct
    have hOthers : ∀ id, w.request.id ≠ id →
        eventsOf d id = eventsOf s.database id ∧ attemptsOf d id = attemptsOf s.database id := by
      intro id hId
      rcases writeUsage_cases written with ⟨rfl, -⟩ | hInserted
      · exact ⟨rfl, rfl⟩
      · exact inserted_other hInserted hId
    have hOther : ∀ v ∈ before ++ after, Accounted d v := by
      intro v hv
      have hId : w.request.id ≠ v.request.id := by
        intro hSame
        apply hDistinct.1
        rw [hSame, ← List.map_append]
        exact List.mem_map_of_mem (f := fun w : Writer => w.request.id) hv
      obtain ⟨hEvents, hAttempts⟩ := hOthers _ hId
      have hOld : v ∈ s.writers := by
        rw [hWriters, List.mem_append, List.mem_cons]
        exact (List.mem_append.mp hv).imp_right .inr
      exact (h.accounted v hOld).of_same hEvents hAttempts
    refine ⟨?_, ?_, ?_⟩
    · rw [List.map_append, List.map_cons, List.nodup_middle, List.nodup_cons]
      exact hDistinct
    · intro v hv
      rw [List.mem_append, List.mem_cons] at hv
      rcases hv with hv | rfl | hv
      · exact hOther v (List.mem_append_left _ hv)
      · exact (h.accounted w (hWriters ▸ by simp)).write writing written
      · exact hOther v (List.mem_append_right _ hv)
    · intro id hId
      obtain ⟨hEvents, hAttempts⟩ := hOthers id (hId (w.next attempt ok) (by simp))
      obtain ⟨hEvents', hAttempts'⟩ := h.kept id (by
        intro v hv
        rw [hWriters, List.mem_append, List.mem_cons] at hv
        rcases hv with hv | rfl | hv
        · exact hId v (by simp [hv])
        · exact hId (v.next attempt ok) (by simp)
        · exact hId v (by simp [hv]))
      exact ⟨hEvents.trans hEvents', hAttempts.trans hAttempts'⟩
  | @other d events attempts =>
    have hEvents : ∀ id, eventsOf d id = eventsOf s.database id := by
      intro id
      rw [eventsOf, events, eventsOf]
    have hAttempts : ∀ id, attemptsOf d id = attemptsOf s.database id := by
      intro id
      rw [attemptsOf, attempts, attemptsOf]
    refine ⟨h.distinct, fun w hw => (h.accounted w hw).of_same (hEvents _) (hAttempts _), ?_⟩
    intro id hId
    obtain ⟨hEvents', hAttempts'⟩ := h.kept id hId
    exact ⟨(hEvents id).trans hEvents', (hAttempts id).trans hAttempts'⟩

/-- Whatever the writers and their transactions do, a request is in the tables once with
its attempts or not at all, it is there once its writer returned well, and no rows of
other requests change. -/
theorem usage_recorded_once {start : Database} {s : System}
    (hRun : ReflTransGen Step ⟨start, []⟩ s) :
    (∀ w ∈ s.writers, Accounted s.database w) ∧
      ∀ id, (∀ w ∈ s.writers, w.request.id ≠ id) →
        eventsOf s.database id = eventsOf start id ∧
          attemptsOf s.database id = attemptsOf start id := by
  have hStart : Invariant start ⟨start, []⟩ := by
    refine ⟨List.nodup_nil, ?_, fun _ _ => ⟨rfl, rfl⟩⟩
    intro w hw
    cases hw
  have hInvariant := invariant hRun Invariant.step hStart
  exact ⟨hInvariant.accounted, hInvariant.kept⟩

namespace Retried

/-- A streamed request with one attempt. -/
def request : Request where
  event := { Orphaned.event with streamed := true }
  attempts :=
    [{ attemptNo := 1, providerId := "custom", sourceId := "s", accountId := "a",
       upstreamModelId := some "m", statusCode := 200, success := true, latencyMs := 0 }]
  numbered := List.nodup_singleton _

def database : Database :=
  { Orphaned.before with
    usageEvents := [usageRow 1 request.event]
    usageEventAttempts := request.attempts.map (attemptRow 1 request.id) }

def first : Writer := .start request true

def second : Writer := first.next 1 false

def third : Writer := second.next 2 true

/-- The first commit is not answered, and the second write finds the rows. -/
theorem run : ReflTransGen Step ⟨Orphaned.before, []⟩ ⟨database, [third]⟩ := by
  have hFresh : Fresh ⟨Orphaned.before, []⟩ request.id := by
    refine ⟨rfl, rfl, ?_⟩
    intro w hw
    cases hw
  have hBegin : Step ⟨Orphaned.before, []⟩ ⟨Orphaned.before, [first]⟩ := .begin true hFresh
  have hLost : Step ⟨Orphaned.before, [first]⟩ ⟨database, [second]⟩ :=
    .write 1 .unanswered rfl rfl (.at [] [])
  have hAgain : Step ⟨database, [second]⟩ ⟨database, [third]⟩ :=
    .write 2 .committed rfl rfl (.at [] [])
  exact ((ReflTransGen.single hBegin).tail hLost).tail hAgain

end Retried

theorem usage_recorded_once_retried : RecordedOnce Retried.database Retried.request := by
  have hWriter : Retried.third ∈ [Retried.third] := List.mem_singleton_self _
  exact ((usage_recorded_once Retried.run).1 Retried.third hWriter).answered rfl

end AiGateway.Accounting
