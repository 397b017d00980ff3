import AiGateway.Base.Concurrent

/-!
# Settlement of accounted requests

A permit is reserved before the upstream request and held until the final write
of the request is done.  Reserving reads the closing flag before and after it
takes a permit; draining raises the flag and then waits until it holds every
permit.  The calls interleave step by step: each load, each store and each
exchange with a semaphore is a step of its own.
-/

namespace AiGateway.Settlement

set_option autoImplicit false

open AiGateway.Concurrent Relation

inductive AdmissionError where
  | saturated
  | closing
  deriving DecidableEq, Repr

/-- Where a reservation stands, from the call of `try_reserve` to the end of the
task spawned with its permit. -/
inductive Reservation where
  | called
  /-- The first load of the closing flag gave false. -/
  | opened
  /-- The stream permit is held, the second load is still to come. -/
  | acquired
  | rejected (error : AdmissionError)
  /-- The caller holds the permit. -/
  | reserved
  /-- The task is spawned and waits for a write permit. -/
  | pending
  | running
  /-- The future is done and the write permit is back. -/
  | written
  | released
  deriving DecidableEq, Repr

namespace Reservation

/-- Stream permits held. -/
def streams : Reservation → Nat
  | .acquired | .reserved | .pending | .running | .written => 1
  | .called | .opened | .rejected _ | .released => 0

/-- Write permits held. -/
def writes : Reservation → Nat
  | .running => 1
  | _ => 0

/-- The reservation succeeded and its permit is not back. -/
def isAdmitted : Reservation → Bool
  | .reserved | .pending | .running | .written => true
  | _ => false

end Reservation

/-- Where a call of `drain` stands; a waiting one may hold some permits. -/
inductive Drain where
  | called
  | waiting (held : Nat)
  | returned
  | cancelled
  deriving DecidableEq, Repr

def Drain.streams : Drain → Nat
  | .waiting held => held
  | _ => 0

structure SettlementManager where
  permits : Nat
  writes : Nat
  closing : Bool
  reservations : List Reservation
  drains : List Drain

section Machine

variable (capacity writeLimit : Nat)

def withLimits : SettlementManager where
  permits := capacity
  writes := writeLimit
  closing := false
  reservations := []
  drains := []

/-- What one reservation does next, and what it takes from or gives back to the
two semaphores. -/
inductive Advance (m : SettlementManager) : Reservation → Reservation → Nat → Nat → Prop where
  | enter (hOpen : m.closing = false) : Advance m .called .opened m.permits m.writes
  | refuse (hClosing : m.closing = true) :
      Advance m .called (.rejected .closing) m.permits m.writes
  | acquire {permits : Nat} (hPermit : m.permits = permits + 1) :
      Advance m .opened .acquired permits m.writes
  /-- A permit that is there may be on its way to a waiting drain. -/
  | saturate : Advance m .opened (.rejected .saturated) m.permits m.writes
  | letIn (hOpen : m.closing = false) : Advance m .acquired .reserved m.permits m.writes
  | turnAway (hClosing : m.closing = true) :
      Advance m .acquired (.rejected .closing) (m.permits + 1) m.writes
  | drop : Advance m .reserved .released (m.permits + 1) m.writes
  | spawn : Advance m .reserved .pending m.permits m.writes
  | start {writes : Nat} (hWrite : m.writes = writes + 1) :
      Advance m .pending .running m.permits writes
  /-- A task dropped before its future ran. -/
  | abort : Advance m .pending .released (m.permits + 1) m.writes
  | finish : Advance m .running .written m.permits (m.writes + 1)
  | release : Advance m .written .released (m.permits + 1) m.writes

/-- What one drain does next, and what it leaves of the stream permits and the
flag. -/
inductive DrainStep (m : SettlementManager) : Drain → Drain → Nat → Bool → Prop where
  | close : DrainStep m .called (.waiting 0) m.permits true
  | collect {held permits : Nat} (hPermit : m.permits = permits + 1) :
      DrainStep m (.waiting held) (.waiting (held + 1)) permits m.closing
  | finish : DrainStep m (.waiting capacity) .returned (m.permits + capacity) m.closing
  | cancel {held : Nat} : DrainStep m (.waiting held) .cancelled (m.permits + held) m.closing

inductive Step : SettlementManager → SettlementManager → Prop where
  | tryReserve (m : SettlementManager) :
      Step m { m with reservations := m.reservations ++ [.called] }
  | drain (m : SettlementManager) : Step m { m with drains := m.drains ++ [.called] }
  | reservation {m : SettlementManager} {a b : Reservation} {permits writes : Nat}
      {reservations : List Reservation} (hAdvance : Advance m a b permits writes)
      (hMoves : Moves a b m.reservations reservations) :
      Step m { m with permits := permits, writes := writes, reservations := reservations }
  | draining {m : SettlementManager} {a b : Drain} {permits : Nat} {closing : Bool}
      {drains : List Drain} (hDrain : DrainStep capacity m a b permits closing)
      (hMoves : Moves a b m.drains drains) :
      Step m { m with permits := permits, closing := closing, drains := drains }

def Reachable (m : SettlementManager) : Prop :=
  ReflTransGen (Step capacity) (withLimits capacity writeLimit) m

end Machine

def SettlementManager.outstanding (m : SettlementManager) : Nat :=
  (m.reservations.map Reservation.streams).sum

def SettlementManager.running (m : SettlementManager) : Nat :=
  (m.reservations.map Reservation.writes).sum

def SettlementManager.draining (m : SettlementManager) : Nat := (m.drains.map Drain.streams).sum

structure Balanced (capacity writeLimit : Nat) (m : SettlementManager) : Prop where
  streams : m.permits + m.outstanding + m.draining = capacity
  writes : m.writes + m.running = writeLimit
  closing : ∀ drain ∈ m.drains, drain ≠ .called → m.closing = true
  drained : .returned ∈ m.drains → ∀ r ∈ m.reservations, r.isAdmitted = false

theorem Advance.streams {m : SettlementManager} {a b : Reservation} {permits writes : Nat}
    (h : Advance m a b permits writes) : permits + b.streams = m.permits + a.streams := by
  cases h with
  | acquire hPermit => simp [Reservation.streams, hPermit]
  | _ => simp [Reservation.streams]

theorem Advance.writes {m : SettlementManager} {a b : Reservation} {permits writes : Nat}
    (h : Advance m a b permits writes) : writes + b.writes = m.writes + a.writes := by
  cases h with
  | start hWrite => simp [Reservation.writes, hWrite]
  | _ => simp [Reservation.writes]

/-- A reservation is admitted only while the flag is down. -/
theorem Advance.isAdmitted {m : SettlementManager} {a b : Reservation} {permits writes : Nat}
    (h : Advance m a b permits writes) (hOld : a.isAdmitted = false) (hClosing : m.closing = true) :
    b.isAdmitted = false := by
  cases h with
  | letIn hOpen => simp [hOpen] at hClosing
  | spawn => cases hOld
  | start hWrite => cases hOld
  | finish => cases hOld
  | _ => rfl

theorem DrainStep.streams {capacity : Nat} {m : SettlementManager} {a b : Drain} {permits : Nat}
    {closing : Bool} (h : DrainStep capacity m a b permits closing) :
    permits + b.streams = m.permits + a.streams := by
  cases h with
  | collect hPermit =>
    simp only [Drain.streams, hPermit]
    omega
  | _ => simp [Drain.streams]

theorem DrainStep.closing {capacity : Nat} {m : SettlementManager} {a b : Drain} {permits : Nat}
    {closing : Bool} (h : DrainStep capacity m a b permits closing) :
    b ≠ .called ∧ (a = .called ∧ closing = true ∨ a ≠ .called ∧ closing = m.closing) := by
  cases h with
  | close => simp
  | _ => simp

/-- Who holds no permit is not admitted. -/
theorem isAdmitted_of_outstanding {m : SettlementManager} (h : m.outstanding = 0) :
    ∀ r ∈ m.reservations, r.isAdmitted = false := by
  intro r hr
  have hLe := le_sum_of_mem hr Reservation.streams
  unfold SettlementManager.outstanding at h
  cases r with
  | called => rfl
  | opened => rfl
  | acquired => rfl
  | rejected error => rfl
  | released => rfl
  | _ =>
    simp only [Reservation.streams] at hLe
    omega

theorem balanced_step {capacity writeLimit : Nat} {m m' : SettlementManager}
    (h : Balanced capacity writeLimit m) (hStep : Step capacity m m') :
    Balanced capacity writeLimit m' := by
  obtain ⟨hStreams, hWrites, hClosing, hDrained⟩ := h
  cases hStep with
  | tryReserve =>
    refine ⟨?_, ?_, hClosing, ?_⟩
    · simpa [SettlementManager.outstanding, SettlementManager.draining, Reservation.streams]
        using hStreams
    · simpa [SettlementManager.running, Reservation.writes] using hWrites
    · intro hReturned r hr
      obtain hOld | hNew := List.mem_append.mp hr
      · exact hDrained hReturned r hOld
      · rw [List.mem_singleton.mp hNew]
        rfl
  | drain =>
    refine ⟨?_, hWrites, ?_, ?_⟩
    · simpa [SettlementManager.outstanding, SettlementManager.draining, Drain.streams]
        using hStreams
    · intro drain hDrain hNe
      obtain hOld | hNew := List.mem_append.mp hDrain
      · exact hClosing drain hOld hNe
      · exact absurd (List.mem_singleton.mp hNew) hNe
    · intro hReturned
      apply hDrained
      simpa using hReturned
  | @reservation a b permits writes reservations hAdvance hMoves =>
    have hSum := hMoves.sum Reservation.streams
    have hSumWrites := hMoves.sum Reservation.writes
    have hBalance := hAdvance.streams
    have hBalanceWrites := hAdvance.writes
    refine ⟨?_, ?_, hClosing, ?_⟩
    · simp only [SettlementManager.outstanding, SettlementManager.draining] at hStreams ⊢
      omega
    · simp only [SettlementManager.running] at hWrites ⊢
      omega
    · intro hReturned r hr
      have hFlag := hClosing .returned hReturned (by simp)
      obtain rfl | hOld := hMoves.mem hr
      · exact hAdvance.isAdmitted (hDrained hReturned a hMoves.mem_old) hFlag
      · exact hDrained hReturned r hOld
  | @draining a b permits closing drains hDrain hMoves =>
    have hSum := hMoves.sum Drain.streams
    have hBalance := hDrain.streams
    obtain ⟨hNew, hFlag⟩ := hDrain.closing
    refine ⟨?_, hWrites, ?_, ?_⟩
    · simp only [SettlementManager.outstanding, SettlementManager.draining] at hStreams ⊢
      omega
    · intro drain hMem hNe
      obtain ⟨-, hRaised⟩ | ⟨hOld, hKept⟩ := hFlag
      · exact hRaised
      · change closing = true
        rw [hKept]
        exact hClosing a hMoves.mem_old hOld
    · intro hReturned
      change ∀ r ∈ m.reservations, r.isAdmitted = false
      cases hDrain with
      | finish =>
        -- the drain that returns held every permit
        apply isAdmitted_of_outstanding
        have hHeld := le_sum_of_mem hMoves.mem_old Drain.streams
        simp only [SettlementManager.draining, Drain.streams] at hStreams hHeld
        omega
      | _ =>
        apply hDrained
        obtain hSame | hOld := hMoves.mem hReturned
        · cases hSame
        · exact hOld

theorem balanced_of_reachable {capacity writeLimit : Nat} {m : SettlementManager}
    (h : Reachable capacity writeLimit m) : Balanced capacity writeLimit m := by
  refine invariant h balanced_step ?_
  refine ⟨?_, ?_, ?_, ?_⟩
  · simp [withLimits, SettlementManager.outstanding, SettlementManager.draining]
  · simp [withLimits, SettlementManager.running]
  · intro drain hDrain
    cases hDrain
  · intro hReturned
    cases hReturned

/-- A drain that has returned stays returned. -/
theorem returned_step {capacity : Nat} {m m' : SettlementManager} (h : .returned ∈ m.drains)
    (hStep : Step capacity m m') : .returned ∈ m'.drains := by
  cases hStep with
  | tryReserve => exact h
  | drain => exact List.mem_append_left _ h
  | reservation hAdvance hMoves => exact h
  | draining hDrain hMoves =>
    apply hMoves.mem_kept h
    rintro rfl
    cases hDrain

/-- The limits hold in every state, and once a drain has returned no reservation
is admitted, then or later. -/
theorem draining_settlement_complete {capacity writeLimit : Nat} {m : SettlementManager}
    (h : Reachable capacity writeLimit m) :
    m.outstanding ≤ capacity ∧ m.running ≤ writeLimit ∧
      (.returned ∈ m.drains → ∀ later, ReflTransGen (Step capacity) m later →
        ∀ r ∈ later.reservations, r.isAdmitted = false) := by
  obtain ⟨hStreams, hWrites, -, -⟩ := balanced_of_reachable h
  refine ⟨by omega, by omega, fun hReturned later hLater => ?_⟩
  have hStill : .returned ∈ later.drains :=
    invariant (P := fun m => .returned ∈ m.drains) hLater returned_step hReturned
  exact (balanced_of_reachable (h.trans hLater)).drained hStill

/-- One request reserved, settled and drained. -/
theorem reachable_drained : Reachable 1 1 ⟨1, 1, true, [.released], [.returned]⟩ := by
  refine .head (.tryReserve _) ?_
  refine .head (.reservation (.enter rfl) (.at [] [])) ?_
  refine .head (.reservation (.acquire rfl) (.at [] [])) ?_
  refine .head (.reservation (.letIn rfl) (.at [] [])) ?_
  refine .head (.reservation .spawn (.at [] [])) ?_
  refine .head (.reservation (.start rfl) (.at [] [])) ?_
  refine .head (.reservation .finish (.at [] [])) ?_
  refine .head (.reservation .release (.at [] [])) ?_
  refine .head (.drain _) ?_
  refine .head (.draining .close (.at [] [])) ?_
  refine .head (.draining (.collect rfl) (.at [] [])) ?_
  exact .single (.draining .finish (.at [] []))

theorem draining_settlement_complete_drained :
    ∃ m : SettlementManager, m.outstanding ≤ 1 ∧ m.running ≤ 1 ∧ .returned ∈ m.drains ∧
      ∀ later, ReflTransGen (Step 1) m later → ∀ r ∈ later.reservations, r.isAdmitted = false := by
  obtain ⟨hStreams, hWrites, hDrained⟩ := draining_settlement_complete reachable_drained
  exact ⟨_, hStreams, hWrites, by decide, hDrained (by decide)⟩

end AiGateway.Settlement
