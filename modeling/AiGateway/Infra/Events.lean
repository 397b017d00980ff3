import AiGateway.Base.Concurrent
import AiGateway.Base.Table
import AiGateway.Infra.Health

/-!
# Database incidents

The first unresolved outage of each database-backed component is remembered in
memory and written to the event log when the component works again.  The map is
behind a lock that is released around both inserts, so failures, recoveries and
inserts that fail interleave; the flag beside the map is read without the lock.
Components are named as the repository stores them, after their text was
cleaned.
-/

namespace AiGateway.Events

set_option autoImplicit false

open AiGateway.Concurrent AiGateway.Health

/-- Ids are drawn at random; here they are numbered as they are drawn. -/
structure DatabaseIncident where
  id : Nat
  occurredAt : DateTime
  component : String
  persisted : Bool
  recovering : Bool
  failureDuringRecoveryAt : Option DateTime
  deriving DecidableEq, Repr

def newDatabaseIncident (id : Nat) (component : String) (occurredAt : DateTime) :
    DatabaseIncident where
  id := id
  occurredAt := occurredAt
  component := component
  persisted := false
  recovering := false
  failureDuringRecoveryAt := none

/-- The rows of the event log that carry an incident id. -/
inductive SystemEvent where
  | connectionFailed (id : Nat)
  | connectionRecovered (id : Nat)
  deriving DecidableEq, Repr

/-- The lock of the map; its holder may still have to store the flag. -/
inductive Lock where
  | free
  | storing (value : Bool)
  deriving DecidableEq, Repr

/-- Where a call of `database_recovered` waits, once it has found the flag
raised.  A call that has marked an incident keeps its copy, and how many
failures had been reported by then. -/
inductive Recovery where
  | waiting (component : String)
  | marked (incident : DatabaseIncident) (since : Nat)
  | writing (incident : DatabaseIncident) (since : Nat) (persisted : Bool)
  | closing (incident : DatabaseIncident) (since : Nat)
  | releasing (incident : DatabaseIncident) (persisted : Bool)
  | returned
  | dropped
  deriving DecidableEq, Repr

/-- The incident a call has marked and not yet let go. -/
def Recovery.incident? : Recovery → Option DatabaseIncident
  | .marked incident _ | .writing incident _ _ | .closing incident _ | .releasing incident _ =>
    some incident
  | .waiting _ | .returned | .dropped => none

/-- The component of a call in progress. -/
def Recovery.component? : Recovery → Option String
  | .waiting component => some component
  | call => call.incident?.map DatabaseIncident.component

structure EventRepository where
  databaseIncidents : Table String DatabaseIncident := .empty
  hasDatabaseIncidents : Bool := false
  lock : Lock := .free
  nextId : Nat := 0
  systemEvents : List SystemEvent := []
  /-- The failures reported so far, with their components. -/
  reports : List (String × DateTime) := []
  recoveries : List Recovery := []

namespace EventRepository

def incident? (r : EventRepository) (component : String) : Option DatabaseIncident :=
  r.databaseIncidents.get component

/-- The section of `remember_database_failure` under the lock. -/
def rememberDatabaseFailure (component : String) (now : DateTime) (r : EventRepository) :
    EventRepository :=
  let r := { r with reports := r.reports ++ [(component, now)] }
  match r.incident? component with
  | some incident =>
    if incident.recovering ∧ incident.failureDuringRecoveryAt = none then
      { r with
        databaseIncidents := r.databaseIncidents.insert component
          { incident with failureDuringRecoveryAt := some now } }
    else r
  | none =>
    { r with
      databaseIncidents := r.databaseIncidents.insert component
        (newDatabaseIncident r.nextId component now)
      nextId := r.nextId + 1
      lock := .storing true }

/-- The section of `database_recovered` under the lock that follows a stored
recovery. -/
def closeRecovery (incident : DatabaseIncident) (r : EventRepository) : EventRepository :=
  match r.incident? incident.component with
  | none => r
  | some current =>
    if current.id ≠ incident.id then r
    else
      match current.failureDuringRecoveryAt with
      | some occurredAt =>
        { r with
          databaseIncidents := r.databaseIncidents.insert incident.component
            (newDatabaseIncident r.nextId incident.component occurredAt)
          nextId := r.nextId + 1 }
      | none =>
        { r with
          databaseIncidents := r.databaseIncidents.erase incident.component
          lock := if (r.databaseIncidents.erase incident.component).isEmpty then .storing false
            else r.lock }

def releaseDatabaseRecovery (incident : DatabaseIncident) (persisted : Bool)
    (r : EventRepository) : EventRepository :=
  match r.incident? incident.component with
  | none => r
  | some current =>
    if current.id ≠ incident.id then r
    else
      { r with
        databaseIncidents := r.databaseIncidents.insert incident.component
          { current with
            persisted := current.persisted || persisted
            recovering := false
            failureDuringRecoveryAt := none } }

/-- The mark of a recovery: the copy the call keeps is the one in the map. -/
def markedIncident (incident : DatabaseIncident) : DatabaseIncident :=
  { incident with recovering := true, failureDuringRecoveryAt := none }

def markRecovery (component : String) (incident : DatabaseIncident) (r : EventRepository) :
    EventRepository :=
  { r with databaseIncidents := r.databaseIncidents.insert component (markedIncident incident) }

def stored (event : SystemEvent) (r : EventRepository) : EventRepository :=
  { r with systemEvents := r.systemEvents ++ [event] }

end EventRepository

open EventRepository

/-- What one call of `database_recovered` does next. -/
inductive Advance (r : EventRepository) : Recovery → Recovery → EventRepository → Prop where
  | absent {component : String} (hFree : r.lock = .free) (hNone : r.incident? component = none) :
      Advance r (.waiting component) .returned r
  | busy {component : String} {incident : DatabaseIncident} (hFree : r.lock = .free)
      (hFound : r.incident? component = some incident) (hBusy : incident.recovering = true) :
      Advance r (.waiting component) .returned r
  | mark {component : String} {incident : DatabaseIncident} (hFree : r.lock = .free)
      (hFound : r.incident? component = some incident) (hIdle : incident.recovering = false) :
      Advance r (.waiting component) (.marked (markedIncident incident) r.reports.length)
        (r.markRecovery component incident)
  | storeFailure {incident : DatabaseIncident} {since : Nat} (hNew : incident.persisted = false) :
      Advance r (.marked incident since) (.writing incident since true)
        (r.stored (.connectionFailed incident.id))
  | loseFailure {incident : DatabaseIncident} {since : Nat} (hNew : incident.persisted = false) :
      Advance r (.marked incident since) (.releasing incident false) r
  | skipFailure {incident : DatabaseIncident} {since : Nat} (hOld : incident.persisted = true) :
      Advance r (.marked incident since) (.writing incident since true) r
  | storeRecovery {incident : DatabaseIncident} {since : Nat} {persisted : Bool} :
      Advance r (.writing incident since persisted) (.closing incident since)
        (r.stored (.connectionRecovered incident.id))
  | loseRecovery {incident : DatabaseIncident} {since : Nat} {persisted : Bool} :
      Advance r (.writing incident since persisted) (.releasing incident persisted) r
  | close {incident : DatabaseIncident} {since : Nat} (hFree : r.lock = .free) :
      Advance r (.closing incident since) .returned (r.closeRecovery incident)
  | release {incident : DatabaseIncident} {persisted : Bool} (hFree : r.lock = .free) :
      Advance r (.releasing incident persisted) .returned
        (r.releaseDatabaseRecovery incident persisted)

inductive Step : EventRepository → EventRepository → Prop where
  | databaseFailed {r : EventRepository} (component : String) (now : DateTime)
      (hFree : r.lock = .free) : Step r (r.rememberDatabaseFailure component now)
  | storeFlag {r : EventRepository} {value : Bool} (hHeld : r.lock = .storing value) :
      Step r { r with hasDatabaseIncidents := value, lock := .free }
  /-- A call that finds the flag down returns at once. -/
  | databaseRecovered {r : EventRepository} (component : String)
      (hFlag : r.hasDatabaseIncidents = true) :
      Step r { r with recoveries := r.recoveries ++ [.waiting component] }
  | advance {r r' : EventRepository} {a b : Recovery} {recoveries : List Recovery}
      (hAdvance : Advance r a b r') (hMoves : Moves a b r.recoveries recoveries) :
      Step r { r' with recoveries := recoveries }

/-- A call whose future is dropped where it waits. -/
inductive Drop (a : Recovery) : EventRepository → EventRepository → Prop where
  | drop {r : EventRepository} {recoveries : List Recovery}
      (hMoves : Moves a .dropped r.recoveries recoveries) :
      Drop a r { r with recoveries := recoveries }

end AiGateway.Events
