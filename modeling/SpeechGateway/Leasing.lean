import SpeechGateway.Backends
import SpeechGateway.Machine

/-!
What a session takes when it is opened and gives back when it ends: a lease of the
`BackendRegistry`, a place in the `SessionManager`, a session of the adapter, a context, and
the flag `_worker_empty` that `drain_worker` waits for. A failed opening gives everything
back only in some cases (`open_unchanged_iff`), and the flag tells the truth as long as it is
set while nobody else holds a lease (`drain_waits`).
-/
namespace SpeechGateway.Leasing
open Backends

inductive StreamingMode
  | stateful
  | chunked
  | rolling
  | offline
  deriving DecidableEq, Repr

inductive WorkerLifecycle
  | starting
  | ready
  | draining
  | failed
  deriving DecidableEq, Repr

/-- The capabilities that routing reads, with the others. -/
structure RoutedCapabilities extends BackendCapabilities where
  workerId : WorkerId
  backendId : Text
  modelId : Text
  languages : List Text
  tasks : List Text
  streamingMode : StreamingMode
  maxInFlight : Nat
  sessionCapacity : Nat
  warmed : Bool

structure BackendSnapshot where
  capabilities : RoutedCapabilities
  lifecycle : WorkerLifecycle := .starting
  activeLeases : Nat := 0
  inFlight : Nat := 0

namespace BackendSnapshot

def workerId (worker : BackendSnapshot) : WorkerId := worker.capabilities.workerId

def accepting (worker : BackendSnapshot) : Bool :=
  decide (worker.lifecycle = .ready) && worker.capabilities.warmed &&
    decide (worker.activeLeases < worker.capabilities.sessionCapacity) &&
    decide (worker.inFlight < worker.capabilities.maxInFlight)

/-- The key of `min` in `acquire`, compared. -/
def before (worker other : BackendSnapshot) : Bool :=
  if worker.activeLeases ≠ other.activeLeases then decide (worker.activeLeases < other.activeLeases) else
  if worker.inFlight ≠ other.inFlight then decide (worker.inFlight < other.inFlight) else
  decide (worker.workerId < other.workerId)

def become (lifecycle : WorkerLifecycle) (worker : BackendSnapshot) : BackendSnapshot :=
  { worker with lifecycle := lifecycle }

def grant (worker : BackendSnapshot) : BackendSnapshot := { worker with activeLeases := worker.activeLeases + 1 }
def giveBack (worker : BackendSnapshot) : BackendSnapshot := { worker with activeLeases := worker.activeLeases - 1 }

end BackendSnapshot

/-- The arguments of `acquire` that `open_session` gives. -/
structure Route where
  backendId : Text
  language : Text
  task : Text
  streamingMode : StreamingMode
  resultModes : List ResultMode := [.cumulativeSnapshot,.replaceableSegment,.confirmedPlusTail]
  modelId : Option Text
  deriving DecidableEq, Repr

def Route.admits (route : Route) (worker : BackendSnapshot) : Bool :=
  let caps := worker.capabilities
  worker.accepting &&
    decide ((if caps.backendId = [] then caps.workerId else caps.backendId) = route.backendId) &&
    (decide (route.language = "auto".toList) || caps.languages.contains route.language ||
      caps.languages.contains "auto".toList) &&
    caps.tasks.contains route.task && decide (caps.streamingMode = route.streamingMode) &&
    route.resultModes.contains caps.resultMode && route.modelId.all (caps.modelId = ·)

/-- `_workers`, in the order of registration. -/
abbrev BackendRegistry := List BackendSnapshot

namespace BackendRegistry

/-- `min` over the candidates: the first of the least ones. -/
def least : List BackendSnapshot → Option BackendSnapshot
  | [] => none
  | first :: rest => some (rest.foldl (fun best next => if next.before best then next else best) first)

/-- Changes what the registry has for a worker. -/
def adjust (registry : BackendRegistry) (worker : WorkerId) (change : BackendSnapshot → BackendSnapshot) :
    BackendRegistry :=
  registry.map fun snapshot => if snapshot.workerId = worker then change snapshot else snapshot

/-- `_worker`. -/
def worker (registry : BackendRegistry) (worker : WorkerId) : Except PyError BackendSnapshot :=
  match registry.find? (·.workerId = worker) with
  | some snapshot => .ok snapshot
  | none => .error (.keyError ("unknown worker_id " ++ String.ofList worker))

def acquire (registry : BackendRegistry) (route : Route) : Except PyError (WorkerId × BackendRegistry) :=
  match least (registry.filter route.admits) with
  | none => .error (.runtimeError "unsupported backend route or no ready capacity")
  | some selected =>
    .ok (selected.workerId,registry.adjust selected.workerId .grant)

def release (registry : BackendRegistry) (worker : WorkerId) : Except PyError BackendRegistry := do
  let snapshot ← registry.worker worker
  if snapshot.activeLeases = 0 then throw (.runtimeError "active lease accounting underflow")
  return registry.adjust worker .giveBack

def beginDrain (registry : BackendRegistry) (worker : WorkerId) : Except PyError BackendRegistry := do
  let _ ← registry.worker worker
  return registry.adjust worker (.become .draining)

/-- `mark_ready(worker_id, False)`. -/
def markFailed (registry : BackendRegistry) (worker : WorkerId) : Except PyError BackendRegistry := do
  let _ ← registry.worker worker
  return registry.adjust worker (.become .failed)

def remove (registry : BackendRegistry) (worker : WorkerId) : Except PyError BackendRegistry := do
  let snapshot ← registry.worker worker
  if snapshot.activeLeases ≠ 0 then throw (.runtimeError "cannot remove worker with active leases")
  return registry.filter (·.workerId ≠ worker)

/-- `active_leases` of a worker. -/
def leases (registry : BackendRegistry) (worker : WorkerId) : Option Nat :=
  (registry.find? (·.workerId = worker)).map BackendSnapshot.activeLeases

theorem least_mem {candidates : List BackendSnapshot} {selected : BackendSnapshot}
    (least : least candidates = some selected) : selected ∈ candidates := by
  cases candidates with
  | nil => cases least
  | cons first rest =>
    simp only [BackendRegistry.least,Option.some.injEq] at least
    subst least
    induction rest generalizing first with
    | nil => simp
    | cons next rest ih =>
      rw [List.foldl_cons]
      split
      · exact List.mem_cons_of_mem _ (ih next)
      · rcases List.mem_cons.mp (ih first) with same | later
        · rw [same]
          exact List.mem_cons_self
        · exact List.mem_cons_of_mem _ (List.mem_cons_of_mem _ later)

/-- A worker that gets a lease is ready. -/
theorem acquire_ready {registry next : BackendRegistry} {route : Route} {worker : WorkerId}
    (acquired : registry.acquire route = .ok (worker,next)) :
    ∃ selected ∈ registry, selected.workerId = worker ∧ selected.lifecycle = .ready ∧
      next = registry.adjust worker .grant := by
  unfold acquire at acquired
  split at acquired
  · cases acquired
  · rename_i selected least
    cases acquired
    obtain ⟨member,admitted⟩ := List.mem_filter.mp (least_mem least)
    refine ⟨selected,member,rfl,?_,rfl⟩
    simp only [Route.admits,BackendSnapshot.accepting,Bool.and_eq_true,decide_eq_true_eq] at admitted
    tauto

theorem adjust_adjust (registry : BackendRegistry) (worker : WorkerId) (first later : BackendSnapshot → BackendSnapshot)
    (same : ∀ snapshot, (first snapshot).workerId = snapshot.workerId) :
    (registry.adjust worker first).adjust worker later = registry.adjust worker (later ∘ first) := by
  simp only [adjust,List.map_map]
  apply List.map_congr_left
  intro snapshot _
  by_cases here : snapshot.workerId = worker
  · simp [here,same]
  · simp [here]

theorem find_adjust (registry : BackendRegistry) (worker : WorkerId) (change : BackendSnapshot → BackendSnapshot)
    (same : ∀ snapshot, (change snapshot).workerId = snapshot.workerId) :
    (registry.adjust worker change).find? (·.workerId = worker) =
      (registry.find? (·.workerId = worker)).map change := by
  induction registry with
  | nil => rfl
  | cons first rest ih =>
    by_cases here : first.workerId = worker
    · simp [adjust,here,same]
    · simp only [adjust] at ih
      simp [adjust,here,ih]

end BackendRegistry

/-! ## The runtime -/

/-- A `GatewaySession`, as `SessionManager.create` makes it. -/
structure ManagedSession where
  sessionId : SessionId
  workerId : WorkerId
  backendSessionId : Text
  deriving DecidableEq, Repr

/-- A `_SessionContext` with its lease. -/
structure Context where
  sessionId : SessionId
  workerId : WorkerId
  leaseReleased : Bool := false
  deriving DecidableEq, Repr

/-- A call of `open_session` suspended in `adapter.open_session`; it holds a lease. -/
structure Opening where
  sessionId : SessionId
  workerId : WorkerId
  deriving DecidableEq, Repr

/-- Where a call of `drain_worker` stands. `woken` says that the flag was set since the call
    began to wait for it. -/
inductive DrainStage
  | waiting (woken : Bool)
  | aborting (rest : List SessionId)
  | waitingAgain (woken : Bool)
  | draining
  | removed
  deriving DecidableEq, Repr

structure Drain where
  workerId : WorkerId
  stage : DrainStage
  deriving DecidableEq, Repr

/-- The parts of `GatewayRuntime` that hold what an open session takes. `abandoned` is read by
    no code: the workers whose lease is held by nobody who would release it. -/
structure Runtime where
  registry : BackendRegistry
  maxSessions : Nat
  sessions : List ManagedSession := []
  contexts : List Context := []
  backendSessions : List (WorkerId × SessionId) := []
  workerEmpty : WorkerId → Bool := fun _ => true
  openings : List Opening := []
  drains : List Drain := []
  abandoned : List WorkerId := []

/-- How `adapter.open_session` ends when it does not refuse the session as a duplicate. -/
inductive Answer
  | opened (backendSessionId : Text)
  | raised (exc : PyError)
  | cancelled
  deriving DecidableEq, Repr

/-- A drain of this worker that waits is woken. -/
def Drain.wake (worker : WorkerId) (drain : Drain) : Drain :=
  if drain.workerId ≠ worker then drain else
  match drain.stage with
  | .waiting _ => { drain with stage := .waiting true }
  | .waitingAgain _ => { drain with stage := .waitingAgain true }
  | _ => drain

/-- `adapter.drain()` was called, or will be without any more waiting. -/
def Drain.passed (drain : Drain) : Bool :=
  match drain.stage with
  | .waiting woken | .waitingAgain woken => woken
  | .aborting _ => false
  | .draining | .removed => true

namespace Runtime

/-- `_worker_empty[worker_id].set()`. -/
def setEmpty (runtime : Runtime) (worker : WorkerId) : Runtime :=
  { runtime with
    workerEmpty := Function.update runtime.workerEmpty worker true
    drains := runtime.drains.map (Drain.wake worker) }

/-- The `except` block of `open_session`. -/
def refuse (runtime : Runtime) (worker : WorkerId) (exc : PyError) : PyError × Runtime :=
  match runtime.registry.release worker with
  | .ok registry => (exc,{ runtime with registry := registry }.setEmpty worker)
  | .error raised => (raised,runtime)

/-- The lease is taken, and the flag of its worker cleared. -/
def leased (runtime : Runtime) (worker : WorkerId) (registry : BackendRegistry) : Runtime :=
  { runtime with
    registry := registry
    workerEmpty := Function.update runtime.workerEmpty worker false }

/-- `open_session` up to its suspension inside the adapter. -/
def openSession (runtime : Runtime) (sessionId : SessionId) (route : Route) : Except PyError Opening × Runtime :=
  match runtime.registry.acquire route with
  | .error exc => (.error exc,runtime)
  | .ok (worker,registry) =>
    let leased := runtime.leased worker registry
    if leased.backendSessions.contains (worker,sessionId) then
      let (exc,next) := leased.refuse worker (.valueError "duplicate gateway session")
      (.error exc,next)
    else (.ok ⟨sessionId,worker⟩,{ leased with openings := leased.openings ++ [⟨sessionId,worker⟩] })

/-- `SessionManager.create`. -/
def create (runtime : Runtime) (session : ManagedSession) : Except PyError Runtime :=
  if runtime.sessions.any (·.sessionId = session.sessionId) then .error (.valueError "duplicate session_id") else
  if runtime.maxSessions ≤ runtime.sessions.length then .error (.runtimeError "session capacity exceeded") else
  .ok { runtime with sessions := runtime.sessions ++ [session] }

/-- The rest of `open_session`, once the adapter has answered; `vad` is the outcome of making
    the detector. -/
def answer (runtime : Runtime) (opening : Opening) (answer : Answer) (vad : Except PyError Unit) :
    Except PyError Unit × Runtime :=
  let resumed := { runtime with openings := runtime.openings.erase opening }
  match answer with
  | .cancelled =>
    (.error (.foreign "CancelledError"),{ resumed with abandoned := resumed.abandoned ++ [opening.workerId] })
  | .raised exc =>
    let (exc,next) := resumed.refuse opening.workerId exc
    (.error exc,next)
  | .opened backendSessionId =>
    let opened := { resumed with backendSessions :=
      if resumed.backendSessions.contains (opening.workerId,opening.sessionId) then resumed.backendSessions
      else resumed.backendSessions ++ [(opening.workerId,opening.sessionId)] }
    match opened.create ⟨opening.sessionId,opening.workerId,backendSessionId⟩ with
    | .error exc =>
      let (exc,next) := opened.refuse opening.workerId exc
      (.error exc,next)
    | .ok created =>
      match vad with
      | .error exc => (.error exc,{ created with abandoned := created.abandoned ++ [opening.workerId] })
      | .ok _ =>
        (.ok (),{ created with
          contexts := created.contexts.filter (·.sessionId ≠ opening.sessionId) ++
            [⟨opening.sessionId,opening.workerId,false⟩] })

/-- A call of `open_session` that nothing interrupts. -/
def callOpen (runtime : Runtime) (sessionId : SessionId) (route : Route) (reply : Answer) (vad : Except PyError Unit) :
    Except PyError Unit × Runtime :=
  match runtime.openSession sessionId route with
  | (.error exc,next) => (.error exc,next)
  | (.ok opening,next) => next.answer opening reply vad

/-- `finish` releases the lease of a session and leaves its context. -/
def finishLease (runtime : Runtime) (sessionId : SessionId) : Except PyError Unit × Runtime :=
  match runtime.contexts.find? (·.sessionId = sessionId) with
  | none => (.error (.keyError (String.ofList sessionId)),runtime)
  | some ctx =>
    if ctx.leaseReleased then (.ok (),runtime) else
    let marked := { runtime with contexts := runtime.contexts.map fun other =>
      if other.sessionId = sessionId then { other with leaseReleased := true } else other }
    match runtime.registry.release ctx.workerId with
    | .error exc => (.error exc,marked)
    | .ok registry => (.ok (),{ marked with registry := registry })

/-- The context and the managed session of an id are gone. -/
def drop (runtime : Runtime) (sessionId : SessionId) : Runtime :=
  { runtime with
    contexts := runtime.contexts.filter (·.sessionId ≠ sessionId)
    sessions := runtime.sessions.filter (·.sessionId ≠ sessionId) }

/-- The end of `_release_session`: the flag is set unless a context of the worker is left. -/
def settleEmpty (runtime : Runtime) (worker : WorkerId) : Runtime :=
  if runtime.contexts.any (·.workerId = worker) then runtime else runtime.setEmpty worker

/-- `_release_session`. -/
def releaseSession (runtime : Runtime) (sessionId : SessionId) : Except PyError Unit × Runtime :=
  match runtime.contexts.find? (·.sessionId = sessionId) with
  | none => (.ok (),runtime.drop sessionId)
  | some ctx =>
    let dropped := runtime.drop sessionId
    if ctx.leaseReleased then (.ok (),dropped.settleEmpty ctx.workerId) else
    match dropped.registry.release ctx.workerId with
    | .error exc => (.error exc,dropped)
    | .ok registry => (.ok (),{ dropped with registry := registry }.settleEmpty ctx.workerId)

/-- A drain goes from one stage to another. -/
def moveDrain (runtime : Runtime) (drain : Drain) (stage : DrainStage) : Runtime :=
  { runtime with drains := runtime.drains.erase drain ++ [{ drain with stage := stage }] }

def endDrain (runtime : Runtime) (drain : Drain) : Runtime := { runtime with drains := runtime.drains.erase drain }

/-- `drain_worker` up to the wait for the flag. -/
def drainWorker (runtime : Runtime) (worker : WorkerId) : Except PyError Unit × Runtime :=
  match runtime.registry.beginDrain worker with
  | .error exc => (.error exc,runtime)
  | .ok registry =>
    (.ok (),{ runtime with
      registry := registry
      drains := runtime.drains ++ [⟨worker,.waiting (runtime.workerEmpty worker)⟩] })

/-- The next part of `drain_worker`: `timeout` says that the wait for the flag took too long. -/
def resumeDrain (runtime : Runtime) (drain : Drain) (timeout : Bool) : Option Runtime :=
  match drain.stage with
  | .waiting woken =>
    if timeout then
      some (runtime.moveDrain drain
        (.aborting ((runtime.contexts.filter (·.workerId = drain.workerId)).map Context.sessionId)))
    else if woken then some (runtime.moveDrain drain .draining) else none
  | .aborting (sessionId :: rest) =>
    match runtime.releaseSession sessionId with
    | (.ok _,next) => some (next.moveDrain drain (.aborting rest))
    | (.error _,next) => some (next.endDrain drain)
  | .aborting [] => some (runtime.moveDrain drain (.waitingAgain (runtime.workerEmpty drain.workerId)))
  | .waitingAgain woken => if woken then some (runtime.moveDrain drain .draining) else none
  | .draining =>
    match runtime.registry.remove drain.workerId with
    | .error _ => some (runtime.endDrain drain)
    | .ok registry => some ({ runtime with registry := registry }.moveDrain drain .removed)
  | .removed => none

end Runtime

inductive Action
  | openSession (sessionId : SessionId) (route : Route)
  | answer (opening : Opening) (answer : Answer) (vad : Except PyError Unit)
  | endBackendSession (worker : WorkerId) (sessionId : SessionId)
  | finishLease (sessionId : SessionId)
  | releaseSession (sessionId : SessionId)
  | workerFailed (worker : WorkerId)
  | drainWorker (worker : WorkerId)
  | resumeDrain (drain : Drain) (timeout : Bool)

/-- One step of the runtime. `endBackendSession` is what `finish_session` and `abort_session`
    of an adapter do. -/
def Runtime.step (runtime : Runtime) : Action → Option Runtime
  | .openSession sessionId route => some (runtime.openSession sessionId route).2
  | .answer opening answer vad =>
    if opening ∈ runtime.openings then some (runtime.answer opening answer vad).2 else none
  | .endBackendSession worker sessionId =>
    some { runtime with backendSessions := runtime.backendSessions.filter (· ≠ (worker,sessionId)) }
  | .finishLease sessionId => some (runtime.finishLease sessionId).2
  | .releaseSession sessionId => some (runtime.releaseSession sessionId).2
  | .workerFailed worker =>
    match runtime.registry.markFailed worker with
    | .ok registry => some { runtime with registry := registry }
    | .error _ => some runtime
  | .drainWorker worker => some (runtime.drainWorker worker).2
  | .resumeDrain drain timeout => if drain ∈ runtime.drains then runtime.resumeDrain drain timeout else none

/-! ## A failed opening -/

/-- Leases, sessions, contexts, backend sessions and flags are the same. -/
structure Unchanged (before after : Runtime) : Prop where
  leases : ∀ worker, after.registry.leases worker = before.registry.leases worker
  sessions : after.sessions = before.sessions
  contexts : after.contexts = before.contexts
  backendSessions : after.backendSessions = before.backendSessions
  workerEmpty : after.workerEmpty = before.workerEmpty

/-- What the call asks for meets no worker, or a worker whose flag is set and whose adapter
    refuses the session or raises. -/
def FailsEarly (runtime : Runtime) (sessionId : SessionId) (route : Route) (reply : Answer) : Prop :=
  match runtime.registry.acquire route with
  | .error _ => True
  | .ok (worker,_) =>
    runtime.workerEmpty worker = true ∧
      ((worker,sessionId) ∈ runtime.backendSessions ∨ ∃ exc, reply = .raised exc)

namespace BackendRegistry

/-- A lease that was just acquired can be released, and then the registry is as before. -/
theorem release_acquired {registry next : BackendRegistry} {route : Route} {worker : WorkerId}
    (acquired : registry.acquire route = .ok (worker,next)) : next.release worker = .ok registry := by
  obtain ⟨selected,member,named,-,rfl⟩ := acquire_ready acquired
  obtain ⟨found,foundEq⟩ : ∃ found, registry.find? (·.workerId = worker) = some found :=
    Option.isSome_iff_exists.mp (List.find?_isSome.mpr ⟨selected,member,by simpa using named⟩)
  have undone : (registry.adjust worker .grant).adjust worker .giveBack = registry := by
    rw [adjust_adjust registry worker .grant .giveBack (fun _ => rfl)]
    refine (List.map_congr_left fun snapshot _ => ?_).trans (List.map_id registry)
    split <;> rfl
  have here : (registry.adjust worker .grant).worker worker = .ok found.grant := by
    rw [BackendRegistry.worker,find_adjust registry worker .grant (fun _ => rfl),foundEq]
    rfl
  have held : found.grant.activeLeases ≠ 0 := Nat.succ_ne_zero _
  simp only [release,here,bind,Except.bind,held,if_false]
  exact congrArg Except.ok undone

theorem leases_acquired {registry next : BackendRegistry} {route : Route} {worker : WorkerId}
    (acquired : registry.acquire route = .ok (worker,next)) : next.leases worker ≠ registry.leases worker := by
  obtain ⟨selected,member,named,-,rfl⟩ := acquire_ready acquired
  obtain ⟨found,foundEq⟩ : ∃ found, registry.find? (·.workerId = worker) = some found :=
    Option.isSome_iff_exists.mp (List.find?_isSome.mpr ⟨selected,member,by simpa using named⟩)
  rw [leases,leases,find_adjust registry worker .grant (fun _ => rfl),foundEq]
  simp [BackendSnapshot.grant]

theorem release_eq {registry next : BackendRegistry} {worker : WorkerId}
    (released : registry.release worker = .ok next) : next = registry.adjust worker .giveBack := by
  unfold release at released
  cases found : registry.worker worker with
  | error exc => simp [found,bind,Except.bind] at released
  | ok snapshot =>
    simp only [found,bind,Except.bind] at released
    split at released
    · cases released
    · cases released
      rfl

/-- A worker is ready afterwards only if it was before. -/
theorem adjust_ready {registry : BackendRegistry} {worker : WorkerId} {change : BackendSnapshot → BackendSnapshot}
    (same : ∀ snapshot, (change snapshot).workerId = snapshot.workerId)
    (keeps : ∀ snapshot, (change snapshot).lifecycle = .ready → snapshot.lifecycle = .ready) :
    ∀ snapshot ∈ registry.adjust worker change, snapshot.lifecycle = .ready →
      ∃ old ∈ registry, old.workerId = snapshot.workerId ∧ old.lifecycle = .ready := by
  intro snapshot member ready
  obtain ⟨old,oldMember,rfl⟩ := List.mem_map.mp member
  split at ready
  · rename_i here
    rw [if_pos here]
    exact ⟨old,oldMember,(same old).symm,keeps old ready⟩
  · rename_i elsewhere
    rw [if_neg elsewhere]
    exact ⟨old,oldMember,rfl,ready⟩

end BackendRegistry

namespace Runtime

/-- Giving the lease back leaves the flag set. -/
theorem refuse_leased {runtime : Runtime} {registry : BackendRegistry} {route : Route} {worker : WorkerId}
    (acquired : runtime.registry.acquire route = .ok (worker,registry)) (openings : List Opening)
    (backendSessions : List (WorkerId × SessionId)) (exc : PyError) :
    { runtime.leased worker registry with
        openings := openings
        backendSessions := backendSessions }.refuse worker exc =
      (exc,{ { runtime with openings := openings, backendSessions := backendSessions }.setEmpty worker with
        registry := runtime.registry }) := by
  simp only [refuse,leased,BackendRegistry.release_acquired acquired,setEmpty,Function.update_idem]

theorem setEmpty_unchanged (runtime : Runtime) (worker : WorkerId) :
    (runtime.setEmpty worker).workerEmpty = runtime.workerEmpty ↔ runtime.workerEmpty worker = true := by
  rw [setEmpty]
  exact Function.update_eq_self_iff.trans eq_comm

/-- After an `except` block, everything is as before if the flag was set before. -/
theorem refused_unchanged (runtime : Runtime) (worker : WorkerId) (openings : List Opening) :
    Unchanged runtime { { runtime with openings := openings }.setEmpty worker with registry := runtime.registry } ↔
      runtime.workerEmpty worker = true := by
  have flag := setEmpty_unchanged { runtime with openings := openings } worker
  constructor
  · rintro ⟨-,-,-,-,same⟩
    exact flag.mp same
  · intro set
    exact ⟨fun _ => rfl,rfl,rfl,rfl,flag.mpr set⟩

/-- The adapter has opened a new session: if `open_session` raises after that, something is
    left behind. -/
theorem opened_changes {runtime : Runtime} {registry : BackendRegistry} {route : Route} {worker : WorkerId}
    {sessionId : SessionId} {backendSessionId : Text} {vad : Except PyError Unit}
    (acquired : runtime.registry.acquire route = .ok (worker,registry))
    (new : (worker,sessionId) ∉ runtime.backendSessions) (openings : List Opening) (exc : PyError)
    (raised : ({ runtime.leased worker registry with openings := openings }.answer ⟨sessionId,worker⟩
      (.opened backendSessionId) vad).1 = .error exc) :
    ¬ Unchanged runtime ({ runtime.leased worker registry with openings := openings }.answer ⟨sessionId,worker⟩
      (.opened backendSessionId) vad).2 := by
  have absent : runtime.backendSessions.contains (worker,sessionId) = false := by simpa using new
  have created (session : ManagedSession) (before after : Runtime) (made : before.create session = .ok after) :
      after.sessions = before.sessions ++ [session] := by
    unfold create at made
    split at made
    · cases made
    · split at made
      · cases made
      · cases made
        rfl
  unfold answer at *
  dsimp only [leased] at *
  simp only [absent,Bool.false_eq_true,if_false] at *
  split at raised
  · have refused := refuse_leased acquired (openings.erase ⟨sessionId,worker⟩)
      (runtime.backendSessions ++ [(worker,sessionId)])
    dsimp only [leased] at refused
    rw [refused]
    rintro ⟨-,-,-,same,-⟩
    simp [setEmpty] at same
  · rename_i next made
    have grown := created _ _ _ made
    dsimp only at grown
    cases vad with
    | ok done => simp at raised
    | error exc =>
      rintro ⟨-,same,-,-,-⟩
      simp [grown] at same

/-- A call of `open_session` that raises leaves everything as it was exactly when no worker
    was found, or the adapter raised and the flag of its worker was set. -/
theorem open_unchanged_iff (runtime : Runtime) (sessionId : SessionId) (route : Route) (reply : Answer)
    (vad : Except PyError Unit) (raised : ∃ exc, (runtime.callOpen sessionId route reply vad).1 = .error exc) :
    Unchanged runtime (runtime.callOpen sessionId route reply vad).2 ↔ FailsEarly runtime sessionId route reply := by
  unfold FailsEarly
  unfold callOpen openSession at *
  cases acquired : runtime.registry.acquire route with
  | error exc => exact iff_of_true ⟨fun _ => rfl,rfl,rfl,rfl,rfl⟩ trivial
  | ok outcome =>
    obtain ⟨worker,registry⟩ := outcome
    rw [acquired] at raised
    have taken := BackendRegistry.leases_acquired acquired
    by_cases duplicate : (worker,sessionId) ∈ runtime.backendSessions
    · have refused := refuse_leased acquired runtime.openings runtime.backendSessions
        (.valueError "duplicate gateway session")
      have present : (runtime.leased worker registry).backendSessions.contains (worker,sessionId) = true := by
        simpa [leased] using duplicate
      dsimp only
      rw [if_pos present]
      rw [show (runtime.leased worker registry).refuse worker (.valueError "duplicate gateway session") = _ from refused]
      simpa [duplicate] using refused_unchanged runtime worker runtime.openings
    · have absent : ¬ (runtime.leased worker registry).backendSessions.contains (worker,sessionId) = true := by
        simpa [leased] using duplicate
      dsimp only at *
      rw [if_neg absent] at *
      dsimp only at *
      cases reply with
      | cancelled =>
        refine iff_of_false ?_ (by simp [duplicate])
        rintro ⟨same,-,-,-,-⟩
        exact taken (same worker)
      | raised exc =>
        have refused := refuse_leased acquired
          ((runtime.openings ++ [(⟨sessionId,worker⟩ : Opening)]).erase ⟨sessionId,worker⟩) runtime.backendSessions exc
        have resumed : ({ runtime.leased worker registry with
            openings := runtime.openings ++ [(⟨sessionId,worker⟩ : Opening)] }.answer ⟨sessionId,worker⟩ (.raised exc)
            vad).2 = ({ runtime.leased worker registry with
              openings := (runtime.openings ++ [(⟨sessionId,worker⟩ : Opening)]).erase ⟨sessionId,worker⟩
              backendSessions := runtime.backendSessions }.refuse worker exc).2 := rfl
        rw [show (runtime.leased worker registry).openings = runtime.openings from rfl,resumed,refused]
        simpa using refused_unchanged runtime worker _
      | opened backendSessionId =>
        obtain ⟨exc,raised⟩ := raised
        exact iff_of_false (opened_changes acquired duplicate _ exc raised) (by simp [duplicate])

end Runtime

/-! A worker with room for two sessions, and a request that it takes. -/

def exampleWorker : BackendSnapshot where
  capabilities :=
    { oneSample with
      modelRevision := ['1']
      vadMode := .gateway
      resultMode := .replaceableSegment
      vadOwned := by decide
      workerId := ['w']
      backendId := ['l']
      modelId := ['m']
      languages := [['e','n']]
      tasks := [['t']]
      streamingMode := .stateful
      maxInFlight := 1
      sessionCapacity := 2
      warmed := true }
  lifecycle := .ready

def exampleRoute : Route where
  backendId := ['l']
  language := ['e','n']
  task := ['t']
  streamingMode := .stateful
  modelId := none

def Runtime.init (registry : BackendRegistry) (maxSessions : Nat) : Runtime where
  registry := registry
  maxSessions := maxSessions

/-- Nothing is open, and the adapter raises. -/
theorem open_unchanged_iff_adapter_raises :
    Unchanged (.init [exampleWorker] 2)
        ((Runtime.init [exampleWorker] 2).callOpen ['a'] exampleRoute (.raised (.runtimeError "no stream")) (.ok ())).2 ↔
      FailsEarly (.init [exampleWorker] 2) ['a'] exampleRoute (.raised (.runtimeError "no stream")) :=
  Runtime.open_unchanged_iff _ _ _ _ _ ⟨_,rfl⟩

/-- With one session open, an opening that the adapter refuses sets the flag of the worker. -/
theorem failed_open_sets_flag :
    ∃ runtime, Machine.run Runtime.step (.init [exampleWorker] 2)
        [.openSession ['a'] exampleRoute,.answer ⟨['a'],['w']⟩ (.opened ['s']) (.ok ())] = some runtime ∧
      runtime.contexts = [⟨['a'],['w'],false⟩] ∧
      (∃ exc, (runtime.callOpen ['b'] exampleRoute (.raised (.runtimeError "no stream")) (.ok ())).1 = .error exc) ∧
      ¬ Unchanged runtime
        (runtime.callOpen ['b'] exampleRoute (.raised (.runtimeError "no stream")) (.ok ())).2 := by
  refine ⟨_,rfl,rfl,⟨_,rfl⟩,?_⟩
  rintro ⟨-,-,-,-,same⟩
  exact absurd (congrFun same ['w']) (by decide)

/-! ## Draining -/

/-- No context of the worker is open, and nobody holds a lease of it. -/
structure Vacant (runtime : Runtime) (worker : WorkerId) : Prop where
  contexts : ∀ ctx ∈ runtime.contexts, ctx.workerId ≠ worker
  openings : ∀ opening ∈ runtime.openings, opening.workerId ≠ worker
  abandoned : worker ∉ runtime.abandoned

/-- No lease of the worker is granted. -/
def Shut (runtime : Runtime) (worker : WorkerId) : Prop :=
  ∀ snapshot ∈ runtime.registry, snapshot.workerId = worker → snapshot.lifecycle ≠ .ready

/-- What the flags and the drains promise: a set flag means a vacant worker, and a drain that
    no longer waits found its worker vacant and shut. -/
structure Orderly (runtime : Runtime) : Prop where
  truthful : ∀ worker, runtime.workerEmpty worker = true → Vacant runtime worker
  shut : ∀ drain ∈ runtime.drains, Shut runtime drain.workerId
  passed : ∀ drain ∈ runtime.drains, drain.passed = true → Vacant runtime drain.workerId

/-- `_release_session` of a context sets the flag only when nobody else holds a lease. -/
def LastOut (runtime : Runtime) (sessionId : SessionId) : Prop :=
  ∀ ctx ∈ runtime.contexts, ctx.sessionId = sessionId →
    (∃ other ∈ runtime.contexts, other.sessionId ≠ sessionId ∧ other.workerId = ctx.workerId) ∨
      Vacant (runtime.drop sessionId) ctx.workerId

/-- Whether `open_session` fails once the adapter has answered, before the detector is made. -/
def refuses (runtime : Runtime) (opening : Opening) : Answer → Bool
  | .opened _ =>
    runtime.sessions.any (·.sessionId = opening.sessionId) || decide (runtime.maxSessions ≤ runtime.sessions.length)
  | .raised _ => true
  | .cancelled => false

/-- The steps that set a flag find the worker vacant, apart from the session they end. -/
def Careful (runtime : Runtime) : Action → Prop
  | .openSession sessionId route => ∀ worker registry, runtime.registry.acquire route = .ok (worker,registry) →
      (worker,sessionId) ∈ runtime.backendSessions → Vacant runtime worker
  | .answer opening answer _ => refuses runtime opening answer = true →
      Vacant { runtime with openings := runtime.openings.erase opening } opening.workerId
  | .releaseSession sessionId => LastOut runtime sessionId
  | .resumeDrain drain _ => ∀ sessionId rest, drain.stage = .aborting (sessionId :: rest) → LastOut runtime sessionId
  | _ => True

theorem orderly_init (registry : BackendRegistry) (maxSessions : Nat) : Orderly (.init registry maxSessions) :=
  ⟨fun _ _ => ⟨nofun,nofun,nofun⟩,nofun,nofun⟩

theorem wake_worker (worker : WorkerId) (drain : Drain) : (drain.wake worker).workerId = drain.workerId := by
  unfold Drain.wake
  split
  · rfl
  · split <;> rfl

theorem wake_other {worker : WorkerId} {drain : Drain} (other : drain.workerId ≠ worker) : drain.wake worker = drain := by
  rw [Drain.wake,if_pos other]

/-- The flag may be set for a vacant worker. -/
theorem Orderly.setEmpty {runtime : Runtime} (orderly : Orderly runtime) {worker : WorkerId}
    (vacant : Vacant runtime worker) : Orderly (runtime.setEmpty worker) := by
  obtain ⟨truthful,shut,passed⟩ := orderly
  refine ⟨?_,?_,?_⟩
  · intro other set
    by_cases same : other = worker
    · subst same
      exact ⟨vacant.contexts,vacant.openings,vacant.abandoned⟩
    · have before : runtime.workerEmpty other = true := by simpa [Runtime.setEmpty,same] using set
      obtain ⟨contexts,openings,abandoned⟩ := truthful other before
      exact ⟨contexts,openings,abandoned⟩
  · intro drain member
    obtain ⟨old,oldMember,rfl⟩ := List.mem_map.mp member
    rw [wake_worker]
    exact shut old oldMember
  · intro drain member through
    obtain ⟨old,oldMember,rfl⟩ := List.mem_map.mp member
    rw [wake_worker]
    by_cases same : old.workerId = worker
    · rw [same]
      exact ⟨vacant.contexts,vacant.openings,vacant.abandoned⟩
    · rw [wake_other same] at through
      obtain ⟨contexts,openings,abandoned⟩ := passed old oldMember through
      exact ⟨contexts,openings,abandoned⟩

/-- Nobody takes more, no flag is set, and no worker becomes ready. -/
structure Shrinks (runtime next : Runtime) : Prop where
  contexts : ∀ ctx ∈ next.contexts, ∃ old ∈ runtime.contexts, old.workerId = ctx.workerId
  openings : next.openings ⊆ runtime.openings
  abandoned : next.abandoned ⊆ runtime.abandoned
  registry : ∀ snapshot ∈ next.registry, snapshot.lifecycle = .ready →
    ∃ old ∈ runtime.registry, old.workerId = snapshot.workerId ∧ old.lifecycle = .ready
  workerEmpty : ∀ worker, next.workerEmpty worker = true → runtime.workerEmpty worker = true
  drains : ∀ drain ∈ next.drains, ∃ old ∈ runtime.drains, old.workerId = drain.workerId ∧
    (drain.passed = true → old.passed = true)

theorem Shrinks.vacant {runtime next : Runtime} (shrinks : Shrinks runtime next) {worker : WorkerId}
    (vacant : Vacant runtime worker) : Vacant next worker := by
  refine ⟨?_,fun opening member => vacant.openings opening (shrinks.openings member),
    fun member => vacant.abandoned (shrinks.abandoned member)⟩
  intro ctx member
  obtain ⟨old,oldMember,same⟩ := shrinks.contexts ctx member
  rw [← same]
  exact vacant.contexts old oldMember

theorem Shrinks.shut {runtime next : Runtime} (shrinks : Shrinks runtime next) {worker : WorkerId}
    (shut : Shut runtime worker) : Shut next worker := by
  intro snapshot member named ready
  obtain ⟨old,oldMember,same,oldReady⟩ := shrinks.registry snapshot member ready
  exact shut old oldMember (same.trans named) oldReady

theorem Shrinks.orderly {runtime next : Runtime} (shrinks : Shrinks runtime next) (orderly : Orderly runtime) :
    Orderly next := by
  refine ⟨fun worker set => shrinks.vacant (orderly.truthful worker (shrinks.workerEmpty worker set)),?_,?_⟩
  · intro drain member
    obtain ⟨old,oldMember,same,-⟩ := shrinks.drains drain member
    rw [← same]
    exact shrinks.shut (orderly.shut old oldMember)
  · intro drain member through
    obtain ⟨old,oldMember,same,before⟩ := shrinks.drains drain member
    rw [← same]
    exact shrinks.vacant (orderly.passed old oldMember (before through))

/-- Only bookkeeping that no promise mentions has changed, or less is held. -/
theorem shrinks_of {runtime next : Runtime} (contexts : ∀ ctx ∈ next.contexts, ∃ old ∈ runtime.contexts,
      old.workerId = ctx.workerId) (openings : next.openings ⊆ runtime.openings)
    (abandoned : next.abandoned = runtime.abandoned) (registry : next.registry = runtime.registry)
    (workerEmpty : next.workerEmpty = runtime.workerEmpty) (drains : next.drains = runtime.drains) :
    Shrinks runtime next := by
  refine ⟨contexts,openings,by rw [abandoned]; exact List.Subset.refl _,?_,?_,?_⟩
  · rw [registry]
    exact fun snapshot member ready => ⟨snapshot,member,rfl,ready⟩
  · rw [workerEmpty]
    exact fun _ set => set
  · rw [drains]
    exact fun drain member => ⟨drain,member,rfl,id⟩

/-- Only the registry has changed, and no worker became ready. -/
theorem shrinks_registry (runtime : Runtime) {registry : BackendRegistry}
    (ready : ∀ snapshot ∈ registry, snapshot.lifecycle = .ready →
      ∃ old ∈ runtime.registry, old.workerId = snapshot.workerId ∧ old.lifecycle = .ready) :
    Shrinks runtime { runtime with registry := registry } :=
  ⟨fun ctx member => ⟨ctx,member,rfl⟩,List.Subset.refl _,List.Subset.refl _,ready,fun _ => id,
    fun drain member => ⟨drain,member,rfl,id⟩⟩

theorem shrinks_release {runtime : Runtime} {worker : WorkerId} {registry : BackendRegistry}
    (released : runtime.registry.release worker = .ok registry) :
    Shrinks runtime { runtime with registry := registry } := by
  apply shrinks_registry
  rw [BackendRegistry.release_eq released]
  exact BackendRegistry.adjust_ready (fun _ => rfl) (fun _ => id)

theorem Orderly.refuse {runtime : Runtime} (orderly : Orderly runtime) {worker : WorkerId}
    (vacant : Vacant runtime worker) (exc : PyError) : Orderly (runtime.refuse worker exc).2 := by
  unfold Runtime.refuse
  split
  · rename_i registry released
    have shrinks := shrinks_release released
    exact (shrinks.orderly orderly).setEmpty (shrinks.vacant vacant)
  · exact orderly

/-- While somebody holds a lease of a worker, its flag is clear and its drains wait. -/
theorem Orderly.held {runtime : Runtime} (orderly : Orderly runtime) {worker : WorkerId}
    (occupied : ¬ Vacant runtime worker) :
    (∀ other, runtime.workerEmpty other = true → worker ≠ other) ∧
      ∀ drain ∈ runtime.drains, drain.passed = true → worker ≠ drain.workerId := by
  refine ⟨?_,?_⟩
  · rintro other set rfl
    exact occupied (orderly.truthful worker set)
  · rintro drain member through rfl
    exact occupied (orderly.passed drain member through)

theorem Orderly.openSession {runtime : Runtime} (orderly : Orderly runtime) (sessionId : SessionId) (route : Route)
    (careful : Careful runtime (.openSession sessionId route)) : Orderly (runtime.openSession sessionId route).2 := by
  unfold Runtime.openSession
  cases acquired : runtime.registry.acquire route with
  | error exc => exact orderly
  | ok outcome =>
    obtain ⟨worker,registry⟩ := outcome
    dsimp only
    split
    · rename_i duplicate
      have known : (worker,sessionId) ∈ runtime.backendSessions := by simpa [Runtime.leased] using duplicate
      have refused := Runtime.refuse_leased acquired runtime.openings runtime.backendSessions
        (.valueError "duplicate gateway session")
      rw [show (runtime.leased worker registry).refuse worker (.valueError "duplicate gateway session") = _ from refused]
      exact orderly.setEmpty (careful worker registry acquired known)
    · obtain ⟨selected,member,named,ready,rfl⟩ := BackendRegistry.acquire_ready acquired
      obtain ⟨truthful,shut,passed⟩ := orderly
      have shutStill {other : WorkerId} (closed : Shut runtime other) :
          Shut { runtime.leased worker (runtime.registry.adjust worker .grant) with
            openings := runtime.openings ++ [⟨sessionId,worker⟩] } other := by
        intro snapshot present here readyStill
        obtain ⟨old,oldMember,same,oldReady⟩ := BackendRegistry.adjust_ready
          (show ∀ snapshot : BackendSnapshot, snapshot.grant.workerId = snapshot.workerId from fun _ => rfl)
          (fun _ => id) snapshot present readyStill
        exact closed old oldMember (same.trans here) oldReady
      have vacantStill {other : WorkerId} (different : worker ≠ other) (vacant : Vacant runtime other) :
          Vacant { runtime.leased worker (runtime.registry.adjust worker .grant) with
            openings := runtime.openings ++ [⟨sessionId,worker⟩] } other := by
        refine ⟨vacant.contexts,?_,vacant.abandoned⟩
        intro opening present
        rcases List.mem_append.mp present with old | new
        · exact vacant.openings opening old
        · rw [List.mem_singleton.mp new]
          exact different
      refine ⟨?_,fun drain present => shutStill (shut drain present),?_⟩
      · intro other set
        have different : worker ≠ other := by
          rintro rfl
          simp [Runtime.leased] at set
        have before : runtime.workerEmpty other = true := by simpa [Runtime.leased,different.symm] using set
        exact vacantStill different (truthful other before)
      · intro drain present through
        have different : worker ≠ drain.workerId := by
          rintro same
          exact shut drain present selected member (named.trans same) ready
        exact vacantStill different (passed drain present through)

theorem Orderly.releaseSession {runtime : Runtime} (orderly : Orderly runtime) (sessionId : SessionId)
    (lastOut : LastOut runtime sessionId) : Orderly (runtime.releaseSession sessionId).2 := by
  have dropped : Shrinks runtime (runtime.drop sessionId) :=
    shrinks_of (fun ctx member => ⟨ctx,(List.mem_filter.mp member).1,rfl⟩) (List.Subset.refl _) rfl rfl rfl rfl
  have left := dropped.orderly orderly
  unfold Runtime.releaseSession
  split
  · exact left
  · rename_i ctx found
    have member := List.mem_of_find?_eq_some found
    have named : ctx.sessionId = sessionId := by simpa using List.find?_some found
    have settles (next : Runtime) (shrinks : Shrinks (runtime.drop sessionId) next)
        (same : next.contexts = (runtime.drop sessionId).contexts) : Orderly (next.settleEmpty ctx.workerId) := by
      have ordered := shrinks.orderly left
      unfold Runtime.settleEmpty
      split
      · exact ordered
      · rename_i nobody
        rcases lastOut ctx member named with ⟨other,otherMember,different,same'⟩ | vacant
        · refine absurd (List.any_eq_true.mpr ⟨other,?_,by simpa using same'⟩) nobody
          rw [same]
          exact List.mem_filter.mpr ⟨otherMember,by simpa using different⟩
        · exact ordered.setEmpty (shrinks.vacant vacant)
    dsimp only
    split
    · exact settles _ (shrinks_of (fun ctx member => ⟨ctx,member,rfl⟩) (List.Subset.refl _) rfl rfl rfl rfl) rfl
    · split
      · exact left
      · rename_i registry released
        exact settles _ (shrinks_release released) rfl

/-- Somebody goes on holding a lease of the worker. -/
theorem Orderly.occupy {runtime next : Runtime} (orderly : Orderly runtime) {worker : WorkerId}
    (occupied : ¬ Vacant runtime worker) (registry : next.registry = runtime.registry)
    (workerEmpty : next.workerEmpty = runtime.workerEmpty) (drains : next.drains = runtime.drains)
    (vacant : ∀ other, worker ≠ other → Vacant runtime other → Vacant next other) : Orderly next := by
  refine ⟨?_,?_,?_⟩
  · intro other set
    rw [workerEmpty] at set
    exact vacant other ((orderly.held occupied).1 other set) (orderly.truthful other set)
  · intro drain member
    rw [drains] at member
    unfold Shut
    rw [registry]
    exact orderly.shut drain member
  · intro drain member through
    rw [drains] at member
    exact vacant _ ((orderly.held occupied).2 drain member through) (orderly.passed drain member through)

theorem Orderly.answer {runtime : Runtime} (orderly : Orderly runtime) (opening : Opening) (answer : Answer)
    (vad : Except PyError Unit) (member : opening ∈ runtime.openings)
    (careful : Careful runtime (.answer opening answer vad)) : Orderly (runtime.answer opening answer vad).2 := by
  have occupied : ¬ Vacant runtime opening.workerId := fun vacant => vacant.openings opening member rfl
  have shrinks (sessions : List ManagedSession) (backendSessions : List (WorkerId × SessionId)) :
      Shrinks runtime { runtime with
        openings := runtime.openings.erase opening
        sessions := sessions
        backendSessions := backendSessions } :=
    shrinks_of (fun ctx member => ⟨ctx,member,rfl⟩) (List.erase_subset ..) rfl rfl rfl rfl
  have refused (sessions : List ManagedSession) (backendSessions : List (WorkerId × SessionId)) (exc : PyError)
      (refuses : refuses runtime opening answer = true) :
      Orderly ({ runtime with
        openings := runtime.openings.erase opening
        sessions := sessions
        backendSessions := backendSessions }.refuse opening.workerId exc).2 := by
    obtain ⟨contexts,openings,abandoned⟩ := careful refuses
    exact ((shrinks sessions backendSessions).orderly orderly).refuse ⟨contexts,openings,abandoned⟩ exc
  have abandons (sessions : List ManagedSession) (backendSessions : List (WorkerId × SessionId)) :
      Orderly { runtime with
        openings := runtime.openings.erase opening
        sessions := sessions
        backendSessions := backendSessions
        abandoned := runtime.abandoned ++ [opening.workerId] } := by
    refine orderly.occupy occupied rfl rfl rfl fun other different vacant => ⟨vacant.contexts,?_,?_⟩
    · exact fun other present => vacant.openings other (List.mem_of_mem_erase present)
    · simpa [different.symm] using vacant.abandoned
  unfold Runtime.answer
  cases answer with
  | cancelled => exact abandons runtime.sessions runtime.backendSessions
  | raised exc => exact refused runtime.sessions runtime.backendSessions exc rfl
  | opened backendSessionId =>
    dsimp only
    unfold Runtime.create
    dsimp only
    by_cases duplicate : runtime.sessions.any (·.sessionId = opening.sessionId) = true
    · rw [if_pos duplicate]
      exact refused _ _ _ (by simp only [refuses,duplicate,Bool.true_or])
    · rw [if_neg duplicate]
      by_cases full : runtime.maxSessions ≤ runtime.sessions.length
      · rw [if_pos full]
        exact refused _ _ _ (by simp [refuses,full])
      · rw [if_neg full]
        cases vad with
        | error exc => exact abandons _ _
        | ok made =>
          refine orderly.occupy occupied rfl rfl rfl fun other different vacant => ⟨?_,?_,vacant.abandoned⟩
          · intro ctx present
            rcases List.mem_append.mp present with old | new
            · exact vacant.contexts ctx (List.mem_filter.mp old).1
            · rw [List.mem_singleton.mp new]
              exact different
          · exact fun other present => vacant.openings other (List.mem_of_mem_erase present)

theorem Orderly.moveDrain {runtime : Runtime} (orderly : Orderly runtime) (drain : Drain) (stage : DrainStage)
    (shut : Shut runtime drain.workerId)
    (through : ({ drain with stage := stage } : Drain).passed = true → Vacant runtime drain.workerId) :
    Orderly (runtime.moveDrain drain stage) := by
  refine ⟨fun worker set => ?_,?_,?_⟩
  · obtain ⟨contexts,openings,abandoned⟩ := orderly.truthful worker set
    exact ⟨contexts,openings,abandoned⟩
  · intro other member
    rcases List.mem_append.mp member with old | new
    · exact orderly.shut other (List.mem_of_mem_erase old)
    · rw [List.mem_singleton.mp new]
      exact shut
  · intro other member passed
    have vacant : Vacant runtime other.workerId := by
      rcases List.mem_append.mp member with old | new
      · exact orderly.passed other (List.mem_of_mem_erase old) passed
      · rw [List.mem_singleton.mp new] at passed ⊢
        exact through passed
    exact ⟨vacant.contexts,vacant.openings,vacant.abandoned⟩

theorem Orderly.endDrain {runtime : Runtime} (orderly : Orderly runtime) (drain : Drain) :
    Orderly (runtime.endDrain drain) := by
  have shrinks : Shrinks runtime (runtime.endDrain drain) :=
    ⟨fun ctx member => ⟨ctx,member,rfl⟩,List.Subset.refl _,List.Subset.refl _,
      fun snapshot member ready => ⟨snapshot,member,rfl,ready⟩,fun _ => id,
      fun other member => ⟨other,List.mem_of_mem_erase member,rfl,id⟩⟩
  exact shrinks.orderly orderly

/-- Ending a session leaves every worker that was shut so. -/
theorem releaseSession_shut {runtime : Runtime} {worker : WorkerId} (sessionId : SessionId)
    (shut : Shut runtime worker) : Shut (runtime.releaseSession sessionId).2 worker := by
  have settles (next : Runtime) (other : WorkerId) (closed : Shut next worker) : Shut (next.settleEmpty other) worker := by
    unfold Runtime.settleEmpty
    split
    · exact closed
    · exact closed
  unfold Runtime.releaseSession
  split
  · exact shut
  · rename_i ctx found
    dsimp only
    split
    · exact settles _ _ shut
    · split
      · exact shut
      · rename_i registry released
        exact settles _ _ ((shrinks_release released).shut (show Shut (runtime.drop sessionId) worker from shut))

theorem Orderly.resumeDrain {runtime next : Runtime} (orderly : Orderly runtime) (drain : Drain) (timeout : Bool)
    (member : drain ∈ runtime.drains) (careful : Careful runtime (.resumeDrain drain timeout))
    (resumed : runtime.resumeDrain drain timeout = some next) : Orderly next := by
  have shut := orderly.shut drain member
  have passed := orderly.passed drain member
  unfold Runtime.resumeDrain at resumed
  cases stage : drain.stage with
  | waiting woken =>
    rw [stage] at resumed
    dsimp only at resumed
    split at resumed
    · cases resumed
      exact orderly.moveDrain drain _ shut (fun waits => by simp [Drain.passed] at waits)
    · split at resumed
      · rename_i awake
        cases resumed
        exact orderly.moveDrain drain _ shut fun _ => passed (by simp [Drain.passed,stage,awake])
      · cases resumed
  | aborting rest =>
    cases rest with
    | nil =>
      rw [stage] at resumed
      cases resumed
      exact orderly.moveDrain drain _ shut fun set => orderly.truthful drain.workerId set
    | cons sessionId rest =>
      rw [stage] at resumed
      dsimp only at resumed
      have ended := orderly.releaseSession sessionId (careful sessionId rest stage)
      have still := releaseSession_shut sessionId shut
      generalize runtime.releaseSession sessionId = outcome at resumed ended still
      obtain ⟨reply,after⟩ := outcome
      cases reply with
      | ok done =>
        cases resumed
        exact ended.moveDrain drain _ still (fun waits => by simp [Drain.passed] at waits)
      | error exc =>
        cases resumed
        exact ended.endDrain drain
  | waitingAgain woken =>
    rw [stage] at resumed
    dsimp only at resumed
    split at resumed
    · rename_i awake
      cases resumed
      exact orderly.moveDrain drain _ shut fun _ => passed (by simp [Drain.passed,stage,awake])
    · cases resumed
  | draining =>
    have vacant := passed (by simp [Drain.passed,stage])
    rw [stage] at resumed
    dsimp only at resumed
    split at resumed
    · cases resumed
      exact orderly.endDrain drain
    · rename_i registry removed
      cases resumed
      have shrinks : Shrinks runtime { runtime with registry := registry } := by
        apply shrinks_registry
        intro snapshot present ready
        unfold BackendRegistry.remove at removed
        cases found : runtime.registry.worker drain.workerId with
        | error exc => simp [found,bind,Except.bind] at removed
        | ok worker =>
          simp only [found,bind,Except.bind] at removed
          split at removed
          · cases removed
          · cases removed
            exact ⟨snapshot,(List.mem_filter.mp present).1,rfl,ready⟩
      exact (shrinks.orderly orderly).moveDrain drain _ (shrinks.shut shut) fun _ => shrinks.vacant vacant
  | removed =>
    rw [stage] at resumed
    cases resumed

theorem Orderly.drainWorker {runtime : Runtime} (orderly : Orderly runtime) (worker : WorkerId) :
    Orderly (runtime.drainWorker worker).2 := by
  unfold Runtime.drainWorker BackendRegistry.beginDrain
  cases found : runtime.registry.worker worker with
  | error exc => exact orderly
  | ok snapshot =>
    dsimp only [bind,Except.bind,pure,Except.pure]
    have shrinks : Shrinks runtime { runtime with registry := runtime.registry.adjust worker (.become .draining) } :=
      shrinks_registry runtime (BackendRegistry.adjust_ready (fun _ => rfl) (fun _ ready => by cases ready))
    have shut : Shut { runtime with registry := runtime.registry.adjust worker (.become .draining) } worker := by
      intro snapshot member named ready
      obtain ⟨old,-,rfl⟩ := List.mem_map.mp member
      split at ready
      · cases ready
      · rename_i elsewhere
        rw [if_neg elsewhere] at named
        exact elsewhere named
    have ordered := shrinks.orderly orderly
    refine ⟨fun other set => ?_,?_,?_⟩
    · obtain ⟨contexts,openings,abandoned⟩ := ordered.truthful other set
      exact ⟨contexts,openings,abandoned⟩
    · intro drain member
      rcases List.mem_append.mp member with old | new
      · exact ordered.shut drain old
      · rw [List.mem_singleton.mp new]
        exact shut
    · intro drain member through
      have vacant : Vacant runtime drain.workerId := by
        rcases List.mem_append.mp member with old | new
        · exact orderly.passed drain old through
        · rw [List.mem_singleton.mp new] at through ⊢
          exact orderly.truthful worker through
      exact ⟨vacant.contexts,vacant.openings,vacant.abandoned⟩

theorem Orderly.step {runtime next : Runtime} (orderly : Orderly runtime) {action : Action}
    (careful : Careful runtime action) (stepped : runtime.step action = some next) : Orderly next := by
  cases action with
  | openSession sessionId route =>
    cases stepped
    exact orderly.openSession sessionId route careful
  | answer opening answer vad =>
    simp only [Runtime.step] at stepped
    split at stepped
    · rename_i member
      cases stepped
      exact orderly.answer opening answer vad member careful
    · cases stepped
  | endBackendSession worker sessionId =>
    cases stepped
    have shrinks : Shrinks runtime { runtime with
        backendSessions := runtime.backendSessions.filter (· ≠ (worker,sessionId)) } :=
      shrinks_of (fun ctx member => ⟨ctx,member,rfl⟩) (List.Subset.refl _) rfl rfl rfl rfl
    exact shrinks.orderly orderly
  | finishLease sessionId =>
    cases stepped
    have marked : Shrinks runtime { runtime with contexts := runtime.contexts.map fun other =>
        if other.sessionId = sessionId then { other with leaseReleased := true } else other } := by
      refine shrinks_of ?_ (List.Subset.refl _) rfl rfl rfl rfl
      intro ctx member
      obtain ⟨old,oldMember,rfl⟩ := List.mem_map.mp member
      refine ⟨old,oldMember,?_⟩
      split <;> rfl
    unfold Runtime.finishLease
    split
    · exact orderly
    · dsimp only
      split
      · exact orderly
      · split
        · exact marked.orderly orderly
        · rename_i registry released
          refine Shrinks.orderly ?_ (marked.orderly orderly)
          exact shrinks_release released
  | releaseSession sessionId =>
    cases stepped
    exact orderly.releaseSession sessionId careful
  | workerFailed worker =>
    simp only [Runtime.step,BackendRegistry.markFailed] at stepped
    cases found : runtime.registry.worker worker with
    | error exc =>
      simp only [found,bind,Except.bind] at stepped
      cases stepped
      exact orderly
    | ok snapshot =>
      simp only [found,bind,Except.bind] at stepped
      cases stepped
      have shrinks : Shrinks runtime { runtime with registry := runtime.registry.adjust worker (.become .failed) } :=
        shrinks_registry runtime (BackendRegistry.adjust_ready (fun _ => rfl) (fun _ ready => by cases ready))
      exact shrinks.orderly orderly
  | drainWorker worker =>
    cases stepped
    exact orderly.drainWorker worker
  | resumeDrain drain timeout =>
    simp only [Runtime.step] at stepped
    split at stepped
    · rename_i member
      exact orderly.resumeDrain drain timeout member careful stepped
    · cases stepped

/-- In every run whose steps set a flag only when nobody else holds a lease of the worker: a
    set flag means that the worker has no context and no lease is held, and `drain_worker`
    goes on to `adapter.drain` and `remove` only then. -/
theorem drain_waits (registry : BackendRegistry) (maxSessions : Nat) (actions : List Action) (runtime : Runtime)
    (careful : Machine.Along Runtime.step Careful (.init registry maxSessions) actions)
    (ran : Machine.run Runtime.step (.init registry maxSessions) actions = some runtime) :
    (∀ worker, runtime.workerEmpty worker = true → Vacant runtime worker) ∧
      ∀ drain ∈ runtime.drains, drain.stage = .draining ∨ drain.stage = .removed → Vacant runtime drain.workerId := by
  have orderly : Orderly runtime := Machine.invariant_along Runtime.step Orderly
    (fun _ _ _ orderly careful stepped => orderly.step careful stepped) (orderly_init registry maxSessions) careful ran
  refine ⟨orderly.truthful,fun drain member called => orderly.passed drain member ?_⟩
  rcases called with stage | stage
  · simp [Drain.passed,stage]
  · simp [Drain.passed,stage]

/-- A session is opened, its worker drained, and the session released: the drain goes on. -/
theorem drain_waits_for_session :
    ∃ runtime, Machine.run Runtime.step (.init [exampleWorker] 2)
        [.openSession ['a'] exampleRoute,.answer ⟨['a'],['w']⟩ (.opened ['s']) (.ok ()),.drainWorker ['w'],
          .releaseSession ['a'],.resumeDrain ⟨['w'],.waiting true⟩ false] = some runtime ∧
      runtime.drains = [⟨['w'],.draining⟩] ∧
      (∀ worker, runtime.workerEmpty worker = true → Vacant runtime worker) ∧
        ∀ drain ∈ runtime.drains, drain.stage = .draining ∨ drain.stage = .removed → Vacant runtime drain.workerId := by
  refine ⟨_,rfl,rfl,drain_waits [exampleWorker] 2 [.openSession ['a'] exampleRoute,
    .answer ⟨['a'],['w']⟩ (.opened ['s']) (.ok ()),.drainWorker ['w'],.releaseSession ['a'],
    .resumeDrain ⟨['w'],.waiting true⟩ false] _ ?_ rfl⟩
  refine ⟨fun _ _ _ known => (by cases known),?_⟩
  rintro _ ⟨⟩
  refine ⟨fun refused => (by cases refused),?_⟩
  rintro _ ⟨⟩
  refine ⟨trivial,?_⟩
  rintro _ ⟨⟩
  refine ⟨fun ctx _ _ => .inr ⟨?_,?_,?_⟩,?_⟩
  · exact fun _ member => by cases member
  · exact fun _ member => by cases member
  · exact fun member => by cases member
  rintro _ ⟨⟩
  refine ⟨fun _ _ stage => (by cases stage),?_⟩
  rintro _ ⟨⟩
  trivial

/-- The only session is released while another one is being opened: the flag is set, and the
    worker is drained under the opening session. -/
theorem drain_overtakes_opening :
    ∃ runtime, Machine.run Runtime.step (.init [exampleWorker] 2)
        [.openSession ['a'] exampleRoute,.answer ⟨['a'],['w']⟩ (.opened ['s']) (.ok ()),.openSession ['b'] exampleRoute,
          .releaseSession ['a'],.drainWorker ['w'],.resumeDrain ⟨['w'],.waiting true⟩ false] = some runtime ∧
      ¬ ((∀ worker, runtime.workerEmpty worker = true → Vacant runtime worker) ∧
        ∀ drain ∈ runtime.drains, drain.stage = .draining ∨ drain.stage = .removed → Vacant runtime drain.workerId) := by
  refine ⟨_,rfl,?_⟩
  rintro ⟨truthful,-⟩
  exact (truthful ['w'] rfl).openings ⟨['b'],['w']⟩ (by decide) rfl

end SpeechGateway.Leasing
