import Mathlib.Data.List.Nodup
import SpeechGateway.Leasing

/-!
`BackendRegistry` with all its operations, and the leases it hands out. Each operation runs under
the lock of the registry; `BackendLease.release` marks the lease under a lock of its own
and then gives it back to the registry, and anything may happen in between. The counts of the
registry are those of the leases that are still out (`leases_accounted`).
-/
namespace SpeechGateway.Registry
open Backends Leasing

/-- What a worker registers with: the capabilities that routing reads, and the GPU that it owns. -/
structure RegisteredCapabilities extends RoutedCapabilities where
  gpuId : Text

/-- `BackendSnapshot`, with the GPU of its worker and `load_error`. -/
structure RegisteredWorker where
  snapshot : BackendSnapshot
  gpuId : Text
  loadError : Option String := none

namespace RegisteredWorker

def workerId (worker : RegisteredWorker) : WorkerId := worker.snapshot.workerId

/-- `immutable_identity`. -/
def identity (worker : RegisteredWorker) : WorkerId × Text × Text × Text :=
  (worker.workerId,worker.snapshot.capabilities.modelId,worker.snapshot.capabilities.modelRevision,worker.gpuId)

def activeLeases (worker : RegisteredWorker) : Nat := worker.snapshot.activeLeases

def recapable (capabilities : RegisteredCapabilities) (worker : RegisteredWorker) : RegisteredWorker :=
  { worker with
    snapshot := { worker.snapshot with capabilities := capabilities.toRoutedCapabilities }
    gpuId := capabilities.gpuId }

def mark (ready : Bool) (error : Option String) (worker : RegisteredWorker) : RegisteredWorker :=
  { worker with snapshot := worker.snapshot.become (if ready then .ready else .failed), loadError := error }

def drain (worker : RegisteredWorker) : RegisteredWorker :=
  { worker with snapshot := worker.snapshot.become .draining }

def grant (worker : RegisteredWorker) : RegisteredWorker := { worker with snapshot := worker.snapshot.grant }
def giveBack (worker : RegisteredWorker) : RegisteredWorker := { worker with snapshot := worker.snapshot.giveBack }

end RegisteredWorker

def RegisteredCapabilities.identity (capabilities : RegisteredCapabilities) : WorkerId × Text × Text × Text :=
  (capabilities.workerId,capabilities.modelId,capabilities.modelRevision,capabilities.gpuId)

/-- The arguments of `acquire`; `none` does not filter. -/
structure RouteFilters where
  preferredWorkerId : Option WorkerId := none
  backendId : Option Text := none
  language : Option Text := none
  task : Option Text := none
  streamingMode : Option StreamingMode := none
  resultModes : Option (List ResultMode) := none
  modelId : Option Text := none
  modelRevision : Option Text := none

/-- The worker passes every filter that is given. -/
structure RouteFilters.Matches (filters : RouteFilters) (caps : RoutedCapabilities) : Prop where
  preferredWorkerId : ∀ worker, filters.preferredWorkerId = some worker → caps.workerId = worker
  backendId : ∀ backend, filters.backendId = some backend →
    (if caps.backendId = [] then caps.workerId else caps.backendId) = backend
  language : ∀ language, filters.language = some language → language = "auto".toList ∨ language ∈ caps.languages ∨
    "auto".toList ∈ caps.languages
  task : ∀ task, filters.task = some task → task ∈ caps.tasks
  streamingMode : ∀ mode, filters.streamingMode = some mode → caps.streamingMode = mode
  resultModes : ∀ modes, filters.resultModes = some modes → caps.resultMode ∈ modes
  modelId : ∀ model, filters.modelId = some model → caps.modelId = model
  modelRevision : ∀ revision, filters.modelRevision = some revision → caps.modelRevision = revision

/-- The candidates that `acquire` is left with. -/
def RouteFilters.admits (filters : RouteFilters) (worker : RegisteredWorker) : Bool :=
  let caps := worker.snapshot.capabilities
  worker.snapshot.accepting && filters.preferredWorkerId.all (fun worker => decide (caps.workerId = worker)) &&
    filters.backendId.all (fun backend =>
      decide ((if caps.backendId = [] then caps.workerId else caps.backendId) = backend)) &&
    filters.language.all (fun language => decide (language = "auto".toList) || caps.languages.contains language ||
      caps.languages.contains "auto".toList) &&
    filters.task.all caps.tasks.contains && filters.streamingMode.all (fun mode => decide (caps.streamingMode = mode)) &&
    filters.resultModes.all (fun modes => modes.contains caps.resultMode) &&
    filters.modelId.all (fun model => decide (caps.modelId = model)) &&
    filters.modelRevision.all fun revision => decide (caps.modelRevision = revision)

/-- `_workers`, in the order of registration. -/
abbrev Workers := List RegisteredWorker

namespace Workers

def adjust (workers : Workers) (worker : WorkerId) (change : RegisteredWorker → RegisteredWorker) : Workers :=
  workers.map fun registered => if registered.workerId = worker then change registered else registered

/-- `_worker`. -/
def worker (workers : Workers) (worker : WorkerId) : Except PyError RegisteredWorker :=
  match workers.find? (·.workerId = worker) with
  | some registered => .ok registered
  | none => .error (.keyError ("unknown worker_id " ++ String.ofList worker))

def register (workers : Workers) (capabilities : RegisteredCapabilities) : Except PyError Workers :=
  match workers.find? (·.workerId = capabilities.workerId) with
  | some current =>
    if current.identity ≠ capabilities.identity then
      .error (.valueError "immutable model identity changed on re-registration")
    else .ok (workers.adjust capabilities.workerId (.recapable capabilities))
  | none =>
    match workers.find? (·.gpuId = capabilities.gpuId) with
    | some owner =>
      .error (.valueError ("gpu_id " ++ String.ofList capabilities.gpuId ++ " already has model owner " ++
        String.ofList owner.workerId))
    | none => .ok (workers ++ [⟨{ capabilities := capabilities.toRoutedCapabilities },capabilities.gpuId,none⟩])

def markReady (workers : Workers) (worker : WorkerId) (ready : Bool) (error : Option String) : Except PyError Workers := do
  let _ ← workers.worker worker
  return workers.adjust worker (.mark ready error)

def acquire (workers : Workers) (filters : RouteFilters) : Except PyError (WorkerId × Workers) :=
  match BackendRegistry.least ((workers.filter filters.admits).map RegisteredWorker.snapshot) with
  | none => .error (.runtimeError "unsupported backend route or no ready capacity")
  | some selected => .ok (selected.workerId,workers.adjust selected.workerId .grant)

def release (workers : Workers) (worker : WorkerId) : Except PyError Workers := do
  let registered ← workers.worker worker
  if registered.activeLeases = 0 then throw (.runtimeError "active lease accounting underflow")
  return workers.adjust worker .giveBack

def beginDrain (workers : Workers) (worker : WorkerId) : Except PyError Workers := do
  let _ ← workers.worker worker
  return workers.adjust worker .drain

def remove (workers : Workers) (worker : WorkerId) : Except PyError Workers := do
  let registered ← workers.worker worker
  if registered.activeLeases ≠ 0 then throw (.runtimeError "cannot remove worker with active leases")
  return workers.filter (·.workerId ≠ worker)

end Workers

/-- `BackendLease`. `releasing` says that a call of `release` holds its lock and has still to give
    the lease back to the registry. -/
structure BackendLease where
  workerId : WorkerId
  released : Bool := false
  releasing : Bool := false
  deriving DecidableEq, Repr

/-- The registry and all leases that it granted. -/
structure RegistryState where
  workers : Workers := []
  leases : List BackendLease := []

/-- An operation of the registry, or a part of `BackendLease.release`. -/
inductive RegistryAction
  | register (capabilities : RegisteredCapabilities)
  | markReady (worker : WorkerId) (ready : Bool) (error : Option String)
  | acquire (filters : RouteFilters)
  | release (lease : Nat)
  | lower (lease : Nat)
  | beginDrain (worker : WorkerId)
  | remove (worker : WorkerId)

/-- What becomes of the lowering of a count. -/
inductive RegistryEvent
  | lowered (lease : Nat)
  | raised (lease : Nat) (error : PyError)
  deriving DecidableEq

namespace RegistryState

/-- An operation that raises changes nothing. -/
def settle (state : RegistryState) (outcome : Except PyError Workers) : RegistryState :=
  match outcome with
  | .ok workers => { state with workers := workers }
  | .error _ => state

/-- A call of `release` waits while another one holds the lock of the lease. -/
def step (state : RegistryState) : RegistryAction → Option RegistryState
  | .register capabilities => some (state.settle (state.workers.register capabilities))
  | .markReady worker ready error => some (state.settle (state.workers.markReady worker ready error))
  | .acquire filters =>
    match state.workers.acquire filters with
    | .ok (worker,workers) => some ⟨workers,state.leases ++ [{ workerId := worker }]⟩
    | .error _ => some state
  | .release index =>
    match state.leases[index]? with
    | none => none
    | some lease =>
      if lease.releasing then none else
      if lease.released then some state else
      some { state with leases := state.leases.set index { lease with released := true, releasing := true } }
  | .lower index =>
    match state.leases[index]? with
    | none => none
    | some lease =>
      if lease.releasing then
        some { state.settle (state.workers.release lease.workerId) with
          leases := state.leases.set index { lease with releasing := false } }
      else none
  | .beginDrain worker => some (state.settle (state.workers.beginDrain worker))
  | .remove worker => some (state.settle (state.workers.remove worker))

/-- What the registry answers to the release of a lease. -/
def observe (state : RegistryState) (action : RegistryAction) (_ : RegistryState) : List RegistryEvent :=
  match action with
  | .lower index =>
    match state.leases[index]? with
    | some lease =>
      match state.workers.release lease.workerId with
      | .ok _ => [.lowered index]
      | .error error => [.raised index error]
    | none => []
  | _ => []

def tracedStep : RegistryState × List RegistryEvent → RegistryAction → Option (RegistryState × List RegistryEvent) :=
  Machine.observed step observe

end RegistryState

/-- Granted, and not yet given back to the registry. -/
def BackendLease.out (lease : BackendLease) : Bool := !lease.released || lease.releasing

/-- The leases of a worker that are out. -/
def RegistryState.outstanding (state : RegistryState) (worker : WorkerId) : Nat :=
  state.leases.countP fun lease => decide (lease.workerId = worker) && lease.out

/-- What no operation on a worker changes, and its count. -/
def RegisteredWorker.book (worker : RegisteredWorker) : WorkerId × Text × Nat :=
  (worker.workerId,worker.gpuId,worker.activeLeases)

namespace Workers
variable {workers next : Workers} {id : WorkerId}

theorem worker_ok {registered : RegisteredWorker} (found : workers.worker id = .ok registered) :
    registered ∈ workers ∧ registered.workerId = id := by
  unfold worker at found
  split at found
  · rename_i other here
    cases found
    exact ⟨List.mem_of_find?_eq_some here,by simpa using List.find?_some here⟩
  · cases found

theorem worker_found {registered : RegisteredWorker} (member : registered ∈ workers) :
    ∃ found, workers.worker registered.workerId = .ok found := by
  unfold worker
  cases found : workers.find? (·.workerId = registered.workerId) with
  | some other => exact ⟨other,rfl⟩
  | none => simpa using List.find?_eq_none.mp found registered member

theorem mem_adjust {change : RegisteredWorker → RegisteredWorker} {registered : RegisteredWorker} :
    registered ∈ workers.adjust id change ↔ ∃ worker ∈ workers,
      registered = if worker.workerId = id then change worker else worker := by
  simp only [adjust,List.mem_map]
  constructor
  · rintro ⟨worker,member,rfl⟩
    exact ⟨worker,member,rfl⟩
  · rintro ⟨worker,member,rfl⟩
    exact ⟨worker,member,rfl⟩

/-- A change of one worker keeps what it keeps of that worker. -/
theorem adjust_map {α : Type} {change : RegisteredWorker → RegisteredWorker} {keep : RegisteredWorker → α}
    (same : ∀ worker ∈ workers, worker.workerId = id → keep (change worker) = keep worker) :
    (workers.adjust id change).map keep = workers.map keep := by
  rw [adjust,List.map_map]
  apply List.map_congr_left
  intro worker member
  by_cases here : worker.workerId = id
  · simp [here,same worker member here]
  · simp [here]

theorem markReady_ok {ready : Bool} {error : Option String} (done : workers.markReady id ready error = .ok next) :
    next = workers.adjust id (.mark ready error) := by
  unfold markReady at done
  cases found : workers.worker id with
  | error raised => simp [found,bind,Except.bind] at done
  | ok registered =>
    simp only [found,bind,Except.bind] at done
    cases done
    rfl

theorem beginDrain_ok (done : workers.beginDrain id = .ok next) : next = workers.adjust id .drain := by
  unfold beginDrain at done
  cases found : workers.worker id with
  | error raised => simp [found,bind,Except.bind] at done
  | ok registered =>
    simp only [found,bind,Except.bind] at done
    cases done
    rfl

theorem remove_ok (done : workers.remove id = .ok next) : next = workers.filter (·.workerId ≠ id) ∧
    ∃ registered ∈ workers, registered.workerId = id ∧ registered.activeLeases = 0 := by
  unfold remove at done
  cases found : workers.worker id with
  | error raised => simp [found,bind,Except.bind] at done
  | ok registered =>
    obtain ⟨member,named⟩ := worker_ok found
    by_cases idle : registered.activeLeases = 0
    · simp only [found,bind,Except.bind,idle,ne_eq,not_true_eq_false,if_false] at done
      cases done
      exact ⟨rfl,registered,member,named,idle⟩
    · simp [found,bind,Except.bind,idle,throw,throwThe,MonadExceptOf.throw] at done

/-- A worker is registered again under its identity, or it is new and so is its GPU. -/
theorem register_ok {capabilities : RegisteredCapabilities} (done : workers.register capabilities = .ok next) :
    (∃ current ∈ workers, current.workerId = capabilities.workerId ∧ current.identity = capabilities.identity ∧
      next = workers.adjust capabilities.workerId (.recapable capabilities)) ∨
    (∀ worker ∈ workers, worker.workerId ≠ capabilities.workerId ∧ worker.gpuId ≠ capabilities.gpuId) ∧
      next = workers ++ [⟨{ capabilities := capabilities.toRoutedCapabilities },capabilities.gpuId,none⟩] := by
  unfold register at done
  split at done
  · rename_i current found
    split_ifs at done with changed
    cases done
    have named : current.workerId = capabilities.workerId := by simpa using List.find?_some found
    exact .inl ⟨current,List.mem_of_find?_eq_some found,named,not_not.mp changed,rfl⟩
  · rename_i unknown
    split at done
    · cases done
    · rename_i free
      cases done
      refine .inr ⟨fun worker member => ⟨?_,?_⟩,rfl⟩
      · simpa using List.find?_eq_none.mp unknown worker member
      · simpa using List.find?_eq_none.mp free worker member

/-- A worker that is granted a lease accepts sessions and passes every filter. -/
theorem acquire_ok {filters : RouteFilters} (done : workers.acquire filters = .ok (id,next)) :
    next = workers.adjust id .grant ∧ ∃ chosen ∈ workers, chosen.workerId = id ∧ filters.admits chosen = true := by
  unfold acquire at done
  split at done
  · cases done
  · rename_i selected least
    cases done
    obtain ⟨chosen,member,rfl⟩ := List.mem_map.mp (BackendRegistry.least_mem least)
    obtain ⟨registered,admitted⟩ := List.mem_filter.mp member
    exact ⟨rfl,chosen,registered,rfl,admitted⟩

end Workers

/-- What admission means. -/
theorem RouteFilters.admits_iff (filters : RouteFilters) (worker : RegisteredWorker) :
    filters.admits worker = true ↔ worker.snapshot.accepting = true ∧ filters.Matches worker.snapshot.capabilities := by
  have all : ∀ {α : Type} (given : Option α) (passes : α → Bool), given.all passes = true ↔ ∀ value, given = some value → passes value = true := by
    intro α given passes
    cases given <;> simp
  simp only [admits,Bool.and_eq_true,all,decide_eq_true_eq,Bool.or_eq_true,List.contains_iff_mem]
  constructor
  · rintro ⟨⟨⟨⟨⟨⟨⟨⟨accepting,preferred⟩,backend⟩,language⟩,task⟩,streaming⟩,results⟩,model⟩,revision⟩
    exact ⟨accepting,preferred,backend,fun value given => by simpa [or_assoc] using language value given,task,streaming,
      results,model,revision⟩
  · rintro ⟨accepting,preferred,backend,language,task,streaming,results,model,revision⟩
    exact ⟨⟨⟨⟨⟨⟨⟨⟨accepting,preferred⟩,backend⟩,fun value given => by simpa [or_assoc] using language value given⟩,task⟩,
      streaming⟩,results⟩,model⟩,revision⟩

/-- The filters that `open_session` gives. -/
def routeFilters (route : Route) : RouteFilters where
  backendId := some route.backendId
  language := some route.language
  task := some route.task
  streamingMode := some route.streamingMode
  resultModes := some route.resultModes
  modelId := route.modelId

/-- The snapshots alone. -/
def Workers.plain (workers : Workers) : BackendRegistry := workers.map RegisteredWorker.snapshot

theorem adjust_plain (workers : Workers) (id : WorkerId) (change : RegisteredWorker → RegisteredWorker)
    (changed : BackendSnapshot → BackendSnapshot) (same : ∀ worker, (change worker).snapshot = changed worker.snapshot) :
    (workers.adjust id change).plain = workers.plain.adjust id changed := by
  simp only [Workers.plain,Workers.adjust,BackendRegistry.adjust,List.map_map]
  apply List.map_congr_left
  intro worker _
  by_cases here : worker.workerId = id
  · rw [Function.comp_apply,Function.comp_apply,if_pos here,if_pos (show worker.snapshot.workerId = id from here),same]
  · rw [Function.comp_apply,Function.comp_apply,if_neg here,if_neg (show ¬worker.snapshot.workerId = id from here)]

/-- `open_session` acquires here what it acquires in `Leasing`. -/
theorem acquire_plain (workers : Workers) (route : Route) :
    (workers.acquire (routeFilters route)).map (fun granted => (granted.1,granted.2.plain)) = workers.plain.acquire route := by
  have admits : ∀ worker : RegisteredWorker, (routeFilters route).admits worker = route.admits worker.snapshot := by
    intro worker
    simp [RouteFilters.admits,routeFilters,Route.admits,Bool.and_assoc]
  have candidates : (workers.filter (routeFilters route).admits).map RegisteredWorker.snapshot = workers.plain.filter route.admits := by
    rw [Workers.plain,List.filter_map]
    exact congrArg _ (List.filter_congr fun worker _ => admits worker)
  unfold Workers.acquire BackendRegistry.acquire
  rw [candidates]
  cases BackendRegistry.least (workers.plain.filter route.admits) with
  | none => rfl
  | some selected =>
    simp only [Except.map]
    rw [adjust_plain workers selected.workerId .grant .grant fun _ => rfl]

/-! ## The counts -/

/-- Every count is that of the leases that are out, and every lease lowers one at most once. -/
structure Counted (state : RegistryState) (history : List RegistryEvent) : Prop where
  distinct : (state.workers.map RegisteredWorker.workerId).Nodup
  gpus : (state.workers.map RegisteredWorker.gpuId).Nodup
  counts : ∀ worker ∈ state.workers, worker.activeLeases = state.outstanding worker.workerId
  homed : ∀ lease ∈ state.leases, lease.out = true → ∃ worker ∈ state.workers, worker.workerId = lease.workerId
  held : ∀ lease ∈ state.leases, lease.releasing = true → lease.released = true
  lowered : ∀ (index : Nat) (lease : BackendLease), state.leases[index]? = some lease →
    history.count (.lowered index) = if lease.out then 0 else 1
  fresh : ∀ index, state.leases.length ≤ index → history.count (.lowered index) = 0
  silent : ∀ index error, RegistryEvent.raised index error ∉ history

section Counting
variable {state next : RegistryState} {history : List RegistryEvent}

theorem init_counted : Counted {} [] := by
  constructor <;> simp

/-- Workers that change only what no count depends on. -/
theorem Counted.reworks {workers : Workers} (counted : Counted state history)
    (books : workers.map RegisteredWorker.book = state.workers.map RegisteredWorker.book) :
    Counted { state with workers := workers } history := by
  have kept : ∀ {α : Type} (part : WorkerId × Text × Nat → α),
      workers.map (part ∘ RegisteredWorker.book) = state.workers.map (part ∘ RegisteredWorker.book) := by
    intro α part
    rw [← List.map_map,← List.map_map,books]
  have found : ∀ worker, worker ∈ workers → ∃ same ∈ state.workers, same.book = worker.book := by
    intro worker member
    have booked : worker.book ∈ state.workers.map RegisteredWorker.book := by
      rw [← books]
      exact List.mem_map_of_mem member
    exact List.mem_map.mp booked
  refine ⟨?_,?_,?_,?_,counted.held,counted.lowered,counted.fresh,counted.silent⟩
  · rw [show workers.map RegisteredWorker.workerId = state.workers.map RegisteredWorker.workerId from kept (·.1)]
    exact counted.distinct
  · rw [show workers.map RegisteredWorker.gpuId = state.workers.map RegisteredWorker.gpuId from kept (·.2.1)]
    exact counted.gpus
  · intro worker member
    obtain ⟨same,there,booked⟩ := found worker member
    have counts := counted.counts same there
    simp only [RegisteredWorker.book,Prod.mk.injEq] at booked
    rw [booked.2.2,booked.1] at counts
    exact counts
  · intro lease member out
    obtain ⟨worker,there,named⟩ := counted.homed lease member out
    have booked : worker.book ∈ workers.map RegisteredWorker.book := by
      rw [books]
      exact List.mem_map_of_mem there
    obtain ⟨same,here,booked⟩ := List.mem_map.mp booked
    simp only [RegisteredWorker.book,Prod.mk.injEq] at booked
    exact ⟨same,here,booked.1.trans named⟩

/-- A worker is registered under its identity once more. -/
theorem recapable_book {capabilities : RegisteredCapabilities} {worker : RegisteredWorker}
    (same : worker.identity = capabilities.identity) : (worker.recapable capabilities).book = worker.book := by
  simp only [RegisteredWorker.identity,RegisteredCapabilities.identity,Prod.mk.injEq] at same
  obtain ⟨named,_,_,gpu⟩ := same
  simp only [RegisteredWorker.book,RegisteredWorker.recapable,RegisteredWorker.workerId,BackendSnapshot.workerId,
    RegisteredWorker.activeLeases,Prod.mk.injEq]
  exact ⟨named.symm,gpu.symm,trivial⟩

/-- One worker for each id. -/
theorem Counted.unique {first second : RegisteredWorker} (counted : Counted state history) (one : first ∈ state.workers)
    (other : second ∈ state.workers) (same : first.workerId = second.workerId) : first = second :=
  List.inj_on_of_nodup_map counted.distinct one other same

theorem Counted.registers {capabilities : RegisteredCapabilities} {workers : Workers} (counted : Counted state history)
    (done : state.workers.register capabilities = .ok workers) : Counted { state with workers := workers } history := by
  rcases Workers.register_ok done with ⟨current,member,named,same,rfl⟩ | ⟨new,rfl⟩
  · refine counted.reworks (Workers.adjust_map fun worker there here => recapable_book ?_)
    rw [counted.unique there member (here.trans named.symm)]
    exact same
  · have none_out : state.outstanding capabilities.workerId = 0 := by
      refine List.countP_eq_zero.mpr fun lease member => ?_
      intro out
      simp only [Bool.and_eq_true,decide_eq_true_eq] at out
      obtain ⟨worker,there,named⟩ := counted.homed lease member out.2
      exact (new worker there).1 (named.trans out.1)
    refine ⟨?_,?_,?_,?_,counted.held,counted.lowered,counted.fresh,counted.silent⟩
    · rw [List.map_append,List.nodup_append]
      refine ⟨counted.distinct,by simp,?_⟩
      rintro _ before _ now rfl
      obtain ⟨worker,there,named⟩ := List.mem_map.mp before
      exact (new worker there).1 (named.trans (by simpa [RegisteredWorker.workerId,BackendSnapshot.workerId] using now))
    · rw [List.map_append,List.nodup_append]
      refine ⟨counted.gpus,by simp,?_⟩
      rintro _ before _ now rfl
      obtain ⟨worker,there,owned⟩ := List.mem_map.mp before
      exact (new worker there).2 (owned.trans (by simpa using now))
    · intro worker member
      rcases List.mem_append.mp member with before | now
      · exact counted.counts worker before
      · obtain rfl := List.mem_singleton.mp now
        exact none_out.symm
    · intro lease member out
      obtain ⟨worker,there,named⟩ := counted.homed lease member out
      exact ⟨worker,List.mem_append_left _ there,named⟩

theorem Counted.removes {id : WorkerId} {workers : Workers} (counted : Counted state history)
    (done : state.workers.remove id = .ok workers) :
    state.outstanding id = 0 ∧ Counted { state with workers := workers } history := by
  obtain ⟨rfl,registered,member,rfl,idle⟩ := Workers.remove_ok done
  have none_out : state.outstanding registered.workerId = 0 := by rw [← counted.counts registered member,idle]
  refine ⟨none_out,?_,?_,?_,?_,counted.held,counted.lowered,counted.fresh,counted.silent⟩
  · exact counted.distinct.sublist (List.filter_sublist.map _)
  · exact counted.gpus.sublist (List.filter_sublist.map _)
  · intro worker there
    exact counted.counts worker (List.mem_filter.mp there).1
  · intro lease there out
    obtain ⟨worker,here,named⟩ := counted.homed lease there out
    refine ⟨worker,List.mem_filter.mpr ⟨here,?_⟩,named⟩
    simp only [ne_eq,decide_not,Bool.not_eq_eq_eq_not,Bool.not_true,decide_eq_false_iff_not]
    intro removed
    have counted_out := List.countP_eq_zero.mp none_out lease there
    simp [← named,removed,out] at counted_out

/-- A new lease is counted. -/
theorem Counted.grants {id : WorkerId} (counted : Counted state history) (known : ∃ worker ∈ state.workers, worker.workerId = id) :
    Counted ⟨state.workers.adjust id .grant,state.leases ++ [{ workerId := id }]⟩ history := by
  have names : (state.workers.adjust id .grant).map RegisteredWorker.workerId = state.workers.map RegisteredWorker.workerId :=
    Workers.adjust_map fun _ _ _ => rfl
  have named : ∀ worker ∈ state.workers, ∃ same ∈ state.workers.adjust id .grant, same.workerId = worker.workerId := by
    intro worker member
    have there : worker.workerId ∈ (state.workers.adjust id .grant).map RegisteredWorker.workerId := by
      rw [names]
      exact List.mem_map_of_mem member
    exact List.mem_map.mp there
  constructor
  · rw [names]
    exact counted.distinct
  · rw [show (state.workers.adjust id .grant).map RegisteredWorker.gpuId = state.workers.map RegisteredWorker.gpuId from
      Workers.adjust_map fun _ _ _ => rfl]
    exact counted.gpus
  · intro worker member
    obtain ⟨before,there,rfl⟩ := Workers.mem_adjust.mp member
    have counts := counted.counts before there
    simp only [RegistryState.outstanding,List.countP_append,List.countP_singleton,BackendLease.out] at counts ⊢
    by_cases here : before.workerId = id
    · subst here
      simp only [if_true]
      rw [show before.grant.workerId = before.workerId from rfl,show before.grant.activeLeases = before.activeLeases + 1 from rfl]
      simp [counts]
    · simp [here,counts,Ne.symm here]
  · intro lease member out
    rcases List.mem_append.mp member with before | now
    · obtain ⟨worker,there,same⟩ := counted.homed lease before out
      obtain ⟨found,here,named⟩ := named worker there
      exact ⟨found,here,named.trans same⟩
    · obtain rfl := List.mem_singleton.mp now
      obtain ⟨worker,there,rfl⟩ := known
      exact named worker there
  · intro lease member releasing
    rcases List.mem_append.mp member with before | now
    · exact counted.held lease before releasing
    · obtain rfl := List.mem_singleton.mp now
      cases releasing
  · intro index lease found
    rw [List.getElem?_append] at found
    split at found
    · exact counted.lowered index lease found
    · rename_i beyond
      have none_lowered := counted.fresh index (by omega)
      rw [List.getElem?_singleton] at found
      split at found
      · cases found
        exact none_lowered
      · cases found
  · intro index beyond
    rw [List.length_append] at beyond
    exact counted.fresh index (by omega)
  · exact counted.silent

/-- One lease changes, and what is out with it. -/
theorem outstanding_set {index : Nat} {lease : BackendLease} (changed : BackendLease) (found : state.leases[index]? = some lease)
    (mine : changed.workerId = lease.workerId) (worker : WorkerId) :
    (state.leases.set index changed).countP (fun lease => decide (lease.workerId = worker) && lease.out) +
        (if lease.workerId = worker ∧ lease.out = true then 1 else 0) =
      state.outstanding worker + if lease.workerId = worker ∧ changed.out = true then 1 else 0 := by
  obtain ⟨within,rfl⟩ := List.getElem?_eq_some_iff.mp found
  have positive : (decide (state.leases[index].workerId = worker) && state.leases[index].out) = true →
      0 < state.outstanding worker := fun here => List.countP_pos_iff.mpr ⟨_,List.getElem_mem within,here⟩
  rw [List.countP_set within,mine]
  simp only [Bool.and_eq_true,decide_eq_true_eq] at positive ⊢
  unfold RegistryState.outstanding at positive ⊢
  by_cases here : state.leases[index].workerId = worker ∧ state.leases[index].out = true
  · have := positive here
    simp only [if_pos here]
    omega
  · simp only [if_neg here]
    omega

/-- A lease is marked, and still out. -/
theorem Counted.marks {index : Nat} {lease changed : BackendLease} (counted : Counted state history)
    (found : state.leases[index]? = some lease) (mine : changed.workerId = lease.workerId) (out : lease.out = true)
    (still : changed.out = true) (held : changed.releasing = true → changed.released = true) :
    Counted { state with leases := state.leases.set index changed } history := by
  have member : lease ∈ state.leases := List.mem_of_getElem? found
  refine ⟨counted.distinct,counted.gpus,?_,?_,?_,?_,?_,counted.silent⟩
  · intro worker there
    have counts := counted.counts worker there
    have same := outstanding_set changed found mine worker.workerId
    simp only [out,still] at same
    unfold RegistryState.outstanding at counts same ⊢
    dsimp only
    omega
  · intro other there outside
    rcases List.mem_or_eq_of_mem_set there with before | rfl
    · exact counted.homed other before outside
    · rw [mine]
      exact counted.homed lease member out
  · intro other there releasing
    rcases List.mem_or_eq_of_mem_set there with before | rfl
    · exact counted.held other before releasing
    · exact held releasing
  · intro position other there
    have lowered := counted.lowered index lease found
    rw [List.getElem?_set] at there
    split at there
    · rename_i here
      subst here
      split_ifs at there
      cases there
      rw [lowered,out,still]
    · exact counted.lowered position other there
  · intro position beyond
    exact counted.fresh position (by simpa using beyond)

/-- The registry takes a lease back, and lowers the count of its worker. -/
theorem Counted.lowers {index : Nat} {lease : BackendLease} (counted : Counted state history)
    (found : state.leases[index]? = some lease) (releasing : lease.releasing = true) :
    state.workers.release lease.workerId = .ok (state.workers.adjust lease.workerId .giveBack) ∧
      Counted ⟨state.workers.adjust lease.workerId .giveBack,state.leases.set index { lease with releasing := false }⟩
        (history ++ [.lowered index]) := by
  have member : lease ∈ state.leases := List.mem_of_getElem? found
  have released := counted.held lease member releasing
  have out : lease.out = true := by simp [BackendLease.out,releasing]
  have back : ({ lease with releasing := false } : BackendLease).out = false := by simp [BackendLease.out,released]
  obtain ⟨owner,there,named⟩ := counted.homed lease member out
  have positive : 0 < state.outstanding lease.workerId := List.countP_pos_iff.mpr ⟨lease,member,by simp [out]⟩
  have names : (state.workers.adjust lease.workerId .giveBack).map RegisteredWorker.workerId =
      state.workers.map RegisteredWorker.workerId := Workers.adjust_map fun _ _ _ => rfl
  refine ⟨?_,?_⟩
  · obtain ⟨registered,looked⟩ := Workers.worker_found there
    obtain ⟨present,same⟩ := Workers.worker_ok looked
    have counts := counted.counts registered present
    rw [same,named] at counts
    have some : ¬registered.activeLeases = 0 := by omega
    rw [named] at looked
    simp [Workers.release,looked,some,bind,Except.bind,pure,Except.pure]
  constructor
  · rw [names]
    exact counted.distinct
  · rw [show (state.workers.adjust lease.workerId .giveBack).map RegisteredWorker.gpuId =
      state.workers.map RegisteredWorker.gpuId from Workers.adjust_map fun _ _ _ => rfl]
    exact counted.gpus
  · intro worker after
    obtain ⟨before,here,rfl⟩ := Workers.mem_adjust.mp after
    have counts := counted.counts before here
    have one := outstanding_set { lease with releasing := false } found rfl before.workerId
    simp only [out,back] at one
    unfold RegistryState.outstanding at counts one ⊢
    by_cases mine : before.workerId = lease.workerId
    · rw [if_pos mine,show before.giveBack.workerId = before.workerId from rfl,
        show before.giveBack.activeLeases = before.activeLeases - 1 from rfl]
      simp only [mine,true_and,if_true,Bool.false_eq_true,and_false,if_false] at one counts ⊢
      omega
    · rw [if_neg mine]
      simp only [Ne.symm mine,false_and,if_false] at one ⊢
      omega
  · intro other inside outside
    rcases List.mem_or_eq_of_mem_set inside with earlier | rfl
    · obtain ⟨worker,here,same⟩ := counted.homed other earlier outside
      have kept : worker.workerId ∈ (state.workers.adjust lease.workerId .giveBack).map RegisteredWorker.workerId := by
        rw [names]
        exact List.mem_map_of_mem here
      obtain ⟨found,there,again⟩ := List.mem_map.mp kept
      exact ⟨found,there,again.trans same⟩
    · rw [back] at outside
      cases outside
  · intro other inside held
    rcases List.mem_or_eq_of_mem_set inside with earlier | rfl
    · exact counted.held other earlier held
    · cases held
  · intro position other inside
    have lowered := counted.lowered index lease found
    rw [List.count_append,List.count_singleton]
    rw [List.getElem?_set] at inside
    split at inside
    · rename_i here
      subst here
      split_ifs at inside
      cases inside
      rw [lowered,out,back]
      simp
    · rename_i apart
      rw [counted.lowered position other inside]
      simp [apart]
  · intro position beyond
    have within := (List.getElem?_eq_some_iff.mp found).1
    simp only [List.length_set] at beyond
    rw [List.count_append,counted.fresh position beyond,List.count_singleton]
    have apart : index ≠ position := by omega
    simp [apart]
  · intro position error inside
    rcases List.mem_append.mp inside with earlier | now
    · exact counted.silent position error earlier
    · cases List.mem_singleton.mp now

theorem Counted.settles {outcome : Except PyError Workers} (counted : Counted state history)
    (done : ∀ workers, outcome = .ok workers → Counted { state with workers := workers } history) :
    Counted (state.settle outcome) history := by
  cases outcome with
  | ok workers => exact done workers rfl
  | error error => exact counted

theorem Counted.step {action : RegistryAction} (counted : Counted state history) (stepped : state.step action = some next) :
    Counted next (history ++ state.observe action next) := by
  have quiet : state.observe action next = [] → Counted next history → Counted next (history ++ state.observe action next) := by
    intro nothing kept
    rw [nothing,List.append_nil]
    exact kept
  cases action with
  | register capabilities =>
    cases stepped
    exact quiet rfl (counted.settles fun _ done => counted.registers done)
  | markReady worker ready error =>
    cases stepped
    refine quiet rfl (counted.settles fun _ done => ?_)
    obtain rfl := Workers.markReady_ok done
    exact counted.reworks (Workers.adjust_map fun _ _ _ => rfl)
  | acquire filters =>
    refine quiet rfl ?_
    simp only [RegistryState.step] at stepped
    split at stepped
    · rename_i worker workers done
      cases stepped
      obtain ⟨rfl,chosen,member,named,_⟩ := Workers.acquire_ok done
      exact counted.grants ⟨chosen,member,named⟩
    · cases stepped
      exact counted
  | release index =>
    refine quiet rfl ?_
    simp only [RegistryState.step] at stepped
    split at stepped
    · cases stepped
    · rename_i lease found
      split_ifs at stepped with busy done
      · cases stepped
        exact counted
      · cases stepped
        exact counted.marks found rfl (by simp [BackendLease.out,done]) (by simp [BackendLease.out]) fun _ => rfl
  | lower index =>
    simp only [RegistryState.step] at stepped
    split at stepped
    · cases stepped
    · rename_i lease found
      split_ifs at stepped with busy
      cases stepped
      obtain ⟨lowers,lowered⟩ := counted.lowers found busy
      simp only [RegistryState.observe,found,lowers,RegistryState.settle]
      exact lowered
  | beginDrain worker =>
    cases stepped
    refine quiet rfl (counted.settles fun _ done => ?_)
    obtain rfl := Workers.beginDrain_ok done
    exact counted.reworks (Workers.adjust_map fun _ _ _ => rfl)
  | remove worker =>
    cases stepped
    exact quiet rfl (counted.settles fun _ done => (counted.removes done).2)

/-- A worker that stays registered over a step keeps its identity. -/
theorem Counted.identity {action : RegistryAction} {worker kept : RegisteredWorker} (counted : Counted state history)
    (stepped : state.step action = some next) (member : worker ∈ state.workers) (remains : kept ∈ next.workers)
    (same : kept.workerId = worker.workerId) : kept.identity = worker.identity := by
  have settled : ∀ outcome : Except PyError Workers, kept ∈ (state.settle outcome).workers →
      (∀ workers, outcome = .ok workers → kept ∈ workers → kept.identity = worker.identity) →
      kept.identity = worker.identity := by
    intro outcome remains done
    cases outcome with
    | ok workers => exact done workers rfl remains
    | error error => rw [counted.unique remains member same]
  have adjusted : ∀ (id : WorkerId) (change : RegisteredWorker → RegisteredWorker),
      (∀ before, (change before).identity = before.identity) → kept ∈ state.workers.adjust id change →
      kept.identity = worker.identity := by
    intro id change keeps remains
    obtain ⟨before,there,rfl⟩ := Workers.mem_adjust.mp remains
    have named : before.workerId = worker.workerId := by
      rw [← same]
      split
      · exact (congrArg Prod.fst (keeps before)).symm
      · rfl
    rw [← counted.unique there member named]
    split
    · exact keeps before
    · rfl
  cases action with
  | register capabilities =>
    cases stepped
    refine settled _ remains fun workers done remains => ?_
    rcases Workers.register_ok done with ⟨current,here,named,identity,rfl⟩ | ⟨new,rfl⟩
    · obtain ⟨before,there,rfl⟩ := Workers.mem_adjust.mp remains
      by_cases again : before.workerId = capabilities.workerId
      · rw [if_pos again] at same ⊢
        have owner : worker = current := counted.unique member here (same.symm.trans named.symm)
        rw [owner]
        exact identity.symm
      · rw [if_neg again] at same ⊢
        rw [counted.unique there member same]
    · rcases List.mem_append.mp remains with before | now
      · rw [counted.unique before member same]
      · obtain rfl := List.mem_singleton.mp now
        exact absurd same.symm (new worker member).1
  | markReady id ready error =>
    cases stepped
    refine settled _ remains fun workers done remains => ?_
    obtain rfl := Workers.markReady_ok done
    exact adjusted id (.mark ready error) (fun _ => rfl) remains
  | acquire filters =>
    simp only [RegistryState.step] at stepped
    split at stepped
    · rename_i id workers done
      cases stepped
      obtain ⟨rfl,_⟩ := Workers.acquire_ok done
      exact adjusted id .grant (fun _ => rfl) remains
    · cases stepped
      rw [counted.unique remains member same]
  | release index =>
    simp only [RegistryState.step] at stepped
    split at stepped
    · cases stepped
    · split_ifs at stepped
      · cases stepped
        rw [counted.unique remains member same]
      · cases stepped
        rw [counted.unique remains member same]
  | lower index =>
    simp only [RegistryState.step] at stepped
    split at stepped
    · cases stepped
    · rename_i lease found
      split_ifs at stepped with busy
      cases stepped
      rw [(counted.lowers found busy).1] at remains
      exact adjusted lease.workerId .giveBack (fun _ => rfl) remains
  | beginDrain id =>
    cases stepped
    refine settled _ remains fun workers done remains => ?_
    obtain rfl := Workers.beginDrain_ok done
    exact adjusted id .drain (fun _ => rfl) remains
  | remove id =>
    cases stepped
    refine settled _ remains fun workers done remains => ?_
    obtain ⟨rfl,_⟩ := Workers.remove_ok done
    rw [counted.unique (List.mem_filter.mp remains).1 member same]

end Counting

/-! ## Every run -/

section Runs
variable {state final : RegistryState} {history later : List RegistryEvent}

theorem run_counted {actions : List RegistryAction} (counted : Counted state history)
    (ran : Machine.run RegistryState.tracedStep (state,history) actions = some (final,later)) : Counted final later := by
  refine Machine.invariant RegistryState.tracedStep (fun traced => Counted traced.1 traced.2) ?_ counted ran
  intro traced action next counted stepped
  obtain ⟨after,moved,rfl⟩ := (Machine.observed_eq_some _ _).mp stepped
  exact counted.step moved

/-- The worker with this id is registered. -/
def Registered (id : WorkerId) (traced : RegistryState × List RegistryEvent) (_ : RegistryAction) : Prop :=
  ∃ worker ∈ traced.1.workers, worker.workerId = id

theorem run_identity {actions : List RegistryAction} {worker kept : RegisteredWorker} (counted : Counted state history)
    (member : worker ∈ state.workers)
    (stays : Machine.Along RegistryState.tracedStep (Registered worker.workerId) (state,history) actions)
    (ran : Machine.run RegistryState.tracedStep (state,history) actions = some (final,later))
    (remains : kept ∈ final.workers) (same : kept.workerId = worker.workerId) : kept.identity = worker.identity := by
  refine (Machine.invariant_along RegistryState.tracedStep (fun traced => Counted traced.1 traced.2 ∧
    ∀ kept ∈ traced.1.workers, kept.workerId = worker.workerId → kept.identity = worker.identity) ?_ ⟨counted,?_⟩ stays ran).2
    kept remains same
  · rintro traced action next ⟨counted,identified⟩ ⟨owner,there,named⟩ stepped
    obtain ⟨after,moved,rfl⟩ := (Machine.observed_eq_some _ _).mp stepped
    refine ⟨counted.step moved,fun kept remains same => ?_⟩
    rw [counted.identity moved there remains (same.trans named.symm)]
    exact identified owner there named
  · intro kept remains same
    rw [counted.unique remains member same]

/-- In every state that the registry reaches: a worker counts the leases granted on it and not given back, a lease
    lowers a count once, when its release is done, and its release never raises; a worker is
    removed only without leases; a worker that gets a lease is ready, warmed, below its capacity and
    passes every filter; no two workers share a GPU; and a worker keeps its identity while it is
    registered. -/
theorem leases_accounted (actions : List RegistryAction) (state : RegistryState) (history : List RegistryEvent)
    (ran : Machine.run RegistryState.tracedStep ({},[]) actions = some (state,history)) :
    (∀ worker ∈ state.workers, worker.activeLeases = state.outstanding worker.workerId) ∧
    (∀ (index : Nat) (lease : BackendLease), state.leases[index]? = some lease →
      history.count (.lowered index) = if lease.released && !lease.releasing then 1 else 0) ∧
    (∀ index error, RegistryEvent.raised index error ∉ history) ∧
    (∀ worker workers, state.workers.remove worker = .ok workers → state.outstanding worker = 0) ∧
    (∀ filters worker workers, state.workers.acquire filters = .ok (worker,workers) → ∃ chosen ∈ state.workers,
      chosen.workerId = worker ∧ chosen.snapshot.lifecycle = .ready ∧ chosen.snapshot.capabilities.warmed = true ∧
        chosen.activeLeases < chosen.snapshot.capabilities.sessionCapacity ∧
        filters.Matches chosen.snapshot.capabilities) ∧
    (state.workers.map RegisteredWorker.gpuId).Nodup ∧
    ∀ worker ∈ state.workers, ∀ (later : List RegistryAction) (final : RegistryState) (events : List RegistryEvent),
      Machine.Along RegistryState.tracedStep (Registered worker.workerId) (state,history) later →
      Machine.run RegistryState.tracedStep (state,history) later = some (final,events) →
      ∀ kept ∈ final.workers, kept.workerId = worker.workerId → kept.identity = worker.identity := by
  have counted := run_counted init_counted ran
  refine ⟨counted.counts,?_,counted.silent,fun _ _ removed => (counted.removes removed).1,?_,counted.gpus,?_⟩
  · intro index lease found
    rw [counted.lowered index lease found]
    have held := counted.held lease (List.mem_of_getElem? found)
    cases released : lease.released <;> cases releasing : lease.releasing <;>
      simp_all [BackendLease.out]
  · intro filters worker workers acquired
    obtain ⟨_,chosen,member,named,admitted⟩ := Workers.acquire_ok acquired
    obtain ⟨accepting,passes⟩ := (filters.admits_iff chosen).mp admitted
    simp only [BackendSnapshot.accepting,Bool.and_eq_true,decide_eq_true_eq] at accepting
    obtain ⟨⟨⟨ready,warmed⟩,room⟩,_⟩ := accepting
    exact ⟨chosen,member,named,ready,warmed,room,passes⟩
  · intro worker member later final events stays ran kept remains same
    exact run_identity counted member stays ran remains same

end Runs

def exampleCapabilities : RegisteredCapabilities where
  toBackendCapabilities := { Backends.oneSample with modelRevision := ['r'] }
  workerId := ['w']
  backendId := []
  modelId := ['m']
  languages := [['a']]
  tasks := [['t']]
  streamingMode := .rolling
  maxInFlight := 1
  sessionCapacity := 1
  warmed := true
  gpuId := ['g']

/-- Two releases of one lease overlap, the worker is removed and registered anew, and the lease is
    released once more. -/
def overlappingReleases : List RegistryAction :=
  [.register exampleCapabilities,.markReady ['w'] true none,.acquire { language := some ['a'] },.acquire {},.release 0,
    .remove ['w'],.lower 0,.release 0,.remove ['w'],.register exampleCapabilities,.release 0]

theorem leases_accounted_overlapping : ∃ state history,
    Machine.run RegistryState.tracedStep ({},[]) overlappingReleases = some (state,history) ∧
      state.leases = [⟨['w'],true,false⟩] ∧ history.count (.lowered 0) = 1 ∧
      ∀ worker ∈ state.workers, worker.activeLeases = state.outstanding worker.workerId := by
  have runs : (Machine.run RegistryState.tracedStep ({},[]) overlappingReleases).any (fun traced =>
      decide (traced.1.leases = [⟨['w'],true,false⟩])) = true := by decide +kernel
  obtain ⟨⟨state,history⟩,ran,leases⟩ := (Option.any_eq_true _ _).mp runs
  have released : state.leases = [⟨['w'],true,false⟩] := of_decide_eq_true leases
  obtain ⟨counts,lowered,_⟩ := leases_accounted overlappingReleases state history ran
  exact ⟨state,history,ran,released,lowered 0 ⟨['w'],true,false⟩ (by rw [released]; rfl),counts⟩

end SpeechGateway.Registry
