import SpeechGateway.Accounts

/-!
A worker whose submission fails is stopped. From the failed submission on, its queue takes no
job, its adapter is not called, and what it still holds is settled with errors: the jobs of
its queue are all rejected before anything is published (`worker_stops`).
-/
namespace SpeechGateway.FailStop
open SpeechGateway.Scheduling SpeechGateway.Settlement GatewayScheduler

/-- What `run_once` of a worker calls. -/
inductive WorkerCall
  | submit (batch : List InferenceJob)
  | reject (job : InferenceJob)
  | workerFailed (reason : String)
  | publish (settlement : Settlement)
  deriving DecidableEq

/-- The call in which a stage is suspended. -/
def entered : Stage → List WorkerCall
  | .rejectExpired _ item _ | .rejectCancelled _ item _ | .drainReject item _ _ _ _ => [.reject item]
  | .submitting batch => [.submit batch]
  | .workerFailed _ _ => [.workerFailed "submit_failed"]
  | .cleanupFailed _ _ _ => [.workerFailed "cleanup_failed"]
  | .publishExpired _ item _ => [.publish (item,.failure item "queue_timeout")]
  | .publishCleanupFailed item _ _ => [.publish (item,.failure item "cleanup_failed")]
  | .publish current _ _ | .publishFailures current _ => [.publish current]
  | .idle | .drainDiscard .. | .cleanup .. | .discard .. => []

/-- A call of a worker, or what a step for a worker adds to `_queued_samples`. -/
inductive WorkerEvent
  | called (worker : WorkerId) (call : WorkerCall)
  | counted (worker : WorkerId) (samples : Int)
  deriving DecidableEq

/-- The worker that an action is for. -/
def SchedulerAction.worker : SchedulerAction → Option WorkerId
  | .enqueue job _ => some job.workerId
  | .runOnce worker _ _ | .resume worker _ _ => some worker
  | .cancelSession _ | .close => none

/-- The calls that a step makes. -/
def callsMade (action : SchedulerAction) (next : GatewayScheduler) : List WorkerEvent :=
  match action with
  | .runOnce worker _ _ | .resume worker _ _ => (entered (next.stages worker)).map (.called worker)
  | _ => []

def watch (scheduler : GatewayScheduler) (action : SchedulerAction) (next : GatewayScheduler) : List WorkerEvent :=
  callsMade action next ++
    (SchedulerAction.worker action).toList.map fun worker => .counted worker (next.queuedSamples - scheduler.queuedSamples)

def watchedStep (config : SchedulerConfig) (rejectSuspends : Bool) :
    GatewayScheduler × List WorkerEvent → SchedulerAction → Option (GatewayScheduler × List WorkerEvent) :=
  Machine.observed (GatewayScheduler.step config rejectSuspends) watch

/-- What the worker has added to `_queued_samples` over a history. -/
def contribution (worker : WorkerId) : List WorkerEvent → Int
  | [] => 0
  | .called _ _ :: rest => contribution worker rest
  | .counted other samples :: rest => (if other = worker then samples else 0) + contribution worker rest

/-- The submission raises, times out, or answers with a wrong number of results or a malformed one. -/
def SubmissionFails (batch : List InferenceJob) : Reply → Prop
  | .raised _ => True
  | .results raw => raw.length ≠ batch.length ∨ raw.any Option.isNone = true
  | .done | .stale => False

/-- Only this worker's queue and stage change, and no failure is reported. -/
structure Keeps (scheduler : GatewayScheduler) (worker : WorkerId) (next : GatewayScheduler) : Prop where
  failures : next.submitFailures = scheduler.submitFailures
  queues : ∀ other, other ≠ worker → next.queues other = scheduler.queues other
  stages : ∀ other, other ≠ worker → next.stages other = scheduler.stages other
  unreported : ∀ batch error, next.stages worker ≠ .workerFailed batch error

section Parts
variable (config : SchedulerConfig) (scheduler : GatewayScheduler) (worker : WorkerId)

theorem setStage_keeps {stage : Stage} (quiet : ∀ batch error, stage ≠ .workerFailed batch error) :
    Keeps scheduler worker (scheduler.setStage worker stage) :=
  ⟨rfl,fun _ _ => rfl,fun other distinct => setStage_other _ _ _ _ distinct,by simpa using quiet⟩

theorem nextFailure_keeps (failures : List Settlement) : Keeps scheduler worker (scheduler.nextFailure worker failures) := by
  cases failures <;> exact setStage_keeps scheduler worker (by simp)

theorem nextSettlement_keeps (failures settlements : List Settlement) :
    Keeps scheduler worker (scheduler.nextSettlement worker failures settlements) := by
  cases settlements with
  | nil => exact nextFailure_keeps scheduler worker failures
  | cons current rest => exact setStage_keeps scheduler worker (by simp)

theorem settle_keeps (settlements failures : List Settlement) :
    Keeps scheduler worker (scheduler.settle worker settlements failures) := by
  obtain ⟨failed,queues,stages,quiet⟩ := nextSettlement_keeps
    { scheduler with queuedSamples := scheduler.queuedSamples - totalSamples (jobsOf settlements) } worker failures settlements
  exact ⟨failed,queues,stages,quiet⟩

theorem nextDrain_keeps (failures : List Settlement) (batch : List InferenceJob) (error : String) (jobs : List InferenceJob) :
    Keeps scheduler worker (scheduler.nextDrain worker failures batch error jobs) := by
  cases jobs with
  | nil => exact settle_keeps scheduler worker _ failures
  | cons item rest => exact setStage_keeps scheduler worker (by simp)

theorem drainFailedQueue_keeps (batch : List InferenceJob) (error : String) :
    Keeps scheduler worker (scheduler.drainFailedQueue worker batch error) := by
  obtain ⟨failed,queues,stages,quiet⟩ := nextDrain_keeps
    { scheduler.setQueue worker [] with
      queuedSamples := scheduler.queuedSamples - totalSamples (scheduler.queues worker) }
    worker [] batch error (scheduler.queues worker)
  exact ⟨failed,fun other distinct => (queues other distinct).trans (setQueue_other _ _ _ _ distinct),stages,quiet⟩

theorem dispatch_keeps (force : Bool) (now : Time) : Keeps scheduler worker (scheduler.dispatch config worker force now) := by
  unfold dispatch
  dsimp only
  split
  · exact ⟨rfl,fun other distinct => setQueue_other _ _ _ _ distinct,fun other distinct => setStage_other _ _ _ _ distinct,
      by simp⟩
  · obtain ⟨queues,stages,_,_,_,failed,_⟩ := acceptAll_keeps
      (selectBatch config worker force now ((scheduler.queues worker).insertionSort (earlier · ·))) scheduler
    split
    · refine ⟨failed,fun other distinct => ?_,fun other distinct => ?_,by simp⟩
      · exact (setQueue_other _ _ _ _ distinct).trans (congrFun queues other)
      · exact (setStage_other _ _ _ _ distinct).trans (congrFun stages other)
    · refine ⟨failed,fun other distinct => ?_,fun other distinct => ?_,by simp⟩
      · exact (setQueue_other _ _ _ _ distinct).trans (congrFun queues other)
      · exact (setStage_other _ _ _ _ distinct).trans (congrFun stages other)

theorem remove_keeps (item : InferenceJob) {stage : Stage} (quiet : ∀ batch error, stage ≠ .workerFailed batch error) :
    Keeps scheduler worker ((scheduler.remove worker item).setStage worker stage) :=
  ⟨rfl,fun other distinct => setQueue_other _ _ _ _ distinct,fun other distinct => setStage_other _ _ _ _ distinct,
    by simpa using quiet⟩

theorem nextCancelled_keeps (force : Bool) (now : Time) (claims : List InferenceJob) :
    Keeps scheduler worker (scheduler.nextCancelled config worker force now claims) := by
  cases claims with
  | nil =>
    simp only [nextCancelled]
    split
    · exact setStage_keeps scheduler worker (by simp)
    · exact dispatch_keeps config scheduler worker force now
  | cons item rest => exact remove_keeps scheduler worker item (by simp)

theorem nextExpired_keeps (force : Bool) (now : Time) (claims : List InferenceJob) :
    Keeps scheduler worker (scheduler.nextExpired config worker force now claims) := by
  cases claims with
  | nil =>
    simp only [nextExpired]
    split
    · exact setStage_keeps scheduler worker (by simp)
    · exact nextCancelled_keeps config scheduler worker force now _
  | cons item rest => exact remove_keeps scheduler worker item (by simp)

theorem runOnce_keeps (force : Bool) (now : Time) : Keeps scheduler worker (scheduler.runOnce config worker force now) := by
  unfold runOnce
  split
  · exact drainFailedQueue_keeps scheduler worker [] ""
  split
  · exact setStage_keeps scheduler worker (by simp)
  · exact nextExpired_keeps config scheduler worker force now _

theorem markSafe_failures (item : InferenceJob) : (scheduler.markSafe item).submitFailures = scheduler.submitFailures := by
  unfold markSafe
  split <;> rfl

theorem markSafe_settles (item : InferenceJob) {next : GatewayScheduler} (kept : Keeps (scheduler.markSafe item) worker next) :
    Keeps scheduler worker next := by
  obtain ⟨queues,stages,_⟩ := markSafe_keeps scheduler item
  exact ⟨kept.failures.trans (markSafe_failures scheduler item),
    fun other distinct => (kept.queues other distinct).trans (congrFun queues other),
    fun other distinct => (kept.stages other distinct).trans (congrFun stages other),kept.unreported⟩

/-- The first failure of the worker is noted and reported. -/
structure Reports (next : GatewayScheduler) (batch : List InferenceJob) : Prop where
  healthy : scheduler.submitFailures worker = none
  queues : next.queues = scheduler.queues
  samples : next.queuedSamples = scheduler.queuedSamples
  reports : ∃ error, next.submitFailures = Function.update scheduler.submitFailures worker (some error) ∧
    next.stages = Function.update scheduler.stages worker (.workerFailed batch error)

theorem failBatch_cases (batch : List InferenceJob) (typeName : String) :
    (scheduler.submitFailures worker = none → Reports scheduler worker (scheduler.failBatch worker batch typeName) batch) ∧
      (scheduler.submitFailures worker ≠ none → Keeps scheduler worker (scheduler.failBatch worker batch typeName)) := by
  constructor
  · intro healthy
    unfold failBatch
    simp only [healthy,Option.isSome_none,Bool.false_eq_true,if_false]
    exact ⟨healthy,rfl,rfl,_,rfl,rfl⟩
  · intro failed
    have noted : (scheduler.submitFailures worker).isSome = true := Option.isSome_iff_ne_none.mpr failed
    unfold failBatch
    simp only [noted,if_true]
    exact drainFailedQueue_keeps scheduler worker batch _

end Parts

/-- `run_once` goes on: it keeps what is not this worker's, or reports its failed submission. -/
theorem resume_cases {config : SchedulerConfig} {scheduler next : GatewayScheduler} {worker : WorkerId} {reply : Reply}
    {now : Time} (resumed : scheduler.resume config worker reply now = some next) :
    Keeps scheduler worker next ∨ ∃ batch, scheduler.stages worker = .submitting batch ∧ SubmissionFails batch reply ∧
      Reports scheduler worker next batch := by
  have fails : ∀ batch typeName, scheduler.stages worker = .submitting batch → SubmissionFails batch reply →
      Keeps scheduler worker (scheduler.failBatch worker batch typeName) ∨
        ∃ held, scheduler.stages worker = .submitting held ∧ SubmissionFails held reply ∧
          Reports scheduler worker (scheduler.failBatch worker batch typeName) held := by
    intro batch typeName stands raised
    by_cases healthy : scheduler.submitFailures worker = none
    · exact .inr ⟨batch,stands,raised,(failBatch_cases scheduler worker batch typeName).1 healthy⟩
    · exact .inl ((failBatch_cases scheduler worker batch typeName).2 healthy)
  cases stage : scheduler.stages worker <;> cases reply <;>
    simp only [resume,stage,Option.some.injEq,reduceCtorEq] at resumed <;> subst resumed
  case submitting.raised batch typeName =>
    rw [stage] at fails
    exact fails batch typeName rfl trivial
  case submitting.results batch raw =>
    rw [stage] at fails
    unfold submitted
    split
    · rename_i counted
      exact fails batch _ rfl (.inl counted)
    split
    · rename_i malformed
      exact fails batch _ rfl (.inr malformed)
    · exact .inl (settle_keeps scheduler worker _ [])
  case publishExpired.done => exact .inl (nextExpired_keeps config scheduler worker _ now _)
  case rejectCancelled.done => exact .inl (nextCancelled_keeps config scheduler worker _ now _)
  case rejectCancelled.stale => exact .inl (nextCancelled_keeps config scheduler worker _ now _)
  case rejectCancelled.raised => exact .inl (nextCancelled_keeps config scheduler worker _ now _)
  case workerFailed.done => exact .inl (drainFailedQueue_keeps scheduler worker _ _)
  case drainReject.done =>
    left
    unfold drained
    split
    · exact setStage_keeps scheduler worker (by simp)
    · exact nextDrain_keeps scheduler worker _ _ _ _
  case drainDiscard.done => exact .inl (nextDrain_keeps scheduler worker _ _ _ _)
  case cleanup.done =>
    left
    unfold cleaned
    dsimp only
    split
    · exact setStage_keeps scheduler worker (by simp)
    · exact setStage_keeps scheduler worker (by simp)
  case cleanup.raised =>
    left
    split
    · exact setStage_keeps scheduler worker (by simp)
    · exact setStage_keeps scheduler worker (by simp)
  case discard.done item rest failures =>
    exact .inl (markSafe_settles scheduler worker item (nextSettlement_keeps _ worker failures rest))
  case publishCleanupFailed.done item rest failures =>
    exact .inl (markSafe_settles scheduler worker item (nextSettlement_keeps _ worker failures rest))
  case publish.done current rest failures =>
    exact .inl (markSafe_settles scheduler worker current.1 (nextSettlement_keeps _ worker failures rest))
  case discard.stale item rest failures =>
    exact .inl (markSafe_settles scheduler worker item (setStage_keeps _ worker (by simp)))
  case discard.raised item rest failures typeName =>
    exact .inl (markSafe_settles scheduler worker item (setStage_keeps _ worker (by simp)))
  case publish.stale current rest failures =>
    exact .inl (markSafe_settles scheduler worker current.1 (setStage_keeps _ worker (by simp)))
  case publish.raised current rest failures typeName =>
    exact .inl (markSafe_settles scheduler worker current.1 (setStage_keeps _ worker (by simp)))
  case publishFailures.done => exact .inl (nextFailure_keeps scheduler worker _)
  -- what is left goes on to one suspension, or ends the call
  all_goals exact .inl (setStage_keeps scheduler worker (by simp))

/-! ## A stopped worker -/

/-- The job was offered to `reject`. -/
def Rejected (worker : WorkerId) (calls : List WorkerEvent) (job : InferenceJob) : Prop :=
  .called worker (.reject job) ∈ calls

/-- What a stopped worker goes on with, where `queued` were the jobs of its queue when it failed. All of
    them are rejected before anything is published, and everything left is an error. With `quiet`,
    `worker_failed` and the `discard` of a drained job return. -/
def Stopped (quiet : Bool) (worker : WorkerId) (queued queue : List InferenceJob) (calls : List WorkerEvent) : Stage → Prop
  | .idle => queue = [] ∨ quiet = false ∧ queue = queued
  | .workerFailed _ _ => queue = queued
  | .drainReject _ rest failures _ _ | .drainDiscard _ rest failures _ _ =>
    queue = [] ∧ (∀ job ∈ queued, job ∈ rest ∨ Rejected worker calls job) ∧ Failing failures
  | .cleanup current rest failures | .publish current rest failures =>
    queue = [] ∧ (∀ job ∈ queued, Rejected worker calls job) ∧ Failing (current :: rest) ∧ Failing failures
  | .discard _ rest failures | .cleanupFailed _ rest failures | .publishCleanupFailed _ rest failures =>
    queue = [] ∧ (∀ job ∈ queued, Rejected worker calls job) ∧ Failing rest ∧ Failing failures
  | .publishFailures current rest =>
    queue = [] ∧ (∀ job ∈ queued, Rejected worker calls job) ∧ Failing (current :: rest)
  | .rejectExpired .. | .publishExpired .. | .rejectCancelled .. | .submitting _ => False

/-- The calls made on the way to the stage. -/
def onward (worker : WorkerId) (calls : List WorkerEvent) (stage : Stage) : List WorkerEvent :=
  calls ++ (entered stage).map (.called worker)

section Stopping
variable {quiet : Bool} (scheduler : GatewayScheduler) {worker : WorkerId} {queued queue : List InferenceJob} {calls : List WorkerEvent}

theorem Rejected.onward {job : InferenceJob} (rejected : Rejected worker calls job) (stage : Stage) :
    Rejected worker (onward worker calls stage) job := List.mem_append_left _ rejected

/-- More calls do no harm. -/
theorem Stopped.mono {stage : Stage} {more : List WorkerEvent} (stopped : Stopped quiet worker queued queue calls stage)
    (grows : calls ⊆ more) : Stopped quiet worker queued queue more stage := by
  unfold Stopped at stopped ⊢
  cases stage <;> simp only at stopped ⊢
  case idle | workerFailed => exact stopped
  case drainReject | drainDiscard =>
    obtain ⟨empty,all,failing⟩ := stopped
    exact ⟨empty,fun job member => (all job member).imp_right fun rejected => grows rejected,failing⟩
  case cleanup | publish | discard | cleanupFailed | publishCleanupFailed | publishFailures =>
    obtain ⟨empty,all,failing⟩ := stopped
    exact ⟨empty,fun job member => grows (all job member),failing⟩

theorem nextFailure_stopped {failures : List Settlement} (empty : scheduler.queues worker = [])
    (all : ∀ job ∈ queued, Rejected worker calls job) (failing : Failing failures) :
    let next := scheduler.nextFailure worker failures
    Stopped quiet worker queued (next.queues worker) (onward worker calls (next.stages worker)) (next.stages worker) := by
  cases failures with
  | nil =>
    simp only [nextFailure,setStage_stage,setStage_queues]
    exact .inl empty
  | cons current rest =>
    simp only [nextFailure,setStage_stage,setStage_queues]
    exact ⟨empty,fun job member => (all job member).onward _,failing⟩

theorem nextSettlement_stopped {failures settlements : List Settlement} (empty : scheduler.queues worker = [])
    (all : ∀ job ∈ queued, Rejected worker calls job) (settled : Failing settlements) (failing : Failing failures) :
    let next := scheduler.nextSettlement worker failures settlements
    Stopped quiet worker queued (next.queues worker) (onward worker calls (next.stages worker)) (next.stages worker) := by
  cases settlements with
  | nil => exact nextFailure_stopped scheduler empty all failing
  | cons current rest =>
    simp only [nextSettlement,setStage_stage,setStage_queues]
    exact ⟨empty,fun job member => (all job member).onward _,settled,failing⟩

theorem nextDrain_stopped {failures : List Settlement} {batch jobs : List InferenceJob} {error : String}
    (empty : scheduler.queues worker = []) (all : ∀ job ∈ queued, job ∈ jobs ∨ Rejected worker calls job)
    (failing : Failing failures) :
    let next := scheduler.nextDrain worker failures batch error jobs
    Stopped quiet worker queued (next.queues worker) (onward worker calls (next.stages worker)) (next.stages worker) := by
  cases jobs with
  | nil =>
    refine nextSettlement_stopped { scheduler with
      queuedSamples := scheduler.queuedSamples - totalSamples (jobsOf (batch.map fun job => (job,.failure job error))) }
      empty (fun job member => (all job member).resolve_left (by simp)) ?_ failing
    intro settlement member
    obtain ⟨job,_,rfl⟩ := List.mem_map.mp member
    simp [InferenceResult.failure]
  | cons item rest =>
    simp only [nextDrain,setStage_stage,setStage_queues]
    refine ⟨empty,fun job member => ?_,failing⟩
    rcases all job member with waiting | rejected
    · rcases List.mem_cons.mp waiting with rfl | later
      · exact .inr (List.mem_append_right _ (by simp [entered]))
      · exact .inl later
    · exact .inr (rejected.onward _)

theorem drainFailedQueue_stopped {batch : List InferenceJob} {error : String}
    (all : ∀ job ∈ queued, job ∈ scheduler.queues worker ∨ Rejected worker calls job) :
    let next := scheduler.drainFailedQueue worker batch error
    Stopped quiet worker queued (next.queues worker) (onward worker calls (next.stages worker)) (next.stages worker) :=
  nextDrain_stopped { scheduler.setQueue worker [] with
    queuedSamples := scheduler.queuedSamples - totalSamples (scheduler.queues worker) }
    (setQueue_queue _ _ _) all (by simp [Failing])

/-- A later `run_once` of a stopped worker drains what is left of its queue. -/
theorem runOnce_stopped {config : SchedulerConfig} {force : Bool} {now : Time}
    (failed : (scheduler.submitFailures worker).isSome = true) (idle : scheduler.stages worker = .idle)
    (stopped : Stopped quiet worker queued (scheduler.queues worker) calls (scheduler.stages worker)) :
    let next := scheduler.runOnce config worker force now
    Stopped quiet worker queued (next.queues worker) (onward worker calls (next.stages worker)) (next.stages worker) := by
  simp only [runOnce,failed,if_true]
  rw [idle] at stopped
  rcases stopped with empty | ⟨_,same⟩
  · simp only [drainFailedQueue,empty,nextDrain,List.map_nil,settle,nextSettlement,nextFailure,setStage_stage]
    exact .inl (setQueue_queue _ _ _)
  · exact drainFailedQueue_stopped scheduler fun job member => .inl (by rwa [same])

theorem drained_stopped {item : InferenceJob} {rest batch : List InferenceJob} {failures : List Settlement} {error : String}
    (empty : scheduler.queues worker = []) (all : ∀ job ∈ queued, job ∈ rest ∨ Rejected worker calls job)
    (failing : Failing failures) :
    let next := scheduler.drained worker item rest failures batch error
    Stopped quiet worker queued (next.queues worker) (onward worker calls (next.stages worker)) (next.stages worker) := by
  unfold drained
  split
  · simp only [setStage_stage,setStage_queues]
    exact ⟨empty,fun job member => (all job member).imp_right fun rejected => rejected.onward _,failing⟩
  · refine nextDrain_stopped scheduler empty all ?_
    intro settlement member
    rcases List.mem_append.mp member with old | new
    · exact failing settlement old
    · cases List.mem_singleton.mp new
      simp [InferenceResult.failure]

theorem cleaned_stopped {current : Settlement} {rest failures : List Settlement} (empty : scheduler.queues worker = [])
    (all : ∀ job ∈ queued, Rejected worker calls job) (settled : Failing (current :: rest)) (failing : Failing failures) :
    let next := scheduler.cleaned worker current rest failures
    Stopped quiet worker queued (next.queues worker) (onward worker calls (next.stages worker)) (next.stages worker) := by
  have later : Failing rest := fun settlement member => settled settlement (List.mem_cons_of_mem _ member)
  unfold cleaned
  dsimp only
  split <;> simp only [setStage_stage,setStage_queues]
  · exact ⟨empty,fun job member => (all job member).onward _,later,failing⟩
  · exact ⟨empty,fun job member => (all job member).onward _,settled,failing⟩

/-- The suspended `run_once` of a stopped worker goes on. -/
theorem resume_stopped {config : SchedulerConfig} {next : GatewayScheduler} {reply : Reply} {now : Time}
    (failed : (scheduler.submitFailures worker).isSome = true)
    (stopped : Stopped quiet worker queued (scheduler.queues worker) calls (scheduler.stages worker))
    (returns : quiet = true → ∀ batch error, scheduler.stages worker = .workerFailed batch error → reply = .done)
    (resumed : scheduler.resume config worker reply now = some next) :
    Stopped quiet worker queued (next.queues worker) (onward worker calls (next.stages worker)) (next.stages worker) := by
  have marked : ∀ item, (scheduler.markSafe item).queues worker = scheduler.queues worker := fun item =>
    congrFun (markSafe_keeps scheduler item).1 worker
  have tail : ∀ {current : Settlement} {rest : List Settlement}, Failing (current :: rest) → Failing rest :=
    fun settled settlement member => settled settlement (List.mem_cons_of_mem _ member)
  have ends : ∀ ended : GatewayScheduler, ended.queues worker = [] →
      Stopped quiet worker queued ((ended.setStage worker .idle).queues worker)
        (onward worker calls ((ended.setStage worker .idle).stages worker)) ((ended.setStage worker .idle).stages worker) := by
    intro ended empty
    simp only [setStage_stage,setStage_queues]
    exact .inl empty
  cases stage : scheduler.stages worker <;> rw [stage] at stopped returns <;> cases reply <;>
    simp only [resume,stage,failed,if_true,Option.some.injEq,reduceCtorEq] at resumed <;> subst resumed
  case rejectExpired.done | rejectExpired.stale | rejectExpired.raised | publishExpired.done | publishExpired.stale
    | publishExpired.raised | rejectCancelled.done | rejectCancelled.stale | rejectCancelled.raised
    | submitting.raised | submitting.results => exact stopped.elim
  case workerFailed.done =>
    exact drainFailedQueue_stopped scheduler fun job member => .inl (by
      rwa [show scheduler.queues worker = queued from stopped])
  case workerFailed.stale batch error =>
    simp only [setStage_stage,setStage_queues]
    refine .inr ⟨?_,stopped⟩
    cases quiet with
    | false => rfl
    | true => cases returns rfl batch error rfl
  case workerFailed.raised batch error typeName =>
    simp only [setStage_stage,setStage_queues]
    refine .inr ⟨?_,stopped⟩
    cases quiet with
    | false => rfl
    | true => cases returns rfl batch error rfl
  case drainReject.done => exact drained_stopped scheduler stopped.1 stopped.2.1 stopped.2.2
  case drainReject.stale | drainReject.raised =>
    simp only [setStage_stage,setStage_queues]
    exact ⟨stopped.1,fun job member => (stopped.2.1 job member).imp_right fun rejected => rejected.onward _,stopped.2.2⟩
  case drainDiscard.done => exact nextDrain_stopped scheduler stopped.1 stopped.2.1 stopped.2.2
  case cleanup.done => exact cleaned_stopped scheduler stopped.1 stopped.2.1 stopped.2.2.1 stopped.2.2.2
  case cleanup.stale | cleanup.raised =>
    simp only [setStage_stage,setStage_queues]
    exact ⟨stopped.1,fun job member => (stopped.2.1 job member).onward _,tail stopped.2.2.1,stopped.2.2.2⟩
  case cleanupFailed.done =>
    simp only [setStage_stage,setStage_queues]
    exact ⟨stopped.1,fun job member => (stopped.2.1 job member).onward _,stopped.2.2.1,stopped.2.2.2⟩
  case discard.done item rest failures =>
    exact nextSettlement_stopped _ ((marked item).trans stopped.1) stopped.2.1 stopped.2.2.1 stopped.2.2.2
  case publishCleanupFailed.done item rest failures =>
    exact nextSettlement_stopped _ ((marked item).trans stopped.1) stopped.2.1 stopped.2.2.1 stopped.2.2.2
  case publish.done current rest failures =>
    exact nextSettlement_stopped _ ((marked current.1).trans stopped.1) stopped.2.1 (tail stopped.2.2.1) stopped.2.2.2
  case publishFailures.done => exact nextFailure_stopped scheduler stopped.1 stopped.2.1 (tail stopped.2.2)
  case discard.stale item rest failures => exact ends _ ((marked item).trans stopped.1)
  case discard.raised item rest failures typeName => exact ends _ ((marked item).trans stopped.1)
  case publish.stale current rest failures => exact ends _ ((marked current.1).trans stopped.1)
  case publish.raised current rest failures typeName => exact ends _ ((marked current.1).trans stopped.1)
  -- what is left ends the call
  all_goals exact ends _ stopped.1

end Stopping

section Steps
variable {config : SchedulerConfig} {rejectSuspends : Bool} {scheduler next : GatewayScheduler} {action : SchedulerAction}
  {worker : WorkerId}

/-- A step for nobody, or for another worker. -/
theorem step_away (away : SchedulerAction.worker action ≠ some worker)
    (stepped : scheduler.step config rejectSuspends action = some next) :
    next.queues worker = scheduler.queues worker ∧ next.stages worker = scheduler.stages worker ∧
      next.submitFailures worker = scheduler.submitFailures worker := by
  unfold GatewayScheduler.step at stepped
  split at stepped
  · cases stepped
  cases action with
  | enqueue job now =>
    have unlike : worker ≠ job.workerId := fun same => away (congrArg some same.symm)
    cases accepted : scheduler.enqueue config now job with
    | error error =>
      simp only [accepted] at stepped
      cases stepped
      exact ⟨rfl,rfl,rfl⟩
    | ok after =>
      simp only [accepted] at stepped
      cases stepped
      obtain ⟨rfl,_⟩ := enqueue_ok accepted
      exact ⟨setQueue_other _ _ _ _ unlike,rfl,rfl⟩
  | cancelSession key =>
    cases stepped
    exact ⟨rfl,rfl,rfl⟩
  | close =>
    cases stepped
    exact ⟨rfl,rfl,rfl⟩
  | runOnce mover force now =>
    have unlike : worker ≠ mover := fun same => away (congrArg some same.symm)
    dsimp only at stepped
    split at stepped <;> cases stepped
    have kept := runOnce_keeps config scheduler mover force now
    exact ⟨kept.queues worker unlike,kept.stages worker unlike,congrFun kept.failures worker⟩
  | resume mover reply now =>
    have unlike : worker ≠ mover := fun same => away (congrArg some same.symm)
    rcases resume_cases stepped with kept | ⟨_,_,_,_,queues,_,error,failures,stages⟩
    · exact ⟨kept.queues worker unlike,kept.stages worker unlike,congrFun kept.failures worker⟩
    · rw [queues,failures,stages]
      simp [unlike]

/-- What a step for a worker does to it. -/
theorem step_toward (toward : SchedulerAction.worker action = some worker)
    (stepped : scheduler.step config rejectSuspends action = some next) :
    (∃ job now, action = .enqueue job now ∧ job.workerId = worker ∧
      (scheduler.enqueue config now job = .ok next ∨ next = scheduler)) ∨
    (∃ force now, action = .runOnce worker force now ∧ scheduler.stages worker = .idle ∧
      next = scheduler.runOnce config worker force now) ∨
    ∃ reply now, action = .resume worker reply now ∧ scheduler.resume config worker reply now = some next := by
  unfold GatewayScheduler.step at stepped
  split at stepped
  · cases stepped
  cases action with
  | cancelSession key => cases toward
  | close => cases toward
  | enqueue job now =>
    left
    refine ⟨job,now,rfl,Option.some.inj toward,?_⟩
    cases accepted : scheduler.enqueue config now job with
    | error error =>
      simp only [accepted] at stepped
      cases stepped
      exact .inr rfl
    | ok after =>
      simp only [accepted] at stepped
      cases stepped
      exact .inl rfl
  | runOnce mover force now =>
    right
    left
    cases toward
    dsimp only at stepped
    split at stepped <;> cases stepped
    rename_i idle
    exact ⟨force,now,rfl,idle,rfl⟩
  | resume mover reply now =>
    right
    right
    cases toward
    exact ⟨reply,now,rfl,stepped⟩

theorem called_watch {call : WorkerCall} : .called worker call ∈ watch scheduler action next ↔
    .called worker call ∈ callsMade action next := by
  simp [watch]

theorem called_away (away : SchedulerAction.worker action ≠ some worker) (call : WorkerCall) :
    .called worker call ∉ watch scheduler action next := by
  rw [called_watch]
  cases action with
  | enqueue | cancelSession | close => simp [callsMade]
  | runOnce mover force now =>
    have unlike : mover ≠ worker := fun same => away (congrArg some same)
    simp [callsMade,unlike]
  | resume mover reply now =>
    have unlike : mover ≠ worker := fun same => away (congrArg some same)
    simp [callsMade,unlike]

/-- A stopped worker refuses every job. -/
theorem enqueue_refused (failed : (scheduler.submitFailures worker).isSome = true) {job : InferenceJob} (mine : job.workerId = worker)
    (now : Time) : ∃ error, scheduler.enqueue config now job = .error error := by
  cases accepted : scheduler.enqueue config now job with
  | error error => exact ⟨error,rfl⟩
  | ok after =>
    obtain ⟨_,_,healthy,_⟩ := enqueue_ok accepted
    rw [mine,failed] at healthy
    cases healthy

/-- With `quiet`, the report of the worker's failure returns. -/
def Returns (quiet : Bool) (worker : WorkerId) (scheduler : GatewayScheduler) (action : SchedulerAction) : Prop :=
  quiet = true → ∀ reply now batch error, action = .resume worker reply now →
    scheduler.stages worker = .workerFailed batch error → reply = .done

/-- A stopped worker stays stopped. -/
theorem step_stopped {quiet : Bool} {queued : List InferenceJob} {calls : List WorkerEvent}
    (failed : (scheduler.submitFailures worker).isSome = true)
    (stopped : Stopped quiet worker queued (scheduler.queues worker) calls (scheduler.stages worker))
    (returns : Returns quiet worker scheduler action)
    (stepped : scheduler.step config rejectSuspends action = some next) :
    (next.submitFailures worker).isSome = true ∧
      (next.queues worker = scheduler.queues worker ∧ next.stages worker = scheduler.stages worker ∧
          (∀ call, .called worker call ∉ watch scheduler action next) ∨
        callsMade action next = (entered (next.stages worker)).map (.called worker) ∧
          Stopped quiet worker queued (next.queues worker) (onward worker calls (next.stages worker)) (next.stages worker)) := by
  by_cases toward : SchedulerAction.worker action = some worker
  · rcases step_toward toward stepped with ⟨job,now,rfl,mine,accepted | rfl⟩ | ⟨force,now,rfl,idle,rfl⟩ | ⟨reply,now,rfl,resumed⟩
    · obtain ⟨error,refused⟩ := @enqueue_refused config scheduler worker failed job mine now
      cases accepted.symm.trans refused
    · exact ⟨failed,.inl ⟨rfl,rfl,fun call => by simp [called_watch,callsMade]⟩⟩
    · refine ⟨?_,.inr ⟨rfl,runOnce_stopped scheduler failed idle stopped⟩⟩
      rw [(runOnce_keeps config scheduler worker force now).failures]
      exact failed
    · refine ⟨?_,.inr ⟨rfl,resume_stopped scheduler failed stopped
        (fun silent batch error stage => returns silent reply now batch error rfl stage) resumed⟩⟩
      rcases resume_cases resumed with kept | ⟨_,_,_,healthy,_⟩
      · rw [kept.failures]
        exact failed
      · simp [healthy] at failed
  · obtain ⟨queue,stage,failure⟩ := step_away toward stepped
    rw [failure]
    exact ⟨failed,.inl ⟨queue,stage,called_away toward⟩⟩

end Steps

/-- Whatever the worker publishes is an error, after all jobs of its queue were rejected. -/
def Ordered (worker : WorkerId) (queued : List InferenceJob) (calls : List WorkerEvent) : Prop :=
  ∀ before behind settlement, calls = before ++ .called worker (.publish settlement) :: behind →
    settlement.2.error ≠ none ∧ ∀ job ∈ queued, Rejected worker before job

/-- The worker failed with these jobs in its queue, and has made these calls since. -/
structure Halted (quiet : Bool) (worker : WorkerId) (queued : List InferenceJob) (scheduler : GatewayScheduler)
    (since : List WorkerEvent) : Prop where
  failed : (scheduler.submitFailures worker).isSome = true
  stopped : Stopped quiet worker queued (scheduler.queues worker) since (scheduler.stages worker)
  unsubmitted : ∀ batch, .called worker (.submit batch) ∉ since
  ordered : Ordered worker queued since

section Halting
variable {config : SchedulerConfig} {rejectSuspends quiet : Bool} {scheduler next : GatewayScheduler} {action : SchedulerAction}
  {worker : WorkerId} {queued : List InferenceJob} {since : List WorkerEvent}

/-- Nothing is submitted on the way, and what is published comes after the rejections. -/
theorem stopped_entered {queue : List InferenceJob} {stage : Stage}
    (stopped : Stopped quiet worker queued queue (onward worker since stage) stage) :
    (∀ batch, .submit batch ∉ entered stage) ∧ ∀ settlement, .publish settlement ∈ entered stage →
      settlement.2.error ≠ none ∧ ∀ job ∈ queued, Rejected worker since job := by
  have earlier : ∀ {settlement}, entered stage = [.publish settlement] → (∀ job ∈ queued, Rejected worker (onward worker since stage) job) →
      ∀ job ∈ queued, Rejected worker since job := by
    intro settlement only all job member
    rcases List.mem_append.mp (all job member) with before | now
    · exact before
    · simp [only] at now
  cases stage with
  | idle | workerFailed | cleanup | discard | cleanupFailed | drainReject | drainDiscard => simp [entered]
  | rejectExpired | publishExpired | rejectCancelled | submitting => exact stopped.elim
  | publish current rest failures =>
    refine ⟨by simp [entered],fun settlement member => ?_⟩
    cases List.mem_singleton.mp member
    exact ⟨stopped.2.2.1 current List.mem_cons_self,earlier rfl stopped.2.1⟩
  | publishFailures current rest =>
    refine ⟨by simp [entered],fun settlement member => ?_⟩
    cases List.mem_singleton.mp member
    exact ⟨stopped.2.2 current List.mem_cons_self,earlier rfl stopped.2.1⟩
  | publishCleanupFailed item rest failures =>
    refine ⟨by simp [entered],fun settlement member => ?_⟩
    cases List.mem_singleton.mp member
    exact ⟨by simp [InferenceResult.failure],earlier rfl stopped.2.1⟩

theorem Ordered.append {more : List WorkerEvent} (ordered : Ordered worker queued since)
    (later : ∀ settlement, .called worker (.publish settlement) ∈ more →
      settlement.2.error ≠ none ∧ ∀ job ∈ queued, Rejected worker since job) : Ordered worker queued (since ++ more) := by
  intro before behind settlement split
  rcases List.append_eq_append_iff.mp split with ⟨first,rfl,rest⟩ | ⟨rest,rfl,tail⟩
  · obtain ⟨error,all⟩ := later settlement (by rw [rest]; simp)
    exact ⟨error,fun job member => List.mem_append_left _ (all job member)⟩
  · cases rest with
    | nil =>
      obtain ⟨error,all⟩ := later settlement (by rw [show more = _ from tail.symm]; simp)
      exact ⟨error,by simpa using all⟩
    | cons event rest =>
      obtain ⟨rfl,rfl⟩ := List.cons.inj tail
      exact ordered before rest settlement rfl

theorem Halted.step (halted : Halted quiet worker queued scheduler since) (returns : Returns quiet worker scheduler action)
    (stepped : scheduler.step config rejectSuspends action = some next) :
    Halted quiet worker queued next (since ++ watch scheduler action next) := by
  obtain ⟨failed,⟨queue,stage,silent⟩ | ⟨calls,stopped⟩⟩ := step_stopped halted.failed halted.stopped returns stepped
  · refine ⟨failed,?_,fun batch member => ?_,halted.ordered.append fun settlement member => absurd member (silent _)⟩
    · rw [queue,stage]
      exact halted.stopped.mono (List.subset_append_left _ _)
    · rcases List.mem_append.mp member with before | now
      · exact halted.unsubmitted batch before
      · exact silent _ now
  · obtain ⟨unsubmitted,published⟩ := stopped_entered stopped
    have made : ∀ call, .called worker call ∈ watch scheduler action next → call ∈ entered (next.stages worker) := by
      intro call member
      rw [called_watch,calls] at member
      obtain ⟨other,there,same⟩ := List.mem_map.mp member
      cases same
      exact there
    refine ⟨failed,stopped.mono ?_,fun batch member => ?_,halted.ordered.append fun settlement member => published _ (made _ member)⟩
    · rw [onward,← calls]
      exact List.append_subset.mpr ⟨List.subset_append_left _ _,
        fun event member => List.mem_append_right _ (List.mem_append_left _ member)⟩
    · rcases List.mem_append.mp member with before | now
      · exact halted.unsubmitted batch before
      · exact unsubmitted batch (made _ now)

end Halting

/-! ## Whole runs -/

/-- The report of a failed submission. -/
def reported (worker : WorkerId) : WorkerEvent := .called worker (.workerFailed "submit_failed")

/-- A failed worker is stopped, and its failure was reported once. -/
structure Watched (scheduler : GatewayScheduler) (history : List WorkerEvent) : Prop where
  stopped : ∀ worker, (scheduler.submitFailures worker).isSome = true → ∃ queued calls,
    Stopped false worker queued (scheduler.queues worker) calls (scheduler.stages worker)
  reports : ∀ worker, history.count (reported worker) = if (scheduler.submitFailures worker).isSome then 1 else 0

section Watching
variable {config : SchedulerConfig} {rejectSuspends : Bool} {scheduler next : GatewayScheduler} {action : SchedulerAction}
  {worker : WorkerId} {history : List WorkerEvent}

theorem entered_unreported {stage : Stage} (quiet : ∀ batch error, stage ≠ .workerFailed batch error) :
    .workerFailed "submit_failed" ∉ entered stage := by
  cases stage with
  | workerFailed batch error => exact absurd rfl (quiet batch error)
  | _ => simp [entered]

/-- One worker's failure is as before and not reported, or it is noted and reported now. -/
theorem step_reports (stepped : scheduler.step config rejectSuspends action = some next) (worker : WorkerId) :
    next.submitFailures worker = scheduler.submitFailures worker ∧ reported worker ∉ watch scheduler action next ∨
      scheduler.submitFailures worker = none ∧ (next.submitFailures worker).isSome = true ∧
        (∃ batch error, next.stages worker = .workerFailed batch error) ∧
        (watch scheduler action next).count (reported worker) = 1 := by
  by_cases toward : SchedulerAction.worker action = some worker
  · rcases step_toward toward stepped with ⟨job,now,rfl,mine,accepted | rfl⟩ | ⟨force,now,rfl,idle,rfl⟩ | ⟨reply,now,rfl,resumed⟩
    · obtain ⟨rfl,_⟩ := enqueue_ok accepted
      exact .inl ⟨rfl,by simp [reported,called_watch,callsMade]⟩
    · exact .inl ⟨rfl,by simp [reported,called_watch,callsMade]⟩
    · have kept := runOnce_keeps config scheduler worker force now
      refine .inl ⟨congrFun kept.failures worker,?_⟩
      rw [reported,called_watch,callsMade,List.mem_map]
      rintro ⟨call,member,same⟩
      cases same
      exact entered_unreported kept.unreported member
    · rcases resume_cases resumed with kept | ⟨batch,_,_,healthy,_,_,error,failures,stages⟩
      · refine .inl ⟨congrFun kept.failures worker,?_⟩
        rw [reported,called_watch,callsMade,List.mem_map]
        rintro ⟨call,member,same⟩
        cases same
        exact entered_unreported kept.unreported member
      · refine .inr ⟨healthy,by simp [failures],⟨batch,error,by simp [stages]⟩,?_⟩
        simp [watch,callsMade,stages,entered,SchedulerAction.worker,reported]
  · obtain ⟨_,_,failure⟩ := step_away toward stepped
    exact .inl ⟨failure,called_away toward _⟩

theorem Watched.step (watched : Watched scheduler history)
    (stepped : scheduler.step config rejectSuspends action = some next) :
    Watched next (history ++ watch scheduler action next) := by
  constructor
  · intro worker failed
    rcases step_reports stepped worker with ⟨same,_⟩ | ⟨_,_,⟨batch,error,stage⟩,_⟩
    · rw [same] at failed
      obtain ⟨queued,calls,stopped⟩ := watched.stopped worker failed
      obtain ⟨_,⟨queue,stage,_⟩ | ⟨_,onwards⟩⟩ := step_stopped failed stopped (by rintro ⟨⟩) stepped
      · exact ⟨queued,calls,by rwa [queue,stage]⟩
      · exact ⟨queued,_,onwards⟩
    · exact ⟨next.queues worker,[],by rw [stage]; exact rfl⟩
  · intro worker
    rw [List.count_append,watched.reports worker]
    rcases step_reports stepped worker with ⟨same,silent⟩ | ⟨healthy,failed,_,once⟩
    · rw [same,List.count_eq_zero_of_not_mem silent,Nat.add_zero]
    · simp [healthy,failed,once]

theorem init_watched : Watched .init [] := by
  constructor
  · intro worker failed
    simp [GatewayScheduler.init] at failed
  · simp [GatewayScheduler.init]

/-- A stopped worker does not submit. -/
theorem Watched.healthy (watched : Watched scheduler history) {batch : List InferenceJob}
    (submitting : scheduler.stages worker = .submitting batch) : scheduler.submitFailures worker = none := by
  by_contra failed
  obtain ⟨queued,calls,stopped⟩ := watched.stopped worker (Option.isSome_iff_ne_none.mpr failed)
  rw [submitting] at stopped
  exact stopped

end Watching

/-- The worker's jobs have ids, the report of its failure returns, and so does the `discard` of a
    drained job. -/
def Counts (worker : WorkerId) (scheduler : GatewayScheduler) (action : SchedulerAction) : Prop :=
  (∀ job now, action = .enqueue job now → job.workerId = worker → job.jobId ≠ []) ∧
  ∀ reply now, action = .resume worker reply now →
    (∃ batch error, scheduler.stages worker = .workerFailed batch error) ∨
      (∃ item rest failures batch error, scheduler.stages worker = .drainDiscard item rest failures batch error) → reply = .done

/-- The worker accounts for the jobs of its queue and of its batch that is not settled. -/
structure Counted (worker : WorkerId) (scheduler : GatewayScheduler) (history : List WorkerEvent) : Prop where
  named : ∀ job ∈ scheduler.queues worker, job.jobId ≠ []
  claimed : ∀ job, (scheduler.stages worker).claims.count job ≤ (scheduler.queues worker).count job
  counted : contribution worker history =
    totalSamples (scheduler.queues worker) + totalSamples (scheduler.stages worker).hands.unsettled

section Counting
variable {config : SchedulerConfig} {rejectSuspends : Bool} {scheduler next : GatewayScheduler} {action : SchedulerAction}
  {worker : WorkerId} {history : List WorkerEvent}

theorem contribution_append (first rest : List WorkerEvent) :
    contribution worker (first ++ rest) = contribution worker first + contribution worker rest := by
  induction first with
  | nil => simp [contribution]
  | cons event first ih =>
    cases event with
    | called => exact ih
    | counted other samples =>
      simp only [List.cons_append,contribution,ih]
      omega

theorem contribution_calls (calls : List WorkerCall) (mover : WorkerId) :
    contribution worker (calls.map (.called mover)) = 0 := by
  induction calls with
  | nil => rfl
  | cons call rest ih => exact ih

theorem contribution_watch : contribution worker (watch scheduler action next) =
    if SchedulerAction.worker action = some worker then next.queuedSamples - scheduler.queuedSamples else 0 := by
  have quiet : contribution worker (callsMade action next) = 0 := by
    unfold callsMade
    split
    · exact contribution_calls _ _
    · exact contribution_calls _ _
    · rfl
  rw [watch,contribution_append,quiet]
  cases SchedulerAction.worker action with
  | none => simp [contribution]
  | some mover => simp [contribution]

/-- The audio that a step of `run_once` releases is that of the jobs it no longer holds. -/
structure Releases (scheduler : GatewayScheduler) (worker : WorkerId) (next : GatewayScheduler) : Prop where
  audio : next.queuedSamples + totalSamples (scheduler.queues worker) + totalSamples (scheduler.stages worker).hands.unsettled =
    scheduler.queuedSamples + totalSamples (next.queues worker) + totalSamples (next.stages worker).hands.unsettled
  claims : ∀ job, (next.stages worker).claims.count job ≤ (next.queues worker).count job
  shrinks : ∀ job, (next.queues worker).count job ≤ (scheduler.queues worker).count job

theorem Releases.of_advances (advances : Advances scheduler worker (scheduler.stages worker).hands next) :
    Releases scheduler worker next := ⟨advances.audio,advances.claims,advances.shrinks⟩

/-- A call whose hook raised ends with nothing that was counted. -/
theorem ended_releases {middle : GatewayScheduler} (queues : middle.queues = scheduler.queues)
    (samples : middle.queuedSamples = scheduler.queuedSamples) (settled : (scheduler.stages worker).hands.unsettled = []) :
    Releases scheduler worker (middle.setStage worker .idle) := by
  constructor
  · rw [settled,setStage_stage]
    simp [queues,samples,Stage.hands,totalSamples]
  · simp [Stage.claims]
  · simp [queues]

theorem resume_releases {reply : Reply} {now : Time} (counted : Counted worker scheduler history)
    (counts : Counts worker scheduler (.resume worker reply now))
    (resumed : scheduler.resume config worker reply now = some next) : Releases scheduler worker next := by
  by_cases returns : hookReturns (scheduler.stages worker) reply = true
  · exact .of_advances (resume_advances config scheduler next worker reply now counted.named counted.claimed returns resumed)
  · have done := counts.2 reply now rfl
    have marked := fun item => markSafe_keeps scheduler item
    cases stage : scheduler.stages worker <;> rw [stage] at returns done <;> cases reply <;>
      simp only [resume,stage,Option.some.injEq,reduceCtorEq] at resumed <;> subst resumed <;>
      simp only [hookReturns,decide_true,not_true_eq_false] at returns
    case workerFailed.stale batch error | workerFailed.raised batch error _ => cases done (.inl ⟨batch,error,rfl⟩)
    case drainDiscard.stale item rest failures batch error | drainDiscard.raised item rest failures batch error _ =>
      cases done (.inr ⟨item,rest,failures,batch,error,rfl⟩)
    case rejectCancelled.stale force item rest | rejectCancelled.raised force item rest _ =>
      -- `run_once` swallows the exception and goes on
      refine .of_advances (done_advances config scheduler _ worker now counted.named counted.claimed ?_)
      simp only [resume,stage]
    case drainReject.stale item rest failures batch error | drainReject.raised item rest failures batch error _ =>
      constructor
      · simp [stage,Stage.hands]
      · simp [Stage.claims]
      · simp
    case discard.stale item rest failures | discard.raised item rest failures _ =>
      exact ended_releases (marked item).1 (marked item).2.2.1 (by simp [stage,Stage.hands])
    case publish.stale current rest failures | publish.raised current rest failures _ =>
      exact ended_releases (marked current.1).1 (marked current.1).2.2.1 (by simp [stage,Stage.hands])
    -- what is left ends the call
    all_goals exact ended_releases rfl rfl (by simp [stage,Stage.hands])

theorem Counted.step (counted : Counted worker scheduler history) (counts : Counts worker scheduler action)
    (stepped : scheduler.step config rejectSuspends action = some next) :
    Counted worker next (history ++ watch scheduler action next) := by
  have released : SchedulerAction.worker action = some worker → Releases scheduler worker next →
      Counted worker next (history ++ watch scheduler action next) := by
    intro toward releases
    refine ⟨fun job member => counted.named job ?_,releases.claims,?_⟩
    · exact List.count_pos_iff.mp (Nat.lt_of_lt_of_le (List.count_pos_iff.mpr member) (releases.shrinks job))
    · rw [contribution_append,contribution_watch,if_pos toward,counted.counted]
      have audio := releases.audio
      omega
  by_cases toward : SchedulerAction.worker action = some worker
  · rcases step_toward toward stepped with ⟨job,now,rfl,mine,accepted | rfl⟩ | ⟨force,now,rfl,idle,rfl⟩ | ⟨reply,now,rfl,resumed⟩
    · obtain ⟨rfl,_⟩ := enqueue_ok accepted
      subst mine
      constructor
      · intro other member
        simp only [setQueue_queue,List.mem_append,List.mem_singleton] at member
        rcases member with before | rfl
        · exact counted.named other before
        · rw [stamped_id]
          exact counts.1 job now rfl rfl
      · intro other
        simp only [setQueue_queue,List.count_append]
        exact (counted.claimed other).trans (Nat.le_add_right _ _)
      · rw [contribution_append,contribution_watch,if_pos toward,counted.counted]
        simp only [setQueue_queue,totalSamples_append]
        simp only [totalSamples,List.map_cons,List.map_nil,List.sum_cons,List.sum_nil,stamped_samples,setQueue_stages]
        omega
    · refine ⟨counted.named,counted.claimed,?_⟩
      rw [contribution_append,contribution_watch,if_pos toward,counted.counted]
      omega
    · refine released toward (.of_advances ?_)
      rw [idle]
      exact runOnce_advances config scheduler worker force now counted.named
    · exact released toward (resume_releases counted counts resumed)
  · obtain ⟨queue,stage,_⟩ := step_away toward stepped
    refine ⟨?_,?_,?_⟩
    · rw [queue]
      exact counted.named
    · rw [queue,stage]
      exact counted.claimed
    · rw [contribution_append,contribution_watch,if_neg toward,counted.counted,queue,stage,Int.add_zero]

end Counting

/-! ## The failed submission -/

section Failing
variable {config : SchedulerConfig} {rejectSuspends : Bool} {scheduler next : GatewayScheduler} {worker : WorkerId}
  {batch : List InferenceJob} {reply : Reply} {now : Time}

theorem failed_reports (submitting : scheduler.stages worker = .submitting batch) (healthy : scheduler.submitFailures worker = none)
    (fails : SubmissionFails batch reply) (resumed : scheduler.resume config worker reply now = some next) :
    Reports scheduler worker next batch := by
  have reports := fun typeName => (failBatch_cases scheduler worker batch typeName).1 healthy
  cases reply with
  | done => exact fails.elim
  | stale => exact fails.elim
  | raised typeName =>
    simp only [resume,submitting,Option.some.injEq] at resumed
    subst resumed
    exact reports typeName
  | results raw =>
    simp only [resume,submitting,submitted,Option.some.injEq] at resumed
    subst resumed
    by_cases counted : raw.length ≠ batch.length
    · rw [if_pos counted]
      exact reports "RuntimeError"
    · rw [if_neg counted,if_pos (fails.resolve_left counted)]
      exact reports "TypeError"

/-- The worker is stopped with the failed submission. -/
theorem Reports.halted {quiet : Bool} (reports : Reports scheduler worker next batch) :
    Halted quiet worker (scheduler.queues worker) next (watch scheduler (.resume worker reply now) next) := by
  obtain ⟨_,queues,_,error,failures,stages⟩ := reports
  have calls : ∀ call, .called worker call ∈ watch scheduler (.resume worker reply now) next → call = .workerFailed "submit_failed" := by
    intro call member
    simpa [called_watch,callsMade,stages,entered] using member
  constructor
  · simp [failures]
  · simp [stages,queues,Stopped]
  · intro submitted member
    cases calls _ member
  · intro before behind settlement split
    have member : .called worker (.publish settlement) ∈ watch scheduler (.resume worker reply now) next := by simp [split]
    cases calls _ member

end Failing

section Running
variable {config : SchedulerConfig} {rejectSuspends : Bool} {state before : GatewayScheduler} {history earlier : List WorkerEvent}
  {worker : WorkerId}

theorem run_watched {actions : List SchedulerAction}
    (ran : Machine.run (watchedStep config rejectSuspends) (.init,[]) actions = some (state,history)) : Watched state history := by
  refine Machine.invariant (watchedStep config rejectSuspends) (fun traced => Watched traced.1 traced.2) ?_ init_watched ran
  intro traced action next watched stepped
  obtain ⟨after,moved,rfl⟩ := (Machine.observed_eq_some _ _).mp stepped
  exact watched.step moved

theorem run_counted {actions : List SchedulerAction}
    (counts : Machine.Along (watchedStep config rejectSuspends) (fun traced => Counts worker traced.1) (.init,[]) actions)
    (ran : Machine.run (watchedStep config rejectSuspends) (.init,[]) actions = some (state,history)) :
    Counted worker state history := by
  refine Machine.invariant_along (watchedStep config rejectSuspends) (fun traced => Counted worker traced.1 traced.2) ?_ ?_ counts ran
  · intro traced action next counted now stepped
    obtain ⟨after,moved,rfl⟩ := (Machine.observed_eq_some _ _).mp stepped
    exact counted.step now moved
  · constructor
    · simp [GatewayScheduler.init]
    · simp [GatewayScheduler.init,Stage.claims]
    · simp [GatewayScheduler.init,contribution,Stage.hands,totalSamples]

/-- A stopped worker stays so over a run. -/
theorem run_halted {quiet : Bool} {actions : List SchedulerAction} {queued : List InferenceJob} {since : List WorkerEvent}
    (halted : Halted quiet worker queued before since)
    (returns : Machine.Along (watchedStep config rejectSuspends) (fun traced => Returns quiet worker traced.1)
      (before,earlier ++ since) actions)
    (ran : Machine.run (watchedStep config rejectSuspends) (before,earlier ++ since) actions = some (state,history)) :
    ∃ since, history = earlier ++ since ∧ Halted quiet worker queued state since := by
  refine Machine.invariant_along (watchedStep config rejectSuspends)
    (fun traced => ∃ since, traced.2 = earlier ++ since ∧ Halted quiet worker queued traced.1 since) ?_ ⟨since,rfl,halted⟩ returns ran
  rintro ⟨scheduler,events⟩ action next ⟨so_far,rfl,still⟩ now stepped
  obtain ⟨after,moved,rfl⟩ := (Machine.observed_eq_some _ _).mp stepped
  exact ⟨_,List.append_assoc _ _ _,still.step now moved⟩

theorem Counts.returns {scheduler : GatewayScheduler} {action : SchedulerAction} (counts : Counts worker scheduler action) :
    Returns true worker scheduler action := by
  rintro - reply now batch error rfl stage
  exact counts.2 reply now rfl (.inl ⟨batch,error,stage⟩)

theorem Returns.trivial (scheduler : GatewayScheduler) (action : SchedulerAction) : Returns false worker scheduler action := by
  rintro ⟨⟩

/-- A step of one worker is none of another's business. -/
theorem other_unaffected {other : WorkerId} {action : SchedulerAction} {next : GatewayScheduler}
    (mine : SchedulerAction.worker action = some worker) (distinct : other ≠ worker)
    (stepped : state.step config rejectSuspends action = some next) :
    next.queues other = state.queues other ∧ next.stages other = state.stages other ∧
      next.submitFailures other = state.submitFailures other :=
  step_away (by rw [mine]; exact fun same => distinct (Option.some.inj same).symm) stepped

/-- Whenever a submission of a worker fails: it submits nothing any more, it takes no job, its
    failure is reported once in the whole run, and all that it still publishes are errors, after
    every job of its queue was rejected and the queue emptied. Once its `run_once` is over,
    nothing of it is counted, if the report of its failure and the discards of its jobs return.
    Neither the failing step nor anything that it does later touches another worker. -/
theorem worker_stops (config : SchedulerConfig) (rejectSuspends : Bool) (first later : List SchedulerAction) (worker : WorkerId)
    (batch : List InferenceJob) (reply : Reply) (now : Time) (before state : GatewayScheduler) (earlier history : List WorkerEvent)
    (started : Machine.run (watchedStep config rejectSuspends) (.init,[]) first = some (before,earlier))
    (submitting : before.stages worker = .submitting batch) (fails : SubmissionFails batch reply)
    (ran : Machine.run (watchedStep config rejectSuspends) (before,earlier) (.resume worker reply now :: later) =
      some (state,history)) :
    (∃ since, history = earlier ++ since ∧ (∀ jobs, .called worker (.submit jobs) ∉ since) ∧
      Ordered worker (before.queues worker) since) ∧
    (∀ job now, job.workerId = worker → ∃ error, state.enqueue config now job = .error error) ∧
    history.count (reported worker) = 1 ∧
    ((state.stages worker).publishing ≠ [] → state.queues worker = []) ∧
    (Machine.Along (watchedStep config rejectSuspends) (fun traced => Counts worker traced.1) (.init,[])
        (first ++ .resume worker reply now :: later) →
      state.stages worker = .idle → state.queues worker = [] ∧ contribution worker history = 0) ∧
    (∀ failed other, before.step config rejectSuspends (.resume worker reply now) = some failed → other ≠ worker →
      failed.queues other = before.queues other ∧ failed.stages other = before.stages other ∧
        failed.submitFailures other = before.submitFailures other) ∧
    ∀ action next other, SchedulerAction.worker action = some worker → other ≠ worker →
      state.step config rejectSuspends action = some next →
      next.queues other = state.queues other ∧ next.stages other = state.stages other ∧
        next.submitFailures other = state.submitFailures other := by
  have whole : Machine.run (watchedStep config rejectSuspends) (.init,[]) (first ++ .resume worker reply now :: later) =
      some (state,history) := (Machine.run_append _).mpr ⟨_,started,ran⟩
  obtain ⟨failed,stepped,onwards⟩ := (Machine.run_cons _).mp ran
  obtain ⟨after,moved,rfl⟩ := (Machine.observed_eq_some _ _).mp stepped
  have resumed : before.resume config worker reply now = some after := by
    rcases step_toward rfl moved with ⟨_,_,⟨⟩,_⟩ | ⟨_,_,⟨⟩,_⟩ | ⟨_,_,⟨⟩,resumed⟩
    exact resumed
  have reports := failed_reports submitting ((run_watched started).healthy submitting) fails resumed
  have stopping : ∀ quiet, Halted quiet worker (before.queues worker) after (watch before (.resume worker reply now) after) :=
    fun _ => reports.halted
  obtain ⟨since,rfl,halted⟩ := run_halted (stopping false)
    (Machine.Along.mono _ (fun _ _ _ => .trivial _ _) (Machine.along_true _ _ _)) onwards
  refine ⟨⟨since,rfl,halted.unsubmitted,halted.ordered⟩,?_,?_,?_,?_,
    fun failed other stepped distinct => other_unaffected rfl distinct stepped,
    fun action next other mine => other_unaffected mine⟩
  · intro job now mine
    exact enqueue_refused halted.failed mine now
  · rw [(run_watched whole).reports worker,if_pos halted.failed]
  · intro publishing
    have stopped := halted.stopped
    cases stage : state.stages worker <;> rw [stage] at stopped publishing <;>
      simp only [Stage.publishing,ne_eq,not_true_eq_false] at publishing
    case publishExpired => exact stopped.elim
    case publish | publishFailures | publishCleanupFailed => exact stopped.1
  · intro counts idle
    have counted := run_counted counts whole
    obtain ⟨_,_,quiet⟩ := run_halted (stopping true)
      ((((Machine.along_append _ started).mp counts).2.2 _ stepped).mono _ fun _ _ => Counts.returns) onwards
    have stopped := quiet.stopped
    rw [idle] at stopped
    have empty : state.queues worker = [] := stopped.resolve_right (by rintro ⟨⟨⟩,_⟩)
    refine ⟨empty,?_⟩
    rw [counted.counted,empty,idle]
    rfl

end Running

theorem counts_of_settles {worker : WorkerId} {scheduler : GatewayScheduler} {action : SchedulerAction}
    (settles : Accounts.settles scheduler action = true) : Counts worker scheduler action := by
  constructor
  · rintro job now rfl -
    simpa [Accounts.settles] using settles
  · rintro reply now rfl pending
    rcases pending with ⟨batch,error,stage⟩ | ⟨item,rest,failures,batch,error,stage⟩
    · simpa [Accounts.settles,stage,hookReturns] using settles
    · simpa [Accounts.settles,stage,hookReturns] using settles

/-- The submission of the only job raises. -/
def failedRun : List SchedulerAction :=
  [.enqueue (Accounts.exampleJob ['j']) 1,.runOnce ['w'] false 2] ++ .resume ['w'] (.raised "TimeoutError") 3 ::
    [.resume ['w'] .done 4,.resume ['w'] .done 5,.resume ['w'] .done 6]

theorem worker_stops_failed_job : ∃ state history,
    Machine.run (watchedStep Accounts.exampleConfig true) (.init,[]) failedRun = some (state,history) ∧
      history.count (reported ['w']) = 1 ∧ contribution ['w'] history = 0 := by
  have submits : (Machine.run (watchedStep Accounts.exampleConfig true) (.init,[]) (failedRun.take 2)).any (fun traced =>
      decide (traced.1.stages ['w'] = .submitting [(Accounts.exampleJob ['j']).stamped 1])) = true := by decide +kernel
  have finishes : (Machine.run (watchedStep Accounts.exampleConfig true) (.init,[]) failedRun).any (fun traced =>
      decide (traced.1.stages ['w'] = .idle)) = true := by decide +kernel
  have settles : Machine.check (watchedStep Accounts.exampleConfig true) (fun traced => Accounts.settles traced.1)
      (.init,[]) failedRun = true := by decide +kernel
  obtain ⟨⟨before,earlier⟩,started,submitting⟩ := (Option.any_eq_true _ _).mp submits
  obtain ⟨⟨state,history⟩,ran,idle⟩ := (Option.any_eq_true _ _).mp finishes
  obtain ⟨middle,first,second⟩ := (Machine.run_append _).mp ran
  cases first.symm.trans started
  obtain ⟨_,_,once,_,released,_⟩ := worker_stops Accounts.exampleConfig true _ _ ['w'] _ (.raised "TimeoutError") 3 before state
    earlier history started (of_decide_eq_true submitting) trivial second
  have counts : Machine.Along (watchedStep Accounts.exampleConfig true) (fun traced => Counts ['w'] traced.1) (.init,[]) failedRun :=
    (Machine.along_of_check _ settles).mono _ fun _ _ => counts_of_settles
  exact ⟨state,history,ran,once,(released counts (of_decide_eq_true idle)).2⟩

/-- Whether the worker is failed and at rest with an empty queue, and the audio that is still counted. -/
def leftover (actions : List SchedulerAction) : Option (Bool × Int) :=
  (Machine.run (GatewayScheduler.step Accounts.exampleConfig true) .init actions).map fun scheduler =>
    (decide (scheduler.stages ['w'] = .idle ∧ (scheduler.submitFailures ['w']).isSome ∧ scheduler.queues ['w'] = []),
      scheduler.queuedSamples)

/-- `worker_failed` raises, or the `discard` of a drained job does, or a job without an id was
    dispatched before: the worker is stopped and at rest, and one of its jobs is counted for ever. -/
theorem stopped_worker_counted :
    leftover [.enqueue (Accounts.exampleJob ['j']) 1,.runOnce ['w'] false 2,.resume ['w'] (.raised "RuntimeError") 3,
        .resume ['w'] (.raised "KeyError") 4,.runOnce ['w'] false 5] = some (true,1) ∧
      leftover [.enqueue (Accounts.exampleJob ['j']) 1,.enqueue (Accounts.exampleJob ['k']) 1,.runOnce ['w'] false 2,
        .resume ['w'] (.raised "RuntimeError") 3,.resume ['w'] .done 4,.resume ['w'] .stale 5,
        .resume ['w'] (.raised "KeyError") 6] = some (true,1) ∧
      leftover [.enqueue (Accounts.exampleJob []) 1,.runOnce ['w'] false 2,.enqueue (Accounts.exampleJob ['j']) 3,
        .runOnce ['w'] false 4,.resume ['w'] (.raised "RuntimeError") 5,.resume ['w'] .done 6,.resume ['w'] .done 7,
        .resume ['w'] .done 8] = some (true,1) := by
  decide +kernel

end SpeechGateway.FailStop
