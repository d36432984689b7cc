import Mathlib.Algebra.GroupWithZero.Nat
import Mathlib.Algebra.Order.Ring.Unbundled.Rat
import Mathlib.Data.Char
import Mathlib.Data.List.Sort
import Mathlib.Data.List.Dedup
import Mathlib.Data.List.Lex
import SpeechGateway.Backends
import SpeechGateway.Machine

/-!
`GatewayScheduler`: bounded queues of jobs, one for each worker, and `run_once`, which
rejects expired and cancelled jobs, submits one batch and settles it. `run_once` awaits a
hook or the adapter at every stage, and anything may happen to the scheduler in between;
a `Stage` says where a worker's call is suspended and what it still holds.
-/
namespace SpeechGateway.Scheduling
open SpeechGateway.Backends

structure BatchKey where
  workerId : WorkerId
  modelRevision : Text
  language : Text
  task : Text
  timestamps : Bool
  promptIdentity : Text
  decodingIdentity : Text
  sampleFormat : Text
  lengthBucket : Nat
  deriving DecidableEq, Repr

/-- `queue_deadline` is `none` where the source has infinity. -/
structure InferenceJob where
  jobId : Text
  sessionId : SessionId
  generation : Nat
  jobSequence : Nat
  workerId : WorkerId
  backendSessionId : Text
  startSample : Nat
  endSample : Nat
  pcm : Pcm
  deadline : Time
  batchKey : BatchKey
  final : Bool := false
  enqueuedAt : Time := 0
  queueDeadline : Option Time := none
  deriving DecidableEq, Repr

/-- The job with the time it enters a queue, unless it has one. -/
def InferenceJob.stamped (job : InferenceJob) (now : Time) : InferenceJob :=
  if job.enqueuedAt = 0 then { job with enqueuedAt := now } else job

def InferenceJob.sampleCount (job : InferenceJob) : Nat := job.endSample - job.startSample

/-- What cancellation and the safe events are keyed by. -/
abbrev SessionKey := SessionId × Nat

def InferenceJob.key (job : InferenceJob) : SessionKey := (job.sessionId,job.generation)

structure InferenceResult where
  jobId : Text
  sessionId : SessionId
  generation : Nat
  jobSequence : Nat
  workerId : WorkerId
  startSample : Nat
  endSample : Nat
  segmentId : Int := 0
  text : Text := []
  confirmedText : Text := []
  tailText : Text := []
  final : Bool := false
  error : Option String := none
  metadata : Option Metadata := none
  deriving DecidableEq, Repr

/-- `InferenceResult.from_job` with an error. -/
def InferenceResult.failure (job : InferenceJob) (error : String) : InferenceResult where
  jobId := job.jobId
  sessionId := job.sessionId
  generation := job.generation
  jobSequence := job.jobSequence
  workerId := job.workerId
  startSample := job.startSample
  endSample := job.endSample
  error := some error

/-- `_coerce_result`: a result that names another job becomes an error of this one. -/
def coerceResult (job : InferenceJob) (result : InferenceResult) : InferenceResult :=
  if (result.jobId,result.sessionId,result.workerId,result.startSample,result.endSample) ≠
      (job.jobId,job.sessionId,job.workerId,job.startSample,job.endSample) then
    .failure job "invalid adapter result identity"
  else result

/-- A job with the result that will be published for it. -/
abbrev Settlement := InferenceJob × InferenceResult

/-- Where `run_once` of a worker is suspended, and what is left to do after it. -/
inductive Stage
  | idle
  | rejectExpired (force : Bool) (item : InferenceJob) (rest : List InferenceJob)
  | publishExpired (force : Bool) (item : InferenceJob) (rest : List InferenceJob)
  | rejectCancelled (force : Bool) (item : InferenceJob) (rest : List InferenceJob)
  | submitting (batch : List InferenceJob)
  | workerFailed (batch : List InferenceJob) (error : String)
  | drainReject (item : InferenceJob) (rest : List InferenceJob) (failures : List Settlement)
      (batch : List InferenceJob) (error : String)
  | drainDiscard (item : InferenceJob) (rest : List InferenceJob) (failures : List Settlement)
      (batch : List InferenceJob) (error : String)
  | cleanup (current : Settlement) (rest failures : List Settlement)
  | discard (item : InferenceJob) (rest failures : List Settlement)
  | cleanupFailed (item : InferenceJob) (rest failures : List Settlement)
  | publishCleanupFailed (item : InferenceJob) (rest failures : List Settlement)
  | publish (current : Settlement) (rest failures : List Settlement)
  | publishFailures (current : Settlement) (rest : List Settlement)
  deriving DecidableEq, Repr

/-- The jobs that a suspended `run_once` still holds. -/
structure Hands where
  /-- Out of the queue, and not yet offered to `reject`. -/
  awaitingReject : List InferenceJob := []
  /-- Submitted, and not yet offered to `cleanup`. -/
  awaitingCleanup : List InferenceJob := []
  /-- Rejected or cleaned up, with a result that may still be published. -/
  mayPublish : List InferenceJob := []
  /-- Submitted, with their audio still counted. -/
  unsettled : List InferenceJob := []
  /-- Submitted, and not yet marked safe. -/
  unmarked : List InferenceJob := []

def jobsOf (settlements : List Settlement) : List InferenceJob := settlements.map (·.1)

def Stage.hands : Stage → Hands
  | .idle | .publishExpired .. | .rejectCancelled .. => {}
  | .rejectExpired _ item _ => { mayPublish := [item] }
  | .submitting batch | .workerFailed batch _ =>
    { awaitingCleanup := batch, unsettled := batch, unmarked := batch }
  | .drainReject item rest failures batch _ =>
    ⟨rest,batch,item :: jobsOf failures,batch,batch⟩
  | .drainDiscard _ rest failures batch _ => ⟨rest,batch,jobsOf failures,batch,batch⟩
  | .cleanup current rest failures =>
    ⟨[],jobsOf rest,current.1 :: jobsOf failures,[],current.1 :: jobsOf rest⟩
  | .cleanupFailed item rest failures => ⟨[],jobsOf rest,item :: jobsOf failures,[],item :: jobsOf rest⟩
  | .discard item rest failures | .publishCleanupFailed item rest failures =>
    ⟨[],jobsOf rest,jobsOf failures,[],item :: jobsOf rest⟩
  | .publish current rest failures => ⟨[],jobsOf rest,jobsOf failures,[],current.1 :: jobsOf rest⟩
  | .publishFailures _ rest => { mayPublish := jobsOf rest }

/-- The job whose `reject` is awaited. -/
def Stage.rejecting : Stage → List InferenceJob
  | .rejectExpired _ item _ | .rejectCancelled _ item _ | .drainReject item _ _ _ _ => [item]
  | _ => []

/-- The jobs whose submission is awaited. -/
def Stage.submissions : Stage → List InferenceJob
  | .submitting batch => batch
  | _ => []

/-- The job whose `cleanup` is awaited. -/
def Stage.cleaning : Stage → List InferenceJob
  | .cleanup current _ _ => [current.1]
  | _ => []

/-- The jobs still in the queue that the call goes on to reject. -/
def Stage.claims : Stage → List InferenceJob
  | .rejectExpired _ _ rest | .publishExpired _ _ rest | .rejectCancelled _ _ rest => rest
  | _ => []

/-- The failures that the call goes on to publish. -/
def Stage.failures : Stage → List Settlement
  | .drainReject _ _ failures _ _ | .drainDiscard _ _ failures _ _ | .cleanup _ _ failures
  | .discard _ _ failures | .cleanupFailed _ _ failures | .publishCleanupFailed _ _ failures
  | .publish _ _ failures => failures
  | .publishFailures current rest => current :: rest
  | _ => []

/-- The result whose publication is awaited, with its job. -/
def Stage.publishing : Stage → List Settlement
  | .publishExpired _ item _ => [(item,.failure item "queue_timeout")]
  | .publishCleanupFailed item _ _ => [(item,.failure item "cleanup_failed")]
  | .publish current _ _ | .publishFailures current _ => [current]
  | _ => []

/-- The constructor arguments, and the capabilities of the adapters. -/
structure SchedulerConfig where
  workers : List WorkerId
  capabilities : WorkerId → BackendCapabilities
  maxWaitSeconds : Time
  maxReadyJobs : Nat
  maxQueuedSamples : Nat
  distinctWorkers : workers.Nodup

structure GatewayScheduler where
  queues : WorkerId → List InferenceJob
  stages : WorkerId → Stage
  queuedSamples : Int
  cancelledGenerations : List SessionKey
  accepted : SessionKey → Option Nat
  safe : List Nat
  nextEvent : Nat
  submitFailures : WorkerId → Option String
  closed : Bool

/-- `GatewayScheduler.__init__`. -/
def GatewayScheduler.init : GatewayScheduler where
  queues _ := []
  stages _ := .idle
  queuedSamples := 0
  cancelledGenerations := []
  accepted _ := none
  safe := []
  nextEvent := 0
  submitFailures _ := none
  closed := false

def totalSamples (jobs : List InferenceJob) : Nat := (jobs.map InferenceJob.sampleCount).sum

/-- `(deadline, enqueued_at, job_id)`, compared in this order. -/
def earlier (first second : InferenceJob) : Bool :=
  if first.deadline ≠ second.deadline then decide (first.deadline < second.deadline) else
  if first.enqueuedAt ≠ second.enqueuedAt then decide (first.enqueuedAt < second.enqueuedAt) else
  decide (first.jobId ≤ second.jobId)

/-- What a hook or the adapter answers to a suspended `run_once`. -/
inductive Reply
  | done
  | stale
  | raised (typeName : String)
  | results (raw : List (Option InferenceResult))
  deriving DecidableEq, Repr

namespace GatewayScheduler
variable (config : SchedulerConfig)

def setQueue (scheduler : GatewayScheduler) (worker : WorkerId) (queue : List InferenceJob) : GatewayScheduler :=
  { scheduler with queues := Function.update scheduler.queues worker queue }

def setStage (scheduler : GatewayScheduler) (worker : WorkerId) (stage : Stage) : GatewayScheduler :=
  { scheduler with stages := Function.update scheduler.stages worker stage }

def isCancelled (scheduler : GatewayScheduler) (job : InferenceJob) : Bool :=
  scheduler.cancelledGenerations.contains job.key

/-- Jobs in all queues. -/
def readyJobs (scheduler : GatewayScheduler) : List InferenceJob := config.workers.flatMap scheduler.queues

def enqueue (scheduler : GatewayScheduler) (now : Time) (job : InferenceJob) : Except PyError GatewayScheduler :=
  if scheduler.closed then .error (.runtimeError "scheduler is closed") else
  if !config.workers.contains job.workerId then .error (.keyError ("unknown worker_id " ++ String.ofList job.workerId)) else
  if (scheduler.submitFailures job.workerId).isSome then .error (.runtimeError "worker is failed") else
  if job.sampleCount = 0 ∨ job.pcm.length ≠ job.sampleCount * 2 then
    .error (.valueError "job PCM range does not match pcm_s16le bytes") else
  let totalJobs := (scheduler.readyJobs config).length
  if config.maxReadyJobs ≤ totalJobs then
    .error (.capacity .schedulerReadyJobLimit config.maxReadyJobs totalJobs 1 "ready queue job limit exceeded") else
  if config.maxQueuedSamples < scheduler.queuedSamples + job.sampleCount then
    .error (.capacity .schedulerQueuedAudioLimit config.maxQueuedSamples scheduler.queuedSamples job.sampleCount
      "ready queue audio limit exceeded") else
  .ok { scheduler.setQueue job.workerId (scheduler.queues job.workerId ++ [job.stamped now]) with
    queuedSamples := scheduler.queuedSamples + job.sampleCount }

def cancelSession (scheduler : GatewayScheduler) (key : SessionKey) : GatewayScheduler :=
  { scheduler with cancelledGenerations := key :: scheduler.cancelledGenerations }

/-- `_mark_safe`. -/
def markSafe (scheduler : GatewayScheduler) (job : InferenceJob) : GatewayScheduler :=
  match scheduler.accepted job.key with
  | none => scheduler
  | some event =>
    { scheduler with
      accepted := Function.update scheduler.accepted job.key none
      safe := event :: scheduler.safe }

/-- `_accepted.setdefault` with a new event. -/
def accept (scheduler : GatewayScheduler) (job : InferenceJob) : GatewayScheduler :=
  match scheduler.accepted job.key with
  | some _ => scheduler
  | none =>
    { scheduler with
      accepted := Function.update scheduler.accepted job.key (some scheduler.nextEvent)
      nextEvent := scheduler.nextEvent + 1 }

/-- The job must be dispatched by `now`. -/
def due (now : Time) (job : InferenceJob) : Bool :=
  decide (min job.deadline (job.enqueuedAt + config.maxWaitSeconds) ≤ now)

/-- Jobs in order, one for each session, within the limits of a batch. -/
def fillBatch (limit maxSamples : Nat) : List InferenceJob → List InferenceJob → List InferenceJob
  | [], batch => batch
  | item :: rest, batch =>
    if batch.any (·.sessionId = item.sessionId) then fillBatch limit maxSamples rest batch else
    if limit ≤ batch.length ∨ maxSamples < totalSamples batch + item.sampleCount then batch else
    fillBatch limit maxSamples rest (batch ++ [item])

/-- How many jobs a batch may hold. -/
def batchLimit (caps : BackendCapabilities) : Nat := if caps.dispatchMode = .single then 1 else caps.maxBatchItems

/-- The batch that a sorted queue dispatches now; `[]` when nothing has to go yet. -/
def selectBatch (worker : WorkerId) (force : Bool) (now : Time) (queue : List InferenceJob) : List InferenceJob :=
  let caps := config.capabilities worker
  let dueFinals := queue.filter fun item => item.final && due config now item
  match dueFinals.head?.or queue.head? with
  | none => []
  | some first =>
    let limit := batchLimit caps
    let compatible := queue.filter fun item => item.batchKey = first.batchKey
    let full := decide (limit ≤ (compatible.map (·.sessionId)).dedup.length)
    if force || due config now first || full then fillBatch limit caps.maxBatchSamples compatible [] else []

/-- Sorts the queue and dispatches a batch. A job without an id makes `stable_batch_id`
    raise when the batch has already left the queue. -/
def dispatch (scheduler : GatewayScheduler) (worker : WorkerId) (force : Bool) (now : Time) : GatewayScheduler :=
  let queue := (scheduler.queues worker).insertionSort (earlier · ·)
  let batch := selectBatch config worker force now queue
  if batch = [] then (scheduler.setQueue worker queue).setStage worker .idle else
  let taken := (batch.foldl accept scheduler).setQueue worker (batch.foldl List.erase queue)
  if batch.any (·.jobId = []) then taken.setStage worker .idle else taken.setStage worker (.submitting batch)

/-- Takes a job out of the queue, before it is rejected. -/
def remove (scheduler : GatewayScheduler) (worker : WorkerId) (item : InferenceJob) : GatewayScheduler :=
  { scheduler.setQueue worker ((scheduler.queues worker).erase item) with
    queuedSamples := scheduler.queuedSamples - item.sampleCount }

/-- The loop over the cancelled jobs, and the dispatch after it. -/
def nextCancelled (scheduler : GatewayScheduler) (worker : WorkerId) (force : Bool) (now : Time) :
    List InferenceJob → GatewayScheduler
  | item :: rest => (scheduler.remove worker item).setStage worker (.rejectCancelled force item rest)
  | [] =>
    if scheduler.queues worker = [] then scheduler.setStage worker .idle
    else scheduler.dispatch config worker force now

/-- The loop over the expired jobs, and what follows it. -/
def nextExpired (scheduler : GatewayScheduler) (worker : WorkerId) (force : Bool) (now : Time) :
    List InferenceJob → GatewayScheduler
  | item :: rest => (scheduler.remove worker item).setStage worker (.rejectExpired force item rest)
  | [] =>
    if scheduler.queues worker = [] then scheduler.setStage worker .idle
    else scheduler.nextCancelled config worker force now ((scheduler.queues worker).filter scheduler.isCancelled)

/-- The last loop of `run_once`. -/
def nextFailure (scheduler : GatewayScheduler) (worker : WorkerId) : List Settlement → GatewayScheduler
  | current :: rest => scheduler.setStage worker (.publishFailures current rest)
  | [] => scheduler.setStage worker .idle

/-- The loop over the batch and its results. -/
def nextSettlement (scheduler : GatewayScheduler) (worker : WorkerId) (failures : List Settlement) :
    List Settlement → GatewayScheduler
  | current :: rest => scheduler.setStage worker (.cleanup current rest failures)
  | [] => scheduler.nextFailure worker failures

/-- Releases the audio of the batch and settles its jobs. -/
def settle (scheduler : GatewayScheduler) (worker : WorkerId) (settlements failures : List Settlement) : GatewayScheduler :=
  { scheduler with queuedSamples := scheduler.queuedSamples - totalSamples (jobsOf settlements) }.nextSettlement
    worker failures settlements

/-- The loop of `_drain_failed_queue`, and the settlement of the batch after it. -/
def nextDrain (scheduler : GatewayScheduler) (worker : WorkerId) (failures : List Settlement) (batch : List InferenceJob)
    (error : String) : List InferenceJob → GatewayScheduler
  | item :: rest => scheduler.setStage worker (.drainReject item rest failures batch error)
  | [] => scheduler.settle worker (batch.map fun job => (job,.failure job error)) failures

/-- `_drain_failed_queue`, called with the failed batch still to be settled. -/
def drainFailedQueue (scheduler : GatewayScheduler) (worker : WorkerId) (batch : List InferenceJob) (error : String) :
    GatewayScheduler :=
  let jobs := scheduler.queues worker
  { scheduler.setQueue worker [] with
    queuedSamples := scheduler.queuedSamples - totalSamples jobs }.nextDrain worker [] batch error jobs

/-- The exception path of a submission. -/
def failBatch (scheduler : GatewayScheduler) (worker : WorkerId) (batch : List InferenceJob) (typeName : String) : GatewayScheduler :=
  let error := typeName ++ ": batch failed"
  if (scheduler.submitFailures worker).isSome then scheduler.drainFailedQueue worker batch error else
  { scheduler with submitFailures := Function.update scheduler.submitFailures worker (some error) }.setStage worker
    (.workerFailed batch error)

def submitted (scheduler : GatewayScheduler) (worker : WorkerId) (batch : List InferenceJob)
    (raw : List (Option InferenceResult)) : GatewayScheduler :=
  if raw.length ≠ batch.length then scheduler.failBatch worker batch "RuntimeError" else
  if raw.any Option.isNone then scheduler.failBatch worker batch "TypeError" else
  scheduler.settle worker (batch.zipWith (fun job result => (job,coerceResult job result)) raw.reduceOption) []

/-- After a successful cleanup: results of cancelled or mismatched jobs are discarded. -/
def cleaned (scheduler : GatewayScheduler) (worker : WorkerId) (current : Settlement) (rest failures : List Settlement) :
    GatewayScheduler :=
  let (job,result) := current
  if scheduler.isCancelled job || result.generation ≠ job.generation || result.jobSequence ≠ job.jobSequence then
    scheduler.setStage worker (.discard job rest failures)
  else scheduler.setStage worker (.publish current rest failures)

/-- After a successful reject while a failed queue is drained. -/
def drained (scheduler : GatewayScheduler) (worker : WorkerId) (item : InferenceJob) (rest : List InferenceJob)
    (failures : List Settlement) (batch : List InferenceJob) (error : String) : GatewayScheduler :=
  if scheduler.isCancelled item then scheduler.setStage worker (.drainDiscard item rest failures batch error) else
  let failure := InferenceResult.failure item ((scheduler.submitFailures worker).getD "")
  scheduler.nextDrain worker (failures ++ [(item,failure)]) batch error rest

/-! ### `run_once` -/

/-- `run_once` up to its first suspension. -/
def runOnce (scheduler : GatewayScheduler) (worker : WorkerId) (force : Bool) (now : Time) : GatewayScheduler :=
  if (scheduler.submitFailures worker).isSome then scheduler.drainFailedQueue worker [] "" else
  if scheduler.queues worker = [] then scheduler.setStage worker .idle else
  scheduler.nextExpired config worker force now
    ((scheduler.queues worker).filter fun item => item.queueDeadline.any (· < now))

/-- `run_once` from a suspension to the next one, once the awaited call has answered. An
    exception that nothing catches ends the call. -/
def resume (scheduler : GatewayScheduler) (worker : WorkerId) (reply : Reply) (now : Time) : Option GatewayScheduler :=
  let ended := scheduler.setStage worker .idle
  match scheduler.stages worker, reply with
  | .rejectExpired force item rest, .done =>
    some (scheduler.setStage worker (.publishExpired force item rest))
  | .publishExpired force _ rest, .done => some (scheduler.nextExpired config worker force now rest)
  | .rejectCancelled force _ rest, .done | .rejectCancelled force _ rest, .stale
  | .rejectCancelled force _ rest, .raised _ => some (scheduler.nextCancelled config worker force now rest)
  | .submitting batch, .results raw => some (scheduler.submitted worker batch raw)
  | .submitting batch, .raised typeName => some (scheduler.failBatch worker batch typeName)
  | .workerFailed batch error, .done => some (scheduler.drainFailedQueue worker batch error)
  | .drainReject item rest failures batch error, .done =>
    some (scheduler.drained worker item rest failures batch error)
  | .drainReject item rest failures batch error, .stale | .drainReject item rest failures batch error, .raised _ =>
    some (scheduler.setStage worker (.drainDiscard item rest failures batch error))
  | .drainDiscard _ rest failures batch error, .done => some (scheduler.nextDrain worker failures batch error rest)
  | .cleanup current rest failures, .done => some (scheduler.cleaned worker current rest failures)
  | .cleanup current rest failures, .stale => some (scheduler.setStage worker (.discard current.1 rest failures))
  | .cleanup current rest failures, .raised _ =>
    some (scheduler.setStage worker (if (scheduler.submitFailures worker).isSome
      then .publishCleanupFailed current.1 rest failures else .cleanupFailed current.1 rest failures))
  | .cleanupFailed item rest failures, .done =>
    some (scheduler.setStage worker (.publishCleanupFailed item rest failures))
  | .discard item rest failures, .done | .publishCleanupFailed item rest failures, .done =>
    some ((scheduler.markSafe item).nextSettlement worker failures rest)
  | .publish current rest failures, .done =>
    some ((scheduler.markSafe current.1).nextSettlement worker failures rest)
  | .publishFailures _ rest, .done => some (scheduler.nextFailure worker rest)
  | .discard item _ _, .stale | .discard item _ _, .raised _ => some ((scheduler.markSafe item).setStage worker .idle)
  | .publish current _ _, .stale | .publish current _ _, .raised _ =>
    some ((scheduler.markSafe current.1).setStage worker .idle)
  | .rejectExpired .., .stale | .rejectExpired .., .raised _ | .publishExpired .., .stale
  | .publishExpired .., .raised _ | .workerFailed .., .stale | .workerFailed .., .raised _
  | .drainDiscard .., .stale | .drainDiscard .., .raised _ | .cleanupFailed .., .stale
  | .cleanupFailed .., .raised _ | .publishCleanupFailed .., .stale | .publishCleanupFailed .., .raised _
  | .publishFailures .., .stale | .publishFailures .., .raised _ => some ended
  | _, _ => none

end GatewayScheduler

/-- What happens to a scheduler: a call from outside, or an answer to a suspended
    `run_once`. -/
inductive SchedulerAction
  | enqueue (job : InferenceJob) (now : Time)
  | cancelSession (key : SessionKey)
  | runOnce (worker : WorkerId) (force : Bool) (now : Time)
  | resume (worker : WorkerId) (reply : Reply) (now : Time)
  | close
  deriving DecidableEq, Repr

/-- A `reject` hook that does not suspend answers before anything else happens. -/
def GatewayScheduler.enabled (config : SchedulerConfig) (rejectSuspends : Bool) (scheduler : GatewayScheduler)
    (action : SchedulerAction) : Bool :=
  rejectSuspends || config.workers.all fun worker =>
    (scheduler.stages worker).rejecting.isEmpty ||
      match action with
      | .resume resumed _ _ => decide (resumed = worker)
      | _ => false

/-- One step; calls of `run_once` for one worker do not overlap. -/
def GatewayScheduler.step (config : SchedulerConfig) (rejectSuspends : Bool) (scheduler : GatewayScheduler)
    (action : SchedulerAction) : Option GatewayScheduler :=
  if !scheduler.enabled config rejectSuspends action then none else
  match action with
  | .enqueue job now =>
    match scheduler.enqueue config now job with
    | .ok next => some next
    | .error _ => some scheduler
  | .cancelSession key => some (scheduler.cancelSession key)
  | .runOnce worker force now =>
    if scheduler.stages worker = .idle then some (scheduler.runOnce config worker force now) else none
  | .resume worker reply now => scheduler.resume config worker reply now
  | .close => some { scheduler with closed := true }

end SpeechGateway.Scheduling
