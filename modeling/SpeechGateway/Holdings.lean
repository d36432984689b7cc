import SpeechGateway.Settlement

/-!
What a worker holds. Its queue and its suspended `run_once` hold jobs, and results for some of
them; going on only moves the jobs and pairs them with results that name them (`resume_held`).
-/
namespace SpeechGateway.Scheduling

/-- The results that a suspended `run_once` holds, with their jobs. -/
def Stage.settlements : Stage → List Settlement
  | .drainReject _ _ failures _ _ | .drainDiscard _ _ failures _ _ => failures
  | .cleanup current rest failures | .publish current rest failures => current :: rest ++ failures
  | .discard _ rest failures | .cleanupFailed _ rest failures | .publishCleanupFailed _ rest failures => rest ++ failures
  | .publishFailures current rest => current :: rest
  | _ => []

/-- The jobs that a suspended `run_once` holds. -/
def Stage.jobs (stage : Stage) : List InferenceJob :=
  jobsOf stage.settlements ++ match stage with
    | .rejectExpired _ item rest | .publishExpired _ item rest | .rejectCancelled _ item rest => item :: rest
    | .submitting batch | .workerFailed batch _ => batch
    | .drainReject item rest _ batch _ | .drainDiscard item rest _ batch _ => item :: rest ++ batch
    | .discard item _ _ | .cleanupFailed item _ _ | .publishCleanupFailed item _ _ => [item]
    | _ => []

end SpeechGateway.Scheduling

namespace SpeechGateway.Settlement
open SpeechGateway.Scheduling GatewayScheduler

/-- The result names the job. -/
def Agrees (settlement : Settlement) : Prop :=
  settlement.2.jobId = settlement.1.jobId ∧ settlement.2.sessionId = settlement.1.sessionId ∧
    settlement.2.startSample = settlement.1.startSample ∧ settlement.2.endSample = settlement.1.endSample

/-- The result is of the job's generation, too. -/
def Matches (settlement : Settlement) : Prop :=
  settlement.2.generation = settlement.1.generation ∧ settlement.2.jobSequence = settlement.1.jobSequence

theorem failure_agrees (job : InferenceJob) (error : String) :
    Agrees (job,.failure job error) ∧ Matches (job,.failure job error) :=
  ⟨⟨rfl,rfl,rfl,rfl⟩,rfl,rfl⟩

theorem coerced_agrees (job : InferenceJob) (result : InferenceResult) : Agrees (job,coerceResult job result) := by
  unfold coerceResult
  split
  · exact (failure_agrees job _).1
  · rename_i same
    simp only [ne_eq,Prod.mk.injEq,not_not] at same
    obtain ⟨jobId,sessionId,_,start,stop⟩ := same
    exact ⟨jobId,sessionId,start,stop⟩

/-- Every job that a worker holds has the property, and every result names its job. -/
structure Held (P : InferenceJob → Prop) (queue : List InferenceJob) (stage : Stage) : Prop where
  queued : ∀ job ∈ queue, P job
  jobs : ∀ job ∈ stage.jobs, P job
  agreed : ∀ settlement ∈ stage.settlements, Agrees settlement
  matched : ∀ settlement ∈ stage.failures ++ stage.publishing, Matches settlement

section
variable {P : InferenceJob → Prop} {scheduler : GatewayScheduler} {worker : WorkerId}

/-- The worker holds jobs with the property only. -/
abbrev WorkerHolds (P : InferenceJob → Prop) (scheduler : GatewayScheduler) (worker : WorkerId) : Prop :=
  Held P (scheduler.queues worker) (scheduler.stages worker)

attribute [local simp] Stage.settlements Stage.jobs Stage.failures Stage.publishing jobsOf

theorem setStage_held {stage : Stage} (held : Held P (scheduler.queues worker) stage) :
    WorkerHolds P (scheduler.setStage worker stage) worker := by
  rwa [WorkerHolds,setStage_stage,setStage_queues]

theorem idle_held {queue : List InferenceJob} (queued : ∀ job ∈ queue, P job) : Held P queue .idle :=
  ⟨queued,by simp,by simp,by simp⟩

/-- Results that name their jobs, as far as they have to. -/
structure Named (P : InferenceJob → Prop) (settlements failures : List Settlement) : Prop where
  jobs : ∀ settlement ∈ settlements ++ failures, P settlement.1
  agreed : ∀ settlement ∈ settlements ++ failures, Agrees settlement
  matched : ∀ settlement ∈ failures, Matches settlement

theorem nextFailure_held {failures : List Settlement} (queued : ∀ job ∈ scheduler.queues worker, P job)
    (named : Named P [] failures) : WorkerHolds P (scheduler.nextFailure worker failures) worker := by
  obtain ⟨jobs,agreed,matched⟩ := named
  cases failures with
  | nil => exact setStage_held (idle_held queued)
  | cons current rest => exact setStage_held ⟨queued,by simp at jobs ⊢; grind,by simpa using agreed,by simp at matched ⊢; grind⟩

theorem nextSettlement_held {failures settlements : List Settlement} (queued : ∀ job ∈ scheduler.queues worker, P job)
    (named : Named P settlements failures) : WorkerHolds P (scheduler.nextSettlement worker failures settlements) worker := by
  cases settlements with
  | nil => exact nextFailure_held queued named
  | cons current rest =>
    obtain ⟨jobs,agreed,matched⟩ := named
    exact setStage_held ⟨queued,by simp at jobs ⊢; grind,by simpa using agreed,by simpa using matched⟩

theorem nextDrain_held {failures : List Settlement} {batch jobs : List InferenceJob} {error : String}
    (queued : ∀ job ∈ scheduler.queues worker, P job) (named : Named P [] failures) (batched : ∀ job ∈ batch, P job)
    (drained : ∀ job ∈ jobs, P job) : WorkerHolds P (scheduler.nextDrain worker failures batch error jobs) worker := by
  obtain ⟨failed,agreed,matched⟩ := named
  cases jobs with
  | nil =>
    refine nextSettlement_held queued ⟨?_,?_,matched⟩
    · simp at failed ⊢
      grind
    · intro settlement member
      rcases List.mem_append.mp member with fails | failure
      · obtain ⟨job,_,rfl⟩ := List.mem_map.mp fails
        exact (failure_agrees job error).1
      · exact agreed settlement (by simpa using failure)
  | cons item rest => exact setStage_held ⟨queued,by simp at failed drained ⊢; grind,by simpa using agreed,by simpa using matched⟩

theorem drainFailedQueue_held {batch : List InferenceJob} {error : String}
    (queued : ∀ job ∈ scheduler.queues worker, P job) (batched : ∀ job ∈ batch, P job) :
    WorkerHolds P (scheduler.drainFailedQueue worker batch error) worker :=
  nextDrain_held (by simp) ⟨by simp,by simp,by simp⟩ batched queued

theorem failBatch_held {batch : List InferenceJob} {typeName : String}
    (queued : ∀ job ∈ scheduler.queues worker, P job) (batched : ∀ job ∈ batch, P job) :
    WorkerHolds P (scheduler.failBatch worker batch typeName) worker := by
  unfold failBatch
  dsimp only
  split
  · exact drainFailedQueue_held queued batched
  · exact setStage_held ⟨queued,by simpa using batched,by simp,by simp⟩

theorem submitted_held {batch : List InferenceJob} {raw : List (Option InferenceResult)}
    (queued : ∀ job ∈ scheduler.queues worker, P job) (batched : ∀ job ∈ batch, P job) :
    WorkerHolds P (scheduler.submitted worker batch raw) worker := by
  unfold submitted
  split
  · exact failBatch_held queued batched
  split
  · exact failBatch_held queued batched
  have paired : ∀ settlement ∈ batch.zipWith (fun job result => (job,coerceResult job result)) raw.reduceOption,
      ∃ job ∈ batch, ∃ result, settlement = (job,coerceResult job result) := by
    intro settlement member
    obtain ⟨index,bound,rfl⟩ := List.getElem_of_mem member
    rw [List.length_zipWith] at bound
    exact ⟨_,List.getElem_mem (by omega),_,List.getElem_zipWith⟩
  refine nextSettlement_held queued ⟨?_,?_,by simp⟩
  · intro settlement member
    obtain ⟨job,inBatch,result,rfl⟩ := paired settlement (by simpa using member)
    exact batched job inBatch
  · intro settlement member
    obtain ⟨job,_,result,rfl⟩ := paired settlement (by simpa using member)
    exact coerced_agrees job result

theorem dispatch_held (config : SchedulerConfig) (force : Bool) (now : Time)
    (queued : ∀ job ∈ scheduler.queues worker, P job) : WorkerHolds P (scheduler.dispatch config worker force now) worker := by
  set queue := (scheduler.queues worker).insertionSort (earlier · ·) with queueIs
  have sorted : queue.Perm (scheduler.queues worker) := List.perm_insertionSort _ _
  set batch := selectBatch config worker force now queue with batchIs
  have sub : batch.Sublist queue := selectBatch_sublist config worker force now queue
  have rest : ∀ job ∈ batch.foldl List.erase queue, P job := by
    intro job member
    rw [← List.diff_eq_foldl] at member
    exact queued job (sorted.mem_iff.mp (List.diff_subset _ _ member))
  unfold dispatch
  dsimp only
  rw [← queueIs,← batchIs]
  split
  · refine setStage_held (idle_held ?_)
    rw [setQueue_queue]
    exact fun job member => queued job (sorted.mem_iff.mp member)
  split
  · refine setStage_held (idle_held ?_)
    rwa [setQueue_queue]
  · refine setStage_held ⟨by rwa [setQueue_queue],?_,by simp,by simp⟩
    simp only [Stage.jobs,Stage.settlements,jobsOf,List.map_nil,List.nil_append]
    exact fun job member => queued job (sorted.mem_iff.mp (sub.subset member))

theorem remove_queued {item : InferenceJob} (queued : ∀ job ∈ scheduler.queues worker, P job) :
    ∀ job ∈ (scheduler.remove worker item).queues worker, P job := by
  intro job member
  simp only [remove,setQueue_queue] at member
  exact queued job (List.mem_of_mem_erase member)

theorem nextCancelled_held (config : SchedulerConfig) (force : Bool) (now : Time) {claims : List InferenceJob}
    (queued : ∀ job ∈ scheduler.queues worker, P job) (claimed : ∀ job ∈ claims, P job) :
    WorkerHolds P (scheduler.nextCancelled config worker force now claims) worker := by
  cases claims with
  | nil =>
    rw [nextCancelled]
    split
    · exact setStage_held (idle_held queued)
    · exact dispatch_held config force now queued
  | cons item rest => exact setStage_held ⟨remove_queued queued,by simpa using claimed,by simp,by simp⟩

theorem nextExpired_held (config : SchedulerConfig) (force : Bool) (now : Time) {claims : List InferenceJob}
    (queued : ∀ job ∈ scheduler.queues worker, P job) (claimed : ∀ job ∈ claims, P job) :
    WorkerHolds P (scheduler.nextExpired config worker force now claims) worker := by
  cases claims with
  | nil =>
    rw [nextExpired]
    split
    · exact setStage_held (idle_held queued)
    · exact nextCancelled_held config force now queued fun job member => queued job (List.mem_of_mem_filter member)
  | cons item rest => exact setStage_held ⟨remove_queued queued,by simpa using claimed,by simp,by simp⟩

theorem runOnce_held (config : SchedulerConfig) (force : Bool) (now : Time)
    (queued : ∀ job ∈ scheduler.queues worker, P job) : WorkerHolds P (scheduler.runOnce config worker force now) worker := by
  unfold runOnce
  split
  · exact drainFailedQueue_held queued (by simp)
  split
  · exact setStage_held (idle_held queued)
  · exact nextExpired_held config force now queued fun job member => queued job (List.mem_of_mem_filter member)

/-- Whatever a hook or the adapter answers, the worker goes on with what it held. -/
theorem resume_held (config : SchedulerConfig) {next : GatewayScheduler} {reply : Reply} {now : Time}
    (held : WorkerHolds P scheduler worker) (resumed : scheduler.resume config worker reply now = some next) :
    WorkerHolds P next worker := by
  obtain ⟨queued,jobs,agreed,matched⟩ := held
  have marked : ∀ item, ∀ job ∈ (scheduler.markSafe item).queues worker, P job := by
    intro item
    rwa [(markSafe_keeps scheduler item).1]
  cases stage : scheduler.stages worker <;> rw [stage] at jobs agreed matched <;> cases reply <;>
    simp only [resume,stage,Option.some.injEq,reduceCtorEq] at resumed <;> subst resumed
  case rejectExpired.done => exact setStage_held ⟨queued,jobs,by simp,by simp [failure_agrees]⟩
  case publishExpired.done force item rest =>
    exact nextExpired_held config force now queued fun job member => jobs job (by simp [member])
  case rejectCancelled.done force item rest | rejectCancelled.stale force item rest
    | rejectCancelled.raised force item rest typeName =>
    exact nextCancelled_held config force now queued fun job member => jobs job (by simp [member])
  case submitting.results batch raw => exact submitted_held queued (by simpa using jobs)
  case submitting.raised batch typeName => exact failBatch_held queued (by simpa using jobs)
  case workerFailed.done batch error => exact drainFailedQueue_held queued (by simpa using jobs)
  case drainReject.done item rest failures batch error =>
    unfold drained
    split
    · exact setStage_held ⟨queued,jobs,agreed,matched⟩
    · refine nextDrain_held queued ⟨?_,?_,?_⟩ (fun job member => jobs job (by simp [member]))
        fun job member => jobs job (by simp [member])
      · simp at jobs ⊢
        grind
      · simp at agreed ⊢
        grind [failure_agrees]
      · simp at matched ⊢
        grind [failure_agrees]
  case drainReject.stale item rest failures batch error | drainReject.raised item rest failures batch error typeName =>
    exact setStage_held ⟨queued,jobs,agreed,matched⟩
  case drainDiscard.done item rest failures batch error =>
    refine nextDrain_held queued ⟨?_,by simpa using agreed,by simpa using matched⟩
      (fun job member => jobs job (by simp [member])) fun job member => jobs job (by simp [member])
    intro settlement member
    exact jobs _ (by simp at member ⊢; grind)
  case cleanup.done current rest failures =>
    unfold cleaned
    dsimp only
    split
    · exact setStage_held ⟨queued,by simp at jobs ⊢; grind,by simp at agreed ⊢; grind,by simpa using matched⟩
    · rename_i fresh
      refine setStage_held ⟨queued,jobs,agreed,?_⟩
      intro settlement member
      simp only [Stage.failures,Stage.publishing,List.mem_append,List.mem_singleton] at member
      rcases member with failure | rfl
      · exact matched settlement (by simpa using failure)
      · simp only [Bool.or_eq_true,decide_eq_true_eq,not_or,not_not] at fresh
        exact ⟨fresh.1.2,fresh.2⟩
  case cleanup.stale current rest failures =>
    exact setStage_held ⟨queued,by simp at jobs ⊢; grind,by simp at agreed ⊢; grind,by simpa using matched⟩
  case cleanup.raised current rest failures typeName =>
    split
    · exact setStage_held ⟨queued,by simp at jobs ⊢; grind,by simp at agreed ⊢; grind,by
        simp at matched ⊢; grind [failure_agrees]⟩
    · exact setStage_held ⟨queued,by simp at jobs ⊢; grind,by simp at agreed ⊢; grind,by simpa using matched⟩
  case cleanupFailed.done item rest failures =>
    exact setStage_held ⟨queued,jobs,agreed,by simp at matched ⊢; grind [failure_agrees]⟩
  case discard.done item rest failures | publishCleanupFailed.done item rest failures =>
    refine nextSettlement_held (marked item) ⟨by simp at jobs ⊢; grind,by simpa using agreed,?_⟩
    exact fun settlement member => matched settlement (by simp [member])
  case publish.done current rest failures =>
    refine nextSettlement_held (marked _) ⟨by simp at jobs ⊢; grind,by simp at agreed ⊢; grind,?_⟩
    exact fun settlement member => matched settlement (by simp [member])
  case publishFailures.done current rest =>
    exact nextFailure_held queued ⟨by simp at jobs ⊢; grind,by simp at agreed ⊢; grind,by simp at matched ⊢; grind⟩
  case discard.stale item rest failures | discard.raised item rest failures typeName
    | publish.stale item rest failures | publish.raised item rest failures typeName =>
    exact setStage_held (idle_held (marked _))
  all_goals exact setStage_held (idle_held queued)

end

end SpeechGateway.Settlement
