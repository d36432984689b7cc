import Mathlib.Algebra.BigOperators.Group.List.Basic
import Mathlib.Data.List.ReduceOption
import SpeechGateway.Scheduling

/-!
What `run_once` does with its jobs between two suspensions (`Advances`): each job that it
takes from the queue is offered to `reject` or submitted, each submitted job is offered to
`cleanup`, and no result is published twice. Every answer of a hook or of the adapter
advances the call in this sense (`resume_advances`).
-/
namespace SpeechGateway.Settlement
open SpeechGateway.Scheduling GatewayScheduler

section
variable (scheduler : GatewayScheduler) (worker other : WorkerId)

@[simp] theorem setStage_stage (stage : Stage) : (scheduler.setStage worker stage).stages worker = stage := by
  simp [setStage]
@[simp] theorem setStage_other (stage : Stage) (distinct : other ≠ worker) :
    (scheduler.setStage worker stage).stages other = scheduler.stages other := by
  simp [setStage,distinct]
@[simp] theorem setStage_queues (stage : Stage) : (scheduler.setStage worker stage).queues = scheduler.queues := rfl
@[simp] theorem setStage_samples (stage : Stage) :
    (scheduler.setStage worker stage).queuedSamples = scheduler.queuedSamples := rfl
@[simp] theorem setStage_accepted (stage : Stage) : (scheduler.setStage worker stage).accepted = scheduler.accepted := rfl
@[simp] theorem setStage_safe (stage : Stage) : (scheduler.setStage worker stage).safe = scheduler.safe := rfl
@[simp] theorem setQueue_queue (queue : List InferenceJob) :
    (scheduler.setQueue worker queue).queues worker = queue := by
  simp [setQueue]
@[simp] theorem setQueue_other (queue : List InferenceJob) (distinct : other ≠ worker) :
    (scheduler.setQueue worker queue).queues other = scheduler.queues other := by
  simp [setQueue,distinct]
@[simp] theorem setQueue_stages (queue : List InferenceJob) :
    (scheduler.setQueue worker queue).stages = scheduler.stages := rfl
@[simp] theorem setQueue_samples (queue : List InferenceJob) :
    (scheduler.setQueue worker queue).queuedSamples = scheduler.queuedSamples := rfl
@[simp] theorem setQueue_accepted (queue : List InferenceJob) :
    (scheduler.setQueue worker queue).accepted = scheduler.accepted := rfl
@[simp] theorem setQueue_safe (queue : List InferenceJob) :
    (scheduler.setQueue worker queue).safe = scheduler.safe := rfl

end

@[simp] theorem stamped_id (job : InferenceJob) (now : Time) : (job.stamped now).jobId = job.jobId := by
  unfold InferenceJob.stamped
  split <;> rfl
@[simp] theorem stamped_worker (job : InferenceJob) (now : Time) : (job.stamped now).workerId = job.workerId := by
  unfold InferenceJob.stamped
  split <;> rfl
@[simp] theorem stamped_samples (job : InferenceJob) (now : Time) :
    (job.stamped now).sampleCount = job.sampleCount := by
  unfold InferenceJob.stamped
  split <;> rfl

@[simp] theorem stamped_key (job : InferenceJob) (now : Time) : (job.stamped now).key = job.key := by
  unfold InferenceJob.stamped
  split <;> rfl

/-- What an accepted job changes, and the limits that it keeps. -/
theorem enqueue_ok {config : SchedulerConfig} {scheduler next : GatewayScheduler} {now : Time} {job : InferenceJob}
    (accepted : scheduler.enqueue config now job = .ok next) :
    next = { scheduler.setQueue job.workerId (scheduler.queues job.workerId ++ [job.stamped now]) with
        queuedSamples := scheduler.queuedSamples + job.sampleCount } ∧
      job.workerId ∈ config.workers ∧ (scheduler.submitFailures job.workerId).isSome = false ∧
      job.sampleCount ≠ 0 ∧ job.pcm.length = job.sampleCount * 2 ∧
      (scheduler.readyJobs config).length < config.maxReadyJobs ∧
      scheduler.queuedSamples + job.sampleCount ≤ config.maxQueuedSamples := by
  unfold enqueue at accepted
  split at accepted
  · cases accepted
  split at accepted
  · cases accepted
  rename_i known
  split at accepted
  · cases accepted
  rename_i healthy
  split at accepted
  · cases accepted
  rename_i shaped
  dsimp only at accepted
  split at accepted
  · cases accepted
  rename_i room
  split at accepted
  · cases accepted
  rename_i fits
  cases accepted
  obtain ⟨nonempty,length⟩ := not_or.mp shaped
  exact ⟨rfl,by simpa using known,by simpa using healthy,nonempty,not_not.mp length,Nat.not_le.mp room,not_lt.mp fits⟩

/-! ## What a part of `run_once` does with its jobs -/

/-- `run_once` of `worker` goes on from `scheduler`, holding `hands`, and suspends in
    `next`. No job is lost or used twice: what leaves the queue is offered to `reject` or
    submitted, what is submitted goes to `cleanup`, and each job is published at most once,
    after one of these. -/
structure Advances (scheduler : GatewayScheduler) (worker : WorkerId) (hands : Hands)
    (next : GatewayScheduler) : Prop where
  leaving : ∀ job, (next.queues worker).count job + (next.stages worker).hands.awaitingReject.count job +
      (next.stages worker).rejecting.count job + (next.stages worker).submissions.count job =
    (scheduler.queues worker).count job + hands.awaitingReject.count job
  cleaning : ∀ job, (next.stages worker).hands.awaitingCleanup.count job + (next.stages worker).cleaning.count job =
    hands.awaitingCleanup.count job + (next.stages worker).submissions.count job
  publishing : ∀ job, (jobsOf (next.stages worker).publishing).count job +
      (next.stages worker).hands.mayPublish.count job ≤
    hands.mayPublish.count job + (next.stages worker).rejecting.count job + (next.stages worker).cleaning.count job
  audio : next.queuedSamples + totalSamples (scheduler.queues worker) + totalSamples hands.unsettled =
    scheduler.queuedSamples + totalSamples (next.queues worker) + totalSamples (next.stages worker).hands.unsettled
  released : next.queuedSamples ≤ scheduler.queuedSamples
  claims : ∀ job, (next.stages worker).claims.count job ≤ (next.queues worker).count job
  shrinks : ∀ job, (next.queues worker).count job ≤ (scheduler.queues worker).count job
  others : ∀ other, other ≠ worker →
    next.queues other = scheduler.queues other ∧ next.stages other = scheduler.stages other
  safeKept : ∀ event ∈ scheduler.safe, event ∈ next.safe
  acceptedKept : ∀ key event, scheduler.accepted key = some event →
    event ∈ next.safe ∨ next.accepted key = some event
  unmarkedKept : ∀ job ∈ hands.unmarked, job ∈ (next.stages worker).hands.unmarked ∨
    ∀ event, scheduler.accepted job.key = some event → event ∈ next.safe
  submitted : ∀ job ∈ (next.stages worker).submissions,
    job ∈ (next.stages worker).hands.unmarked ∧ (next.accepted job.key).isSome

/-- Going on to a suspension without touching the queue or the audio count. -/
theorem setStage_advances (scheduler : GatewayScheduler) (worker : WorkerId) (hands : Hands) (stage : Stage)
    (leaving : ∀ job, stage.hands.awaitingReject.count job + stage.rejecting.count job =
      hands.awaitingReject.count job)
    (none : stage.submissions = [])
    (cleaning : ∀ job, stage.hands.awaitingCleanup.count job + stage.cleaning.count job =
      hands.awaitingCleanup.count job)
    (publishing : ∀ job, (jobsOf stage.publishing).count job + stage.hands.mayPublish.count job ≤
      hands.mayPublish.count job + stage.rejecting.count job + stage.cleaning.count job)
    (audio : totalSamples stage.hands.unsettled = totalSamples hands.unsettled)
    (claims : ∀ job, stage.claims.count job ≤ (scheduler.queues worker).count job)
    (unmarked : ∀ job ∈ hands.unmarked, job ∈ stage.hands.unmarked) :
    Advances scheduler worker hands (scheduler.setStage worker stage) where
  leaving job := by
    have := leaving job
    simp only [setStage_stage,setStage_queues,none,List.count_nil]
    omega
  cleaning job := by simpa [none] using cleaning job
  publishing job := by simpa using publishing job
  audio := by
    simp only [setStage_stage,setStage_queues,setStage_samples]
    omega
  released := Int.le_refl _
  claims job := by simpa using claims job
  shrinks job := Nat.le_refl _
  others other distinct := ⟨rfl,setStage_other _ _ _ _ distinct⟩
  safeKept event member := member
  acceptedKept key event found := .inr found
  unmarkedKept job member := .inl (by simpa using unmarked job member)
  submitted := by simp [none]

attribute [local simp] Stage.hands Stage.rejecting Stage.submissions Stage.cleaning Stage.publishing Stage.claims jobsOf

theorem nextFailure_advances (scheduler : GatewayScheduler) (worker : WorkerId) (failures : List Settlement) :
    Advances scheduler worker { mayPublish := jobsOf failures } (scheduler.nextFailure worker failures) := by
  cases failures with
  | nil => apply setStage_advances <;> simp
  | cons current rest => apply setStage_advances <;> simp [List.count_cons,Nat.add_comm]

theorem nextSettlement_advances (scheduler : GatewayScheduler) (worker : WorkerId) (failures settlements : List Settlement) :
    Advances scheduler worker
      { awaitingCleanup := jobsOf settlements, mayPublish := jobsOf failures, unmarked := jobsOf settlements }
      (scheduler.nextSettlement worker failures settlements) := by
  cases settlements with
  | nil => exact nextFailure_advances scheduler worker failures
  | cons current rest => apply setStage_advances <;> simp [List.count_cons,Nat.add_comm]

/-- The audio of the batch is released before its first cleanup. -/
theorem settle_advances (scheduler : GatewayScheduler) (worker : WorkerId) (settlements failures : List Settlement) :
    Advances scheduler worker
      ⟨[],jobsOf settlements,jobsOf failures,jobsOf settlements,jobsOf settlements⟩
      (scheduler.settle worker settlements failures) := by
  have settled := nextSettlement_advances
    { scheduler with queuedSamples := scheduler.queuedSamples - totalSamples (jobsOf settlements) }
    worker failures settlements
  exact { settled with
    audio := by
      have := settled.audio
      simp only [GatewayScheduler.settle] at this ⊢
      simp only [totalSamples,List.map_nil,List.sum_nil] at this ⊢
      omega
    released := by
      have := settled.released
      simp only [GatewayScheduler.settle] at this ⊢
      omega }

theorem jobsOf_failing (batch : List InferenceJob) (error : String) :
    jobsOf (batch.map fun job => (job,.failure job error)) = batch := by
  simp [jobsOf,Function.comp_def]

theorem nextDrain_advances (scheduler : GatewayScheduler) (worker : WorkerId) (failures : List Settlement)
    (batch : List InferenceJob) (error : String) (jobs : List InferenceJob) :
    Advances scheduler worker ⟨jobs,batch,jobsOf failures,batch,batch⟩
      (scheduler.nextDrain worker failures batch error jobs) := by
  cases jobs with
  | nil =>
    have settled := settle_advances scheduler worker (batch.map fun job => (job,.failure job error)) failures
    rw [jobsOf_failing] at settled
    exact settled
  | cons item rest => apply setStage_advances <;> simp [List.count_cons,Nat.add_comm]

/-- The whole queue is taken over, and its audio is released at once. -/
theorem drainFailedQueue_advances (scheduler : GatewayScheduler) (worker : WorkerId) (batch : List InferenceJob)
    (error : String) :
    Advances scheduler worker { awaitingCleanup := batch, unsettled := batch, unmarked := batch }
      (scheduler.drainFailedQueue worker batch error) := by
  have drained := nextDrain_advances
    { scheduler.setQueue worker [] with
      queuedSamples := scheduler.queuedSamples - totalSamples (scheduler.queues worker) }
    worker [] batch error (scheduler.queues worker)
  exact {
    leaving := by simpa [GatewayScheduler.drainFailedQueue] using drained.leaving
    cleaning := drained.cleaning
    publishing := drained.publishing
    audio := by
      have := drained.audio
      simp only [GatewayScheduler.drainFailedQueue,setQueue_queue] at this ⊢
      simp only [totalSamples,List.map_nil,List.sum_nil] at this ⊢
      omega
    released := by
      have := drained.released
      simp only [GatewayScheduler.drainFailedQueue] at this ⊢
      omega
    claims := drained.claims
    shrinks := by
      intro job
      have := drained.shrinks job
      simp only [setQueue_queue,List.count_nil] at this
      exact this.trans (Nat.zero_le _)
    others := by
      intro other distinct
      obtain ⟨queue,stage⟩ := drained.others other distinct
      exact ⟨queue.trans (setQueue_other _ _ _ _ distinct),stage⟩
    safeKept := drained.safeKept
    acceptedKept := drained.acceptedKept
    unmarkedKept := drained.unmarkedKept
    submitted := drained.submitted }

theorem failBatch_advances (scheduler : GatewayScheduler) (worker : WorkerId) (batch : List InferenceJob)
    (typeName : String) :
    Advances scheduler worker { awaitingCleanup := batch, unsettled := batch, unmarked := batch }
      (scheduler.failBatch worker batch typeName) := by
  unfold GatewayScheduler.failBatch
  split
  · exact drainFailedQueue_advances scheduler worker batch _
  · have failed := setStage_advances
      { scheduler with
        submitFailures := Function.update scheduler.submitFailures worker (some (typeName ++ ": batch failed")) }
      worker { awaitingCleanup := batch, unsettled := batch, unmarked := batch }
      (.workerFailed batch (typeName ++ ": batch failed"))
      (by simp) (by simp) (by simp) (by simp) (by simp) (by simp) (by simp)
    exact { failed with }

theorem jobsOf_coerced (batch : List InferenceJob) (results : List InferenceResult)
    (same : results.length = batch.length) :
    jobsOf (batch.zipWith (fun job result => (job,coerceResult job result)) results) = batch := by
  induction batch generalizing results with
  | nil => simp
  | cons job rest ih =>
    cases results with
    | nil => cases same
    | cons result later => simpa using ih later (Nat.succ.inj same)

theorem submitted_advances (scheduler : GatewayScheduler) (worker : WorkerId) (batch : List InferenceJob)
    (raw : List (Option InferenceResult)) :
    Advances scheduler worker { awaitingCleanup := batch, unsettled := batch, unmarked := batch }
      (scheduler.submitted worker batch raw) := by
  unfold GatewayScheduler.submitted
  split
  · exact failBatch_advances scheduler worker batch _
  rename_i counted
  split
  · exact failBatch_advances scheduler worker batch _
  rename_i wellFormed
  have settled := settle_advances scheduler worker
    (batch.zipWith (fun job result => (job,coerceResult job result)) raw.reduceOption) []
  have present : ∀ result ∈ raw, result.isSome := by
    intro result member
    by_contra missing
    exact wellFormed (List.any_eq_true.mpr ⟨result,member,by simpa using missing⟩)
  rw [jobsOf_coerced _ _ ((List.reduceOption_length_eq_iff.mpr present).trans (not_not.mp counted))] at settled
  exact settled

theorem fillBatch_sublist (limit maxSamples : Nat) (jobs batch : List InferenceJob) :
    ∃ more, fillBatch limit maxSamples jobs batch = batch ++ more ∧ more.Sublist jobs := by
  induction jobs generalizing batch with
  | nil => exact ⟨[],by simp [fillBatch],List.Sublist.refl _⟩
  | cons item rest ih =>
    unfold fillBatch
    split
    · obtain ⟨more,filled,sub⟩ := ih batch
      exact ⟨more,filled,sub.cons item⟩
    split
    · exact ⟨[],by simp,List.nil_sublist _⟩
    · obtain ⟨more,filled,sub⟩ := ih (batch ++ [item])
      exact ⟨item :: more,by rw [filled]; simp,sub.cons_cons item⟩

theorem selectBatch_sublist (config : SchedulerConfig) (worker : WorkerId) (force : Bool) (now : Time)
    (queue : List InferenceJob) : (selectBatch config worker force now queue).Sublist queue := by
  unfold selectBatch
  dsimp only
  split
  · exact List.nil_sublist _
  split
  · rename_i first _ _
    obtain ⟨more,filled,sub⟩ := fillBatch_sublist
      (batchLimit (config.capabilities worker)) (config.capabilities worker).maxBatchSamples (queue.filter fun item => item.batchKey = first.batchKey) []
    rw [filled,List.nil_append]
    exact sub.trans List.filter_sublist
  · exact List.nil_sublist _

/-- Registering safe events touches nothing else, and keeps those that exist. -/
theorem acceptAll_keeps (batch : List InferenceJob) (scheduler : GatewayScheduler) :
    (batch.foldl accept scheduler).queues = scheduler.queues ∧
      (batch.foldl accept scheduler).stages = scheduler.stages ∧
      (batch.foldl accept scheduler).queuedSamples = scheduler.queuedSamples ∧
      (batch.foldl accept scheduler).safe = scheduler.safe ∧
      (batch.foldl accept scheduler).cancelledGenerations = scheduler.cancelledGenerations ∧
      (batch.foldl accept scheduler).submitFailures = scheduler.submitFailures ∧
      (batch.foldl accept scheduler).closed = scheduler.closed := by
  induction batch generalizing scheduler with
  | nil => exact ⟨rfl,rfl,rfl,rfl,rfl,rfl,rfl⟩
  | cons job rest ih =>
    have head : (scheduler.accept job).queues = scheduler.queues ∧ (scheduler.accept job).stages = scheduler.stages ∧
        (scheduler.accept job).queuedSamples = scheduler.queuedSamples ∧
        (scheduler.accept job).safe = scheduler.safe ∧
        (scheduler.accept job).cancelledGenerations = scheduler.cancelledGenerations ∧
        (scheduler.accept job).submitFailures = scheduler.submitFailures ∧
        (scheduler.accept job).closed = scheduler.closed := by
      unfold accept
      split <;> exact ⟨rfl,rfl,rfl,rfl,rfl,rfl,rfl⟩
    simpa only [List.foldl_cons,head] using ih (scheduler.accept job)

theorem accept_accepted (scheduler : GatewayScheduler) (job : InferenceJob) {key : SessionKey} {event : Nat}
    (found : scheduler.accepted key = some event) : (scheduler.accept job).accepted key = some event := by
  unfold accept
  split
  · exact found
  · rename_i free
    have distinct : key ≠ job.key := by
      rintro rfl
      simp [free] at found
    simpa [distinct] using found

theorem acceptAll_accepted (batch : List InferenceJob) (scheduler : GatewayScheduler) {key : SessionKey} {event : Nat}
    (found : scheduler.accepted key = some event) : (batch.foldl accept scheduler).accepted key = some event := by
  induction batch generalizing scheduler with
  | nil => exact found
  | cons job rest ih => exact ih _ (accept_accepted scheduler job found)

theorem acceptAll_batch (batch : List InferenceJob) (scheduler : GatewayScheduler) {job : InferenceJob}
    (member : job ∈ batch) : ((batch.foldl accept scheduler).accepted job.key).isSome := by
  induction batch generalizing scheduler with
  | nil => cases member
  | cons first rest ih =>
    rcases List.mem_cons.mp member with rfl | later
    · have registered : ∃ event, (scheduler.accept job).accepted job.key = some event := by
        unfold accept
        split
        · rename_i event found
          exact ⟨event,found⟩
        · exact ⟨scheduler.nextEvent,by simp⟩
      obtain ⟨event,found⟩ := registered
      rw [List.foldl_cons,acceptAll_accepted rest _ found]
      rfl
    · exact ih _ later

theorem totalSamples_perm {first second : List InferenceJob} (perm : first.Perm second) :
    totalSamples first = totalSamples second := (perm.map _).sum_eq

theorem totalSamples_append (first second : List InferenceJob) :
    totalSamples (first ++ second) = totalSamples first + totalSamples second := by
  simp [totalSamples]

/-- A batch and what it leaves in the queue are the queue. -/
theorem batch_perm {batch queue : List InferenceJob} (sub : batch.Sublist queue) :
    (batch ++ batch.foldl List.erase queue).Perm queue := by
  rw [← List.diff_eq_foldl]
  exact List.subperm_append_diff_self_of_count_le (fun job _ => sub.count_le job)

theorem dispatch_advances (config : SchedulerConfig) (scheduler : GatewayScheduler) (worker : WorkerId) (force : Bool)
    (now : Time) (named : ∀ job ∈ scheduler.queues worker, job.jobId ≠ []) :
    Advances scheduler worker {} (scheduler.dispatch config worker force now) := by
  set queue := (scheduler.queues worker).insertionSort (earlier · ·) with queueIs
  have sorted : queue.Perm (scheduler.queues worker) := List.perm_insertionSort _ _
  have counted : ∀ job, queue.count job = (scheduler.queues worker).count job := fun job => sorted.count_eq job
  set batch := selectBatch config worker force now queue with batchIs
  have sub : batch.Sublist queue := selectBatch_sublist config worker force now queue
  by_cases none : batch = []
  · have waits : scheduler.dispatch config worker force now = (scheduler.setQueue worker queue).setStage worker .idle := by
      simp only [dispatch,← queueIs,← batchIs,none,if_true]
    rw [waits]
    have idle := setStage_advances (scheduler.setQueue worker queue) worker {} .idle (by simp) (by simp) (by simp)
      (by simp) (by simp) (by simp) (by simp)
    exact { idle with
      leaving := by
        intro job
        have := idle.leaving job
        simp only [setQueue_queue,counted] at this
        exact this
      audio := by
        have := idle.audio
        simp only [setQueue_queue,setQueue_samples,totalSamples_perm sorted] at this
        exact this
      shrinks := by
        intro job
        have := idle.shrinks job
        simp only [setQueue_queue,counted] at this
        exact this
      others := by
        intro other distinct
        obtain ⟨same,stage⟩ := idle.others other distinct
        exact ⟨same.trans (setQueue_other _ _ _ _ distinct),stage⟩ }
  · have unnamed : batch.any (·.jobId = []) = false := by
      simp only [List.any_eq_false,decide_eq_true_eq]
      intro job member
      exact named job (sorted.mem_iff.mp (sub.subset member))
    have goes : scheduler.dispatch config worker force now =
        ((batch.foldl accept scheduler).setQueue worker (batch.foldl List.erase queue)).setStage worker
          (.submitting batch) := by
      simp [dispatch,← queueIs,← batchIs,none,unnamed]
    obtain ⟨queues,stages,samples,safe,_,_,_⟩ := acceptAll_keeps batch scheduler
    have taken := batch_perm sub
    rw [goes]
    exact {
      leaving := by
        intro job
        have := (taken.trans sorted).count_eq job
        simp [List.count_append] at this ⊢
        omega
      cleaning := by simp
      publishing := by simp
      audio := by
        have := totalSamples_perm (taken.trans sorted)
        rw [totalSamples_append] at this
        simp only [setStage_queues,setStage_stage,setStage_samples,setQueue_queue,setQueue_samples,samples,
          Stage.hands]
        simp only [totalSamples,List.map_nil,List.sum_nil] at this ⊢
        omega
      released := by simp [samples]
      claims := by simp
      shrinks := by
        intro job
        have := (taken.trans sorted).count_eq job
        simp [List.count_append] at this ⊢
        omega
      others := by
        intro other distinct
        simp [distinct,queues,stages]
      safeKept := by simp [safe]
      acceptedKept := by
        intro key event found
        exact .inr (acceptAll_accepted batch scheduler found)
      unmarkedKept := by simp
      submitted := by
        intro job member
        simp only [setStage_stage,Stage.submissions] at member
        exact ⟨by simpa using member,acceptAll_batch batch scheduler member⟩ }

/-- A claimed job leaves the queue and is offered to `reject`. -/
theorem remove_advances (scheduler : GatewayScheduler) (worker : WorkerId) {item : InferenceJob}
    {rest : List InferenceJob} (stage : Stage)
    (claimed : ∀ job, (item :: rest).count job ≤ (scheduler.queues worker).count job)
    (rejecting : stage.rejecting = [item]) (remaining : stage.claims = rest)
    (hands : stage.hands = { mayPublish := stage.hands.mayPublish })
    (publishable : ∀ job, stage.hands.mayPublish.count job ≤ [item].count job)
    (silent : stage.submissions = [] ∧ stage.cleaning = [] ∧ stage.publishing = []) :
    Advances scheduler worker {} ((scheduler.remove worker item).setStage worker stage) := by
  have present : item ∈ scheduler.queues worker := by
    have := claimed item
    rw [List.count_cons_self] at this
    exact List.count_pos_iff.mp (by omega)
  have erased : ∀ job, ((scheduler.queues worker).erase item).count job + [item].count job =
      (scheduler.queues worker).count job := by
    intro job
    have := (List.perm_cons_erase present).count_eq job
    simp only [List.count_cons,List.count_nil] at this ⊢
    omega
  obtain ⟨submissions,cleaning,publishing⟩ := silent
  exact {
    leaving := by
      intro job
      have := erased job
      rw [setStage_stage,hands,rejecting,submissions]
      simp only [remove,setStage_queues,setQueue_queue,List.count_nil]
      omega
    cleaning := by
      intro job
      rw [setStage_stage,hands,submissions,cleaning]
    publishing := by
      intro job
      rw [setStage_stage,rejecting,cleaning,publishing]
      have := publishable job
      simp only [jobsOf,List.map_nil,List.count_nil]
      omega
    audio := by
      have := totalSamples_perm (List.perm_cons_erase present)
      rw [setStage_stage,hands]
      simp only [remove,setStage_queues,setQueue_queue,setStage_samples]
      simp only [totalSamples,List.map_cons,List.sum_cons,List.map_nil,List.sum_nil] at this ⊢
      omega
    released := by
      simp only [remove,setStage_samples]
      omega
    claims := by
      intro job
      have := erased job
      have := claimed job
      rw [setStage_stage,remaining]
      rw [List.count_cons] at this
      simp only [remove,setStage_queues,setQueue_queue,List.count_singleton] at *
      omega
    shrinks := by
      intro job
      have := erased job
      simp only [remove,setStage_queues,setQueue_queue]
      omega
    others := by
      intro other distinct
      exact ⟨setQueue_other _ _ _ _ distinct,setStage_other _ _ _ _ distinct⟩
    safeKept := fun event member => member
    acceptedKept := fun key event found => .inr found
    unmarkedKept := by simp
    submitted := by
      intro job member
      rw [setStage_stage,submissions] at member
      cases member }

theorem nextCancelled_advances (config : SchedulerConfig) (scheduler : GatewayScheduler) (worker : WorkerId)
    (force : Bool) (now : Time) (named : ∀ job ∈ scheduler.queues worker, job.jobId ≠ []) (claims : List InferenceJob)
    (claimed : ∀ job, claims.count job ≤ (scheduler.queues worker).count job) :
    Advances scheduler worker {} (scheduler.nextCancelled config worker force now claims) := by
  cases claims with
  | nil =>
    simp only [nextCancelled]
    split
    · apply setStage_advances <;> simp
    · exact dispatch_advances config scheduler worker force now named
  | cons item rest =>
    exact remove_advances scheduler worker (.rejectCancelled force item rest) claimed rfl rfl rfl (by simp) ⟨rfl,rfl,rfl⟩

theorem nextExpired_advances (config : SchedulerConfig) (scheduler : GatewayScheduler) (worker : WorkerId)
    (force : Bool) (now : Time) (named : ∀ job ∈ scheduler.queues worker, job.jobId ≠ []) (claims : List InferenceJob)
    (claimed : ∀ job, claims.count job ≤ (scheduler.queues worker).count job) :
    Advances scheduler worker {} (scheduler.nextExpired config worker force now claims) := by
  cases claims with
  | nil =>
    simp only [nextExpired]
    split
    · apply setStage_advances <;> simp
    · exact nextCancelled_advances config scheduler worker force now named _
        (fun job => List.filter_sublist.count_le job)
  | cons item rest =>
    exact remove_advances scheduler worker (.rejectExpired force item rest) claimed rfl rfl rfl (by simp) ⟨rfl,rfl,rfl⟩

theorem runOnce_advances (config : SchedulerConfig) (scheduler : GatewayScheduler) (worker : WorkerId)
    (force : Bool) (now : Time) (named : ∀ job ∈ scheduler.queues worker, job.jobId ≠ []) :
    Advances scheduler worker {} (scheduler.runOnce config worker force now) := by
  unfold runOnce
  split
  · exact drainFailedQueue_advances scheduler worker [] ""
  split
  · apply setStage_advances <;> simp
  · exact nextExpired_advances config scheduler worker force now named _ (fun job => List.filter_sublist.count_le job)

/-- A batch is unsettled as a whole until its first cleanup. -/
theorem unsettled_cases (stage : Stage) :
    stage.hands.unsettled = [] ∨ stage.hands.unsettled = stage.hands.awaitingCleanup := by
  cases stage <;> simp

/-! ## One answer -/

theorem cleaned_advances (scheduler : GatewayScheduler) (worker : WorkerId) (current : Settlement)
    (rest failures : List Settlement) :
    Advances scheduler worker (Stage.cleanup current rest failures).hands
      (scheduler.cleaned worker current rest failures) := by
  unfold cleaned
  dsimp only
  split
  · apply setStage_advances <;> simp [List.count_cons]
  · apply setStage_advances <;> simp [List.count_cons,Nat.add_comm]

theorem drained_advances (scheduler : GatewayScheduler) (worker : WorkerId) (item : InferenceJob)
    (rest : List InferenceJob) (failures : List Settlement) (batch : List InferenceJob) (error : String) :
    Advances scheduler worker (Stage.drainReject item rest failures batch error).hands
      (scheduler.drained worker item rest failures batch error) := by
  unfold drained
  split
  · apply setStage_advances <;> simp [List.count_cons]
  · have next := nextDrain_advances scheduler worker
      (failures ++ [(item,.failure item ((scheduler.submitFailures worker).getD ""))]) batch error rest
    exact { next with
      publishing := by
        intro job
        have same : (jobsOf (failures ++ [(item,.failure item ((scheduler.submitFailures worker).getD ""))])).count job =
            (item :: jobsOf failures).count job := by
          simp [List.count_cons]
        exact same ▸ next.publishing job }

/-- Marking a job safe loses no event, and marks every job of its session generation. -/
theorem markSafe_keeps (scheduler : GatewayScheduler) (item : InferenceJob) :
    (scheduler.markSafe item).queues = scheduler.queues ∧ (scheduler.markSafe item).stages = scheduler.stages ∧
      (scheduler.markSafe item).queuedSamples = scheduler.queuedSamples ∧
      (∀ event ∈ scheduler.safe, event ∈ (scheduler.markSafe item).safe) ∧
      (∀ key event, scheduler.accepted key = some event →
        event ∈ (scheduler.markSafe item).safe ∨ (scheduler.markSafe item).accepted key = some event) ∧
      ∀ event, scheduler.accepted item.key = some event → event ∈ (scheduler.markSafe item).safe := by
  unfold markSafe
  split
  · rename_i free
    exact ⟨rfl,rfl,rfl,fun _ member => member,fun _ _ found => .inr found,by simp [free]⟩
  · rename_i event found
    refine ⟨rfl,rfl,rfl,?_,?_,?_⟩
    · intro other member
      exact List.mem_cons_of_mem _ member
    · intro key other registered
      by_cases same : key = item.key
      · subst same
        rw [found] at registered
        cases registered
        exact .inl List.mem_cons_self
      · exact .inr (by simpa [same] using registered)
    · intro other registered
      rw [found] at registered
      cases registered
      exact List.mem_cons_self

/-- A settled job is marked safe, and the next one is settled. -/
theorem markSafe_advances (scheduler : GatewayScheduler) (worker : WorkerId) (item : InferenceJob)
    (rest failures : List Settlement) :
    Advances scheduler worker ⟨[],jobsOf rest,jobsOf failures,[],item :: jobsOf rest⟩
      ((scheduler.markSafe item).nextSettlement worker failures rest) := by
  obtain ⟨queues,stages,samples,safeKept,acceptedKept,marked⟩ := markSafe_keeps scheduler item
  have next := nextSettlement_advances (scheduler.markSafe item) worker failures rest
  exact {
    leaving := by simpa only [queues] using next.leaving
    cleaning := next.cleaning
    publishing := next.publishing
    audio := by simpa only [queues,samples] using next.audio
    released := by simpa only [samples] using next.released
    claims := next.claims
    shrinks := by simpa only [queues] using next.shrinks
    others := by
      intro other distinct
      obtain ⟨queue,stage⟩ := next.others other distinct
      exact ⟨by rw [queue,queues],by rw [stage,stages]⟩
    safeKept := fun event member => next.safeKept event (safeKept event member)
    acceptedKept := by
      intro key event found
      rcases acceptedKept key event found with safe | kept
      · exact .inl (next.safeKept event safe)
      · exact next.acceptedKept key event kept
    unmarkedKept := by
      intro job member
      rcases List.mem_cons.mp member with rfl | later
      · exact .inr fun event found => next.safeKept event (marked event found)
      · rcases next.unmarkedKept job later with still | safe
        · exact .inl still
        · refine .inr ?_
          intro event found
          rcases acceptedKept job.key event found with earlier | kept
          · exact next.safeKept event earlier
          · exact safe event kept
    submitted := next.submitted }

/-- The awaited call answers as the hooks do when `publish`, `discard`, `reject` and
    `worker_failed` do not raise; `cleanup` and the adapter may. -/
def hookReturns (stage : Stage) (reply : Reply) : Bool :=
  match stage with
  | .submitting _ | .cleanup .. => true
  | _ => decide (reply = .done)

/-- A suspended `run_once` goes on with the jobs it holds, once the awaited call is done. -/
theorem done_advances (config : SchedulerConfig) (scheduler next : GatewayScheduler) (worker : WorkerId) (now : Time)
    (named : ∀ job ∈ scheduler.queues worker, job.jobId ≠ [])
    (claimed : ∀ job, (scheduler.stages worker).claims.count job ≤ (scheduler.queues worker).count job)
    (resumed : scheduler.resume config worker .done now = some next) :
    Advances scheduler worker (scheduler.stages worker).hands next := by
  cases stage : scheduler.stages worker <;> rw [stage] at claimed <;>
    simp only [resume,stage,Option.some.injEq,reduceCtorEq] at resumed <;> subst resumed
  case rejectExpired force item rest => apply setStage_advances <;> simp; exact claimed
  case publishExpired force item rest =>
    exact nextExpired_advances config scheduler worker force now named rest claimed
  case rejectCancelled force item rest =>
    exact nextCancelled_advances config scheduler worker force now named rest claimed
  case workerFailed batch error => exact drainFailedQueue_advances scheduler worker batch error
  case drainReject item rest failures batch error =>
    exact drained_advances scheduler worker item rest failures batch error
  case drainDiscard item rest failures batch error =>
    exact nextDrain_advances scheduler worker failures batch error rest
  case cleanup current rest failures => exact cleaned_advances scheduler worker current rest failures
  case discard item rest failures => exact markSafe_advances scheduler worker item rest failures
  case cleanupFailed item rest failures => apply setStage_advances <;> simp [List.count_cons,Nat.add_comm]
  case publishCleanupFailed item rest failures => exact markSafe_advances scheduler worker item rest failures
  case publish current rest failures => exact markSafe_advances scheduler worker current.1 rest failures
  case publishFailures current rest => exact nextFailure_advances scheduler worker rest

/-- The same for every answer of the adapter and of `cleanup`. -/
theorem resume_advances (config : SchedulerConfig) (scheduler next : GatewayScheduler) (worker : WorkerId)
    (reply : Reply) (now : Time) (named : ∀ job ∈ scheduler.queues worker, job.jobId ≠ [])
    (claimed : ∀ job, (scheduler.stages worker).claims.count job ≤ (scheduler.queues worker).count job)
    (returns : hookReturns (scheduler.stages worker) reply)
    (resumed : scheduler.resume config worker reply now = some next) :
    Advances scheduler worker (scheduler.stages worker).hands next := by
  by_cases done : reply = .done
  · subst done
    exact done_advances config scheduler next worker now named claimed resumed
  cases stage : scheduler.stages worker <;> rw [stage] at returns <;>
    simp only [hookReturns,done,decide_false,Bool.false_eq_true] at returns
  case submitting batch =>
    cases reply with
    | results raw =>
      simp only [resume,stage,Option.some.injEq] at resumed
      exact resumed ▸ submitted_advances scheduler worker batch raw
    | raised typeName =>
      simp only [resume,stage,Option.some.injEq] at resumed
      exact resumed ▸ failBatch_advances scheduler worker batch typeName
    | done => exact absurd rfl done
    | stale => simp [resume,stage] at resumed
  case cleanup current rest failures =>
    cases reply with
    | stale =>
      simp only [resume,stage,Option.some.injEq] at resumed
      subst resumed
      apply setStage_advances <;> simp [List.count_cons]
    | raised typeName =>
      simp only [resume,stage,Option.some.injEq] at resumed
      subst resumed
      split
      · apply setStage_advances <;> simp [List.count_cons,Nat.add_comm]
      · apply setStage_advances <;> simp
    | done => exact absurd rfl done
    | results raw => simp [resume,stage] at resumed

/-- Nothing here may be shown as a success. -/
def Failing (settlements : List Settlement) : Prop := ∀ settlement ∈ settlements, settlement.2.error ≠ none

/-- The failures that a stage publishes now or later. -/
def StageFailing (stage : Stage) : Prop := Failing stage.failures ∧ Failing stage.publishing

theorem setStage_failing (scheduler : GatewayScheduler) (worker : WorkerId) {stage : Stage}
    (kept : Failing stage.failures) (silent : Failing stage.publishing) :
    StageFailing ((scheduler.setStage worker stage).stages worker) := by
  rw [setStage_stage]
  exact ⟨kept,silent⟩

theorem nextFailure_failing (scheduler : GatewayScheduler) (worker : WorkerId) {failures : List Settlement}
    (failing : Failing failures) : StageFailing ((scheduler.nextFailure worker failures).stages worker) := by
  cases failures with
  | nil => simp [nextFailure,StageFailing,Failing,Stage.failures]
  | cons current rest =>
    have first : current.2.error ≠ none := failing current List.mem_cons_self
    simpa [nextFailure,StageFailing,Failing,Stage.failures,first] using
      fun a b member => failing (a,b) (List.mem_cons_of_mem _ member)

theorem nextSettlement_failing (scheduler : GatewayScheduler) (worker : WorkerId) {failures : List Settlement}
    (settlements : List Settlement) (failing : Failing failures) :
    StageFailing ((scheduler.nextSettlement worker failures settlements).stages worker) := by
  cases settlements with
  | nil => exact nextFailure_failing scheduler worker failing
  | cons current rest => simpa [nextSettlement,StageFailing,Failing,Stage.failures] using failing

theorem nextDrain_failing (scheduler : GatewayScheduler) (worker : WorkerId) {failures : List Settlement}
    (batch : List InferenceJob) (error : String) (jobs : List InferenceJob) (failing : Failing failures) :
    StageFailing ((scheduler.nextDrain worker failures batch error jobs).stages worker) := by
  cases jobs with
  | nil => exact nextSettlement_failing _ worker _ failing
  | cons item rest => simpa [nextDrain,StageFailing,Failing,Stage.failures] using failing

theorem failBatch_failing (scheduler : GatewayScheduler) (worker : WorkerId) (batch : List InferenceJob)
    (typeName : String) : StageFailing ((scheduler.failBatch worker batch typeName).stages worker) := by
  unfold GatewayScheduler.failBatch
  dsimp only
  split
  · exact nextDrain_failing _ worker batch _ _ (by simp [Failing])
  · simp [StageFailing,Failing,Stage.failures]

theorem dispatch_failing (config : SchedulerConfig) (scheduler : GatewayScheduler) (worker : WorkerId) (force : Bool)
    (now : Time) : StageFailing ((scheduler.dispatch config worker force now).stages worker) := by
  unfold dispatch
  dsimp only
  split
  · simp [StageFailing,Failing,Stage.failures]
  split <;> simp [StageFailing,Failing,Stage.failures]

theorem nextCancelled_failing (config : SchedulerConfig) (scheduler : GatewayScheduler) (worker : WorkerId)
    (force : Bool) (now : Time) (claims : List InferenceJob) :
    StageFailing ((scheduler.nextCancelled config worker force now claims).stages worker) := by
  cases claims with
  | nil =>
    simp only [nextCancelled]
    split
    · simp [StageFailing,Failing,Stage.failures]
    · exact dispatch_failing config scheduler worker force now
  | cons item rest => simp [nextCancelled,StageFailing,Failing,Stage.failures]

theorem nextExpired_failing (config : SchedulerConfig) (scheduler : GatewayScheduler) (worker : WorkerId)
    (force : Bool) (now : Time) (claims : List InferenceJob) :
    StageFailing ((scheduler.nextExpired config worker force now claims).stages worker) := by
  cases claims with
  | nil =>
    simp only [nextExpired]
    split
    · simp [StageFailing,Failing,Stage.failures]
    · exact nextCancelled_failing config scheduler worker force now _
  | cons item rest => simp [nextExpired,StageFailing,Failing,Stage.failures]

theorem runOnce_failing (config : SchedulerConfig) (scheduler : GatewayScheduler) (worker : WorkerId)
    (force : Bool) (now : Time) : StageFailing ((scheduler.runOnce config worker force now).stages worker) := by
  unfold runOnce
  split
  · exact nextDrain_failing _ worker [] _ _ (by simp [Failing])
  split
  · simp [StageFailing,Failing,Stage.failures]
  · exact nextExpired_failing config scheduler worker force now _

/-- The job whose cleanup has just returned. -/
def cleanedUp (stage : Stage) (reply : Reply) : List InferenceJob := if reply = .done then stage.cleaning else []

/-- A success is published only right after the cleanup of its job has returned. -/
theorem resume_failing (config : SchedulerConfig) (scheduler next : GatewayScheduler) (worker : WorkerId)
    (reply : Reply) (now : Time) (failing : Failing (scheduler.stages worker).failures)
    (resumed : scheduler.resume config worker reply now = some next) :
    Failing (next.stages worker).failures ∧
      ∀ settlement ∈ (next.stages worker).publishing, settlement.2.error = none →
        (next.stages worker).publishing = [settlement] ∧ cleanedUp (scheduler.stages worker) reply = [settlement.1] := by
  have quiet : ∀ {stage : Stage}, StageFailing stage → Failing stage.failures ∧
      ∀ settlement ∈ stage.publishing, settlement.2.error = none →
        stage.publishing = [settlement] ∧ cleanedUp (scheduler.stages worker) reply = [settlement.1] := by
    rintro stage ⟨kept,silent⟩
    exact ⟨kept,fun settlement member success => absurd success (silent settlement member)⟩
  cases stage : scheduler.stages worker <;> rw [stage] at failing quiet <;> cases reply <;>
    simp only [resume,stage,Option.some.injEq,reduceCtorEq] at resumed <;> subst resumed
  case publishExpired.done => exact quiet (nextExpired_failing config scheduler worker _ now _)
  case rejectCancelled.done => exact quiet (nextCancelled_failing config scheduler worker _ now _)
  case rejectCancelled.stale => exact quiet (nextCancelled_failing config scheduler worker _ now _)
  case rejectCancelled.raised => exact quiet (nextCancelled_failing config scheduler worker _ now _)
  case submitting.raised => exact quiet (failBatch_failing scheduler worker _ _)
  case submitting.results =>
    unfold submitted
    split
    · exact quiet (failBatch_failing scheduler worker _ _)
    split
    · exact quiet (failBatch_failing scheduler worker _ _)
    · exact quiet (nextSettlement_failing _ worker _ (by simp [Failing]))
  case workerFailed.done => exact quiet (nextDrain_failing _ worker _ _ _ (by simp [Failing]))
  case drainReject.done item rest failures batch error =>
    unfold drained
    split
    · exact quiet (by simpa [StageFailing,Failing,Stage.failures] using failing)
    · refine quiet (nextDrain_failing _ worker _ _ _ ?_)
      intro settlement member
      rcases List.mem_append.mp member with old | new
      · exact failing settlement old
      · cases List.mem_singleton.mp new
        simp [InferenceResult.failure]
  case drainDiscard.done => exact quiet (nextDrain_failing _ worker _ _ _ failing)
  case cleanup.done current rest failures =>
    unfold cleaned
    dsimp only
    split
    · exact quiet (by simpa [StageFailing,Failing,Stage.failures] using failing)
    · refine ⟨by simpa [Failing,Stage.failures] using failing,?_⟩
      intro settlement member _
      simp only [setStage_stage,Stage.publishing,List.mem_singleton] at member
      subst member
      simp [cleanedUp]
  case cleanup.raised =>
    split
    · exact quiet (by simpa [StageFailing,Failing,Stage.failures,InferenceResult.failure] using failing)
    · exact quiet (by simpa [StageFailing,Failing,Stage.failures] using failing)
  case discard.done => exact quiet (nextSettlement_failing _ worker _ failing)
  case publishCleanupFailed.done => exact quiet (nextSettlement_failing _ worker _ failing)
  case publish.done => exact quiet (nextSettlement_failing _ worker _ failing)
  case publishFailures.done current rest =>
    exact quiet (nextFailure_failing _ worker fun settlement member => failing settlement (List.mem_cons_of_mem _ member))
  -- what is left either ends the call or keeps its failures
  all_goals
    refine quiet (setStage_failing _ worker ?_ ?_)
    · first
        | exact failing
        | simp [Failing,Stage.failures]
    · simp [Failing,InferenceResult.failure]

end SpeechGateway.Settlement
