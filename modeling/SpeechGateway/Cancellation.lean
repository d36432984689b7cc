import SpeechGateway.Accounts

/-!
The cancellation barrier of the scheduler. A worker registers an event for each session
generation that it submits, and sets it once the job is settled; a cancelled generation is
never submitted again. Where all jobs of a generation go to one worker, whoever cancels it
and then waits for its event knows that no job of it is, or ever will be, with an adapter
(`cancelled_never_submitted`).
-/
namespace SpeechGateway.Cancellation
open SpeechGateway.Scheduling SpeechGateway.Settlement GatewayScheduler

/-- Every cancelled job that waits in the queue is about to be rejected. -/
def Purges (scheduler : GatewayScheduler) (worker : WorkerId) (claims : List InferenceJob) : Prop :=
  ∀ job, scheduler.isCancelled job = true → (scheduler.queues worker).count job ≤ claims.count job

/-- `run_once` of `worker` touches only its own queue and stage, and cancels nothing. -/
structure Confined (scheduler : GatewayScheduler) (worker : WorkerId) (next : GatewayScheduler) : Prop where
  cancelled : next.cancelledGenerations = scheduler.cancelledGenerations
  others : ∀ other, other ≠ worker →
    next.queues other = scheduler.queues other ∧ next.stages other = scheduler.stages other
  queue : ∀ job ∈ next.queues worker, job ∈ scheduler.queues worker
  purged : ∀ force item rest, next.stages worker = .rejectCancelled force item rest → Purges next worker rest

/-- The events of two schedulers agree. -/
structure SameEvents (scheduler next : GatewayScheduler) : Prop where
  accepted : next.accepted = scheduler.accepted
  safe : next.safe = scheduler.safe
  nextEvent : next.nextEvent = scheduler.nextEvent

/-- `run_once` goes on with some of the unmarked jobs it holds, and leaves the events alone. -/
structure Quiet (scheduler : GatewayScheduler) (worker : WorkerId) (held : List InferenceJob) (next : GatewayScheduler) :
    Prop extends Confined scheduler worker next, SameEvents scheduler next where
  unmarked : (next.stages worker).hands.unmarked.Sublist held
  silent : (next.stages worker).submissions = []

/-- It marks the first of these jobs safe. -/
structure Marks (scheduler : GatewayScheduler) (worker : WorkerId) (item : InferenceJob) (rest : List InferenceJob)
    (next : GatewayScheduler) : Prop
    extends Confined scheduler worker next, SameEvents (scheduler.markSafe item) next where
  unmarked : (next.stages worker).hands.unmarked.Sublist rest
  silent : (next.stages worker).submissions = []

/-- It dispatches a batch: jobs of different sessions, none of them cancelled. -/
structure Dispatches (scheduler : GatewayScheduler) (worker : WorkerId) (batch : List InferenceJob)
    (next : GatewayScheduler) : Prop
    extends Confined scheduler worker next, SameEvents (batch.foldl accept scheduler) next where
  unmarked : (next.stages worker).hands.unmarked.Sublist batch
  distinct : (batch.map (·.sessionId)).Nodup
  queued : ∀ job ∈ batch, job ∈ scheduler.queues worker ∧ scheduler.isCancelled job = false

/-- What a part of `run_once` does that holds the unmarked jobs `held`. -/
inductive Moves (scheduler : GatewayScheduler) (worker : WorkerId) (held : List InferenceJob) (next : GatewayScheduler) : Prop
  | quiet (quiet : Quiet scheduler worker held next)
  | marks (item : InferenceJob) (rest : List InferenceJob) (first : held = item :: rest)
      (marks : Marks scheduler worker item rest next)
  | dispatches (batch : List InferenceJob) (free : held = []) (dispatches : Dispatches scheduler worker batch next)

attribute [local simp] Stage.hands Stage.submissions jobsOf

theorem setStage_quiet (scheduler : GatewayScheduler) (worker : WorkerId) (held : List InferenceJob) (stage : Stage)
    (unmarked : stage.hands.unmarked.Sublist held) (silent : stage.submissions = [])
    (purged : ∀ force item rest, stage = .rejectCancelled force item rest → Purges scheduler worker rest) :
    Quiet scheduler worker held (scheduler.setStage worker stage) where
  cancelled := rfl
  others other distinct := ⟨rfl,setStage_other _ _ _ _ distinct⟩
  queue job member := member
  purged force item rest stopped := purged force item rest (by rwa [setStage_stage] at stopped)
  accepted := rfl
  safe := rfl
  nextEvent := rfl
  unmarked := by rwa [setStage_stage]
  silent := by rwa [setStage_stage]

/-- A quiet part after a change that leaves the events, the stages and the queues of the
    other workers alone. -/
theorem Quiet.of_agreeing {scheduler middle next : GatewayScheduler} {worker : WorkerId} {held : List InferenceJob}
    (quiet : Quiet middle worker held next) (cancelled : middle.cancelledGenerations = scheduler.cancelledGenerations)
    (others : ∀ other, other ≠ worker → middle.queues other = scheduler.queues other)
    (stages : middle.stages = scheduler.stages) (queue : ∀ job ∈ middle.queues worker, job ∈ scheduler.queues worker)
    (events : SameEvents scheduler middle) : Quiet scheduler worker held next where
  cancelled := quiet.cancelled.trans cancelled
  others other distinct := by
    obtain ⟨sameQueue,sameStage⟩ := quiet.others other distinct
    exact ⟨sameQueue.trans (others other distinct),by rw [sameStage,stages]⟩
  queue job member := queue job (quiet.queue job member)
  purged := quiet.purged
  accepted := quiet.accepted.trans events.accepted
  safe := quiet.safe.trans events.safe
  nextEvent := quiet.nextEvent.trans events.nextEvent
  unmarked := quiet.unmarked
  silent := quiet.silent

theorem nextFailure_quiet (scheduler : GatewayScheduler) (worker : WorkerId) (held : List InferenceJob)
    (failures : List Settlement) : Quiet scheduler worker held (scheduler.nextFailure worker failures) := by
  cases failures with
  | nil => apply setStage_quiet <;> simp
  | cons current rest => apply setStage_quiet <;> simp

theorem nextSettlement_quiet (scheduler : GatewayScheduler) (worker : WorkerId) (failures settlements : List Settlement) :
    Quiet scheduler worker (jobsOf settlements) (scheduler.nextSettlement worker failures settlements) := by
  cases settlements with
  | nil => exact nextFailure_quiet scheduler worker _ failures
  | cons current rest => apply setStage_quiet <;> simp

theorem settle_quiet (scheduler : GatewayScheduler) (worker : WorkerId) (settlements failures : List Settlement) :
    Quiet scheduler worker (jobsOf settlements) (scheduler.settle worker settlements failures) := by
  have released := nextSettlement_quiet
    { scheduler with queuedSamples := scheduler.queuedSamples - totalSamples (jobsOf settlements) } worker failures settlements
  exact released.of_agreeing rfl (fun _ _ => rfl) rfl (fun _ member => member) ⟨rfl,rfl,rfl⟩

theorem nextDrain_quiet (scheduler : GatewayScheduler) (worker : WorkerId) (failures : List Settlement)
    (batch : List InferenceJob) (error : String) (jobs : List InferenceJob) :
    Quiet scheduler worker batch (scheduler.nextDrain worker failures batch error jobs) := by
  cases jobs with
  | nil =>
    have settled := settle_quiet scheduler worker (batch.map fun job => (job,.failure job error)) failures
    rwa [jobsOf_failing] at settled
  | cons item rest => apply setStage_quiet <;> simp

theorem drainFailedQueue_quiet (scheduler : GatewayScheduler) (worker : WorkerId) (batch : List InferenceJob)
    (error : String) : Quiet scheduler worker batch (scheduler.drainFailedQueue worker batch error) := by
  have drained := nextDrain_quiet
    { scheduler.setQueue worker [] with
      queuedSamples := scheduler.queuedSamples - totalSamples (scheduler.queues worker) }
    worker [] batch error (scheduler.queues worker)
  refine drained.of_agreeing rfl ?_ rfl ?_ ⟨rfl,rfl,rfl⟩
  · intro other distinct
    exact setQueue_other _ _ _ _ distinct
  · simp

theorem failBatch_quiet (scheduler : GatewayScheduler) (worker : WorkerId) (batch : List InferenceJob)
    (typeName : String) : Quiet scheduler worker batch (scheduler.failBatch worker batch typeName) := by
  unfold failBatch
  dsimp only
  split
  · exact drainFailedQueue_quiet scheduler worker batch _
  · have failed := setStage_quiet
      { scheduler with
        submitFailures := Function.update scheduler.submitFailures worker (some (typeName ++ ": batch failed")) }
      worker batch (.workerFailed batch (typeName ++ ": batch failed")) (by simp) (by simp) (by simp)
    exact failed.of_agreeing rfl (fun _ _ => rfl) rfl (fun _ member => member) ⟨rfl,rfl,rfl⟩

theorem submitted_quiet (scheduler : GatewayScheduler) (worker : WorkerId) (batch : List InferenceJob)
    (raw : List (Option InferenceResult)) : Quiet scheduler worker batch (scheduler.submitted worker batch raw) := by
  unfold submitted
  split
  · exact failBatch_quiet scheduler worker batch _
  rename_i counted
  split
  · exact failBatch_quiet scheduler worker batch _
  rename_i wellFormed
  have settled := settle_quiet scheduler worker
    (batch.zipWith (fun job result => (job,coerceResult job result)) raw.reduceOption) []
  have present : ∀ result ∈ raw, result.isSome := by
    intro result member
    by_contra missing
    exact wellFormed (List.any_eq_true.mpr ⟨result,member,by simpa using missing⟩)
  rwa [jobsOf_coerced _ _ ((List.reduceOption_length_eq_iff.mpr present).trans (not_not.mp counted))] at settled

/-- A batch takes one job of a session. -/
theorem fillBatch_distinct (limit maxSamples : Nat) (jobs batch : List InferenceJob)
    (distinct : (batch.map (·.sessionId)).Nodup) :
    ((fillBatch limit maxSamples jobs batch).map (·.sessionId)).Nodup := by
  induction jobs generalizing batch with
  | nil => exact distinct
  | cons item rest ih =>
    unfold fillBatch
    split
    · exact ih batch distinct
    rename_i absent
    split
    · exact distinct
    apply ih
    rw [List.map_append,List.nodup_append]
    refine ⟨distinct,by simp,?_⟩
    intro sessionId member other single
    obtain ⟨job,batched,rfl⟩ := List.mem_map.mp member
    obtain rfl : other = item.sessionId := by simpa using single
    intro same
    exact absent (List.any_eq_true.mpr ⟨job,batched,by simpa using same⟩)

theorem selectBatch_distinct (config : SchedulerConfig) (worker : WorkerId) (force : Bool) (now : Time)
    (queue : List InferenceJob) : ((selectBatch config worker force now queue).map (·.sessionId)).Nodup := by
  unfold selectBatch
  dsimp only
  split
  · simp
  split
  · exact fillBatch_distinct _ _ _ [] (by simp)
  · simp

theorem dispatch_moves (config : SchedulerConfig) (scheduler : GatewayScheduler) (worker : WorkerId) (force : Bool)
    (now : Time) (purged : Purges scheduler worker []) :
    Moves scheduler worker [] (scheduler.dispatch config worker force now) := by
  set queue := (scheduler.queues worker).insertionSort (earlier · ·) with queueIs
  have sorted : queue.Perm (scheduler.queues worker) := List.perm_insertionSort _ _
  set batch := selectBatch config worker force now queue with batchIs
  have sub : batch.Sublist queue := selectBatch_sublist config worker force now queue
  by_cases none : batch = []
  · have waits : scheduler.dispatch config worker force now = (scheduler.setQueue worker queue).setStage worker .idle := by
      simp only [dispatch,← queueIs,← batchIs,none,if_true]
    rw [waits]
    have idle := setStage_quiet (scheduler.setQueue worker queue) worker [] .idle (by simp) (by simp) (by simp)
    refine .quiet (idle.of_agreeing rfl ?_ rfl ?_ ⟨rfl,rfl,rfl⟩)
    · intro other distinct
      exact setQueue_other _ _ _ _ distinct
    · intro job member
      rw [setQueue_queue] at member
      exact sorted.mem_iff.mp member
  have goes : ∃ stage, scheduler.dispatch config worker force now =
      ((batch.foldl accept scheduler).setQueue worker (batch.foldl List.erase queue)).setStage worker stage ∧
        stage.hands.unmarked.Sublist batch ∧ ∀ force item rest, stage ≠ .rejectCancelled force item rest := by
    simp only [dispatch,← queueIs,← batchIs,none,if_false]
    split
    · exact ⟨.idle,rfl,by simp,by simp⟩
    · exact ⟨.submitting batch,rfl,by simp,by simp⟩
  obtain ⟨stage,goes,unmarked,submits⟩ := goes
  obtain ⟨queues,stages,_,_,cancelled,_,_⟩ := acceptAll_keeps batch scheduler
  rw [goes]
  refine .dispatches batch rfl ⟨⟨cancelled,?_,?_,?_⟩,⟨rfl,rfl,rfl⟩,by rwa [setStage_stage],
    selectBatch_distinct config worker force now queue,?_⟩
  · intro other distinct
    simp [distinct,queues,stages]
  · intro job member
    rw [setStage_queues,setQueue_queue,← List.diff_eq_foldl] at member
    exact sorted.mem_iff.mp (List.diff_subset _ _ member)
  · intro force item rest stopped
    rw [setStage_stage] at stopped
    exact absurd stopped (submits force item rest)
  · intro job member
    have queued := sorted.mem_iff.mp (sub.subset member)
    refine ⟨queued,?_⟩
    by_contra cancelled
    have none := purged job (by simpa using cancelled)
    rw [List.count_nil,Nat.le_zero,List.count_eq_zero] at none
    exact none queued

/-- A claimed job leaves the queue, and is offered to `reject`. -/
theorem remove_quiet (scheduler : GatewayScheduler) (worker : WorkerId) (item : InferenceJob) (stage : Stage)
    (unmarked : stage.hands.unmarked = []) (silent : stage.submissions = [])
    (purged : ∀ force item' rest, stage = .rejectCancelled force item' rest →
      item' = item ∧ Purges scheduler worker (item :: rest)) :
    Quiet scheduler worker [] ((scheduler.remove worker item).setStage worker stage) := by
  have removed := setStage_quiet (scheduler.remove worker item) worker [] stage (by rw [unmarked]) silent (by
    intro force item' rest stopped
    obtain ⟨rfl,claimed⟩ := purged force item' rest stopped
    intro job cancelled
    have := claimed job cancelled
    simp only [remove,setQueue_queue,List.count_erase,List.count_cons] at this ⊢
    omega)
  refine removed.of_agreeing rfl ?_ rfl ?_ ⟨rfl,rfl,rfl⟩
  · intro other distinct
    exact setQueue_other _ _ _ _ distinct
  · intro job member
    simp only [remove,setQueue_queue] at member
    exact List.mem_of_mem_erase member

theorem nextCancelled_moves (config : SchedulerConfig) (scheduler : GatewayScheduler) (worker : WorkerId) (force : Bool)
    (now : Time) (claims : List InferenceJob) (purged : Purges scheduler worker claims) :
    Moves scheduler worker [] (scheduler.nextCancelled config worker force now claims) := by
  cases claims with
  | nil =>
    rw [nextCancelled]
    split
    · exact .quiet (setStage_quiet scheduler worker [] .idle (by simp) (by simp) (by simp))
    · exact dispatch_moves config scheduler worker force now purged
  | cons item rest =>
    refine .quiet (remove_quiet scheduler worker item _ (by simp) (by simp) ?_)
    rintro force item' rest' ⟨⟩
    exact ⟨rfl,purged⟩

theorem nextExpired_moves (config : SchedulerConfig) (scheduler : GatewayScheduler) (worker : WorkerId) (force : Bool)
    (now : Time) (claims : List InferenceJob) :
    Moves scheduler worker [] (scheduler.nextExpired config worker force now claims) := by
  cases claims with
  | nil =>
    rw [nextExpired]
    split
    · exact .quiet (setStage_quiet scheduler worker [] .idle (by simp) (by simp) (by simp))
    · refine nextCancelled_moves config scheduler worker force now _ ?_
      intro job cancelled
      rw [List.count_filter cancelled]
  | cons item rest => exact .quiet (remove_quiet scheduler worker item _ (by simp) (by simp) (by simp))

theorem runOnce_moves (config : SchedulerConfig) (scheduler : GatewayScheduler) (worker : WorkerId) (force : Bool)
    (now : Time) : Moves scheduler worker [] (scheduler.runOnce config worker force now) := by
  unfold runOnce
  split
  · exact .quiet (drainFailedQueue_quiet scheduler worker [] "")
  split
  · exact .quiet (setStage_quiet scheduler worker [] .idle (by simp) (by simp) (by simp))
  · exact nextExpired_moves config scheduler worker force now _

theorem marked_moves (scheduler : GatewayScheduler) (worker : WorkerId) (item : InferenceJob) (rest : List InferenceJob)
    {next : GatewayScheduler} (quiet : Quiet (scheduler.markSafe item) worker rest next) :
    Moves scheduler worker (item :: rest) next := by
  have kept : (scheduler.markSafe item).cancelledGenerations = scheduler.cancelledGenerations := by
    unfold markSafe
    split <;> rfl
  obtain ⟨queues,stages,_⟩ := markSafe_keeps scheduler item
  refine .marks item rest rfl ⟨⟨quiet.cancelled.trans kept,?_,?_,quiet.purged⟩,quiet.toSameEvents,quiet.unmarked,
    quiet.silent⟩
  · intro other distinct
    obtain ⟨sameQueue,sameStage⟩ := quiet.others other distinct
    exact ⟨by rw [sameQueue,queues],by rw [sameStage,stages]⟩
  · intro job member
    exact queues ▸ quiet.queue job member

/-- Whatever a hook or the adapter answers, `run_once` keeps the cancelled jobs out of its
    batches and marks jobs safe one by one. -/
theorem resume_moves (config : SchedulerConfig) (scheduler next : GatewayScheduler) (worker : WorkerId) (reply : Reply)
    (now : Time)
    (purged : ∀ force item rest, scheduler.stages worker = .rejectCancelled force item rest → Purges scheduler worker rest)
    (resumed : scheduler.resume config worker reply now = some next) :
    Moves scheduler worker (scheduler.stages worker).hands.unmarked next := by
  cases stage : scheduler.stages worker <;> rw [stage] at purged <;> cases reply <;>
    simp only [resume,stage,Option.some.injEq,reduceCtorEq] at resumed <;> subst resumed
  case submitting.results batch raw => exact .quiet (submitted_quiet scheduler worker batch raw)
  case submitting.raised batch typeName => exact .quiet (failBatch_quiet scheduler worker batch typeName)
  case workerFailed.done batch error => exact .quiet (drainFailedQueue_quiet scheduler worker batch error)
  case publishExpired.done force item rest => exact nextExpired_moves config scheduler worker force now rest
  case rejectCancelled.done force item rest | rejectCancelled.stale force item rest
    | rejectCancelled.raised force item rest typeName =>
    exact nextCancelled_moves config scheduler worker force now rest (purged force item rest rfl)
  case drainReject.done item rest failures batch error =>
    unfold drained
    split
    · exact .quiet (setStage_quiet _ _ _ _ (by simp) (by simp) (by simp))
    · exact .quiet (nextDrain_quiet scheduler worker _ batch error rest)
  case drainDiscard.done item rest failures batch error =>
    exact .quiet (nextDrain_quiet scheduler worker failures batch error rest)
  case cleanup.done current rest failures =>
    unfold cleaned
    dsimp only
    split <;> exact .quiet (setStage_quiet _ _ _ _ (by simp) (by simp) (by simp))
  case cleanup.raised current rest failures typeName =>
    split <;> exact .quiet (setStage_quiet _ _ _ _ (by simp) (by simp) (by simp))
  case discard.done item rest failures | publishCleanupFailed.done item rest failures =>
    exact marked_moves scheduler worker item _ (nextSettlement_quiet _ worker failures rest)
  case publish.done current rest failures =>
    exact marked_moves scheduler worker current.1 _ (nextSettlement_quiet _ worker failures rest)
  case publishFailures.done current rest => exact .quiet (nextFailure_quiet scheduler worker _ rest)
  case discard.stale item rest failures | discard.raised item rest failures typeName
    | publish.stale item rest failures | publish.raised item rest failures typeName =>
    exact marked_moves scheduler worker _ _ (setStage_quiet _ _ _ _ (by simp) (by simp) (by simp))
  all_goals exact .quiet (setStage_quiet _ _ _ _ (by simp) (by simp) (by simp))

/-! ## The barrier -/

/-- A registered event is not set yet, and belongs to one session generation. -/
structure Registry (scheduler : GatewayScheduler) : Prop where
  waiting : ∀ key event, scheduler.accepted key = some event → event ∉ scheduler.safe ∧ event < scheduler.nextEvent
  separate : ∀ key other event, scheduler.accepted key = some event → scheduler.accepted other = some event → key = other
  known : ∀ event ∈ scheduler.safe, event < scheduler.nextEvent

theorem Registry.of_same {scheduler next : GatewayScheduler} (registry : Registry scheduler)
    (events : SameEvents scheduler next) : Registry next where
  waiting key event found := by
    rw [events.accepted] at found
    rw [events.safe,events.nextEvent]
    exact registry.waiting key event found
  separate key other event found found' := by
    rw [events.accepted] at found found'
    exact registry.separate key other event found found'
  known event member := by
    rw [events.safe] at member
    rw [events.nextEvent]
    exact registry.known event member

theorem accept_registry {scheduler : GatewayScheduler} (registry : Registry scheduler) (job : InferenceJob) :
    Registry (scheduler.accept job) := by
  unfold accept
  split
  · exact registry
  refine ⟨?_,?_,?_⟩
  · intro key event found
    dsimp only at found ⊢
    by_cases same : key = job.key
    · subst same
      obtain rfl : scheduler.nextEvent = event := by simpa using found
      refine ⟨?_,Nat.lt_succ_self _⟩
      intro already
      exact absurd (registry.known _ already) (Nat.lt_irrefl _)
    · rw [Function.update_of_ne same] at found
      obtain ⟨unset,old⟩ := registry.waiting key event found
      exact ⟨unset,Nat.lt_succ_of_lt old⟩
  · intro key other event found found'
    dsimp only at found found'
    by_cases same : key = job.key <;> by_cases same' : other = job.key
    · rw [same,same']
    · subst same
      obtain rfl : scheduler.nextEvent = event := by simpa using found
      rw [Function.update_of_ne same'] at found'
      exact absurd (registry.waiting other _ found').2 (Nat.lt_irrefl _)
    · subst same'
      obtain rfl : scheduler.nextEvent = event := by simpa using found'
      rw [Function.update_of_ne same] at found
      exact absurd (registry.waiting key _ found).2 (Nat.lt_irrefl _)
    · rw [Function.update_of_ne same] at found
      rw [Function.update_of_ne same'] at found'
      exact registry.separate key other event found found'
  · intro event member
    exact Nat.lt_succ_of_lt (registry.known event member)

theorem acceptAll_registry (batch : List InferenceJob) {scheduler : GatewayScheduler} (registry : Registry scheduler) :
    Registry (batch.foldl accept scheduler) := by
  induction batch generalizing scheduler with
  | nil => exact registry
  | cons job rest ih => exact ih (accept_registry registry job)

theorem markSafe_accepted (scheduler : GatewayScheduler) (item : InferenceJob) (key : SessionKey) :
    (scheduler.markSafe item).accepted key = if key = item.key then none else scheduler.accepted key := by
  unfold markSafe
  split
  · rename_i free
    split
    · subst key
      exact free
    · rfl
  · simp [Function.update_apply]

theorem markSafe_registry {scheduler : GatewayScheduler} (registry : Registry scheduler) (item : InferenceJob) :
    Registry (scheduler.markSafe item) := by
  have accepted : ∀ key event, (scheduler.markSafe item).accepted key = some event →
      key ≠ item.key ∧ scheduler.accepted key = some event := by
    intro key event found
    rw [markSafe_accepted] at found
    split at found
    · cases found
    · exact ⟨‹_›,found⟩
  refine ⟨?_,?_,?_⟩
  · intro key event found
    obtain ⟨distinct,found⟩ := accepted key event found
    obtain ⟨unset,old⟩ := registry.waiting key event found
    unfold markSafe
    split
    · exact ⟨unset,old⟩
    · rename_i marked registered
      refine ⟨?_,old⟩
      rintro (_ | ⟨_,member⟩)
      · exact distinct (registry.separate key item.key _ found registered)
      · exact unset member
  · intro key other event found found'
    exact registry.separate key other event (accepted key event found).2 (accepted other event found').2
  · intro event member
    unfold markSafe at member ⊢
    split at member
    · exact registry.known event member
    · rename_i marked registered
      rcases List.mem_cons.mp member with rfl | earlier
      · exact (registry.waiting _ _ registered).2
      · exact registry.known event earlier

/-- What holds whenever `run_once` is suspended, if the jobs of a generation have one home. -/
structure Guarded (home : SessionKey → WorkerId → Prop) (scheduler : GatewayScheduler) : Prop where
  registry : Registry scheduler
  queued : ∀ worker, ∀ job ∈ scheduler.queues worker, home job.key worker
  held : ∀ worker, ∀ job ∈ (scheduler.stages worker).hands.unmarked,
    home job.key worker ∧ ∃ event, scheduler.accepted job.key = some event
  distinct : ∀ worker, ((scheduler.stages worker).hands.unmarked.map (·.sessionId)).Nodup
  purged : ∀ worker force item rest, scheduler.stages worker = .rejectCancelled force item rest →
    Purges scheduler worker rest

/-- The generation is cancelled, and its jobs that are not marked safe wait for `event`; with
    no event there are none. -/
def Barred (scheduler : GatewayScheduler) (key : SessionKey) (event : Option Nat) : Prop :=
  key ∈ scheduler.cancelledGenerations ∧
    ∀ worker, ∀ job ∈ (scheduler.stages worker).hands.unmarked, job.key = key → scheduler.accepted key = event

theorem init_guarded (home : SessionKey → WorkerId → Prop) : Guarded home .init where
  registry := ⟨by simp [GatewayScheduler.init],by simp [GatewayScheduler.init],by simp [GatewayScheduler.init]⟩
  queued := by simp [GatewayScheduler.init]
  held := by simp [GatewayScheduler.init]
  distinct := by simp [GatewayScheduler.init]
  purged := by simp [GatewayScheduler.init]

section
variable {home : SessionKey → WorkerId → Prop} {scheduler next : GatewayScheduler} {worker : WorkerId}

theorem barred_of_cancelled {key : SessionKey} (cancelled : key ∈ scheduler.cancelledGenerations) : Barred scheduler key (scheduler.accepted key) :=
  ⟨cancelled,fun _ _ _ _ => rfl⟩

/-- Once its event is set, no unmarked job of the generation is left. -/
theorem Guarded.settled (guarded : Guarded home scheduler) {key : SessionKey} {event : Nat}
    (barred : Barred scheduler key (some event)) (safe : event ∈ scheduler.safe) : Barred scheduler key none := by
  refine ⟨barred.1,?_⟩
  intro worker job member same
  have found := barred.2 worker job member same
  exact absurd safe (guarded.registry.waiting key event found).1

/-- A settled generation has no unmarked job. -/
theorem Guarded.absent (guarded : Guarded home scheduler) {key : SessionKey} (settled : Barred scheduler key none)
    (worker : WorkerId) : ∀ job ∈ (scheduler.stages worker).hands.unmarked, job.key ≠ key := by
  intro job member same
  obtain ⟨_,event,found⟩ := guarded.held worker job member
  rw [same,settled.2 worker job member same] at found
  cases found

/-- The jobs that a step of `run_once` leaves unmarked keep their events. -/
theorem marks_keeps (functional : ∀ key first second, home key first → home key second → first = second)
    (guarded : Guarded home scheduler) {item : InferenceJob} {rest : List InferenceJob}
    (first : (scheduler.stages worker).hands.unmarked = item :: rest) (marks : Marks scheduler worker item rest next)
    (other : WorkerId) {job : InferenceJob} (member : job ∈ (next.stages other).hands.unmarked) :
    job ∈ (scheduler.stages other).hands.unmarked ∧ next.accepted job.key = scheduler.accepted job.key := by
  have itemHeld : item ∈ (scheduler.stages worker).hands.unmarked := by
    rw [first]
    exact List.mem_cons_self
  have distinct : job.key ≠ item.key ∧ job ∈ (scheduler.stages other).hands.unmarked := by
    by_cases here : other = worker
    · subst here
      have later := marks.unmarked.subset member
      refine ⟨?_,by rw [first]; exact List.mem_cons_of_mem _ later⟩
      intro same
      have nodup := guarded.distinct other
      rw [first,List.map_cons,List.nodup_cons] at nodup
      exact nodup.1 (List.mem_map.mpr ⟨job,later,congrArg Prod.fst same⟩)
    · rw [(marks.others other here).2] at member
      refine ⟨?_,member⟩
      intro same
      have itemHome := (guarded.held worker item itemHeld).1
      exact here (functional _ _ _ (same ▸ (guarded.held other job member).1) itemHome)
  exact ⟨distinct.2,by rw [marks.accepted,markSafe_accepted,if_neg distinct.1]⟩

theorem moves_guarded (functional : ∀ key first second, home key first → home key second → first = second)
    (guarded : Guarded home scheduler) (moves : Moves scheduler worker (scheduler.stages worker).hands.unmarked next)
    (alone : ∀ other, other ≠ worker → (scheduler.stages other).rejecting = []) : Guarded home next := by
  have purged : Confined scheduler worker next → ∀ other force item rest,
      next.stages other = .rejectCancelled force item rest → Purges next other rest := by
    intro confined other force item rest stopped
    by_cases here : other = worker
    · subst here
      exact confined.purged force item rest stopped
    · rw [(confined.others other here).2] at stopped
      have idle := alone other here
      rw [stopped] at idle
      cases idle
  have queued : Confined scheduler worker next → ∀ other, ∀ job ∈ next.queues other, home job.key other := by
    intro confined other job member
    by_cases here : other = worker
    · subst here
      exact guarded.queued other job (confined.queue job member)
    · exact guarded.queued other job ((confined.others other here).1 ▸ member)
  cases moves with
  | quiet quiet =>
    have held : ∀ other, (next.stages other).hands.unmarked.Sublist (scheduler.stages other).hands.unmarked := by
      intro other
      by_cases here : other = worker
      · subst here
        exact quiet.unmarked
      · rw [(quiet.others other here).2]
    refine ⟨guarded.registry.of_same quiet.toSameEvents,queued quiet.toConfined,?_,?_,purged quiet.toConfined⟩
    · intro other job member
      rw [quiet.accepted]
      exact guarded.held other job ((held other).subset member)
    · intro other
      exact ((held other).map _).nodup (guarded.distinct other)
  | marks item rest first marks =>
    have held : ∀ other, (next.stages other).hands.unmarked.Sublist (scheduler.stages other).hands.unmarked := by
      intro other
      by_cases here : other = worker
      · subst here
        rw [first]
        exact marks.unmarked.cons item
      · rw [(marks.others other here).2]
    refine ⟨(markSafe_registry guarded.registry item).of_same marks.toSameEvents,queued marks.toConfined,?_,?_,
      purged marks.toConfined⟩
    · intro other job member
      obtain ⟨before,kept⟩ := marks_keeps functional guarded first marks other member
      rw [kept]
      exact guarded.held other job before
    · intro other
      exact ((held other).map _).nodup (guarded.distinct other)
  | dispatches batch free dispatches =>
    refine ⟨(acceptAll_registry batch guarded.registry).of_same dispatches.toSameEvents,
      queued dispatches.toConfined,?_,?_,purged dispatches.toConfined⟩
    · intro other job member
      rw [dispatches.accepted]
      by_cases here : other = worker
      · subst here
        have batched := dispatches.unmarked.subset member
        exact ⟨guarded.queued other job (dispatches.queued job batched).1,
          Option.isSome_iff_exists.mp (acceptAll_batch batch scheduler batched)⟩
      · rw [(dispatches.others other here).2] at member
        obtain ⟨at_home,event,found⟩ := guarded.held other job member
        exact ⟨at_home,event,acceptAll_accepted batch scheduler found⟩
    · intro other
      by_cases here : other = worker
      · subst here
        exact (dispatches.unmarked.map _).nodup dispatches.distinct
      · rw [(dispatches.others other here).2]
        exact guarded.distinct other

theorem moves_barred (functional : ∀ key first second, home key first → home key second → first = second)
    (guarded : Guarded home scheduler) (moves : Moves scheduler worker (scheduler.stages worker).hands.unmarked next)
    {key : SessionKey} {event : Option Nat} (barred : Barred scheduler key event) : Barred next key event := by
  obtain ⟨cancelled,waits⟩ := barred
  cases moves with
  | quiet quiet =>
    refine ⟨quiet.cancelled ▸ cancelled,?_⟩
    intro other job member same
    rw [quiet.accepted]
    by_cases here : other = worker
    · subst here
      exact waits other job (quiet.unmarked.subset member) same
    · exact waits other job ((quiet.others other here).2 ▸ member) same
  | marks item rest first marks =>
    refine ⟨marks.cancelled ▸ cancelled,?_⟩
    intro other job member same
    obtain ⟨before,kept⟩ := marks_keeps functional guarded first marks other member
    rw [← same,kept,same]
    exact waits other job before same
  | dispatches batch free dispatches =>
    refine ⟨dispatches.cancelled ▸ cancelled,?_⟩
    intro other job member same
    by_cases here : other = worker
    · subst here
      have fresh := (dispatches.queued job (dispatches.unmarked.subset member)).2
      rw [isCancelled,same,List.contains_iff_mem.mpr cancelled] at fresh
      cases fresh
    · rw [(dispatches.others other here).2] at member
      obtain ⟨_,found,registered⟩ := guarded.held other job member
      rw [same] at registered
      rw [dispatches.accepted,acceptAll_accepted batch scheduler registered,← registered]
      exact waits other job member same

/-! ## Whole runs -/

theorem enqueue_guarded {config : SchedulerConfig} {now : Time} {job : InferenceJob} (guarded : Guarded home scheduler)
    (atHome : home job.key job.workerId) (alone : ∀ other, (scheduler.stages other).rejecting = [])
    (enqueued : scheduler.enqueue config now job = .ok next) : Guarded home next := by
  obtain ⟨rfl,_⟩ := enqueue_ok enqueued
  refine ⟨⟨guarded.registry.waiting,guarded.registry.separate,guarded.registry.known⟩,?_,guarded.held,guarded.distinct,?_⟩
  · intro other waiting member
    by_cases here : other = job.workerId
    · subst here
      rw [setQueue_queue,List.mem_append,List.mem_singleton] at member
      rcases member with queued | rfl
      · exact guarded.queued _ waiting queued
      · rwa [stamped_key]
    · rw [setQueue_other _ _ _ _ here] at member
      exact guarded.queued other waiting member
  · intro other force item rest stopped
    have idle := alone other
    rw [setQueue_stages] at stopped
    rw [stopped] at idle
    cases idle

theorem cancelSession_guarded (guarded : Guarded home scheduler) (key : SessionKey)
    (alone : ∀ other, (scheduler.stages other).rejecting = []) : Guarded home (scheduler.cancelSession key) where
  registry := ⟨guarded.registry.waiting,guarded.registry.separate,guarded.registry.known⟩
  queued := guarded.queued
  held := guarded.held
  distinct := guarded.distinct
  purged other force item rest stopped := by
    have idle := alone other
    rw [show scheduler.stages other = _ from stopped] at idle
    cases idle

end

/-- A worker that the scheduler does not know has nothing to do. -/
def Outside (config : SchedulerConfig) (scheduler : GatewayScheduler) : Prop :=
  ∀ worker, worker ∉ config.workers → scheduler.queues worker = [] ∧ scheduler.stages worker = .idle

theorem confined_outside {config : SchedulerConfig} {scheduler next : GatewayScheduler} {worker : WorkerId}
    (outside : Outside config scheduler) (confined : Confined scheduler worker next)
    (own : worker ∉ config.workers → next.stages worker = .idle) : Outside config next := by
  intro other unknown
  by_cases here : other = worker
  · subst here
    refine ⟨?_,own unknown⟩
    apply List.eq_nil_iff_forall_not_mem.mpr
    intro job member
    simpa [(outside other unknown).1] using confined.queue job member
  · obtain ⟨queue,stage⟩ := confined.others other here
    rw [queue,stage]
    exact outside other unknown

theorem runOnce_outside {config : SchedulerConfig} {scheduler : GatewayScheduler} {worker : WorkerId}
    (empty : scheduler.queues worker = []) (force : Bool) (now : Time) :
    (scheduler.runOnce config worker force now).stages worker = .idle := by
  unfold runOnce
  split
  · simp [drainFailedQueue,empty,nextDrain,settle,nextSettlement,nextFailure]
  · simp

theorem Moves.confined {scheduler next : GatewayScheduler} {worker : WorkerId} {held : List InferenceJob}
    (moves : Moves scheduler worker held next) : Confined scheduler worker next := by
  cases moves with
  | quiet quiet => exact quiet.toConfined
  | marks _ _ _ marks => exact marks.toConfined
  | dispatches _ _ dispatches => exact dispatches.toConfined

/-- No other worker waits for `reject` while one goes on. -/
theorem enabled_alone {config : SchedulerConfig} {scheduler : GatewayScheduler} {action : SchedulerAction}
    (enabled : scheduler.enabled config false action = true) (outside : Outside config scheduler)
    (other : WorkerId) (elsewhere : ∀ reply now, action ≠ .resume other reply now) :
    (scheduler.stages other).rejecting = [] := by
  by_cases known : other ∈ config.workers
  · simp only [GatewayScheduler.enabled,Bool.false_or,List.all_eq_true] at enabled
    have alone := enabled other known
    simp only [Bool.or_eq_true,List.isEmpty_iff] at alone
    rcases alone with none | resumes
    · exact none
    · split at resumes
      · rename_i resumed reply now
        obtain rfl : resumed = other := by simpa using resumes
        exact absurd rfl (elsewhere reply now)
      · cases resumes
  · rw [(outside other known).2]
    rfl

/-- Every job is enqueued where its generation is at home. -/
def Routed (home : SessionKey → WorkerId → Prop) : SchedulerAction → Prop
  | .enqueue job _ => home job.key job.workerId
  | _ => True

/-- The scheduler between two steps of a run that routes its jobs, where the jobs of some
    cancelled generations wait for an event or are gone. -/
structure Barrier (config : SchedulerConfig) (home : SessionKey → WorkerId → Prop)
    (barriers : List (SessionKey × Option Nat)) (scheduler : GatewayScheduler) : Prop where
  guarded : Guarded home scheduler
  outside : Outside config scheduler
  barred : ∀ barrier ∈ barriers, Barred scheduler barrier.1 barrier.2

theorem moves_barrier {config : SchedulerConfig} {home : SessionKey → WorkerId → Prop}
    {barriers : List (SessionKey × Option Nat)} {scheduler next : GatewayScheduler} {worker : WorkerId}
    (functional : ∀ key first second, home key first → home key second → first = second)
    (barrier : Barrier config home barriers scheduler)
    (moves : Moves scheduler worker (scheduler.stages worker).hands.unmarked next)
    (alone : ∀ other, other ≠ worker → (scheduler.stages other).rejecting = [])
    (own : worker ∉ config.workers → next.stages worker = .idle) : Barrier config home barriers next where
  guarded := moves_guarded functional barrier.guarded moves alone
  outside := confined_outside barrier.outside moves.confined own
  barred known member := moves_barred functional barrier.guarded moves (barrier.barred known member)

theorem step_barrier {config : SchedulerConfig} {home : SessionKey → WorkerId → Prop}
    {barriers : List (SessionKey × Option Nat)} {scheduler next : GatewayScheduler} {action : SchedulerAction}
    (functional : ∀ key first second, home key first → home key second → first = second) (routed : Routed home action)
    (barrier : Barrier config home barriers scheduler) (stepped : scheduler.step config false action = some next) :
    Barrier config home barriers next := by
  unfold GatewayScheduler.step at stepped
  split at stepped
  · cases stepped
  rename_i enabled
  have enabled : scheduler.enabled config false action = true := by simpa using enabled
  have alone := enabled_alone enabled barrier.outside
  cases action with
  | enqueue job now =>
    simp only at stepped
    split at stepped
    · rename_i enqueued
      cases stepped
      have guarded := enqueue_guarded barrier.guarded routed (fun other => alone other (by simp)) enqueued
      obtain ⟨rfl,known,_⟩ := enqueue_ok enqueued
      refine ⟨guarded,?_,barrier.barred⟩
      intro worker unknown
      have distinct : worker ≠ job.workerId := by
        rintro rfl
        exact unknown known
      rw [setQueue_other _ _ _ _ distinct]
      exact barrier.outside worker unknown
    · cases stepped
      exact barrier
  | cancelSession key =>
    cases stepped
    refine ⟨cancelSession_guarded barrier.guarded key fun other => alone other (by simp),barrier.outside,?_⟩
    intro known member
    obtain ⟨cancelled,waits⟩ := barrier.barred known member
    exact ⟨List.mem_cons_of_mem _ cancelled,waits⟩
  | runOnce worker force now =>
    simp only at stepped
    split at stepped
    · rename_i idle
      cases stepped
      have moves : Moves scheduler worker (scheduler.stages worker).hands.unmarked
          (scheduler.runOnce config worker force now) := by
        rw [idle]
        exact runOnce_moves config scheduler worker force now
      refine moves_barrier functional barrier moves (fun other _ => alone other (by simp)) ?_
      intro unknown
      exact runOnce_outside (barrier.outside worker unknown).1 force now
    · cases stepped
  | resume worker reply now =>
    refine moves_barrier functional barrier
      (resume_moves config scheduler next worker reply now (barrier.guarded.purged worker) stepped) ?_ ?_
    · intro other distinct
      refine alone other ?_
      rintro reply now ⟨⟩
      exact distinct rfl
    · intro unknown
      have idle := (barrier.outside worker unknown).2
      simp only [resume,idle,reduceCtorEq] at stepped
  | close =>
    cases stepped
    obtain ⟨registry,queued,held,distinct,purged⟩ := barrier.guarded
    exact ⟨⟨⟨registry.waiting,registry.separate,registry.known⟩,queued,held,distinct,purged⟩,barrier.outside,
      barrier.barred⟩

theorem run_barrier {config : SchedulerConfig} {home : SessionKey → WorkerId → Prop}
    {barriers : List (SessionKey × Option Nat)} {scheduler final : GatewayScheduler} {actions : List SchedulerAction}
    (functional : ∀ key first second, home key first → home key second → first = second)
    (routed : ∀ action ∈ actions, Routed home action) (barrier : Barrier config home barriers scheduler)
    (ran : Machine.run (GatewayScheduler.step config false) scheduler actions = some final) :
    Barrier config home barriers final := by
  induction actions generalizing scheduler with
  | nil =>
    cases ran
    exact barrier
  | cons action rest ih =>
    obtain ⟨next,stepped,ran⟩ := (Machine.run_cons _).mp ran
    exact ih (fun later member => routed later (List.mem_cons_of_mem _ member))
      (step_barrier functional (routed action List.mem_cons_self) barrier stepped) ran

/-- `wait_session_safe`, called in one state, has returned in another. -/
def waitReturned (called returned : GatewayScheduler) (key : SessionKey) : Bool :=
  (called.accepted key).all returned.safe.contains

/-- After `cancel_session` and a later `wait_session_safe` that returned, no job of the
    generation is in a submission, and none ever will be. -/
theorem cancelled_never_submitted {config : SchedulerConfig} {home : SessionKey → WorkerId → Prop}
    {called returned final : GatewayScheduler} {key : SessionKey} {waiting later : List SchedulerAction}
    (functional : ∀ key first second, home key first → home key second → first = second)
    (routed : ∀ action ∈ waiting ++ later, Routed home action) (barrier : Barrier config home [] called)
    (cancelled : key ∈ called.cancelledGenerations)
    (waits : Machine.run (GatewayScheduler.step config false) called waiting = some returned)
    (safe : waitReturned called returned key = true)
    (goesOn : Machine.run (GatewayScheduler.step config false) returned later = some final) (worker : WorkerId) :
    ∀ job ∈ (final.stages worker).submissions, job.key ≠ key := by
  have barred : Barrier config home [(key,called.accepted key)] called := by
    refine ⟨barrier.guarded,barrier.outside,?_⟩
    intro known member
    obtain rfl := List.mem_singleton.mp member
    exact barred_of_cancelled cancelled
  have waited := run_barrier functional
    (fun action member => routed action (List.mem_append_left _ member)) barred waits
  have settled : Barred returned key none := by
    have waiting := waited.barred _ List.mem_cons_self
    cases found : called.accepted key with
    | none => simpa [found] using waiting
    | some event =>
      rw [found] at waiting
      refine waited.guarded.settled waiting ?_
      simpa [waitReturned,found] using safe
  have last := run_barrier functional
    (fun action member => routed action (List.mem_append_right _ member))
    (⟨waited.guarded,waited.outside,by simpa using settled⟩ : Barrier config home [(key,none)] returned) goesOn
  have absent := last.guarded.absent (last.barred _ List.mem_cons_self) worker
  intro job submitted
  refine absent job ?_
  cases stage : final.stages worker <;> rw [stage] at submitted <;> simp at submitted ⊢
  exact submitted

/-- Two workers that take one job at a time. -/
def twoWorkers : SchedulerConfig :=
  { Accounts.exampleConfig with
    workers := [['v'],['w']]
    distinctWorkers := by decide }

/-- A job of the first generation of the session `s`. -/
def sharedJob (worker : WorkerId) (jobSequence : Nat) : InferenceJob where
  jobId := 'j' :: worker
  sessionId := ['s']
  generation := 1
  jobSequence := jobSequence
  workerId := worker
  backendSessionId := []
  startSample := jobSequence
  endSample := jobSequence + 1
  pcm := [0,0]
  deadline := 1
  batchKey := ⟨worker,[],[],[],false,[],[],[],0⟩

/-- Both workers submit a job of the generation, and share its event. Once the first job is
    settled the event is set, with the second job still in its submission. -/
theorem shared_event_set_early :
    let before := Machine.run (GatewayScheduler.step twoWorkers false) .init
      [.enqueue (sharedJob ['v'] 1) 1,.enqueue (sharedJob ['w'] 2) 1,.runOnce ['v'] false 2,.runOnce ['w'] false 2,
        .cancelSession (['s'],1)]
    let after := before.bind fun called => Machine.run (GatewayScheduler.step twoWorkers false) called
      [.resume ['v'] (.raised "TimeoutError") 3,.resume ['v'] .done 3,.resume ['v'] .done 3,.resume ['v'] .done 3]
    (before.bind fun called => after.map fun returned => waitReturned called returned (['s'],1)) = some true ∧
      after.map (fun returned => (returned.stages ['w']).submissions.map (·.key)) = some [(['s'],1)] := by
  decide +kernel

end SpeechGateway.Cancellation
