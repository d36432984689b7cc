import SpeechGateway.Settlement

/-!
The accounts of the scheduler over whole runs. The history of a run lists the jobs that
entered a queue and the calls made for them. In every run, the queued audio is that of the
queued jobs and of the batches not yet settled, and each job that left a queue was settled
exactly once (`accounts_balance`), as long as every job has an id.
-/
namespace SpeechGateway.Accounts
open SpeechGateway.Scheduling SpeechGateway.Settlement GatewayScheduler

/-- What a run of the scheduler does: a job enters a queue, or a call is made for it. -/
inductive SchedulerEvent
  | enqueued (job : InferenceJob)
  | rejected (job : InferenceJob)
  /-- Passed to the adapter, with the safe event of its session generation. -/
  | submitted (job : InferenceJob) (event : Option Nat)
  | cleanupCalled (job : InferenceJob)
  | cleanupReturned (job : InferenceJob)
  | published (settlement : Settlement)
  deriving DecidableEq

/-- The calls that a worker awaits. -/
def calls (scheduler : GatewayScheduler) (worker : WorkerId) : List SchedulerEvent :=
  (scheduler.stages worker).rejecting.map .rejected ++
    (scheduler.stages worker).submissions.map (fun job => .submitted job (scheduler.accepted job.key)) ++
    (scheduler.stages worker).cleaning.map .cleanupCalled ++
    (scheduler.stages worker).publishing.map .published

def observe (config : SchedulerConfig) (scheduler : GatewayScheduler) (action : SchedulerAction)
    (next : GatewayScheduler) : List SchedulerEvent :=
  match action with
  | .enqueue job now =>
    match scheduler.enqueue config now job with
    | .ok _ => [.enqueued (job.stamped now)]
    | .error _ => []
  | .runOnce worker _ _ => calls next worker
  | .resume worker reply _ =>
    (cleanedUp (scheduler.stages worker) reply).map .cleanupReturned ++ calls next worker
  | _ => []

section
variable (history : List SchedulerEvent)

def enqueuedJobs : List InferenceJob := history.filterMap fun | .enqueued job => some job | _ => none
def rejectedJobs : List InferenceJob := history.filterMap fun | .rejected job => some job | _ => none
def submittedJobs : List InferenceJob := history.filterMap fun | .submitted job _ => some job | _ => none
def cleanupJobs : List InferenceJob := history.filterMap fun | .cleanupCalled job => some job | _ => none
def cleanedJobs : List InferenceJob := history.filterMap fun | .cleanupReturned job => some job | _ => none
def publishedJobs : List InferenceJob :=
  history.filterMap fun | .published settlement => some settlement.1 | _ => none
/-- The jobs published with a result that is no error. -/
def succeededJobs : List InferenceJob :=
  history.filterMap fun
    | .published settlement => if settlement.2.error = none then some settlement.1 else none
    | _ => none

end

/-- Jobs of a queue, and of the dispatched batch whose first cleanup has not begun. -/
def unsettledJobs (config : SchedulerConfig) (scheduler : GatewayScheduler) : List InferenceJob :=
  config.workers.flatMap fun worker => (scheduler.stages worker).hands.unsettled

/-- The assumptions on a step: the hooks other than `cleanup` do not raise, and an enqueued
    job has an id. -/
def settles (scheduler : GatewayScheduler) (action : SchedulerAction) : Bool :=
  match action with
  | .enqueue job _ => decide (job.jobId ≠ [])
  | .resume worker reply _ => hookReturns (scheduler.stages worker) reply
  | _ => true

/-- The invariant of such runs. -/
structure Accounted (config : SchedulerConfig) (scheduler : GatewayScheduler) (history : List SchedulerEvent) :
    Prop where
  named : ∀ worker, ∀ job ∈ scheduler.queues worker, job.jobId ≠ []
  homed : ∀ worker job, (scheduler.queues worker).count job +
      (scheduler.stages worker).hands.awaitingReject.count job +
      (scheduler.stages worker).hands.awaitingCleanup.count job +
      (scheduler.stages worker).hands.mayPublish.count job ≠ 0 →
    job.workerId = worker ∧ worker ∈ config.workers
  claims : ∀ worker job, (scheduler.stages worker).claims.count job ≤ (scheduler.queues worker).count job
  left : ∀ job, (enqueuedJobs history).count job = (scheduler.queues job.workerId).count job +
    (scheduler.stages job.workerId).hands.awaitingReject.count job +
    (rejectedJobs history).count job + (submittedJobs history).count job
  cleaned : ∀ job, (submittedJobs history).count job = (cleanupJobs history).count job +
    (scheduler.stages job.workerId).hands.awaitingCleanup.count job
  published : ∀ job, (publishedJobs history).count job +
      (scheduler.stages job.workerId).hands.mayPublish.count job ≤
    (rejectedJobs history).count job + (cleanupJobs history).count job
  succeeded : ∀ job, (succeededJobs history).count job ≤ (cleanedJobs history).count job
  failing : ∀ worker, Failing (scheduler.stages worker).failures
  events : ∀ job event, .submitted job event ∈ history → ∃ made, event = some made ∧
    (made ∈ scheduler.safe ∨ scheduler.accepted job.key = some made ∧
      job ∈ (scheduler.stages job.workerId).hands.unmarked)
  audio : scheduler.queuedSamples = (config.workers.map fun worker =>
    totalSamples (scheduler.queues worker) + totalSamples (scheduler.stages worker).hands.unsettled).sum
  capacity : scheduler.queuedSamples ≤ config.maxQueuedSamples
  ready : (config.workers.map fun worker => (scheduler.queues worker).length).sum ≤ config.maxReadyJobs

theorem init_accounted (config : SchedulerConfig) : Accounted config .init [] where
  named := by simp [GatewayScheduler.init]
  homed := by simp [GatewayScheduler.init,Stage.hands]
  claims := by simp [GatewayScheduler.init,Stage.claims]
  left := by simp [GatewayScheduler.init,Stage.hands,enqueuedJobs,rejectedJobs,submittedJobs]
  cleaned := by simp [GatewayScheduler.init,Stage.hands,submittedJobs,cleanupJobs]
  published := by simp [GatewayScheduler.init,Stage.hands,publishedJobs,rejectedJobs,cleanupJobs]
  succeeded := by simp [succeededJobs]
  failing := by simp [GatewayScheduler.init,Failing,Stage.failures]
  events := by simp
  audio := by simp [GatewayScheduler.init,Stage.hands,totalSamples]
  capacity := by simp [GatewayScheduler.init]
  ready := by simp [GatewayScheduler.init]

/-- A sum over distinct workers changes with the one term that changes. -/
theorem sum_changed {α : Type*} (keys : List α) (distinct : keys.Nodup) (before after : α → Nat) {changed : α}
    (member : changed ∈ keys) (others : ∀ other, other ≠ changed → after other = before other) :
    (keys.map after).sum + before changed = (keys.map before).sum + after changed := by
  induction keys with
  | nil => cases member
  | cons key rest ih =>
    obtain ⟨fresh,distinctRest⟩ := List.nodup_cons.mp distinct
    simp only [List.map_cons,List.sum_cons]
    rcases List.mem_cons.mp member with rfl | later
    · have same : rest.map after = rest.map before :=
        List.map_congr_left fun other inside => others other fun equal => fresh (equal ▸ inside)
      rw [same]
      omega
    · have := ih distinctRest later
      have := others key fun equal => fresh (equal ▸ later)
      omega

theorem sum_unchanged {α : Type*} (keys : List α) (before after : α → Nat) {changed : α} (outside : changed ∉ keys)
    (others : ∀ other, other ≠ changed → after other = before other) :
    (keys.map after).sum = (keys.map before).sum := by
  congr 1
  exact List.map_congr_left fun other inside => others other fun equal => outside (equal ▸ inside)

section
variable (first later : List SchedulerEvent)

@[simp] theorem enqueuedJobs_append : enqueuedJobs (first ++ later) = enqueuedJobs first ++ enqueuedJobs later :=
  List.filterMap_append
@[simp] theorem rejectedJobs_append : rejectedJobs (first ++ later) = rejectedJobs first ++ rejectedJobs later :=
  List.filterMap_append
@[simp] theorem submittedJobs_append : submittedJobs (first ++ later) = submittedJobs first ++ submittedJobs later :=
  List.filterMap_append
@[simp] theorem cleanupJobs_append : cleanupJobs (first ++ later) = cleanupJobs first ++ cleanupJobs later :=
  List.filterMap_append
@[simp] theorem cleanedJobs_append : cleanedJobs (first ++ later) = cleanedJobs first ++ cleanedJobs later :=
  List.filterMap_append
@[simp] theorem publishedJobs_append : publishedJobs (first ++ later) = publishedJobs first ++ publishedJobs later :=
  List.filterMap_append
@[simp] theorem succeededJobs_append : succeededJobs (first ++ later) = succeededJobs first ++ succeededJobs later :=
  List.filterMap_append

end

/-- What an observed step of a worker adds to the history. -/
def advanceEvents (returned : List InferenceJob) (next : GatewayScheduler) (worker : WorkerId) : List SchedulerEvent :=
  returned.map .cleanupReturned ++ calls next worker

section
variable (returned : List InferenceJob) (next : GatewayScheduler) (worker : WorkerId)

theorem advance_enqueued : enqueuedJobs (advanceEvents returned next worker) = [] := by
  simp [advanceEvents,calls,enqueuedJobs,List.filterMap_append,List.filterMap_map]
theorem advance_rejected : rejectedJobs (advanceEvents returned next worker) = (next.stages worker).rejecting := by
  simp [advanceEvents,calls,rejectedJobs,List.filterMap_append,List.filterMap_map]
theorem advance_submitted :
    submittedJobs (advanceEvents returned next worker) = (next.stages worker).submissions := by
  simp [advanceEvents,calls,submittedJobs,List.filterMap_append,List.filterMap_map]
theorem advance_cleanup : cleanupJobs (advanceEvents returned next worker) = (next.stages worker).cleaning := by
  simp [advanceEvents,calls,cleanupJobs,List.filterMap_append,List.filterMap_map]
theorem advance_cleaned : cleanedJobs (advanceEvents returned next worker) = returned := by
  simp [advanceEvents,calls,cleanedJobs,List.filterMap_append,List.filterMap_map]
theorem advance_published :
    publishedJobs (advanceEvents returned next worker) = jobsOf (next.stages worker).publishing := by
  simp [advanceEvents,calls,publishedJobs,jobsOf,List.filterMap_append,List.filterMap_map]

/-- A success is published for a job whose cleanup has returned. -/
theorem advance_succeeded (success : ∀ settlement ∈ (next.stages worker).publishing, settlement.2.error = none →
      (next.stages worker).publishing = [settlement] ∧ returned = [settlement.1]) (job : InferenceJob) :
    (succeededJobs (advanceEvents returned next worker)).count job ≤ returned.count job := by
  have shown : succeededJobs (advanceEvents returned next worker) =
      (next.stages worker).publishing.filterMap fun settlement =>
        if settlement.2.error = none then some settlement.1 else none := by
    simp [advanceEvents,calls,succeededJobs,List.filterMap_append,List.filterMap_map]
  rw [shown]
  by_cases any : ∃ settlement ∈ (next.stages worker).publishing, settlement.2.error = none
  · obtain ⟨settlement,member,fine⟩ := any
    obtain ⟨only,done⟩ := success settlement member fine
    rw [only,done]
    simp [fine]
  · have none : ((next.stages worker).publishing.filterMap fun settlement =>
        if settlement.2.error = none then some settlement.1 else none) = [] := by
      rw [List.filterMap_eq_nil_iff]
      intro settlement member
      have failed : ¬ settlement.2.error = none := fun fine => any ⟨settlement,member,fine⟩
      simp [failed]
    simp [none]

end

theorem totalSamples_of_absent {jobs : List InferenceJob} (absent : ∀ job, jobs.count job = 0) :
    totalSamples jobs = 0 := by
  have empty : jobs = [] := List.eq_nil_iff_forall_not_mem.mpr fun job => List.count_eq_zero.mp (absent job)
  simp [empty,totalSamples]

theorem unsettled_of_absent (stage : Stage) (absent : ∀ job, stage.hands.awaitingCleanup.count job = 0) :
    totalSamples stage.hands.unsettled = 0 := by
  rcases unsettled_cases stage with none | batch
  · simp [none,totalSamples]
  · rw [batch]
    exact totalSamples_of_absent absent

section
variable {config : SchedulerConfig} {scheduler next : GatewayScheduler} {worker : WorkerId} {history : List SchedulerEvent}

/-- A job of another worker is not in these hands. -/
theorem Accounted.elsewhere (accounted : Accounted config scheduler history)
    (advances : Advances scheduler worker (scheduler.stages worker).hands next) {job : InferenceJob}
    (away : job.workerId ≠ worker) :
    next.queues job.workerId = scheduler.queues job.workerId ∧ next.stages job.workerId = scheduler.stages job.workerId ∧
      (scheduler.queues worker).count job + (scheduler.stages worker).hands.awaitingReject.count job +
        (scheduler.stages worker).hands.awaitingCleanup.count job +
        (scheduler.stages worker).hands.mayPublish.count job = 0 := by
  obtain ⟨queue,stage⟩ := advances.others job.workerId away
  refine ⟨queue,stage,?_⟩
  by_contra held
  exact away (accounted.homed worker job held).1

/-- A job that was submitted before is covered as it was, or its event is set; one that is submitted
    now has just registered its event. -/
theorem Accounted.advances_events (accounted : Accounted config scheduler history)
    (advances : Advances scheduler worker (scheduler.stages worker).hands next) (returned : List InferenceJob)
    (job : InferenceJob) (event : Option Nat) (member : .submitted job event ∈ history ++ advanceEvents returned next worker) :
    ∃ made, event = some made ∧ (made ∈ next.safe ∨ next.accepted job.key = some made ∧
      job ∈ (next.stages job.workerId).hands.unmarked) := by
  rcases List.mem_append.mp member with old | new
  · obtain ⟨made,rfl,known⟩ := accounted.events job event old
    refine ⟨made,rfl,?_⟩
    rcases known with safe | ⟨registered,unmarked⟩
    · exact .inl (advances.safeKept made safe)
    rcases advances.acceptedKept job.key made registered with safe | kept
    · exact .inl safe
    by_cases here : job.workerId = worker
    · rw [here] at unmarked
      rcases advances.unmarkedKept job unmarked with still | safe
      · exact .inr ⟨kept,here ▸ still⟩
      · exact .inl (safe made registered)
    · rw [(advances.others job.workerId here).2]
      exact .inr ⟨kept,unmarked⟩
  · have submission : job ∈ (next.stages worker).submissions ∧ event = next.accepted job.key := by
      simp only [advanceEvents,calls,List.mem_append,List.mem_map,reduceCtorEq,and_false,exists_false,or_false,
        false_or,SchedulerEvent.submitted.injEq] at new
      obtain ⟨other,inside,rfl,rfl⟩ := new
      exact ⟨inside,rfl⟩
    obtain ⟨inside,rfl⟩ := submission
    obtain ⟨unmarked,registered⟩ := advances.submitted job inside
    obtain ⟨made,found⟩ := Option.isSome_iff_exists.mp registered
    have here : job.workerId = worker := by
      have := advances.leaving job
      have := List.count_pos_iff.mpr inside
      exact (accounted.homed worker job (by omega)).1
    exact ⟨made,found,.inr ⟨found,here ▸ unmarked⟩⟩

/-- A worker that is not configured has no audio, before and after. -/
theorem Accounted.unknown_silent (accounted : Accounted config scheduler history)
    (advances : Advances scheduler worker (scheduler.stages worker).hands next) (unknown : worker ∉ config.workers) :
    totalSamples (scheduler.queues worker) + totalSamples (scheduler.stages worker).hands.unsettled = 0 ∧
      totalSamples (next.queues worker) + totalSamples (next.stages worker).hands.unsettled = 0 := by
  have leaving := advances.leaving
  have cleaning := advances.cleaning
  have absent : ∀ job, (scheduler.queues worker).count job + (scheduler.stages worker).hands.awaitingReject.count job +
      (scheduler.stages worker).hands.awaitingCleanup.count job = 0 := by
    intro job
    by_contra held
    exact unknown (accounted.homed worker job (by omega)).2
  have queueBefore : totalSamples (scheduler.queues worker) = 0 := totalSamples_of_absent fun job => by
    have := absent job
    omega
  have queueAfter : totalSamples (next.queues worker) = 0 := totalSamples_of_absent fun job => by
    have := absent job
    have := leaving job
    omega
  have batchBefore := unsettled_of_absent (scheduler.stages worker) fun job => by
    have := absent job
    omega
  have batchAfter := unsettled_of_absent (next.stages worker) fun job => by
    have := absent job
    have := leaving job
    have := cleaning job
    omega
  omega

/-- The queued audio stays that of the queues and of the batches. -/
theorem Accounted.advances_audio (accounted : Accounted config scheduler history)
    (advances : Advances scheduler worker (scheduler.stages worker).hands next) :
    next.queuedSamples = (config.workers.map fun other =>
      totalSamples (next.queues other) + totalSamples (next.stages other).hands.unsettled).sum := by
  have audio := advances.audio
  have before := accounted.audio
  have others : ∀ other, other ≠ worker →
      totalSamples (next.queues other) + totalSamples (next.stages other).hands.unsettled =
        totalSamples (scheduler.queues other) + totalSamples (scheduler.stages other).hands.unsettled := by
    intro other distinct
    rw [(advances.others other distinct).1,(advances.others other distinct).2]
  by_cases known : worker ∈ config.workers
  · have changed := sum_changed config.workers config.distinctWorkers _ _ known others
    omega
  · have same := sum_unchanged config.workers _ _ known others
    obtain ⟨_,_⟩ := accounted.unknown_silent advances known
    rw [same]
    omega

/-- The queues do not grow. -/
theorem Accounted.advances_ready (accounted : Accounted config scheduler history)
    (advances : Advances scheduler worker (scheduler.stages worker).hands next) :
    (config.workers.map fun other => (next.queues other).length).sum ≤ config.maxReadyJobs := by
  have ready := accounted.ready
  have shrunk := (List.subperm_ext_iff.mpr fun job _ => advances.shrinks job).length_le
  have others : ∀ other, other ≠ worker → (next.queues other).length = (scheduler.queues other).length :=
    fun other distinct => by rw [(advances.others other distinct).1]
  by_cases known : worker ∈ config.workers
  · have changed := sum_changed config.workers config.distinctWorkers _ _ known others
    omega
  · rw [sum_unchanged config.workers _ _ known others]
    exact ready

end

/-- A worker that goes on keeps the accounts. -/
theorem advances_accounted (config : SchedulerConfig) (scheduler next : GatewayScheduler) (worker : WorkerId)
    (history : List SchedulerEvent) (returned : List InferenceJob) (accounted : Accounted config scheduler history)
    (advances : Advances scheduler worker (scheduler.stages worker).hands next)
    (failing : Failing (next.stages worker).failures)
    (success : ∀ settlement ∈ (next.stages worker).publishing, settlement.2.error = none →
      (next.stages worker).publishing = [settlement] ∧ returned = [settlement.1]) :
    Accounted config next (history ++ advanceEvents returned next worker) := by
  have homed := accounted.homed worker
  have leaving := advances.leaving
  have cleaning := advances.cleaning
  have publishing := advances.publishing
  refine ⟨?_,?_,?_,?_,?_,?_,?_,?_,accounted.advances_events advances returned,accounted.advances_audio advances,
    advances.released.trans accounted.capacity,accounted.advances_ready advances⟩
  · intro other job member
    by_cases same : other = worker
    · subst same
      have := advances.shrinks job
      have := List.count_pos_iff.mpr member
      exact accounted.named other job (List.count_pos_iff.mp (by omega))
    · rw [(advances.others other same).1] at member
      exact accounted.named other job member
  · intro other job held
    by_cases same : other = worker
    · subst same
      have := leaving job
      have := cleaning job
      have := publishing job
      exact homed job (by omega)
    · obtain ⟨queue,stage⟩ := advances.others other same
      rw [queue,stage] at held
      exact accounted.homed other job held
  · intro other job
    by_cases same : other = worker
    · subst same
      exact advances.claims job
    · obtain ⟨queue,stage⟩ := advances.others other same
      rw [queue,stage]
      exact accounted.claims other job
  · intro job
    have left := accounted.left job
    have := leaving job
    simp only [enqueuedJobs_append,rejectedJobs_append,submittedJobs_append,advance_enqueued,advance_rejected,
      advance_submitted,List.count_append,List.count_nil]
    by_cases here : job.workerId = worker
    · rw [here] at left ⊢
      omega
    · obtain ⟨queue,stage,none⟩ := accounted.elsewhere advances here
      rw [queue,stage]
      omega
  · intro job
    have cleaned := accounted.cleaned job
    have := leaving job
    have := cleaning job
    simp only [submittedJobs_append,cleanupJobs_append,advance_submitted,advance_cleanup,List.count_append]
    by_cases here : job.workerId = worker
    · rw [here] at cleaned ⊢
      omega
    · obtain ⟨queue,stage,none⟩ := accounted.elsewhere advances here
      rw [stage]
      omega
  · intro job
    have published := accounted.published job
    have := leaving job
    have := cleaning job
    have := publishing job
    simp only [publishedJobs_append,rejectedJobs_append,cleanupJobs_append,advance_published,advance_rejected,
      advance_cleanup,List.count_append]
    by_cases here : job.workerId = worker
    · rw [here] at published ⊢
      omega
    · obtain ⟨queue,stage,none⟩ := accounted.elsewhere advances here
      rw [stage]
      omega
  · intro job
    have succeeded := accounted.succeeded job
    have := advance_succeeded returned next worker success job
    simp only [succeededJobs_append,cleanedJobs_append,advance_cleaned,List.count_append]
    omega
  · intro other
    by_cases same : other = worker
    · subst same
      exact failing
    · rw [(advances.others other same).2]
      exact accounted.failing other

/-! ## Whole runs -/

theorem enqueue_accounted (config : SchedulerConfig) (scheduler next : GatewayScheduler) (history : List SchedulerEvent)
    (now : Time) (job : InferenceJob) (accounted : Accounted config scheduler history) (identified : job.jobId ≠ [])
    (accepted : scheduler.enqueue config now job = .ok next) :
    Accounted config next (history ++ [.enqueued (job.stamped now)]) := by
  obtain ⟨rfl,known,_,_,_,room,fits⟩ := enqueue_ok accepted
  have grown : ∀ other, (scheduler.setQueue job.workerId (scheduler.queues job.workerId ++ [job.stamped now])).queues
      other = if other = job.workerId then scheduler.queues other ++ [job.stamped now] else scheduler.queues other := by
    intro other
    by_cases same : other = job.workerId
    · subst same
      simp
    · simp [same]
  refine ⟨?_,?_,?_,?_,?_,?_,?_,?_,?_,?_,?_,?_⟩
  · intro other waiting member
    rw [grown] at member
    split at member
    · rcases List.mem_append.mp member with old | new
      · exact accounted.named other waiting old
      · rw [List.mem_singleton.mp new]
        simpa using identified
    · exact accounted.named other waiting member
  · intro other waiting held
    dsimp only at held
    rw [grown] at held
    by_cases inQueue : (scheduler.queues other).count waiting + (scheduler.stages other).hands.awaitingReject.count waiting +
        (scheduler.stages other).hands.awaitingCleanup.count waiting +
        (scheduler.stages other).hands.mayPublish.count waiting = 0
    · split at held
      · rename_i same
        rw [List.count_append,List.count_singleton] at held
        have new : job.stamped now = waiting := by
          by_contra different
          have : (job.stamped now == waiting) = false := by simpa using different
          simp only [this,Bool.false_eq_true,if_false,setQueue_stages] at held
          omega
        rw [← new,same]
        exact ⟨by simp,known⟩
      · exact absurd inQueue held
    · exact accounted.homed other waiting inQueue
  · intro other waiting
    have := accounted.claims other waiting
    dsimp only
    rw [grown]
    split
    · rw [List.count_append]
      exact this.trans (Nat.le_add_right _ _)
    · exact this
  · intro waiting
    have left := accounted.left waiting
    dsimp only
    rw [grown]
    simp only [enqueuedJobs_append,rejectedJobs_append,submittedJobs_append,List.count_append,setQueue_stages]
    by_cases same : waiting = job.stamped now
    · subst same
      simp [enqueuedJobs,rejectedJobs,submittedJobs] at left ⊢
      omega
    · have different : ¬ job.stamped now = waiting := fun equal => same equal.symm
      split <;> simp [enqueuedJobs,rejectedJobs,submittedJobs,different] at left ⊢ <;> omega
  · intro waiting
    simpa [submittedJobs,cleanupJobs] using accounted.cleaned waiting
  · intro waiting
    simpa [publishedJobs,rejectedJobs,cleanupJobs] using accounted.published waiting
  · intro waiting
    simpa [succeededJobs,cleanedJobs] using accounted.succeeded waiting
  · exact accounted.failing
  · intro waiting event member
    exact accounted.events waiting event (by simpa using member)
  · have changed := sum_changed config.workers config.distinctWorkers
      (fun other => totalSamples (scheduler.queues other) + totalSamples (scheduler.stages other).hands.unsettled)
      (fun other => totalSamples ((scheduler.setQueue job.workerId
        (scheduler.queues job.workerId ++ [job.stamped now])).queues other) +
          totalSamples (scheduler.stages other).hands.unsettled) known
      (fun other distinct => by simp [distinct])
    have before := accounted.audio
    have added : totalSamples (scheduler.queues job.workerId ++ [job.stamped now]) =
        totalSamples (scheduler.queues job.workerId) + job.sampleCount := by
      rw [totalSamples_append]
      simp [totalSamples]
    simp only [setQueue_queue] at changed
    dsimp only [setQueue_stages]
    omega
  · exact fits
  · have changed := sum_changed config.workers config.distinctWorkers
      (fun other => (scheduler.queues other).length)
      (fun other => ((scheduler.setQueue job.workerId
        (scheduler.queues job.workerId ++ [job.stamped now])).queues other).length) known
      (fun other distinct => by simp [distinct])
    have before : (scheduler.readyJobs config).length =
        (config.workers.map fun other => (scheduler.queues other).length).sum := by
      simp [readyJobs,List.length_flatMap]
    simp only [setQueue_queue,List.length_append,List.length_singleton] at changed
    dsimp only
    omega

/-- Every step that meets the assumptions keeps the accounts. -/
theorem step_accounted (config : SchedulerConfig) (rejectSuspends : Bool) (scheduler next : GatewayScheduler)
    (history : List SchedulerEvent) (action : SchedulerAction) (accounted : Accounted config scheduler history)
    (meets : settles scheduler action) (stepped : scheduler.step config rejectSuspends action = some next) :
    Accounted config next (history ++ observe config scheduler action next) := by
  unfold GatewayScheduler.step at stepped
  split at stepped
  · cases stepped
  cases action with
  | enqueue job now =>
    cases accepted : scheduler.enqueue config now job with
    | ok entered =>
      simp only [accepted,Option.some.injEq] at stepped
      subst stepped
      simp only [observe,accepted]
      exact enqueue_accounted config scheduler entered history now job accounted (of_decide_eq_true meets) accepted
    | error e =>
      simp only [accepted,Option.some.injEq] at stepped
      subst stepped
      simpa only [observe,accepted,List.append_nil] using accounted
  | cancelSession key =>
    cases stepped
    simp only [observe,List.append_nil]
    exact { accounted with }
  | close =>
    cases stepped
    simp only [observe,List.append_nil]
    exact { accounted with }
  | runOnce worker force now =>
    dsimp only at stepped
    split at stepped
    · rename_i idle
      cases stepped
      have advances := runOnce_advances config scheduler worker force now (accounted.named worker)
      have failing := runOnce_failing config scheduler worker force now
      have hands : (scheduler.stages worker).hands = {} := by rw [idle]; rfl
      exact advances_accounted config scheduler _ worker history [] accounted (hands ▸ advances) failing.1
        (fun settlement member success => absurd success (failing.2 settlement member))
    · cases stepped
  | resume worker reply now =>
    obtain ⟨failing,success⟩ :=
      resume_failing config scheduler next worker reply now (accounted.failing worker) stepped
    have advances := resume_advances config scheduler next worker reply now (accounted.named worker)
      (accounted.claims worker) meets stepped
    exact advances_accounted config scheduler next worker history _ accounted advances failing success

/-- The scheduler with the history of its run. -/
def tracedStep (config : SchedulerConfig) (rejectSuspends : Bool) :
    GatewayScheduler × List SchedulerEvent → SchedulerAction → Option (GatewayScheduler × List SchedulerEvent) :=
  Machine.observed (GatewayScheduler.step config rejectSuspends) (observe config)

theorem run_accounted (config : SchedulerConfig) (rejectSuspends : Bool) (actions : List SchedulerAction)
    (scheduler : GatewayScheduler) (history : List SchedulerEvent)
    (meets : Machine.Along (tracedStep config rejectSuspends) (fun traced action => settles traced.1 action = true)
      (.init,[]) actions)
    (ran : Machine.run (tracedStep config rejectSuspends) (.init,[]) actions = some (scheduler,history)) :
    Accounted config scheduler history := by
  refine Machine.invariant_along (tracedStep config rejectSuspends)
    (fun traced => Accounted config traced.1 traced.2) ?_ (init_accounted config) meets ran
  intro traced action next accounted met stepped
  obtain ⟨after,moved,rfl⟩ := (Machine.observed_eq_some _ _).mp stepped
  exact step_accounted config rejectSuspends traced.1 after traced.2 action accounted met moved

/-- In every run whose hooks other than `cleanup` do not raise, and whose jobs have ids:
    the queued audio is that of the queued jobs and of the dispatched batches before their
    first cleanup, within its limit, as is the number of queued jobs; every job that left a
    queue was rejected or submitted once, every submitted job is cleaned up once, except
    for those that a worker still holds; a job is published at most once, and as a success
    only after its cleanup returned; and the safe event of a submitted job is set once its
    worker has settled it. -/
theorem accounts_balance (config : SchedulerConfig) (rejectSuspends : Bool) (actions : List SchedulerAction)
    (scheduler : GatewayScheduler) (history : List SchedulerEvent)
    (meets : Machine.Along (tracedStep config rejectSuspends) (fun traced action => settles traced.1 action = true)
      (.init,[]) actions)
    (ran : Machine.run (tracedStep config rejectSuspends) (.init,[]) actions = some (scheduler,history)) :
    scheduler.queuedSamples =
        totalSamples (scheduler.readyJobs config) + totalSamples (unsettledJobs config scheduler) ∧
      0 ≤ scheduler.queuedSamples ∧ scheduler.queuedSamples ≤ config.maxQueuedSamples ∧
      (scheduler.readyJobs config).length ≤ config.maxReadyJobs ∧
      (∀ job, (enqueuedJobs history).count job = (scheduler.queues job.workerId).count job +
          (scheduler.stages job.workerId).hands.awaitingReject.count job +
          (rejectedJobs history).count job + (submittedJobs history).count job) ∧
      (∀ job, (submittedJobs history).count job = (cleanupJobs history).count job +
          (scheduler.stages job.workerId).hands.awaitingCleanup.count job) ∧
      (∀ job, scheduler.stages job.workerId = .idle →
        (enqueuedJobs history).count job = (scheduler.queues job.workerId).count job +
            (rejectedJobs history).count job + (submittedJobs history).count job ∧
          (cleanupJobs history).count job = (submittedJobs history).count job) ∧
      (∀ job, (publishedJobs history).count job ≤ (rejectedJobs history).count job + (cleanupJobs history).count job) ∧
      (∀ job, (succeededJobs history).count job ≤ (cleanedJobs history).count job) ∧
      ∀ job event, .submitted job event ∈ history → ∃ made, event = some made ∧
        (job ∉ (scheduler.stages job.workerId).hands.unmarked → made ∈ scheduler.safe) := by
  have accounted := run_accounted config rejectSuspends actions scheduler history meets ran
  have sums : totalSamples (scheduler.readyJobs config) + totalSamples (unsettledJobs config scheduler) =
      (config.workers.map fun worker =>
        totalSamples (scheduler.queues worker) + totalSamples (scheduler.stages worker).hands.unsettled).sum := by
    simp only [readyJobs,unsettledJobs]
    induction config.workers with
    | nil => rfl
    | cons worker rest ih =>
      simp only [List.flatMap_cons,totalSamples_append,List.map_cons,List.sum_cons]
      omega
  have audio := accounted.audio
  refine ⟨by omega,by omega,accounted.capacity,?_,accounted.left,accounted.cleaned,?_,?_,accounted.succeeded,?_⟩
  · simpa [readyJobs,List.length_flatMap] using accounted.ready
  · intro job idle
    have left := accounted.left job
    have cleaned := accounted.cleaned job
    simp only [idle,Stage.hands,List.count_nil] at left cleaned
    omega
  · intro job
    have := accounted.published job
    omega
  · intro job event member
    obtain ⟨made,rfl,known⟩ := accounted.events job event member
    refine ⟨made,rfl,?_⟩
    intro settled
    rcases known with safe | ⟨_,unmarked⟩
    · exact safe
    · exact absurd unmarked settled

def exampleConfig : SchedulerConfig where
  workers := [['w']]
  capabilities _ :=
    { Backends.oneSample with
      maxInputSamples := 4
      maxSegmentSamples := 4
      maxBatchSamples := 4
      maxInputPositive := by decide
      maxSegmentPositive := by decide
      maxBatchSamplesPositive := by decide
      inputFitsSegment := by decide }
  maxWaitSeconds := 0
  maxReadyJobs := 2
  maxQueuedSamples := 4
  distinctWorkers := by decide

def exampleJob (jobId : Text) : InferenceJob where
  jobId := jobId
  sessionId := ['s']
  generation := 1
  jobSequence := 1
  workerId := ['w']
  backendSessionId := []
  startSample := 0
  endSample := 1
  pcm := [0,0]
  deadline := 1
  batchKey := ⟨['w'],[],[],[],false,[],[],[],0⟩

/-- The adapter fails on the job, and its error is published. -/
def exampleActions : List SchedulerAction :=
  [.enqueue (exampleJob ['j']) 1,.runOnce ['w'] false 2,.resume ['w'] (.raised "TimeoutError") 3,
    .resume ['w'] .done 4,.resume ['w'] .done 5,.resume ['w'] .done 6]

theorem accounts_balance_failed_job : ∃ scheduler history,
    Machine.run (tracedStep exampleConfig true) (.init,[]) exampleActions = some (scheduler,history) ∧
      scheduler.queuedSamples = totalSamples (scheduler.readyJobs exampleConfig) +
        totalSamples (unsettledJobs exampleConfig scheduler) := by
  have finishes : (Machine.run (tracedStep exampleConfig true) (.init,[]) exampleActions).isSome := by decide +kernel
  obtain ⟨⟨scheduler,history⟩,ran⟩ := Option.isSome_iff_exists.mp finishes
  have checked : Machine.check (tracedStep exampleConfig true) (fun traced action => settles traced.1 action)
      (.init,[]) exampleActions = true := by decide +kernel
  exact ⟨scheduler,history,ran,(accounts_balance exampleConfig true exampleActions scheduler history
    (Machine.along_of_check _ checked) ran).1⟩

/-- A job without an id leaves the queue and is never settled: `stable_batch_id` raises in
    the middle of the dispatch, and the audio of the job is counted for ever. -/
theorem unnamed_job_lost :
    let outcome := Machine.run (tracedStep exampleConfig true) (.init,[])
      [.enqueue (exampleJob []) 1,.runOnce ['w'] false 2]
    outcome.map (fun traced => (traced.1.queuedSamples,totalSamples (traced.1.readyJobs exampleConfig) +
        totalSamples (unsettledJobs exampleConfig traced.1))) = some (1,0) ∧
      outcome.map (fun traced => (traced.1.stages ['w'],enqueuedJobs traced.2,rejectedJobs traced.2,
        submittedJobs traced.2)) = some (.idle,[(exampleJob []).stamped 1],[],[]) := by
  decide +kernel

end SpeechGateway.Accounts
