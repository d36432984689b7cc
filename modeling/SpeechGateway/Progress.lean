import SpeechGateway.Batching
import SpeechGateway.Endings

/-!
When a queue moves on. A job that `_schedule_next` made and that `run_once` chooses is
the first one of the offer, so its batch is empty only if the job alone is more than a batch may hold.
`BackendCapabilities` does not exclude that (`head_progresses_iff`).
-/
namespace SpeechGateway.Gateway
open SpeechGateway.Scheduling SpeechGateway.Settlement SpeechGateway.Batching SpeechGateway.Sessions GatewayScheduler

variable {V : Type} {config : GatewayConfig V} {scheduler : GatewayScheduler} {worker : WorkerId} {force : Bool} {now : Time}

/-- `_schedule_next` made the job for a chunk within the input limit, and enqueued it a little later. -/
def Enqueued (config : GatewayConfig V) (worker : WorkerId) (job : InferenceJob) : Prop :=
  ∃ (session : GatewaySession) (reservation : SessionReservation) (made queued : Time),
    session.selectedWorkerId = worker ∧ 0 < reservation.chunk.sampleCount ∧
      reservation.chunk.sampleCount ≤ (config.scheduler.capabilities worker).maxInputSamples ∧ made ≤ queued ∧
      job = (makeJob config made session reservation).stamped queued

/-- The queue holds such jobs, and none has expired or was cancelled. -/
structure Admissible (config : GatewayConfig V) (scheduler : GatewayScheduler) (worker : WorkerId) (now : Time) : Prop where
  enqueued : ∀ job ∈ scheduler.queues worker, Enqueued config worker job
  unexpired : ∀ job ∈ scheduler.queues worker, isExpired now job = false
  active : ∀ job ∈ scheduler.queues worker, scheduler.isCancelled job = false

namespace Enqueued
variable {job other : InferenceJob}

theorem named (enqueued : Enqueued config worker job) : job.jobId ≠ [] := by
  obtain ⟨session,reservation,made,queued,_,_,_,_,rfl⟩ := enqueued
  rw [stamped_id]
  simp [makeJob]

/-- Its deadline is no later than the end of the collection delay. -/
theorem deadline (enqueued : Enqueued config worker job) : job.deadline ≤ job.enqueuedAt + config.scheduler.maxWaitSeconds := by
  obtain ⟨session,reservation,made,queued,_,_,_,later,rfl⟩ := enqueued
  have enqueuedAt : ((makeJob config made session reservation).stamped queued).enqueuedAt = queued := by
    unfold InferenceJob.stamped
    split
    · rfl
    · rename_i stamped
      exact absurd rfl stamped
  have deadline : ((makeJob config made session reservation).stamped queued).deadline = made + config.scheduler.maxWaitSeconds := by
    unfold InferenceJob.stamped
    split <;> rfl
  rw [enqueuedAt,deadline]
  exact add_le_add later (le_refl _)

/-- Jobs that may go together are all final, or none is. -/
theorem final (enqueued : Enqueued config worker job) (likewise : Enqueued config worker other)
    (keyed : other.batchKey = job.batchKey) : other.final = job.final := by
  obtain ⟨session,reservation,made,queued,_,_,_,_,rfl⟩ := enqueued
  obtain ⟨second,taken,shaped,placed,_,_,_,_,rfl⟩ := likewise
  have kept : ∀ (job : InferenceJob) (time : Time), (job.stamped time).batchKey = job.batchKey ∧ (job.stamped time).final = job.final := by
    intro job time
    unfold InferenceJob.stamped
    split <;> exact ⟨rfl,rfl⟩
  rw [(kept _ _).1,(kept _ _).1] at keyed
  rw [(kept _ _).2,(kept _ _).2]
  have identity := congrArg BatchKey.decodingIdentity keyed
  simp only [makeJob] at identity ⊢
  cases left : taken.chunk.final <;> cases right : reservation.chunk.final <;> simp [left,right] at identity ⊢

end Enqueued

/-- What comes before a due job that may go with it is due as well. -/
theorem Enqueued.due {job other : InferenceJob} (enqueued : Enqueued config worker job) (sooner : earlier other job = true)
    (dispatched : due config.scheduler now job = true) : due config.scheduler now other = true := by
  have bound := enqueued.deadline
  have deadline : other.deadline ≤ job.deadline := by
    rcases (earlier_iff other job).mp sooner with less | ⟨same,_⟩
    · exact less.le
    · exact same.le
  simp only [GatewayScheduler.due,decide_eq_true_eq] at dispatched ⊢
  rw [min_eq_left bound] at dispatched
  exact (min_le_left _ _).trans (deadline.trans dispatched)

/-- The chosen job comes first among those that may go with it. -/
theorem chosen_heads {queue : List InferenceJob} {first : InferenceJob} (sorted : queue.Pairwise (earlier · ·))
    (enqueued : ∀ job ∈ queue, Enqueued config worker job) (made : choice config.scheduler now queue = some first) :
    ∃ rest, compatible queue first = first :: rest := by
  have split : ∀ before behind, queue = before ++ first :: behind →
      (∀ other ∈ before, other.batchKey ≠ first.batchKey) → ∃ rest, compatible queue first = first :: rest := by
    rintro before behind rfl apart
    refine ⟨compatible behind first,?_⟩
    have none_before : compatible before first = [] := by
      refine List.filter_eq_nil_iff.mpr fun other member => ?_
      simpa using apart other member
    simp only [compatible] at none_before ⊢
    rw [List.filter_append,none_before,List.nil_append,List.filter_cons,if_pos (by simp)]
  unfold choice at made
  cases finals : (queue.filter (isDueFinal config.scheduler now)).head? with
  | none =>
    rw [finals,Option.none_or] at made
    obtain ⟨behind,rfl⟩ := List.head?_eq_some_iff.mp made
    exact split [] behind rfl (by simp)
  | some final =>
    rw [finals] at made
    obtain rfl : final = first := by simpa using made
    obtain ⟨rest,filtered⟩ := List.head?_eq_some_iff.mp finals
    obtain ⟨before,behind,rfl,none_final,passed,_⟩ := List.filter_eq_cons_iff.mp filtered
    refine split before behind rfl fun other member keyed => ?_
    have sooner : earlier other final = true :=
      (List.pairwise_append.mp sorted).2.2 other member final List.mem_cons_self
    have one := enqueued final (List.mem_append_right _ List.mem_cons_self)
    have another := enqueued other (List.mem_append_left _ member)
    simp only [isDueFinal,Bool.and_eq_true] at passed
    refine none_final other member ?_
    simp only [isDueFinal,Bool.and_eq_true]
    exact ⟨(one.final another keyed).trans passed.1,one.due sooner passed.2⟩

/-- A selection for a job at the head of its offer takes it exactly when it fits alone. -/
theorem selectBatch_takes {queue rest : List InferenceJob} {first : InferenceJob}
    (made : choice config.scheduler now queue = some first) (heads : compatible queue first = first :: rest)
    (dispatched : force = true ∨ due config.scheduler now first = true) :
    first ∈ selectBatch config.scheduler worker force now queue ↔
      first.sampleCount ≤ (config.scheduler.capabilities worker).maxBatchSamples := by
  have goes : (force || due config.scheduler now first || decide (batchLimit (config.scheduler.capabilities worker) ≤
      ((compatible queue first).map (·.sessionId)).dedup.length)) = true := by
    rcases dispatched with forced | late
    · simp [forced]
    · simp [late]
  rw [selectBatch_eq,made]
  simp only [if_pos goes]
  rw [fillBatch_eq,heads]
  exact (Greedy.fill_fills (·.sessionId) InferenceJob.sampleCount _ _ (first :: rest)).head InferenceJob.sampleCount _ _
    (batchLimit_positive _)

/-- A queue without expired and cancelled jobs is dispatched at once. -/
theorem runOnce_dispatches (admissible : Admissible config scheduler worker now) (some : scheduler.queues worker ≠ [])
    (healthy : scheduler.submitFailures worker = none) :
    scheduler.runOnce config.scheduler worker force now = scheduler.dispatch config.scheduler worker force now := by
  have none_expired : (scheduler.queues worker).filter (fun item => item.queueDeadline.any (· < now)) = [] :=
    List.filter_eq_nil_iff.mpr fun job member => by simpa [isExpired] using admissible.unexpired job member
  have none_cancelled : (scheduler.queues worker).filter scheduler.isCancelled = [] :=
    List.filter_eq_nil_iff.mpr fun job member => by simpa using admissible.active job member
  simp only [runOnce,healthy,Option.isSome_none,Bool.false_eq_true,if_false,if_neg some,none_expired,nextExpired,
    none_cancelled,nextCancelled]

/-- What `run_once` of a worker in service does with such a queue. -/
theorem runOnce_submits (admissible : Admissible config scheduler worker now)
    (some : scheduler.queues worker ≠ []) (healthy : scheduler.submitFailures worker = none) :
    (scheduler.runOnce config.scheduler worker force now).stages worker =
      if selectBatch config.scheduler worker force now (inOrder (scheduler.queues worker)) = [] then .idle
      else .submitting (selectBatch config.scheduler worker force now (inOrder (scheduler.queues worker))) := by
  have named : (selectBatch config.scheduler worker force now (inOrder (scheduler.queues worker))).any (·.jobId = []) = false := by
    rw [List.any_eq_false]
    intro job member
    have queued := (inOrder_perm _).subset ((selectBatch_sublist config.scheduler worker force now _).subset member)
    simpa using (admissible.enqueued job queued).named
  rw [runOnce_dispatches admissible some healthy]
  unfold dispatch
  dsimp only
  rw [show (scheduler.queues worker).insertionSort (earlier · ·) = inOrder (scheduler.queues worker) from rfl]
  split
  · simp
  · rw [named]
    simp

/-- Forced, or when its chosen job is due, a call of `run_once` with jobs of `_schedule_next` that are all
    live submits a batch with the chosen job, exactly when the worker is not failed and the
    job is no more than a batch of the worker may hold. -/
theorem head_progresses_iff (config : GatewayConfig V) (scheduler : GatewayScheduler) (worker : WorkerId) (force : Bool)
    (now : Time) (first : InferenceJob) (admissible : Admissible config scheduler worker now)
    (made : choice config.scheduler now (inOrder (scheduler.queues worker)) = some first)
    (dispatched : force = true ∨ due config.scheduler now first = true) :
    (∃ batch, (scheduler.runOnce config.scheduler worker force now).stages worker = .submitting batch ∧ batch ≠ [] ∧
      first ∈ batch) ↔
      scheduler.submitFailures worker = none ∧
        first.sampleCount ≤ (config.scheduler.capabilities worker).maxBatchSamples := by
  have enqueued : ∀ job ∈ inOrder (scheduler.queues worker), Enqueued config worker job := fun job member =>
    admissible.enqueued job ((inOrder_perm _).subset member)
  obtain ⟨rest,heads⟩ := chosen_heads (inOrder_sorted _) enqueued made
  have takes := @selectBatch_takes V config worker force now _ _ _ made heads dispatched
  have some : scheduler.queues worker ≠ [] := by
    intro empty
    have chosen := (choice_chosen (inOrder_sorted _) made).member
    simpa [empty] using (inOrder_perm _).subset chosen
  by_cases healthy : scheduler.submitFailures worker = none
  · rw [runOnce_submits admissible some healthy]
    constructor
    · rintro ⟨batch,submitting,_,member⟩
      split_ifs at submitting
      cases submitting
      exact ⟨healthy,takes.mp member⟩
    · rintro ⟨_,fits⟩
      have member := takes.mpr fits
      have nonempty := List.ne_nil_of_mem member
      exact ⟨_,if_neg nonempty,nonempty,member⟩
  · refine ⟨?_,fun ⟨well,_⟩ => absurd well healthy⟩
    rintro ⟨batch,submitting,_⟩
    have failed : (scheduler.submitFailures worker).isSome = true := Option.isSome_iff_ne_none.mpr healthy
    have settled : Stage.settled ((scheduler.runOnce config.scheduler worker force now).stages worker) = true := by
      simp only [runOnce,failed,if_true]
      exact nextDrain_settled _ _ _
    rw [submitting] at settled
    cases settled

/-- A worker whose batches hold fewer samples than one input. -/
def tightGateway (maxBatchSamples : Nat) (positive : 0 < maxBatchSamples) : GatewayConfig Unit :=
  { smallGateway with
    scheduler :=
      { smallGateway.scheduler with
        capabilities := fun worker =>
          { smallGateway.scheduler.capabilities worker with
            maxBatchSamples := maxBatchSamples
            maxBatchSamplesPositive := positive } } }

def tightSession : GatewaySession where
  sessionId := ['s']
  selectedWorkerId := ['w']
  backendSessionId := []
  sampleRate := 1
  language := []
  options := ⟨[],false,[],[]⟩
  buffer := { maxSamples := 4 }

/-- The job of two samples that `_schedule_next` makes. -/
def tightJob (config : GatewayConfig Unit) : InferenceJob :=
  (makeJob config 1 tightSession ⟨1,1,⟨0,2,[0,0,0,0],false⟩⟩).stamped 1

def tightScheduler (config : GatewayConfig Unit) : GatewayScheduler :=
  { GatewayScheduler.init with queues := Function.update (fun _ => []) ['w'] [tightJob config] }

theorem tightScheduler_admissible (config : GatewayConfig Unit)
    (room : 2 ≤ (config.scheduler.capabilities ['w']).maxInputSamples) (now : Time)
    (early : isExpired now (tightJob config) = false) : Admissible config (tightScheduler config) ['w'] now := by
  have only : ∀ job ∈ (tightScheduler config).queues ['w'], job = tightJob config := by
    intro job member
    simpa [tightScheduler] using member
  constructor
  · intro job member
    rw [only job member]
    exact ⟨tightSession,⟨1,1,⟨0,2,[0,0,0,0],false⟩⟩,1,1,rfl,by decide,room,le_refl _,rfl⟩
  · intro job member
    rw [only job member]
    exact early
  · intro job member
    rfl

theorem head_progresses_fitting : ∃ batch,
    ((tightScheduler (tightGateway 2 (by decide))).runOnce (tightGateway 2 (by decide)).scheduler ['w'] true 1).stages ['w'] =
      .submitting batch ∧ batch ≠ [] ∧ tightJob (tightGateway 2 (by decide)) ∈ batch :=
  (head_progresses_iff (tightGateway 2 (by decide)) (tightScheduler (tightGateway 2 (by decide))) ['w'] true 1
    (tightJob (tightGateway 2 (by decide))) (tightScheduler_admissible _ (by decide) 1 (by decide +kernel)) (by decide +kernel)
    (.inl rfl)).mpr ⟨rfl,by decide⟩

/-- The capabilities are accepted, the job is within the input limit, and a forced `run_once` leaves it where it is. -/
theorem head_blocks :
    let config := tightGateway 1 (by decide)
    let scheduler := tightScheduler config
    Admissible config scheduler ['w'] 1 ∧ choice config.scheduler 1 (inOrder (scheduler.queues ['w'])) = some (tightJob config) ∧
      (scheduler.runOnce config.scheduler ['w'] true 1).stages ['w'] = .idle ∧
      (scheduler.runOnce config.scheduler ['w'] true 1).queues ['w'] = [tightJob config] :=
  ⟨tightScheduler_admissible _ (by decide) 1 (by decide +kernel),by decide +kernel,by decide +kernel,by decide +kernel⟩

end SpeechGateway.Gateway
