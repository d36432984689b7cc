import Mathlib.Algebra.Order.Ring.Rat
import SpeechGateway.Greedy
import SpeechGateway.Accounts

/-!
What `run_once` submits. The expired and the cancelled jobs leave the queue first; the rest, in order of
deadline, is the offer from which a batch is filled for one chosen job (`batch_formed`).
-/
namespace SpeechGateway.Batching
open SpeechGateway.Scheduling SpeechGateway.Settlement SpeechGateway.Backends GatewayScheduler

variable {config : SchedulerConfig} {scheduler before next : GatewayScheduler} {worker : WorkerId} {force : Bool} {now : Time}
  {queue batch : List InferenceJob} {first : InferenceJob}

def isExpired (now : Time) (job : InferenceJob) : Bool := job.queueDeadline.any (· < now)

/-- The jobs of a worker that are neither expired nor cancelled. -/
def liveJobs (scheduler : GatewayScheduler) (worker : WorkerId) (now : Time) : List InferenceJob :=
  ((scheduler.queues worker).filter fun job => !isExpired now job).filter fun job => !scheduler.isCancelled job

def isDueFinal (config : SchedulerConfig) (now : Time) (job : InferenceJob) : Bool := job.final && due config now job

/-- The job that a batch is formed for: the earliest due final job if there is one, else the
    earliest job. -/
structure Chosen (config : SchedulerConfig) (now : Time) (queue : List InferenceJob) (first : InferenceJob) : Prop where
  member : first ∈ queue
  final : ∀ job ∈ queue, isDueFinal config now job = true → isDueFinal config now first = true ∧ earlier first job = true
  head : (∀ job ∈ queue, isDueFinal config now job = false) → ∀ job ∈ queue, earlier first job = true

/-- The jobs that may go with the chosen one. -/
def compatible (queue : List InferenceJob) (first : InferenceJob) : List InferenceJob :=
  queue.filter fun item => item.batchKey = first.batchKey

/-- The batch is the longest initial part within the limits of the first compatible jobs of the sessions. -/
structure Formed (caps : BackendCapabilities) (queue : List InferenceJob) (first : InferenceJob)
    (batch : List InferenceJob) : Prop where
  nonempty : batch ≠ []
  keyed : ∀ job ∈ batch, job.batchKey = first.batchKey
  sessions : (batch.map (·.sessionId)).Nodup
  single : caps.dispatchMode = .single → batch.length ≤ 1
  items : batch.length ≤ caps.maxBatchItems
  samples : totalSamples batch ≤ caps.maxBatchSamples
  greedy : ∃ rest, Greedy.firsts (·.sessionId) (compatible queue first) = batch ++ rest ∧ ∀ following, rest.head? = some following →
    batchLimit caps ≤ batch.length ∨ caps.maxBatchSamples < totalSamples batch + following.sampleCount
  earliest : ∀ job ∈ batch, ∀ other ∈ compatible queue first, other.sessionId = job.sessionId → earlier job other = true

theorem earlier_iff (first second : InferenceJob) : earlier first second = true ↔
    first.deadline < second.deadline ∨ first.deadline = second.deadline ∧
      (first.enqueuedAt < second.enqueuedAt ∨ first.enqueuedAt = second.enqueuedAt ∧ first.jobId ≤ second.jobId) := by
  unfold earlier
  by_cases deadline : first.deadline = second.deadline
  · by_cases enqueued : first.enqueuedAt = second.enqueuedAt
    · simp [deadline,enqueued]
    · simp [deadline,enqueued]
  · simp [deadline]

theorem earlier_refl (job : InferenceJob) : earlier job job = true := by
  rw [earlier_iff]
  exact .inr ⟨rfl,.inr ⟨rfl,le_refl _⟩⟩

theorem earlier_total (first second : InferenceJob) : earlier first second = true ∨ earlier second first = true := by
  simp only [earlier_iff]
  rcases lt_trichotomy first.deadline second.deadline with less | same | more
  · exact .inl (.inl less)
  · rcases lt_trichotomy first.enqueuedAt second.enqueuedAt with less | equal | more
    · exact .inl (.inr ⟨same,.inl less⟩)
    · rcases le_total first.jobId second.jobId with less | more
      · exact .inl (.inr ⟨same,.inr ⟨equal,less⟩⟩)
      · exact .inr (.inr ⟨same.symm,.inr ⟨equal.symm,more⟩⟩)
    · exact .inr (.inr ⟨same.symm,.inl more⟩)
  · exact .inr (.inl more)

theorem earlier_trans {first second third : InferenceJob} (one : earlier first second = true)
    (two : earlier second third = true) : earlier first third = true := by
  rw [earlier_iff] at *
  rcases one with less | ⟨same,one⟩
  · rcases two with more | ⟨equal,_⟩
    · exact .inl (less.trans more)
    · exact .inl (equal ▸ less)
  · rcases two with more | ⟨equal,two⟩
    · exact .inl (same ▸ more)
    · refine .inr ⟨same.trans equal,?_⟩
      rcases one with less | ⟨level,below⟩
      · rcases two with more | ⟨even,_⟩
        · exact .inl (less.trans more)
        · exact .inl (even ▸ less)
      · rcases two with more | ⟨even,above⟩
        · exact .inl (level ▸ more)
        · exact .inr ⟨level.trans even,le_trans below above⟩

/-- The queue as `run_once` sorts it. -/
def inOrder (jobs : List InferenceJob) : List InferenceJob := jobs.insertionSort (earlier · ·)

theorem inOrder_perm (jobs : List InferenceJob) : (inOrder jobs).Perm jobs := List.perm_insertionSort _ _

theorem inOrder_sorted (jobs : List InferenceJob) : (inOrder jobs).Pairwise (earlier · ·) := by
  have total : Std.Total (fun first second : InferenceJob => earlier first second = true) := ⟨earlier_total⟩
  have trans : IsTrans InferenceJob (fun first second => earlier first second = true) := ⟨fun _ _ _ => earlier_trans⟩
  exact List.pairwise_insertionSort _ jobs

theorem fillBatch_eq (limit maxSamples : Nat) (jobs batch : List InferenceJob) : fillBatch limit maxSamples jobs batch =
    Greedy.fill (·.sessionId) InferenceJob.sampleCount limit maxSamples jobs batch := by
  induction jobs generalizing batch with
  | nil => rfl
  | cons item rest ih =>
    simp only [fillBatch,Greedy.fill,ih]
    rfl

/-- The first job of a sorted queue that passes a test is the earliest one. -/
theorem head_earliest (sorted : queue.Pairwise (earlier · ·)) {passes : InferenceJob → Bool}
    (head : (queue.filter passes).head? = some first) : first ∈ queue ∧ passes first = true ∧
      ∀ job ∈ queue, passes job = true → earlier first job = true := by
  have member : first ∈ queue.filter passes := List.mem_of_head? head
  obtain ⟨inside,passed⟩ := List.mem_filter.mp member
  refine ⟨inside,passed,fun job there passing => ?_⟩
  obtain ⟨rest,split⟩ := List.head?_eq_some_iff.mp head
  have ordered := sorted.filter passes
  rw [split,List.pairwise_cons] at ordered
  have among : job ∈ queue.filter passes := List.mem_filter.mpr ⟨there,passing⟩
  rw [split] at among
  rcases List.mem_cons.mp among with rfl | later
  · exact earlier_refl job
  · exact ordered.1 job later

/-- The choice that a selection is made for. -/
def choice (config : SchedulerConfig) (now : Time) (queue : List InferenceJob) : Option InferenceJob :=
  (queue.filter (isDueFinal config now)).head?.or queue.head?

theorem choice_chosen (sorted : queue.Pairwise (earlier · ·)) (made : choice config now queue = some first) :
    Chosen config now queue first := by
  unfold choice at made
  cases finals : (queue.filter (isDueFinal config now)).head? with
  | some final =>
    rw [finals] at made
    obtain rfl : final = first := by simpa using made
    obtain ⟨member,passed,least⟩ := head_earliest sorted finals
    refine ⟨member,fun job there final => ⟨passed,least job there final⟩,fun none_final => ?_⟩
    rw [none_final final member] at passed
    cases passed
  | none =>
    rw [finals,Option.none_or] at made
    have none_final : ∀ job ∈ queue, isDueFinal config now job = false := by
      intro job there
      simpa using List.filter_eq_nil_iff.mp (List.head?_eq_none_iff.mp finals) job there
    have all : (queue.filter fun _ => true).head? = some first := by simpa using made
    obtain ⟨member,_,least⟩ := head_earliest sorted all
    refine ⟨member,fun job there final => ?_,fun _ job there => least job there rfl⟩
    rw [none_final job there] at final
    cases final

theorem batchLimit_positive (caps : BackendCapabilities) : 0 < batchLimit caps := by
  unfold batchLimit
  split
  · exact Nat.one_pos
  · exact caps.maxBatchItemsPositive

theorem batchLimit_le (caps : BackendCapabilities) : batchLimit caps ≤ caps.maxBatchItems := by
  unfold batchLimit
  split
  · exact caps.maxBatchItemsPositive
  · exact Nat.le_refl _

/-- A batch that is filled for a chosen job has the form of one. -/
theorem fillBatch_formed (caps : BackendCapabilities) (sorted : queue.Pairwise (earlier · ·)) (first : InferenceJob)
    (filled : fillBatch (batchLimit caps) caps.maxBatchSamples (compatible queue first) [] = batch) (some : batch ≠ []) :
    Formed caps queue first batch := by
  rw [fillBatch_eq] at filled
  obtain ⟨count,sum,rest,offer,stops⟩ := Greedy.fill_fills (·.sessionId) InferenceJob.sampleCount (batchLimit caps)
    caps.maxBatchSamples (compatible queue first)
  rw [filled] at count sum offer stops
  have offered : ∀ job ∈ batch, job ∈ Greedy.firsts (·.sessionId) (compatible queue first) := by
    intro job member
    rw [offer]
    exact List.mem_append_left _ member
  constructor
  · exact some
  · intro job member
    have inside := (Greedy.firsts_sublist (fun job : InferenceJob => job.sessionId) _).subset (offered job member)
    simpa using (List.mem_filter.mp inside).2
  · have distinct := Greedy.firsts_nodup (fun job : InferenceJob => job.sessionId) (compatible queue first)
    rw [offer,List.map_append] at distinct
    exact distinct.sublist (List.sublist_append_left _ _)
  · intro single
    rwa [batchLimit,if_pos single] at count
  · exact count.trans (batchLimit_le caps)
  · exact sum
  · exact ⟨rest,offer,stops⟩
  · intro job member other there same
    obtain ⟨behind,after,split,unlike⟩ := Greedy.mem_firsts _ (offered job member)
    have ordered : (compatible queue first).Pairwise (earlier · ·) := sorted.filter _
    rw [split,List.pairwise_append,List.pairwise_cons] at ordered
    rw [split] at there
    rcases List.mem_append.mp there with earlier | here
    · exact absurd same (unlike other earlier)
    · rcases List.mem_cons.mp here with rfl | later
      · exact earlier_refl other
      · exact ordered.2.1.1 other later

theorem selectBatch_eq (config : SchedulerConfig) (worker : WorkerId) (force : Bool) (now : Time) (queue : List InferenceJob) :
    selectBatch config worker force now queue = match choice config now queue with
      | none => []
      | some first =>
        if force || due config now first || decide (batchLimit (config.capabilities worker) ≤
            ((compatible queue first).map (·.sessionId)).dedup.length) then
          fillBatch (batchLimit (config.capabilities worker)) (config.capabilities worker).maxBatchSamples
            (compatible queue first) []
        else [] := rfl

theorem selectBatch_formed (config : SchedulerConfig) (worker : WorkerId) (force : Bool) (now : Time)
    (sorted : queue.Pairwise (earlier · ·)) (nonempty : selectBatch config worker force now queue ≠ []) :
    ∃ first, Chosen config now queue first ∧
      Formed (config.capabilities worker) queue first (selectBatch config worker force now queue) := by
  rw [selectBatch_eq] at nonempty ⊢
  cases made : choice config now queue with
  | none => simp [made] at nonempty
  | some first =>
    simp only [made] at nonempty ⊢
    refine ⟨first,choice_chosen sorted made,?_⟩
    split_ifs at nonempty ⊢
    · exact fillBatch_formed _ sorted first rfl nonempty
    · exact absurd rfl nonempty

/-! ## The call -/

theorem foldl_erase_cons {job : InferenceJob} (claims rest : List InferenceJob) (apart : ∀ claim ∈ claims, claim ≠ job) :
    claims.foldl List.erase (job :: rest) = job :: claims.foldl List.erase rest := by
  induction claims generalizing rest with
  | nil => rfl
  | cons claim claims ih =>
    have unlike : job ≠ claim := (apart claim List.mem_cons_self).symm
    rw [List.foldl_cons,List.foldl_cons,List.erase_cons_tail (by simpa using unlike)]
    exact ih _ fun other member => apart other (List.mem_cons_of_mem _ member)

/-- Removing the jobs that a test picks leaves the others. -/
theorem foldl_erase_filter (queue : List InferenceJob) (picks : InferenceJob → Bool) :
    (queue.filter picks).foldl List.erase queue = queue.filter fun job => !picks job := by
  induction queue with
  | nil => rfl
  | cons job rest ih =>
    by_cases picked : picks job = true
    · simp only [List.filter_cons,picked,if_true,List.foldl_cons,List.erase_cons_head,Bool.not_true,Bool.false_eq_true,if_false]
      exact ih
    · have apart : ∀ claim ∈ rest.filter picks, claim ≠ job := by
        rintro claim member rfl
        exact picked (List.mem_filter.mp member).2
      simp only [List.filter_cons,picked,if_false,Bool.false_eq_true,Bool.not_false,if_true]
      rw [foldl_erase_cons _ _ apart,ih]

/-- Nothing is left to select: the batch was submitted, or there is none. -/
def Stage.settled : Stage → Bool
  | .rejectExpired .. | .publishExpired .. | .rejectCancelled .. | .submitting .. => false
  | _ => true

/-- Where a call stands on the way to its batch. `unexpired` and `live` are what will be left of the queue. -/
def Selecting (config : SchedulerConfig) (worker : WorkerId) (force : Bool) (now : Time) (keys : List SessionKey)
    (unexpired live : List InferenceJob) (scheduler : GatewayScheduler) : Prop :=
  match scheduler.stages worker with
  | .rejectExpired forced _ rest | .publishExpired forced _ rest =>
    forced = force ∧ scheduler.cancelledGenerations = keys ∧ rest.foldl List.erase (scheduler.queues worker) = unexpired
  | .rejectCancelled forced _ rest =>
    forced = force ∧ rest.foldl List.erase (scheduler.queues worker) = live
  | .submitting batch => batch ≠ [] ∧ selectBatch config worker force now (inOrder live) = batch
  | _ => True

section Calls
variable {keys : List SessionKey} {unexpired live : List InferenceJob}

theorem Selecting.of_settled (settled : Stage.settled (next.stages worker) = true) :
    Selecting config worker force now keys unexpired live next := by
  unfold Selecting
  cases stage : next.stages worker <;> rw [stage] at settled <;> trivial

theorem dispatch_selecting (left : scheduler.queues worker = live) :
    Selecting config worker force now keys unexpired live (scheduler.dispatch config worker force now) := by
  unfold dispatch
  dsimp only
  split
  · exact .of_settled (by simp [Stage.settled])
  · rename_i some
    split
    · exact .of_settled (by simp [Stage.settled])
    · rw [left] at some ⊢
      simp only [Selecting,setStage_stage]
      exact ⟨some,rfl⟩

theorem remove_queue (scheduler : GatewayScheduler) (worker : WorkerId) (item : InferenceJob) :
    (scheduler.remove worker item).queues worker = (scheduler.queues worker).erase item := setQueue_queue _ _ _

theorem nextCancelled_selecting {claims : List InferenceJob} (left : claims.foldl List.erase (scheduler.queues worker) = live) :
    Selecting config worker force now keys unexpired live (scheduler.nextCancelled config worker force now claims) := by
  cases claims with
  | nil =>
    simp only [nextCancelled]
    split
    · exact .of_settled (by simp [Stage.settled])
    · exact dispatch_selecting left
  | cons item rest =>
    simp only [nextCancelled,Selecting,setStage_stage,setStage_queues,remove_queue]
    exact ⟨trivial,left⟩

theorem nextExpired_selecting {claims : List InferenceJob} (same : scheduler.cancelledGenerations = keys)
    (left : claims.foldl List.erase (scheduler.queues worker) = unexpired)
    (lives : unexpired.filter (fun job => !keys.contains job.key) = live) :
    Selecting config worker force now keys unexpired live (scheduler.nextExpired config worker force now claims) := by
  cases claims with
  | nil =>
    simp only [nextExpired]
    split
    · exact .of_settled (by simp [Stage.settled])
    · refine nextCancelled_selecting ?_
      rw [foldl_erase_filter,← lives,← same,← left]
      rfl
  | cons item rest =>
    simp only [nextExpired,Selecting,setStage_stage,setStage_queues,remove_queue]
    exact ⟨trivial,same,left⟩

theorem nextFailure_settled (failures : List Settlement) : Stage.settled ((scheduler.nextFailure worker failures).stages worker) = true := by
  cases failures <;> simp [nextFailure,Stage.settled]

theorem nextSettlement_settled (failures settlements : List Settlement) :
    Stage.settled ((scheduler.nextSettlement worker failures settlements).stages worker) = true := by
  cases settlements with
  | nil => exact nextFailure_settled failures
  | cons current rest => simp [nextSettlement,Stage.settled]

theorem nextDrain_settled (failures : List Settlement) (error : String) (jobs : List InferenceJob) :
    Stage.settled ((scheduler.nextDrain worker failures batch error jobs).stages worker) = true := by
  cases jobs with
  | nil => exact nextSettlement_settled failures _
  | cons item rest => simp [nextDrain,Stage.settled]

theorem failBatch_settled (typeName : String) :
    Stage.settled ((scheduler.failBatch worker batch typeName).stages worker) = true := by
  unfold failBatch
  dsimp only
  split
  · exact nextDrain_settled _ _ _
  · simp [Stage.settled]

theorem submitted_settled (raw : List (Option InferenceResult)) :
    Stage.settled ((scheduler.submitted worker batch raw).stages worker) = true := by
  unfold submitted
  split
  · exact failBatch_settled _
  split
  · exact failBatch_settled _
  · exact nextSettlement_settled _ _

/-- A call that goes on stays on the way to its batch. -/
theorem resume_selecting {reply : Reply} (selecting : Selecting config worker force now keys unexpired live scheduler)
    (lives : unexpired.filter (fun job => !keys.contains job.key) = live)
    (resumed : scheduler.resume config worker reply now = some next) :
    Selecting config worker force now keys unexpired live next := by
  unfold Selecting at selecting
  cases stage : scheduler.stages worker <;> rw [stage] at selecting <;> cases reply <;>
    simp only [resume,stage,Option.some.injEq,reduceCtorEq] at resumed <;> subst resumed
  case rejectExpired.done forced item rest =>
    simp only [Selecting,setStage_stage,setStage_queues]
    exact selecting
  case publishExpired.done forced item rest =>
    obtain ⟨rfl,same,left⟩ := selecting
    exact nextExpired_selecting same left lives
  case rejectCancelled.done | rejectCancelled.stale | rejectCancelled.raised =>
    obtain ⟨rfl,left⟩ := selecting
    exact nextCancelled_selecting left
  case submitting.raised => exact .of_settled (failBatch_settled _)
  case submitting.results => exact .of_settled (submitted_settled _)
  case workerFailed.done => exact .of_settled (nextDrain_settled _ _ _)
  case drainReject.done =>
    refine .of_settled ?_
    unfold drained
    split
    · simp [Stage.settled]
    · exact nextDrain_settled _ _ _
  case drainDiscard.done => exact .of_settled (nextDrain_settled _ _ _)
  case cleanup.done =>
    refine .of_settled ?_
    unfold cleaned
    dsimp only
    split <;> simp [Stage.settled]
  case cleanup.raised =>
    refine .of_settled ?_
    split <;> simp [Stage.settled]
  case discard.done => exact .of_settled (nextSettlement_settled _ _)
  case publishCleanupFailed.done => exact .of_settled (nextSettlement_settled _ _)
  case publish.done => exact .of_settled (nextSettlement_settled _ _)
  case publishFailures.done => exact .of_settled (nextFailure_settled _)
  -- what is left goes on to one suspension, or ends the call
  all_goals exact .of_settled (by simp [Stage.settled])

theorem runOnce_selecting :
    Selecting config worker force now scheduler.cancelledGenerations
      ((scheduler.queues worker).filter fun job => !isExpired now job) (liveJobs scheduler worker now)
      (scheduler.runOnce config worker force now) := by
  unfold runOnce
  split
  · exact .of_settled (nextDrain_settled _ _ _)
  split
  · exact .of_settled (by simp [Stage.settled])
  · exact nextExpired_selecting rfl (foldl_erase_filter _ _) rfl

/-- Whatever the hooks answer, a call is on the way to its batch. -/
theorem call_selecting {rejectSuspends : Bool} {replies : List Reply}
    (selecting : Selecting config worker force now keys unexpired live scheduler)
    (lives : unexpired.filter (fun job => !keys.contains job.key) = live)
    (ran : Machine.run (GatewayScheduler.step config rejectSuspends) scheduler
      (replies.map fun reply => .resume worker reply now) = some next) :
    Selecting config worker force now keys unexpired live next := by
  induction replies generalizing scheduler with
  | nil =>
    cases ran
    exact selecting
  | cons reply rest ih =>
    obtain ⟨middle,stepped,ran⟩ := (Machine.run_cons _).mp ran
    simp only [GatewayScheduler.step] at stepped
    split_ifs at stepped
    exact ih (resume_selecting selecting lives stepped) ran

end Calls

/-- The batch that a call of `run_once` submits, whatever its hooks answer: a nonempty part of the
    queue without expired and cancelled jobs, formed for the chosen job from the jobs that may
    go with it, in the order of `(deadline, enqueued_at, job_id)`. -/
theorem batch_formed (config : SchedulerConfig) (rejectSuspends : Bool) (worker : WorkerId) (force : Bool) (now : Time)
    (replies : List Reply) (before state : GatewayScheduler) (batch : List InferenceJob)
    (ran : Machine.run (GatewayScheduler.step config rejectSuspends) before
      (.runOnce worker force now :: replies.map fun reply => .resume worker reply now) = some state)
    (submitting : state.stages worker = .submitting batch) :
    ∃ queue first, queue.Perm (liveJobs before worker now) ∧ queue.Pairwise (earlier · ·) ∧
      Chosen config now queue first ∧ Formed (config.capabilities worker) queue first batch ∧
      ∀ job ∈ batch, job ∈ before.queues worker ∧ isExpired now job = false ∧ before.isCancelled job = false := by
  obtain ⟨middle,stepped,rest⟩ := (Machine.run_cons _).mp ran
  simp only [GatewayScheduler.step] at stepped
  split_ifs at stepped
  cases stepped
  have selecting := call_selecting runOnce_selecting rfl rest
  unfold Selecting at selecting
  rw [submitting] at selecting
  obtain ⟨nonempty,rfl⟩ := selecting
  have sorted := inOrder_sorted (liveJobs before worker now)
  obtain ⟨first,chosen,formed⟩ := selectBatch_formed config worker force now sorted nonempty
  refine ⟨inOrder (liveJobs before worker now),first,inOrder_perm _,sorted,chosen,formed,?_⟩
  intro job member
  have live := (inOrder_perm _).subset ((selectBatch_sublist config worker force now _).subset member)
  obtain ⟨unexpired,active⟩ := List.mem_filter.mp live
  obtain ⟨queued,pending⟩ := List.mem_filter.mp unexpired
  exact ⟨queued,by simpa using pending,by simpa using active⟩

def exampleConfig : SchedulerConfig :=
  { Accounts.exampleConfig with
    capabilities := fun _ =>
      { oneSample with
        dispatchMode := .dynamicMicrobatch
        maxInputSamples := 2
        maxSegmentSamples := 2
        maxBatchItems := 2
        maxBatchSamples := 3
        maxInputPositive := Nat.two_pos
        maxSegmentPositive := Nat.two_pos
        maxBatchItemsPositive := Nat.two_pos
        maxBatchSamplesPositive := by decide
        singleBatch := by decide
        inputFitsSegment := by decide }
    maxWaitSeconds := 1
    maxReadyJobs := 8
    maxQueuedSamples := 16 }

/-- A job of some samples that expires at `expiry`. -/
def queuedJob (sessionId : Char) (jobId : Char) (deadline expiry : Time) (samples : Nat) : InferenceJob where
  jobId := [jobId]
  sessionId := [sessionId]
  generation := 1
  jobSequence := 1
  workerId := ['w']
  backendSessionId := []
  startSample := 0
  endSample := samples
  pcm := List.replicate (samples * 2) 0
  deadline := deadline
  batchKey := ⟨['w'],[],[],[],false,[],[],[],0⟩
  enqueuedAt := 1
  queueDeadline := some expiry

/-- An expired job and a cancelled one are rejected; of two jobs of a session the earlier one goes. -/
theorem batch_formed_example : ∃ state,
    Machine.run (GatewayScheduler.step exampleConfig true)
      { GatewayScheduler.init with
        queues := fun _ => [queuedJob 's' 'a' 3 9 1,queuedJob 's' 'b' 2 9 1,queuedJob 'd' 'd' 0 1 1,queuedJob 't' 'c' 4 9 2,
          queuedJob 'e' 'e' 1 9 1]
        cancelledGenerations := [(['e'],1)] }
      (.runOnce ['w'] true 5 :: [Reply.done,.done,.stale].map fun reply => .resume ['w'] reply 5) = some state ∧
    state.stages ['w'] = .submitting [queuedJob 's' 'b' 2 9 1,queuedJob 't' 'c' 4 9 2] ∧
    ([queuedJob 's' 'b' 2 9 1,queuedJob 't' 'c' 4 9 2].map (·.sessionId)).Nodup := by
  obtain ⟨state,ran,submitting⟩ := (Option.any_eq_true _ _).mp (show (Machine.run (GatewayScheduler.step exampleConfig true)
      { GatewayScheduler.init with
        queues := fun _ => [queuedJob 's' 'a' 3 9 1,queuedJob 's' 'b' 2 9 1,queuedJob 'd' 'd' 0 1 1,queuedJob 't' 'c' 4 9 2,
          queuedJob 'e' 'e' 1 9 1]
        cancelledGenerations := [(['e'],1)] }
      (.runOnce ['w'] true 5 :: [Reply.done,.done,.stale].map fun reply => .resume ['w'] reply 5)).any (fun state =>
        decide (state.stages ['w'] = .submitting [queuedJob 's' 'b' 2 9 1,queuedJob 't' 'c' 4 9 2])) = true by decide +kernel)
  have submits := of_decide_eq_true submitting
  obtain ⟨_,_,_,_,_,formed,_⟩ := batch_formed exampleConfig true ['w'] true 5 [.done,.done,.stale] _ state _ ran submits
  exact ⟨state,ran,submits,formed.sessions⟩

end SpeechGateway.Batching
