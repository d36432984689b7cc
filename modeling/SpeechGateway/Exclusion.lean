import SpeechGateway.Orphans

/-!
A file and the streams exclude each other. A file announces itself by the flag that the `finally`
of `transcribe_file` drops, and the worker raises a flag of its own only once it executes the job.
`file_excludes_streams` says when the two flags cover the whole time from the claim of a file job
to its end, and `stream_during_file` that a cancelled caller leaves a gap.
-/
namespace SpeechGateway.Coordinator
open ASRInferenceCoordinator

/-- The worker may still claim the job, or has claimed it and not begun to transcribe. -/
def Phase.Owes (started : FutureState) : Phase → Prop
  | .taken _ | .checking _ | .warming | .claiming => started = .pending
  | .claimed | .executing => True
  | _ => False

/-- A file job in the queue or in the worker's hands is still to be transcribed. -/
def FileOwed (state : ASRInferenceCoordinator) : Prop :=
  (∃ job ∈ state.jobs, job.action = .transcribeFile ∧ state.started job.sequence = .pending) ∨
  ∃ phase job, state.worker = .busy phase job ∧ job.action = .transcribeFile ∧ phase.Owes (state.started job.sequence)

/-- A caller of `transcribe_file` is between its two lock blocks. -/
def FileAnnounced (state : ASRInferenceCoordinator) : Prop :=
  ∃ caller submission, (state.callers caller).entering = some submission ∧ submission.action = .transcribeFile

/-- The worker has claimed a file job, and has not finished it. -/
def TranscribesFile (state : ASRInferenceCoordinator) : Prop :=
  ∃ phase job, state.worker = .busy phase job ∧ job.action = .transcribeFile ∧
    (phase = .claimed ∨ phase = .executing ∨ phase = .transcribing)

structure Exclusive (state : ASRInferenceCoordinator) : Prop where
  owed : FileOwed state → state.batchPending = true ∧ state.streamReservations = ∅
  announced : state.accepting = true → FileAnnounced state → state.batchPending = true ∧ state.streamReservations = ∅
  running : ∀ job, state.worker = .busy .transcribing job → state.batchRunning = true ∧ state.streamReservations = ∅

/-- The `finally` of `transcribe_file` runs while no file is announced or still to be transcribed,
    and `start` does not run between the two lock blocks of `transcribe_file`. -/
def Covers (state : ASRInferenceCoordinator) (action : CoordinatorAction) : Prop :=
  (∀ caller outcome, action = .go caller → state.callers caller = .leaving outcome → ¬FileOwed state ∧ ¬FileAnnounced state) ∧
  (action = .start → ¬FileAnnounced state)

namespace Exclusive
variable {settings : CoordinatorSettings} {state next : ASRInferenceCoordinator} {caller : Nat}

theorem excludes (exclusive : Exclusive state) (transcribes : TranscribesFile state) : state.streamReservations = ∅ := by
  obtain ⟨phase,job,busy,file,rfl | rfl | rfl⟩ := transcribes
  · exact (exclusive.owed (.inr ⟨.claimed,job,busy,file,trivial⟩)).2
  · exact (exclusive.owed (.inr ⟨.executing,job,busy,file,trivial⟩)).2
  · exact (exclusive.running job busy).2

/-- Nothing new is owed, and no reservation is made. -/
theorem keeps (exclusive : Exclusive state) (owed : FileOwed next → FileOwed state)
    (announced : next.accepting = true → FileAnnounced next → state.accepting = true ∧ FileAnnounced state)
    (pending : next.batchPending = state.batchPending) (fewer : next.streamReservations ⊆ state.streamReservations)
    (running : ∀ job, next.worker = .busy .transcribing job → next.batchRunning = true ∧
      (FileOwed state ∨ ∃ held, state.worker = .busy .transcribing held)) : Exclusive next := by
  have empty : state.streamReservations = ∅ → next.streamReservations = ∅ := fun none => by
    rw [none] at fewer
    exact Finset.subset_empty.mp fewer
  constructor
  · intro owes
    rw [pending]
    exact (exclusive.owed (owed owes)).imp_right empty
  · intro accepting announces
    obtain ⟨accepts,before⟩ := announced accepting announces
    rw [pending]
    exact (exclusive.announced accepts before).imp_right empty
  · intro job transcribes
    obtain ⟨flag,owes | ⟨held,busy⟩⟩ := running job transcribes
    · exact ⟨flag,empty (exclusive.owed owes).2⟩
    · exact ⟨flag,empty (exclusive.running held busy).2⟩

/-- Nobody could make a reservation while a file is owed, announced or transcribed. -/
theorem free (unannounced : state.batchPending = false) (unused : state.batchRunning = false) (exclusive : Exclusive state) :
    ¬FileOwed state ∧ ¬(state.accepting = true ∧ FileAnnounced state) ∧ ∀ job, state.worker ≠ .busy .transcribing job := by
  refine ⟨fun owes => ?_,fun ⟨accepts,announces⟩ => ?_,fun job busy => ?_⟩
  · rw [(exclusive.owed owes).1] at unannounced
    cases unannounced
  · rw [(exclusive.announced accepts announces).1] at unannounced
    cases unannounced
  · rw [(exclusive.running job busy).1] at unused
    cases unused

theorem owes_mono {phase : Phase} {before after : FutureState} (onward : after = .pending → before = .pending)
    (owes : phase.Owes after) : phase.Owes before := by
  cases phase with
  | taken | checking | warming | claiming => exact onward owes
  | claimed | executing => trivial
  | _ => exact owes

/-- The queue and the worker are as before. -/
theorem owed_mono (jobs : next.jobs = state.jobs) (worker : next.worker = state.worker)
    (onward : ∀ job, next.started job = .pending → state.started job = .pending) (owed : FileOwed next) : FileOwed state := by
  rcases owed with ⟨job,queued,file,pending⟩ | ⟨phase,job,busy,file,owes⟩
  · exact .inl ⟨job,jobs ▸ queued,file,onward _ pending⟩
  · exact .inr ⟨phase,job,worker ▸ busy,file,owes_mono (onward _) owes⟩

theorem moves (exclusive : Exclusive state) (moves : Moves state next caller)
    (covered : (∃ outcome, state.callers caller = .leaving outcome) → ¬FileOwed state ∧ ¬FileAnnounced state) : Exclusive next := by
  have unchanged : ∀ {α : Type} (field : ASRInferenceCoordinator → α), field next.plant = field state.plant :=
    fun field => congrArg field moves.plant
  have worker : next.worker = state.worker := unchanged (·.worker)
  have accepting : next.accepting = state.accepting := unchanged (·.accepting)
  have reserved : next.streamReservations = state.streamReservations := unchanged (·.streamReservations)
  have owed : FileOwed next → FileOwed state := owed_mono (unchanged (·.jobs)) worker moves.started
  have running : next.batchRunning = state.batchRunning := unchanged (·.batchRunning)
  obtain ⟨stage,callers,enters⟩ := moves.stage
  have announced : FileAnnounced next → Announces state next ∨ FileAnnounced state := by
    rintro ⟨other,submission,entering,file⟩
    rw [callers] at entering
    rcases Fresh.entering_update entering with ⟨_,mine⟩ | ⟨_,theirs⟩
    · exact .inl ((enters submission mine).2.2 file)
    · exact .inr ⟨other,submission,theirs,file⟩
  have announces : Announces state next → next.batchPending = true ∧ next.streamReservations = ∅ := by
    rintro ⟨pending,_,_,none⟩
    exact ⟨pending,reserved.trans none⟩
  constructor
  · intro owes
    rcases moves.batch with same | leaving | announcing
    · rw [same,reserved]
      exact exclusive.owed (owed owes)
    · exact absurd (owed owes) (covered leaving).1
    · exact announces announcing
  · intro accepts announcing
    rcases announced announcing with now | before
    · exact announces now
    · rcases moves.batch with same | leaving | announcing
      · rw [same,reserved]
        exact exclusive.announced (accepting ▸ accepts) before
      · exact absurd before (covered leaving).2
      · exact announces announcing
  · rw [worker,running,reserved]
    exact exclusive.running

/-- A caller leaves the lock block of `_submit`, which may have queued its job. -/
theorem submits (exclusive : Exclusive state) (housed : Housed settings state) {submission : Submission} {sequence : Nat}
    (stands : state.callers caller = .submitting submission sequence) (gone : state.go settings caller = some next) :
    Exclusive next := by
  have entering : (state.callers caller).entering = some submission := by rw [stands]; rfl
  obtain ⟨error,admitted,stage,submitted,outside,rfl⟩ := go_submits stands gone
  -- whoever announces a file afterwards has announced it before
  have announced : ∀ {moved : ASRInferenceCoordinator}, moved.callers = state.callers →
      FileAnnounced (moved.withCaller caller stage) → FileAnnounced state := by
    rintro moved callers ⟨other,own,enters,file⟩
    rw [show (moved.withCaller caller stage).callers = Function.update state.callers caller stage by rw [← callers]; rfl] at enters
    rcases Fresh.entering_update enters with ⟨_,mine⟩ | ⟨_,theirs⟩
    · rw [outside] at mine
      cases mine
    · exact ⟨other,own,theirs,file⟩
  rcases submit_cases submitted housed.roomy with ⟨_,rfl | ⟨reserved,made,rfl⟩⟩ | ⟨_,accepts,_,reserved,made,_,_,rfl⟩
  · exact exclusive.keeps id (fun accepts announces => ⟨accepts,announced rfl announces⟩) rfl subset_rfl
      fun job busy => ⟨(exclusive.running job busy).1,.inr ⟨job,busy⟩⟩
  · rw [Housed.giveBack_eq]
    rcases reserve_ok made with ⟨_,unannounced,unused,_,rfl⟩ | ⟨streamless,_,_,rfl⟩ | ⟨streamless,_,rfl⟩
    · obtain ⟨unowed,quiet,idle⟩ := exclusive.free unannounced unused
      exact ⟨fun owes => absurd owes unowed,fun accepts announces => absurd ⟨accepts,announced rfl announces⟩ quiet,
        fun job busy => absurd busy (idle job)⟩
    all_goals
      have plain : (submission.job sequence).holdsStreamReservation = false := streamless
      rw [if_neg (by rw [plain]; decide)]
      exact exclusive.keeps id (fun accepts announces => ⟨accepts,announced rfl announces⟩) rfl subset_rfl
        fun job busy => ⟨(exclusive.running job busy).1,.inr ⟨job,busy⟩⟩
  · have member : ∀ {job : Job}, job ∈ state.jobs.orderedInsert (fun first second => first.before second)
        (submission.job sequence) → job = submission.job sequence ∨ job ∈ state.jobs :=
      fun queued => List.mem_cons.mp ((List.perm_orderedInsert _ _ state.jobs).subset queued)
    -- a queued file job was announced by its caller
    have owed : ∀ {moved : ASRInferenceCoordinator}, moved.jobs = state.jobs → moved.worker = state.worker →
        moved.started = state.started → FileOwed ((moved.queued (submission.job sequence)).withCaller caller stage) →
        submission.action = .transcribeFile ∨ FileOwed state := by
      rintro moved jobs worker started (⟨job,queued,file,pending⟩ | ⟨phase,job,busy,file,owes⟩)
      · rw [show ((moved.queued (submission.job sequence)).withCaller caller stage).jobs =
          state.jobs.orderedInsert (fun first second => first.before second) (submission.job sequence) by rw [← jobs]; rfl] at queued
        rcases member queued with rfl | queued
        · exact .inl file
        · exact .inr (.inl ⟨job,queued,file,started ▸ pending⟩)
      · exact .inr (.inr ⟨phase,job,worker ▸ busy,file,started ▸ owes⟩)
    have filed : submission.action = .transcribeFile → state.batchPending = true ∧ state.streamReservations = ∅ :=
      fun file => exclusive.announced accepts ⟨caller,submission,entering,file⟩
    rcases reserve_ok made with ⟨stream,unannounced,unused,_,rfl⟩ | ⟨_,_,_,rfl⟩ | ⟨_,_,rfl⟩
    · obtain ⟨unowed,quiet,idle⟩ := exclusive.free unannounced unused
      refine ⟨fun owes => ?_,fun accepts announces => absurd ⟨accepts,announced rfl announces⟩ quiet,
        fun job busy => absurd busy (idle job)⟩
      rcases owed rfl rfl rfl owes with file | before
      · rw [show (submission.job sequence).action = .transcribeFile from file] at stream
        cases stream
      · exact absurd before unowed
    all_goals exact ⟨fun owes => (owed rfl rfl rfl owes).elim filed exclusive.owed,
      fun accepts announces => exclusive.announced accepts (announced rfl announces),exclusive.running⟩

theorem starts (exclusive : Exclusive state) (covered : ¬FileAnnounced state)
    (started : state.start = some next) : Exclusive next := by
  have apart := start_apart started
  unfold start at started
  split at started
  all_goals cases started
  all_goals
    refine ⟨?_,fun _ announces => absurd announces covered,by rintro _ ⟨⟩⟩
    rintro (⟨job,queued,file,pending⟩ | ⟨_,_,⟨⟩,_⟩)
    exact exclusive.owed (.inl ⟨job,queued,file,pending⟩)

theorem stops (exclusive : Exclusive state) : Exclusive (state.stop settings) := by
  rcases Housed.stop_cases settings state with ⟨_,_,same,_⟩ | ⟨_,_,_,same⟩
  · rw [same]
    exact ⟨exclusive.owed,by rintro ⟨⟩,exclusive.running⟩
  · rw [same]
    refine ⟨?_,by rintro ⟨⟩,exclusive.running⟩
    rintro (⟨job,queued,file,pending⟩ | inHand)
    · rcases List.mem_cons.mp ((List.perm_orderedInsert _ _ state.jobs).subset queued) with rfl | queued
      · cases file
      · exact exclusive.owed (.inl ⟨job,queued,file,pending⟩)
    · exact exclusive.owed (.inr inHand)

variable {phase : Phase} {job : Job} {input : WorkInput}

/-- The worker goes on with its job: it owes a file only if it did before. -/
theorem works (exclusive : Exclusive state) (busy : state.worker = .busy phase job)
    (same : next.jobs = state.jobs ∧ next.callers = state.callers ∧ next.batchPending = state.batchPending)
    (accepting : next.accepting = true → state.accepting = true) (fewer : next.streamReservations ⊆ state.streamReservations)
    (onward : ∀ own, next.started own = .pending → state.started own = .pending)
    (goes : ∀ later held, next.worker = .busy later held → held.action = job.action ∧
      (later.Owes (next.started held.sequence) → phase.Owes (state.started job.sequence)) ∧ later ≠ .transcribing) :
    Exclusive next := by
  obtain ⟨jobs,callers,pending⟩ := same
  refine exclusive.keeps ?_ (fun accepts announces => ⟨accepting accepts,?_⟩) pending fewer fun held transcribes => ?_
  · rintro (⟨own,queued,file,waits⟩ | ⟨later,held,stands,file,owes⟩)
    · exact .inl ⟨own,jobs ▸ queued,file,onward _ waits⟩
    · obtain ⟨action,owed,_⟩ := goes later held stands
      exact .inr ⟨phase,job,busy,action ▸ file,owed owes⟩
  · rw [FileAnnounced,← callers]
    exact announces
  · exact absurd rfl (goes _ held transcribes).2.2

theorem update_pending {started : Nat → FutureState} {number : Nat} {future : FutureState}
    (touched : future = .pending → started number = .pending) :
    ∀ own, Function.update started number future own = .pending → started own = .pending := by
  intro own pending
  by_cases same : own = number
  · rw [same,Function.update_self] at pending
    rw [same]
    exact touched pending
  · rw [Function.update_of_ne same] at pending
    exact pending

theorem notified_touched (future : FutureState) : future.setRunningOrNotifyCancel.2 = .pending → future = .pending := by
  cases future <;> rintro ⟨⟩

theorem settled_touched (error : Option Fault) (future : FutureState) :
    (future.settle error).getD future = .pending → future = .pending := by
  cases future <;> rintro ⟨⟩

/-- The worker executes the job: only now it raises its own flag. -/
theorem executes (exclusive : Exclusive state) (busy : state.worker = .busy .executing job) :
    Exclusive (state.execute input job) := by
  obtain ⟨exit,_,⟨_,_,same⟩ | ⟨_,same⟩ | ⟨file,same⟩ | ⟨_,_,_,_,same⟩⟩ := Housed.execute_cases state input job
  · rw [same]
    refine exclusive.works busy ⟨rfl,rfl,rfl⟩ id subset_rfl (fun _ => id) ?_
    rintro _ _ ⟨⟩
    exact ⟨rfl,False.elim,by rintro ⟨⟩⟩
  · rw [same]
    refine exclusive.works busy ⟨rfl,rfl,rfl⟩ id Finset.sdiff_subset (fun _ => id) ?_
    rintro _ _ ⟨⟩
    exact ⟨rfl,False.elim,by rintro ⟨⟩⟩
  · rw [same]
    refine exclusive.keeps ?_ (fun accepts announces => ⟨accepts,announces⟩) rfl subset_rfl
      fun _ _ => ⟨rfl,.inl (.inr ⟨.executing,job,busy,file,trivial⟩)⟩
    rintro (queued | ⟨_,_,⟨⟩,_,owes⟩)
    · exact .inl queued
    · exact owes.elim
  · rw [same]
    refine exclusive.works busy ⟨rfl,rfl,rfl⟩ id subset_rfl (fun _ => id) ?_
    rintro _ _ ⟨⟩
    exact ⟨rfl,False.elim,by rintro ⟨⟩⟩

theorem proceeds (exclusive : Exclusive state) (busy : state.worker = .busy phase job) :
    Exclusive (state.proceed input job phase) := by
  cases phase with
  | taken draining =>
    simp only [proceed,releaseQueueSlot]
    split
    · refine exclusive.works busy ⟨rfl,rfl,rfl⟩ id subset_rfl (fun _ => id) ?_
      rintro _ _ ⟨⟩
      exact ⟨rfl,False.elim,by rintro ⟨⟩⟩
    · split
      · split
        · rename_i settled
          refine exclusive.works busy ⟨rfl,rfl,rfl⟩ id subset_rfl (update_pending fun pending => ?_) ?_
          · obtain ⟨_,finished⟩ := FutureState.settle_onward settled
            rw [pending] at finished
            cases finished
          · rintro _ _ ⟨⟩
            exact ⟨rfl,False.elim,by rintro ⟨⟩⟩
        · refine exclusive.works busy ⟨rfl,rfl,rfl⟩ id subset_rfl (fun _ => id) ?_
          rintro _ _ ⟨⟩
          exact ⟨rfl,False.elim,by rintro ⟨⟩⟩
      · refine exclusive.works busy ⟨rfl,rfl,rfl⟩ id subset_rfl (fun _ => id) ?_
        rintro _ _ ⟨⟩
        exact ⟨rfl,id,by rintro ⟨⟩⟩
  | checking second =>
    simp only [proceed,check]
    repeat' split
    all_goals
      refine exclusive.works busy ⟨rfl,rfl,rfl⟩ id subset_rfl (fun _ => id) ?_
      rintro _ _ ⟨⟩
    iterate 3 exact ⟨rfl,id,by rintro ⟨⟩⟩
    all_goals exact ⟨rfl,False.elim,by rintro ⟨⟩⟩
  | rejecting error draining =>
    simp only [proceed]
    refine exclusive.works busy ⟨rfl,rfl,rfl⟩ id subset_rfl (update_pending (notified_touched _)) ?_
    rintro _ _ ⟨⟩
    split
    all_goals exact ⟨rfl,False.elim,by rintro ⟨⟩⟩
  | rejected error draining =>
    refine exclusive.works busy ⟨rfl,rfl,rfl⟩ id subset_rfl (update_pending (settled_touched _ _)) ?_
    rintro _ _ ⟨⟩
    exact ⟨rfl,False.elim,by rintro ⟨⟩⟩
  | warming =>
    simp only [proceed,warm]
    split
    · refine exclusive.works busy ⟨rfl,rfl,rfl⟩ id subset_rfl (fun _ => id) ?_
      rintro _ _ ⟨⟩
      exact ⟨rfl,id,by rintro ⟨⟩⟩
    · refine exclusive.works busy ⟨rfl,rfl,rfl⟩ (by rintro ⟨⟩) subset_rfl (fun _ => id) ?_
      rintro _ _ ⟨⟩
      exact ⟨rfl,False.elim,by rintro ⟨⟩⟩
    · refine exclusive.works busy ⟨rfl,rfl,rfl⟩ id subset_rfl (fun _ => id) ?_
      rintro _ _ ⟨⟩
      exact ⟨rfl,False.elim,by rintro ⟨⟩⟩
  | claiming =>
    simp only [proceed]
    refine exclusive.works busy ⟨rfl,rfl,rfl⟩ id subset_rfl (update_pending (notified_touched _)) ?_
    rintro _ _ ⟨⟩
    split
    · rename_i claimed
      exact ⟨rfl,fun _ => (FutureState.claimed_running claimed).1,by rintro ⟨⟩⟩
    · exact ⟨rfl,False.elim,by rintro ⟨⟩⟩
  | claimed =>
    refine exclusive.works busy ⟨rfl,rfl,rfl⟩ id subset_rfl (update_pending (settled_touched _ _)) ?_
    rintro _ _ ⟨⟩
    exact ⟨rfl,fun _ => trivial,by rintro ⟨⟩⟩
  | executing => exact exclusive.executes busy
  | cleaning exit =>
    simp only [proceed]
    split
    all_goals
      refine exclusive.works busy ⟨rfl,rfl,rfl⟩ id subset_rfl (fun _ => id) ?_
      rintro _ _ ⟨⟩
      exact ⟨rfl,False.elim,by rintro ⟨⟩⟩
  | releasingStream exit =>
    simp only [proceed,Housed.releaseStreamReservation_eq]
    refine exclusive.works busy ⟨rfl,rfl,rfl⟩ id ?_ (fun _ => id) ?_
    · show (if job.holdsStreamReservation then _ else _) ⊆ state.streamReservations
      split
      · exact Finset.sdiff_subset
      · exact subset_rfl
    · cases exit
      all_goals rintro _ _ ⟨⟩
      all_goals exact ⟨rfl,False.elim,by rintro ⟨⟩⟩
  | settlingStarted exit =>
    simp only [proceed]
    split
    all_goals
      refine exclusive.works busy ⟨rfl,rfl,rfl⟩ id subset_rfl (fun _ => id) ?_
      rintro _ _ ⟨⟩
      exact ⟨rfl,False.elim,by rintro ⟨⟩⟩
  | settingStarted exit =>
    simp only [proceed]
    split
    · rename_i settled
      refine exclusive.works busy ⟨rfl,rfl,rfl⟩ id subset_rfl (update_pending fun pending => ?_) ?_
      · obtain ⟨_,finished⟩ := FutureState.settle_onward settled
        rw [pending] at finished
        cases finished
      · rintro _ _ ⟨⟩
        exact ⟨rfl,False.elim,by rintro ⟨⟩⟩
    · exact exclusive.works busy ⟨rfl,rfl,rfl⟩ id subset_rfl (fun _ => id) (by rintro _ _ ⟨⟩)
  | settlingResult exit =>
    simp only [proceed]
    split
    · exact exclusive.works busy ⟨rfl,rfl,rfl⟩ id subset_rfl (fun _ => id)
        fun later held stands => absurd stands (Futured.finished_idle exit later held)
    · refine exclusive.works busy ⟨rfl,rfl,rfl⟩ id subset_rfl (fun _ => id) ?_
      rintro _ _ ⟨⟩
      exact ⟨rfl,False.elim,by rintro ⟨⟩⟩
  | settingResult exit =>
    simp only [proceed]
    split
    · exact exclusive.works busy ⟨rfl,rfl,rfl⟩ id subset_rfl (fun _ => id)
        fun later held stands => absurd stands (Futured.finished_idle exit later held)
    · exact exclusive.works busy ⟨rfl,rfl,rfl⟩ id subset_rfl (fun _ => id) (by rintro _ _ ⟨⟩)
  | purging exit =>
    refine exclusive.works busy ⟨rfl,rfl,rfl⟩ id Finset.sdiff_subset (fun _ => id) ?_
    rintro _ _ ⟨⟩
    exact ⟨rfl,False.elim,by rintro ⟨⟩⟩
  | dropping draining =>
    refine exclusive.works busy ⟨rfl,rfl,rfl⟩ id subset_rfl (fun _ => id) ?_
    rintro _ _ ⟨⟩
    cases draining
    all_goals exact ⟨rfl,False.elim,by rintro ⟨⟩⟩
  | _ =>
    refine exclusive.works busy ⟨rfl,rfl,rfl⟩ id subset_rfl (fun _ => id) ?_
    rintro _ _ ⟨⟩
    exact ⟨rfl,False.elim,by rintro ⟨⟩⟩

/-- The worker takes a job. -/
theorem takes (exclusive : Exclusive state) {rest : List Job} {draining : Bool} (queue : state.jobs = job :: rest) :
    Exclusive { state with jobs := rest, worker := .busy (.taken draining) job } := by
  refine exclusive.keeps ?_ (fun accepts announces => ⟨accepts,announces⟩) rfl subset_rfl (by rintro _ ⟨⟩)
  rintro (⟨own,queued,file,pending⟩ | ⟨_,_,⟨⟩,file,pending⟩)
  · exact .inl ⟨own,queue ▸ List.mem_cons_of_mem _ queued,file,pending⟩
  · exact .inl ⟨job,queue ▸ List.mem_cons_self ..,file,pending⟩

/-- The worker goes on without a job. -/
theorem idles (exclusive : Exclusive state) (worker : ∀ later held, next.worker ≠ .busy later held)
    (same : next.jobs = state.jobs ∧ next.callers = state.callers ∧ next.started = state.started ∧
      next.batchPending = state.batchPending ∧ next.streamReservations = state.streamReservations)
    (accepting : next.accepting = true → state.accepting = true) : Exclusive next := by
  obtain ⟨jobs,callers,started,pending,reserved⟩ := same
  refine exclusive.keeps ?_ (fun accepts announces => ⟨accepting accepts,?_⟩) pending (by rw [reserved])
    fun held stands => absurd stands (worker _ held)
  · rintro (⟨own,queued,file,waits⟩ | ⟨later,held,stands,_⟩)
    · exact .inl ⟨own,jobs ▸ queued,file,started ▸ waits⟩
    · exact absurd stands (worker later held)
  · rw [FileAnnounced,← callers]
    exact announces

theorem worked (exclusive : Exclusive state) (housed : Housed settings state) (works : state.work settings input = some next) :
    Exclusive next := by
  unfold work at works
  split at works
  · cases works
  · cases works
  · cases works
  · cases works
    unfold load
    split
    · exact exclusive.idles (by rintro _ _ ⟨⟩) ⟨rfl,rfl,rfl,rfl,rfl⟩ id
    · exact exclusive.idles (by rintro _ _ ⟨⟩) ⟨rfl,rfl,rfl,rfl,rfl⟩ (by rintro ⟨⟩)
    · exact exclusive.idles (by rintro _ _ ⟨⟩) ⟨rfl,rfl,rfl,rfl,rfl⟩ id
  · split at works
    · cases works
    · rename_i queue
      cases works
      exact exclusive.takes queue
  · rename_i busy
    cases works
    exact exclusive.proceeds busy
  · cases works
    exact exclusive.idles (by rintro _ _ ⟨⟩) ⟨rfl,rfl,rfl,rfl,rfl⟩ (by rintro ⟨⟩)
  · split at works
    · cases works
      exact exclusive.idles (by rintro _ _ ⟨⟩) ⟨rfl,rfl,rfl,rfl,rfl⟩ id
    · rename_i queue
      cases works
      exact exclusive.takes queue
  · rename_i aborting
    cases works
    have jobs := housed.emptied (by rw [aborting]; rfl)
    have closed := (housed.ended (by rw [aborting]; rfl)).1
    unfold clear
    split
    · exact exclusive.idles (by rintro _ _ ⟨⟩) ⟨rfl,rfl,rfl,rfl,rfl⟩ id
    · refine ⟨?_,fun accepts => absurd (closed.symm.trans accepts) Bool.false_ne_true,by rintro _ ⟨⟩⟩
      rintro (⟨own,queued,_⟩ | ⟨_,_,⟨⟩,_⟩)
      rw [show _ = _ from jobs] at queued
      cases queued

end Exclusive

/-! ## Every run -/

theorem step_exclusive {settings : CoordinatorSettings} {state next : ASRInferenceCoordinator} {action : CoordinatorAction}
    (kept : Kept settings state ∧ Exclusive state) (covers : Covers state action)
    (stepped : state.step settings action = some next) : Kept settings next ∧ Exclusive next := by
  obtain ⟨⟨housed,fresh⟩,exclusive⟩ := kept
  refine ⟨step_kept ⟨housed,fresh⟩ stepped,?_⟩
  cases action with
  | start => exact exclusive.starts (covers.2 rfl) stepped
  | stop =>
    cases stepped
    exact exclusive.stops
  | call caller request =>
    have idle : state.callers caller = .idle := by
      by_contra busy
      simp [step,call,busy] at stepped
    rcases call_cases stepped with moves | ⟨action,sessionId,stream,_,rfl⟩
    · refine exclusive.moves moves fun ⟨outcome,leaving⟩ => ?_
      rw [idle] at leaving
      cases leaving
    · refine exclusive.keeps id (fun accepts announces => ⟨accepts,?_⟩) rfl subset_rfl
        fun job busy => ⟨(exclusive.running job busy).1,.inr ⟨job,busy⟩⟩
      obtain ⟨other,submission,enters,file⟩ := announces
      rcases Fresh.entering_update enters with ⟨_,mine⟩ | ⟨_,theirs⟩
      · cases mine
        rw [show action = .transcribeFile from file] at stream
        cases stream
      · exact ⟨other,submission,theirs,file⟩
  | go caller =>
    cases enters : (state.callers caller).entering with
    | none => exact exclusive.moves (go_moves enters stepped) fun ⟨outcome,leaving⟩ => covers.1 caller outcome rfl leaving
    | some submission =>
      obtain ⟨sequence,stands⟩ := entering_submitting enters
      exact exclusive.submits housed stands stepped
  | expire caller =>
    refine exclusive.moves (expire_moves stepped) fun ⟨outcome,leaving⟩ => ?_
    simp [step,expire,leaving] at stepped
  | cancel caller =>
    refine exclusive.moves (cancel_moves stepped) fun ⟨outcome,leaving⟩ => ?_
    simp [step,cancel,leaving] at stepped
  | work input => exact exclusive.worked housed stepped

theorem initial_exclusive : Exclusive {} := by
  refine ⟨?_,by rintro ⟨⟩,by rintro _ ⟨⟩⟩
  rintro (⟨_,queued,_⟩ | ⟨_,_,⟨⟩,_⟩)
  cases queued

/-- In a run whose steps all cover the files, no stream is reserved while one is transcribed. -/
theorem file_excludes_streams (settings : CoordinatorSettings) (actions : List CoordinatorAction) (state : ASRInferenceCoordinator)
    (covered : Machine.Along (ASRInferenceCoordinator.step settings) Covers {} actions) (reached : Reached settings actions state)
    (transcribes : TranscribesFile state) : state.streamReservations = ∅ := by
  have kept := Machine.invariant_along (ASRInferenceCoordinator.step settings)
    (fun state => Kept settings state ∧ Exclusive state) (fun _ _ _ kept covers stepped => step_exclusive kept covers stepped)
    ⟨initial_kept settings,initial_exclusive⟩ covered reached
  exact kept.2.excludes transcribes

/-- A file is announced and submitted, and the worker transcribes it. -/
def fileActions : List CoordinatorAction :=
  [.work {},.call 0 .transcribeFile,.go 0,.go 0] ++ List.replicate 7 (.work {})

/-- No file call ends, and the coordinator does not start. -/
def goesOn (state : ASRInferenceCoordinator) : CoordinatorAction → Bool
  | .start => false
  | .go caller =>
    match state.callers caller with
    | .leaving _ => false
    | _ => true
  | _ => true

/-- The worker runs a job, in a phase, that are allowed. -/
def Worker.runs (allowed : Phase → Job → Bool) : Worker → Bool
  | .busy phase job => allowed phase job
  | _ => false

theorem Worker.of_runs {allowed : Phase → Job → Bool} {worker : Worker} (runs : worker.runs allowed = true) :
    ∃ phase job, worker = .busy phase job ∧ allowed phase job = true := by
  cases worker with
  | busy phase job => exact ⟨phase,job,rfl,runs⟩
  | _ => cases runs

theorem file_excludes_streams_run : ∃ state, Reached exampleSettings (.start :: fileActions) state ∧ TranscribesFile state ∧
    state.streamReservations = ∅ := by
  have runs : ((Machine.run (ASRInferenceCoordinator.step exampleSettings) {} (.start :: fileActions)).filter fun state =>
      state.worker.runs fun phase job => decide (phase = .transcribing ∧ job.action = .transcribeFile)).isSome = true := by
    decide +kernel
  obtain ⟨state,found⟩ := Option.isSome_iff_exists.mp runs
  obtain ⟨reached,busy⟩ := Option.filter_eq_some_iff.mp found
  obtain ⟨phase,job,stands,allowed⟩ := Worker.of_runs busy
  obtain ⟨transcribing,file⟩ := of_decide_eq_true allowed
  have transcribes : TranscribesFile state := ⟨phase,job,stands,file,.inr (.inr transcribing)⟩
  refine ⟨state,reached,transcribes,file_excludes_streams exampleSettings (.start :: fileActions) state ?_ reached transcribes⟩
  refine ⟨⟨by rintro _ _ ⟨⟩,by rintro _ ⟨_,_,⟨⟩,_⟩⟩,fun next started => ?_⟩
  have checked : Machine.check (ASRInferenceCoordinator.step exampleSettings) goesOn next fileActions = true := by
    cases started
    decide +kernel
  refine Machine.Along.mono _ (fun before action quiet => ⟨?_,?_⟩) (Machine.along_of_check _ checked)
  · rintro caller outcome rfl leaving
    simp [goesOn,leaving] at quiet
  · rintro rfl
    cases quiet

/-- The caller of `transcribe_file` is cancelled once its job is claimed, and its `finally` drops the
    flag before the worker raises its own: another caller opens a stream. -/
def gapActions : List CoordinatorAction :=
  [.start,.work {},.call 0 .transcribeFile,.go 0,.go 0] ++ List.replicate 6 (.work {}) ++
    [.go 0,.cancel 0,.go 0,.call 1 (.createStream ['s']),.go 1]

theorem stream_during_file : ∃ state, Reached exampleSettings gapActions state ∧ TranscribesFile state ∧
    state.streamReservations ≠ ∅ := by
  have runs : ((Machine.run (ASRInferenceCoordinator.step exampleSettings) {} gapActions).filter fun state =>
      state.worker.runs fun phase job =>
        decide (phase = .executing ∧ job.action = .transcribeFile ∧ state.streamReservations ≠ ∅)).isSome = true := by
    decide +kernel
  obtain ⟨state,found⟩ := Option.isSome_iff_exists.mp runs
  obtain ⟨reached,busy⟩ := Option.filter_eq_some_iff.mp found
  obtain ⟨phase,job,stands,allowed⟩ := Worker.of_runs busy
  obtain ⟨executing,file,reserved⟩ := of_decide_eq_true allowed
  exact ⟨state,reached,⟨phase,job,stands,file,.inr (.inl executing)⟩,reserved⟩

end SpeechGateway.Coordinator
