import SpeechGateway.Capacity

/-!
What every step of the coordinator keeps: the books agree with the jobs, the worker's table has
the active sessions as keys, and past its end the worker leaves nothing behind.
-/
namespace SpeechGateway.Coordinator
open ASRInferenceCoordinator
open Accounted (carried carried_before)

namespace ASRInferenceCoordinator
variable {settings : CoordinatorSettings} {state next : ASRInferenceCoordinator}

/-- The books of a state. -/
def books (state : ASRInferenceCoordinator) : Books where
  active := state.activeSessions
  reserved := state.streamReservations
  busy := state.busySessions
  opened := state.openedIds
  businessJobs := state.queuedBusinessJobs
  holding := state.holding

/-- The part of a state that callers change in the lock block of `_submit` only. -/
def plant (state : ASRInferenceCoordinator) : ASRInferenceCoordinator :=
  { state with
    poisonedSessions := ∅
    batchPending := false
    nextSequence := 0
    started := fun _ => .pending
    result := fun _ => .pending
    cancelled := fun _ => false
    callers := fun _ => .idle
    usedIds := ∅
    refused := []
    timedOut := ∅ }

theorem requireAccepting_none (admits : state.requireAccepting = none) : state.accepting = true ∧ state.loadError = false := by
  simpa [requireAccepting] using admits

theorem requireSessionAdmissible_none {sessionId : Option SessionId} (admits : state.requireSessionAdmissible sessionId = none) :
    ∃ own, sessionId = some own ∧ own ∉ state.poisonedSessions ∧ own ∈ state.activeSessions := by
  unfold requireSessionAdmissible at admits
  cases accepts : state.requireAccepting with
  | some error => simp [accepts] at admits
  | none =>
    cases sessionId with
    | none => simp [accepts] at admits
    | some own => exact ⟨own,rfl,by simpa [accepts] using admits⟩

theorem reserve_ok {job : Job} {reserved : ASRInferenceCoordinator} (made : state.reserve settings job = .ok reserved) :
    (job.action.reservesStream = true ∧ state.batchPending = false ∧ state.batchRunning = false ∧
      state.streamReservations.card < settings.maxActiveStreams ∧
      reserved = { state with
        streamReservations := state.streamReservations ∪ job.sessionId.toFinset
        openedIds := state.openedIds ∪ job.sessionId.toFinset }) ∨
    (job.action.reservesStream = false ∧ job.action.reservesOperation = true ∧
      (∃ own, job.sessionId = some own ∧ own ∉ state.poisonedSessions ∧ own ∈ state.activeSessions ∧ own ∉ state.busySessions) ∧
      reserved = { state with busySessions := state.busySessions ∪ job.sessionId.toFinset }) ∨
    (job.action.reservesStream = false ∧ job.action.reservesOperation = false ∧ reserved = state) := by
  unfold reserve at made
  split at made
  · rename_i stream
    split at made
    · cases made
    · rename_i alone
      split at made
      · cases made
      · rename_i vacant
        cases made
        obtain ⟨unannounced,unused⟩ : state.batchPending = false ∧ state.batchRunning = false := by simpa using alone
        exact .inl ⟨stream,unannounced,unused,Nat.lt_of_not_le vacant,rfl⟩
  · rename_i streamless
    rw [Bool.not_eq_true] at streamless
    split at made
    · rename_i operation
      split at made
      · cases made
      · rename_i admits
        split at made
        · cases made
        · rename_i idle
          cases made
          obtain ⟨own,mine,unpoisoned,active⟩ := requireSessionAdmissible_none admits
          exact .inr (.inl ⟨streamless,operation,⟨own,mine,unpoisoned,active,by simpa [mine] using idle⟩,rfl⟩)
    · rename_i operationless
      cases made
      exact .inr (.inr ⟨streamless,by simpa using operationless,rfl⟩)

/-- The state once a job with its reservations is counted and queued. -/
def queued (reserved : ASRInferenceCoordinator) (job : Job) : ASRInferenceCoordinator :=
  { reserved with
    queuedAudioSeconds := double (reserved.queuedAudioSeconds + job.audioSeconds.1)
    queuedBusinessJobs := reserved.queuedBusinessJobs + 1
    jobs := reserved.jobs.orderedInsert (fun first second => first.before second) job
    enqueued := job.sequence :: reserved.enqueued }

/-- `_submit` is refused and leaves no trace, or its job is queued. The slot for the shutdown leaves
    room in the queue for every job that may be counted. -/
theorem submit_cases {job : Job} {error : Option CoordinatorError} (admitted : state.submit settings job = (error,next))
    (roomy : state.jobs.length ≤ state.queuedBusinessJobs + 1) :
    (error ≠ none ∧ (next = state ∨ ∃ reserved, state.reserve settings job = .ok reserved ∧ next = reserved.giveBack job)) ∨
    (error = none ∧ state.accepting = true ∧ state.loadError = false ∧ ∃ reserved, state.reserve settings job = .ok reserved ∧
      double (state.queuedAudioSeconds + job.audioSeconds.1) ≤ settings.maxQueuedAudioSeconds ∧
      state.queuedBusinessJobs < settings.inferenceQueueSize ∧ next = reserved.queued job) := by
  unfold submit at admitted
  cases accepts : state.requireAccepting with
  | some fault =>
    rw [accepts] at admitted
    cases admitted
    exact .inl ⟨Option.some_ne_none _,.inl rfl⟩
  | none =>
    obtain ⟨accepting,loaded⟩ := requireAccepting_none accepts
    rw [accepts] at admitted
    cases made : state.reserve settings job with
    | error fault =>
      rw [made] at admitted
      cases admitted
      exact .inl ⟨Option.some_ne_none _,.inl rfl⟩
    | ok reserved =>
      rw [made] at admitted
      obtain ⟨audio,business,jobs⟩ : reserved.queuedAudioSeconds = state.queuedAudioSeconds ∧
          reserved.queuedBusinessJobs = state.queuedBusinessJobs ∧ reserved.jobs = state.jobs := by
        rcases reserve_ok made with ⟨_,_,_,_,rfl⟩ | ⟨_,_,_,rfl⟩ | ⟨_,_,rfl⟩ <;> exact ⟨rfl,rfl,rfl⟩
      dsimp only at admitted
      split at admitted
      · cases admitted
        exact .inl ⟨Option.some_ne_none _,.inr ⟨reserved,rfl,rfl⟩⟩
      · rename_i fits
        split at admitted
        · cases admitted
          exact .inl ⟨Option.some_ne_none _,.inr ⟨reserved,rfl,rfl⟩⟩
        · rename_i room
          rw [audio,not_lt] at fits
          rw [business,Nat.not_le] at room
          unfold put at admitted
          dsimp only at admitted
          rw [jobs,if_pos (by omega)] at admitted
          cases admitted
          refine .inr ⟨rfl,accepting,loaded,reserved,rfl,fits,room,?_⟩
          rw [queued,jobs]

end ASRInferenceCoordinator

/-- The submission that a caller brings to the lock block of `_submit`. -/
def Caller.entering : Caller → Option Submission
  | .submitting submission _ => some submission
  | _ => none

/-- What the methods of the coordinator submit. -/
structure Submission.Proper (submission : Submission) : Prop where
  running : submission.action ≠ .shutdown
  filed : submission.action = .transcribeFile → submission.sessionId = none

namespace ASRInferenceCoordinator
variable {settings : CoordinatorSettings} {state next : ASRInferenceCoordinator} {caller : Nat}

/-- A file is announced: no stream is reserved, and no other file is announced or transcribed. -/
def Announces (state next : ASRInferenceCoordinator) : Prop :=
  next.batchPending = true ∧ state.batchPending = false ∧ state.batchRunning = false ∧ state.streamReservations = ∅

/-- A step of a caller that is not the lock block of `_submit`: the caller may come to that block,
    but not with a stream to open, and with a file only if it announces it. -/
structure Moves (state next : ASRInferenceCoordinator) (caller : Nat) : Prop where
  plant : next.plant = state.plant
  given : next.usedIds = state.usedIds
  stage : ∃ stage, next.callers = Function.update state.callers caller stage ∧
    ∀ submission, stage.entering = some submission → submission.Proper ∧ submission.action.reservesStream = false ∧
      (submission.action = .transcribeFile → Announces state next)
  started : ∀ job, next.started job = .pending → state.started job = .pending
  batch : next.batchPending = state.batchPending ∨ (∃ outcome, state.callers caller = .leaving outcome) ∨ Announces state next

theorem withCaller_moves {moved : ASRInferenceCoordinator} {stage : Caller} (plant : moved.plant = state.plant)
    (given : moved.usedIds = state.usedIds) (callers : moved.callers = state.callers) (outside : stage.entering = none)
    (started : moved.started = state.started) (batch : moved.batchPending = state.batchPending) :
    Moves state (moved.withCaller caller stage) caller := by
  refine ⟨plant,given,⟨stage,by rw [← callers]; rfl,fun submission entering => ?_⟩,fun job pending => ?_,.inl batch⟩
  · rw [outside] at entering
    cases entering
  · rw [← started]
    exact pending

theorem enter_moves {moved : ASRInferenceCoordinator} {submission : Submission} (plant : moved.plant = state.plant)
    (given : moved.usedIds = state.usedIds) (callers : moved.callers = state.callers) (proper : submission.Proper)
    (streamless : submission.action.reservesStream = false) (started : moved.started = state.started)
    (batch : moved.batchPending = state.batchPending) (unfiled : submission.action ≠ .transcribeFile) :
    Moves state (moved.enter caller submission) caller := by
  refine ⟨plant,given,⟨_,by rw [← callers]; rfl,?_⟩,fun job pending => ?_,.inl batch⟩
  · rintro _ ⟨⟩
    exact ⟨proper,streamless,fun filed => absurd filed unfiled⟩
  · rw [← started]
    exact pending

theorem abandon_moves (submission : Submission) {job : Nat} {future : FutureState} (outcome : Outcome) (touched : future ≠ .pending) :
    Moves state (state.abandon caller submission job future outcome) caller := by
  refine ⟨rfl,rfl,⟨_,rfl,by rintro _ ⟨⟩⟩,fun other pending => ?_,.inl rfl⟩
  by_cases same : other = job
  · rw [same,show (state.abandon caller submission job future outcome).started job = future from Function.update_self ..] at pending
    exact absurd pending touched
  · rw [show (state.abandon caller submission job future outcome).started other = state.started other from
      Function.update_of_ne same ..] at pending
    exact pending

theorem cancel_touches {future later : FutureState} {cancelled : Bool} (cancels : future.cancel = (cancelled,later)) : later ≠ .pending := by
  cases future <;> cases cancels <;> rintro ⟨⟩

theorem ended_outside (submission : Submission) (outcome : Outcome) : (submission.ended outcome).entering = none := by
  unfold Submission.ended
  repeat' split
  all_goals rfl

theorem unsubmitted_outside (purpose : Purpose) : purpose.unsubmitted.entering = none := by
  cases purpose <;> rfl

theorem interrupt_moves (submission : Submission) (job : Nat) : Moves state (state.interrupt caller submission job) caller := by
  unfold interrupt
  split
  · rename_i cancels
    exact abandon_moves submission .cancelled (cancel_touches cancels)
  · split
    · exact withCaller_moves rfl rfl rfl rfl rfl rfl
    · exact withCaller_moves rfl rfl rfl (ended_outside _ _) rfl rfl

theorem announceFile_moves : Moves state (state.announceFile settings caller) caller := by
  unfold announceFile
  split
  · exact withCaller_moves rfl rfl rfl rfl rfl rfl
  · split
    · exact withCaller_moves rfl rfl rfl rfl rfl rfl
    · split
      · exact withCaller_moves rfl rfl rfl rfl rfl rfl
      · rename_i free
        obtain ⟨unreserved,unannounced,unused⟩ := not_or.mp free |>.imp not_not.mp not_or.mp
        have announces : Announces state ({ state with batchPending := true }.enter caller fileSubmission) :=
          ⟨rfl,Bool.eq_false_iff.mpr unannounced,Bool.eq_false_iff.mpr unused,unreserved⟩
        refine ⟨rfl,rfl,⟨_,rfl,?_⟩,fun _ pending => pending,.inr (.inr announces)⟩
        rintro _ ⟨⟩
        exact ⟨⟨by rintro ⟨⟩,fun _ => rfl⟩,rfl,fun _ => announces⟩

theorem awaitStart_moves {submission : Submission} {job : Nat} (gone : state.awaitStart caller submission job = some next) :
    Moves state next caller := by
  unfold awaitStart at gone
  split at gone
  · cases gone
  · cases gone
  · cases gone
    exact withCaller_moves rfl rfl rfl rfl rfl rfl
  · cases gone
    split
    · exact withCaller_moves rfl rfl rfl (ended_outside _ _) rfl rfl
    · exact withCaller_moves rfl rfl rfl (ended_outside _ _) rfl rfl
  · cases gone
    exact interrupt_moves _ _
  · cases gone
    exact interrupt_moves _ _

theorem awaitResult_moves {submission : Submission} {job : Nat} (gone : state.awaitResult caller submission job = some next) :
    Moves state next caller := by
  unfold awaitResult at gone
  split at gone
  · cases gone
  · cases gone
  · cases gone
    exact withCaller_moves rfl rfl rfl (ended_outside _ _) rfl rfl
  · cases gone
    exact withCaller_moves rfl rfl rfl (ended_outside _ _) rfl rfl
  · cases gone
    exact interrupt_moves _ _
  · cases gone
    exact interrupt_moves _ _

/-- The next step of a caller that does not stand before the lock block of `_submit`. -/
theorem go_moves (outside : (state.callers caller).entering = none) (gone : state.go settings caller = some next) :
    Moves state next caller := by
  unfold go at gone
  split at gone
  · cases gone
  · cases gone
  · cases gone
    exact announceFile_moves
  · split at gone
    · cases gone
      exact withCaller_moves rfl rfl rfl rfl rfl rfl
    · cases gone
      exact enter_moves rfl rfl rfl ⟨by rintro ⟨⟩,by rintro ⟨⟩⟩ rfl rfl rfl (by rintro ⟨⟩)
  · cases gone
    unfold abortStream
    split
    · exact withCaller_moves rfl rfl rfl (unsubmitted_outside _) rfl rfl
    · split
      · exact withCaller_moves rfl rfl rfl (unsubmitted_outside _) rfl rfl
      · exact enter_moves rfl rfl rfl ⟨by rintro ⟨⟩,by rintro ⟨⟩⟩ rfl rfl rfl (by rintro ⟨⟩)
  · rename_i stands
    rw [stands] at outside
    cases outside
  · exact awaitStart_moves gone
  · exact awaitStart_moves gone
  · exact awaitResult_moves gone
  · cases gone
    exact withCaller_moves rfl rfl rfl rfl rfl rfl
  · cases gone
    exact withCaller_moves rfl rfl rfl (ended_outside _ _) rfl rfl
  · split at gone
    all_goals cases gone
    all_goals exact withCaller_moves rfl rfl rfl rfl rfl rfl
  · split at gone
    all_goals cases gone
    all_goals exact withCaller_moves rfl rfl rfl rfl rfl rfl
  · cases gone
    exact withCaller_moves rfl rfl rfl rfl rfl rfl
  · rename_i outcome stands
    cases gone
    refine ⟨rfl,rfl,⟨_,rfl,by rintro _ ⟨⟩⟩,fun _ pending => pending,.inr (.inl ⟨outcome,stands⟩)⟩

theorem expire_moves (expired : state.expire caller = some next) : Moves state next caller := by
  unfold expire at expired
  split at expired
  · split at expired
    · rename_i cancels
      cases expired
      exact abandon_moves _ _ (cancel_touches cancels)
    · cases expired
      exact withCaller_moves rfl rfl rfl rfl rfl rfl
  · cases expired
    exact withCaller_moves rfl rfl rfl (ended_outside _ _) rfl rfl
  · cases expired
    exact withCaller_moves rfl rfl rfl rfl rfl rfl
  · cases expired

theorem cancel_moves (stopped : state.cancel caller = some next) : Moves state next caller := by
  unfold cancel at stopped
  split at stopped
  all_goals cases stopped
  · exact interrupt_moves _ _
  · exact interrupt_moves _ _
  · exact interrupt_moves _ _
  · exact withCaller_moves rfl rfl rfl rfl rfl rfl

/-- A call is one more step of that kind, or brings a session id of its own. -/
theorem call_cases {request : Request} (called : state.call caller request = some next) :
    Moves state next caller ∨ ∃ action sessionId, action.reservesStream = true ∧ sessionId ∉ state.usedIds ∧
      next = { state with usedIds := insert sessionId state.usedIds }.enter caller ⟨action,some sessionId,noAudio,.client⟩ := by
  unfold call at called
  split at called
  · cases called
  · dsimp only at called
    split at called
    iterate 2
      split at called
      · cases called
      · rename_i fresh
        cases called
        exact .inr ⟨_,_,rfl,fresh,rfl⟩
    all_goals cases called
    iterate 3 exact .inl (enter_moves rfl rfl rfl ⟨by rintro ⟨⟩,by rintro ⟨⟩⟩ rfl rfl rfl (by rintro ⟨⟩))
    all_goals exact .inl (withCaller_moves rfl rfl rfl rfl rfl rfl)

end ASRInferenceCoordinator

/-! ## New streams have ids of their own -/

/-- The ids of the streams that callers are about to open are new, and no two callers share one. -/
structure Fresh (state : ASRInferenceCoordinator) : Prop where
  proper : ∀ caller submission, (state.callers caller).entering = some submission → submission.Proper
  owned : ∀ caller submission, (state.callers caller).entering = some submission → submission.action.reservesStream = true →
    ∃ own, submission.sessionId = some own ∧ own ∈ state.usedIds ∧ own ∉ state.openedIds
  distinct : ∀ caller other submission rival, (state.callers caller).entering = some submission →
    (state.callers other).entering = some rival → submission.action.reservesStream = true →
    rival.action.reservesStream = true → submission.sessionId = rival.sessionId → caller = other
  given : state.openedIds ⊆ state.usedIds

namespace Fresh
variable {state next : ASRInferenceCoordinator} {caller : Nat}

theorem entering_update {callers : Nat → Caller} {stage : Caller} {other : Nat} {submission : Submission}
    (entering : (Function.update callers caller stage other).entering = some submission) :
    other = caller ∧ stage.entering = some submission ∨ other ≠ caller ∧ (callers other).entering = some submission := by
  by_cases same : other = caller
  · subst same
    rw [Function.update_self] at entering
    exact .inl ⟨rfl,entering⟩
  · rw [Function.update_of_ne same] at entering
    exact .inr ⟨same,entering⟩

/-- A caller comes to the lock block of `_submit` without a stream to open, or does not come there. -/
theorem changes (fresh : Fresh state) {stage : Caller} (callers : next.callers = Function.update state.callers caller stage)
    (opened : next.openedIds = state.openedIds) (given : next.usedIds = state.usedIds)
    (enters : ∀ submission, stage.entering = some submission → submission.Proper ∧ submission.action.reservesStream = false) :
    Fresh next := by
  constructor
  · intro other submission entering
    rw [callers] at entering
    rcases entering_update entering with ⟨_,mine⟩ | ⟨_,theirs⟩
    · exact (enters submission mine).1
    · exact fresh.proper other submission theirs
  · intro other submission entering stream
    rw [callers] at entering
    rw [opened,given]
    rcases entering_update entering with ⟨_,mine⟩ | ⟨_,theirs⟩
    · rw [(enters submission mine).2] at stream
      cases stream
    · exact fresh.owned other submission theirs stream
  · intro first second submission rival entering contending stream rivalStream same
    rw [callers] at entering contending
    rcases entering_update entering with ⟨_,mine⟩ | ⟨_,theirs⟩
    · rw [(enters submission mine).2] at stream
      cases stream
    · rcases entering_update contending with ⟨_,mine⟩ | ⟨_,others⟩
      · rw [(enters rival mine).2] at rivalStream
        cases rivalStream
      · exact fresh.distinct first second submission rival theirs others stream rivalStream same
  · rw [opened,given]
    exact fresh.given

theorem moves (fresh : Fresh state) (moves : Moves state next caller) : Fresh next := by
  obtain ⟨stage,callers,enters⟩ := moves.stage
  have opened : next.openedIds = state.openedIds := congrArg (fun plant => plant.openedIds) moves.plant
  exact fresh.changes callers opened moves.given fun submission entering =>
    ⟨(enters submission entering).1,(enters submission entering).2.1⟩

theorem congr (fresh : Fresh state) (callers : next.callers = state.callers) (opened : next.openedIds = state.openedIds)
    (given : next.usedIds = state.usedIds) : Fresh next := by
  constructor
  · rw [callers]
    exact fresh.proper
  · rw [callers,opened,given]
    exact fresh.owned
  · rw [callers]
    exact fresh.distinct
  · rw [opened,given]
    exact fresh.given

/-- A caller brings a new id. -/
theorem created (fresh : Fresh state) {action : JobAction} {sessionId : SessionId} (stream : action.reservesStream = true)
    (new : sessionId ∉ state.usedIds) :
    Fresh ({ state with usedIds := insert sessionId state.usedIds }.enter caller ⟨action,some sessionId,noAudio,.client⟩) := by
  have unused : ∀ other submission, (state.callers other).entering = some submission →
      submission.action.reservesStream = true → submission.sessionId ≠ some sessionId := by
    intro other submission entering stream same
    obtain ⟨own,mine,used,_⟩ := fresh.owned other submission entering stream
    rw [mine] at same
    cases same
    exact new used
  constructor
  · intro other submission entering
    rcases entering_update entering with ⟨_,mine⟩ | ⟨_,theirs⟩
    · cases mine
      exact ⟨(by rintro rfl; cases stream),(by rintro rfl; cases stream)⟩
    · exact fresh.proper other submission theirs
  · intro other submission entering _
    rcases entering_update entering with ⟨_,mine⟩ | ⟨_,theirs⟩
    · cases mine
      exact ⟨sessionId,rfl,Finset.mem_insert_self _ _,fun opened => new (fresh.given opened)⟩
    · obtain ⟨own,mine,used,unopened⟩ := fresh.owned other submission theirs ‹_›
      exact ⟨own,mine,Finset.mem_insert_of_mem used,unopened⟩
  · intro first second submission rival entering contending firstStream secondStream same
    rcases entering_update entering with ⟨rfl,mine⟩ | ⟨_,theirs⟩
    · rcases entering_update contending with ⟨rfl,_⟩ | ⟨_,others⟩
      · rfl
      · cases mine
        exact absurd same.symm (unused second rival others secondStream)
    · rcases entering_update contending with ⟨_,mine⟩ | ⟨_,others⟩
      · cases mine
        exact absurd same (unused first submission theirs firstStream)
      · exact fresh.distinct first second submission rival theirs others firstStream secondStream same
  · exact fun own opened => Finset.mem_insert_of_mem (fresh.given opened)

/-- A caller leaves the lock block of `_submit`, where the id of its stream was taken, if it has
    one. -/
theorem admits (fresh : Fresh state) {stage : Caller} {submission : Submission}
    (entering : (state.callers caller).entering = some submission)
    (callers : next.callers = Function.update state.callers caller stage) (outside : stage.entering = none)
    (given : next.usedIds = state.usedIds) (opened : next.openedIds = state.openedIds ∨
      submission.action.reservesStream = true ∧ next.openedIds = state.openedIds ∪ submission.sessionId.toFinset) : Fresh next := by
  rcases opened with same | ⟨stream,more⟩
  · exact fresh.changes callers same given fun own mine => by rw [outside] at mine; cases mine
  obtain ⟨taken,takes,used,_⟩ := fresh.owned caller submission entering stream
  have mine : submission.sessionId.toFinset = {taken} := by rw [takes]; rfl
  have theirs : ∀ {other own}, (next.callers other).entering = some own → other ≠ caller ∧ (state.callers other).entering = some own := by
    intro other own enters
    rw [callers] at enters
    rcases entering_update enters with ⟨_,mine⟩ | theirs
    · rw [outside] at mine
      cases mine
    · exact theirs
  constructor
  · exact fun other own enters => fresh.proper other own (theirs enters).2
  · intro other own enters ownStream
    obtain ⟨foreign,before⟩ := theirs enters
    obtain ⟨id,has,usedId,unopened⟩ := fresh.owned other own before ownStream
    refine ⟨id,has,given ▸ usedId,?_⟩
    rw [more,mine]
    refine fun member => (Finset.mem_union.mp member).elim unopened fun same => foreign ?_
    refine fresh.distinct other caller own submission before entering ownStream stream ?_
    rw [has,takes,Finset.mem_singleton.mp same]
  · exact fun first second own rival enters contends =>
      fresh.distinct first second own rival (theirs enters).2 (theirs contends).2
  · rw [more,mine,given]
    exact Finset.union_subset fresh.given (Finset.singleton_subset_iff.mpr used)

end Fresh

/-! ## The books, the worker's table and its end -/

/-- The job is one of those that the worker drains at its end. -/
def Phase.draining : Phase → Bool
  | .taken draining | .rejecting _ draining | .rejected _ draining | .dropping draining => draining
  | .cleaning exit | .purging exit | .releasingAudio exit | .releasingSession exit | .releasingStream exit
  | .settlingStarted exit | .settingStarted exit | .settlingResult exit | .settingResult exit => decide (exit = .drained)
  | _ => false

/-- There is no worker, or it is past the block that ends admission. -/
def Worker.ending : Worker → Bool
  | .absent | .draining | .aborting | .exited | .fallen => true
  | .busy phase _ => phase.draining
  | _ => false

/-- There is no worker, or it has drained the queue. -/
def Worker.over : Worker → Bool
  | .absent | .aborting | .exited | .fallen => true
  | _ => false

/-- The job acts on the session that it names. -/
def Job.Acts (job : Job) : Prop :=
  job.action.reservesOperation = true ∨ job.action.reservesStream = true ∨ job.sessionId = none

structure Housed (settings : CoordinatorSettings) (state : ASRInferenceCoordinator) : Prop where
  accounts : Accounted settings state.books
  keys : state.sessions = state.activeSessions
  ended : state.worker.ending = true → state.accepting = false ∧ state.workerLoopActive = false
  emptied : state.worker.over = true → state.jobs = []
  cleared : state.worker = .absent ∨ state.worker = .exited → state.activeSessions = ∅
  stopping : ∀ job ∈ state.jobs, job.action = .shutdown → state.shutdownRequested = true ∧ state.accepting = false
  stops : (state.jobs.filter fun job => !job.business).length ≤ 1
  acting : ∀ job ∈ state.holding 6, job.Acts

theorem Accounted.same {settings : CoordinatorSettings} {books : Books} (accounted : Accounted settings books)
    {holding : Nat → List Job} (same : ∀ rank ≤ 6, holding rank = books.holding rank) :
    Accounted settings { books with holding := holding } := by
  refine accounted.reorder (fun rank inside => ?_) fun rank inside => ?_
  · rw [same rank (by omega)]
  · rw [same rank (by omega)]
    exact List.Subset.refl _

theorem Accounted.widen {settings : CoordinatorSettings} {books : Books} (accounted : Accounted settings books)
    {opened : Finset SessionId} (wider : books.opened ⊆ opened) : Accounted settings { books with opened := opened } :=
  { accounted with
    creating := fun job held own creates => wider (accounted.creating job held own creates)
    known := fun own present => wider (accounted.known own present) }

namespace Housed
variable {settings : CoordinatorSettings} {state next : ASRInferenceCoordinator}

/-- Only the plant matters. -/
theorem of_plant (housed : Housed settings state) (plant : next.plant = state.plant) : Housed settings next := by
  have before : Housed settings state.plant := ⟨housed.accounts,housed.keys,housed.ended,housed.emptied,housed.cleared,
    housed.stopping,housed.stops,housed.acting⟩
  rw [← plant] at before
  exact ⟨before.accounts,before.keys,before.ended,before.emptied,before.cleared,before.stopping,before.stops,before.acting⟩

/-- The queue holds the counted jobs and the shutdown at most. -/
theorem roomy (housed : Housed settings state) : state.jobs.length ≤ state.queuedBusinessJobs + 1 := by
  have counted : state.queuedBusinessJobs = ((state.holding 0).filter Job.business).length := housed.accounts.counted
  have stops := housed.stops
  have parts := List.length_eq_length_filter_add (l := state.jobs) Job.business
  rw [holding,List.filter_append,List.length_append] at counted
  omega

/-- An accepting coordinator has no job in the queue that ends it. -/
theorem unstopped (housed : Housed settings state) (accepting : state.accepting = true) :
    ∀ job ∈ state.jobs, job.action ≠ .shutdown := by
  intro job queued stops
  rw [(housed.stopping job queued stops).2] at accepting
  cases accepting

/-- The worker is there, and is not at its end, while the coordinator accepts jobs. -/
theorem serving (housed : Housed settings state) (accepting : state.accepting = true) :
    state.worker.ending = false ∧ state.worker.over = false := by
  have going : state.worker.ending ≠ true := fun ending => by
    rw [(housed.ended ending).1] at accepting
    cases accepting
  cases stands : state.worker with
  | busy phase job => exact ⟨by rw [stands] at going; simpa using going,rfl⟩
  | _ => simp_all [Worker.ending,Worker.over]

theorem giveBack_eq (state : ASRInferenceCoordinator) (job : Job) : state.giveBack job = { state with
    busySessions := state.busySessions \ job.sessionId.toFinset
    streamReservations := if job.holdsStreamReservation then state.streamReservations \ job.sessionId.toFinset
      else state.streamReservations } := by
  unfold giveBack releaseStreamReservation
  split <;> rfl

theorem queued_books {job : Job} (accounted : Accounted settings (state.books.queued job)) (business : job.business = true) :
    Accounted settings (state.queued job).books := by
  have perm : ∀ rank, ((state.queued job).holding rank).Perm ((state.books.queued job).holding rank) :=
    fun rank => (List.perm_orderedInsert _ job state.jobs).append_right _
  have sorted := accounted.reorder (fun rank _ => perm rank) fun rank _ => (perm rank).subset
  simpa [books,queued,Books.queued,business] using sorted

/-- A job is queued once its reservations are made. -/
theorem queues {reserved : ASRInferenceCoordinator} {job : Job} (housed : Housed settings state)
    (accepting : state.accepting = true) (plant : reserved.plant = { state.plant with
      streamReservations := reserved.streamReservations
      busySessions := reserved.busySessions
      openedIds := reserved.openedIds })
    (accounted : Accounted settings (reserved.books.queued job)) (running : job.action ≠ .shutdown) (acts : job.Acts) :
    Housed settings (reserved.queued job) := by
  have business : job.business = true := decide_eq_true running
  have unchanged : ∀ {α : Type} (field : ASRInferenceCoordinator → α), field reserved.plant = field { state.plant with
      streamReservations := reserved.streamReservations
      busySessions := reserved.busySessions
      openedIds := reserved.openedIds } := fun field => congrArg field plant
  have worker : reserved.worker = state.worker := unchanged (·.worker)
  have jobs : reserved.jobs = state.jobs := unchanged (·.jobs)
  have keys : reserved.sessions = state.sessions := unchanged (·.sessions)
  have active : reserved.activeSessions = state.activeSessions := unchanged (·.activeSessions)
  obtain ⟨going,unfinished⟩ := housed.serving accepting
  have perm : ((reserved.queued job).jobs).Perm (job :: state.jobs) := jobs ▸ List.perm_orderedInsert _ job reserved.jobs
  refine ⟨queued_books accounted business,keys.trans (housed.keys.trans active.symm),?_,?_,?_,?_,?_,?_⟩
  · intro ending
    rw [show (reserved.queued job).worker = state.worker from worker,going] at ending
    cases ending
  · intro past
    rw [show (reserved.queued job).worker = state.worker from worker,unfinished] at past
    cases past
  · intro gone
    rw [show (reserved.queued job).worker = state.worker from worker] at gone
    exact active.trans (housed.cleared gone)
  · intro other member stops
    rcases List.mem_cons.mp (perm.subset member) with rfl | member
    · exact absurd stops running
    · exact absurd stops (housed.unstopped accepting other member)
  · rw [(perm.filter _).length_eq,List.filter_cons,business]
    exact housed.stops
  · intro other member
    rcases List.mem_append.mp member with queued | held
    · rcases List.mem_cons.mp (perm.subset queued) with rfl | queued
      · exact acts
      · exact housed.acting other (List.mem_append_left _ queued)
    · refine housed.acting other (List.mem_append_right _ ?_)
      rw [← worker]
      exact held

theorem reserves_nothing {action : JobAction} (streamless : action.reservesStream = false)
    (operationless : action.reservesOperation = false) (running : action ≠ .shutdown) : action = .transcribeFile := by
  cases action with
  | transcribeFile => rfl
  | shutdown => exact absurd rfl running
  | createStream | createChunkedStream => exact nomatch streamless
  | _ => exact nomatch operationless

/-- What `_submit` does in its lock block keeps the books. -/
theorem admits (housed : Housed settings state) (fresh : Fresh state) {caller sequence : Nat} {submission : Submission}
    (entering : (state.callers caller).entering = some submission) {error : Option CoordinatorError}
    (admitted : state.submit settings (submission.job sequence) = (error,next)) :
    Housed settings next ∧ (next.callers = state.callers ∧ next.usedIds = state.usedIds) ∧
      (next.openedIds = state.openedIds ∨
        submission.action.reservesStream = true ∧ next.openedIds = state.openedIds ∪ submission.sessionId.toFinset) := by
  have proper := fresh.proper caller submission entering
  rcases submit_cases admitted housed.roomy with ⟨_,rfl | ⟨reserved,made,rfl⟩⟩ | ⟨_,accepting,_,reserved,made,fits,room,rfl⟩
  · exact ⟨housed,⟨rfl,rfl⟩,.inl rfl⟩
  · rw [giveBack_eq]
    rcases reserve_ok made with ⟨stream,_,_,_,rfl⟩ | ⟨streamless,_,⟨own,mine,_,_,idle⟩,rfl⟩ | ⟨streamless,operationless,rfl⟩
    · obtain ⟨own,mine,_,unopened⟩ := fresh.owned caller submission entering stream
      have holds : (submission.job sequence).holdsStreamReservation = true := stream
      have id : (submission.job sequence).sessionId.toFinset = {own} := congrArg Option.toFinset mine
      have unreserved : own ∉ state.streamReservations := fun reserved => unopened (housed.accounts.known own (.inl reserved))
      have idle : own ∉ state.busySessions := fun busy => unopened (housed.accounts.known own (.inr (.inl busy)))
      rw [if_pos holds,id]
      dsimp only
      rw [Finset.union_sdiff_cancel_right (Finset.disjoint_singleton_right.mpr unreserved),
        Finset.sdiff_eq_self_of_disjoint (Finset.disjoint_singleton_right.mpr idle)]
      refine ⟨⟨housed.accounts.widen Finset.subset_union_left,housed.keys,housed.ended,housed.emptied,housed.cleared,
        housed.stopping,housed.stops,housed.acting⟩,⟨rfl,rfl⟩,.inr ⟨stream,?_⟩⟩
      rw [← id]
      rfl
    · have plain : (submission.job sequence).holdsStreamReservation = false := streamless
      rw [if_neg (by rw [plain]; decide),mine]
      dsimp only
      rw [show (some own).toFinset = {own} from rfl,
        Finset.union_sdiff_cancel_right (Finset.disjoint_singleton_right.mpr idle)]
      exact ⟨housed,⟨rfl,rfl⟩,.inl rfl⟩
    · have plain : (submission.job sequence).holdsStreamReservation = false := streamless
      have unfiled : (submission.job sequence).sessionId = none :=
        proper.filed (reserves_nothing streamless operationless proper.running)
      rw [if_neg (by rw [plain]; decide),unfiled]
      dsimp only
      rw [show (none : Option SessionId).toFinset = ∅ from rfl,Finset.sdiff_empty]
      exact ⟨housed,⟨rfl,rfl⟩,.inl rfl⟩
  · have business : (submission.job sequence).business = true := decide_eq_true proper.running
    have counted : (state.books.queued (submission.job sequence)).businessJobs ≤ settings.inferenceQueueSize := by
      simp only [Books.queued,business]
      exact room
    rcases reserve_ok made with ⟨stream,_,_,vacant,rfl⟩ | ⟨streamless,operation,⟨own,mine,_,active,idle⟩,rfl⟩ |
      ⟨streamless,operationless,rfl⟩
    · obtain ⟨own,mine,_,unopened⟩ := fresh.owned caller submission entering stream
      refine ⟨housed.queues accepting rfl ?_ proper.running (.inr (.inl stream)),⟨rfl,rfl⟩,.inr ⟨stream,rfl⟩⟩
      exact housed.accounts.admitStream stream stream mine unopened vacant counted
    · refine ⟨housed.queues accepting rfl ?_ proper.running (.inl operation),⟨rfl,rfl⟩,.inl rfl⟩
      have operates : (submission.job sequence).operates own = true := Bool.and_eq_true_iff.mpr ⟨operation,decide_eq_true mine⟩
      exact housed.accounts.admitOperation operates streamless active idle counted
    · refine ⟨housed.queues accepting rfl ?_ proper.running (.inr (.inr ?_)),⟨rfl,rfl⟩,.inl rfl⟩
      · exact housed.accounts.admitOther streamless operationless streamless counted
      · exact proper.filed (reserves_nothing streamless operationless proper.running)

theorem starts (housed : Housed settings state) (started : state.start = some next) : Housed settings next := by
  have idle : (state.worker = .absent ∨ state.worker = .exited) ∧ next = { state with
      accepting := true
      workerLoopActive := true
      shutdownRequested := false
      loadError := false
      worker := .loading
      sessions := ∅
      hasTranscriber := false
      warmed := false } := by
    unfold start at started
    split at started
    · cases started
      exact ⟨.inl ‹_›,rfl⟩
    · cases started
      exact ⟨.inr ‹_›,rfl⟩
    · cases started
  obtain ⟨gone,rfl⟩ := idle
  have past : state.worker.over = true := by rcases gone with gone | gone <;> rw [gone] <;> rfl
  have jobs := housed.emptied past
  have held : ∀ rank, state.worker.held rank = [] := by rcases gone with gone | gone <;> rw [gone] <;> exact fun _ => rfl
  have nothing : ∀ rank, state.holding rank = [] := fun rank => by rw [holding,held,jobs]; rfl
  refine ⟨?_,(housed.cleared gone).symm,by rintro ⟨⟩,by rintro ⟨⟩,by rintro (⟨⟨⟩⟩ | ⟨⟨⟩⟩),?_,housed.stops,?_⟩
  · refine housed.accounts.same fun rank _ => ?_
    rw [show state.books.holding rank = [] from nothing rank]
    simp [holding,jobs,Worker.held]
  · intro job queued
    rw [show _ = _ from jobs] at queued
    cases queued
  · intro job held
    simp [holding,jobs,Worker.held] at held

/-- `stop` queues its job, or does no more than end admission. -/
theorem stop_cases (settings : CoordinatorSettings) (state : ASRInferenceCoordinator) :
    (∃ sequence, state.nextSequence ≤ sequence ∧
      state.stop settings = { state with accepting := false, nextSequence := sequence } ∧
      (state.shutdownRequested = false → state.worker.alive = true → state.workerLoopActive = true →
        settings.inferenceQueueSize < state.jobs.length)) ∨
    (state.worker.alive = true ∧ state.workerLoopActive = true ∧ state.shutdownRequested = false ∧
      state.stop settings = { state with
        accepting := false
        nextSequence := state.nextSequence + 1
        jobs := state.jobs.orderedInsert (fun first second => first.before second) state.shutdownJob
        enqueued := state.nextSequence :: state.enqueued
        shutdownRequested := true }) := by
  unfold stop
  by_cases asked : (state.worker.alive && state.workerLoopActive && !state.shutdownRequested) = true
  · obtain ⟨⟨alive,active⟩,unasked⟩ : (state.worker.alive = true ∧ state.workerLoopActive = true) ∧
        state.shutdownRequested = false := by simpa using asked
    rw [if_pos asked]
    by_cases room : state.jobs.length < settings.inferenceQueueSize + 1
    · refine .inr ⟨alive,active,unasked,?_⟩
      simp only [put,room,if_true]
      rfl
    · refine .inl ⟨_,Nat.le_succ _,?_,fun _ _ _ => by omega⟩
      simp only [put,room,if_false]
  · rw [if_neg asked]
    refine .inl ⟨_,Nat.le_refl _,rfl,fun unasked alive active => absurd ?_ asked⟩
    rw [alive,active,unasked]
    rfl

theorem stops_kept (housed : Housed settings state) : Housed settings (state.stop settings) := by
  have closed : Housed settings { state with accepting := false } :=
    ⟨housed.accounts,housed.keys,fun ending => ⟨rfl,(housed.ended ending).2⟩,housed.emptied,housed.cleared,
      fun job queued stops => ⟨(housed.stopping job queued stops).1,rfl⟩,housed.stops,housed.acting⟩
  rcases stop_cases settings state with ⟨sequence,_,same,_⟩ | ⟨alive,active,unasked,same⟩
  · rw [same]
    exact closed.of_plant rfl
  · rw [same]
    have perm : ∀ rank, (state.jobs.orderedInsert (fun first second => first.before second) state.shutdownJob ++
        state.worker.held rank).Perm (state.shutdownJob :: state.holding rank) :=
      fun rank => (List.perm_orderedInsert _ _ state.jobs).append_right _
    have unstopped : ∀ job ∈ state.jobs, job.action ≠ .shutdown := by
      intro job queued stops
      rw [(housed.stopping job queued stops).1] at unasked
      cases unasked
    have going : state.worker.over = false := by
      cases stands : state.worker with
      | absent | exited | fallen =>
        rw [stands] at alive
        cases alive
      | aborting =>
        rw [(housed.ended (by rw [stands]; rfl)).2] at active
        cases active
      | _ => rfl
    have queued : Accounted settings (state.books.queued state.shutdownJob) :=
      housed.accounts.admitOther rfl rfl rfl housed.accounts.jobsBounded
    refine ⟨?_,housed.keys,fun ending => ⟨rfl,(housed.ended ending).2⟩,?_,housed.cleared,fun _ _ _ => ⟨rfl,rfl⟩,?_,?_⟩
    · have silent : state.books.queued state.shutdownJob = { state.books with
          holding := fun rank => state.shutdownJob :: state.holding rank } := by
        simp [Books.queued,books,shutdownJob,Job.business,noAudio]
      rw [silent] at queued
      exact queued.reorder (fun rank _ => perm rank) fun rank _ => (perm rank).subset
    · intro past
      rw [show _ = _ from going] at past
      cases past
    · have stop : (state.jobs.filter fun job => !job.business) = [] := by
        refine List.filter_eq_nil_iff.mpr fun job queued stops => unstopped job queued ?_
        simpa [Job.business] using stops
      rw [((List.perm_orderedInsert _ _ state.jobs).filter _).length_eq,List.filter_cons,stop]
      exact Nat.le_refl _
    · intro job held
      rcases List.mem_cons.mp ((perm 6).subset held) with rfl | held
      · exact .inr (.inr rfl)
      · exact housed.acting job held

/-- The worker's step with a job: what it must keep. -/
theorem proceeds (housed : Housed settings state) {phase : Phase} {job : Job} (busy : state.worker = .busy phase job)
    (accounts : Accounted settings next.books) (keys : next.sessions = next.activeSessions) (jobs : next.jobs = state.jobs)
    (accepting : next.accepting = true → state.accepting = true) (loop : next.workerLoopActive = state.workerLoopActive)
    (requested : next.shutdownRequested = state.shutdownRequested) (ending : next.worker.ending = true → phase.draining = true)
    (running : next.worker.over = false) (acting : ∀ later ∈ next.worker.held 6,
      phase.rank ≤ 6 ∧ later.action = job.action ∧ later.sessionId = job.sessionId) : Housed settings next := by
  refine ⟨accounts,keys,?_,?_,?_,?_,?_,?_⟩
  · intro past
    obtain ⟨closed,left⟩ := housed.ended (by rw [busy]; exact ending past)
    refine ⟨?_,loop.trans left⟩
    cases accepts : next.accepting with
    | false => rfl
    | true => rw [accepting accepts] at closed; cases closed
  · intro past
    rw [running] at past
    cases past
  · rintro (gone | gone)
    · rw [gone] at running
      cases running
    · rw [gone] at running
      cases running
  · rw [jobs,requested]
    intro other queued stops
    obtain ⟨asked,closed⟩ := housed.stopping other queued stops
    refine ⟨asked,?_⟩
    cases accepts : next.accepting with
    | false => rfl
    | true => rw [accepting accepts] at closed; cases closed
  · rw [jobs]
    exact housed.stops
  · intro other held
    rcases List.mem_append.mp held with queued | inHand
    · exact housed.acting other (List.mem_append_left _ (jobs ▸ queued))
    · obtain ⟨early,action,own⟩ := acting other inHand
      have acts := housed.acting job (List.mem_append_right _ (by rw [busy,Worker.held,if_pos early]; exact List.mem_singleton_self _))
      rw [Job.Acts,action,own]
      exact acts

theorem busy_accounts (housed : Housed settings state) {phase : Phase} {job : Job} (busy : state.worker = .busy phase job) :
    Accounted settings { state.books with holding := carried state.jobs job phase.rank } := by
  refine housed.accounts.same fun rank _ => ?_
  simp [carried,books,holding,busy,Worker.held]

/-- The worker goes on with its job, and gives back nothing that the books name. -/
theorem advances (housed : Housed settings state) {phase : Phase} {job : Job} (busy : state.worker = .busy phase job) (later : Phase)
    (books : next.books = { state.books with holding := carried state.jobs job later.rank })
    (worker : next.worker = .busy later job) (keys : next.sessions = state.sessions) (jobs : next.jobs = state.jobs)
    (accepting : next.accepting = true → state.accepting = true) (loop : next.workerLoopActive = state.workerLoopActive)
    (requested : next.shutdownRequested = state.shutdownRequested) (ending : later.draining = true → phase.draining = true)
    (started : 1 ≤ phase.rank) (onward : phase.rank ≤ later.rank) (holds : later.rank ≤ 4) : Housed settings next := by
  have active : next.activeSessions = state.activeSessions := congrArg Books.active books
  refine housed.proceeds busy ?_ (keys.trans (housed.keys.trans active.symm)) jobs accepting loop requested
    (by rw [worker]; exact ending) (by rw [worker]; rfl) ?_
  · rw [books]
    exact (housed.busy_accounts busy).advance started onward (Nat.le_succ_of_le holds)
  · intro other held
    rw [worker,Worker.held,if_pos (by omega)] at held
    rw [List.mem_singleton.mp held]
    exact ⟨by omega,rfl,rfl⟩

/-- The worker has released all that its job held. -/
theorem finishes (housed : Housed settings state) {phase : Phase} {job : Job} (busy : state.worker = .busy phase job)
    (done : 7 ≤ phase.rank) (worker : Worker) (plant : next.plant = { state.plant with worker := worker })
    (none : ∀ rank ≤ 6, worker.held rank = []) (ending : worker.ending = true → phase.draining = true)
    (running : worker.over = false) : Housed settings next := by
  have unchanged : ∀ {α : Type} (field : ASRInferenceCoordinator → α), field next.plant = field { state.plant with worker := worker } :=
    fun field => congrArg field plant
  have goes : next.worker = worker := unchanged (·.worker)
  have jobs : next.jobs = state.jobs := unchanged (·.jobs)
  have keys : next.sessions = state.sessions := unchanged (·.sessions)
  have active : next.activeSessions = state.activeSessions := unchanged (·.activeSessions)
  have accepting : next.accepting = state.accepting := unchanged (·.accepting)
  have same : next.books = { state.books with holding := next.holding } := by
    rw [show next.books = { next.plant.books with holding := next.holding } from rfl,plant]
    rfl
  refine housed.proceeds busy ?_ (keys.trans (housed.keys.trans active.symm)) jobs (fun accepts => accepting ▸ accepts)
    (unchanged (·.workerLoopActive)) (unchanged (·.shutdownRequested)) (by rw [goes]; exact ending) (by rw [goes]; exact running) ?_
  · rw [same]
    refine (housed.busy_accounts busy).same fun rank low => ?_
    rw [holding,jobs,goes,none rank low]
    exact (List.append_nil _).trans (carried_before (by omega)).symm
  · rw [goes,none 6 (Nat.le_refl 6)]
    exact fun _ held => nomatch held

/-- The worker goes on with its job, and changes no more than futures. -/
theorem passes (housed : Housed settings state) {phase : Phase} {job : Job} (busy : state.worker = .busy phase job) (later : Phase)
    (plant : next.plant = { state.plant with worker := .busy later job }) (ending : later.draining = true → phase.draining = true)
    (ranks : 1 ≤ phase.rank ∧ phase.rank ≤ later.rank ∧ later.rank ≤ 4) : Housed settings next := by
  have unchanged : ∀ {α : Type} (field : ASRInferenceCoordinator → α),
      field next.plant = field { state.plant with worker := .busy later job } := fun field => congrArg field plant
  exact housed.advances busy later (unchanged books) (unchanged (·.worker)) (unchanged (·.sessions)) (unchanged (·.jobs))
    (fun accepts => (unchanged (·.accepting)).symm.trans accepts) (unchanged (·.workerLoopActive))
    (unchanged (·.shutdownRequested)) ending ranks.1 ranks.2.1 ranks.2.2

variable {job : Job} {input : WorkInput}

theorem check_kept (housed : Housed settings state) {second : Bool} (busy : state.worker = .busy (.checking second) job) :
    Housed settings (state.check input job second) := by
  unfold check
  split
  · split
    · exact housed.passes busy .claiming rfl (by rintro ⟨⟩) (by simp [Phase.rank])
    · split
      · exact housed.passes busy (.checking true) rfl (by rintro ⟨⟩) (by simp [Phase.rank])
      · split
        · exact housed.passes busy .warming rfl (by rintro ⟨⟩) (by simp [Phase.rank])
        · exact housed.passes busy (.cleaning _) rfl (by rintro ⟨⟩) (by simp [Phase.rank])
  · exact housed.passes busy (.rejecting _ false) rfl (by rintro ⟨⟩) (by simp [Phase.rank])

theorem warm_kept (housed : Housed settings state) (busy : state.worker = .busy .warming job) :
    Housed settings (state.warm input job) := by
  unfold warm
  split
  · exact housed.advances busy (.checking true) rfl rfl rfl rfl id rfl rfl (by rintro ⟨⟩) (by decide) (by decide) (by decide)
  · exact housed.advances busy (.cleaning _) rfl rfl rfl rfl (by rintro ⟨⟩) rfl rfl (by rintro ⟨⟩) (by decide) (by decide) (by decide)
  · exact housed.passes busy (.cleaning _) rfl (by rintro ⟨⟩) (by decide)

theorem releaseQueueSlot_kept (housed : Housed settings state) {draining : Bool} (busy : state.worker = .busy (.taken draining) job) :
    Housed settings (state.releaseQueueSlot job draining) := by
  have released := (housed.busy_accounts busy).releaseSlot
  have goes : ∀ {next : ASRInferenceCoordinator} (later : Phase), next.plant = { state.plant with
      queuedBusinessJobs := if job.business then state.queuedBusinessJobs - 1 else state.queuedBusinessJobs
      worker := .busy later job } → (later.draining = true → draining = true) → 1 ≤ later.rank ∧ later.rank ≤ 4 →
      Housed settings next := by
    intro next later plant ending ranks
    have unchanged : ∀ {α : Type} (field : ASRInferenceCoordinator → α), field next.plant = field { state.plant with
      queuedBusinessJobs := if job.business then state.queuedBusinessJobs - 1 else state.queuedBusinessJobs
      worker := .busy later job } := fun field => congrArg field plant
    have worker : next.worker = .busy later job := unchanged (·.worker)
    have keys : next.sessions = state.sessions := unchanged (·.sessions)
    have active : next.activeSessions = state.activeSessions := unchanged (·.activeSessions)
    refine housed.proceeds busy ?_ (keys.trans (housed.keys.trans active.symm)) (unchanged (·.jobs))
      (fun accepts => (unchanged (·.accepting)).symm.trans accepts) (unchanged (·.workerLoopActive))
      (unchanged (·.shutdownRequested)) (by rw [worker]; exact ending) (by rw [worker]; rfl) ?_
    · rw [show next.books = next.plant.books from rfl,plant]
      exact @Accounted.advance settings { state.books with
        businessJobs := if job.business then state.queuedBusinessJobs - 1 else state.queuedBusinessJobs } _ _ _ _
          released (Nat.le_refl 1) ranks.1 (Nat.le_succ_of_le ranks.2)
    · intro other held
      rw [worker,Worker.held,if_pos (by omega)] at held
      rw [List.mem_singleton.mp held]
      exact ⟨by simp [Phase.rank],rfl,rfl⟩
  unfold releaseQueueSlot
  cases draining with
  | true => exact goes (.rejecting _ true) rfl (fun _ => rfl) (by simp [Phase.rank])
  | false =>
    by_cases stops : job.action = .shutdown
    · rw [if_neg Bool.false_ne_true,if_pos stops]
      cases (state.started job.sequence).settle none with
      | some future => exact goes (.cleaning _) rfl (by rintro ⟨⟩) (by simp [Phase.rank])
      | none => exact goes (.cleaning _) rfl (by rintro ⟨⟩) (by simp [Phase.rank])
    · rw [if_neg Bool.false_ne_true,if_neg stops]
      exact goes (.checking false) rfl (by rintro ⟨⟩) (by simp [Phase.rank])

/-- The worker has opened the session of its job. -/
theorem opens_kept (housed : Housed settings state) (busy : state.worker = .busy .executing job)
    (stream : job.action.reservesStream = true) {exit : Exit} (running : exit ≠ .drained) :
    Housed settings ({ state with
      sessions := state.sessions ∪ job.sessionId.toFinset
      activeSessions := state.activeSessions ∪ job.sessionId.toFinset }.withWorker
        (.busy (.cleaning exit) { job with holdsStreamReservation := false })) := by
  have accounts := housed.busy_accounts busy
  have inHand : job ∈ carried state.jobs job 1 1 := Accounted.mem_carried.mpr (.inr ⟨Nat.le_refl 1,rfl⟩)
  obtain ⟨own,mine⟩ := Option.isSome_iff_exists.mp ((accounts.shaped job inHand).2 stream)
  refine housed.proceeds busy (accounts.openSession stream mine) ?_ rfl id rfl rfl
    (fun drains => absurd (of_decide_eq_true drains) running) rfl ?_
  · exact congrArg (· ∪ job.sessionId.toFinset) housed.keys
  · intro other held
    rw [List.mem_singleton.mp held]
    exact ⟨by simp [Phase.rank],rfl,rfl⟩

/-- The worker has closed the session of its job. -/
theorem closes_kept (housed : Housed settings state) (busy : state.worker = .busy .executing job)
    (operation : job.action.reservesOperation = true) {exit : Exit} (running : exit ≠ .drained) :
    Housed settings ({ state with
      sessions := state.sessions \ job.sessionId.toFinset
      activeSessions := state.activeSessions \ job.sessionId.toFinset
      streamReservations := state.streamReservations \ job.sessionId.toFinset }.withWorker (.busy (.cleaning exit) job)) := by
  have accounts := housed.busy_accounts busy
  have inHand : job ∈ carried state.jobs job 1 1 := Accounted.mem_carried.mpr (.inr ⟨Nat.le_refl 1,rfl⟩)
  have plain : job.holdsStreamReservation = false := by
    rw [(accounts.shaped job inHand).1]
    cases stream : job.action.reservesStream with
    | false => rfl
    | true => rw [reservesStream_operation stream] at operation; cases operation
  refine housed.proceeds busy ?_ ?_ rfl id rfl rfl (fun drains => absurd (of_decide_eq_true drains) running) rfl ?_
  · exact accounts.closeSession (Nat.le_refl 1) Nat.one_lt_two (by simp [Phase.rank]) (.inr plain) (.inl operation)
      (fun _ busy calm => absurd busy calm) subset_rfl
  · exact congrArg (· \ job.sessionId.toFinset) housed.keys
  · intro other held
    rw [List.mem_singleton.mp held]
    exact ⟨by simp [Phase.rank],rfl,rfl⟩

/-- What `_execute_job` can do: it opens a session, closes one, begins to transcribe a file, or
    changes nothing. -/
theorem execute_cases (state : ASRInferenceCoordinator) (input : WorkInput) (job : Job) :
    ∃ exit, (exit = .succeeded ∨ exit = .failed .model ∨ exit = .died) ∧
      ((job.action.reservesStream = true ∧ exit = .succeeded ∧ state.execute input job = { state with
        sessions := state.sessions ∪ job.sessionId.toFinset
        activeSessions := state.activeSessions ∪ job.sessionId.toFinset }.withWorker
          (.busy (.cleaning exit) { job with holdsStreamReservation := false })) ∨
      ((job.action = .finishStream ∨ job.action = .abortStream) ∧ state.execute input job = { state with
        sessions := state.sessions \ job.sessionId.toFinset
        activeSessions := state.activeSessions \ job.sessionId.toFinset
        streamReservations := state.streamReservations \ job.sessionId.toFinset }.withWorker (.busy (.cleaning exit) job)) ∨
      (job.action = .transcribeFile ∧
        state.execute input job = { state with batchRunning := true }.withWorker (.busy .transcribing job)) ∨
      (job.action ≠ .transcribeFile ∧ job.action ≠ .abortStream ∧ (job.action.reservesStream = true → exit ≠ .succeeded) ∧
        (job.action = .finishStream → ¬job.sessionId.toFinset ⊆ state.sessions) ∧
        state.execute input job = state.withWorker (.busy (.cleaning exit) job))) := by
  have kind : input.call.exit = .succeeded ∨ input.call.exit = .failed .model ∨ input.call.exit = .died := by
    cases input.call with
    | returned => exact .inl rfl
    | raised => exact .inr (.inl rfl)
    | died => exact .inr (.inr rfl)
  have either : ∀ known : Prop, [Decidable known] → (if known then input.call.exit else .failed .model) = .succeeded ∨
      (if known then input.call.exit else .failed .model) = .failed .model ∨
      (if known then input.call.exit else .failed .model) = .died := by
    intro known _
    split
    · exact kind
    · exact .inr (.inl rfl)
  unfold execute
  dsimp only
  cases action : job.action with
  | createStream =>
    by_cases made : input.call.exit = .succeeded
    · exact ⟨_,kind,.inl ⟨rfl,made,if_pos made⟩⟩
    · exact ⟨_,kind,.inr (.inr (.inr ⟨by rintro ⟨⟩,by rintro ⟨⟩,fun _ => made,by rintro ⟨⟩,if_neg made⟩))⟩
  | createChunkedStream => exact ⟨.succeeded,.inl rfl,.inl ⟨rfl,rfl,rfl⟩⟩
  | addAudio | finishSegment =>
    exact ⟨_,either _,.inr (.inr (.inr ⟨by rintro ⟨⟩,by rintro ⟨⟩,by rintro ⟨⟩,by rintro ⟨⟩,rfl⟩))⟩
  | finishStream =>
    by_cases known : job.sessionId.toFinset ⊆ state.sessions
    · exact ⟨_,kind,.inr (.inl ⟨.inl rfl,if_pos known⟩)⟩
    · exact ⟨_,.inr (.inl rfl),.inr (.inr (.inr ⟨by rintro ⟨⟩,by rintro ⟨⟩,by rintro ⟨⟩,fun _ => known,if_neg known⟩))⟩
  | abortStream =>
    by_cases known : job.sessionId.toFinset ⊆ state.sessions
    · refine ⟨_,kind,.inr (.inl ⟨.inr rfl,?_⟩)⟩
      simp only [known,if_true]
    · refine ⟨.succeeded,.inl rfl,.inr (.inl ⟨.inr rfl,?_⟩)⟩
      simp only [known,if_false]
  | transcribeFile => exact ⟨_,kind,.inr (.inr (.inl ⟨rfl,rfl⟩))⟩
  | transcribeStreamChunk =>
    exact ⟨_,kind,.inr (.inr (.inr ⟨by rintro ⟨⟩,by rintro ⟨⟩,by rintro ⟨⟩,by rintro ⟨⟩,rfl⟩))⟩
  | shutdown => exact ⟨_,.inr (.inl rfl),.inr (.inr (.inr ⟨by rintro ⟨⟩,by rintro ⟨⟩,by rintro ⟨⟩,by rintro ⟨⟩,rfl⟩))⟩

theorem execute_kept (housed : Housed settings state) (busy : state.worker = .busy .executing job) :
    Housed settings (state.execute input job) := by
  obtain ⟨exit,kind,opens | closes | transcribes | fails⟩ := execute_cases state input job
  all_goals have running : exit ≠ .drained := by rcases kind with rfl | rfl | rfl <;> rintro ⟨⟩
  · obtain ⟨stream,_,same⟩ := opens
    rw [same]
    exact housed.opens_kept busy stream running
  · obtain ⟨action,same⟩ := closes
    rw [same]
    exact housed.closes_kept busy (by rcases action with action | action <;> rw [action] <;> rfl) running
  · rw [transcribes.2]
    exact housed.advances busy .transcribing rfl rfl rfl rfl id rfl rfl (by rintro ⟨⟩) (by decide) (by decide) (by decide)
  · rw [fails.2.2.2.2]
    exact housed.passes busy (.cleaning exit) rfl (fun drains => absurd (of_decide_eq_true drains) running) (by simp [Phase.rank])

theorem purge_kept (housed : Housed settings state) {exit : Exit} (busy : state.worker = .busy (.purging exit) job) :
    Housed settings (state.purge input job exit) := by
  have accounts := housed.busy_accounts busy
  have acts : job.Acts := housed.acting job (List.mem_append_right _ (by rw [busy]; exact List.mem_singleton_self _))
  unfold purge
  refine housed.proceeds busy ?_ ?_ rfl id rfl rfl ?_ rfl ?_
  · refine accounts.closeSession (by simp [Phase.rank]) (by simp [Phase.rank]) (Nat.le_refl 4) (.inl (Nat.lt_succ_self 3)) acts
      (fun own busy calm => ?_) Finset.sdiff_subset
    by_contra foreign
    exact calm (Finset.mem_sdiff.mpr ⟨busy,by simpa using foreign⟩)
  · exact congrArg (· \ job.sessionId.toFinset) housed.keys
  · intro drains
    have drained := of_decide_eq_true drains
    split at drained
    · cases drained
    · exact decide_eq_true drained
  · intro other held
    rw [List.mem_singleton.mp held]
    exact ⟨by simp [Phase.rank],rfl,rfl⟩

theorem releaseStreamReservation_eq (state : ASRInferenceCoordinator) (job : Job) : state.releaseStreamReservation job = { state with
    streamReservations := if job.holdsStreamReservation then state.streamReservations \ job.sessionId.toFinset
      else state.streamReservations } := by
  unfold releaseStreamReservation
  split <;> rfl

/-- Nothing is held any more once the reservation is released. -/
theorem released_held (exit : Exit) (job : Job) : ∀ rank ≤ 6, (exit.released job).held rank = [] := by
  intro rank low
  have late : ¬7 ≤ rank := by omega
  cases exit <;> simp [Exit.released,Worker.held,Phase.rank,late]

theorem late_held {phase : Phase} (late : 7 ≤ phase.rank) : ∀ rank ≤ 6, (Worker.busy phase job).held rank = [] :=
  fun _ low => if_neg (Nat.not_le_of_lt (Nat.lt_of_lt_of_le (Nat.lt_succ_of_le low) late))

theorem finished_held (exit : Exit) : ∀ rank, exit.finished.held rank = [] := by
  cases exit <;> exact fun _ => rfl

theorem finished_ending {exit : Exit} (ending : exit.finished.ending = true) : decide (exit = .drained) = true := by
  cases exit with
  | drained => rfl
  | _ => exact nomatch ending

theorem releases_kept (housed : Housed settings state) {exit : Exit} (busy : state.worker = .busy (.releasingStream exit) job) :
    Housed settings ((state.releaseStreamReservation job).withWorker
      (exit.released { job with holdsStreamReservation := false })) := by
  rw [releaseStreamReservation_eq]
  have released := (housed.busy_accounts busy).releaseStream
  refine housed.proceeds busy ?_ housed.keys rfl id rfl rfl ?_ ?_ ?_
  · refine released.same fun rank low => Eq.trans ?_ (carried_before (Nat.lt_succ_of_le low)).symm
    exact (congrArg (state.jobs ++ ·) (released_held exit _ rank low)).trans (List.append_nil _)
  · intro ending
    cases exit with
    | drained => rfl
    | _ => exact nomatch ending
  · cases exit <;> rfl
  · intro later held
    have none := released_held exit { job with holdsStreamReservation := false } 6 (Nat.le_refl 6)
    exact absurd (show later ∈ (exit.released { job with holdsStreamReservation := false }).held 6 from held) (by simp [none])

theorem proceed_kept (housed : Housed settings state) {phase : Phase} (busy : state.worker = .busy phase job) :
    Housed settings (state.proceed input job phase) := by
  have accounts := housed.busy_accounts busy
  cases phase with
  | taken draining => exact housed.releaseQueueSlot_kept busy
  | checking second => exact housed.check_kept busy
  | rejecting error draining =>
    unfold proceed
    by_cases claimed : (state.started job.sequence).setRunningOrNotifyCancel.1 = some true
    · exact housed.passes busy (.rejected error draining) (by simp only [claimed]; rfl) id (by simp [Phase.rank])
    · exact housed.passes busy (.dropping draining) (by simp only [claimed]; rfl) id (by simp [Phase.rank])
  | rejected error draining => exact housed.passes busy (.dropping draining) rfl id (by simp [Phase.rank])
  | dropping draining =>
    cases draining with
    | true => exact housed.passes busy (.releasingAudio .drained) rfl (fun _ => rfl) (by simp [Phase.rank])
    | false => exact housed.passes busy (.cleaning .skipped) rfl (by rintro ⟨⟩) (by simp [Phase.rank])
  | warming => exact housed.warm_kept busy
  | claiming =>
    unfold proceed
    by_cases claimed : (state.started job.sequence).setRunningOrNotifyCancel.1 = some true
    · exact housed.passes busy .claimed (by simp only [claimed]; rfl) (by rintro ⟨⟩) (by simp [Phase.rank])
    · exact housed.passes busy (.dropping false) (by simp only [claimed]; rfl) (by rintro ⟨⟩) (by simp [Phase.rank])
  | claimed =>
    exact housed.advances busy .executing rfl rfl rfl rfl id rfl rfl (by rintro ⟨⟩) (by decide) (by decide) (by decide)
  | executing => exact housed.execute_kept busy
  | transcribing =>
    refine housed.advances busy (.cleaning input.call.exit) rfl rfl rfl rfl id rfl rfl ?_ (by decide) (by simp [Phase.rank])
      (by simp [Phase.rank])
    cases input.call <;> rintro ⟨⟩
  | cleaning exit =>
    simp only [proceed]
    split
    · exact housed.passes busy (.purging exit) rfl id (by simp [Phase.rank])
    · exact housed.passes busy (.releasingAudio exit) rfl id (by simp [Phase.rank])
  | purging exit => exact housed.purge_kept busy
  | releasingAudio exit =>
    refine housed.proceeds busy (accounts.advance (show 1 ≤ 4 by decide) (show 4 ≤ 5 by decide) (le_refl 5)) housed.keys rfl id rfl rfl id rfl ?_
    intro other held
    rw [List.mem_singleton.mp held]
    exact ⟨by simp [Phase.rank],rfl,rfl⟩
  | releasingSession exit =>
    refine housed.proceeds busy accounts.releaseOperation housed.keys rfl id rfl rfl id rfl ?_
    intro other held
    rw [List.mem_singleton.mp held]
    exact ⟨by simp [Phase.rank],rfl,rfl⟩
  | releasingStream exit => exact housed.releases_kept busy
  | settlingStarted exit =>
    simp only [proceed]
    split
    · exact housed.finishes busy (Nat.le_refl 7) (.busy (.settlingResult exit) job) rfl (late_held (Nat.le_refl 7)) id rfl
    · exact housed.finishes busy (Nat.le_refl 7) (.busy (.settingStarted exit) job) rfl (late_held (Nat.le_refl 7)) id rfl
  | settingStarted exit =>
    simp only [proceed]
    split
    · exact housed.finishes busy (Nat.le_refl 7) (.busy (.settlingResult exit) job) rfl (late_held (Nat.le_refl 7)) id rfl
    · exact housed.finishes busy (Nat.le_refl 7) .closing rfl (fun _ _ => rfl) (by rintro ⟨⟩) rfl
  | settlingResult exit =>
    simp only [proceed]
    split
    · exact housed.finishes busy (Nat.le_refl 7) exit.finished rfl (fun rank _ => finished_held exit rank) finished_ending
        (by cases exit <;> rfl)
    · exact housed.finishes busy (Nat.le_refl 7) (.busy (.settingResult exit) job) rfl (late_held (Nat.le_refl 7)) id rfl
  | settingResult exit =>
    simp only [proceed]
    split
    · exact housed.finishes busy (Nat.le_refl 7) exit.finished rfl (fun rank _ => finished_held exit rank) finished_ending
        (by cases exit <;> rfl)
    · exact housed.finishes busy (Nat.le_refl 7) .closing rfl (fun _ _ => rfl) (by rintro ⟨⟩) rfl

/-- The worker takes a job. -/
theorem takes (housed : Housed settings state) {rest : List Job} {draining : Bool} (queue : state.jobs = job :: rest)
    (idle : ∀ rank, state.worker.held rank = []) (ending : draining = true → state.worker.ending = true) :
    Housed settings { state with jobs := rest, worker := .busy (.taken draining) job } := by
  have perm : ∀ rank, (rest ++ [job]).Perm (state.holding rank) := fun rank => by
    rw [holding,idle,List.append_nil,queue]
    exact List.perm_append_comm
  refine ⟨?_,housed.keys,?_,by rintro ⟨⟩,by rintro (⟨⟨⟩⟩ | ⟨⟨⟩⟩),?_,?_,?_⟩
  · exact housed.accounts.reorder (fun rank _ => perm rank) fun rank _ => (perm rank).subset
  · exact fun drains => housed.ended (ending drains)
  · intro other queued
    exact housed.stopping other (queue ▸ List.mem_cons_of_mem _ queued)
  · refine Nat.le_trans (List.Sublist.length_le (List.Sublist.filter _ ?_)) housed.stops
    rw [queue]
    exact List.sublist_cons_self _ _
  · exact fun other held => housed.acting other ((perm 6).subset held)

/-- The worker goes on without a job. -/
theorem idles (housed : Housed settings state) (worker : Worker) (idle : ∀ rank, state.worker.held rank = [])
    (still : ∀ rank, worker.held rank = []) (books : next.books = { state.books with holding := next.holding })
    (goes : next.worker = worker) (keys : next.sessions = state.sessions) (jobs : next.jobs = state.jobs)
    (accepting : next.accepting = true → state.accepting = true) (requested : next.shutdownRequested = state.shutdownRequested)
    (ending : worker.ending = true → next.accepting = false ∧ next.workerLoopActive = false)
    (past : worker.over = true → state.jobs = []) (running : worker ≠ .absent ∧ worker ≠ .exited) : Housed settings next := by
  have active : next.activeSessions = state.activeSessions := congrArg Books.active books
  have same : ∀ rank, next.holding rank = state.holding rank := fun rank => by
    rw [holding,holding,jobs,goes,still,idle]
  refine ⟨?_,keys.trans (housed.keys.trans active.symm),by rw [goes]; exact ending,by rw [goes,jobs]; exact past,?_,?_,?_,?_⟩
  · rw [books]
    exact housed.accounts.same fun rank _ => same rank
  · rw [goes]
    rintro (gone | gone)
    · exact absurd gone running.1
    · exact absurd gone running.2
  · intro job queued stops
    obtain ⟨asked,closed⟩ := housed.stopping job (jobs ▸ queued) stops
    refine ⟨requested.trans asked,?_⟩
    cases accepts : next.accepting with
    | false => rfl
    | true => rw [accepting accepts] at closed; cases closed
  · rw [jobs]
    exact housed.stops
  · intro job held
    rw [same] at held
    exact housed.acting job held

/-- The finalizer leaves nothing behind. -/
theorem clears (housed : Housed settings state) (aborting : state.worker = .aborting) : Housed settings (state.clear input) := by
  have jobs := housed.emptied (by rw [aborting]; rfl)
  obtain ⟨closed,left⟩ := housed.ended (by rw [aborting]; rfl)
  unfold clear
  split
  · exact housed.idles .fallen (by rw [aborting]; exact fun _ => rfl) (fun _ => rfl) rfl rfl rfl rfl id rfl
      (fun _ => ⟨closed,left⟩) (fun _ => jobs) ⟨by rintro ⟨⟩,by rintro ⟨⟩⟩
  · have none : ∀ rank, state.jobs ++ Worker.held rank .exited = [] := fun rank => by rw [jobs]; rfl
    refine ⟨?_,rfl,fun _ => ⟨closed,left⟩,fun _ => jobs,fun _ => rfl,?_,housed.stops,?_⟩
    · have empty : ∀ {motive : Job → Prop} {rank : Nat}, ∀ job ∈ state.jobs ++ Worker.held rank .exited, motive job :=
        fun {_ rank} job held => by rw [none rank] at held; cases held
      refine ⟨Nat.zero_le _,subset_rfl,(fun _ reserved => nomatch reserved),empty,empty,empty,?_,empty,empty,?_,?_,
        (fun _ active => nomatch active),?_,Nat.zero_le _⟩
      · exact fun own => by simp [books,holding,jobs,Worker.held]
      · rintro own (⟨⟨⟩⟩ | ⟨⟨⟩⟩ | some)
        exact absurd (by simp [Books.operations,books,holding,jobs,Worker.held]) some
      · exact fun own => by simp [Books.operations,books,holding,jobs,Worker.held]
      · simp [books,holding,jobs,Worker.held]
    · intro job queued
      rw [show _ = _ from jobs] at queued
      cases queued
    · intro job held
      exact absurd (show job ∈ state.jobs ++ Worker.held 6 .exited from held) (by simp [none])

theorem work_kept (housed : Housed settings state) (worked : state.work settings input = some next) : Housed settings next := by
  unfold work at worked
  split at worked
  · cases worked
  · cases worked
  · cases worked
  · rename_i loading
    have idle : ∀ rank, state.worker.held rank = [] := by rw [loading]; exact fun _ => rfl
    cases worked
    unfold load
    split
    · exact housed.idles .waiting idle (fun _ => rfl) rfl rfl rfl rfl id rfl (by rintro ⟨⟩) (by rintro ⟨⟩) ⟨by rintro ⟨⟩,by rintro ⟨⟩⟩
    · exact housed.idles .waiting idle (fun _ => rfl) rfl rfl rfl rfl (by rintro ⟨⟩) rfl (by rintro ⟨⟩) (by rintro ⟨⟩)
        ⟨by rintro ⟨⟩,by rintro ⟨⟩⟩
    · exact housed.idles .closing idle (fun _ => rfl) rfl rfl rfl rfl id rfl (by rintro ⟨⟩) (by rintro ⟨⟩) ⟨by rintro ⟨⟩,by rintro ⟨⟩⟩
  · rename_i waiting
    split at worked
    · cases worked
    · rename_i queue
      cases worked
      exact housed.takes queue (by rw [waiting]; exact fun _ => rfl) (by rintro ⟨⟩)
  · rename_i busy
    cases worked
    exact housed.proceed_kept busy
  · rename_i closing
    cases worked
    exact housed.idles .draining (by rw [closing]; exact fun _ => rfl) (fun _ => rfl) rfl rfl rfl rfl (by rintro ⟨⟩) rfl
      (fun _ => ⟨rfl,rfl⟩) (by rintro ⟨⟩) ⟨by rintro ⟨⟩,by rintro ⟨⟩⟩
  · rename_i draining
    split at worked
    · rename_i queue
      cases worked
      exact housed.idles .aborting (by rw [draining]; exact fun _ => rfl) (fun _ => rfl) rfl rfl rfl rfl id rfl
        (fun _ => housed.ended (by rw [draining]; rfl)) (fun _ => queue) ⟨by rintro ⟨⟩,by rintro ⟨⟩⟩
    · rename_i queue
      cases worked
      exact housed.takes queue (by rw [draining]; exact fun _ => rfl) (fun _ => by rw [draining]; rfl)
  · rename_i aborting
    cases worked
    exact housed.clears aborting

end Housed

/-! ## Every step -/

/-- What every step keeps. -/
def Kept (settings : CoordinatorSettings) (state : ASRInferenceCoordinator) : Prop := Housed settings state ∧ Fresh state

/-- The worker leaves the callers alone, and gives out no ids. -/
def Apart (state next : ASRInferenceCoordinator) : Prop :=
  next.callers = state.callers ∧ next.openedIds = state.openedIds ∧ next.usedIds = state.usedIds

theorem proceed_apart (state : ASRInferenceCoordinator) (input : WorkInput) (job : Job) (phase : Phase) :
    Apart state (state.proceed input job phase) := by
  cases phase with
  | taken draining =>
    simp only [proceed,releaseQueueSlot]
    repeat' split
    all_goals exact ⟨rfl,rfl,rfl⟩
  | checking second =>
    simp only [proceed,check]
    repeat' split
    all_goals exact ⟨rfl,rfl,rfl⟩
  | warming =>
    simp only [proceed,warm]
    split
    all_goals exact ⟨rfl,rfl,rfl⟩
  | executing =>
    obtain ⟨exit,_,⟨_,_,same⟩ | ⟨_,same⟩ | ⟨_,same⟩ | ⟨_,_,_,_,same⟩⟩ := Housed.execute_cases state input job
    all_goals
      rw [show state.proceed input job .executing = _ from same]
      exact ⟨rfl,rfl,rfl⟩
  | releasingStream exit =>
    simp only [proceed,Housed.releaseStreamReservation_eq]
    exact ⟨rfl,rfl,rfl⟩
  | settingStarted exit | settingResult exit =>
    simp only [proceed]
    split
    all_goals exact ⟨rfl,rfl,rfl⟩
  | _ => exact ⟨rfl,rfl,rfl⟩

theorem work_apart {settings : CoordinatorSettings} {state next : ASRInferenceCoordinator} {input : WorkInput}
    (worked : state.work settings input = some next) : Apart state next := by
  unfold work at worked
  split at worked
  · cases worked
  · cases worked
  · cases worked
  · cases worked
    unfold load
    split
    all_goals exact ⟨rfl,rfl,rfl⟩
  · split at worked
    all_goals cases worked
    exact ⟨rfl,rfl,rfl⟩
  · cases worked
    exact proceed_apart _ _ _ _
  · cases worked
    exact ⟨rfl,rfl,rfl⟩
  · split at worked
    all_goals cases worked
    all_goals exact ⟨rfl,rfl,rfl⟩
  · cases worked
    unfold clear
    split
    all_goals exact ⟨rfl,rfl,rfl⟩

theorem stop_apart (settings : CoordinatorSettings) (state : ASRInferenceCoordinator) : Apart state (state.stop settings) := by
  rcases Housed.stop_cases settings state with ⟨_,_,same,_⟩ | ⟨_,_,_,same⟩
  all_goals
    rw [same]
    exact ⟨rfl,rfl,rfl⟩

theorem start_apart {state next : ASRInferenceCoordinator} (started : state.start = some next) : Apart state next := by
  unfold start at started
  split at started
  all_goals cases started
  all_goals exact ⟨rfl,rfl,rfl⟩

theorem entering_submitting {caller : Caller} {submission : Submission} (enters : caller.entering = some submission) :
    ∃ sequence, caller = .submitting submission sequence := by
  cases caller with
  | submitting own sequence =>
    cases enters
    exact ⟨sequence,rfl⟩
  | _ => exact nomatch enters

/-- The lock block of `_submit`: the caller is refused, or waits for the start of its job. -/
theorem go_submits {settings : CoordinatorSettings} {state next : ASRInferenceCoordinator} {caller sequence : Nat}
    {submission : Submission} (stands : state.callers caller = .submitting submission sequence)
    (gone : state.go settings caller = some next) : ∃ error admitted stage,
      state.submit settings (submission.job sequence) = (error,admitted) ∧ stage.entering = none ∧
      next = admitted.withCaller caller stage := by
  unfold go at gone
  rw [stands] at gone
  dsimp only at gone
  split at gone
  · rename_i admitted
    cases gone
    exact ⟨_,_,_,admitted,ended_outside _ _,rfl⟩
  · rename_i admitted
    cases gone
    exact ⟨_,_,_,admitted,rfl,rfl⟩

theorem step_kept {settings : CoordinatorSettings} {state next : ASRInferenceCoordinator} {action : CoordinatorAction}
    (kept : Kept settings state) (stepped : state.step settings action = some next) : Kept settings next := by
  obtain ⟨housed,fresh⟩ := kept
  have stays : Apart state next → Fresh next := fun apart => fresh.congr apart.1 apart.2.1 apart.2.2
  have goes : ∀ {caller}, Moves state next caller → Kept settings next := fun moves => ⟨housed.of_plant moves.plant,fresh.moves moves⟩
  cases action with
  | start => exact ⟨housed.starts stepped,stays (start_apart stepped)⟩
  | stop =>
    cases stepped
    exact ⟨housed.stops_kept,stays (stop_apart settings state)⟩
  | call caller request =>
    rcases call_cases stepped with moves | ⟨action,sessionId,stream,new,rfl⟩
    · exact goes moves
    · exact ⟨housed.of_plant rfl,fresh.created stream new⟩
  | go caller =>
    cases enters : (state.callers caller).entering with
    | none => exact goes (go_moves enters stepped)
    | some submission =>
      obtain ⟨sequence,stands⟩ := entering_submitting enters
      obtain ⟨error,outcome,stage,admitted,outside,rfl⟩ := go_submits stands stepped
      obtain ⟨kept,⟨callers,given⟩,opened⟩ := housed.admits fresh enters admitted
      refine ⟨kept.of_plant rfl,fresh.admits enters ?_ outside given opened⟩
      rw [← callers]
      rfl
  | expire caller => exact goes (expire_moves stepped)
  | cancel caller => exact goes (cancel_moves stepped)
  | work input => exact ⟨housed.work_kept stepped,stays (work_apart stepped)⟩

theorem initial_kept (settings : CoordinatorSettings) : Kept settings {} := by
  refine ⟨⟨?_,rfl,fun _ => ⟨rfl,rfl⟩,fun _ => rfl,fun _ => rfl,(fun _ queued => nomatch queued),Nat.zero_le _,
    (fun _ held => nomatch held)⟩,
    (fun _ _ enters => nomatch enters),(fun _ _ enters => nomatch enters),(fun _ _ _ _ enters => nomatch enters),subset_rfl⟩
  refine ⟨Nat.zero_le _,subset_rfl,(fun _ reserved => nomatch reserved),(fun _ held => nomatch held),(fun _ held => nomatch held),
    (fun _ held => nomatch held),fun _ => Nat.zero_le _,(fun _ held => nomatch held),(fun _ held => nomatch held),?_,
    fun _ => Nat.zero_le _,(fun _ active => nomatch active),rfl,Nat.zero_le _⟩
  rintro own (reserved | busy | some)
  · exact nomatch reserved
  · exact nomatch busy
  · exact absurd rfl some

/-- A coordinator for four jobs and two streams. -/
def exampleSettings : CoordinatorSettings := ⟨4,2,4,true,true,by decide⟩

end SpeechGateway.Coordinator
