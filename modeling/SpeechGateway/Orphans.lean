import SpeechGateway.Occupancy

/-!
The futures of the jobs. A refused job is not executed, none is executed twice, and once the
worker has finalized, whoever waits for a future finds it done (`none_orphaned`). The submitter
and the worker settle the two futures of a job independently, so the invariant says for each place
a job can be in what its futures show.
-/
namespace SpeechGateway.Coordinator
open ASRInferenceCoordinator

namespace FutureState

/-- A future that was cancelled. -/
def given : FutureState → Bool
  | .cancelled | .cancelledAndNotified => true
  | _ => false

/-- What a future can become. -/
inductive Onward : FutureState → FutureState → Prop
  | refl (future : FutureState) : Onward future future
  | start : Onward .pending .running
  | cancel : Onward .pending .cancelled
  | notify : Onward .cancelled .cancelledAndNotified
  | finish (error : Option Fault) : Onward .pending (.finished error)
  | complete (error : Option Fault) : Onward .running (.finished error)

theorem Onward.done {future later : FutureState} (onward : Onward future later) (done : future.done = true) :
    later.done = true := by
  cases onward with
  | refl => exact done
  | notify => rfl
  | _ => exact nomatch done

theorem Onward.given {future later : FutureState} (onward : Onward future later) (given : future.given = true) :
    later.given = true := by
  cases onward with
  | refl => exact given
  | notify => rfl
  | _ => exact nomatch given

theorem Onward.finished {future later : FutureState} (onward : Onward future later) {error : Option Fault}
    (finished : future = .finished error) : later = .finished error := by
  subst finished
  cases onward
  rfl

/-- A future that has started to run is not cancelled any more. -/
theorem Onward.kept {future later : FutureState} (onward : Onward future later) (started : future ≠ .pending)
    (kept : future.given = false) : later ≠ .pending ∧ later.given = false := by
  cases onward with
  | refl => exact ⟨started,kept⟩
  | complete => exact ⟨by rintro ⟨⟩,rfl⟩
  | notify => exact nomatch kept
  | start | cancel | finish => exact absurd rfl started

theorem Onward.unfinished {future later : FutureState} (onward : Onward future later) (done : future.done = true)
    {error : Option Fault} (other : future ≠ .finished error) : later ≠ .finished error := by
  cases onward with
  | refl => exact other
  | notify => rintro ⟨⟩
  | _ => exact nomatch done

theorem cancel_onward (future : FutureState) : Onward future future.cancel.2 := by
  cases future with
  | pending => exact .cancel
  | _ => exact .refl _

theorem settle_onward {future later : FutureState} {error : Option Fault} (settled : future.settle error = some later) :
    Onward future later ∧ later = .finished error := by
  cases future with
  | pending =>
    cases settled
    exact ⟨.finish error,rfl⟩
  | running =>
    cases settled
    exact ⟨.complete error,rfl⟩
  | _ => exact nomatch settled

theorem settle_none {future : FutureState} {error : Option Fault} (settled : future.settle error = none) : future.done = true := by
  cases future with
  | pending | running => exact nomatch settled
  | _ => rfl

/-- The worker has claimed the job. -/
theorem claimed_running {future : FutureState} (claimed : future.setRunningOrNotifyCancel.1 = some true) :
    future = .pending ∧ future.setRunningOrNotifyCancel.2 = .running := by
  cases future with
  | pending => exact ⟨rfl,rfl⟩
  | _ => exact nomatch claimed

/-- `cancel` has succeeded. -/
theorem cancel_given {future : FutureState} (cancelled : future.cancel.1 = true) : future.cancel.2.given = true := by
  cases future with
  | running | finished => exact nomatch cancelled
  | _ => rfl

theorem cancel_kept {future : FutureState} (running : future.cancel.1 = false) : future ≠ .pending ∧ future.given = false := by
  cases future with
  | running | finished => exact ⟨by rintro ⟨⟩,rfl⟩
  | _ => exact nomatch running

theorem given_done {future : FutureState} (given : future.given = true) : future.done = true := by
  cases future with
  | cancelled | cancelledAndNotified => rfl
  | _ => exact nomatch given

end FutureState

open FutureState (Onward)

/-- The worker has not touched the future. -/
def Unclaimed (future : FutureState) : Prop := future = .pending ∨ future = .cancelled

/-- The futures of a job that leaves the loop this way, until the worker sets them. -/
def Exit.Shows (exit : Exit) (started result : FutureState) : Prop :=
  match exit with
  | .skipped | .drained => started.done = true ∧ result.done = true
  | .succeeded | .stopped => started.done = true
  | .failed _ | .died => started ≠ .running

/-- The futures of the job in the worker's hands. In a `quiet` run no submitter cancels `started`
    once the worker has found it undone. -/
def Phase.Shows (quiet : Prop) (started result : FutureState) : Phase → Prop
  | .taken _ | .checking _ | .rejecting .. | .warming | .claiming => Unclaimed started
  | .rejected .. | .claimed => started = .running
  | .dropping _ => started.done = true
  | .executing | .transcribing => started = .finished none
  | .cleaning exit | .purging exit | .releasingAudio exit | .releasingSession exit | .releasingStream exit =>
    exit.Shows started result
  | .settlingStarted _ => started ≠ .running
  | .settingStarted _ => Unclaimed started ∧ (quiet → started = .pending)
  | .settlingResult _ | .settingResult _ => started.done = true

/-- Both futures are done, or the submitter has cancelled the first. -/
def Settled (quiet : Prop) (state : ASRInferenceCoordinator) (job : Nat) : Prop :=
  (¬quiet ∧ (state.started job).given = true) ∨ (state.started job).done = true ∧ (state.result job).done = true

/-- The jobs in the queue and in the worker's hands. -/
def ASRInferenceCoordinator.liveJobs (state : ASRInferenceCoordinator) : List Job :=
  state.jobs ++ match state.worker with
    | .busy _ job => [job]
    | _ => []

/-- The caller has cancelled `started` of the job, and is about to cancel `result`. -/
def Caller.GivesUp (caller : Caller) (job : Nat) : Prop :=
  ∃ submission outcome, caller = .abandoning submission job outcome ∨ caller = .abandoned submission job outcome

/-- What a waiting caller knows of its job. -/
def Caller.Knows (state : ASRInferenceCoordinator) : Caller → Prop
  | .awaitingStart _ job | .awaitingStartAgain _ job | .abandoning _ job _ | .abandoned _ job _ => job ∈ state.enqueued
  | .awaitingResult _ job => job ∈ state.enqueued ∧ state.started job = .finished none
  | .cleaning _ job => job ∈ state.enqueued ∧ state.started job ≠ .pending ∧ (state.started job).given = false
  | _ => True

structure Futured (quiet : Prop) (state : ASRInferenceCoordinator) : Prop where
  numbered : ∀ job ∈ state.enqueued, job < state.nextSequence
  entering : ∀ caller submission job, state.callers caller = .submitting submission job →
    job < state.nextSequence ∧ job ∉ state.enqueued
  apart : ∀ caller other submission rival job, state.callers caller = .submitting submission job →
    state.callers other = .submitting rival job → caller = other
  live : ∀ job ∈ state.liveJobs, job.sequence ∈ state.enqueued
  distinct : (state.liveJobs.map Job.sequence).Nodup
  untouched : ∀ job, job ∉ state.enqueued → state.started job = .pending
  resting : ∀ job, state.result job ≠ .running
  waiting : ∀ job ∈ state.jobs, Unclaimed (state.started job.sequence)
  inHand : ∀ phase job, state.worker = .busy phase job → phase.Shows quiet (state.started job.sequence) (state.result job.sequence)
  settled : ∀ job ∈ state.enqueued, job ∉ state.liveJobs.map Job.sequence → Settled quiet state job
  executed : ∀ job ∈ state.executed, state.started job = .finished none
  once : state.executed.Nodup
  refused : ∀ job ∈ state.refused, (state.started job).done = true ∧ state.started job ≠ .finished none
  dropped : ∀ job, (state.started job).given = true →
    (state.result job).done = true ∨ ∃ caller, (state.callers caller).GivesUp job
  knows : ∀ caller, (state.callers caller).Knows state

/-- A submitter cancels `started` of the job whose `started` the worker has found undone, and is
    about to set. -/
def disturbs (state : ASRInferenceCoordinator) (action : CoordinatorAction) : Bool :=
  match state.worker,action with
  | .busy (.settingStarted _) job,.expire caller | .busy (.settingStarted _) job,.cancel caller =>
    match state.callers caller with
    | .awaitingStart _ own | .awaitingStartAgain _ own => own == job.sequence
    | _ => false
  | _,_ => false

theorem Unclaimed.cancelled {future : FutureState} (unclaimed : Unclaimed future) : Unclaimed future.cancel.2 := by
  rcases unclaimed with rfl | rfl
  · exact .inr rfl
  · exact .inr rfl

theorem done_cancelled {future : FutureState} (done : future.done = true) : future.cancel.2.done = true :=
  (FutureState.cancel_onward future).done done

theorem running_cancelled {future : FutureState} (idle : future ≠ .running) : future.cancel.2 ≠ .running := by
  cases future with
  | running => exact absurd rfl idle
  | _ => rintro ⟨⟩

theorem Exit.Shows.cancelled {exit : Exit} {started result : FutureState} (shows : exit.Shows started result) :
    exit.Shows started.cancel.2 result ∧ exit.Shows started result.cancel.2 := by
  cases exit with
  | skipped | drained => exact ⟨⟨done_cancelled shows.1,shows.2⟩,shows.1,done_cancelled shows.2⟩
  | succeeded | stopped => exact ⟨done_cancelled (show started.done = true from shows),shows⟩
  | failed | died => exact ⟨running_cancelled shows,shows⟩

theorem Phase.Shows.cancelled {quiet : Prop} {phase : Phase} {started result : FutureState} (shows : phase.Shows quiet started result) :
    ((quiet → ∀ exit, phase ≠ .settingStarted exit) → phase.Shows quiet started.cancel.2 result) ∧
      phase.Shows quiet started result.cancel.2 := by
  cases phase with
  | taken | checking | rejecting | warming | claiming => exact ⟨fun _ => Unclaimed.cancelled shows,shows⟩
  | settingStarted exit => exact ⟨fun calm => ⟨shows.1.cancelled,fun quiet => absurd rfl (calm quiet exit)⟩,shows⟩
  | rejected | claimed =>
    cases shows
    exact ⟨fun _ => rfl,rfl⟩
  | executing | transcribing =>
    cases shows
    exact ⟨fun _ => rfl,rfl⟩
  | dropping | settlingResult | settingResult => exact ⟨fun _ => done_cancelled (show started.done = true from shows),shows⟩
  | settlingStarted => exact ⟨fun _ => running_cancelled shows,shows⟩
  | cleaning | purging | releasingAudio | releasingSession | releasingStream =>
    exact ⟨fun _ => (Exit.Shows.cancelled shows).1,(Exit.Shows.cancelled shows).2⟩

/-! ## The callers' steps -/

theorem Caller.Knows.onward {state next : ASRInferenceCoordinator} {caller : Caller} (knows : caller.Knows state)
    (enqueued : ∀ job ∈ state.enqueued, job ∈ next.enqueued) (onward : ∀ job, Onward (state.started job) (next.started job)) :
    caller.Knows next := by
  cases caller with
  | awaitingStart | awaitingStartAgain | abandoning | abandoned => exact enqueued _ knows
  | awaitingResult submission job => exact ⟨enqueued _ knows.1,(onward job).finished knows.2⟩
  | cleaning own job => exact ⟨enqueued _ knows.1,(onward job).kept knows.2.1 knows.2.2⟩
  | _ => trivial

namespace Futured
variable {quiet : Prop} {state next : ASRInferenceCoordinator} {caller : Nat}

/-- A caller goes on, and may have cancelled futures of queued jobs. -/
theorem moves (futured : Futured quiet state) {stage : Caller} (callers : next.callers = Function.update state.callers caller stage)
    (jobs : next.jobs = state.jobs) (worker : next.worker = state.worker) (enqueued : next.enqueued = state.enqueued)
    (executed : next.executed = state.executed) (later : state.nextSequence ≤ next.nextSequence)
    (started : ∀ job, next.started job = state.started job ∨
      job ∈ state.enqueued ∧ next.started job = (state.started job).cancel.2)
    (result : ∀ job, next.result job = state.result job ∨ next.result job = (state.result job).cancel.2)
    (refused : ∀ job ∈ next.refused, job ∈ state.refused ∨
      (next.started job).done = true ∧ next.started job ≠ .finished none)
    (gives : ∀ job, (next.started job).given = true → (state.started job).given = true ∨ stage.GivesUp job)
    (keeps : ∀ job, (state.callers caller).GivesUp job → stage.GivesUp job ∨ (next.result job).done = true)
    (enters : ∀ submission job, stage = .submitting submission job →
      job = state.nextSequence ∧ state.nextSequence < next.nextSequence)
    (knows : stage.Knows next) (calm : quiet → ∀ exit job, state.worker = .busy (.settingStarted exit) job →
      next.started job.sequence = state.started job.sequence) : Futured quiet next := by
  have onward : ∀ job, Onward (state.started job) (next.started job) := by
    intro job
    rcases started job with same | ⟨_,cancelled⟩
    · rw [same]
      exact .refl _
    · rw [cancelled]
      exact FutureState.cancel_onward _
  have live : next.liveJobs = state.liveJobs := by rw [liveJobs,liveJobs,jobs,worker]
  have other : ∀ {own}, own ≠ caller → next.callers own = state.callers own := fun foreign => by
    rw [callers,Function.update_of_ne foreign]
  have mine : next.callers caller = stage := by rw [callers,Function.update_self]
  have done : ∀ {job}, (state.result job).done = true → (next.result job).done = true := by
    intro job done
    rcases result job with same | cancelled
    · rw [same]
      exact done
    · rw [cancelled]
      exact done_cancelled done
  constructor
  · rw [enqueued]
    exact fun job queued => Nat.lt_of_lt_of_le (futured.numbered job queued) later
  · intro own submission job entering
    rw [enqueued]
    by_cases same : own = caller
    · rw [same,mine] at entering
      obtain ⟨rfl,more⟩ := enters submission job entering
      exact ⟨more,fun queued => Nat.lt_irrefl _ (futured.numbered _ queued)⟩
    · rw [other same] at entering
      obtain ⟨below,unqueued⟩ := futured.entering own submission job entering
      exact ⟨Nat.lt_of_lt_of_le below later,unqueued⟩
  · intro first second submission rival job entering contending
    by_cases firstMine : first = caller
    · by_cases secondMine : second = caller
      · rw [firstMine,secondMine]
      · rw [firstMine,mine] at entering
        rw [other secondMine] at contending
        have below := (futured.entering second rival job contending).1
        rw [(enters submission job entering).1] at below
        exact absurd below (Nat.lt_irrefl _)
    · rw [other firstMine] at entering
      by_cases secondMine : second = caller
      · rw [secondMine,mine] at contending
        have below := (futured.entering first submission job entering).1
        rw [(enters rival job contending).1] at below
        exact absurd below (Nat.lt_irrefl _)
      · rw [other secondMine] at contending
        exact futured.apart first second submission rival job entering contending
  · rw [live,enqueued]
    exact futured.live
  · rw [live]
    exact futured.distinct
  · intro job unqueued
    rw [enqueued] at unqueued
    rcases started job with same | ⟨queued,_⟩
    · rw [same]
      exact futured.untouched job unqueued
    · exact absurd queued unqueued
  · intro job
    rcases result job with same | cancelled
    · rw [same]
      exact futured.resting job
    · rw [cancelled]
      exact running_cancelled (futured.resting job)
  · intro job queued
    rw [jobs] at queued
    rcases started job.sequence with same | ⟨_,cancelled⟩
    · rw [same]
      exact futured.waiting job queued
    · rw [cancelled]
      exact (futured.waiting job queued).cancelled
  · intro phase job busy
    rw [worker] at busy
    have shows := futured.inHand phase job busy
    have showsStarted : phase.Shows quiet (next.started job.sequence) (state.result job.sequence) := by
      by_cases same : next.started job.sequence = state.started job.sequence
      · rw [same]
        exact shows
      · rw [((started job.sequence).resolve_left same).2]
        exact shows.cancelled.1 fun silent exit stands => same (calm silent exit job (stands ▸ busy))
    rcases result job.sequence with same | cancelled
    · rw [same]
      exact showsStarted
    · rw [cancelled]
      exact showsStarted.cancelled.2
  · intro job queued gone
    rw [enqueued] at queued
    rw [live] at gone
    rcases futured.settled job queued gone with given | ⟨first,second⟩
    · exact .inl ⟨given.1,(onward job).given given.2⟩
    · exact .inr ⟨(onward job).done first,done second⟩
  · rw [executed]
    exact fun job ran => (onward job).finished (futured.executed job ran)
  · rw [executed]
    exact futured.once
  · intro job told
    rcases refused job told with before | now
    · obtain ⟨ended,unexecuted⟩ := futured.refused job before
      exact ⟨(onward job).done ended,(onward job).unfinished ended unexecuted⟩
    · exact now
  · intro job given
    rcases gives job given with before | now
    · rcases futured.dropped job before with ended | ⟨own,givesUp⟩
      · exact .inl (done ended)
      · by_cases same : own = caller
        · rw [same] at givesUp
          rcases keeps job givesUp with still | ended
          · exact .inr ⟨caller,by rw [mine]; exact still⟩
          · exact .inl ended
        · exact .inr ⟨own,by rw [other same]; exact givesUp⟩
    · exact .inr ⟨caller,by rw [mine]; exact now⟩
  · intro own
    by_cases same : own = caller
    · rw [same,mine]
      exact knows
    · rw [other same]
      exact (futured.knows own).onward (fun job queued => enqueued ▸ queued) onward

/-- A caller goes on, and leaves the futures alone. -/
theorem stays (futured : Futured quiet state) {stage : Caller} (callers : next.callers = Function.update state.callers caller stage)
    (jobs : next.jobs = state.jobs) (worker : next.worker = state.worker) (enqueued : next.enqueued = state.enqueued)
    (executed : next.executed = state.executed) (later : state.nextSequence ≤ next.nextSequence)
    (started : next.started = state.started) (result : next.result = state.result)
    (refused : ∀ job ∈ next.refused, job ∈ state.refused ∨
      (state.started job).done = true ∧ state.started job ≠ .finished none)
    (holds : ∀ job, ¬(state.callers caller).GivesUp job)
    (enters : ∀ submission job, stage = .submitting submission job →
      job = state.nextSequence ∧ state.nextSequence < next.nextSequence)
    (knows : stage.Knows next) : Futured quiet next := by
  refine futured.moves callers jobs worker enqueued executed later (fun job => .inl (by rw [started]))
    (fun job => .inl (by rw [result])) ?_ (fun job given => .inl (by rw [started] at given; exact given))
    (fun job gives => absurd gives (holds job)) enters knows fun _ _ _ _ => by rw [started]
  rw [started]
  exact refused

/-- A caller without a job of its own in a wait goes on, and comes to no wait. -/
theorem passes (futured : Futured quiet state) {stage : Caller} (callers : next.callers = Function.update state.callers caller stage)
    (same : next.jobs = state.jobs ∧ next.worker = state.worker ∧ next.enqueued = state.enqueued ∧
      next.executed = state.executed ∧ next.nextSequence = state.nextSequence ∧ next.started = state.started ∧
      next.result = state.result ∧ next.refused = state.refused)
    (holds : ∀ job, ¬(state.callers caller).GivesUp job) (outside : stage.entering = none) (knows : stage.Knows next) :
    Futured quiet next := by
  obtain ⟨jobs,worker,enqueued,executed,sequence,started,result,refused⟩ := same
  refine futured.stays callers jobs worker enqueued executed (Nat.le_of_eq sequence.symm) started result ?_ holds ?_ knows
  · rw [refused]
    exact fun job told => .inl told
  · rintro submission job rfl
    exact nomatch outside

theorem ended_knows (submission : Submission) (outcome : Outcome) : (submission.ended outcome).Knows state := by
  unfold Submission.ended
  repeat' split
  all_goals trivial

theorem unsubmitted_knows (purpose : Purpose) : purpose.unsubmitted.Knows state := by
  cases purpose <;> trivial

/-- A caller comes to the lock block of `_submit` with a number of its own. -/
theorem enters (futured : Futured quiet state) {submission : Submission} {moved : ASRInferenceCoordinator}
    (same : moved.jobs = state.jobs ∧ moved.worker = state.worker ∧ moved.enqueued = state.enqueued ∧
      moved.executed = state.executed ∧ moved.nextSequence = state.nextSequence ∧ moved.started = state.started ∧
      moved.result = state.result ∧ moved.refused = state.refused ∧ moved.callers = state.callers)
    (holds : ∀ job, ¬(state.callers caller).GivesUp job) : Futured quiet (moved.enter caller submission) := by
  obtain ⟨jobs,worker,enqueued,executed,sequence,started,result,refused,callers⟩ := same
  have now : (moved.enter caller submission).callers =
      Function.update state.callers caller (.submitting submission moved.nextSequence) := by rw [← callers]; rfl
  refine futured.stays now jobs worker enqueued executed ?_ started result ?_ holds ?_ trivial
  · rw [← sequence]
    exact Nat.le_succ _
  · exact fun job told => .inl (refused ▸ told)
  · intro own job entering
    cases entering
    rw [sequence]
    exact ⟨rfl,by rw [← sequence]; exact Nat.lt_succ_self _⟩

/-- In a quiet run the worker sets no future that was touched. -/
theorem calm_touched (futured : Futured quiet state) {job : Nat} (touched : state.started job ≠ .pending) :
    quiet → ∀ exit own, state.worker = .busy (.settingStarted exit) own → own.sequence ≠ job :=
  fun silent exit own busy same => touched (same ▸ (futured.inHand (.settingStarted exit) own busy).2 silent)

/-- The submitter has cancelled `started`. -/
theorem abandons (futured : Futured quiet state) (submission : Submission) {job : Nat} {future : FutureState} (outcome : Outcome)
    (queued : job ∈ state.enqueued) (cancels : (state.started job).cancel = (true,future))
    (holds : ∀ job, ¬(state.callers caller).GivesUp job)
    (calm : quiet → ∀ exit own, state.worker = .busy (.settingStarted exit) own → own.sequence ≠ job) :
    Futured quiet (state.abandon caller submission job future outcome) := by
  have cancelled : future = (state.started job).cancel.2 := by rw [cancels]
  have given : future.given = true := by
    rw [cancelled]
    exact FutureState.cancel_given (by rw [cancels])
  have now : (state.abandon caller submission job future outcome).started job = future := Function.update_self ..
  have other : ∀ {own}, own ≠ job → (state.abandon caller submission job future outcome).started own = state.started own :=
    fun foreign => Function.update_of_ne foreign ..
  refine futured.moves rfl rfl rfl rfl rfl (Nat.le_refl _) ?_ (fun own => .inl rfl) ?_ ?_
    (fun own gives => absurd gives (holds own)) (by rintro _ _ ⟨⟩) queued
    (fun silent exit own busy => other (calm silent exit own busy))
  · intro own
    by_cases same : own = job
    · rw [same]
      exact .inr ⟨queued,now.trans cancelled⟩
    · exact .inl (other same)
  · intro own told
    by_cases same : own = job
    · rw [same,now]
      exact .inr ⟨FutureState.given_done given,by rintro rfl; cases given⟩
    · exact .inl ((List.mem_cons.mp told).resolve_left same)
  · intro own gives
    by_cases same : own = job
    · rw [same]
      exact .inr ⟨submission,outcome,.inl rfl⟩
    · rw [other same] at gives
      exact .inl gives

/-- The submitter is cancelled while it waits for its job. -/
theorem interrupts (futured : Futured quiet state) (submission : Submission) {job : Nat} (queued : job ∈ state.enqueued)
    (holds : ∀ job, ¬(state.callers caller).GivesUp job)
    (calm : quiet → ∀ exit own, state.worker = .busy (.settingStarted exit) own → own.sequence ≠ job) :
    Futured quiet (state.interrupt caller submission job) := by
  unfold interrupt
  cases cancels : (state.started job).cancel with
  | mk cancelled future =>
    cases cancelled with
    | true => exact futured.abandons submission .cancelled queued cancels holds calm
    | false =>
      have kept := FutureState.cancel_kept (show (state.started job).cancel.1 = false by rw [cancels])
      dsimp only
      split
      · exact futured.passes rfl ⟨rfl,rfl,rfl,rfl,rfl,rfl,rfl,rfl⟩ holds rfl ⟨queued,kept⟩
      · exact futured.passes rfl ⟨rfl,rfl,rfl,rfl,rfl,rfl,rfl,rfl⟩ holds (ended_outside _ _) (ended_knows _ _)

theorem awaitStarts (futured : Futured quiet state) {submission : Submission} {job : Nat} (queued : job ∈ state.enqueued)
    (holds : ∀ job, ¬(state.callers caller).GivesUp job) (gone : state.awaitStart caller submission job = some next) :
    Futured quiet next := by
  unfold awaitStart at gone
  split at gone
  · cases gone
  · cases gone
  · rename_i finished
    cases gone
    exact futured.passes rfl ⟨rfl,rfl,rfl,rfl,rfl,rfl,rfl,rfl⟩ holds rfl ⟨queued,finished⟩
  · rename_i fault finished
    cases gone
    split
    · refine futured.stays rfl rfl rfl rfl rfl (Nat.le_refl _) rfl rfl ?_ holds ?_ (ended_knows _ _)
      · intro own told
        rcases List.mem_cons.mp told with rfl | before
        · rw [finished]
          exact .inr ⟨rfl,by rintro ⟨⟩⟩
        · exact .inl before
      · intro own number ends
        have outside := ended_outside submission (.raised fault)
        rw [ends] at outside
        cases outside
    · exact futured.passes rfl ⟨rfl,rfl,rfl,rfl,rfl,rfl,rfl,rfl⟩ holds (ended_outside _ _) (ended_knows _ _)
  · rename_i given
    cases gone
    exact futured.interrupts submission queued holds (futured.calm_touched (by rw [given]; rintro ⟨⟩))
  · rename_i given
    cases gone
    exact futured.interrupts submission queued holds (futured.calm_touched (by rw [given]; rintro ⟨⟩))

theorem awaitResults (futured : Futured quiet state) {submission : Submission} {job : Nat} (queued : job ∈ state.enqueued)
    (finished : state.started job = .finished none)
    (holds : ∀ job, ¬(state.callers caller).GivesUp job) (gone : state.awaitResult caller submission job = some next) :
    Futured quiet next := by
  unfold awaitResult at gone
  split at gone
  · cases gone
  · cases gone
  · cases gone
    exact futured.passes rfl ⟨rfl,rfl,rfl,rfl,rfl,rfl,rfl,rfl⟩ holds (ended_outside _ _) (ended_knows _ _)
  · cases gone
    exact futured.passes rfl ⟨rfl,rfl,rfl,rfl,rfl,rfl,rfl,rfl⟩ holds (ended_outside _ _) (ended_knows _ _)
  · cases gone
    exact futured.interrupts submission queued holds (futured.calm_touched (by rw [finished]; rintro ⟨⟩))
  · cases gone
    exact futured.interrupts submission queued holds (futured.calm_touched (by rw [finished]; rintro ⟨⟩))

/-- The caller has set `cancelled` of its job. -/
theorem sets_cancelled (futured : Futured quiet state) {submission : Submission} {job : Nat} {outcome : Outcome}
    (stands : state.callers caller = .abandoning submission job outcome) :
    Futured quiet ({ state with cancelled := Function.update state.cancelled job true }.withCaller caller
      (.abandoned submission job outcome)) := by
  have queued : job ∈ state.enqueued := by
    have knows := futured.knows caller
    rw [stands] at knows
    exact knows
  refine futured.moves rfl rfl rfl rfl rfl (Nat.le_refl _) (fun _ => .inl rfl) (fun _ => .inl rfl) (fun _ => .inl)
    (fun _ => .inl) ?_ (by rintro _ _ ⟨⟩) queued (fun _ _ _ _ => rfl)
  rw [stands]
  rintro own ⟨_,_,same | same⟩
  · cases same
    exact .inl ⟨submission,outcome,.inr rfl⟩
  · cases same

theorem cancel_done (futured : Futured quiet state) (own : Nat) : (state.result own).cancel.2.done = true := by
  have resting := futured.resting own
  cases before : state.result own with
  | running => exact absurd before resting
  | _ => rfl

/-- The caller has cancelled `result` of its job. -/
theorem gives_up (futured : Futured quiet state) {submission : Submission} {job : Nat} {outcome : Outcome}
    (stands : state.callers caller = .abandoned submission job outcome) :
    Futured quiet ({ state with result := Function.update state.result job (state.result job).cancel.2 }.withCaller caller
      (submission.ended outcome)) := by
  have now : Function.update state.result job (state.result job).cancel.2 job = (state.result job).cancel.2 := Function.update_self ..
  have ended := futured.cancel_done job
  refine futured.moves rfl rfl rfl rfl rfl (Nat.le_refl _) (fun _ => .inl rfl) ?_ (fun _ => .inl)
    (fun _ => .inl) ?_ ?_ (ended_knows _ _) (fun _ _ _ _ => rfl)
  · intro own
    by_cases same : own = job
    · rw [same]
      exact .inr now
    · exact .inl (Function.update_of_ne same ..)
  · rw [stands]
    rintro own ⟨_,_,same | same⟩
    · cases same
    · cases same
      exact .inr ((congrArg FutureState.done now).trans ended)
  · intro own number ends
    have outside := ended_outside submission outcome
    rw [ends] at outside
    cases outside

/-- The queue takes a job. -/
theorem queues (futured : Futured quiet state) {job : Job} (new : job.sequence ∉ state.enqueued)
    (jobs : next.jobs.Perm (job :: state.jobs)) (worker : next.worker = state.worker)
    (enqueued : next.enqueued = job.sequence :: state.enqueued) (executed : next.executed = state.executed)
    (started : next.started = state.started) (result : next.result = state.result) (refused : next.refused = state.refused)
    (later : state.nextSequence ≤ next.nextSequence) (below : job.sequence < next.nextSequence)
    (callers : ∀ own, (∃ submission, state.callers own = .submitting submission job.sequence ∧
        next.callers own = .awaitingStart submission job.sequence) ∨
      (∀ submission, state.callers own ≠ .submitting submission job.sequence) ∧ next.callers own = state.callers own) :
    Futured quiet next := by
  have more : ∀ own ∈ state.enqueued, own ∈ next.enqueued := fun own queued => enqueued ▸ List.mem_cons_of_mem _ queued
  have live : next.liveJobs.Perm (job :: state.liveJobs) := by
    rw [liveJobs,liveJobs,worker]
    exact jobs.append_right _
  have entering : ∀ {own submission sequence}, next.callers own = .submitting submission sequence →
      state.callers own = .submitting submission sequence ∧ sequence ≠ job.sequence := by
    intro own submission sequence stands
    rcases callers own with ⟨_,_,now⟩ | ⟨other,same⟩
    · rw [now] at stands
      cases stands
    · rw [same] at stands
      refine ⟨stands,?_⟩
      rintro rfl
      exact other submission stands
  constructor
  · intro own queued
    rw [enqueued] at queued
    rcases List.mem_cons.mp queued with rfl | queued
    · exact below
    · exact Nat.lt_of_lt_of_le (futured.numbered own queued) later
  · intro own submission sequence stands
    obtain ⟨before,other⟩ := entering stands
    obtain ⟨earlier,unqueued⟩ := futured.entering own submission sequence before
    rw [enqueued]
    exact ⟨Nat.lt_of_lt_of_le earlier later,fun queued => (List.mem_cons.mp queued).elim other unqueued⟩
  · exact fun first second submission rival sequence stands contends =>
      futured.apart first second submission rival sequence (entering stands).1 (entering contends).1
  · intro own held
    rw [enqueued]
    rcases List.mem_cons.mp (live.subset held) with rfl | held
    · exact List.mem_cons_self ..
    · exact List.mem_cons_of_mem _ (futured.live own held)
  · rw [(live.map Job.sequence).nodup_iff,List.map_cons,List.nodup_cons]
    refine ⟨fun member => ?_,futured.distinct⟩
    obtain ⟨own,held,same⟩ := List.mem_map.mp member
    exact new (same ▸ futured.live own held)
  · intro own unqueued
    rw [started]
    exact futured.untouched own fun queued => unqueued (more own queued)
  · rw [result]
    exact futured.resting
  · intro own queued
    rw [started]
    rcases List.mem_cons.mp (jobs.subset queued) with rfl | queued
    · exact .inl (futured.untouched _ new)
    · exact futured.waiting own queued
  · rw [worker,started,result]
    exact futured.inHand
  · intro own queued gone
    rw [Settled,started,result]
    have absent : own ∉ (job :: state.liveJobs).map Job.sequence := fun member => gone ((live.map Job.sequence).symm.subset member)
    rw [List.map_cons] at absent
    refine futured.settled own ?_ fun member => absent (List.mem_cons_of_mem _ member)
    rw [enqueued] at queued
    refine (List.mem_cons.mp queued).resolve_left ?_
    rintro rfl
    exact absent (List.mem_cons_self ..)
  · rw [executed,started]
    exact futured.executed
  · rw [executed]
    exact futured.once
  · rw [refused,started]
    exact futured.refused
  · intro own given
    rw [started] at given
    rw [result]
    refine (futured.dropped own given).imp_right fun ⟨caller,gives⟩ => ⟨caller,?_⟩
    rcases callers caller with ⟨submission,stands,_⟩ | ⟨_,same⟩
    · rw [stands] at gives
      obtain ⟨_,_,⟨⟨⟩⟩ | ⟨⟨⟩⟩⟩ := gives
    · rw [same]
      exact gives
  · intro own
    rcases callers own with ⟨submission,_,now⟩ | ⟨_,same⟩
    · rw [now]
      show job.sequence ∈ next.enqueued
      rw [enqueued]
      exact List.mem_cons_self ..
    · rw [same]
      exact (futured.knows own).onward more fun _ => by rw [started]; exact .refl _

/-- The lock block of `_submit`. -/
theorem submits {settings : CoordinatorSettings} (futured : Futured quiet state) (housed : Housed settings state)
    {submission : Submission} {sequence : Nat} (stands : state.callers caller = .submitting submission sequence)
    (gone : state.go settings caller = some next) : Futured quiet next := by
  obtain ⟨below,new⟩ := futured.entering caller submission sequence stands
  have free : ∀ job, ¬(state.callers caller).GivesUp job := by
    rw [stands]
    rintro _ ⟨_,_,⟨⟨⟩⟩ | ⟨⟨⟩⟩⟩
  unfold go at gone
  rw [stands] at gone
  dsimp only at gone
  split at gone
  · rename_i error admitted submitted
    cases gone
    rcases submit_cases submitted housed.roomy with ⟨_,rfl | ⟨reserved,made,rfl⟩⟩ | ⟨told,_⟩
    · exact futured.passes rfl ⟨rfl,rfl,rfl,rfl,rfl,rfl,rfl,rfl⟩ free (ended_outside _ _) (ended_knows _ _)
    · rw [Housed.giveBack_eq]
      rcases reserve_ok made with ⟨_,_,_,_,rfl⟩ | ⟨_,_,_,rfl⟩ | ⟨_,_,rfl⟩
      all_goals exact futured.passes rfl ⟨rfl,rfl,rfl,rfl,rfl,rfl,rfl,rfl⟩ free (ended_outside _ _) (ended_knows _ _)
    · cases told
  · rename_i admitted submitted
    cases gone
    rcases submit_cases submitted housed.roomy with ⟨told,_⟩ | ⟨_,_,_,reserved,made,_,_,rfl⟩
    · exact absurd rfl told
    · have perm : ∀ jobs : List Job, (jobs.orderedInsert (fun first second => first.before second)
          (submission.job sequence)).Perm (submission.job sequence :: jobs) := fun jobs => List.perm_orderedInsert _ _ jobs
      have callers : ∀ own, (∃ other, state.callers own = .submitting other sequence ∧
            Function.update state.callers caller (.awaitingStart submission sequence) own = .awaitingStart other sequence) ∨
          (∀ other, state.callers own ≠ .submitting other sequence) ∧
            Function.update state.callers caller (.awaitingStart submission sequence) own = state.callers own := by
        intro own
        by_cases same : own = caller
        · subst same
          exact .inl ⟨submission,stands,Function.update_self ..⟩
        · exact .inr ⟨fun other contends => same (futured.apart own caller other submission sequence contends stands),
            Function.update_of_ne same ..⟩
      rcases reserve_ok made with ⟨_,_,_,_,rfl⟩ | ⟨_,_,_,rfl⟩ | ⟨_,_,rfl⟩
      all_goals exact futured.queues new (perm _) rfl rfl rfl rfl rfl rfl (Nat.le_refl _) below callers

/-- Nothing changes that the futures depend on. -/
theorem congr (futured : Futured quiet state) (callers : next.callers = state.callers) (live : next.liveJobs.Perm state.liveJobs)
    (enqueued : next.enqueued = state.enqueued) (executed : next.executed = state.executed)
    (started : next.started = state.started) (result : next.result = state.result) (refused : next.refused = state.refused)
    (later : state.nextSequence ≤ next.nextSequence) (waiting : ∀ job ∈ next.jobs, Unclaimed (state.started job.sequence))
    (inHand : ∀ phase job, next.worker = .busy phase job → phase.Shows quiet (state.started job.sequence) (state.result job.sequence)) :
    Futured quiet next := by
  constructor
  · rw [enqueued]
    exact fun own queued => Nat.lt_of_lt_of_le (futured.numbered own queued) later
  · rw [callers,enqueued]
    intro own submission sequence stands
    obtain ⟨earlier,unqueued⟩ := futured.entering own submission sequence stands
    exact ⟨Nat.lt_of_lt_of_le earlier later,unqueued⟩
  · rw [callers]
    exact futured.apart
  · rw [enqueued]
    exact fun own held => futured.live own (live.subset held)
  · exact (live.map Job.sequence).nodup_iff.mpr futured.distinct
  · rw [enqueued,started]
    exact futured.untouched
  · rw [result]
    exact futured.resting
  · rw [started]
    exact waiting
  · rw [started,result]
    exact inHand
  · intro own queued gone
    rw [Settled,started,result]
    rw [enqueued] at queued
    exact futured.settled own queued fun member => gone ((live.map Job.sequence).symm.subset member)
  · rw [executed,started]
    exact futured.executed
  · rw [executed]
    exact futured.once
  · rw [refused,started]
    exact futured.refused
  · rw [callers,started,result]
    exact futured.dropped
  · intro own
    rw [callers]
    exact (futured.knows own).onward (fun _ queued => enqueued ▸ queued) fun _ => by rw [started]; exact .refl _

theorem stops (settings : CoordinatorSettings) (futured : Futured quiet state) : Futured quiet (state.stop settings) := by
  rcases Housed.stop_cases settings state with ⟨sequence,later,same,_⟩ | ⟨_,_,_,same⟩
  · rw [same]
    exact futured.congr rfl (List.Perm.refl _) rfl rfl rfl rfl rfl later futured.waiting futured.inHand
  · rw [same]
    have new : state.shutdownJob.sequence ∉ state.enqueued := fun queued => Nat.lt_irrefl _ (futured.numbered _ queued)
    refine futured.queues new (List.perm_orderedInsert _ _ _) rfl rfl rfl rfl rfl rfl (Nat.le_succ _) (Nat.lt_succ_self _)
      fun own => .inr ⟨fun submission stands => ?_,rfl⟩
    exact Nat.lt_irrefl _ (futured.entering own submission _ stands).1

/-- The next step of a caller. -/
theorem goes {settings : CoordinatorSettings} (futured : Futured quiet state) (outside : (state.callers caller).entering = none)
    (gone : state.go settings caller = some next) : Futured quiet next := by
  have knows := futured.knows caller
  have holds : ∀ {stage : Caller}, state.callers caller = stage → (∀ job, ¬stage.GivesUp job) →
      ∀ job, ¬(state.callers caller).GivesUp job := fun stands holds => stands ▸ holds
  unfold go at gone
  split at gone
  · cases gone
  · cases gone
  · rename_i stands
    have free := holds stands (by rintro _ ⟨_,_,⟨⟨⟩⟩ | ⟨⟨⟩⟩⟩)
    cases gone
    unfold announceFile
    repeat' split
    all_goals first
      | exact futured.passes rfl ⟨rfl,rfl,rfl,rfl,rfl,rfl,rfl,rfl⟩ free rfl trivial
      | exact futured.enters ⟨rfl,rfl,rfl,rfl,rfl,rfl,rfl,rfl,rfl⟩ free
  · rename_i stands
    have free := holds stands (by rintro _ ⟨_,_,⟨⟨⟩⟩ | ⟨⟨⟩⟩⟩)
    split at gone
    · cases gone
      exact futured.passes rfl ⟨rfl,rfl,rfl,rfl,rfl,rfl,rfl,rfl⟩ free rfl trivial
    · cases gone
      exact futured.enters ⟨rfl,rfl,rfl,rfl,rfl,rfl,rfl,rfl,rfl⟩ free
  · rename_i stands
    have free := holds stands (by rintro _ ⟨_,_,⟨⟨⟩⟩ | ⟨⟨⟩⟩⟩)
    cases gone
    unfold abortStream
    split
    · exact futured.passes rfl ⟨rfl,rfl,rfl,rfl,rfl,rfl,rfl,rfl⟩ free (unsubmitted_outside _) (unsubmitted_knows _)
    · split
      · exact futured.passes rfl ⟨rfl,rfl,rfl,rfl,rfl,rfl,rfl,rfl⟩ free (unsubmitted_outside _) (unsubmitted_knows _)
      · exact futured.enters ⟨rfl,rfl,rfl,rfl,rfl,rfl,rfl,rfl,rfl⟩ free
  · rename_i stands
    rw [stands] at outside
    cases outside
  · rename_i stands
    have free := holds stands (by rintro _ ⟨_,_,⟨⟨⟩⟩ | ⟨⟨⟩⟩⟩)
    rw [stands] at knows
    exact futured.awaitStarts knows free gone
  · rename_i stands
    have free := holds stands (by rintro _ ⟨_,_,⟨⟨⟩⟩ | ⟨⟨⟩⟩⟩)
    rw [stands] at knows
    exact futured.awaitStarts knows free gone
  · rename_i stands
    have free := holds stands (by rintro _ ⟨_,_,⟨⟨⟩⟩ | ⟨⟨⟩⟩⟩)
    rw [stands] at knows
    exact futured.awaitResults knows.1 knows.2 free gone
  · rename_i stands
    cases gone
    exact futured.sets_cancelled stands
  · rename_i stands
    cases gone
    exact futured.gives_up stands
  · rename_i stands
    have free := holds stands (by rintro _ ⟨_,_,⟨⟨⟩⟩ | ⟨⟨⟩⟩⟩)
    split at gone
    all_goals cases gone
    all_goals exact futured.passes rfl ⟨rfl,rfl,rfl,rfl,rfl,rfl,rfl,rfl⟩ free rfl trivial
  · rename_i stands
    have free := holds stands (by rintro _ ⟨_,_,⟨⟨⟩⟩ | ⟨⟨⟩⟩⟩)
    split at gone
    all_goals cases gone
    all_goals exact futured.passes rfl ⟨rfl,rfl,rfl,rfl,rfl,rfl,rfl,rfl⟩ free rfl trivial
  · rename_i stands
    cases gone
    exact futured.passes rfl ⟨rfl,rfl,rfl,rfl,rfl,rfl,rfl,rfl⟩ (holds stands (by rintro _ ⟨_,_,⟨⟨⟩⟩ | ⟨⟨⟩⟩⟩)) rfl trivial
  · rename_i stands
    cases gone
    exact futured.passes rfl ⟨rfl,rfl,rfl,rfl,rfl,rfl,rfl,rfl⟩ (holds stands (by rintro _ ⟨_,_,⟨⟨⟩⟩ | ⟨⟨⟩⟩⟩)) rfl trivial

theorem expires (futured : Futured quiet state) (calm : quiet → disturbs state (.expire caller) = false) (expired : state.expire caller = some next) : Futured quiet next := by
  have knows := futured.knows caller
  have holds : ∀ {stage : Caller}, state.callers caller = stage → (∀ job, ¬stage.GivesUp job) →
      ∀ job, ¬(state.callers caller).GivesUp job := fun stands holds => stands ▸ holds
  unfold expire at expired
  split at expired
  · rename_i stands
    have free := holds stands (by rintro _ ⟨_,_,⟨⟨⟩⟩ | ⟨⟨⟩⟩⟩)
    rw [stands] at knows
    split at expired
    · rename_i cancels
      cases expired
      exact futured.abandons _ _ knows cancels free
        fun silent exit own busy same => by simpa [disturbs,busy,stands,same] using calm silent
    · cases expired
      exact futured.passes rfl ⟨rfl,rfl,rfl,rfl,rfl,rfl,rfl,rfl⟩ free rfl knows
  · rename_i stands
    cases expired
    exact futured.passes rfl ⟨rfl,rfl,rfl,rfl,rfl,rfl,rfl,rfl⟩ (holds stands (by rintro _ ⟨_,_,⟨⟨⟩⟩ | ⟨⟨⟩⟩⟩))
      (ended_outside _ _) (ended_knows _ _)
  · rename_i stands
    cases expired
    exact futured.passes rfl ⟨rfl,rfl,rfl,rfl,rfl,rfl,rfl,rfl⟩ (holds stands (by rintro _ ⟨_,_,⟨⟨⟩⟩ | ⟨⟨⟩⟩⟩)) rfl trivial
  · cases expired

theorem cancels (futured : Futured quiet state) (calm : quiet → disturbs state (.cancel caller) = false) (stopped : state.cancel caller = some next) : Futured quiet next := by
  have knows := futured.knows caller
  have holds : ∀ {stage : Caller}, state.callers caller = stage → (∀ job, ¬stage.GivesUp job) →
      ∀ job, ¬(state.callers caller).GivesUp job := fun stands holds => stands ▸ holds
  unfold cancel at stopped
  split at stopped
  all_goals cases stopped
  · rename_i stands
    rw [stands] at knows
    exact futured.interrupts _ knows (holds stands (by rintro _ ⟨_,_,⟨⟨⟩⟩ | ⟨⟨⟩⟩⟩))
      fun silent exit own busy same => by simpa [disturbs,busy,stands,same] using calm silent
  · rename_i stands
    rw [stands] at knows
    exact futured.interrupts _ knows (holds stands (by rintro _ ⟨_,_,⟨⟨⟩⟩ | ⟨⟨⟩⟩⟩))
      fun silent exit own busy same => by simpa [disturbs,busy,stands,same] using calm silent
  · rename_i stands
    rw [stands] at knows
    exact futured.interrupts _ knows.1 (holds stands (by rintro _ ⟨_,_,⟨⟨⟩⟩ | ⟨⟨⟩⟩⟩))
      (futured.calm_touched (by rw [knows.2]; rintro ⟨⟩))
  · rename_i stands
    exact futured.passes rfl ⟨rfl,rfl,rfl,rfl,rfl,rfl,rfl,rfl⟩ (holds stands (by rintro _ ⟨_,_,⟨⟨⟩⟩ | ⟨⟨⟩⟩⟩)) rfl trivial

theorem calls (futured : Futured quiet state) {request : Request} (called : state.call caller request = some next) : Futured quiet next := by
  unfold call at called
  split at called
  · cases called
  · rename_i idle
    have free : ∀ job, ¬(state.callers caller).GivesUp job := by
      rw [not_not.mp idle]
      rintro _ ⟨_,_,⟨⟨⟩⟩ | ⟨⟨⟩⟩⟩
    dsimp only at called
    split at called
    iterate 2
      split at called
      · cases called
      · cases called
        exact futured.enters ⟨rfl,rfl,rfl,rfl,rfl,rfl,rfl,rfl,rfl⟩ free
    all_goals cases called
    iterate 3 exact futured.enters ⟨rfl,rfl,rfl,rfl,rfl,rfl,rfl,rfl,rfl⟩ free
    all_goals exact futured.passes rfl ⟨rfl,rfl,rfl,rfl,rfl,rfl,rfl,rfl⟩ free rfl trivial

/-! ## The worker's steps -/

/-- The worker goes on with its job, or leaves it settled. -/
theorem works (futured : Futured quiet state) {phase : Phase} {job : Job} (busy : state.worker = .busy phase job)
    (same : next.jobs = state.jobs ∧ next.callers = state.callers ∧ next.enqueued = state.enqueued ∧
      next.refused = state.refused ∧ next.nextSequence = state.nextSequence)
    (others : ∀ own, own ≠ job.sequence → next.started own = state.started own ∧ next.result own = state.result own)
    (started : Onward (state.started job.sequence) (next.started job.sequence))
    (result : (state.result job.sequence).done = true → (next.result job.sequence).done = true)
    (resting : next.result job.sequence ≠ .running)
    (kept : (next.started job.sequence).given = true → (state.started job.sequence).given = true)
    (executed : next.executed = state.executed ∨ state.started job.sequence = .running ∧
      next.started job.sequence = .finished none ∧ next.executed = job.sequence :: state.executed)
    (goes : (∃ later now, next.worker = .busy later now ∧ now.sequence = job.sequence ∧
        later.Shows quiet (next.started job.sequence) (next.result job.sequence)) ∨
      (∀ later now, next.worker ≠ .busy later now) ∧ Settled quiet next job.sequence) : Futured quiet next := by
  obtain ⟨jobs,callers,enqueued,refused,sequence⟩ := same
  have onward : ∀ own, Onward (state.started own) (next.started own) := by
    intro own
    by_cases same : own = job.sequence
    · rw [same]
      exact started
    · rw [(others own same).1]
      exact .refl _
  have done : ∀ {own}, (state.result own).done = true → (next.result own).done = true := by
    intro own ended
    by_cases same : own = job.sequence
    · rw [same] at ended ⊢
      exact result ended
    · rw [(others own same).2]
      exact ended
  have before : state.liveJobs = state.jobs ++ [job] := by rw [liveJobs,busy]
  have now : (∃ held : Job, held.sequence = job.sequence ∧ next.liveJobs = state.jobs ++ [held]) ∨ next.liveJobs = state.jobs := by
    rcases goes with ⟨later,held,goesOn,own,_⟩ | ⟨idle,_⟩
    · exact .inl ⟨held,own,by rw [liveJobs,goesOn,jobs]⟩
    · refine .inr ?_
      rw [liveJobs,jobs]
      split
      · exact absurd ‹_› (idle _ _)
      · exact List.append_nil _
  have distinct := futured.distinct
  rw [before,List.map_append,List.map_singleton] at distinct
  have foreign : ∀ own ∈ state.jobs, own.sequence ≠ job.sequence := by
    intro own queued same
    have apart := (List.nodup_append.mp distinct).2.2
    exact apart own.sequence (List.mem_map_of_mem queued) job.sequence (List.mem_singleton_self _) same
  constructor
  · rw [enqueued,sequence]
    exact futured.numbered
  · rw [callers,enqueued,sequence]
    exact futured.entering
  · rw [callers]
    exact futured.apart
  · intro own held
    rw [enqueued]
    have inHand : job.sequence ∈ state.enqueued := futured.live job (by rw [before]; exact List.mem_append_right _ (List.mem_singleton_self _))
    have inQueue : ∀ own ∈ state.jobs, own.sequence ∈ state.enqueued :=
      fun own queued => futured.live own (by rw [before]; exact List.mem_append_left _ queued)
    rcases now with ⟨held',same,live⟩ | live
    · rw [live] at held
      rcases List.mem_append.mp held with queued | last
      · exact inQueue own queued
      · rw [List.mem_singleton.mp last,same]
        exact inHand
    · rw [live] at held
      exact inQueue own held
  · rcases now with ⟨held,same,live⟩ | live
    · rw [live,List.map_append,List.map_singleton,same]
      exact distinct
    · rw [live]
      exact (List.nodup_append.mp distinct).1
  · intro own unqueued
    rw [enqueued] at unqueued
    have other : own ≠ job.sequence := by
      rintro rfl
      exact unqueued (futured.live job (by rw [before]; exact List.mem_append_right _ (List.mem_singleton_self _)))
    rw [(others own other).1]
    exact futured.untouched own unqueued
  · intro own
    by_cases same : own = job.sequence
    · rw [same]
      exact resting
    · rw [(others own same).2]
      exact futured.resting own
  · intro own queued
    rw [jobs] at queued
    rw [(others _ (foreign own queued)).1]
    exact futured.waiting own queued
  · intro phase' held goesOn
    rcases goes with ⟨later,held',stands,own,shows⟩ | ⟨idle,_⟩
    · rw [goesOn] at stands
      cases stands
      rw [own]
      exact shows
    · exact absurd goesOn (idle _ _)
  · intro own queued gone
    rw [enqueued] at queued
    by_cases same : own = job.sequence
    · rcases goes with ⟨later,held,stands,sequence',_⟩ | ⟨_,settled⟩
      · refine absurd (List.mem_map.mpr ⟨held,?_,sequence'.trans same.symm⟩) gone
        rw [liveJobs,stands]
        exact List.mem_append_right _ (List.mem_singleton_self _)
      · rw [same]
        exact settled
    · have absent : own ∉ state.liveJobs.map Job.sequence := by
        rw [before,List.map_append,List.map_singleton]
        refine fun member => (List.mem_append.mp member).elim (fun queued => gone ?_) fun last => same (List.mem_singleton.mp last)
        rcases now with ⟨held,_,live⟩ | live
        · rw [live,List.map_append]
          exact List.mem_append_left _ queued
        · rw [live]
          exact queued
      rw [Settled,(others own same).1,(others own same).2]
      exact futured.settled own queued absent
  · intro own ran
    rcases executed with same | ⟨_,finished,more⟩
    · rw [same] at ran
      exact (onward own).finished (futured.executed own ran)
    · rw [more] at ran
      rcases List.mem_cons.mp ran with rfl | ran
      · exact finished
      · exact (onward own).finished (futured.executed own ran)
  · rcases executed with same | ⟨running,_,more⟩
    · rw [same]
      exact futured.once
    · rw [more]
      refine List.nodup_cons.mpr ⟨fun ran => ?_,futured.once⟩
      rw [futured.executed _ ran] at running
      cases running
  · intro own told
    rw [refused] at told
    obtain ⟨ended,unexecuted⟩ := futured.refused own told
    exact ⟨(onward own).done ended,(onward own).unfinished ended unexecuted⟩
  · intro own given
    rw [callers]
    have before : (state.started own).given = true := by
      by_cases same : own = job.sequence
      · rw [same] at given ⊢
        exact kept given
      · rw [(others own same).1] at given
        exact given
    exact (futured.dropped own before).imp_left done
  · intro own
    rw [callers]
    exact (futured.knows own).onward (fun _ queued => enqueued ▸ queued) onward

/-- The worker goes on, and leaves the futures alone. -/
theorem works_on (futured : Futured quiet state) {phase : Phase} {job : Job} (busy : state.worker = .busy phase job)
    (same : next.jobs = state.jobs ∧ next.callers = state.callers ∧ next.enqueued = state.enqueued ∧
      next.refused = state.refused ∧ next.nextSequence = state.nextSequence)
    (kept : next.started = state.started ∧ next.result = state.result ∧ next.executed = state.executed)
    (goes : (∃ later now, next.worker = .busy later now ∧ now.sequence = job.sequence ∧
        later.Shows quiet (state.started job.sequence) (state.result job.sequence)) ∨
      (∀ later now, next.worker ≠ .busy later now) ∧ Settled quiet state job.sequence) : Futured quiet next := by
  obtain ⟨started,result,executed⟩ := kept
  refine futured.works busy same (fun own _ => by rw [started,result]; exact ⟨rfl,rfl⟩) (by rw [started]; exact .refl _)
    (by rw [result]; exact id) (by rw [result]; exact futured.resting _) (by rw [started]; exact id) (.inl executed) ?_
  rw [Settled,started,result]
  exact goes

/-- The worker sets `started`. -/
theorem works_started (futured : Futured quiet state) {phase : Phase} {job : Job} (busy : state.worker = .busy phase job)
    {future : FutureState} (onward : Onward (state.started job.sequence) future)
    (kept : future.given = true → (state.started job.sequence).given = true)
    (started : next.started = Function.update state.started job.sequence future) (result : next.result = state.result)
    (same : next.jobs = state.jobs ∧ next.callers = state.callers ∧ next.enqueued = state.enqueued ∧
      next.refused = state.refused ∧ next.nextSequence = state.nextSequence)
    (executed : next.executed = state.executed ∨ state.started job.sequence = .running ∧ future = .finished none ∧
      next.executed = job.sequence :: state.executed)
    (goes : ∃ later now, next.worker = .busy later now ∧ now.sequence = job.sequence ∧
      later.Shows quiet future (state.result job.sequence)) : Futured quiet next := by
  have now : next.started job.sequence = future := by rw [started,Function.update_self]
  refine futured.works busy same (fun own other => ?_) (by rw [now]; exact onward) (by rw [result]; exact id)
    (by rw [result]; exact futured.resting _) (by rw [now]; exact kept) (by rw [now]; exact executed) (.inl ?_)
  · rw [started,result,Function.update_of_ne other]
    exact ⟨rfl,rfl⟩
  · rw [now,result]
    exact goes

/-- The worker sets `result`. -/
theorem works_result (futured : Futured quiet state) {phase : Phase} {job : Job} (busy : state.worker = .busy phase job)
    {future : FutureState} (done : future.done = true) (started : next.started = state.started)
    (result : next.result = Function.update state.result job.sequence future)
    (same : next.jobs = state.jobs ∧ next.callers = state.callers ∧ next.enqueued = state.enqueued ∧
      next.refused = state.refused ∧ next.nextSequence = state.nextSequence) (executed : next.executed = state.executed)
    (goes : (∃ later now, next.worker = .busy later now ∧ now.sequence = job.sequence ∧
        later.Shows quiet (state.started job.sequence) future) ∨
      (∀ later now, next.worker ≠ .busy later now) ∧ (state.started job.sequence).done = true) : Futured quiet next := by
  have now : next.result job.sequence = future := by rw [result,Function.update_self]
  refine futured.works busy same (fun own other => ?_) (by rw [started]; exact .refl _) (fun _ => by rw [now]; exact done)
    (by rw [now]; rintro rfl; cases done) (by rw [started]; exact id) (.inl executed) ?_
  · rw [started,result,Function.update_of_ne other]
    exact ⟨rfl,rfl⟩
  · rw [Settled,started,now]
    exact goes.imp_right (And.imp_right fun ended => .inr ⟨ended,done⟩)

variable {job : Job} {input : WorkInput}

theorem shows_failed {exit : Exit} {started result : FutureState} (shows : exit.Shows started result) : started ≠ .running := by
  rintro rfl
  cases exit with
  | skipped | drained => exact nomatch (show FutureState.done .running = true from shows.1)
  | succeeded | stopped => exact nomatch (show FutureState.done .running = true from shows)
  | failed | died => exact shows rfl

theorem unclaimed_idle {future : FutureState} (unclaimed : Unclaimed future) : future ≠ .running := by
  rcases unclaimed with rfl | rfl <;> rintro ⟨⟩

theorem finished_idle (exit : Exit) : ∀ later now, exit.finished ≠ .busy later now := by
  cases exit <;> rintro _ _ ⟨⟩

/-- The worker claims a future that it has not touched, or finds it cancelled. -/
theorem claims {future : FutureState} (unclaimed : Unclaimed future) :
    (future.setRunningOrNotifyCancel.1 = some true ∧ future.setRunningOrNotifyCancel.2 = .running ∧ Onward future .running) ∨
    (future.setRunningOrNotifyCancel.1 = some false ∧ future.setRunningOrNotifyCancel.2 = .cancelledAndNotified ∧
      future.given = true ∧ Onward future .cancelledAndNotified) := by
  rcases unclaimed with rfl | rfl
  · exact .inl ⟨rfl,rfl,.start⟩
  · exact .inr ⟨rfl,rfl,rfl,.notify⟩

theorem proceeds (futured : Futured quiet state) {phase : Phase} (busy : state.worker = .busy phase job) :
    Futured quiet (state.proceed input job phase) := by
  have shows := futured.inHand phase job busy
  cases phase with
  | taken draining =>
    simp only [proceed,releaseQueueSlot]
    split
    · exact futured.works_on busy ⟨rfl,rfl,rfl,rfl,rfl⟩ ⟨rfl,rfl,rfl⟩ (.inl ⟨_,job,rfl,rfl,shows⟩)
    · split
      · cases settles : (state.started job.sequence).settle none with
        | some future =>
          obtain ⟨onward,rfl⟩ := FutureState.settle_onward settles
          exact futured.works_started busy onward (by rintro ⟨⟩) rfl rfl ⟨rfl,rfl,rfl,rfl,rfl⟩ (.inl rfl)
            ⟨_,job,rfl,rfl,show FutureState.done (.finished none) = true from rfl⟩
        | none =>
          exact futured.works_on busy ⟨rfl,rfl,rfl,rfl,rfl⟩ ⟨rfl,rfl,rfl⟩ (.inl ⟨_,job,rfl,rfl,unclaimed_idle shows⟩)
      · exact futured.works_on busy ⟨rfl,rfl,rfl,rfl,rfl⟩ ⟨rfl,rfl,rfl⟩ (.inl ⟨_,job,rfl,rfl,shows⟩)
  | checking second =>
    simp only [proceed,check]
    repeat' split
    all_goals refine futured.works_on busy ⟨rfl,rfl,rfl,rfl,rfl⟩ ⟨rfl,rfl,rfl⟩ (.inl ⟨_,job,rfl,rfl,?_⟩)
    all_goals first | exact shows | exact unclaimed_idle shows
  | rejecting error draining =>
    rcases claims shows with ⟨claimed,future,onward⟩ | ⟨claimed,future,given,onward⟩
    · refine futured.works_started busy onward (by rintro ⟨⟩) (by simp only [proceed,future]; rfl) rfl ⟨rfl,rfl,rfl,rfl,rfl⟩
        (.inl rfl) ⟨.rejected error draining,job,?_,rfl,rfl⟩
      simp only [proceed,claimed]
      rfl
    · refine futured.works_started busy onward (fun _ => given) (by simp only [proceed,future]; rfl) rfl ⟨rfl,rfl,rfl,rfl,rfl⟩
        (.inl rfl) ⟨.dropping draining,job,?_,rfl,show FutureState.done .cancelledAndNotified = true from rfl⟩
      simp only [proceed,claimed]
      rfl
  | rejected error draining =>
    have running : state.started job.sequence = .running := shows
    refine futured.works_started busy (show Onward _ (.finished (some (.coordinator error))) from ?_) (by rintro ⟨⟩) ?_ rfl
      ⟨rfl,rfl,rfl,rfl,rfl⟩ (.inl rfl) ⟨.dropping draining,job,rfl,rfl,rfl⟩
    · rw [running]
      exact .complete _
    · simp only [proceed,running]
      rfl
  | dropping draining =>
    have done : (state.result job.sequence).cancel.2.done = true := futured.cancel_done job.sequence
    have ended : (state.started job.sequence).done = true := shows
    cases draining with
    | true => exact futured.works_result busy done rfl rfl ⟨rfl,rfl,rfl,rfl,rfl⟩ rfl (.inl ⟨_,job,rfl,rfl,ended,done⟩)
    | false => exact futured.works_result busy done rfl rfl ⟨rfl,rfl,rfl,rfl,rfl⟩ rfl (.inl ⟨_,job,rfl,rfl,ended,done⟩)
  | warming =>
    simp only [proceed,warm]
    split
    all_goals refine futured.works_on busy ⟨rfl,rfl,rfl,rfl,rfl⟩ ⟨rfl,rfl,rfl⟩ (.inl ⟨_,job,rfl,rfl,?_⟩)
    all_goals first | exact shows | exact unclaimed_idle shows
  | claiming =>
    rcases claims shows with ⟨claimed,future,onward⟩ | ⟨claimed,future,given,onward⟩
    · refine futured.works_started busy onward (by rintro ⟨⟩) (by simp only [proceed,future]; rfl) rfl ⟨rfl,rfl,rfl,rfl,rfl⟩
        (.inl rfl) ⟨.claimed,job,?_,rfl,rfl⟩
      simp only [proceed,claimed]
      rfl
    · refine futured.works_started busy onward (fun _ => given) (by simp only [proceed,future]; rfl) rfl ⟨rfl,rfl,rfl,rfl,rfl⟩
        (.inl rfl) ⟨.dropping false,job,?_,rfl,show FutureState.done .cancelledAndNotified = true from rfl⟩
      simp only [proceed,claimed]
      rfl
  | claimed =>
    have running : state.started job.sequence = .running := shows
    refine futured.works_started busy (show Onward _ (.finished none) from ?_) (by rintro ⟨⟩) ?_ rfl ⟨rfl,rfl,rfl,rfl,rfl⟩
      (.inr ⟨running,rfl,rfl⟩) ⟨.executing,job,rfl,rfl,rfl⟩
    · rw [running]
      exact .complete _
    · simp only [proceed,running]
      rfl
  | executing =>
    have finished : state.started job.sequence = .finished none := shows
    obtain ⟨exit,kind,⟨_,_,same⟩ | ⟨_,same⟩ | ⟨_,same⟩ | ⟨_,_,_,_,same⟩⟩ := Housed.execute_cases state input job
    all_goals
      have showsExit : exit.Shows (state.started job.sequence) (state.result job.sequence) := by
        rw [finished]
        rcases kind with rfl | rfl | rfl
        · rfl
        · rintro ⟨⟩
        · rintro ⟨⟩
      rw [show state.proceed input job .executing = _ from same]
    · exact futured.works_on busy ⟨rfl,rfl,rfl,rfl,rfl⟩ ⟨rfl,rfl,rfl⟩
        (.inl ⟨_,{ job with holdsStreamReservation := false },rfl,rfl,showsExit⟩)
    · exact futured.works_on busy ⟨rfl,rfl,rfl,rfl,rfl⟩ ⟨rfl,rfl,rfl⟩ (.inl ⟨_,job,rfl,rfl,showsExit⟩)
    · exact futured.works_on busy ⟨rfl,rfl,rfl,rfl,rfl⟩ ⟨rfl,rfl,rfl⟩ (.inl ⟨.transcribing,job,rfl,rfl,finished⟩)
    · exact futured.works_on busy ⟨rfl,rfl,rfl,rfl,rfl⟩ ⟨rfl,rfl,rfl⟩ (.inl ⟨_,job,rfl,rfl,showsExit⟩)
  | transcribing =>
    have finished : state.started job.sequence = .finished none := shows
    refine futured.works_on busy ⟨rfl,rfl,rfl,rfl,rfl⟩ ⟨rfl,rfl,rfl⟩ (.inl ⟨.cleaning input.call.exit,job,rfl,rfl,?_⟩)
    rw [finished]
    cases input.call with
    | returned => rfl
    | raised | died => rintro ⟨⟩
  | cleaning exit =>
    simp only [proceed]
    split
    all_goals exact futured.works_on busy ⟨rfl,rfl,rfl,rfl,rfl⟩ ⟨rfl,rfl,rfl⟩ (.inl ⟨_,job,rfl,rfl,shows⟩)
  | purging exit =>
    refine futured.works_on busy ⟨rfl,rfl,rfl,rfl,rfl⟩ ⟨rfl,rfl,rfl⟩ (.inl ⟨_,job,rfl,rfl,?_⟩)
    split
    · exact shows_failed shows
    · exact shows
  | releasingAudio exit | releasingSession exit =>
    exact futured.works_on busy ⟨rfl,rfl,rfl,rfl,rfl⟩ ⟨rfl,rfl,rfl⟩ (.inl ⟨_,job,rfl,rfl,shows⟩)
  | releasingStream exit =>
    simp only [proceed,Housed.releaseStreamReservation_eq]
    refine futured.works_on busy ⟨rfl,rfl,rfl,rfl,rfl⟩ ⟨rfl,rfl,rfl⟩ ?_
    cases exit with
    | skipped | drained => exact .inr ⟨by rintro _ _ ⟨⟩,.inr shows⟩
    | succeeded | stopped => exact .inl ⟨_,_,rfl,rfl,shows⟩
    | failed | died => exact .inl ⟨_,_,rfl,rfl,shows⟩
  | settlingStarted exit =>
    have idle : state.started job.sequence ≠ .running := shows
    simp only [proceed]
    split
    · exact futured.works_on busy ⟨rfl,rfl,rfl,rfl,rfl⟩ ⟨rfl,rfl,rfl⟩ (.inl ⟨.settlingResult exit,job,rfl,rfl,‹_›⟩)
    · rename_i undone
      refine futured.works_on busy ⟨rfl,rfl,rfl,rfl,rfl⟩ ⟨rfl,rfl,rfl⟩ (.inl ⟨.settingStarted exit,job,rfl,rfl,?_⟩)
      suffices pending : state.started job.sequence = .pending from ⟨.inl pending,fun _ => pending⟩
      cases before : state.started job.sequence with
      | pending => rfl
      | running => exact absurd before idle
      | _ => rw [before] at undone; exact absurd rfl undone
  | settingStarted exit =>
    simp only [proceed]
    split
    · rename_i future settles
      obtain ⟨onward,rfl⟩ := FutureState.settle_onward settles
      exact futured.works_started busy onward (by rintro ⟨⟩) rfl rfl ⟨rfl,rfl,rfl,rfl,rfl⟩ (.inl rfl)
        ⟨.settlingResult exit,job,rfl,rfl,rfl⟩
    · rename_i settles
      have touched : state.started job.sequence ≠ .pending := fun pending => by rw [pending] at settles; cases settles
      refine futured.works_on busy ⟨rfl,rfl,rfl,rfl,rfl⟩ ⟨rfl,rfl,rfl⟩
        (.inr ⟨by rintro _ _ ⟨⟩,.inl ⟨fun silent => touched (shows.2 silent),?_⟩⟩)
      rw [shows.1.resolve_left touched]
      rfl
  | settlingResult exit =>
    have ended : (state.started job.sequence).done = true := shows
    simp only [proceed]
    split
    · rename_i done
      exact futured.works_on busy ⟨rfl,rfl,rfl,rfl,rfl⟩ ⟨rfl,rfl,rfl⟩ (.inr ⟨finished_idle exit,.inr ⟨ended,done⟩⟩)
    · exact futured.works_on busy ⟨rfl,rfl,rfl,rfl,rfl⟩ ⟨rfl,rfl,rfl⟩ (.inl ⟨.settingResult exit,job,rfl,rfl,ended⟩)
  | settingResult exit =>
    have ended : (state.started job.sequence).done = true := shows
    simp only [proceed]
    split
    · rename_i future settles
      obtain ⟨_,rfl⟩ := FutureState.settle_onward settles
      exact futured.works_result busy rfl rfl rfl ⟨rfl,rfl,rfl,rfl,rfl⟩ rfl (.inr ⟨finished_idle exit,ended⟩)
    · rename_i settles
      exact futured.works_on busy ⟨rfl,rfl,rfl,rfl,rfl⟩ ⟨rfl,rfl,rfl⟩
        (.inr ⟨by rintro _ _ ⟨⟩,.inr ⟨ended,FutureState.settle_none settles⟩⟩)

/-- The worker takes a job. -/
theorem takes (futured : Futured quiet state) {rest : List Job} {draining : Bool} (queue : state.jobs = job :: rest)
    (idle : ∀ phase own, state.worker ≠ .busy phase own) :
    Futured quiet { state with jobs := rest, worker := .busy (.taken draining) job } := by
  have live : state.liveJobs = job :: rest := by
    rw [liveJobs,queue]
    split
    · exact absurd ‹_› (idle _ _)
    · exact List.append_nil _
  refine futured.congr rfl ?_ rfl rfl rfl rfl rfl (Nat.le_refl _) (fun own queued => ?_) ?_
  · rw [live]
    exact List.perm_append_comm
  · exact futured.waiting own (queue ▸ List.mem_cons_of_mem _ queued)
  · rintro _ _ ⟨⟩
    exact futured.waiting job (queue ▸ List.mem_cons_self ..)

/-- The worker goes on without a job. -/
theorem idles (futured : Futured quiet state) (idle : ∀ phase own, state.worker ≠ .busy phase own)
    (still : ∀ phase own, next.worker ≠ .busy phase own) (jobs : next.jobs = state.jobs) (callers : next.callers = state.callers)
    (enqueued : next.enqueued = state.enqueued) (executed : next.executed = state.executed)
    (kept : next.started = state.started ∧ next.result = state.result ∧ next.refused = state.refused ∧
      next.nextSequence = state.nextSequence) : Futured quiet next := by
  obtain ⟨started,result,refused,sequence⟩ := kept
  have none : ∀ {own : ASRInferenceCoordinator}, (∀ phase job, own.worker ≠ .busy phase job) → own.liveJobs = own.jobs := by
    intro own idle
    rw [liveJobs]
    split
    · exact absurd ‹_› (idle _ _)
    · exact List.append_nil _
  refine futured.congr callers ?_ enqueued executed started result refused (Nat.le_of_eq sequence.symm)
    (jobs ▸ futured.waiting) fun phase own busy => absurd busy (still phase own)
  rw [none still,none idle,jobs]

theorem worked {settings : CoordinatorSettings} (futured : Futured quiet state) (works : state.work settings input = some next) :
    Futured quiet next := by
  unfold work at works
  split at works
  · cases works
  · cases works
  · cases works
  · rename_i loading
    have idle : ∀ phase own, state.worker ≠ .busy phase own := by rw [loading]; rintro _ _ ⟨⟩
    cases works
    unfold load
    split
    all_goals exact futured.idles idle (by rintro _ _ ⟨⟩) rfl rfl rfl rfl ⟨rfl,rfl,rfl,rfl⟩
  · rename_i waiting
    split at works
    · cases works
    · rename_i queue
      cases works
      exact futured.takes queue (by rw [waiting]; rintro _ _ ⟨⟩)
  · rename_i busy
    cases works
    exact futured.proceeds busy
  · rename_i closing
    cases works
    exact futured.idles (by rw [closing]; rintro _ _ ⟨⟩) (by rintro _ _ ⟨⟩) rfl rfl rfl rfl ⟨rfl,rfl,rfl,rfl⟩
  · rename_i draining
    have idle : ∀ phase own, state.worker ≠ .busy phase own := by rw [draining]; rintro _ _ ⟨⟩
    split at works
    · cases works
      exact futured.idles idle (by rintro _ _ ⟨⟩) rfl rfl rfl rfl ⟨rfl,rfl,rfl,rfl⟩
    · rename_i queue
      cases works
      exact futured.takes queue idle
  · rename_i aborting
    cases works
    unfold clear
    split
    all_goals exact futured.idles (by rw [aborting]; rintro _ _ ⟨⟩) (by rintro _ _ ⟨⟩) rfl rfl rfl rfl ⟨rfl,rfl,rfl,rfl⟩

theorem restarts (futured : Futured quiet state) (starts : state.start = some next) : Futured quiet next := by
  unfold start at starts
  split at starts
  · rename_i absent
    cases starts
    exact futured.idles (by rw [absent]; rintro _ _ ⟨⟩) (by rintro _ _ ⟨⟩) rfl rfl rfl rfl ⟨rfl,rfl,rfl,rfl⟩
  · rename_i exited
    cases starts
    exact futured.idles (by rw [exited]; rintro _ _ ⟨⟩) (by rintro _ _ ⟨⟩) rfl rfl rfl rfl ⟨rfl,rfl,rfl,rfl⟩
  · cases starts

end Futured

/-! ## Every run -/

theorem step_futured {quiet : Prop} {settings : CoordinatorSettings} {state next : ASRInferenceCoordinator}
    {action : CoordinatorAction} (kept : Kept settings state ∧ Futured quiet state) (calm : quiet → disturbs state action = false)
    (stepped : state.step settings action = some next) : Kept settings next ∧ Futured quiet next := by
  refine ⟨step_kept kept.1 stepped,?_⟩
  have futured := kept.2
  cases action with
  | start => exact futured.restarts stepped
  | stop =>
    cases stepped
    exact futured.stops settings
  | call caller request => exact futured.calls stepped
  | go caller =>
    cases enters : (state.callers caller).entering with
    | none => exact futured.goes enters stepped
    | some submission =>
      obtain ⟨sequence,stands⟩ := entering_submitting enters
      exact futured.submits kept.1.1 stands stepped
  | expire caller => exact futured.expires calm stepped
  | cancel caller => exact futured.cancels calm stepped
  | work input => exact futured.worked stepped

theorem initial_futured (quiet : Prop) : Futured quiet {} where
  numbered := fun _ queued => nomatch queued
  entering := fun _ _ _ stands => nomatch stands
  apart := fun _ _ _ _ _ stands => nomatch stands
  live := fun _ held => nomatch held
  distinct := List.nodup_nil
  untouched := fun _ _ => rfl
  resting := fun _ => by rintro ⟨⟩
  waiting := fun _ queued => nomatch queued
  inHand := fun _ _ busy => nomatch busy
  settled := fun _ queued => nomatch queued
  executed := fun _ ran => nomatch ran
  once := List.nodup_nil
  refused := fun _ told => nomatch told
  dropped := fun _ given => nomatch given
  knows := fun _ => trivial

theorem reached_futured {settings : CoordinatorSettings} {actions : List CoordinatorAction} {state : ASRInferenceCoordinator}
    (quiet : Prop) (calm : Machine.Along (ASRInferenceCoordinator.step settings) (fun state action => quiet → disturbs state action = false)
      {} actions) (reached : Reached settings actions state) : Kept settings state ∧ Futured quiet state :=
  Machine.invariant_along (ASRInferenceCoordinator.step settings) (fun state => Kept settings state ∧ Futured quiet state)
    (fun _ _ _ kept calm stepped => step_futured kept calm stepped) ⟨initial_kept settings,initial_futured quiet⟩ calm reached

/-- The future that a caller waits for. -/
def Caller.awaits (state : ASRInferenceCoordinator) : Caller → Option FutureState
  | .awaitingStart _ job | .awaitingStartAgain _ job => some (state.started job)
  | .awaitingResult _ job | .cleaning _ job => some (state.result job)
  | _ => none

/-- The worker has finalized. -/
def Worker.finalized : Worker → Prop
  | .exited | .fallen => True
  | _ => False

/-- Refused jobs are not executed, and none is executed twice; once the worker has finalized, the
    futures of each job are done, and so is what a caller waits for. -/
structure NoneOrphaned (state : ASRInferenceCoordinator) : Prop where
  unexecuted : ∀ job ∈ state.refused, job ∉ state.executed
  once : state.executed.Nodup
  settled : state.worker.finalized → ∀ job ∈ state.enqueued, (state.started job).done = true ∧ (state.result job).done = true
  heard : state.worker.finalized → ∀ caller future, (state.callers caller).awaits state = some future → future.done = true

theorem Futured.unexecuted {quiet : Prop} {state : ASRInferenceCoordinator} (futured : Futured quiet state) :
    ∀ job ∈ state.refused, job ∉ state.executed :=
  fun job told ran => (futured.refused job told).2 (futured.executed job ran)

/-- Nothing is live once the worker has finalized. -/
theorem finalized_settled {quiet : Prop} {settings : CoordinatorSettings} {state : ASRInferenceCoordinator}
    (kept : Kept settings state ∧ Futured quiet state) (past : state.worker.finalized) :
    ∀ job ∈ state.enqueued, Settled quiet state job := by
  intro job queued
  refine kept.2.settled job queued ?_
  have empty : state.jobs = [] := by
    refine kept.1.1.emptied ?_
    cases stands : state.worker with
    | exited | fallen => rfl
    | _ => rw [stands] at past; exact past.elim
  rw [liveJobs,empty]
  cases stands : state.worker with
  | busy => rw [stands] at past; exact past.elim
  | _ => exact fun member => nomatch member

/-- Whatever a caller waits for is done once the worker has finalized, in every run. -/
theorem finalized_heard {quiet : Prop} {settings : CoordinatorSettings} {state : ASRInferenceCoordinator}
    (kept : Kept settings state ∧ Futured quiet state) (past : state.worker.finalized) :
    ∀ caller future, (state.callers caller).awaits state = some future → future.done = true := by
  intro caller future awaits
  have knows := kept.2.knows caller
  have settled := finalized_settled kept past
  cases stands : state.callers caller with
  | awaitingStart submission job | awaitingStartAgain submission job =>
    rw [stands] at awaits knows
    cases awaits
    rcases settled job knows with ⟨_,given⟩ | ⟨done,_⟩
    · exact FutureState.given_done given
    · exact done
  | awaitingResult submission job =>
    rw [stands] at awaits knows
    cases awaits
    rcases settled job knows.1 with ⟨_,given⟩ | ⟨_,done⟩
    · rw [knows.2] at given
      cases given
    · exact done
  | cleaning own job =>
    rw [stands] at awaits knows
    cases awaits
    rcases settled job knows.1 with ⟨_,given⟩ | ⟨_,done⟩
    · rw [knows.2.2] at given
      cases given
    · exact done
  | _ => rw [stands] at awaits; cases awaits

/-- In every run, refused jobs are not executed and none is executed twice; whoever waits once the
    worker has finalized finds its future done, and a job whose `result` is not done has a submitter
    that is about to cancel it. -/
theorem given_up_or_settled {settings : CoordinatorSettings} {actions : List CoordinatorAction} {state : ASRInferenceCoordinator}
    (reached : Reached settings actions state) :
    (∀ job ∈ state.refused, job ∉ state.executed) ∧ state.executed.Nodup ∧ (state.worker.finalized →
      (∀ job ∈ state.enqueued, (state.started job).done = true ∧
        ((state.result job).done = true ∨ ∃ caller, (state.callers caller).GivesUp job)) ∧
      ∀ caller future, (state.callers caller).awaits state = some future → future.done = true) := by
  have kept := reached_futured False (Machine.Along.mono _ (fun _ _ _ => False.elim) (Machine.along_true _ _ _)) reached
  refine ⟨kept.2.unexecuted,kept.2.once,fun past => ⟨fun job queued => ?_,finalized_heard kept past⟩⟩
  rcases finalized_settled kept past job queued with ⟨_,given⟩ | ⟨first,second⟩
  · exact ⟨FutureState.given_done given,kept.2.dropped job given⟩
  · exact ⟨first,.inl second⟩

/-- In a run in which no submitter cancels a future that the worker is about to set. -/
theorem none_orphaned (settings : CoordinatorSettings) (actions : List CoordinatorAction) (state : ASRInferenceCoordinator)
    (calm : Machine.Along (ASRInferenceCoordinator.step settings) (fun state action => disturbs state action = false) {} actions)
    (reached : Reached settings actions state) : NoneOrphaned state := by
  have kept := reached_futured True (Machine.Along.mono _ (fun _ _ calm _ => calm) calm) reached
  refine ⟨kept.2.unexecuted,kept.2.once,fun past job queued => ?_,finalized_heard kept⟩
  rcases finalized_settled kept past job queued with ⟨disturbed,_⟩ | settled
  · exact absurd trivial disturbed
  · exact settled

/-- A stream is opened, and the coordinator stops. -/
def stopActions : List CoordinatorAction :=
  [.start,.work {},.call 0 (.createStream ['s']),.go 0] ++ List.replicate 13 (.work {}) ++ [.go 0,.go 0,.stop] ++
    List.replicate 11 (.work {})

theorem none_orphaned_stop : ∃ state, Reached exampleSettings stopActions state ∧ NoneOrphaned state ∧ state.worker = .exited := by
  have runs : ((Machine.run (ASRInferenceCoordinator.step exampleSettings) {} stopActions).filter
      fun state => decide (state.worker = .exited)).isSome = true := by decide +kernel
  have calm : Machine.check (ASRInferenceCoordinator.step exampleSettings) (fun state action => !disturbs state action) {}
      stopActions = true := by decide +kernel
  obtain ⟨state,found⟩ := Option.isSome_iff_exists.mp runs
  obtain ⟨reached,exited⟩ := Option.filter_eq_some_iff.mp found
  refine ⟨state,reached,none_orphaned _ stopActions _ ?_ reached,of_decide_eq_true exited⟩
  exact Machine.Along.mono _ (fun _ _ calm => by simpa using calm) (Machine.along_of_check _ calm)

/-- A coordinator that loads its model for the first job. -/
def lazySettings : CoordinatorSettings := { exampleSettings with eagerLoad := false }

/-- The warm-up for the first job fails, and its submitter's wait expires after the worker's check
    that `started` is not done: the worker falls out of its loop, and leaves `result` as it is. -/
def raceActions : List CoordinatorAction :=
  [.start,.work {},.call 0 (.createStream ['s']),.go 0,.work {},.work {},.work {},.work { call := .raised }] ++
    List.replicate 5 (.work {}) ++ [.expire 0] ++ List.replicate 4 (.work {})

theorem result_left_pending : ∃ state, Reached lazySettings raceActions state ∧ state.worker.finalized ∧
    0 ∈ state.enqueued ∧ state.result 0 = .pending ∧ ¬NoneOrphaned state := by
  have runs : ((Machine.run (ASRInferenceCoordinator.step lazySettings) {} raceActions).filter
      fun state => decide (state.worker = .exited ∧ 0 ∈ state.enqueued ∧ state.result 0 = .pending)).isSome = true := by
    decide +kernel
  obtain ⟨state,found⟩ := Option.isSome_iff_exists.mp runs
  obtain ⟨reached,facts⟩ := Option.filter_eq_some_iff.mp found
  obtain ⟨exited,queued,pending⟩ := of_decide_eq_true facts
  have past : state.worker.finalized := by rw [exited]; trivial
  refine ⟨state,reached,past,queued,pending,fun none => ?_⟩
  have done := (none.settled past 0 queued).2
  rw [pending] at done
  cases done

end SpeechGateway.Coordinator
