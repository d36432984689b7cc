import Mathlib.Algebra.Order.Field.Basic
import Mathlib.Algebra.Order.Field.Rat
import Mathlib.Data.Finset.Option
import Mathlib.Data.List.Sort
import Mathlib.Logic.Function.Basic
import SpeechGateway.Machine
import SpeechGateway.Rounding
import SpeechGateway.Values

/-!
`ASRInferenceCoordinator`: callers on an event loop submit jobs to one worker thread that owns
the model. A step is a block under the coordinator's lock, an operation on a future of a job,
or a call of the model. `Phase` says where the worker stands with a job, and `Caller` where a
coroutine stands; any of them may take the next step.
-/
namespace SpeechGateway.Coordinator

inductive CoordinatorError
  | notReady
  | queueFull
  | queueTimeout
  | inferenceTimeout
  | sessionLimit
  | sessionPoisoned
  | sessionBusy
  | fileTranscriptionDisabled
  | batchConflict
  deriving DecidableEq, Repr

/-- An `ASRCoordinatorError`, or an exception of the model. -/
inductive Fault
  | coordinator (error : CoordinatorError)
  | model
  deriving DecidableEq, Repr

/-- The states of a `concurrent.futures.Future`; `finished` holds the exception, if any. -/
inductive FutureState
  | pending
  | running
  | cancelled
  | cancelledAndNotified
  | finished (error : Option Fault)
  deriving DecidableEq, Repr

namespace FutureState

def done : FutureState → Bool
  | .pending | .running => false
  | .cancelled | .cancelledAndNotified | .finished _ => true

/-- `cancel`: whether the future is cancelled now. -/
def cancel : FutureState → Bool × FutureState
  | .pending | .cancelled => (true,.cancelled)
  | .cancelledAndNotified => (true,.cancelledAndNotified)
  | .running => (false,.running)
  | .finished error => (false,.finished error)

/-- `set_running_or_notify_cancel`; `none` where it raises. -/
def setRunningOrNotifyCancel : FutureState → Option Bool × FutureState
  | .pending => (some true,.running)
  | .cancelled => (some false,.cancelledAndNotified)
  | future => (none,future)

/-- `set_result` or `set_exception`; `none` where it raises `InvalidStateError`. -/
def settle (error : Option Fault) : FutureState → Option FutureState
  | .pending | .running => some (.finished error)
  | _ => none

end FutureState

inductive JobAction
  | createStream
  | createChunkedStream
  | addAudio
  | finishStream
  | finishSegment
  | abortStream
  | transcribeFile
  | transcribeStreamChunk
  | shutdown
  deriving DecidableEq, Repr

namespace JobAction

def priority : JobAction → Int
  | .transcribeFile => 10
  | .shutdown => -100
  | _ => 0

/-- `reserve_stream_capacity`. -/
def reservesStream : JobAction → Bool
  | .createStream | .createChunkedStream => true
  | _ => false

/-- `reserve_session_operation`. -/
def reservesOperation : JobAction → Bool
  | .addAudio | .finishStream | .finishSegment | .abortStream | .transcribeStreamChunk => true
  | _ => false

end JobAction

/-- `roundHalfEven` is a rounding to integers. -/
theorem roundHalfEven_rounds : Rounding.Rounds roundHalfEven := by
  refine ⟨@fun value other le => ?_,fun number => ?_⟩
  · have floors : value.floor ≤ other.floor := Rat.floor_monotone le
    have near : ∀ {number : Rat}, number.floor ≤ roundHalfEven number ∧ roundHalfEven number ≤ number.floor + 1 := by
      intro number
      unfold roundHalfEven
      dsimp only
      split <;> omega
    rcases lt_or_eq_of_le floors with less | same
    · exact near.2.trans ((Int.add_one_le_of_lt less).trans near.1)
    -- With one floor for both, the smaller number stays down where the larger one does.
    unfold roundHalfEven
    dsimp only
    rw [same]
    split
    · split <;> omega
    · rename_i up
      rw [if_neg]
      rintro (less | ⟨half,even⟩)
      · exact up (.inl (lt_of_le_of_lt (sub_le_sub_right le _) less))
      · rcases lt_or_eq_of_le (half ▸ sub_le_sub_right le _) with less | same
        · exact up (.inl less)
        · exact up (.inr ⟨same,even⟩)
  · simp [roundHalfEven]

/-- The double nearest to a duration. A duration that would overflow is above every limit, as here. -/
def double (seconds : Time) : Time := Rounding.binary64.round roundHalfEven seconds

/-- Durations of audio. -/
abbrev AudioSeconds := { seconds : Time // 0 ≤ seconds }

def noAudio : AudioSeconds := ⟨0,le_refl (0 : Time)⟩

/-- `_Job`; its futures and its event are kept by its number. -/
structure Job where
  sequence : Nat
  action : JobAction
  sessionId : Option SessionId
  audioSeconds : AudioSeconds
  holdsStreamReservation : Bool
  deriving DecidableEq, Repr

/-- `_Job` orders by priority and number. -/
def Job.before (first second : Job) : Bool :=
  decide (first.action.priority < second.action.priority ∨
    first.action.priority = second.action.priority ∧ first.sequence ≤ second.sequence)

/-- A job that is not the one of `stop`. -/
def Job.business (job : Job) : Bool := decide (job.action ≠ .shutdown)

inductive Outcome
  | returned
  | raised (fault : Fault)
  | cancelled
  deriving DecidableEq, Repr

/-- Who awaits `_submit`: a client, `transcribe_file`, `abort_stream`, or the `abort_stream` of
    `_cleanup_cancelled_started_job`. -/
inductive Purpose
  | client
  | file
  | abort (sessionId : SessionId)
  | cleanup (sessionId : SessionId)
  deriving DecidableEq, Repr

/-- The arguments of `_submit`. -/
structure Submission where
  action : JobAction
  sessionId : Option SessionId
  audioSeconds : AudioSeconds
  purpose : Purpose
  deriving DecidableEq, Repr

/-- Where a caller stands: before the lock of `transcribe_file`, of `transcribe_stream_chunk`, of
    `abort_stream` or of `_submit`, in one of the waits of `_submit`, after it has cancelled
    `started` and after it has set `cancelled`, in `_cleanup_cancelled_started_job`, before it
    poisons a session, and in the `finally` of `transcribe_file`. -/
inductive Caller
  | idle
  | announcing
  | checkingBatch (sessionId : SessionId) (audioSeconds : AudioSeconds)
  | aborting (sessionId : SessionId) (purpose : Purpose)
  | submitting (submission : Submission) (job : Nat)
  | awaitingStart (submission : Submission) (job : Nat)
  | awaitingStartAgain (submission : Submission) (job : Nat)
  | awaitingResult (submission : Submission) (job : Nat)
  | abandoning (submission : Submission) (job : Nat) (outcome : Outcome)
  | abandoned (submission : Submission) (job : Nat) (outcome : Outcome)
  | cleaning (sessionId : SessionId) (job : Nat)
  | cleaned (sessionId : SessionId)
  | poisoning (sessionId : SessionId) (outcome : Outcome)
  | leaving (outcome : Outcome)
  | done (outcome : Outcome)
  deriving DecidableEq, Repr

/-- What a caller does once `_submit` has ended. -/
def Submission.ended (submission : Submission) (outcome : Outcome) : Caller :=
  match submission.purpose with
  | .client => .done outcome
  | .file => .leaving outcome
  | .abort sessionId =>
    if outcome = .raised (.coordinator .sessionBusy) then .poisoning sessionId .returned else .done outcome
  | .cleanup sessionId =>
    match outcome with
    | .raised (.coordinator _) => .poisoning sessionId .cancelled
    | .raised .model => .done (.raised .model)
    | .returned | .cancelled => .done .cancelled

/-- The job of a submission. -/
def Submission.job (submission : Submission) (sequence : Nat) : Job where
  sequence := sequence
  action := submission.action
  sessionId := submission.sessionId
  audioSeconds := submission.audioSeconds
  holdsStreamReservation := submission.action.reservesStream

/-- What the caller of `abort_stream` does when there is nothing to submit. -/
def Purpose.unsubmitted : Purpose → Caller
  | .cleanup _ => .done .cancelled
  | _ => .done .returned

/-! ## The worker -/

/-- How the worker leaves the `try` of its loop: the job was skipped, has succeeded, or has failed,
    `stop` asked for the end, or an exception ends the worker. `drained` jobs are those of
    `_cancel_queued_jobs`. -/
inductive Exit
  | skipped
  | succeeded
  | failed (fault : Fault)
  | stopped
  | died
  | drained
  deriving DecidableEq, Repr

/-- Where the worker stands with a job: before the block that releases its slot, its check for
    expiry, the steps that reject it, the warm-up, its claim, its execution, the poison check and
    the clean-up, the three blocks that release what it holds, and the check and the setting of
    each of its futures. -/
inductive Phase
  | taken (draining : Bool)
  | checking (second : Bool)
  | rejecting (error : CoordinatorError) (draining : Bool)
  | rejected (error : CoordinatorError) (draining : Bool)
  | dropping (draining : Bool)
  | warming
  | claiming
  | claimed
  | executing
  | transcribing
  | cleaning (exit : Exit)
  | purging (exit : Exit)
  | releasingAudio (exit : Exit)
  | releasingSession (exit : Exit)
  | releasingStream (exit : Exit)
  | settlingStarted (exit : Exit)
  | settingStarted (exit : Exit)
  | settlingResult (exit : Exit)
  | settingResult (exit : Exit)
  deriving DecidableEq, Repr

/-- The worker thread: it loads the model, waits for jobs or has one, and at its end closes
    admission, drains the queue and aborts its sessions. A finalizer whose abort raises a
    `BaseException` falls. -/
inductive Worker
  | absent
  | loading
  | waiting
  | busy (phase : Phase) (job : Job)
  | closing
  | draining
  | aborting
  | exited
  | fallen
  deriving DecidableEq, Repr

/-- The thread is alive. -/
def Worker.alive : Worker → Bool
  | .absent | .exited | .fallen => false
  | _ => true

/-- What a call of the model does: it returns, or raises an `Exception` or a `BaseException`. -/
inductive Call
  | returned
  | raised
  | died
  deriving DecidableEq, Repr

/-- What a step of the worker reads: whether the queue deadline has passed, what a call of the
    model does, and whether the transcriber was made before the warm-up raised. -/
structure WorkInput where
  late : Bool := false
  call : Call := .returned
  made : Bool := true
  deriving DecidableEq, Repr

/-- What the worker does with its futures after it has released what it held. -/
def Exit.released (exit : Exit) (job : Job) : Worker :=
  match exit with
  | .skipped => .waiting
  | .drained => .draining
  | .succeeded | .stopped => .busy (.settlingResult exit) job
  | .failed _ | .died => .busy (.settlingStarted exit) job

/-- Where the worker goes after a job. -/
def Exit.finished : Exit → Worker
  | .died | .stopped => .closing
  | .drained => .draining
  | .skipped | .succeeded | .failed _ => .waiting

/-- The exception that `started` gets from a job that failed before its claim. -/
def Exit.startedFault : Exit → Option Fault
  | .died => some (.coordinator .notReady)
  | _ => none

/-- The exception that `result` gets. -/
def Exit.resultFault : Exit → Option Fault
  | .died => some (.coordinator .notReady)
  | .failed fault => some fault
  | _ => none

/-- How a job ends by what a call of the model does. -/
def Call.exit : Call → Exit
  | .returned => .succeeded
  | .raised => .failed .model
  | .died => .died

structure CoordinatorSettings where
  inferenceQueueSize : Nat
  maxActiveStreams : Nat
  maxQueuedAudioSeconds : Time
  fileTranscribeEnabled : Bool
  eagerLoad : Bool
  maxQueuedAudioPositive : 0 < maxQueuedAudioSeconds

/-- The coordinator, its queue in order, the futures of its jobs, the worker with the keys of its
    table `sessions`, and the callers. The rest is read by no code: the session ids given out and
    those ever reserved, the jobs that were queued, those passed to `_execute_job`, those whose
    submitter was told `ASRQueueTimeout` or was cancelled before the start, and the sessions of
    callers that got `ASRInferenceTimeout`. -/
structure ASRInferenceCoordinator where
  accepting : Bool := false
  workerLoopActive : Bool := false
  shutdownRequested : Bool := false
  loadError : Bool := false
  queuedAudioSeconds : Time := 0
  queuedBusinessJobs : Nat := 0
  activeSessions : Finset SessionId := ∅
  streamReservations : Finset SessionId := ∅
  poisonedSessions : Finset SessionId := ∅
  busySessions : Finset SessionId := ∅
  batchPending : Bool := false
  batchRunning : Bool := false
  jobs : List Job := []
  nextSequence : Nat := 0
  started : Nat → FutureState := fun _ => .pending
  result : Nat → FutureState := fun _ => .pending
  cancelled : Nat → Bool := fun _ => false
  worker : Worker := .absent
  sessions : Finset SessionId := ∅
  hasTranscriber : Bool := false
  warmed : Bool := false
  callers : Nat → Caller := fun _ => .idle
  usedIds : Finset SessionId := ∅
  openedIds : Finset SessionId := ∅
  enqueued : List Nat := []
  executed : List Nat := []
  refused : List Nat := []
  timedOut : Finset SessionId := ∅

namespace ASRInferenceCoordinator
variable (settings : CoordinatorSettings) (state : ASRInferenceCoordinator)

/-! ## Admission -/

/-- `_require_accepting_locked`. -/
def requireAccepting : Option CoordinatorError :=
  if state.accepting && !state.loadError then none else some .notReady

/-- `_require_session_admissible_locked`. -/
def requireSessionAdmissible (sessionId : Option SessionId) : Option CoordinatorError :=
  match state.requireAccepting with
  | some error => some error
  | none =>
    match sessionId with
    | none => some .sessionPoisoned
    | some sessionId =>
      if sessionId ∈ state.poisonedSessions ∨ sessionId ∉ state.activeSessions then some .sessionPoisoned else none

/-- The reservations that `_submit` makes for a job. -/
def reserve (job : Job) : Except CoordinatorError ASRInferenceCoordinator :=
  if job.action.reservesStream then
    if state.batchPending || state.batchRunning then .error .batchConflict else
    if settings.maxActiveStreams ≤ state.streamReservations.card then .error .sessionLimit else
    .ok { state with
      streamReservations := state.streamReservations ∪ job.sessionId.toFinset
      openedIds := state.openedIds ∪ job.sessionId.toFinset }
  else if job.action.reservesOperation then
    match state.requireSessionAdmissible job.sessionId with
    | some error => .error error
    | none =>
      if job.sessionId.any (· ∈ state.busySessions) then .error .sessionBusy else
      .ok { state with busySessions := state.busySessions ∪ job.sessionId.toFinset }
  else .ok state

/-- `_release_stream_reservation_locked`, on the sets. -/
def releaseStreamReservation (job : Job) : ASRInferenceCoordinator :=
  if job.holdsStreamReservation then
    { state with streamReservations := state.streamReservations \ job.sessionId.toFinset }
  else state

/-- What `_submit` gives back when the queue takes no more. -/
def giveBack (job : Job) : ASRInferenceCoordinator :=
  { state with busySessions := state.busySessions \ job.sessionId.toFinset }.releaseStreamReservation job

/-- `put_nowait`; one slot more than for business jobs is there for the shutdown. -/
def put (job : Job) : Option ASRInferenceCoordinator :=
  if state.jobs.length < settings.inferenceQueueSize + 1 then
    some { state with
      jobs := state.jobs.orderedInsert (fun first second => first.before second) job
      enqueued := job.sequence :: state.enqueued }
  else none

/-- `_release_audio_reservation`, on the counter. -/
def withoutAudio (seconds : AudioSeconds) : Time :=
  if seconds.1 = 0 then state.queuedAudioSeconds else max 0 (double (state.queuedAudioSeconds - seconds.1))

/-- The lock block of `_submit`: the exception, if any. -/
def submit (job : Job) : Option CoordinatorError × ASRInferenceCoordinator :=
  match state.requireAccepting with
  | some error => (some error,state)
  | none =>
    match state.reserve settings job with
    | .error error => (some error,state)
    | .ok reserved =>
      if settings.maxQueuedAudioSeconds < double (reserved.queuedAudioSeconds + job.audioSeconds.1) then
        (some .queueFull,reserved.giveBack job) else
      if settings.inferenceQueueSize ≤ reserved.queuedBusinessJobs then (some .queueFull,reserved.giveBack job) else
      let counted := { reserved with
        queuedAudioSeconds := double (reserved.queuedAudioSeconds + job.audioSeconds.1)
        queuedBusinessJobs := reserved.queuedBusinessJobs + 1 }
      match counted.put settings job with
      | some queued => (none,queued)
      | none => (some .queueFull,{ counted with
          queuedAudioSeconds := max 0 (double (counted.queuedAudioSeconds - job.audioSeconds.1))
          queuedBusinessJobs := counted.queuedBusinessJobs - 1 }.giveBack job)

def start : Option ASRInferenceCoordinator :=
  match state.worker with
  | .absent | .exited => some { state with
      accepting := true
      workerLoopActive := true
      shutdownRequested := false
      loadError := false
      worker := .loading
      sessions := ∅
      hasTranscriber := false
      warmed := false }
  | _ => none

/-- The job that `stop` makes. -/
def shutdownJob : Job where
  sequence := state.nextSequence
  action := .shutdown
  sessionId := none
  audioSeconds := noAudio
  holdsStreamReservation := false

/-- The lock block of `stop`; a full queue makes it raise. -/
def stop : ASRInferenceCoordinator :=
  let closed := { state with accepting := false }
  if state.worker.alive && state.workerLoopActive && !state.shutdownRequested then
    match { closed with nextSequence := state.nextSequence + 1 }.put settings state.shutdownJob with
    | some queued => { queued with shutdownRequested := true }
    | none => { closed with nextSequence := state.nextSequence + 1 }
  else closed

def withCaller (caller : Nat) (stage : Caller) : ASRInferenceCoordinator :=
  { state with callers := Function.update state.callers caller stage }

/-- `_new_job`, the first thing in `_submit`: the job gets its number. -/
def enter (caller : Nat) (submission : Submission) : ASRInferenceCoordinator :=
  { state with nextSequence := state.nextSequence + 1 }.withCaller caller (.submitting submission state.nextSequence)

/-- Adds a session to the poisoned ones. -/
def poison (sessionId : Option SessionId) : ASRInferenceCoordinator :=
  { state with poisonedSessions := state.poisonedSessions ∪ sessionId.toFinset }

/-- A submitter has cancelled `started`: it will never be told a result. -/
def abandon (caller : Nat) (submission : Submission) (job : Nat) (future : FutureState) (outcome : Outcome) :
    ASRInferenceCoordinator :=
  { state with
    started := Function.update state.started job future
    refused := job :: state.refused }.withCaller caller (.abandoning submission job outcome)

/-- The `except asyncio.CancelledError` of `_submit`. -/
def interrupt (caller : Nat) (submission : Submission) (job : Nat) : ASRInferenceCoordinator :=
  match (state.started job).cancel with
  | (true,future) => state.abandon caller submission job future .cancelled
  | (false,_) =>
    match submission.sessionId with
    | some sessionId => (state.poison submission.sessionId).withCaller caller (.cleaning sessionId job)
    | none => state.withCaller caller (submission.ended .cancelled)

/-- The `_submit` of `transcribe_file`. -/
def fileSubmission : Submission := ⟨.transcribeFile,none,noAudio,.file⟩

/-- The lock block of `transcribe_file`. -/
def announceFile (caller : Nat) : ASRInferenceCoordinator :=
  match state.requireAccepting with
  | some error => state.withCaller caller (.done (.raised (.coordinator error)))
  | none =>
    if !settings.fileTranscribeEnabled then
      state.withCaller caller (.done (.raised (.coordinator .fileTranscriptionDisabled))) else
    if state.streamReservations ≠ ∅ ∨ state.batchPending ∨ state.batchRunning then
      state.withCaller caller (.done (.raised (.coordinator .batchConflict)))
    else { state with batchPending := true }.enter caller fileSubmission

/-- The first lock block of `abort_stream`. -/
def abortStream (caller : Nat) (sessionId : SessionId) (purpose : Purpose) : ASRInferenceCoordinator :=
  if sessionId ∉ state.activeSessions ∨ !state.accepting then state.withCaller caller purpose.unsubmitted else
  if sessionId ∈ state.busySessions then (state.poison (some sessionId)).withCaller caller purpose.unsubmitted
  else state.enter caller ⟨.abortStream,some sessionId,noAudio,purpose⟩

/-- `started` is done, or the wait for it goes on. -/
def awaitStart (caller : Nat) (submission : Submission) (job : Nat) : Option ASRInferenceCoordinator :=
  match state.started job with
  | .pending | .running => none
  | .finished none => some (state.withCaller caller (.awaitingResult submission job))
  | .finished (some fault) =>
    let told := if fault = .coordinator .queueTimeout then { state with refused := job :: state.refused } else state
    some (told.withCaller caller (submission.ended (.raised fault)))
  | .cancelled | .cancelledAndNotified => some (state.interrupt caller submission job)

/-- `result` is done, or the wait for it goes on. -/
def awaitResult (caller : Nat) (submission : Submission) (job : Nat) : Option ASRInferenceCoordinator :=
  match state.result job with
  | .pending | .running => none
  | .finished none => some (state.withCaller caller (submission.ended .returned))
  | .finished (some fault) => some (state.withCaller caller (submission.ended (.raised fault)))
  | .cancelled | .cancelledAndNotified => some (state.interrupt caller submission job)

/-- The caller's next step. -/
def go (caller : Nat) : Option ASRInferenceCoordinator :=
  match state.callers caller with
  | .idle | .done _ => none
  | .announcing => some (state.announceFile settings caller)
  | .checkingBatch sessionId audioSeconds =>
    if state.batchPending || state.batchRunning then
      some (state.withCaller caller (.done (.raised (.coordinator .batchConflict))))
    else some (state.enter caller ⟨.transcribeStreamChunk,some sessionId,audioSeconds,.client⟩)
  | .aborting sessionId purpose => some (state.abortStream caller sessionId purpose)
  | .submitting submission job =>
    match state.submit settings (submission.job job) with
    | (some error,next) => some (next.withCaller caller (submission.ended (.raised (.coordinator error))))
    | (none,next) => some (next.withCaller caller (.awaitingStart submission job))
  | .awaitingStart submission job | .awaitingStartAgain submission job => state.awaitStart caller submission job
  | .awaitingResult submission job => state.awaitResult caller submission job
  | .abandoning submission job outcome =>
    some ({ state with cancelled := Function.update state.cancelled job true }.withCaller caller
      (.abandoned submission job outcome))
  | .abandoned submission job outcome =>
    some ({ state with result := Function.update state.result job (state.result job).cancel.2 }.withCaller caller
      (submission.ended outcome))
  | .cleaning sessionId job =>
    match state.result job with
    | .pending | .running => none
    | .finished _ => some (state.withCaller caller (.cleaned sessionId))
    | .cancelled | .cancelledAndNotified => some (state.withCaller caller (.done .cancelled))
  | .cleaned sessionId =>
    if sessionId ∉ state.activeSessions then some (state.withCaller caller (.done .cancelled)) else
    some ({ state with poisonedSessions := state.poisonedSessions.erase sessionId }.withCaller caller
      (.aborting sessionId (.cleanup sessionId)))
  | .poisoning sessionId outcome => some ((state.poison (some sessionId)).withCaller caller (.done outcome))
  | .leaving outcome => some ({ state with batchPending := false }.withCaller caller (.done outcome))

/-- A `wait_for` of the caller expires. -/
def expire (caller : Nat) : Option ASRInferenceCoordinator :=
  match state.callers caller with
  | .awaitingStart submission job =>
    match (state.started job).cancel with
    | (true,future) => some (state.abandon caller submission job future (.raised (.coordinator .queueTimeout)))
    | (false,_) => some (state.withCaller caller (.awaitingStartAgain submission job))
  | .awaitingResult submission _ =>
    some ({ state.poison submission.sessionId with
      timedOut := state.timedOut ∪ submission.sessionId.toFinset }.withCaller caller
        (submission.ended (.raised (.coordinator .inferenceTimeout))))
  | .cleaning sessionId _ => some (state.withCaller caller (.cleaned sessionId))
  | _ => none

/-- The caller is cancelled at an `await`. -/
def cancel (caller : Nat) : Option ASRInferenceCoordinator :=
  match state.callers caller with
  | .awaitingStart submission job | .awaitingStartAgain submission job | .awaitingResult submission job =>
    some (state.interrupt caller submission job)
  | .cleaning _ _ => some (state.withCaller caller (.done .cancelled))
  | _ => none

end ASRInferenceCoordinator

/-- The calls of a client. A created stream has a session id of its own (`uuid4`), and the audio
    of a chunk its duration. -/
inductive Request
  | createStream (sessionId : SessionId)
  | createChunkedStream (sessionId : SessionId)
  | addAudio (sessionId : SessionId) (pcm : Pcm) (sampleRate : Int)
  | finishStream (sessionId : SessionId)
  | finishSegment (sessionId : SessionId)
  | abortStream (sessionId : SessionId)
  | transcribeFile
  | transcribeStreamChunk (sessionId : SessionId) (audioSeconds : AudioSeconds)
  deriving DecidableEq, Repr

/-- A rounding of durations to doubles keeps them above zero. -/
theorem double_nonneg {seconds : Time} (nonneg : 0 ≤ seconds) : 0 ≤ double seconds :=
  Rounding.Format.round_nonneg roundHalfEven_rounds nonneg

/-- The duration of complete samples, a quotient of two integers; no rate, no duration. -/
def pcmSeconds (pcm : Pcm) (sampleRate : Int) : AudioSeconds :=
  if positive : 0 < sampleRate then
    ⟨double ((sampleCount pcm : Time) / (sampleRate : Time)),
      double_nonneg (div_nonneg (Nat.cast_nonneg _) (Int.cast_nonneg (le_of_lt positive)))⟩
  else noAudio

namespace ASRInferenceCoordinator
variable (settings : CoordinatorSettings) (state : ASRInferenceCoordinator)

/-- A caller makes its call. -/
def call (caller : Nat) (request : Request) : Option ASRInferenceCoordinator :=
  if state.callers caller ≠ .idle then none else
  let operate (action : JobAction) (sessionId : SessionId) (audioSeconds : AudioSeconds) : Option ASRInferenceCoordinator :=
    some (state.enter caller ⟨action,some sessionId,audioSeconds,.client⟩)
  let create (action : JobAction) (sessionId : SessionId) : Option ASRInferenceCoordinator :=
    if sessionId ∈ state.usedIds then none else
    some ({ state with usedIds := insert sessionId state.usedIds }.enter caller ⟨action,some sessionId,noAudio,.client⟩)
  match request with
  | .createStream sessionId => create .createStream sessionId
  | .createChunkedStream sessionId => create .createChunkedStream sessionId
  | .addAudio sessionId pcm sampleRate => operate .addAudio sessionId (pcmSeconds pcm sampleRate)
  | .finishStream sessionId => operate .finishStream sessionId noAudio
  | .finishSegment sessionId => operate .finishSegment sessionId noAudio
  | .abortStream sessionId => some (state.withCaller caller (.aborting sessionId (.abort sessionId)))
  | .transcribeFile => some (state.withCaller caller .announcing)
  | .transcribeStreamChunk sessionId audioSeconds =>
    some (state.withCaller caller (.checkingBatch sessionId audioSeconds))

def withWorker (worker : Worker) : ASRInferenceCoordinator := { state with worker := worker }

def setStarted (job : Job) (future : FutureState) : ASRInferenceCoordinator :=
  { state with started := Function.update state.started job.sequence future }

def setResult (job : Job) (future : FutureState) : ASRInferenceCoordinator :=
  { state with result := Function.update state.result job.sequence future }

/-- The factory and the eager warm-up. -/
def load (input : WorkInput) : ASRInferenceCoordinator :=
  match input.call with
  | .returned => { state with hasTranscriber := true, warmed := settings.eagerLoad, worker := .waiting }
  | .raised => { state with
      hasTranscriber := settings.eagerLoad && input.made
      accepting := false
      loadError := true
      worker := .waiting }
  | .died => state.withWorker .closing

/-- `_release_queue_slot`, and what follows it: `shutdown` ends the loop, `_cancel_queued_jobs`
    rejects the job, and any other job is checked for expiry. -/
def releaseQueueSlot (job : Job) (draining : Bool) : ASRInferenceCoordinator :=
  let released := { state with
    queuedBusinessJobs := if job.business then state.queuedBusinessJobs - 1 else state.queuedBusinessJobs }
  if draining then
    { released with cancelled := Function.update state.cancelled job.sequence true }.withWorker
      (.busy (.rejecting .notReady true) job)
  else if job.action = .shutdown then
    match (state.started job.sequence).settle none with
    | some future => (released.setStarted job future).withWorker (.busy (.cleaning .stopped) job)
    | none => released.withWorker (.busy (.cleaning (.failed .model)) job)
  else released.withWorker (.busy (.checking false) job)

/-- `_job_expired_before_start`, and the warm-up between the two checks. -/
def check (input : WorkInput) (job : Job) (second : Bool) : ASRInferenceCoordinator :=
  if state.accepting && !state.cancelled job.sequence && !input.late then
    if second then state.withWorker (.busy .claiming job) else
    if state.warmed then state.withWorker (.busy (.checking true) job) else
    if state.hasTranscriber then state.withWorker (.busy .warming job)
    else state.withWorker (.busy (.cleaning (.failed (.coordinator .notReady))) job)
  else state.withWorker (.busy (.rejecting (if state.accepting then .queueTimeout else .notReady) false) job)

/-- The lazy warm-up. -/
def warm (input : WorkInput) (job : Job) : ASRInferenceCoordinator :=
  match input.call with
  | .returned => { state with warmed := true, loadError := false }.withWorker (.busy (.checking true) job)
  | .raised =>
    { state with accepting := false, loadError := true }.withWorker (.busy (.cleaning (.failed .model)) job)
  | .died => state.withWorker (.busy (.cleaning .died) job)

/-- `_execute_job`, up to the flag of a file job. A call for a session that is not in the table
    raises `KeyError`. -/
def execute (input : WorkInput) (job : Job) : ASRInferenceCoordinator :=
  let exit := input.call.exit
  let known := job.sessionId.toFinset ⊆ state.sessions
  let without := { state with
    sessions := state.sessions \ job.sessionId.toFinset
    activeSessions := state.activeSessions \ job.sessionId.toFinset
    streamReservations := state.streamReservations \ job.sessionId.toFinset }
  let opened := { state with
    sessions := state.sessions ∪ job.sessionId.toFinset
    activeSessions := state.activeSessions ∪ job.sessionId.toFinset }
  match job.action with
  | .createStream =>
    if exit = .succeeded then opened.withWorker (.busy (.cleaning exit) { job with holdsStreamReservation := false })
    else state.withWorker (.busy (.cleaning exit) job)
  | .createChunkedStream =>
    opened.withWorker (.busy (.cleaning .succeeded) { job with holdsStreamReservation := false })
  | .addAudio | .finishSegment =>
    state.withWorker (.busy (.cleaning (if known then exit else .failed .model)) job)
  | .finishStream =>
    if known then without.withWorker (.busy (.cleaning exit) job)
    else state.withWorker (.busy (.cleaning (.failed .model)) job)
  | .abortStream => without.withWorker (.busy (.cleaning (if known then exit else .succeeded)) job)
  | .transcribeFile => { state with batchRunning := true }.withWorker (.busy .transcribing job)
  | .transcribeStreamChunk => state.withWorker (.busy (.cleaning exit) job)
  | .shutdown => state.withWorker (.busy (.cleaning (.failed .model)) job)

/-- The end of `_cleanup_poisoned_session`. -/
def purge (input : WorkInput) (job : Job) (exit : Exit) : ASRInferenceCoordinator :=
  let dies := decide (input.call = .died) && decide (job.sessionId.toFinset ⊆ state.sessions)
  { state with
    sessions := state.sessions \ job.sessionId.toFinset
    poisonedSessions := state.poisonedSessions \ job.sessionId.toFinset
    busySessions := state.busySessions \ job.sessionId.toFinset
    activeSessions := state.activeSessions \ job.sessionId.toFinset
    streamReservations := state.streamReservations \ job.sessionId.toFinset }.withWorker
      (.busy (.releasingAudio (if dies then .died else exit)) job)

/-- The worker's next step with a job. A future that was settled in the meantime ends the loop. -/
def proceed (input : WorkInput) (job : Job) : Phase → ASRInferenceCoordinator
  | .taken draining => state.releaseQueueSlot job draining
  | .checking second => state.check input job second
  | .rejecting error draining =>
    let (claimed,future) := (state.started job.sequence).setRunningOrNotifyCancel
    (state.setStarted job future).withWorker
      (.busy (if claimed = some true then .rejected error draining else .dropping draining) job)
  | .rejected error draining =>
    let future := (state.started job.sequence).settle (some (.coordinator error))
    (state.setStarted job (future.getD (state.started job.sequence))).withWorker (.busy (.dropping draining) job)
  | .dropping draining =>
    (state.setResult job (state.result job.sequence).cancel.2).withWorker
      (.busy (if draining then .releasingAudio .drained else .cleaning .skipped) job)
  | .warming => state.warm input job
  | .claiming =>
    let (claimed,future) := (state.started job.sequence).setRunningOrNotifyCancel
    (state.setStarted job future).withWorker (.busy (if claimed = some true then .claimed else .dropping false) job)
  | .claimed =>
    let future := (state.started job.sequence).settle none
    { state.setStarted job (future.getD (state.started job.sequence)) with
      executed := job.sequence :: state.executed }.withWorker (.busy .executing job)
  | .executing => state.execute input job
  | .transcribing =>
    { state with batchRunning := false }.withWorker (.busy (.cleaning input.call.exit) job)
  | .cleaning exit =>
    state.withWorker (.busy (if job.sessionId.any (· ∈ state.poisonedSessions) then .purging exit
      else .releasingAudio exit) job)
  | .purging exit => state.purge input job exit
  | .releasingAudio exit =>
    { state with queuedAudioSeconds := state.withoutAudio job.audioSeconds }.withWorker (.busy (.releasingSession exit) job)
  | .releasingSession exit =>
    { state with
      busySessions := if job.action.reservesOperation then state.busySessions \ job.sessionId.toFinset
        else state.busySessions }.withWorker (.busy (.releasingStream exit) job)
  | .releasingStream exit =>
    (state.releaseStreamReservation job).withWorker (exit.released { job with holdsStreamReservation := false })
  | .settlingStarted exit =>
    state.withWorker (.busy (if (state.started job.sequence).done then .settlingResult exit else .settingStarted exit) job)
  | .settingStarted exit =>
    match (state.started job.sequence).settle exit.startedFault with
    | some future => (state.setStarted job future).withWorker (.busy (.settlingResult exit) job)
    | none => state.withWorker .closing
  | .settlingResult exit =>
    state.withWorker (if (state.result job.sequence).done then exit.finished else .busy (.settingResult exit) job)
  | .settingResult exit =>
    match (state.result job.sequence).settle exit.resultFault with
    | some future => (state.setResult job future).withWorker exit.finished
    | none => state.withWorker .closing

/-- The end of `_finalize_worker`. -/
def clear (input : WorkInput) : ASRInferenceCoordinator :=
  if input.call = .died ∧ state.sessions ≠ ∅ then state.withWorker .fallen else
  { state with
    sessions := ∅
    activeSessions := ∅
    streamReservations := ∅
    poisonedSessions := ∅
    busySessions := ∅
    batchPending := false
    batchRunning := false
    queuedAudioSeconds := 0
    queuedBusinessJobs := 0
    shutdownRequested := false
    worker := .exited }

/-- The worker's next step. -/
def work (input : WorkInput) : Option ASRInferenceCoordinator :=
  match state.worker with
  | .absent | .exited | .fallen => none
  | .loading => some (state.load settings input)
  | .waiting =>
    match state.jobs with
    | [] => none
    | job :: rest => some { state with jobs := rest, worker := .busy (.taken false) job }
  | .busy phase job => some (state.proceed input job phase)
  | .closing => some { state with accepting := false, workerLoopActive := false, worker := .draining }
  | .draining =>
    match state.jobs with
    | [] => some (state.withWorker .aborting)
    | job :: rest => some { state with jobs := rest, worker := .busy (.taken true) job }
  | .aborting => some (state.clear input)

end ASRInferenceCoordinator

/-- What happens to a coordinator. -/
inductive CoordinatorAction
  | start
  | stop
  | call (caller : Nat) (request : Request)
  | go (caller : Nat)
  | expire (caller : Nat)
  | cancel (caller : Nat)
  | work (input : WorkInput)
  deriving DecidableEq, Repr

namespace ASRInferenceCoordinator

def step (settings : CoordinatorSettings) (state : ASRInferenceCoordinator) :
    CoordinatorAction → Option ASRInferenceCoordinator
  | .start => state.start
  | .stop => some (state.stop settings)
  | .call caller request => state.call caller request
  | .go caller => state.go settings caller
  | .expire caller => state.expire caller
  | .cancel caller => state.cancel caller
  | .work input => state.work settings input

end ASRInferenceCoordinator

/-- The states that a run of the coordinator reaches. -/
def Reached (settings : CoordinatorSettings) (actions : List CoordinatorAction) (state : ASRInferenceCoordinator) : Prop :=
  Machine.run (ASRInferenceCoordinator.step settings) {} actions = some state

end SpeechGateway.Coordinator
