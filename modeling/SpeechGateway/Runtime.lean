import SpeechGateway.Programs
import SpeechGateway.Protocol
import SpeechGateway.Scheduling
import SpeechGateway.Sessions
import SpeechGateway.Vad

/-!
What a `GatewayRuntime` keeps for one session, what its coroutines share, and the methods
that several of them call. A coroutine is cut where it may be suspended: `Handler`,
`Publication` and `AbortTask` say where it stands, and the code between two suspensions is
a program over the view that it has of the runtime.
-/
namespace SpeechGateway.Gateway
open SpeechGateway.Streaming SpeechGateway.Backends SpeechGateway.Protocol SpeechGateway.Vad SpeechGateway.Chunking
  SpeechGateway.Sessions SpeechGateway.Scheduling Programs

/-- `OutboundEvent`. -/
structure OutboundEvent where
  payload : Option WireEvent
  jobId : Option Text := none
  completesTimeline : Bool := false
  terminal : Bool := false
  closeCode : Option Nat := none
  deriving DecidableEq, Repr

/-- The arguments of a call of `ingest`: a frame of a client, or the empty one of `segment`
    and `finish`. -/
inductive Ingest
  | frame (pcm : Pcm) (force : Bool)
  | segment
  | finish
  deriving DecidableEq, Repr

def Ingest.pcm : Ingest → Pcm
  | .frame pcm _ => pcm
  | .segment | .finish => []

def Ingest.force : Ingest → Bool
  | .frame _ force => force
  | .segment | .finish => true

/-- Where the handler of a client connection stands. `woken` says that `idle` was set since
    the handler began to wait for it. -/
inductive Handler
  | starting
  | ready
  | ingestLock (call : Ingest)
  | ingestAccept (pcm : Pcm) (force : Bool)
  | ingestAppend (pcm : Pcm) (force : Bool) (decision : Option VADDecision)
  | segmentIdle (woken : Bool)
  | segmentLock
  | segmentAdapter
  | finishIdle (woken : Bool)
  | finishLock
  | finishAdapter
  | raised
  | errorSafe (exc : PyError) (code : String) (closeCode : Nat) (event : Nat)
  | errorLock (exc : PyError) (code : String) (closeCode : Nat)
  | errorAdapter (exc : PyError) (code : String) (closeCode : Nat)
  | abortSafe (event : Nat)
  | abortAdapter
  | closed
  deriving DecidableEq, Repr

/-- The handler is suspended inside `async with ctx.protocol_lock`. -/
def Handler.holdsLock : Handler → Bool
  | .ingestAccept .. | .ingestAppend .. | .segmentAdapter | .finishAdapter | .errorAdapter .. => true
  | _ => false

/-- A waiting handler is woken when `idle` is set. -/
def Handler.wake : Handler → Handler
  | .segmentIdle _ => .segmentIdle true
  | .finishIdle _ => .finishIdle true
  | handler => handler

/-- What `_apply_result` restores when applying a result raises. -/
structure Saved where
  protocol : ProtocolSession
  metadata : Option Metadata
  deriving DecidableEq, Repr

/-- Where `_publish_result` stands with a result of the session. -/
inductive Publication
  | waiting
  | failAdapter (exc : PyError) (code : String) (saved : Saved)
  | segmentAdapter (events : List WireEvent) (deferred : Bool) (saved : Saved)
  | conflictLock (exc : PyError)
  | conflictAdapter (exc : PyError)
  deriving DecidableEq, Repr

/-- The publication is suspended inside `async with ctx.protocol_lock`. -/
def Publication.holdsLock : Publication → Bool
  | .failAdapter .. | .segmentAdapter .. | .conflictAdapter _ => true
  | .waiting | .conflictLock _ => false

/-- Where a call of `abort` stands. -/
inductive AbortTask
  | safe (event : Nat)
  | adapter
  deriving DecidableEq, Repr

/-- A detector of speech endpoints, as the gateway calls it. A sample that it hears is released,
    discarded or held back, and it releases whole samples; no code reads `held`. -/
structure Detector (V : Type) where
  initial : V
  addAudio : V → Pcm → Except PyError (VADDecision × V)
  endpointFinalized : V → VADDecision × V
  finishInput : V → VADDecision × V
  reset : V → V
  held : V → Nat
  initial_held : held initial = 0
  addAudio_conserves {vad next : V} {pcm : Pcm} {decision : VADDecision}
    (heard : addAudio vad pcm = .ok (decision,next)) : decision.samples + held next = held vad + sampleCount pcm
  endpointFinalized_conserves (vad : V) :
    (endpointFinalized vad).1.samples + held (endpointFinalized vad).2 = held vad
  finishInput_conserves (vad : V) : (finishInput vad).1.samples = held vad
  finishInput_held (vad : V) : held (finishInput vad).2 = 0
  addAudio_whole {vad next : V} {pcm : Pcm} {decision : VADDecision}
    (heard : addAudio vad pcm = .ok (decision,next)) : decision.audioToModel.length % 2 = 0
  endpointFinalized_whole (vad : V) : (endpointFinalized vad).1.audioToModel.length % 2 = 0
  finishInput_whole (vad : V) : (finishInput vad).1.audioToModel.length % 2 = 0
  reset_held (vad : V) : held (reset vad) = 0

/-- The exception of a call that accounts for what the detector decided: `append_pcm` of the audio
    that it released, or `record_discarded`. -/
inductive Refusal
  | append (exc : PyError)
  | discard (exc : PyError)
  deriving DecidableEq, Repr

/-- `_SessionContext`, with the coroutines that work on it. `live` says that `_contexts`
    holds it, and `sent` how many events the sender took. The last five are read by no code:
    every byte appended to the buffer, where the detector saw an endpoint, the
    `asr_session_terminal` events, how often `metrics.cancellations` counted the session, and
    what was refused that the detector decided. -/
structure SessionContext (V : Type) where
  session : GatewaySession
  protocol : ProtocolSession
  events : List OutboundEvent := []
  sent : Nat := 0
  idle : Bool := true
  vad : Option V
  endpointPending : Bool := false
  utteranceSamples : Nat := 0
  openedAt : Time
  firstUndecodedAt : Option Time := none
  segmentMetadata : Option Metadata := none
  live : Bool := true
  handler : Handler := .starting
  publication : Publication := .waiting
  aborts : List AbortTask := []
  stream : Pcm := []
  endpoints : List Nat := []
  terminalEvents : List TerminalState := []
  cancellations : Nat := 0
  refusals : List Refusal := []
  deriving DecidableEq, Repr

/-- `protocol_lock` is held. -/
def SessionContext.locked {V : Type} (ctx : SessionContext V) : Bool :=
  ctx.handler.holdsLock || ctx.publication.holdsLock

/-- The calls that an adapter receives, as far as they concern its sessions. -/
inductive AdapterCall
  | submit (batch : List InferenceJob)
  | finishSegment (sessionId : SessionId)
  | finishSession (sessionId : SessionId)
  | abortSession (sessionId : SessionId)
  deriving DecidableEq, Repr

/-- The settings that the runtime reads, its detector, and which adapters have a method
    `remaining_segment_samples`. -/
structure GatewayConfig (V : Type) where
  scheduler : SchedulerConfig
  chars : Alphabet
  detector : Detector V
  measuresSegments : WorkerId → Bool
  rollingBatch : Bool
  defaultUpdateMs : Nat
  maxSessionBufferSamples : Nat
  maxAudioSeconds : Time
  maxSessionSeconds : Time
  maxUndecodedAgeSeconds : Time
  maxConnectionLagSeconds : Time
  streamQueueTimeoutSeconds : Time

/-- What the code reads from outside while it runs without suspension: the clock, and the
    answer of `remaining_segment_samples`. -/
structure Moment where
  now : Time
  remaining : Except PyError Int := .ok 0

/-- What a coroutine of one session sees and changes. -/
structure View (V : Type) where
  ctx : SessionContext V
  scheduler : GatewayScheduler
  timelines : Text → Option Time
  calls : List AdapterCall

/-- Code that runs without suspension. -/
abbrev Code (V : Type) (α : Type) := EStateM PyError (View V) α

variable {V : Type}

def View.withContext (view : View V) (change : SessionContext V → SessionContext V) : View V :=
  { view with ctx := change view.ctx }

def updateContext (change : SessionContext V → SessionContext V) : Code V Unit :=
  modify fun view => view.withContext change

def setSession (session : GatewaySession) : Code V Unit := updateContext fun ctx => { ctx with session := session }

def goto (handler : Handler) : Code V Unit := updateContext fun ctx => { ctx with handler := handler }

/-- `ctx.idle.set()`. -/
def setIdle : Code V Unit := updateContext fun ctx => { ctx with idle := true, handler := ctx.handler.wake }

def record (call : AdapterCall) : Code V Unit := modify fun view => { view with calls := view.calls ++ [call] }

/-- `discard_timeline`. -/
def discardTimeline (jobId : Text) : Code V Unit :=
  modify fun view => { view with timelines := Function.update view.timelines jobId none }

/-- `self._contexts[session_id]`. -/
def requireContext : Code V Unit := do
  let ctx := (← get).ctx
  when (!ctx.live) (throw (.keyError (String.ofList ctx.session.sessionId)))

/-- A call of the protocol session. -/
def callProtocol (call : ProtocolSession → Protocol.Reply) : Code V (List WireEvent) := do
  let (reply,protocol) := call (← get).ctx.protocol
  updateContext fun ctx => { ctx with protocol := protocol }
  ofExcept reply

def refuse (refusal : Refusal) : Code V Unit := updateContext fun ctx => { ctx with refusals := ctx.refusals ++ [refusal] }

/-- A call that accounts for a decision of the detector. -/
def accountFor (refusal : PyError → Refusal) (answer : Except PyError GatewaySession) : Code V GatewaySession := do
  match answer with
  | .ok session => return session
  | .error exc =>
    refuse (refusal exc)
    throw exc

/-- `session.append_pcm`. -/
def appended (ctx : SessionContext V) (session : GatewaySession) (pcm : Pcm) : SessionContext V :=
  { ctx with session := session, stream := ctx.stream ++ pcm }

def appendPcm (pcm : Pcm) (countAccepted : Bool) : Code V Unit := do
  let session ← accountFor .append ((← get).ctx.session.appendPcm pcm countAccepted)
  updateContext fun ctx => appended ctx session pcm

def recordDiscarded (samples : Nat) : Code V Unit := do
  when (samples ≠ 0) do
    setSession (← accountFor .discard ((← get).ctx.session.recordDiscarded samples))

/-- The samples of an update, `round(update_ms / 1000 * sample_rate)`. -/
def preferredSamples (config : GatewayConfig V) (session : GatewaySession) : Nat :=
  (roundHalfEven (config.defaultUpdateMs / 1000 * session.sampleRate)).toNat

def checkDeadlines (config : GatewayConfig V) (now : Time) : Code V Unit := do
  requireContext
  let ctx := (← get).ctx
  when (config.maxSessionSeconds < now - ctx.openedAt) (throw (.timeoutError "session deadline exceeded"))
  let schedulable := ctx.session.inFlight || decide (preferredSamples config ctx.session ≤ ctx.session.buffer.bufferedSamples) ||
    ctx.endpointPending || ctx.session.finishRequested
  when (schedulable && ctx.firstUndecodedAt.any fun since => config.maxUndecodedAgeSeconds < now - since)
    (throw (.timeoutError "undecoded audio age exceeded"))

/-! ## Scheduling the next job -/

/-- The decimal digits of a number. -/
def digits (number : Nat) : Text := Nat.toDigits 10 number

/-- The job for a reservation. -/
def makeJob (config : GatewayConfig V) (now : Time) (session : GatewaySession) (reservation : SessionReservation) :
    InferenceJob :=
  let caps := config.scheduler.capabilities session.selectedWorkerId
  let chunk := reservation.chunk
  { jobId := session.sessionId ++ ":".toList ++ digits session.generation ++ ":".toList ++ digits reservation.jobSequence
    sessionId := session.sessionId
    generation := session.generation
    jobSequence := reservation.jobSequence
    workerId := session.selectedWorkerId
    backendSessionId := session.backendSessionId
    startSample := chunk.startSample
    endSample := chunk.endSample
    pcm := chunk.pcm
    deadline := now + config.scheduler.maxWaitSeconds
    batchKey :=
      { workerId := session.selectedWorkerId
        modelRevision := caps.modelRevision
        language := session.language
        task := session.options.task
        timestamps := session.options.timestamps
        promptIdentity := session.options.promptIdentity
        decodingIdentity := (if chunk.final then "final:" else "partial:").toList ++ session.options.optionsIdentity
        sampleFormat := "pcm_s16le".toList
        lengthBucket := if config.rollingBatch then 0 else min 15 chunk.sampleCount.log2 }
    final := chunk.final
    queueDeadline := some (now + config.streamQueueTimeoutSeconds) }

/-- The samples that the current segment may still take. -/
def segmentRemaining (config : GatewayConfig V) (moment : Moment) (ctx : SessionContext V) : Except PyError Int :=
  let worker := ctx.session.selectedWorkerId
  let remaining : Int := (config.scheduler.capabilities worker).maxSegmentSamples - ctx.utteranceSamples
  if config.measuresSegments worker then moment.remaining.map (min remaining) else .ok remaining

/-- The samples that the next job of the session takes. -/
def nextCount (config : GatewayConfig V) (session : GatewaySession) (remaining : Int) (force : Bool) : Nat :=
  session.readySamples (preferredSamples config session)
    (min (config.scheduler.capabilities session.selectedWorkerId).maxInputSamples remaining) force

/-- After a job for `reservation` was enqueued. -/
def scheduled (view : View V) (now : Time) (session : GatewaySession) (job : InferenceJob)
    (scheduler : GatewayScheduler) : View V where
  ctx := { view.ctx with
    session := session
    idle := false
    firstUndecodedAt := view.ctx.firstUndecodedAt.or (some now) }
  scheduler := scheduler
  timelines := Function.update view.timelines job.jobId (some now)
  calls := view.calls

/-- `_schedule_next`: whether a job was enqueued. -/
def scheduleNext (config : GatewayConfig V) (moment : Moment) (force : Bool) : Code V Bool := do
  requireContext
  let ctx := (← get).ctx
  let remaining ← ofExcept (segmentRemaining config moment ctx)
  let count := nextCount config ctx.session remaining force
  if count = 0 then return false
  let final := ctx.session.finishRequested || ctx.endpointPending || decide ((count : Int) = remaining)
  let (reservation,session) ← ofExcept (ctx.session.reserve count final)
  let job := makeJob config moment.now session reservation
  match (← get).scheduler.enqueue config.scheduler moment.now job with
  | .ok scheduler =>
    modify fun view => scheduled view moment.now session job scheduler
    return true
  | .error exc =>
    discardTimeline job.jobId
    let (_,session) ← ofExcept (session.rollback reservation.jobSequence)
    setSession session
    setIdle
    throw exc

/-- Nothing of the session is left to decode. -/
def drainedOut (ctx : SessionContext V) : Bool :=
  !ctx.session.inFlight && decide (ctx.session.buffer.bufferedSamples = 0) && decide (ctx.session.pendingVad = 0)

/-- Sets `idle` when nothing was scheduled and nothing is left. -/
def settleIdle (scheduled : Bool) : Code V Unit := do
  let ctx := (← get).ctx
  when (!scheduled && drainedOut ctx) do
    setIdle
    updateContext fun ctx => { ctx with firstUndecodedAt := none }

/-- The queue entries for events; the last one completes the timeline of its job, and
    closes the connection when they are terminal. -/
def outbound (jobId : Option Text) (terminal : Bool) (closeCode : Option Nat) : List WireEvent → List OutboundEvent
  | [] => []
  | [event] => [⟨some event,jobId,jobId.any (· ≠ []),terminal,if terminal then closeCode else none⟩]
  | event :: rest => ⟨some event,jobId,false,false,none⟩ :: outbound jobId terminal closeCode rest

def enqueueEvents (events : List WireEvent) (jobId : Option Text := none) (terminal : Bool := false)
    (closeCode : Option Nat := none) : Code V Unit :=
  updateContext fun ctx => { ctx with events := ctx.events ++ outbound jobId terminal closeCode events }

/-- The session has failed, was aborted or succeeded. -/
def ended (session : GatewaySession) : Bool :=
  match session.terminalState with
  | .failed | .aborted | .succeeded => true
  | .opened | .finishing => false

/-- `scheduler.cancel_session` for the current generation. -/
def cancelSession : Code V Unit :=
  modify fun view =>
    { view with scheduler := view.scheduler.cancelSession (view.ctx.session.sessionId,view.ctx.session.generation) }

/-- Emits `asr_session_terminal`. -/
def emitTerminal (state : TerminalState) : Code V Unit :=
  updateContext fun ctx => { ctx with terminalEvents := ctx.terminalEvents ++ [state] }

/-- `_fail_session` up to the call of the adapter: whether the session was failed. -/
def failSession : Code V Bool := do
  if ended (← get).ctx.session then return false
  cancelSession
  setSession (← ofExcept (← get).ctx.session.fail)
  record (.abortSession (← get).ctx.session.sessionId)
  return true

/-- The rest of `_fail_session`; what the adapter answers does not matter. -/
def sessionFailed : Code V Unit := emitTerminal .failed

/-- `_apply_control_result`. -/
def applyControlResult (config : GatewayConfig V) (text : Text) (metadata : Option Metadata) : Code V (List WireEvent) := do
  when metadata.isSome (updateContext fun ctx => { ctx with segmentMetadata := metadata })
  let ctx := (← get).ctx
  match (config.scheduler.capabilities ctx.session.selectedWorkerId).resultMode with
  | .replaceableSegment =>
    callProtocol fun protocol => protocol.applyResult config.chars .replaceableSegment text [] [] 0
      (protocol.state.activeSegmentId.getD 0) ctx.segmentMetadata
  | _ =>
    callProtocol fun protocol => protocol.applyResult config.chars .cumulativeSnapshot
      (protocol.state.confirmedText ++ text) [] [] 0 0 ctx.segmentMetadata

/-- The result of a `finish_segment` or `finish_session` call. -/
def applyControl (config : GatewayConfig V) (control : AdapterResult) : Code V (List WireEvent) := do
  let events ← (if control.text ≠ [] then applyControlResult config control.text control.metadata else pure [])
  when control.metadata.isSome (updateContext fun ctx => { ctx with segmentMetadata := control.metadata })
  return events

/-- `_release_session`. -/
def releaseSession : Code V Unit := do
  let ctx := (← get).ctx
  when ctx.live (updateContext fun ctx => { ctx with live := false, session := ctx.session.close })

/-- `wait_session_safe` of the current generation: the event to wait for, if any. -/
def safeEvent (view : View V) : Option Nat :=
  view.scheduler.accepted (view.ctx.session.sessionId,view.ctx.session.generation)

end SpeechGateway.Gateway
