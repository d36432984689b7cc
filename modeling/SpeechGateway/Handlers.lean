import SpeechGateway.Runtime

/-!
The coroutines of a client connection: `ingest` with its waits for buffer space, `segment`,
`finish`, `enqueue_ready`, `enqueue_error`, `enqueue_abort` and `abort`. Each program runs
up to the next suspension and leaves in `handler` where the coroutine then stands.
-/
namespace SpeechGateway.Gateway
open SpeechGateway.Backends SpeechGateway.Protocol SpeechGateway.Vad SpeechGateway.Sessions SpeechGateway.Scheduling
  Programs

variable {V : Type} (config : GatewayConfig V)

/-- Waits for `idle`, which may be set already. -/
def awaitIdle (handler : Bool → Handler) : Code V Unit := do
  goto (handler (← get).ctx.idle)

/-- What the caller of `ingest` does next. -/
def ingested (call : Ingest) (scheduled : Bool) : Code V Unit :=
  match call with
  | .frame .. => goto .ready
  | .segment => awaitIdle .segmentIdle
  | .finish => do
    settleIdle scheduled
    awaitIdle .finishIdle

/-- The end of `_ingest_locked`. -/
def ingestScheduled (moment : Moment) (call : Ingest) (force : Bool) : Code V Unit := do
  let scheduled ← scheduleNext config moment force
  ingested call scheduled

/-- A full buffer makes `ingest` wait while a job holds a reservation. -/
def awaitReservation (exc : PyError) (handler : Handler) : Code V Unit := do
  match exc with
  | .capacity .sessionPcmLimit .. =>
    if (← get).ctx.session.inFlight then goto handler else throw exc
  | _ => throw exc

/-- After the audio that the detector released was appended. -/
def ingestHeard (moment : Moment) (pcm : Pcm) (force : Bool) (decision : VADDecision) : Code V Unit := do
  recordDiscarded decision.discardedSamples
  updateContext fun ctx =>
    { ctx with
      endpointPending := ctx.endpointPending || decision.endpoint
      endpoints := if decision.endpoint then ctx.endpoints ++ [sampleCount ctx.stream] else ctx.endpoints }
  ingestScheduled config moment (.frame pcm force) (force || decision.endpoint)

/-- `_append_pcm_with_backpressure`, of a frame or of what the detector released of it. -/
def ingestAppend (moment : Moment) (pcm : Pcm) (force : Bool) (decision : Option VADDecision) : Code V Unit := do
  let audio := decision.elim pcm VADDecision.audioToModel
  match (← get).ctx.session.appendPcm audio decision.isNone with
  | .ok session =>
    updateContext fun ctx => appended ctx session audio
    match decision with
    | some decision => ingestHeard config moment pcm force decision
    | none => ingestScheduled config moment (.frame pcm force) force
  | .error exc =>
    when decision.isSome (refuse (.append exc))
    awaitReservation exc (.ingestAppend pcm force decision)

/-- The detector hears a frame. -/
def ingestHear (moment : Moment) (pcm : Pcm) (force : Bool) : Code V Unit := do
  match (← get).ctx.vad with
  | none => throw (.foreign "AttributeError")
  | some vad =>
    let (decision,vad) ← ofExcept (config.detector.addAudio vad pcm)
    updateContext fun ctx => { ctx with vad := some vad }
    if decision.audioToModel ≠ [] then ingestAppend config moment pcm force (some decision)
    else ingestHeard config moment pcm force decision

/-- `_accept_vad_with_backpressure`. -/
def ingestAccept (moment : Moment) (pcm : Pcm) (force : Bool) : Code V Unit := do
  match (← get).ctx.session.acceptVadInput pcm with
  | .ok session =>
    setSession session
    ingestHear config moment pcm force
  | .error exc => awaitReservation exc (.ingestAccept pcm force)

/-- `_ingest_locked`. -/
def ingestLocked (moment : Moment) (call : Ingest) : Code V Unit := do
  checkDeadlines config moment.now
  let ctx := (← get).ctx
  when (roundHalfEven (config.maxAudioSeconds * ctx.session.sampleRate) <
      (ctx.session.acceptedSamples + sampleCount call.pcm : Nat))
    (throw (.runtimeError "audio duration limit exceeded"))
  match call with
  | .frame pcm force =>
    if pcm = [] then ingestScheduled config moment call force
    else if ctx.vad.isSome then ingestAccept config moment pcm force
    else ingestAppend config moment pcm force none
  | .segment | .finish => ingestScheduled config moment call true

/-- The end of `segment`, after the answer of the adapter. -/
def segmentAnswered (answer : Except PyError AdapterResult) : Code V Unit := do
  let events ← applyControl config (← ofExcept answer)
  let metadata := (← get).ctx.segmentMetadata
  let committed ← callProtocol fun protocol => protocol.segment config.chars metadata
  updateContext fun ctx => { ctx with segmentMetadata := none, utteranceSamples := 0 }
  enqueueEvents (events ++ committed)
  goto .ready

/-- The detector ends its input. -/
def finishHearing : Code V Unit := do
  match (← get).ctx.vad with
  | some vad =>
    let (decision,vad) := config.detector.finishInput vad
    updateContext fun ctx => { ctx with vad := some vad }
    when (decision.audioToModel ≠ []) (appendPcm decision.audioToModel false)
    recordDiscarded decision.discardedSamples
  | none => pure ()

/-- `finish` up to its call of `ingest`. -/
def finish : Code V Unit := do
  requireContext
  finishHearing config
  setSession (← get).ctx.session.requestFinish
  goto (.ingestLock .finish)

/-- The end of `finish`, after the answer of the adapter. -/
def finishAnswered (answer : Except PyError AdapterResult) : Code V Unit := do
  let events ← applyControl config (← ofExcept answer)
  let metadata := (← get).ctx.segmentMetadata
  let final ← callProtocol fun protocol => protocol.final config.chars none metadata
  updateContext fun ctx => { ctx with segmentMetadata := none }
  setSession (← ofExcept (← get).ctx.session.succeed)
  emitTerminal .succeeded
  enqueueEvents (events ++ final) none true (some 1000)
  goto .closed

def enqueueReady : Code V Unit := do
  requireContext
  let session := (← get).ctx.session
  enqueueEvents (← callProtocol fun protocol => protocol.ready session.sessionId session.selectedWorkerId)
  goto .ready

/-- Cancels the generation and waits until its submitted jobs are settled. -/
def cancelAndWait (safe : Handler) (waiting : Nat → Handler) : Code V Unit := do
  requireContext
  cancelSession
  match safeEvent (← get) with
  | none => goto safe
  | some event => goto (waiting event)

/-- `enqueue_error`, once it holds the lock. -/
def errorLocked (exc : PyError) (code : String) (closeCode : Nat) : Code V Unit := do
  if (← get).ctx.protocol.terminal then goto .closed
  else if ← failSession then goto (.errorAdapter exc code closeCode)
  else goto .closed

/-- The end of `enqueue_error`. -/
def errorAnswered (exc : PyError) (code : String) (closeCode : Nat) : Code V Unit := do
  enqueueEvents (← callProtocol fun protocol => protocol.error exc code) none true (some closeCode)
  goto .closed

/-- The part of `abort` and `enqueue_abort` that ends the session. -/
def abortSession : Code V Unit := do
  updateContext fun ctx => { ctx with cancellations := ctx.cancellations + 1 }
  setSession (← ofExcept (← get).ctx.session.abort)
  emitTerminal .aborted
  updateContext fun ctx => { ctx with vad := ctx.vad.map config.detector.reset }
  record (.abortSession (← get).ctx.session.sessionId)

def abortSafe : Code V Unit := do
  abortSession config
  goto .abortAdapter

/-- The end of `enqueue_abort`, with `enqueue_close`. -/
def abortAnswered (answer : Except PyError AdapterResult) : Code V Unit := do
  let _ ← ofExcept answer
  requireContext
  updateContext fun ctx => { ctx with events := ctx.events ++ [⟨none,none,false,true,some 1000⟩] }
  goto .closed

/-! ## The handler -/

/-- What the client connection makes its handler call. -/
inductive Command
  | ingest (pcm : Pcm) (force : Bool)
  | segment
  | finish
  | error (exc : PyError) (code : String) (closeCode : Nat)
  | abort
  deriving DecidableEq, Repr

/-- What a suspended handler is resumed with. -/
inductive Input
  | go
  | timeout
  | answer (reply : Except PyError AdapterResult)

/-- The call that a handler makes. After an exception it only reports an error. -/
def command (handler : Handler) (command : Command) : Option (Code V Unit) :=
  match handler, command with
  | .ready, .ingest pcm force => some do
    requireContext
    goto (.ingestLock (.frame pcm force))
  | .ready, .segment => some do
    requireContext
    goto (.ingestLock .segment)
  | .ready, .finish => some (finish config)
  | .ready, .error exc code closeCode | .raised, .error exc code closeCode =>
    some (cancelAndWait (.errorLock exc code closeCode) (.errorSafe exc code closeCode))
  | .ready, .abort => some do
    requireContext
    cancelSession
    match safeEvent (← get) with
    | none => abortSafe config
    | some event => goto (.abortSafe event)
  | _, _ => none

/-- The event is set. -/
def View.isSafe (view : View V) (event : Nat) : Bool := view.scheduler.safe.contains event

/-- What a suspended handler does when it goes on; `none` while it cannot. A wait for a
    reservation may end at any time, and is taken up again where it ended too soon. -/
def proceed (moment : Moment) (view : View V) (input : Input) : Option (Code V Unit) :=
  match view.ctx.handler, input with
  | .starting, .go => if view.ctx.locked then none else some enqueueReady
  | .ingestLock call, .go => if view.ctx.locked then none else some (ingestLocked config moment call)
  | .ingestAccept pcm force, .go => some do
    checkDeadlines config moment.now
    ingestAccept config moment pcm force
  | .ingestAppend pcm force decision, .go => some do
    checkDeadlines config moment.now
    ingestAppend config moment pcm force decision
  | .ingestAccept .., .timeout | .ingestAppend .., .timeout => some (throw (.timeoutError ""))
  | .segmentIdle woken, .go => if woken then some (goto .segmentLock) else none
  | .segmentLock, .go => if view.ctx.locked then none else some do
    record (.finishSegment (← get).ctx.session.sessionId)
    goto .segmentAdapter
  | .segmentAdapter, .answer reply => some (segmentAnswered config reply)
  | .finishIdle woken, .go => if woken then some (goto .finishLock) else none
  | .finishLock, .go => if view.ctx.locked then none else some do
    record (.finishSession (← get).ctx.session.sessionId)
    goto .finishAdapter
  | .finishAdapter, .answer reply => some (finishAnswered config reply)
  | .errorSafe exc code closeCode event, .go =>
    if view.isSafe event then some (goto (.errorLock exc code closeCode)) else none
  | .errorLock exc code closeCode, .go =>
    if view.ctx.locked then none else some (errorLocked exc code closeCode)
  | .errorAdapter exc code closeCode, .answer _ => some do
    sessionFailed
    errorAnswered exc code closeCode
  | .abortSafe event, .go => if view.isSafe event then some (abortSafe config) else none
  | .abortAdapter, .answer reply => some (abortAnswered reply)
  | _, _ => none

/-- Runs the handler's code to its next suspension. An exception ends the call: what is left
    is to report an error. -/
def runHandler (program : Code V Unit) (view : View V) : View V :=
  match program.run view with
  | .ok _ next => next
  | .error _ next => next.withContext fun ctx => { ctx with handler := .raised }

def addTask (task : AbortTask) : Code V Unit := updateContext fun ctx => { ctx with aborts := task :: ctx.aborts }

def abortTaskSafe : Code V Unit := do
  abortSession config
  addTask .adapter

/-- `abort`, called by anyone at any time. -/
def abort : Code V Unit := do
  let ctx := (← get).ctx
  if !ctx.live then return
  if ended ctx.session then releaseSession else
  cancelSession
  match safeEvent (← get) with
  | none => abortTaskSafe config
  | some event => addTask (.safe event)

/-- A suspended `abort` goes on; exceptions of the adapter are suppressed. -/
def resumeAbort (view : View V) (task : AbortTask) : Option (Code V Unit) :=
  if !view.ctx.aborts.contains task then none else
  let leave : Code V Unit := updateContext fun ctx => { ctx with aborts := ctx.aborts.erase task }
  match task with
  | .safe event => if view.isSafe event then some do leave; abortTaskSafe config else none
  | .adapter => some do leave; releaseSession

/-- The view after code whose exception nobody handles. -/
def runTask (program : Code V Unit) (view : View V) : View V :=
  match program.run view with
  | .ok _ next | .error _ next => next

/-- `send_outbound_events` takes the next event from the queue. -/
def send (view : View V) : Option (Code V Unit) :=
  if (view.ctx.events.take view.ctx.sent).any (·.terminal) then none else
  match view.ctx.events[view.ctx.sent]? with
  | none => none
  | some event => some do
    updateContext fun ctx => { ctx with sent := ctx.sent + 1 }
    when (event.completesTimeline || event.terminal) (event.jobId.elim (pure ()) discardTimeline)
    when event.terminal releaseSession

end SpeechGateway.Gateway
