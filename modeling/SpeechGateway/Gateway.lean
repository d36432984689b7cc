import SpeechGateway.Handlers

/-!
The hooks that the scheduler calls, above all `_publish_result`, and the gateway as one
machine: handlers, publications, aborts, senders and the scheduler's workers take their
steps in any order.
-/
namespace SpeechGateway.Gateway
open SpeechGateway.Backends SpeechGateway.Protocol SpeechGateway.Vad SpeechGateway.Sessions SpeechGateway.Scheduling
  Programs

variable {V : Type} (config : GatewayConfig V)

def cleanupJob (job : InferenceJob) : Code V Unit := do
  let ctx := (← get).ctx
  when (!ctx.live || ctx.session.generation ≠ job.generation ||
      !ctx.session.matchesReservation job.jobSequence job.startSample job.endSample)
    (throw (.staleResult "job no longer owns the session reservation"))
  let session ← ofExcept (ctx.session.acknowledge job.jobSequence job.generation)
  updateContext fun ctx => { ctx with session := session, firstUndecodedAt := none }

def rejectJob (job : InferenceJob) : Code V Unit := do
  discardTimeline job.jobId
  let ctx := (← get).ctx
  when (ctx.live ∧ ctx.session.generation = job.generation) do
    let (held,session) ← ofExcept (ctx.session.rollback job.jobSequence)
    setSession session
    when (!held) (throw (.staleResult "rejected job lost its reservation"))

/-- `_publish_result` has returned. -/
def published : Code V Bool := do
  updateContext fun ctx => { ctx with publication := .waiting }
  return true

/-- `_publish_result` is suspended. -/
def suspend (publication : Publication) : Code V Bool := do
  updateContext fun ctx => { ctx with publication := publication }
  return false

/-- Nothing is shown of the result. -/
def dropResult (result : InferenceResult) : Code V Bool := do
  discardTimeline result.jobId
  setIdle
  published

/-- `_result_is_stale_or_terminal`. -/
def staleOrTerminal (ctx : SessionContext V) (result : InferenceResult) : Bool :=
  decide (result.generation ≠ ctx.session.generation) || ctx.protocol.terminal || ended ctx.session

/-- `endpoint_finalized`, and whether it left audio to decode. -/
def finalizeEndpoint (vad : V) (continuation : Bool) : Code V Bool := do
  let (decision,vad) := config.detector.endpointFinalized vad
  updateContext fun ctx => { ctx with endpointPending := false, vad := some vad }
  when (decision.audioToModel ≠ []) (appendPcm decision.audioToModel false)
  recordDiscarded decision.discardedSamples
  updateContext fun ctx =>
    { ctx with
      endpointPending := decision.endpoint
      endpoints := if decision.endpoint then ctx.endpoints ++ [sampleCount ctx.stream] else ctx.endpoints }
  return continuation || !decision.audioToModel.isEmpty

/-- Finalizes the endpoint that is pending, if any. -/
def finalizePending (left : Bool) : Code V Bool := do
  let ctx := (← get).ctx
  match ctx.endpointPending, ctx.vad with
  | true, some vad => finalizeEndpoint config vad left
  | _, _ => pure left

/-- The end of `_apply_result_locked`. -/
def concludeResult (moment : Moment) (result : InferenceResult) (events : List WireEvent) (deferred continuation : Bool) :
    Code V Bool := do
  let ctx := (← get).ctx
  let scheduled ← (if deferred then pure true
    else scheduleNext config moment (continuation || ctx.endpointPending || ctx.session.finishRequested))
  settleIdle scheduled
  (if events ≠ [] then enqueueEvents events (some result.jobId) else discardTimeline result.jobId)
  published

/-- The text of a result; a snapshot that leaves the confirmed text out is put after it. -/
def resultText (protocol : ProtocolSession) (mode : ResultMode) (text : Text) : Text :=
  if mode = .cumulativeSnapshot ∧ protocol.state.confirmedText ≠ [] ∧ ¬protocol.state.confirmedText.isPrefixOf text then
    protocol.state.confirmedText ++ text
  else text

/-- The segment of the session ends with this result. -/
def endsSegment (ctx : SessionContext V) (result : InferenceResult) (deferred : Bool) : Bool :=
  result.final || (ctx.endpointPending && !deferred) ||
    decide ((config.scheduler.capabilities result.workerId).maxSegmentSamples ≤ ctx.utteranceSamples)

/-- `_apply_result_locked` for a result without an error, up to the call of the adapter. -/
def acceptResult (moment : Moment) (result : InferenceResult) (saved : Saved) : Code V Bool := do
  when result.metadata.isSome (updateContext fun ctx => { ctx with segmentMetadata := result.metadata })
  let metadata := (← get).ctx.segmentMetadata
  let mode := (config.scheduler.capabilities result.workerId).resultMode
  let events ← callProtocol fun protocol =>
    protocol.applyResult config.chars mode (resultText protocol mode result.text) result.confirmedText result.tailText
      ((result.endSample : Int) - result.startSample) result.segmentId metadata
  updateContext fun ctx => { ctx with utteranceSamples := ctx.utteranceSamples + (result.endSample - result.startSample) }
  let pending := (← get).ctx.endpointPending
  let deferred ← (if pending && !result.final then scheduleNext config moment true else pure false)
  if endsSegment config (← get).ctx result deferred then
    record (.finishSegment result.sessionId)
    suspend (.segmentAdapter events deferred saved)
  else concludeResult config moment result events deferred false

/-- A result that fails the session, up to the call of the adapter. -/
def failResult (result : InferenceResult) (saved : Saved) (exc : PyError) (code : String) : Code V Bool := do
  if ← failSession then suspend (.failAdapter exc code saved) else dropResult result

/-- `_apply_result_locked` up to its first suspension. -/
def applyResultLocked (moment : Moment) (result : InferenceResult) (saved : Saved) : Code V Bool := do
  let view ← get
  let receivedAt := (view.timelines result.jobId).getD moment.now
  if config.maxConnectionLagSeconds < moment.now - receivedAt then
    failResult result saved (.timeoutError "connection lag exceeded") "audio_lag"
  else if view.ctx.firstUndecodedAt.any fun since => config.maxUndecodedAgeSeconds < moment.now - since then
    failResult result saved (.timeoutError "undecoded audio age exceeded") "audio_lag"
  else match result.error.filter (· ≠ "") with
    | some message => failResult result saved (.runtimeError message) "backend_error"
    | none => acceptResult config moment result saved

/-- The handler of `_apply_result`: whatever raised, the transcript is restored. -/
def restoring (saved : Saved) (program : Code V Bool) : Code V Bool :=
  tryCatch program fun exc => do
    updateContext fun ctx => { ctx with protocol := saved.protocol, segmentMetadata := saved.metadata }
    suspend (.conflictLock exc)

/-- `_apply_result`, once it holds the lock. -/
def applyResult (moment : Moment) (result : InferenceResult) : Code V Bool := do
  let ctx := (← get).ctx
  if staleOrTerminal ctx result then dropResult result else
  let saved : Saved := ⟨ctx.protocol,ctx.segmentMetadata⟩
  restoring saved (applyResultLocked config moment result saved)

/-- `_apply_result_locked` from the answer to `finish_segment` on. -/
def segmentEnded (moment : Moment) (result : InferenceResult) (events : List WireEvent) (deferred : Bool) (saved : Saved)
    (answer : Except PyError AdapterResult) : Code V Bool :=
  restoring saved do
    let control ← applyControl config (← ofExcept answer)
    let metadata := (← get).ctx.segmentMetadata
    let committed ← callProtocol fun protocol => protocol.segment config.chars metadata
    updateContext fun ctx =>
      { ctx with
        segmentMetadata := if ctx.session.finishRequested then metadata else none
        utteranceSamples := 0 }
    let left := decide (0 < (← get).ctx.session.buffer.bufferedSamples)
    let continuation ← finalizePending config left
    concludeResult config moment result (events ++ control ++ committed) deferred continuation

/-- `_apply_result_locked` after a failed session was aborted at the adapter. -/
def failAnswered (result : InferenceResult) (exc : PyError) (code : String) (saved : Saved) : Code V Bool :=
  restoring saved do
    enqueueEvents (← callProtocol fun protocol => protocol.error exc code) (some result.jobId) true (some 1011)
    setIdle
    published

/-- What a conflict is reported as: the error code and the close code. -/
def conflictCode : PyError → String × Nat
  | .capacity .. => ("overloaded",1013)
  | _ => ("result_conflict",1011)

/-- `_publish_result` after a conflict, once it holds the lock. -/
def conflictLocked (result : InferenceResult) (exc : PyError) : Code V Bool := do
  if staleOrTerminal (← get).ctx result then dropResult result
  else if ← failSession then suspend (.conflictAdapter exc)
  else
    setIdle
    published

def conflictAnswered (result : InferenceResult) (exc : PyError) : Code V Bool := do
  let terminal := (← get).ctx.protocol.terminal
  when (!terminal) do
    enqueueEvents (← callProtocol fun protocol => protocol.error exc (conflictCode exc).1) (some result.jobId) true
      (some (conflictCode exc).2)
  setIdle
  published

/-- `_publish_result` from a suspension to the next one; `none` while it has to wait. -/
def publishResult (moment : Moment) (view : View V) (result : InferenceResult) (answer : Except PyError AdapterResult) :
    Option (Code V Bool) :=
  let dropped : Code V Bool := do
    discardTimeline result.jobId
    published
  match view.ctx.publication with
  | .waiting =>
    if !view.ctx.live then some dropped else
    if view.ctx.locked then none else some (applyResult config moment result)
  | .failAdapter exc code saved => some do
    sessionFailed
    failAnswered result exc code saved
  | .segmentAdapter events deferred saved => some (segmentEnded config moment result events deferred saved answer)
  | .conflictLock exc =>
    if !view.ctx.live then some dropped else
    if view.ctx.locked then none else some (conflictLocked result exc)
  | .conflictAdapter exc => some do
    sessionFailed
    conflictAnswered result exc

/-! ## The gateway -/

/-- `GatewayRuntime`, with every session it ever opened and all calls of its adapters. -/
structure GatewayRuntime (V : Type) where
  contexts : SessionId → Option (SessionContext V)
  scheduler : GatewayScheduler
  timelines : Text → Option Time
  calls : List AdapterCall

def GatewayRuntime.init : GatewayRuntime V where
  contexts _ := none
  scheduler := .init
  timelines _ := none
  calls := []

namespace GatewayRuntime

def view (runtime : GatewayRuntime V) (sessionId : SessionId) : Option (View V) :=
  (runtime.contexts sessionId).map fun ctx => ⟨ctx,runtime.scheduler,runtime.timelines,runtime.calls⟩

def write (runtime : GatewayRuntime V) (sessionId : SessionId) (view : View V) : GatewayRuntime V where
  contexts := Function.update runtime.contexts sessionId (some view.ctx)
  scheduler := view.scheduler
  timelines := view.timelines
  calls := view.calls

/-- Goes on with `run_once` of a worker, and records what it submits. -/
def advanced (runtime : GatewayRuntime V) (worker : WorkerId) (scheduler : GatewayScheduler) : GatewayRuntime V :=
  let batch := (scheduler.stages worker).submissions
  { runtime with
    scheduler := scheduler
    calls := if batch = [] then runtime.calls else runtime.calls ++ [.submit batch] }

def resume (runtime : GatewayRuntime V) (worker : WorkerId) (reply : Scheduling.Reply) (now : Time) : Option (GatewayRuntime V) :=
  (runtime.scheduler.resume config.scheduler worker reply now).map (runtime.advanced worker)

end GatewayRuntime

/-- How an exception reaches the scheduler. -/
def replyOf : Except PyError Unit → Scheduling.Reply
  | .ok _ => .done
  | .error (.staleResult _) => .stale
  | .error exc => .raised exc.typeName

/-- The outcome of a program, and the view it leaves. -/
def outcome {α : Type} (program : Code V α) (view : View V) : Except PyError α × View V :=
  match program.run view with
  | .ok value next => (.ok value,next)
  | .error exc next => (.error exc,next)

/-- The hook that a suspended `run_once` awaits, with the job it is about. -/
def awaitedHook : Stage → Option (Option (SessionId × Code V Unit))
  | .rejectExpired _ item _ | .rejectCancelled _ item _ | .drainReject item _ _ _ _ =>
    some (some (item.sessionId,rejectJob item))
  | .cleanup current _ _ => some (some (current.1.sessionId,cleanupJob current.1))
  | .discard item _ _ | .drainDiscard item _ _ _ _ => some (some (item.sessionId,discardTimeline item.jobId))
  | .workerFailed .. | .cleanupFailed .. => some none
  | _ => none

/-- One step of the gateway. -/
inductive GatewayAction
  | openSession (sessionId : SessionId) (worker : WorkerId) (backendSessionId language : Text) (options : SessionOptions)
      (now : Time)
  | command (sessionId : SessionId) (command : Command)
  | proceed (sessionId : SessionId) (input : Input) (moment : Moment)
  | abort (sessionId : SessionId)
  | resumeAbort (sessionId : SessionId) (task : AbortTask)
  | send (sessionId : SessionId)
  | runOnce (worker : WorkerId) (force : Bool) (now : Time)
  | submitted (worker : WorkerId) (reply : Scheduling.Reply) (now : Time)
  | hook (worker : WorkerId) (now : Time)
  | publish (worker : WorkerId) (answer : Except PyError AdapterResult) (moment : Moment)
  | closeScheduler

/-- `open_session`: the context of a new session. -/
def openContext (sessionId : SessionId) (worker : WorkerId) (backendSessionId language : Text) (options : SessionOptions)
    (now : Time) : SessionContext V :=
  let caps := config.scheduler.capabilities worker
  { session :=
      { sessionId := sessionId
        selectedWorkerId := worker
        backendSessionId := backendSessionId
        sampleRate := 16000
        language := language
        options := options
        buffer := { maxSamples := config.maxSessionBufferSamples } }
    protocol := .init ⟨16000,Streaming.sessionRate_positive⟩ (caps.resultMode = .replaceableSegment)
    vad := if caps.vadMode = .gateway then some config.detector.initial else none
    openedAt := now }

namespace GatewayRuntime

/-- Only the answer of `reject`, which does not suspend, comes next where it is awaited. -/
def enabled (runtime : GatewayRuntime V) (action : GatewayAction) : Bool :=
  config.scheduler.workers.all fun worker =>
    (runtime.scheduler.stages worker).rejecting.isEmpty ||
      match action with
      | .hook resumed _ => decide (resumed = worker)
      | _ => false

/-- The answer of the hook that a worker awaits. -/
def hook (runtime : GatewayRuntime V) (worker : WorkerId) (now : Time) : Option (GatewayRuntime V) := do
  match ← awaitedHook (runtime.scheduler.stages worker) with
  | none => runtime.resume config worker .done now
  | some (sessionId,program) =>
    match runtime.view sessionId with
    | none => runtime.resume config worker (if (runtime.scheduler.stages worker).cleaning = [] then .done else .stale) now
    | some view =>
      let (reply,view) := outcome program view
      (runtime.write sessionId view).resume config worker (replyOf reply) now

/-- The next part of a publication. -/
def publish (runtime : GatewayRuntime V) (worker : WorkerId) (answer : Except PyError AdapterResult) (moment : Moment) :
    Option (GatewayRuntime V) := do
  let (_,result) ← (runtime.scheduler.stages worker).publishing.head?
  match runtime.view result.sessionId with
  | none => runtime.resume config worker .done moment.now
  | some view =>
    let program ← publishResult config moment view result answer
    match outcome program view with
    | (.ok true,view) => (runtime.write result.sessionId view).resume config worker .done moment.now
    | (.ok false,view) => some (runtime.write result.sessionId view)
    | (.error exc,view) => (runtime.write result.sessionId view).resume config worker (replyOf (.error exc)) moment.now

def step (runtime : GatewayRuntime V) (action : GatewayAction) : Option (GatewayRuntime V) :=
  if !runtime.enabled config action then none else
  match action with
  | .openSession sessionId worker backendSessionId language options now =>
    if (runtime.contexts sessionId).isSome || !config.scheduler.workers.contains worker then none else
    some { runtime with
      contexts := Function.update runtime.contexts sessionId
        (some (openContext config sessionId worker backendSessionId language options now)) }
  | .command sessionId command => do
    let view ← runtime.view sessionId
    let program ← Gateway.command config view.ctx.handler command
    some (runtime.write sessionId (runHandler program view))
  | .proceed sessionId input moment => do
    let view ← runtime.view sessionId
    let program ← Gateway.proceed config moment view input
    some (runtime.write sessionId (runHandler program view))
  | .abort sessionId => do
    let view ← runtime.view sessionId
    some (runtime.write sessionId (runTask (Gateway.abort config) view))
  | .resumeAbort sessionId task => do
    let view ← runtime.view sessionId
    let program ← Gateway.resumeAbort config view task
    some (runtime.write sessionId (runTask program view))
  | .send sessionId => do
    let view ← runtime.view sessionId
    let program ← Gateway.send view
    some (runtime.write sessionId (runTask program view))
  | .runOnce worker force now =>
    if runtime.scheduler.stages worker = .idle then
      some (runtime.advanced worker (runtime.scheduler.runOnce config.scheduler worker force now))
    else none
  | .submitted worker reply now =>
    if (runtime.scheduler.stages worker).submissions = [] then none else runtime.resume config worker reply now
  | .hook worker now => runtime.hook config worker now
  | .publish worker answer moment => runtime.publish config worker answer moment
  | .closeScheduler => some { runtime with scheduler := { runtime.scheduler with closed := true } }

end GatewayRuntime

/-- The states that a run of the gateway reaches. -/
def Reached (config : GatewayConfig V) (actions : List GatewayAction) (runtime : GatewayRuntime V) : Prop :=
  Machine.run (GatewayRuntime.step config) .init actions = some runtime

variable {config} {runtime next : GatewayRuntime V} {action : GatewayAction}

/-- The code of a session that a step runs takes one view of it to another. -/
inductive Moves (config : GatewayConfig V) (runtime : GatewayRuntime V) : GatewayAction → SessionId → View V → View V → Prop
  | command {sessionId : SessionId} {call : Command} {view : View V} {program : Code V Unit}
      (found : runtime.view sessionId = some view) (issued : Gateway.command config view.ctx.handler call = some program) :
      Moves config runtime (.command sessionId call) sessionId view (runHandler program view)
  | proceed {sessionId : SessionId} {input : Input} {moment : Moment} {view : View V} {program : Code V Unit}
      (found : runtime.view sessionId = some view) (goesOn : Gateway.proceed config moment view input = some program) :
      Moves config runtime (.proceed sessionId input moment) sessionId view (runHandler program view)
  | abort {sessionId : SessionId} {view : View V} (found : runtime.view sessionId = some view) :
      Moves config runtime (.abort sessionId) sessionId view (runTask (Gateway.abort config) view)
  | resumeAbort {sessionId : SessionId} {task : AbortTask} {view : View V} {program : Code V Unit}
      (found : runtime.view sessionId = some view) (resumes : Gateway.resumeAbort config view task = some program) :
      Moves config runtime (.resumeAbort sessionId task) sessionId view (runTask program view)
  | send {sessionId : SessionId} {view : View V} {program : Code V Unit}
      (found : runtime.view sessionId = some view) (sends : Gateway.send view = some program) :
      Moves config runtime (.send sessionId) sessionId view (runTask program view)
  | hook {worker : WorkerId} {now : Time} {sessionId : SessionId} {view : View V} {program : Code V Unit}
      (awaits : awaitedHook (runtime.scheduler.stages worker) = some (some (sessionId,program)))
      (found : runtime.view sessionId = some view) :
      Moves config runtime (.hook worker now) sessionId view (outcome program view).2
  | publish {worker : WorkerId} {answer : Except PyError AdapterResult} {moment : Moment} {job : InferenceJob}
      {result : InferenceResult} {view : View V} {program : Code V Bool}
      (publishes : (runtime.scheduler.stages worker).publishing.head? = some (job,result))
      (found : runtime.view result.sessionId = some view)
      (goesOn : publishResult config moment view result answer = some program) :
      Moves config runtime (.publish worker answer moment) result.sessionId view (outcome program view).2

section
variable {holds : View V → Prop} {view : View V}

theorem runHandler_of_wp {program : Code V Unit} (ran : wp program (fun _ => holds)
    (fun _ next => holds (next.withContext fun ctx => { ctx with handler := .raised })) view) :
    holds (runHandler program view) := by
  unfold wp at ran
  unfold runHandler
  split at ran <;> rename_i found <;> rw [found] <;> exact ran

theorem runTask_of_wp {program : Code V Unit} (ran : wp program (fun _ => holds) (fun _ => holds) view) :
    holds (runTask program view) := by
  unfold wp at ran
  unfold runTask
  split at ran <;> rename_i found <;> rw [found] <;> exact ran

theorem outcome_of_wp {α : Type} {program : Code V α} (ran : wp program (fun _ => holds) (fun _ => holds) view) :
    holds (outcome program view).2 := by
  unfold wp at ran
  unfold outcome
  split at ran <;> rename_i found <;> rw [found] <;> exact ran

end

theorem view_ctx {sessionId : SessionId} {view : View V} (found : runtime.view sessionId = some view) :
    runtime.contexts sessionId = some view.ctx := by
  obtain ⟨ctx,known,rfl⟩ := Option.map_eq_some_iff.mp found
  exact known

theorem resume_contexts {worker : WorkerId} {reply : Scheduling.Reply} {now : Time}
    (resumes : runtime.resume config worker reply now = some next) : next.contexts = runtime.contexts := by
  obtain ⟨scheduler,_,rfl⟩ := Option.map_eq_some_iff.mp resumes
  rfl

theorem hook_contexts {worker : WorkerId} {now : Time} (hooked : runtime.hook config worker now = some next) :
    next.contexts = runtime.contexts ∨ ∃ sessionId before after,
      Moves config runtime (.hook worker now) sessionId before after ∧
        next.contexts = Function.update runtime.contexts sessionId (some after.ctx) := by
  unfold GatewayRuntime.hook at hooked
  obtain ⟨awaited,awaits,hooked⟩ := Option.bind_eq_some_iff.mp hooked
  cases awaited with
  | none => exact .inl (resume_contexts hooked)
  | some pair =>
    obtain ⟨sessionId,program⟩ := pair
    dsimp only at hooked
    split at hooked
    · exact .inl (resume_contexts hooked)
    · rename_i view found
      exact .inr ⟨sessionId,view,_,.hook awaits found,resume_contexts hooked⟩

theorem publish_contexts {worker : WorkerId} {answer : Except PyError AdapterResult} {moment : Moment}
    (published : runtime.publish config worker answer moment = some next) :
    next.contexts = runtime.contexts ∨ ∃ sessionId before after,
      Moves config runtime (.publish worker answer moment) sessionId before after ∧
        next.contexts = Function.update runtime.contexts sessionId (some after.ctx) := by
  unfold GatewayRuntime.publish at published
  obtain ⟨⟨job,result⟩,publishes,published⟩ := Option.bind_eq_some_iff.mp published
  dsimp only at published
  split at published
  · exact .inl (resume_contexts published)
  rename_i view found
  obtain ⟨program,goesOn,published⟩ := Option.bind_eq_some_iff.mp published
  refine .inr ⟨result.sessionId,view,_,.publish publishes found goesOn,?_⟩
  split at published
  · rename_i after ran
    rw [ran]
    exact resume_contexts published
  · rename_i after ran
    rw [ran]
    cases published
    rfl
  · rename_i exc after ran
    rw [ran]
    exact resume_contexts published

/-- A step opens a session, or changes at most one, by the code of the session that it runs. -/
theorem step_contexts (stepped : runtime.step config action = some next) :
    (∃ sessionId worker backendSessionId language options now,
      action = .openSession sessionId worker backendSessionId language options now ∧ runtime.contexts sessionId = none ∧
        next.contexts = Function.update runtime.contexts sessionId
          (some (openContext config sessionId worker backendSessionId language options now))) ∨
    next.contexts = runtime.contexts ∨ ∃ sessionId before after, Moves config runtime action sessionId before after ∧
      next.contexts = Function.update runtime.contexts sessionId (some after.ctx) := by
  unfold GatewayRuntime.step at stepped
  split at stepped
  · cases stepped
  cases action with
  | openSession sessionId worker backendSessionId language options now =>
    dsimp only at stepped
    split at stepped
    · cases stepped
    rename_i fresh
    cases stepped
    rw [Bool.or_eq_true,not_or] at fresh
    exact .inl ⟨_,_,_,_,_,_,rfl,Option.not_isSome_iff_eq_none.mp fresh.1,rfl⟩
  | command sessionId call =>
    obtain ⟨view,found,stepped⟩ := Option.bind_eq_some_iff.mp stepped
    obtain ⟨program,issued,stepped⟩ := Option.bind_eq_some_iff.mp stepped
    cases stepped
    exact .inr (.inr ⟨_,_,_,.command found issued,rfl⟩)
  | proceed sessionId input moment =>
    obtain ⟨view,found,stepped⟩ := Option.bind_eq_some_iff.mp stepped
    obtain ⟨program,goesOn,stepped⟩ := Option.bind_eq_some_iff.mp stepped
    cases stepped
    exact .inr (.inr ⟨_,_,_,.proceed found goesOn,rfl⟩)
  | abort sessionId =>
    obtain ⟨view,found,stepped⟩ := Option.bind_eq_some_iff.mp stepped
    cases stepped
    exact .inr (.inr ⟨_,_,_,.abort found,rfl⟩)
  | resumeAbort sessionId task =>
    obtain ⟨view,found,stepped⟩ := Option.bind_eq_some_iff.mp stepped
    obtain ⟨program,resumes,stepped⟩ := Option.bind_eq_some_iff.mp stepped
    cases stepped
    exact .inr (.inr ⟨_,_,_,.resumeAbort found resumes,rfl⟩)
  | send sessionId =>
    obtain ⟨view,found,stepped⟩ := Option.bind_eq_some_iff.mp stepped
    obtain ⟨program,sends,stepped⟩ := Option.bind_eq_some_iff.mp stepped
    cases stepped
    exact .inr (.inr ⟨_,_,_,.send found sends,rfl⟩)
  | runOnce worker force now =>
    dsimp only at stepped
    split at stepped
    · cases stepped
      exact .inr (.inl rfl)
    · cases stepped
  | submitted worker reply now =>
    dsimp only at stepped
    split at stepped
    · cases stepped
    · exact .inr (.inl (resume_contexts stepped))
  | hook worker now => exact .inr (hook_contexts stepped)
  | publish worker answer moment => exact .inr (publish_contexts stepped)
  | closeScheduler =>
    cases stepped
    exact .inr (.inl rfl)

/-- What holds of every session that is opened, and is kept by its code, holds of every session. -/
theorem contexts_step {Inv : SessionContext V → Prop}
    (opened : ∀ sessionId worker backendSessionId language options now,
      Inv (openContext config sessionId worker backendSessionId language options now))
    (moved : ∀ sessionId before after, Moves config runtime action sessionId before after → Inv before.ctx → Inv after.ctx)
    (holds : ∀ sessionId ctx, runtime.contexts sessionId = some ctx → Inv ctx)
    (stepped : runtime.step config action = some next) : ∀ sessionId ctx, next.contexts sessionId = some ctx → Inv ctx := by
  intro sessionId ctx found
  rcases step_contexts stepped with ⟨own,_,_,_,_,_,_,_,contexts⟩ | contexts | ⟨own,before,after,moves,contexts⟩
  · rw [contexts] at found
    by_cases same : sessionId = own
    · subst same
      rw [Function.update_self] at found
      cases found
      exact opened _ _ _ _ _ _
    · rw [Function.update_of_ne same] at found
      exact holds _ _ found
  · rw [contexts] at found
    exact holds _ _ found
  · rw [contexts] at found
    by_cases same : sessionId = own
    · subst same
      rw [Function.update_self] at found
      cases found
      refine moved _ _ _ moves (holds sessionId _ ?_)
      cases moves <;> exact view_ctx ‹_›
    · rw [Function.update_of_ne same] at found
      exact holds _ _ found

end SpeechGateway.Gateway
