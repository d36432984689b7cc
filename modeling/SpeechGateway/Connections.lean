import Mathlib.Data.Nat.Sqrt
import SpeechGateway.Backlog
import SpeechGateway.Coordinator
import SpeechGateway.JsonText

/-!
A connection of `/v1/transcribe/stream` from its start message to its end. A `World` answers what
lies outside: the clock, the coordinator, which may refuse, fail or take too long, the socket, whose
client may leave at any frame, and the recursion limit. `StreamingSessionController` serves a stateful stream, and
`_run_chunked_transcribe_stream` cuts the audio of a chunked one.
-/
namespace SpeechGateway.Connections
open SpeechGateway.Streaming SpeechGateway.Vad SpeechGateway.Coordinator Programs
open SpeechGateway.Stateful (Failure StreamProgress LagLimits StreamingTranscriptionResult frames lastFinished)
open JsonText (JsonError Nesting Value)
open Unicode (Str char isHigh isLow)

/-- The signed 16-bit samples of a byte string. -/
def signedSamples : Pcm → List Int
  | low :: high :: rest => (BitVec.ofNat 16 (low.toNat + 256 * high.toNat)).toInt :: signedSamples rest
  | _ => []

def pcmS16leRms (pcm : Pcm) : Nat :=
  if sampleCount pcm = 0 then 0 else
  Nat.sqrt (((signedSamples pcm).map fun sample => (sample * sample).toNat).sum / sampleCount pcm)

def pcmS16leDurationSeconds (pcm : Pcm) (sampleRate : Nat) : Time :=
  if sampleRate = 0 then 0 else (sampleCount pcm : Rat) / sampleRate

structure SilenceEndpointDetector where
  silenceSeconds : Time
  rmsThreshold : Nat
  currentSilenceSeconds : Time := 0
  committedForCurrentSilence : Bool := false
  deriving DecidableEq, Repr

namespace SilenceEndpointDetector

def addAudio (detector : SilenceEndpointDetector) (pcm : Pcm) (sampleRate : Nat) : Bool × SilenceEndpointDetector :=
  if pcm = [] then (false,detector) else
  if detector.rmsThreshold < pcmS16leRms pcm then
    (false,{ detector with currentSilenceSeconds := 0, committedForCurrentSilence := false }) else
  let quiet := { detector with
    currentSilenceSeconds := detector.currentSilenceSeconds + pcmS16leDurationSeconds pcm sampleRate }
  if quiet.currentSilenceSeconds < quiet.silenceSeconds ∨ quiet.committedForCurrentSilence then (false,quiet) else
  (true,{ quiet with committedForCurrentSilence := true })

def reset (detector : SilenceEndpointDetector) : SilenceEndpointDetector :=
  { detector with currentSilenceSeconds := 0, committedForCurrentSilence := false }

end SilenceEndpointDetector

/-- What the coordinator returns for audio, the end of a segment and the end of a stream: a
    snapshot and its continuations. -/
structure Transcription where
  first : StreamingTranscriptionResult
  continuations : List StreamingTranscriptionResult
  queueWaitSeconds : Time
  inferenceSeconds : Time

def Transcription.snapshots (result : Transcription) : List StreamingTranscriptionResult :=
  result.first :: result.continuations

/-- How an operation of the coordinator ends: it returns, it is refused, the model or the library
    raises, or the rest of the session is too short for it. -/
inductive OperationOutcome (α : Type)
  | returned (value : α)
  | refused (error : CoordinatorError)
  | failed (exc : PyError)
  | timedOut

def OperationOutcome.value {α : Type} : OperationOutcome α → Option α
  | .returned value => some value
  | _ => none

/-- What happens outside at each step that a connection takes. -/
structure World where
  clock : Nat → Time
  created : Nat → OperationOutcome SessionId
  transcribed : Nat → OperationOutcome Transcription
  recognized : Nat → OperationOutcome Text
  /-- Whether the client is still there when a frame is sent. -/
  reached : Nat → Bool
  /-- What a frame raises that is not written, unless that is `WebSocketDisconnect`. -/
  unsent : Nat → Option PyError
  /-- Where the timeout around a send runs out, whether the frame was written nevertheless. -/
  cutOff : Nat → Option Bool
  /-- How deep `json.loads` reads. -/
  nesting : Nesting

/-- A message of the client as `websocket.receive` returns it. -/
structure Message where
  disconnect : Bool
  bytes : Option Pcm
  text : Option Str

/-- What the server waits for: a message, or the end of its patience. -/
inductive Arrival
  | message (message : Message)
  | timedOut

/-- The settings that a connection reads. `vad` is there where the backend is `qwen_vllm`. The proof
    is what the validators of `Settings` check. -/
structure ConnectionSettings where
  apiKey : Str
  stateful : Bool
  idleTimeoutSeconds : Time
  maxSessionSeconds : Time
  maxAudioSeconds : Time
  maxFrameBytes : Nat
  streamChunkSeconds : Time
  vadSilenceSeconds : Time
  vadRmsThreshold : Nat
  stableCommitEnabled : Bool
  stableCommitSeconds : Time
  stableCommitMinChars : Int
  stableCommitMinUpdates : Int
  commitOnPunctuation : Bool
  lag : LagLimits
  vad : Option VADSettings
  framePositive : 0 < maxFrameBytes

namespace ConnectionSettings

def maxSamples (settings : ConnectionSettings) : Int := (settings.maxAudioSeconds * 16000).floor

/-- `min_chunk_bytes` at 16000 Hz. -/
def minChunkBytes (settings : ConnectionSettings) : Nat := max 1 (16000 * 2 * settings.streamChunkSeconds).floor.toNat

/-- `StreamingTranscriptState` as the controller makes it. -/
def transcriptConfig (settings : ConnectionSettings) : TranscriptConfig where
  sampleRate := 16000
  stableCommitEnabled := settings.stableCommitEnabled
  stableCommitSeconds := settings.stableCommitSeconds
  stableCommitMinChars := settings.stableCommitMinChars
  stableCommitMinUpdates := settings.stableCommitMinUpdates
  immediateCommitOnPunctuation := settings.commitOnPunctuation && !settings.stateful
  segmentLocalSnapshots := settings.stateful
  sampleRatePositive := Streaming.sessionRate_positive

def silenceDetector (settings : ConnectionSettings) : SilenceEndpointDetector where
  silenceSeconds := settings.vadSilenceSeconds
  rmsThreshold := settings.vadRmsThreshold

end ConnectionSettings

/-- A frame that the server writes. -/
inductive Frame
  | event (event : TranscriptEvent)
  | error (failure : Failure) (sequence : Nat)
  | close (code : Nat)
  deriving DecidableEq, Repr

inductive Socket
  | open
  | closed
  | gone
  deriving DecidableEq, Repr

/-- What the coordinator was asked. `createStream` is noted with the session that it returned. -/
inductive CoordinatorCall
  | createStream (language : Option Str) (created : Option SessionId)
  | addAudio (sessionId : SessionId) (pcm : Pcm)
  | transcribeStreamChunk (sessionId : SessionId) (pcm : Pcm)
  | finishSegment (sessionId : SessionId)
  | finishStream (sessionId : SessionId)
  | abortStream (sessionId : SessionId)
  deriving DecidableEq

/-- What a connection raises. -/
inductive Raised
  | streamClosed
  | disconnected
  | coordinator (error : CoordinatorError)
  | python (exc : PyError)
  | json (error : JsonError)
  deriving DecidableEq

/-- What a frame raises that is not written. -/
def World.lost (world : World) (step : Nat) : Raised :=
  match world.unsent step with
  | none => .disconnected
  | some exc => .python exc

/-- A controller and its socket. The detector is there where the settings have one. The frames and
    calls so far are read by no code; `steps` counts what was asked of the world. -/
structure Connection (σ : Type) where
  transcript : StreamingTranscriptState
  silence : SilenceEndpointDetector
  vad : StreamingVADEndpointDetector σ
  sessionId : Option SessionId := none
  finished : Bool := false
  acceptedSamples : Nat := 0
  progress : StreamProgress := {}
  sessionDeadline : Time
  socket : Socket := .open
  frames : List Frame := []
  calls : List CoordinatorCall := []
  steps : Nat := 0

abbrev Code (σ α : Type) := EStateM Raised (Connection σ) α

/-- `StreamingSessionController.__init__`, and a socket that was accepted. -/
def Connection.accepted {σ : Type} (settings : ConnectionSettings) (world : World) (start : σ) : Connection σ where
  transcript := .init settings.transcriptConfig
  silence := settings.silenceDetector
  vad := { backendState := start }
  sessionDeadline := world.clock 0 + settings.maxSessionSeconds
  steps := 1

section
variable {σ α : Type} (chars : Alphabet) (settings : ConnectionSettings) (world : World) (backend : VADBackend σ)

def step : Code σ Nat := do
  let steps := (← get).steps
  modify fun connection => { connection with steps := steps + 1 }
  return steps

/-- `websocket.send_json` and `websocket.close`. -/
def transmit (frame : Frame) : Code σ Unit := do
  let steps ← step
  match (← get).socket with
  | .closed | .gone => throw (world.lost steps)
  | .open =>
    if world.reached steps then
      modify fun connection => { connection with
        frames := connection.frames ++ [frame]
        socket := if frame matches .close _ then .closed else .open }
    else do
      modify fun connection => { connection with socket := .gone }
      throw (world.lost steps)

/-- `fail`. -/
def fail (failure : Failure) : Code σ Unit := do
  let (event,transcript) := (← get).transcript.newEvent .error
  modify fun connection => { connection with transcript := transcript }
  transmit world (.error failure event.sequence)
  transmit world (.close failure.closeCode)

/-- `fail`, and the exception that ends the stream. -/
def refuse (failure : Failure) : Code σ α := do
  fail world failure
  throw .streamClosed

/-- Tells the client about the exceptions that a handler names. -/
def reporting (handler : Raised → Option Failure) (program : Code σ α) : Code σ α :=
  tryCatch program fun exc =>
    match handler exc with
    | some failure => refuse world failure
    | none => throw exc

/-- `remaining_session_seconds`. -/
def remainingSessionSeconds : Code σ Time := do
  let now := world.clock (← step)
  return max 0 ((← get).sessionDeadline - now)

def call (request : CoordinatorCall) : Code σ Unit :=
  modify fun connection => { connection with calls := connection.calls ++ [request] }

/-- `abort`; whatever `abort_stream` raises is dropped. -/
def abort : Code σ Unit := do
  match (← get).sessionId with
  | none => pure ()
  | some sessionId => do
    modify fun connection => { connection with sessionId := none }
    call (.abortStream sessionId)

def sessionTimeout : Failure := ⟨"session_timeout","Maximum session duration exceeded",1008⟩

/-- `_expire_session`. -/
def expireSession : Code σ α := do
  abort
  refuse world sessionTimeout

/-- `_ensure_session_active`. -/
def ensureSessionActive : Code σ Unit := do
  let remaining ← remainingSessionSeconds world
  when (remaining ≤ 0) (expireSession world)

/-- `_send_event`. -/
def sendEvent (event : TranscriptEvent) : Code σ Unit := do
  let remaining ← remainingSessionSeconds world
  when (remaining ≤ 0) (expireSession world)
  match world.cutOff (← step) with
  | none => transmit world (.event event)
  | some written => do
    when written (transmit world (.event event))
    expireSession world

/-- `_send_events`. -/
def sendEvents : List TranscriptEvent → Code σ Unit
  | [] => pure ()
  | event :: rest => do
    ensureSessionActive world
    sendEvent world event
    sendEvents rest

/-- Changes the transcript; what the change emits is sent, and what it raises is raised. -/
def emit (change : StreamingTranscriptState → Outcome (List TranscriptEvent)) : Code σ Unit := do
  let (reply,transcript) := change (← get).transcript
  modify fun connection => { connection with transcript := transcript }
  match reply with
  | .ok events => sendEvents world events
  | .error exc => throw (.python exc)

/-- Sends an event that the transcript makes. -/
def announce (make : StreamingTranscriptState → TranscriptEvent × StreamingTranscriptState) : Code σ Unit := do
  let (event,transcript) := make (← get).transcript
  modify fun connection => { connection with transcript := transcript }
  sendEvent world event

/-- The end of `_await_model_operation`. -/
def concluded (outcome : OperationOutcome α) : Code σ α :=
  match outcome with
  | .returned value => pure value
  | .refused error => throw (.coordinator error)
  | .failed exc => throw (.python exc)
  | .timedOut => expireSession world

/-- `_await_model_operation`, of an operation that is noted with its outcome. -/
def awaitModelOperation (request : OperationOutcome α → CoordinatorCall) (outcome : Nat → OperationOutcome α) : Code σ α := do
  let remaining ← remainingSessionSeconds world
  when (remaining ≤ 0) (expireSession world)
  let outcome := outcome (← step)
  call (request outcome)
  concluded world outcome

/-- `assert self.session_id is not None`. -/
def requireSession : Code σ SessionId := do
  match (← get).sessionId with
  | some sessionId => return sessionId
  | none => throw (.python (.foreign "AssertionError"))

def serverBusy : Failure := ⟨"server_busy","ASR is at capacity",1013⟩
def inferenceTimedOut : Failure := ⟨"inference_timeout","ASR inference timed out",1011⟩
def lagExceeded : Failure := ⟨"realtime_lag_exceeded","ASR can no longer keep up in real time",1013⟩

/-- The handlers of an operation that names some errors as those of a busy server. -/
def operationFailed (busy : List CoordinatorError) (message : String) : Raised → Option Failure
  | .streamClosed => none
  | .coordinator error =>
    if error ∈ busy then some serverBusy else
    if error = .inferenceTimeout then some inferenceTimedOut else
    some ⟨"inference_error",message,1011⟩
  | _ => some ⟨"inference_error",message,1011⟩

/-- The handlers of `_start_with`. -/
def startFailed : Raised → Option Failure
  | .streamClosed => none
  | .python (.valueError _) => some ⟨"invalid_language","Unsupported language",1003⟩
  | .coordinator error =>
    if error ∈ [.queueFull,.queueTimeout,.sessionLimit,.sessionBusy,.batchConflict] then some serverBusy else
    if error = .notReady then some ⟨"not_ready","ASR is not ready",1013⟩ else
    some ⟨"inference_error","Unable to create ASR session",1011⟩
  | _ => some ⟨"inference_error","Unable to create ASR session",1011⟩

/-- The handlers of `_add_model_audio`. -/
def addAudioFailed (exc : Raised) : Option Failure :=
  if exc = .coordinator .sessionPoisoned then some ⟨"session_poisoned","ASR session can no longer be used",1011⟩ else
  operationFailed [.queueFull,.queueTimeout,.sessionLimit,.sessionBusy,.batchConflict] "ASR inference failed" exc

/-- The handlers of `transcribe_chunk`. -/
def chunkFailed : Raised → Option Failure :=
  operationFailed [.queueFull,.queueTimeout,.sessionBusy,.batchConflict] "ASR inference failed"

/-- The handlers of `reset_segment`. -/
def segmentFailed : Raised → Option Failure :=
  operationFailed [.queueFull,.queueTimeout,.sessionBusy,.batchConflict] "ASR segment reset failed"

/-- The handler of `ConfirmedPrefixConflict`. -/
def transcriptConflict : Raised → Option Failure
  | .python (.confirmedPrefixConflict _) =>
    some ⟨"transcript_conflict","Model output conflicts with confirmed text",1011⟩
  | _ => none

/-- The handlers of `finish`. -/
def finishFailed (exc : Raised) : Option Failure :=
  (transcriptConflict exc).or (operationFailed [.queueFull,.queueTimeout,.sessionBusy] "ASR finalization failed" exc)

/-! ## `StreamingSessionController` -/

/-- `_start_with`. -/
def startWith (language : Option Str) : Code σ Unit := do
  let sessionId ← reporting world startFailed
    (awaitModelOperation world (fun outcome => .createStream language outcome.value) world.created)
  modify fun connection => { connection with sessionId := some sessionId }
  ensureSessionActive world
  announce world fun transcript => transcript.newEvent .ready

/-- `_observe_stream_progress`. -/
def observeStreamProgress (result : Transcription) (submittedSamples : Nat) : Code σ Bool := do
  let now := world.clock (← step)
  let (late,progress) := (← get).progress.observe settings.lag result.snapshots submittedSamples
    ⟨result.queueWaitSeconds,result.inferenceSeconds,now⟩
  modify fun connection => { connection with progress := progress }
  return late

/-- `_enforce_stream_progress`, also as `_add_model_audio` has it. -/
def enforceStreamProgress (result : Transcription) (submittedSamples : Nat) : Code σ Unit := do
  let late ← observeStreamProgress settings world result submittedSamples
  when late (refuse world lagExceeded)

/-- `_apply_stream_result`. -/
def applyStreamResult (result : StreamingTranscriptionResult) : Code σ Unit :=
  emit world fun transcript =>
    if settings.stateful then transcript.applySegmentSnapshot result.segmentId result.segmentText result.decodedSamplesDelta
    else transcript.applyModelUpdate chars result.segmentText result.decodedSamplesDelta

/-- `commit_pending`, and the events of it. -/
def commitPending : Code σ Unit :=
  emit world fun transcript => (.ok (transcript.commitPending chars).1,(transcript.commitPending chars).2)

/-- `_commit_finished_segment`. -/
def commitFinishedSegment (resetEndpointDetector : Bool) : Code σ Unit := do
  commitPending chars world
  modify fun connection => { connection with
    transcript := connection.transcript.resetSegment
    silence := connection.silence.reset
    vad := if resetEndpointDetector && settings.vad.isSome then connection.vad.reset backend else connection.vad }

/-- The loop of `_add_model_audio` over the snapshots of a result. -/
def applySnapshots : List StreamingTranscriptionResult → Code σ Unit
  | [] => pure ()
  | snapshot :: rest => do
    when (snapshot.modelUpdated || snapshot.segmentFinished) (applyStreamResult chars settings world snapshot)
    when (snapshot.segmentFinished ∧ rest ≠ []) (commitFinishedSegment chars settings world backend false)
    applySnapshots rest

/-- `_add_model_audio`: whether the last snapshot finished its segment. -/
def addModelAudio (pcm : Pcm) : Code σ Bool := do
  let sessionId ← requireSession
  let result ← reporting world addAudioFailed (awaitModelOperation world (fun _ => .addAudio sessionId pcm) world.transcribed)
  ensureSessionActive world
  enforceStreamProgress settings world result (sampleCount pcm)
  reporting world transcriptConflict (applySnapshots chars settings world backend result.snapshots)
  return lastFinished result.snapshots

/-- The loop of `_add_vad_audio`. -/
def addFrames : List Pcm → Bool → Code σ Bool
  | [], finished => pure finished
  | frame :: rest, _ => do
    let finished ← addModelAudio chars settings world backend frame
    when finished (commitFinishedSegment chars settings world backend false)
    addFrames rest finished

/-- `_add_vad_audio`. -/
def addVadAudio (pcm : Pcm) : Code σ Bool :=
  addFrames chars settings world backend (frames settings.maxFrameBytes pcm) false

/-- `reset_segment`. -/
def resetSegment (resetEndpointDetector : Bool) : Code σ Unit := do
  let sessionId ← requireSession
  let result ← reporting world segmentFailed (awaitModelOperation world (fun _ => .finishSegment sessionId) world.transcribed)
  ensureSessionActive world
  enforceStreamProgress settings world result 0
  reporting world transcriptConflict (applyStreamResult chars settings world result.first)
  commitFinishedSegment chars settings world backend resetEndpointDetector

/-- `_handle_vad_decision`. -/
def handleVadDecision (decision : VADDecision) : Code σ Unit := do
  let finished ← (if decision.audioToModel ≠ [] then addVadAudio chars settings world backend decision.audioToModel
    else pure false)
  when (decision.endpoint ∧ !finished) (resetSegment chars settings world backend false)

/-- `validate_audio_frame`. -/
def validateAudioFrame (pcm : Pcm) : Code σ Unit := do
  when (pcm = [] ∨ pcm.length % 2 ≠ 0)
    (refuse world ⟨"invalid_audio_frame","Audio frames must contain aligned PCM samples",1003⟩)
  when (settings.maxFrameBytes < pcm.length)
    (refuse world ⟨"frame_too_large","Audio frame exceeds the configured limit",1009⟩)
  when (settings.maxSamples < ((← get).acceptedSamples + sampleCount pcm : Nat))
    (refuse world ⟨"audio_limit_exceeded","Maximum audio duration exceeded",1008⟩)
  modify fun connection => { connection with acceptedSamples := connection.acceptedSamples + sampleCount pcm }

/-- Calls the detector. -/
def hearing (listen : StreamingVADEndpointDetector σ → Except PyError VADDecision × StreamingVADEndpointDetector σ) :
    Code σ VADDecision := do
  let (reply,vad) := listen (← get).vad
  modify fun connection => { connection with vad := vad }
  match reply with
  | .ok decision => return decision
  | .error exc => throw (.python exc)

/-- The loop of `add_audio`. Every endpoint but the first takes a frame from the input buffer of the
    detector, whose length bounds the loop. -/
def followDecision (vad : VADSettings) : Nat → VADDecision → Code σ Unit
  | 0, _ => throw (.python (.foreign "RecursionError"))
  | fuel+1, decision => do
    handleVadDecision chars settings world backend decision
    if decision.endpoint then
      let later ← hearing fun detector =>
        (.ok (detector.endpointFinalized vad backend).1,(detector.endpointFinalized vad backend).2)
      followDecision vad fuel later
    else pure ()

/-- `add_audio`. -/
def addAudio (pcm : Pcm) : Code σ Unit := do
  validateAudioFrame settings world pcm
  match settings.vad with
  | some vad => do
    let decision ← hearing (·.addAudio vad backend pcm)
    followDecision chars settings world backend vad ((← get).vad.inputBuffer.length + 2) decision
  | none => do
    let finished ← addModelAudio chars settings world backend pcm
    let (silenceEndpoint,silence) := (← get).silence.addAudio pcm 16000
    modify fun connection => { connection with silence := silence }
    if finished then commitFinishedSegment chars settings world backend false
    else when silenceEndpoint (resetSegment chars settings world backend true)

/-- `finish_input`, and what it releases. -/
def endInput : Code σ Bool :=
  match settings.vad with
  | none => pure false
  | some vad => do
    let pending ← hearing fun detector => (.ok (detector.finishInput vad backend).1,(detector.finishInput vad backend).2)
    if pending.audioToModel ≠ [] then addVadAudio chars settings world backend pending.audioToModel else pure false

/-- `explicit_segment`. -/
def explicitSegment : Code σ Unit := do
  let alreadyFinalized ← endInput chars settings world backend
  when (!alreadyFinalized) (resetSegment chars settings world backend false)
  when settings.vad.isSome (modify fun connection => { connection with vad := connection.vad.reset backend })

/-- `finish`. -/
def finish : Code σ Unit := do
  let _ ← requireSession
  reporting world finishFailed do
    let _ ← endInput chars settings world backend
    let sessionId ← requireSession
    let result ← awaitModelOperation world (fun _ => .finishStream sessionId) world.transcribed
    ensureSessionActive world
    enforceStreamProgress settings world result 0
    applyStreamResult chars settings world result.first
    announce world fun transcript => transcript.finalEvent
  modify fun connection => { connection with finished := true, sessionId := none }
  transmit world (.close 1000)

/-- `_lag_exceeded`. -/
def chunkTooLate (processingSeconds audioSeconds : Time) : Code σ Bool := do
  let debt := max 0 ((← get).progress.processingDebtSeconds + processingSeconds - audioSeconds)
  modify fun connection => { connection with progress := { connection.progress with processingDebtSeconds := debt } }
  return decide (settings.lag.maxConnectionLagSeconds < debt)

/-- `transcribe_chunk`. -/
def transcribeChunk (pcm : Pcm) : Code σ Text := do
  let started := world.clock (← step)
  let text ← reporting world chunkFailed do
    let sessionId ← requireSession
    awaitModelOperation world (fun _ => .transcribeStreamChunk sessionId pcm) world.recognized
  ensureSessionActive world
  let elapsed := world.clock (← step) - started
  let late ← chunkTooLate settings elapsed ((sampleCount pcm : Rat) / 16000)
  when late (refuse world lagExceeded)
  return text

/-! ## `transcribe_stream` -/

structure ASRStreamStart where
  apiKey : Str
  language : Option Str
  sampleRate : Int
  deriving DecidableEq

def str (text : String) : Str := text.toList.map char

/-- The members of a JSON object. -/
abbrev Payload := List (Str × Value)

def Value.isStr (text : String) : Option Value → Bool
  | some (.str value) => value == str text
  | _ => false

/-- `language` of an `ASRStreamStart`: text of at most 32 characters, all of them scalars. -/
def startLanguage : Option Value → Option (Option Str)
  | none | some .null => some none
  | some (.str text) =>
    if text.length ≤ 32 ∧ text.all (fun c => !isHigh c && !isLow c) then some (some text) else none
  | _ => none

/-- `sample_rate` of an `ASRStreamStart`, which takes no `bool` and no `float`. -/
def startSampleRate : Option Value → Option Int
  | none => some 16000
  | some (.int rate) => some rate
  | _ => none

/-- `api_key` of an `ASRStreamStart`. -/
def startApiKey : Option Value → Option Str
  | some (.str text) => some text
  | _ => none

/-- `ASRStreamStart.model_validate`. -/
def modelValidate (payload : Payload) : Option ASRStreamStart :=
  if !Value.isStr "start" (payload.lookup (str "type")) then none else
  if !((payload.lookup (str "format")).isNone || Value.isStr "pcm_s16le" (payload.lookup (str "format"))) then none else do
  let apiKey ← startApiKey (payload.lookup (str "api_key"))
  let language ← startLanguage (payload.lookup (str "language"))
  let sampleRate ← startSampleRate (payload.lookup (str "sample_rate"))
  return ⟨apiKey,language,sampleRate⟩

/-- `is_valid_api_key`. -/
def isValidApiKey (apiKey : Str) : Bool := decide (apiKey ≠ []) && decide (apiKey = settings.apiKey)

def invalidStart (message : String) : Failure := ⟨"invalid_start",message,1003⟩
def unsupportedSampleRate : Failure := ⟨"unsupported_sample_rate","Only 16000 Hz audio is supported",1003⟩

/-- `language` is absent, null or a string. -/
def isLanguage : Option Value → Bool
  | none | some .null | some (.str _) => true
  | _ => false

/-- `sample_rate` is an integer other than 16000. -/
def isOtherRate : Option Value → Bool
  | some (.int rate) => decide (rate ≠ 16000)
  | _ => false

/-- What `_parse_stream_start` makes of an object. -/
def readStart (payload : Payload) : Except Failure ASRStreamStart :=
  if !isLanguage (payload.lookup (str "language")) then
    .error ⟨"invalid_language","Language must be a string or null",1003⟩ else
  if isOtherRate (payload.lookup (str "sample_rate")) then .error unsupportedSampleRate else
  match modelValidate payload with
  | none => .error (invalidStart "Invalid start message")
  | some start =>
    if start.sampleRate ≠ 16000 then .error unsupportedSampleRate else
    if !isValidApiKey settings start.apiKey then .error ⟨"invalid_api_key","Invalid or missing API key",1008⟩ else
    .ok start

/-- `_parse_stream_start`: a start, what is wrong with the message, or what `json.loads` raises besides
    `JSONDecodeError`. -/
def parseStreamStart (rawStart : Str) : Except JsonError (Except Failure ASRStreamStart) :=
  match JsonText.loads world.nesting rawStart with
  | .error .decode => .ok (.error (invalidStart "Expected a JSON start message"))
  | .error error => .error error
  | .ok (.dict payload) => .ok (readStart settings payload)
  | .ok _ => .ok (.error (invalidStart "Expected a JSON object"))

/-- A command of the client, what is wrong with it, or what `json.loads` raises besides `JSONDecodeError`. -/
inductive Command
  | finish
  | segment
  | invalid (message : String)
  | raised (error : JsonError)
  deriving DecidableEq

def readCommand (room : Nesting) (text : Str) : Command :=
  match JsonText.loads room text with
  | .error .decode => .invalid "Expected a JSON command"
  | .error error => .raised error
  | .ok (.dict payload) =>
    if Value.isStr "end" (payload.lookup (str "type")) then .finish else
    if Value.isStr "segment" (payload.lookup (str "type")) then .segment else
    .invalid "Unsupported stream command"
  | .ok _ => .invalid "Expected a JSON object"

def invalidMessage (message : String) : Failure := ⟨"invalid_message",message,1003⟩

/-- What a message that did not come is answered with, where the session has `remaining` seconds left. -/
def receiveTimeout (remaining : Time) : Failure :=
  if remaining ≤ settings.idleTimeoutSeconds then sessionTimeout
  else ⟨"idle_timeout","No audio or command was received in time",1008⟩

/-- Answers a message, where the session has `remaining` seconds left: whether the loop goes on. -/
def answer (remaining : Time) : Arrival → Code σ Bool
  | .timedOut => do
    fail world (receiveTimeout settings remaining)
    return false
  | .message message =>
    if message.disconnect then pure false else
    match message.bytes, message.text with
    | some pcm, _ => do
      addAudio chars settings world backend pcm
      return true
    | none, none => do
      fail world (invalidMessage "Expected audio or a JSON command")
      return false
    | none, some text =>
      match readCommand world.nesting text with
      | .raised error => throw (.json error)
      | .finish => do
        finish chars settings world backend
        return false
      | .segment => do
        explicitSegment chars settings world backend
        return true
      | .invalid reason => do
        fail world (invalidMessage reason)
        return false

/-- The loop of `transcribe_stream`: whether it waits for another message. -/
def serveStateful : List Arrival → Code σ Bool
  | [] => do
    let remaining ← remainingSessionSeconds world
    when (remaining ≤ 0) (fail world sessionTimeout)
    return decide (0 < remaining)
  | arrival :: rest => do
    let remaining ← remainingSessionSeconds world
    if remaining ≤ 0 then
      fail world sessionTimeout
      return false
    else
      let goesOn ← answer chars settings world backend remaining arrival
      if goesOn then serveStateful rest else return false

/-- The text of a buffer joins the transcript. -/
def transcribeBuffer (buffer : Pcm) : Code σ Unit := do
  let text ← transcribeChunk settings world buffer
  when (text ≠ []) (emit world fun transcript =>
    (.ok (transcript.appendIndependentSegment chars text).1,(transcript.appendIndependentSegment chars text).2))

/-- `_flush_chunked_buffer`. The caller goes on with an empty buffer, and with a detector that is
    reset at a boundary. -/
def flushChunkedBuffer (buffer : Pcm) (commitBoundary : Bool) : Code σ Unit := do
  when (buffer ≠ []) (transcribeBuffer chars settings world buffer)
  when commitBoundary do
    ensureSessionActive world
    commitPending chars world
    modify fun connection => { connection with transcript := connection.transcript.resetSegment }

/-- The end of `_run_chunked_transcribe_stream`. -/
def finishChunked : Code σ Unit := do
  ensureSessionActive world
  announce world fun transcript => transcript.newEvent .final transcript.partialText
  abort
  transmit world (.close 1000)

/-- Answers a message of a chunked stream: with what the loop goes on. -/
def answerChunked (buffer : Pcm) (detector : SilenceEndpointDetector) (remaining : Time) :
    Arrival → Code σ (Option (Pcm × SilenceEndpointDetector))
  | .timedOut => refuse world (receiveTimeout settings remaining)
  | .message message =>
    if message.disconnect then pure none else
    match message.bytes, message.text with
    | some pcm, _ => do
      validateAudioFrame settings world pcm
      let full := decide (settings.minChunkBytes ≤ (buffer ++ pcm).length)
      when full (flushChunkedBuffer chars settings world (buffer ++ pcm) false)
      let (silent,detector) := detector.addAudio pcm 16000
      when silent (commitPending chars world)
      return some (if full then [] else buffer ++ pcm,detector)
    | none, none => return some (buffer,detector)
    | none, some text =>
      match readCommand world.nesting text with
      | .raised error => throw (.json error)
      | .finish => do
        flushChunkedBuffer chars settings world buffer false
        finishChunked world
        return none
      | .segment => do
        flushChunkedBuffer chars settings world buffer true
        return some ([],detector.reset)
      | .invalid reason => refuse world (invalidMessage reason)

/-- `_run_chunked_transcribe_stream`: the buffer with which it waits for another message. -/
def serveChunked (buffer : Pcm) (detector : SilenceEndpointDetector) : List Arrival → Code σ (Option Pcm)
  | [] => do
    let remaining ← remainingSessionSeconds world
    when (remaining ≤ 0) (refuse world sessionTimeout)
    return some buffer
  | arrival :: rest => do
    let remaining ← remainingSessionSeconds world
    when (remaining ≤ 0) (refuse world sessionTimeout)
    match ← answerChunked chars settings world buffer detector remaining arrival with
    | none => return none
    | some (buffer,detector) => serveChunked buffer detector rest

/-- What follows a start message. -/
def serve (language : Option Str) (arrivals : List Arrival) : Code σ Bool := do
  startWith world language
  if settings.stateful then serveStateful chars settings world backend arrivals
  else return (← serveChunked chars settings world [] settings.silenceDetector arrivals).isSome

/-- The body of `transcribe_stream`: whether it waits for another message. -/
def converse : List Arrival → Code σ Bool
  | [] => pure true
  | .timedOut :: _ => do
    fail world ⟨"start_timeout","Start message was not received in time",1008⟩
    return false
  | .message message :: rest => do
    match message.disconnect, message.text with
    | false, some rawStart =>
      match parseStreamStart settings world rawStart with
      | .error error => throw (.json error)
      | .ok (.error failure) => do
        fail world failure
        return false
      | .ok (.ok start) => serve chars settings world backend start.language rest
    | _, _ => do
      fail world (invalidStart "Expected a JSON start message")
      return false

/-- `transcribe_stream`. What the client has not sent yet is waited for; after the last message the
    session is given back, whatever was raised. -/
def transcribeStream (arrivals : List Arrival) : Code σ Bool := do
  let waits ← tryCatch (converse chars settings world backend arrivals) fun exc => do
    abort
    if exc = .streamClosed ∨ exc = .disconnected then return false else throw exc
  when (!waits) abort
  return waits

end

/-- How a connection stands: it waits for its client, or `transcribe_stream` has returned or raised. -/
inductive Standing
  | waits
  | returned
  | raised (exc : Raised)
  deriving DecidableEq

/-- A socket that is accepted and served with these arrivals. -/
def connect {σ : Type} (chars : Alphabet) (settings : ConnectionSettings) (world : World) (backend : VADBackend σ)
    (arrivals : List Arrival) (start : σ) : Standing × Connection σ :=
  match (transcribeStream chars settings world backend arrivals).run (.accepted settings world start) with
  | .ok true connection => (.waits,connection)
  | .ok false connection => (.returned,connection)
  | .error exc connection => (.raised exc,connection)

end SpeechGateway.Connections
