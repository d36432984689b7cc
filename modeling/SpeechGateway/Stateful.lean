import SpeechGateway.Programs
import SpeechGateway.Streaming
import SpeechGateway.Vad
import Mathlib.Data.Rat.Floor

/-!
A stateful stream. `QwenVLLMStreamingSession` feeds its model and cuts the audio into segments
of bounded length; `StreamingSessionController` hears a client through a detector, passes on
what the detector releases, and commits the text of every segment that ends: by its length, at
an endpoint, or on command.
-/
namespace SpeechGateway.Stateful
open SpeechGateway.Streaming SpeechGateway.Vad Programs

/-- The settings of a stateful stream. The proofs are what the validators of `Settings` check. -/
structure StreamSettings where
  maxFrameBytes : Nat
  maxUtteranceSeconds : Time
  stateWatchdogSeconds : Time
  streamChunkSeconds : Time
  maxAudioSeconds : Time
  stableCommitEnabled : Bool
  stableCommitSeconds : Time
  stableCommitMinChars : Int
  stableCommitMinUpdates : Int
  vad : VADSettings
  framePositive : 0 < maxFrameBytes
  frameEven : maxFrameBytes % 2 = 0
  utteranceExceedsFrame : (maxFrameBytes : Rat) / (2 * 16000) < maxUtteranceSeconds
  watchdogExceedsUtterance : maxUtteranceSeconds + (maxFrameBytes : Rat) / (2 * 16000) < stateWatchdogSeconds

namespace StreamSettings

def maxUtteranceSamples (settings : StreamSettings) : Nat := (roundHalfEven (settings.maxUtteranceSeconds * 16000)).toNat
def watchdogSamples (settings : StreamSettings) : Nat := (roundHalfEven (settings.stateWatchdogSeconds * 16000)).toNat
def chunkSamples (settings : StreamSettings) : Int := roundHalfEven (settings.streamChunkSeconds * 16000)
def maxSamples (settings : StreamSettings) : Int := (settings.maxAudioSeconds * 16000).floor

end StreamSettings

/-- The model behind a session: how a segment starts in a new session and after another one,
    what audio and the end of the audio do to its state, and what the state tells. -/
structure StreamingModel (S : Type) where
  start : S
  fresh : S → S
  transcribe : Pcm → S → S
  finish : S → S
  text : S → Text
  chunkId : S → Int
  chunkSizeSamples : S → Option Int

/-- A snapshot. The continuations of a result follow it in a list. -/
structure StreamingTranscriptionResult where
  segmentId : Nat
  segmentText : Text
  decodedSamplesDelta : Int
  modelUpdated : Bool
  segmentFinished : Bool := false
  deriving DecidableEq, Repr

/-- The last two fields are read by no code: all audio that the model was given, and the text
    with which each segment finished. -/
structure QwenVLLMStreamingSession (S : Type) where
  closed : Bool := false
  segmentId : Nat := 0
  segmentReceivedSamples : Nat := 0
  undecodedSamples : Int := 0
  state : S
  heard : Pcm := []
  finishedSegments : List (Nat × Text) := []
  deriving DecidableEq, Repr

namespace QwenVLLMStreamingSession
variable {S : Type} (settings : StreamSettings) (model : StreamingModel S)

/-- `_decode_progress`: the samples decoded, and whether the model was updated. -/
def decodeProgress (session : QwenVLLMStreamingSession S) (previousChunkId : Int) (previousText : Text) :
    (Int × Bool) × QwenVLLMStreamingSession S :=
  let decodedChunks := max 0 (model.chunkId session.state - previousChunkId)
  let chunkSamples := (model.chunkSizeSamples session.state).getD settings.chunkSamples
  let decodedSamples := min session.undecodedSamples (decodedChunks * chunkSamples)
  ((decodedSamples,decide (0 < decodedChunks) || decide (model.text session.state ≠ previousText)),
    { session with undecodedSamples := session.undecodedSamples - decodedSamples })

/-- `_stream_piece`. -/
def streamPiece (session : QwenVLLMStreamingSession S) (pcm : Pcm) : (Int × Bool) × QwenVLLMStreamingSession S :=
  let received := { session with
    segmentReceivedSamples := session.segmentReceivedSamples + sampleCount pcm
    undecodedSamples := session.undecodedSamples + sampleCount pcm
    state := model.transcribe pcm session.state
    heard := session.heard ++ pcm }
  received.decodeProgress settings model (model.chunkId session.state) (model.text session.state)

/-- `_finish_active_state`. -/
def finishActiveState (session : QwenVLLMStreamingSession S) : (Int × Bool) × QwenVLLMStreamingSession S :=
  let state := model.finish session.state
  let modelUpdated := decide (model.chunkId session.state < model.chunkId state) ||
    decide (model.text state ≠ model.text session.state)
  let processedSamples := if modelUpdated then session.undecodedSamples else 0
  ((processedSamples,modelUpdated),
    { session with state := state, undecodedSamples := session.undecodedSamples - processedSamples })

/-- `_start_fresh_segment`. -/
def startFreshSegment (session : QwenVLLMStreamingSession S) : QwenVLLMStreamingSession S :=
  { session with
    segmentId := session.segmentId + 1
    state := model.fresh session.state
    segmentReceivedSamples := 0
    undecodedSamples := 0
    finishedSegments := session.finishedSegments ++ [(session.segmentId,model.text session.state)] }

/-- A snapshot of the segment. -/
def snapshot (session : QwenVLLMStreamingSession S) (progress : Int × Bool) (segmentFinished : Bool) :
    StreamingTranscriptionResult :=
  ⟨session.segmentId,model.text session.state,progress.1,progress.2,segmentFinished⟩

/-- The loop of `add_pcm_s16le`. Every pass takes a sample, so their number bounds it. -/
def streamPieces : Nat → QwenVLLMStreamingSession S → Pcm → List StreamingTranscriptionResult × QwenVLLMStreamingSession S
  | 0, session, _ => ([],session)
  | fuel+1, session, pcm =>
    if sampleCount pcm = 0 then ([],session) else
    let segmentCapacity := settings.maxUtteranceSamples - session.segmentReceivedSamples
    let pieceSamples := min (sampleCount pcm) segmentCapacity
    let rest := pcm.drop (pieceSamples * 2)
    let (progress,session) := session.streamPiece settings model (pcm.take (pieceSamples * 2))
    if session.segmentReceivedSamples = settings.maxUtteranceSamples then
      let (flushed,session) := session.finishActiveState model
      let (later,last) := streamPieces fuel (session.startFreshSegment model) rest
      (session.snapshot model (progress.1 + flushed.1,progress.2 || flushed.2) true :: later,last)
    else
      let (later,last) := streamPieces fuel session rest
      (session.snapshot model progress false :: later,last)

/-- `add_pcm_s16le` at 16000 Hz. -/
def addPcmS16le (session : QwenVLLMStreamingSession S) (pcm : Pcm) :
    Except PyError (List StreamingTranscriptionResult × QwenVLLMStreamingSession S) :=
  if session.closed then .error (.runtimeError "streaming session is closed") else
  if settings.maxFrameBytes < pcm.length then
    .error (.valueError "Qwen vLLM streaming frame exceeds configured limit") else
  if pcm = [] then .ok ([session.snapshot model (0,false) false],session) else
  if settings.watchdogSamples < session.segmentReceivedSamples + sampleCount pcm then
    .error (.runtimeError "ASR utterance state exceeded invariant watchdog") else
  if sampleCount pcm = 0 then .error (.foreign "IndexError") else
  .ok (session.streamPieces settings model (sampleCount pcm) pcm)

/-- `finish_segment`. -/
def finishSegment (session : QwenVLLMStreamingSession S) :
    Except PyError (StreamingTranscriptionResult × QwenVLLMStreamingSession S) :=
  if session.closed then .error (.runtimeError "streaming session is closed") else
  let (progress,session) := session.finishActiveState model
  .ok (session.snapshot model progress true,session.startFreshSegment model)

def finish (session : QwenVLLMStreamingSession S) :
    Except PyError (StreamingTranscriptionResult × QwenVLLMStreamingSession S) :=
  if session.closed then .error (.runtimeError "streaming session is closed") else
  let (progress,session) := session.finishActiveState model
  .ok (session.snapshot model progress false,{ session with closed := true })

end QwenVLLMStreamingSession

/-! ## `StreamingSessionController` -/

/-- What the client was sent is in `sent`. The last field is read by no code: all audio that the
    detector released. -/
structure StreamingSessionController (S σ : Type) where
  transcript : StreamingTranscriptState
  session : QwenVLLMStreamingSession S
  vad : StreamingVADEndpointDetector σ
  acceptedSamples : Nat := 0
  finished : Bool := false
  closeCode : Option Nat := none
  sent : List TranscriptEvent := []
  released : Pcm := []
  deriving DecidableEq, Repr

/-- Code of the controller, where no operation times out or is refused by the coordinator. -/
abbrev Code (S σ α : Type) := EStateM PyError (StreamingSessionController S σ) α

/-- What the client is told about a failure: code, message and close code. -/
structure Failure where
  code : String
  message : String
  closeCode : Nat
  deriving DecidableEq, Repr

section
variable {S σ : Type}

/-- `_StreamClosed`. -/
def streamClosed : PyError := .foreign "_StreamClosed"

def sendEvents (events : List TranscriptEvent) : Code S σ Unit :=
  modify fun controller => { controller with sent := controller.sent ++ events }

/-- Changes the transcript, and sends the events of the change. -/
def emit (change : StreamingTranscriptState → List TranscriptEvent × StreamingTranscriptState) : Code S σ Unit := do
  let (events,transcript) := change (← get).transcript
  modify fun controller => { controller with transcript := transcript }
  sendEvents events

def fail (failure : Failure) : Code S σ Unit := do
  emit fun transcript => ([(transcript.newEvent .error).1],(transcript.newEvent .error).2)
  modify fun controller => { controller with closeCode := some failure.closeCode }

/-- Tells the client about the exceptions that a handler names. -/
def reporting {α : Type} (handler : PyError → Option Failure) (program : Code S σ α) : Code S σ α :=
  tryCatch program fun exc =>
    match handler exc with
    | some failure => do
      fail failure
      throw streamClosed
    | none => throw exc

/-- The handlers of an operation of the model, which passes on that the stream was closed. -/
def operationFailed (message : String) (exc : PyError) : Option Failure :=
  if exc = streamClosed then none else some ⟨"inference_error",message,1011⟩

/-- The handler of `ConfirmedPrefixConflict`. -/
def transcriptConflict : PyError → Option Failure
  | .confirmedPrefixConflict _ => some ⟨"transcript_conflict","Model output conflicts with confirmed text",1011⟩
  | _ => none

/-- The handlers of `finish`. -/
def finishFailed (exc : PyError) : Option Failure :=
  (transcriptConflict exc).or (operationFailed "ASR finalization failed" exc)

/-- `_apply_stream_result`. -/
def applyStreamResult (result : StreamingTranscriptionResult) : Code S σ Unit := do
  let (reply,transcript) := (← get).transcript.applySegmentSnapshot result.segmentId result.segmentText
    result.decodedSamplesDelta
  modify fun controller => { controller with transcript := transcript }
  sendEvents (← ofExcept reply)

/-- Calls the session. -/
def operate {α : Type} (call : QwenVLLMStreamingSession S → Except PyError (α × QwenVLLMStreamingSession S)) :
    Code S σ α := do
  let (result,session) ← ofExcept (call (← get).session)
  modify fun controller => { controller with session := session }
  return result

/-- Calls the detector, and notes what it releases. -/
def hearing (call : StreamingVADEndpointDetector σ → Except PyError VADDecision × StreamingVADEndpointDetector σ) :
    Code S σ VADDecision := do
  let (reply,vad) := call (← get).vad
  modify fun controller => { controller with vad := vad }
  let decision ← ofExcept reply
  modify fun controller => { controller with released := controller.released ++ decision.audioToModel }
  return decision

/-- `last_snapshot.segment_finished`. -/
def lastFinished (snapshots : List StreamingTranscriptionResult) : Bool := snapshots.getLast?.any (·.segmentFinished)

variable (chars : Alphabet) (settings : StreamSettings) (model : StreamingModel S) (backend : VADBackend σ)

/-- `_commit_finished_segment`, which leaves the detector as it is. -/
def commitFinishedSegment : Code S σ Unit := do
  emit (·.commitPending chars)
  modify fun controller => { controller with transcript := controller.transcript.resetSegment }

/-- The loop of `_add_model_audio` over the snapshots of a result. -/
def applySnapshots : List StreamingTranscriptionResult → Code S σ Unit
  | [] => pure ()
  | snapshot :: rest => do
    when (snapshot.modelUpdated || snapshot.segmentFinished) (applyStreamResult snapshot)
    when (snapshot.segmentFinished ∧ rest ≠ []) (commitFinishedSegment chars)
    applySnapshots rest

/-- `_add_model_audio`. -/
def addModelAudio (pcm : Pcm) : Code S σ (List StreamingTranscriptionResult) := do
  let snapshots ← reporting (operationFailed "ASR inference failed") (operate (·.addPcmS16le settings model pcm))
  reporting transcriptConflict (applySnapshots chars snapshots)
  return snapshots

/-- `pcm[offset : offset + frame_bytes]` for every offset of the range. -/
def frames (frameBytes : Nat) (pcm : Pcm) : List Pcm :=
  (List.range ((pcm.length + frameBytes - 1) / frameBytes)).map fun index => (pcm.drop (index * frameBytes)).take frameBytes

/-- The loop of `_add_vad_audio`. It returns whether the last snapshot finished a segment. -/
def addFrames : List Pcm → Bool → Code S σ Bool
  | [], finished => pure finished
  | frame :: rest, _ => do
    let snapshots ← addModelAudio chars settings model frame
    when (lastFinished snapshots) (commitFinishedSegment chars)
    addFrames rest (lastFinished snapshots)

/-- `_add_vad_audio`. -/
def addVadAudio (pcm : Pcm) : Code S σ Bool :=
  addFrames chars settings model (frames settings.maxFrameBytes pcm) false

/-- `reset_segment`, which leaves the detector as it is. -/
def resetSegment : Code S σ Unit := do
  let result ← reporting (operationFailed "ASR segment reset failed") (operate (·.finishSegment model))
  reporting transcriptConflict (applyStreamResult result)
  commitFinishedSegment chars

/-- `_handle_vad_decision`. -/
def handleVadDecision (decision : VADDecision) : Code S σ Unit := do
  let finished ← (if decision.audioToModel ≠ [] then addVadAudio chars settings model decision.audioToModel else pure false)
  when (decision.endpoint ∧ !finished) (resetSegment chars model)

/-- `validate_audio_frame`. -/
def validateAudioFrame (pcm : Pcm) : Code S σ Unit := do
  when (pcm = [] ∨ pcm.length % 2 ≠ 0) do
    fail ⟨"invalid_audio_frame","Audio frames must contain aligned PCM samples",1003⟩
    throw streamClosed
  when (settings.maxFrameBytes < pcm.length) do
    fail ⟨"frame_too_large","Audio frame exceeds the configured limit",1009⟩
    throw streamClosed
  when (settings.maxSamples < ((← get).acceptedSamples + sampleCount pcm : Nat)) do
    fail ⟨"audio_limit_exceeded","Maximum audio duration exceeded",1008⟩
    throw streamClosed
  modify fun controller => { controller with acceptedSamples := controller.acceptedSamples + sampleCount pcm }

/-- The loop of `add_audio`. Every endpoint but the first takes a frame from the input buffer of
    the detector, whose length bounds the loop. -/
def followDecision : Nat → VADDecision → Code S σ Unit
  | 0, _ => throw (.foreign "RecursionError")
  | fuel+1, decision => do
    handleVadDecision chars settings model decision
    if decision.endpoint then
      let later ← hearing fun vad =>
        (.ok (vad.endpointFinalized settings.vad backend).1,(vad.endpointFinalized settings.vad backend).2)
      followDecision fuel later
    else pure ()

def addAudio (pcm : Pcm) : Code S σ Unit := do
  validateAudioFrame settings pcm
  let decision ← hearing (·.addAudio settings.vad backend pcm)
  followDecision chars settings model backend ((← get).vad.inputBuffer.length + 2) decision

/-- `finish_input`, and what it releases. -/
def endInput : Code S σ Bool := do
  let pending ← hearing fun vad => (.ok (vad.finishInput settings.vad backend).1,(vad.finishInput settings.vad backend).2)
  if pending.audioToModel ≠ [] then addVadAudio chars settings model pending.audioToModel else pure false

def explicitSegment : Code S σ Unit := do
  let alreadyFinalized ← endInput chars settings model backend
  when (!alreadyFinalized) (resetSegment chars model)
  modify fun controller => { controller with vad := controller.vad.reset backend }

def finish : Code S σ Unit := do
  reporting finishFailed do
    let _ ← endInput chars settings model backend
    let result ← operate (·.finish model)
    applyStreamResult result
    emit fun transcript => ([transcript.finalEvent.1],transcript.finalEvent.2)
  modify fun controller => { controller with finished := true, closeCode := some 1000 }

/-- What a client sends after the start of a stream and before its end. -/
inductive StreamCommand
  | audio (pcm : Pcm)
  | segment
  deriving DecidableEq, Repr

def receive : StreamCommand → Code S σ Unit
  | .audio pcm => addAudio chars settings model backend pcm
  | .segment => explicitSegment chars settings model backend

def receiveAll : List StreamCommand → Code S σ Unit
  | [] => pure ()
  | command :: rest => do
    receive chars settings model backend command
    receiveAll rest

/-- A stream from its start to the closing end. -/
def stream (commands : List StreamCommand) : Code S σ Unit := do
  emit fun transcript => ([(transcript.newEvent .ready).1],(transcript.newEvent .ready).2)
  receiveAll chars settings model backend commands
  finish chars settings model backend

/-- `StreamingTranscriptState` as the controller of a stateful stream makes it. -/
def transcriptConfig : TranscriptConfig where
  sampleRate := 16000
  stableCommitEnabled := settings.stableCommitEnabled
  stableCommitSeconds := settings.stableCommitSeconds
  stableCommitMinChars := settings.stableCommitMinChars
  stableCommitMinUpdates := settings.stableCommitMinUpdates
  immediateCommitOnPunctuation := false
  segmentLocalSnapshots := true
  sampleRatePositive := Streaming.sessionRate_positive

/-- A controller whose session has just been created. -/
def opened (start : σ) : StreamingSessionController S σ where
  transcript := .init (transcriptConfig settings)
  session := { state := model.start }
  vad := { backendState := start }

end

end SpeechGateway.Stateful
