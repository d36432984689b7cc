import SpeechGateway.Microbatch

/-!
The sessions of `FasterWhisperAdapter` and `SenseVoiceAdapter` from their opening to their end: a
session gathers the audio of a segment, `finish_segment` takes the final text and starts the next
one, and `finish_session` and `abort_session` end it. `drain` lets no session open any more, and
`close` ends them all.
-/
namespace SpeechGateway.Microbatch
open SpeechGateway.Backends SpeechGateway.Scheduling

/-- `AdapterResult`, with the fields that the rolling adapters set. -/
structure RollingResult where
  backendSessionId : Text
  text : Text
  tailText : Text
  isFinal : Bool
  metadata : Option Metadata
  deriving DecidableEq, Repr

/-- What an adapter does its own way with a session: which languages it takes, how a session
    starts, and where its final text comes from. -/
structure RollingSessions (State Key Item Final : Type) extends Rolling State Key Item where
  taskRefusal : String
  timestampsRefusal : String
  idPrefix : Text
  languageOf : Option Text → Except AdapterError (Option Text)
  fresh : Text → Option Text → State
  cachedFinal : State → Option Final
  decodeFinal : State → Waveform → Except AdapterError Item
  conclude : Item → State → State
  finalOf : Item → Final
  silent : Final
  clear : State → State
  resultOf : State → Final → Bool → RollingResult

namespace RollingSessions
variable {State Key Item Final : Type} (backend : RollingSessions State Key Item Final)

/-- The session that is opened gets its backend id from its own. -/
def backendId (sessionId : SessionId) : Text := backend.idPrefix ++ sessionId

/-- The checks of `open_session`, and the language of the session. -/
def admissible (ready taken : Bool) (language : Option Text) (task : Text) (timestamps : Bool) :
    Except AdapterError (Option Text) := do
  if !ready then throw (.raised (.runtimeError backend.notReady))
  if task ≠ "transcribe".toList then throw (.raised (.valueError backend.taskRefusal))
  if timestamps then throw (.raised (.valueError backend.timestampsRefusal))
  let normalized ← backend.languageOf language
  if taken then throw (.raised (.valueError "duplicate gateway session"))
  return normalized

def openSession (sessionId : SessionId) (language : Option Text) (task : Text) (timestamps : Bool)
    (adapter : Adapter State) : Except AdapterError Text × Adapter State :=
  let taken := (adapter.sessions sessionId).isSome
  match backend.admissible (adapter.ready && adapter.loaded) taken language task timestamps with
  | .error exc => (.error exc,adapter)
  | .ok normalized =>
    let state := backend.fresh (backend.backendId sessionId) normalized
    (.ok (backend.backendId sessionId),
      { adapter with sessions := fun other => if other = sessionId then some state else adapter.sessions other })

/-- `_consume_final`: the final text, and the state for the next segment. -/
def consumeFinal (ready : Bool) (state : State) : Except AdapterError (Final × State) :=
  match backend.cachedFinal state with
  | some final => .ok (final,backend.clear state)
  | none =>
    if backend.pcm state = [] then .ok (backend.silent,backend.clear state) else
    if !ready then .error (.raised (.runtimeError backend.notReady)) else
    match pcmToFloat32 (backend.pcm state) with
    | .error exc => .error exc
    | .ok waveform =>
      match backend.decodeFinal state waveform with
      | .error exc => .error exc
      | .ok item => .ok (backend.finalOf item,backend.clear (backend.conclude item state))

/-- `self._sessions.pop(session_id, None)`. -/
def forget (sessionId : SessionId) (adapter : Adapter State) : Adapter State :=
  { adapter with sessions := fun other => if other = sessionId then none else adapter.sessions other }

/-- `finish_segment`, and `finish_session` where it is the last one. -/
def finish (sessionId : SessionId) (last : Bool) (adapter : Adapter State) :
    Except AdapterError RollingResult × Adapter State :=
  match adapter.sessions sessionId with
  | none => (.error (.raised (.keyError "stale session")),adapter)
  | some state =>
    match backend.consumeFinal (adapter.ready && adapter.loaded) state with
    | .error exc => (.error exc,adapter)
    | .ok (final,next) =>
      (.ok (backend.resultOf next final last),
        if last then forget sessionId adapter else adapter.modify sessionId fun _ => next)

def finishSegment (sessionId : SessionId) (adapter : Adapter State) : Except AdapterError RollingResult × Adapter State :=
  backend.finish sessionId false adapter

def finishSession (sessionId : SessionId) (adapter : Adapter State) : Except AdapterError RollingResult × Adapter State :=
  backend.finish sessionId true adapter

def remainingSegmentSamples (sessionId : SessionId) (adapter : Adapter State) : Except AdapterError Nat :=
  match adapter.sessions sessionId with
  | none => .error (.raised (.keyError "stale session"))
  | some state => .ok (backend.maxSegmentSamples - sampleCount (backend.pcm state))

end RollingSessions

namespace Adapter
variable {State : Type}

/-- `abort_session`. -/
def abortSession (sessionId : SessionId) (adapter : Adapter State) : Adapter State :=
  RollingSessions.forget sessionId adapter

def drain (adapter : Adapter State) : Adapter State := { adapter with ready := false }

/-- `close`, up to the engine's own. -/
def shut (adapter : Adapter State) : Adapter State := { adapter with ready := false, sessions := fun _ => none }

def close (adapter : Adapter State) : Adapter State := { adapter.shut with loaded := false }

end Adapter

/-- The calls that the gateway makes of an adapter that is warmed up. -/
inductive Request
  | openSession (sessionId : SessionId) (language : Option Text) (task : Text) (timestamps : Bool)
  | submit (jobs : List InferenceJob)
  | finish (sessionId : SessionId) (last : Bool)
  | abort (sessionId : SessionId)
  | drain
  | close
  deriving DecidableEq, Repr

/-- What they return. -/
inductive Answer
  | opened (backendSessionId : Text)
  | results (results : List InferenceResult)
  | finished (result : RollingResult)
  | aborted
  | drained
  | closed
  deriving DecidableEq, Repr

namespace RollingSessions
variable {State Key Item Final : Type} [DecidableEq Key] (backend : RollingSessions State Key Item Final)

/-- A call that nothing interrupts. `close` lets go of the engine when it answers. -/
def perform : Request → Adapter State → Except AdapterError Answer × Adapter State
  | .openSession sessionId language task timestamps, adapter =>
    let (reply,next) := backend.openSession sessionId language task timestamps adapter
    (reply.map .opened,next)
  | .submit jobs, adapter =>
    let (reply,next) := backend.submit jobs adapter
    (reply.map .results,next)
  | .finish sessionId last, adapter =>
    let (reply,next) := backend.finish sessionId last adapter
    (reply.map .finished,next)
  | .abort sessionId, adapter => (.ok .aborted,adapter.abortSession sessionId)
  | .drain, adapter => (.ok .drained,adapter.drain)
  | .close, adapter => (.ok .closed,adapter.shut)

end RollingSessions

/-- `FasterWhisperAdapter`. Its engine takes any language. -/
def fasterWhisperSessions (settings : FasterWhisperSettings) (engine : FasterWhisperEngine) :
    RollingSessions FasterWhisperState (Option Text × Nat) DecodedText Text where
  toRolling := fasterWhisper settings engine
  taskRefusal := "faster-whisper streaming only supports transcription"
  timestampsRefusal := "faster-whisper streaming timestamps are disabled"
  idPrefix := "fw-".toList
  languageOf language := .ok (if language = some "auto".toList then none else language)
  fresh backendSessionId language := ⟨backendSessionId,language,[],[],none⟩
  cachedFinal := FasterWhisperState.cachedFinal
  decodeFinal state waveform :=
    match engine [waveform] state.language settings.finalBeamSize with
    | .error exc => .error (.raised exc)
    | .ok [item] => .ok item
    | .ok _ => .error (.raised (.runtimeError "faster-whisper final result count mismatch"))
  conclude item state := { state with language := state.language.or (some item.language) }
  finalOf := DecodedText.text
  silent := []
  clear state := { state with pcm := [], partialText := [], cachedFinal := none }
  resultOf state text last := ⟨state.backendSessionId,text,text,last,none⟩

/-- `SenseVoiceAdapter`. The final decode tells the session no language. -/
def senseVoiceSessions (settings : SenseVoiceSettings) (engine : SenseVoiceEngine) :
    RollingSessions SenseVoiceState (Option Text) SenseVoiceDecoded SenseVoiceDecoded where
  toRolling := senseVoice settings engine
  taskRefusal := "SenseVoice streaming only supports transcription"
  timestampsRefusal := "SenseVoice streaming timestamps are disabled"
  idPrefix := "sv-".toList
  languageOf language :=
    let normalized := if language.getD [] = [] then "auto".toList else language.getD []
    if senseVoiceLanguages.contains normalized then .ok (if normalized = "auto".toList then none else some normalized)
    else .error (.raised (.valueError "SenseVoice streaming language is unsupported"))
  fresh backendSessionId language := ⟨backendSessionId,language,[],none⟩
  cachedFinal := SenseVoiceState.cachedFinal
  decodeFinal state waveform :=
    match engine [waveform] state.language with
    | .error exc => .error exc
    | .ok [item] => .ok item
    | .ok _ => .error (.raised (.runtimeError "SenseVoice final result count mismatch"))
  conclude _ state := state
  finalOf := id
  silent := ⟨[],[]⟩
  clear state := { state with pcm := [], cachedFinal := none }
  resultOf state item last :=
    ⟨state.backendSessionId,item.text,item.text,last,if item.metadata = [] then none else some item.metadata⟩

end SpeechGateway.Microbatch
