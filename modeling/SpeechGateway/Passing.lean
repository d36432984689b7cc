import SpeechGateway.Connections

/-!
What a connection passes on. Only the loop that gives audio to the coordinator adds to the audio
that the coordinator has heard, and only the detector's own calls change the detector.
-/
namespace SpeechGateway.Connections
open SpeechGateway.Streaming SpeechGateway.Vad SpeechGateway.Coordinator Programs
open SpeechGateway.Stateful (Failure StreamingTranscriptionResult frames)

/-- The audio that a call carries. -/
def CoordinatorCall.audio : CoordinatorCall → Pcm
  | .addAudio _ pcm => pcm
  | .transcribeStreamChunk _ pcm => pcm
  | _ => []

/-- All audio that the coordinator was given, in order. -/
def heard (calls : List CoordinatorCall) : Pcm := (calls.map CoordinatorCall.audio).flatten

theorem heard_snoc (calls : List CoordinatorCall) (last : CoordinatorCall) :
    heard (calls ++ [last]) = heard calls ++ last.audio := by
  simp [heard]

section
variable {σ α : Type}

/-- A statement about the detector and the audio that the coordinator heard. -/
def Deaf (inv : Connection σ → Prop) : Prop :=
  ∀ connection next : Connection σ, next.vad = connection.vad → heard next.calls = heard connection.calls → inv connection → inv next

variable {inv : Connection σ → Prop} (deaf : Deaf inv) (world : World)
include deaf

theorem keeps_change {change : Connection σ → Connection σ} (vad : ∀ connection, (change connection).vad = connection.vad)
    (calls : ∀ connection, heard (change connection).calls = heard connection.calls) :
    Keeps inv (modify change : Code σ PUnit) :=
  keeps_modify fun connection holds => deaf connection _ (vad connection) (calls connection) holds

theorem keeps_step : Keeps inv (step : Code σ Nat) := by
  unfold step
  refine keeps_bind keeps_get fun connection => keeps_bind ?_ fun _ => keeps_pure _
  exact keeps_change deaf (fun _ => rfl) fun _ => rfl

theorem keeps_remaining : Keeps inv (remainingSessionSeconds world : Code σ Time) := by
  unfold remainingSessionSeconds
  exact keeps_bind (keeps_step deaf) fun _ => keeps_bind keeps_get fun _ => keeps_pure _

theorem keeps_transmit (frame : Frame) : Keeps inv (transmit world frame : Code σ Unit) := by
  unfold transmit
  refine keeps_bind (keeps_step deaf) fun steps => keeps_bind keeps_get fun connection => ?_
  split
  · exact keeps_throw _
  · exact keeps_throw _
  · refine keeps_ite (fun _ => ?_) fun _ => ?_
    · exact keeps_change deaf (fun _ => rfl) fun _ => rfl
    · exact keeps_bind (keeps_change deaf (fun _ => rfl) fun _ => rfl) fun _ => keeps_throw _

theorem keeps_fail (failure : Failure) : Keeps inv (fail world failure : Code σ Unit) := by
  unfold fail
  refine keeps_bind keeps_get fun connection => keeps_bind (keeps_change deaf (fun _ => rfl) fun _ => rfl) fun _ => ?_
  exact keeps_bind (keeps_transmit deaf world _) fun _ => keeps_transmit deaf world _

theorem keeps_refuse (failure : Failure) : Keeps inv (refuse world failure : Code σ α) := by
  unfold refuse
  exact keeps_bind (keeps_fail deaf world failure) fun _ => keeps_throw _

theorem keeps_reporting {handler : Raised → Option Failure} {program : Code σ α} (keeps : Keeps inv program) :
    Keeps inv (reporting world handler program) := by
  unfold reporting
  apply keeps_tryCatch keeps
  intro exc
  split
  · exact keeps_refuse deaf world _
  · exact keeps_throw _

theorem keeps_call {request : CoordinatorCall} (silent : request.audio = []) : Keeps inv (call request : Code σ Unit) := by
  unfold call
  apply keeps_change deaf
  · exact fun _ => rfl
  · intro connection
    dsimp only
    rw [heard_snoc,silent,List.append_nil]

theorem keeps_abort : Keeps inv (abort : Code σ Unit) := by
  unfold abort
  apply keeps_bind keeps_get
  intro connection
  split
  · exact keeps_pure ()
  · exact keeps_bind (keeps_change deaf (fun _ => rfl) fun _ => rfl) fun _ => keeps_call deaf rfl

theorem keeps_expireSession : Keeps inv (expireSession world : Code σ α) := by
  unfold expireSession
  exact keeps_bind (keeps_abort deaf) fun _ => keeps_refuse deaf world _

theorem keeps_ensureSessionActive : Keeps inv (ensureSessionActive world : Code σ Unit) := by
  unfold ensureSessionActive
  exact keeps_bind (keeps_remaining deaf world) fun _ => keeps_when fun _ => keeps_expireSession deaf world

theorem keeps_sendEvent (event : TranscriptEvent) : Keeps inv (sendEvent world event : Code σ Unit) := by
  unfold sendEvent
  refine keeps_bind (keeps_remaining deaf world) fun _ => keeps_bind (keeps_when fun _ => keeps_expireSession deaf world) fun _ => ?_
  apply keeps_bind (keeps_step deaf)
  intro steps
  split
  · exact keeps_transmit deaf world _
  · exact keeps_bind (keeps_when fun _ => keeps_transmit deaf world _) fun _ => keeps_expireSession deaf world

theorem keeps_sendEvents (events : List TranscriptEvent) : Keeps inv (sendEvents world events : Code σ Unit) := by
  induction events with
  | nil => exact keeps_pure ()
  | cons event rest ih =>
    unfold sendEvents
    exact keeps_bind (keeps_ensureSessionActive deaf world) fun _ => keeps_bind (keeps_sendEvent deaf world event) fun _ => ih

theorem keeps_emit (change : StreamingTranscriptState → Outcome (List TranscriptEvent)) :
    Keeps inv (emit world change : Code σ Unit) := by
  unfold emit
  refine keeps_bind keeps_get fun connection => keeps_bind (keeps_change deaf (fun _ => rfl) fun _ => rfl) fun _ => ?_
  split
  · exact keeps_sendEvents deaf world _
  · exact keeps_throw _

theorem keeps_concluded (outcome : OperationOutcome α) : Keeps inv (concluded world outcome : Code σ α) := by
  unfold concluded
  split
  · exact keeps_pure _
  · exact keeps_throw _
  · exact keeps_throw _
  · exact keeps_expireSession deaf world

/-- An operation, whose call the statement allows. -/
theorem keeps_awaitModelOperation {request : OperationOutcome α → CoordinatorCall} {outcomes : Nat → OperationOutcome α}
    (asked : ∀ outcome, Keeps inv (call (request outcome) : Code σ Unit)) :
    Keeps inv (awaitModelOperation world request outcomes) := by
  unfold awaitModelOperation
  refine keeps_bind (keeps_remaining deaf world) fun _ => keeps_bind (keeps_when fun _ => keeps_expireSession deaf world) fun _ => ?_
  exact keeps_bind (keeps_step deaf) fun steps => keeps_bind (asked _) fun _ => keeps_concluded deaf world _

omit deaf in
theorem keeps_requireSession : Keeps inv (requireSession : Code σ SessionId) := by
  unfold requireSession
  apply keeps_bind keeps_get
  intro connection
  split
  · exact keeps_pure _
  · exact keeps_throw _

variable (chars : Alphabet) (settings : ConnectionSettings) (backend : VADBackend σ)

theorem keeps_enforceStreamProgress (result : Transcription) (submittedSamples : Nat) :
    Keeps inv (enforceStreamProgress settings world result submittedSamples : Code σ Unit) := by
  unfold enforceStreamProgress observeStreamProgress
  refine keeps_bind ?_ fun _ => keeps_when fun _ => keeps_refuse deaf world _
  refine keeps_bind (keeps_step deaf) fun _ => keeps_bind keeps_get fun _ => keeps_bind ?_ fun _ => keeps_pure _
  exact keeps_change deaf (fun _ => rfl) fun _ => rfl

theorem keeps_commitFinishedSegment {resetEndpointDetector : Bool}
    (untouched : (resetEndpointDetector && settings.vad.isSome) = false) :
    Keeps inv (commitFinishedSegment chars settings world backend resetEndpointDetector) := by
  unfold commitFinishedSegment
  refine keeps_bind (keeps_emit deaf world _) fun _ => keeps_change deaf (fun _ => ?_) fun _ => rfl
  simp [untouched]

theorem keeps_applySnapshots (snapshots : List StreamingTranscriptionResult) :
    Keeps inv (applySnapshots chars settings world backend snapshots) := by
  induction snapshots with
  | nil => exact keeps_pure ()
  | cons snapshot rest ih =>
    unfold applySnapshots
    refine keeps_bind (keeps_when fun _ => keeps_emit deaf world _) fun _ => ?_
    exact keeps_bind (keeps_when fun _ => keeps_commitFinishedSegment deaf world chars settings backend rfl) fun _ => ih

theorem keeps_resetSegment {resetEndpointDetector : Bool} (untouched : (resetEndpointDetector && settings.vad.isSome) = false) :
    Keeps inv (resetSegment chars settings world backend resetEndpointDetector) := by
  unfold resetSegment
  refine keeps_bind keeps_requireSession fun sessionId => keeps_bind ?_ fun result => ?_
  · exact keeps_reporting deaf world (keeps_awaitModelOperation deaf world fun _ => keeps_call deaf rfl)
  · refine keeps_bind (keeps_ensureSessionActive deaf world) fun _ => ?_
    refine keeps_bind (keeps_enforceStreamProgress deaf world settings result 0) fun _ => ?_
    refine keeps_bind (keeps_reporting deaf world (keeps_emit deaf world _)) fun _ => ?_
    exact keeps_commitFinishedSegment deaf world chars settings backend untouched

/-- Audio for the model, which the statement allows. -/
theorem keeps_addModelAudio {pcm : Pcm} (asked : ∀ sessionId, Keeps inv (call (.addAudio sessionId pcm) : Code σ Unit)) :
    Keeps inv (addModelAudio chars settings world backend pcm) := by
  unfold addModelAudio
  refine keeps_bind keeps_requireSession fun sessionId => keeps_bind ?_ fun result => ?_
  · exact keeps_reporting deaf world (keeps_awaitModelOperation deaf world fun _ => asked sessionId)
  · refine keeps_bind (keeps_ensureSessionActive deaf world) fun _ => ?_
    refine keeps_bind (keeps_enforceStreamProgress deaf world settings result _) fun _ => ?_
    refine keeps_bind (keeps_reporting deaf world (keeps_applySnapshots deaf world chars settings backend _)) fun _ => ?_
    exact keeps_pure _

theorem keeps_addFrames (pieces : List Pcm) (finished : Bool)
    (asked : ∀ sessionId pcm, Keeps inv (call (.addAudio sessionId pcm) : Code σ Unit)) :
    Keeps inv (addFrames chars settings world backend pieces finished) := by
  induction pieces generalizing finished with
  | nil => exact keeps_pure _
  | cons frame rest ih =>
    unfold addFrames
    refine keeps_bind (keeps_addModelAudio deaf world chars settings backend fun sessionId => asked sessionId frame) fun finished => ?_
    refine keeps_bind (keeps_when fun _ => keeps_commitFinishedSegment deaf world chars settings backend rfl) fun _ => ?_
    exact ih finished

end

/-- A decision is followed without a call of the detector. -/
theorem keeps_handleVadDecision {σ : Type} (chars : Alphabet) (settings : ConnectionSettings) (world : World)
    (backend : VADBackend σ) (decision : VADDecision) (detector : StreamingVADEndpointDetector σ) :
    Keeps (fun connection => connection.vad = detector) (handleVadDecision chars settings world backend decision) := by
  have deaf : Deaf fun connection : Connection σ => connection.vad = detector := fun _ _ same _ holds => same.trans holds
  unfold handleVadDecision
  refine keeps_bind (keeps_ite (fun _ => ?_) fun _ => keeps_pure _) fun _ => keeps_when fun _ => ?_
  · exact keeps_addFrames deaf world chars settings backend _ _ fun _ _ => keeps_modify fun _ holds => holds
  · exact keeps_resetSegment deaf world chars settings backend rfl

end SpeechGateway.Connections
