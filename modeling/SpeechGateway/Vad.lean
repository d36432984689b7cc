import SpeechGateway.Values

/-!
`StreamingVADEndpointDetector`: the automaton that cuts a stream into frames, releases the
frames of confirmed speech and reports where an utterance ends. After an endpoint it waits
in `finalizing`, and complete frames pile up in its input buffer. Ending the input there
releases what finalizing the endpoint first would release, unless the waiting frames
confirm new speech (`finish_releases_iff`).
-/
namespace SpeechGateway.Vad

inductive VADEndpointState
  | waitingForSpeech
  | speechCandidate
  | inSpeech
  | trailingSilence
  | finalizing
  deriving DecidableEq, Repr

/-- What a call of the detector releases, decides and gives up. -/
structure VADDecision where
  audioToModel : Pcm := []
  endpoint : Bool := false
  discardedSamples : Nat := 0
  transitions : List (VADEndpointState × VADEndpointState) := []
  deriving DecidableEq, Repr

/-- The samples that a decision disposes of. -/
def VADDecision.samples (decision : VADDecision) : Nat := sampleCount decision.audioToModel + decision.discardedSamples

/-- `VADBackend`, with the recurrent state that it keeps between frames. -/
structure VADBackend (σ : Type) where
  speechProbability : σ → Pcm → Rat × σ
  reset : σ → σ

/-- The constructor arguments of the detector. -/
structure VADSettings where
  sampleRate : Nat
  frameSamples : Nat
  onsetThreshold : Rat
  offsetThreshold : Rat
  minSpeechMs : Nat
  minSilenceMs : Nat
  hangoverMs : Nat
  preRollMs : Nat
  framePositive : 0 < frameSamples

namespace VADSettings

/-- `_milliseconds_to_samples`. -/
def millisecondsToSamples (settings : VADSettings) (milliseconds : Nat) : Nat :=
  (max 1 (roundHalfEven ((settings.sampleRate * milliseconds : Nat) / 1000))).toNat

def frameBytes (settings : VADSettings) : Nat := settings.frameSamples * 2
def minSpeechSamples (settings : VADSettings) : Nat := settings.millisecondsToSamples settings.minSpeechMs
def minSilenceSamples (settings : VADSettings) : Nat := settings.millisecondsToSamples settings.minSilenceMs
def hangoverSamples (settings : VADSettings) : Nat := settings.millisecondsToSamples settings.hangoverMs
def preRollSamples (settings : VADSettings) : Nat := settings.millisecondsToSamples settings.preRollMs

theorem frameBytes_pos (settings : VADSettings) : 0 < settings.frameBytes := by
  have := settings.framePositive
  unfold frameBytes
  omega

end VADSettings

structure StreamingVADEndpointDetector (σ : Type) where
  backendState : σ
  state : VADEndpointState := .waitingForSpeech
  inputBuffer : Pcm := []
  preRoll : Pcm := []
  candidate : Pcm := []
  candidateSpeechSamples : Nat := 0
  trailing : Pcm := []
  deriving DecidableEq, Repr

/-- Two decisions in a row, as one. -/
def VADDecision.followedBy (first later : VADDecision) : VADDecision where
  audioToModel := first.audioToModel ++ later.audioToModel
  endpoint := later.endpoint
  discardedSamples := first.discardedSamples + later.discardedSamples
  transitions := first.transitions ++ later.transitions

namespace StreamingVADEndpointDetector
variable {σ : Type} (settings : VADSettings) (backend : VADBackend σ)

/-- `_append_pre_roll`: how many samples fell out at the front. -/
def appendPreRoll (detector : StreamingVADEndpointDetector σ) (audio : Pcm) :
    Nat × StreamingVADEndpointDetector σ :=
  let extended := detector.preRoll ++ audio
  let discardedBytes := extended.length - settings.preRollSamples * 2
  (discardedBytes / 2,{ detector with preRoll := extended.drop discardedBytes })

/-- `_transition`. -/
def transition (detector : StreamingVADEndpointDetector σ) (target : VADEndpointState) :
    (VADEndpointState × VADEndpointState) × StreamingVADEndpointDetector σ :=
  ((detector.state,target),{ detector with state := target })

/-- Speech is confirmed: the whole candidate is released. -/
def confirmSpeech (detector : StreamingVADEndpointDetector σ)
    (transitions : List (VADEndpointState × VADEndpointState)) : VADDecision × StreamingVADEndpointDetector σ :=
  let (moved,next) := detector.transition .inSpeech
  ({ audioToModel := next.candidate, transitions := transitions ++ [moved] },
    { next with candidate := [], candidateSpeechSamples := 0 })

/-- The end of `_process_frame`: an endpoint once the silence is long enough. -/
def settleSilence (detector : StreamingVADEndpointDetector σ)
    (transitions : List (VADEndpointState × VADEndpointState)) : VADDecision × StreamingVADEndpointDetector σ :=
  if detector.trailing.length / 2 < settings.minSilenceSamples then ({ transitions := transitions },detector) else
  let trailing := detector.trailing
  let keepBytes := min trailing.length (settings.hangoverSamples * 2)
  let (discarded,next) := { detector with preRoll := [] }.appendPreRoll settings (trailing.drop keepBytes)
  let (moved,next) := { next with trailing := [] }.transition .finalizing
  (⟨trailing.take keepBytes,true,discarded,transitions ++ [moved]⟩,next)

/-- `_process_frame`. -/
def processFrame (detector : StreamingVADEndpointDetector σ) (frame : Pcm) (probability : Rat) :
    VADDecision × StreamingVADEndpointDetector σ :=
  match detector.state with
  | .waitingForSpeech =>
    if settings.onsetThreshold ≤ probability then
      let (moved,next) := { detector with
        candidate := detector.preRoll ++ frame
        preRoll := []
        candidateSpeechSamples := settings.frameSamples }.transition .speechCandidate
      if settings.minSpeechSamples ≤ next.candidateSpeechSamples then next.confirmSpeech [moved]
      else ({ transitions := [moved] },next)
    else
      let (discarded,next) := detector.appendPreRoll settings frame
      ({ discardedSamples := discarded },next)
  | .speechCandidate =>
    if settings.offsetThreshold ≤ probability then
      let next := { detector with
        candidate := detector.candidate ++ frame
        candidateSpeechSamples := detector.candidateSpeechSamples + settings.frameSamples }
      if settings.minSpeechSamples ≤ next.candidateSpeechSamples then next.confirmSpeech [] else ({},next)
    else
      let (discarded,next) := detector.appendPreRoll settings (detector.candidate ++ frame)
      let (moved,next) := { next with candidate := [], candidateSpeechSamples := 0 }.transition .waitingForSpeech
      ({ discardedSamples := discarded, transitions := [moved] },next)
  | .inSpeech =>
    if settings.offsetThreshold ≤ probability then ({ audioToModel := frame },detector) else
    let (moved,next) := { detector with trailing := frame }.transition .trailingSilence
    next.settleSilence settings [moved]
  | .trailingSilence =>
    if settings.offsetThreshold ≤ probability then
      let (moved,next) := { detector with trailing := [] }.transition .inSpeech
      ({ audioToModel := detector.trailing ++ frame, transitions := [moved] },next)
    else { detector with trailing := detector.trailing ++ frame }.settleSilence settings []
  | .finalizing => detector.settleSilence settings []

/-- A frame waits and may be processed: the condition of the drain loop. -/
def frameReady (detector : StreamingVADEndpointDetector σ) : Bool :=
  decide (detector.state ≠ .finalizing ∧ settings.frameBytes ≤ detector.inputBuffer.length)

/-- The body of the drain loop: one frame leaves the input buffer. -/
def drainFrame (detector : StreamingVADEndpointDetector σ) : VADDecision × StreamingVADEndpointDetector σ :=
  let frame := detector.inputBuffer.take settings.frameBytes
  let (probability,backendState) := backend.speechProbability detector.backendState frame
  { detector with
    inputBuffer := detector.inputBuffer.drop settings.frameBytes
    backendState := backendState }.processFrame settings frame probability

def drainLoop : Nat → StreamingVADEndpointDetector σ → VADDecision × StreamingVADEndpointDetector σ
  | 0, detector => ({},detector)
  | fuel+1, detector =>
    if detector.frameReady settings then
      let (decision,next) := detector.drainFrame settings backend
      if decision.endpoint then (decision,next) else
      let (later,last) := drainLoop fuel next
      (decision.followedBy later,last)
    else ({},detector)

/-- `_drain_complete_frames`. Each frame shortens the input buffer, so its length bounds
    the loop. -/
def drainCompleteFrames (detector : StreamingVADEndpointDetector σ)
    (initialTransitions : List (VADEndpointState × VADEndpointState)) :
    VADDecision × StreamingVADEndpointDetector σ :=
  let (decision,next) := drainLoop settings backend detector.inputBuffer.length detector
  ({ decision with transitions := initialTransitions ++ decision.transitions },next)

def addAudio (detector : StreamingVADEndpointDetector σ) (pcm : Pcm) :
    Except PyError VADDecision × StreamingVADEndpointDetector σ :=
  if pcm.length % 2 ≠ 0 then (.error (.valueError "VAD audio must be aligned pcm_s16le"),detector) else
  let (decision,next) :=
    { detector with inputBuffer := detector.inputBuffer ++ pcm }.drainCompleteFrames settings backend []
  (.ok decision,next)

def endpointFinalized (detector : StreamingVADEndpointDetector σ) : VADDecision × StreamingVADEndpointDetector σ :=
  if detector.state ≠ .finalizing then ({},detector) else
  let (moved,next) := detector.transition .waitingForSpeech
  { next with backendState := backend.reset next.backendState }.drainCompleteFrames settings backend [moved]

def reset (detector : StreamingVADEndpointDetector σ) : StreamingVADEndpointDetector σ where
  backendState := backend.reset detector.backendState

def finishInput (detector : StreamingVADEndpointDetector σ) : VADDecision × StreamingVADEndpointDetector σ :=
  let (decision,drained) := detector.drainCompleteFrames settings backend []
  let waiting := sampleCount drained.inputBuffer
  let (audio,discarded,moved,last) : Pcm × Nat × List (VADEndpointState × VADEndpointState) × VADEndpointState :=
    match drained.state with
    | .inSpeech => (drained.inputBuffer,0,[],.inSpeech)
    | .trailingSilence =>
      let remainingHangover := settings.hangoverSamples - sampleCount decision.audioToModel
      let keepBytes := min drained.trailing.length (remainingHangover * 2)
      (drained.trailing.take keepBytes,(drained.trailing.length - keepBytes) / 2 + waiting,[],.trailingSilence)
    | .speechCandidate =>
      ([],waiting + sampleCount drained.candidate,[(.speechCandidate,.waitingForSpeech)],.waitingForSpeech)
    | .waitingForSpeech => ([],waiting,[],.waitingForSpeech)
    | .finalizing => ([],waiting,[],.finalizing)
  (⟨decision.audioToModel ++ audio,false,decision.discardedSamples + discarded + sampleCount drained.preRoll,
      decision.transitions ++ moved⟩,
    { backendState := drained.backendState, state := last })

/-! ## Draining -/

theorem drainLoop_ready (fuel : Nat) (detector : StreamingVADEndpointDetector σ)
    (ready : detector.frameReady settings = true) :
    drainLoop settings backend (fuel + 1) detector =
      if (detector.drainFrame settings backend).1.endpoint then detector.drainFrame settings backend else
      ((detector.drainFrame settings backend).1.followedBy
          (drainLoop settings backend fuel (detector.drainFrame settings backend).2).1,
        (drainLoop settings backend fuel (detector.drainFrame settings backend).2).2) := by
  simp only [drainLoop,ready,if_true]

theorem drainLoop_idle (fuel : Nat) (detector : StreamingVADEndpointDetector σ)
    (idle : detector.frameReady settings = false) : drainLoop settings backend fuel detector = ({},detector) := by
  cases fuel with
  | zero => rfl
  | succ fuel => simp [drainLoop,idle]

/-- Processing a frame leaves the input buffer and the backend alone. -/
theorem processFrame_keeps (detector : StreamingVADEndpointDetector σ) (frame : Pcm) (probability : Rat) :
    (detector.processFrame settings frame probability).2.inputBuffer = detector.inputBuffer ∧
      (detector.processFrame settings frame probability).2.backendState = detector.backendState := by
  unfold processFrame confirmSpeech settleSilence appendPreRoll transition
  cases detector.state <;> dsimp only <;> split <;> (try split) <;> exact ⟨rfl,rfl⟩

@[simp] theorem drainFrame_inputBuffer (detector : StreamingVADEndpointDetector σ) :
    (detector.drainFrame settings backend).2.inputBuffer = detector.inputBuffer.drop settings.frameBytes :=
  (processFrame_keeps settings _ _ _).1

theorem frameReady_length {detector : StreamingVADEndpointDetector σ}
    (ready : detector.frameReady settings = true) : settings.frameBytes ≤ detector.inputBuffer.length := by
  simp only [frameReady,decide_eq_true_eq] at ready
  exact ready.2

/-- The loop has shortened the input buffer, unless it stopped at once. -/
theorem drain_shortens (fuel : Nat) (detector : StreamingVADEndpointDetector σ) :
    drainLoop settings backend fuel detector = ({},detector) ∨
      (drainLoop settings backend fuel detector).2.inputBuffer.length < detector.inputBuffer.length := by
  have positive := settings.frameBytes_pos
  induction fuel generalizing detector with
  | zero => exact .inl rfl
  | succ fuel ih =>
    cases ready : detector.frameReady settings with
    | false => exact .inl (drainLoop_idle settings backend _ detector ready)
    | true =>
      have fits := frameReady_length settings ready
      have shorter : (detector.drainFrame settings backend).2.inputBuffer.length < detector.inputBuffer.length := by
        rw [drainFrame_inputBuffer,List.length_drop]
        omega
      rw [drainLoop_ready settings backend fuel detector ready]
      refine .inr ?_
      split
      · exact shorter
      · rcases ih (detector.drainFrame settings backend).2 with same | less
        · rw [same]
          exact shorter
        · exact Nat.lt_trans less shorter

/-- The complete frames at the front of a buffer. -/
def completeFrames (buffer : Pcm) : List Pcm :=
  (List.range (buffer.length / settings.frameBytes)).map fun index =>
    (buffer.drop (index * settings.frameBytes)).take settings.frameBytes

/-- What the backend answers for frames in a row. -/
def probabilities : σ → List Pcm → List Rat
  | _, [] => []
  | state, frame :: rest =>
    (backend.speechProbability state frame).1 :: probabilities (backend.speechProbability state frame).2 rest

/-- The samples of the speech candidate, if one is open, after one more frame: the onset
    threshold opens it and the offset threshold keeps it open. -/
def hear : Option Nat → Rat → Option Nat
  | none, probability => if settings.onsetThreshold ≤ probability then some settings.frameSamples else none
  | some samples, probability =>
    if settings.offsetThreshold ≤ probability then some (samples + settings.frameSamples) else none

/-- Some candidate reaches the minimum of speech. -/
def confirmsSpeech : Option Nat → List Rat → Bool
  | _, [] => false
  | heard, probability :: rest =>
    (hear settings heard probability).any (settings.minSpeechSamples ≤ ·) ||
      confirmsSpeech (hear settings heard probability) rest

/-- The samples of the open candidate. -/
def heard (detector : StreamingVADEndpointDetector σ) : Option Nat :=
  if detector.state = .speechCandidate then some detector.candidateSpeechSamples else none

/-- No speech is confirmed: whatever the detector holds may still be given up. -/
def Unconfirmed (detector : StreamingVADEndpointDetector σ) : Prop :=
  detector.state = .waitingForSpeech ∨ detector.state = .speechCandidate

theorem completeFrames_cons (buffer : Pcm) (fits : settings.frameBytes ≤ buffer.length) :
    completeFrames settings buffer =
      buffer.take settings.frameBytes :: completeFrames settings (buffer.drop settings.frameBytes) := by
  have positive := settings.frameBytes_pos
  have count : buffer.length / settings.frameBytes = (buffer.length - settings.frameBytes) / settings.frameBytes + 1 :=
    Nat.div_eq_sub_div positive fits
  simp only [completeFrames,count,List.length_drop,List.range_succ_eq_map,List.map_cons,List.map_map,Nat.zero_mul,
    List.drop_zero]
  congr 1
  apply List.map_congr_left
  intro index _
  simp only [Function.comp_apply,List.drop_drop,Nat.succ_mul]
  rw [Nat.add_comm]

theorem completeFrames_nil (buffer : Pcm) (short : buffer.length < settings.frameBytes) :
    completeFrames settings buffer = [] := by
  simp [completeFrames,Nat.div_eq_of_lt short]

/-- A frame either confirms speech and releases the candidate, or is kept or given up in
    silence. -/
theorem processFrame_unconfirmed (detector : StreamingVADEndpointDetector σ) (frame : Pcm) (probability : Rat)
    (unconfirmed : detector.Unconfirmed) (nonempty : frame ≠ []) :
    (detector.processFrame settings frame probability).1.endpoint = false ∧
      if (hear settings detector.heard probability).any (settings.minSpeechSamples ≤ ·) then
        (detector.processFrame settings frame probability).1.audioToModel ≠ []
      else
        (detector.processFrame settings frame probability).1.audioToModel = [] ∧
          (detector.processFrame settings frame probability).2.Unconfirmed ∧
          (detector.processFrame settings frame probability).2.heard = hear settings detector.heard probability := by
  rcases unconfirmed with waiting | candidate
  · by_cases onset : settings.onsetThreshold ≤ probability
    · by_cases long : settings.minSpeechSamples ≤ settings.frameSamples
      · simp [processFrame,confirmSpeech,transition,heard,hear,waiting,onset,long,nonempty]
      · simp [processFrame,transition,heard,hear,waiting,onset,long,Unconfirmed]
    · simp [processFrame,appendPreRoll,heard,hear,waiting,onset,Unconfirmed]
  · by_cases offset : settings.offsetThreshold ≤ probability
    · by_cases long : settings.minSpeechSamples ≤ detector.candidateSpeechSamples + settings.frameSamples
      · simp [processFrame,confirmSpeech,transition,heard,hear,candidate,offset,long,nonempty]
      · simp [processFrame,heard,hear,candidate,offset,long,Unconfirmed]
    · simp [processFrame,appendPreRoll,transition,heard,hear,candidate,offset,Unconfirmed]

theorem Unconfirmed.not_finalizing {detector : StreamingVADEndpointDetector σ} (unconfirmed : detector.Unconfirmed) :
    detector.state ≠ .finalizing := by
  rcases unconfirmed with waiting | candidate
  · simp [waiting]
  · simp [candidate]

theorem Unconfirmed.frameReady {detector : StreamingVADEndpointDetector σ} (unconfirmed : detector.Unconfirmed) :
    detector.frameReady settings = decide (settings.frameBytes ≤ detector.inputBuffer.length) := by
  simp [StreamingVADEndpointDetector.frameReady,unconfirmed.not_finalizing]

theorem drainFrame_unconfirmed (detector : StreamingVADEndpointDetector σ) (unconfirmed : detector.Unconfirmed)
    (fits : settings.frameBytes ≤ detector.inputBuffer.length) :
    (detector.drainFrame settings backend).1.endpoint = false ∧
      if (hear settings detector.heard (backend.speechProbability detector.backendState
          (detector.inputBuffer.take settings.frameBytes)).1).any (settings.minSpeechSamples ≤ ·) then
        (detector.drainFrame settings backend).1.audioToModel ≠ []
      else
        (detector.drainFrame settings backend).1.audioToModel = [] ∧
          (detector.drainFrame settings backend).2.Unconfirmed ∧
          (detector.drainFrame settings backend).2.heard = hear settings detector.heard
            (backend.speechProbability detector.backendState (detector.inputBuffer.take settings.frameBytes)).1 := by
  have nonempty : detector.inputBuffer.take settings.frameBytes ≠ [] := by
    intro empty
    have positive := settings.frameBytes_pos
    have none := congrArg List.length empty
    simp only [List.length_take,List.length_nil] at none
    omega
  exact processFrame_unconfirmed settings { detector with
    inputBuffer := detector.inputBuffer.drop settings.frameBytes
    backendState := (backend.speechProbability detector.backendState
      (detector.inputBuffer.take settings.frameBytes)).2 } _ _ unconfirmed nonempty

@[simp] theorem drainFrame_backendState (detector : StreamingVADEndpointDetector σ) :
    (detector.drainFrame settings backend).2.backendState =
      (backend.speechProbability detector.backendState (detector.inputBuffer.take settings.frameBytes)).2 :=
  (processFrame_keeps settings _ _ _).2

/-- Draining releases audio exactly when the waiting frames confirm speech, and otherwise
    it takes every frame and speech stays unconfirmed. -/
theorem drain_unconfirmed (fuel : Nat) (detector : StreamingVADEndpointDetector σ) (unconfirmed : detector.Unconfirmed)
    (enough : detector.inputBuffer.length ≤ fuel) :
    if confirmsSpeech settings detector.heard
        (probabilities backend detector.backendState (completeFrames settings detector.inputBuffer)) then
      (drainLoop settings backend fuel detector).1.audioToModel ≠ []
    else
      (drainLoop settings backend fuel detector).1.audioToModel = [] ∧
        (drainLoop settings backend fuel detector).2.Unconfirmed ∧
        (drainLoop settings backend fuel detector).2.frameReady settings = false := by
  have positive := settings.frameBytes_pos
  induction fuel generalizing detector with
  | zero =>
    have short : detector.inputBuffer.length < settings.frameBytes := by omega
    have idle : detector.frameReady settings = false := by simpa [unconfirmed.frameReady] using short
    rw [completeFrames_nil settings _ short]
    exact ⟨rfl,unconfirmed,idle⟩
  | succ fuel ih =>
    by_cases fits : settings.frameBytes ≤ detector.inputBuffer.length
    · have ready : detector.frameReady settings = true := by simpa [unconfirmed.frameReady] using fits
      obtain ⟨notEnded,outcome⟩ := drainFrame_unconfirmed settings backend detector unconfirmed fits
      rw [drainLoop_ready settings backend fuel detector ready,completeFrames_cons settings _ fits]
      simp only [notEnded,Bool.false_eq_true,if_false,probabilities,confirmsSpeech,Bool.or_eq_true]
      split at outcome
      · rename_i confirmed
        rw [if_pos (.inl confirmed)]
        exact List.append_ne_nil_of_left_ne_nil outcome _
      · rename_i unheard
        obtain ⟨silent,still,hearing⟩ := outcome
        have later := ih (detector.drainFrame settings backend).2 still
          (by rw [drainFrame_inputBuffer,List.length_drop]; omega)
        rw [hearing,drainFrame_inputBuffer,drainFrame_backendState] at later
        simp only [VADDecision.followedBy,silent,List.nil_append]
        simpa [unheard] using later
    · have idle : detector.frameReady settings = false := by simpa [unconfirmed.frameReady] using fits
      rw [drainLoop_idle settings backend _ detector idle,completeFrames_nil settings _ (by omega)]
      exact ⟨rfl,unconfirmed,idle⟩

/-- `endpoint_finalized` until the detector is no longer finalizing: the audio released,
    and the detector reached. -/
def finalizeAll : Nat → StreamingVADEndpointDetector σ → Pcm × StreamingVADEndpointDetector σ
  | 0, detector => ([],detector)
  | fuel+1, detector =>
    if detector.state = .finalizing then
      let (decision,next) := detector.endpointFinalized settings backend
      let (later,last) := finalizeAll fuel next
      (decision.audioToModel ++ later,last)
    else ([],detector)

/-- Every endpoint takes a frame from the input buffer, so its length bounds the calls. -/
def finalized (detector : StreamingVADEndpointDetector σ) : Pcm × StreamingVADEndpointDetector σ :=
  finalizeAll settings backend (detector.inputBuffer.length + 1) detector

/-- The detector that `endpoint_finalized` drains from. -/
def rearmed (detector : StreamingVADEndpointDetector σ) : StreamingVADEndpointDetector σ :=
  { detector with state := .waitingForSpeech, backendState := backend.reset detector.backendState }

theorem endpointFinalized_drains (detector : StreamingVADEndpointDetector σ) (ended : detector.state = .finalizing) :
    (detector.endpointFinalized settings backend).1.audioToModel =
        (drainLoop settings backend detector.inputBuffer.length (detector.rearmed backend)).1.audioToModel ∧
      (detector.endpointFinalized settings backend).2 =
        (drainLoop settings backend detector.inputBuffer.length (detector.rearmed backend)).2 := by
  simp [endpointFinalized,ended,transition,drainCompleteFrames,rearmed]

theorem finalizeAll_settles (fuel : Nat) (detector : StreamingVADEndpointDetector σ)
    (enough : detector.inputBuffer.length < fuel) :
    (finalizeAll settings backend fuel detector).2.state ≠ .finalizing := by
  induction fuel generalizing detector with
  | zero => omega
  | succ fuel ih =>
    by_cases ended : detector.state = .finalizing
    · simp only [finalizeAll,ended,if_true]
      have drained := (endpointFinalized_drains settings backend detector ended).2
      have progress := drain_shortens settings backend detector.inputBuffer.length (detector.rearmed backend)
      rw [← drained] at progress
      rcases progress with same | shorter
      · have waiting : (detector.endpointFinalized settings backend).2.state = .waitingForSpeech := by
          rw [drained,same]
          rfl
        cases fuel with
        | zero => simp [finalizeAll,waiting]
        | succ fuel => simp [finalizeAll,waiting]
      · exact ih _ (by simp only [rearmed] at shorter; omega)
    · simp [finalizeAll,ended]

/-- Ending the input in mid-endpoint releases nothing. -/
theorem finishInput_finalizing (detector : StreamingVADEndpointDetector σ) (ended : detector.state = .finalizing) :
    (detector.finishInput settings backend).1.audioToModel = [] := by
  have idle : detector.frameReady settings = false := by simp [frameReady,ended]
  simp [finishInput,drainCompleteFrames,drainLoop_idle settings backend _ detector idle,ended]

/-- Ending the input gives up what is unconfirmed, when no frame waits. -/
theorem finishInput_unconfirmed (detector : StreamingVADEndpointDetector σ) (unconfirmed : detector.Unconfirmed)
    (idle : detector.frameReady settings = false) : (detector.finishInput settings backend).1.audioToModel = [] := by
  rcases unconfirmed with waiting | candidate
  · simp [finishInput,drainCompleteFrames,drainLoop_idle settings backend _ detector idle,waiting]
  · simp [finishInput,drainCompleteFrames,drainLoop_idle settings backend _ detector idle,candidate]

/-- The complete frames that wait behind a pending endpoint confirm new speech, once the
    backend has been reset. -/
def speechWaits (detector : StreamingVADEndpointDetector σ) : Bool :=
  confirmsSpeech settings none
    (probabilities backend (backend.reset detector.backendState) (completeFrames settings detector.inputBuffer))

/-- The audio of `endpoint_finalized` until the detector is no longer finalizing, and of
    `finish_input` then. -/
def finalizedThenFinished (detector : StreamingVADEndpointDetector σ) : Pcm :=
  (detector.finalized settings backend).1 ++
    ((detector.finalized settings backend).2.finishInput settings backend).1.audioToModel

/-- For every oracle, whatever the detector holds: `finish_input` releases what finalizing
    the pending endpoint first would release, exactly when no endpoint is pending or the
    frames that wait behind it confirm no speech. -/
theorem finish_releases_iff (detector : StreamingVADEndpointDetector σ) :
    (detector.finalized settings backend).2.state ≠ .finalizing ∧
      ((detector.finishInput settings backend).1.audioToModel = detector.finalizedThenFinished settings backend ↔
        detector.state ≠ .finalizing ∨ detector.speechWaits settings backend = false) := by
  refine ⟨finalizeAll_settles settings backend _ detector (Nat.lt_succ_self _),?_⟩
  by_cases ended : detector.state = .finalizing
  · obtain ⟨released,reached⟩ := endpointFinalized_drains settings backend detector ended
    have drained := drain_unconfirmed settings backend detector.inputBuffer.length (detector.rearmed backend)
      (.inl rfl) (Nat.le_refl _)
    rw [← released,← reached] at drained
    rw [finishInput_finalizing settings backend detector ended]
    simp only [finalizedThenFinished,finalized,finalizeAll,ended,if_true,ne_eq,not_true_eq_false,false_or]
    cases speech : detector.speechWaits settings backend with
    | true =>
      have confirms : confirmsSpeech settings (detector.rearmed backend).heard (probabilities backend
          (detector.rearmed backend).backendState (completeFrames settings (detector.rearmed backend).inputBuffer)) :=
        speech
      rw [if_pos confirms] at drained
      simp [drained]
    | false =>
      have silent : ¬ confirmsSpeech settings (detector.rearmed backend).heard (probabilities backend
          (detector.rearmed backend).backendState (completeFrames settings (detector.rearmed backend).inputBuffer)) = true :=
        Bool.eq_false_iff.mp speech
      rw [if_neg silent] at drained
      obtain ⟨nothing,unconfirmed,idle⟩ := drained
      have settled : finalizeAll settings backend detector.inputBuffer.length
          (detector.endpointFinalized settings backend).2 = ([],(detector.endpointFinalized settings backend).2) := by
        cases detector.inputBuffer.length with
        | zero => rfl
        | succ count => simp [finalizeAll,unconfirmed.not_finalizing]
      simp [nothing,settled,finishInput_unconfirmed settings backend _ unconfirmed idle]
  · simp [finalizedThenFinished,finalized,finalizeAll,ended]

/-- A detector that hears speech in every frame of one nonzero sample. -/
def exampleSettings : VADSettings where
  sampleRate := 1000
  frameSamples := 1
  onsetThreshold := 1
  offsetThreshold := 1
  minSpeechMs := 1
  minSilenceMs := 1
  hangoverMs := 1
  preRollMs := 1
  framePositive := Nat.one_pos

def exampleBackend : VADBackend Unit where
  speechProbability _ frame := (if frame = [0,0] then 0 else 1,())
  reset := id

/-- One call with speech, a silence and speech again: the last frame waits behind the
    endpoint, and `finish_input` drops it. -/
theorem finish_drops_waiting_speech :
    let detector := (addAudio exampleSettings exampleBackend { backendState := () } [1,0,0,0,2,0]).2
    detector.state = .finalizing ∧
      (detector.finishInput exampleSettings exampleBackend).1.audioToModel = [] ∧
      detector.finalizedThenFinished exampleSettings exampleBackend = [2,0] ∧
      (detector.finishInput exampleSettings exampleBackend).1.audioToModel ≠
        detector.finalizedThenFinished exampleSettings exampleBackend := by
  decide +kernel

end StreamingVADEndpointDetector
end SpeechGateway.Vad
