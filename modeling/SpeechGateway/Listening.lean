import SpeechGateway.Vad
import Mathlib.Logic.Relation

/-!
Runs of the detector. Each call takes frames one after another, so that a call is a row of
ticks. Every sample of the input is released, discarded or retained (`run_conserves`), and
what a schedule of calls releases depends on the stream alone (`schedule_free`).
-/
namespace SpeechGateway.Vad

/-- The samples of aligned audio, each as its two bytes. -/
def samples : Pcm → List (UInt8 × UInt8)
  | low :: high :: rest => (low,high) :: samples rest
  | _ => []

/-- `aligned pcm_s16le`. -/
def Whole (pcm : Pcm) : Prop := pcm.length % 2 = 0

@[simp] theorem samples_nil : samples [] = [] := rfl

@[simp] theorem whole_nil : Whole [] := rfl

theorem length_samples (pcm : Pcm) : (samples pcm).length = sampleCount pcm := by
  unfold sampleCount
  induction pcm using samples.induct with
  | case1 low high rest ih =>
    simp only [samples,List.length_cons,ih]
    omega
  | case2 pcm short =>
    rcases pcm with _ | ⟨low,_ | ⟨high,rest⟩⟩
    · rfl
    · simp [samples]
    · exact absurd rfl (short low high rest)

theorem samples_append {first : Pcm} (later : Pcm) (whole : Whole first) :
    samples (first ++ later) = samples first ++ samples later := by
  induction first using samples.induct with
  | case1 low high rest ih =>
    simp only [Whole,List.length_cons] at whole
    simp only [List.cons_append,samples,ih (by unfold Whole; omega)]
  | case2 first short =>
    rcases first with _ | ⟨low,_ | ⟨high,rest⟩⟩
    · rfl
    · simp [Whole] at whole
    · exact absurd rfl (short low high rest)

theorem sampleCount_append {first : Pcm} (later : Pcm) (whole : Whole first) :
    sampleCount (first ++ later) = sampleCount first + sampleCount later := by
  unfold Whole at whole
  simp only [sampleCount,List.length_append]
  omega

theorem Whole.append {first later : Pcm} (left : Whole first) (right : Whole later) : Whole (first ++ later) := by
  unfold Whole at *
  simp only [List.length_append]
  omega

theorem Whole.take {pcm : Pcm} (whole : Whole pcm) {bytes : Nat} (even : bytes % 2 = 0) : Whole (pcm.take bytes) := by
  unfold Whole at *
  simp only [List.length_take]
  omega

theorem Whole.drop {pcm : Pcm} (whole : Whole pcm) {bytes : Nat} (even : bytes % 2 = 0) : Whole (pcm.drop bytes) := by
  unfold Whole at *
  simp only [List.length_drop]
  omega

/-- The oldest samples leave: `released` in order among them, and `discarded` others. -/
def Sheds (before released : Pcm) (discarded : Nat) (after : Pcm) : Prop :=
  ∃ gone, before = gone ++ after ∧ Whole gone ∧ Whole released ∧ (samples released).Sublist (samples gone) ∧
    sampleCount gone = sampleCount released + discarded

namespace Sheds
variable {before middle after released later : Pcm} {discarded given : Nat}

theorem nothing (held : Pcm) : Sheds held [] 0 held := ⟨[],rfl,rfl,rfl,List.Sublist.refl _,rfl⟩

theorem release (held : Pcm) (whole : Whole released) : Sheds (released ++ held) released 0 held :=
  ⟨released,rfl,whole,whole,List.Sublist.refl _,rfl⟩

theorem discard {gone : Pcm} (held : Pcm) (whole : Whole gone) : Sheds (gone ++ held) [] (sampleCount gone) held :=
  ⟨gone,rfl,whole,rfl,List.nil_sublist _,by simp [sampleCount]⟩

theorem trans (first : Sheds before released discarded middle) (second : Sheds middle later given after) :
    Sheds before (released ++ later) (discarded + given) after := by
  obtain ⟨old,rfl,oldWhole,releasedWhole,oldOrder,oldCount⟩ := first
  obtain ⟨new,rfl,newWhole,laterWhole,newOrder,newCount⟩ := second
  refine ⟨old ++ new,by simp,oldWhole.append newWhole,releasedWhole.append laterWhole,?_,?_⟩
  · rw [samples_append _ releasedWhole,samples_append _ oldWhole]
    exact oldOrder.append newOrder
  · rw [sampleCount_append _ releasedWhole,sampleCount_append _ oldWhole]
    omega

/-- Samples that arrive later do not change what leaves. -/
theorem extend (sheds : Sheds before released discarded after) (more : Pcm) :
    Sheds (before ++ more) released discarded (after ++ more) := by
  obtain ⟨gone,rfl,whole,releasedWhole,order,count⟩ := sheds
  exact ⟨gone,by simp,whole,releasedWhole,order,count⟩

theorem samples_eq (sheds : Sheds before released discarded after) :
    ∃ gone, samples before = gone ++ samples after ∧ (samples released).Sublist gone ∧
      gone.length = sampleCount released + discarded := by
  obtain ⟨gone,rfl,whole,-,order,count⟩ := sheds
  exact ⟨samples gone,samples_append _ whole,order,by rw [length_samples,count]⟩

theorem conserves (sheds : Sheds before released discarded after) :
    sampleCount released + discarded + sampleCount after = sampleCount before := by
  obtain ⟨gone,rfl,whole,-,-,count⟩ := sheds
  rw [sampleCount_append _ whole,count]

end Sheds

namespace StreamingVADEndpointDetector
variable {σ : Type} (settings : VADSettings) (backend : VADBackend σ)

/-- The audio waiting for a decision, oldest first. -/
def undecided (detector : StreamingVADEndpointDetector σ) : Pcm :=
  detector.preRoll ++ detector.candidate ++ detector.trailing

def retained (detector : StreamingVADEndpointDetector σ) : Pcm := detector.undecided ++ detector.inputBuffer

/-- Every buffer holds whole samples, and a state uses no buffer but its own. -/
structure Aligned (detector : StreamingVADEndpointDetector σ) : Prop where
  preRoll : Whole detector.preRoll
  candidate : Whole detector.candidate
  trailing : Whole detector.trailing
  inputBuffer : Whole detector.inputBuffer
  candidateOnly : detector.state ≠ .speechCandidate → detector.candidate = []
  trailingOnly : detector.state ≠ .trailingSilence → detector.trailing = []
  preRollOnly : detector.state = .waitingForSpeech ∨ detector.state = .finalizing ∨ detector.preRoll = []

theorem Aligned.retained_whole {detector : StreamingVADEndpointDetector σ} (aligned : detector.Aligned) :
    Whole detector.retained :=
  ((aligned.preRoll.append aligned.candidate).append aligned.trailing).append aligned.inputBuffer

theorem idle_empty {detector : StreamingVADEndpointDetector σ} (empty : detector.inputBuffer = []) :
    detector.frameReady settings = false := by
  have positive := settings.frameBytes_pos
  simp only [frameReady,empty,List.length_nil,decide_eq_false_iff_not]
  omega

theorem aligned_initial (start : σ) : Aligned { backendState := start } :=
  ⟨rfl,rfl,rfl,rfl,fun _ => rfl,fun _ => rfl,.inl rfl⟩

theorem appendPreRoll_sheds (detector : StreamingVADEndpointDetector σ) (audio : Pcm)
    (whole : Whole (detector.preRoll ++ audio)) :
    Sheds (detector.preRoll ++ audio) [] (detector.appendPreRoll settings audio).1
        (detector.appendPreRoll settings audio).2.preRoll ∧
      Whole (detector.appendPreRoll settings audio).2.preRoll := by
  simp only [appendPreRoll]
  generalize detector.preRoll ++ audio = extended at whole
  have even : (extended.length - settings.preRollSamples * 2) % 2 = 0 := by
    unfold Whole at whole
    omega
  have given := Sheds.discard (extended.drop (extended.length - settings.preRollSamples * 2)) (whole.take even)
  have count : sampleCount (extended.take (extended.length - settings.preRollSamples * 2)) =
      (extended.length - settings.preRollSamples * 2) / 2 := by
    simp only [sampleCount,List.length_take]
    omega
  rw [List.take_append_drop,count] at given
  exact ⟨given,whole.drop even⟩

/-- Confirmed speech releases the candidate. -/
theorem confirmSpeech_sheds (detector : StreamingVADEndpointDetector σ)
    (transitions : List (VADEndpointState × VADEndpointState)) (inputBuffer : Whole detector.inputBuffer)
    (candidate : Whole detector.candidate) (noPreRoll : detector.preRoll = []) (noTrailing : detector.trailing = []) :
    Sheds detector.candidate (detector.confirmSpeech transitions).1.audioToModel
        (detector.confirmSpeech transitions).1.discardedSamples (detector.confirmSpeech transitions).2.undecided ∧
      (detector.confirmSpeech transitions).2.Aligned := by
  have given := Sheds.release [] candidate
  rw [List.append_nil] at given
  refine ⟨by simpa [confirmSpeech,transition,undecided,noPreRoll,noTrailing] using given,?_⟩
  exact ⟨by simp [confirmSpeech,transition,noPreRoll],rfl,by simp [confirmSpeech,transition,noTrailing],inputBuffer,
    fun _ => rfl,fun _ => noTrailing,.inr (.inr noPreRoll)⟩

/-- Silence that is long enough releases the hangover, and the rest becomes pre-roll. -/
theorem settleSilence_sheds (detector : StreamingVADEndpointDetector σ)
    (transitions : List (VADEndpointState × VADEndpointState)) (inputBuffer : Whole detector.inputBuffer)
    (trailing : Whole detector.trailing) (silent : detector.state = .trailingSilence)
    (noPreRoll : detector.preRoll = []) (noCandidate : detector.candidate = []) :
    Sheds detector.trailing (detector.settleSilence settings transitions).1.audioToModel
        (detector.settleSilence settings transitions).1.discardedSamples
        (detector.settleSilence settings transitions).2.undecided ∧
      (detector.settleSilence settings transitions).2.Aligned := by
  unfold settleSilence
  split
  · refine ⟨by simpa [undecided,noPreRoll,noCandidate] using Sheds.nothing detector.trailing,?_⟩
    exact ⟨by simp [noPreRoll],by simp [noCandidate],trailing,inputBuffer,fun _ => noCandidate,
      fun other => absurd silent other,.inr (.inr noPreRoll)⟩
  · dsimp only
    have even : min detector.trailing.length (settings.hangoverSamples * 2) % 2 = 0 := by
      unfold Whole at trailing
      omega
    generalize min detector.trailing.length (settings.hangoverSamples * 2) = keepBytes at even
    have hangover := Sheds.release (detector.trailing.drop keepBytes) (trailing.take even)
    obtain ⟨trimmed,preRoll⟩ := appendPreRoll_sheds settings { detector with preRoll := [] }
      (detector.trailing.drop keepBytes) (trailing.drop even)
    have both := hangover.trans trimmed
    rw [List.take_append_drop,List.append_nil,Nat.zero_add] at both
    refine ⟨by simpa [undecided,transition,appendPreRoll,noCandidate] using both,?_⟩
    exact ⟨preRoll,by simp [transition,appendPreRoll,noCandidate],rfl,inputBuffer,fun _ => noCandidate,fun _ => rfl,
      .inr (.inl rfl)⟩

/-- A frame joins what the detector retains; what leaves is the oldest of it. -/
theorem processFrame_sheds (detector : StreamingVADEndpointDetector σ) (frame : Pcm) (probability : Rat)
    (aligned : detector.Aligned) (whole : Whole frame) (running : detector.state ≠ .finalizing) :
    Sheds (detector.undecided ++ frame) (detector.processFrame settings frame probability).1.audioToModel
        (detector.processFrame settings frame probability).1.discardedSamples
        (detector.processFrame settings frame probability).2.undecided ∧
      (detector.processFrame settings frame probability).2.Aligned := by
  obtain ⟨preRoll,candidate,trailing,inputBuffer,candidateOnly,trailingOnly,preRollOnly⟩ := aligned
  unfold processFrame
  cases state : detector.state with
  | waitingForSpeech =>
    have noCandidate := candidateOnly (by simp [state])
    have noTrailing := trailingOnly (by simp [state])
    have held : detector.undecided = detector.preRoll := by simp [undecided,noCandidate,noTrailing]
    have extended := preRoll.append whole
    rw [held]
    dsimp only
    split
    · split
      · exact confirmSpeech_sheds { detector with
          candidate := detector.preRoll ++ frame
          preRoll := []
          candidateSpeechSamples := settings.frameSamples
          state := .speechCandidate } _ inputBuffer extended rfl noTrailing
      · refine ⟨by simpa [transition,undecided,noTrailing] using Sheds.nothing (detector.preRoll ++ frame),?_⟩
        exact ⟨rfl,extended,trailing,inputBuffer,fun other => absurd rfl other,fun _ => noTrailing,.inr (.inr rfl)⟩
    · obtain ⟨trimmed,kept⟩ := appendPreRoll_sheds settings detector frame extended
      refine ⟨by simpa [undecided,appendPreRoll,noCandidate,noTrailing] using trimmed,?_⟩
      exact ⟨kept,candidate,trailing,inputBuffer,fun _ => noCandidate,fun _ => noTrailing,.inl state⟩
  | speechCandidate =>
    have noPreRoll : detector.preRoll = [] := by simpa [state] using preRollOnly
    have noTrailing := trailingOnly (by simp [state])
    have held : detector.undecided = detector.candidate := by simp [undecided,noPreRoll,noTrailing]
    have extended := candidate.append whole
    rw [held]
    dsimp only
    split
    · split
      · exact confirmSpeech_sheds { detector with
          candidate := detector.candidate ++ frame
          candidateSpeechSamples := detector.candidateSpeechSamples + settings.frameSamples
          state := .speechCandidate } _ inputBuffer extended noPreRoll noTrailing
      · refine ⟨by simpa [undecided,noPreRoll,noTrailing] using Sheds.nothing (detector.candidate ++ frame),?_⟩
        exact ⟨preRoll,extended,trailing,inputBuffer,fun other => absurd rfl other,fun _ => noTrailing,
          .inr (.inr noPreRoll)⟩
    · obtain ⟨trimmed,kept⟩ := appendPreRoll_sheds settings detector (detector.candidate ++ frame)
        (by simpa [noPreRoll] using extended)
      refine ⟨by simpa [undecided,transition,appendPreRoll,noPreRoll,noTrailing] using trimmed,?_⟩
      exact ⟨kept,rfl,trailing,inputBuffer,fun _ => rfl,fun _ => noTrailing,.inl rfl⟩
  | inSpeech =>
    have noPreRoll : detector.preRoll = [] := by simpa [state] using preRollOnly
    have noCandidate := candidateOnly (by simp [state])
    have noTrailing := trailingOnly (by simp [state])
    have held : detector.undecided = [] := by simp [undecided,noPreRoll,noCandidate,noTrailing]
    rw [held,List.nil_append]
    dsimp only
    split
    · rw [held]
      exact ⟨by simpa using Sheds.release [] whole,
        ⟨preRoll,candidate,trailing,inputBuffer,candidateOnly,trailingOnly,preRollOnly⟩⟩
    · exact settleSilence_sheds settings { detector with trailing := frame, state := .trailingSilence } _ inputBuffer
        whole rfl noPreRoll noCandidate
  | trailingSilence =>
    have noPreRoll : detector.preRoll = [] := by simpa [state] using preRollOnly
    have noCandidate := candidateOnly (by simp [state])
    have held : detector.undecided = detector.trailing := by simp [undecided,noPreRoll,noCandidate]
    have extended := trailing.append whole
    rw [held]
    dsimp only
    split
    · refine ⟨by simpa [transition,undecided,noPreRoll,noCandidate] using Sheds.release [] extended,?_⟩
      exact ⟨preRoll,candidate,rfl,inputBuffer,fun _ => noCandidate,fun _ => rfl,.inr (.inr noPreRoll)⟩
    · exact settleSilence_sheds settings { detector with
        trailing := detector.trailing ++ frame
        state := .trailingSilence } _ inputBuffer extended rfl noPreRoll noCandidate
  | finalizing => exact absurd state running

theorem frameBytes_whole : settings.frameBytes % 2 = 0 := Nat.mul_mod_left ..

theorem drainFrame_sheds (detector : StreamingVADEndpointDetector σ) (aligned : detector.Aligned)
    (ready : detector.frameReady settings = true) :
    Sheds detector.retained (detector.drainFrame settings backend).1.audioToModel
        (detector.drainFrame settings backend).1.discardedSamples
        (detector.drainFrame settings backend).2.retained ∧
      (detector.drainFrame settings backend).2.Aligned := by
  simp only [frameReady,decide_eq_true_eq] at ready
  have frame := aligned.inputBuffer.take (frameBytes_whole settings)
  have rest := aligned.inputBuffer.drop (frameBytes_whole settings)
  obtain ⟨sheds,next⟩ := processFrame_sheds settings { detector with
      inputBuffer := detector.inputBuffer.drop settings.frameBytes
      backendState := (backend.speechProbability detector.backendState
        (detector.inputBuffer.take settings.frameBytes)).2 }
    (detector.inputBuffer.take settings.frameBytes) (backend.speechProbability detector.backendState
      (detector.inputBuffer.take settings.frameBytes)).1
    ⟨aligned.preRoll,aligned.candidate,aligned.trailing,rest,aligned.candidateOnly,aligned.trailingOnly,
      aligned.preRollOnly⟩ frame ready.1
  refine ⟨?_,next⟩
  have extended := sheds.extend (detector.inputBuffer.drop settings.frameBytes)
  simp only [retained,drainFrame_inputBuffer]
  rw [List.append_assoc,List.take_append_drop] at extended
  exact extended

theorem Aligned.rearmed {detector : StreamingVADEndpointDetector σ} (aligned : detector.Aligned)
    (ended : detector.state = .finalizing) : (detector.rearmed backend).Aligned :=
  ⟨aligned.preRoll,aligned.candidate,aligned.trailing,aligned.inputBuffer,
    fun _ => aligned.candidateOnly (by simp [ended]),fun _ => aligned.trailingOnly (by simp [ended]),.inl rfl⟩

/-- A frame that ends an utterance leaves the detector finalizing. -/
theorem drainFrame_endpoint (detector : StreamingVADEndpointDetector σ)
    (ended : (detector.drainFrame settings backend).1.endpoint = true) :
    (detector.drainFrame settings backend).2.state = .finalizing := by
  have settles (silent : StreamingVADEndpointDetector σ) (transitions : List (VADEndpointState × VADEndpointState))
      (ended : (silent.settleSilence settings transitions).1.endpoint = true) :
      (silent.settleSilence settings transitions).2.state = .finalizing := by
    unfold settleSilence at *
    split at ended
    · cases ended
    · rename_i long
      rw [if_neg long]
      rfl
  revert ended
  unfold drainFrame processFrame confirmSpeech
  cases detector.state with
  | waitingForSpeech =>
    dsimp only
    split
    · split <;> simp [transition]
    · simp
  | speechCandidate =>
    dsimp only
    split
    · split <;> simp
    · simp
  | inSpeech =>
    dsimp only
    split
    · simp
    · exact settles _ _
  | trailingSilence =>
    dsimp only
    split
    · simp
    · exact settles _ _
  | finalizing => exact settles _ _

/-- The frames that wait play no part in processing one. -/
theorem processFrame_extend (detector : StreamingVADEndpointDetector σ) (frame waiting : Pcm) (probability : Rat) :
    { detector with inputBuffer := waiting }.processFrame settings frame probability =
      ((detector.processFrame settings frame probability).1,
        { (detector.processFrame settings frame probability).2 with inputBuffer := waiting }) := by
  obtain ⟨_,state,_,_,_,_,_⟩ := detector
  unfold processFrame confirmSpeech settleSilence
  cases state <;> dsimp only [transition,appendPreRoll] <;> split <;> (try split) <;> rfl

theorem drainFrame_extend (detector : StreamingVADEndpointDetector σ) (pcm : Pcm)
    (fits : settings.frameBytes ≤ detector.inputBuffer.length) :
    { detector with inputBuffer := detector.inputBuffer ++ pcm }.drainFrame settings backend =
      ((detector.drainFrame settings backend).1,
        { (detector.drainFrame settings backend).2 with
          inputBuffer := (detector.drainFrame settings backend).2.inputBuffer ++ pcm }) := by
  have front : (detector.inputBuffer ++ pcm).take settings.frameBytes = detector.inputBuffer.take settings.frameBytes :=
    List.take_append_of_le_length fits
  have back : (detector.inputBuffer ++ pcm).drop settings.frameBytes =
      detector.inputBuffer.drop settings.frameBytes ++ pcm := List.drop_append_of_le_length fits
  rw [drainFrame_inputBuffer]
  simp only [drainFrame,front,back]
  rw [← processFrame_extend]

end StreamingVADEndpointDetector

/-! ## Streams -/

inductive Call
  | addAudio (pcm : Pcm)
  | endpointFinalized
  | finishInput
  deriving DecidableEq, Repr

/-- A detector with the audio that it accepted and what its decisions add up to: the audio
    released, the samples discarded, and each endpoint by the index of its last frame and the
    audio released until then. -/
structure Stream (σ : Type) where
  detector : StreamingVADEndpointDetector σ
  input : Pcm := []
  released : Pcm := []
  discarded : Nat := 0
  endpoints : List (Nat × Pcm) := []
  deriving DecidableEq, Repr

namespace Stream
variable {σ : Type} (settings : VADSettings) (backend : VADBackend σ)

/-- How many frames the detector has processed, as long as no `finish_input` cleared the rest. -/
def frameIndex (stream : Stream σ) : Nat :=
  (stream.input.length - stream.detector.inputBuffer.length) / settings.frameBytes

/-- A call took the detector to `next` and returned `decision`. -/
def note (stream : Stream σ) (decision : VADDecision) (next : StreamingVADEndpointDetector σ) : Stream σ :=
  let noted := { stream with
    detector := next
    released := stream.released ++ decision.audioToModel
    discarded := stream.discarded + decision.discardedSamples }
  if decision.endpoint then
    { noted with endpoints := stream.endpoints ++ [(noted.frameIndex settings,noted.released)] }
  else noted

def accept (stream : Stream σ) (pcm : Pcm) : Stream σ :=
  { stream with
    input := stream.input ++ pcm
    detector := { stream.detector with inputBuffer := stream.detector.inputBuffer ++ pcm } }

def call (stream : Stream σ) : Call → Stream σ
  | .addAudio pcm =>
    match stream.detector.addAudio settings backend pcm with
    | (.ok decision,next) => { stream with input := stream.input ++ pcm }.note settings decision next
    | (.error _,next) => { stream with detector := next }
  | .endpointFinalized =>
    let (decision,next) := stream.detector.endpointFinalized settings backend
    stream.note settings decision next
  | .finishInput =>
    let (decision,next) := stream.detector.finishInput settings backend
    stream.note settings decision next

def run (stream : Stream σ) (calls : List Call) : Stream σ := calls.foldl (call settings backend) stream

def opened (start : σ) : Stream σ where
  detector := { backendState := start }

/-- The detector is finalized, or it takes a frame. -/
def tick (stream : Stream σ) : Option (Stream σ) :=
  if stream.detector.state = .finalizing then some { stream with detector := stream.detector.rearmed backend }
  else if stream.detector.frameReady settings then
    let drained := stream.detector.drainFrame settings backend
    some (stream.note settings drained.1 drained.2)
  else none

def Ticks : Stream σ → Stream σ → Prop :=
  Relation.ReflTransGen fun stream next => stream.tick settings backend = some next

@[simp] theorem note_detector (stream : Stream σ) (decision : VADDecision) (next : StreamingVADEndpointDetector σ) :
    (stream.note settings decision next).detector = next := by
  unfold note
  dsimp only
  split <;> rfl

@[simp] theorem note_input (stream : Stream σ) (decision : VADDecision) (next : StreamingVADEndpointDetector σ) :
    (stream.note settings decision next).input = stream.input := by
  unfold note
  dsimp only
  split <;> rfl

@[simp] theorem note_released (stream : Stream σ) (decision : VADDecision) (next : StreamingVADEndpointDetector σ) :
    (stream.note settings decision next).released = stream.released ++ decision.audioToModel := by
  unfold note
  dsimp only
  split <;> rfl

@[simp] theorem note_discarded (stream : Stream σ) (decision : VADDecision) (next : StreamingVADEndpointDetector σ) :
    (stream.note settings decision next).discarded = stream.discarded + decision.discardedSamples := by
  unfold note
  dsimp only
  split <;> rfl

theorem note_nothing (stream : Stream σ) (transitions : List (VADEndpointState × VADEndpointState)) :
    stream.note settings { transitions := transitions } stream.detector = stream := by
  simp [note]

theorem note_followedBy (stream : Stream σ) (first later : VADDecision)
    (middle next : StreamingVADEndpointDetector σ) (running : first.endpoint = false) :
    (stream.note settings first middle).note settings later next =
      stream.note settings (first.followedBy later) next := by
  cases ended : later.endpoint with
  | true => simp [note,VADDecision.followedBy,running,ended,frameIndex,Nat.add_assoc]
  | false => simp [note,VADDecision.followedBy,running,ended,Nat.add_assoc]

/-- Audio that arrives later does not change what was noted. -/
theorem note_accept (stream : Stream σ) (decision : VADDecision) (next : StreamingVADEndpointDetector σ) (pcm : Pcm) :
    (stream.note settings decision next).accept pcm =
      (stream.accept pcm).note settings decision { next with inputBuffer := next.inputBuffer ++ pcm } := by
  unfold note
  dsimp only
  split
  · simp [accept,frameIndex,Nat.add_sub_add_right]
  · rfl

/-- A tick goes on as before when more audio waits. -/
theorem tick_accept {stream next : Stream σ} (ticked : stream.tick settings backend = some next) (pcm : Pcm) :
    (stream.accept pcm).tick settings backend = some (next.accept pcm) := by
  unfold tick at ticked
  split at ticked
  · rename_i ended
    cases ticked
    have still : (stream.accept pcm).detector.state = .finalizing := ended
    rw [tick,if_pos still]
    rfl
  · rename_i running
    split at ticked
    · rename_i ready
      simp only [Option.some.injEq] at ticked
      subst ticked
      have fits := StreamingVADEndpointDetector.frameReady_length settings ready
      have still : (stream.accept pcm).detector.state ≠ .finalizing := running
      have stillReady : (stream.accept pcm).detector.frameReady settings = true := by
        simp only [StreamingVADEndpointDetector.frameReady,decide_eq_true_eq,accept,List.length_append]
        exact ⟨running,by omega⟩
      have drained : (stream.accept pcm).detector.drainFrame settings backend = _ :=
        StreamingVADEndpointDetector.drainFrame_extend settings backend stream.detector pcm fits
      rw [tick,if_neg still,if_pos stillReady,note_accept,drained]
    · cases ticked

theorem Ticks.accept {stream next : Stream σ} (ticks : Ticks settings backend stream next) (pcm : Pcm) :
    Ticks settings backend (stream.accept pcm) (next.accept pcm) := by
  induction ticks with
  | refl => exact .refl
  | tail _ ticked ih => exact ih.tail (tick_accept settings backend ticked pcm)

/-- The drain loop is a row of ticks, and afterwards no frame is ready. -/
theorem drainLoop_ticks (fuel : Nat) (stream : Stream σ) (enough : stream.detector.inputBuffer.length ≤ fuel) :
    let drained := StreamingVADEndpointDetector.drainLoop settings backend fuel stream.detector
    Ticks settings backend stream (stream.note settings drained.1 drained.2) ∧
      drained.2.frameReady settings = false := by
  have positive := settings.frameBytes_pos
  induction fuel generalizing stream with
  | zero =>
    have idle : stream.detector.frameReady settings = false := by
      simp only [StreamingVADEndpointDetector.frameReady,decide_eq_false_iff_not]
      omega
    dsimp only [StreamingVADEndpointDetector.drainLoop]
    rw [note_nothing]
    exact ⟨.refl,idle⟩
  | succ fuel ih =>
    cases ready : stream.detector.frameReady settings with
    | false =>
      rw [StreamingVADEndpointDetector.drainLoop_idle settings backend _ _ ready]
      dsimp only
      rw [note_nothing]
      exact ⟨.refl,ready⟩
    | true =>
      have running : stream.detector.state ≠ .finalizing := by
        simp only [StreamingVADEndpointDetector.frameReady,decide_eq_true_eq] at ready
        exact ready.1
      have fits := StreamingVADEndpointDetector.frameReady_length settings ready
      have ticked : stream.tick settings backend = some (stream.note settings
          (stream.detector.drainFrame settings backend).1 (stream.detector.drainFrame settings backend).2) := by
        rw [tick,if_neg running,if_pos ready]
      rw [StreamingVADEndpointDetector.drainLoop_ready settings backend fuel _ ready]
      split
      · rename_i ended
        refine ⟨.single ticked,?_⟩
        have final := StreamingVADEndpointDetector.drainFrame_endpoint settings backend _ ended
        simp [StreamingVADEndpointDetector.frameReady,final]
      · rename_i goesOn
        obtain ⟨later,idle⟩ := ih (stream.note settings (stream.detector.drainFrame settings backend).1
          (stream.detector.drainFrame settings backend).2) (by
            rw [note_detector,StreamingVADEndpointDetector.drainFrame_inputBuffer,List.length_drop]
            omega)
        rw [note_detector,note_followedBy settings _ _ _ _ _ (by simpa using goesOn)] at later
        rw [note_detector] at idle
        exact ⟨.head ticked later,idle⟩

theorem drainCompleteFrames_ticks (stream : Stream σ) (transitions : List (VADEndpointState × VADEndpointState)) :
    let drained := stream.detector.drainCompleteFrames settings backend transitions
    Ticks settings backend stream (stream.note settings drained.1 drained.2) ∧
      drained.2.frameReady settings = false :=
  drainLoop_ticks settings backend _ stream (Nat.le_refl _)

/-- A call of `add_audio` accepts aligned audio and ticks until no frame is ready. -/
theorem addAudio_ticks (stream : Stream σ) (pcm : Pcm) (whole : Whole pcm) :
    Ticks settings backend (stream.accept pcm) (stream.call settings backend (.addAudio pcm)) ∧
      (stream.call settings backend (.addAudio pcm)).detector.frameReady settings = false := by
  have drained := drainCompleteFrames_ticks settings backend (stream.accept pcm) []
  have even : ¬ pcm.length % 2 ≠ 0 := fun odd => odd whole
  simp only [call,StreamingVADEndpointDetector.addAudio,if_neg even,note_detector]
  exact drained

theorem addAudio_refused (stream : Stream σ) (pcm : Pcm) (odd : ¬ Whole pcm) :
    stream.call settings backend (.addAudio pcm) = stream := by
  simp only [call,StreamingVADEndpointDetector.addAudio,if_pos (show pcm.length % 2 ≠ 0 from odd)]

theorem endpointFinalized_ticks (stream : Stream σ) (settled : stream.detector.frameReady settings = false) :
    Ticks settings backend stream (stream.call settings backend .endpointFinalized) ∧
      (stream.call settings backend .endpointFinalized).detector.frameReady settings = false := by
  by_cases ended : stream.detector.state = .finalizing
  · obtain ⟨drained,idle⟩ := drainCompleteFrames_ticks settings backend
      { stream with detector := stream.detector.rearmed backend } [(.finalizing,.waitingForSpeech)]
    have ticked : stream.tick settings backend = some { stream with detector := stream.detector.rearmed backend } := by
      rw [tick,if_pos ended]
    have called : stream.call settings backend .endpointFinalized =
        { stream with detector := stream.detector.rearmed backend }.note settings
          ((stream.detector.rearmed backend).drainCompleteFrames settings backend [(.finalizing,.waitingForSpeech)]).1
          ((stream.detector.rearmed backend).drainCompleteFrames settings backend
            [(.finalizing,.waitingForSpeech)]).2 := by
      simp only [call,StreamingVADEndpointDetector.endpointFinalized,ended,ne_eq,not_true_eq_false,if_false,
        StreamingVADEndpointDetector.transition]
      rfl
    rw [called,note_detector]
    exact ⟨.head ticked drained,idle⟩
  · have called : stream.call settings backend .endpointFinalized = stream := by
      simp only [call,StreamingVADEndpointDetector.endpointFinalized,ne_eq,ended,not_false_eq_true,if_true]
      exact note_nothing settings stream []
    rw [called]
    exact ⟨.refl,settled⟩

/-! ## Conservation -/

/-- The input is what was released and discarded, followed by what the detector retains. -/
structure Conserved (stream : Stream σ) : Prop where
  balance : Sheds stream.input stream.released stream.discarded stream.detector.retained
  aligned : stream.detector.Aligned

theorem conserved_opened (start : σ) : (opened start).Conserved :=
  ⟨Sheds.nothing [],StreamingVADEndpointDetector.aligned_initial start⟩

theorem Conserved.accept {stream : Stream σ} (conserved : stream.Conserved) {pcm : Pcm} (whole : Whole pcm) :
    (stream.accept pcm).Conserved := by
  obtain ⟨balance,aligned⟩ := conserved
  refine ⟨?_,⟨aligned.preRoll,aligned.candidate,aligned.trailing,aligned.inputBuffer.append whole,
    aligned.candidateOnly,aligned.trailingOnly,aligned.preRollOnly⟩⟩
  have extended := balance.extend pcm
  rw [StreamingVADEndpointDetector.retained,List.append_assoc] at extended
  exact extended

theorem Conserved.tick {stream next : Stream σ} (conserved : stream.Conserved)
    (ticked : stream.tick settings backend = some next) : next.Conserved := by
  obtain ⟨balance,aligned⟩ := conserved
  unfold Stream.tick at ticked
  split at ticked
  · rename_i ended
    cases ticked
    exact ⟨balance,aligned.rearmed backend ended⟩
  · split at ticked
    · rename_i ready
      simp only [Option.some.injEq] at ticked
      subst ticked
      obtain ⟨sheds,kept⟩ := StreamingVADEndpointDetector.drainFrame_sheds settings backend _ aligned ready
      exact ⟨by simpa using balance.trans sheds,by simpa using kept⟩
    · cases ticked

theorem Conserved.ticks {stream next : Stream σ} (conserved : stream.Conserved)
    (ticks : Ticks settings backend stream next) : next.Conserved := by
  induction ticks with
  | refl => exact conserved
  | tail _ ticked ih => exact ih.tick settings backend ticked

end Stream

namespace StreamingVADEndpointDetector
variable {σ : Type} (settings : VADSettings) (backend : VADBackend σ)

theorem drainCompleteFrames_sheds (detector : StreamingVADEndpointDetector σ)
    (transitions : List (VADEndpointState × VADEndpointState)) (aligned : detector.Aligned) :
    let drained := detector.drainCompleteFrames settings backend transitions
    Sheds detector.retained drained.1.audioToModel drained.1.discardedSamples drained.2.retained ∧
      drained.2.Aligned := by
  have conserved : Stream.Conserved { detector := detector, input := detector.retained } :=
    ⟨Sheds.nothing detector.retained,aligned⟩
  have ticks := (Stream.drainCompleteFrames_ticks settings backend { detector := detector, input := detector.retained }
    transitions).1
  obtain ⟨balance,kept⟩ := conserved.ticks settings backend ticks
  exact ⟨by simpa using balance,by simpa using kept⟩

theorem Aligned.hear {detector : StreamingVADEndpointDetector σ} (aligned : detector.Aligned) {pcm : Pcm} (whole : Whole pcm) :
    Aligned { detector with inputBuffer := detector.inputBuffer ++ pcm } :=
  ⟨aligned.preRoll,aligned.candidate,aligned.trailing,aligned.inputBuffer.append whole,aligned.candidateOnly,
    aligned.trailingOnly,aligned.preRollOnly⟩

theorem addAudio_sheds {detector next : StreamingVADEndpointDetector σ} {pcm : Pcm} {decision : VADDecision}
    (aligned : detector.Aligned) (heard : detector.addAudio settings backend pcm = (.ok decision,next)) :
    Sheds (detector.retained ++ pcm) decision.audioToModel decision.discardedSamples next.retained ∧ next.Aligned := by
  unfold addAudio at heard
  split at heard
  · cases heard
  · rename_i even
    have whole : Whole pcm := not_not.mp even
    have sheds := drainCompleteFrames_sheds settings backend _ [] (aligned.hear whole)
    cases heard
    rw [retained,List.append_assoc]
    exact sheds

theorem endpointFinalized_sheds (detector : StreamingVADEndpointDetector σ) (aligned : detector.Aligned) :
    let finalized := detector.endpointFinalized settings backend
    Sheds detector.retained finalized.1.audioToModel finalized.1.discardedSamples finalized.2.retained ∧
      finalized.2.Aligned := by
  unfold endpointFinalized
  by_cases ended : detector.state = .finalizing
  · rw [if_neg (not_not.mpr ended)]
    exact drainCompleteFrames_sheds settings backend (detector.rearmed backend) _ (aligned.rearmed backend ended)
  · rw [if_pos ended]
    exact ⟨Sheds.nothing _,aligned⟩

/-- Ending the input disposes of everything. -/
theorem finishInput_sheds (detector : StreamingVADEndpointDetector σ) (aligned : detector.Aligned) :
    Sheds detector.retained (detector.finishInput settings backend).1.audioToModel
        (detector.finishInput settings backend).1.discardedSamples [] ∧
      (detector.finishInput settings backend).2.retained = [] ∧
      (detector.finishInput settings backend).2.Aligned := by
  obtain ⟨drains,kept⟩ := drainCompleteFrames_sheds settings backend detector [] aligned
  refine ⟨?_,rfl,⟨rfl,rfl,rfl,rfl,fun _ => rfl,fun _ => rfl,.inr (.inr rfl)⟩⟩
  unfold finishInput
  generalize detector.drainCompleteFrames settings backend [] = outcome at drains kept
  obtain ⟨decision,drained⟩ := outcome
  obtain ⟨preRoll,candidate,trailing,inputBuffer,candidateOnly,trailingOnly,preRollOnly⟩ := kept
  dsimp only at *
  rw [Nat.add_assoc]
  refine drains.trans ?_
  have givenUp := Sheds.discard [] inputBuffer
  rw [List.append_nil] at givenUp
  have front := (Sheds.discard drained.inputBuffer preRoll).trans givenUp
  cases state : drained.state with
  | waitingForSpeech =>
    have held : drained.retained = drained.preRoll ++ drained.inputBuffer := by
      simp [retained,undecided,candidateOnly (by simp [state]),trailingOnly (by simp [state])]
    dsimp only
    rw [held,Nat.add_comm]
    exact front
  | finalizing =>
    have held : drained.retained = drained.preRoll ++ drained.inputBuffer := by
      simp [retained,undecided,candidateOnly (by simp [state]),trailingOnly (by simp [state])]
    dsimp only
    rw [held,Nat.add_comm]
    exact front
  | speechCandidate =>
    have noPreRoll : drained.preRoll = [] := by simpa [state] using preRollOnly
    have held : drained.retained = drained.candidate ++ drained.inputBuffer := by
      simp [retained,undecided,noPreRoll,trailingOnly (by simp [state])]
    dsimp only
    rw [held,noPreRoll,show sampleCount [] = 0 from rfl,Nat.add_zero,Nat.add_comm]
    exact (Sheds.discard drained.inputBuffer candidate).trans givenUp
  | inSpeech =>
    have noPreRoll : drained.preRoll = [] := by simpa [state] using preRollOnly
    have held : drained.retained = drained.inputBuffer := by
      simp [retained,undecided,noPreRoll,candidateOnly (by simp [state]),trailingOnly (by simp [state])]
    dsimp only
    rw [held,noPreRoll]
    simpa [sampleCount] using Sheds.release [] inputBuffer
  | trailingSilence =>
    have noPreRoll : drained.preRoll = [] := by simpa [state] using preRollOnly
    have held : drained.retained = drained.trailing ++ drained.inputBuffer := by
      simp [retained,undecided,noPreRoll,candidateOnly (by simp [state])]
    dsimp only
    rw [held,noPreRoll,show sampleCount [] = 0 from rfl,Nat.add_zero]
    have even : min drained.trailing.length
        ((settings.hangoverSamples - sampleCount decision.audioToModel) * 2) % 2 = 0 := by
      unfold Whole at trailing
      omega
    generalize min drained.trailing.length
      ((settings.hangoverSamples - sampleCount decision.audioToModel) * 2) = keepBytes at even
    have hangover := Sheds.release (drained.trailing.drop keepBytes ++ drained.inputBuffer) (trailing.take even)
    have silence := (Sheds.discard drained.inputBuffer (trailing.drop even)).trans givenUp
    have both := hangover.trans silence
    rw [← List.append_assoc,List.take_append_drop,List.append_nil,List.append_nil,Nat.zero_add] at both
    simpa [sampleCount] using both

theorem aligned_reset (detector : StreamingVADEndpointDetector σ) : (detector.reset backend).Aligned :=
  aligned_initial (backend.reset detector.backendState)

end StreamingVADEndpointDetector

namespace Stream
variable {σ : Type} (settings : VADSettings) (backend : VADBackend σ)

theorem Conserved.call {stream : Stream σ} (conserved : stream.Conserved)
    (settled : stream.detector.frameReady settings = false) (call : Call) :
    (stream.call settings backend call).Conserved ∧
      (stream.call settings backend call).detector.frameReady settings = false := by
  cases call with
  | addAudio pcm =>
    by_cases whole : Whole pcm
    · obtain ⟨ticks,idle⟩ := addAudio_ticks settings backend stream pcm whole
      exact ⟨(conserved.accept whole).ticks settings backend ticks,idle⟩
    · rw [addAudio_refused settings backend stream pcm whole]
      exact ⟨conserved,settled⟩
  | endpointFinalized =>
    obtain ⟨ticks,idle⟩ := endpointFinalized_ticks settings backend stream settled
    exact ⟨conserved.ticks settings backend ticks,idle⟩
  | finishInput =>
    obtain ⟨sheds,cleared,kept⟩ :=
      StreamingVADEndpointDetector.finishInput_sheds settings backend stream.detector conserved.aligned
    have disposed := conserved.balance.trans sheds
    rw [← cleared] at disposed
    refine ⟨⟨by simpa [Stream.call] using disposed,by simpa [Stream.call] using kept⟩,?_⟩
    rw [Stream.call,note_detector]
    exact StreamingVADEndpointDetector.idle_empty settings rfl

theorem conserved_run (start : σ) (calls : List Call) :
    ((opened start).run settings backend calls).Conserved ∧
      ((opened start).run settings backend calls).detector.frameReady settings = false := by
  have go (stream : Stream σ) (conserved : stream.Conserved) (settled : stream.detector.frameReady settings = false) :
      (stream.run settings backend calls).Conserved ∧
        (stream.run settings backend calls).detector.frameReady settings = false := by
    induction calls generalizing stream with
    | nil => exact ⟨conserved,settled⟩
    | cons first rest ih =>
      obtain ⟨conserved,settled⟩ := conserved.call settings backend settled first
      exact ih _ conserved settled
  exact go _ (conserved_opened start) (StreamingVADEndpointDetector.idle_empty settings rfl)

/-- After any calls on a fresh detector, for any oracle: the last samples of the input are
    those that the detector retains, the samples released are some of the others, in order,
    and the rest of the others are discarded. -/
theorem run_conserves (start : σ) (calls : List Call) :
    let stream := (opened start).run settings backend calls
    (∃ gone, samples stream.input = gone ++ samples stream.detector.retained ∧
        (samples stream.released).Sublist gone ∧ gone.length = sampleCount stream.released + stream.discarded) ∧
      (samples stream.released).Sublist (samples stream.input) ∧
      sampleCount stream.input =
        sampleCount stream.released + stream.discarded + sampleCount stream.detector.retained := by
  obtain ⟨⟨balance,-⟩,-⟩ := conserved_run settings backend start calls
  obtain ⟨gone,split,order,count⟩ := balance.samples_eq
  refine ⟨⟨gone,split,order,count⟩,?_,balance.conserves.symm⟩
  rw [split]
  exact order.trans (List.sublist_append_left _ _)

/-- The calls feed the detector these bytes in aligned pieces, and finalize endpoints in
    between. -/
inductive Schedules : List Call → Pcm → Prop
  | done : Schedules [] []
  | audio {calls : List Call} {rest : Pcm} (pcm : Pcm) (whole : Whole pcm) (later : Schedules calls rest) :
      Schedules (.addAudio pcm :: calls) (pcm ++ rest)
  | finalize {calls : List Call} {rest : Pcm} (later : Schedules calls rest) :
      Schedules (.endpointFinalized :: calls) rest

/-- `endpoint_finalized` until the detector is no longer finalizing. -/
def finalizeAll : Nat → Stream σ → Stream σ
  | 0, stream => stream
  | fuel+1, stream =>
    if stream.detector.state = .finalizing then finalizeAll fuel (stream.call settings backend .endpointFinalized)
    else stream

def finalized (stream : Stream σ) : Stream σ :=
  finalizeAll settings backend (stream.detector.inputBuffer.length + 1) stream

theorem finalizeAll_detector (fuel : Nat) (stream : Stream σ) :
    (finalizeAll settings backend fuel stream).detector =
      (StreamingVADEndpointDetector.finalizeAll settings backend fuel stream.detector).2 := by
  induction fuel generalizing stream with
  | zero => rfl
  | succ fuel ih =>
    simp only [finalizeAll,StreamingVADEndpointDetector.finalizeAll]
    split
    · rw [ih,call,note_detector]
    · rfl

theorem finalizeAll_ticks (fuel : Nat) (stream : Stream σ) (settled : stream.detector.frameReady settings = false) :
    Ticks settings backend stream (finalizeAll settings backend fuel stream) ∧
      (finalizeAll settings backend fuel stream).detector.frameReady settings = false := by
  induction fuel generalizing stream with
  | zero => exact ⟨.refl,settled⟩
  | succ fuel ih =>
    rw [finalizeAll]
    split
    · obtain ⟨ticks,idle⟩ := endpointFinalized_ticks settings backend stream settled
      obtain ⟨later,last⟩ := ih _ idle
      exact ⟨ticks.trans later,last⟩
    · exact ⟨.refl,settled⟩

theorem finalized_ticks (stream : Stream σ) (settled : stream.detector.frameReady settings = false) :
    Ticks settings backend stream (stream.finalized settings backend) :=
  (finalizeAll_ticks settings backend _ stream settled).1

/-- A schedule is the whole stream accepted at once, and some of its ticks. -/
theorem run_ticks {calls : List Call} {bytes : Pcm} (schedule : Schedules calls bytes) (stream : Stream σ)
    (settled : stream.detector.frameReady settings = false) :
    Ticks settings backend (stream.accept bytes) (stream.run settings backend calls) ∧
      (stream.run settings backend calls).detector.frameReady settings = false := by
  induction schedule generalizing stream with
  | done =>
    refine ⟨?_,settled⟩
    rw [accept,List.append_nil,List.append_nil]
    exact .refl
  | @audio calls rest pcm whole _ ih =>
    obtain ⟨ticks,idle⟩ := addAudio_ticks settings backend stream pcm whole
    obtain ⟨later,last⟩ := ih _ idle
    have both : (stream.accept pcm).accept rest = stream.accept (pcm ++ rest) := by simp [accept]
    rw [← both]
    exact ⟨(ticks.accept settings backend rest).trans later,last⟩
  | @finalize calls rest _ ih =>
    obtain ⟨ticks,idle⟩ := endpointFinalized_ticks settings backend stream settled
    obtain ⟨later,last⟩ := ih _ idle
    exact ⟨(ticks.accept settings backend rest).trans later,last⟩

/-- Finalizing at the end leaves nothing to tick. -/
theorem finalized_stuck (stream : Stream σ) (settled : stream.detector.frameReady settings = false) :
    (stream.finalized settings backend).detector.state ≠ .finalizing ∧
      (stream.finalized settings backend).tick settings backend = none := by
  have running : (stream.finalized settings backend).detector.state ≠ .finalizing := by
    rw [finalized,finalizeAll_detector]
    exact StreamingVADEndpointDetector.finalizeAll_settles settings backend _ _ (Nat.lt_succ_self _)
  have idle := (finalizeAll_ticks settings backend (stream.detector.inputBuffer.length + 1) stream settled).2
  refine ⟨running,?_⟩
  rw [tick,if_neg running,finalized,idle]
  rfl

/-- Two rows of ticks that cannot go on end alike. -/
theorem Ticks.unique {stream first second : Stream σ} (left : Ticks settings backend stream first)
    (right : Ticks settings backend stream second) (firstStuck : first.tick settings backend = none)
    (secondStuck : second.tick settings backend = none) : first = second := by
  have stays {stuck next : Stream σ} (stopped : stuck.tick settings backend = none)
      (ticks : Ticks settings backend stuck next) : stuck = next := by
    rcases ticks.cases_head with same | ⟨_,ticked,_⟩
    · exact same
    · rw [stopped] at ticked
      cases ticked
  have functional : Relator.RightUnique fun stream next : Stream σ => stream.tick settings backend = some next := by
    intro stream one other ticked again
    exact Option.some.inj (ticked.symm.trans again)
  rcases Relation.ReflTransGen.total_of_right_unique functional left right with onwards | backwards
  · exact stays firstStuck onwards
  · exact (stays secondStuck backwards).symm

/-- Two schedules of one stream, finalized at the end, agree on the audio released, the
    samples discarded, the frame and the audio at every endpoint, and the detector. -/
theorem schedule_free (start : σ) {first second : List Call} {bytes : Pcm} (one : Schedules first bytes)
    (other : Schedules second bytes) :
    let left := ((opened start).run settings backend first).finalized settings backend
    let right := ((opened start).run settings backend second).finalized settings backend
    left.released = right.released ∧ left.discarded = right.discarded ∧ left.endpoints = right.endpoints ∧
      left.detector = right.detector ∧ left.detector.state ≠ .finalizing := by
  have settled := (conserved_run settings backend start []).2
  obtain ⟨leftTicks,leftIdle⟩ := run_ticks settings backend one (opened start) settled
  obtain ⟨rightTicks,rightIdle⟩ := run_ticks settings backend other (opened start) settled
  obtain ⟨running,leftStuck⟩ := finalized_stuck settings backend _ leftIdle
  have rightStuck := (finalized_stuck settings backend _ rightIdle).2
  have leftAll := leftTicks.trans (finalized_ticks settings backend _ leftIdle)
  have rightAll := rightTicks.trans (finalized_ticks settings backend _ rightIdle)
  have same := Ticks.unique settings backend leftAll rightAll leftStuck rightStuck
  dsimp only
  rw [← same]
  exact ⟨rfl,rfl,rfl,rfl,running⟩

/-- One call, or one for each sample with the endpoint finalized in between. -/
theorem schedule_free_example :
    let left := ((opened ()).run StreamingVADEndpointDetector.exampleSettings
      StreamingVADEndpointDetector.exampleBackend [.addAudio [1,0,0,0,2,0]]).finalized
        StreamingVADEndpointDetector.exampleSettings StreamingVADEndpointDetector.exampleBackend
    let right := ((opened ()).run StreamingVADEndpointDetector.exampleSettings
      StreamingVADEndpointDetector.exampleBackend
      [.addAudio [1,0],.addAudio [0,0],.endpointFinalized,.addAudio [2,0]]).finalized
        StreamingVADEndpointDetector.exampleSettings StreamingVADEndpointDetector.exampleBackend
    left.released = right.released ∧ left.discarded = right.discarded ∧ left.endpoints = right.endpoints ∧
      left.detector = right.detector ∧ left.detector.state ≠ .finalizing :=
  schedule_free StreamingVADEndpointDetector.exampleSettings StreamingVADEndpointDetector.exampleBackend ()
    (show Schedules _ [1,0,0,0,2,0] from .audio [1,0,0,0,2,0] rfl .done)
    (.audio [1,0] rfl (.audio [0,0] rfl (.finalize (.audio [2,0] rfl .done))))

end Stream
end SpeechGateway.Vad
