import Mathlib.Algebra.Order.Floor.Div
import SpeechGateway.Hysteresis
import SpeechGateway.Listening

/-!
What the detector hears. Over the probabilities of its frames, speech is confirmed and ends
as `Hysteresis` says, and the audio released for each utterance is one slice of the input:
from the pre-roll before its first frame to the hangover after its last loud one
(`vad_reference`).
-/
namespace SpeechGateway.Vad
open Hysteresis

namespace VADSettings
variable (settings : VADSettings)

/-- The frames after which speech is confirmed. -/
def speechFrames : Nat := settings.minSpeechSamples ⌈/⌉ settings.frameSamples

/-- The frames of silence after which an utterance ends. -/
def silenceFrames : Nat := settings.minSilenceSamples ⌈/⌉ settings.frameSamples

theorem speechFrames_le (frames : Nat) :
    settings.speechFrames ≤ frames ↔ settings.minSpeechSamples ≤ frames * settings.frameSamples := by
  rw [speechFrames,ceilDiv_le_iff_le_mul settings.framePositive,Nat.mul_comm]

theorem silenceFrames_le (frames : Nat) :
    settings.silenceFrames ≤ frames ↔ settings.minSilenceSamples ≤ frames * settings.frameSamples := by
  rw [silenceFrames,ceilDiv_le_iff_le_mul settings.framePositive,Nat.mul_comm]

theorem millisecondsToSamples_pos (milliseconds : Nat) : 0 < settings.millisecondsToSamples milliseconds := by
  unfold millisecondsToSamples
  omega

theorem speechFrames_pos : 0 < settings.speechFrames := by
  by_contra none
  have small := (settings.speechFrames_le 0).mp (by omega)
  have := settings.millisecondsToSamples_pos settings.minSpeechMs
  rw [Nat.zero_mul] at small
  exact absurd this (by unfold minSpeechSamples at small; omega)

theorem silenceFrames_pos : 0 < settings.silenceFrames := by
  by_contra none
  have small := (settings.silenceFrames_le 0).mp (by omega)
  have := settings.millisecondsToSamples_pos settings.minSilenceMs
  rw [Nat.zero_mul] at small
  exact absurd this (by unfold minSilenceSamples at small; omega)

end VADSettings

/-- The samples of the audio from `start` up to `stop`. -/
def slice (pcm : Pcm) (start stop : Nat) : Pcm := (pcm.drop (start * 2)).take ((stop - start) * 2)

section
variable {pcm : Pcm} {start middle stop : Nat}

theorem length_slice (fits : stop * 2 ≤ pcm.length) : (slice pcm start stop).length = (stop - start) * 2 := by
  rw [slice,List.length_take,List.length_drop]
  omega

@[simp] theorem slice_self (pcm : Pcm) (start : Nat) : slice pcm start start = [] := by simp [slice]

theorem slice_append (first : start ≤ middle) (later : middle ≤ stop) :
    slice pcm start middle ++ slice pcm middle stop = slice pcm start stop := by
  have whole : (stop - start) * 2 = (middle - start) * 2 + (stop - middle) * 2 := by omega
  have offset : middle * 2 = start * 2 + (middle - start) * 2 := by omega
  rw [slice,slice,slice,whole,List.take_add,List.drop_drop,← offset]

theorem slice_drop (count : Nat) : (slice pcm start stop).drop (count * 2) = slice pcm (start + count) stop := by
  rw [slice,slice,List.drop_take,List.drop_drop]
  congr 1
  · omega
  · congr 1
    omega

theorem slice_take (count : Nat) : (slice pcm start stop).take (count * 2) = slice pcm start (start + min count (stop - start)) := by
  rw [slice,slice,List.take_take]
  congr 1
  omega

end

section
variable (settings : VADSettings) (p : Nat → Rat)

/-- The frame may start speech. -/
def starts (index : Nat) : Prop := settings.onsetThreshold ≤ p index

/-- The frame may continue speech. -/
def stays (index : Nat) : Prop := settings.offsetThreshold ≤ p index

/-- Speech from the frame `first`, found from the frame `since` on, is confirmed by the frame `confirmed`. -/
abbrev SpeechConfirmed (since first confirmed : Nat) : Prop :=
  Confirms (starts settings p) (stays settings p) settings.speechFrames since first confirmed

/-- The frame `last` ends the utterance that was confirmed by the frame `confirmed`. -/
abbrev EndpointReported (confirmed last : Nat) : Prop := Ends (stays settings p) settings.silenceFrames confirmed last

/-- Where the audio of an utterance begins that starts with the frame `first`, when the audio up to `released` was
    released or given up before. -/
def onset (released first : Nat) : Nat := max released (first * settings.frameSamples - settings.preRollSamples)

/-- Where it stops, with the hangover, when the frame `last` ends it. -/
def hangoverEnd (last : Nat) : Nat :=
  (last + 1 - settings.silenceFrames) * settings.frameSamples +
    min settings.hangoverSamples (settings.silenceFrames * settings.frameSamples)

/-- An utterance: its frames, and the samples released for it. -/
structure Utterance where
  first : Nat
  confirmed : Nat
  last : Nat
  start : Nat
  stop : Nat

/-- The utterances one after another. The next one is heard from the frame `since` on, and the samples up to `released`
    are past. -/
inductive Utterances : List Utterance → Nat → Nat → Prop
  | none : Utterances [] 0 0
  | next {utterances : List Utterance} {since released first confirmed last : Nat}
      (before : Utterances utterances since released) (confirms : SpeechConfirmed settings p since first confirmed)
      (ends : EndpointReported settings p confirmed last) :
      Utterances (utterances ++ [⟨first,confirmed,last,onset settings released first,hangoverEnd settings last⟩])
        (last + 1) (hangoverEnd settings last)

end

section
variable {settings : VADSettings} {p : Nat → Rat} {σ : Type}

theorem hangoverEnd_le {last : Nat} (long : settings.silenceFrames ≤ last + 1) :
    hangoverEnd settings last ≤ (last + 1) * settings.frameSamples := by
  have split : (last + 1) * settings.frameSamples =
      (last + 1 - settings.silenceFrames) * settings.frameSamples + settings.silenceFrames * settings.frameSamples := by
    rw [← Nat.add_mul,Nat.sub_add_cancel long]
  unfold hangoverEnd
  omega

/-- How a detector stands before the frame `position`, and what it has released of the next utterance. -/
inductive Stands (settings : VADSettings) (p : Nat → Rat) (pcm : Pcm) (since released position : Nat)
    (detector : StreamingVADEndpointDetector σ) : Pcm → Prop
  | waiting (state : detector.state = .waitingForSpeech)
      (idle : Idle (starts settings p) (stays settings p) settings.speechFrames since position)
      (preRoll : detector.preRoll = slice pcm (onset settings released position) (position * settings.frameSamples)) :
      Stands settings p pcm since released position detector []
  | candidate {first : Nat} (state : detector.state = .speechCandidate)
      (rising : Rising (starts settings p) (stays settings p) settings.speechFrames since first position)
      (candidate : detector.candidate = slice pcm (onset settings released first) (position * settings.frameSamples))
      (samples : detector.candidateSpeechSamples = (position - first) * settings.frameSamples)
      (preRoll : detector.preRoll = []) : Stands settings p pcm since released position detector []
  | speech {first confirmed loud : Nat} (state : detector.state = .inSpeech) (last : position = loud + 1)
      (confirms : SpeechConfirmed settings p since first confirmed)
      (sustained : Sustained (stays settings p) settings.silenceFrames confirmed loud position) :
      Stands settings p pcm since released position detector
        (slice pcm (onset settings released first) ((loud + 1) * settings.frameSamples))
  | silence {first confirmed loud : Nat} (state : detector.state = .trailingSilence) (last : loud + 1 < position)
      (confirms : SpeechConfirmed settings p since first confirmed)
      (sustained : Sustained (stays settings p) settings.silenceFrames confirmed loud position)
      (trailing : detector.trailing =
        slice pcm ((loud + 1) * settings.frameSamples) (position * settings.frameSamples)) :
      Stands settings p pcm since released position detector
        (slice pcm (onset settings released first) ((loud + 1) * settings.frameSamples))

/-- The pre-roll keeps the last samples. -/
theorem appendPreRoll_slice {detector : StreamingVADEndpointDetector σ} {audio pcm : Pcm} {from' stop : Nat}
    (le : from' ≤ stop) (fits : stop * 2 ≤ pcm.length) (extended : detector.preRoll ++ audio = slice pcm from' stop) :
    (detector.appendPreRoll settings audio).2 =
      { detector with preRoll := slice pcm (max from' (stop - settings.preRollSamples)) stop } := by
  have long : (slice pcm from' stop).length - settings.preRollSamples * 2 = (stop - from' - settings.preRollSamples) * 2 := by
    rw [length_slice fits]
    omega
  simp only [StreamingVADEndpointDetector.appendPreRoll,extended,long,slice_drop]
  rw [show from' + (stop - from' - settings.preRollSamples) = max from' (stop - settings.preRollSamples) by omega]

/-- A frame was processed: the utterance goes on, or the frame ended it. -/
def Goes (settings : VADSettings) (p : Nat → Rat) (pcm : Pcm) (since released position : Nat) (current : Pcm)
    (done : VADDecision × StreamingVADEndpointDetector σ) : Prop :=
  done.1.endpoint = false ∧
      Stands settings p pcm since released (position + 1) done.2 (current ++ done.1.audioToModel) ∨
    done.1.endpoint = true ∧ done.2.state = .finalizing ∧
      done.2.preRoll = slice pcm (onset settings (hangoverEnd settings position) (position + 1))
        ((position + 1) * settings.frameSamples) ∧
      ∃ first confirmed, SpeechConfirmed settings p since first confirmed ∧ EndpointReported settings p confirmed position ∧
        current ++ done.1.audioToModel = slice pcm (onset settings released first) (hangoverEnd settings position)

section
variable {detector : StreamingVADEndpointDetector σ} {pcm current : Pcm} {since released position : Nat}
  (past : released ≤ since * settings.frameSamples)
  (fits : (position + 1) * settings.frameSamples * 2 ≤ pcm.length)
include past fits

omit fits in
theorem onset_le {first : Nat} (late : since ≤ first) : onset settings released first ≤ first * settings.frameSamples := by
  have := Nat.mul_le_mul_right settings.frameSamples late
  unfold onset
  omega

omit fits in
/-- The slice of an utterance begins before what follows its last loud frame. -/
theorem onset_le_loud {first confirmed loud : Nat} (confirms : SpeechConfirmed settings p since first confirmed)
    (sustained : Sustained (stays settings p) settings.silenceFrames confirmed loud position) :
    onset settings released first ≤ (loud + 1) * settings.frameSamples := by
  have early : first ≤ loud + 1 := by
    have := confirms.length
    have := sustained.after
    have := settings.speechFrames_pos
    omega
  exact Nat.le_trans (onset_le past confirms.late) (Nat.mul_le_mul_right _ early)

/-- The pre-roll after one more frame that is no speech. -/
theorem appendPreRoll_stands {audio : Pcm} {first : Nat} (late : since ≤ first) (before : first ≤ position)
    (extended : detector.preRoll ++ audio =
      slice pcm (onset settings released first) ((position + 1) * settings.frameSamples)) :
    (detector.appendPreRoll settings audio).2 =
      { detector with
        preRoll := slice pcm (onset settings released (position + 1)) ((position + 1) * settings.frameSamples) } := by
  have earlier := Nat.mul_le_mul_right settings.frameSamples (show first ≤ position + 1 by omega)
  have same : max (onset settings released first) ((position + 1) * settings.frameSamples - settings.preRollSamples) =
      onset settings released (position + 1) := by
    unfold onset
    omega
  have le := onset_le past late
  rw [appendPreRoll_slice (by omega) fits extended,same]

theorem waiting_goes (late : since ≤ position) (thresholds : settings.offsetThreshold ≤ settings.onsetThreshold)
    (state : detector.state = .waitingForSpeech)
    (idle : Idle (starts settings p) (stays settings p) settings.speechFrames since position)
    (preRoll : detector.preRoll = slice pcm (onset settings released position) (position * settings.frameSamples)) :
    Goes settings p pcm since released position [] (detector.processFrame settings
      (slice pcm (position * settings.frameSamples) ((position + 1) * settings.frameSamples)) (p position)) := by
  have next := Nat.add_one_mul position settings.frameSamples
  have joined : detector.preRoll ++ slice pcm (position * settings.frameSamples) ((position + 1) * settings.frameSamples) =
      slice pcm (onset settings released position) ((position + 1) * settings.frameSamples) := by
    rw [preRoll]
    exact slice_append (onset_le past late) (by omega)
  by_cases begins : settings.onsetThreshold ≤ p position
  · have continues : settings.offsetThreshold ≤ p position := Rat.le_trans thresholds begins
    simp only [StreamingVADEndpointDetector.processFrame,state,if_pos begins,StreamingVADEndpointDetector.transition]
    split <;> rename_i short
    · have one : settings.speechFrames = 1 := by
        have := (settings.speechFrames_le 1).mpr (by omega)
        have := settings.speechFrames_pos
        omega
      have confirms := idle.confirm late begins continues one
      refine .inl ⟨rfl,?_⟩
      dsimp only [StreamingVADEndpointDetector.confirmSpeech,StreamingVADEndpointDetector.transition]
      rw [joined,List.nil_append]
      exact .speech rfl rfl confirms (sustained_confirmed settings.silenceFrames_pos continues)
    · have long : 1 < settings.speechFrames := by
        by_contra few
        exact short (by simpa using (settings.speechFrames_le 1).mp (by omega))
      refine .inl ⟨rfl,.candidate rfl (idle.begin late begins continues long) joined ?_ rfl⟩
      dsimp only
      rw [Nat.add_sub_cancel_left,Nat.one_mul]
  · simp only [StreamingVADEndpointDetector.processFrame,state,if_neg begins]
    refine .inl ⟨rfl,?_⟩
    dsimp only
    rw [appendPreRoll_stands past fits late (Nat.le_refl _) joined]
    exact .waiting state (idle.quiet begins) rfl

theorem candidate_goes {first : Nat} (state : detector.state = .speechCandidate)
    (rising : Rising (starts settings p) (stays settings p) settings.speechFrames since first position)
    (candidate : detector.candidate = slice pcm (onset settings released first) (position * settings.frameSamples))
    (samples : detector.candidateSpeechSamples = (position - first) * settings.frameSamples)
    (preRoll : detector.preRoll = []) :
    Goes settings p pcm since released position [] (detector.processFrame settings
      (slice pcm (position * settings.frameSamples) ((position + 1) * settings.frameSamples)) (p position)) := by
  have next := Nat.add_one_mul position settings.frameSamples
  have begun := rising.begun
  have short := rising.short
  have joined : detector.candidate ++ slice pcm (position * settings.frameSamples) ((position + 1) * settings.frameSamples) =
      slice pcm (onset settings released first) ((position + 1) * settings.frameSamples) := by
    rw [candidate]
    have le := onset_le past rising.late
    have upTo := Nat.mul_le_mul_right settings.frameSamples (Nat.le_of_lt begun)
    exact slice_append (by omega) (by omega)
  have grown : detector.candidateSpeechSamples + settings.frameSamples = (position + 1 - first) * settings.frameSamples := by
    rw [samples,← Nat.add_one_mul,show position + 1 - first = position - first + 1 by omega]
  by_cases continues : settings.offsetThreshold ≤ p position
  · have counted := settings.speechFrames_le (position + 1 - first)
    rw [← grown] at counted
    simp only [StreamingVADEndpointDetector.processFrame,state,if_pos continues]
    split <;> rename_i enough
    · have confirms := rising.confirm continues (by omega)
      refine .inl ⟨rfl,?_⟩
      dsimp only [StreamingVADEndpointDetector.confirmSpeech,StreamingVADEndpointDetector.transition]
      rw [joined,List.nil_append]
      exact .speech rfl rfl confirms (sustained_confirmed settings.silenceFrames_pos continues)
    · exact .inl ⟨rfl,.candidate rfl (rising.continue continues (by omega)) joined grown preRoll⟩
  · simp only [StreamingVADEndpointDetector.processFrame,state,if_neg continues]
    refine .inl ⟨rfl,?_⟩
    dsimp only
    rw [appendPreRoll_stands past fits rising.late (Nat.le_of_lt begun) (by rw [preRoll,List.nil_append,joined])]
    exact .waiting rfl (rising.break continues) rfl

/-- After a frame of silence the utterance goes on, unless the silence is long enough. -/
theorem settle_goes {first confirmed loud : Nat} {transitions : List (VADEndpointState × VADEndpointState)}
    (state : detector.state = .trailingSilence) (last : loud < position)
    (confirms : SpeechConfirmed settings p since first confirmed)
    (sustained : Sustained (stays settings p) settings.silenceFrames confirmed loud position)
    (silent : ¬stays settings p position)
    (trailing : detector.trailing =
      slice pcm ((loud + 1) * settings.frameSamples) ((position + 1) * settings.frameSamples)) :
    Goes settings p pcm since released position
      (slice pcm (onset settings released first) ((loud + 1) * settings.frameSamples))
      (detector.settleSilence settings transitions) := by
  have next := Nat.add_one_mul position settings.frameSamples
  have spread := Nat.sub_mul (position + 1) (loud + 1) settings.frameSamples
  have ordered := Nat.mul_le_mul_right settings.frameSamples (show loud + 1 ≤ position + 1 by omega)
  have half : detector.trailing.length / 2 = (position - loud) * settings.frameSamples := by
    rw [trailing,length_slice fits,← spread,Nat.mul_div_cancel _ (by decide),Nat.add_sub_add_right]
  have enough := settings.silenceFrames_le (position - loud)
  rw [← half] at enough
  unfold StreamingVADEndpointDetector.settleSilence
  split <;> rename_i short
  · refine .inl ⟨rfl,?_⟩
    rw [List.append_nil]
    exact .silence state (by omega) confirms
      (sustained.quieter settings.silenceFrames_pos silent (by omega)) trailing
  · have ends := sustained.end silent (by have := sustained.short; omega)
    have length : position = loud + settings.silenceFrames := by have := sustained.short; omega
    have span : (position + 1) * settings.frameSamples - (loud + 1) * settings.frameSamples =
        settings.silenceFrames * settings.frameSamples := by
      rw [← spread,show position + 1 - (loud + 1) = settings.silenceFrames by omega]
    have keeps : min detector.trailing.length (settings.hangoverSamples * 2) =
        min settings.hangoverSamples (settings.silenceFrames * settings.frameSamples) * 2 := by
      rw [trailing,length_slice fits,span]
      omega
    have stop : hangoverEnd settings position = (loud + 1) * settings.frameSamples +
        min settings.hangoverSamples (settings.silenceFrames * settings.frameSamples) := by
      rw [hangoverEnd,show position + 1 - settings.silenceFrames = loud + 1 by omega]
    have begins := onset_le_loud past confirms sustained
    have released : slice pcm (onset settings released first) ((loud + 1) * settings.frameSamples) ++
        detector.trailing.take (min detector.trailing.length (settings.hangoverSamples * 2)) =
          slice pcm (onset settings released first) (hangoverEnd settings position) := by
      rw [keeps,trailing,slice_take,span,stop]
      rw [show min (min settings.hangoverSamples (settings.silenceFrames * settings.frameSamples))
        (settings.silenceFrames * settings.frameSamples) =
          min settings.hangoverSamples (settings.silenceFrames * settings.frameSamples) by omega]
      exact slice_append begins (Nat.le_add_right _ _)
    have rest : detector.trailing.drop (min detector.trailing.length (settings.hangoverSamples * 2)) =
        slice pcm (hangoverEnd settings position) ((position + 1) * settings.frameSamples) := by
      rw [keeps,trailing,slice_drop,stop]
    refine .inr ⟨rfl,rfl,?_,first,confirmed,confirms,ends,released⟩
    have extended : ({ detector with preRoll := [] } : StreamingVADEndpointDetector σ).preRoll ++
        detector.trailing.drop (min detector.trailing.length (settings.hangoverSamples * 2)) = _ := rest
    dsimp only [StreamingVADEndpointDetector.transition]
    rw [appendPreRoll_slice (by omega) fits extended]
    rfl

theorem speech_goes {first confirmed loud : Nat} (state : detector.state = .inSpeech) (last : position = loud + 1)
    (confirms : SpeechConfirmed settings p since first confirmed)
    (sustained : Sustained (stays settings p) settings.silenceFrames confirmed loud position) :
    Goes settings p pcm since released position
      (slice pcm (onset settings released first) ((loud + 1) * settings.frameSamples)) (detector.processFrame settings
        (slice pcm (position * settings.frameSamples) ((position + 1) * settings.frameSamples)) (p position)) := by
  have next := Nat.add_one_mul position settings.frameSamples
  by_cases continues : settings.offsetThreshold ≤ p position
  · simp only [StreamingVADEndpointDetector.processFrame,state,if_pos continues]
    refine .inl ⟨rfl,?_⟩
    have begins := onset_le_loud past confirms sustained
    rw [← last] at begins ⊢
    rw [slice_append begins (by omega)]
    exact .speech state rfl confirms (sustained.louder settings.silenceFrames_pos continues)
  · simp only [StreamingVADEndpointDetector.processFrame,state,if_neg continues,StreamingVADEndpointDetector.transition]
    exact settle_goes past fits rfl (by omega) confirms sustained continues (by rw [← last])

theorem silence_goes {first confirmed loud : Nat} (state : detector.state = .trailingSilence) (last : loud + 1 < position)
    (confirms : SpeechConfirmed settings p since first confirmed)
    (sustained : Sustained (stays settings p) settings.silenceFrames confirmed loud position)
    (trailing : detector.trailing = slice pcm ((loud + 1) * settings.frameSamples) (position * settings.frameSamples)) :
    Goes settings p pcm since released position
      (slice pcm (onset settings released first) ((loud + 1) * settings.frameSamples)) (detector.processFrame settings
        (slice pcm (position * settings.frameSamples) ((position + 1) * settings.frameSamples)) (p position)) := by
  have next := Nat.add_one_mul position settings.frameSamples
  have ordered := Nat.mul_le_mul_right settings.frameSamples (Nat.le_of_lt last)
  have joined : detector.trailing ++ slice pcm (position * settings.frameSamples) ((position + 1) * settings.frameSamples) =
      slice pcm ((loud + 1) * settings.frameSamples) ((position + 1) * settings.frameSamples) := by
    rw [trailing]
    exact slice_append ordered (by omega)
  by_cases continues : settings.offsetThreshold ≤ p position
  · simp only [StreamingVADEndpointDetector.processFrame,state,if_pos continues,StreamingVADEndpointDetector.transition]
    refine .inl ⟨rfl,?_⟩
    have begins := onset_le_loud past confirms sustained
    rw [joined,slice_append begins (by omega)]
    exact .speech rfl rfl confirms (sustained.louder settings.silenceFrames_pos continues)
  · simp only [StreamingVADEndpointDetector.processFrame,state,if_neg continues]
    exact settle_goes past fits rfl (by omega) confirms sustained continues joined

theorem Stands.goes (stands : Stands settings p pcm since released position detector current) (late : since ≤ position)
    (thresholds : settings.offsetThreshold ≤ settings.onsetThreshold) :
    Goes settings p pcm since released position current (detector.processFrame settings
      (slice pcm (position * settings.frameSamples) ((position + 1) * settings.frameSamples)) (p position)) := by
  cases stands with
  | waiting state idle preRoll => exact waiting_goes past fits late thresholds state idle preRoll
  | candidate state rising candidate samples preRoll => exact candidate_goes past fits state rising candidate samples preRoll
  | speech state last confirms sustained => exact speech_goes past fits state last confirms sustained
  | silence state last confirms sustained trailing => exact silence_goes past fits state last confirms sustained trailing

end

/-- The frames that wait and the backend play no part. -/
theorem Stands.congr {detector : StreamingVADEndpointDetector σ} {pcm current : Pcm} {since released position : Nat}
    (stands : Stands settings p pcm since released position detector current) (waiting : Pcm) (backendState : σ) :
    Stands settings p pcm since released position
      { detector with inputBuffer := waiting, backendState := backendState } current := by
  cases stands with
  | waiting state idle preRoll => exact .waiting state idle preRoll
  | candidate state rising candidate samples preRoll => exact .candidate state rising candidate samples preRoll
  | speech state last confirms sustained => exact .speech state last confirms sustained
  | silence state last confirms sustained trailing => exact .silence state last confirms sustained trailing

theorem Stands.running {detector : StreamingVADEndpointDetector σ} {pcm current : Pcm} {since released position : Nat}
    (stands : Stands settings p pcm since released position detector current) : detector.state ≠ .finalizing := by
  cases stands <;> simp [*]

/-- Speech is not confirmed yet, or it is and its utterance goes on: what was released of it ends with its last loud
    frame. -/
inductive Pending (settings : VADSettings) (p : Nat → Rat) (bytes : Pcm) (since released frames : Nat)
    (state : VADEndpointState) : Pcm → Prop
  | unconfirmed (waiting : state = .waitingForSpeech ∨ state = .speechCandidate)
      (none : ∀ first last, Rises (starts settings p) (stays settings p) settings.speechFrames since first last → frames ≤ last) :
      Pending settings p bytes since released frames state []
  | speaking {first confirmed loud : Nat} (speech : state = .inSpeech ∨ state = .trailingSilence)
      (confirms : SpeechConfirmed settings p since first confirmed) (within : confirmed < frames)
      (unended : ∀ last, Falls (stays settings p) settings.silenceFrames confirmed last → frames ≤ last)
      (continues : stays settings p loud) (before : loud < frames)
      (quiet : ∀ index, loud < index → index < frames → ¬stays settings p index) :
      Pending settings p bytes since released frames state
        (slice bytes (onset settings released first) ((loud + 1) * settings.frameSamples))

theorem Stands.pending {detector : StreamingVADEndpointDetector σ} {pcm current : Pcm} {since released position : Nat}
    (stands : Stands settings p pcm since released position detector current) :
    Pending settings p pcm since released position detector.state current := by
  cases stands with
  | waiting state idle _ => exact .unconfirmed (.inl state) fun _ _ rises => idle.unconfirmed settings.speechFrames_pos rises
  | candidate state rising _ _ _ => exact .unconfirmed (.inr state) fun _ _ rises => rising.unconfirmed rises
  | speech state last confirms sustained =>
    exact .speaking (.inl state) confirms (Nat.lt_of_le_of_lt sustained.after sustained.before) sustained.unended
      sustained.continues sustained.before sustained.quiet
  | silence state last confirms sustained _ =>
    exact .speaking (.inr state) confirms (Nat.lt_of_le_of_lt sustained.after sustained.before) sustained.unended
      sustained.continues sustained.before sustained.quiet

end

/-! ## The stream, frame by frame -/

namespace Stream
variable {σ : Type} (settings : VADSettings) (backend : VADBackend σ) (start : σ) (bytes : Pcm)

/-- The detector takes a frame, and an endpoint is finalized at once. -/
def hearFrame (stream : Stream σ) : Stream σ :=
  let drained := stream.detector.drainFrame settings backend
  let noted := stream.note settings drained.1 drained.2
  if noted.detector.state = .finalizing then { noted with detector := noted.detector.rearmed backend } else noted

/-- The stream after so many frames of the input. -/
def heard : Nat → Stream σ
  | 0 => (opened start).accept bytes
  | frames+1 => (heard frames).hearFrame settings backend

/-- What the backend answers for a frame of the input. -/
def probability (index : Nat) : Rat :=
  (backend.speechProbability (heard settings backend start bytes index).detector.backendState
    (slice bytes (index * settings.frameSamples) ((index + 1) * settings.frameSamples))).1

/-- What is released for some utterances. -/
def releasedFor (utterances : List Utterance) : Pcm :=
  utterances.flatMap fun utterance => slice bytes utterance.start utterance.stop

/-- The stream has released the utterances before `position`, and a part of the next one. -/
def Hears (position : Nat) (stream : Stream σ) : Prop :=
  stream.input = bytes ∧ stream.detector.inputBuffer = bytes.drop (position * settings.frameSamples * 2) ∧
    ∃ utterances since released current,
      Utterances settings (probability settings backend start bytes) utterances since released ∧ since ≤ position ∧
        released ≤ since * settings.frameSamples ∧
        Stands settings (probability settings backend start bytes) bytes since released position stream.detector current ∧
        stream.released = releasedFor bytes utterances ++ current ∧
        stream.endpoints.map Prod.fst = utterances.map (·.last + 1)

theorem heard_zero : Hears settings backend start bytes 0 (heard settings backend start bytes 0) := by
  refine ⟨rfl,by simp [heard,accept,opened],[],0,0,[],.none,Nat.le_refl _,Nat.zero_le _,?_,rfl,rfl⟩
  refine .waiting rfl (idle_start _ _ _ _) ?_
  simp [heard,accept,opened,onset]

variable {settings backend start bytes}

theorem note_running (stream : Stream σ) {decision : VADDecision} (next : StreamingVADEndpointDetector σ)
    (running : decision.endpoint = false) : (stream.note settings decision next).endpoints = stream.endpoints := by
  unfold note
  rw [if_neg (by rw [running]; exact Bool.false_ne_true)]

theorem note_endpoint (stream : Stream σ) {decision : VADDecision} (next : StreamingVADEndpointDetector σ)
    (ended : decision.endpoint = true) : (stream.note settings decision next).endpoints.map Prod.fst =
      stream.endpoints.map Prod.fst ++ [(stream.input.length - next.inputBuffer.length) / settings.frameBytes] := by
  unfold note
  rw [if_pos ended,List.map_append]
  rfl

/-- The next frame of the input waits, and the detector takes it. -/
theorem drainFrame_slice (backend : VADBackend σ) {position : Nat} {stream : Stream σ}
    (waits : stream.detector.inputBuffer = bytes.drop (position * settings.frameSamples * 2)) :
    stream.detector.drainFrame settings backend =
      { stream.detector with
        inputBuffer := bytes.drop ((position + 1) * settings.frameSamples * 2)
        backendState := (backend.speechProbability stream.detector.backendState
          (slice bytes (position * settings.frameSamples) ((position + 1) * settings.frameSamples))).2 }.processFrame settings
        (slice bytes (position * settings.frameSamples) ((position + 1) * settings.frameSamples))
        (backend.speechProbability stream.detector.backendState
          (slice bytes (position * settings.frameSamples) ((position + 1) * settings.frameSamples))).1 := by
  have next := Nat.add_one_mul position settings.frameSamples
  have frame : stream.detector.inputBuffer.take settings.frameBytes =
      slice bytes (position * settings.frameSamples) ((position + 1) * settings.frameSamples) := by
    rw [waits,slice,VADSettings.frameBytes,show (position + 1) * settings.frameSamples - position * settings.frameSamples =
      settings.frameSamples by omega]
  have rest : stream.detector.inputBuffer.drop settings.frameBytes =
      bytes.drop ((position + 1) * settings.frameSamples * 2) := by
    rw [waits,List.drop_drop,VADSettings.frameBytes]
    congr 1
    omega
  unfold StreamingVADEndpointDetector.drainFrame
  rw [frame,rest]

theorem Hears.next (thresholds : settings.offsetThreshold ≤ settings.onsetThreshold) {position : Nat}
    (hears : Hears settings backend start bytes position (heard settings backend start bytes position))
    (fits : (position + 1) * settings.frameSamples * 2 ≤ bytes.length) :
    Hears settings backend start bytes (position + 1) (heard settings backend start bytes (position + 1)) := by
  obtain ⟨input,waits,utterances,since,released,current,before,late,past,stands,audio,ends⟩ := hears
  have drains := drainFrame_slice backend waits
  have goes := (stands.congr (bytes.drop ((position + 1) * settings.frameSamples * 2)) (backend.speechProbability
    (heard settings backend start bytes position).detector.backendState
      (slice bytes (position * settings.frameSamples) ((position + 1) * settings.frameSamples))).2).goes past fits late thresholds
  have taken := StreamingVADEndpointDetector.drainFrame_inputBuffer settings backend
    (heard settings backend start bytes position).detector
  rw [waits,List.drop_drop,show position * settings.frameSamples * 2 + settings.frameBytes =
    (position + 1) * settings.frameSamples * 2 by rw [VADSettings.frameBytes,Nat.add_one_mul]; omega] at taken
  change Goes _ _ _ _ _ _ _ (StreamingVADEndpointDetector.processFrame settings _ _
    (backend.speechProbability _ _).1) at goes
  rw [← drains] at goes
  simp only [heard,hearFrame]
  generalize (heard settings backend start bytes position).detector.drainFrame settings backend = drained at goes taken
  rcases goes with ⟨running,stands⟩ | ⟨ended,final,preRoll,first,confirmed,confirms,reported,whole⟩
  · rw [if_neg (by rw [note_detector]; exact stands.running)]
    refine ⟨by rw [note_input,input],by rw [note_detector,taken],utterances,since,released,
      current ++ drained.1.audioToModel,before,by omega,past,?_,?_,?_⟩
    · rw [note_detector]
      exact stands
    · rw [note_released,audio,List.append_assoc]
    · rw [note_running _ _ running,ends]
  · rw [if_pos (by rw [note_detector,final])]
    have stop : hangoverEnd settings position ≤ (position + 1) * settings.frameSamples := by
      refine hangoverEnd_le ?_
      have := reported.late
      omega
    refine ⟨by rw [note_input,input],?_,_,position + 1,hangoverEnd settings position,[],.next before confirms reported,
      Nat.le_refl _,stop,?_,?_,?_⟩
    · simp only [note_detector,StreamingVADEndpointDetector.rearmed,taken]
    · refine .waiting rfl (idle_start _ _ _ _) ?_
      simp only [note_detector,StreamingVADEndpointDetector.rearmed,preRoll]
    · simp only [note_released,audio,releasedFor,List.flatMap_append,List.append_assoc,whole,List.append_nil]
      simp
    · rw [note_endpoint _ _ ended,ends,List.map_append,input,taken,List.length_drop]
      have frames : (bytes.length - (bytes.length - (position + 1) * settings.frameSamples * 2)) / settings.frameBytes =
          position + 1 := by
        have positive := settings.frameBytes_pos
        have bytesOf : (position + 1) * settings.frameSamples * 2 = (position + 1) * settings.frameBytes := by
          rw [VADSettings.frameBytes,Nat.mul_assoc]
        rw [show bytes.length - (bytes.length - (position + 1) * settings.frameSamples * 2) =
          (position + 1) * settings.frameBytes by omega]
        exact Nat.mul_div_cancel _ positive
      rw [frames]
      rfl

theorem heard_hears (backend : VADBackend σ) (start : σ) (thresholds : settings.offsetThreshold ≤ settings.onsetThreshold) {position : Nat}
    (fits : position * settings.frameSamples * 2 ≤ bytes.length) :
    Hears settings backend start bytes position (heard settings backend start bytes position) := by
  induction position with
  | zero => exact heard_zero settings backend start bytes
  | succ position ih =>
    have next := Nat.add_one_mul position settings.frameSamples
    exact (ih (by omega)).next thresholds fits

/-- Hearing frame by frame is a row of ticks. -/
theorem hearFrame_ticks {stream : Stream σ} (running : stream.detector.state ≠ .finalizing)
    (ready : settings.frameBytes ≤ stream.detector.inputBuffer.length) :
    Ticks settings backend stream (stream.hearFrame settings backend) := by
  have ticked : stream.tick settings backend = some (stream.note settings (stream.detector.drainFrame settings backend).1
      (stream.detector.drainFrame settings backend).2) := by
    have waits : stream.detector.frameReady settings = true := by
      simp only [StreamingVADEndpointDetector.frameReady,decide_eq_true_eq]
      exact ⟨running,ready⟩
    rw [tick,if_neg running,if_pos waits]
  unfold hearFrame
  dsimp only
  split
  · rename_i ended
    refine .tail (.single ticked) ?_
    rw [tick,if_pos ended]
  · exact .single ticked

theorem heard_ticks (thresholds : settings.offsetThreshold ≤ settings.onsetThreshold) {position : Nat}
    (fits : position * settings.frameSamples * 2 ≤ bytes.length) :
    Ticks settings backend ((opened start).accept bytes) (heard settings backend start bytes position) := by
  induction position with
  | zero => exact .refl
  | succ position ih =>
    have next := Nat.add_one_mul position settings.frameSamples
    have before : position * settings.frameSamples * 2 ≤ bytes.length := by omega
    obtain ⟨_,waits,_,_,_,_,_,_,_,stands,_,_⟩ := heard_hears backend start thresholds before
    refine (ih before).trans (hearFrame_ticks stands.running ?_)
    rw [waits,List.length_drop,VADSettings.frameBytes]
    omega

/-- The whole frames of the audio are in it. -/
theorem frames_fit (settings : VADSettings) (bytes : Pcm) :
    sampleCount bytes / settings.frameSamples * settings.frameSamples * 2 ≤ bytes.length := by
  have whole := Nat.div_mul_le_self (sampleCount bytes) settings.frameSamples
  unfold sampleCount at whole ⊢
  omega

/-- Whatever the schedule of calls, the stream ends as it does frame by frame. -/
theorem finalized_heard (thresholds : settings.offsetThreshold ≤ settings.onsetThreshold) {calls : List Call}
    (schedule : Schedules calls bytes) : ((opened start).run settings backend calls).finalized settings backend =
      heard settings backend start bytes (sampleCount bytes / settings.frameSamples) := by
  have settled := (conserved_run settings backend start []).2
  obtain ⟨ticks,idle⟩ := run_ticks settings backend schedule (opened start) settled
  have stuck := (finalized_stuck settings backend _ idle).2
  obtain ⟨_,waits,_,_,_,_,_,_,_,stands,_,_⟩ := heard_hears backend start thresholds (frames_fit settings bytes)
  refine Ticks.unique settings backend (ticks.trans (finalized_ticks settings backend _ idle)) (heard_ticks thresholds (frames_fit settings bytes)) stuck ?_
  have short : ¬settings.frameBytes ≤ (heard settings backend start bytes
      (sampleCount bytes / settings.frameSamples)).detector.inputBuffer.length := by
    have rest : sampleCount bytes < sampleCount bytes / settings.frameSamples * settings.frameSamples + settings.frameSamples :=
      Nat.lt_div_mul_add settings.framePositive
    have half : bytes.length / 2 = sampleCount bytes := rfl
    have fits := frames_fit settings bytes
    rw [waits,List.length_drop,VADSettings.frameBytes]
    omega
  rw [tick,if_neg stands.running,if_neg]
  simp only [StreamingVADEndpointDetector.frameReady,decide_eq_true_eq]
  exact fun ready => short ready.2

/-- The input is fed in any aligned pieces and every endpoint is finalized. Then the utterances are those that the
    probabilities of the frames describe, an endpoint was reported right after the last frame of each, and what was
    released is one slice of the input for each, and for the one that goes on. -/
theorem vad_reference (settings : VADSettings) (backend : VADBackend σ) (start : σ)
    (thresholds : settings.offsetThreshold < settings.onsetThreshold) {calls : List Call} {bytes : Pcm}
    (schedule : Schedules calls bytes) :
    let stream := ((opened start).run settings backend calls).finalized settings backend
    let p := probability settings backend start bytes
    let frames := sampleCount bytes / settings.frameSamples
    ∃ utterances since released current, Utterances settings p utterances since released ∧ since ≤ frames ∧
      stream.endpoints.map Prod.fst = utterances.map (·.last + 1) ∧
      stream.released = releasedFor bytes utterances ++ current ∧
      Pending settings p bytes since released frames stream.detector.state current := by
  have below : settings.offsetThreshold ≤ settings.onsetThreshold := Rat.le_of_lt thresholds
  obtain ⟨_,_,utterances,since,released,current,before,late,_,stands,audio,ends⟩ :=
    heard_hears backend start below (frames_fit settings bytes)
  rw [finalized_heard below schedule]
  exact ⟨utterances,since,released,current,before,late,ends,audio,stands.pending⟩

end Stream

/-- Frames of one sample; speech and silence are decided by two of them. -/
def steadySettings : VADSettings where
  sampleRate := 1000
  frameSamples := 1
  onsetThreshold := 3 / 4
  offsetThreshold := 1 / 4
  minSpeechMs := 2
  minSilenceMs := 2
  hangoverMs := 1
  preRollMs := 1
  framePositive := Nat.one_pos

/-- A backend that answers from a script. -/
def scripted : VADBackend (List Rat) where
  speechProbability script _ := (script.headD 0,script.tail)
  reset := id

/-- A burst that is rejected, then speech with a short pause, and silence. -/
theorem vad_reference_scripted :
    let stream := ((Stream.opened [1,0,1,1 / 2,0,1 / 2,0,0,0]).run steadySettings scripted
      [.addAudio [1,0,2,0,3,0,4,0,5,0],.addAudio [6,0,7,0,8,0,9,0]]).finalized steadySettings scripted
    let p := Stream.probability steadySettings scripted [1,0,1,1 / 2,0,1 / 2,0,0,0]
      [1,0,2,0,3,0,4,0,5,0,6,0,7,0,8,0,9,0]
    let frames := sampleCount [1,0,2,0,3,0,4,0,5,0,6,0,7,0,8,0,9,0] / steadySettings.frameSamples
    ∃ utterances since released current, Utterances steadySettings p utterances since released ∧ since ≤ frames ∧
      stream.endpoints.map Prod.fst = utterances.map (·.last + 1) ∧
      stream.released = Stream.releasedFor [1,0,2,0,3,0,4,0,5,0,6,0,7,0,8,0,9,0] utterances ++ current ∧
      Pending steadySettings p [1,0,2,0,3,0,4,0,5,0,6,0,7,0,8,0,9,0] since released frames
        stream.detector.state current :=
  Stream.vad_reference steadySettings scripted [1,0,1,1 / 2,0,1 / 2,0,0,0] (by decide +kernel)
    (.audio [1,0,2,0,3,0,4,0,5,0] rfl (.audio [6,0,7,0,8,0,9,0] rfl .done))

end SpeechGateway.Vad
