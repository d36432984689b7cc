import SpeechGateway.Stateful
import SpeechGateway.Listening

/-!
Every segment of a stateful stream is committed once. A result of the session is a row of
snapshots in which every one but the last finishes its segment (`Rolls`); the transcript follows
such a row and is behind by the last snapshot at most, if that finishes a segment, until it is
committed.
-/
namespace SpeechGateway.Stateful
open SpeechGateway.Streaming SpeechGateway.Vad Programs

theorem le_roundHalfEven (value : Rat) : value - 1 / 2 ≤ roundHalfEven value := by
  have below := Rat.floor_le value
  have above := Rat.lt_floor_add_one value
  unfold roundHalfEven
  dsimp only
  split
  · rename_i down
    rcases down with less | ⟨half,_⟩ <;> linarith
  · push_cast at above ⊢
    linarith

theorem roundHalfEven_le (value : Rat) : (roundHalfEven value : Rat) ≤ value + 1 / 2 := by
  have below := Rat.floor_le value
  unfold roundHalfEven
  dsimp only
  split
  · linarith
  · rename_i up
    rw [not_or] at up
    push_cast
    linarith

namespace StreamSettings
variable (settings : StreamSettings)

theorem maxUtteranceSamples_pos : 0 < settings.maxUtteranceSamples := by
  have positive : (1 : Rat) ≤ settings.maxFrameBytes / 2 := by
    have bytes := settings.framePositive
    have even := settings.frameEven
    have two : (2 : Rat) ≤ settings.maxFrameBytes := by exact_mod_cast (by omega : 2 ≤ settings.maxFrameBytes)
    linarith
  have exceeds := settings.utteranceExceedsFrame
  have rounds := le_roundHalfEven (settings.maxUtteranceSeconds * 16000)
  have half : (0 : Rat) < roundHalfEven (settings.maxUtteranceSeconds * 16000) := by linarith
  have whole : 0 < roundHalfEven (settings.maxUtteranceSeconds * 16000) := by exact_mod_cast half
  unfold maxUtteranceSamples
  omega

/-- A frame that arrives in a segment stays within the watchdog. -/
theorem watchdog_covers {received : Nat} {pcm : Pcm} (within : received < settings.maxUtteranceSamples)
    (fits : pcm.length ≤ settings.maxFrameBytes) : received + sampleCount pcm ≤ settings.watchdogSamples := by
  have samples : (sampleCount pcm : Rat) ≤ settings.maxFrameBytes / 2 := by
    have count : 2 * sampleCount pcm ≤ settings.maxFrameBytes := by
      unfold sampleCount
      omega
    have counted : (2 : Rat) * sampleCount pcm ≤ settings.maxFrameBytes := by exact_mod_cast count
    linarith
  have utterance := roundHalfEven_le (settings.maxUtteranceSeconds * 16000)
  have watchdog := le_roundHalfEven (settings.stateWatchdogSeconds * 16000)
  have exceeds := settings.watchdogExceedsUtterance
  unfold maxUtteranceSamples at within
  have less : (received : Int) + 1 ≤ roundHalfEven (settings.maxUtteranceSeconds * 16000) := by omega
  have below : (received : Rat) + 1 ≤ roundHalfEven (settings.maxUtteranceSeconds * 16000) := by exact_mod_cast less
  have covered : ((received + sampleCount pcm : Nat) : Rat) < roundHalfEven (settings.stateWatchdogSeconds * 16000) := by
    push_cast
    linarith
  have within' : ((received + sampleCount pcm : Nat) : Int) < roundHalfEven (settings.stateWatchdogSeconds * 16000) := by
    exact_mod_cast covered
  unfold watchdogSamples
  omega

end StreamSettings

/-- A row of snapshots from one segment to another, with the segments that finish in it. -/
inductive Rolls : Nat → List StreamingTranscriptionResult → List (Nat × Text) → Nat → Prop
  | live {first : Nat} {snapshot : StreamingTranscriptionResult} (own : snapshot.segmentId = first)
      (running : snapshot.segmentFinished = false) : Rolls first [snapshot] [] first
  | ended {first : Nat} {snapshot : StreamingTranscriptionResult} (own : snapshot.segmentId = first)
      (finished : snapshot.segmentFinished = true) : Rolls first [snapshot] [(first,snapshot.segmentText)] (first + 1)
  | rolled {first last : Nat} {snapshot : StreamingTranscriptionResult} {rest : List StreamingTranscriptionResult}
      {segments : List (Nat × Text)} (own : snapshot.segmentId = first) (finished : snapshot.segmentFinished = true)
      (later : Rolls (first + 1) rest segments last) :
      Rolls first (snapshot :: rest) ((first,snapshot.segmentText) :: segments) last

theorem Rolls.some {first last : Nat} {snapshots : List StreamingTranscriptionResult} {segments : List (Nat × Text)}
    (rolls : Rolls first snapshots segments last) : snapshots ≠ [] := by
  cases rolls <;> simp

namespace QwenVLLMStreamingSession
variable {S : Type} {settings : StreamSettings} (model : StreamingModel S)

/-- The session is open and its segment has room; the finished segments are numbered in order. -/
structure Ready (settings : StreamSettings) (session : QwenVLLMStreamingSession S) : Prop where
  opened : session.closed = false
  room : session.segmentReceivedSamples < settings.maxUtteranceSamples
  numbered : session.finishedSegments.map Prod.fst = List.range session.segmentId

theorem Ready.startFreshSegment {session : QwenVLLMStreamingSession S} (opened : session.closed = false)
    (numbered : session.finishedSegments.map Prod.fst = List.range session.segmentId) :
    Ready settings (session.startFreshSegment model) := by
  refine ⟨opened,settings.maxUtteranceSamples_pos,?_⟩
  simp [QwenVLLMStreamingSession.startFreshSegment,numbered,List.range_succ]

theorem streamPieces_done {fuel : Nat} {session : QwenVLLMStreamingSession S} {pcm : Pcm} (none : sampleCount pcm = 0) :
    session.streamPieces settings model fuel pcm = ([],session) := by
  cases fuel with
  | zero => rfl
  | succ fuel => rw [streamPieces,if_pos none]

/-- A piece of whole audio, and what is left of it. -/
theorem piece_whole {pcm : Pcm} (whole : Whole pcm) {taken : Nat} (fits : taken ≤ sampleCount pcm) :
    Whole (pcm.drop (taken * 2)) ∧ sampleCount (pcm.take (taken * 2)) = taken ∧
      sampleCount (pcm.drop (taken * 2)) = sampleCount pcm - taken := by
  unfold Whole sampleCount at *
  simp only [List.length_drop,List.length_take]
  omega

theorem whole_empty {pcm : Pcm} (whole : Whole pcm) (none : sampleCount pcm = 0) : pcm = [] := by
  unfold Whole sampleCount at *
  exact List.length_eq_zero_iff.mp (by omega)

/-- The session passes whole audio on to its model, and rolls over from segment to segment. -/
theorem streamPieces_rolls (fuel : Nat) {session : QwenVLLMStreamingSession S} {pcm : Pcm} (ready : Ready settings session)
    (whole : Whole pcm) (some : 0 < sampleCount pcm) (enough : sampleCount pcm ≤ fuel) :
    ∃ segments, Rolls session.segmentId (session.streamPieces settings model fuel pcm).1 segments
        (session.streamPieces settings model fuel pcm).2.segmentId ∧
      Ready settings (session.streamPieces settings model fuel pcm).2 ∧
      (session.streamPieces settings model fuel pcm).2.finishedSegments = session.finishedSegments ++ segments ∧
      (session.streamPieces settings model fuel pcm).2.heard = session.heard ++ pcm := by
  induction fuel generalizing session pcm with
  | zero => omega
  | succ fuel ih =>
    obtain ⟨opened,room,numbered⟩ := ready
    rw [streamPieces,if_neg (by omega)]
    dsimp only
    generalize taking : min (sampleCount pcm) (settings.maxUtteranceSamples - session.segmentReceivedSamples) = taken
    obtain ⟨restWhole,takes,left⟩ := piece_whole whole (by omega : taken ≤ sampleCount pcm)
    have split : pcm.take (taken * 2) ++ pcm.drop (taken * 2) = pcm := List.take_append_drop ..
    generalize pcm.take (taken * 2) = piece at takes split
    generalize pcm.drop (taken * 2) = rest at restWhole left split
    subst split
    have received : (session.streamPiece settings model piece).2.segmentReceivedSamples =
        session.segmentReceivedSamples + taken := by rw [← takes]; rfl
    by_cases full : (session.streamPiece settings model piece).2.segmentReceivedSamples = settings.maxUtteranceSamples
    · rw [if_pos full]
      generalize fresh : (((session.streamPiece settings model piece).2.finishActiveState model).2.startFreshSegment model) = next
      have readyNext : Ready settings next := by
        rw [← fresh]
        exact .startFreshSegment model opened numbered
      have id : next.segmentId = session.segmentId + 1 := by rw [← fresh]; rfl
      have segments : next.finishedSegments = session.finishedSegments ++ [(session.segmentId,
          model.text ((session.streamPiece settings model piece).2.finishActiveState model).2.state)] := by rw [← fresh]; rfl
      have heard : next.heard = session.heard ++ piece := by rw [← fresh]; rfl
      by_cases done : sampleCount rest = 0
      · obtain rfl := whole_empty restWhole done
        rw [streamPieces_done model done]
        dsimp only
        rw [id]
        exact ⟨_,.ended rfl rfl,readyNext,segments,by rw [heard,List.append_nil]⟩
      · obtain ⟨later,rolls,readyLast,lastSegments,lastHeard⟩ := ih readyNext restWhole (by omega) (by omega)
        rw [id] at rolls
        dsimp only
        refine ⟨_,.rolled rfl rfl rolls,readyLast,?_,?_⟩
        · rw [lastSegments,segments,List.append_assoc]
          rfl
        · rw [lastHeard,heard,List.append_assoc]
    · rw [if_neg full]
      have done : sampleCount rest = 0 := by omega
      obtain rfl := whole_empty restWhole done
      rw [streamPieces_done model done]
      dsimp only
      refine ⟨[],.live rfl rfl,⟨opened,?_,numbered⟩,(List.append_nil _).symm,by rw [List.append_nil]; rfl⟩
      omega

/-- A whole frame is never refused. -/
theorem addPcmS16le_rolls {session : QwenVLLMStreamingSession S} {pcm : Pcm} (ready : Ready settings session)
    (whole : Whole pcm) (some : pcm ≠ []) (fits : pcm.length ≤ settings.maxFrameBytes) :
    ∃ snapshots segments next, session.addPcmS16le settings model pcm = .ok (snapshots,next) ∧
      Rolls session.segmentId snapshots segments next.segmentId ∧ Ready settings next ∧
      next.finishedSegments = session.finishedSegments ++ segments ∧ next.heard = session.heard ++ pcm := by
  have covered := settings.watchdog_covers ready.room fits
  have positive : 0 < sampleCount pcm := by
    by_contra none
    exact some (whole_empty whole (by omega))
  obtain ⟨segments,rolls,readyNext,finished,heard⟩ := streamPieces_rolls model (sampleCount pcm) ready whole positive
    (Nat.le_refl _)
  refine ⟨_,segments,_,?_,rolls,readyNext,finished,heard⟩
  rw [addPcmS16le,if_neg (by simp [ready.opened]),if_neg (by omega),if_neg some,if_neg (by omega),if_neg (by omega)]

theorem finishSegment_ready {session : QwenVLLMStreamingSession S} (ready : Ready settings session) :
    ∃ snapshot next, session.finishSegment model = .ok (snapshot,next) ∧ snapshot.segmentId = session.segmentId ∧
      snapshot.segmentFinished = true ∧ Ready settings next ∧ next.segmentId = session.segmentId + 1 ∧
      next.finishedSegments = session.finishedSegments ++ [(session.segmentId,snapshot.segmentText)] ∧
      next.heard = session.heard := by
  obtain ⟨opened,room,numbered⟩ := ready
  refine ⟨(session.finishActiveState model).2.snapshot model (session.finishActiveState model).1 true,
    (session.finishActiveState model).2.startFreshSegment model,?_,rfl,rfl,.startFreshSegment model opened numbered,rfl,rfl,rfl⟩
  rw [finishSegment,if_neg (by simp [opened])]

end QwenVLLMStreamingSession

/-- The texts of the events of a type. -/
def textsOf (type : EventType) (events : List TranscriptEvent) : List Text := (events.filter (·.type = type)).map (·.text)

/-- The texts of segments that are not blank. -/
def spoken (chars : Alphabet) (segments : List (Nat × Text)) : List Text :=
  (segments.map Prod.snd).filter fun text => strip chars text ≠ []

@[simp] theorem textsOf_append (type : EventType) (events later : List TranscriptEvent) :
    textsOf type (events ++ later) = textsOf type events ++ textsOf type later := by
  simp [textsOf]

theorem spoken_snoc (chars : Alphabet) (segments : List (Nat × Text)) (own : Nat) (text : Text) :
    spoken chars (segments ++ [(own,text)]) = spoken chars segments ++ if strip chars text ≠ [] then [text] else [] := by
  by_cases blank : strip chars text = [] <;> simp [spoken,blank]

/-- The client was told the sentence of every segment that has finished and no final text, and the
    transcript follows the segment after them. -/
structure Told (chars : Alphabet) (segments : List (Nat × Text)) (current : Nat) (transcript : StreamingTranscriptState)
    (sent : List TranscriptEvent) : Prop where
  snapshots : transcript.segmentLocalSnapshots = true
  follows : transcript.partialText ≠ [] → transcript.activeSegmentId = some (current : Int)
  sentences : textsOf .sentenceFinal sent = spoken chars segments
  running : textsOf .final sent = []

/-- The last of the segments that have finished is the pending text of the transcript. -/
structure Owes (chars : Alphabet) (segments : List (Nat × Text)) (transcript : StreamingTranscriptState)
    (sent : List TranscriptEvent) : Prop where
  snapshots : transcript.segmentLocalSnapshots = true
  pending : ∃ earlier own, segments = earlier ++ [(own,transcript.partialText)] ∧
    textsOf .sentenceFinal sent = spoken chars earlier
  running : textsOf .final sent = []

section
variable {S σ : Type} {chars : Alphabet} {controller : StreamingSessionController S σ} {segments : List (Nat × Text)}
  {current : Nat}

theorem Told.owes {transcript : StreamingTranscriptState} {sent : List TranscriptEvent}
    (told : Told chars segments current transcript sent) :
    Owes chars (segments ++ [(current,transcript.partialText)]) transcript sent :=
  ⟨told.snapshots,⟨segments,current,rfl,told.sentences⟩,told.running⟩

@[simp] theorem wp_emit (change : StreamingTranscriptState → List TranscriptEvent × StreamingTranscriptState)
    {returns : Unit → StreamingSessionController S σ → Prop} {raises : PyError → StreamingSessionController S σ → Prop} :
    wp (emit change) returns raises controller ↔ returns () { controller with
      transcript := (change controller.transcript).2
      sent := controller.sent ++ (change controller.transcript).1 } := .rfl

/-- A program that never raises has nothing to report. -/
theorem wp_reporting {α : Type} {program : Code S σ α} {returns : α → StreamingSessionController S σ → Prop}
    (handler : PyError → Option Failure) (succeeds : wp program returns (fun _ _ => False) controller) :
    wp (reporting handler program) returns (fun _ _ => False) controller := by
  rw [reporting,wp_tryCatch]
  exact wp_mono succeeds (fun _ _ holds => holds) fun _ _ no => no.elim

theorem wp_operate {α : Type} {call : QwenVLLMStreamingSession S → Except PyError (α × QwenVLLMStreamingSession S)}
    {result : α} {session : QwenVLLMStreamingSession S} (called : call controller.session = .ok (result,session))
    {returns : α → StreamingSessionController S σ → Prop} {raises : PyError → StreamingSessionController S σ → Prop} :
    wp (operate call) returns raises controller ↔ returns result { controller with session := session } := by
  simp only [operate,wp_bind,wp_get,wp_ofExcept,wp_modify,wp_pure,called,Except.ok.injEq,reduceCtorEq,false_implies,
    implies_true,and_true,forall_eq']

/-- A call of the session that succeeds has nothing to report. -/
theorem wp_reporting_operate {α : Type} {call : QwenVLLMStreamingSession S → Except PyError (α × QwenVLLMStreamingSession S)}
    {result : α} {session : QwenVLLMStreamingSession S} (called : call controller.session = .ok (result,session))
    {handler : PyError → Option Failure} {returns : α → StreamingSessionController S σ → Prop}
    {raises : PyError → StreamingSessionController S σ → Prop} :
    wp (reporting handler (operate call)) returns raises controller ↔
      returns result { controller with session := session } := by
  rw [reporting,wp_tryCatch,wp_operate called]

/-- Programs that change the transcript and tell the client, and leave the rest. -/
abbrev Tells {α : Type} (program : Code S σ α) (controller : StreamingSessionController S σ)
    (told : StreamingTranscriptState → List TranscriptEvent → Prop) : Prop :=
  wp program (fun _ next => ∃ transcript sent, next = { controller with transcript := transcript, sent := sent } ∧
    told transcript sent) (fun _ _ => False) controller

/-- The pending text becomes a sentence, unless it is blank. -/
theorem commitFinishedSegment_told (owes : Owes chars segments controller.transcript controller.sent) (current : Nat) :
    Tells (commitFinishedSegment chars) controller (Told chars segments current) := by
  obtain ⟨snapshots,⟨earlier,own,rfl,sentences⟩,running⟩ := owes
  unfold Tells commitFinishedSegment
  rw [wp_bind,wp_emit,wp_modify]
  refine ⟨_,_,rfl,?_⟩
  unfold StreamingTranscriptState.commitPending
  dsimp only
  split
  · rename_i empty
    refine ⟨snapshots,fun some => absurd empty some,?_,by rw [List.append_nil]; exact running⟩
    rw [List.append_nil,sentences,spoken_snoc,empty]
    simp [strip]
  split
  · rename_i blank
    refine ⟨snapshots,fun some => absurd rfl some,?_,?_⟩
    · rw [spoken_snoc,if_neg (not_not.mpr blank),textsOf_append,sentences]
      rfl
    · rw [textsOf_append,running]
      rfl
  · rename_i heard
    refine ⟨snapshots,fun some => absurd rfl some,?_,?_⟩
    · rw [spoken_snoc,if_pos heard,textsOf_append,sentences]
      rfl
    · rw [textsOf_append,running]
      rfl

/-- A snapshot of the segment that the transcript follows is never in conflict with it. -/
theorem applyStreamResult_told {result : StreamingTranscriptionResult}
    (told : Told chars segments current controller.transcript controller.sent) (own : result.segmentId = current) :
    Tells (applyStreamResult result) controller fun transcript sent =>
      Told chars segments current transcript sent ∧ transcript.partialText = result.segmentText := by
  obtain ⟨snapshots,follows,sentences,running⟩ := told
  have agrees : ¬(controller.transcript.activeSegmentId.any (· ≠ (result.segmentId : Int)) &&
      decide (controller.transcript.partialText ≠ [])) = true := by
    intro conflict
    rw [Bool.and_eq_true,decide_eq_true_eq] at conflict
    rw [follows conflict.2,own] at conflict
    simp at conflict
  simp only [Tells,applyStreamResult,sendEvents,wp_bind,wp_get,wp_modify,wp_ofExcept]
  rw [StreamingTranscriptState.applySegmentSnapshot,if_neg (by simp [snapshots]),if_neg agrees]
  dsimp only
  split
  · refine ⟨?_,fun _ raised => by cases raised⟩
    rintro _ ⟨⟩
    refine ⟨_,_,rfl,⟨snapshots,fun _ => by rw [← own]; rfl,?_,?_⟩,rfl⟩
    · rw [textsOf_append,sentences]
      exact List.append_nil _
    · rw [textsOf_append,running]
      rfl
  · refine ⟨?_,fun _ raised => by cases raised⟩
    rintro _ ⟨⟩
    refine ⟨_,_,rfl,⟨snapshots,fun _ => by rw [← own],?_,?_⟩,rfl⟩
    · rw [textsOf_append,sentences]
      exact List.append_nil _
    · rw [textsOf_append,running]
      rfl

theorem lastFinished_cons (snapshot : StreamingTranscriptionResult) {rest : List StreamingTranscriptionResult}
    (some : rest ≠ []) : lastFinished (snapshot :: rest) = lastFinished rest := by
  rw [lastFinished,lastFinished,List.getLast?_cons_of_ne_nil some]

/-- The transcript follows the snapshots of a result. If the last one finishes its segment, the
    segment has yet to be committed. -/
theorem applySnapshots_told {first last : Nat} {snapshots : List StreamingTranscriptionResult}
    {finished : List (Nat × Text)} (rolls : Rolls first snapshots finished last)
    (told : Told chars segments first controller.transcript controller.sent) :
    Tells (applySnapshots chars snapshots) controller fun transcript sent =>
      if lastFinished snapshots then Owes chars (segments ++ finished) transcript sent
      else Told chars (segments ++ finished) last transcript sent := by
  induction rolls generalizing segments controller with
  | live own running =>
    simp only [Tells,applySnapshots,wp_bind,wp_when,wp_pure,lastFinished,List.getLast?_singleton,Option.any_some,running,
      List.append_nil]
    refine ⟨fun _ => ?_,fun _ => ⟨by simp,fun _ => ⟨_,_,rfl,told⟩⟩⟩
    refine wp_mono (applyStreamResult_told told own) ?_ fun _ _ no => no
    rintro _ next ⟨transcript,sent,rfl,kept,_⟩
    rw [wp_bind,wp_when]
    exact ⟨fun no => absurd rfl no.2,fun _ => ⟨_,_,rfl,kept⟩⟩
  | ended own finished =>
    simp only [Tells,applySnapshots,wp_bind,wp_when,wp_pure,lastFinished,List.getLast?_singleton,Option.any_some,finished]
    refine ⟨fun _ => ?_,by simp⟩
    refine wp_mono (applyStreamResult_told told own) ?_ fun _ _ no => no
    rintro _ next ⟨transcript,sent,rfl,kept,text⟩
    rw [wp_bind,wp_when]
    refine ⟨fun no => absurd rfl no.2,fun _ => ⟨_,_,rfl,?_⟩⟩
    rw [if_pos trivial,← text]
    exact kept.owes
  | @rolled first _ _ _ _ own finished later ih =>
    simp only [Tells,applySnapshots,wp_bind,wp_when,finished]
    refine ⟨fun _ => ?_,by simp⟩
    refine wp_mono (applyStreamResult_told told own) ?_ fun _ _ no => no
    rintro _ next ⟨transcript,sent,rfl,kept,text⟩
    rw [wp_bind,wp_when]
    refine ⟨fun _ => ?_,fun last => absurd ⟨finished,later.some⟩ last⟩
    have owes := kept.owes
    rw [text] at owes
    refine wp_mono (commitFinishedSegment_told owes (first + 1)) ?_ fun _ _ no => no
    rintro _ next ⟨transcript,sent,rfl,committed⟩
    refine wp_mono (ih committed) ?_ fun _ _ no => no
    rintro _ next ⟨transcript,sent,rfl,end'⟩
    refine ⟨_,_,rfl,?_⟩
    rw [lastFinished_cons _ later.some]
    rwa [List.append_assoc] at end'

end

theorem frames_flatten {frameBytes : Nat} (pcm : Pcm) (positive : 0 < frameBytes) : (frames frameBytes pcm).flatten = pcm := by
  have part (count : Nat) : ((List.range count).map fun index =>
      (pcm.drop (index * frameBytes)).take frameBytes).flatten = pcm.take (count * frameBytes) := by
    induction count with
    | zero => simp
    | succ count ih => rw [List.range_succ,List.map_append,List.flatten_append,ih,Nat.succ_mul,List.take_add]; simp
  rw [frames,part,List.take_of_length_le]
  have covered := Nat.div_add_mod (pcm.length + frameBytes - 1) frameBytes
  have rest := Nat.mod_lt (pcm.length + frameBytes - 1) positive
  rw [Nat.mul_comm]
  omega

/-- The frames of whole audio are whole, and none is too long. -/
theorem frames_fit {frameBytes : Nat} {pcm frame : Pcm} (even : frameBytes % 2 = 0) (positive : 0 < frameBytes)
    (whole : Whole pcm) (member : frame ∈ frames frameBytes pcm) :
    frame ≠ [] ∧ frame.length ≤ frameBytes ∧ Whole frame := by
  obtain ⟨index,inside,rfl⟩ := List.mem_map.mp member
  rw [List.mem_range] at inside
  have before : index * frameBytes < pcm.length := by
    have covered := Nat.div_mul_le_self (pcm.length + frameBytes - 1) frameBytes
    have next : (index + 1) * frameBytes ≤ (pcm.length + frameBytes - 1) / frameBytes * frameBytes :=
      Nat.mul_le_mul_right frameBytes inside
    rw [Nat.succ_mul] at next
    omega
  have start : index * frameBytes % 2 = 0 := by rw [Nat.mul_mod,even,Nat.mul_zero]
  unfold Whole at *
  simp only [ne_eq,List.take_eq_nil_iff,List.drop_eq_nil_iff,List.length_take,List.length_drop]
  omega

theorem endpointFinalized_shortens {σ : Type} (settings : VADSettings) (backend : VADBackend σ)
    {detector : StreamingVADEndpointDetector σ} (ended : (detector.endpointFinalized settings backend).1.endpoint = true) :
    (detector.endpointFinalized settings backend).2.inputBuffer.length < detector.inputBuffer.length := by
  unfold StreamingVADEndpointDetector.endpointFinalized at *
  split at ended
  · cases ended
  rename_i finalizing
  rw [if_neg finalizing]
  have progress := StreamingVADEndpointDetector.drain_shortens settings backend detector.inputBuffer.length
    (detector.rearmed backend)
  simp only [StreamingVADEndpointDetector.transition,StreamingVADEndpointDetector.drainCompleteFrames] at ended ⊢
  rcases progress with same | shorter
  · simp only [StreamingVADEndpointDetector.rearmed] at same
    rw [same] at ended
    cases ended
  · exact shorter

/-! ## The controller -/

section
variable {S σ : Type} {chars : Alphabet} {settings : StreamSettings} {model : StreamingModel S} {backend : VADBackend σ}
  {controller : StreamingSessionController S σ} {vad : StreamingVADEndpointDetector σ} {waiting : Pcm} {accepted : Nat}

/-- All audio that the detector released was passed on to the model, but for what waits. -/
structure Passing (settings : StreamSettings) (vad : StreamingVADEndpointDetector σ) (waiting : Pcm) (accepted : Nat)
    (controller : StreamingSessionController S σ) : Prop where
  ready : QwenVLLMStreamingSession.Ready settings controller.session
  passed : controller.session.heard ++ waiting = controller.released
  vad : controller.vad = vad
  accepted : controller.acceptedSamples = accepted

/-- Between two operations of the model, every segment that has finished is committed. -/
structure Settled (chars : Alphabet) (settings : StreamSettings) (vad : StreamingVADEndpointDetector σ) (waiting : Pcm)
    (accepted : Nat) (controller : StreamingSessionController S σ) : Prop where
  passing : Passing settings vad waiting accepted controller
  told : Told chars controller.session.finishedSegments controller.session.segmentId controller.transcript controller.sent

/-- The program never raises, and leaves every segment committed. -/
abbrev Settles {α : Type} (program : Code S σ α) (controller : StreamingSessionController S σ)
    (settled : StreamingSessionController S σ → Prop) : Prop :=
  wp program (fun _ => settled) (fun _ _ => False) controller

/-- A frame goes to the model. If it ends with a segment, the segment has yet to be committed. -/
theorem addModelAudio_passes {frame : Pcm} (settled : Settled chars settings vad (frame ++ waiting) accepted controller)
    (some : frame ≠ []) (fits : frame.length ≤ settings.maxFrameBytes) (whole : Whole frame) :
    wp (addModelAudio chars settings model frame) (fun snapshots next => Passing settings vad waiting accepted next ∧
      if lastFinished snapshots then Owes chars next.session.finishedSegments next.transcript next.sent
      else Told chars next.session.finishedSegments next.session.segmentId next.transcript next.sent)
      (fun _ _ => False) controller := by
  obtain ⟨⟨ready,passed,same,accepts⟩,told⟩ := settled
  obtain ⟨snapshots,segments,session,heard,rolls,readyNext,finished,hears⟩ :=
    QwenVLLMStreamingSession.addPcmS16le_rolls model ready whole some fits
  rw [addModelAudio,wp_bind,wp_reporting_operate heard,wp_bind]
  refine wp_mono (wp_reporting _ (applySnapshots_told rolls told)) ?_ fun _ _ no => no
  rintro _ _ ⟨transcript,sent,rfl,follows⟩
  refine ⟨⟨readyNext,?_,same,accepts⟩,?_⟩
  · rw [hears,List.append_assoc]
    exact passed
  · rwa [finished]

theorem addFrames_settles {pieces : List Pcm} (finished : Bool)
    (settled : Settled chars settings vad (pieces.flatten ++ waiting) accepted controller)
    (fit : ∀ frame ∈ pieces, frame ≠ [] ∧ frame.length ≤ settings.maxFrameBytes ∧ Whole frame) :
    Settles (addFrames chars settings model pieces finished) controller (Settled chars settings vad waiting accepted) := by
  induction pieces generalizing controller finished with
  | nil => exact settled
  | cons frame rest ih =>
    obtain ⟨some,fits,whole⟩ := fit frame List.mem_cons_self
    rw [List.flatten_cons,List.append_assoc] at settled
    rw [Settles,addFrames,wp_bind]
    refine wp_mono (addModelAudio_passes settled some fits whole) ?_ fun _ _ no => no
    rintro snapshots next ⟨passing,told⟩
    have rests : ∀ {next : StreamingSessionController S σ},
        Settled chars settings vad (rest.flatten ++ waiting) accepted next →
          Settles (addFrames chars settings model rest (lastFinished snapshots)) next
            (Settled chars settings vad waiting accepted) := fun kept =>
      ih (lastFinished snapshots) kept fun frame member => fit frame (List.mem_cons_of_mem _ member)
    rw [wp_bind,wp_when]
    refine ⟨fun ends => ?_,fun goesOn => ?_⟩
    · rw [if_pos ends] at told
      refine wp_mono (commitFinishedSegment_told told next.session.segmentId) ?_ fun _ _ no => no
      rintro _ _ ⟨transcript,sent,rfl,committed⟩
      exact rests ⟨⟨passing.ready,passing.passed,passing.vad,passing.accepted⟩,committed⟩
    · rw [if_neg goesOn] at told
      exact rests ⟨passing,told⟩

theorem addVadAudio_settles {pcm : Pcm} (settled : Settled chars settings vad (pcm ++ waiting) accepted controller)
    (whole : Whole pcm) :
    Settles (addVadAudio chars settings model pcm) controller (Settled chars settings vad waiting accepted) := by
  have positive := settings.framePositive
  refine addFrames_settles false ?_ fun frame member => frames_fit settings.frameEven positive whole member
  rwa [frames_flatten pcm positive]

theorem resetSegment_settles (settled : Settled chars settings vad waiting accepted controller) :
    Settles (resetSegment chars model) controller (Settled chars settings vad waiting accepted) := by
  obtain ⟨⟨ready,passed,same,accepts⟩,told⟩ := settled
  obtain ⟨snapshot,session,ends,own,finished,readyNext,next,segments,heard⟩ :=
    QwenVLLMStreamingSession.finishSegment_ready model ready
  rw [Settles,resetSegment,wp_bind,wp_reporting_operate ends,wp_bind]
  refine wp_mono (wp_reporting _ (applyStreamResult_told told own)) ?_ fun _ _ no => no
  rintro _ _ ⟨transcript,sent,rfl,kept,text⟩
  have owes := kept.owes
  rw [text,← segments] at owes
  refine wp_mono (commitFinishedSegment_told owes session.segmentId) ?_ fun _ _ no => no
  rintro _ _ ⟨transcript,sent,rfl,committed⟩
  refine ⟨⟨readyNext,?_,same,accepts⟩,committed⟩
  rw [heard]
  exact passed

theorem handleVadDecision_settles {decision : VADDecision}
    (settled : Settled chars settings vad decision.audioToModel accepted controller) (whole : Whole decision.audioToModel) :
    Settles (handleVadDecision chars settings model decision) controller (Settled chars settings vad [] accepted) := by
  have passes : Settles (if decision.audioToModel ≠ [] then addVadAudio chars settings model decision.audioToModel
      else pure false) controller (Settled chars settings vad [] accepted) := by
    rw [Settles,wp_ite,wp_pure]
    refine ⟨fun _ => addVadAudio_settles ?_ whole,fun none => ?_⟩
    · rwa [List.append_nil]
    · rwa [not_not.mp none] at settled
  rw [Settles,handleVadDecision,wp_bind]
  refine wp_mono passes ?_ fun _ _ no => no
  intro finished next kept
  rw [wp_when]
  exact ⟨fun _ => resetSegment_settles kept,fun _ => kept⟩

/-- The detector releases audio, which waits to be passed on. -/
theorem wp_hearing {call : StreamingVADEndpointDetector σ → Except PyError VADDecision × StreamingVADEndpointDetector σ}
    {decision : VADDecision} {next : StreamingVADEndpointDetector σ} (called : call controller.vad = (.ok decision,next))
    {returns : VADDecision → StreamingSessionController S σ → Prop}
    {raises : PyError → StreamingSessionController S σ → Prop} :
    wp (hearing call) returns raises controller ↔ returns decision
      { controller with vad := next, released := controller.released ++ decision.audioToModel } := by
  simp only [hearing,wp_bind,wp_get,wp_ofExcept,wp_modify,wp_pure,called,Except.ok.injEq,reduceCtorEq,false_implies,
    implies_true,and_true,forall_eq']

theorem Settled.hear {decision : VADDecision} {next : StreamingVADEndpointDetector σ}
    (settled : Settled chars settings vad [] accepted controller) :
    Settled chars settings next decision.audioToModel accepted
      { controller with vad := next, released := controller.released ++ decision.audioToModel } := by
  obtain ⟨⟨ready,passed,_,accepts⟩,told⟩ := settled
  refine ⟨⟨ready,?_,rfl,accepts⟩,told⟩
  rw [← passed,List.append_nil]

/-- The controller has settled, with some detector. -/
def Resting (chars : Alphabet) (settings : StreamSettings) (accepted : Nat) (controller : StreamingSessionController S σ) :
    Prop :=
  controller.vad.Aligned ∧ Settled chars settings controller.vad [] accepted controller

theorem Settled.rest {vad : StreamingVADEndpointDetector σ} (settled : Settled chars settings vad [] accepted controller)
    (aligned : vad.Aligned) : Resting chars settings accepted controller := by
  obtain rfl := settled.passing.vad
  exact ⟨aligned,settled⟩

theorem followDecision_settles {fuel : Nat} {decision : VADDecision} (aligned : vad.Aligned)
    (settled : Settled chars settings vad decision.audioToModel accepted controller) (whole : Whole decision.audioToModel)
    (some : 0 < fuel) (enough : decision.endpoint = true → vad.inputBuffer.length + 2 ≤ fuel) :
    Settles (followDecision chars settings model backend fuel decision) controller (Resting chars settings accepted) := by
  induction fuel generalizing controller vad decision with
  | zero => omega
  | succ fuel ih =>
    rw [Settles,followDecision,wp_bind]
    refine wp_mono (handleVadDecision_settles settled whole) ?_ fun _ _ no => no
    intro _ next kept
    rw [wp_ite]
    refine ⟨fun ended => ?_,fun _ => kept.rest aligned⟩
    have more := enough ended
    obtain ⟨sheds,alignedNext⟩ := StreamingVADEndpointDetector.endpointFinalized_sheds settings.vad backend vad aligned
    have same := kept.passing.vad
    rw [wp_bind]
    refine (wp_hearing (by rfl)).mpr ?_
    rw [same]
    refine ih alignedNext kept.hear ?_ (by omega) fun again => ?_
    · obtain ⟨_,_,_,released,_⟩ := sheds
      exact released
    · have shorter := endpointFinalized_shortens settings.vad backend again
      omega

theorem addAudio_settles {pcm : Pcm} (resting : Resting chars settings accepted controller) (some : pcm ≠ []) (whole : Whole pcm)
    (fits : pcm.length ≤ settings.maxFrameBytes) (within : (accepted + sampleCount pcm : Nat) ≤ settings.maxSamples) :
    Settles (addAudio chars settings model backend pcm) controller (Resting chars settings (accepted + sampleCount pcm)) := by
  obtain ⟨aligned,⟨⟨ready,passed,same,accepts⟩,told⟩⟩ := resting
  unfold Whole at whole
  simp only [Settles,addAudio,validateAudioFrame,wp_bind,wp_when,wp_get,wp_modify]
  refine ⟨fun bad => by simp [some,whole] at bad,fun _ => ⟨fun long => by omega,fun _ => ⟨fun overlong => ?_,fun _ => ?_⟩⟩⟩
  · rw [accepts] at overlong
    omega
  obtain ⟨decision,next,heard⟩ : ∃ decision next,
      controller.vad.addAudio settings.vad backend pcm = (.ok decision,next) := by
    rw [StreamingVADEndpointDetector.addAudio,if_neg (not_not.mpr whole)]
    exact ⟨_,_,rfl⟩
  obtain ⟨sheds,alignedNext⟩ := StreamingVADEndpointDetector.addAudio_sheds settings.vad backend aligned heard
  obtain ⟨_,_,_,released,_⟩ := sheds
  have counted : Settled chars settings controller.vad [] (accepted + sampleCount pcm)
      { controller with acceptedSamples := controller.acceptedSamples + sampleCount pcm } :=
    ⟨⟨ready,passed,same,by rw [accepts]⟩,told⟩
  refine (wp_hearing heard).mpr ?_
  show Settles (followDecision chars settings model backend (next.inputBuffer.length + 2) decision) _ _
  exact followDecision_settles alignedNext counted.hear released (by omega) fun _ => Nat.le_refl _

theorem endInput_settles (resting : Resting chars settings accepted controller) :
    Settles (endInput chars settings model backend) controller (Resting chars settings accepted) := by
  obtain ⟨aligned,settled⟩ := resting
  obtain ⟨sheds,_,alignedNext⟩ := StreamingVADEndpointDetector.finishInput_sheds settings.vad backend controller.vad aligned
  obtain ⟨_,_,_,released,_⟩ := sheds
  rw [Settles,endInput,wp_bind]
  refine (wp_hearing (by rfl)).mpr ?_
  have heard : Settled chars settings (controller.vad.finishInput settings.vad backend).2
      (controller.vad.finishInput settings.vad backend).1.audioToModel accepted _ := settled.hear
  rw [wp_ite,wp_pure]
  refine ⟨fun _ => ?_,fun none => ?_⟩
  · refine wp_mono (addVadAudio_settles (by rwa [List.append_nil]) released) ?_ fun _ _ no => no
    exact fun _ _ kept => kept.rest alignedNext
  · refine Settled.rest ?_ alignedNext
    rwa [not_not.mp none] at heard ⊢

theorem explicitSegment_settles (resting : Resting chars settings accepted controller) :
    Settles (explicitSegment chars settings model backend) controller (Resting chars settings accepted) := by
  have aborts : ∀ {next : StreamingSessionController S σ}, Settled chars settings next.vad [] accepted next →
      Resting chars settings accepted { next with vad := next.vad.reset backend } := fun kept =>
    ⟨StreamingVADEndpointDetector.aligned_reset backend _,
      ⟨⟨kept.passing.ready,kept.passing.passed,rfl,kept.passing.accepted⟩,kept.told⟩⟩
  rw [Settles,explicitSegment,wp_bind]
  refine wp_mono (endInput_settles resting) ?_ fun _ _ no => no
  rintro finalized next ⟨_,kept⟩
  rw [wp_bind,wp_when]
  refine ⟨fun _ => ?_,fun _ => aborts kept⟩
  refine wp_mono (resetSegment_settles kept) ?_ fun _ _ no => no
  intro _ last settled
  refine aborts ?_
  rwa [settled.passing.vad]

/-- The stream has ended: the client was told every sentence, and once the text of the segment
    that did not finish. -/
structure Ended (chars : Alphabet) (model : StreamingModel S) (controller : StreamingSessionController S σ) : Prop where
  sentences : textsOf .sentenceFinal controller.sent = spoken chars controller.session.finishedSegments
  numbered : controller.session.finishedSegments.map Prod.fst = List.range controller.session.segmentId
  final : textsOf .final controller.sent = [model.text controller.session.state]
  passed : controller.session.heard = controller.released
  finished : controller.finished = true
  closed : controller.closeCode = some 1000

theorem finish_ends (resting : Resting chars settings accepted controller) :
    Settles (finish chars settings model backend) controller (Ended chars model) := by
  rw [Settles,finish,wp_bind]
  refine wp_reporting _ ?_
  rw [wp_bind]
  refine wp_mono (endInput_settles resting) ?_ fun _ _ no => no
  rintro finished next ⟨_,⟨⟨ready,passed,_,_⟩,told⟩⟩
  have ends : next.session.finish model = .ok
      ((next.session.finishActiveState model).2.snapshot model (next.session.finishActiveState model).1 false,
        { (next.session.finishActiveState model).2 with closed := true }) := by
    rw [QwenVLLMStreamingSession.finish,if_neg (by simp [ready.opened])]
  rw [wp_bind,wp_operate ends,wp_bind]
  refine wp_mono (applyStreamResult_told told rfl) ?_ fun _ _ no => no
  rintro _ _ ⟨transcript,sent,rfl,kept,text⟩
  rw [wp_emit,wp_modify]
  rw [List.append_nil] at passed
  refine ⟨?_,ready.numbered,?_,passed,rfl,rfl⟩
  · rw [textsOf_append,kept.sentences]
    exact List.append_nil _
  · rw [textsOf_append,kept.running]
    show [transcript.partialText] = _
    rw [text]
    rfl

/-- The samples that a command brings. -/
def StreamCommand.samples : StreamCommand → Nat
  | .audio pcm => sampleCount pcm
  | .segment => 0

/-- Every frame is aligned and short enough, and together they are not too long. -/
structure ValidInput (settings : StreamSettings) (commands : List StreamCommand) : Prop where
  frames : ∀ pcm, .audio pcm ∈ commands → pcm ≠ [] ∧ Whole pcm ∧ pcm.length ≤ settings.maxFrameBytes
  duration : ((commands.map StreamCommand.samples).sum : Nat) ≤ settings.maxSamples

theorem receiveAll_settles {commands : List StreamCommand} (resting : Resting chars settings accepted controller)
    (frames : ∀ pcm, .audio pcm ∈ commands → pcm ≠ [] ∧ Whole pcm ∧ pcm.length ≤ settings.maxFrameBytes)
    (duration : (accepted + (commands.map StreamCommand.samples).sum : Nat) ≤ settings.maxSamples) :
    Settles (receiveAll chars settings model backend commands) controller
      (Resting chars settings (accepted + (commands.map StreamCommand.samples).sum)) := by
  induction commands generalizing controller accepted with
  | nil => exact resting
  | cons command rest ih =>
    rw [List.map_cons,List.sum_cons,← Nat.add_assoc] at duration ⊢
    have received : Settles (receive chars settings model backend command) controller
        (Resting chars settings (accepted + command.samples)) := by
      cases command with
      | audio pcm =>
        obtain ⟨some,whole,fits⟩ := frames pcm List.mem_cons_self
        refine addAudio_settles resting some whole fits ?_
        rw [StreamCommand.samples] at duration
        omega
      | segment => exact explicitSegment_settles resting
    rw [Settles,receiveAll,wp_bind]
    refine wp_mono received ?_ fun _ _ no => no
    exact fun _ next kept => ih kept (fun pcm member => frames pcm (List.mem_cons_of_mem _ member)) duration

theorem opened_resting (start : σ) : Resting chars settings 0 (opened settings model start) :=
  ⟨StreamingVADEndpointDetector.aligned_initial start,
    ⟨⟨⟨rfl,settings.maxUtteranceSamples_pos,rfl⟩,rfl,rfl,rfl⟩,⟨rfl,fun some => absurd rfl some,rfl,rfl⟩⟩⟩

/-- Whatever the model and the detector's oracle answer, a stream of valid frames and segment
    commands ends without a conflict. Each segment that finished, in order, was told as one sentence
    unless it is blank, the segment that did not is the final text, and the model heard what the
    detector released. -/
theorem segments_committed_once {commands : List StreamCommand} (valid : ValidInput settings commands) (start : σ) :
    ∃ controller, (stream chars settings model backend commands).run (opened settings model start) = .ok () controller ∧
      Ended chars model controller := by
  obtain ⟨aligned,⟨passing,⟨snapshots,follows,sentences,running⟩⟩⟩ : Resting chars settings 0 (opened settings model start) :=
    opened_resting start
  have streams : Settles (stream chars settings model backend commands) (opened settings model start)
      (Ended chars model) := by
    rw [Settles,stream,wp_bind,wp_emit,wp_bind]
    have ready : Resting chars settings 0 { opened settings model start with
        transcript := ((opened settings model start).transcript.newEvent .ready).2
        sent := (opened settings model start).sent ++ [((opened settings model start).transcript.newEvent .ready).1] } :=
      ⟨aligned,⟨⟨passing.ready,passing.passed,passing.vad,passing.accepted⟩,⟨snapshots,follows,sentences,running⟩⟩⟩
    refine wp_mono (receiveAll_settles ready valid.frames ?_) (fun _ _ kept => finish_ends kept) fun _ _ no => no
    rw [Nat.zero_add]
    exact valid.duration
  unfold Settles wp at streams
  split at streams
  · rename_i ran
    exact ⟨_,ran,streams⟩
  · exact streams.elim

end

/-- A model that writes a letter for every sample that it hears in a segment. -/
def letterModel : StreamingModel Nat where
  start := 0
  fresh _ := 0
  transcribe pcm letters := letters + sampleCount pcm
  finish letters := letters
  text letters := List.replicate letters 'a'
  chunkId letters := letters
  chunkSizeSamples _ := none

/-- Segments of three samples at most, and a detector that takes every frame of one sample for
    speech. -/
def shortSegments : StreamSettings where
  maxFrameBytes := 4
  maxUtteranceSeconds := 3 / 16000
  stateWatchdogSeconds := 120
  streamChunkSeconds := 1 / 16000
  maxAudioSeconds := 1
  stableCommitEnabled := false
  stableCommitSeconds := 1
  stableCommitMinChars := 8
  stableCommitMinUpdates := 2
  vad :=
    { sampleRate := 1000
      frameSamples := 1
      onsetThreshold := 1 / 2
      offsetThreshold := 1 / 2
      minSpeechMs := 1
      minSilenceMs := 1
      hangoverMs := 1
      preRollMs := 1
      framePositive := Nat.one_pos }
  framePositive := Nat.succ_pos 3
  frameEven := by decide
  utteranceExceedsFrame := by norm_num
  watchdogExceedsUtterance := by norm_num

def alwaysSpeech : VADBackend Unit where
  speechProbability _ _ := (1,())
  reset _ := ()

/-- The first sample of the second frame fills a segment. -/
def rollingCommands : List StreamCommand := [.audio [1,0,2,0],.audio [3,0,4,0],.segment,.audio [5,0]]

theorem rolling_committed : ∃ controller,
    (stream ascii shortSegments letterModel alwaysSpeech rollingCommands).run (opened shortSegments letterModel ()) =
      .ok () controller ∧ Ended ascii letterModel controller := by
  refine segments_committed_once ⟨?_,?_⟩ ()
  · intro pcm member
    simp only [rollingCommands,List.mem_cons,StreamCommand.audio.injEq,reduceCtorEq,List.not_mem_nil,or_false,false_or] at member
    rcases member with rfl | rfl | rfl <;> exact ⟨by decide,rfl,by decide⟩
  · decide +kernel

end SpeechGateway.Stateful
