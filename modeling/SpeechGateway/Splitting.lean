import SpeechGateway.Committing
import SpeechGateway.Cutting

/-!
How `QwenVLLMStreamingSession` splits its audio. The calls that reach the model are noted beside
its state, which changes nothing else (`runCalls_plain`). Between two calls of `finish_segment`
the states of the model hear the audio cut at the longest utterance, whatever the frames were.
-/
namespace SpeechGateway.Stateful
open SpeechGateway.Cutting SpeechGateway.Vad

variable {S : Type}

inductive ModelCall
  | start
  | transcribe (pcm : Pcm)
  | finish
  deriving DecidableEq, Repr

/-- The model, with the calls that led to a state beside it. -/
def StreamingModel.logged (model : StreamingModel S) : StreamingModel (S × List ModelCall) where
  start := (model.start,[.start])
  fresh state := (model.fresh state.1,state.2 ++ [.start])
  transcribe pcm state := (model.transcribe pcm state.1,state.2 ++ [.transcribe pcm])
  finish state := (model.finish state.1,state.2 ++ [.finish])
  text state := model.text state.1
  chunkId state := model.chunkId state.1
  chunkSizeSamples state := model.chunkSizeSamples state.1

/-- The pieces that were passed to the model. -/
def pieces : List ModelCall → List Pcm
  | [] => []
  | .transcribe pcm :: rest => pcm :: pieces rest
  | _ :: rest => pieces rest

/-- A call after which the states before the last one have heard `earlier`, and the last one
    `current`. -/
def hear : List Pcm × Pcm → ModelCall → List Pcm × Pcm
  | (earlier,current), .start => (earlier ++ [current],[])
  | (earlier,current), .transcribe pcm => (earlier,current ++ pcm)
  | heard, .finish => heard

/-- What each state of the model has heard, in the order of their starts. -/
def heardBy : List ModelCall → List Pcm
  | .start :: rest => (rest.foldl hear ([],[])).1 ++ [(rest.foldl hear ([],[])).2]
  | _ => []

theorem flatten_hear (log : List ModelCall) (heard : List Pcm × Pcm) :
    (log.foldl hear heard).1.flatten ++ (log.foldl hear heard).2 = heard.1.flatten ++ heard.2 ++ (pieces log).flatten := by
  induction log generalizing heard with
  | nil => simp [pieces]
  | cons call log ih =>
    rw [List.foldl_cons,ih]
    cases call <;> simp [hear,pieces]

/-- The states of the model have heard what was passed to it. -/
theorem flatten_heardBy (log : List ModelCall) : (heardBy (.start :: log)).flatten = (pieces log).flatten := by
  have passed := flatten_hear log ([],[])
  simpa [heardBy] using passed

/-- What happens to a session. `update` changes the state of its model between two calls. -/
inductive SessionCall (S : Type)
  | addPcm (pcm : Pcm)
  | finishSegment
  | update (change : S → S)

namespace SessionCall

/-- The call at a session whose model is logged. -/
def logged : SessionCall S → SessionCall (S × List ModelCall)
  | .addPcm pcm => .addPcm pcm
  | .finishSegment => .finishSegment
  | .update change => .update fun state => (change state.1,state.2)

/-- The snapshots that the call returns. -/
def answer (settings : StreamSettings) (model : StreamingModel S) (session : QwenVLLMStreamingSession S) :
    SessionCall S → Except PyError (List StreamingTranscriptionResult × QwenVLLMStreamingSession S)
  | .addPcm pcm => session.addPcmS16le settings model pcm
  | .finishSegment => do
    let (snapshot,next) ← session.finishSegment model
    return ([snapshot],next)
  | .update change => return ([],{ session with state := change session.state })

/-- The frames that are added. -/
def frames : List (SessionCall S) → List Pcm
  | [] => []
  | .addPcm pcm :: rest => pcm :: frames rest
  | _ :: rest => frames rest

/-- The audio between two calls of `finish_segment`, where `current` was added before. -/
def groups (current : Pcm) : List (SessionCall S) → List Pcm
  | [] => [current]
  | .addPcm pcm :: rest => groups (current ++ pcm) rest
  | .finishSegment :: rest => current :: groups [] rest
  | .update _ :: rest => groups current rest

theorem flatten_groups (current : Pcm) (calls : List (SessionCall S)) :
    (groups current calls).flatten = current ++ (frames calls).flatten := by
  induction calls generalizing current with
  | nil => simp [groups,frames]
  | cons call calls ih => cases call <;> simp [groups,frames,ih]

end SessionCall

/-- The replies to a run of calls, and the session behind it. -/
def runCalls (settings : StreamSettings) (model : StreamingModel S) :
    List (SessionCall S) → QwenVLLMStreamingSession S →
      Except PyError (List (List StreamingTranscriptionResult) × QwenVLLMStreamingSession S)
  | [], session => return ([],session)
  | call :: rest, session => do
    let (snapshots,next) ← call.answer settings model session
    let (later,last) ← runCalls settings model rest next
    return (snapshots :: later,last)

namespace QwenVLLMStreamingSession
variable (settings : StreamSettings) (model : StreamingModel S)

/-- The loop of `add_pcm_s16le` without a bound: it has an end only if it terminates. -/
inductive SplitLoop : QwenVLLMStreamingSession S → Pcm → List StreamingTranscriptionResult →
    QwenVLLMStreamingSession S → Prop
  | done {session : QwenVLLMStreamingSession S} {pcm : Pcm} (none : sampleCount pcm = 0) : SplitLoop session pcm [] session
  | rolled {session received active last : QwenVLLMStreamingSession S} {pcm : Pcm} {taken : Nat}
      {progress flushed : Int × Bool} {later : List StreamingTranscriptionResult} (some : 0 < sampleCount pcm)
      (takes : taken = min (sampleCount pcm) (settings.maxUtteranceSamples - session.segmentReceivedSamples))
      (passed : session.streamPiece settings model (pcm.take (taken * 2)) = (progress,received))
      (full : received.segmentReceivedSamples = settings.maxUtteranceSamples)
      (flush : received.finishActiveState model = (flushed,active))
      (rest : SplitLoop (active.startFreshSegment model) (pcm.drop (taken * 2)) later last) :
      SplitLoop session pcm (active.snapshot model (progress.1 + flushed.1,progress.2 || flushed.2) true :: later) last
  | running {session received last : QwenVLLMStreamingSession S} {pcm : Pcm} {taken : Nat} {progress : Int × Bool}
      {later : List StreamingTranscriptionResult} (some : 0 < sampleCount pcm)
      (takes : taken = min (sampleCount pcm) (settings.maxUtteranceSamples - session.segmentReceivedSamples))
      (passed : session.streamPiece settings model (pcm.take (taken * 2)) = (progress,received))
      (room : received.segmentReceivedSamples ≠ settings.maxUtteranceSamples)
      (rest : SplitLoop received (pcm.drop (taken * 2)) later last) :
      SplitLoop session pcm (received.snapshot model progress false :: later) last

/-- The session without the log of its model. -/
def plain (session : QwenVLLMStreamingSession (S × List ModelCall)) : QwenVLLMStreamingSession S :=
  { session with state := session.state.1 }

end QwenVLLMStreamingSession

section
variable {settings : StreamSettings} {model : StreamingModel S}

theorem streamPieces_plain (fuel : Nat) (session : QwenVLLMStreamingSession (S × List ModelCall)) (pcm : Pcm) :
    session.plain.streamPieces settings model fuel pcm = ((session.streamPieces settings model.logged fuel pcm).1,
      (session.streamPieces settings model.logged fuel pcm).2.plain) := by
  induction fuel generalizing session pcm with
  | zero => rfl
  | succ fuel ih =>
    rw [QwenVLLMStreamingSession.streamPieces,QwenVLLMStreamingSession.streamPieces]
    by_cases none : sampleCount pcm = 0
    · rw [if_pos none,if_pos none]
    · rw [if_neg none,if_neg none]
      dsimp only
      generalize taking : min (sampleCount pcm) (settings.maxUtteranceSamples - session.segmentReceivedSamples) = taken
      have same : min (sampleCount pcm) (settings.maxUtteranceSamples - session.plain.segmentReceivedSamples) = taken := taking
      rw [same]
      by_cases full : (session.streamPiece settings model.logged (pcm.take (taken * 2))).2.segmentReceivedSamples =
          settings.maxUtteranceSamples
      · have rolled := ih (((session.streamPiece settings model.logged (pcm.take (taken * 2))).2.finishActiveState
          model.logged).2.startFreshSegment model.logged) (pcm.drop (taken * 2))
        rw [if_pos full]
        refine (if_pos full).trans ?_
        exact congrArg (fun rest => (_ :: rest.1,rest.2)) rolled
      · have running := ih (session.streamPiece settings model.logged (pcm.take (taken * 2))).2 (pcm.drop (taken * 2))
        rw [if_neg full]
        refine (if_neg full).trans ?_
        exact congrArg (fun rest => (_ :: rest.1,rest.2)) running

theorem answer_plain (call : SessionCall S) (session : QwenVLLMStreamingSession (S × List ModelCall)) :
    call.answer settings model session.plain = (call.logged.answer settings model.logged session).map
      fun reply => (reply.1,reply.2.plain) := by
  cases call with
  | addPcm pcm =>
    show session.plain.addPcmS16le settings model pcm = (session.addPcmS16le settings model.logged pcm).map _
    simp only [QwenVLLMStreamingSession.addPcmS16le,streamPieces_plain]
    split_ifs <;> first | rfl | contradiction
  | finishSegment =>
    simp only [SessionCall.answer,SessionCall.logged,QwenVLLMStreamingSession.finishSegment]
    split_ifs <;> first | rfl | contradiction
  | update change => rfl

/-- A run replies the same when its model is logged. -/
theorem runCalls_plain (calls : List (SessionCall S)) (session : QwenVLLMStreamingSession (S × List ModelCall)) :
    runCalls settings model calls session.plain =
      (runCalls settings model.logged (calls.map .logged) session).map fun reply => (reply.1,reply.2.plain) := by
  induction calls generalizing session with
  | nil => rfl
  | cons call calls ih =>
    rw [List.map_cons,runCalls,runCalls,answer_plain]
    cases call.logged.answer settings model.logged session with
    | error exc => rfl
    | ok reply =>
      show (runCalls settings model calls reply.2.plain >>= _) = Except.map _ (runCalls settings model.logged _ reply.2 >>= _)
      rw [ih]
      cases runCalls settings model.logged (calls.map .logged) reply.2 <;> rfl

end

namespace QwenVLLMStreamingSession
variable {settings : StreamSettings} (model : StreamingModel S)

theorem streamPieces_loop (fuel : Nat) {session : QwenVLLMStreamingSession S} {pcm : Pcm}
    (room : session.segmentReceivedSamples < settings.maxUtteranceSamples) (enough : sampleCount pcm ≤ fuel) :
    SplitLoop settings model session pcm (session.streamPieces settings model fuel pcm).1
      (session.streamPieces settings model fuel pcm).2 := by
  induction fuel generalizing session pcm with
  | zero => exact .done (Nat.le_zero.mp enough)
  | succ fuel ih =>
    rw [streamPieces]
    by_cases none : sampleCount pcm = 0
    · rw [if_pos none]
      exact .done none
    rw [if_neg none]
    dsimp only
    generalize taking : min (sampleCount pcm) (settings.maxUtteranceSamples - session.segmentReceivedSamples) = taken
    have takes : sampleCount (pcm.take (taken * 2)) = taken := by
      unfold sampleCount at *
      rw [List.length_take]
      omega
    have left : sampleCount (pcm.drop (taken * 2)) ≤ fuel := by
      unfold sampleCount at *
      rw [List.length_drop]
      omega
    have received : (session.streamPiece settings model (pcm.take (taken * 2))).2.segmentReceivedSamples =
        session.segmentReceivedSamples + taken := congrArg (session.segmentReceivedSamples + ·) takes
    by_cases full : (session.streamPiece settings model (pcm.take (taken * 2))).2.segmentReceivedSamples =
        settings.maxUtteranceSamples
    · rw [if_pos full]
      exact .rolled (Nat.pos_of_ne_zero none) taking.symm rfl full rfl (ih settings.maxUtteranceSamples_pos left)
    · rw [if_neg full]
      exact .running (Nat.pos_of_ne_zero none) taking.symm rfl full (ih (by omega) left)

end QwenVLLMStreamingSession

/-- The samples of a segment that snapshots tell to be decoded. -/
def decodedOf (segmentId : Nat) (snapshots : List StreamingTranscriptionResult) : Int :=
  ((snapshots.filter (·.segmentId = segmentId)).map (·.decodedSamplesDelta)).sum

/-- Snapshots of consecutive segments, of which all but the last finish theirs. -/
def ChainedFrom (first : Nat) (snapshots : List StreamingTranscriptionResult) : Prop :=
  snapshots.map (·.segmentId) = List.range' first snapshots.length ∧
    ∀ snapshot ∈ snapshots.dropLast, snapshot.segmentFinished = true

theorem decodedOf_append (segmentId : Nat) (before after : List StreamingTranscriptionResult) :
    decodedOf segmentId (before ++ after) = decodedOf segmentId before + decodedOf segmentId after := by
  simp [decodedOf]

theorem ChainedFrom.one (snapshot : StreamingTranscriptionResult) : ChainedFrom snapshot.segmentId [snapshot] :=
  ⟨rfl,nofun⟩

theorem ChainedFrom.cons {first : Nat} {snapshot : StreamingTranscriptionResult}
    {later : List StreamingTranscriptionResult} (own : snapshot.segmentId = first)
    (finished : snapshot.segmentFinished = true) (chained : ChainedFrom (first + 1) later) :
    ChainedFrom first (snapshot :: later) := by
  obtain ⟨ids,others⟩ := chained
  refine ⟨by rw [List.map_cons,ids,own]; rfl,?_⟩
  cases later with
  | nil => exact nofun
  | cons next later =>
    rintro each (_ | ⟨_,inside⟩)
    · exact finished
    · exact others each inside

namespace QwenVLLMStreamingSession

/-- Behind some calls: what the states of the model heard, and the snapshots so far. `pending`
    samples were decoded of the running segment that no snapshot tells yet. -/
structure Tracked (earlier : List Pcm) (current : Pcm) (history : List StreamingTranscriptionResult) (pending : Int)
    (session : QwenVLLMStreamingSession (S × List ModelCall)) : Prop where
  opened : session.closed = false
  heard : ∃ log, session.state.2 = .start :: log ∧ log.foldl hear ([],[]) = (earlier,current)
  received : current.length = session.segmentReceivedSamples * 2
  numbered : earlier.length = session.segmentId
  undecoded : 0 ≤ session.undecodedSamples
  own : decodedOf session.segmentId history + pending + session.undecodedSamples = session.segmentReceivedSamples
  past : ∀ id < session.segmentId, decodedOf id history ≤ sampleCount (earlier.getD id [])
  later : ∀ snapshot ∈ history, snapshot.segmentId ≤ session.segmentId

variable (settings : StreamSettings) (model : StreamingModel S) {earlier : List Pcm} {current : Pcm}
  {history : List StreamingTranscriptionResult} {pending : Int} {session : QwenVLLMStreamingSession (S × List ModelCall)}

theorem Tracked.streamPiece (tracked : Tracked earlier current history pending session) {pcm : Pcm} (whole : Whole pcm) :
    Tracked earlier (current ++ pcm) history (pending + (session.streamPiece settings model.logged pcm).1.1)
      (session.streamPiece settings model.logged pcm).2 := by
  obtain ⟨opened,⟨log,called,heard⟩,received,numbered,undecoded,own,past,later⟩ := tracked
  unfold Whole at whole
  simp only [QwenVLLMStreamingSession.streamPiece,decodeProgress]
  generalize max 0 _ * Option.getD _ settings.chunkSamples = decoded
  have count : ((sampleCount pcm : Nat) : Int) * 2 = pcm.length := by
    unfold sampleCount
    omega
  refine ⟨opened,⟨log ++ [.transcribe pcm],?_,?_⟩,?_,numbered,?_,?_,past,later⟩
  · show session.state.2 ++ [.transcribe pcm] = _
    rw [called,List.cons_append]
  · rw [List.foldl_append,heard]
    rfl
  · rw [List.length_append]
    dsimp only
    omega
  · dsimp only
    omega
  · push_cast
    omega

theorem Tracked.finishActiveState (tracked : Tracked earlier current history pending session) :
    Tracked earlier current history (pending + (session.finishActiveState model.logged).1.1)
      (session.finishActiveState model.logged).2 := by
  obtain ⟨opened,⟨log,called,heard⟩,received,numbered,undecoded,own,past,later⟩ := tracked
  simp only [QwenVLLMStreamingSession.finishActiveState]
  generalize (_ || _ : Bool) = updated
  refine ⟨opened,⟨log ++ [.finish],?_,?_⟩,received,numbered,?_,?_,past,later⟩
  · show session.state.2 ++ [.finish] = _
    rw [called,List.cons_append]
  · rw [List.foldl_append,heard]
    rfl
  · dsimp only
    split <;> omega
  · dsimp only
    split <;> omega

/-- A snapshot tells what was decoded. -/
theorem Tracked.snapshot (tracked : Tracked earlier current history pending session) (updated finished : Bool) :
    Tracked earlier current (history ++ [session.snapshot model.logged (pending,updated) finished]) 0 session := by
  obtain ⟨opened,heard,received,numbered,undecoded,own,past,later⟩ := tracked
  refine ⟨opened,heard,received,numbered,undecoded,?_,?_,?_⟩
  · rw [decodedOf_append]
    have told : decodedOf session.segmentId [session.snapshot model.logged (pending,updated) finished] = pending := by
      simp [decodedOf,QwenVLLMStreamingSession.snapshot]
    omega
  · intro id before
    have other : decodedOf id [session.snapshot model.logged (pending,updated) finished] = 0 := by
      simp [decodedOf,QwenVLLMStreamingSession.snapshot,(Nat.ne_of_lt before).symm]
    rw [decodedOf_append,other,add_zero]
    exact past id before
  · intro each inside
    rcases List.mem_append.mp inside with old | new
    · exact later each old
    · rw [List.mem_singleton.mp new]
      exact Nat.le_refl _

/-- The next segments have no snapshots yet. -/
theorem Tracked.unseen (tracked : Tracked earlier current history pending session) {id : Nat}
    (after : session.segmentId < id) : decodedOf id history = 0 := by
  unfold decodedOf
  rw [List.filter_eq_nil_iff.mpr]
  · rfl
  · intro each inside same
    have old := tracked.later each inside
    simp only [decide_eq_true_eq] at same
    omega

/-- No more samples are decoded of a segment than its state has heard. -/
theorem Tracked.decoded (tracked : Tracked earlier current history 0 session) (id : Nat) :
    decodedOf id history ≤ sampleCount ((earlier ++ [current]).getD id []) := by
  rcases Nat.lt_trichotomy id session.segmentId with old | rfl | next
  · have count := tracked.numbered
    rw [List.getD_eq_getElem?_getD,List.getElem?_append_left (by omega),← List.getD_eq_getElem?_getD]
    exact tracked.past id old
  · have last : (earlier ++ [current]).getD session.segmentId [] = current := by
      rw [← tracked.numbered]
      simp
    have count : sampleCount current = session.segmentReceivedSamples := by
      have received := tracked.received
      unfold sampleCount
      omega
    have own := tracked.own
    have undecoded := tracked.undecoded
    rw [last]
    omega
  · rw [tracked.unseen next]
    exact Int.natCast_nonneg _

theorem Tracked.startFreshSegment (tracked : Tracked earlier current history 0 session) :
    Tracked (earlier ++ [current]) [] history 0 (session.startFreshSegment model.logged) := by
  obtain ⟨log,called,heard⟩ := tracked.heard
  refine ⟨tracked.opened,⟨log ++ [.start],?_,?_⟩,rfl,?_,Int.le_refl 0,?_,fun id _ => tracked.decoded id,?_⟩
  · show session.state.2 ++ [.start] = _
    rw [called,List.cons_append]
  · rw [List.foldl_append,heard]
    rfl
  · rw [List.length_append,tracked.numbered]
    rfl
  · show decodedOf (session.segmentId + 1) history + 0 + 0 = ((0 : Nat) : Int)
    rw [tracked.unseen (Nat.lt_succ_self _)]
    rfl
  · intro each inside
    exact Nat.le_succ_of_le (tracked.later each inside)

theorem Tracked.update (tracked : Tracked earlier current history pending session) (change : S → S) :
    Tracked earlier current history pending { session with state := (change session.state.1,session.state.2) } :=
  ⟨tracked.opened,tracked.heard,tracked.received,tracked.numbered,tracked.undecoded,tracked.own,tracked.past,tracked.later⟩

/-- The loop cuts what its segment has heard, and the frame behind it. -/
theorem Tracked.streamPieces (fuel : Nat) {pcm : Pcm} (tracked : Tracked earlier current history 0 session)
    (room : session.segmentReceivedSamples < settings.maxUtteranceSamples) (whole : Whole pcm)
    (enough : sampleCount pcm ≤ fuel) :
    ∃ done rest, cut (settings.maxUtteranceSamples * 2) (current ++ pcm) = done ++ [rest] ∧
      Tracked (earlier ++ done) rest (history ++ (session.streamPieces settings model.logged fuel pcm).1) 0
        (session.streamPieces settings model.logged fuel pcm).2 ∧
      (session.streamPieces settings model.logged fuel pcm).2.segmentReceivedSamples < settings.maxUtteranceSamples ∧
      ChainedFrom session.segmentId (session.streamPieces settings model.logged fuel pcm).1 := by
  have positive := settings.maxUtteranceSamples_pos
  have short := tracked.received
  induction fuel generalizing session pcm earlier current history with
  | zero =>
    obtain rfl := whole_empty whole (Nat.le_zero.mp enough)
    refine ⟨[],current,?_,?_,room,rfl,nofun⟩
    · rw [List.append_nil,cut_short (by omega)]
      rfl
    · rw [List.append_nil]
      exact (List.append_nil history).symm ▸ tracked
  | succ fuel ih =>
    by_cases none : sampleCount pcm = 0
    · rw [streamPieces_done model.logged none]
      obtain rfl := whole_empty whole none
      refine ⟨[],current,?_,?_,room,rfl,nofun⟩
      · rw [List.append_nil,cut_short (by omega)]
        rfl
      · rw [List.append_nil,List.append_nil]
        exact tracked
    rw [QwenVLLMStreamingSession.streamPieces,if_neg none]
    dsimp only
    generalize taking : min (sampleCount pcm) (settings.maxUtteranceSamples - session.segmentReceivedSamples) = taken
    obtain ⟨restWhole,takes,left⟩ := piece_whole whole (by omega : taken ≤ sampleCount pcm)
    have pieceWhole : Whole (pcm.take (taken * 2)) := by
      unfold Whole sampleCount at *
      rw [List.length_take]
      omega
    have split : pcm.take (taken * 2) ++ pcm.drop (taken * 2) = pcm := List.take_append_drop ..
    generalize pcm.take (taken * 2) = piece at takes split pieceWhole
    generalize pcm.drop (taken * 2) = rest at restWhole left split
    subst split
    have received : (session.streamPiece settings model.logged piece).2.segmentReceivedSamples =
        session.segmentReceivedSamples + taken := congrArg (session.segmentReceivedSamples + ·) takes
    have length : (current ++ piece).length = (session.segmentReceivedSamples + taken) * 2 := by
      unfold Whole sampleCount at *
      rw [List.length_append]
      omega
    have heard := tracked.streamPiece settings model pieceWhole
    by_cases full : (session.streamPiece settings model.logged piece).2.segmentReceivedSamples =
        settings.maxUtteranceSamples
    · -- The segment is full: its piece is complete, and the loop goes on in the next segment.
      rw [if_pos full]
      have told := (heard.finishActiveState model).snapshot model
        ((session.streamPiece settings model.logged piece).1.2 ||
          ((session.streamPiece settings model.logged piece).2.finishActiveState model.logged).1.2) true
      rw [zero_add] at told
      have fresh := told.startFreshSegment model
      obtain ⟨done,last,pieces,trackedLast,roomLast,chained⟩ := ih fresh positive restWhole (by omega) rfl
      refine ⟨(current ++ piece) :: done,last,?_,?_,roomLast,?_⟩
      · rw [← List.append_assoc,cut_full (by omega) (by omega),← List.nil_append rest,pieces]
        rfl
      · rw [List.append_assoc,List.append_assoc] at trackedLast
        exact trackedLast
      · exact chained.cons rfl rfl
    · -- The frame ends within the segment.
      rw [if_neg full]
      obtain rfl := whole_empty restWhole (by omega)
      rw [streamPieces_done model.logged rfl]
      have told := heard.snapshot model (session.streamPiece settings model.logged piece).1.2 false
      rw [zero_add] at told
      refine ⟨[],current ++ piece,?_,?_,by dsimp only; omega,.one _⟩
      · rw [List.append_nil,cut_short (by omega)]
        rfl
      · rw [List.append_nil]
        exact told

theorem Tracked.addPcmS16le {pcm : Pcm} (tracked : Tracked earlier current history 0 session)
    (room : session.segmentReceivedSamples < settings.maxUtteranceSamples) (whole : Whole pcm)
    (fits : pcm.length ≤ settings.maxFrameBytes) :
    ∃ snapshots next done rest, session.addPcmS16le settings model.logged pcm = .ok (snapshots,next) ∧
      cut (settings.maxUtteranceSamples * 2) (current ++ pcm) = done ++ [rest] ∧
      Tracked (earlier ++ done) rest (history ++ snapshots) 0 next ∧
      next.segmentReceivedSamples < settings.maxUtteranceSamples ∧ ChainedFrom session.segmentId snapshots := by
  have covered := settings.watchdog_covers room fits
  rw [QwenVLLMStreamingSession.addPcmS16le,if_neg (by simp [tracked.opened]),if_neg (by omega)]
  by_cases none : pcm = []
  · subst none
    have short := tracked.received
    refine ⟨_,_,[],current,if_pos rfl,?_,?_,room,.one _⟩
    · rw [List.append_nil,cut_short (by omega)]
      rfl
    · rw [List.append_nil]
      exact tracked.snapshot model false false
  · have some : ¬sampleCount pcm = 0 := fun empty => none (whole_empty whole empty)
    obtain ⟨done,rest,pieces,trackedNext,roomNext,chained⟩ := tracked.streamPieces settings model
      (sampleCount pcm) room whole (Nat.le_refl _)
    refine ⟨_,_,done,rest,?_,pieces,trackedNext,roomNext,chained⟩
    rw [if_neg none,if_neg (by omega),if_neg some]

theorem Tracked.finishSegment (tracked : Tracked earlier current history 0 session) :
    ∃ snapshot next, session.finishSegment model.logged = .ok (snapshot,next) ∧
      Tracked (earlier ++ [current]) [] (history ++ [snapshot]) 0 next ∧ next.segmentReceivedSamples = 0 := by
  have told := (tracked.finishActiveState model).snapshot model
    (session.finishActiveState model.logged).1.2 true
  rw [zero_add] at told
  refine ⟨_,_,?_,told.startFreshSegment model,rfl⟩
  rw [QwenVLLMStreamingSession.finishSegment,if_neg (by simp [tracked.opened])]

end QwenVLLMStreamingSession

/-! ## Every run -/

section
variable {settings : StreamSettings} {model : StreamingModel S}
open QwenVLLMStreamingSession

/-- `added` is the audio since the last call of `finish_segment`, of which the running segment
    has heard the end. -/
theorem runCalls_tracked (calls : List (SessionCall S)) {before done : List Pcm} {added current : Pcm}
    {history : List StreamingTranscriptionResult} {session : QwenVLLMStreamingSession (S × List ModelCall)}
    (tracked : Tracked (before ++ done) current history 0 session)
    (room : session.segmentReceivedSamples < settings.maxUtteranceSamples)
    (cuts : cut (settings.maxUtteranceSamples * 2) added = done ++ [current])
    (accepted : ∀ pcm ∈ SessionCall.frames calls, Whole pcm ∧ pcm.length ≤ settings.maxFrameBytes) :
    ∃ replies last earlier running, runCalls settings model.logged (calls.map .logged) session = .ok (replies,last) ∧
      Tracked earlier running (history ++ replies.flatten) 0 last ∧
      last.segmentReceivedSamples < settings.maxUtteranceSamples ∧
      before ++ (SessionCall.groups added calls).flatMap (cut (settings.maxUtteranceSamples * 2)) = earlier ++ [running] ∧
      ∀ chain ∈ replies, ∃ first, ChainedFrom first chain := by
  have positive := settings.maxUtteranceSamples_pos
  induction calls generalizing before done added current history session with
  | nil =>
    refine ⟨[],session,before ++ done,current,rfl,?_,room,?_,nofun⟩
    · simpa using tracked
    · simp [SessionCall.groups,cuts]
  | cons call calls ih =>
    cases call with
    | addPcm pcm =>
      obtain ⟨whole,fits⟩ := accepted pcm (List.mem_cons_self ..)
      obtain ⟨snapshots,next,more,rest,answered,pieces,trackedNext,roomNext,chained⟩ :=
        tracked.addPcmS16le settings model room whole fits
      rw [List.append_assoc] at trackedNext
      have cutsNext := (cut_append (by omega) cuts pcm).trans (congrArg (done ++ ·) pieces)
      rw [← List.append_assoc] at cutsNext
      obtain ⟨replies,last,earlier,running,ran,trackedLast,roomLast,parts,chains⟩ := ih trackedNext roomNext cutsNext
        fun each inside => accepted each (List.mem_cons_of_mem _ inside)
      refine ⟨snapshots :: replies,last,earlier,running,?_,?_,roomLast,parts,?_⟩
      · show (session.addPcmS16le settings model.logged pcm >>= _) = _
        rw [answered]
        show (runCalls settings model.logged _ next >>= _) = _
        rw [ran]
        rfl
      · rw [List.flatten_cons,← List.append_assoc]
        exact trackedLast
      · exact List.forall_mem_cons.mpr ⟨⟨_,chained⟩,chains⟩
    | finishSegment =>
      obtain ⟨snapshot,next,answered,trackedNext,none⟩ := tracked.finishSegment model
      rw [← List.append_nil (_ ++ [current])] at trackedNext
      have cutsNext : cut (settings.maxUtteranceSamples * 2) ([] : Pcm) = [] ++ [[]] := cut_short (by simpa using positive)
      obtain ⟨replies,last,earlier,running,ran,trackedLast,roomLast,parts,chains⟩ := ih trackedNext (by omega) cutsNext accepted
      refine ⟨[snapshot] :: replies,last,earlier,running,?_,?_,roomLast,?_,?_⟩
      · show ((session.finishSegment model.logged >>= _) >>= _) = _
        rw [answered]
        show (runCalls settings model.logged _ next >>= _) = _
        rw [ran]
        rfl
      · rw [List.flatten_cons,← List.append_assoc]
        exact trackedLast
      · rw [← parts,SessionCall.groups,List.flatMap_cons,cuts]
        simp only [List.append_assoc]
      · exact List.forall_mem_cons.mpr ⟨⟨_,.one snapshot⟩,chains⟩
    | update change =>
      obtain ⟨replies,last,earlier,running,ran,trackedLast,roomLast,parts,chains⟩ := ih (tracked.update change) room cuts accepted
      refine ⟨[] :: replies,last,earlier,running,?_,trackedLast,roomLast,parts,?_⟩
      · show (runCalls settings model.logged _ _ >>= _) = _
        rw [ran]
        rfl
      · exact List.forall_mem_cons.mpr ⟨⟨0,rfl,nofun⟩,chains⟩

/-- A session behind a run of calls, their replies, and the calls that reached its model. -/
structure Split (settings : StreamSettings) (model : StreamingModel S) (calls : List (SessionCall S))
    (replies : List (List StreamingTranscriptionResult)) (log : List ModelCall) (last : QwenVLLMStreamingSession S) : Prop where
  /-- The model is passed the frames. -/
  passed : (pieces log).flatten = (SessionCall.frames calls).flatten
  /-- Its states hear the audio between two calls of `finish_segment`, cut at the longest utterance. -/
  fresh : heardBy log = (SessionCall.groups [] calls).flatMap (cut (settings.maxUtteranceSamples * 2))
  room : last.segmentReceivedSamples < settings.maxUtteranceSamples
  chained : ∀ chain ∈ replies, ∃ first, ChainedFrom first chain
  decoded : ∀ id, decodedOf id replies.flatten ≤ sampleCount ((heardBy log).getD id [])
  /-- Whatever whole frame comes next, its loop ends and no watchdog refuses it. -/
  terminates : ∀ pcm, Whole pcm → pcm.length ≤ settings.maxFrameBytes → ∃ snapshots next,
    last.addPcmS16le settings model pcm = .ok (snapshots,next) ∧ (pcm ≠ [] → SplitLoop settings model last pcm snapshots next)

/-- Whatever the frames, the ends of segments and the changes of the model are, the session splits
    its audio. -/
theorem segments_split (calls : List (SessionCall S))
    (accepted : ∀ pcm ∈ SessionCall.frames calls, Whole pcm ∧ pcm.length ≤ settings.maxFrameBytes) :
    ∃ replies log last, runCalls settings model calls { state := model.start } = .ok (replies,last) ∧
      runCalls settings model.logged (calls.map .logged) { state := model.logged.start } =
        .ok (replies,{ last with state := (last.state,log) }) ∧
      Split settings model calls replies log last := by
  have positive := settings.maxUtteranceSamples_pos
  have opened : Tracked ([] ++ []) [] [] 0 ({ state := model.logged.start } : QwenVLLMStreamingSession (S × List ModelCall)) :=
    ⟨rfl,⟨[],rfl,rfl⟩,rfl,rfl,Int.le_refl 0,rfl,nofun,nofun⟩
  obtain ⟨replies,last,earlier,running,ran,tracked,room,parts,chained⟩ := runCalls_tracked calls opened positive
    (cut_short (by simpa using positive)) accepted
  obtain ⟨log,called,heard⟩ := tracked.heard
  have hears : heardBy last.state.2 = earlier ++ [running] := by rw [called,heardBy,heard]
  have fresh : heardBy last.state.2 = (SessionCall.groups [] calls).flatMap (cut (settings.maxUtteranceSamples * 2)) := by
    rw [hears,← parts,List.nil_append]
  refine ⟨replies,last.state.2,last.plain,?_,ran,⟨?_,fresh,room,chained,?_,?_⟩⟩
  · have plain : runCalls settings model calls { state := model.start } = _ := runCalls_plain calls { state := model.logged.start }
    rw [ran] at plain
    exact plain
  · have flat : (heardBy last.state.2).flatten = (SessionCall.groups [] calls).flatten := by
      rw [fresh,List.flatMap_def,List.flatten_flatten,List.map_map]
      congr 1
      exact (List.map_congr_left fun group _ => flatten_cut group).trans (List.map_id _)
    rw [called,flatten_heardBy,SessionCall.flatten_groups,List.nil_append] at flat
    rw [called]
    exact flat
  · intro id
    rw [hears]
    exact tracked.decoded id
  · intro pcm whole fits
    have covered := settings.watchdog_covers room fits
    have unlocked : ¬last.plain.closed = true := by simp [plain,tracked.opened]
    rw [QwenVLLMStreamingSession.addPcmS16le,if_neg unlocked,if_neg (by omega)]
    by_cases none : pcm = []
    · exact ⟨_,_,if_pos none,fun some => absurd none some⟩
    · have some : ¬sampleCount pcm = 0 := fun empty => none (whole_empty whole empty)
      refine ⟨_,_,?_,fun _ => streamPieces_loop model (sampleCount pcm) room (Nat.le_refl _)⟩
      rw [if_neg none]
      exact (if_neg (Nat.not_lt.mpr covered)).trans (if_neg some)

/-- The second frame runs from one segment into the next. -/
theorem segments_split_rolling : ∃ replies log last,
    runCalls shortSegments letterModel [.addPcm [1,0,2,0],.addPcm [3,0,4,0],.update (· + 1),.finishSegment,.addPcm []]
      { state := letterModel.start } = .ok (replies,last) ∧
    runCalls shortSegments letterModel.logged
      ([.addPcm [1,0,2,0],.addPcm [3,0,4,0],.update (· + 1),.finishSegment,.addPcm []].map .logged)
      { state := letterModel.logged.start } = .ok (replies,{ last with state := (last.state,log) }) ∧
    Split shortSegments letterModel [.addPcm [1,0,2,0],.addPcm [3,0,4,0],.update (· + 1),.finishSegment,.addPcm []]
      replies log last :=
  segments_split _ fun pcm inside => by
    simp only [SessionCall.frames,List.mem_cons,List.not_mem_nil,or_false] at inside
    rcases inside with rfl | rfl | rfl <;> exact ⟨rfl,by decide⟩

end

end SpeechGateway.Stateful
