import SpeechGateway.Machine
import SpeechGateway.Splitting

/-!
How far a stream is behind. The controller keeps the frames that the model has not decoded yet in
a queue and takes decoded samples off its front, while the session counts the undecoded samples of
its segment. Behind every observation both agree, over all frames and rollovers, and nothing is
left behind the end of a segment (`backlog_agrees`). Every stream of the controller is observed so
(`stream_observed`).
-/
namespace SpeechGateway.Stateful
open SpeechGateway.Cutting SpeechGateway.Streaming SpeechGateway.Vad Programs

/-- The settings that bound the lag. -/
structure LagLimits where
  maxConnectionLagSeconds : Time
  maxUndecodedAgeSeconds : Time

/-- An entry of `_undecoded_batches`. The last two fields are read by no code: the samples of the
    frame are those of the stream from `start` to `stop`. -/
structure UndecodedBatch where
  samples : Nat
  submittedAt : Time
  modelWorkSeconds : Time
  start : Nat
  stop : Nat
  deriving DecidableEq, Repr

/-- What the controller keeps of the progress. The last field is read by no code: the samples that
    were submitted. -/
structure StreamProgress where
  processingDebtSeconds : Time := 0
  oldestUndecodedAgeSeconds : Time := 0
  sustainedDecodedLagSeconds : Time := 0
  modelWorkSeconds : Time := 0
  undecodedBatches : List UndecodedBatch := []
  lagErrorSent : Bool := false
  submitted : Nat := 0
  deriving DecidableEq, Repr

/-- The times that the coordinator writes on a result, and the clock behind it. -/
structure OperationTimes where
  queueWaitSeconds : Time
  inferenceSeconds : Time
  now : Time

/-- `total_decoded_samples_delta`; every snapshot of a session has a delta. -/
def totalDecodedSamplesDelta (snapshots : List StreamingTranscriptionResult) : Int :=
  (snapshots.map (·.decodedSamplesDelta)).sum

/-- The loop that takes decoded samples off the front of the batches. A batch that keeps samples
    ends it, since nothing remains to be taken. -/
def takeDecoded : Nat → List UndecodedBatch → List UndecodedBatch
  | _, [] => []
  | remainingDecoded, batch :: rest =>
    if remainingDecoded = 0 then batch :: rest else
    let consumed := min remainingDecoded batch.samples
    let left := { batch with samples := batch.samples - consumed }
    if left.samples = 0 then takeDecoded (remainingDecoded - consumed) rest else left :: rest

/-- The age of a batch, on the clock and in work of the model. -/
def UndecodedBatch.age (batch : UndecodedBatch) (now modelWorkSeconds : Time) : Time :=
  max 0 (max (now - batch.submittedAt) (modelWorkSeconds - batch.modelWorkSeconds))

namespace StreamProgress

/-- The age of the oldest batch. -/
def oldestAge (batches : List UndecodedBatch) (now modelWorkSeconds : Time) : Time :=
  match batches with
  | [] => 0
  | oldest :: _ => oldest.age now modelWorkSeconds

/-- The submitted samples join the batches. -/
def submit (progress : StreamProgress) (submittedSamples : Nat) (now : Time) : StreamProgress :=
  if submittedSamples = 0 then progress else
  { progress with
    undecodedBatches := progress.undecodedBatches ++
      [⟨submittedSamples,now,progress.modelWorkSeconds,progress.submitted,progress.submitted + submittedSamples⟩]
    submitted := progress.submitted + submittedSamples }

/-- `_observe_stream_progress`: whether the stream is too late, told only once. -/
def observe (limits : LagLimits) (progress : StreamProgress) (snapshots : List StreamingTranscriptionResult)
    (submittedSamples : Nat) (times : OperationTimes) : Bool × StreamProgress :=
  let progress := progress.submit submittedSamples times.now
  let processingSeconds := max 0 times.queueWaitSeconds + max 0 times.inferenceSeconds
  let modelWorkSeconds := progress.modelWorkSeconds + processingSeconds
  let decodedSamples := totalDecodedSamplesDelta snapshots
  let decodedSeconds : Time := (max 0 decodedSamples : Int) / 16000
  let processingDebtSeconds := max 0 (progress.processingDebtSeconds + processingSeconds - decodedSeconds)
  let sustainedDecodedLagSeconds :=
    if 0 < decodedSamples then max 0 (progress.sustainedDecodedLagSeconds + processingSeconds - decodedSeconds)
    else progress.sustainedDecodedLagSeconds
  let oldestAgeDuringCall := oldestAge progress.undecodedBatches times.now modelWorkSeconds
  let undecodedBatches := takeDecoded (max 0 decodedSamples).toNat progress.undecodedBatches
  let oldestUndecodedAgeSeconds := oldestAge undecodedBatches times.now modelWorkSeconds
  let pendingAudioTooOld := limits.maxUndecodedAgeSeconds < max oldestAgeDuringCall oldestUndecodedAgeSeconds
  let decodedWorkIsSustainedSlow := limits.maxConnectionLagSeconds < sustainedDecodedLagSeconds
  let exceeded := limits.maxConnectionLagSeconds < processingDebtSeconds ∧ (pendingAudioTooOld ∨ decodedWorkIsSustainedSlow)
  let next : StreamProgress :=
    { processingDebtSeconds,oldestUndecodedAgeSeconds,sustainedDecodedLagSeconds,modelWorkSeconds,undecodedBatches
      lagErrorSent := progress.lagErrorSent, submitted := progress.submitted }
  if ¬ exceeded ∨ progress.lagErrorSent then (false,next) else (true,{ next with lagErrorSent := true })

end StreamProgress

/-- The operations that the controller has its session do: `_add_model_audio`, `reset_segment` and
    `finish`. -/
inductive ModelOperation
  | addAudio (pcm : Pcm)
  | finishSegment
  | finish
  deriving DecidableEq, Repr

namespace ModelOperation

/-- What the session answers. -/
def answer {S : Type} (settings : StreamSettings) (model : StreamingModel S) (session : QwenVLLMStreamingSession S) :
    ModelOperation → Except PyError (List StreamingTranscriptionResult × QwenVLLMStreamingSession S)
  | .addAudio pcm => session.addPcmS16le settings model pcm
  | .finishSegment => do
    let (snapshot,next) ← session.finishSegment model
    return ([snapshot],next)
  | .finish => do
    let (snapshot,next) ← session.finish model
    return ([snapshot],next)

def submittedSamples : ModelOperation → Nat
  | .addAudio pcm => sampleCount pcm
  | _ => 0

end ModelOperation

/-- A session and its progress as the controller sees it. A stream that is told to be late fails. -/
structure ObservedStream (S : Type) where
  session : QwenVLLMStreamingSession S
  progress : StreamProgress := {}
  late : Bool := false
  deriving DecidableEq, Repr

/-- An operation that does not fail, and the observation behind it. -/
def ObservedStream.step {S : Type} (settings : StreamSettings) (limits : LagLimits) (model : StreamingModel S)
    (stream : ObservedStream S) (action : ModelOperation × OperationTimes) : Option (ObservedStream S) :=
  if stream.late then none else
  match action.1.answer settings model stream.session with
  | .error _ => none
  | .ok (snapshots,session) =>
    let (late,progress) := stream.progress.observe limits snapshots action.1.submittedSamples action.2
    some ⟨session,progress,late⟩

/-- The batches hold the samples of the stream from `first` to `last`, in order. -/
def Covers : Nat → List UndecodedBatch → Nat → Prop
  | first, [], last => first = last
  | first, batch :: rest, last =>
    batch.start ≤ first ∧ first < batch.stop ∧ batch.samples = batch.stop - first ∧ Covers batch.stop rest last

theorem Covers.le {first last : Nat} {batches : List UndecodedBatch} (covers : Covers first batches last) : first ≤ last := by
  induction batches generalizing first with
  | nil => exact Nat.le_of_eq covers
  | cons batch rest ih =>
    obtain ⟨_,inside,_,later⟩ := covers
    have behind := ih later
    omega

theorem Covers.sum {first last : Nat} {batches : List UndecodedBatch} (covers : Covers first batches last) :
    (batches.map (·.samples)).sum = last - first := by
  induction batches generalizing first with
  | nil =>
    have same : first = last := covers
    simp [same]
  | cons batch rest ih =>
    obtain ⟨_,inside,count,later⟩ := covers
    have behind := later.le
    rw [List.map_cons,List.sum_cons,ih later,count]
    omega

theorem Covers.empty {first : Nat} {batches : List UndecodedBatch} (covers : Covers first batches first) : batches = [] := by
  cases batches with
  | nil => rfl
  | cons batch rest =>
    obtain ⟨_,inside,_,later⟩ := covers
    have behind := later.le
    omega

theorem Covers.append {first last count : Nat} {batches : List UndecodedBatch} (covers : Covers first batches last)
    (some : 0 < count) (now work : Time) : Covers first (batches ++ [⟨count,now,work,last,last + count⟩]) (last + count) := by
  induction batches generalizing first with
  | nil =>
    have same : first = last := covers
    subst same
    exact ⟨Nat.le_refl _,by simpa using some,by simp,rfl⟩
  | cons batch rest ih =>
    obtain ⟨starts,inside,held,later⟩ := covers
    exact ⟨starts,inside,held,ih later⟩

/-- Taken samples are the oldest. -/
theorem takeDecoded_covers (count : Nat) {first last : Nat} {batches : List UndecodedBatch}
    (covers : Covers first batches last) (enough : first + count ≤ last) :
    Covers (first + count) (takeDecoded count batches) last := by
  induction batches generalizing first count with
  | nil =>
    have same : first = last := covers
    show first + count = last
    omega
  | cons batch rest ih =>
    obtain ⟨starts,inside,held,later⟩ := covers
    rw [takeDecoded]
    by_cases none : count = 0
    · rw [if_pos none,none]
      exact ⟨starts,inside,held,later⟩
    · rw [if_neg none]
      dsimp only
      by_cases gone : batch.samples - min count batch.samples = 0
      · rw [if_pos gone]
        have onward := ih (count - min count batch.samples) later (by omega)
        rwa [show batch.stop + (count - min count batch.samples) = first + count by omega] at onward
      · rw [if_neg gone]
        exact ⟨by dsimp only; omega,by dsimp only; omega,by dsimp only; omega,later⟩

section
variable {S : Type}

/-- The sessions that pieces of audio and rollovers lead to. -/
inductive Reached (settings : StreamSettings) (model : StreamingModel S) : QwenVLLMStreamingSession S → Prop
  | created : Reached settings model { state := model.start }
  | piece {session : QwenVLLMStreamingSession S} (reached : Reached settings model session) (pcm : Pcm) :
      Reached settings model (session.streamPiece settings model pcm).2
  | ended {session : QwenVLLMStreamingSession S} (reached : Reached settings model session) :
      Reached settings model ((session.finishActiveState model).2.startFreshSegment model)

/-- The chunk counter of a state does not decrease, chunks have samples, and the end of the audio
    changes the counter or the text where samples are undecoded. -/
structure Decodes (settings : StreamSettings) (model : StreamingModel S) : Prop where
  counts : ∀ pcm state, model.chunkId state ≤ model.chunkId (model.transcribe pcm state)
  countsOn : ∀ state, model.chunkId state ≤ model.chunkId (model.finish state)
  chunkPositive : ∀ state, 0 < (model.chunkSizeSamples state).getD settings.chunkSamples
  flushes : ∀ session, Reached settings model session → 0 < session.undecodedSamples →
    model.chunkId (model.finish session.state) ≠ model.chunkId session.state ∨
      model.text (model.finish session.state) ≠ model.text session.state

section
variable {settings : StreamSettings} {model : StreamingModel S} {session : QwenVLLMStreamingSession S}

/-- A piece adds its samples to the undecoded ones and takes the decoded ones off. -/
theorem streamPiece_counts (decodes : Decodes settings model) (pcm : Pcm) (owed : 0 ≤ session.undecodedSamples) :
    0 ≤ (session.streamPiece settings model pcm).1.1 ∧ 0 ≤ (session.streamPiece settings model pcm).2.undecodedSamples ∧
      (session.streamPiece settings model pcm).1.1 + (session.streamPiece settings model pcm).2.undecodedSamples =
        session.undecodedSamples + sampleCount pcm := by
  simp only [QwenVLLMStreamingSession.streamPiece,QwenVLLMStreamingSession.decodeProgress]
  generalize stateIs : model.transcribe pcm session.state = state
  have positive := decodes.chunkPositive state
  have some : 0 ≤ max 0 (model.chunkId state - model.chunkId session.state) *
      (model.chunkSizeSamples state).getD settings.chunkSamples :=
    Int.mul_nonneg (Int.le_max_left ..) (Int.le_of_lt positive)
  generalize max 0 (model.chunkId state - model.chunkId session.state) *
    (model.chunkSizeSamples state).getD settings.chunkSamples = decoded at *
  omega

theorem Reached.owed (decodes : Decodes settings model) (reached : Reached settings model session) :
    0 ≤ session.undecodedSamples := by
  induction reached with
  | created => exact Int.le_refl 0
  | piece _ pcm ih => exact (streamPiece_counts decodes pcm ih).2.1
  | ended _ _ => exact Int.le_refl 0

/-- The end of the audio flushes what is undecoded. -/
theorem finishActiveState_flushes (decodes : Decodes settings model) (reached : Reached settings model session) :
    (session.finishActiveState model).1.1 = session.undecodedSamples ∧
      (session.finishActiveState model).2.undecodedSamples = 0 := by
  have owed := reached.owed decodes
  simp only [QwenVLLMStreamingSession.finishActiveState]
  by_cases none : session.undecodedSamples = 0
  · simp [none]
  · have updated : (decide (model.chunkId session.state < model.chunkId (model.finish session.state)) ||
        decide (model.text (model.finish session.state) ≠ model.text session.state)) = true := by
      have grows := decodes.countsOn session.state
      rcases decodes.flushes session reached (by omega) with counter | text
      · simp [show model.chunkId session.state < model.chunkId (model.finish session.state) by omega]
      · simp [text]
    simp only [updated,if_true,Int.sub_self,and_self]

/-- A piece of the loop. -/
theorem piece_counts (decodes : Decodes settings model) (reached : Reached settings model session) {pcm : Pcm} {taken : Nat}
    (fits : taken ≤ sampleCount pcm) {progress : Int × Bool} {received : QwenVLLMStreamingSession S}
    (passed : session.streamPiece settings model (pcm.take (taken * 2)) = (progress,received)) :
    Reached settings model received ∧ received.closed = session.closed ∧
      received.segmentReceivedSamples = session.segmentReceivedSamples + taken ∧ 0 ≤ progress.1 ∧
      progress.1 + received.undecodedSamples = session.undecodedSamples + taken ∧
      sampleCount received.heard = sampleCount session.heard + taken := by
  obtain ⟨nonneg,_,adds⟩ := streamPiece_counts decodes (pcm.take (taken * 2)) (reached.owed decodes)
  have next := reached.piece (pcm.take (taken * 2))
  have count : sampleCount (pcm.take (taken * 2)) = taken := by
    unfold sampleCount at *
    rw [List.length_take]
    omega
  have own : (session.streamPiece settings model (pcm.take (taken * 2))).2.closed = session.closed := rfl
  have got : (session.streamPiece settings model (pcm.take (taken * 2))).2.segmentReceivedSamples =
      session.segmentReceivedSamples + sampleCount (pcm.take (taken * 2)) := rfl
  have heard : (session.streamPiece settings model (pcm.take (taken * 2))).2.heard =
      session.heard ++ pcm.take (taken * 2) := rfl
  rw [passed] at nonneg adds next own got heard
  rw [count] at adds got
  refine ⟨next,own,got,nonneg,adds,?_⟩
  rw [heard]
  unfold sampleCount at *
  rw [List.length_append,List.length_take]
  omega

theorem drop_samples (pcm : Pcm) (taken : Nat) : sampleCount (pcm.drop (taken * 2)) = sampleCount pcm - taken := by
  unfold sampleCount
  rw [List.length_drop]
  omega

/-- What a session counts over a row of snapshots. -/
structure Counts (settings : StreamSettings) (model : StreamingModel S) (session last : QwenVLLMStreamingSession S)
    (snapshots : List StreamingTranscriptionResult) (samples : Nat) : Prop where
  reached : Reached settings model last
  room : last.segmentReceivedSamples < settings.maxUtteranceSamples
  same : last.closed = session.closed
  nonneg : 0 ≤ totalDecodedSamplesDelta snapshots
  adds : totalDecodedSamplesDelta snapshots + last.undecodedSamples = session.undecodedSamples + samples
  hears : sampleCount last.heard = sampleCount session.heard + samples

/-- What the loop of `add_pcm_s16le` decodes, flushes and leaves adds up. -/
theorem splitLoop_counts (decodes : Decodes settings model) {pcm : Pcm} {snapshots : List StreamingTranscriptionResult}
    {last : QwenVLLMStreamingSession S} (loop : QwenVLLMStreamingSession.SplitLoop settings model session pcm snapshots last)
    (reached : Reached settings model session) (room : session.segmentReceivedSamples < settings.maxUtteranceSamples) :
    Counts settings model session last snapshots (sampleCount pcm) := by
  induction loop with
  | done none => exact ⟨reached,room,rfl,Int.le_refl 0,by simp [totalDecodedSamplesDelta,none],by rw [none]; rfl⟩
  | @rolled session received active last pcm taken progress flushed later some takes passed full flush _ ih =>
    have fits : taken ≤ sampleCount pcm := by omega
    obtain ⟨next,own,_,nonneg,adds,hears⟩ := piece_counts decodes reached fits passed
    have flushes := finishActiveState_flushes decodes next
    have fresh := next.ended
    have silent : (received.finishActiveState model).2.heard = received.heard ∧
        (received.finishActiveState model).2.closed = received.closed := ⟨rfl,rfl⟩
    rw [flush] at flushes fresh silent
    have all : flushed.1 = received.undecodedSamples := flushes.1
    obtain ⟨reachedLast,roomLast,same,nonnegOn,addsOn,hearsOn⟩ := ih fresh settings.maxUtteranceSamples_pos
    have zero : (active.startFreshSegment model).undecodedSamples = 0 := rfl
    have kept : (active.startFreshSegment model).heard = active.heard := rfl
    rw [drop_samples] at addsOn hearsOn
    refine ⟨reachedLast,roomLast,same.trans (silent.2.trans own),?_,?_,?_⟩
    · have owed := next.owed decodes
      simp only [totalDecodedSamplesDelta,List.map_cons,List.sum_cons,QwenVLLMStreamingSession.snapshot] at nonnegOn ⊢
      omega
    · simp only [totalDecodedSamplesDelta,List.map_cons,List.sum_cons,QwenVLLMStreamingSession.snapshot] at addsOn ⊢
      omega
    · rw [hearsOn,kept,silent.1,hears]
      omega
  | @running session received last pcm taken progress later some takes passed unfull _ ih =>
    have fits : taken ≤ sampleCount pcm := by omega
    obtain ⟨next,own,got,nonneg,adds,hears⟩ := piece_counts decodes reached fits passed
    obtain ⟨reachedLast,roomLast,same,nonnegOn,addsOn,hearsOn⟩ := ih next (by omega)
    rw [drop_samples] at addsOn hearsOn
    refine ⟨reachedLast,roomLast,same.trans own,?_,?_,?_⟩
    · simp only [totalDecodedSamplesDelta,List.map_cons,List.sum_cons,QwenVLLMStreamingSession.snapshot] at nonnegOn ⊢
      omega
    · simp only [totalDecodedSamplesDelta,List.map_cons,List.sum_cons,QwenVLLMStreamingSession.snapshot] at addsOn ⊢
      omega
    · rw [hearsOn,hears]
      omega

/-- The session is open and its segment has room. -/
structure Live (settings : StreamSettings) (model : StreamingModel S) (session : QwenVLLMStreamingSession S) : Prop where
  opened : session.closed = false
  reached : Reached settings model session
  room : session.segmentReceivedSamples < settings.maxUtteranceSamples

theorem addPcmS16le_counts (decodes : Decodes settings model) (live : Live settings model session) {pcm : Pcm}
    {snapshots : List StreamingTranscriptionResult} {next : QwenVLLMStreamingSession S}
    (added : session.addPcmS16le settings model pcm = .ok (snapshots,next)) :
    Counts settings model session next snapshots (sampleCount pcm) := by
  rw [QwenVLLMStreamingSession.addPcmS16le,if_neg (by simp [live.opened])] at added
  by_cases long : settings.maxFrameBytes < pcm.length
  · rw [if_pos long] at added
    cases added
  rw [if_neg long] at added
  by_cases empty : pcm = []
  · rw [if_pos empty] at added
    cases added
    subst empty
    exact ⟨live.reached,live.room,rfl,Int.le_refl 0,
      by simp [totalDecodedSamplesDelta,QwenVLLMStreamingSession.snapshot,sampleCount],by simp [sampleCount]⟩
  rw [if_neg empty] at added
  split_ifs at added with watched none
  have loop := QwenVLLMStreamingSession.streamPieces_loop model (sampleCount pcm) live.room (Nat.le_refl _)
  rw [Except.ok.inj added] at loop
  exact splitLoop_counts decodes loop live.reached live.room

end

/-! ## Runs -/

section
variable {settings : StreamSettings} {limits : LagLimits} {model : StreamingModel S}

/-- The batches hold the undecoded samples of the stream. -/
def Agrees (stream : ObservedStream S) : Prop :=
  stream.progress.submitted = sampleCount stream.session.heard ∧
    ∃ first : Nat, (first : Int) = sampleCount stream.session.heard - stream.session.undecodedSamples ∧
      Covers first stream.progress.undecodedBatches (sampleCount stream.session.heard)

/-- The batches hold what the session has not decoded. -/
theorem Agrees.sum {stream : ObservedStream S} (agrees : Agrees stream) :
    (((stream.progress.undecodedBatches.map (·.samples)).sum : Nat) : Int) = stream.session.undecodedSamples := by
  obtain ⟨_,first,oldest,covers⟩ := agrees
  have behind := covers.le
  rw [covers.sum]
  omega

theorem created_agrees (model : StreamingModel S) : Agrees (S := S) ⟨{ state := model.start },{},false⟩ := by
  have silent : sampleCount ([] : Pcm) = 0 := rfl
  refine ⟨silent.symm,0,?_,silent.symm⟩
  show (0 : Int) = sampleCount [] - 0
  rw [silent]
  rfl

/-- What an observation does to the batches. -/
theorem observe_batches (limits : LagLimits) (progress : StreamProgress) (snapshots : List StreamingTranscriptionResult) (samples : Nat)
    (times : OperationTimes) :
    (progress.observe limits snapshots samples times).2.undecodedBatches =
        takeDecoded (max 0 (totalDecodedSamplesDelta snapshots)).toNat (progress.submit samples times.now).undecodedBatches ∧
      (progress.observe limits snapshots samples times).2.submitted = progress.submitted + samples := by
  have submitted : (progress.submit samples times.now).submitted = progress.submitted + samples := by
    unfold StreamProgress.submit
    split_ifs with none
    · rw [none]
      rfl
    · rfl
  unfold StreamProgress.observe
  dsimp only
  split_ifs <;> exact ⟨rfl,submitted⟩

/-- An observation behind an operation that counts right. -/
theorem Agrees.observe {stream : ObservedStream S} (agrees : Agrees stream) {next : QwenVLLMStreamingSession S}
    {snapshots : List StreamingTranscriptionResult} {samples : Nat} (times : OperationTimes) (late : Bool)
    (owed : 0 ≤ next.undecodedSamples) (nonneg : 0 ≤ totalDecodedSamplesDelta snapshots)
    (adds : totalDecodedSamplesDelta snapshots + next.undecodedSamples = stream.session.undecodedSamples + samples)
    (hears : sampleCount next.heard = sampleCount stream.session.heard + samples) :
    Agrees ⟨next,(stream.progress.observe limits snapshots samples times).2,late⟩ := by
  obtain ⟨submitted,first,oldest,covers⟩ := agrees
  obtain ⟨batches,counted⟩ := observe_batches limits stream.progress snapshots samples times
  have grown : Covers first (stream.progress.submit samples times.now).undecodedBatches
      (sampleCount stream.session.heard + samples) := by
    unfold StreamProgress.submit
    split_ifs with none
    · rwa [none]
    · rw [submitted]
      exact covers.append (Nat.pos_of_ne_zero none) times.now stream.progress.modelWorkSeconds
  refine ⟨by rw [counted,submitted,hears],first + (max 0 (totalDecodedSamplesDelta snapshots)).toNat,?_,?_⟩
  · dsimp only
    rw [hears]
    push_cast
    omega
  · show Covers _ (stream.progress.observe limits snapshots samples times).2.undecodedBatches (sampleCount next.heard)
    rw [batches,hears]
    exact takeDecoded_covers _ grown (by omega)

/-- The operations at an open session. -/
theorem answer_counts (decodes : Decodes settings model) {session next : QwenVLLMStreamingSession S} (live : Live settings model session)
    {operation : ModelOperation} {snapshots : List StreamingTranscriptionResult}
    (answered : operation.answer settings model session = .ok (snapshots,next)) :
    (next.closed = false → Live settings model next) ∧ 0 ≤ next.undecodedSamples ∧ 0 ≤ totalDecodedSamplesDelta snapshots ∧
      totalDecodedSamplesDelta snapshots + next.undecodedSamples = session.undecodedSamples + operation.submittedSamples ∧
      sampleCount next.heard = sampleCount session.heard + operation.submittedSamples ∧
      (operation = .finishSegment ∨ operation = .finish → next.undecodedSamples = 0) := by
  have owed := live.reached.owed decodes
  have flushes := finishActiveState_flushes decodes live.reached
  cases operation with
  | addAudio pcm =>
    obtain ⟨reached,room,same,nonneg,adds,hears⟩ := addPcmS16le_counts decodes live answered
    exact ⟨fun opened => ⟨opened,reached,room⟩,reached.owed decodes,nonneg,adds,hears,by simp⟩
  | finishSegment =>
    simp only [ModelOperation.answer,QwenVLLMStreamingSession.finishSegment,live.opened,Bool.false_eq_true,if_false] at answered
    cases answered
    refine ⟨fun opened => ⟨opened,live.reached.ended,settings.maxUtteranceSamples_pos⟩,Int.le_refl 0,?_,?_,rfl,fun _ => rfl⟩
    · simpa [totalDecodedSamplesDelta,QwenVLLMStreamingSession.snapshot,flushes.1] using owed
    · simpa [totalDecodedSamplesDelta,QwenVLLMStreamingSession.snapshot,ModelOperation.submittedSamples,
        QwenVLLMStreamingSession.startFreshSegment] using flushes.1
  | finish =>
    simp only [ModelOperation.answer,QwenVLLMStreamingSession.finish,live.opened,Bool.false_eq_true,if_false] at answered
    cases answered
    have none : (session.finishActiveState model).2.undecodedSamples = 0 := flushes.2
    refine ⟨fun opened => Bool.noConfusion opened,Int.le_of_eq none.symm,?_,?_,rfl,fun _ => none⟩
    · simpa [totalDecodedSamplesDelta,QwenVLLMStreamingSession.snapshot,flushes.1] using owed
    · simpa [totalDecodedSamplesDelta,QwenVLLMStreamingSession.snapshot,ModelOperation.submittedSamples,none] using flushes.1

/-- An operation and its observation. -/
theorem Agrees.step (decodes : Decodes settings model) {stream after : ObservedStream S} {action : ModelOperation × OperationTimes}
    (agrees : Agrees stream) (live : stream.session.closed = false → Live settings model stream.session)
    (stepped : stream.step settings limits model action = some after) :
    Agrees after ∧ (after.session.closed = false → Live settings model after.session) ∧
      (action.1 = .finishSegment ∨ action.1 = .finish → after.session.undecodedSamples = 0) := by
  unfold ObservedStream.step at stepped
  split_ifs at stepped
  split at stepped
  · cases stepped
  · rename_i snapshots session answered
    cases stepped
    have opened : stream.session.closed = false := by
      by_contra closed
      have shut : stream.session.closed = true := by simpa using closed
      rcases action with ⟨_ | _ | _,times⟩ <;>
        simp [ModelOperation.answer,QwenVLLMStreamingSession.addPcmS16le,QwenVLLMStreamingSession.finishSegment,
          QwenVLLMStreamingSession.finish,shut,bind,Except.bind] at answered
    obtain ⟨liveNext,owed,nonneg,adds,hears,none⟩ := answer_counts decodes (live opened) answered
    exact ⟨agrees.observe action.2 _ owed nonneg adds hears,liveNext,none⟩

/-- What every observation leaves. -/
theorem run_agrees (decodes : Decodes settings model) {actions : List (ModelOperation × OperationTimes)} {final : ObservedStream S}
    (ran : Machine.run (ObservedStream.step settings limits model) ⟨{ state := model.start },{},false⟩ actions = some final) :
    Agrees final ∧ (final.session.closed = false → Live settings model final.session) :=
  Machine.invariant _ (fun stream => Agrees stream ∧ (stream.session.closed = false → Live settings model stream.session))
    (fun _ _ _ holds stepped => ⟨(holds.1.step decodes holds.2 stepped).1,(holds.1.step decodes holds.2 stepped).2.1⟩)
    ⟨created_agrees model,fun opened => ⟨opened,.created,settings.maxUtteranceSamples_pos⟩⟩ ran

/-- Behind every observation the batches add up to the undecoded samples of the session, the first of
    them holds the oldest undecoded sample of the stream, and behind the end of a segment or of the
    stream there are none. -/
theorem backlog_agrees (settings : StreamSettings) (limits : LagLimits) (model : StreamingModel S)
    (decodes : Decodes settings model) (actions : List (ModelOperation × OperationTimes)) (final : ObservedStream S)
    (ran : Machine.run (ObservedStream.step settings limits model) ⟨{ state := model.start },{},false⟩ actions = some final) :
    (((final.progress.undecodedBatches.map (·.samples)).sum : Nat) : Int) = final.session.undecodedSamples ∧
      (∀ oldest, final.progress.undecodedBatches.head? = some oldest →
        (oldest.start : Int) ≤ sampleCount final.session.heard - final.session.undecodedSamples ∧
          sampleCount final.session.heard - final.session.undecodedSamples < (oldest.stop : Int)) ∧
      (∀ action, actions.getLast? = some action → action.1 = .finishSegment ∨ action.1 = .finish →
        final.progress.undecodedBatches = []) := by
  have agrees := (run_agrees decodes ran).1
  have sums := agrees.sum
  obtain ⟨_,first,oldest,covers⟩ := agrees
  refine ⟨sums,?_,?_⟩
  · intro batch head
    cases batches : final.progress.undecodedBatches with
    | nil => simp [batches] at head
    | cons batch' rest =>
      rw [batches] at head covers
      cases head
      obtain ⟨starts,inside,_⟩ := covers
      omega
  · intro action last ended
    rcases actions.eq_nil_or_concat with rfl | ⟨earlier,newest,rfl⟩
    · simp at last
    · rw [List.concat_eq_append] at last ran
      obtain rfl : newest = action := by simpa using last
      obtain ⟨middle,before,stepped⟩ := (Machine.run_snoc _).mp ran
      obtain ⟨agrees,live⟩ := run_agrees decodes before
      have none := (agrees.step decodes live stepped).2.2 ended
      obtain rfl : first = sampleCount final.session.heard := by omega
      exact covers.empty

end

end

/-! ## The controller does nothing else with its session -/

section
variable {S σ : Type} {chars : Alphabet} {settings : StreamSettings} {model : StreamingModel S} {backend : VADBackend σ}
  {inv : QwenVLLMStreamingSession S → Prop}

/-- What an operation keeps, if it does not fail. -/
def KeptByOperations (settings : StreamSettings) (model : StreamingModel S) (inv : QwenVLLMStreamingSession S → Prop) : Prop :=
  ∀ (operation : ModelOperation) (session next : QwenVLLMStreamingSession S) (snapshots : List StreamingTranscriptionResult),
    inv session → operation.answer settings model session = .ok (snapshots,next) → inv next

/-- Programs that leave the session as an invariant of its operations says. -/
abbrev KeepsSession {α : Type} (inv : QwenVLLMStreamingSession S → Prop) (program : Code S σ α) : Prop :=
  Keeps (fun controller : StreamingSessionController S σ => inv controller.session) program

theorem keeps_emit (change : StreamingTranscriptState → List TranscriptEvent × StreamingTranscriptState) :
    KeepsSession inv (emit change : Code S σ Unit) := fun _ holds => holds

theorem keeps_reporting {α : Type} (handler : PyError → Option Failure) {program : Code S σ α}
    (keeps : KeepsSession inv program) : KeepsSession inv (reporting handler program) := by
  refine keeps_tryCatch keeps fun exc => ?_
  split
  · exact keeps_bind (keeps_bind (keeps_emit _) fun _ => keeps_modify fun _ holds => holds) fun _ => keeps_throw _
  · exact keeps_throw _

theorem keeps_applyStreamResult (result : StreamingTranscriptionResult) :
    KeepsSession inv (applyStreamResult result : Code S σ Unit) :=
  keeps_bind keeps_get fun _ => keeps_bind (keeps_modify fun _ holds => holds) fun _ =>
    keeps_bind (keeps_ofExcept _) fun _ => keeps_modify fun _ holds => holds

theorem keeps_commitFinishedSegment : KeepsSession inv (commitFinishedSegment chars : Code S σ Unit) :=
  keeps_bind (keeps_emit _) fun _ => keeps_modify fun _ holds => holds

theorem keeps_applySnapshots (snapshots : List StreamingTranscriptionResult) :
    KeepsSession inv (applySnapshots chars snapshots : Code S σ Unit) := by
  induction snapshots with
  | nil => exact keeps_pure ()
  | cons snapshot rest ih =>
    exact keeps_bind (keeps_when fun _ => keeps_applyStreamResult snapshot) fun _ =>
      keeps_bind (keeps_when fun _ => keeps_commitFinishedSegment) fun _ => ih

theorem keeps_operate {α : Type} {call : QwenVLLMStreamingSession S → Except PyError (α × QwenVLLMStreamingSession S)}
    (kept : ∀ session next result, inv session → call session = .ok (result,next) → inv next) :
    KeepsSession inv (operate call : Code S σ α) := by
  intro controller holds
  simp only [operate,wp_bind,wp_get,wp_ofExcept,wp_modify,wp_pure]
  exact ⟨fun result called => kept _ result.2 result.1 holds called,fun _ _ => holds⟩

theorem keeps_hearing (call : StreamingVADEndpointDetector σ → Except PyError VADDecision × StreamingVADEndpointDetector σ) :
    KeepsSession (S := S) inv (hearing call) :=
  keeps_bind keeps_get fun _ => keeps_bind (keeps_modify fun _ holds => holds) fun _ =>
    keeps_bind (keeps_ofExcept _) fun _ => keeps_bind (keeps_modify fun _ holds => holds) fun _ => keeps_pure _

variable (kept : KeptByOperations settings model inv)
include kept

theorem keeps_addModelAudio (pcm : Pcm) : KeepsSession inv (addModelAudio chars settings model pcm : Code S σ (List StreamingTranscriptionResult)) :=
  keeps_bind (keeps_reporting _ (keeps_operate fun session next snapshots holds => kept (.addAudio pcm) session next snapshots holds))
    fun _ => keeps_bind (keeps_reporting _ (keeps_applySnapshots _)) fun _ => keeps_pure _

theorem keeps_addFrames (frames : List Pcm) (finished : Bool) :
    KeepsSession inv (addFrames chars settings model frames finished : Code S σ Bool) := by
  induction frames generalizing finished with
  | nil => exact keeps_pure finished
  | cons frame rest ih =>
    exact keeps_bind (keeps_addModelAudio kept frame) fun _ =>
      keeps_bind (keeps_when fun _ => keeps_commitFinishedSegment) fun _ => ih _

theorem keeps_resetSegment : KeepsSession inv (resetSegment chars model : Code S σ Unit) := by
  refine keeps_bind (keeps_reporting _ (keeps_operate fun session next snapshot holds ended => ?_)) fun _ =>
    keeps_bind (keeps_reporting _ (keeps_applyStreamResult _)) fun _ => keeps_commitFinishedSegment
  exact kept .finishSegment session next [snapshot] holds (by simp [ModelOperation.answer,ended,bind,Except.bind,pure,Except.pure])

theorem keeps_handleVadDecision (decision : VADDecision) :
    KeepsSession inv (handleVadDecision chars settings model decision : Code S σ Unit) :=
  keeps_bind (keeps_ite (fun _ => keeps_addFrames kept _ _) fun _ => keeps_pure _) fun _ =>
    keeps_when fun _ => keeps_resetSegment kept

theorem keeps_followDecision (fuel : Nat) (decision : VADDecision) :
    KeepsSession inv (followDecision chars settings model backend fuel decision) := by
  induction fuel generalizing decision with
  | zero => exact keeps_throw _
  | succ fuel ih =>
    exact keeps_bind (keeps_handleVadDecision kept decision) fun _ =>
      keeps_ite (fun _ => keeps_bind (keeps_hearing _) fun _ => ih _) fun _ => keeps_pure ()

theorem keeps_endInput : KeepsSession inv (endInput chars settings model backend) :=
  keeps_bind (keeps_hearing _) fun _ => keeps_ite (fun _ => keeps_addFrames kept _ _) fun _ => keeps_pure _

omit kept in
theorem keeps_fail (failure : Failure) : KeepsSession inv (fail failure : Code S σ Unit) :=
  keeps_bind (keeps_emit _) fun _ => keeps_modify fun _ holds => holds

omit kept in
theorem keeps_validateAudioFrame (pcm : Pcm) : KeepsSession inv (validateAudioFrame settings pcm : Code S σ Unit) := by
  have refuses : ∀ failure, KeepsSession inv (do fail failure; throw streamClosed : Code S σ Unit) := fun failure =>
    keeps_bind (keeps_fail failure) fun _ => keeps_throw _
  exact keeps_bind (keeps_when fun _ => refuses _) fun _ => keeps_bind (keeps_when fun _ => refuses _) fun _ =>
    keeps_bind keeps_get fun _ => keeps_bind (keeps_when fun _ => refuses _) fun _ => keeps_modify fun _ holds => holds

theorem keeps_receive (command : StreamCommand) : KeepsSession inv (receive chars settings model backend command) := by
  cases command with
  | audio pcm =>
    exact keeps_bind (keeps_validateAudioFrame pcm) fun _ => keeps_bind (keeps_hearing _) fun _ =>
      keeps_bind keeps_get fun _ => keeps_followDecision kept _ _
  | segment =>
    exact keeps_bind (keeps_endInput kept) fun _ => keeps_bind (keeps_when fun _ => keeps_resetSegment kept) fun _ =>
      keeps_modify fun _ holds => holds

theorem keeps_receiveAll (commands : List StreamCommand) :
    KeepsSession inv (receiveAll chars settings model backend commands) := by
  induction commands with
  | nil => exact keeps_pure ()
  | cons command rest ih => exact keeps_bind (keeps_receive kept command) fun _ => ih

theorem keeps_finish : KeepsSession inv (finish chars settings model backend) := by
  refine keeps_bind (keeps_reporting _ (keeps_bind (keeps_endInput kept) fun _ => keeps_bind (keeps_operate
    fun session next snapshot holds ended => ?_) fun _ => keeps_bind (keeps_applyStreamResult _) fun _ => keeps_emit _))
    fun _ => keeps_modify fun _ holds => holds
  exact kept .finish session next [snapshot] holds (by simp [ModelOperation.answer,ended,bind,Except.bind,pure,Except.pure])

/-- A stream leaves its session, whether it ends or fails, as its operations do. -/
theorem keeps_stream (commands : List StreamCommand) :
    KeepsSession inv (stream chars settings model backend commands) :=
  keeps_bind (keeps_emit _) fun _ => keeps_bind (keeps_receiveAll kept commands) fun _ => keeps_finish kept

end

/-- The operations at the times of a clock. -/
def timed (clock : Nat → OperationTimes) (operations : List ModelOperation) : List (ModelOperation × OperationTimes) :=
  operations.zipIdx.map fun operation => (operation.1,clock operation.2)

/-- Every operation that led to the session was observed, or the stream was late before it. -/
def Observed {S : Type} (settings : StreamSettings) (limits : LagLimits) (model : StreamingModel S) (clock : Nat → OperationTimes)
    (session : QwenVLLMStreamingSession S) : Prop :=
  ∃ operations final, Machine.run (ObservedStream.step settings limits model) ⟨{ state := model.start },{},false⟩
      (timed clock operations) = some final ∧
    (final.late = true ∨ final.session = session ∧
      (((final.progress.undecodedBatches.map (·.samples)).sum : Nat) : Int) = session.undecodedSamples)

theorem Observed.step {S : Type} {settings : StreamSettings} {limits : LagLimits} {model : StreamingModel S}
    {clock : Nat → OperationTimes} {session next : QwenVLLMStreamingSession S} {operation : ModelOperation}
    {snapshots : List StreamingTranscriptionResult} (decodes : Decodes settings model)
    (observed : Observed settings limits model clock session)
    (answered : operation.answer settings model session = .ok (snapshots,next)) : Observed settings limits model clock next := by
  obtain ⟨operations,stream,ran,told⟩ := observed
  by_cases late : stream.late = true
  · exact ⟨operations,stream,ran,.inl late⟩
  obtain ⟨rfl,_⟩ := told.resolve_left late
  have onwards : timed clock (operations ++ [operation]) = timed clock operations ++ [(operation,clock operations.length)] := by
    simp [timed,List.zipIdx_append]
  obtain ⟨after,stepped,same⟩ : ∃ after, stream.step settings limits model (operation,clock operations.length) = some after ∧
      after.session = next := by
    rw [ObservedStream.step,if_neg late,answered]
    exact ⟨_,rfl,rfl⟩
  have reached := (Machine.run_snoc _).mpr ⟨stream,ran,stepped⟩
  rw [← onwards] at reached
  exact ⟨operations ++ [operation],after,reached,.inr ⟨same,same ▸ (run_agrees decodes reached).1.sum⟩⟩

/-- Every stream of the controller is observed operation by operation. Where it ends or fails its
    frames add up to the undecoded samples of its session, unless it was told to be late. -/
theorem stream_observed {S σ : Type} (chars : Alphabet) (settings : StreamSettings) (limits : LagLimits) (model : StreamingModel S)
    (decodes : Decodes settings model) (backend : VADBackend σ) (clock : Nat → OperationTimes) (commands : List StreamCommand)
    (start : σ) :
    wp (stream chars settings model backend commands)
      (fun _ controller => Observed settings limits model clock controller.session)
      (fun _ controller => Observed settings limits model clock controller.session) (opened settings model start) :=
  keeps_stream (fun _ _ _ _ observed answered => observed.step decodes answered) commands (opened settings model start)
    ⟨[],_,rfl,.inr ⟨rfl,rfl⟩⟩

/-- A model that decodes chunks of two samples, and what is left at the end of the audio. -/
def chunkModel : StreamingModel (Nat × Nat) where
  start := (0,0)
  fresh _ := (0,0)
  transcribe pcm state := (state.1 + (state.2 + sampleCount pcm) / 2,(state.2 + sampleCount pcm) % 2)
  finish state := (state.1 + 1,0)
  text state := List.replicate state.1 'a'
  chunkId state := state.1
  chunkSizeSamples _ := some 2

theorem chunkModel_decodes (settings : StreamSettings) : Decodes settings chunkModel where
  counts pcm state := Int.ofNat_le.mpr (Nat.le_add_right ..)
  countsOn state := Int.ofNat_le.mpr (Nat.le_add_right ..)
  chunkPositive _ := show (0 : Int) < 2 by decide
  flushes session _ _ := .inl (by simp [chunkModel])

def steadyTimes : OperationTimes := ⟨0,1/10,1⟩

/-- The second frame rolls over behind its first sample, and the command ends the next segment. -/
def chunkOperations : List (ModelOperation × OperationTimes) :=
  [(.addAudio [1,0,2,0],steadyTimes),(.addAudio [3,0,4,0],steadyTimes),(.finishSegment,steadyTimes)]

theorem chunk_backlog_agrees : ∃ final,
    Machine.run (ObservedStream.step shortSegments ⟨10,10⟩ chunkModel) ⟨{ state := chunkModel.start },{},false⟩
      chunkOperations = some final ∧ final.progress.undecodedBatches = [] := by
  obtain ⟨final,ran⟩ := Option.isSome_iff_exists.mp (show (Machine.run
    (ObservedStream.step shortSegments ⟨10,10⟩ chunkModel) ⟨{ state := chunkModel.start },{},false⟩
      chunkOperations).isSome by decide +kernel)
  exact ⟨final,ran,(backlog_agrees shortSegments ⟨10,10⟩ chunkModel (chunkModel_decodes _) chunkOperations final ran).2.2
    (.finishSegment,steadyTimes) rfl (.inl rfl)⟩

end SpeechGateway.Stateful
