import SpeechGateway.Committing
import SpeechGateway.Conversing
import SpeechGateway.Passing

/-!
Whole connections. Every method of the controller leaves a stream that can go on, or it ends the
stream with everything that an end needs. The same holds of `transcribe_stream` with any arrivals
in any world, whether it returns or raises (`connection_framed`, `connection_shows`,
`connection_releases`).
-/
namespace SpeechGateway.Connections
open SpeechGateway.Streaming SpeechGateway.Vad SpeechGateway.Coordinator SpeechGateway.Protocol
open SpeechGateway.Display Programs
open SpeechGateway.Stateful (Failure StreamingTranscriptionResult frames lastFinished endpointFinalized_shortens)
open JsonText (JsonError Nesting)
open Unicode (Str)

section
variable {σ α : Type} {settings : ConnectionSettings} {named : Raised → Prop} (chars : Alphabet) (world : World)
  (backend : VADBackend σ)

theorem addModelAudio_steady (pcm : Pcm) :
    Steady settings world .opened named (addModelAudio chars settings world backend pcm) := by
  unfold addModelAudio
  apply steady_session
  intro sessionId connection live holds
  have asked : wp (awaitModelOperation world (fun _ => .addAudio sessionId pcm) world.transcribed)
      (fun _ => Live settings .opened []) (Raises settings world Refusals) connection :=
    operation_spec world _ live holds (by simp [Use.follow])
  rw [wp_bind]
  apply wp_mono (reporting_spec world addAudioFailed_reports fallen_raises asked)
  · intro result next live
    have rest : Steady settings world .opened named (do
        ensureSessionActive world
        enforceStreamProgress settings world result (sampleCount pcm)
        reporting world transcriptConflict (applySnapshots chars settings world backend result.snapshots)
        return lastFinished result.snapshots) := by
      apply steady_bind (ensureSessionActive_steady world)
      intro _
      apply steady_bind (enforceStreamProgress_steady world result _)
      intro _
      apply steady_bind
      · exact steady_reporting world (applySnapshots_steady world chars backend _) transcriptConflict_reports
      · exact fun _ => steady_pure _
    exact rest next live
  · exact fun _ _ raised => raised

theorem addFrames_steady (pieces : List Pcm) (finished : Bool) :
    Steady settings world .opened named (addFrames chars settings world backend pieces finished) := by
  induction pieces generalizing finished with
  | nil => exact steady_pure _
  | cons frame rest ih =>
    unfold addFrames
    apply steady_bind (addModelAudio_steady chars world backend frame)
    intro finished
    apply steady_bind (steady_when fun _ => commitFinishedSegment_steady world chars backend false)
    exact fun _ => ih finished

theorem resetSegment_spec_steady (resetEndpointDetector : Bool) :
    Steady settings world .opened named (resetSegment chars settings world backend resetEndpointDetector) := by
  unfold resetSegment
  apply steady_session
  intro sessionId connection live holds
  have asked : wp (awaitModelOperation world (fun _ => .finishSegment sessionId) world.transcribed)
      (fun _ => Live settings .opened []) (Raises settings world Refusals) connection :=
    operation_spec world _ live holds (by simp [Use.follow])
  rw [wp_bind]
  apply wp_mono (reporting_spec world (operationFailed_reports _ _) fallen_raises asked)
  · intro result next live
    have rest : Steady settings world .opened named (do
        ensureSessionActive world
        enforceStreamProgress settings world result 0
        reporting world transcriptConflict (applyStreamResult chars settings world result.first)
        commitFinishedSegment chars settings world backend resetEndpointDetector) := by
      apply steady_bind (ensureSessionActive_steady world)
      intro _
      apply steady_bind (enforceStreamProgress_steady world result _)
      intro _
      apply steady_bind
      · exact steady_reporting world (applyStreamResult_steady world chars _) transcriptConflict_reports
      · exact fun _ => commitFinishedSegment_steady world chars backend _
    exact rest next live
  · exact fun _ _ raised => raised

theorem handleVadDecision_steady (decision : VADDecision) :
    Steady settings world .opened named (handleVadDecision chars settings world backend decision) := by
  unfold handleVadDecision
  apply steady_bind
  · apply steady_ite
    · exact fun _ => addFrames_steady chars world backend _ _
    · exact fun _ => steady_pure _
  · intro finished
    exact steady_when fun _ => resetSegment_spec_steady chars world backend false

theorem hearing_spec {listen : StreamingVADEndpointDetector σ → Except PyError VADDecision × StreamingVADEndpointDetector σ}
    {returns : VADDecision → Connection σ → Prop} {raises : Raised → Connection σ → Prop} {connection : Connection σ}
    {decision : VADDecision} {vad : StreamingVADEndpointDetector σ} (heard : listen connection.vad = (.ok decision,vad))
    (goesOn : returns decision { connection with vad := vad }) : wp (hearing listen) returns raises connection := by
  unfold hearing
  rw [wp_bind,wp_get,heard]
  exact goesOn

/-- The loop ends: every endpoint but the first takes a frame from the input buffer. -/
theorem followDecision_steady {vad : VADSettings} {fuel : Nat} {decision : VADDecision} {connection : Connection σ}
    (live : Live settings .opened [] connection) (some : 0 < fuel)
    (enough : decision.endpoint = true → connection.vad.inputBuffer.length + 2 ≤ fuel) :
    wp (followDecision chars settings world backend vad fuel decision) (fun _ => Live settings .opened [])
      (Raises settings world named) connection := by
  induction fuel generalizing decision connection with
  | zero => omega
  | succ fuel ih =>
    unfold followDecision
    have steady : Steady settings world .opened named (handleVadDecision chars settings world backend decision) :=
      handleVadDecision_steady chars world backend decision
    have kept := keeps_handleVadDecision chars settings world backend decision connection.vad connection rfl
    rw [wp_bind]
    apply wp_mono (wp_and (steady connection live) kept)
    · rintro _ next ⟨goesOn,same⟩
      rw [wp_ite]
      constructor
      · intro ended
        have more := enough ended
        rw [wp_bind]
        refine hearing_spec (by rfl) ?_
        have listening : Live settings .opened [] { next with vad := (next.vad.endpointFinalized vad backend).2 } :=
          goesOn.aside ⟨rfl,rfl,rfl,rfl,rfl,rfl⟩
        apply ih listening (by omega)
        intro again
        have shorter := endpointFinalized_shortens vad backend again
        dsimp only
        rw [same] at shorter ⊢
        omega
      · exact fun _ => goesOn
    · exact fun _ _ raised => raised.1

/-- A frame that is accepted is whole and not empty. -/
theorem validateAudioFrame_spec {returns : Unit → Connection σ → Prop} {connection : Connection σ} {pcm : Pcm}
    (live : Live settings .opened [] connection)
    (goesOn : pcm ≠ [] → pcm.length % 2 = 0 → Live settings .opened []
        { connection with acceptedSamples := connection.acceptedSamples + sampleCount pcm } →
      returns () { connection with acceptedSamples := connection.acceptedSamples + sampleCount pcm }) :
    wp (validateAudioFrame settings world pcm) returns (Raises settings world named) connection := by
  have refused {failure : Failure} (abnormal : failure.closeCode ≠ 1000) :
      wp (refuse world failure : Code σ Unit) (fun _ _ => False) (Raises settings world named) connection :=
    refuse_spec world live.talking abnormal fallen_raises
  unfold validateAudioFrame
  simp only [wp_bind,wp_when,wp_get,wp_modify]
  refine ⟨fun _ => ?_,fun whole => ⟨fun _ => ?_,fun _ => ⟨fun _ => ?_,fun _ => ?_⟩⟩⟩
  · exact wp_mono (refused (by decide)) (fun _ _ no => no.elim) fun _ _ raised => raised
  · exact wp_mono (refused (by decide)) (fun _ _ no => no.elim) fun _ _ raised => raised
  · exact wp_mono (refused (by decide)) (fun _ _ no => no.elim) fun _ _ raised => raised
  · rw [not_or,not_not] at whole
    exact goesOn whole.1 whole.2 (live.aside ⟨rfl,rfl,rfl,rfl,rfl,rfl⟩)

theorem addAudio_steady (pcm : Pcm) : Steady settings world .opened named (addAudio chars settings world backend pcm) := by
  intro connection live
  unfold addAudio
  rw [wp_bind]
  apply validateAudioFrame_spec world live
  intro some whole accepted
  cases detector : settings.vad with
  | some vad =>
    dsimp only
    obtain ⟨decision,next,heard⟩ : ∃ decision next, connection.vad.addAudio vad backend pcm = (.ok decision,next) := by
      rw [StreamingVADEndpointDetector.addAudio,if_neg (not_not.mpr whole)]
      exact ⟨_,_,rfl⟩
    have listening : Live settings .opened []
        { connection with acceptedSamples := connection.acceptedSamples + sampleCount pcm, vad := next } :=
      accepted.aside ⟨rfl,rfl,rfl,rfl,rfl,rfl⟩
    rw [wp_bind]
    refine hearing_spec (by exact heard) ?_
    rw [wp_bind,wp_get]
    exact followDecision_steady chars world backend listening (Nat.succ_pos _) fun _ => Nat.le_refl _
  | none =>
    dsimp only
    refine (?_ : Steady settings world .opened named _) _ accepted
    apply steady_bind (addModelAudio_steady chars world backend pcm)
    intro finished
    apply steady_get
    intro connection
    apply steady_bind
    · exact steady_modify fun connection => ⟨rfl,rfl,rfl,rfl,rfl,rfl⟩
    · intro _
      apply steady_ite
      · exact fun _ => commitFinishedSegment_steady world chars backend false
      · exact fun _ => steady_when fun _ => resetSegment_spec_steady chars world backend true

theorem endInput_steady : Steady settings world .opened named (endInput chars settings world backend) := by
  unfold endInput
  cases settings.vad with
  | none => exact steady_pure _
  | some vad =>
    intro connection live
    dsimp only
    rw [wp_bind]
    refine hearing_spec (by rfl) ?_
    have rest : Steady settings world .opened named (if (connection.vad.finishInput vad backend).1.audioToModel ≠ [] then
        addVadAudio chars settings world backend (connection.vad.finishInput vad backend).1.audioToModel else pure false) := by
      apply steady_ite
      · exact fun _ => addFrames_steady chars world backend _ _
      · exact fun _ => steady_pure _
    exact rest _ (live.aside ⟨rfl,rfl,rfl,rfl,rfl,rfl⟩)

theorem explicitSegment_steady : Steady settings world .opened named (explicitSegment chars settings world backend) := by
  unfold explicitSegment
  apply steady_bind (endInput_steady chars world backend)
  intro finalized
  apply steady_bind (steady_when fun _ => resetSegment_spec_steady chars world backend false)
  intro _
  exact steady_when fun _ => steady_modify fun connection => ⟨rfl,rfl,rfl,rfl,rfl,rfl⟩

end

/-- The final event was sent. -/
structure Finaled {σ : Type} (settings : ConnectionSettings) (stage : Stage) (connection : Connection σ) : Prop where
  socket : connection.socket = .open
  holds : ∃ sessionId, Holds stage sessionId connection
  told : ∃ sent, Told settings connection sent [] ∧ ∃ event ∈ sent, event.type = .final

/-- A connection that ended. Its socket is open only where the client says that it leaves. -/
def Settled {σ : Type} (leaves : Prop) (connection : Connection σ) : Prop :=
  Known connection ∧ (connection.socket = .open → leaves) ∧ ∃ sent ending, Framed connection sent ending

section
variable {σ α : Type} {settings : ConnectionSettings} {named : Raised → Prop} (chars : Alphabet) (world : World)
  (backend : VADBackend σ)

theorem Over.settled {socket : Socket} {leaves : Prop} {connection : Connection σ} (past : Over socket connection)
    (ended : socket ≠ .open) : Settled leaves connection :=
  ⟨past.known,fun opened => absurd (past.socket.symm.trans opened) ended,past.framed⟩

theorem Over.closed {leaves : Prop} {connection : Connection σ} (past : Over .closed connection) : Settled leaves connection :=
  past.settled (by decide)

theorem Talking.settled {leaves : Prop} {connection : Connection σ} (talking : Talking settings connection) (left : leaves) :
    Settled leaves connection := by
  obtain ⟨sent,pending,told⟩ := talking.told
  exact ⟨talking.known,fun _ => left,sent,[],told.framed (List.append_nil _).symm rfl rfl (talking.socket ▸ .talking)⟩

theorem Fallen.settled {leaves : Prop} {exc : Raised} {connection : Connection σ} (fallen : Fallen world exc connection) :
    Settled leaves connection := by
  rcases fallen with ⟨_,past,_⟩ | ⟨_,past⟩
  · exact past.closed
  · exact past.settled (by decide)

theorem Settled.weaken {leaves later : Prop} {connection : Connection σ} (settled : Settled leaves connection)
    (implies : leaves → later) : Settled later connection :=
  ⟨settled.1,fun opened => implies (settled.2.1 opened),settled.2.2⟩

theorem raises_nothing {exc : Raised} {connection : Connection σ} (raised : Raises settings world Nothing exc connection) :
    Fallen world exc connection := by
  rcases raised with fallen | ⟨no,_⟩
  · exact fallen
  · exact no.elim

/-- The event that ends a stream takes the rest of the transcript. -/
theorem announce_final {stage : Stage} {connection : Connection σ} (live : Live settings stage [] connection) :
    wp (announce world fun transcript => transcript.finalEvent) (fun _ => Finaled settings stage)
      (Raises settings world named) connection := by
  obtain ⟨opened,begun,⟨sessionId,holds⟩,sent,told,goesOn⟩ := live
  rw [List.append_nil] at goesOn
  unfold announce
  rw [wp_bind,wp_get]
  dsimp only
  rw [wp_bind,wp_modify]
  have explains := told.explains
  have numbered := told.numbered
  rw [List.append_nil] at explains numbered
  have ended : Told settings { connection with transcript := connection.transcript.finalEvent.2 } sent
      [connection.transcript.finalEvent.1] :=
    ⟨told.frames,ordered_final goesOn rfl,explains.trans (finalEvent_explains _),
      numbered.trans ⟨rfl,rfl⟩,told.mode,told.opens⟩
  have opens : sent = [] → connection.transcript.finalEvent.1.type = .ready :=
    fun none => absurd (by rw [told.frames,none,List.map_nil]) begun
  have known : Known { connection with transcript := connection.transcript.finalEvent.2 } := holds.known.of rfl rfl rfl
  apply sendEvent_spec world (by exact opened) known ended opens fallen_raises
  intro steps
  refine ⟨opened,⟨sessionId,holds.session,holds.uses,holds.unfinished⟩,sent ++ [connection.transcript.finalEvent.1],?_,?_⟩
  · exact ⟨by simp [told.frames],by simpa using ended.ordered,by simpa using ended.explains,by simpa using ended.numbered,
      ended.mode,ended.opens_snoc opens⟩
  · exact ⟨_,List.mem_append_right _ List.mem_cons_self,rfl⟩

/-- After the final event the socket is closed. -/
theorem close_spec {connection : Connection σ} {sent : List TranscriptEvent} (opened : connection.socket = .open)
    (known : Known connection) (told : Told settings connection sent []) (final : ∃ event ∈ sent, event.type = .final) :
    wp (transmit world (.close 1000)) (fun _ => Over .closed) (Fallen world) connection := by
  apply transmit_spec world opened
  · intro steps
    exact ⟨rfl,known.of rfl rfl rfl,sent,_,told.framed rfl rfl rfl (.finished final)⟩
  · intro steps step
    exact .inr ⟨⟨step,rfl⟩,rfl,known.of rfl rfl rfl,sent,[],told.framed (List.append_nil _).symm rfl rfl .left⟩

theorem conflicts_refusals (exc : Raised) (conflicts : Conflicts exc) : Refusals exc := by
  obtain ⟨message,rfl⟩ := conflicts
  simp [Refusals]

theorem finish_spec {connection : Connection σ} (live : Live settings .opened [] connection) :
    wp (finish chars settings world backend) (fun _ => Over .closed) (Fallen world) connection := by
  have body : wp (do
      let _ ← endInput chars settings world backend
      let sessionId ← requireSession
      let result ← awaitModelOperation world (fun _ => .finishStream sessionId) world.transcribed
      ensureSessionActive world
      enforceStreamProgress settings world result 0
      applyStreamResult chars settings world result.first
      announce world fun transcript => transcript.finalEvent)
      (fun _ => Finaled settings .finishing) (Raises settings world Refusals) connection := by
    apply (endInput_steady chars world backend).bind_spec live
    intro finalized next live
    obtain ⟨sessionId,holds⟩ := live.holds
    have asked (steps : Nat) : Live settings .finishing []
        { next with steps := steps, calls := next.calls ++ [.finishStream sessionId] } :=
      live.asked holds (by simp [Use.follow]) steps
    rw [wp_bind]
    apply requireSession_spec holds
    rw [wp_bind]
    apply awaitModelOperation_spec world live.talking
    · exact fun _ steps _ => (asked steps).talking
    · intro result steps
      apply (ensureSessionActive_steady world).bind_spec (asked steps)
      intro _ next live
      apply (enforceStreamProgress_steady world result 0).bind_spec live
      intro _ next live
      apply ((applyStreamResult_steady world chars result.first).weaken conflicts_refusals).bind_spec live
      exact fun _ next live => announce_final world live
  obtain ⟨sessionId,holds⟩ := live.holds
  unfold finish
  rw [wp_bind]
  apply requireSession_spec holds
  rw [wp_bind]
  apply reporting_spec world finishFailed_reports (fun _ _ fallen => fallen)
  apply wp_mono body
  · rintro _ next ⟨opened,⟨own,held⟩,sent,told,final⟩
    rw [wp_bind,wp_modify]
    have known : Known { next with finished := true, sessionId := none } := ⟨_,held.uses,.inr ⟨rfl,rfl,rfl⟩⟩
    exact close_spec world (by exact opened) known (told.of rfl rfl) final
  · exact fun _ _ raised => raised

/-- A connection that has not asked for a session. -/
structure Starting {σ : Type} (settings : ConnectionSettings) (connection : Connection σ) : Prop where
  socket : connection.socket = .open
  calls : connection.calls = []
  session : connection.sessionId = none
  unfinished : connection.finished = false
  told : Told settings connection [] []

theorem Starting.talking {connection : Connection σ} (starting : Starting settings connection) : Talking settings connection :=
  ⟨starting.socket,⟨.unopened,by rw [starting.calls]; rfl,starting.session,starting.unfinished⟩,[],[],starting.told⟩

/-- A connection whose session was created, and whose client does not know it. -/
structure Created {σ : Type} (settings : ConnectionSettings) (connection : Connection σ) : Prop where
  socket : connection.socket = .open
  holds : ∃ sessionId, Holds .opened sessionId connection
  told : Told settings connection [] []

theorem Created.talking {connection : Connection σ} (made : Created settings connection) : Talking settings connection := by
  obtain ⟨sessionId,holds⟩ := made.holds
  exact ⟨made.socket,holds.known,[],[],made.told⟩

/-- The first event says that the stream is ready. -/
theorem announce_ready {connection : Connection σ} (made : Created settings connection) :
    wp (announce world fun transcript => transcript.newEvent .ready) (fun _ => Live settings .opened [])
      (Raises settings world named) connection := by
  obtain ⟨opened,⟨sessionId,holds⟩,told⟩ := made
  have goesOn : ∀ event ∈ [(connection.transcript.newEvent .ready).1], GoesOn event := by
    intro event member
    rw [List.mem_singleton.mp member]
    simp [GoesOn,StreamingTranscriptState.newEvent,StreamingTranscriptState.event]
  have ready : Told settings { connection with transcript := (connection.transcript.newEvent .ready).2 } []
      [(connection.transcript.newEvent .ready).1] :=
    ⟨told.frames,ordered_goOn goesOn,told.explains.trans (perform_explains ascii connection.transcript .readyEvent),
      told.numbered.trans ⟨rfl,rfl⟩,told.mode,told.opens⟩
  have known : Known { connection with transcript := (connection.transcript.newEvent .ready).2 } := holds.known.of rfl rfl rfl
  unfold announce
  rw [wp_bind,wp_get]
  dsimp only
  rw [wp_bind,wp_modify]
  apply sendEvent_spec world (by exact opened) known ready (fun _ => rfl) fallen_raises
  intro steps
  refine ⟨opened,List.append_ne_nil_of_right_ne_nil _ (List.cons_ne_nil _ _),
    ⟨sessionId,holds.session,holds.uses,holds.unfinished⟩,[_],?_,goesOn⟩
  exact ⟨by simp [told.frames],ready.ordered,ready.explains,ready.numbered,ready.mode,ready.opens_snoc fun _ => rfl⟩

theorem startWith_spec (language : Option Str) {connection : Connection σ} (starting : Starting settings connection) :
    wp (startWith world language) (fun _ => Live settings .opened []) (Raises settings world Nothing) connection := by
  obtain ⟨opened,calls,session,unfinished,told⟩ := starting
  have created : wp (awaitModelOperation world (fun outcome => .createStream language outcome.value) world.created)
      (fun sessionId next => Created settings { next with sessionId := some sessionId })
      (Raises settings world Refusals) connection := by
    apply awaitModelOperation_spec world (Starting.talking ⟨opened,calls,session,unfinished,told⟩)
    · intro outcome steps nothing
      refine ⟨opened,⟨.refused,?_,session,unfinished⟩,[],[],told.of rfl rfl⟩
      simp [calls,nothing,uses,Use.follow]
    · intro sessionId steps
      refine ⟨opened,⟨sessionId,rfl,?_,unfinished⟩,told.of rfl rfl⟩
      simp [calls,uses,Use.follow,OperationOutcome.value]
  unfold startWith
  rw [wp_bind]
  apply reporting_spec world startFailed_reports fallen_raises
  apply wp_mono created
  · intro sessionId next made
    rw [wp_bind,wp_modify,wp_bind]
    apply ensureSessionActive_spec world made.talking fallen_raises
    intro steps
    obtain ⟨opened,⟨sessionId,holds⟩,told⟩ := made
    exact announce_ready world ⟨opened,⟨sessionId,holds.session,holds.uses,holds.unfinished⟩,told.of rfl rfl⟩
  · exact fun _ _ raised => raised

theorem transcribeChunk_steady (pcm : Pcm) : Steady settings world .opened named (transcribeChunk settings world pcm : Code σ Text) := by
  unfold transcribeChunk
  apply steady_bind (step_steady world)
  intro started
  apply steady_bind
  · apply steady_reporting world _ (operationFailed_reports _ _)
    apply steady_session
    intro sessionId connection live holds
    exact operation_spec world _ live holds (by simp [Use.follow])
  · intro text
    apply steady_bind (ensureSessionActive_steady world)
    intro _
    apply steady_bind (step_steady world)
    intro ended
    apply steady_bind
    · unfold chunkTooLate
      apply steady_get
      intro connection
      apply steady_bind
      · exact steady_modify fun connection => ⟨rfl,rfl,rfl,rfl,rfl,rfl⟩
      · exact fun _ => steady_pure _
    · intro late
      apply steady_bind (steady_when fun _ => refuse_steady world (by decide))
      exact fun _ => steady_pure _

theorem flushChunkedBuffer_steady (buffer : Pcm) (commitBoundary : Bool) :
    Steady settings world .opened named (flushChunkedBuffer chars settings world buffer commitBoundary : Code σ Unit) := by
  unfold flushChunkedBuffer
  apply steady_bind
  · apply steady_when
    intro _
    unfold transcribeBuffer
    apply steady_bind (transcribeChunk_steady world buffer)
    intro text
    apply steady_when
    intro _
    apply emit_steady
    · exact fun transcript => appendIndependentSegment_tells chars transcript text
    · intro transcript exc _ raised
      cases raised
  · intro _
    apply steady_when
    intro _
    apply steady_bind (ensureSessionActive_steady world)
    intro _
    apply steady_bind (commitPending_steady world chars)
    intro _
    exact resetSegment_steady world (fun connection => rfl) fun connection => ⟨rfl,rfl,rfl,rfl,rfl,rfl⟩

theorem finishChunked_spec {connection : Connection σ} (live : Live settings .opened [] connection) :
    wp (finishChunked world) (fun _ => Over .closed) (Fallen world) connection := by
  have ended : wp (do
      ensureSessionActive world
      announce world fun transcript => transcript.finalEvent) (fun _ => Finaled settings .opened)
      (Raises settings world Nothing) connection :=
    (ensureSessionActive_steady world).bind_spec live fun _ next live => announce_final world live
  unfold finishChunked
  rw [wp_bind] at ended ⊢
  apply wp_mono ended
  · intro _ next announced
    rw [wp_bind]
    apply wp_mono announced
    · rintro _ last ⟨opened,⟨sessionId,holds⟩,sent,told,final⟩
      rw [wp_bind]
      apply abort_spec holds.known
      intro calls known
      exact close_spec world (by exact opened) known (told.of rfl rfl) final
    · exact fun _ _ raised => raises_nothing world raised
  · exact fun _ _ raised => raises_nothing world raised

/-! ## `transcribe_stream` -/

/-- The client leaves. -/
def Arrival.leaves : Arrival → Bool
  | .message received => received.disconnect
  | .timedOut => false

/-- What `json.loads` raises over the text of a message, besides `JSONDecodeError`. -/
def Arrival.raises (room : Nesting) : Arrival → Option JsonError
  | .message received => received.text.bind fun text =>
    match JsonText.loads room text with
    | .error .decode | .ok _ => none
    | .error error => some error
  | .timedOut => none

/-- One of the messages says that the client leaves. -/
def Leaves (arrivals : List Arrival) : Prop := ∃ arrival ∈ arrivals, arrival.leaves = true

/-- Reading one of the messages raises the exception. -/
def Escapes (room : Nesting) (arrivals : List Arrival) (exc : Raised) : Prop :=
  ∃ arrival ∈ arrivals, ∃ error, arrival.raises room = some error ∧ exc = .json error

theorem Leaves.more {arrivals later : List Arrival} (leaves : Leaves arrivals) (among : arrivals ⊆ later) : Leaves later := by
  obtain ⟨arrival,member,left⟩ := leaves
  exact ⟨arrival,among member,left⟩

theorem Escapes.more {room : Nesting} {arrivals later : List Arrival} {exc : Raised} (escapes : Escapes room arrivals exc)
    (among : arrivals ⊆ later) : Escapes room later exc := by
  obtain ⟨arrival,member,raised⟩ := escapes
  exact ⟨arrival,among member,raised⟩

theorem raises_of_loads {room : Nesting} {disconnect : Bool} {bytes : Option Pcm} {text : Str} {error : JsonError}
    (other : error ≠ .decode) (loaded : JsonText.loads room text = .error error) :
    Escapes room [.message ⟨disconnect,bytes,some text⟩] (.json error) := by
  refine ⟨_,List.mem_cons_self,error,?_,rfl⟩
  unfold Arrival.raises
  dsimp only [Option.bind]
  rw [loaded]
  cases error <;> simp_all

theorem readCommand_raised {room : Nesting} {disconnect : Bool} {bytes : Option Pcm} {text : Str} {error : JsonError}
    (read : readCommand room text = .raised error) : Escapes room [.message ⟨disconnect,bytes,some text⟩] (.json error) := by
  unfold readCommand at read
  split at read
  · cases read
  · rename_i other loaded
    cases read
    exact raises_of_loads other loaded
  · split_ifs at read
  · cases read

theorem parseStreamStart_raised {disconnect : Bool} {bytes : Option Pcm} {rawStart : Str} {error : JsonError}
    (parsed : parseStreamStart settings world rawStart = .error error) :
    Escapes world.nesting [.message ⟨disconnect,bytes,some rawStart⟩] (.json error) := by
  unfold parseStreamStart at parsed
  split at parsed
  · cases parsed
  · rename_i other loaded
    cases parsed
    exact raises_of_loads other loaded
  · cases parsed
  · cases parsed

/-- A program that answers whether the stream goes on, and if it does not, ends it unless the client
    leaves. It raises what reading a message raises. -/
def Serves (settings : ConnectionSettings) (world : World) (arrivals : List Arrival) (program : Code σ Bool) : Prop :=
  ∀ connection, Live settings .opened [] connection →
    wp program (fun goesOn next => if goesOn then Live settings .opened [] next else Settled (Leaves arrivals) next)
      (Raises settings world (Escapes world.nesting arrivals)) connection

theorem fail_settles {leaves : Prop} {connection : Connection σ} (talking : Talking settings connection) {failure : Failure}
    (abnormal : failure.closeCode ≠ 1000) :
    wp (do fail world failure; return false)
      (fun (goesOn : Bool) next => if goesOn then Live settings .opened [] next else Settled leaves next)
      (Raises settings world named) connection := by
  rw [wp_bind]
  apply fail_spec world talking abnormal
  · exact fun next closed _ => closed.closed
  · exact fun step next gone => .inl (.inr ⟨⟨step,rfl⟩,gone⟩)

theorem Steady.serves {arrivals : List Arrival} {program : Code σ α} (steady : Steady settings world .opened Nothing program) :
    Serves settings world arrivals (do let _ ← program; return true) := by
  intro connection live
  rw [wp_bind]
  exact wp_mono (steady.quiet connection live) (fun _ _ live => live) fun _ _ raised => raised

theorem receiveTimeout_abnormal (settings : ConnectionSettings) (remaining : Time) :
    (receiveTimeout settings remaining).closeCode ≠ 1000 := by
  unfold receiveTimeout
  split <;> decide

theorem answer_serves (remaining : Time) (arrival : Arrival) :
    Serves settings world [arrival] (answer chars settings world backend remaining arrival) := by
  intro connection live
  have refused {failure : Failure} (abnormal : failure.closeCode ≠ 1000) : wp (do fail world failure; return false)
      (fun (goesOn : Bool) next => if goesOn then Live settings .opened [] next else Settled (Leaves [arrival]) next)
      (Raises settings world (Escapes world.nesting [arrival])) connection := fail_settles world live.talking abnormal
  cases arrival with
  | timedOut => exact refused (receiveTimeout_abnormal settings remaining)
  | message message =>
    obtain ⟨disconnect,bytes,text⟩ := message
    unfold answer
    dsimp only
    split
    · exact live.talking.settled ⟨_,List.mem_cons_self,‹_›⟩
    · split
      · exact (addAudio_steady chars world backend _).serves world connection live
      · exact refused (by decide)
      · split
        · exact .inr ⟨readCommand_raised ‹_›,live.talking⟩
        · rw [wp_bind]
          exact wp_mono (finish_spec chars world backend live) (fun _ _ past => past.closed) fallen_raises
        · exact (explicitSegment_steady chars world backend).serves world connection live
        · exact refused (by simp [invalidMessage])

theorem serveStateful_serves (arrivals : List Arrival) :
    Serves settings world arrivals (serveStateful chars settings world backend arrivals) := by
  induction arrivals with
  | nil =>
    intro connection live
    unfold serveStateful
    rw [wp_bind]
    apply remaining_spec
    intro remaining steps
    have still := live.aside (steps_aside connection steps)
    rw [wp_bind,wp_when]
    constructor
    · intro expired
      have late : decide (0 < remaining) = false := by simpa using expired
      rw [late]
      apply fail_spec world still.talking (by decide)
      · exact fun _ closed _ => closed.closed
      · exact fun step _ gone => .inl (.inr ⟨⟨step,rfl⟩,gone⟩)
    · intro early
      have soon : decide (0 < remaining) = true := by simpa using early
      rw [soon]
      exact still
  | cons arrival rest ih =>
    intro connection live
    unfold serveStateful
    rw [wp_bind]
    apply remaining_spec
    intro remaining steps
    have still := live.aside (steps_aside connection steps)
    have first : [arrival] ⊆ arrival :: rest := by simp
    have later : rest ⊆ arrival :: rest := List.subset_cons_self arrival rest
    rw [wp_ite]
    constructor
    · exact fun _ => fail_settles world still.talking (by decide)
    · intro _
      rw [wp_bind]
      apply wp_mono (answer_serves chars world backend remaining arrival _ still)
      · intro goesOn next answered
        rw [wp_ite]
        constructor
        · intro on
          rw [if_pos on] at answered
          apply wp_mono (ih next answered)
          · intro goesOn last served
            cases goesOn with
            | true => exact served
            | false => exact Settled.weaken served fun left => left.more later
          · exact fun exc last raised => raised.weaken fun _ escapes => escapes.more later
        · intro off
          rw [if_neg off] at answered
          exact answered.weaken fun left => left.more first
      · exact fun exc next raised => raised.weaken fun _ escapes => escapes.more first

/-- A program that answers with what the stream goes on, and otherwise ends it unless the client
    leaves. -/
def ServesWith (settings : ConnectionSettings) (world : World) (arrivals : List Arrival) (program : Code σ (Option α)) : Prop :=
  ∀ connection, Live settings .opened [] connection →
    wp program (fun goesOn next => if goesOn.isSome then Live settings .opened [] next else Settled (Leaves arrivals) next)
      (Raises settings world (Escapes world.nesting arrivals)) connection

theorem answerChunked_serves (buffer : Pcm) (detector : SilenceEndpointDetector) (remaining : Time) (arrival : Arrival) :
    ServesWith settings world [arrival] (answerChunked chars settings world buffer detector remaining arrival : Code σ _) := by
  intro connection live
  have refused {failure : Failure} (abnormal : failure.closeCode ≠ 1000) :
      wp (refuse world failure : Code σ (Option (Pcm × SilenceEndpointDetector)))
        (fun goesOn next => if goesOn.isSome then Live settings .opened [] next else Settled (Leaves [arrival]) next)
        (Raises settings world (Escapes world.nesting [arrival])) connection :=
    refuse_spec world live.talking abnormal fallen_raises
  cases arrival with
  | timedOut => exact refused (receiveTimeout_abnormal settings remaining)
  | message message =>
    obtain ⟨disconnect,bytes,text⟩ := message
    unfold answerChunked
    dsimp only
    split
    · exact live.talking.settled ⟨_,List.mem_cons_self,‹_›⟩
    · split
      · rename_i pcm
        rw [wp_bind]
        have accepted : wp (validateAudioFrame settings world pcm) (fun _ => Live settings .opened [])
            (Raises settings world (Escapes world.nesting [.message ⟨disconnect,some pcm,text⟩])) connection :=
          validateAudioFrame_spec world live fun _ _ live => live
        apply wp_mono accepted
        · intro _ next live
          rw [wp_bind]
          apply wp_mono (steady_when (fun _ => flushChunkedBuffer_steady chars world _ false) next live)
          · intro _ next live
            rw [wp_bind]
            apply wp_mono (steady_when (fun _ => commitPending_steady world chars) next live)
            · exact fun _ _ live => live
            · exact fun _ _ raised => raised
          · exact fun _ _ raised => raised
        · exact fun _ _ raised => raised
      · exact live
      · split
        · exact .inr ⟨readCommand_raised ‹_›,live.talking⟩
        · rw [wp_bind]
          apply wp_mono (flushChunkedBuffer_steady chars world buffer false connection live)
          · intro _ next live
            rw [wp_bind]
            exact wp_mono (finishChunked_spec world live) (fun _ _ past => past.closed) fallen_raises
          · exact fun _ _ raised => raised
        · rw [wp_bind]
          apply wp_mono (flushChunkedBuffer_steady chars world buffer true connection live)
          · exact fun _ _ live => live
          · exact fun _ _ raised => raised
        · exact refused (by simp [invalidMessage])

theorem serveChunked_serves (buffer : Pcm) (detector : SilenceEndpointDetector) (arrivals : List Arrival) :
    ServesWith settings world arrivals (serveChunked chars settings world buffer detector arrivals : Code σ _) := by
  have patient {arrivals : List Arrival} {later : Time → Code σ (Option Pcm)}
      (serves : ∀ remaining, ServesWith settings world arrivals (later remaining)) :
      ServesWith settings world arrivals (do
        let remaining ← remainingSessionSeconds world
        when (remaining ≤ 0) (refuse world sessionTimeout)
        later remaining) := by
    intro connection live
    rw [wp_bind]
    apply remaining_spec
    intro remaining steps
    have still := live.aside (steps_aside connection steps)
    rw [wp_bind,wp_when]
    constructor
    · exact fun _ => refuse_spec world still.talking (by decide) fallen_raises
    · exact fun _ => serves remaining _ still
  induction arrivals generalizing buffer detector with
  | nil => exact patient fun _ connection live => live
  | cons arrival rest ih =>
    unfold serveChunked
    apply patient
    intro remaining connection live
    have first : [arrival] ⊆ arrival :: rest := by simp
    have later : rest ⊆ arrival :: rest := List.subset_cons_self arrival rest
    rw [wp_bind]
    apply wp_mono (answerChunked_serves chars world buffer detector remaining arrival connection live)
    · intro goesOn next answered
      cases goesOn with
      | none => exact Settled.weaken answered fun left => left.more first
      | some kept =>
        apply wp_mono (ih kept.1 kept.2 next answered)
        · intro buffer last served
          cases buffer with
          | some _ => exact served
          | none => exact Settled.weaken served fun left => left.more later
        · exact fun exc last raised => raised.weaken fun _ escapes => escapes.more later
    · exact fun exc next raised => raised.weaken fun _ escapes => escapes.more first

/-- A connection that waits for its client, which has been told everything. -/
def Waits (settings : ConnectionSettings) (connection : Connection σ) : Prop :=
  Talking settings connection ∧ ∃ sent, Told settings connection sent []

theorem Live.waits {connection : Connection σ} (live : Live settings .opened [] connection) : Waits settings connection := by
  obtain ⟨sent,told,_⟩ := live.told
  exact ⟨live.talking,sent,told⟩

theorem serve_spec (language : Option Str) (arrivals : List Arrival) {connection : Connection σ}
    (starting : Starting settings connection) :
    wp (serve chars settings world backend language arrivals)
      (fun waits next => if waits then Waits settings next else Settled (Leaves arrivals) next)
      (Raises settings world (Escapes world.nesting arrivals)) connection := by
  unfold serve
  rw [wp_bind]
  apply wp_mono (startWith_spec world language starting)
  · intro _ next live
    rw [wp_ite]
    constructor
    · intro _
      apply wp_mono (serveStateful_serves chars world backend arrivals next live)
      · intro goesOn last served
        cases goesOn with
        | true => exact Live.waits served
        | false => exact served
      · exact fun _ _ raised => raised
    · intro _
      rw [wp_bind]
      apply wp_mono (serveChunked_serves chars world [] settings.silenceDetector arrivals next live)
      · intro buffer last served
        cases buffer with
        | some _ => exact Live.waits served
        | none => exact served
      · exact fun _ _ raised => raised
  · exact fun exc next raised => fallen_raises exc next (raises_nothing world raised)

theorem readStart_abnormal {payload : Payload} {failure : Failure} (failed : readStart settings payload = .error failure) :
    failure.closeCode ≠ 1000 := by
  unfold readStart at failed
  split_ifs at failed
  · cases failed
    decide
  · cases failed
    decide
  · split at failed
    · cases failed
      decide
    · split_ifs at failed <;> cases failed <;> decide

theorem parseStreamStart_abnormal {rawStart : Str} {failure : Failure}
    (failed : parseStreamStart settings world rawStart = .ok (.error failure)) : failure.closeCode ≠ 1000 := by
  unfold parseStreamStart at failed
  split at failed
  · cases failed
    decide
  · cases failed
  · exact readStart_abnormal (Except.ok.inj failed)
  · cases failed
    decide

theorem converse_spec (arrivals : List Arrival) {connection : Connection σ} (starting : Starting settings connection) :
    wp (converse chars settings world backend arrivals)
      (fun waits next => if waits then Waits settings next else Settled (Leaves arrivals) next)
      (Raises settings world (Escapes world.nesting arrivals)) connection := by
  have refused {failure : Failure} (abnormal : failure.closeCode ≠ 1000) : wp (do fail world failure; return false)
      (fun (waits : Bool) next => if waits then Waits settings next else Settled (Leaves arrivals) next)
      (Raises settings world (Escapes world.nesting arrivals)) connection := by
    rw [wp_bind]
    apply fail_spec world starting.talking abnormal
    · exact fun next closed _ => closed.closed
    · exact fun step next gone => .inl (.inr ⟨⟨step,rfl⟩,gone⟩)
  unfold converse
  cases arrivals with
  | nil => exact ⟨starting.talking,[],starting.told⟩
  | cons arrival rest =>
    have first : [arrival] ⊆ arrival :: rest := by simp
    have later : rest ⊆ arrival :: rest := List.subset_cons_self arrival rest
    cases arrival with
    | timedOut => exact refused (by decide)
    | message message =>
      obtain ⟨disconnect,bytes,text⟩ := message
      dsimp only
      split
      · split
        · rename_i parsed
          exact .inr ⟨(parseStreamStart_raised world parsed).more first,starting.talking⟩
        · rename_i failure failed
          exact refused (parseStreamStart_abnormal world failed)
        · apply wp_mono (serve_spec chars world backend _ rest starting)
          · intro waits next served
            cases waits with
            | true => exact served
            | false => exact Settled.weaken served fun left => left.more later
          · exact fun exc next raised => raised.weaken fun _ escapes => escapes.more later
      · exact refused (by decide)

theorem abort_settles {leaves : Prop} {connection : Connection σ} (settled : Settled leaves connection) :
    wp abort (fun _ next => (Settled leaves next ∧ next.sessionId = none) ∧ next.socket = connection.socket) (fun _ _ => False)
      connection := by
  obtain ⟨known,opened,sent,ending,framed⟩ := settled
  apply abort_spec known
  intro calls released
  exact ⟨⟨⟨released,opened,sent,ending,framed.of rfl rfl rfl rfl⟩,rfl⟩,rfl⟩

theorem accepted_starting (start : σ) : Starting settings (.accepted settings world start) :=
  ⟨rfl,rfl,rfl,rfl,rfl,ordered_goOn (by simp),explains_silent rfl rfl,numbered_silent rfl,rfl,by simp⟩

/-- What is raised by `transcribe_stream` was raised by reading a message, while the socket was open, or
    by a frame that was not written. -/
def Escaped (world : World) (arrivals : List Arrival) (exc : Raised) (connection : Connection σ) : Prop :=
  connection.socket = .open ∧ Escapes world.nesting arrivals exc ∨ connection.socket = .gone ∧ ∃ step, exc = world.lost step

/-- A connection that does not wait for its client has given its session back. -/
theorem transcribeStream_spec (arrivals : List Arrival) (start : σ) :
    wp (transcribeStream chars settings world backend arrivals)
      (fun waits next => if waits then Waits settings next else Settled (Leaves arrivals) next ∧ next.sessionId = none)
      (fun exc next => (Settled True next ∧ next.sessionId = none) ∧ Escaped world arrivals exc next)
      (.accepted settings world start) := by
  have conversed : wp (tryCatch (converse chars settings world backend arrivals) fun exc => do
      abort
      if exc = .streamClosed ∨ exc = .disconnected then return false else throw exc)
      (fun waits next => if waits then Waits settings next else Settled (Leaves arrivals) next)
      (fun exc next => (Settled True next ∧ next.sessionId = none) ∧ Escaped world arrivals exc next)
      (.accepted settings world start) := by
    rw [wp_tryCatch]
    apply wp_mono (converse_spec chars world backend arrivals (accepted_starting world start))
    · exact fun _ _ served => served
    · intro exc next raised
      rw [wp_bind]
      rcases raised with fallen | ⟨escapes,talking⟩
      · apply wp_mono (abort_settles fallen.settled)
        · rintro _ last ⟨⟨settled,released⟩,same⟩
          rw [wp_ite]
          constructor
          · exact fun _ => settled
          · intro other
            rw [not_or] at other
            rcases fallen with ⟨closed,_⟩ | ⟨unsent,past⟩
            · exact absurd closed other.1
            · exact ⟨⟨settled.weaken fun _ => trivial,released⟩,.inr ⟨same.trans past.socket,unsent⟩⟩
        · exact fun _ _ no => no.elim
      · apply wp_mono (abort_settles (talking.settled trivial))
        · rintro _ last ⟨⟨settled,released⟩,same⟩
          obtain ⟨_,_,error,_,rfl⟩ := id escapes
          rw [if_neg (by simp)]
          exact ⟨⟨settled,released⟩,.inl ⟨same.trans talking.socket,escapes⟩⟩
        · exact fun _ _ no => no.elim
  unfold transcribeStream
  rw [wp_bind]
  apply wp_mono conversed
  · intro waits next served
    cases waits with
    | true =>
      rw [wp_bind,wp_when]
      exact ⟨fun no => by simp at no,fun _ => served⟩
    | false =>
      rw [wp_bind,wp_when]
      constructor
      · intro _
        exact wp_mono (abort_settles served) (fun _ _ settled => settled.1) fun _ _ no => no.elim
      · intro no
        simp at no
  · exact fun _ _ raised => raised

/-- What holds of every end of `transcribe_stream` holds of a connection that was served. -/
theorem connect_spec {returns : Bool → Connection σ → Prop} {raises : Raised → Connection σ → Prop} {arrivals : List Arrival}
    {start : σ} (holds : wp (transcribeStream chars settings world backend arrivals) returns raises (.accepted settings world start)) :
    ∃ standing connection, connect chars settings world backend arrivals start = (standing,connection) ∧
      match standing with
      | .waits => returns true connection
      | .returned => returns false connection
      | .raised exc => raises exc connection := by
  unfold wp at holds
  unfold connect
  split at holds
  · rename_i waits connection ran
    rw [ran]
    cases waits with
    | true => exact ⟨_,_,rfl,holds⟩
    | false => exact ⟨_,_,rfl,holds⟩
  · rename_i exc connection ran
    rw [ran]
    exact ⟨_,_,rfl,holds⟩

theorem Waits.framed {connection : Connection σ} (waits : Waits settings connection) :
    ∃ sent, Told settings connection sent [] ∧ Framed connection sent [] := by
  obtain ⟨talking,sent,told⟩ := waits
  exact ⟨sent,told,told.framed (List.append_nil _).symm rfl rfl (talking.socket ▸ .talking)⟩

end

/-! ## Whole connections -/

section
variable {σ : Type} (chars : Alphabet) (settings : ConnectionSettings) (world : World) (backend : VADBackend σ)

/-- Whenever the server waits for its client, a client that read all frames shows the transcript of the
    server. Every sentence that it was ever sent is confirmed, and what it makes of the events of a
    finished stream is the whole transcript. -/
theorem connection_shows (arrivals : List Arrival) (start : σ) :
    ∃ standing connection sent ending, connect chars settings world backend arrivals start = (standing,connection) ∧
      connection.frames = sent.map .event ++ ending ∧
      (standing = .waits → (DisplayState.feed {} sent).text =
        connection.transcript.confirmedText ++ connection.transcript.partialText) ∧
      (sentenceFinals sent).flatten <+: connection.transcript.confirmedText ∧
      (ending = [.close 1000] → transcriptFromEvents sent =
        connection.transcript.confirmedText ++ connection.transcript.partialText) := by
  obtain ⟨standing,connection,ran,ended⟩ :=
    connect_spec chars world backend (transcribeStream_spec chars world backend arrivals start)
  have completed {sent : List TranscriptEvent} {ending : List Frame} (framed : Framed connection sent ending)
      (closed : ending = [.close 1000]) :
      transcriptFromEvents sent = connection.transcript.confirmedText ++ connection.transcript.partialText := by
    subst closed
    have ends := framed.ends
    generalize connection.socket = socket at ends
    cases ends with
    | finished final => exact framed.completed final
  cases standing with
  | waits =>
    obtain ⟨sent,told,framed⟩ := Waits.framed ended
    refine ⟨.waits,connection,sent,[],ran,framed.frames,fun _ => ?_,framed.confirmed,completed framed⟩
    have explains := told.explains
    rw [List.append_nil] at explains
    have shown := explains.shows {} rfl
    rw [DisplayState.text,explains.sentences,shown,explains.confirmed]
    rfl
  | returned =>
    obtain ⟨⟨_,_,sent,ending,framed⟩,_⟩ := ended
    exact ⟨.returned,connection,sent,ending,ran,framed.frames,(fun waits => by cases waits),framed.confirmed,completed framed⟩
  | raised exc =>
    obtain ⟨⟨⟨_,_,sent,ending,framed⟩,_⟩,_⟩ := ended
    exact ⟨.raised exc,connection,sent,ending,ran,framed.frames,(fun waits => by cases waits),framed.confirmed,completed framed⟩

/-- A session that is known and not there was not created, or it was aborted or finished. -/
theorem Known.released {connection : Connection σ} (known : Known connection) (without : connection.sessionId = none) :
    ∃ use, uses connection.calls = some use ∧ (use = .unopened ∨ use = .refused ∨ use = .released ∨
      ∃ sessionId, use = .held .finishing sessionId ∧ connection.finished = true) := by
  obtain ⟨use,used,fits⟩ := known
  refine ⟨use,used,?_⟩
  rw [without] at fits
  cases use with
  | unopened => exact .inl rfl
  | refused => exact .inr (.inl rfl)
  | released => exact .inr (.inr (.inl rfl))
  | held stage sessionId =>
    rcases fits with ⟨no,_⟩ | ⟨rfl,_,finished⟩
    · cases no
    · exact .inr (.inr (.inr ⟨sessionId,rfl,finished⟩))

/-- The coordinator is asked for one session at most, and only that session is used, while it is open.
    When the connection no longer waits for its client, whether `transcribe_stream` returned or raised,
    no session was created, or it was aborted, or the stream finished and the finishing of its session was
    the last call. -/
theorem connection_releases (arrivals : List Arrival) (start : σ) :
    ∃ standing connection use, connect chars settings world backend arrivals start = (standing,connection) ∧
      uses connection.calls = some use ∧
      (standing ≠ .waits → use = .unopened ∨ use = .refused ∨ use = .released ∨
        ∃ sessionId, use = .held .finishing sessionId ∧ connection.finished = true) := by
  obtain ⟨standing,connection,ran,ended⟩ :=
    connect_spec chars world backend (transcribeStream_spec chars world backend arrivals start)
  cases standing with
  | waits =>
    obtain ⟨⟨_,⟨use,used,_⟩,_⟩,_⟩ := ended
    exact ⟨.waits,connection,use,ran,used,fun no => absurd rfl no⟩
  | returned =>
    obtain ⟨⟨known,_⟩,without⟩ := ended
    obtain ⟨use,used,released⟩ := known.released without
    exact ⟨.returned,connection,use,ran,used,fun _ => released⟩
  | raised exc =>
    obtain ⟨⟨⟨known,_⟩,without⟩,_⟩ := ended
    obtain ⟨use,used,released⟩ := known.released without
    exact ⟨.raised exc,connection,use,ran,used,fun _ => released⟩

end

end SpeechGateway.Connections
