import SpeechGateway.Concluding

/-!
The audio of a stream whose settings have no detector. The coordinator hears a beginning of what the
client sends, in order and once. It lacks only what waits in the buffer of a chunked stream while the
server waits, and it has heard everything before a stream finishes (`connection_hears`).
-/
namespace SpeechGateway.Connections
open SpeechGateway.Streaming SpeechGateway.Vad SpeechGateway.Coordinator Programs
open SpeechGateway.Stateful (Failure StreamingTranscriptionResult lastFinished)
open JsonText (Nesting)
open Unicode (Str)

/-- The audio of a message. -/
def Arrival.audio : Arrival → Pcm
  | .message received => received.bytes.getD []
  | .timedOut => []

/-- The command that ends the stream. -/
def Arrival.ends (room : Nesting) : Arrival → Bool
  | .message received =>
    !received.disconnect && received.bytes.isNone && received.text.any fun text => readCommand room text == .finish
  | .timedOut => false

/-- All audio of some messages. -/
def spoken (arrivals : List Arrival) : Pcm := (arrivals.map Arrival.audio).flatten

theorem spoken_cons (arrival : Arrival) (rest : List Arrival) : spoken (arrival :: rest) = arrival.audio ++ spoken rest := by
  simp [spoken]

section
variable {σ α β : Type}

/-- The coordinator has heard a beginning of the audio. -/
def Within (audio : Pcm) (connection : Connection σ) : Prop := heard connection.calls <+: audio

theorem Within.more {audio : Pcm} {connection : Connection σ} (within : Within audio connection) (later : Pcm) :
    Within (audio ++ later) connection :=
  List.IsPrefix.trans within (List.prefix_append audio later)

/-- The coordinator has heard the beginning, and nothing else. -/
theorem Within.still {before : Pcm} {connection : Connection σ} (same : heard connection.calls = before) (later : Pcm) :
    Within (before ++ later) connection := by
  rw [Within,same]
  exact List.prefix_append ..

theorem Within.buffered {before buffer : Pcm} {connection : Connection σ} (same : heard connection.calls = before) (later : Pcm) :
    Within (before ++ buffer ++ later) connection :=
  (Within.still same buffer).more later

/-- Where the program returns, the coordinator has heard the audio, and where it raises, a beginning
    of it. -/
def Gives (audio : Pcm) (program : Code σ α) : Prop :=
  ∀ connection, wp program (fun _ next => heard next.calls = heard connection.calls ++ audio)
    (fun _ => Within (heard connection.calls ++ audio)) connection

theorem gives_bind {first : Code σ β} {later : β → Code σ α} {early late : Pcm} (gives : Gives early first)
    (givesLater : ∀ value, Gives late (later value)) : Gives (early ++ late) (first >>= later) := by
  intro connection
  rw [wp_bind]
  apply wp_mono (gives connection)
  · intro value next hears
    apply wp_mono (givesLater value next)
    · intro _ last hearsLater
      rw [hearsLater,hears,List.append_assoc]
    · intro _ last within
      rwa [hears,List.append_assoc] at within
  · intro _ next within
    have whole := within.more late
    rwa [List.append_assoc] at whole

/-- What keeps every statement about the audio gives nothing. -/
theorem gives_nothing {program : Code σ α} (keeps : ∀ inv : Connection σ → Prop, Deaf inv → Keeps inv program) :
    Gives [] program := by
  intro connection
  have deaf : Deaf fun next : Connection σ => heard next.calls = heard connection.calls :=
    fun _ _ _ same holds => same.trans holds
  apply wp_mono (keeps _ deaf connection rfl)
  · intro _ next hears
    rw [hears,List.append_nil]
  · intro _ next hears
    rw [Within,hears,List.append_nil]

/-- Something silent before or after. -/
theorem gives_after {first : Code σ β} {later : β → Code σ α} {audio : Pcm} (silent : Gives [] first)
    (gives : ∀ value, Gives audio (later value)) : Gives audio (first >>= later) := by
  have both := gives_bind silent gives
  rwa [List.nil_append] at both

theorem gives_before {first : Code σ β} {later : β → Code σ α} {audio : Pcm} (gives : Gives audio first)
    (silent : ∀ value, Gives [] (later value)) : Gives audio (first >>= later) := by
  have both := gives_bind gives silent
  rwa [List.append_nil] at both

theorem gives_pure (value : α) : Gives [] (pure value : Code σ α) := gives_nothing fun _ _ => keeps_pure value

theorem gives_when {condition : Prop} [Decidable condition] {program : Code σ Unit} (gives : condition → Gives [] program) :
    Gives [] (when condition program) := by
  unfold when
  split
  · exact gives ‹_›
  · exact gives_pure ()

variable (world : World)

/-- A refusal raises, and the coordinator hears nothing of it. -/
theorem refuse_never (failure : Failure) (connection : Connection σ) :
    wp (refuse world failure : Code σ α) (fun _ _ => False) (fun _ next => heard next.calls = heard connection.calls) connection := by
  have deaf : Deaf fun next : Connection σ => heard next.calls = heard connection.calls :=
    fun _ _ _ same holds => same.trans holds
  unfold refuse
  rw [wp_bind]
  exact keeps_fail deaf world failure connection rfl

theorem gives_reporting {handler : Raised → Option Failure} {program : Code σ α} {audio : Pcm} (gives : Gives audio program) :
    Gives audio (reporting world handler program) := by
  intro connection
  unfold reporting
  rw [wp_tryCatch]
  apply wp_mono (gives connection)
  · exact fun _ _ hears => hears
  · intro exc next within
    split
    · apply wp_mono (refuse_never world _ next)
      · exact fun _ _ no => no.elim
      · intro _ last same
        rwa [Within,same]
    · exact within

theorem gives_call (request : CoordinatorCall) : Gives request.audio (call request : Code σ Unit) := by
  intro connection
  exact heard_snoc ..

theorem gives_awaitModelOperation {request : OperationOutcome α → CoordinatorCall} (outcomes : Nat → OperationOutcome α)
    {audio : Pcm} (carries : ∀ outcome, (request outcome).audio = audio) :
    Gives audio (awaitModelOperation world request outcomes : Code σ α) := by
  unfold awaitModelOperation
  apply gives_after (gives_nothing fun _ deaf => keeps_remaining deaf world)
  intro remaining
  apply gives_after (gives_nothing fun _ deaf => keeps_when fun _ => keeps_expireSession deaf world)
  intro _
  apply gives_after (gives_nothing fun _ deaf => keeps_step deaf)
  intro steps
  apply gives_before
  · rw [← carries (outcomes steps)]
    exact gives_call _
  · exact fun _ => gives_nothing fun _ deaf => keeps_concluded deaf world _

variable (chars : Alphabet) (settings : ConnectionSettings) (backend : VADBackend σ)

theorem gives_addModelAudio (pcm : Pcm) : Gives pcm (addModelAudio chars settings world backend pcm) := by
  unfold addModelAudio
  apply gives_after (gives_nothing fun _ _ => keeps_requireSession)
  intro sessionId
  apply gives_before
  · exact gives_reporting world (gives_awaitModelOperation world _ fun _ => rfl)
  · intro result
    apply gives_nothing
    intro inv deaf
    refine keeps_bind (keeps_ensureSessionActive deaf world) fun _ => ?_
    refine keeps_bind (keeps_enforceStreamProgress deaf world settings result _) fun _ => ?_
    refine keeps_bind (keeps_reporting deaf world (keeps_applySnapshots deaf world chars settings backend _)) fun _ => ?_
    exact keeps_pure _

theorem gives_validateAudioFrame (pcm : Pcm) : Gives [] (validateAudioFrame settings world pcm : Code σ Unit) := by
  unfold validateAudioFrame
  apply gives_nothing
  intro inv deaf
  refine keeps_bind (keeps_when fun _ => keeps_refuse deaf world _) fun _ => ?_
  refine keeps_bind (keeps_when fun _ => keeps_refuse deaf world _) fun _ => ?_
  refine keeps_bind keeps_get fun _ => keeps_bind (keeps_when fun _ => keeps_refuse deaf world _) fun _ => ?_
  exact keeps_change deaf (fun _ => rfl) fun _ => rfl

section
variable {settings} (undetected : settings.vad = none)
include undetected

theorem gives_addAudio (pcm : Pcm) : Gives pcm (addAudio chars settings world backend pcm) := by
  unfold addAudio
  simp only [undetected]
  apply gives_after (gives_validateAudioFrame world settings pcm)
  intro _
  apply gives_before (gives_addModelAudio world chars settings backend pcm)
  intro finished
  apply gives_nothing
  intro inv deaf
  apply keeps_bind keeps_get
  intro connection
  refine keeps_bind (keeps_change deaf (fun _ => rfl) fun _ => rfl) fun _ => keeps_ite (fun _ => ?_) fun _ => ?_
  · exact keeps_commitFinishedSegment deaf world chars settings backend rfl
  · exact keeps_when fun _ => keeps_resetSegment deaf world chars settings backend (by simp [undetected])

theorem gives_endInput : Gives [] (endInput chars settings world backend) := by
  unfold endInput
  simp only [undetected]
  exact gives_pure false

theorem gives_explicitSegment : Gives [] (explicitSegment chars settings world backend) := by
  unfold explicitSegment
  apply gives_after (gives_endInput world chars backend undetected)
  intro finalized
  apply gives_nothing
  intro inv deaf
  refine keeps_bind (keeps_when fun _ => keeps_resetSegment deaf world chars settings backend rfl) fun _ => ?_
  apply keeps_when
  intro detected
  simp [undetected] at detected

theorem gives_finish : Gives [] (finish chars settings world backend) := by
  have announces : Gives [] (announce world fun transcript => transcript.finalEvent : Code σ Unit) := by
    unfold announce
    apply gives_nothing
    intro inv deaf
    exact keeps_bind keeps_get fun _ => keeps_bind (keeps_change deaf (fun _ => rfl) fun _ => rfl) fun _ =>
      keeps_sendEvent deaf world _
  unfold finish
  apply gives_after (gives_nothing fun _ _ => keeps_requireSession)
  intro _
  apply gives_after
  · apply gives_reporting
    apply gives_after (gives_endInput world chars backend undetected)
    intro _
    apply gives_after (gives_nothing fun _ _ => keeps_requireSession)
    intro sessionId
    apply gives_after (gives_awaitModelOperation world _ fun _ => rfl)
    intro result
    apply gives_after (gives_nothing fun _ deaf => keeps_ensureSessionActive deaf world)
    intro _
    apply gives_after (gives_nothing fun _ deaf => keeps_enforceStreamProgress deaf world settings result 0)
    intro _
    apply gives_after (gives_nothing fun _ deaf => keeps_emit deaf world _)
    exact fun _ => announces
  · intro _
    apply gives_nothing
    intro inv deaf
    exact keeps_bind (keeps_change deaf (fun _ => rfl) fun _ => rfl) fun _ => keeps_transmit deaf world _

end

theorem gives_transcribeBuffer (buffer : Pcm) : Gives buffer (transcribeBuffer chars settings world buffer : Code σ Unit) := by
  unfold transcribeBuffer
  apply gives_before
  · unfold transcribeChunk
    apply gives_after (gives_nothing fun _ deaf => keeps_step deaf)
    intro started
    apply gives_before
    · apply gives_reporting
      apply gives_after (gives_nothing fun _ _ => keeps_requireSession)
      exact fun sessionId => gives_awaitModelOperation world _ fun _ => rfl
    · intro text
      apply gives_nothing
      intro inv deaf
      refine keeps_bind (keeps_ensureSessionActive deaf world) fun _ => keeps_bind (keeps_step deaf) fun _ => ?_
      refine keeps_bind ?_ fun _ => keeps_bind (keeps_when fun _ => keeps_refuse deaf world _) fun _ => keeps_pure _
      unfold chunkTooLate
      exact keeps_bind keeps_get fun _ => keeps_bind (keeps_change deaf (fun _ => rfl) fun _ => rfl) fun _ => keeps_pure _
  · exact fun text => gives_when fun _ => gives_nothing fun _ deaf => keeps_emit deaf world _

theorem gives_flushChunkedBuffer (buffer : Pcm) (commitBoundary : Bool) :
    Gives buffer (flushChunkedBuffer chars settings world buffer commitBoundary : Code σ Unit) := by
  unfold flushChunkedBuffer
  apply gives_before
  · by_cases empty : buffer = []
    · rw [empty]
      exact gives_when fun some => absurd rfl some
    · unfold when
      rw [if_pos empty]
      exact gives_transcribeBuffer world chars settings buffer
  · intro _
    apply gives_nothing
    intro inv deaf
    refine keeps_when fun _ => keeps_bind (keeps_ensureSessionActive deaf world) fun _ => ?_
    exact keeps_bind (keeps_emit deaf world _) fun _ => keeps_change deaf (fun _ => rfl) fun _ => rfl

theorem gives_finishChunked : Gives [] (finishChunked world : Code σ Unit) := by
  unfold finishChunked announce
  apply gives_nothing
  intro inv deaf
  refine keeps_bind (keeps_ensureSessionActive deaf world) fun _ => keeps_bind ?_ fun _ => ?_
  · exact keeps_bind keeps_get fun _ => keeps_bind (keeps_change deaf (fun _ => rfl) fun _ => rfl) fun _ =>
      keeps_sendEvent deaf world _
  · exact keeps_bind (keeps_abort deaf) fun _ => keeps_transmit deaf world _

end

/-! ## Runs -/

/-- The connection does not read the socket's end where it is not closed. -/
theorem Framed.unfinished {σ : Type} {connection : Connection σ} {sent : List TranscriptEvent} {ending : List Frame}
    (framed : Framed connection sent ending) (unclosed : connection.socket ≠ .closed) : Unfinished connection := by
  have ends := framed.ends
  have event : (sent.map Frame.event).getLast? ≠ some (.close 1000) := by
    rw [List.getLast?_map]
    cases sent.getLast? <;> simp
  unfold Unfinished
  rw [framed.frames]
  generalize connection.socket = socket at ends unclosed
  cases ends with
  | talking => rwa [List.append_nil]
  | left => rwa [List.append_nil]
  | leftAtError => simp
  | failed => exact absurd rfl unclosed
  | finished => exact absurd rfl unclosed

section
variable {σ : Type} {settings : ConnectionSettings} (chars : Alphabet) (world : World) (backend : VADBackend σ)

/-- A stream that goes on has not been closed. -/
theorem Live.unfinished {connection : Connection σ} (live : Live settings .opened [] connection) : Unfinished connection := by
  obtain ⟨sent,_,framed⟩ := live.waits.framed
  exact framed.unfinished (by simp [live.socket])

theorem fail_silent {connection : Connection σ} (talking : Talking settings connection) {failure : Failure}
    (abnormal : failure.closeCode ≠ 1000) :
    wp (fail world failure) (fun _ next => Unfinished next ∧ heard next.calls = heard connection.calls)
      (fun _ next => heard next.calls = heard connection.calls) connection := by
  have deaf : Deaf fun next : Connection σ => heard next.calls = heard connection.calls :=
    fun _ _ _ same holds => same.trans holds
  have told : wp (fail world failure) (fun _ => Unfinished) (fun _ _ => True) connection :=
    fail_spec world talking abnormal (fun _ _ unfinished => unfinished) fun _ _ _ => trivial
  exact wp_mono (wp_and told (keeps_fail deaf world failure connection rfl)) (fun _ _ both => both) fun _ _ both => both.2

/-- What an answered message leaves, where the coordinator had heard `before`: the audio of a message
    after which the stream goes on, and everything before a command that finished it. -/
def Conveyed (room : Nesting) (before : Pcm) (arrival : Arrival) (goesOn : Bool) (next : Connection σ) : Prop :=
  if goesOn then heard next.calls = before ++ arrival.audio ∧ arrival.ends room = false
  else Within (before ++ arrival.audio) next ∧ (Unfinished next ∨ arrival.ends room = true ∧ heard next.calls = before)

theorem answer_conveys (undetected : settings.vad = none) (remaining : Time) (arrival : Arrival) {connection : Connection σ}
    (live : Live settings .opened [] connection) :
    wp (answer chars settings world backend remaining arrival) (Conveyed world.nesting (heard connection.calls) arrival)
      (fun _ => Within (heard connection.calls ++ arrival.audio)) connection := by
  have refused {failure : Failure} (abnormal : failure.closeCode ≠ 1000) : wp (do fail world failure; return false)
      (Conveyed world.nesting (heard connection.calls) arrival)
      (fun _ => Within (heard connection.calls ++ arrival.audio)) connection := by
    rw [wp_bind]
    apply wp_mono (fail_silent world live.talking abnormal)
    · exact fun _ _ told => ⟨.still told.2 _,.inl told.1⟩
    · exact fun _ _ same => .still same _
  cases arrival with
  | timedOut => exact refused (receiveTimeout_abnormal settings remaining)
  | message message =>
    obtain ⟨disconnect,bytes,text⟩ := message
    unfold answer
    cases disconnect with
    | true => exact ⟨.still rfl _,.inl live.unfinished⟩
    | false =>
      cases bytes with
      | some pcm =>
        dsimp only
        rw [if_neg Bool.false_ne_true,wp_bind]
        apply wp_mono (gives_addAudio world chars backend undetected pcm connection)
        · exact fun _ _ hears => ⟨hears,rfl⟩
        · exact fun _ _ within => within
      | none =>
        cases text with
        | none => exact refused (by decide)
        | some text =>
          dsimp only
          rw [if_neg Bool.false_ne_true]
          cases command : readCommand world.nesting text with
          | raised error => exact .still rfl _
          | finish =>
            dsimp only
            rw [wp_bind]
            apply wp_mono (gives_finish world chars backend undetected connection)
            · intro _ next hears
              rw [List.append_nil] at hears
              exact ⟨.still hears _,.inr ⟨by simp [Arrival.ends,command],hears⟩⟩
            · exact fun _ _ within => within
          | segment =>
            dsimp only
            rw [wp_bind]
            apply wp_mono (gives_explicitSegment world chars backend undetected connection)
            · intro _ next hears
              exact ⟨hears,by simp [Arrival.ends,command]⟩
            · exact fun _ _ within => within
          | invalid reason => exact refused (by simp [invalidMessage])

/-- One of the messages ended the stream, and all audio before it was heard. -/
def HeardOut (room : Nesting) (before : Pcm) (arrivals : List Arrival) (next : Connection σ) : Prop :=
  heard next.calls = before ++ spoken (arrivals.takeWhile (!·.ends room)) ∧ ∃ arrival ∈ arrivals, arrival.ends room = true

theorem HeardOut.here {room : Nesting} {before : Pcm} {arrival : Arrival} {next : Connection σ} (ends : arrival.ends room = true)
    (hears : heard next.calls = before) (rest : List Arrival) : HeardOut room before (arrival :: rest) next := by
  refine ⟨?_,arrival,List.mem_cons_self,ends⟩
  rw [hears,List.takeWhile_cons,ends]
  exact (List.append_nil _).symm

theorem HeardOut.later {room : Nesting} {before : Pcm} {arrival : Arrival} {rest : List Arrival} {next : Connection σ}
    (goesOn : arrival.ends room = false) (hears : HeardOut room (before ++ arrival.audio) rest next) :
    HeardOut room before (arrival :: rest) next := by
  obtain ⟨all,ending,member,ends⟩ := hears
  refine ⟨?_,ending,List.mem_cons_of_mem _ member,ends⟩
  rw [all,List.takeWhile_cons_of_pos (by simp [goesOn]),spoken_cons,List.append_assoc]

/-- What a run of messages leaves. -/
def Heard (room : Nesting) (before : Pcm) (arrivals : List Arrival) (waits : Bool) (next : Connection σ) : Prop :=
  if waits then heard next.calls = before ++ spoken arrivals
  else Within (before ++ spoken arrivals) next ∧ (Unfinished next ∨ HeardOut room before arrivals next)

theorem serveStateful_conveys (undetected : settings.vad = none) (arrivals : List Arrival) {connection : Connection σ}
    (live : Live settings .opened [] connection) :
    wp (serveStateful chars settings world backend arrivals) (Heard world.nesting (heard connection.calls) arrivals)
      (fun _ => Within (heard connection.calls ++ spoken arrivals)) connection := by
  induction arrivals generalizing connection with
  | nil =>
    unfold serveStateful
    rw [wp_bind]
    apply remaining_spec
    intro remaining steps
    have goesOn := live.aside (steps_aside connection steps)
    rw [wp_bind,wp_when]
    constructor
    · intro expired
      have late : decide (0 < remaining) = false := by simpa using expired
      rw [late]
      apply wp_mono (fail_silent world goesOn.talking (by decide))
      · exact fun _ _ told => ⟨.still told.2 _,.inl told.1⟩
      · exact fun _ _ same => .still same _
    · intro early
      have soon : decide (0 < remaining) = true := by simpa using early
      rw [soon]
      exact (List.append_nil _).symm
  | cons arrival rest ih =>
    unfold serveStateful
    rw [wp_bind]
    apply remaining_spec
    intro remaining steps
    have goesOn := live.aside (steps_aside connection steps)
    rw [wp_ite]
    constructor
    · intro _
      rw [wp_bind]
      apply wp_mono (fail_silent world goesOn.talking (by decide))
      · exact fun _ _ told => ⟨.still told.2 _,.inl told.1⟩
      · exact fun _ _ same => .still same _
    · intro _
      have whole : heard connection.calls ++ spoken (arrival :: rest) = heard connection.calls ++ arrival.audio ++ spoken rest := by
        rw [spoken_cons,List.append_assoc]
      rw [whole,wp_bind]
      apply wp_mono (wp_and (answer_serves chars world backend remaining arrival _ goesOn)
        (answer_conveys chars world backend undetected remaining arrival goesOn))
      · rintro goesOn next ⟨answered,conveyed⟩
        unfold Conveyed at conveyed
        rw [wp_ite]
        constructor
        · intro on
          rw [if_pos on] at answered conveyed
          have further := ih answered
          rw [conveyed.1] at further
          apply wp_mono further
          · intro waits last hears
            unfold Heard at hears ⊢
            rw [whole]
            cases waits with
            | true => exact hears
            | false => exact ⟨hears.1,hears.2.imp id (HeardOut.later conveyed.2)⟩
          · exact fun _ _ within => within
        · intro off
          rw [if_neg off] at conveyed
          unfold Heard
          rw [wp_pure,if_neg Bool.false_ne_true,whole]
          exact ⟨conveyed.1.more _,conveyed.2.imp id fun met => .here met.1 met.2 rest⟩
      · exact fun _ _ raised => raised.2.more _

/-- The same of a chunked stream, which keeps the audio that does not fill a chunk yet. -/
def ConveyedWith (settings : ConnectionSettings) (room : Nesting) (before : Pcm) (arrival : Arrival)
    (goesOn : Option (Pcm × SilenceEndpointDetector)) (next : Connection σ) : Prop :=
  match goesOn with
  | some (kept,_) =>
    heard next.calls ++ kept = before ++ arrival.audio ∧ arrival.ends room = false ∧ kept.length < settings.minChunkBytes
  | none => Within (before ++ arrival.audio) next ∧ (Unfinished next ∨ arrival.ends room = true ∧ heard next.calls = before)

theorem minChunkBytes_pos (settings : ConnectionSettings) : 0 < settings.minChunkBytes := by
  unfold ConnectionSettings.minChunkBytes
  omega

/-- A frame joins the buffer, and a full buffer is transcribed. -/
theorem answerAudio_conveys (buffer pcm : Pcm) (text : Option Str) (detector : SilenceEndpointDetector) (remaining : Time)
    (connection : Connection σ) :
    wp (answerChunked chars settings world buffer detector remaining (.message ⟨false,some pcm,text⟩))
      (ConveyedWith settings world.nesting (heard connection.calls ++ buffer) (.message ⟨false,some pcm,text⟩))
      (fun _ => Within (heard connection.calls ++ (buffer ++ pcm))) connection := by
  have announced : Gives [] (when (detector.addAudio pcm 16000).1 (commitPending chars world) : Code σ Unit) :=
    gives_when fun _ => gives_nothing fun _ deaf => keeps_emit deaf world _
  have conveyed {kept : Pcm} {later : SilenceEndpointDetector} {next : Connection σ}
      (hears : heard next.calls ++ kept = heard connection.calls ++ (buffer ++ pcm)) (short : kept.length < settings.minChunkBytes) :
      wp (do
        when (detector.addAudio pcm 16000).1 (commitPending chars world)
        return some (kept,later))
        (ConveyedWith settings world.nesting (heard connection.calls ++ buffer) (.message ⟨false,some pcm,text⟩))
        (fun _ => Within (heard connection.calls ++ (buffer ++ pcm))) next := by
    rw [wp_bind]
    apply wp_mono (announced next)
    · intro _ last same
      rw [List.append_nil] at same
      exact ⟨by rw [same,hears,List.append_assoc]; rfl,rfl,short⟩
    · intro _ last within
      rw [List.append_nil] at within
      rw [← hears]
      exact within.more kept
  unfold answerChunked
  dsimp only
  rw [if_neg Bool.false_ne_true,wp_bind]
  apply wp_mono (gives_validateAudioFrame world settings pcm connection)
  · intro _ next hears
    rw [List.append_nil] at hears
    by_cases full : settings.minChunkBytes ≤ (buffer ++ pcm).length
    · have yes : decide (settings.minChunkBytes ≤ (buffer ++ pcm).length) = true := decide_eq_true full
      simp only [yes,if_true]
      rw [wp_bind,wp_when]
      refine ⟨fun _ => ?_,fun no => absurd yes no⟩
      apply wp_mono (gives_flushChunkedBuffer world chars settings (buffer ++ pcm) false next)
      · intro _ last flushed
        exact conveyed (by rw [flushed,hears,List.append_nil]) (minChunkBytes_pos settings)
      · intro _ last within
        rwa [hears] at within
    · have no : decide (settings.minChunkBytes ≤ (buffer ++ pcm).length) = false := decide_eq_false full
      simp only [no,Bool.false_eq_true,if_false]
      rw [wp_bind,wp_when]
      refine ⟨fun yes => absurd yes (no ▸ Bool.false_ne_true),fun _ => ?_⟩
      exact conveyed (by rw [hears]) (Nat.lt_of_not_le full)
  · intro _ next within
    rw [List.append_nil] at within
    exact within.more _

theorem answerChunked_conveys {buffer : Pcm} (short : buffer.length < settings.minChunkBytes) (detector : SilenceEndpointDetector)
    (remaining : Time) (arrival : Arrival) {connection : Connection σ} (live : Live settings .opened [] connection) :
    wp (answerChunked chars settings world buffer detector remaining arrival)
      (ConveyedWith settings world.nesting (heard connection.calls ++ buffer) arrival)
      (fun _ => Within (heard connection.calls ++ buffer ++ arrival.audio)) connection := by
  have refused (failure : Failure) :
      wp (refuse world failure) (ConveyedWith settings world.nesting (heard connection.calls ++ buffer) arrival)
        (fun _ => Within (heard connection.calls ++ buffer ++ arrival.audio)) connection :=
    wp_mono (refuse_never world failure connection) (fun _ _ no => no.elim) fun _ _ same => .buffered same _
  cases arrival with
  | timedOut => exact refused _
  | message message =>
    obtain ⟨disconnect,bytes,text⟩ := message
    cases disconnect with
    | true =>
      unfold answerChunked
      exact ⟨.buffered rfl _,.inl live.unfinished⟩
    | false =>
      cases bytes with
      | some pcm =>
        apply wp_mono (answerAudio_conveys chars world buffer pcm text detector remaining connection)
        · exact fun _ _ conveyed => conveyed
        · intro _ next within
          rwa [← List.append_assoc] at within
      | none =>
        unfold answerChunked
        cases text with
        | none => exact ⟨(List.append_nil _).symm,rfl,short⟩
        | some text =>
          dsimp only
          rw [if_neg Bool.false_ne_true]
          cases command : readCommand world.nesting text with
          | raised error => exact .buffered rfl _
          | finish =>
            dsimp only
            rw [wp_bind]
            apply wp_mono (gives_flushChunkedBuffer world chars settings buffer false connection)
            · intro _ next flushed
              rw [wp_bind]
              apply wp_mono (gives_finishChunked world next)
              · intro _ last same
                rw [List.append_nil] at same
                have all := same.trans flushed
                exact ⟨.still all _,.inr ⟨by simp [Arrival.ends,command],all⟩⟩
              · intro _ last within
                rw [List.append_nil,flushed] at within
                exact within.more _
            · exact fun _ _ within => within.more _
          | segment =>
            dsimp only
            rw [wp_bind]
            apply wp_mono (gives_flushChunkedBuffer world chars settings buffer true connection)
            · intro _ next flushed
              exact ⟨by rw [flushed]; rfl,by simp [Arrival.ends,command],minChunkBytes_pos settings⟩
            · exact fun _ _ within => within.more _
          | invalid reason => exact refused _

/-- What a run of messages leaves of a chunked stream. -/
def HeardWith (settings : ConnectionSettings) (room : Nesting) (before : Pcm) (arrivals : List Arrival) (waits : Option Pcm)
    (next : Connection σ) : Prop :=
  match waits with
  | some kept => heard next.calls ++ kept = before ++ spoken arrivals ∧ kept.length < settings.minChunkBytes
  | none => Within (before ++ spoken arrivals) next ∧ (Unfinished next ∨ HeardOut room before arrivals next)

theorem serveChunked_conveys {buffer : Pcm} (short : buffer.length < settings.minChunkBytes) (detector : SilenceEndpointDetector)
    (arrivals : List Arrival) {connection : Connection σ} (live : Live settings .opened [] connection) :
    wp (serveChunked chars settings world buffer detector arrivals)
      (HeardWith settings world.nesting (heard connection.calls ++ buffer) arrivals)
      (fun _ => Within (heard connection.calls ++ buffer ++ spoken arrivals)) connection := by
  have expired {arrivals : List Arrival} {buffer : Pcm} {connection : Connection σ} {returns : Unit → Connection σ → Prop} :
      wp (refuse world sessionTimeout) returns (fun _ => Within (heard connection.calls ++ buffer ++ spoken arrivals)) connection := by
    apply wp_mono (refuse_never world sessionTimeout connection)
    · exact fun _ _ no => no.elim
    · exact fun _ _ same => .buffered same _
  induction arrivals generalizing buffer detector connection with
  | nil =>
    unfold serveChunked
    rw [wp_bind]
    apply remaining_spec
    intro remaining steps
    rw [wp_bind,wp_when]
    exact ⟨fun _ => expired,fun _ => ⟨(List.append_nil _).symm,short⟩⟩
  | cons arrival rest ih =>
    unfold serveChunked
    rw [wp_bind]
    apply remaining_spec
    intro remaining steps
    have goesOn := live.aside (steps_aside connection steps)
    rw [wp_bind,wp_when]
    refine ⟨fun _ => expired,fun _ => ?_⟩
    have whole : heard connection.calls ++ buffer ++ spoken (arrival :: rest) =
        heard connection.calls ++ buffer ++ arrival.audio ++ spoken rest := by
      rw [spoken_cons,← List.append_assoc]
    rw [whole,wp_bind]
    apply wp_mono (wp_and (answerChunked_serves chars world buffer detector remaining arrival _ goesOn)
      (answerChunked_conveys chars world short detector remaining arrival goesOn))
    · rintro kept next ⟨answered,conveyed⟩
      cases kept with
      | none =>
        obtain ⟨within,ended⟩ := conveyed
        unfold HeardWith
        dsimp only
        rw [whole]
        exact ⟨within.more _,ended.imp id fun met => .here met.1 met.2 rest⟩
      | some kept =>
        obtain ⟨kept,later⟩ := kept
        obtain ⟨hears,goesOn,fits⟩ := conveyed
        have further := ih fits later answered
        rw [hears] at further
        apply wp_mono further
        · intro waits last final
          unfold HeardWith at final ⊢
          rw [whole]
          cases waits with
          | some kept => exact final
          | none => exact ⟨final.1,final.2.imp id (HeardOut.later goesOn)⟩
        · exact fun _ _ within => within
    · exact fun _ _ raised => raised.2.more _

/-! ## `transcribe_stream` -/

/-- What the coordinator has heard of the messages after the start message. While the server waits, it
    lacks a part of a chunk at most, and when a stream has finished, it lacks nothing. -/
def Recorded (settings : ConnectionSettings) (room : Nesting) (arrivals : List Arrival) (waits : Bool) (next : Connection σ) :
    Prop :=
  if waits then ∃ buffer, heard next.calls ++ buffer = spoken arrivals ∧ buffer.length < settings.minChunkBytes ∧
    (settings.stateful = true → buffer = [])
  else Within (spoken arrivals) next ∧ (Unfinished next ∨ HeardOut room [] arrivals next)

theorem gives_startWith (language : Option Str) : Gives [] (startWith world language : Code σ Unit) := by
  unfold startWith
  apply gives_after (gives_reporting world (gives_awaitModelOperation world _ fun _ => rfl))
  intro sessionId
  apply gives_nothing
  intro inv deaf
  refine keeps_bind (keeps_change deaf (fun _ => rfl) fun _ => rfl) fun _ => ?_
  refine keeps_bind (keeps_ensureSessionActive deaf world) fun _ => ?_
  unfold announce
  exact keeps_bind keeps_get fun _ => keeps_bind (keeps_change deaf (fun _ => rfl) fun _ => rfl) fun _ =>
    keeps_sendEvent deaf world _

theorem Starting.silent {connection : Connection σ} (starting : Starting settings connection) : heard connection.calls = [] := by
  rw [starting.calls]
  rfl

theorem serve_records (undetected : settings.stateful = true → settings.vad = none) (language : Option Str)
    (arrivals : List Arrival) {connection : Connection σ} (starting : Starting settings connection) :
    wp (serve chars settings world backend language arrivals) (Recorded settings world.nesting arrivals)
      (fun _ => Within (spoken arrivals)) connection := by
  unfold serve
  rw [wp_bind]
  apply wp_mono (wp_and (startWith_spec world language starting) (gives_startWith world language connection))
  · rintro _ next ⟨live,silent⟩
    have nothing : heard next.calls = [] := by rw [silent,starting.silent,List.append_nil]
    rw [wp_ite]
    constructor
    · intro stateful
      have served := serveStateful_conveys chars world backend (undetected stateful) arrivals live
      rw [nothing,List.nil_append] at served
      apply wp_mono served
      · intro waits last hears
        unfold Heard at hears
        cases waits with
        | true => exact ⟨[],by rw [List.append_nil]; exact hears,minChunkBytes_pos settings,fun _ => rfl⟩
        | false => exact hears
      · exact fun _ _ within => within
    · intro chunked
      have empty : ([] : Pcm).length < settings.minChunkBytes := minChunkBytes_pos settings
      rw [wp_bind]
      have served := serveChunked_conveys chars world empty settings.silenceDetector arrivals live
      rw [nothing,List.nil_append,List.nil_append] at served
      apply wp_mono served
      · intro waits last hears
        cases waits with
        | some buffer => exact ⟨buffer,hears.1,hears.2,fun stateful => absurd stateful chunked⟩
        | none => exact hears
      · exact fun _ _ within => within
  · rintro _ next ⟨_,within⟩
    rw [starting.silent] at within
    exact within.more (spoken arrivals)

theorem converse_records (undetected : settings.stateful = true → settings.vad = none) (arrivals : List Arrival)
    {connection : Connection σ} (starting : Starting settings connection) :
    wp (converse chars settings world backend arrivals) (Recorded settings world.nesting arrivals.tail)
      (fun _ => Within (spoken arrivals.tail)) connection := by
  have still {next : Connection σ} (same : heard next.calls = heard connection.calls) : Within (spoken arrivals.tail) next := by
    rw [Within,same,starting.silent]
    exact List.nil_prefix
  have refused {failure : Failure} (abnormal : failure.closeCode ≠ 1000) : wp (do fail world failure; return false)
      (Recorded settings world.nesting arrivals.tail) (fun _ => Within (spoken arrivals.tail)) connection := by
    rw [wp_bind]
    apply wp_mono (fail_silent world starting.talking abnormal)
    · exact fun _ next told => ⟨still told.2,.inl told.1⟩
    · exact fun _ next same => still same
  unfold converse
  cases arrivals with
  | nil => exact ⟨[],by rw [starting.silent]; rfl,minChunkBytes_pos settings,fun _ => rfl⟩
  | cons arrival rest =>
    cases arrival with
    | timedOut => exact refused (by decide)
    | message message =>
      dsimp only
      split
      · split
        · exact still rfl
        · rename_i failure failed
          exact refused (parseStreamStart_abnormal world failed)
        · exact serve_records chars world backend undetected _ rest starting
      · exact refused (by decide)

/-- A session that is given back changes neither the frames nor what was heard. -/
theorem abort_silent (connection : Connection σ) :
    wp abort (fun _ next => heard next.calls = heard connection.calls ∧ next.frames = connection.frames)
      (fun _ next => heard next.calls = heard connection.calls) connection := by
  have deaf : Deaf fun next : Connection σ => heard next.calls = heard connection.calls :=
    fun _ _ _ same holds => same.trans holds
  have written : Keeps (fun next : Connection σ => next.frames = connection.frames) abort := by
    unfold abort call
    apply keeps_bind keeps_get
    intro connection
    split
    · exact keeps_pure ()
    · exact keeps_bind (keeps_modify fun _ holds => holds) fun _ => keeps_modify fun _ holds => holds
  exact wp_mono (wp_and (keeps_abort deaf connection rfl) (written connection rfl)) (fun _ _ both => both) fun _ _ both => both.1

theorem abort_records {room : Nesting} {arrivals : List Arrival} {connection : Connection σ}
    (recorded : Recorded settings room arrivals false connection) :
    wp abort (fun _ => Recorded settings room arrivals false) (fun _ => Within (spoken arrivals)) connection := by
  obtain ⟨within,ended⟩ := recorded
  apply wp_mono (abort_silent connection)
  · rintro _ next ⟨hears,frames⟩
    refine ⟨by rwa [Within,hears],ended.imp (fun unfinished => ?_) fun ⟨all,ended⟩ => ⟨hears.trans all,ended⟩⟩
    rwa [Unfinished,frames]
  · intro _ next hears
    rwa [Within,hears]

theorem transcribeStream_records (undetected : settings.stateful = true → settings.vad = none) (arrivals : List Arrival)
    (start : σ) :
    wp (transcribeStream chars settings world backend arrivals) (Recorded settings world.nesting arrivals.tail)
      (fun _ => Within (spoken arrivals.tail)) (.accepted settings world start) := by
  have starting : Starting settings (Connection.accepted settings world start) := accepted_starting world start
  unfold transcribeStream
  rw [wp_bind,wp_tryCatch]
  have last {waits : Bool} {next : Connection σ} (recorded : Recorded settings world.nesting arrivals.tail waits next) :
      wp (do when (!waits) abort; return waits) (Recorded settings world.nesting arrivals.tail)
        (fun _ => Within (spoken arrivals.tail)) next := by
    rw [wp_bind,wp_when]
    cases waits with
    | true => exact ⟨fun no => absurd no Bool.false_ne_true,fun _ => recorded⟩
    | false => exact ⟨fun _ => abort_records recorded,fun no => absurd rfl no⟩
  apply wp_mono (wp_and (converse_spec chars world backend arrivals starting)
    (converse_records chars world backend undetected arrivals starting))
  · exact fun _ _ served => last served.2
  · rintro exc next ⟨raised,within⟩
    have unfinished : Unfinished next := by
      rcases raised with (⟨_,_,unfinished⟩ | ⟨_,gone,_,sent,ending,framed⟩) | ⟨_,opened,_,sent,pending,told⟩
      · exact unfinished
      · exact framed.unfinished (by simp [gone])
      · exact (told.framed (List.append_nil _).symm rfl rfl (opened ▸ .talking)).unfinished (by simp [opened])
    have recorded : Recorded settings world.nesting arrivals.tail false next := ⟨within,.inl unfinished⟩
    rw [wp_bind]
    apply wp_mono (abort_records recorded)
    · intro _ after recorded
      rw [wp_ite]
      exact ⟨fun _ => last recorded,fun _ => recorded.1⟩
    · exact fun _ _ within => within

end

/-- For every client and every world, however a connection stands, the coordinator has heard a beginning
    of the audio of the messages after the start message, each byte once and in their order. While the
    server waits for its client, a stateful stream lacks nothing of it and a chunked one less than a
    chunk; where the frames end with the close 1000, there was a command that ends the stream, and all
    audio before it was heard. -/
theorem connection_hears {σ : Type} (chars : Alphabet) (settings : ConnectionSettings) (world : World) (backend : VADBackend σ)
    (undetected : settings.stateful = true → settings.vad = none) (arrivals : List Arrival) (start : σ) :
    ∃ standing connection, connect chars settings world backend arrivals start = (standing,connection) ∧
      heard connection.calls <+: spoken arrivals.tail ∧
      (standing = .waits → ∃ buffer, heard connection.calls ++ buffer = spoken arrivals.tail ∧
        buffer.length < settings.minChunkBytes ∧ (settings.stateful = true → buffer = [])) ∧
      (connection.frames.getLast? = some (.close 1000) →
        heard connection.calls = spoken (arrivals.tail.takeWhile (!·.ends world.nesting)) ∧
          ∃ arrival ∈ arrivals.tail, arrival.ends world.nesting = true) := by
  obtain ⟨standing,connection,ran,ended⟩ := connect_spec chars world backend (wp_and
    (transcribeStream_spec chars world backend arrivals start)
    (transcribeStream_records chars world backend undetected arrivals start))
  refine ⟨standing,connection,ran,?_⟩
  cases standing with
  | waits =>
    obtain ⟨waits,buffer,hears,short,whole⟩ := ended
    obtain ⟨sent,_,framed⟩ := Waits.framed waits
    refine ⟨⟨buffer,hears⟩,fun _ => ⟨buffer,hears,short,whole⟩,fun closed => ?_⟩
    exact absurd closed (framed.unfinished (by simp [waits.1.socket]))
  | returned =>
    obtain ⟨_,within,ended⟩ := ended
    exact ⟨within,nofun,fun closed => ended.resolve_left (absurd closed ·)⟩
  | raised exc =>
    obtain ⟨⟨⟨⟨_,_,sent,ending,framed⟩,_⟩,escaped⟩,within⟩ := ended
    refine ⟨within,nofun,fun closed => absurd closed (framed.unfinished ?_)⟩
    rcases escaped with ⟨opened,_⟩ | ⟨gone,_⟩
    · simp [opened]
    · simp [gone]

/-- A chunked stream whose chunks have two samples. -/
def shortChunks : ConnectionSettings where
  apiKey := str "key"
  stateful := false
  idleTimeoutSeconds := 30
  maxSessionSeconds := 1800
  maxAudioSeconds := 1800
  maxFrameBytes := 16000
  streamChunkSeconds := 1/8000
  vadSilenceSeconds := 3/2
  vadRmsThreshold := 200
  stableCommitEnabled := false
  stableCommitSeconds := 1
  stableCommitMinChars := 8
  stableCommitMinUpdates := 2
  commitOnPunctuation := false
  lag := ⟨2,4⟩
  vad := none
  framePositive := Nat.lt_of_sub_ne_zero (Nat.succ_ne_zero _)

/-- A world in which time stands still, the client stays and every operation returns. -/
def promptWorld : World where
  clock _ := 0
  created _ := .returned "session".toList
  transcribed _ := .timedOut
  recognized _ := .returned "hello ".toList
  reached _ := true
  unsent _ := none
  cutOff _ := none
  nesting := JsonText.leastNesting

/-- Three samples and the end of the stream. -/
def threeSamples : List Arrival :=
  [.message ⟨false,none,some (str "\x7b\"type\": \"start\", \"api_key\": \"key\"\x7d")⟩,
    .message ⟨false,some [1,0],none⟩,.message ⟨false,some [2,0,3,0],none⟩,
    .message ⟨false,none,some (str "\x7b\"type\": \"end\"\x7d")⟩]

def deafBackend : VADBackend Unit where
  speechProbability state _ := (0,state)
  reset state := state

/-- The stream finishes, and the coordinator has heard the three samples. -/
theorem connection_hears_three : ∃ standing connection,
    connect ascii shortChunks promptWorld deafBackend threeSamples () = (standing,connection) ∧
      heard connection.calls <+: [1,0,2,0,3,0] ∧
      (standing = .waits → ∃ buffer, heard connection.calls ++ buffer = [1,0,2,0,3,0] ∧
        buffer.length < shortChunks.minChunkBytes ∧ (shortChunks.stateful = true → buffer = [])) ∧
      (connection.frames.getLast? = some (.close 1000) → heard connection.calls = [1,0,2,0,3,0]) := by
  have said : spoken (threeSamples.tail.takeWhile (!·.ends promptWorld.nesting)) = [1,0,2,0,3,0] := by decide +kernel
  obtain ⟨standing,connection,ran,within,waits,finished⟩ := connection_hears ascii shortChunks promptWorld deafBackend
    (fun stateful => absurd stateful Bool.false_ne_true) threeSamples ()
  exact ⟨standing,connection,ran,within,waits,fun closed => (finished closed).1.trans said⟩

end SpeechGateway.Connections
