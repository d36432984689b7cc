import SpeechGateway.Connections
import SpeechGateway.Telling

/-!
What a connection writes and what it asks of the coordinator, whatever the world does. The frames
are events numbered 1, 2, 3, ..., of which only the last can be `final`, and then at most an error
and the close (`connection_framed`). A client that read everything shows the transcript of the
server whenever the server waits for it (`connection_shows`). A session that was created is
finished or aborted before the connection ends, and not used after that (`connection_releases`).
-/
namespace SpeechGateway.Connections
open SpeechGateway.Streaming SpeechGateway.Vad SpeechGateway.Coordinator SpeechGateway.Protocol
open SpeechGateway.Display Programs
open SpeechGateway.Stateful (Failure StreamingTranscriptionResult frames lastFinished)
open Unicode (Str)

/-- How far a connection is with its session. -/
inductive Stage
  | opened
  | finishing
  deriving DecidableEq

/-- What the calls of a connection say about its session. -/
inductive Use
  | unopened
  | refused
  | held (stage : Stage) (sessionId : SessionId)
  | released

/-- A session is created once, used while it is open, and finished or aborted at last. -/
def Use.follow : Use → CoordinatorCall → Option Use
  | .unopened, .createStream _ (some sessionId) => some (.held .opened sessionId)
  | .unopened, .createStream _ none => some .refused
  | .held .opened own, .addAudio sessionId _ => if sessionId = own then some (.held .opened own) else none
  | .held .opened own, .transcribeStreamChunk sessionId _ => if sessionId = own then some (.held .opened own) else none
  | .held .opened own, .finishSegment sessionId => if sessionId = own then some (.held .opened own) else none
  | .held .opened own, .finishStream sessionId => if sessionId = own then some (.held .finishing own) else none
  | .held _ own, .abortStream sessionId => if sessionId = own then some .released else none
  | _, _ => none

/-- What a row of calls leads to; none where a session is used that is not there. -/
def uses (calls : List CoordinatorCall) : Option Use := calls.foldlM Use.follow .unopened

theorem uses_snoc (calls : List CoordinatorCall) (last : CoordinatorCall) :
    uses (calls ++ [last]) = (uses calls).bind fun use => use.follow last := by
  simp [uses,List.foldlM_append]

/-- The controller knows its session. Only a finished stream has lost one that was not aborted. -/
def Use.Fits : Use → Option SessionId → Bool → Prop
  | .held stage own, sessionId, finished =>
    sessionId = some own ∧ finished = false ∨ stage = .finishing ∧ sessionId = none ∧ finished = true
  | _, sessionId, finished => sessionId = none ∧ finished = false

section
variable {σ α : Type}

/-- The calls fit the session that the controller has. -/
def Known (connection : Connection σ) : Prop :=
  ∃ use, uses connection.calls = some use ∧ use.Fits connection.sessionId connection.finished

/-- The controller has a session. -/
structure Holds (stage : Stage) (sessionId : SessionId) (connection : Connection σ) : Prop where
  session : connection.sessionId = some sessionId
  uses : uses connection.calls = some (.held stage sessionId)
  unfinished : connection.finished = false

theorem Holds.known {stage : Stage} {sessionId : SessionId} {connection : Connection σ}
    (holds : Holds stage sessionId connection) : Known connection :=
  ⟨_,holds.uses,.inl ⟨holds.session,holds.unfinished⟩⟩

/-- Nothing follows a final event, and none is an error. -/
def Ordered (events : List TranscriptEvent) : Prop :=
  events.Pairwise (fun earlier _ => earlier.type ≠ .final) ∧ ∀ event ∈ events, event.type ≠ .error

theorem ordered_goOn {events : List TranscriptEvent} (goOn : ∀ event ∈ events, GoesOn event) : Ordered events :=
  ⟨List.pairwise_of_forall_mem_list fun event member _ _ => (goOn event member).1,fun event member => (goOn event member).2⟩

theorem ordered_final {events : List TranscriptEvent} (goOn : ∀ event ∈ events, GoesOn event) {last : TranscriptEvent}
    (final : last.type = .final) : Ordered (events ++ [last]) := by
  constructor
  · rw [List.pairwise_append]
    refine ⟨(ordered_goOn goOn).1,List.pairwise_singleton ..,?_⟩
    intro event member _ _
    exact (goOn event member).1
  · intro event member
    rcases List.mem_append.mp member with earlier | here
    · exact (goOn event earlier).2
    · rw [List.mem_singleton.mp here,final]
      decide

variable (settings : ConnectionSettings)

/-- The frames are the events that were sent. With those that are still to be sent they tell
    everything about the transcript. -/
structure Told (connection : Connection σ) (sent pending : List TranscriptEvent) : Prop where
  frames : connection.frames = sent.map .event
  ordered : Ordered (sent ++ pending)
  explains : Explains (.init settings.transcriptConfig) (sent ++ pending) connection.transcript
  numbered : Numbered (.init settings.transcriptConfig) (sent ++ pending) connection.transcript
  mode : connection.transcript.segmentLocalSnapshots = settings.stateful
  opens : ∀ first, sent.head? = some first → first.type = .ready

/-- How the frames of a socket end after its events. -/
inductive Ending (sent : List TranscriptEvent) : Socket → List Frame → Prop
  | talking : Ending sent .open []
  | left : Ending sent .gone []
  | leftAtError (failure : Failure) (sequence : Nat) (later : sent.length < sequence) :
    Ending sent .gone [.error failure sequence]
  | failed (failure : Failure) (sequence : Nat) (later : sent.length < sequence) (abnormal : failure.closeCode ≠ 1000) :
    Ending sent .closed [.error failure sequence,.close failure.closeCode]
  | finished (final : ∃ event ∈ sent, event.type = .final) : Ending sent .closed [.close 1000]

/-- The frames so far, whatever the socket is now. The sentences that were sent are confirmed, and a
    final event completes the transcript. -/
structure Framed (connection : Connection σ) (sent : List TranscriptEvent) (ending : List Frame) : Prop where
  frames : connection.frames = sent.map .event ++ ending
  numbered : sent.map (·.sequence) = List.range' 1 sent.length
  ordered : Ordered sent
  opens : ∀ first, sent.head? = some first → first.type = .ready
  confirmed : (sentenceFinals sent).flatten <+: connection.transcript.confirmedText
  completed : (∃ event ∈ sent, event.type = .final) →
    transcriptFromEvents sent = connection.transcript.confirmedText ++ connection.transcript.partialText
  ends : Ending sent connection.socket ending

/-- A stream that can go on or fail. -/
structure Talking (connection : Connection σ) : Prop where
  socket : connection.socket = .open
  known : Known connection
  told : ∃ sent pending, Told settings connection sent pending

/-- A stream whose socket is closed or gone. -/
structure Over (socket : Socket) (connection : Connection σ) : Prop where
  socket : connection.socket = socket
  known : Known connection
  framed : ∃ sent ending, Framed connection sent ending

/-- The close of a finished stream was not written. -/
def Unfinished (connection : Connection σ) : Prop := connection.frames.getLast? ≠ some (.close 1000)

/-- What ended the stream before it was finished: a failure that the client was told, or a frame that
    was not written. -/
def Fallen (world : World) (exc : Raised) (connection : Connection σ) : Prop :=
  exc = .streamClosed ∧ Over .closed connection ∧ Unfinished connection ∨
    (∃ step, exc = world.lost step) ∧ Over .gone connection

/-- The stream ended, or one of the named exceptions was raised and it can go on. -/
def Raises (world : World) (named : Raised → Prop) (exc : Raised) (connection : Connection σ) : Prop :=
  Fallen world exc connection ∨ named exc ∧ Talking settings connection

variable {settings}

/-- Two connections that the client and the coordinator cannot tell apart. -/
structure Aside (connection next : Connection σ) : Prop where
  transcript : next.transcript = connection.transcript
  frames : next.frames = connection.frames
  socket : next.socket = connection.socket
  sessionId : next.sessionId = connection.sessionId
  finished : next.finished = connection.finished
  calls : next.calls = connection.calls

theorem Told.of {connection next : Connection σ} {sent pending : List TranscriptEvent}
    (told : Told settings connection sent pending) (frames : next.frames = connection.frames)
    (transcript : next.transcript = connection.transcript) : Told settings next sent pending where
  frames := frames.trans told.frames
  ordered := told.ordered
  explains := transcript ▸ told.explains
  numbered := transcript ▸ told.numbered
  mode := transcript ▸ told.mode
  opens := told.opens

/-- The event that is sent next is the first one only if it says that the stream is ready. -/
theorem Told.opens_snoc {connection : Connection σ} {event : TranscriptEvent} {sent pending : List TranscriptEvent}
    (told : Told settings connection sent pending) (opens : sent = [] → event.type = .ready) :
    ∀ first, (sent ++ [event]).head? = some first → first.type = .ready := by
  intro first begins
  cases sent with
  | nil =>
    cases begins
    exact opens rfl
  | cons earlier later =>
    cases begins
    exact told.opens _ rfl

theorem Known.of {connection next : Connection σ} (known : Known connection) (calls : next.calls = connection.calls)
    (sessionId : next.sessionId = connection.sessionId) (finished : next.finished = connection.finished) : Known next := by
  obtain ⟨use,used,fits⟩ := known
  exact ⟨use,calls ▸ used,by rw [sessionId,finished]; exact fits⟩

theorem Holds.aside {stage : Stage} {sessionId : SessionId} {connection next : Connection σ}
    (holds : Holds stage sessionId connection) (aside : Aside connection next) : Holds stage sessionId next where
  session := aside.sessionId.trans holds.session
  uses := aside.calls ▸ holds.uses
  unfinished := aside.finished.trans holds.unfinished

theorem Talking.aside {connection next : Connection σ} (talking : Talking settings connection)
    (aside : Aside connection next) : Talking settings next where
  socket := aside.socket.trans talking.socket
  known := talking.known.of aside.calls aside.sessionId aside.finished
  told := by
    obtain ⟨sent,pending,told⟩ := talking.told
    exact ⟨sent,pending,told.of aside.frames aside.transcript⟩

theorem steps_aside (connection : Connection σ) (steps : Nat) : Aside connection { connection with steps := steps } :=
  ⟨rfl,rfl,rfl,rfl,rfl,rfl⟩

/-- A final event is the last one, and its text is what is left of the transcript. -/
theorem Told.completed {connection : Connection σ} {sent pending : List TranscriptEvent}
    (told : Told settings connection sent pending) (final : ∃ event ∈ sent, event.type = .final) :
    transcriptFromEvents sent = connection.transcript.confirmedText ++ connection.transcript.partialText := by
  obtain ⟨event,member,type⟩ := final
  obtain ⟨earlier,later,rfl⟩ := List.append_of_mem member
  have nothing : later ++ pending = [] := by
    by_contra more
    obtain ⟨other,rest,shape⟩ := List.exists_cons_of_ne_nil more
    have row : earlier ++ event :: later ++ pending = earlier ++ event :: other :: rest := by
      rw [List.append_assoc,List.cons_append,shape]
    have apart := told.ordered.1
    rw [row,List.pairwise_append,List.pairwise_cons] at apart
    exact apart.2.1.1 other List.mem_cons_self type
  obtain ⟨rfl,rfl⟩ := List.append_eq_nil_iff.mp nothing
  have confirmed := told.explains.confirmed
  have shown := told.explains.shows {} rfl
  rw [List.append_nil] at confirmed shown
  rw [feed_append,feed_cons,feed_nil] at shown
  have tail : event.text = connection.transcript.partialText := by
    rw [← shown,DisplayState.apply,type]
  rw [transcriptFromEvents,confirmed,← tail]
  simp [StreamingTranscriptState.init,type]

/-- What was told stays told, however the frames end. -/
theorem Told.framed {connection next : Connection σ} {sent pending : List TranscriptEvent} {ending : List Frame}
    (told : Told settings connection sent pending) (frames : next.frames = connection.frames ++ ending)
    (confirmed : next.transcript.confirmedText = connection.transcript.confirmedText)
    (shown : next.transcript.partialText = connection.transcript.partialText)
    (ends : Ending sent next.socket ending) : Framed next sent ending where
  frames := by rw [frames,told.frames]
  numbered := by
    have sequences := told.numbered.sequences
    rw [List.map_append,List.length_append,← List.range'_append_1] at sequences
    exact (List.append_inj sequences (by simp)).1
  ordered := ⟨(List.pairwise_append.mp told.ordered.1).1,fun event member => told.ordered.2 event (List.mem_append_left _ member)⟩
  opens := told.opens
  confirmed := by
    rw [confirmed,told.explains.confirmed,sentenceFinals_append,List.flatten_append]
    exact List.prefix_append ..
  completed final := by rw [told.completed final,confirmed,shown]
  ends := ends

theorem Told.shorter {connection : Connection σ} {sent pending : List TranscriptEvent}
    (told : Told settings connection sent pending) : sent.length < connection.transcript.sequence + 1 := by
  have counted := told.numbered.counted
  rw [List.length_append] at counted
  omega

theorem Framed.of {connection next : Connection σ} {sent : List TranscriptEvent} {ending : List Frame}
    (framed : Framed connection sent ending) (frames : next.frames = connection.frames)
    (confirmed : next.transcript.confirmedText = connection.transcript.confirmedText)
    (shown : next.transcript.partialText = connection.transcript.partialText)
    (socket : next.socket = connection.socket) : Framed next sent ending where
  frames := frames.trans framed.frames
  numbered := framed.numbered
  ordered := framed.ordered
  opens := framed.opens
  confirmed := confirmed ▸ framed.confirmed
  completed final := by rw [framed.completed final,confirmed,shown]
  ends := socket ▸ framed.ends

end

section
variable {σ α : Type} {settings : ConnectionSettings} (world : World)
variable {returns : α → Connection σ → Prop} {raises : Raised → Connection σ → Prop} {connection : Connection σ}

theorem step_spec {returns : Nat → Connection σ → Prop}
    (stepped : ∀ steps, returns connection.steps { connection with steps := steps }) : wp step returns raises connection :=
  stepped _

theorem remaining_spec {returns : Time → Connection σ → Prop}
    (read : ∀ remaining steps, returns remaining { connection with steps := steps }) :
    wp (remainingSessionSeconds world) returns raises connection := by
  unfold remainingSessionSeconds
  rw [wp_bind]
  apply step_spec
  intro steps
  exact read _ steps

/-- A frame is written on an open socket, or the client has left. -/
theorem transmit_spec {returns : Unit → Connection σ → Prop} (opened : connection.socket = .open) (frame : Frame)
    (written : ∀ steps, returns () { connection with
      steps := steps, frames := connection.frames ++ [frame], socket := if frame matches .close _ then .closed else .open })
    (lost : ∀ steps step, raises (world.lost step) { connection with steps := steps, socket := .gone }) :
    wp (transmit world frame) returns raises connection := by
  unfold transmit
  rw [wp_bind]
  apply step_spec
  intro steps
  rw [wp_bind,wp_get]
  simp only [opened]
  rw [wp_ite]
  constructor
  · intro reached
    exact written steps
  · intro left
    exact lost steps connection.steps

theorem transmit_gone {returns : Unit → Connection σ → Prop} (gone : connection.socket = .gone) (frame : Frame)
    (lost : ∀ steps step, raises (world.lost step) { connection with steps := steps }) :
    wp (transmit world frame) returns raises connection := by
  unfold transmit
  rw [wp_bind]
  apply step_spec
  intro steps
  rw [wp_bind,wp_get]
  simp only [gone]
  rw [← gone]
  exact lost steps connection.steps

/-- A failure ends a stream that can go on. -/
theorem fail_spec {returns : Unit → Connection σ → Prop} (talking : Talking settings connection) {failure : Failure}
    (abnormal : failure.closeCode ≠ 1000) (closed : ∀ next, Over .closed next → Unfinished next → returns () next)
    (lost : ∀ step next, Over .gone next → raises (world.lost step) next) :
    wp (fail world failure) returns raises connection := by
  obtain ⟨opened,known,sent,pending,told⟩ := talking
  have later := told.shorter
  unfold fail
  rw [wp_bind,wp_get]
  dsimp only
  rw [wp_bind,wp_modify,wp_bind]
  apply transmit_spec world (by exact opened)
  · intro steps
    apply transmit_spec world rfl
    · intro steps'
      apply closed
      · exact ⟨rfl,known.of rfl rfl rfl,sent,_,told.framed (List.append_assoc ..) rfl rfl (.failed failure _ later abnormal)⟩
      · simpa [Unfinished] using abnormal
    · intro steps' step
      apply lost
      exact ⟨rfl,known.of rfl rfl rfl,sent,_,told.framed rfl rfl rfl (.leftAtError failure _ later)⟩
  · intro steps step
    apply lost
    exact ⟨rfl,known.of rfl rfl rfl,sent,[],told.framed (List.append_nil _).symm rfl rfl .left⟩

/-- Nothing is written for a client that has left. -/
theorem fail_gone {returns : Unit → Connection σ → Prop} (past : Over .gone connection) (failure : Failure)
    (lost : ∀ step next, Over .gone next → raises (world.lost step) next) :
    wp (fail world failure) returns raises connection := by
  obtain ⟨gone,known,sent,ending,framed⟩ := past
  unfold fail
  rw [wp_bind,wp_get]
  dsimp only
  rw [wp_bind,wp_modify,wp_bind]
  apply transmit_gone world (by exact gone)
  intro steps step
  apply lost
  exact ⟨gone,known.of rfl rfl rfl,sent,ending,framed.of rfl rfl rfl rfl⟩

theorem refuse_spec (talking : Talking settings connection) {failure : Failure} (abnormal : failure.closeCode ≠ 1000)
    (fallen : ∀ exc next, Fallen world exc next → raises exc next) : wp (refuse world failure) returns raises connection := by
  unfold refuse
  rw [wp_bind]
  apply fail_spec world talking abnormal
  · intro next closed unfinished
    exact fallen _ _ (.inl ⟨rfl,closed,unfinished⟩)
  · intro step next gone
    exact fallen _ _ (.inr ⟨⟨step,rfl⟩,gone⟩)

/-- A handler that leaves the end of a stream alone and tells the client about everything that is
    named, with a code of its own. -/
structure Reports (handler : Raised → Option Failure) (named : Raised → Prop) : Prop where
  closed : handler .streamClosed = none
  handles : ∀ exc, named exc → (handler exc).isSome = true
  abnormal : ∀ exc failure, handler exc = some failure → failure.closeCode ≠ 1000

theorem reporting_spec {handler : Raised → Option Failure} {named : Raised → Prop} {program : Code σ α}
    (reports : Reports handler named) (fallen : ∀ exc next, Fallen world exc next → raises exc next)
    (holds : wp program returns (Raises settings world named) connection) :
    wp (reporting world handler program) returns raises connection := by
  unfold reporting
  rw [wp_tryCatch]
  apply wp_mono holds
  · exact fun _ _ holds => holds
  · rintro exc next ((⟨rfl,closed⟩ | ⟨unsent,past⟩) | ⟨isNamed,talking⟩)
    · simp only [reports.closed]
      exact fallen _ _ (.inl ⟨rfl,closed⟩)
    · cases handler exc with
      | none =>
        dsimp only
        exact fallen _ _ (.inr ⟨unsent,past⟩)
      | some failure =>
        -- The failure is not written either, and that is what is raised.
        dsimp only
        unfold refuse
        rw [wp_bind]
        apply fail_gone world past
        intro step next gone
        exact fallen _ _ (.inr ⟨⟨step,rfl⟩,gone⟩)
    · obtain ⟨failure,handled⟩ := Option.isSome_iff_exists.mp (reports.handles exc isNamed)
      simp only [handled]
      exact refuse_spec world talking (reports.abnormal exc failure handled) fallen

end

section
variable {σ α : Type} {settings : ConnectionSettings} (world : World)
variable {returns : α → Connection σ → Prop} {raises : Raised → Connection σ → Prop} {connection : Connection σ}

theorem follow_abort (stage : Stage) (sessionId : SessionId) :
    (Use.held stage sessionId).follow (.abortStream sessionId) = some .released := by
  cases stage <;> simp [Use.follow]

/-- A session is given back, and nothing else changes. -/
theorem abort_spec {returns : Unit → Connection σ → Prop} (known : Known connection)
    (gone : ∀ calls, Known { connection with sessionId := none, calls := calls } →
      returns () { connection with sessionId := none, calls := calls }) :
    wp abort returns raises connection := by
  unfold abort
  rw [wp_bind,wp_get]
  obtain ⟨use,used,fits⟩ := known
  cases held : connection.sessionId with
  | none =>
    simp only [wp_pure]
    have same : connection = { connection with sessionId := none, calls := connection.calls } := by rw [← held]
    rw [same]
    exact gone _ ⟨use,used,by rw [← held]; exact fits⟩
  | some sessionId =>
    dsimp only
    rw [wp_bind,wp_modify]
    unfold call
    rw [wp_modify]
    apply gone
    rw [held] at fits
    cases use with
    | held stage own =>
      rcases fits with ⟨mine,unfinished⟩ | ⟨_,none,_⟩
      · cases mine
        refine ⟨.released,?_,rfl,unfinished⟩
        dsimp only
        rw [uses_snoc,used,Option.bind_some,follow_abort]
      · cases none
    | unopened => cases fits.1
    | refused => cases fits.1
    | released => cases fits.1

theorem expireSession_spec (talking : Talking settings connection)
    (fallen : ∀ exc next, Fallen world exc next → raises exc next) : wp (expireSession world) returns raises connection := by
  unfold expireSession
  rw [wp_bind]
  apply abort_spec talking.known
  intro calls known
  obtain ⟨sent,pending,told⟩ := talking.told
  have expired : Talking settings { connection with sessionId := none, calls := calls } :=
    ⟨talking.socket,known,sent,pending,told.of rfl rfl⟩
  exact refuse_spec world expired (by decide) fallen

/-- The check that the session has time left, before anything else. -/
theorem alive_spec {later : Code σ α} {remaining : Time} (talking : Talking settings connection)
    (fallen : ∀ exc next, Fallen world exc next → raises exc next) (goesOn : wp later returns raises connection) :
    wp (do when (remaining ≤ 0) (expireSession world); later) returns raises connection := by
  rw [wp_bind,wp_when]
  constructor
  · intro _
    exact expireSession_spec world talking fallen
  · intro _
    exact goesOn

theorem ensureSessionActive_spec {returns : Unit → Connection σ → Prop} (talking : Talking settings connection)
    (fallen : ∀ exc next, Fallen world exc next → raises exc next)
    (goesOn : ∀ steps, returns () { connection with steps := steps }) :
    wp (ensureSessionActive world) returns raises connection := by
  unfold ensureSessionActive
  rw [wp_bind]
  apply remaining_spec
  intro remaining steps
  rw [wp_when]
  constructor
  · intro _
    exact expireSession_spec world (talking.aside (steps_aside connection steps)) fallen
  · intro _
    exact goesOn steps

/-- The next pending event is sent. -/
theorem sendEvent_spec {returns : Unit → Connection σ → Prop} {event : TranscriptEvent} {sent rest : List TranscriptEvent}
    (opened : connection.socket = .open) (known : Known connection) (told : Told settings connection sent (event :: rest))
    (opens : sent = [] → event.type = .ready)
    (fallen : ∀ exc next, Fallen world exc next → raises exc next)
    (goesOn : ∀ steps, returns () { connection with steps := steps, frames := connection.frames ++ [.event event] }) :
    wp (sendEvent world event) returns raises connection := by
  have talking (steps : Nat) : Talking settings { connection with steps := steps } :=
    ⟨opened,known.of rfl rfl rfl,sent,_,told.of rfl rfl⟩
  have lost (steps step : Nat) : raises (world.lost step) { connection with steps := steps, socket := .gone } :=
    fallen _ _ (.inr ⟨⟨step,rfl⟩,rfl,known.of rfl rfl rfl,sent,[],told.framed (List.append_nil _).symm rfl rfl .left⟩)
  have written (steps : Nat) : Told settings
      { connection with steps := steps, frames := connection.frames ++ [.event event], socket := .open } (sent ++ [event]) rest := by
    have shifted : sent ++ event :: rest = sent ++ [event] ++ rest := by simp
    refine ⟨?_,shifted ▸ told.ordered,shifted ▸ told.explains,shifted ▸ told.numbered,told.mode,told.opens_snoc opens⟩
    simp [told.frames]
  unfold sendEvent
  rw [wp_bind]
  apply remaining_spec
  intro remaining steps
  apply alive_spec world (talking steps) fallen
  rw [wp_bind]
  apply step_spec
  intro steps
  cases world.cutOff _ with
  | none =>
    apply transmit_spec world (by exact opened)
    · intro steps
      have same : connection.socket = .open := opened
      simpa [← same] using goesOn steps
    · exact lost
  | some late =>
    dsimp only
    rw [wp_bind,wp_when]
    constructor
    · intro _
      apply transmit_spec world (by exact opened)
      · intro steps
        exact expireSession_spec world ⟨rfl,known.of rfl rfl rfl,_,rest,written steps⟩ fallen
      · exact lost
    · intro _
      exact expireSession_spec world (talking steps) fallen

end

section
variable {σ α : Type} (settings : ConnectionSettings)

/-- A stream with a session. The client has been told everything but the pending events. -/
structure Live (stage : Stage) (pending : List TranscriptEvent) (connection : Connection σ) : Prop where
  socket : connection.socket = .open
  begun : connection.frames ≠ []
  holds : ∃ sessionId, Holds stage sessionId connection
  told : ∃ sent, Told settings connection sent pending ∧ ∀ event ∈ sent ++ pending, GoesOn event

variable {settings}

theorem Live.talking {stage : Stage} {pending : List TranscriptEvent} {connection : Connection σ}
    (live : Live settings stage pending connection) : Talking settings connection := by
  obtain ⟨sessionId,holds⟩ := live.holds
  obtain ⟨sent,told,_⟩ := live.told
  exact ⟨live.socket,holds.known,sent,pending,told⟩

theorem Live.aside {stage : Stage} {pending : List TranscriptEvent} {connection next : Connection σ}
    (live : Live settings stage pending connection) (aside : Aside connection next) : Live settings stage pending next where
  socket := aside.socket.trans live.socket
  begun := aside.frames ▸ live.begun
  holds := by
    obtain ⟨sessionId,holds⟩ := live.holds
    exact ⟨sessionId,holds.aside aside⟩
  told := by
    obtain ⟨sent,told,goesOn⟩ := live.told
    exact ⟨sent,told.of aside.frames aside.transcript,goesOn⟩

/-- The transcript changes, and what it emits is to be sent. -/
theorem Live.changed {stage : Stage} {connection : Connection σ} (live : Live settings stage [] connection)
    {emitted : List TranscriptEvent} {next : StreamingTranscriptState} (tells : Tells connection.transcript emitted next) :
    Live settings stage emitted { connection with transcript := next } where
  socket := live.socket
  begun := live.begun
  holds := by
    obtain ⟨sessionId,holds⟩ := live.holds
    exact ⟨sessionId,holds.session,holds.uses,holds.unfinished⟩
  told := by
    obtain ⟨sent,told,goesOn⟩ := live.told
    have explains := told.explains
    have numbered := told.numbered
    rw [List.append_nil] at explains numbered goesOn
    have all : ∀ event ∈ sent ++ emitted, GoesOn event := by
      intro event member
      rcases List.mem_append.mp member with earlier | later
      · exact goesOn event earlier
      · exact tells.goesOn event later
    exact ⟨sent,⟨told.frames,ordered_goOn all,explains.trans tells.explains,numbered.trans tells.numbered,
      tells.sameMode.trans told.mode,told.opens⟩,all⟩

/-- Run on a stream that goes on, the program leaves one, or it raises and only what is named
    leaves one. -/
def Steady (settings : ConnectionSettings) (world : World) (stage : Stage) (named : Raised → Prop) (program : Code σ α) : Prop :=
  ∀ connection, Live settings stage [] connection →
    wp program (fun _ => Live settings stage []) (Raises settings world named) connection

/-- No exception. -/
def Nothing (_ : Raised) : Prop := False

def Conflicts (exc : Raised) : Prop := ∃ message, exc = .python (.confirmedPrefixConflict message)

/-- What an operation of the coordinator raises. -/
def Refusals (exc : Raised) : Prop := exc ≠ .streamClosed ∧ exc ≠ .disconnected

end

section
variable {σ α β : Type} {settings : ConnectionSettings} {world : World} {stage : Stage} {named : Raised → Prop}

theorem steady_pure (value : α) : Steady settings world stage named (pure value : Code σ α) := fun _ live => live

theorem steady_bind {first : Code σ β} {later : β → Code σ α} (steady : Steady settings world stage named first)
    (steadyLater : ∀ value, Steady settings world stage named (later value)) : Steady settings world stage named (first >>= later) := by
  intro connection live
  rw [wp_bind]
  exact wp_mono (steady connection live) (fun value next live => steadyLater value next live) fun _ _ raised => raised

/-- What follows a program that keeps the stream going. -/
theorem Steady.bind_spec {first : Code σ β} {later : β → Code σ α} {returns : α → Connection σ → Prop} {connection : Connection σ}
    (steady : Steady settings world stage named first) (live : Live settings stage [] connection)
    (goesOn : ∀ value next, Live settings stage [] next → wp (later value) returns (Raises settings world named) next) :
    wp (first >>= later) returns (Raises settings world named) connection := by
  rw [wp_bind]
  exact wp_mono (steady connection live) goesOn fun _ _ raised => raised

theorem steady_when {condition : Prop} [Decidable condition] {program : Code σ Unit}
    (steady : condition → Steady settings world stage named program) : Steady settings world stage named (when condition program) := by
  unfold when
  split
  · exact steady ‹_›
  · exact steady_pure ()

theorem steady_ite {condition : Prop} [Decidable condition] {yes no : Code σ α}
    (steady : condition → Steady settings world stage named yes) (steadyNo : ¬condition → Steady settings world stage named no) :
    Steady settings world stage named (if condition then yes else no) := by
  split
  · exact steady ‹_›
  · exact steadyNo ‹_›

theorem steady_modify {change : Connection σ → Connection σ} (aside : ∀ connection, Aside connection (change connection)) :
    Steady settings world stage named (modify change : Code σ PUnit) := fun connection live => live.aside (aside connection)

/-- Reading the state, with what is known about it. -/
theorem steady_get {later : Connection σ → Code σ α} (steady : ∀ connection, Steady settings world stage named (later connection)) :
    Steady settings world stage named (get >>= later) := by
  intro connection live
  rw [wp_bind,wp_get]
  exact steady connection connection live

theorem fallen_raises (exc : Raised) (next : Connection σ) (fallen : Fallen world exc next) : Raises settings world named exc next :=
  .inl fallen

theorem Raises.weaken {others : Raised → Prop} {exc : Raised} {connection : Connection σ}
    (raised : Raises settings world others exc connection) (fewer : ∀ exc, others exc → named exc) :
    Raises settings world named exc connection :=
  raised.imp_right fun ⟨isNamed,talking⟩ => ⟨fewer exc isNamed,talking⟩

theorem Steady.weaken {program : Code σ α} {others : Raised → Prop} (steady : Steady settings world stage others program)
    (fewer : ∀ exc, others exc → named exc) : Steady settings world stage named program := by
  intro connection live
  exact wp_mono (steady connection live) (fun _ _ live => live) fun _ _ raised => raised.weaken fewer

theorem Steady.quiet {program : Code σ α} (steady : Steady settings world stage Nothing program) :
    Steady settings world stage named program := steady.weaken fun _ => False.elim

variable (world)

theorem steady_reporting {handler : Raised → Option Failure} {others : Raised → Prop} {program : Code σ α}
    (steady : Steady settings world stage others program) (reports : Reports handler others) :
    Steady settings world stage named (reporting world handler program) := by
  intro connection live
  exact reporting_spec world reports fallen_raises (steady connection live)

theorem refuse_steady {failure : Failure} (abnormal : failure.closeCode ≠ 1000) :
    Steady settings world stage named (refuse world failure : Code σ α) := by
  intro connection live
  exact refuse_spec world live.talking abnormal fallen_raises

theorem ensureSessionActive_steady : Steady settings world stage named (ensureSessionActive world : Code σ Unit) := by
  intro connection live
  apply ensureSessionActive_spec world live.talking fallen_raises
  intro steps
  exact live.aside (steps_aside connection steps)

theorem step_steady : Steady settings world stage named (step : Code σ Nat) := by
  intro connection live
  apply step_spec
  intro steps
  exact live.aside (steps_aside connection steps)

theorem sendEvents_spec (pending : List TranscriptEvent) {connection : Connection σ}
    (live : Live settings stage pending connection) :
    wp (sendEvents world pending) (fun _ => Live settings stage []) (Raises settings world named) connection := by
  induction pending generalizing connection with
  | nil => exact live
  | cons event rest ih =>
    unfold sendEvents
    rw [wp_bind]
    apply ensureSessionActive_spec world live.talking fallen_raises
    intro steps
    obtain ⟨opened,begun,⟨sessionId,holds⟩,sent,told,goesOn⟩ := live.aside (steps_aside connection steps)
    have opens : sent = [] → event.type = .ready := fun none => absurd (by rw [told.frames,none,List.map_nil]) begun
    rw [wp_bind]
    apply sendEvent_spec world opened holds.known told opens fallen_raises
    intro steps'
    apply ih
    have shifted : sent ++ event :: rest = sent ++ [event] ++ rest := by simp
    refine ⟨opened,List.append_ne_nil_of_right_ne_nil _ (List.cons_ne_nil _ _),
      ⟨sessionId,holds.session,holds.uses,holds.unfinished⟩,sent ++ [event],?_,shifted ▸ goesOn⟩
    refine ⟨?_,shifted ▸ told.ordered,shifted ▸ told.explains,shifted ▸ told.numbered,told.mode,told.opens_snoc opens⟩
    simpa using told.frames

/-- A change that tells what it does to the transcript, and raises only what is named. -/
theorem emit_steady {change : StreamingTranscriptState → Outcome (List TranscriptEvent)}
    (tells : ∀ transcript, Tells transcript (returned (change transcript).1) (change transcript).2)
    (raises : ∀ transcript exc, transcript.segmentLocalSnapshots = settings.stateful →
      (change transcript).1 = .error exc → named (.python exc)) :
    Steady settings world stage named (emit world change : Code σ Unit) := by
  intro connection live
  have told := tells connection.transcript
  unfold emit
  rw [wp_bind,wp_get]
  rcases changed : change connection.transcript with ⟨reply,transcript⟩
  rw [changed] at told
  dsimp only
  rw [wp_bind,wp_modify]
  cases reply with
  | ok events => exact sendEvents_spec world events (live.changed told)
  | error exc =>
    refine .inr ⟨?_,(live.changed told).talking⟩
    obtain ⟨_,_,_,sent,written,_⟩ := live
    exact raises connection.transcript exc written.mode (by rw [changed])

end

/-! ## Operations of the coordinator -/

section
variable {σ α : Type} {settings : ConnectionSettings} {stage : Stage} {named : Raised → Prop} (world : World)

/-- An operation that was not answered leaves a stream that can fail; an answer is left to the caller. -/
theorem awaitModelOperation_spec {request : OperationOutcome α → CoordinatorCall} {outcomes : Nat → OperationOutcome α}
    {returns : α → Connection σ → Prop} {connection : Connection σ} (talking : Talking settings connection)
    (asked : ∀ outcome steps, outcome.value = none →
      Talking settings { connection with steps := steps, calls := connection.calls ++ [request outcome] })
    (answered : ∀ value steps,
      returns value { connection with steps := steps, calls := connection.calls ++ [request (.returned value)] }) :
    wp (awaitModelOperation world request outcomes) returns (Raises settings world Refusals) connection := by
  unfold awaitModelOperation
  rw [wp_bind]
  apply remaining_spec
  intro remaining steps
  apply alive_spec world (talking.aside (steps_aside connection steps)) fallen_raises
  rw [wp_bind]
  apply step_spec
  intro steps
  dsimp only
  rw [wp_bind]
  unfold call
  rw [wp_modify]
  generalize outcomes _ = outcome
  unfold concluded
  cases outcome with
  | returned value => exact answered value steps
  | refused error => exact .inr ⟨by simp [Refusals],asked _ steps rfl⟩
  | failed exc => exact .inr ⟨by simp [Refusals],asked _ steps rfl⟩
  | timedOut => exact expireSession_spec world (asked _ steps rfl) fallen_raises

/-- A use of the session. -/
theorem Live.asked {sessionId : SessionId} {connection : Connection σ} {later : Stage} {request : CoordinatorCall}
    (live : Live settings stage [] connection) (holds : Holds stage sessionId connection)
    (follows : (Use.held stage sessionId).follow request = some (.held later sessionId)) (steps : Nat) :
    Live settings later [] { connection with steps := steps, calls := connection.calls ++ [request] } where
  socket := live.socket
  begun := live.begun
  holds := by
    refine ⟨sessionId,holds.session,?_,holds.unfinished⟩
    dsimp only
    rw [uses_snoc,holds.uses,Option.bind_some,follows]
  told := by
    obtain ⟨sent,told,goesOn⟩ := live.told
    exact ⟨sent,told.of rfl rfl,goesOn⟩

theorem requireSession_spec {returns : SessionId → Connection σ → Prop} {raises : Raised → Connection σ → Prop}
    {connection : Connection σ} {sessionId : SessionId} (holds : Holds stage sessionId connection)
    (found : returns sessionId connection) : wp requireSession returns raises connection := by
  unfold requireSession
  rw [wp_bind,wp_get]
  simp only [holds.session]
  exact found

/-- A use of the session that leaves it open. -/
theorem operation_spec {sessionId : SessionId} {connection : Connection σ} {request : CoordinatorCall}
    (outcomes : Nat → OperationOutcome α) (live : Live settings .opened [] connection) (holds : Holds .opened sessionId connection)
    (follows : (Use.held .opened sessionId).follow request = some (.held .opened sessionId)) :
    wp (awaitModelOperation world (fun _ => request) outcomes) (fun _ => Live settings .opened []) (Raises settings world Refusals)
      connection :=
  awaitModelOperation_spec world live.talking (fun _ steps _ => (live.asked holds follows steps).talking)
    fun _ steps => live.asked holds follows steps

/-- The session that a stream has, and what is done with it. -/
theorem steady_session {later : SessionId → Code σ α}
    (steady : ∀ sessionId connection, Live settings stage [] connection → Holds stage sessionId connection →
      wp (later sessionId) (fun _ => Live settings stage []) (Raises settings world named) connection) :
    Steady settings world stage named (requireSession >>= later) := by
  intro connection live
  obtain ⟨sessionId,holds⟩ := live.holds
  rw [wp_bind]
  exact requireSession_spec holds (steady sessionId connection live holds)

theorem operationFailed_reports (busy : List CoordinatorError) (message : String) :
    Reports (operationFailed busy message) Refusals where
  closed := rfl
  handles exc refused := by
    cases exc with
    | streamClosed => exact absurd rfl refused.1
    | disconnected => exact absurd rfl refused.2
    | coordinator error =>
      unfold operationFailed
      dsimp only
      split_ifs <;> rfl
    | python exc => rfl
    | json error => rfl
  abnormal exc failure reported := by
    unfold operationFailed at reported
    split at reported
    · cases reported
    · split_ifs at reported <;> cases reported <;> simp [serverBusy,inferenceTimedOut]
    · cases reported
      simp

theorem startFailed_reports : Reports startFailed Refusals where
  closed := rfl
  handles exc refused := by
    cases exc with
    | streamClosed => exact absurd rfl refused.1
    | disconnected => exact absurd rfl refused.2
    | coordinator error =>
      unfold startFailed
      dsimp only
      split_ifs <;> rfl
    | python exc =>
      unfold startFailed
      split <;> first | rfl | contradiction
    | json error => rfl
  abnormal exc failure reported := by
    unfold startFailed at reported
    split at reported
    · cases reported
    · cases reported
      decide
    · split_ifs at reported <;> cases reported <;> decide
    · cases reported
      decide

theorem addAudioFailed_reports : Reports addAudioFailed Refusals where
  closed := rfl
  handles exc refused := by
    unfold addAudioFailed
    split
    · rfl
    · exact (operationFailed_reports _ _).handles exc refused
  abnormal exc failure reported := by
    unfold addAudioFailed at reported
    split at reported
    · cases reported
      decide
    · exact (operationFailed_reports _ _).abnormal exc failure reported

theorem transcriptConflict_reports : Reports transcriptConflict Conflicts where
  closed := rfl
  handles exc conflicts := by
    obtain ⟨message,rfl⟩ := conflicts
    rfl
  abnormal exc failure reported := by
    unfold transcriptConflict at reported
    split at reported
    · cases reported
      decide
    · cases reported

theorem finishFailed_reports : Reports finishFailed Refusals where
  closed := rfl
  handles exc refused := by
    unfold finishFailed
    rw [Option.isSome_or,(operationFailed_reports _ _).handles exc refused,Bool.or_true]
  abnormal exc failure reported := by
    unfold finishFailed at reported
    rcases Option.or_eq_some_iff.mp reported with conflict | ⟨_,other⟩
    · exact transcriptConflict_reports.abnormal exc failure conflict
    · exact (operationFailed_reports _ _).abnormal exc failure other

/-! ## `StreamingSessionController` -/

variable (chars : Alphabet) (backend : VADBackend σ)

theorem enforceStreamProgress_steady (result : Transcription) (submittedSamples : Nat) :
    Steady settings world stage named (enforceStreamProgress settings world result submittedSamples : Code σ Unit) := by
  unfold enforceStreamProgress observeStreamProgress
  apply steady_bind
  · apply steady_bind (step_steady world)
    intro steps
    apply steady_get
    intro connection
    apply steady_bind
    · exact steady_modify fun connection => ⟨rfl,rfl,rfl,rfl,rfl,rfl⟩
    · exact fun _ => steady_pure _
  · intro late
    exact steady_when fun _ => refuse_steady world (by decide)

theorem applyStreamResult_steady (result : StreamingTranscriptionResult) :
    Steady settings world stage Conflicts (applyStreamResult chars settings world result : Code σ Unit) := by
  unfold applyStreamResult
  apply emit_steady
  · intro transcript
    split
    · exact applySegmentSnapshot_tells chars transcript _ _ _
    · exact applyModelUpdate_tells chars transcript _ _
  · intro transcript exc mode raised
    split at raised
    · obtain ⟨message,rfl⟩ := applySegmentSnapshot_raises (mode.trans ‹_›) raised
      exact ⟨message,rfl⟩
    · obtain ⟨message,rfl⟩ := applyModelUpdate_raises raised
      exact ⟨message,rfl⟩

theorem commitPending_steady : Steady settings world stage named (commitPending chars world : Code σ Unit) := by
  unfold commitPending
  apply emit_steady
  · exact fun transcript => commitPending_tells chars transcript
  · intro transcript exc _ raised
    cases raised

/-- A segment of the transcript begins anew, and nobody is told. -/
theorem resetSegment_steady {change : Connection σ → Connection σ}
    (resets : ∀ connection, (change connection).transcript = connection.transcript.resetSegment)
    (aside : ∀ connection, Aside connection { change connection with transcript := connection.transcript }) :
    Steady settings world stage named (modify change : Code σ PUnit) := by
  intro connection live
  have silent : Tells connection.transcript [] connection.transcript.resetSegment :=
    ⟨explains_silent rfl rfl,numbered_silent rfl,by simp,rfl⟩
  have changed := (live.aside (aside connection)).changed silent
  have same : { change connection with transcript := connection.transcript.resetSegment } = change connection := by
    rw [← resets]
  rw [wp_modify]
  exact same ▸ changed

theorem commitFinishedSegment_steady (resetEndpointDetector : Bool) :
    Steady settings world stage named (commitFinishedSegment chars settings world backend resetEndpointDetector) := by
  unfold commitFinishedSegment
  apply steady_bind (commitPending_steady world chars)
  intro _
  exact resetSegment_steady world (fun connection => rfl) fun connection => ⟨rfl,rfl,rfl,rfl,rfl,rfl⟩

theorem applySnapshots_steady (snapshots : List StreamingTranscriptionResult) :
    Steady settings world stage Conflicts (applySnapshots chars settings world backend snapshots) := by
  induction snapshots with
  | nil => exact steady_pure ()
  | cons snapshot rest ih =>
    unfold applySnapshots
    apply steady_bind (steady_when fun _ => applyStreamResult_steady world chars snapshot)
    intro _
    apply steady_bind (steady_when fun _ => commitFinishedSegment_steady world chars backend false)
    intro _
    exact ih

end

end SpeechGateway.Connections
