import SpeechGateway.Framing
import Mathlib.Tactic.Linarith

/-!
A session of `/v1/tts/stream` with the messages that it sends, in whatever order the handler, the
threads of `_stream_pcm_in_thread` and the clock go on. The client takes what has been sent, chunk
by chunk (`Taken`), and hears what the synthesizer has said; once `task_finished` is sent it has
heard everything and counted the same (`stream_round_trip`).
-/
namespace SpeechGateway

/-- The durations that `task_finished` reports, and the readings that they are made of. -/
structure StreamTiming where
  synthesisMs : Rat := 0
  encodeMs : Rat := 0
  synthesisStarted : Time := 0
  encodeBefore : Rat := 0
  encodeStarted : Time := 0

/-- What the clock is read for on the way from one phase to the next. -/
def StreamTiming.reach (timing : StreamTiming) (now : Time) : TtsPhase → TtsPhase → StreamTiming
  | .receiving, .streaming => { timing with synthesisStarted := now,encodeBefore := timing.encodeMs }
  | .streaming, .sending _ => { timing with encodeStarted := now }
  | .sending _, .streaming => { timing with encodeMs := timing.encodeMs + (now - timing.encodeStarted) * 1000 }
  | .streaming, .receiving =>
    { timing with synthesisMs := timing.synthesisMs +
        ((now - timing.synthesisStarted) * 1000 - (timing.encodeMs - timing.encodeBefore)) }
  | _, _ => timing

/-- A session with the last reading of the clock and the messages that were sent. -/
structure TtsStream where
  session : TtsSession
  timing : StreamTiming := {}
  clock : Time
  sent : List WireMessage := []

namespace TtsStream

/-- A session that has just acquired its permit. -/
def accepted (clock : Time) : TtsStream where
  session := { TtsSession.arriving with phase := .starting,acquired := 1 }
  clock := clock

/-- What is sent where the handler awaits a send. -/
def message (info : StreamInfo) (stream : TtsStream) : Option WireMessage :=
  match stream.session.phase with
  | .starting => some (startedMessage info)
  | .sending pcm => chunkMessage info stream.session.chunkSequence stream.session.sampleOffset pcm
  | .finishing => some (finishedMessage info stream.session.chunkSequence stream.session.sampleOffset
      stream.timing.synthesisMs stream.timing.encodeMs)
  | .failing message => some (failedMessage info message)
  | _ => none

/-- A step of the session at a reading of the clock. -/
def step (settings : TtsSettings) (info : StreamInfo) (stream : TtsStream) (action : HandlerAction × Time) : Option TtsStream :=
  if action.2 < stream.clock then none else
  (stream.session.handle settings action.1).bind fun session =>
    let next := { stream with
      session := session
      timing := stream.timing.reach action.2 stream.session.phase session.phase
      clock := action.2 }
    match action.1 with
    | .sent => (stream.message info).map fun message => { next with sent := stream.sent ++ [message] }
    | _ => some next

end TtsStream

/-- What the synthesizer makes of a text that is received. -/
def HandlerAction.spoken : HandlerAction → Pcm
  | .receive (.taskContinue _ speech) => speech.chunks.flatten
  | _ => []

/-- What the synthesizer makes of all texts. -/
def synthesized (actions : List (HandlerAction × Time)) : Pcm := actions.flatMap fun action => action.1.spoken

/-! ## What a step of the handler does -/

/-- The steps of a session. -/
inductive TtsSession.Moves (session : TtsSession) : HandlerAction → TtsSession → Prop
  | started (phase : session.phase = .starting) : Moves session .sent { session with phase := .receiving }
  | chunkSent {pcm : Pcm} {speech : Synthesis} {bridge after : PcmBridge} (phase : session.phase = .sending pcm)
      (call : session.call = some (speech,bridge)) (asked : bridge.next = some after) :
      Moves session .sent { session with
        call := some (speech,after),phase := .streaming
        chunkSequence := session.chunkSequence + 1,sampleOffset := session.sampleOffset + sampleCount pcm }
  | closing (phase : session.phase = .finishing ∨ ∃ message, session.phase = .failing message) :
      Moves session .sent { session with phase := .releasing }
  | spoke {text : Text} {speech : Synthesis} {bridge : PcmBridge} {count : Nat} (phase : session.phase = .receiving)
      (asked : PcmBridge.created.next = some bridge) : Moves session (.receive (.taskContinue (some text) speech))
        { session with textCharacters := count,phase := .streaming,sawText := true,returnedAudio := false
                       call := some (speech,bridge) }
  | finishing (phase : session.phase = .receiving) :
      Moves session (.receive .taskFinish) { session with phase := .finishing }
  | raised {action : HandlerAction} {phase : TtsPhase} (count : Nat) (unsent : action ≠ .sent)
      (runs : session.phase ≠ .releasing ∧ session.phase ≠ .left)
      (ends : phase = .releasing ∨ ∃ message, phase = .failing message) :
      Moves session action { session with textCharacters := count,phase := phase }
  | yielded {speech : Synthesis} {bridge : PcmBridge} {pcm : Pcm} (phase : session.phase = .streaming)
      (call : session.call = some (speech,bridge)) (yields : bridge.consumer = .yielding)
      (last : bridge.yielded.getLast? = some pcm) :
      Moves session .resumed { session with phase := .sending pcm,returnedAudio := true }
  | ended {speech : Synthesis} {bridge : PcmBridge} (phase : session.phase = .streaming)
      (call : session.call = some (speech,bridge)) (ends : bridge.consumer = .terminated .finished) :
      Moves session .resumed { session with phase := .receiving }
  | called {action : HandlerAction} (step : BridgeAction) {speech : Synthesis} {bridge after : PcmBridge}
      (unsent : action ≠ .sent) (silent : action.spoken = []) (call : session.call = some (speech,bridge))
      (stepped : bridge.step speech step = some after) (other : step ≠ .next)
      (closed : step = .close → session.phase ≠ .streaming ∧ ∀ pcm, session.phase ≠ .sending pcm) :
      Moves session action { session with call := some (speech,after) }

namespace TtsSession
variable {settings : TtsSettings} {session next : TtsSession} {action : HandlerAction}

theorem raise_moves (count : Nat) (unsent : action ≠ .sent) (runs : session.phase ≠ .releasing ∧ session.phase ≠ .left)
    {error : HandlerError} : Moves session action ({ session with textCharacters := count }.raise error) := by
  cases error with
  | caught message => exact .raised count unsent runs (.inr ⟨message,rfl⟩)
  | disconnected => exact .raised count unsent runs (.inl rfl)
  | uncaught => exact .raised count unsent runs (.inl rfl)

theorem receive_moves {message : TtsMessage} (phase : session.phase = .receiving)
    (stepped : session.receive settings message = some next) : Moves session (.receive message) next := by
  have runs : session.phase ≠ .releasing ∧ session.phase ≠ .left := by simp [phase]
  have raises : ∀ {error : HandlerError}, Moves session (.receive message) (session.raise error) :=
    raise_moves session.textCharacters (by simp) runs
  cases message with
  | disconnect =>
    cases stepped
    exact raises
  | malformed text =>
    cases stepped
    exact raises
  | other =>
    cases stepped
    exact raises
  | taskFinish =>
    simp only [receive] at stepped
    split at stepped
    · cases stepped
      exact .finishing phase
    · cases stepped
      exact raises
  | taskContinue text speech =>
    cases text with
    | none =>
      cases stepped
      exact raises
    | some text =>
      simp only [receive,speak] at stepped
      split at stepped
      · cases stepped
        exact raises
      · split at stepped
        · cases stepped
          exact raise_moves _ (by simp) runs
        · obtain ⟨bridge,asked,rfl⟩ := Option.map_eq_some_iff.mp stepped
          exact .spoke phase asked

theorem handle_moves (stepped : session.handle settings action = some next) : Moves session action next := by
  cases action with
  | sent =>
    simp only [handle] at stepped
    split at stepped
    · cases stepped
      exact .started ‹_›
    · obtain ⟨asked,called,rfl⟩ := Option.map_eq_some_iff.mp stepped
      obtain ⟨speech,bridge,after,call,moved,rfl⟩ := onCall_some called
      exact .chunkSent ‹_› call moved
    · cases stepped
      exact .closing (.inl ‹_›)
    · cases stepped
      exact .closing (.inr ⟨_,‹_›⟩)
    · cases stepped
  | receive message =>
    simp only [handle] at stepped
    split at stepped
    · exact receive_moves ‹_› stepped
    · cases stepped
  | failed error =>
    simp only [handle] at stepped
    split at stepped <;> cases stepped
    · exact raise_moves session.textCharacters (by simp) (by simp [*])
    · exact raise_moves session.textCharacters (by simp) (by simp [*])
    · exact raise_moves session.textCharacters (by simp) (by simp [*])
    · exact raise_moves session.textCharacters (by simp) (by simp [*])
    · exact .raised session.textCharacters (by simp) (by simp [*]) (.inl rfl)
  | cancelled =>
    simp only [handle] at stepped
    split at stepped
    · cases stepped
      exact .raised session.textCharacters (by simp) (by simp [*]) (.inl rfl)
    · cases stepped
      exact .raised session.textCharacters (by simp) (by simp [*]) (.inl rfl)
    · cases stepped
      exact .raised session.textCharacters (by simp) (by simp [*]) (.inl rfl)
    · cases stepped
      exact .raised session.textCharacters (by simp) (by simp [*]) (.inl rfl)
    · cases stepped
      exact .raised session.textCharacters (by simp) (by simp [*]) (.inl rfl)
    · obtain ⟨speech,bridge,after,call,moved,rfl⟩ := onCall_some stepped
      exact .called .cancel (by simp) rfl call moved (by simp) nofun
    · cases stepped
  | resumed =>
    simp only [handle] at stepped
    split at stepped
    · rename_i speech bridge phase call
      simp only [resume] at stepped
      split at stepped
      · obtain ⟨pcm,last,rfl⟩ := Option.map_eq_some_iff.mp stepped
        exact .yielded phase call ‹_› last
      · split at stepped
        · cases stepped
          exact .ended phase call ‹_›
        · cases stepped
          exact raise_moves session.textCharacters (by simp) (by simp [phase])
      · cases stepped
        exact raise_moves session.textCharacters (by simp) (by simp [phase])
      · cases stepped
        exact raise_moves session.textCharacters (by simp) (by simp [phase])
      · cases stepped
    · cases stepped
  | dispose =>
    simp only [handle] at stepped
    split at stepped
    · obtain ⟨speech,bridge,after,call,moved,rfl⟩ := onCall_some stepped
      exact .called .close (by simp) rfl call moved (by simp) fun _ => by simp [*]
    · obtain ⟨speech,bridge,after,call,moved,rfl⟩ := onCall_some stepped
      exact .called .close (by simp) rfl call moved (by simp) fun _ => by simp [*]
    · obtain ⟨speech,bridge,after,call,moved,rfl⟩ := onCall_some stepped
      exact .called .close (by simp) rfl call moved (by simp) fun _ => by simp [*]
    · cases stepped
  | bridge step =>
    simp only [handle] at stepped
    split at stepped
    · cases stepped
    · cases stepped
    · cases stepped
    all_goals
      obtain ⟨speech,bridge,after,call,moved,rfl⟩ := onCall_some stepped
      exact .called _ (by simp) rfl call moved (by simp) nofun

end TtsSession

/-- Behind its `try` a session sends nothing more. -/
theorem TtsSession.Moves.past {session next : TtsSession} {action : HandlerAction} (moves : session.Moves action next)
    (past : session.phase = .releasing ∨ session.phase = .left) :
    action.spoken = [] ∧ next.phase = session.phase ∧ action ≠ .sent := by
  cases moves with
  | started phase => simp [phase] at past
  | chunkSent phase => simp [phase] at past
  | closing phase => rcases phase with phase | ⟨message,phase⟩ <;> simp [phase] at past
  | spoke phase => simp [phase] at past
  | finishing phase => simp [phase] at past
  | raised count unsent runs => exact absurd past (not_or.mpr runs)
  | yielded phase => simp [phase] at past
  | ended phase => simp [phase] at past
  | called step unsent silent => exact ⟨silent,rfl,unsent⟩

/-- The chunks on which the loop of the handler has gone on. -/
def PcmBridge.delivered (bridge : PcmBridge) : List Pcm :=
  match bridge.consumer with
  | .yielding => bridge.yielded.dropLast
  | _ => bridge.yielded

theorem PcmBridge.delivered_step {speech : Synthesis} {bridge after : PcmBridge} {action : BridgeAction}
    (stepped : bridge.step speech action = some after) (other : action ≠ .next) (goes : action ≠ .close) :
    after.delivered = bridge.delivered := by
  cases action with
  | next => exact absurd rfl other
  | close => exact absurd rfl goes
  | produce =>
    obtain ⟨⟨producer,items,rfl⟩,_⟩ := produce_puts stepped
    rfl
  | full =>
    obtain ⟨⟨producer,items,rfl⟩,_⟩ := (show Puts speech bridge after from full_puts stepped)
    rfl
  | cancel => obtain ⟨position,rfl⟩ | ⟨_,position,rfl⟩ := cancel_cases stepped <;> simp [delivered,position]
  | receive => obtain ⟨_,position,_,⟨_,_,rfl⟩ | ⟨_,_,rfl⟩⟩ := receive_cases stepped <;> simp [delivered,position]
  | finish =>
    obtain ⟨_,position,_,rfl⟩ := finish_cases stepped
    simp [delivered,position]
  | getterStarts =>
    obtain ⟨_,rfl⟩ := getterStarts_cases stepped
    rfl
  | getterTakes =>
    obtain ⟨_,_,_,_,rfl⟩ := getterTakes_cases stepped
    rfl

theorem PcmBridge.delivered_next {bridge after : PcmBridge} {pcm : Pcm} (asked : bridge.next = some after)
    (yields : bridge.consumer = .yielding) (last : bridge.yielded.getLast? = some pcm) :
    after.delivered = bridge.delivered ++ [pcm] := by
  simp only [PcmBridge.next,yields,Option.some.injEq] at asked
  subst asked
  simp only [delivered,yields]
  exact (List.dropLast_append_getLast? pcm last).symm

/-- A generator stays at its `yield` until it is asked again or closed. -/
theorem PcmBridge.yielding_step {speech : Synthesis} {bridge after : PcmBridge} {action : BridgeAction}
    (stepped : bridge.step speech action = some after) (other : action ≠ .next) (goes : action ≠ .close)
    (yields : bridge.consumer = .yielding) : after.consumer = .yielding ∧ after.yielded = bridge.yielded := by
  cases action with
  | next => exact absurd rfl other
  | close => exact absurd rfl goes
  | produce =>
    obtain ⟨⟨producer,items,rfl⟩,_⟩ := produce_puts stepped
    exact ⟨yields,rfl⟩
  | full =>
    obtain ⟨⟨producer,items,rfl⟩,_⟩ := (show Puts speech bridge after from full_puts stepped)
    exact ⟨yields,rfl⟩
  | cancel => simp [PcmBridge.step,PcmBridge.cancel,yields] at stepped
  | receive => simp [PcmBridge.step,PcmBridge.receive,yields] at stepped
  | finish => simp [PcmBridge.step,PcmBridge.finish,yields] at stepped
  | getterStarts =>
    simp only [PcmBridge.step,PcmBridge.getterStarts] at stepped
    split at stepped <;> cases stepped
    exact ⟨yields,rfl⟩
  | getterTakes =>
    simp only [PcmBridge.step,PcmBridge.getterTakes] at stepped
    split at stepped <;> cases stepped
    exact ⟨yields,rfl⟩

theorem Synthesis.itemsFrom_audible {speech : Synthesis} {rest : List Pcm} {pcm : Pcm}
    (inside : .chunk pcm ∈ speech.itemsFrom rest) : Audible pcm := by
  induction rest with
  | nil => exact absurd inside (speech.chunk_notMem_ending pcm)
  | cons first rest ih =>
    rw [itemsFrom] at inside
    by_cases empty : first = []
    · rw [if_pos empty] at inside
      exact ih inside
    · rw [if_neg empty] at inside
      by_cases odd : first.length % 2 ≠ 0
      · rw [if_pos odd] at inside
        simp at inside
      · rw [if_neg odd] at inside
        rcases List.mem_cons.mp inside with same | later
        · cases same
          exact ⟨empty,by omega⟩
        · exact ih later

/-- Behind the last chunk everything was yielded but empty chunks. -/
theorem Synthesis.flatten_ended {speech : Synthesis} {rest yielded : List Pcm}
    (ends : yielded.map .chunk ++ [.streamEnd] <+: speech.itemsFrom rest) : yielded.flatten = rest.flatten := by
  induction rest generalizing yielded with
  | nil =>
    have begins : yielded.map .chunk ++ [.streamEnd] <+: ([] : List Pcm).map .chunk ++ speech.ending := ends
    rw [(chunks_of_mark speech.chunk_notMem_ending (by simp) begins).1]
  | cons first rest ih =>
    rw [itemsFrom] at ends
    by_cases empty : first = []
    · rw [if_pos empty] at ends
      rw [ih ends,empty]
      rfl
    · rw [if_neg empty] at ends
      by_cases odd : first.length % 2 ≠ 0
      · rw [if_pos odd] at ends
        cases yielded with
        | nil => exact absurd (List.cons_prefix_cons.mp ends).1 (by simp)
        | cons pcm yielded => exact absurd (List.cons_prefix_cons.mp ends).1 (by simp)
      · rw [if_neg odd] at ends
        cases yielded with
        | nil => exact absurd (List.cons_prefix_cons.mp ends).1 (by simp)
        | cons pcm yielded =>
          obtain ⟨same,later⟩ := List.cons_prefix_cons.mp ends
          cases same
          rw [List.flatten_cons,List.flatten_cons,ih later]

namespace TtsStream
open PcmBridge
variable {literals : Literals} {info : StreamInfo} {settings : TtsSettings}

/-- The durations are sums of what passed between two readings. -/
structure Timed (stream : TtsStream) : Prop where
  synthesis : 0 ≤ stream.timing.synthesisMs
  encode : 0 ≤ stream.timing.encodeMs
  speaking : stream.session.phase = .streaming →
    stream.timing.encodeMs - stream.timing.encodeBefore ≤ (stream.clock - stream.timing.synthesisStarted) * 1000
  encoding : ∀ pcm, stream.session.phase = .sending pcm → stream.timing.encodeStarted ≤ stream.clock ∧
    stream.timing.encodeMs - stream.timing.encodeBefore ≤
      (stream.timing.encodeStarted - stream.timing.synthesisStarted) * 1000

theorem accepted_timed (clock : Time) : Timed (accepted clock) :=
  ⟨Rat.le_refl,Rat.le_refl,nofun,nofun⟩

/-- A step at a later reading, whatever it sends. -/
theorem Timed.step {stream : TtsStream} {action : HandlerAction} {session : TtsSession} {now : Time}
    (timed : Timed stream) (later : stream.clock ≤ now) (moves : stream.session.Moves action session) (sent : List WireMessage) :
    Timed ⟨session,stream.timing.reach now stream.session.phase session.phase,now,sent⟩ := by
  obtain ⟨synthesis,encode,speaking,encoding⟩ := timed
  cases moves with
  | started phase =>
    simp only [phase,StreamTiming.reach]
    exact ⟨synthesis,encode,nofun,nofun⟩
  | closing phase =>
    rcases phase with phase | ⟨message,phase⟩ <;> simp only [phase,StreamTiming.reach] <;>
      exact ⟨synthesis,encode,nofun,nofun⟩
  | finishing phase =>
    simp only [phase,StreamTiming.reach]
    exact ⟨synthesis,encode,nofun,nofun⟩
  | raised count unsent runs ends =>
    have same : ∀ phase, stream.timing.reach now phase .releasing = stream.timing ∧
        ∀ message, stream.timing.reach now phase (.failing message) = stream.timing := by
      rintro (_ | _) <;> exact ⟨rfl,fun _ => rfl⟩
    rcases ends with rfl | ⟨message,rfl⟩
    · simp only [(same _).1]
      exact ⟨synthesis,encode,nofun,nofun⟩
    · simp only [(same _).2]
      exact ⟨synthesis,encode,nofun,nofun⟩
  | spoke phase =>
    simp only [phase,StreamTiming.reach]
    exact ⟨synthesis,encode,fun _ => by simp,nofun⟩
  | yielded phase call yields last =>
    have bound := speaking phase
    simp only [phase,StreamTiming.reach]
    refine ⟨synthesis,encode,nofun,fun pcm _ => ⟨Rat.le_refl,?_⟩⟩
    dsimp only
    linarith
  | chunkSent phase call asked =>
    obtain ⟨before,bound⟩ := encoding _ phase
    simp only [phase,StreamTiming.reach]
    refine ⟨synthesis,?_,fun _ => ?_,nofun⟩
    · dsimp only
      linarith
    · dsimp only
      linarith
  | ended phase call ends =>
    have bound := speaking phase
    simp only [phase,StreamTiming.reach]
    refine ⟨?_,encode,nofun,nofun⟩
    dsimp only
    linarith
  | called step unsent silent call stepped other closed =>
    have same : stream.timing.reach now stream.session.phase stream.session.phase = stream.timing := by
      cases stream.session.phase <;> rfl
    simp only [same]
    refine ⟨synthesis,encode,fun phase => ?_,fun pcm phase => ?_⟩
    · have bound := speaking phase
      dsimp only
      linarith
    · obtain ⟨before,bound⟩ := encoding pcm phase
      exact ⟨Rat.le_trans before later,bound⟩

/-! ## What the client has heard -/

/-- The client has taken everything that was sent, counts as the server does, and has heard the
    audio. -/
structure Taken (literals : Literals) (sent : List WireMessage) (chunkSequence sampleOffset : Nat) (audio : Pcm)
    (client : StreamClient) : Prop where
  reads : ∀ rest, readAnswers literals (sent ++ rest) = readStream literals rest client
  sequence : client.expectedSequence = chunkSequence
  offset : client.expectedOffset = sampleOffset
  heard : client.heard = audio

/-- The client has taken what the stream sent. -/
abbrev Heard (literals : Literals) (stream : TtsStream) (audio : Pcm) (client : StreamClient) : Prop :=
  Taken literals stream.sent stream.session.chunkSequence stream.session.sampleOffset audio client

/-- In a call, behind `before`, the client has heard the chunks on which the loop has gone on. -/
structure Speaking (literals : Literals) (stream : TtsStream) (audio : Pcm) (speech : Synthesis) (bridge : PcmBridge)
    (before : Pcm) (client : StreamClient) : Prop where
  call : stream.session.call = some (speech,bridge)
  stands : Stands bridge
  flows : Flows speech bridge
  taken : Heard literals stream (before ++ bridge.delivered.flatten) client
  audio : audio = before ++ speech.chunks.flatten

/-- What holds in each phase, where the synthesizer has made the audio of the texts so far. -/
def Kept (literals : Literals) (stream : TtsStream) (audio : Pcm) : Prop :=
  match stream.session.phase with
  | .arriving | .refused => False
  | .starting => stream.sent = [] ∧ stream.session.chunkSequence = 0 ∧ stream.session.sampleOffset = 0 ∧ audio = []
  | .receiving | .finishing => ∃ client, Heard literals stream audio client
  | .streaming => ∃ speech bridge before client, Speaking literals stream audio speech bridge before client
  | .sending pcm => ∃ speech bridge before client, Speaking literals stream audio speech bridge before client ∧
      bridge.consumer = .yielding ∧ bridge.yielded.getLast? = some pcm
  | .failing _ | .releasing | .left => True

/-- `task_finished` is not sent yet. -/
def Unfinished (stream : TtsStream) : Prop := ∀ message ∈ stream.sent, Json.isStr "task_finished" message.event = false

/-- The client has heard the audio, and its counts are those of `task_finished`. -/
def Decoded (literals : Literals) (info : StreamInfo) (sent : List WireMessage) (audio : Pcm) : Prop :=
  ∃ client synthesisMs encodeMs, readAnswers literals sent = .ok client ∧ client.heard = audio ∧
    sent.getLast? = some (finishedMessage info client.expectedSequence client.expectedOffset synthesisMs encodeMs)

/-- The client can follow as long as the stream goes on, and has heard everything at its end. -/
def Followed (literals : Literals) (info : StreamInfo) (stream : TtsStream) (audio : Pcm) : Prop :=
  Unfinished stream ∧ Kept literals stream audio ∨
    (stream.session.phase = .releasing ∨ stream.session.phase = .left) ∧ Decoded literals info stream.sent audio

theorem accepted_followed (clock : Time) : Followed literals info (accepted clock) [] :=
  .inl ⟨nofun,rfl,rfl,rfl,rfl⟩

/-- A chunk that is sent is heard. -/
theorem Heard.chunk {stream : TtsStream} {audio : Pcm} {client : StreamClient} {pcm : Pcm} {message : WireMessage}
    (taken : Heard literals stream audio client) (audible : Audible pcm)
    (sends : chunkMessage info stream.session.chunkSequence stream.session.sampleOffset pcm = some message)
    (rest : List WireMessage) :
    readAnswers literals (stream.sent ++ [message] ++ rest) = readStream literals rest (client.after pcm) := by
  rw [← taken.sequence,← taken.offset] at sends
  rw [List.append_assoc,taken.reads]
  exact readStream_chunk audible sends rest

theorem chunkMessage_event {chunkSequence sampleOffset : Nat} {pcm : Pcm} {message : WireMessage}
    (sends : chunkMessage info chunkSequence sampleOffset pcm = some message) :
    Json.isStr "task_finished" message.event = false := by
  unfold chunkMessage at sends
  split at sends
  · obtain ⟨header,_,rfl⟩ := Option.map_eq_some_iff.mp sends
    rfl
  · cases sends
    rfl

theorem Unfinished.snoc {sent : List WireMessage} {message : WireMessage} 
    (before : ∀ other ∈ sent, Json.isStr "task_finished" other.event = false)
    (last : Json.isStr "task_finished" message.event = false) :
    ∀ other ∈ sent ++ [message], Json.isStr "task_finished" other.event = false := by
  intro other inside
  rcases List.mem_append.mp inside with old | new
  · exact before other old
  · rw [List.mem_singleton.mp new]
    exact last

/-- A chunk on which the loop goes on is sample-aligned and not empty. -/
theorem Speaking.audible {stream : TtsStream} {audio before : Pcm} {speech : Synthesis} {bridge : PcmBridge}
    {client : StreamClient} (speaking : Speaking literals stream audio speech bridge before client) {pcm : Pcm}
    (last : bridge.yielded.getLast? = some pcm) : Audible pcm := by
  have inside : pcm ∈ bridge.yielded := List.mem_of_getLast? last
  have begins := (List.prefix_append _ _).trans speaking.flows.heard
  exact Synthesis.itemsFrom_audible (begins.subset (List.mem_map_of_mem inside))

/-- Behind the last chunk of a call the client has heard all that the synthesizer made. -/
theorem Speaking.ended {stream : TtsStream} {audio before : Pcm} {speech : Synthesis} {bridge : PcmBridge}
    {client : StreamClient} (speaking : Speaking literals stream audio speech bridge before client)
    (ends : bridge.consumer = .terminated .finished) : Heard literals stream audio client := by
  have heard := speaking.flows.heard
  rw [ends] at heard
  have delivered : bridge.delivered = bridge.yielded := by simp [PcmBridge.delivered,ends]
  rw [speaking.audio,← Synthesis.flatten_ended heard,← delivered]
  exact speaking.taken

theorem Speaking.step {stream next : TtsStream} {audio before : Pcm} {speech : Synthesis} {bridge after : PcmBridge}
    {client : StreamClient} (speaking : Speaking literals stream audio speech bridge before client) {action : BridgeAction}
    (stepped : bridge.step speech action = some after) (other : action ≠ .next) (goes : action ≠ .close)
    (call : next.session.call = some (speech,after)) (sequence : next.session.chunkSequence = stream.session.chunkSequence)
    (offset : next.session.sampleOffset = stream.session.sampleOffset) (sent : next.sent = stream.sent) :
    Speaking literals next audio speech after before client := by
  refine ⟨call,speaking.stands.step stepped,speaking.flows.step speaking.stands stepped,?_,speaking.audio⟩
  rw [delivered_step stepped other goes,Heard,sequence,offset,sent]
  exact speaking.taken

/-- What no send changes. -/
theorem Kept.moves {stream : TtsStream} {audio : Pcm} {action : HandlerAction} {session : TtsSession}
    (kept : Kept literals stream audio) (moved : stream.session.Moves action session) (unsent : action ≠ .sent)
    (timing : StreamTiming) (now : Time) :
    Kept literals ⟨session,timing,now,stream.sent⟩ (audio ++ action.spoken) := by
  unfold Kept at kept
  cases moved with
  | started => exact absurd rfl unsent
  | chunkSent => exact absurd rfl unsent
  | closing => exact absurd rfl unsent
  | @spoke text speech bridge count phase asked =>
    rw [phase] at kept
    obtain ⟨client,taken⟩ := kept
    have stepped : PcmBridge.created.step speech .next = some bridge := asked
    cases asked
    refine ⟨speech,_,audio,client,rfl,created_stands.step stepped,created_flows.step created_stands stepped,?_,rfl⟩
    exact (List.append_nil audio).symm ▸ taken
  | finishing phase =>
    rw [phase] at kept
    obtain ⟨client,taken⟩ := kept
    rw [show HandlerAction.spoken (.receive .taskFinish) = [] from rfl,List.append_nil]
    exact ⟨client,taken⟩
  | raised count _ runs ends =>
    rcases ends with rfl | ⟨message,rfl⟩ <;> trivial
  | yielded phase call yields last =>
    rw [phase] at kept
    obtain ⟨speech,bridge,before,client,speaking⟩ := kept
    cases call.symm.trans speaking.call
    rw [show HandlerAction.spoken .resumed = [] from rfl,List.append_nil]
    exact ⟨_,_,before,client,⟨speaking.call,speaking.stands,speaking.flows,speaking.taken,
      speaking.audio⟩,yields,last⟩
  | ended phase call ends =>
    rw [phase] at kept
    obtain ⟨speech,bridge,before,client,speaking⟩ := kept
    cases call.symm.trans speaking.call
    rw [show HandlerAction.spoken .resumed = [] from rfl,List.append_nil]
    exact ⟨client,(speaking.ended ends)⟩
  | called step _ silent call stepped other closed =>
    rw [silent,List.append_nil]
    unfold Kept
    dsimp only
    cases phase : stream.session.phase with
    | arriving => simp only [phase] at kept
    | refused => simp only [phase] at kept
    | starting => simpa only [phase] using kept
    | receiving =>
      simp only [phase] at kept
      obtain ⟨client,taken⟩ := kept
      exact ⟨client,taken⟩
    | finishing =>
      simp only [phase] at kept
      obtain ⟨client,taken⟩ := kept
      exact ⟨client,taken⟩
    | streaming =>
      simp only [phase] at kept
      obtain ⟨speech,bridge,before,client,speaking⟩ := kept
      cases call.symm.trans speaking.call
      exact ⟨_,_,before,client,speaking.step stepped other (fun same => (closed same).1 phase) (by rfl) (by rfl)
        (by rfl) (by rfl)⟩
    | sending pcm =>
      simp only [phase] at kept
      obtain ⟨speech,bridge,before,client,speaking,yields,last⟩ := kept
      cases call.symm.trans speaking.call
      have goes : step ≠ .close := fun same => (closed same).2 pcm phase
      obtain ⟨still,same⟩ := yielding_step stepped other goes yields
      exact ⟨_,_,before,client,speaking.step stepped other goes (by rfl) (by rfl) (by rfl) (by rfl),still,same ▸ last⟩
    | failing => trivial
    | releasing => trivial
    | left => trivial

theorem Followed.sent {stream : TtsStream} {audio : Pcm} {session : TtsSession} {message : WireMessage}
    (followed : Followed literals info stream audio) (timed : Timed stream) (moves : stream.session.Moves .sent session)
    (sends : stream.message info = some message) (timing : StreamTiming) (now : Time) :
    Followed literals info ⟨session,timing,now,stream.sent ++ [message]⟩ audio := by
  rcases followed with ⟨unfinished,kept⟩ | ⟨past,_⟩
  swap
  · exact absurd rfl (moves.past past).2.2
  unfold Kept at kept
  generalize acted : HandlerAction.sent = action at moves
  cases moves with
  | started phase =>
    simp only [TtsStream.message,phase,Option.some.injEq] at sends
    simp only [phase] at kept
    obtain ⟨none,sequence,offset,silent⟩ := kept
    subst sends
    refine .inl ⟨Unfinished.snoc unfinished rfl,{},?_,sequence.symm,offset.symm,silent.symm⟩
    intro rest
    rw [none]
    exact readAnswers_started rest
  | @chunkSent pcm speech bridge after phase call asked =>
    simp only [TtsStream.message,phase] at sends
    simp only [phase] at kept
    obtain ⟨_,_,before,client,speaking,yields,last⟩ := kept
    cases call.symm.trans speaking.call
    have audible := speaking.audible last
    refine .inl ⟨Unfinished.snoc unfinished (chunkMessage_event sends),speech,after,before,client.after pcm,?_⟩
    have stepped : bridge.step speech .next = some after := asked
    refine ⟨rfl,speaking.stands.step stepped,speaking.flows.step speaking.stands stepped,?_,speaking.audio⟩
    have delivered : after.delivered.flatten = bridge.delivered.flatten ++ pcm := by
      simp [delivered_next asked yields last]
    refine ⟨Heard.chunk speaking.taken audible sends,?_,?_,?_⟩
    · exact congrArg (· + 1) speaking.taken.sequence
    · exact congrArg (· + sampleCount pcm) speaking.taken.offset
    · rw [delivered,← List.append_assoc,← speaking.taken.heard]
      rfl
  | closing phase =>
    rcases phase with phase | ⟨text,phase⟩
    · simp only [TtsStream.message,phase,Option.some.injEq] at sends
      simp only [phase] at kept
      obtain ⟨client,taken⟩ := kept
      subst sends
      have read : readStream literals [finishedMessage info client.expectedSequence client.expectedOffset
          stream.timing.synthesisMs stream.timing.encodeMs] client = _ := readStream_finished timed.synthesis timed.encode []
      rw [← taken.reads,taken.sequence,taken.offset] at read
      refine .inr ⟨.inl rfl,_,stream.timing.synthesisMs,stream.timing.encodeMs,read,taken.heard,?_⟩
      dsimp only
      rw [List.getLast?_concat]
    · simp only [TtsStream.message,phase,Option.some.injEq] at sends
      subst sends
      exact .inl ⟨Unfinished.snoc unfinished rfl,trivial⟩
  | spoke => cases acted
  | finishing => cases acted
  | raised count unsent => exact absurd acted.symm unsent
  | yielded => cases acted
  | ended => cases acted
  | called step unsent => exact absurd acted.symm unsent

theorem Followed.step {stream next : TtsStream} {audio : Pcm} {action : HandlerAction × Time}
    (followed : Followed literals info stream audio) (timed : Timed stream)
    (stepped : stream.step settings info action = some next) :
    Followed literals info next (audio ++ action.1.spoken) ∧ Timed next := by
  unfold TtsStream.step at stepped
  split at stepped
  · cases stepped
  rename_i later
  obtain ⟨session,handled,sends⟩ := Option.bind_eq_some_iff.mp stepped
  have moves := TtsSession.handle_moves handled
  have since : stream.clock ≤ action.2 := Rat.not_lt.mp later
  have fresh := timed.step since moves
  obtain ⟨action,now⟩ := action
  by_cases unsent : action = .sent
  · subst unsent
    obtain ⟨message,sent,rfl⟩ := Option.map_eq_some_iff.mp sends
    refine ⟨?_,fresh _⟩
    rw [show HandlerAction.spoken .sent = [] from rfl,List.append_nil]
    exact followed.sent timed moves sent _ _
  · have same : next = ⟨session,stream.timing.reach now stream.session.phase session.phase,now,stream.sent⟩ := by
      cases action <;> first | exact absurd rfl unsent | exact (Option.some.inj sends).symm
    subst same
    refine ⟨?_,fresh _⟩
    rcases followed with ⟨unfinished,kept⟩ | ⟨past,decoded⟩
    · exact .inl ⟨unfinished,kept.moves moves unsent _ _⟩
    · obtain ⟨silent,stays,_⟩ := moves.past past
      rw [silent,List.append_nil]
      exact .inr ⟨by rwa [stays],decoded⟩

theorem run_followed {actions : List (HandlerAction × Time)} {stream last : TtsStream} {audio : Pcm}
    (followed : Followed literals info stream audio) (timed : Timed stream)
    (ran : Machine.run (TtsStream.step settings info) stream actions = some last) :
    Followed literals info last (audio ++ synthesized actions) := by
  induction actions generalizing stream audio with
  | nil =>
    cases ran
    simpa [synthesized] using followed
  | cons action rest ih =>
    obtain ⟨next,stepped,ran⟩ := (Machine.run_cons _).mp ran
    obtain ⟨follows,times⟩ := followed.step timed stepped
    have later := ih follows times ran
    rwa [List.append_assoc] at later

variable (literals) in
/-- Once a session has sent `task_finished`, the client takes its messages without an error, has
    heard what the synthesizer made of all texts, and has counted what `task_finished` says. The
    numbers of the chunks fit their fields, since nothing is sent where they do not. -/
theorem stream_round_trip {clock : Time} {actions : List (HandlerAction × Time)} {stream : TtsStream}
    (ran : Machine.run (TtsStream.step settings info) (accepted clock) actions = some stream)
    (finished : ∃ message ∈ stream.sent, Json.isStr "task_finished" message.event = true) :
    ∃ client synthesisMs encodeMs, readAnswers literals stream.sent = .ok client ∧ client.heard = synthesized actions ∧
      stream.sent.getLast? = some (finishedMessage info client.expectedSequence client.expectedOffset synthesisMs encodeMs) := by
  have followed : Followed literals info stream ([] ++ synthesized actions) :=
    run_followed (accepted_followed clock) (accepted_timed clock) ran
  rcases followed with ⟨unfinished,_⟩ | ⟨_,decoded⟩
  · obtain ⟨message,inside,ends⟩ := finished
    exact absurd ends (by simp [unfinished message inside])
  · exact decoded

/-- The handler and the threads pass on a chunk, and a call comes to its end. -/
def chunkActions : List HandlerAction :=
  [.bridge .produce,.bridge .produce,.bridge .produce,.bridge .getterStarts,.bridge .getterTakes,.bridge .receive,.resumed,.sent]

def endActions : List HandlerAction :=
  [.bridge .produce,.bridge .produce,.bridge .produce,.bridge .getterStarts,.bridge .getterTakes,.bridge .receive,
    .bridge .finish,.resumed]

/-- Two texts; the second chunk of the first one is empty. -/
def scriptedActions : List (HandlerAction × Time) :=
  ([.sent,.receive (.taskContinue (some ['a']) ⟨[[1,0],[],[2,0,3,0]],none⟩),.bridge .produce] ++ chunkActions ++
    [.bridge .produce] ++ chunkActions ++ endActions ++
    [.receive (.taskContinue (some ['b']) ⟨[[4,0]],none⟩),.bridge .produce] ++ chunkActions ++ endActions ++
    [.receive .taskFinish,.sent] : List HandlerAction).map fun action => (action,1)

def scriptedSettings : TtsSettings := ⟨10,1,ascii⟩
def scriptedInfo : StreamInfo := ⟨['s'],['t'],24000,.binary⟩

theorem stream_round_trip_scripted : ∃ stream client synthesisMs encodeMs,
    Machine.run (TtsStream.step scriptedSettings scriptedInfo) (accepted 0) scriptedActions = some stream ∧
    readAnswers ⟨fun _ => none,fun _ => none⟩ stream.sent = .ok client ∧ client.heard = [1,0,2,0,3,0,4,0] ∧
    stream.sent.getLast? = some (finishedMessage scriptedInfo client.expectedSequence client.expectedOffset synthesisMs
      encodeMs) := by
  have ends : (Machine.run (TtsStream.step scriptedSettings scriptedInfo) (accepted 0) scriptedActions).any
      (fun stream => stream.sent.any fun message => Json.isStr "task_finished" message.event) = true := by decide +kernel
  obtain ⟨stream,ran,finished⟩ := (Option.any_eq_true _ _).mp ends
  obtain ⟨client,synthesisMs,encodeMs,read,heard,last⟩ :=
    stream_round_trip ⟨fun _ => none,fun _ => none⟩ ran (List.any_eq_true.mp finished)
  exact ⟨stream,client,synthesisMs,encodeMs,ran,read,heard,last⟩

end TtsStream


end SpeechGateway
