import SpeechGateway.Bridge
import Mathlib.Data.Finset.Card
import Mathlib.Logic.Function.Basic

/-!
`synthesize_tts_stream` behind its handshake: any number of sessions take a permit of
`tts_stream_slots`, speak the texts they receive through `_stream_pcm_in_thread`, and give
the permit back in their `finally`. `calls_within_permits` says when the calls of the
synthesizer stay within the permits, and `call_outlives_permit` that a client who leaves in
the middle of the chunk loop is enough to leave one behind.
-/
namespace SpeechGateway

/-- The settings that `synthesize_tts_stream` reads, and the tables behind `str.strip`. -/
structure TtsSettings where
  maxTextChars : Nat
  maxActiveStreams : Nat
  chars : Alphabet

/-- What `_receive_json` makes of a message. A text comes with what the synthesizer is going to
    make of it. -/
inductive TtsMessage
  | disconnect
  | malformed (message : String)
  | taskFinish
  | taskContinue (text : Option Text) (speech : Synthesis)
  | other

/-- An exception of an awaited send or receive, by the clause of the handler that catches it. -/
inductive HandlerError
  | disconnected
  | caught (message : String)
  | uncaught
  deriving DecidableEq, Repr

/-- Where the handler stands. `streaming` is the await of the generator in the `async for`, and
    `sending` the send in the body of the loop. -/
inductive TtsPhase
  | arriving
  | refused
  | starting
  | receiving
  | streaming
  | sending (pcm : Pcm)
  | finishing
  | failing (message : String)
  | releasing
  | left
  deriving DecidableEq, Repr

/-- One session of `/v1/tts/stream`, with the last call of `_stream_pcm_in_thread` it made and how
    often it acquired and released a permit. -/
structure TtsSession where
  phase : TtsPhase
  sawText : Bool
  textCharacters : Nat
  chunkSequence : Nat
  sampleOffset : Nat
  returnedAudio : Bool
  call : Option (Synthesis × PcmBridge)
  acquired : Nat
  released : Nat
  deriving DecidableEq, Repr

/-- The event loop goes on with the handler, cancels it, or closes a generator that was left
    behind; or a step of the call of `_stream_pcm_in_thread`. -/
inductive HandlerAction
  | sent
  | receive (message : TtsMessage)
  | failed (error : HandlerError)
  | cancelled
  | resumed
  | dispose
  | bridge (action : BridgeAction)

def blankMessage : String := "text cannot be blank"
def lengthMessage (settings : TtsSettings) : String :=
  s!"text exceeds maximum length of {settings.maxTextChars} characters"
def unexpectedMessage : String := "Expected task_continue or task_finish event"
def finishMessage : String := "task_finish requires at least one task_continue event"
def textMessage : String := "task_continue.text must be a string"
def silentMessage : String := "TTS did not return audio"

/-- `_validate_text_length`. -/
def validateTextLength (settings : TtsSettings) (text : Text) : Except String Unit :=
  if strip settings.chars text = [] then .error blankMessage
  else if settings.maxTextChars < text.length then .error (lengthMessage settings)
  else .ok ()

namespace TtsSession

def arriving : TtsSession where
  phase := .arriving
  sawText := false
  textCharacters := 0
  chunkSequence := 0
  sampleOffset := 0
  returnedAudio := false
  call := none
  acquired := 0
  released := 0

/-- The session has its permit. -/
def Holds (session : TtsSession) : Prop :=
  match session.phase with
  | .arriving | .refused | .left => False
  | _ => True

/-- An exception raised in the body of the `try`. -/
def raise (session : TtsSession) : HandlerError → TtsSession
  | .caught message => { session with phase := .failing message }
  | .disconnected | .uncaught => { session with phase := .releasing }

/-- A step of the call of `_stream_pcm_in_thread`. -/
def onCall (session : TtsSession) (step : Synthesis → PcmBridge → Option PcmBridge) : Option TtsSession :=
  match session.call with
  | none => none
  | some (speech,bridge) => (step speech bridge).map fun after => { session with call := some (speech,after) }

/-- A text was received, and `async for` asks the new generator for its first chunk. -/
def speak (settings : TtsSettings) (session : TtsSession) (text : Text) (speech : Synthesis) : Option TtsSession :=
  match validateTextLength settings text with
  | .error message => some (session.raise (.caught message))
  | .ok () =>
    let counted := { session with textCharacters := session.textCharacters + text.length }
    if settings.maxTextChars < counted.textCharacters then some (counted.raise (.caught (lengthMessage settings)))
    else PcmBridge.created.next.map fun bridge =>
      { counted with phase := .streaming,sawText := true,returnedAudio := false,call := some (speech,bridge) }

/-- The loop of the handler goes on with a received message. -/
def receive (settings : TtsSettings) (session : TtsSession) : TtsMessage → Option TtsSession
  | .disconnect => some (session.raise .disconnected)
  | .malformed message => some (session.raise (.caught message))
  | .taskFinish =>
    if session.sawText then some { session with phase := .finishing }
    else some (session.raise (.caught finishMessage))
  | .taskContinue none _ => some (session.raise (.caught textMessage))
  | .taskContinue (some text) speech => session.speak settings text speech
  | .other => some (session.raise (.caught unexpectedMessage))

/-- `async for` goes on with what the generator answered. -/
def resume (session : TtsSession) (bridge : PcmBridge) : Option TtsSession :=
  match bridge.consumer with
  | .yielding =>
    bridge.yielded.getLast?.map fun pcm => { session with phase := .sending pcm,returnedAudio := true }
  | .terminated .finished =>
    if session.returnedAudio then some { session with phase := .receiving }
    else some (session.raise (.caught silentMessage))
  | .terminated (.raised error) => some (session.raise (.caught error))
  | .terminated .cancelled => some (session.raise .uncaught)
  | _ => none

def handle (settings : TtsSettings) (session : TtsSession) : HandlerAction → Option TtsSession
  | .sent =>
    match session.phase with
    | .starting => some { session with phase := .receiving }
    | .sending pcm =>
      (session.onCall fun _ bridge => bridge.next).map fun asked =>
        { asked with phase := .streaming,chunkSequence := session.chunkSequence + 1,
                     sampleOffset := session.sampleOffset + sampleCount pcm }
    | .finishing | .failing _ => some { session with phase := .releasing }
    | _ => none
  | .receive message =>
    match session.phase with
    | .receiving => session.receive settings message
    | _ => none
  | .failed error =>
    match session.phase with
    | .starting | .receiving | .sending _ | .finishing => some (session.raise error)
    -- `_fail_websocket` catches what the clauses of the handler would catch
    | .failing _ => some { session with phase := .releasing }
    | _ => none
  | .cancelled =>
    match session.phase with
    | .starting | .receiving | .sending _ | .finishing | .failing _ => some { session with phase := .releasing }
    -- the generator is the innermost await
    | .streaming => session.onCall fun _ bridge => bridge.cancel
    | _ => none
  | .resumed =>
    match session.phase,session.call with
    | .streaming,some (_,bridge) => session.resume bridge
    | _,_ => none
  | .dispose =>
    match session.phase with
    | .failing _ | .releasing | .left => session.onCall fun _ bridge => bridge.close
    | _ => none
  | .bridge action =>
    match action with
    | .next | .close | .cancel => none
    | .receive | .finish | .getterStarts | .getterTakes | .produce | .full =>
      session.onCall fun speech bridge => bridge.step speech action

end TtsSession

/-- `tts_stream_slots` and the sessions that connect. -/
structure StreamSlots where
  available : Nat
  sessions : Nat → TtsSession

/-- A session takes its permit, gives it back, or goes on. -/
inductive SlotAction
  | acquire (session : Nat)
  | release (session : Nat)
  | handle (session : Nat) (action : HandlerAction)

namespace StreamSlots

def initial (settings : TtsSettings) : StreamSlots := ⟨settings.maxActiveStreams,fun _ => .arriving⟩

def withSession (slots : StreamSlots) (session : Nat) (value : TtsSession) : StreamSlots :=
  { slots with sessions := Function.update slots.sessions session value }

/-- `tts_stream_slots.acquire(blocking=False)`. -/
def acquire (slots : StreamSlots) (session : Nat) : Option StreamSlots :=
  match (slots.sessions session).phase with
  | .arriving =>
    if 0 < slots.available then
      some { slots.withSession session { slots.sessions session with phase := .starting,acquired := (slots.sessions session).acquired + 1 }
        with available := slots.available - 1 }
    else some (slots.withSession session { slots.sessions session with phase := .refused })
  | _ => none

/-- `tts_stream_slots.release()`, which raises when every permit is there already. -/
def release (settings : TtsSettings) (slots : StreamSlots) (session : Nat) : Option StreamSlots :=
  match (slots.sessions session).phase with
  | .releasing =>
    if slots.available < settings.maxActiveStreams then
      some { slots.withSession session { slots.sessions session with phase := .left,released := (slots.sessions session).released + 1 }
        with available := slots.available + 1 }
    else some (slots.withSession session { slots.sessions session with phase := .left })
  | _ => none

def step (settings : TtsSettings) (slots : StreamSlots) : SlotAction → Option StreamSlots
  | .acquire session => slots.acquire session
  | .release session => slots.release settings session
  | .handle session action => ((slots.sessions session).handle settings action).map fun next => slots.withSession session next

end StreamSlots

/-! ## Every permit is given back once -/

/-- A permit that was acquired is still held, or was released once. -/
def TtsSession.ReleasedOnce (session : TtsSession) : Prop :=
  session.Holds ∧ session.acquired = 1 ∧ session.released = 0 ∨
    ¬session.Holds ∧ session.released = session.acquired ∧ session.acquired ≤ 1 ∧
      (session.phase = .left ↔ session.acquired = 1)

namespace TtsSession
variable {settings : TtsSettings} {session next : TtsSession} {action : HandlerAction}

theorem onCall_some {step : Synthesis → PcmBridge → Option PcmBridge} (stepped : session.onCall step = some next) :
    ∃ speech bridge after, session.call = some (speech,bridge) ∧ step speech bridge = some after ∧
      next = { session with call := some (speech,after) } := by
  unfold onCall at stepped
  split at stepped
  · cases stepped
  · rename_i speech bridge called
    obtain ⟨after,moved,rfl⟩ := Option.map_eq_some_iff.mp stepped
    exact ⟨speech,bridge,after,called,moved,rfl⟩

/-- A session that holds its permit goes on holding it, and its counts stay. -/
structure Goes (session next : TtsSession) : Prop where
  acquired : next.acquired = session.acquired
  released : next.released = session.released
  holds : next.Holds

theorem raise_goes (session : TtsSession) (error : HandlerError) : Goes session (session.raise error) := by
  cases error <;> exact ⟨rfl,rfl,trivial⟩

theorem speak_goes {text : Text} {speech : Synthesis} (stepped : session.speak settings text speech = some next) :
    Goes session next := by
  unfold speak at stepped
  split at stepped
  · cases stepped
    exact raise_goes session _
  · simp only at stepped
    split_ifs at stepped
    · cases stepped
      exact ⟨rfl,rfl,trivial⟩
    · obtain ⟨bridge,_,rfl⟩ := Option.map_eq_some_iff.mp stepped
      exact ⟨rfl,rfl,trivial⟩

theorem receive_goes {message : TtsMessage} (stepped : session.receive settings message = some next) : Goes session next := by
  unfold receive at stepped
  split at stepped
  · cases stepped
    exact raise_goes session _
  · cases stepped
    exact raise_goes session _
  · split_ifs at stepped
    · cases stepped
      exact ⟨rfl,rfl,trivial⟩
    · cases stepped
      exact raise_goes session _
  · cases stepped
    exact raise_goes session _
  · exact speak_goes stepped
  · cases stepped
    exact raise_goes session _

theorem resume_goes {bridge : PcmBridge} (stepped : session.resume bridge = some next) : Goes session next := by
  unfold resume at stepped
  split at stepped
  · obtain ⟨pcm,_,rfl⟩ := Option.map_eq_some_iff.mp stepped
    exact ⟨rfl,rfl,trivial⟩
  · split_ifs at stepped
    · cases stepped
      exact ⟨rfl,rfl,trivial⟩
    · cases stepped
      exact raise_goes session _
  · cases stepped
    exact raise_goes session _
  · cases stepped
    exact raise_goes session _
  · cases stepped

/-- A step of the handler leaves the permit as it is: it changes only the call of
    `_stream_pcm_in_thread`, or the session holds its permit before and behind it. -/
theorem handle_goes (stepped : session.handle settings action = some next) :
    (∃ call, next = { session with call := call }) ∨ session.Holds ∧ Goes session next := by
  have called : ∀ {step}, session.onCall step = some next → ∃ call, next = { session with call := call } := by
    intro step moved
    obtain ⟨speech,_,after,_,_,rfl⟩ := onCall_some moved
    exact ⟨_,rfl⟩
  have holding : ∀ {phase}, session.phase = phase → (phase ≠ .arriving ∧ phase ≠ .refused ∧ phase ≠ .left) → session.Holds := by
    rintro phase rfl ⟨first,second,third⟩
    unfold Holds
    split
    · exact first ‹_›
    · exact second ‹_›
    · exact third ‹_›
    · trivial
  unfold handle at stepped
  split at stepped
  · split at stepped <;> rename_i phase
    · cases stepped
      exact .inr ⟨holding phase (by simp),rfl,rfl,trivial⟩
    · obtain ⟨asked,moved,rfl⟩ := Option.map_eq_some_iff.mp stepped
      obtain ⟨_,_,_,_,_,rfl⟩ := onCall_some moved
      exact .inr ⟨holding phase (by simp),rfl,rfl,trivial⟩
    · cases stepped
      exact .inr ⟨holding phase (by simp),rfl,rfl,trivial⟩
    · cases stepped
      exact .inr ⟨holding phase (by simp),rfl,rfl,trivial⟩
    · cases stepped
  · split at stepped <;> rename_i phase
    · exact .inr ⟨holding phase (by simp),receive_goes stepped⟩
    · cases stepped
  · split at stepped <;> rename_i phase <;> cases stepped
    · exact .inr ⟨holding phase (by simp),raise_goes session _⟩
    · exact .inr ⟨holding phase (by simp),raise_goes session _⟩
    · exact .inr ⟨holding phase (by simp),raise_goes session _⟩
    · exact .inr ⟨holding phase (by simp),raise_goes session _⟩
    · exact .inr ⟨holding phase (by simp),rfl,rfl,trivial⟩
  · split at stepped <;> rename_i phase
    · cases stepped
      exact .inr ⟨holding phase (by simp),rfl,rfl,trivial⟩
    · cases stepped
      exact .inr ⟨holding phase (by simp),rfl,rfl,trivial⟩
    · cases stepped
      exact .inr ⟨holding phase (by simp),rfl,rfl,trivial⟩
    · cases stepped
      exact .inr ⟨holding phase (by simp),rfl,rfl,trivial⟩
    · cases stepped
      exact .inr ⟨holding phase (by simp),rfl,rfl,trivial⟩
    · exact .inl (called stepped)
    · cases stepped
  · split at stepped
    · rename_i phase _
      exact .inr ⟨holding phase (by simp),resume_goes stepped⟩
    · cases stepped
  · split at stepped
    · exact .inl (called stepped)
    · exact .inl (called stepped)
    · exact .inl (called stepped)
    · cases stepped
  · split at stepped
    · cases stepped
    · cases stepped
    · cases stepped
    all_goals exact .inl (called stepped)

theorem ReleasedOnce.handle (once : session.ReleasedOnce) (stepped : session.handle settings action = some next) :
    next.ReleasedOnce ∧ (next.Holds ↔ session.Holds) := by
  rcases handle_goes stepped with ⟨call,rfl⟩ | ⟨holds,goes⟩
  · exact ⟨once,.rfl⟩
  · refine ⟨?_,fun _ => holds,fun _ => goes.holds⟩
    rcases once with ⟨_,acquired,released⟩ | ⟨free,_⟩
    · exact .inl ⟨goes.holds,goes.acquired.trans acquired,goes.released.trans released⟩
    · exact absurd holds free

end TtsSession

namespace StreamSlots
variable {settings : TtsSettings} {slots next : StreamSlots} {action : SlotAction}

/-- The permits that are not available are those that the sessions hold. -/
structure Accounted (settings : TtsSettings) (slots : StreamSlots) : Prop where
  permits : ∃ holders : Finset Nat, (∀ session, session ∈ holders ↔ (slots.sessions session).Holds) ∧
    slots.available + holders.card = settings.maxActiveStreams
  once : ∀ session, (slots.sessions session).ReleasedOnce

theorem initial_accounted (settings : TtsSettings) : Accounted settings (initial settings) := by
  constructor
  · exact ⟨∅,fun session => by simp [initial,TtsSession.Holds,TtsSession.arriving],by simp [initial]⟩
  · intro session
    exact .inr ⟨by simp [initial,TtsSession.Holds,TtsSession.arriving],rfl,by simp [initial,TtsSession.arriving],
      by simp [initial,TtsSession.arriving]⟩

/-- One session changes, and the others are as before. -/
theorem withSession_once (once : ∀ session, (slots.sessions session).ReleasedOnce) {session : Nat} {value : TtsSession}
    (mine : value.ReleasedOnce) (other : Nat) : ((slots.withSession session value).sessions other).ReleasedOnce := by
  by_cases same : other = session
  · subst same
    simpa [withSession] using mine
  · simpa [withSession,same] using once other

theorem Accounted.acquire {session : Nat} (accounted : Accounted settings slots)
    (stepped : slots.acquire session = some next) : Accounted settings next := by
  obtain ⟨⟨holders,held,total⟩,once⟩ := accounted
  unfold StreamSlots.acquire at stepped
  split at stepped
  · rename_i phase
    have free : ¬(slots.sessions session).Holds := by simp [TtsSession.Holds,phase]
    have counts : (slots.sessions session).acquired = 0 ∧ (slots.sessions session).released = 0 := by
      rcases once session with ⟨holds,_⟩ | ⟨_,same,few,ended⟩
      · exact absurd holds free
      · simp only [phase] at ended
        have none : (slots.sessions session).acquired ≠ 1 := fun one => by cases ended.mpr one
        omega
    split_ifs at stepped
    · cases stepped
      refine ⟨⟨insert session holders,fun other => ?_,?_⟩,withSession_once once (.inl ⟨trivial,?_,counts.2⟩)⟩
      · by_cases same : other = session
        · subst same
          simp [withSession,TtsSession.Holds]
        · simp [withSession,same,held]
      · rw [Finset.card_insert_of_notMem (by rw [held]; exact free)]
        show slots.available - 1 + (holders.card + 1) = settings.maxActiveStreams
        omega
      · simp [counts.1]
    · cases stepped
      refine ⟨⟨holders,fun other => ?_,total⟩,withSession_once once (.inr ⟨id,?_,?_,?_⟩)⟩
      · by_cases same : other = session
        · subst same
          simp [withSession,held,TtsSession.Holds,phase]
        · simp [withSession,same,held]
      · exact counts.2.trans counts.1.symm
      · show (slots.sessions session).acquired ≤ 1
        omega
      · simp [counts.1]
  · cases stepped

theorem Accounted.release {session : Nat} (accounted : Accounted settings slots)
    (stepped : slots.release settings session = some next) : Accounted settings next := by
  obtain ⟨⟨holders,held,total⟩,once⟩ := accounted
  unfold StreamSlots.release at stepped
  split at stepped
  · rename_i phase
    have holds : (slots.sessions session).Holds := by simp [TtsSession.Holds,phase]
    have member : session ∈ holders := (held session).mpr holds
    have counts : (slots.sessions session).acquired = 1 ∧ (slots.sessions session).released = 0 := by
      rcases once session with ⟨_,counts⟩ | ⟨free,_⟩
      · exact counts
      · exact absurd holds free
    have some : 0 < holders.card := Finset.card_pos.mpr ⟨session,member⟩
    rw [if_pos (by omega)] at stepped
    cases stepped
    refine ⟨⟨holders.erase session,fun other => ?_,?_⟩,withSession_once once (.inr ⟨id,?_,?_,?_⟩)⟩
    · by_cases same : other = session
      · subst same
        simp [withSession,TtsSession.Holds]
      · simp [withSession,same,held]
    · rw [Finset.card_erase_of_mem member]
      show slots.available + 1 + (holders.card - 1) = settings.maxActiveStreams
      omega
    · simp [counts]
    · simp [counts.1]
    · simp [counts.1]
  · cases stepped

theorem Accounted.step (accounted : Accounted settings slots) (stepped : slots.step settings action = some next) :
    Accounted settings next := by
  cases action with
  | acquire session => exact accounted.acquire stepped
  | release session => exact accounted.release stepped
  | handle session action =>
    obtain ⟨⟨holders,held,total⟩,once⟩ := accounted
    obtain ⟨value,handled,rfl⟩ := Option.map_eq_some_iff.mp stepped
    obtain ⟨mine,holds⟩ := (once session).handle handled
    refine ⟨⟨holders,fun other => ?_,total⟩,withSession_once once mine⟩
    by_cases same : other = session
    · subst same
      simp [withSession,held,holds]
    · simp [withSession,same,held]

end StreamSlots

/-! ## The calls of the synthesizer -/

/-- `produce` is inside `synthesizer.stream_pcm`. -/
def Producer.Executes : Producer → Prop
  | .iterating _ | .putting (.chunk _) _ | .trying (.chunk _) _ => True
  | _ => False

/-- `produce` is inside `synthesizer.stream_pcm`, or its thread has still to start. -/
def Producer.Alive (producer : Producer) : Prop := producer = .pending ∨ producer.Executes

namespace PcmBridge
variable {synthesis : Synthesis} {bridge after : PcmBridge} {action : BridgeAction}

/-- A call that is over does not come back. -/
theorem produce_alive (stepped : bridge.produce synthesis = some after) (alive : after.producer.Alive) :
    bridge.producer.Alive := by
  unfold produce at stepped
  split at stepped
  · cases stepped
  · cases stepped
  · rename_i pending
    exact .inl pending
  · rename_i iterating
    exact .inr (by simp [iterating,Producer.Executes])
  · rename_i iterating
    exact .inr (by simp [iterating,Producer.Executes])
  · rename_i item rest putting
    split_ifs at stepped <;> cases stepped
    · simp [Producer.Alive,Producer.Executes] at alive
    · cases item with
      | chunk pcm => exact .inr (by simp [putting,Producer.Executes])
      | streamFailure | streamEnd => simp [Producer.Alive,Producer.Executes] at alive
  · rename_i item rest trying
    split_ifs at stepped
    cases stepped
    cases item with
    | chunk pcm => exact .inr (by simp [trying,Producer.Executes])
    | streamFailure | streamEnd => simp [Producer.afterPut,Producer.Alive,Producer.Executes] at alive

theorem full_alive (stepped : bridge.full = some after) (alive : after.producer.Alive) : bridge.producer.Alive := by
  unfold full at stepped
  split at stepped
  · rename_i item rest trying
    split_ifs at stepped
    cases stepped
    cases item with
    | chunk pcm => exact .inr (by simp [trying,Producer.Executes])
    | streamFailure | streamEnd => simp [Producer.Alive,Producer.Executes] at alive
  · cases stepped

/-- What the event loop and the threads do to a call: only `await producer` ends it. -/
theorem step_alive (running : action ≠ .next ∧ action ≠ .close ∧ action ≠ .cancel)
    (stepped : bridge.step synthesis action = some after) :
    (after.producer.Alive → bridge.producer.Alive) ∧
      ∀ outcome, after.consumer = .terminated outcome → bridge.consumer = .terminated outcome ∨ after.producer = .ended := by
  cases action with
  | next => exact absurd rfl running.1
  | close => exact absurd rfl running.2.1
  | cancel => exact absurd rfl running.2.2
  | produce =>
    refine ⟨produce_alive stepped,fun outcome terminated => .inl ?_⟩
    obtain ⟨⟨producer,items,rfl⟩,_⟩ := produce_puts stepped
    exact terminated
  | full =>
    refine ⟨full_alive stepped,fun outcome terminated => .inl ?_⟩
    obtain ⟨⟨producer,items,rfl⟩,_⟩ := (show Puts synthesis bridge after from full_puts stepped)
    exact terminated
  | receive => obtain ⟨_,_,_,⟨_,_,rfl⟩ | ⟨_,_,rfl⟩⟩ := receive_cases stepped <;> exact ⟨id,by simp⟩
  | finish =>
    obtain ⟨_,_,ended,rfl⟩ := finish_cases stepped
    exact ⟨id,fun _ _ => .inr ended⟩
  | getterStarts =>
    obtain ⟨_,rfl⟩ := getterStarts_cases stepped
    exact ⟨id,fun _ => .inl⟩
  | getterTakes =>
    obtain ⟨_,_,_,_,rfl⟩ := getterTakes_cases stepped
    exact ⟨id,fun _ => .inl⟩

end PcmBridge

namespace TtsSession
variable {settings : TtsSettings} {session next : TtsSession} {action : HandlerAction}

/-- The session's call of the synthesizer is under way. -/
def Executes (session : TtsSession) : Prop :=
  ∃ speech bridge, session.call = some (speech,bridge) ∧ bridge.producer.Executes

/-- The session's last call of the synthesizer is over, if it made any. -/
def Over (session : TtsSession) : Prop :=
  ∀ speech bridge, session.call = some (speech,bridge) → ¬bridge.producer.Alive

/-- The body of the chunk loop is left by an exception only when the call of the synthesizer is
    over, and a cancellation does not reach `await producer` while the call is under way. -/
def Nests (session : TtsSession) (action : HandlerAction) : Prop :=
  (∀ pcm, session.phase = .sending pcm → action = .cancelled ∨ (∃ error, action = .failed error) → session.Over) ∧
  ∀ speech bridge outcome, session.phase = .streaming → action = .cancelled → session.call = some (speech,bridge) →
    bridge.consumer = .awaitingProducer outcome → ¬bridge.producer.Executes

/-- Outside the chunk loop the call is over. -/
def Nested (session : TtsSession) : Prop :=
  match session.phase with
  | .arriving | .refused | .starting => session.call = none
  | .streaming => ∀ speech bridge outcome, session.call = some (speech,bridge) →
      bridge.consumer = .terminated outcome → ¬bridge.producer.Alive
  | .sending _ => True
  | .receiving | .finishing | .failing _ | .releasing | .left => session.Over

theorem raise_nested (past : session.Over) (error : HandlerError) : (session.raise error).Nested := by
  cases error <;> exact past

theorem over_of_none (silent : session.call = none) : session.Over := by
  intro speech bridge called
  cases silent.symm.trans called

theorem speak_nested {text : Text} {speech : Synthesis} (past : session.Over)
    (stepped : session.speak settings text speech = some next) : next.Nested := by
  unfold speak at stepped
  split at stepped
  · cases stepped
    exact raise_nested past _
  · simp only at stepped
    split_ifs at stepped
    · cases stepped
      exact past
    · obtain ⟨bridge,asked,rfl⟩ := Option.map_eq_some_iff.mp stepped
      cases asked
      intro _ _ outcome called terminated
      cases called
      cases terminated

theorem receive_nested {message : TtsMessage} (past : session.Over)
    (stepped : session.receive settings message = some next) : next.Nested := by
  unfold receive at stepped
  split at stepped
  · cases stepped
    exact raise_nested past _
  · cases stepped
    exact raise_nested past _
  · split_ifs at stepped
    · cases stepped
      exact past
    · cases stepped
      exact raise_nested past _
  · cases stepped
    exact raise_nested past _
  · exact speak_nested past stepped
  · cases stepped
    exact raise_nested past _

theorem resume_nested {speech : Synthesis} {bridge : PcmBridge} (called : session.call = some (speech,bridge))
    (ends : ∀ outcome, bridge.consumer = .terminated outcome → ¬bridge.producer.Alive)
    (stepped : session.resume bridge = some next) : next.Nested := by
  have past : ∀ outcome, bridge.consumer = .terminated outcome → session.Over := by
    intro outcome terminated other last same
    cases called.symm.trans same
    exact ends outcome terminated
  unfold resume at stepped
  split at stepped
  · obtain ⟨pcm,_,rfl⟩ := Option.map_eq_some_iff.mp stepped
    trivial
  · rename_i terminated
    split_ifs at stepped
    · cases stepped
      exact past _ terminated
    · cases stepped
      exact raise_nested (past _ terminated) _
  · rename_i terminated
    cases stepped
    exact raise_nested (past _ terminated) _
  · rename_i terminated
    cases stepped
    exact raise_nested (past _ terminated) _
  · cases stepped

/-- A call that is over stays so. -/
theorem Over.onCall (past : session.Over) {step : Synthesis → PcmBridge → Option PcmBridge}
    (keeps : ∀ speech bridge after, step speech bridge = some after → after.producer.Alive → bridge.producer.Alive)
    (stepped : session.onCall step = some next) : next.Over ∧ next.phase = session.phase := by
  obtain ⟨speech,bridge,after,called,moved,rfl⟩ := onCall_some stepped
  refine ⟨?_,rfl⟩
  intro other last same
  cases same
  exact fun lives => past speech bridge called (keeps _ _ _ moved lives)

/-- A step of the call inside or outside the chunk loop. -/
theorem Nested.onCall (nested : session.Nested) {step : Synthesis → PcmBridge → Option PcmBridge}
    (keeps : ∀ speech bridge after, step speech bridge = some after → (after.producer.Alive → bridge.producer.Alive) ∧
      ∀ outcome, after.consumer = .terminated outcome → bridge.consumer = .terminated outcome ∨ ¬after.producer.Alive)
    (stepped : session.onCall step = some next) : next.Nested := by
  have past : session.Over → next.Over := fun past =>
    (past.onCall (fun speech bridge after moved => (keeps speech bridge after moved).1) stepped).1
  obtain ⟨speech,bridge,after,called,moved,rfl⟩ := onCall_some stepped
  obtain ⟨alive,ends⟩ := keeps _ _ _ moved
  unfold Nested at nested ⊢
  cases phase : session.phase <;> simp only [phase] at nested ⊢
  case arriving | refused | starting => cases nested.symm.trans called
  case streaming =>
    rintro other last outcome same terminated
    cases same
    rcases ends outcome terminated with before | dead
    · exact fun lives => nested speech bridge outcome called before (alive lives)
    · exact dead
  case receiving | finishing | failing | releasing | left => exact past nested

theorem cancel_nested (streaming : session.phase = .streaming)
    (nests : ∀ speech bridge outcome, session.call = some (speech,bridge) → bridge.consumer = .awaitingProducer outcome →
      ¬bridge.producer.Executes)
    (stepped : session.onCall (fun _ bridge => bridge.cancel) = some next) : next.Nested := by
  obtain ⟨speech,bridge,after,called,cancelled,rfl⟩ := onCall_some stepped
  simp only [Nested,streaming]
  rintro other last outcome same terminated
  cases same
  obtain ⟨_,rfl⟩ | ⟨_,position,rfl⟩ := PcmBridge.cancel_cases cancelled
  · cases terminated
  · rintro (pending | executes)
    · by_cases unstarted : bridge.producer = .pending <;> simp [unstarted] at pending
    · by_cases unstarted : bridge.producer = .pending
      · simp [unstarted,Producer.Executes] at executes
      · simp only [unstarted,if_false] at executes
        exact nests speech bridge _ called position executes

theorem Nested.handle (nested : session.Nested) (nests : session.Nests action)
    (stepped : session.handle settings action = some next) : next.Nested := by
  unfold TtsSession.handle at stepped
  split at stepped
  · split at stepped <;> rename_i phase <;> simp only [Nested,phase] at nested
    · cases stepped
      exact over_of_none nested
    · obtain ⟨asked,moved,rfl⟩ := Option.map_eq_some_iff.mp stepped
      obtain ⟨speech,bridge,after,_,asks,rfl⟩ := onCall_some moved
      intro _ _ outcome called terminated
      cases called
      obtain ⟨_,rfl⟩ | ⟨_,rfl⟩ := PcmBridge.next_cases asks <;> cases terminated
    · cases stepped
      exact nested
    · cases stepped
      exact nested
    · cases stepped
  · split at stepped <;> rename_i phase
    · simp only [Nested,phase] at nested
      exact receive_nested nested stepped
    · cases stepped
  · rename_i error
    split at stepped <;> rename_i phase <;> cases stepped <;> simp only [Nested,phase] at nested
    · exact raise_nested (over_of_none nested) _
    · exact raise_nested nested _
    · exact raise_nested (nests.1 _ phase (.inr ⟨error,rfl⟩)) _
    · exact raise_nested nested _
    · exact nested
  · split at stepped <;> rename_i phase
    · cases stepped
      simp only [Nested,phase] at nested
      exact over_of_none nested
    · cases stepped
      simp only [Nested,phase] at nested
      exact nested
    · cases stepped
      exact nests.1 _ phase (.inl rfl)
    · cases stepped
      simp only [Nested,phase] at nested
      exact nested
    · cases stepped
      simp only [Nested,phase] at nested
      exact nested
    · exact cancel_nested phase (fun speech bridge outcome => nests.2 speech bridge outcome phase rfl) stepped
    · cases stepped
  · split at stepped
    · rename_i bridge phase called
      simp only [Nested,phase] at nested
      exact resume_nested called (fun outcome => nested _ bridge outcome called) stepped
    · cases stepped
  · have closes : ∀ (_ : Synthesis) (bridge after : PcmBridge), bridge.close = some after →
        after.producer.Alive → bridge.producer.Alive := by
      intro _ bridge after closed
      obtain ⟨_,rfl⟩ | ⟨_,rfl⟩ := PcmBridge.close_cases closed <;> exact id
    have left : session.Over → (∀ stage : TtsSession, stage.phase = session.phase → stage.Over → stage.Nested) →
        session.onCall (fun _ bridge => bridge.close) = some next → next.Nested := by
      intro past outside moved
      obtain ⟨stays,same⟩ := past.onCall closes moved
      exact outside next same stays
    split at stepped <;> rename_i phase <;> simp only [Nested,phase] at nested
    · exact left nested (fun stage same stays => by simpa only [Nested,same,phase] using stays) stepped
    · exact left nested (fun stage same stays => by simpa only [Nested,same,phase] using stays) stepped
    · exact left nested (fun stage same stays => by simpa only [Nested,same,phase] using stays) stepped
    · cases stepped
  · rename_i inner
    have runs : (inner ≠ .next ∧ inner ≠ .close ∧ inner ≠ .cancel) →
        session.onCall (fun speech bridge => bridge.step speech inner) = some next → next.Nested := by
      intro running moved
      refine nested.onCall (fun speech bridge after stepped => ?_) moved
      obtain ⟨alive,ends⟩ := PcmBridge.step_alive running stepped
      refine ⟨alive,fun outcome terminated => (ends outcome terminated).imp_right fun ended => ?_⟩
      simp [ended,Producer.Alive,Producer.Executes]
    split at stepped
    · cases stepped
    · cases stepped
    · cases stepped
    all_goals exact runs (by simp) stepped

/-- A call under way belongs to a session that holds its permit. -/
theorem Nested.holds (nested : session.Nested) (executes : session.Executes) : session.Holds := by
  obtain ⟨speech,bridge,called,running⟩ := executes
  unfold Nested at nested
  unfold Holds
  cases phase : session.phase <;> simp only [phase] at nested ⊢
  case arriving | refused => cases nested.symm.trans called
  case left => exact nested speech bridge called (.inr running)

end TtsSession

namespace StreamSlots
variable {settings : TtsSettings} {slots next : StreamSlots} {action : SlotAction}

/-- The step meets the condition for the session whose handler goes on. -/
def Nests (slots : StreamSlots) (action : SlotAction) : Prop :=
  ∀ session handled, action = .handle session handled → (slots.sessions session).Nests handled

theorem step_nested (nested : ∀ session, (slots.sessions session).Nested) (nests : Nests slots action)
    (stepped : slots.step settings action = some next) (other : Nat) : (next.sessions other).Nested := by
  have updated : ∀ session value, value.Nested → ((slots.withSession session value).sessions other).Nested := by
    intro session value mine
    by_cases same : other = session
    · subst same
      simpa [withSession] using mine
    · simpa [withSession,same] using nested other
  cases action with
  | acquire session =>
    simp only [StreamSlots.step,StreamSlots.acquire] at stepped
    split at stepped
    · rename_i phase
      have silent := nested session
      simp only [TtsSession.Nested,phase] at silent
      split_ifs at stepped <;> cases stepped
      · exact updated session _ silent
      · exact updated session _ silent
    · cases stepped
  | release session =>
    simp only [StreamSlots.step,StreamSlots.release] at stepped
    split at stepped
    · rename_i phase
      have past := nested session
      simp only [TtsSession.Nested,phase] at past
      split_ifs at stepped <;> cases stepped
      · exact updated session _ past
      · exact updated session _ past
    · cases stepped
  | handle session handled =>
    obtain ⟨value,moved,rfl⟩ := Option.map_eq_some_iff.mp stepped
    exact updated session value ((nested session).handle (nests session handled rfl) moved)

/-- Every permit is released once. The calls of the synthesizer stay within the permits as long as no
    session leaves the body of its chunk loop while its call may go on. -/
theorem calls_within_permits (settings : TtsSettings) (actions : List SlotAction) (slots : StreamSlots)
    (ran : Machine.run (step settings) (initial settings) actions = some slots) :
    (∀ session, (slots.sessions session).ReleasedOnce) ∧
    (Machine.Along (step settings) Nests (initial settings) actions →
      (∀ session, (slots.sessions session).Executes → (slots.sessions session).Holds) ∧
      ∀ group : Finset Nat, (∀ session ∈ group, (slots.sessions session).Executes) →
        group.card ≤ settings.maxActiveStreams) := by
  have accounted : Accounted settings slots :=
    Machine.invariant (step settings) (Accounted settings) (fun _ _ _ accounted stepped => accounted.step stepped)
      (initial_accounted settings) ran
  refine ⟨accounted.once,fun along => ?_⟩
  have nested : ∀ session, (slots.sessions session).Nested :=
    Machine.invariant_along (step settings) (fun slots => ∀ session, (slots.sessions session).Nested)
      (fun _ _ _ nested nests stepped => step_nested nested nests stepped)
      (fun _ => show TtsSession.arriving.Nested from rfl) along ran
  refine ⟨fun session => (nested session).holds,fun group executes => ?_⟩
  obtain ⟨holders,held,total⟩ := accounted.permits
  have within : group ⊆ holders := fun session member => (held session).mpr ((nested session).holds (executes session member))
  have fewer := Finset.card_le_card within
  omega

def exampleTts : TtsSettings := ⟨1000,1,ascii⟩

/-- One session speaks a text to its end. -/
def spokenActions : List SlotAction :=
  [.acquire 0,.handle 0 .sent,.handle 0 (.receive (.taskContinue (some ['a']) PcmBridge.exampleSynthesis))] ++
  List.replicate 7 (.handle 0 (.bridge .produce)) ++
  [.handle 0 (.bridge .getterStarts),.handle 0 (.bridge .getterTakes),.handle 0 (.bridge .receive),.handle 0 .resumed,
    .handle 0 .sent,.handle 0 (.bridge .getterStarts),.handle 0 (.bridge .getterTakes),.handle 0 (.bridge .receive),
    .handle 0 (.bridge .finish),.handle 0 .resumed,.handle 0 (.receive .taskFinish),.handle 0 .sent,.release 0]

theorem calls_within_permits_spoken : ∃ slots,
    Machine.run (step exampleTts) (initial exampleTts) spokenActions = some slots ∧
    (∀ session, (slots.sessions session).ReleasedOnce) ∧
    ∀ group : Finset Nat, (∀ session ∈ group, (slots.sessions session).Executes) → group.card ≤ 1 := by
  refine ⟨_,rfl,(calls_within_permits exampleTts spokenActions _ rfl).1,
    ((calls_within_permits exampleTts spokenActions _ rfl).2 ?_).2⟩
  have checked : Machine.check (step exampleTts)
      (fun _ action => match action with
        | .handle _ (.failed _) | .handle _ .cancelled => false
        | _ => true) (initial exampleTts) spokenActions = true := by decide +kernel
  refine (Machine.along_of_check (step exampleTts) checked).mono (step exampleTts) ?_
  rintro slots action calm session handled rfl
  constructor
  · rintro pcm _ (rfl | ⟨error,rfl⟩) <;> cases calm
  · rintro speech bridge outcome _ rfl
    cases calm

/-- The client of the first session leaves in the middle of the chunk loop, and a second one comes. -/
def leavingActions : List SlotAction :=
  [.acquire 0,.handle 0 .sent,.handle 0 (.receive (.taskContinue (some ['a']) PcmBridge.exampleSynthesis))] ++
  List.replicate 4 (.handle 0 (.bridge .produce)) ++
  [.handle 0 (.bridge .getterStarts),.handle 0 (.bridge .getterTakes),.handle 0 (.bridge .receive),.handle 0 .resumed,
    .handle 0 (.failed .disconnected),.release 0,
    .acquire 1,.handle 1 .sent,.handle 1 (.receive (.taskContinue (some ['a']) PcmBridge.exampleSynthesis)),
    .handle 1 (.bridge .produce)]

/-- With one permit, two calls of the synthesizer are under way. -/
theorem call_outlives_permit : ∃ settings actions slots, Machine.run (step settings) (initial settings) actions = some slots ∧
    settings.maxActiveStreams = 1 ∧ (slots.sessions 0).Executes ∧ ¬(slots.sessions 0).Holds ∧ (slots.sessions 1).Executes := by
  refine ⟨exampleTts,leavingActions,_,rfl,rfl,⟨_,_,rfl,trivial⟩,?_,_,_,rfl,trivial⟩
  exact id

end StreamSlots
end SpeechGateway
