import SpeechGateway.Backends
import SpeechGateway.Display

/-!
The protocol layer: `ProtocolSession` serializes transcript events for the wire, and the
client's `SequenceTracker` checks their numbers. Two calls update the transcript and drop
the events of that update, each of which has consumed a number. Without these the numbers
of the returned events are 1, 2, 3, ..., and with one of them they are not
(`sequences_contiguous_iff`).
-/
namespace SpeechGateway.Protocol
open SpeechGateway.Streaming SpeechGateway.Backends StreamingTranscriptState

/-- The fields that a payload carries beside type, text and sequence. -/
inductive Extra
  | none
  | metadata (value : Metadata)
  | ready (sessionId workerId : Text)
  | error (code message : String)
  deriving DecidableEq, Repr

/-- A serialized event. -/
structure WireEvent where
  event : TranscriptEvent
  extra : Extra
  deriving DecidableEq, Repr

structure ProtocolSession where
  state : StreamingTranscriptState
  terminal : Bool := false
  deriving DecidableEq, Repr

/-- `ProtocolSession.__init__`: commits happen only on request. -/
def ProtocolSession.init (sampleRate : SampleRate) (segmentLocal : Bool) : ProtocolSession where
  state := .init
    { sampleRate := sampleRate.1
      stableCommitEnabled := false
      stableCommitSeconds := 1
      stableCommitMinChars := 1
      stableCommitMinUpdates := 1
      segmentLocalSnapshots := segmentLocal
      sampleRatePositive := sampleRate.2 }

/-- What a call returns or raises, and the session it leaves. -/
abbrev Reply := Except PyError (List WireEvent) × ProtocolSession

def terminalError : PyError := .runtimeError "protocol session is terminal"

/-- The extra fields for optional metadata. -/
def metadataExtra : Option Metadata → Extra
  | none => .none
  | some value => .metadata value

/-- `_serialize` over a list of events. -/
def serialize (extra : Extra) (emitted : List TranscriptEvent) : List WireEvent :=
  emitted.map fun event => ⟨event,extra⟩

namespace ProtocolSession

def ready (session : ProtocolSession) (sessionId workerId : Text) : Reply :=
  if session.terminal then (.error terminalError,session) else
  let made := session.state.newEvent .ready
  (.ok [⟨made.1,.ready sessionId workerId⟩],{ session with state := made.2 })

/-- The transcript operations of `apply_result`. In the confirmed-plus-tail mode the events
    of the first update are dropped for those of the commit. -/
def applyMode (chars : Alphabet) (state : StreamingTranscriptState) (mode : ResultMode)
    (text confirmedText tailText : Text) (decodedSamples : Int) (segmentId : Int) :
    Outcome (List TranscriptEvent) :=
  match mode with
  | .cumulativeSnapshot => state.applyModelUpdate chars text decodedSamples
  | .replaceableSegment => state.applySegmentSnapshot segmentId text decodedSamples
  | .confirmedPlusTail =>
    if confirmedText ≠ [] then
      match state.applyModelUpdate chars (state.confirmedText ++ confirmedText) decodedSamples with
      | (.error e,next) => (.error e,next)
      | (.ok _,next) =>
        let committed := next.commitPending chars
        match committed.2.applyModelUpdate chars (committed.2.confirmedText ++ tailText) 0 with
        | (.error e,last) => (.error e,last)
        | (.ok emitted,last) => (.ok (committed.1 ++ emitted),last)
    else state.applyModelUpdate chars (state.confirmedText ++ tailText) decodedSamples

def applyResult (chars : Alphabet) (session : ProtocolSession) (mode : ResultMode)
    (text confirmedText tailText : Text) (decodedSamples : Int) (segmentId : Int)
    (metadata : Option Metadata) : Reply :=
  if session.terminal then (.error terminalError,session) else
  match applyMode chars session.state mode text confirmedText tailText decodedSamples segmentId with
  | (.error e,next) => (.error e,{ session with state := next })
  | (.ok emitted,next) => (.ok (serialize (metadataExtra metadata) emitted),{ session with state := next })

def segment (chars : Alphabet) (session : ProtocolSession) (metadata : Option Metadata) : Reply :=
  if session.terminal then (.error terminalError,session) else
  let committed := session.state.commitPending chars
  (.ok (serialize (metadataExtra metadata) committed.1),{ session with state := committed.2 })

/-- `final`: the update for a tail text is made, and its events are dropped. -/
def final (chars : Alphabet) (session : ProtocolSession) (tailText : Option Text)
    (metadata : Option Metadata) : Reply :=
  if session.terminal then (.error terminalError,session) else
  let updated : Outcome (List TranscriptEvent) := match tailText with
    | some tail => session.state.applyModelUpdate chars (session.state.confirmedText ++ tail) 0
    | none => (.ok [],session.state)
  match updated with
  | (.error e,next) => (.error e,{ session with state := next })
  | (.ok _,next) =>
    (.ok [⟨next.finalEvent.1,metadataExtra metadata⟩],{ state := next.finalEvent.2, terminal := true })

def error (session : ProtocolSession) (exc : PyError) (code : String) : Reply :=
  if session.terminal then (.error terminalError,session) else
  let made := session.state.newEvent .error
  (.ok [⟨made.1,.error code (exc.typeName ++ ": operation failed")⟩],{ state := made.2, terminal := true })

end ProtocolSession

open ProtocolSession (applyMode)

/-! ## Numbering

Every transcript operation numbers its events consecutively from the counter. -/

/-- `emitted` carry consecutive numbers after those of `before`, and `after` has counted
    exactly these. -/
structure Numbered (before : StreamingTranscriptState) (emitted : List TranscriptEvent)
    (after : StreamingTranscriptState) : Prop where
  sequences : emitted.map (·.sequence) = List.range' (before.sequence + 1) emitted.length
  counted : after.sequence = before.sequence + emitted.length

theorem numbered_silent {before after : StreamingTranscriptState} (same : after.sequence = before.sequence) :
    Numbered before [] after := ⟨rfl,by simpa using same⟩

theorem Numbered.trans {first second third : StreamingTranscriptState} {early late : List TranscriptEvent}
    (before : Numbered first early second) (after : Numbered second late third) :
    Numbered first (early ++ late) third where
  sequences := by
    rw [List.map_append,before.sequences,after.sequences,before.counted,List.length_append,← List.range'_append_1]
    congr 2
    omega
  counted := by rw [after.counted,before.counted,List.length_append]; omega

theorem events_numbered {before : StreamingTranscriptState} (state : StreamingTranscriptState)
    (texts : List (EventType × Text)) (same : state.sequence = before.sequence) :
    Numbered before (state.events texts).1 (state.events texts).2 := by
  induction texts generalizing before state with
  | nil => exact numbered_silent same
  | cons first rest ih =>
    have head : Numbered before [(state.event first.1 first.2).1] (state.event first.1 first.2).2 :=
      ⟨by simp [StreamingTranscriptState.event,same],by simp [StreamingTranscriptState.event,same]⟩
    exact head.trans (ih (state.event first.1 first.2).2 rfl)

theorem commitPrefix_numbered {before : StreamingTranscriptState} (state : StreamingTranscriptState)
    (found : Text) (same : state.sequence = before.sequence) :
    Numbered before (state.commitPrefix found).1 (state.commitPrefix found).2 := by
  unfold StreamingTranscriptState.commitPrefix
  split
  · exact numbered_silent same
  · exact events_numbered _ _ same

theorem commitAll_numbered (chars : Alphabet) {before : StreamingTranscriptState}
    (state : StreamingTranscriptState) (same : state.sequence = before.sequence) :
    Numbered before (state.commitAllCompleteSentences chars).1 (state.commitAllCompleteSentences chars).2 := by
  unfold StreamingTranscriptState.commitAllCompleteSentences
  obtain ⟨committed,tail⟩ := splitCommittedSentences chars state.partialText
  by_cases none : committed = []
  · simp only [none,if_true]
    exact numbered_silent same
  · simp only [none,if_false]
    split
    · exact numbered_silent same
    · exact events_numbered _ _ same

theorem commitImmediately_numbered (chars : Alphabet) {before : StreamingTranscriptState}
    (state : StreamingTranscriptState) (changed : Bool) (same : state.sequence = before.sequence) :
    Numbered before (state.commitImmediately chars changed).1 (state.commitImmediately chars changed).2 := by
  have announced : ∀ {earlier : List TranscriptEvent} {next : StreamingTranscriptState},
      Numbered before earlier next → earlier = [] →
      Numbered before (if changed then next.events [(.partialText,next.partialText)] else ([],next)).1
        (if changed then next.events [(.partialText,next.partialText)] else ([],next)).2 := by
    intro earlier next numbered empty
    subst empty
    have unmoved : next.sequence = before.sequence := by simpa using numbered.counted
    split
    · exact events_numbered _ _ unmoved
    · exact numbered_silent unmoved
  unfold StreamingTranscriptState.commitImmediately
  by_cases immediate : state.immediateCommitOnPunctuation
  · have committed := commitAll_numbered chars state same
    simp only [immediate,if_true]
    split
    · exact committed
    · rename_i nothing
      exact announced committed (not_not.mp nothing)
  · simpa [immediate] using announced (numbered_silent same) rfl

theorem applyTail_numbered (chars : Alphabet) {before : StreamingTranscriptState}
    (state : StreamingTranscriptState) (tail : Text) (same : state.sequence = before.sequence) :
    Numbered before (state.applyTail chars tail).1 (state.applyTail chars tail).2 := by
  unfold StreamingTranscriptState.applyTail
  simp only []
  split
  · exact commitPrefix_numbered _ _ same
  · exact commitImmediately_numbered chars _ _ same

theorem applyModelUpdate_numbered (chars : Alphabet) (state : StreamingTranscriptState) (text : Text)
    (samples : Int) : Numbered state (returned (state.applyModelUpdate chars text samples).1)
      (state.applyModelUpdate chars text samples).2 := by
  unfold StreamingTranscriptState.applyModelUpdate
  simp only []
  split
  · exact numbered_silent rfl
  · exact applyTail_numbered chars _ _ rfl

theorem applySegmentSnapshot_numbered (state : StreamingTranscriptState) (segmentId : Int) (text : Text)
    (samples : Int) : Numbered state (returned (state.applySegmentSnapshot segmentId text samples).1)
      (state.applySegmentSnapshot segmentId text samples).2 := by
  unfold StreamingTranscriptState.applySegmentSnapshot
  split
  · exact numbered_silent rfl
  split
  · exact numbered_silent rfl
  simp only []
  split
  · exact events_numbered _ _ rfl
  · exact numbered_silent rfl

theorem commitPending_numbered (chars : Alphabet) (state : StreamingTranscriptState) :
    Numbered state (state.commitPending chars).1 (state.commitPending chars).2 := by
  unfold StreamingTranscriptState.commitPending
  simp only []
  split
  · exact numbered_silent rfl
  split
  · exact events_numbered _ _ rfl
  · exact events_numbered _ _ rfl

/-! ## Sessions

A session of this protocol never commits on punctuation, so an update of the tail emits
one partial event when the tail is new, and nothing else. -/

/-- The transcript of a session commits only on request. -/
structure Quiet (state : StreamingTranscriptState) : Prop where
  disabled : state.stable.enabled = false
  deferred : state.immediateCommitOnPunctuation = false

theorem init_quiet (sampleRate : SampleRate) (segmentLocal : Bool) :
    Quiet (ProtocolSession.init sampleRate segmentLocal).state := ⟨rfl,rfl⟩

theorem quiet_events {state : StreamingTranscriptState} (disabled : state.stable.enabled = false)
    (deferred : state.immediateCommitOnPunctuation = false) (texts : List (EventType × Text)) :
    Quiet (state.events texts).2 := by
  rw [Display.events_state]
  exact ⟨disabled,deferred⟩

/-- A quiet update announces a new tail and is silent about an old one. -/
theorem applyTail_quiet (chars : Alphabet) (state : StreamingTranscriptState) (quiet : Quiet state) (tail : Text) :
    state.applyTail chars tail =
      { state with partialText := tail, stable := state.stable.reset }.events
        (if tail = state.partialText then [] else [(.partialText,tail)]) := by
  have unseen : state.stable.observe chars tail (audioTime { state with partialText := tail }) =
      (none,state.stable.reset) := by
    simp [StablePunctuationTracker.observe,quiet.disabled]
  simp only [StreamingTranscriptState.applyTail,unseen]
  by_cases same : tail = state.partialText
  · simp [same,StreamingTranscriptState.commitImmediately,quiet.deferred,StreamingTranscriptState.events]
  · simp [same,StreamingTranscriptState.commitImmediately,quiet.deferred]

theorem unconfirmedTail_appended (state : StreamingTranscriptState) (tail : Text) :
    state.unconfirmedTail (state.confirmedText ++ tail) = .ok tail := by
  by_cases empty : state.confirmedText = []
  · simp [StreamingTranscriptState.unconfirmedTail,empty]
  · simp [StreamingTranscriptState.unconfirmedTail,empty]

/-- An update that appends to the confirmed text never conflicts with it, and numbers
    one event when the tail is new. -/
theorem applyModelUpdate_appended (chars : Alphabet) (state : StreamingTranscriptState) (quiet : Quiet state)
    (tail : Text) (samples : Int) :
    ∃ emitted next, state.applyModelUpdate chars (state.confirmedText ++ tail) samples = (.ok emitted,next) ∧
      Numbered state emitted next ∧ Quiet next ∧ next.partialText = tail ∧
      emitted.length = (decide (tail ≠ state.partialText)).toNat := by
  let counted := { state with processedSamples := state.processedSamples + samples }
  have calm : Quiet counted := ⟨quiet.disabled,quiet.deferred⟩
  have updated : state.applyModelUpdate chars (state.confirmedText ++ tail) samples =
      (.ok (counted.applyTail chars tail).1,(counted.applyTail chars tail).2) := by
    have unconfirmed : unconfirmedTail counted (state.confirmedText ++ tail) = .ok tail :=
      unconfirmedTail_appended counted tail
    simp only [StreamingTranscriptState.applyModelUpdate]
    rw [unconfirmed]
  refine ⟨_,_,updated,applyTail_numbered chars counted tail rfl,?_,?_,?_⟩
  · rw [applyTail_quiet chars counted calm]
    exact quiet_events (by exact calm.disabled) (by exact calm.deferred) _
  · rw [applyTail_quiet chars counted calm,Display.events_state]
  · rw [applyTail_quiet chars counted calm]
    by_cases same : tail = counted.partialText
    · simp [same,counted,StreamingTranscriptState.events]
    · have new : tail ≠ state.partialText := same
      simp [same,new,StreamingTranscriptState.events]

theorem applyModelUpdate_quiet (chars : Alphabet) (state : StreamingTranscriptState) (quiet : Quiet state)
    (text : Text) (samples : Int) : Quiet (state.applyModelUpdate chars text samples).2 := by
  have calm : Quiet { state with processedSamples := state.processedSamples + samples } :=
    ⟨quiet.disabled,quiet.deferred⟩
  unfold StreamingTranscriptState.applyModelUpdate
  dsimp only
  split
  · exact calm
  · rw [applyTail_quiet chars _ calm]
    exact quiet_events (by exact calm.disabled) (by exact calm.deferred) _

theorem applySegmentSnapshot_quiet (state : StreamingTranscriptState) (quiet : Quiet state) (segmentId : Int)
    (text : Text) (samples : Int) : Quiet (state.applySegmentSnapshot segmentId text samples).2 := by
  unfold StreamingTranscriptState.applySegmentSnapshot
  split
  · exact quiet
  split
  · exact quiet
  dsimp only
  split
  · exact quiet_events (by exact quiet.disabled) (by exact quiet.deferred) _
  · exact ⟨quiet.disabled,quiet.deferred⟩

theorem commitPending_quiet (chars : Alphabet) (state : StreamingTranscriptState) (quiet : Quiet state) :
    Quiet (state.commitPending chars).2 := by
  unfold StreamingTranscriptState.commitPending
  dsimp only
  split
  · exact ⟨quiet.disabled,quiet.deferred⟩
  split
  · exact quiet_events (by exact quiet.disabled) (by exact quiet.deferred) _
  · exact quiet_events (by exact quiet.disabled) (by exact quiet.deferred) _

/-- The calls of `ProtocolSession`, with their arguments. -/
inductive Call
  | ready (sessionId workerId : Text)
  | applyResult (mode : ResultMode) (text confirmedText tailText : Text) (decodedSamples segmentId : Int)
      (metadata : Option Metadata)
  | segment (metadata : Option Metadata)
  | final (tailText : Option Text) (metadata : Option Metadata)
  | error (exc : PyError) (code : String)

def perform (chars : Alphabet) (session : ProtocolSession) : Call → Reply
  | .ready sessionId workerId => session.ready sessionId workerId
  | .applyResult mode text confirmedText tailText decodedSamples segmentId metadata =>
    session.applyResult chars mode text confirmedText tailText decodedSamples segmentId metadata
  | .segment metadata => session.segment chars metadata
  | .final tailText metadata => session.final chars tailText metadata
  | .error exc code => session.error exc code

/-- Runs the calls in order and collects every returned event; a call that raises
    returns none. -/
def run (chars : Alphabet) (session : ProtocolSession) : List Call → List WireEvent × ProtocolSession
  | [] => ([],session)
  | call :: rest =>
    let (reply,next) := perform chars session call
    let (later,last) := run chars next rest
    (returned reply ++ later,last)

/-- The call makes an update that announces a new text and drops the announcement. -/
def supersedes (session : ProtocolSession) : Call → Bool
  | .applyResult .confirmedPlusTail _ confirmedText _ _ _ _ =>
    !session.terminal && decide (confirmedText ≠ [] ∧ confirmedText ≠ session.state.partialText)
  | .final (some tail) _ => !session.terminal && decide (tail ≠ session.state.partialText)
  | _ => false

/-- The numbers of `emitted` are consecutive, after `skipped` numbers that no event
    carries, and `after` has counted both. -/
structure Carried (before : StreamingTranscriptState) (skipped : Nat) (emitted : List WireEvent)
    (after : StreamingTranscriptState) : Prop where
  sequences : emitted.map (·.event.sequence) = List.range' (before.sequence + skipped + 1) emitted.length
  counted : after.sequence = before.sequence + skipped + emitted.length
  quiet : Quiet after

theorem Numbered.carried {before middle after : StreamingTranscriptState} {dropped emitted : List TranscriptEvent}
    (first : Numbered before dropped middle) (second : Numbered middle emitted after) (quiet : Quiet after)
    (extra : Extra) : Carried before dropped.length (serialize extra emitted) after where
  sequences := by
    have mapped : (serialize extra emitted).map (·.event.sequence) = emitted.map (·.sequence) := by
      simp [serialize,Function.comp_def]
    rw [mapped,second.sequences,first.counted]
    simp [serialize]
  counted := by rw [second.counted,first.counted]; simp [serialize]
  quiet := quiet

theorem carried_silent {before after : StreamingTranscriptState} (quiet : Quiet after)
    (same : after.sequence = before.sequence) : Carried before 0 [] after := ⟨rfl,by simpa using same,quiet⟩

/-- A single event made from a state that `dropped` reaches. -/
theorem Numbered.carried_event {before middle : StreamingTranscriptState} {dropped : List TranscriptEvent}
    (first : Numbered before dropped middle) (quiet : Quiet middle) (type : EventType) (text : Text) (extra : Extra) :
    Carried before dropped.length [⟨(middle.event type text).1,extra⟩] (middle.event type text).2 where
  sequences := by simp [StreamingTranscriptState.event,first.counted]
  counted := by simp [StreamingTranscriptState.event,first.counted]
  quiet := ⟨quiet.disabled,quiet.deferred⟩

/-- The confirmed-plus-tail mode drops the event of its first update. -/
theorem applyMode_confirmed (chars : Alphabet) (state : StreamingTranscriptState) (quiet : Quiet state)
    (text confirmedText tailText : Text) (given : confirmedText ≠ []) (samples segmentId : Int) :
    ∃ emitted next, applyMode chars state .confirmedPlusTail text confirmedText tailText samples segmentId =
        (.ok emitted,next) ∧
      ∀ extra, Carried state (decide (confirmedText ≠ state.partialText)).toNat (serialize extra emitted) next := by
  obtain ⟨dropped,first,updated,firstNumbered,firstQuiet,_,count⟩ :=
    applyModelUpdate_appended chars state quiet confirmedText samples
  have committed := commitPending_numbered chars first
  have committedQuiet := commitPending_quiet chars first firstQuiet
  obtain ⟨announced,last,tailed,lastNumbered,lastQuiet,_,_⟩ :=
    applyModelUpdate_appended chars (first.commitPending chars).2 committedQuiet tailText 0
  refine ⟨(first.commitPending chars).1 ++ announced,last,?_,?_⟩
  · simp only [applyMode,given,ne_eq,not_false_eq_true,if_true,updated,tailed]
  · intro extra
    rw [← count]
    exact firstNumbered.carried (committed.trans lastNumbered) lastQuiet extra

theorem applyMode_numbered (chars : Alphabet) (state : StreamingTranscriptState) (quiet : Quiet state)
    (mode : ResultMode) (text confirmedText tailText : Text) (samples segmentId : Int)
    (single : mode = .confirmedPlusTail → confirmedText = []) :
    Numbered state (returned (applyMode chars state mode text confirmedText tailText samples segmentId).1)
        (applyMode chars state mode text confirmedText tailText samples segmentId).2 ∧
      Quiet (applyMode chars state mode text confirmedText tailText samples segmentId).2 := by
  cases mode with
  | cumulativeSnapshot =>
    exact ⟨applyModelUpdate_numbered chars state text samples,applyModelUpdate_quiet chars state quiet text samples⟩
  | replaceableSegment =>
    exact ⟨applySegmentSnapshot_numbered state segmentId text samples,
      applySegmentSnapshot_quiet state quiet segmentId text samples⟩
  | confirmedPlusTail =>
    simp only [applyMode,single rfl,ne_eq,not_true_eq_false,if_false]
    exact ⟨applyModelUpdate_numbered chars state _ samples,applyModelUpdate_quiet chars state quiet _ samples⟩

theorem applyResult_carried (chars : Alphabet) (session : ProtocolSession) (quiet : Quiet session.state)
    (mode : ResultMode) (text confirmedText tailText : Text) (samples segmentId : Int) (metadata : Option Metadata) :
    Carried session.state
      (supersedes session (.applyResult mode text confirmedText tailText samples segmentId metadata)).toNat
      (returned (session.applyResult chars mode text confirmedText tailText samples segmentId metadata).1)
      (session.applyResult chars mode text confirmedText tailText samples segmentId metadata).2.state := by
  by_cases terminal : session.terminal
  · have silent : supersedes session (.applyResult mode text confirmedText tailText samples segmentId metadata) =
        false := by
      cases mode <;> simp [supersedes,terminal]
    rw [silent]
    simp only [ProtocolSession.applyResult,terminal,if_true]
    exact carried_silent quiet rfl
  by_cases twice : mode = .confirmedPlusTail ∧ confirmedText ≠ []
  · obtain ⟨rfl,given⟩ := twice
    obtain ⟨emitted,next,applied,carried⟩ :=
      applyMode_confirmed chars session.state quiet text confirmedText tailText given samples segmentId
    simpa [ProtocolSession.applyResult,terminal,applied,supersedes,given,returned]
      using carried (metadataExtra metadata)
  · have single : mode = .confirmedPlusTail → confirmedText = [] := by
      intro confirmed
      by_contra given
      exact twice ⟨confirmed,given⟩
    have silent : supersedes session (.applyResult mode text confirmedText tailText samples segmentId metadata) =
        false := by
      cases mode with
      | confirmedPlusTail => simp [supersedes,single rfl]
      | _ => rfl
    obtain ⟨numbered,calm⟩ :=
      applyMode_numbered chars session.state quiet mode text confirmedText tailText samples segmentId single
    rw [silent]
    simp only [ProtocolSession.applyResult,terminal,if_false,Bool.false_eq_true]
    rcases applied : applyMode chars session.state mode text confirmedText tailText samples segmentId with ⟨result,next⟩
    rw [applied] at numbered calm
    cases result with
    | error e => exact carried_silent calm (by simpa [returned] using numbered.counted)
    | ok emitted => exact (numbered_silent rfl).carried numbered calm (metadataExtra metadata)

theorem final_carried (chars : Alphabet) (session : ProtocolSession) (quiet : Quiet session.state)
    (tailText : Option Text) (metadata : Option Metadata) :
    Carried session.state (supersedes session (.final tailText metadata)).toNat
      (returned (session.final chars tailText metadata).1) (session.final chars tailText metadata).2.state := by
  by_cases terminal : session.terminal
  · have silent : supersedes session (.final tailText metadata) = false := by
      cases tailText <;> simp [supersedes,terminal]
    rw [silent]
    simp only [ProtocolSession.final,terminal,if_true]
    exact carried_silent quiet rfl
  cases tailText with
  | none =>
    simp only [ProtocolSession.final,terminal,Bool.false_eq_true,if_false]
    exact (numbered_silent rfl).carried_event quiet .final _ _
  | some tail =>
    obtain ⟨dropped,next,updated,numbered,calm,_,count⟩ := applyModelUpdate_appended chars session.state quiet tail 0
    simp only [ProtocolSession.final,terminal,Bool.false_eq_true,if_false,updated,supersedes,Bool.not_false,
      Bool.true_and]
    rw [← count]
    exact numbered.carried_event calm .final _ _

/-- One call: its events are numbered consecutively, after one number that no event
    carries when it supersedes an announcement. -/
theorem perform_carried (chars : Alphabet) (session : ProtocolSession) (quiet : Quiet session.state) (call : Call) :
    Carried session.state (supersedes session call).toNat (returned (perform chars session call).1)
      (perform chars session call).2.state := by
  cases call with
  | ready sessionId workerId =>
    by_cases terminal : session.terminal
    · simp only [perform,ProtocolSession.ready,terminal,if_true]
      exact carried_silent quiet rfl
    · simp only [perform,ProtocolSession.ready,terminal,Bool.false_eq_true,if_false]
      exact (numbered_silent rfl).carried_event quiet .ready [] _
  | applyResult mode text confirmedText tailText samples segmentId metadata =>
    exact applyResult_carried chars session quiet mode text confirmedText tailText samples segmentId metadata
  | segment metadata =>
    by_cases terminal : session.terminal
    · simp only [perform,ProtocolSession.segment,terminal,if_true]
      exact carried_silent quiet rfl
    · simp only [perform,ProtocolSession.segment,terminal,Bool.false_eq_true,if_false]
      exact (numbered_silent rfl).carried (commitPending_numbered chars session.state)
        (commitPending_quiet chars session.state quiet) _
  | final tailText metadata => exact final_carried chars session quiet tailText metadata
  | error exc code =>
    by_cases terminal : session.terminal
    · simp only [perform,ProtocolSession.error,terminal,if_true]
      exact carried_silent quiet rfl
    · simp only [perform,ProtocolSession.error,terminal,Bool.false_eq_true,if_false]
      exact (numbered_silent rfl).carried_event quiet .error [] _

/-! ## Whole runs -/

/-- The numbers that a run gives to events which it does not return. -/
def skipped (chars : Alphabet) (session : ProtocolSession) : List Call → Nat
  | [] => 0
  | call :: rest => (supersedes session call).toNat + skipped chars (perform chars session call).2 rest

theorem run_counted (chars : Alphabet) (session : ProtocolSession) (quiet : Quiet session.state) (calls : List Call) :
    (run chars session calls).2.state.sequence =
      session.state.sequence + skipped chars session calls + (run chars session calls).1.length := by
  induction calls generalizing session with
  | nil => rfl
  | cons call rest ih =>
    have carried := perform_carried chars session quiet call
    have later := ih (perform chars session call).2 carried.quiet
    have counted := carried.counted
    simp only [run,skipped,List.length_append] at later ⊢
    omega

theorem run_sequences (chars : Alphabet) (session : ProtocolSession) (quiet : Quiet session.state) (calls : List Call)
    (none : skipped chars session calls = 0) :
    (run chars session calls).1.map (·.event.sequence) =
      List.range' (session.state.sequence + 1) (run chars session calls).1.length := by
  induction calls generalizing session with
  | nil => rfl
  | cons call rest ih =>
    have carried := perform_carried chars session quiet call
    simp only [skipped,Nat.add_eq_zero_iff] at none
    obtain ⟨unskipped,noneLater⟩ := none
    have later := ih (perform chars session call).2 carried.quiet noneLater
    have sequences := carried.sequences
    have counted := carried.counted
    rw [unskipped,Nat.add_zero] at sequences counted
    simp only [run,List.map_append,List.length_append]
    rw [sequences,later,counted,← List.range'_append_1]
    congr 2
    omega

/-- Nothing is skipped exactly when no call of the run supersedes an announcement. -/
theorem skipped_eq_zero_iff (chars : Alphabet) (session : ProtocolSession) (calls : List Call) :
    skipped chars session calls = 0 ↔
      ∀ earlier call later, calls = earlier ++ call :: later →
        supersedes (run chars session earlier).2 call = false := by
  induction calls generalizing session with
  | nil => simp [skipped]
  | cons first rest ih =>
    simp only [skipped,Nat.add_eq_zero_iff,ih]
    constructor
    · rintro ⟨head,tail⟩ earlier call later split
      cases earlier with
      | nil =>
        cases split
        exact Bool.toNat_eq_zero.mp head
      | cons performed earlier =>
        cases split
        exact tail earlier call later rfl
    · intro none
      refine ⟨?_,?_⟩
      · exact Bool.toNat_eq_zero.mpr (none [] first rest rfl)
      · rintro earlier call later rfl
        exact none (first :: earlier) call later rfl

/-- `SequenceTracker` of the client. -/
structure SequenceTracker where
  lastSequence : Option Nat := none

inductive SequenceWarning
  | notIncreasing (sequence previous : Nat)
  | gap (expected got : Nat)
  deriving DecidableEq, Repr

def SequenceTracker.observe (tracker : SequenceTracker) (sequence : Nat) : Option SequenceWarning × SequenceTracker :=
  match tracker.lastSequence with
  | none => (none,⟨some sequence⟩)
  | some previous =>
    if sequence ≤ previous then (some (.notIncreasing sequence previous),⟨some sequence⟩) else
    if sequence ≠ previous + 1 then (some (.gap (previous + 1) sequence),⟨some sequence⟩) else
    (none,⟨some sequence⟩)

/-- The warnings for a stream of payloads with these numbers. -/
def SequenceTracker.warnings (tracker : SequenceTracker) : List Nat → List SequenceWarning
  | [] => []
  | number :: rest => (tracker.observe number).1.toList ++ (tracker.observe number).2.warnings rest

theorem warnings_contiguous (tracker : SequenceTracker) (start count : Nat)
    (follows : ∀ previous, tracker.lastSequence = some previous → start = previous + 1) :
    tracker.warnings (List.range' start count) = [] := by
  induction count generalizing tracker start with
  | zero => rfl
  | succ count ih =>
    have observed : tracker.observe start = (none,⟨some start⟩) := by
      cases last : tracker.lastSequence with
      | none => simp [SequenceTracker.observe,last]
      | some previous =>
        have next := follows previous last
        simp [SequenceTracker.observe,last,next]
    simp only [List.range'_succ,SequenceTracker.warnings,observed,Option.toList_none,List.nil_append]
    apply ih
    rintro previous ⟨⟩
    rfl

/-- Over every sequence of calls, the returned events are numbered 1, 2, 3, ... with no
    number lost, and the client's tracker is silent, exactly when no call of the run makes
    an update whose announcement it drops. -/
theorem sequences_contiguous_iff (chars : Alphabet) (sampleRate : SampleRate) (segmentLocal : Bool)
    (calls : List Call) :
    ((run chars (.init sampleRate segmentLocal) calls).1.map (·.event.sequence) =
        List.range' 1 (run chars (.init sampleRate segmentLocal) calls).1.length ∧
      (run chars (.init sampleRate segmentLocal) calls).2.state.sequence =
        (run chars (.init sampleRate segmentLocal) calls).1.length ∧
      SequenceTracker.warnings {}
        ((run chars (.init sampleRate segmentLocal) calls).1.map (·.event.sequence)) = []) ↔
      ∀ earlier call later, calls = earlier ++ call :: later →
        supersedes (run chars (.init sampleRate segmentLocal) earlier).2 call = false := by
  have quiet := init_quiet sampleRate segmentLocal
  have counted := run_counted chars (.init sampleRate segmentLocal) quiet calls
  rw [← skipped_eq_zero_iff]
  constructor
  · rintro ⟨_,lossless,_⟩
    rw [lossless] at counted
    simp only [ProtocolSession.init,StreamingTranscriptState.init] at counted ⊢
    omega
  · intro none
    have sequences := run_sequences chars (.init sampleRate segmentLocal) quiet calls none
    refine ⟨sequences,?_,?_⟩
    · rw [counted,none]
      simp [ProtocolSession.init,StreamingTranscriptState.init]
    · rw [sequences]
      exact warnings_contiguous {} _ _ (by simp)

/-- A confirmed text that was never shown as a partial costs the client one number. -/
theorem confirmed_result_skips :
    let outcome := run ascii (.init ⟨16000,by decide⟩ false)
      [.ready [] [],.applyResult .confirmedPlusTail [] "fixed".toList " tail".toList 160 0 none]
    outcome.1.map (·.event.sequence) = [1,3,4,5] ∧
      outcome.1.map (·.event.sequence) ≠ List.range' 1 outcome.1.length ∧
      outcome.2.state.sequence ≠ outcome.1.length ∧
      SequenceTracker.warnings {} (outcome.1.map (·.event.sequence)) = [.gap 2 3] := by
  decide +kernel

end SpeechGateway.Protocol
