import SpeechGateway.Streaming

/-!
The client side of the transcript. `DisplayState` and `transcript_from_events` are
written independently of the server, and both recover the server's transcript: after
any operations the display shows the confirmed text followed by the partial text
(`display_refines_transcript`).
-/
namespace SpeechGateway.Display
open SpeechGateway.Streaming StreamingTranscriptState

/-- `DisplayState`: the committed sentences and the replaceable tail. -/
structure DisplayState where
  confirmed : List Text := []
  tail : Text := []

/-- `DisplayState.apply`; other event types leave the display alone. -/
def DisplayState.apply (display : DisplayState) (event : TranscriptEvent) : DisplayState :=
  match event.type with
  | .sentenceFinal => ⟨display.confirmed ++ [event.text],[]⟩
  | .partialText => { display with tail := event.text }
  | .final => { display with tail := event.text }
  | .ready => display
  | .error => display

/-- What the client shows, `"".join(confirmed) + tail`. -/
def DisplayState.text (display : DisplayState) : Text := display.confirmed.flatten ++ display.tail

def DisplayState.feed (display : DisplayState) (received : List TranscriptEvent) : DisplayState :=
  received.foldl DisplayState.apply display

@[simp] theorem feed_nil (display : DisplayState) : display.feed [] = display := rfl
@[simp] theorem feed_cons (display : DisplayState) (event : TranscriptEvent) (rest : List TranscriptEvent) :
    display.feed (event :: rest) = (display.apply event).feed rest := rfl
theorem feed_append (display : DisplayState) (first later : List TranscriptEvent) :
    display.feed (first ++ later) = (display.feed first).feed later := List.foldl_append ..

/-- The texts of the `sentence_final` events. -/
def sentenceFinals (received : List TranscriptEvent) : List Text :=
  (received.filter (·.type = .sentenceFinal)).map (·.text)

theorem sentenceFinals_append (first later : List TranscriptEvent) :
    sentenceFinals (first ++ later) = sentenceFinals first ++ sentenceFinals later := by
  simp [sentenceFinals]

/-- `transcript_from_events`: every sentence, and the text of the last `final`. -/
def transcriptFromEvents (received : List TranscriptEvent) : Text :=
  (sentenceFinals received).flatten ++
    ((received.reverse.find? (·.type = .final)).map (·.text)).getD []

/-- The public operations of `StreamingTranscriptState`. -/
inductive Operation
  | applyModelUpdate (text : Text) (processedSamples : Int)
  | applySegmentSnapshot (segmentId : Int) (segmentText : Text) (decodedSamplesDelta : Int)
  | appendIndependentSegment (text : Text)
  | commitPending
  | finish (text : Text)
  | finalEvent
  | resetSegment
  | readyEvent
  | errorEvent

def perform (chars : Alphabet) (state : StreamingTranscriptState) :
    Operation → Outcome (List TranscriptEvent)
  | .applyModelUpdate text samples => state.applyModelUpdate chars text samples
  | .applySegmentSnapshot id text delta => state.applySegmentSnapshot id text delta
  | .appendIndependentSegment text =>
    ((.ok (state.appendIndependentSegment chars text).1),(state.appendIndependentSegment chars text).2)
  | .commitPending => (.ok (state.commitPending chars).1,(state.commitPending chars).2)
  | .finish text => state.finish chars text
  | .finalEvent => (.ok [state.finalEvent.1],state.finalEvent.2)
  | .resetSegment => (.ok [],state.resetSegment)
  | .readyEvent => (.ok [(state.newEvent .ready).1],(state.newEvent .ready).2)
  | .errorEvent => (.ok [(state.newEvent .error).1],(state.newEvent .error).2)

/-- Runs the operations in order, collecting every returned event. An operation that
    raises contributes none, and the caller goes on with the state it left. -/
def runFrom (chars : Alphabet) (state : StreamingTranscriptState) :
    List Operation → List TranscriptEvent × StreamingTranscriptState
  | [] => ([],state)
  | operation :: rest =>
    let (outcome,next) := perform chars state operation
    let (later,last) := runFrom chars next rest
    (returned outcome ++ later,last)

def run (chars : Alphabet) (config : TranscriptConfig) (operations : List Operation) :
    List TranscriptEvent × StreamingTranscriptState :=
  runFrom chars (.init config) operations

theorem runFrom_append (chars : Alphabet) (state : StreamingTranscriptState) (first later : List Operation) :
    runFrom chars state (first ++ later) =
      ((runFrom chars state first).1 ++ (runFrom chars (runFrom chars state first).2 later).1,
        (runFrom chars (runFrom chars state first).2 later).2) := by
  induction first generalizing state with
  | nil => rfl
  | cons operation rest ih => simp only [List.cons_append,runFrom,ih,List.append_assoc]

/-- What the events `emitted` between `before` and `after` say about the two states:
    the sentences are exactly what was confirmed, and a display that showed `before`
    shows `after`. -/
structure Explains (before : StreamingTranscriptState) (emitted : List TranscriptEvent)
    (after : StreamingTranscriptState) : Prop where
  confirmed : after.confirmedText = before.confirmedText ++ (sentenceFinals emitted).flatten
  shows : ∀ display : DisplayState, display.tail = before.partialText →
    (display.feed emitted).tail = after.partialText
  sentences : ∀ display : DisplayState,
    (display.feed emitted).confirmed = display.confirmed ++ sentenceFinals emitted

theorem explains_silent {before after : StreamingTranscriptState}
    (confirmed : after.confirmedText = before.confirmedText) (tail : after.partialText = before.partialText) :
    Explains before [] after where
  confirmed := by simp [confirmed,sentenceFinals]
  shows display shown := by simp [shown,tail]
  sentences display := by simp [sentenceFinals]

/-- Events consume sequence numbers and change nothing else. -/
theorem events_state (state : StreamingTranscriptState) (texts : List (EventType × Text)) :
    (state.events texts).2 = { state with sequence := state.sequence + texts.length } := by
  induction texts generalizing state with
  | nil => rfl
  | cons first rest ih =>
    simp only [StreamingTranscriptState.events,StreamingTranscriptState.event,ih,List.length_cons]
    congr 1
    omega

/-- Committed sentences followed by the new tail explain a commit. -/
theorem explains_commit (before next : StreamingTranscriptState)
    (sentences : List Text) (confirmed : next.confirmedText = before.confirmedText ++ sentences.flatten) :
    Explains before
      (next.events (sentences.map (fun sentence => (.sentenceFinal,sentence)) ++ [(.partialText,next.partialText)])).1
      (next.events (sentences.map (fun sentence => (.sentenceFinal,sentence)) ++ [(.partialText,next.partialText)])).2 := by
  have finals : ∀ (sentences : List Text) (state : StreamingTranscriptState) (tail : Text),
      sentenceFinals (state.events (sentences.map (fun sentence => (.sentenceFinal,sentence)) ++
        [(.partialText,tail)])).1 = sentences ∧
      ∀ display : DisplayState, display.feed (state.events (sentences.map
        (fun sentence => (.sentenceFinal,sentence)) ++ [(.partialText,tail)])).1 =
          ⟨display.confirmed ++ sentences,tail⟩ := by
    intro sentences
    induction sentences with
    | nil =>
      intro state tail
      simp [StreamingTranscriptState.events,StreamingTranscriptState.event,sentenceFinals,DisplayState.apply]
    | cons sentence rest ih =>
      intro state tail
      obtain ⟨listed,fed⟩ := ih (state.event .sentenceFinal sentence).2 tail
      refine ⟨?_,?_⟩
      · simpa [StreamingTranscriptState.events,StreamingTranscriptState.event,sentenceFinals] using listed
      · intro display
        simp only [List.map_cons,List.cons_append,StreamingTranscriptState.events,feed_cons]
        rw [fed]
        simp [DisplayState.apply,StreamingTranscriptState.event]
  obtain ⟨listed,fed⟩ := finals sentences next next.partialText
  refine ⟨?_,?_,?_⟩
  · rw [listed,events_state]
    exact confirmed
  · intro display _
    rw [fed,events_state]
  · intro display
    rw [fed,listed]

theorem explains_partial (before next : StreamingTranscriptState)
    (confirmed : next.confirmedText = before.confirmedText) :
    Explains before (next.events [(.partialText,next.partialText)]).1
      (next.events [(.partialText,next.partialText)]).2 :=
  explains_commit before next [] (by simpa using confirmed)

theorem commitPrefix_explains {before state : StreamingTranscriptState} {found : Text} (nonempty : found ≠ [])
    (starts : found <+: state.partialText) (confirmed : state.confirmedText = before.confirmedText) :
    Explains before (state.commitPrefix found).1 (state.commitPrefix found).2 := by
  have proper : ¬ (found = [] ∨ !found.isPrefixOf state.partialText) := by
    rintro (empty | wrong)
    · exact nonempty empty
    · simp [List.isPrefixOf_iff_prefix.mpr starts] at wrong
  unfold StreamingTranscriptState.commitPrefix
  rw [if_neg proper]
  exact explains_commit before
    { state with
      confirmedText := state.confirmedText ++ found
      partialText := state.partialText.drop found.length
      stable := state.stable.reset } [found] (by simp [confirmed])

/-- The exact sentences of a prefix concatenate to it. -/
theorem exactSentences_flatten (chars : Alphabet) (count : Nat) (remaining : Text) {sentences : List Text}
    (cut : exactSentences chars (count + 1) remaining = some sentences) : sentences.flatten = remaining := by
  induction count generalizing remaining sentences with
  | zero =>
    simp only [exactSentences] at cut
    split_ifs at cut
    cases cut
    simp
  | succ count ih =>
    simp only [exactSentences] at cut
    split_ifs at cut
    obtain ⟨rest,restCut,rfl⟩ := Option.map_eq_some_iff.mp cut
    rw [List.flatten_cons,ih _ restCut]
    exact (List.prefix_iff_eq_append.mp (firstPunctuationCandidate_starts chars remaining 1))

/-- Either nothing is committed and nothing changes, or the commit is explained. -/
theorem commitAll_explains (chars : Alphabet) (before : StreamingTranscriptState)
    {state : StreamingTranscriptState} (confirmed : state.confirmedText = before.confirmedText) :
    state.commitAllCompleteSentences chars = ([],state) ∨
      (state.commitAllCompleteSentences chars).1 ≠ [] ∧
      Explains before (state.commitAllCompleteSentences chars).1 (state.commitAllCompleteSentences chars).2 := by
  unfold StreamingTranscriptState.commitAllCompleteSentences
  obtain ⟨committed,tail⟩ := splitCommittedSentences chars state.partialText
  by_cases none : committed = []
  · exact .inl (by simp [none])
  simp only [none,if_false]
  obtain ⟨count,counted⟩ := Nat.exists_eq_succ_of_ne_zero (mt List.length_eq_zero_iff.mp none)
  rw [counted]
  cases cut : exactSentences chars (count + 1)
      (state.partialText.take (state.partialText.length - tail.length)) with
  | none => exact .inl rfl
  | some sentences =>
    refine .inr ⟨?_,?_⟩
    · cases sentences <;> simp [StreamingTranscriptState.events]
    · apply explains_commit before
        { state with
          confirmedText := state.confirmedText ++
            state.partialText.take (state.partialText.length - tail.length)
          partialText := tail
          stable := state.stable.reset } sentences
      rw [exactSentences_flatten chars count _ cut,confirmed]

/-- The immediate commits explain a new partial text, provided an unannounced one
    is the text already shown. -/
theorem commitImmediately_explains (chars : Alphabet) {before state : StreamingTranscriptState} {changed : Bool}
    (confirmed : state.confirmedText = before.confirmedText)
    (unchanged : changed = false → state.partialText = before.partialText) :
    Explains before (state.commitImmediately chars changed).1 (state.commitImmediately chars changed).2 := by
  have fallback : Explains before
      (if changed then state.events [(.partialText,state.partialText)] else ([],state)).1
      (if changed then state.events [(.partialText,state.partialText)] else ([],state)).2 := by
    cases changed with
    | true => exact explains_partial before state confirmed
    | false => exact explains_silent confirmed (unchanged rfl)
  unfold StreamingTranscriptState.commitImmediately
  by_cases immediate : state.immediateCommitOnPunctuation
  · simp only [immediate,if_true]
    rcases commitAll_explains chars before confirmed with nothing | ⟨some_,explained⟩
    · simpa [nothing] using fallback
    · simpa only [ne_eq,some_,not_false_eq_true,if_true] using explained
  · simpa [immediate] using fallback

theorem observed_nonempty (chars : Alphabet) (tracker : StablePunctuationTracker) (text : Text) (audioTime : Time)
    {found : Text} (observed : (tracker.observe chars text audioTime).1 = some found) : found ≠ [] := by
  unfold StablePunctuationTracker.observe at observed
  generalize (if tracker.enabled then firstPunctuationCandidate chars text tracker.minChars else []) =
    nextCandidate at observed
  by_cases absent : nextCandidate = []
  · simp [absent] at observed
  by_cases same : nextCandidate = tracker.candidate
  · simp only [same,if_false,ne_eq,not_true_eq_false] at observed
    split_ifs at observed with empty
    cases observed
    exact empty
  · simp [absent,same] at observed

theorem applyTail_explains (chars : Alphabet) {before state : StreamingTranscriptState} (tail : Text)
    (confirmed : state.confirmedText = before.confirmedText) (shown : state.partialText = before.partialText) :
    Explains before (state.applyTail chars tail).1 (state.applyTail chars tail).2 := by
  unfold StreamingTranscriptState.applyTail
  cases observed : (state.stable.observe chars tail (audioTime { state with partialText := tail })).1 with
  | some found =>
    simp only [observed]
    exact commitPrefix_explains (observed_nonempty chars _ _ _ observed) (observe_starts chars _ _ _ observed) confirmed
  | none =>
    simp only [observed]
    exact commitImmediately_explains chars confirmed (by simp [shown])

theorem applyModelUpdate_explains (chars : Alphabet) (state : StreamingTranscriptState) (text : Text)
    (samples : Int) : Explains state (returned (state.applyModelUpdate chars text samples).1)
      (state.applyModelUpdate chars text samples).2 := by
  unfold StreamingTranscriptState.applyModelUpdate
  cases unconfirmed : unconfirmedTail { state with processedSamples := state.processedSamples + samples } text with
  | error e =>
    simp only [unconfirmed]
    exact explains_silent rfl rfl
  | ok tail =>
    simp only [unconfirmed]
    exact applyTail_explains chars tail rfl rfl

theorem finalEvent_explains (state : StreamingTranscriptState) :
    Explains state [state.finalEvent.1] state.finalEvent.2 := by
  refine ⟨?_,?_,?_⟩ <;>
    simp [StreamingTranscriptState.finalEvent,StreamingTranscriptState.event,sentenceFinals,DisplayState.apply]

theorem Explains.trans {first second third : StreamingTranscriptState} {early late : List TranscriptEvent}
    (before : Explains first early second) (after : Explains second late third) :
    Explains first (early ++ late) third where
  confirmed := by rw [after.confirmed,before.confirmed,sentenceFinals_append]; simp
  shows display shown := by rw [feed_append]; exact after.shows _ (before.shows display shown)
  sentences display := by rw [feed_append,after.sentences,before.sentences,sentenceFinals_append]; simp

/-- One operation's returned events explain its change of the transcript; an operation
    that raises changes neither text. -/
theorem perform_explains (chars : Alphabet) (state : StreamingTranscriptState) (operation : Operation) :
    Explains state (returned (perform chars state operation).1) (perform chars state operation).2 := by
  cases operation with
  | applyModelUpdate text samples => exact applyModelUpdate_explains chars state text samples
  | applySegmentSnapshot id text delta =>
    simp only [perform,StreamingTranscriptState.applySegmentSnapshot]
    split
    · exact explains_silent rfl rfl
    split
    · exact explains_silent rfl rfl
    by_cases same : text = state.partialText
    · simp only [same,ne_eq,not_true_eq_false,if_false]
      exact explains_silent rfl rfl
    · simp only [same,ne_eq,not_false_eq_true,if_true]
      exact explains_partial state { state with
        activeSegmentId := some id
        processedSamples := state.processedSamples + delta
        partialText := text } rfl
  | appendIndependentSegment text =>
    simp only [perform,StreamingTranscriptState.appendIndependentSegment]
    by_cases empty : text = []
    · simp only [empty,if_true]
      exact explains_silent rfl rfl
    · simp only [empty,if_false]
      exact commitImmediately_explains chars rfl (by simp)
  | commitPending =>
    simp only [perform,StreamingTranscriptState.commitPending]
    by_cases nothing : state.partialText = []
    · simp only [nothing,if_true]
      exact explains_silent rfl rfl
    by_cases blank : strip chars state.partialText = []
    · simp only [nothing,blank,if_true,if_false]
      exact explains_partial state { state.resetSegment with partialText := [] } rfl
    · simp only [nothing,blank,if_false]
      exact explains_commit state { state.resetSegment with
        partialText := []
        confirmedText := state.resetSegment.confirmedText ++ state.partialText } [state.partialText]
        (by simp [StreamingTranscriptState.resetSegment])
  | finish text =>
    have updated := applyModelUpdate_explains chars state text 0
    simp only [perform,StreamingTranscriptState.finish]
    rcases outcome : state.applyModelUpdate chars text 0 with ⟨result,next⟩
    rw [outcome] at updated
    cases result with
    | error e => exact updated
    | ok emitted => exact updated.trans (finalEvent_explains next)
  | finalEvent => exact finalEvent_explains state
  | resetSegment => exact explains_silent rfl rfl
  | readyEvent =>
    refine ⟨?_,?_,?_⟩ <;>
      simp [perform,returned,StreamingTranscriptState.newEvent,StreamingTranscriptState.event,sentenceFinals,
        DisplayState.apply]
  | errorEvent =>
    refine ⟨?_,?_,?_⟩ <;>
      simp [perform,returned,StreamingTranscriptState.newEvent,StreamingTranscriptState.event,sentenceFinals,
        DisplayState.apply]

/-! ## Whole runs -/

theorem runFrom_explains (chars : Alphabet) (state : StreamingTranscriptState) (operations : List Operation) :
    Explains state (runFrom chars state operations).1 (runFrom chars state operations).2 := by
  induction operations generalizing state with
  | nil => exact explains_silent rfl rfl
  | cons operation rest ih => exact (perform_explains chars state operation).trans (ih _)

/-- In every run of every configuration, the display shows the server's confirmed text
    followed by its partial text after each operation; the confirmed text is the
    concatenation of the sentences emitted so far and only grows by appending; and once
    `final_event` closes the run, `transcript_from_events` recovers the whole text. -/
theorem display_refines_transcript (chars : Alphabet) (config : TranscriptConfig) (operations : List Operation) :
    (DisplayState.feed {} (run chars config operations).1).text =
        (run chars config operations).2.confirmedText ++ (run chars config operations).2.partialText ∧
      (run chars config operations).2.confirmedText =
        (sentenceFinals (run chars config operations).1).flatten ∧
      (∀ more, (run chars config operations).2.confirmedText <+:
        (run chars config (operations ++ more)).2.confirmedText) ∧
      transcriptFromEvents (run chars config (operations ++ [.finalEvent])).1 =
        (run chars config (operations ++ [.finalEvent])).2.confirmedText ++
          (run chars config (operations ++ [.finalEvent])).2.partialText := by
  have explained := runFrom_explains chars (.init config) operations
  have confirmed : (run chars config operations).2.confirmedText =
      (sentenceFinals (run chars config operations).1).flatten := explained.confirmed
  refine ⟨?_,confirmed,?_,?_⟩
  · have tail : (DisplayState.feed {} (run chars config operations).1).tail =
        (run chars config operations).2.partialText := explained.shows {} rfl
    have sentences := explained.sentences {}
    rw [DisplayState.text,tail,confirmed]
    congr 2
  · intro more
    have later := runFrom_explains chars (run chars config operations).2 more
    have appended : (run chars config (operations ++ more)).2 = (runFrom chars (run chars config operations).2 more).2 := by
      rw [run,runFrom_append]
      rfl
    rw [appended]
    exact ⟨_,later.confirmed.symm⟩
  · have closed := runFrom_explains chars (.init config) (operations ++ [.finalEvent])
    have last : (run chars config (operations ++ [.finalEvent])).1 =
        (run chars config operations).1 ++ [(run chars config operations).2.finalEvent.1] := by
      simp [run,runFrom_append,runFrom,perform,returned]
    have unchanged : (run chars config (operations ++ [.finalEvent])).2 =
        (run chars config operations).2.finalEvent.2 := by
      simp [run,runFrom_append,runFrom,perform]
    have total : (run chars config (operations ++ [.finalEvent])).2.confirmedText =
        (sentenceFinals (run chars config (operations ++ [.finalEvent])).1).flatten := closed.confirmed
    rw [transcriptFromEvents,total]
    congr 1
    simp [last,unchanged,StreamingTranscriptState.finalEvent,StreamingTranscriptState.event]

end SpeechGateway.Display
