import SpeechGateway.Protocol

/-!
What the operations of the transcript tell a connection: events that explain the change and are
numbered on, after which the stream goes on, and a conflict with the confirmed text as the only
exception.
-/
namespace SpeechGateway.Connections
open SpeechGateway.Streaming SpeechGateway.Protocol SpeechGateway.Display

/-- An event after which the stream goes on. -/
def GoesOn (event : TranscriptEvent) : Prop := event.type ≠ .final ∧ event.type ≠ .error

/-- The events explain a change of the transcript and take its numbers, and the stream goes on. -/
structure Tells (before : StreamingTranscriptState) (emitted : List TranscriptEvent)
    (after : StreamingTranscriptState) : Prop where
  explains : Explains before emitted after
  numbered : Numbered before emitted after
  goesOn : ∀ event ∈ emitted, GoesOn event
  sameMode : after.segmentLocalSnapshots = before.segmentLocalSnapshots

/-- The types of a list of texts are those of events after which the stream goes on. -/
def Plain (texts : List (EventType × Text)) : Prop := ∀ entry ∈ texts, entry.1 = .sentenceFinal ∨ entry.1 = .partialText

theorem events_goOn (state : StreamingTranscriptState) {texts : List (EventType × Text)} (plain : Plain texts) :
    ∀ event ∈ (state.events texts).1, GoesOn event := by
  induction texts generalizing state with
  | nil =>
    intro event member
    simp [StreamingTranscriptState.events] at member
  | cons first rest ih =>
    intro event member
    simp only [StreamingTranscriptState.events,StreamingTranscriptState.event,List.mem_cons] at member
    rcases member with rfl | later
    · rcases plain first List.mem_cons_self with sentence | shown
      · simp [GoesOn,sentence]
      · simp [GoesOn,shown]
    · exact ih _ (fun entry inside => plain entry (List.mem_cons_of_mem _ inside)) event later

theorem commitPrefix_goesOn (state : StreamingTranscriptState) (found : Text) :
    ∀ event ∈ (state.commitPrefix found).1, GoesOn event := by
  unfold StreamingTranscriptState.commitPrefix
  split
  · intro event member
    simp at member
  · exact events_goOn _ (by simp [Plain])

theorem commitAll_goesOn (chars : Alphabet) (state : StreamingTranscriptState) :
    ∀ event ∈ (state.commitAllCompleteSentences chars).1, GoesOn event := by
  have silent : ∀ event ∈ ([] : List TranscriptEvent), GoesOn event := by simp
  unfold StreamingTranscriptState.commitAllCompleteSentences
  dsimp only
  split
  · exact silent
  · split
    · exact silent
    · apply events_goOn
      intro entry member
      simp only [List.mem_append,List.mem_map,List.mem_singleton] at member
      rcases member with ⟨sentence,_,rfl⟩ | rfl
      · exact .inl rfl
      · exact .inr rfl

theorem commitImmediately_goesOn (chars : Alphabet) (state : StreamingTranscriptState) (changed : Bool) :
    ∀ event ∈ (state.commitImmediately chars changed).1, GoesOn event := by
  have silent : ∀ event ∈ ([] : List TranscriptEvent), GoesOn event := by simp
  unfold StreamingTranscriptState.commitImmediately
  by_cases immediate : state.immediateCommitOnPunctuation = true
  · simp only [immediate,if_true]
    split
    · exact commitAll_goesOn chars state
    · split
      · exact events_goOn _ (by simp [Plain])
      · exact silent
  · simp only [immediate,Bool.false_eq_true,if_false]
    split
    · exact silent
    · split
      · exact events_goOn _ (by simp [Plain])
      · exact silent

theorem commitPrefix_mode (state : StreamingTranscriptState) (found : Text) :
    (state.commitPrefix found).2.segmentLocalSnapshots = state.segmentLocalSnapshots := by
  unfold StreamingTranscriptState.commitPrefix
  split
  · rfl
  · rw [events_state]

theorem commitAll_mode (chars : Alphabet) (state : StreamingTranscriptState) :
    (state.commitAllCompleteSentences chars).2.segmentLocalSnapshots = state.segmentLocalSnapshots := by
  unfold StreamingTranscriptState.commitAllCompleteSentences
  dsimp only
  split
  · rfl
  · split
    · rfl
    · rw [events_state]

theorem commitImmediately_mode (chars : Alphabet) (state : StreamingTranscriptState) (changed : Bool) :
    (state.commitImmediately chars changed).2.segmentLocalSnapshots = state.segmentLocalSnapshots := by
  unfold StreamingTranscriptState.commitImmediately
  by_cases immediate : state.immediateCommitOnPunctuation = true
  · simp only [immediate,if_true]
    split
    · exact commitAll_mode chars state
    · split
      · rw [events_state]
        exact commitAll_mode chars state
      · exact commitAll_mode chars state
  · simp only [immediate,Bool.false_eq_true,if_false]
    split
    · rfl
    · split
      · rw [events_state]
      · rfl

theorem applyModelUpdate_tells (chars : Alphabet) (state : StreamingTranscriptState) (text : Text) (samples : Int) :
    Tells state (returned (state.applyModelUpdate chars text samples).1) (state.applyModelUpdate chars text samples).2 := by
  refine ⟨applyModelUpdate_explains chars state text samples,applyModelUpdate_numbered chars state text samples,?_,?_⟩
  · unfold StreamingTranscriptState.applyModelUpdate
    dsimp only
    split
    · simp [returned]
    · unfold StreamingTranscriptState.applyTail
      dsimp only
      split
      · exact commitPrefix_goesOn _ _
      · exact commitImmediately_goesOn chars _ _
  · unfold StreamingTranscriptState.applyModelUpdate
    dsimp only
    split
    · rfl
    · unfold StreamingTranscriptState.applyTail
      dsimp only
      split
      · exact commitPrefix_mode _ _
      · exact commitImmediately_mode chars _ _

theorem applySegmentSnapshot_tells (chars : Alphabet) (state : StreamingTranscriptState) (segmentId : Int) (text : Text)
    (delta : Int) : Tells state (returned (state.applySegmentSnapshot segmentId text delta).1)
      (state.applySegmentSnapshot segmentId text delta).2 := by
  refine ⟨perform_explains chars state (.applySegmentSnapshot segmentId text delta),
    applySegmentSnapshot_numbered state segmentId text delta,?_,?_⟩
  · unfold StreamingTranscriptState.applySegmentSnapshot
    split
    · simp [returned]
    split
    · simp [returned]
    dsimp only
    split
    · exact events_goOn _ (by simp [Plain])
    · simp [returned]
  · unfold StreamingTranscriptState.applySegmentSnapshot
    split
    · rfl
    split
    · rfl
    dsimp only
    split
    · rw [events_state]
    · rfl

theorem commitPending_tells (chars : Alphabet) (state : StreamingTranscriptState) :
    Tells state (state.commitPending chars).1 (state.commitPending chars).2 := by
  refine ⟨perform_explains chars state .commitPending,commitPending_numbered chars state,?_,?_⟩
  · unfold StreamingTranscriptState.commitPending
    dsimp only
    split
    · simp
    split
    · exact events_goOn _ (by simp [Plain])
    · exact events_goOn _ (by simp [Plain])
  · unfold StreamingTranscriptState.commitPending
    dsimp only
    split
    · rfl
    split
    · rw [events_state]
      rfl
    · rw [events_state]
      rfl

theorem appendIndependentSegment_tells (chars : Alphabet) (state : StreamingTranscriptState) (text : Text) :
    Tells state (state.appendIndependentSegment chars text).1 (state.appendIndependentSegment chars text).2 := by
  refine ⟨perform_explains chars state (.appendIndependentSegment text),?_,?_,?_⟩
  · unfold StreamingTranscriptState.appendIndependentSegment
    split
    · exact numbered_silent rfl
    · exact commitImmediately_numbered chars _ _ rfl
  · unfold StreamingTranscriptState.appendIndependentSegment
    split
    · simp
    · exact commitImmediately_goesOn chars _ _
  · unfold StreamingTranscriptState.appendIndependentSegment
    split
    · rfl
    · exact commitImmediately_mode chars _ _

/-- Only a conflict with the confirmed text is raised. -/
theorem applySegmentSnapshot_raises {state : StreamingTranscriptState} (segmentwise : state.segmentLocalSnapshots = true)
    {segmentId : Int} {text : Text} {delta : Int} {exc : PyError}
    (raised : (state.applySegmentSnapshot segmentId text delta).1 = .error exc) :
    ∃ message, exc = .confirmedPrefixConflict message := by
  unfold StreamingTranscriptState.applySegmentSnapshot at raised
  simp only [segmentwise,Bool.not_true,Bool.false_eq_true,if_false] at raised
  split at raised
  · cases raised
    exact ⟨_,rfl⟩
  · split at raised <;> cases raised

theorem applyModelUpdate_raises {chars : Alphabet} {state : StreamingTranscriptState} {text : Text} {samples : Int}
    {exc : PyError} (raised : (state.applyModelUpdate chars text samples).1 = .error exc) :
    ∃ message, exc = .confirmedPrefixConflict message := by
  unfold StreamingTranscriptState.applyModelUpdate StreamingTranscriptState.unconfirmedTail at raised
  dsimp only at raised
  by_cases unconfirmed : state.confirmedText = []
  · simp [unconfirmed] at raised
  · by_cases starts : state.confirmedText.isPrefixOf text = true
    · simp [unconfirmed,starts] at raised
    · simp only [unconfirmed,starts,Bool.false_eq_true,if_false] at raised
      cases raised
      exact ⟨_,rfl⟩

end SpeechGateway.Connections
