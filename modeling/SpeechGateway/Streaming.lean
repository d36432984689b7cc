import SpeechGateway.Values

/-!
The server transcript: sentence boundaries, the stable-punctuation tracker, and
`StreamingTranscriptState` with its four commit paths. Every operation returns the
events it emits, or the exception it raises together with the state it leaves behind.
-/
namespace SpeechGateway.Streaming

def sentenceTerminators : List Char := "。？！｡?!؟۔।॥။.".toList
def sentenceClosers : List Char := "\"'”’」』）)】]》〉".toList
def dotAbbreviations : List Text :=
  ["dr.","mr.","mrs.","ms.","prof.","e.g.","i.e.","etc.","vs.","st.","jr.","sr.","ph.d."].map String.toList

section
variable (chars : Alphabet)

/-- The letters and dots that end at `index`, read backwards from `start`. -/
def dotTokenStart (text : Text) : Nat → Nat
  | 0 => 0
  | start+1 =>
    match text[start]? with
    | some c => if chars.isAlpha c || c == '.' then dotTokenStart text start else start+1
    | none => start+1

def dotToken (text : Text) (index : Nat) : Text :=
  slice text (dotTokenStart chars text index) (index + 1)

def isDottedInitialism (token : Text) : Bool :=
  let initials := (token.splitOn '.').filter (· ≠ [])
  decide (2 ≤ initials.length) && initials.all fun part => part.length == 1 && part.all chars.isUpper

def isSentenceEnd (text : Text) (index : Nat) : Bool :=
  if text[index]? ≠ some '.' then true else
  let previousChar := if 0 < index then text[index - 1]? else none
  let nextChar := text[index + 1]?
  if previousChar.any chars.isDigit && nextChar.any chars.isDigit then false else
  if previousChar.any chars.isAlnum && nextChar.any chars.isAlnum then false else
  let token := dotToken chars text index
  if dotAbbreviations.contains (chars.lower token) then false else
  if token.length == 2 && token.head?.any chars.isUpper then false else
  !isDottedInitialism chars token

/-- The end of the run of terminators and closers that starts at `index`. -/
def sentenceBoundaryEnd (text : Text) (index : Nat) : Nat :=
  index + 1 + ((text.drop (index + 1)).takeWhile fun c =>
    sentenceTerminators.contains c || sentenceClosers.contains c).length

theorem lt_sentenceBoundaryEnd (text : Text) (index : Nat) : index < sentenceBoundaryEnd text index := by
  unfold sentenceBoundaryEnd; omega

/-- A terminator at `index` that ends a sentence. -/
def endsSentence (text : Text) (index : Nat) : Bool :=
  text[index]?.any sentenceTerminators.contains && isSentenceEnd chars text index

def splitCommittedLoop (text : Text) (index sentenceStart : Nat) (committed : List Text) : List Text × Text :=
  if _inside : index < text.length then
    if endsSentence chars text index then
      let sentenceEnd := sentenceBoundaryEnd text index
      let sentence := strip chars (slice text sentenceStart sentenceEnd)
      let next := sentenceEnd + ((text.drop sentenceEnd).takeWhile chars.isSpace).length
      splitCommittedLoop text next next (if sentence ≠ [] then committed ++ [sentence] else committed)
    else splitCommittedLoop text (index + 1) sentenceStart committed
  else (committed,text.drop sentenceStart)
termination_by text.length - index
decreasing_by
  · have := lt_sentenceBoundaryEnd text index
    omega
  · omega

/-- `split_committed_sentences`: the complete sentences, stripped, and the tail after them. -/
def splitCommittedSentences (text : Text) : List Text × Text :=
  splitCommittedLoop chars text 0 0 []

def firstPunctuationLoop (text : Text) (minChars : Int) (index : Nat) : Text :=
  if _inside : index < text.length then
    if endsSentence chars text index then
      let sentenceEnd := sentenceBoundaryEnd text index
      let candidate := text.take sentenceEnd
      if ((candidate.filter fun c => !chars.isSpace c).length : Int) ≥ minChars then candidate
      else firstPunctuationLoop text minChars sentenceEnd
    else firstPunctuationLoop text minChars (index + 1)
  else []
termination_by text.length - index
decreasing_by
  · have := lt_sentenceBoundaryEnd text index
    omega
  · omega

/-- `first_punctuation_candidate`: the shortest prefix that ends a sentence and is long enough. -/
def firstPunctuationCandidate (text : Text) (minChars : Int) : Text :=
  firstPunctuationLoop chars text minChars 0

theorem firstPunctuationLoop_starts (text : Text) (minChars : Int) (index : Nat) :
    firstPunctuationLoop chars text minChars index <+: text := by
  fun_induction firstPunctuationLoop chars text minChars index with
  | case1 => exact List.take_prefix ..
  | case2 _ _ _ _ _ _ ih => exact ih
  | case3 _ _ _ ih => exact ih
  | case4 => exact List.nil_prefix

theorem firstPunctuationCandidate_starts (text : Text) (minChars : Int) :
    firstPunctuationCandidate chars text minChars <+: text :=
  firstPunctuationLoop_starts chars text minChars 0

end

/-- The event types of the wire protocol. -/
inductive EventType
  | ready
  | partialText
  | sentenceFinal
  | final
  | error
  deriving DecidableEq, Repr

structure TranscriptEvent where
  type : EventType
  text : Text
  sequence : Nat
  deriving DecidableEq, Repr

structure StablePunctuationTracker where
  enabled : Bool
  stableSeconds : Time
  minChars : Int
  minUpdates : Int
  candidate : Text := []
  candidateAudioTime : Time := 0
  candidateUpdates : Int := 0
  deriving DecidableEq, Repr

def StablePunctuationTracker.reset (tracker : StablePunctuationTracker) : StablePunctuationTracker :=
  { tracker with candidate := [], candidateAudioTime := 0, candidateUpdates := 0 }

/-- `observe`: the candidate once it has been seen often and long enough. -/
def StablePunctuationTracker.observe (chars : Alphabet) (tracker : StablePunctuationTracker) (text : Text)
    (audioTime : Time) : Option Text × StablePunctuationTracker :=
  let nextCandidate := if tracker.enabled then firstPunctuationCandidate chars text tracker.minChars else []
  if nextCandidate = [] then (none,tracker.reset) else
  if nextCandidate ≠ tracker.candidate then
    (none,{ tracker with candidate := nextCandidate, candidateAudioTime := audioTime, candidateUpdates := 1 }) else
  let counted := { tracker with candidateUpdates := tracker.candidateUpdates + 1 }
  if counted.candidateUpdates < counted.minUpdates then (none,counted) else
  if audioTime - counted.candidateAudioTime < counted.stableSeconds then (none,counted) else
  (some counted.candidate,counted.reset)

/-- A stable prefix starts the observed text. -/
theorem observe_starts (chars : Alphabet) (tracker : StablePunctuationTracker) (text : Text) (audioTime : Time)
    {found : Text} (observed : (tracker.observe chars text audioTime).1 = some found) : found <+: text := by
  unfold StablePunctuationTracker.observe at observed
  set nextCandidate := if tracker.enabled then firstPunctuationCandidate chars text tracker.minChars else []
    with candidateIs
  have starts : nextCandidate <+: text := by
    rw [candidateIs]
    split_ifs
    · exact firstPunctuationCandidate_starts ..
    · exact List.nil_prefix
  by_cases absent : nextCandidate = []
  · simp [absent] at observed
  by_cases same : nextCandidate = tracker.candidate
  · simp only [same,if_false,ne_eq,not_true_eq_false] at observed
    split_ifs at observed with _ empty
    cases observed
    exact same ▸ starts
  · simp [absent,same] at observed

/-! ## The transcript state -/

/-- The constructor arguments of `StreamingTranscriptState`. Every caller passes a
    positive sample rate, without which `audio_time` divides by zero. -/
structure TranscriptConfig where
  sampleRate : Nat
  stableCommitEnabled : Bool
  stableCommitSeconds : Time
  stableCommitMinChars : Int
  stableCommitMinUpdates : Int
  immediateCommitOnPunctuation : Bool := false
  segmentLocalSnapshots : Bool := false
  sampleRatePositive : 0 < sampleRate

/-- Sessions are transcribed at 16 kHz. -/
theorem sessionRate_positive : 0 < 16000 := by decide

structure StreamingTranscriptState where
  sampleRate : Nat
  confirmedText : Text := []
  partialText : Text := []
  processedSamples : Int := 0
  sequence : Nat := 0
  segmentLocalSnapshots : Bool
  activeSegmentId : Option Int := none
  immediateCommitOnPunctuation : Bool
  stable : StablePunctuationTracker
  deriving DecidableEq, Repr

/-- `StreamingTranscriptState.__init__`. -/
def StreamingTranscriptState.init (config : TranscriptConfig) : StreamingTranscriptState where
  sampleRate := config.sampleRate
  segmentLocalSnapshots := config.segmentLocalSnapshots
  immediateCommitOnPunctuation := config.immediateCommitOnPunctuation && !config.segmentLocalSnapshots
  stable :=
    { enabled := config.stableCommitEnabled && !config.segmentLocalSnapshots
      stableSeconds := config.stableCommitSeconds
      minChars := config.stableCommitMinChars
      minUpdates := config.stableCommitMinUpdates }

/-- What an operation returns or raises, and the state it leaves. -/
abbrev Outcome (α : Type) := Except PyError α × StreamingTranscriptState

namespace StreamingTranscriptState

def audioTime (state : StreamingTranscriptState) : Time :=
  (state.processedSamples : Rat) / (state.sampleRate : Rat)

/-- `_event`: an event takes the next sequence number. -/
def event (state : StreamingTranscriptState) (type : EventType) (text : Text) :
    TranscriptEvent × StreamingTranscriptState :=
  (⟨type,text,state.sequence + 1⟩,{ state with sequence := state.sequence + 1 })

/-- Events of the given types and texts, numbered in order. -/
def events (state : StreamingTranscriptState) :
    List (EventType × Text) → List TranscriptEvent × StreamingTranscriptState
  | [] => ([],state)
  | (type,text) :: rest =>
    let (first,state) := state.event type text
    let (later,state) := events state rest
    (first :: later,state)

def newEvent (state : StreamingTranscriptState) (type : EventType) (text : Text := []) :
    TranscriptEvent × StreamingTranscriptState := state.event type text

def finalEvent (state : StreamingTranscriptState) : TranscriptEvent × StreamingTranscriptState :=
  state.event .final state.partialText

def resetSegment (state : StreamingTranscriptState) : StreamingTranscriptState :=
  { state with stable := state.stable.reset, activeSegmentId := none }

/-- `_unconfirmed_tail`. -/
def unconfirmedTail (state : StreamingTranscriptState) (text : Text) : Except PyError Text :=
  if state.confirmedText = [] then .ok text else
  if state.confirmedText.isPrefixOf text then .ok (text.drop state.confirmedText.length) else
  .error (.confirmedPrefixConflict "model text conflicts with confirmed transcript prefix")

def applySegmentSnapshot (state : StreamingTranscriptState) (segmentId : Int) (segmentText : Text)
    (decodedSamplesDelta : Int) : Outcome (List TranscriptEvent) :=
  if !state.segmentLocalSnapshots then
    (.error (.runtimeError "segment snapshots require segment_local_snapshots mode"),state) else
  if state.activeSegmentId.any (· ≠ segmentId) && state.partialText ≠ [] then
    (.error (.confirmedPrefixConflict "new model segment arrived before the active segment was finalized"),state) else
  let next := { state with
    activeSegmentId := some segmentId
    processedSamples := state.processedSamples + decodedSamplesDelta
    partialText := segmentText }
  if segmentText ≠ state.partialText then
    let (emitted,next) := next.events [(.partialText,segmentText)]
    (.ok emitted,next)
  else (.ok [],next)

/-- `_commit_prefix`. -/
def commitPrefix (state : StreamingTranscriptState) (found : Text) :
    List TranscriptEvent × StreamingTranscriptState :=
  if found = [] ∨ !found.isPrefixOf state.partialText then ([],state) else
  let tail := state.partialText.drop found.length
  let next := { state with
    confirmedText := state.confirmedText ++ found
    partialText := tail
    stable := state.stable.reset }
  next.events [(.sentenceFinal,found),(.partialText,tail)]

/-- The loop of `_commit_all_complete_sentences` that cuts `remaining` into `count`
    unstripped sentences, the last of which takes what is left. -/
def exactSentences (chars : Alphabet) : Nat → Text → Option (List Text)
  | 0, _ => some []
  | 1, remaining => if remaining = [] then none else some [remaining]
  | count+2, remaining =>
    let exact := firstPunctuationCandidate chars remaining 1
    if exact = [] then none else
    (exactSentences chars (count + 1) (remaining.drop exact.length)).map (exact :: ·)

/-- `_commit_all_complete_sentences`. -/
def commitAllCompleteSentences (chars : Alphabet) (state : StreamingTranscriptState) :
    List TranscriptEvent × StreamingTranscriptState :=
  let (committed,tail) := splitCommittedSentences chars state.partialText
  if committed = [] then ([],state) else
  let confirmedPrefix := state.partialText.take (state.partialText.length - tail.length)
  match exactSentences chars committed.length confirmedPrefix with
  | none => ([],state)
  | some sentences =>
    let next := { state with
      confirmedText := state.confirmedText ++ confirmedPrefix
      partialText := tail
      stable := state.stable.reset }
    next.events (sentences.map (fun sentence => (.sentenceFinal,sentence)) ++ [(.partialText,tail)])

/-- The immediate commits of a new partial text, and otherwise a partial event
    when `changed`. -/
def commitImmediately (chars : Alphabet) (state : StreamingTranscriptState) (changed : Bool) :
    List TranscriptEvent × StreamingTranscriptState :=
  let (committed,next) := if state.immediateCommitOnPunctuation
    then state.commitAllCompleteSentences chars else ([],state)
  if committed ≠ [] then (committed,next) else
  if changed then next.events [(.partialText,next.partialText)] else ([],next)

/-- The rest of `apply_model_update` once the unconfirmed tail is known. -/
def applyTail (chars : Alphabet) (state : StreamingTranscriptState) (tail : Text) :
    List TranscriptEvent × StreamingTranscriptState :=
  let next := { state with partialText := tail }
  let observed := next.stable.observe chars tail next.audioTime
  let next := { next with stable := observed.2 }
  match observed.1 with
  | some found => next.commitPrefix found
  | none => next.commitImmediately chars (tail ≠ state.partialText)

def applyModelUpdate (chars : Alphabet) (state : StreamingTranscriptState) (text : Text)
    (processedSamples : Int) : Outcome (List TranscriptEvent) :=
  let counted := { state with processedSamples := state.processedSamples + processedSamples }
  match counted.unconfirmedTail text with
  | .error e => (.error e,counted)
  | .ok tail => (.ok (counted.applyTail chars tail).1,(counted.applyTail chars tail).2)

def commitPending (chars : Alphabet) (state : StreamingTranscriptState) :
    List TranscriptEvent × StreamingTranscriptState :=
  let reset := state.resetSegment
  if state.partialText = [] then ([],reset) else
  let sentence := state.partialText
  let next := { reset with partialText := [] }
  if strip chars sentence = [] then next.events [(.partialText,[])] else
  { next with confirmedText := next.confirmedText ++ sentence }.events
    [(.sentenceFinal,sentence),(.partialText,[])]

def appendIndependentSegment (chars : Alphabet) (state : StreamingTranscriptState) (text : Text) :
    List TranscriptEvent × StreamingTranscriptState :=
  if text = [] then ([],state) else
  { state with partialText := state.partialText ++ text }.commitImmediately chars true

def finish (chars : Alphabet) (state : StreamingTranscriptState) (text : Text) :
    Outcome (List TranscriptEvent) :=
  match state.applyModelUpdate chars text 0 with
  | (.error e,next) => (.error e,next)
  | (.ok emitted,next) => (.ok (emitted ++ [next.finalEvent.1]),next.finalEvent.2)

end StreamingTranscriptState
end SpeechGateway.Streaming
