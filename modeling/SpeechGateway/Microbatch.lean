import SpeechGateway.Scheduling
import SpeechGateway.Grouping

/-!
`FasterWhisperAdapter.submit` and `SenseVoiceAdapter.submit`. Both check a batch, add its audio to
the sessions, have the engine decode the jobs in groups, and settle the jobs one after another.
With an engine that decodes every waveform by itself, a batch of distinct sessions leaves what its
jobs leave when they are submitted alone, in any order (`batches_transparent`).
-/
namespace SpeechGateway.Microbatch
open SpeechGateway.Backends SpeechGateway.Scheduling Grouping

/-- An exception of an adapter. `SenseVoiceBatchFailure` has the stage and the type that failed. -/
inductive AdapterError
  | raised (error : PyError)
  | batchFailure (stage exceptionType : String)
  deriving DecidableEq, Repr

abbrev Waveform := List Rat

/-- A little-endian 16-bit sample. -/
def sampleValue (low high : UInt8) : Rat :=
  let raw : Int := low.toNat + 256 * high.toNat
  (if raw < 32768 then raw else raw - 65536) / 32768

/-- The complete samples. -/
def waveformOf : Pcm → Waveform
  | low :: high :: rest => sampleValue low high :: waveformOf rest
  | _ => []

/-- `_pcm_to_float32`. -/
def pcmToFloat32 (pcm : Pcm) : Except AdapterError Waveform :=
  if pcm.length % 2 = 0 then .ok (waveformOf pcm)
  else .error (.raised (.valueError "buffer size must be a multiple of element size"))

/-- `InferenceResult.from_job` with the arguments of `submit`. -/
def fromJob (job : InferenceJob) (text : Text) (metadata : Option Metadata) : InferenceResult where
  jobId := job.jobId
  sessionId := job.sessionId
  generation := job.generation
  jobSequence := job.jobSequence
  workerId := job.workerId
  startSample := job.startSample
  endSample := job.endSample
  text := text
  tailText := text
  segmentId := 1
  final := job.final
  metadata := metadata

/-- `_ready`, whether there is an engine, and `_sessions`. -/
structure Adapter (State : Type) where
  ready : Bool
  loaded : Bool
  sessions : SessionId → Option State

/-- What an adapter does its own way: its limits and texts, which audio of a job it decodes in which
    group, its engine, and how it settles a job. -/
structure Rolling (State Key Item : Type) where
  maxBatchItems : Nat
  maxSegmentSamples : Nat
  notReady : String
  outsideLimits : String
  utteranceLimit : String
  omitted : AdapterError
  backendSessionId : State → Text
  pcm : State → Pcm
  extend : Pcm → State → State
  key : State → InferenceJob → Key
  audio : State → InferenceJob → Pcm
  decode : Key → List Waveform → Except AdapterError (List Item)
  settle : State → InferenceJob → Item → State × InferenceResult

namespace Adapter
variable {State : Type}

/-- Changes a session. -/
def modify (adapter : Adapter State) (sessionId : SessionId) (change : State → State) : Adapter State :=
  { adapter with sessions := fun other =>
      if other = sessionId then (adapter.sessions other).map change else adapter.sessions other }

end Adapter

namespace Rolling
variable {State Key Item : Type} (backend : Rolling State Key Item)

/-- The checks of a batch, where some sessions were seen already. -/
def check (adapter : Adapter State) : List InferenceJob → List SessionId → Except AdapterError Unit
  | [], _ => .ok ()
  | job :: rest, seen =>
    match adapter.sessions job.sessionId with
    | none => .error (.raised (.keyError "stale session"))
    | some state =>
      if backend.backendSessionId state ≠ job.backendSessionId then
        .error (.raised (.keyError "stale session backend identity")) else
      if job.sessionId ∈ seen then
        .error (.raised (.valueError "one batch cannot contain two jobs for one session")) else
      if backend.maxSegmentSamples < sampleCount (backend.pcm state) + job.sampleCount then
        .error (.raised (.capacity .adapterUtteranceLimit backend.maxSegmentSamples (sampleCount (backend.pcm state))
          job.sampleCount backend.utteranceLimit)) else
      check adapter rest (job.sessionId :: seen)

/-- The audio of the jobs is added to their sessions. -/
def extendAll (adapter : Adapter State) (jobs : List InferenceJob) : Adapter State :=
  jobs.foldl (fun adapter job => adapter.modify job.sessionId (backend.extend job.pcm)) adapter

/-- The states of the sessions, beside the jobs. -/
def entries (adapter : Adapter State) (jobs : List InferenceJob) : List (State × InferenceJob) :=
  jobs.filterMap fun job => (adapter.sessions job.sessionId).map fun state => (state,job)

/-- `_pcm_to_float32` of the audio of a job. -/
def waveform (entries : List (State × InferenceJob)) (index : Nat) : Except AdapterError Waveform :=
  match entries[index]? with
  | some (state,job) => pcmToFloat32 (backend.audio state job)
  | none => .error (.raised (.foreign "IndexError"))

variable [DecidableEq Key]

/-- The jobs are grouped, and decoded group by group. -/
def decodeAll (entries : List (State × InferenceJob)) : Except AdapterError (List (Option Item)) :=
  runGroups (backend.waveform entries) backend.decode (group (entries.map fun entry => backend.key entry.1 entry.2))
    (List.replicate entries.length none)

omit [DecidableEq Key] in
/-- The jobs are settled. -/
def settleAll (adapter : Adapter State) : List (InferenceJob × Option Item) →
    Except AdapterError (List InferenceResult) × Adapter State
  | [] => (.ok [],adapter)
  | (_,none) :: _ => (.error backend.omitted,adapter)
  | (job,some item) :: rest =>
    match adapter.sessions job.sessionId with
    | none => (.error (.raised (.keyError "stale session")),adapter)
    | some state =>
      let (results,last) := settleAll (adapter.modify job.sessionId fun state => (backend.settle state job item).1) rest
      (results.map ((backend.settle state job item).2 :: ·),last)

/-- `stable_batch_id`. Only the logs read the id, but it is taken when the audio was added. -/
def stableBatchId (jobs : List InferenceJob) : Except AdapterError Unit :=
  if jobs = [] then .error (.raised (.valueError "batch identity requires at least one job")) else
  if jobs.any (·.jobId = []) then .error (.raised (.valueError "batch jobs require nonempty job_id")) else
  .ok ()

/-- `submit`, and the adapter that it leaves. -/
def submit (jobs : List InferenceJob) (adapter : Adapter State) : Except AdapterError (List InferenceResult) × Adapter State :=
  if !adapter.ready || !adapter.loaded then (.error (.raised (.runtimeError backend.notReady)),adapter) else
  if jobs = [] ∨ backend.maxBatchItems < jobs.length then (.error (.raised (.valueError backend.outsideLimits)),adapter) else
  match backend.check adapter jobs [] with
  | .error exc => (.error exc,adapter)
  | .ok () =>
    let extended := backend.extendAll adapter jobs
    match stableBatchId jobs with
    | .error exc => (.error exc,extended)
    | .ok () =>
      match backend.decodeAll (entries extended jobs) with
      | .error exc => (.error exc,extended)
      | .ok decoded => backend.settleAll extended (jobs.zip decoded)

end Rolling

/-- The jobs are submitted one at a time. -/
def submitEach {State : Type}
    (submit : List InferenceJob → Adapter State → Except AdapterError (List InferenceResult) × Adapter State) :
    List InferenceJob → Adapter State → Except AdapterError (List InferenceResult) × Adapter State
  | [], adapter => (.ok [],adapter)
  | job :: rest, adapter =>
    match submit [job] adapter with
    | (.error exc,next) => (.error exc,next)
    | (.ok first,next) =>
      let (later,last) := submitEach submit rest next
      (later.map (first ++ ·),last)

/-- A batch is answered as its jobs are one at a time, in any order: every job gets the same result,
    and every session is left in the same state. -/
def Transparent {State : Type}
    (submit : List InferenceJob → Adapter State → Except AdapterError (List InferenceResult) × Adapter State)
    (jobs : List InferenceJob) (adapter : Adapter State) : Prop :=
  ∃ (reply : InferenceJob → InferenceResult) (after : Adapter State),
    submit jobs adapter = (.ok (jobs.map reply),after) ∧
    ∀ order : List InferenceJob, order.Perm jobs → submitEach submit order adapter = (.ok (order.map reply),after)

/-! ## The adapters -/

structure DecodedText where
  text : Text
  language : Text
  deriving DecidableEq, Repr

structure FasterWhisperState where
  backendSessionId : Text
  language : Option Text
  pcm : Pcm
  partialText : Text := []
  cachedFinal : Option Text := none
  deriving DecidableEq, Repr

structure FasterWhisperSettings where
  batchSize : Nat
  partialBeamSize : Nat
  finalBeamSize : Nat
  maxSegmentSamples : Nat

/-- `transcribe_batch` of an engine, on waveforms, a language and a size of the beam. -/
abbrev FasterWhisperEngine := List Waveform → Option Text → Nat → Except PyError (List DecodedText)

/-- `str.isascii` of a character. -/
def isAscii (c : Char) : Bool := c.toNat < 128

/-- `_append_transcript`. -/
def appendTranscript (current incoming : Text) : Text :=
  if current = [] then incoming else
  if incoming = [] then current else
  current ++ (if current.getLast?.any isAscii && incoming.head?.any isAscii then [' '] else []) ++ incoming

def fasterWhisper (settings : FasterWhisperSettings) (engine : FasterWhisperEngine) :
    Rolling FasterWhisperState (Option Text × Nat) DecodedText where
  maxBatchItems := settings.batchSize
  maxSegmentSamples := settings.maxSegmentSamples
  notReady := "faster-whisper adapter is not ready"
  outsideLimits := "faster-whisper batch size is outside adapter limits"
  utteranceLimit := "faster-whisper utterance limit exceeded"
  omitted := .raised (.runtimeError "faster-whisper omitted a batch result")
  backendSessionId := FasterWhisperState.backendSessionId
  pcm := FasterWhisperState.pcm
  extend pcm state := { state with pcm := state.pcm ++ pcm }
  key state job := (state.language,if job.final then settings.finalBeamSize else settings.partialBeamSize)
  audio state job := if job.final then state.pcm else job.pcm
  decode key waveforms :=
    match engine waveforms key.1 key.2 with
    | .error exc => .error (.raised exc)
    | .ok items =>
      if items.length ≠ waveforms.length then .error (.raised (.runtimeError "faster-whisper result count mismatch"))
      else .ok items
  settle state job item :=
    let told := { state with language := state.language.or (some item.language) }
    if job.final then ({ told with cachedFinal := some item.text },fromJob job item.text none)
    else
      let text := appendTranscript told.partialText item.text
      ({ told with partialText := text },fromJob job text none)

/-- `FasterWhisperAdapter.submit`. -/
def FasterWhisperAdapter.submit (settings : FasterWhisperSettings) (engine : FasterWhisperEngine) (jobs : List InferenceJob)
    (adapter : Adapter FasterWhisperState) : Except AdapterError (List InferenceResult) × Adapter FasterWhisperState :=
  (fasterWhisper settings engine).submit jobs adapter

structure SenseVoiceDecoded where
  text : Text
  metadata : Metadata
  deriving DecidableEq, Repr

structure SenseVoiceState where
  backendSessionId : Text
  language : Option Text
  pcm : Pcm
  cachedFinal : Option SenseVoiceDecoded := none
  deriving DecidableEq, Repr

structure SenseVoiceSettings where
  batchSize : Nat
  maxSegmentSamples : Nat

/-- `transcribe_batch` of an engine, on waveforms and a language. -/
abbrev SenseVoiceEngine := List Waveform → Option Text → Except AdapterError (List SenseVoiceDecoded)

/-- `capabilities.languages`. -/
def senseVoiceLanguages : List Text := ["auto","zh","yue","en","ja","ko"].map String.toList

/-- What the handler around the engine makes of an exception. -/
def batchFailed : AdapterError → AdapterError
  | .batchFailure stage exceptionType => .batchFailure stage exceptionType
  | .raised exc => .batchFailure "engine_generate" exc.typeName

def senseVoice (settings : SenseVoiceSettings) (engine : SenseVoiceEngine) :
    Rolling SenseVoiceState (Option Text) SenseVoiceDecoded where
  maxBatchItems := settings.batchSize
  maxSegmentSamples := settings.maxSegmentSamples
  notReady := "SenseVoice adapter is not ready"
  outsideLimits := "SenseVoice batch size is outside adapter limits"
  utteranceLimit := "SenseVoice utterance limit exceeded"
  omitted := .batchFailure "result_omitted" "RuntimeError"
  backendSessionId := SenseVoiceState.backendSessionId
  pcm := SenseVoiceState.pcm
  extend pcm state := { state with pcm := state.pcm ++ pcm }
  key state _ := state.language
  audio state _ := state.pcm
  decode language waveforms :=
    match engine waveforms language with
    | .error exc => .error (batchFailed exc)
    | .ok items => if items.length ≠ waveforms.length then .error (.batchFailure "result_count" "RuntimeError") else .ok items
  settle state job item :=
    let language := (item.metadata.lookup "language".toList).filter (· ∈ senseVoiceLanguages)
    let told := { state with language := state.language.or language }
    (if job.final then { told with cachedFinal := some item } else told,
      fromJob job item.text (if item.metadata = [] then none else some item.metadata))

/-- `SenseVoiceAdapter.submit`. -/
def SenseVoiceAdapter.submit (settings : SenseVoiceSettings) (engine : SenseVoiceEngine) (jobs : List InferenceJob)
    (adapter : Adapter SenseVoiceState) : Except AdapterError (List InferenceResult) × Adapter SenseVoiceState :=
  (senseVoice settings engine).submit jobs adapter

namespace Adapter
variable {State : Type} {adapter : Adapter State}

theorem modify_other {sessionId other : SessionId} {change : State → State} (apart : other ≠ sessionId) :
    (adapter.modify sessionId change).sessions other = adapter.sessions other := if_neg apart

/-- Changes of distinct sessions change each of these once. -/
theorem foldl_modify {jobs : List InferenceJob} {change : InferenceJob → State → State}
    (distinct : (jobs.map (·.sessionId)).Nodup) :
    jobs.foldl (fun adapter job => adapter.modify job.sessionId (change job)) adapter =
      { adapter with sessions := fun sessionId => (adapter.sessions sessionId).map fun state =>
          (jobs.find? (·.sessionId = sessionId)).elim state (change · state) } := by
  induction jobs generalizing adapter with
  | nil => simp
  | cons job rest ih =>
    obtain ⟨fresh,later⟩ := List.nodup_cons.mp distinct
    rw [List.foldl_cons,ih later]
    simp only [Adapter.modify,Adapter.mk.injEq,true_and]
    funext sessionId
    by_cases own : sessionId = job.sessionId
    · have none : rest.find? (·.sessionId = sessionId) = none := by
        rw [List.find?_eq_none]
        intro other inside same
        exact fresh (List.mem_map.mpr ⟨other,inside,(of_decide_eq_true same).trans own⟩)
      rw [if_pos own,none,List.find?_cons_of_pos (by simp [own]),Option.map_map]
      rfl
    · rw [if_neg own,List.find?_cons_of_neg (by simp [Ne.symm own])]

end Adapter

namespace Rolling
variable {State Key Item : Type} (backend : Rolling State Key Item)

/-- What the checks of a job ask of the state of its session. -/
structure Fits (state : State) (job : InferenceJob) : Prop where
  identity : backend.backendSessionId state = job.backendSessionId
  room : sampleCount (backend.pcm state) + job.sampleCount ≤ backend.maxSegmentSamples
  whole : (backend.audio (backend.extend job.pcm state) job).length % 2 = 0

/-- A batch of jobs of distinct sessions, each with an id, that passes the checks. -/
structure Valid (adapter : Adapter State) (jobs : List InferenceJob) : Prop where
  ready : adapter.ready = true ∧ adapter.loaded = true
  some : jobs ≠ []
  count : jobs.length ≤ backend.maxBatchItems
  distinct : (jobs.map (·.sessionId)).Nodup
  identified : ∀ job ∈ jobs, job.jobId ≠ []
  fits : ∀ job ∈ jobs, ∃ state, adapter.sessions job.sessionId = .some state ∧ backend.Fits state job

/-- The engine decodes every waveform by itself. -/
def Independent (answer : Key → Waveform → Item) : Prop :=
  ∀ key waveforms, backend.decode key waveforms = .ok (waveforms.map (answer key))

/-- What becomes of a session, and its result. -/
def outcome (answer : Key → Waveform → Item) (state : State) (job : InferenceJob) : State × InferenceResult :=
  let extended := backend.extend job.pcm state
  backend.settle extended job (answer (backend.key extended job) (waveformOf (backend.audio extended job)))

/-- The adapter behind a job. -/
def advance (answer : Key → Waveform → Item) (adapter : Adapter State) (job : InferenceJob) : Adapter State :=
  adapter.modify job.sessionId fun state => (backend.outcome answer state job).1

variable {backend} {adapter : Adapter State} {answer : Key → Waveform → Item}

theorem check_ok {jobs : List InferenceJob} {seen : List SessionId} (distinct : (jobs.map (·.sessionId)).Nodup)
    (unseen : ∀ job ∈ jobs, job.sessionId ∉ seen)
    (fits : ∀ job ∈ jobs, ∃ state, adapter.sessions job.sessionId = some state ∧ backend.Fits state job) :
    backend.check adapter jobs seen = .ok () := by
  induction jobs generalizing seen with
  | nil => rfl
  | cons job rest ih =>
    obtain ⟨fresh,later⟩ := List.nodup_cons.mp distinct
    obtain ⟨⟨state,found,fit⟩,fits⟩ := List.forall_mem_cons.mp fits
    obtain ⟨first,unseen⟩ := List.forall_mem_cons.mp unseen
    have room := fit.room
    simp only [check,found]
    rw [if_neg (not_not.mpr fit.identity),if_neg first,if_neg (by omega)]
    refine ih later (fun other inside => ?_) fits
    rw [List.mem_cons,not_or]
    exact ⟨fun same => fresh (List.mem_map.mpr ⟨other,inside,same⟩),unseen other inside⟩

theorem settleAll_ok {jobs : List InferenceJob} {item : InferenceJob → Item} {stateOf : InferenceJob → State}
    (distinct : (jobs.map (·.sessionId)).Nodup) (found : ∀ job ∈ jobs, adapter.sessions job.sessionId = some (stateOf job)) :
    backend.settleAll adapter (jobs.map fun job => (job,some (item job))) =
      (.ok (jobs.map fun job => (backend.settle (stateOf job) job (item job)).2),
        jobs.foldl (fun adapter job => adapter.modify job.sessionId fun state => (backend.settle state job (item job)).1)
          adapter) := by
  induction jobs generalizing adapter with
  | nil => rfl
  | cons job rest ih =>
    obtain ⟨fresh,later⟩ := List.nodup_cons.mp distinct
    obtain ⟨here,others⟩ := List.forall_mem_cons.mp found
    have rested : backend.settleAll (adapter.modify job.sessionId fun state => (backend.settle state job (item job)).1)
        (rest.map fun job => (job,some (item job))) = _ := ih later fun other inside => by
      rw [Adapter.modify_other fun same => fresh (List.mem_map.mpr ⟨other,inside,same⟩)]
      exact others other inside
    rw [List.map_cons,settleAll]
    simp only [here,rested]
    rfl

theorem stableBatchId_ok {jobs : List InferenceJob} (some : jobs ≠ []) (identified : ∀ job ∈ jobs, job.jobId ≠ []) :
    stableBatchId jobs = .ok () := by
  have none : jobs.any (·.jobId = []) = false := by simpa using identified
  rw [stableBatchId,if_neg some,none]
  rfl

variable [DecidableEq Key]

omit [DecidableEq Key] in
theorem find_own {jobs : List InferenceJob} (distinct : (jobs.map (·.sessionId)).Nodup) {job : InferenceJob}
    (inside : job ∈ jobs) : jobs.find? (·.sessionId = job.sessionId) = some job := by
  induction jobs with
  | nil => cases inside
  | cons first rest ih =>
    obtain ⟨fresh,later⟩ := List.nodup_cons.mp distinct
    rcases List.mem_cons.mp inside with rfl | behind
    · exact List.find?_cons_of_pos (by simp)
    · have apart : first.sessionId ≠ job.sessionId := fun same => fresh (List.mem_map.mpr ⟨job,behind,same.symm⟩)
      rw [List.find?_cons_of_neg (by simpa using apart)]
      exact ih later behind

/-- A valid batch gives every job its own outcome. -/
theorem submit_ok {jobs : List InferenceJob} {stateOf : InferenceJob → State} (independent : backend.Independent answer)
    (valid : backend.Valid adapter jobs) (found : ∀ job ∈ jobs, adapter.sessions job.sessionId = some (stateOf job)) :
    backend.submit jobs adapter = (.ok (jobs.map fun job => (backend.outcome answer (stateOf job) job).2),
      jobs.foldl (backend.advance answer) adapter) := by
  obtain ⟨⟨ready,loaded⟩,some,count,distinct,identified,fits⟩ := valid
  have checked : backend.check adapter jobs [] = .ok () := check_ok distinct (fun _ _ => List.not_mem_nil) fits
  -- The states with the audio of the jobs, and what the engine makes of them.
  let extended := fun job : InferenceJob => backend.extend job.pcm (stateOf job)
  let item := fun job => answer (backend.key (extended job) job) (waveformOf (backend.audio (extended job) job))
  have sessions : ∀ job ∈ jobs, (backend.extendAll adapter jobs).sessions job.sessionId = .some (extended job) := by
    intro job inside
    have own := find_own distinct inside
    rw [extendAll,Adapter.foldl_modify distinct]
    simp only [found job inside,own]
    rfl
  have listed : entries (backend.extendAll adapter jobs) jobs = jobs.map fun job => (extended job,job) := by
    rw [entries,← List.filterMap_eq_map]
    exact List.filterMap_congr fun job inside => by rw [sessions job inside]; rfl
  have decoded : backend.decodeAll (entries (backend.extendAll adapter jobs) jobs) = .ok (jobs.map fun job => .some (item job)) := by
    rw [listed,decodeAll,runGroups_group (fun entry => waveformOf (backend.audio entry.1 entry.2)) _ independent]
    · rw [List.map_map]
      rfl
    · intro index entry here
      obtain ⟨job,inside,rfl⟩ := List.mem_map.mp (List.mem_of_getElem? here)
      obtain ⟨state,own,fit⟩ := fits job inside
      cases own.symm.trans (found job inside)
      rw [waveform,here]
      exact if_pos fit.whole
  have settled : backend.settleAll (backend.extendAll adapter jobs) (jobs.map fun job => (job,.some (item job))) = _ :=
    settleAll_ok distinct sessions
  rw [submit,if_neg (by simp [ready,loaded]),if_neg (by simp [some,Nat.not_lt.mpr count]),checked]
  simp only [stableBatchId_ok some identified,decoded]
  have zipped : jobs.zip (jobs.map fun job => Option.some (item job)) = jobs.map fun job => (job,.some (item job)) := by
    simpa using List.zip_map' (f := id) (g := fun job => Option.some (item job)) (l := jobs)
  rw [zipped,settled]
  refine Prod.ext rfl ?_
  show jobs.foldl _ (backend.extendAll adapter jobs) = jobs.foldl (backend.advance answer) adapter
  have advanced : jobs.foldl (backend.advance answer) adapter = _ := Adapter.foldl_modify distinct
  rw [Adapter.foldl_modify distinct,advanced,extendAll,Adapter.foldl_modify distinct]
  simp only [Adapter.mk.injEq,true_and]
  funext sessionId
  rw [Option.map_map]
  cases own : jobs.find? (·.sessionId = sessionId) with
  | none => rfl
  | some job =>
    have inside := List.mem_of_find?_eq_some own
    have same : job.sessionId = sessionId := by simpa using List.find?_some own
    rw [← same,found job inside]
    rfl

/-- Jobs of distinct sessions that are submitted one at a time do not meet. -/
theorem submitEach_ok {order : List InferenceJob} {stateOf : InferenceJob → State}
    (independent : backend.Independent answer) (ready : adapter.ready = true ∧ adapter.loaded = true)
    (limit : 1 ≤ backend.maxBatchItems) (distinct : (order.map (·.sessionId)).Nodup)
    (identified : ∀ job ∈ order, job.jobId ≠ [])
    (found : ∀ job ∈ order, adapter.sessions job.sessionId = some (stateOf job))
    (fits : ∀ job ∈ order, backend.Fits (stateOf job) job) :
    submitEach backend.submit order adapter =
      (.ok (order.map fun job => (backend.outcome answer (stateOf job) job).2),order.foldl (backend.advance answer) adapter) := by
  induction order generalizing adapter with
  | nil => rfl
  | cons job rest ih =>
    obtain ⟨fresh,later⟩ := List.nodup_cons.mp distinct
    obtain ⟨here,others⟩ := List.forall_mem_cons.mp found
    obtain ⟨fit,rests⟩ := List.forall_mem_cons.mp fits
    obtain ⟨id,ids⟩ := List.forall_mem_cons.mp identified
    have alone : backend.Valid adapter [job] :=
      ⟨ready,List.cons_ne_nil _ _,limit,List.nodup_singleton _,List.forall_mem_cons.mpr ⟨id,nofun⟩,
        List.forall_mem_cons.mpr ⟨⟨_,here,fit⟩,nofun⟩⟩
    have first := submit_ok independent alone (List.forall_mem_cons.mpr ⟨here,nofun⟩)
    have rested : submitEach backend.submit rest (backend.advance answer adapter job) = _ :=
      ih ready later ids (fun other inside => by
        rw [advance,Adapter.modify_other fun same => fresh (List.mem_map.mpr ⟨other,inside,same⟩)]
        exact others other inside) rests
    rw [submitEach,first]
    simp only [List.foldl_cons,List.foldl_nil,rested]
    rfl

omit [DecidableEq Key] in
theorem advance_comm (adapter : Adapter State) (first second : InferenceJob) (apart : first.sessionId ≠ second.sessionId) :
    backend.advance answer (backend.advance answer adapter first) second =
      backend.advance answer (backend.advance answer adapter second) first := by
  simp only [advance,Adapter.modify,Adapter.mk.injEq,true_and]
  funext sessionId
  by_cases one : sessionId = first.sessionId
  · have other : sessionId ≠ second.sessionId := fun same => apart (one.symm.trans same)
    simp [one,apart]
  · simp [one]

theorem submit_transparent {jobs : List InferenceJob} (independent : backend.Independent answer)
    (valid : backend.Valid adapter jobs) : Transparent backend.submit jobs adapter := by
  obtain ⟨ready,some,count,distinct,identified,fits⟩ := valid
  obtain ⟨job,inside⟩ := List.exists_mem_of_ne_nil jobs some
  obtain ⟨fallback,_⟩ := fits job inside
  have found : ∀ job ∈ jobs, adapter.sessions job.sessionId = .some ((adapter.sessions job.sessionId).getD fallback) := by
    intro job inside
    obtain ⟨state,here,_⟩ := fits job inside
    rw [here]
    rfl
  have fit : ∀ job ∈ jobs, backend.Fits ((adapter.sessions job.sessionId).getD fallback) job := by
    intro job inside
    obtain ⟨state,here,fit⟩ := fits job inside
    rw [here]
    exact fit
  refine ⟨_,_,submit_ok independent ⟨ready,some,count,distinct,identified,fits⟩ found,fun order perm => ?_⟩
  have limit : 1 ≤ backend.maxBatchItems := Nat.le_trans (List.length_pos_iff.mpr some) count
  rw [submitEach_ok independent ready limit ((perm.map _).nodup_iff.mpr distinct)
    (fun job inside => identified job (perm.subset inside)) (fun job inside => found job (perm.subset inside))
    fun job inside => fit job (perm.subset inside)]
  refine Prod.ext rfl (perm.foldl_eq' (fun first before second behind adapter => ?_) adapter)
  by_cases apart : first.sessionId = second.sessionId
  · rw [List.inj_on_of_nodup_map distinct (perm.subset before) (perm.subset behind) apart]
  · exact advance_comm adapter first second apart

end Rolling

theorem fasterWhisper_independent {settings : FasterWhisperSettings} {engine : FasterWhisperEngine}
    {decode : Waveform → Option Text → Nat → DecodedText}
    (alone : ∀ waveforms language beam, engine waveforms language beam = .ok (waveforms.map (decode · language beam))) :
    (fasterWhisper settings engine).Independent fun key waveform => decode waveform key.1 key.2 := by
  intro key waveforms
  simp only [fasterWhisper,alone,List.length_map,ne_eq,not_true,if_false]

theorem senseVoice_independent {settings : SenseVoiceSettings} {engine : SenseVoiceEngine}
    {decode : Waveform → Option Text → SenseVoiceDecoded}
    (alone : ∀ waveforms language, engine waveforms language = .ok (waveforms.map (decode · language))) :
    (senseVoice settings engine).Independent fun language waveform => decode waveform language := by
  intro language waveforms
  simp only [senseVoice,alone,List.length_map,ne_eq,not_true,if_false]

/-- With engines that decode every waveform by itself, both adapters answer a valid batch as they
    answer its jobs one at a time, in any order. -/
theorem batches_transparent {whisper : FasterWhisperSettings} {whisperEngine : FasterWhisperEngine}
    {whisperDecode : Waveform → Option Text → Nat → DecodedText} {whisperJobs : List InferenceJob}
    {whisperAdapter : Adapter FasterWhisperState} {sense : SenseVoiceSettings} {senseEngine : SenseVoiceEngine}
    {senseDecode : Waveform → Option Text → SenseVoiceDecoded} {senseJobs : List InferenceJob}
    {senseAdapter : Adapter SenseVoiceState}
    (whisperAlone : ∀ waveforms language beam,
      whisperEngine waveforms language beam = .ok (waveforms.map (whisperDecode · language beam)))
    (senseAlone : ∀ waveforms language, senseEngine waveforms language = .ok (waveforms.map (senseDecode · language)))
    (whisperValid : (fasterWhisper whisper whisperEngine).Valid whisperAdapter whisperJobs)
    (senseValid : (senseVoice sense senseEngine).Valid senseAdapter senseJobs) :
    Transparent (FasterWhisperAdapter.submit whisper whisperEngine) whisperJobs whisperAdapter ∧
      Transparent (SenseVoiceAdapter.submit sense senseEngine) senseJobs senseAdapter :=
  ⟨Rolling.submit_transparent (fasterWhisper_independent whisperAlone) whisperValid,
    Rolling.submit_transparent (senseVoice_independent senseAlone) senseValid⟩

/-- A job on one sample of the session with this name. -/
def sampleJob (session : Char) (final : Bool) : InferenceJob where
  jobId := [session]
  sessionId := [session]
  generation := 0
  jobSequence := 1
  workerId := ['w']
  backendSessionId := ['f',session]
  startSample := 0
  endSample := 1
  pcm := [1,0]
  deadline := 1
  batchKey := ⟨['w'],[],[],[],false,[],[],[],0⟩
  final := final

/-- Two sessions, of which the second has a language and audio. -/
def whisperSessions : Adapter FasterWhisperState where
  ready := true
  loaded := true
  sessions sessionId :=
    if sessionId = ['a'] then some ⟨['f','a'],none,[],[],none⟩
    else if sessionId = ['b'] then some ⟨['f','b'],some ['d','e'],[2,0],['x'],none⟩ else none

def senseSessions : Adapter SenseVoiceState where
  ready := true
  loaded := true
  sessions sessionId :=
    if sessionId = ['a'] then some ⟨['f','a'],none,[],none⟩
    else if sessionId = ['b'] then some ⟨['f','b'],some ['k','o'],[2,0],none⟩ else none

theorem batches_transparent_pair :
    Transparent (FasterWhisperAdapter.submit ⟨2,1,5,8⟩ fun waveforms language beam => .ok (waveforms.map fun waveform =>
      ⟨List.replicate (waveform.length + beam) 'l',language.getD ['e','n']⟩)) [sampleJob 'a' true,sampleJob 'b' false]
      whisperSessions ∧
    Transparent (SenseVoiceAdapter.submit ⟨2,8⟩ fun waveforms _ => .ok (waveforms.map fun waveform =>
      ⟨List.replicate waveform.length 'l',[("language".toList,['e','n'])]⟩)) [sampleJob 'a' true,sampleJob 'b' false]
      senseSessions := by
  refine batches_transparent (fun _ _ _ => rfl) (fun _ _ => rfl) ⟨⟨rfl,rfl⟩,by simp,by decide,by decide,by decide,?_⟩
    ⟨⟨rfl,rfl⟩,by simp,by decide,by decide,by decide,?_⟩
  · exact List.forall_mem_cons.mpr ⟨⟨_,rfl,⟨rfl,by decide,rfl⟩⟩,List.forall_mem_cons.mpr ⟨⟨_,rfl,⟨rfl,by decide,rfl⟩⟩,nofun⟩⟩
  · exact List.forall_mem_cons.mpr ⟨⟨_,rfl,⟨rfl,by decide,rfl⟩⟩,List.forall_mem_cons.mpr ⟨⟨_,rfl,⟨rfl,by decide,rfl⟩⟩,nofun⟩⟩

end SpeechGateway.Microbatch
