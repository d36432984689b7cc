import SpeechGateway.Isolation

/-!
The final text of a segment. A final job leaves its text behind for `finish_segment`, which decodes
the audio itself only when there is none. With an engine that decodes every waveform by itself, the
final text of every segment is that of its audio up to the last final job, or of all its audio when
no job was final (`final_text`); what came after the last final job is forgotten with the segment.
-/
namespace SpeechGateway.Microbatch
open SpeechGateway.Backends SpeechGateway.Scheduling

/-- The audio of jobs, in order. -/
def heardIn (jobs : List InferenceJob) : Pcm := jobs.flatMap (·.pcm)

/-- The jobs up to the last final one, or all of them when none is final. -/
def upToFinal (jobs : List InferenceJob) : List InferenceJob :=
  if jobs.any (·.final) then (jobs.reverse.dropWhile (!·.final)).reverse else jobs

theorem upToFinal_final {before later : List InferenceJob} {job : InferenceJob} (final : job.final = true)
    (none : ∀ other ∈ later, other.final = false) : upToFinal (before ++ job :: later) = before ++ [job] := by
  have any : (before ++ job :: later).any (·.final) = true := by simp [final]
  have dropped : (later.reverse ++ job :: before.reverse).dropWhile (!·.final) = job :: before.reverse := by
    rw [List.dropWhile_append_of_pos fun other inside => by simp [none other (List.mem_reverse.mp inside)]]
    simp [final]
  rw [upToFinal,if_pos any,List.reverse_append,List.reverse_cons,List.append_assoc,List.singleton_append,dropped]
  simp

/-- Whether a final job is among them, and then which is the last one. -/
theorem last_final (jobs : List InferenceJob) : (∀ job ∈ jobs, job.final = false) ∨
    ∃ before job later, jobs = before ++ job :: later ∧ job.final = true ∧ ∀ other ∈ later, other.final = false := by
  induction jobs with
  | nil => exact .inl nofun
  | cons first rest ih =>
    rcases ih with none | ⟨before,job,later,rfl,final,none⟩
    · by_cases final : first.final = true
      · exact .inr ⟨[],first,rest,rfl,final,none⟩
      · exact .inl (List.forall_mem_cons.mpr ⟨by simpa using final,none⟩)
    · exact .inr ⟨first :: before,job,later,rfl,final,none⟩

namespace RollingSessions
variable {State Key Item Final : Type} (backend : RollingSessions State Key Item Final)

/-- An engine that decodes every waveform by itself, and what an adapter keeps of its answers for the
    end of a segment. -/
structure Caching (answer : Key → Waveform → Item) (finalKey : State → Key) : Prop where
  batches : backend.Independent answer
  finals : ∀ state waveform, backend.decodeFinal state waveform = .ok (answer (finalKey state) waveform)
  started : ∀ id language, backend.cachedFinal (backend.fresh id language) = none
  cleared : ∀ state, backend.cachedFinal (backend.clear state) = none
  extended : ∀ pcm state, backend.cachedFinal (backend.extend pcm state) = backend.cachedFinal state
  cached : ∀ state job item, job.final = true → backend.cachedFinal (backend.settle state job item).1 = some (backend.finalOf item)
  partly : ∀ state job item, job.final = false →
    backend.cachedFinal (backend.settle state job item).1 = backend.cachedFinal state
  whole : ∀ state job, job.final = true → backend.audio state job = backend.pcm state
  keyed : ∀ state job, job.final = true → backend.key (backend.extend job.pcm state) job = finalKey state

/-- A session behind some jobs. -/
def behind (answer : Key → Waveform → Item) (start : State) (jobs : List InferenceJob) : State :=
  jobs.foldl (fun state job => (backend.outcome answer state job).1) start

/-- The final text of the jobs of a segment. -/
def spoken (answer : Key → Waveform → Item) (finalKey : State → Key) (start : State) (jobs : List InferenceJob) : Final :=
  let heard := upToFinal jobs
  if heard.any (·.final) then
    backend.finalOf (answer (finalKey (backend.behind answer start heard.dropLast)) (waveformOf (heardIn heard)))
  else if heardIn heard = [] then backend.silent
  else backend.finalOf (answer (finalKey (backend.behind answer start heard)) (waveformOf (heardIn heard)))

variable {backend} {answer : Key → Waveform → Item} {finalKey : State → Key}

theorem behind_pcm (sound : backend.Sound) (start : State) (jobs : List InferenceJob) :
    backend.pcm (backend.behind answer start jobs) = backend.pcm start ++ heardIn jobs := by
  induction jobs generalizing start with
  | nil => simp [behind,heardIn]
  | cons job rest ih =>
    have outcome : backend.pcm (backend.outcome answer start job).1 = backend.pcm start ++ job.pcm := by
      rw [Rolling.outcome,sound.settled,sound.extended]
    have rests := ih (backend.outcome answer start job).1
    rw [outcome,List.append_assoc] at rests
    exact rests

theorem behind_append (start : State) (jobs later : List InferenceJob) :
    backend.behind answer start (jobs ++ later) = backend.behind answer (backend.behind answer start jobs) later :=
  List.foldl_append ..

/-- Jobs that are not final leave what is cached. -/
theorem behind_partly (caching : backend.Caching answer finalKey) {jobs : List InferenceJob}
    (none : ∀ job ∈ jobs, job.final = false) (start : State) :
    backend.cachedFinal (backend.behind answer start jobs) = backend.cachedFinal start := by
  induction jobs generalizing start with
  | nil => rfl
  | cons job rest ih =>
    obtain ⟨first,later⟩ := List.forall_mem_cons.mp none
    refine (ih later _).trans ?_
    show backend.cachedFinal (backend.outcome answer start job).1 = _
    rw [Rolling.outcome,caching.partly _ _ _ first,caching.extended]

/-- The audio of whole jobs is whole samples. -/
theorem heardIn_whole {jobs : List InferenceJob} (whole : ∀ job ∈ jobs, WholeJob job) : (heardIn jobs).length % 2 = 0 := by
  unfold heardIn
  induction jobs with
  | nil => rfl
  | cons job rest ih =>
    obtain ⟨first,others⟩ := List.forall_mem_cons.mp whole
    have rests := ih others
    unfold WholeJob at first
    rw [List.flatMap_cons,List.length_append]
    omega

/-- What a session whose segment began without audio says at its end. -/
theorem consumeFinal_spoken (sound : backend.Sound) (caching : backend.Caching answer finalKey) {start : State}
    (silent : backend.pcm start = []) (uncached : backend.cachedFinal start = none) {jobs : List InferenceJob}
    (whole : ∀ job ∈ jobs, WholeJob job) {usable : Bool} {final : Final} {next : State}
    (consumed : backend.consumeFinal usable (backend.behind answer start jobs) = .ok (final,next)) :
    final = backend.spoken answer finalKey start jobs := by
  have audio (heard : List InferenceJob) : backend.pcm (backend.behind answer start heard) = heardIn heard := by
    rw [behind_pcm sound,silent,List.nil_append]
  rcases last_final jobs with none | ⟨before,job,later,rfl,ends,none⟩
  · have any : jobs.any (·.final) = false := by simpa using none
    have nothing := (behind_partly caching none start).trans uncached
    unfold consumeFinal at consumed
    unfold spoken
    rw [upToFinal,any]
    simp only [nothing,audio] at consumed
    simp only [any,Bool.false_eq_true,if_false]
    by_cases silence : heardIn jobs = []
    · rw [if_pos silence] at consumed ⊢
      cases consumed
      rfl
    · rw [if_neg silence] at consumed ⊢
      have reads : pcmToFloat32 (heardIn jobs) = .ok (waveformOf (heardIn jobs)) := if_pos (heardIn_whole whole)
      simp only [reads,caching.finals] at consumed
      split at consumed
      · cases consumed
      · cases consumed
        rfl
  · -- The last final job has left its text, and the jobs behind it keep that.
    have cached : backend.cachedFinal (backend.behind answer start (before ++ job :: later)) =
        some (backend.finalOf (answer (finalKey (backend.behind answer start before))
          (waveformOf (heardIn (before ++ [job]))))) := by
      rw [behind_append]
      refine (behind_partly caching none _).trans ?_
      show backend.cachedFinal (backend.outcome answer _ job).1 = _
      rw [Rolling.outcome,caching.cached _ _ _ ends,caching.keyed _ _ ends,caching.whole _ _ ends,sound.extended,audio]
      simp [heardIn]
    have last : (before ++ [job]).any (·.final) = true := by simp [ends]
    unfold consumeFinal at consumed
    unfold spoken
    rw [upToFinal_final ends none]
    simp only [cached] at consumed
    cases consumed
    simp only [last,if_true,List.dropLast_concat]

/-! ## Every segment of a session -/

variable (backend) in
/-- A session has come from the start of its segment by the jobs of the segment. -/
def Ledger (answer : Key → Waveform → Item) (sessionId : SessionId) (adapter : Adapter State)
    (segment : Option (State × List InferenceJob)) : Prop :=
  ∀ state, adapter.sessions sessionId = some state → ∃ start jobs, segment = some (start,jobs) ∧
    state = backend.behind answer start jobs ∧ backend.pcm start = [] ∧ backend.cachedFinal start = none ∧
    ∀ job ∈ jobs, WholeJob job

section
variable {sessionId : SessionId} {adapter next : Adapter State} {segment : Option (State × List InferenceJob)}

/-- Where a session is left as it was, its segment goes on. -/
theorem Ledger.still (ledger : backend.Ledger answer sessionId adapter segment)
    (same : next.sessions sessionId = adapter.sessions sessionId) : backend.Ledger answer sessionId next segment :=
  fun state found => ledger state (same.symm.trans found)

/-- A segment begins. -/
theorem ledger_begins (begins : ∀ state, next.sessions sessionId = some state →
    backend.pcm state = [] ∧ backend.cachedFinal state = none) :
    backend.Ledger answer sessionId next ((next.sessions sessionId).map fun state => (state,[])) := by
  intro state found
  obtain ⟨silent,uncached⟩ := begins state found
  exact ⟨state,[],by rw [found]; rfl,rfl,silent,uncached,nofun⟩

/-- A final text leaves a state for the next segment. -/
theorem consumeFinal_clears {usable : Bool} {state after : State} {final : Final}
    (consumed : backend.consumeFinal usable state = .ok (final,after)) : ∃ before, after = backend.clear before := by
  unfold consumeFinal at consumed
  split at consumed
  · cases consumed
    exact ⟨_,rfl⟩
  split at consumed
  · cases consumed
    exact ⟨_,rfl⟩
  split at consumed
  · cases consumed
  split at consumed
  · cases consumed
  split at consumed
  · cases consumed
  · cases consumed
    exact ⟨_,rfl⟩

end

/-- The segment of a session behind a request, as the state it began with and its jobs since then.
    Accepted jobs of the session join it; whatever else was accepted for the session begins a new one. -/
def follow (sessionId : SessionId) (request : Request) (reply : Except AdapterError Answer) (next : Adapter State)
    (segment : Option (State × List InferenceJob)) : Option (State × List InferenceJob) :=
  match reply with
  | .error _ => segment
  | .ok _ =>
    match request.own sessionId with
    | none | some .drain => segment
    | some (.submit mine) => segment.map fun (start,jobs) => (start,jobs ++ mine)
    | some _ => (next.sessions sessionId).map fun state => (state,[])

section
variable [DecidableEq Key]

variable (backend) in
/-- The segment of a session behind requests, where `segment` was under way. -/
def segmentOf (sessionId : SessionId) : List Request → Adapter State → Option (State × List InferenceJob) →
    Option (State × List InferenceJob)
  | [], _, segment => segment
  | request :: rest, adapter, segment =>
    let (reply,next) := backend.perform request adapter
    segmentOf sessionId rest next (follow sessionId request reply next segment)

variable {sessionId : SessionId} {adapter next : Adapter State} {segment : Option (State × List InferenceJob)}

/-- The own job of a session in an accepted batch, and the state that it leaves. -/
theorem submit_outcome (sound : backend.Sound) (independent : backend.Independent answer)
    (held : backend.AllHeld adapter.sessions) {jobs mine : List InferenceJob} (whole : ∀ job ∈ jobs, WholeJob job)
    (identified : ∀ job ∈ jobs, job.jobId ≠ []) {told : Answer}
    (performed : backend.perform (.submit jobs) adapter = (.ok told,next))
    (part : (Request.submit jobs).own sessionId = some (.submit mine)) {state : State}
    (found : next.sessions sessionId = some state) :
    ∃ job before, mine = [job] ∧ WholeJob job ∧ adapter.sessions sessionId = some before ∧
      state = (backend.outcome answer before job).1 := by
  have alike : Alike sessionId adapter adapter := ⟨rfl,rfl,rfl⟩
  obtain ⟨last,alone,after⟩ := (submit_isolated sound independent held alike whole identified).own told next _ performed part
  have distinct : (jobs.map (·.sessionId)).Nodup := by
    rcases submit_cases sound held whole identified with ⟨exc,refused⟩ | valid
    · simp [perform,refused,Except.map] at performed
    · exact valid.distinct
  have mineIs : jobs.filter (·.sessionId = sessionId) = _ := filter_own distinct
  cases own : jobs.find? (·.sessionId = sessionId) with
  | none => simp [Request.own,mineIs,own] at part
  | some job =>
    obtain rfl : [job] = mine := by simpa [Request.own,mineIs,own] using part
    have inside := List.mem_of_find?_eq_some own
    have same : job.sessionId = sessionId := by simpa using List.find?_some own
    rcases submit_cases sound held (List.forall_mem_singleton.mpr (whole job inside))
      (List.forall_mem_singleton.mpr (identified job inside)) with ⟨exc,refused⟩ | valid
    · simp [perform,refused,Except.map] at alone
    obtain ⟨before,here,_⟩ := valid.fits job (List.mem_singleton_self job)
    have there : ∀ other ∈ [job], adapter.sessions other.sessionId = some before := List.forall_mem_singleton.mpr here
    have performs := Rolling.submit_ok independent valid there
    simp only [perform,performs] at alone
    obtain ⟨_,rfl⟩ := Prod.mk.inj alone
    rw [← after.session] at found
    simp only [List.foldl_cons,List.foldl_nil,Rolling.advance,Adapter.modify,same,if_true] at found
    rw [same] at here
    rw [here] at found
    cases found
    exact ⟨job,before,rfl,whole job inside,here,rfl⟩

/-- A request keeps the ledger of every session. -/
theorem Ledger.perform (sound : backend.Sound) (caching : backend.Caching answer finalKey)
    (held : backend.AllHeld adapter.sessions) (ledger : backend.Ledger answer sessionId adapter segment) {request : Request}
    (whole : request.Whole) (identified : request.Identified) {reply : Except AdapterError Answer}
    (performed : backend.perform request adapter = (reply,next)) :
    backend.Ledger answer sessionId next (follow sessionId request reply next segment) := by
  have alike : Alike sessionId adapter adapter := ⟨rfl,rfl,rfl⟩
  have isolated := perform_isolated sound caching.batches held alike whole identified
  unfold follow
  cases reply with
  | error exc => exact ledger.still (isolated.refused exc next performed).session.symm
  | ok told =>
    dsimp only
    cases mine : request.own sessionId with
    | none => exact ledger.still (isolated.others told next performed mine).session.symm
    | some part =>
      cases request with
      | openSession named language task timestamps =>
        simp only [Request.own] at mine
        split_ifs at mine with same
        cases mine
        refine ledger_begins fun state found => ?_
        simp only [RollingSessions.perform,openSession] at performed
        split at performed
        · cases performed
        · cases performed
          subst same
          simp only [if_true] at found
          cases found
          exact ⟨sound.started _ _,caching.started _ _⟩
      | submit jobs =>
        simp only [Request.own] at mine
        split_ifs at mine with none
        cases mine
        intro state found
        have part : (Request.submit jobs).own sessionId = some (.submit (jobs.filter (·.sessionId = sessionId))) := if_neg none
        obtain ⟨job,before,single,own,here,rfl⟩ :=
          submit_outcome sound caching.batches held whole identified performed part found
        obtain ⟨start,jobs',rfl,rfl,silent,uncached,wholes⟩ := ledger before here
        refine ⟨start,jobs' ++ [job],by rw [single]; rfl,?_,silent,uncached,?_⟩
        · rw [behind_append]
          rfl
        · exact List.forall_mem_append.mpr ⟨wholes,List.forall_mem_singleton.mpr own⟩
      | finish named last =>
        simp only [Request.own] at mine
        split_ifs at mine with same
        cases mine
        subst same
        refine ledger_begins fun state found => ?_
        cases here : adapter.sessions named with
        | none => simp [RollingSessions.perform,finish,here,Except.map] at performed
        | some before =>
          rw [backend.perform_finish here] at performed
          cases consumed : backend.consumeFinal (adapter.ready && adapter.loaded) before with
          | error exc => simp [consumed,conclusion] at performed
          | ok concluded =>
            obtain ⟨final,after⟩ := concluded
            simp only [consumed,conclusion] at performed
            cases performed
            cases last with
            | true => simp at found
            | false =>
              obtain ⟨before,rfl⟩ := consumeFinal_clears consumed
              simp only [if_true,Bool.false_eq_true,if_false] at found
              cases found
              exact ⟨sound.cleared _,caching.cleared _⟩
      | abort named =>
        simp only [Request.own] at mine
        split_ifs at mine with same
        cases mine
        cases performed
        subst same
        refine ledger_begins fun state found => ?_
        simp [Adapter.abortSession,forget] at found
      | drain =>
        cases mine
        cases performed
        exact ledger
      | close =>
        cases mine
        cases performed
        exact ledger_begins fun _ none => by cases none

/-- Requests one after another keep the ledger of every session. -/
theorem segmentOf_ledger (sound : backend.Sound) (caching : backend.Caching answer finalKey) {requests : List Request}
    (held : backend.AllHeld adapter.sessions) (ledger : backend.Ledger answer sessionId adapter segment)
    (whole : ∀ request ∈ requests, request.Whole) (identified : ∀ request ∈ requests, request.Identified) :
    backend.AllHeld (backend.performEach requests adapter).2.sessions ∧
      backend.Ledger answer sessionId (backend.performEach requests adapter).2
        (backend.segmentOf sessionId requests adapter segment) := by
  induction requests generalizing adapter segment with
  | nil => exact ⟨held,ledger⟩
  | cons request rest ih =>
    obtain ⟨first,later⟩ := List.forall_mem_cons.mp whole
    obtain ⟨named,ids⟩ := List.forall_mem_cons.mp identified
    exact ih (perform_kept sound held first) (ledger.perform sound caching held first named rfl) later ids

/-- However a session came to the end of a segment, its final text is that of the audio of the segment
    up to the last final job. -/
def TellsFinal (backend : RollingSessions State Key Item Final) (answer : Key → Waveform → Item) (finalKey : State → Key) :
    Prop :=
  ∀ (requests : List Request) (sessionId : SessionId) (last ready loaded : Bool) (told : Answer) (after : Adapter State),
    (∀ request ∈ requests, request.Whole) → (∀ request ∈ requests, request.Identified) →
    backend.perform (.finish sessionId last) (backend.performEach requests ⟨ready,loaded,fun _ => none⟩).2 = (.ok told,after) →
    ∃ start jobs state, backend.segmentOf sessionId requests ⟨ready,loaded,fun _ => none⟩ none = some (start,jobs) ∧
      backend.pcm start = [] ∧ backend.backendSessionId state = backend.backendId sessionId ∧
      told = .finished (backend.resultOf state (backend.spoken answer finalKey start jobs) last)

theorem Caching.tellsFinal (sound : backend.Sound) (caching : backend.Caching answer finalKey) :
    backend.TellsFinal answer finalKey := by
  intro requests sessionId last ready loaded told after whole identified performed
  have opens : backend.Ledger answer sessionId ⟨ready,loaded,fun _ => none⟩ none := fun _ none => by cases none
  obtain ⟨held,ledger⟩ := segmentOf_ledger sound caching (fun _ _ none => by cases none) opens whole identified
  generalize (backend.performEach requests ⟨ready,loaded,fun _ => none⟩).2 = adapter at performed held ledger
  cases found : adapter.sessions sessionId with
  | none => simp [RollingSessions.perform,finish,found,Except.map] at performed
  | some state =>
    obtain ⟨start,jobs,segment,behind,silent,uncached,wholes⟩ := ledger state found
    rw [backend.perform_finish found] at performed
    cases consumed : backend.consumeFinal (adapter.ready && adapter.loaded) state with
    | error exc => simp [consumed,conclusion] at performed
    | ok concluded =>
      obtain ⟨final,next⟩ := concluded
      have kept := consumeFinal_held sound (held sessionId state found) consumed
      simp only [consumed,conclusion,Prod.mk.injEq,Except.ok.injEq] at performed
      rw [behind] at consumed
      have spoken := consumeFinal_spoken sound caching silent uncached wholes consumed
      exact ⟨start,jobs,next,segment,silent,kept.identity,by rw [← performed.1,spoken]⟩

end

end RollingSessions

theorem fasterWhisper_caching {settings : FasterWhisperSettings} {engine : FasterWhisperEngine}
    {decode : Waveform → Option Text → Nat → DecodedText}
    (alone : ∀ waveforms language beam, engine waveforms language beam = .ok (waveforms.map (decode · language beam))) :
    (fasterWhisperSessions settings engine).Caching (fun key waveform => decode waveform key.1 key.2)
      fun state => (state.language,settings.finalBeamSize) where
  batches := fasterWhisper_independent alone
  finals state waveform := by simp only [fasterWhisperSessions,alone,List.map_cons,List.map_nil]
  started _ _ := rfl
  cleared _ := rfl
  extended _ _ := rfl
  cached state job item final := by simp [fasterWhisperSessions,fasterWhisper,final]
  partly state job item none := by simp [fasterWhisperSessions,fasterWhisper,none]
  whole state job final := by simp [fasterWhisperSessions,fasterWhisper,final]
  keyed state job final := by simp [fasterWhisperSessions,fasterWhisper,final]

theorem senseVoice_caching {settings : SenseVoiceSettings} {engine : SenseVoiceEngine}
    {decode : Waveform → Option Text → SenseVoiceDecoded}
    (alone : ∀ waveforms language, engine waveforms language = .ok (waveforms.map (decode · language))) :
    (senseVoiceSessions settings engine).Caching (fun language waveform => decode waveform language)
      fun state => state.language where
  batches := senseVoice_independent alone
  finals state waveform := by simp only [senseVoiceSessions,alone,List.map_cons,List.map_nil]
  started _ _ := rfl
  cleared _ := rfl
  extended _ _ := rfl
  cached state job item final := by
    simp only [senseVoiceSessions,senseVoice,final,if_true]
    rfl
  partly state job item none := by simp only [senseVoiceSessions,senseVoice,none,Bool.false_eq_true,if_false]
  whole _ _ _ := rfl
  keyed _ _ _ := rfl

/-- With engines that decode every waveform by itself, and jobs that have ids, the final text of every
    segment of either adapter is what the engine makes of the segment's audio up to its last final job,
    in the language that the session had by then, or of all its audio when no job was final: whatever
    was asked of the adapter before, for this session and for others. -/
theorem final_text {whisper : FasterWhisperSettings} {whisperEngine : FasterWhisperEngine}
    {whisperDecode : Waveform → Option Text → Nat → DecodedText} {sense : SenseVoiceSettings}
    {senseEngine : SenseVoiceEngine} {senseDecode : Waveform → Option Text → SenseVoiceDecoded}
    (whisperAlone : ∀ waveforms language beam,
      whisperEngine waveforms language beam = .ok (waveforms.map (whisperDecode · language beam)))
    (senseAlone : ∀ waveforms language, senseEngine waveforms language = .ok (waveforms.map (senseDecode · language))) :
    (fasterWhisperSessions whisper whisperEngine).TellsFinal (fun key waveform => whisperDecode waveform key.1 key.2)
        (fun state => (state.language,whisper.finalBeamSize)) ∧
      (senseVoiceSessions sense senseEngine).TellsFinal (fun language waveform => senseDecode waveform language)
        fun state => state.language :=
  ⟨(fasterWhisper_caching whisperAlone).tellsFinal (fasterWhisper_sound whisper whisperEngine),
    (senseVoice_caching senseAlone).tellsFinal (senseVoice_sound sense senseEngine)⟩

/-- Engines that say how long a waveform is. -/
theorem final_text_lengths :
    (fasterWhisperSessions ⟨2,1,5,8⟩ fun waveforms language beam => .ok (waveforms.map fun waveform =>
      ⟨List.replicate (waveform.length + beam) 'l',language.getD ['e','n']⟩)).TellsFinal
        (fun key waveform => ⟨List.replicate (waveform.length + key.2) 'l',key.1.getD ['e','n']⟩)
        (fun state => (state.language,5)) ∧
    (senseVoiceSessions ⟨2,8⟩ fun waveforms _ => .ok (waveforms.map fun waveform =>
      ⟨List.replicate waveform.length 'l',[("language".toList,['e','n'])]⟩)).TellsFinal
        (fun _ waveform => ⟨List.replicate waveform.length 'l',[("language".toList,['e','n'])]⟩) fun state => state.language :=
  final_text (fun _ _ _ => rfl) fun _ _ => rfl

end SpeechGateway.Microbatch
