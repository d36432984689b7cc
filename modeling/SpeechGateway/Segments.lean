import SpeechGateway.Overlapping

/-!
The room of a session. In every run of calls for different sessions that overlap, a session holds
at most `max_segment_samples` samples, and `remaining_segment_samples` is exactly what it still
takes (`rooms_exact`).
-/
namespace SpeechGateway.Microbatch
open SpeechGateway.Backends SpeechGateway.Scheduling Grouping Overlap

/-- The job has the audio of its range, as `GatewayScheduler.enqueue` checks. -/
def WholeJob (job : InferenceJob) : Prop := job.pcm.length = job.sampleCount * 2

/-- The jobs that a request submits are whole. -/
def Request.Whole : Request → Prop
  | .submit jobs => ∀ job ∈ jobs, WholeJob job
  | _ => True

/-- A call that has yet to take its jobs has whole ones. -/
def Suspended.Whole {Key Item : Type} : Suspended Key Item → Prop
  | .begun _ request => request.Whole
  | _ => True

namespace RollingSessions
variable {State Key Item Final : Type} (backend : RollingSessions State Key Item Final)

/-- What becomes of the audio and the identity of a session, and what a result says about its job. -/
structure Sound : Prop where
  extended : ∀ pcm state, backend.pcm (backend.extend pcm state) = backend.pcm state ++ pcm
  settled : ∀ state job item, backend.pcm (backend.settle state job item).1 = backend.pcm state
  cleared : ∀ state, backend.pcm (backend.clear state) = []
  started : ∀ id language, backend.pcm (backend.fresh id language) = []
  extendedId : ∀ pcm state, backend.backendSessionId (backend.extend pcm state) = backend.backendSessionId state
  settledId : ∀ state job item, backend.backendSessionId (backend.settle state job item).1 = backend.backendSessionId state
  clearedId : ∀ state, backend.backendSessionId (backend.clear state) = backend.backendSessionId state
  concludedId : ∀ item state, backend.backendSessionId (backend.conclude item state) = backend.backendSessionId state
  startedId : ∀ id language, backend.backendSessionId (backend.fresh id language) = id
  resultSession : ∀ state job item, (backend.settle state job item).2.sessionId = job.sessionId
  heard : ∀ state job, backend.audio state job = backend.pcm state ∨ backend.audio state job = job.pcm

/-- The audio of a session is whole samples and within the limit, and its backend id is that of the
    session. -/
structure Held (sessionId : SessionId) (state : State) : Prop where
  whole : (backend.pcm state).length % 2 = 0
  within : sampleCount (backend.pcm state) ≤ backend.maxSegmentSamples
  identity : backend.backendSessionId state = backend.backendId sessionId

/-- Every session is held. -/
def AllHeld (sessions : SessionId → Option State) : Prop :=
  ∀ sessionId state, sessions sessionId = some state → backend.Held sessionId state

variable {backend}

/-- What the checks of a batch have found when they pass. -/
theorem check_passed {adapter : Adapter State} {jobs : List InferenceJob} {seen : List SessionId}
    (passed : backend.check adapter jobs seen = .ok ()) :
    (jobs.map (·.sessionId)).Nodup ∧ (∀ job ∈ jobs, job.sessionId ∉ seen) ∧
      ∀ job ∈ jobs, ∃ state, adapter.sessions job.sessionId = some state ∧
        backend.backendSessionId state = job.backendSessionId ∧
        sampleCount (backend.pcm state) + job.sampleCount ≤ backend.maxSegmentSamples := by
  induction jobs generalizing seen with
  | nil => exact ⟨List.nodup_nil,nofun,nofun⟩
  | cons job rest ih =>
    simp only [Rolling.check] at passed
    split at passed
    · simp at passed
    rename_i state found
    split at passed
    · simp at passed
    rename_i identity
    split at passed
    · simp at passed
    rename_i fresh
    split at passed
    · simp at passed
    rename_i room
    obtain ⟨distinct,unseen,fits⟩ := ih passed
    refine ⟨?_,?_,?_⟩
    · rw [List.map_cons,List.nodup_cons]
      refine ⟨fun again => ?_,distinct⟩
      obtain ⟨other,inside,same⟩ := List.mem_map.mp again
      exact unseen other inside (by rw [same]; exact List.mem_cons_self ..)
    · refine List.forall_mem_cons.mpr ⟨fresh,fun other inside earlier => ?_⟩
      exact unseen other inside (List.mem_cons_of_mem _ earlier)
    · exact List.forall_mem_cons.mpr ⟨⟨state,found,not_not.mp identity,by omega⟩,fits⟩

section
variable (sound : backend.Sound)
include sound

/-- A session with the audio of a job that fits. -/
theorem Held.extend {sessionId : SessionId} {state : State} (held : backend.Held sessionId state) {job : InferenceJob}
    (whole : WholeJob job) (room : sampleCount (backend.pcm state) + job.sampleCount ≤ backend.maxSegmentSamples) :
    backend.Held sessionId (backend.extend job.pcm state) := by
  have even := held.whole
  unfold WholeJob at whole
  refine ⟨?_,?_,(sound.extendedId _ _).trans held.identity⟩
  · rw [sound.extended,List.length_append]
    omega
  · rw [sound.extended]
    unfold sampleCount at room ⊢
    rw [List.length_append]
    omega

theorem Held.settle {sessionId : SessionId} {state : State} (held : backend.Held sessionId state) (job : InferenceJob)
    (item : Item) : backend.Held sessionId (backend.settle state job item).1 := by
  refine ⟨?_,?_,(sound.settledId _ _ _).trans held.identity⟩
  · rw [sound.settled]
    exact held.whole
  · rw [sound.settled]
    exact held.within

theorem held_clear {sessionId : SessionId} {state : State} (identity : backend.backendSessionId state = backend.backendId sessionId) :
    backend.Held sessionId (backend.clear state) := by
  refine ⟨?_,?_,(sound.clearedId _).trans identity⟩ <;> simp [sound.cleared,sampleCount]

/-- A batch that passes the checks fits into its sessions. -/
theorem AllHeld.extend {adapter : Adapter State} {jobs : List InferenceJob} (held : backend.AllHeld adapter.sessions)
    (whole : ∀ job ∈ jobs, WholeJob job) (passed : backend.check adapter jobs [] = .ok ()) :
    backend.AllHeld (backend.extendAll adapter jobs).sessions := by
  obtain ⟨distinct,_,fits⟩ := check_passed passed
  intro sessionId state found
  have grown : backend.extendAll adapter jobs = _ := Adapter.foldl_modify distinct
  rw [grown] at found
  dsimp only at found
  obtain ⟨before,here,extended⟩ := Option.map_eq_some_iff.mp found
  cases own : jobs.find? (·.sessionId = sessionId) with
  | none =>
    rw [own] at extended
    cases extended
    exact held sessionId before here
  | some job =>
    rw [own] at extended
    have inside := List.mem_of_find?_eq_some own
    have same : job.sessionId = sessionId := by simpa using List.find?_some own
    obtain ⟨found,there,_,room⟩ := fits job inside
    rw [same,here] at there
    cases there
    cases extended
    exact (held sessionId before here).extend sound (whole job inside) room

theorem AllHeld.settle {adapter : Adapter State} (held : backend.AllHeld adapter.sessions)
    (settled : List (InferenceJob × Option Item)) : backend.AllHeld (backend.settleAll adapter settled).2.sessions := by
  induction settled generalizing adapter with
  | nil => exact held
  | cons entry rest ih =>
    obtain ⟨job,item⟩ := entry
    cases item with
    | none => exact held
    | some item =>
      simp only [Rolling.settleAll]
      cases adapter.sessions job.sessionId with
      | none => exact held
      | some state =>
        refine ih fun sessionId next found => ?_
        by_cases own : sessionId = job.sessionId
        · simp only [Adapter.modify,own,if_true] at found
          obtain ⟨before,here,rfl⟩ := Option.map_eq_some_iff.mp found
          exact own ▸ (held _ before here).settle sound job item
        · rw [Adapter.modify_other own] at found
          exact held sessionId next found

omit sound in
theorem AllHeld.conclude {sessions : SessionId → Option State} (held : backend.AllHeld sessions) {sessionId : SessionId}
    {last : Bool} {concluded : Except AdapterError (Final × State)}
    (next : ∀ final state, concluded = .ok (final,state) → backend.Held sessionId state) :
    backend.AllHeld (backend.conclusion sessionId last concluded sessions).1 := by
  cases concluded with
  | error exc => exact held
  | ok concluded =>
    obtain ⟨final,state⟩ := concluded
    intro other found here
    simp only [conclusion] at here
    by_cases own : other = sessionId
    · subst own
      rw [if_pos rfl] at here
      cases last with
      | true => simp at here
      | false =>
        cases here
        exact next final _ rfl
    · rw [if_neg own] at here
      exact held other found here

/-- The state for the next segment. -/
theorem consumeFinal_held {sessionId : SessionId} {state next : State} {ready : Bool} {final : Final}
    (held : backend.Held sessionId state) (consumed : backend.consumeFinal ready state = .ok (final,next)) :
    backend.Held sessionId next := by
  unfold consumeFinal at consumed
  split at consumed
  · cases consumed
    exact held_clear sound held.identity
  split at consumed
  · cases consumed
    exact held_clear sound held.identity
  split at consumed
  · simp at consumed
  split at consumed
  · simp at consumed
  split at consumed
  · simp at consumed
  · cases consumed
    exact held_clear sound ((sound.concludedId _ _).trans held.identity)

end

section
variable [DecidableEq Key]

theorem AllHeld.startBatch (sound : backend.Sound) {flags : Flags} {jobs : List InferenceJob} {sessions : SessionId → Option State}
    (held : backend.AllHeld sessions) (whole : ∀ job ∈ jobs, WholeJob job) :
    backend.AllHeld (backend.startBatch flags jobs sessions).1 := by
  unfold RollingSessions.startBatch
  dsimp only
  split
  · exact held
  split
  · exact held
  cases passed : backend.check ⟨flags.ready,flags.loaded,sessions⟩ jobs [] with
  | error exc => exact held
  | ok =>
    have before : backend.AllHeld (Adapter.mk flags.ready flags.loaded sessions).sessions := held
    cases Rolling.stableBatchId jobs <;> exact before.extend sound whole passed

theorem AllHeld.advance (sound : backend.Sound) (call : Suspended Key Item) (sessions : SessionId → Option State)
    (held : backend.AllHeld sessions) (whole : call.Whole) :
    backend.AllHeld (backend.advance call sessions).1 ∧
      ∀ later, (backend.advance call sessions).2 = .inl later → later.Whole := by
  constructor
  · cases call with
    | begun flags request =>
      cases request with
      | openSession sessionId language task timestamps =>
        simp only [RollingSessions.advance,openSession]
        split
        · exact held
        · intro other state found
          dsimp only at found
          by_cases own : other = sessionId
          · subst own
            rw [if_pos rfl] at found
            cases found
            refine ⟨?_,?_,sound.startedId _ _⟩ <;> simp [sound.started,sampleCount]
          · rw [if_neg own] at found
            exact held other state found
      | submit jobs => exact held.startBatch sound whole
      | finish sessionId last =>
        simp only [RollingSessions.advance]
        split
        · exact held
        rename_i state found
        split
        · exact held
        · exact held.conclude fun final next consumed => consumeFinal_held sound (held sessionId state found) consumed
      | abort sessionId =>
        intro other state found
        simp only [RollingSessions.advance] at found
        by_cases own : other = sessionId
        · simp [own] at found
        · rw [if_neg own] at found
          exact held other state found
      | drain => exact held
      | close => exact fun _ _ none => by cases none
    | decoding jobs groups decoded =>
      cases groups with
      | nil =>
        have before : backend.AllHeld (Adapter.mk true true sessions).sessions := held
        exact before.settle sound _
      | cons group groups =>
        simp only [RollingSessions.advance]
        split <;> exact held
    | asked jobs indices answer groups decoded => cases answer <;> exact held
    | finishing sessionId last =>
      simp only [RollingSessions.advance]
      split
      · exact held
      split <;> exact held
    | finalizing sessionId last answer =>
      simp only [RollingSessions.advance]
      split
      · exact held
      rename_i state found
      refine held.conclude fun final next concluded => ?_
      cases answer with
      | error exc => simp [Except.map] at concluded
      | ok item =>
        cases concluded
        exact held_clear sound ((sound.concludedId _ _).trans (held sessionId state found).identity)
    | closing => exact held
  · intro later goesOn
    have entered := (backend.advance_goesOn call sessions later goesOn).2
    cases later with
    | begun flags request => exact entered.elim
    | decoding jobs groups decoded => trivial
    | asked jobs indices answer groups decoded => trivial
    | finishing sessionId last => trivial
    | finalizing sessionId last answer => trivial
    | closing => trivial

/-- In every run of calls that overlap, the sessions are held. -/
theorem run_held (sound : backend.Sound) {flags : Flags} {entries : List (Entry Flags Request Nat)}
    {state : Running SessionId (Option State) Flags (Suspended Key Item) (Except AdapterError Answer) Nat}
    (run : Run backend.calls ⟨flags,fun _ => none,[],[]⟩ entries state)
    (whole : ∀ id request, .call id request ∈ entries → request.Whole) : backend.AllHeld state.store :=
  (run.keeps backend.AllHeld (AllHeld.advance sound) (fun id request _ inside => whole id request inside) nofun).1

end

/-- What a session still takes is what `remaining_segment_samples` says, and a whole job of its own
    passes the checks exactly if it takes no more. -/
def RoomExact (sessions : SessionId → Option State) : Prop :=
  ∀ (sessionId : SessionId) (state : State) (ready loaded : Bool), sessions sessionId = some state →
    ∃ room, backend.remainingSegmentSamples sessionId ⟨ready,loaded,sessions⟩ = .ok room ∧
      sampleCount (backend.pcm state) + room = backend.maxSegmentSamples ∧
      ∀ job : InferenceJob, job.sessionId = sessionId → job.backendSessionId = backend.backendId sessionId →
        backend.check ⟨ready,loaded,sessions⟩ [job] [] =
          if job.sampleCount ≤ room then .ok ()
          else .error (.raised (.capacity .adapterUtteranceLimit backend.maxSegmentSamples (sampleCount (backend.pcm state))
            job.sampleCount backend.utteranceLimit))

/-- Whatever calls for different sessions overlap, each session stays within the limit, and knows how
    much it still takes. -/
def KeepsRoom [DecidableEq Key] (backend : RollingSessions State Key Item Final) : Prop :=
  ∀ (flags : Flags) (entries : List (Entry Flags Request Nat))
    (state : Running SessionId (Option State) Flags (Suspended Key Item) (Except AdapterError Answer) Nat),
    Run backend.calls ⟨flags,fun _ => none,[],[]⟩ entries state →
      (∀ id request, .call id request ∈ entries → request.Whole) →
      backend.AllHeld state.store ∧ backend.RoomExact state.store

theorem AllHeld.roomExact {sessions : SessionId → Option State} (held : backend.AllHeld sessions) :
    backend.RoomExact sessions := by
  intro sessionId state ready loaded found
  obtain ⟨_,within,identity⟩ := held sessionId state found
  refine ⟨backend.maxSegmentSamples - sampleCount (backend.pcm state),?_,by omega,?_⟩
  · simp only [remainingSegmentSamples,found]
  · intro job own named
    simp only [Rolling.check,own,found]
    rw [if_neg (by rw [identity,named]; exact not_not.mpr rfl),if_neg List.not_mem_nil]
    by_cases fits : job.sampleCount ≤ backend.maxSegmentSamples - sampleCount (backend.pcm state)
    · rw [if_pos fits,if_neg (by omega)]
    · rw [if_neg fits,if_pos (by omega)]

end RollingSessions

theorem fasterWhisper_sound (settings : FasterWhisperSettings) (engine : FasterWhisperEngine) :
    (fasterWhisperSessions settings engine).Sound where
  extended _ _ := rfl
  settled state job item := by simp only [fasterWhisperSessions,fasterWhisper]; split <;> rfl
  cleared _ := rfl
  started _ _ := rfl
  extendedId _ _ := rfl
  settledId state job item := by simp only [fasterWhisperSessions,fasterWhisper]; split <;> rfl
  clearedId _ := rfl
  concludedId _ _ := rfl
  startedId _ _ := rfl
  resultSession state job item := by simp only [fasterWhisperSessions,fasterWhisper]; split <;> rfl
  heard state job := by cases final : job.final <;> simp [fasterWhisperSessions,fasterWhisper,final]

theorem senseVoice_sound (settings : SenseVoiceSettings) (engine : SenseVoiceEngine) :
    (senseVoiceSessions settings engine).Sound where
  extended _ _ := rfl
  settled state job item := by simp only [senseVoiceSessions,senseVoice]; split <;> rfl
  cleared _ := rfl
  started _ _ := rfl
  extendedId _ _ := rfl
  settledId state job item := by simp only [senseVoiceSessions,senseVoice]; split <;> rfl
  clearedId _ := rfl
  concludedId _ _ := rfl
  startedId _ _ := rfl
  resultSession _ _ _ := rfl
  heard _ _ := .inl rfl

theorem RollingSessions.Sound.keepsRoom {State Key Item Final : Type} [DecidableEq Key]
    {backend : RollingSessions State Key Item Final} (sound : backend.Sound) : backend.KeepsRoom := by
  intro flags entries state run whole
  have held := RollingSessions.run_held sound run whole
  exact ⟨held,held.roomExact⟩

/-- Whatever calls of either adapter overlap, no two of them for one session, each session holds at most
    `max_segment_samples` whole samples under its own backend id; with what `remaining_segment_samples`
    says it makes up the limit, and a job is refused for its length exactly if it is longer than that. -/
theorem rooms_exact (whisper : FasterWhisperSettings) (whisperEngine : FasterWhisperEngine) (sense : SenseVoiceSettings)
    (senseEngine : SenseVoiceEngine) :
    (fasterWhisperSessions whisper whisperEngine).KeepsRoom ∧ (senseVoiceSessions sense senseEngine).KeepsRoom :=
  ⟨(fasterWhisper_sound whisper whisperEngine).keepsRoom,(senseVoice_sound sense senseEngine).keepsRoom⟩

end SpeechGateway.Microbatch
