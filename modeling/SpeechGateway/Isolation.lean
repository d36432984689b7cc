import SpeechGateway.Segments

/-!
Sessions that share an adapter. With an engine that decodes every waveform by itself, a session
goes through the same states and gets the same answers as if it had been alone with the parts of
the accepted requests that name it (`sessions_isolated`).
-/
namespace SpeechGateway.Microbatch
open SpeechGateway.Backends SpeechGateway.Scheduling Grouping Overlap

/-- The part of a request that is about the session. -/
def Request.own (sessionId : SessionId) : Request → Option Request
  | .openSession named language task timestamps =>
    if named = sessionId then some (.openSession named language task timestamps) else none
  | .submit jobs =>
    let mine := jobs.filter (·.sessionId = sessionId)
    if mine = [] then none else some (.submit mine)
  | .finish named last => if named = sessionId then some (.finish named last) else none
  | .abort named => if named = sessionId then some (.abort named) else none
  | .drain => some .drain
  | .close => some .close

/-- The jobs that a request submits have ids. -/
def Request.Identified : Request → Prop
  | .submit jobs => ∀ job ∈ jobs, job.jobId ≠ []
  | _ => True

/-- The part of an answer that is about the session. -/
def Answer.own (sessionId : SessionId) : Answer → Answer
  | .results given => .results (given.filter (·.sessionId = sessionId))
  | answer => answer

namespace RollingSessions
variable {State Key Item Final : Type} [DecidableEq Key] (backend : RollingSessions State Key Item Final)

/-- Requests one after another. -/
def performEach : List Request → Adapter State → List (Except AdapterError Answer) × Adapter State
  | [], adapter => ([],adapter)
  | request :: rest, adapter =>
    let (answer,next) := backend.perform request adapter
    let (answers,last) := performEach rest next
    (answer :: answers,last)

/-- What the accepted requests asked and were told about a session. -/
def history (sessionId : SessionId) : List Request → Adapter State → List (Request × Answer)
  | [], _ => []
  | request :: rest, adapter =>
    match backend.perform request adapter with
    | (.error _,next) => history sessionId rest next
    | (.ok answer,next) =>
      ((request.own sessionId).map fun mine => (mine,answer.own sessionId)).toList ++ history sessionId rest next

/-- Adapters that have the session in common. -/
structure Alike (sessionId : SessionId) (adapter alone : Adapter State) : Prop where
  ready : alone.ready = adapter.ready
  loaded : alone.loaded = adapter.loaded
  session : alone.sessions sessionId = adapter.sessions sessionId

/-- What a request does to a session, beside what its own part does to an adapter that has nothing
    but the session in common. -/
structure Isolated (sessionId : SessionId) (request : Request) (adapter alone : Adapter State) : Prop where
  refused : ∀ exc next, backend.perform request adapter = (.error exc,next) → Alike sessionId next alone
  others : ∀ answer next, backend.perform request adapter = (.ok answer,next) → request.own sessionId = none →
    Alike sessionId next alone
  own : ∀ answer next mine, backend.perform request adapter = (.ok answer,next) → request.own sessionId = some mine →
    ∃ last, backend.perform mine alone = (.ok (answer.own sessionId),last) ∧ Alike sessionId next last

/-- A request leaves the sessions that it does not name. -/
theorem perform_apart (adapter : Adapter State) {sessionId : SessionId} {request : Request} (apart : sessionId ∉ request.named) :
    (backend.perform request adapter).2.sessions sessionId = adapter.sessions sessionId :=
  (backend.begun_completes ⟨adapter.ready,adapter.loaded⟩ request adapter.sessions).writes backend.calls_lawful apart

/-- A request that names the session alone does the same wherever it finds the session. -/
theorem perform_alike {sessionId : SessionId} {adapter alone : Adapter State} (alike : Alike sessionId adapter alone) {request : Request} (named : request.named = {sessionId}) :
    ∃ last, backend.perform request alone = ((backend.perform request adapter).1,last) ∧
      Alike sessionId (backend.perform request adapter).2 last := by
  obtain ⟨ready,loaded,session⟩ := alike
  have same : Set.EqOn adapter.sessions alone.sessions request.named := by
    rw [named]
    rintro other rfl
    exact session.symm
  have whole := backend.begun_completes ⟨adapter.ready,adapter.loaded⟩ request adapter.sessions
  obtain ⟨last,completes,stores⟩ := whole.reads backend.calls_lawful same
  have wholeAlone := backend.begun_completes ⟨alone.ready,alone.loaded⟩ request alone.sessions
  rw [ready,loaded] at wholeAlone
  obtain ⟨rfl,replies⟩ := completes.unique wholeAlone
  have flags := backend.perform_flags request adapter
  have flagsAlone := backend.perform_flags request alone
  have eta : alone = ⟨adapter.ready,adapter.loaded,alone.sessions⟩ := by rw [← ready,← loaded]
  refine ⟨(backend.perform request alone).2,Prod.ext ?_ rfl,?_,?_,?_⟩
  · rw [eta]
    exact replies.symm
  · rw [flagsAlone.1,flags.1,ready,loaded]
  · rw [flagsAlone.2,flags.2,ready,loaded]
  · have here : sessionId ∈ request.named := by simp [named]
    rw [eta]
    exact (stores here).symm

variable {backend} {sessionId : SessionId} {adapter alone : Adapter State}

theorem perform_kept (sound : backend.Sound) {request : Request} (held : backend.AllHeld adapter.sessions)
    (whole : request.Whole) : backend.AllHeld (backend.perform request adapter).2.sessions :=
  (backend.begun_completes ⟨adapter.ready,adapter.loaded⟩ request adapter.sessions).keeps (AllHeld.advance sound) held whole

/-- A request that names one session is whole in its own part. -/
theorem perform_isolated_one (alike : Alike sessionId adapter alone) {request : Request} {named : SessionId}
    (names : request.named = {named}) (still : ∀ flags, request.marks flags = flags)
    (own : request.own sessionId = if named = sessionId then some request else none)
    (tells : ∀ answer next, backend.perform request adapter = (.ok answer,next) → answer.own sessionId = answer)
    (refuses : ∀ exc next, backend.perform request adapter = (.error exc,next) → next = adapter) :
    backend.Isolated sessionId request adapter alone := by
  refine ⟨fun exc next performed => ?_,fun told next performed mine => ?_,fun told next mine performed part => ?_⟩
  · rw [refuses exc next performed]
    exact alike
  · have apart : sessionId ∉ request.named := by
      rintro inside
      rw [names,Set.mem_singleton_iff] at inside
      rw [own,if_pos inside.symm] at mine
      cases mine
    have flags := backend.perform_flags request adapter
    have kept := backend.perform_apart adapter apart
    rw [performed,still] at flags
    rw [performed] at kept
    exact ⟨alike.ready.trans flags.1.symm,alike.loaded.trans flags.2.symm,alike.session.trans kept.symm⟩
  · by_cases same : named = sessionId
    · subst same
      rw [own,if_pos rfl] at part
      cases part
      obtain ⟨last,performs,after⟩ := backend.perform_alike alike names
      rw [performed] at performs after
      exact ⟨last,by rw [performs,tells told next performed],after⟩
    · simp [own,same] at part

/-- A batch of whole jobs with ids is refused, or it is valid. -/
theorem submit_cases (sound : backend.Sound) (held : backend.AllHeld adapter.sessions) {jobs : List InferenceJob}
    (whole : ∀ job ∈ jobs, WholeJob job) (identified : ∀ job ∈ jobs, job.jobId ≠ []) :
    (∃ exc, backend.submit jobs adapter = (.error exc,adapter)) ∨ backend.Valid adapter jobs := by
  by_cases idle : (!adapter.ready || !adapter.loaded) = true
  · exact .inl ⟨_,if_pos idle⟩
  by_cases limits : jobs = [] ∨ backend.maxBatchItems < jobs.length
  · exact .inl ⟨_,by rw [Rolling.submit,if_neg idle,if_pos limits]⟩
  cases passed : backend.check adapter jobs [] with
  | error exc => exact .inl ⟨exc,by rw [Rolling.submit,if_neg idle,if_neg limits,passed]⟩
  | ok =>
    obtain ⟨distinct,_,fits⟩ := check_passed passed
    rw [not_or,not_lt] at limits
    refine .inr ⟨by simpa using idle,limits.1,limits.2,distinct,identified,fun job inside => ?_⟩
    obtain ⟨state,found,identity,room⟩ := fits job inside
    refine ⟨state,found,identity,room,?_⟩
    have even := (held job.sessionId state found).whole
    have own := whole job inside
    unfold WholeJob at own
    rcases sound.heard (backend.extend job.pcm state) job with all | some
    · rw [all,sound.extended,List.length_append]
      omega
    · rw [some]
      omega

/-- The jobs of a session in a batch of distinct sessions. -/
theorem filter_own {jobs : List InferenceJob} (distinct : (jobs.map (·.sessionId)).Nodup) :
    jobs.filter (·.sessionId = sessionId) = (jobs.find? (·.sessionId = sessionId)).toList := by
  induction jobs with
  | nil => rfl
  | cons job rest ih =>
    obtain ⟨fresh,later⟩ := List.nodup_cons.mp distinct
    by_cases own : job.sessionId = sessionId
    · have none : rest.filter (·.sessionId = sessionId) = [] := by
        rw [List.filter_eq_nil_iff]
        intro other inside same
        exact fresh (List.mem_map.mpr ⟨other,inside,(of_decide_eq_true same).trans own.symm⟩)
      rw [List.filter_cons_of_pos (by simpa using own),List.find?_cons_of_pos (by simpa using own),none]
      rfl
    · rw [List.filter_cons_of_neg (by simpa using own),List.find?_cons_of_neg (by simpa using own)]
      exact ih later

theorem submit_isolated (sound : backend.Sound) {answer : Key → Waveform → Item} (independent : backend.Independent answer)
    (held : backend.AllHeld adapter.sessions) (alike : Alike sessionId adapter alone) {jobs : List InferenceJob}
    (whole : ∀ job ∈ jobs, WholeJob job) (identified : ∀ job ∈ jobs, job.jobId ≠ []) :
    backend.Isolated sessionId (.submit jobs) adapter alone := by
  rcases submit_cases sound held whole identified with ⟨exc,refused⟩ | valid
  · refine ⟨fun exc next performed => ?_,fun told next performed => ?_,fun told next mine performed => ?_⟩
    · simp only [perform,refused] at performed
      cases performed
      exact alike
    · simp [perform,refused,Except.map] at performed
    · simp [perform,refused,Except.map] at performed
  · obtain ⟨job,inside⟩ := List.exists_mem_of_ne_nil jobs valid.some
    obtain ⟨fallback,_⟩ := valid.fits job inside
    -- Every job finds its session, and gets the outcome that it would get alone.
    let stateOf := fun job : InferenceJob => (adapter.sessions job.sessionId).getD fallback
    have found : ∀ job ∈ jobs, adapter.sessions job.sessionId = some (stateOf job) := by
      intro job inside
      obtain ⟨state,here,_⟩ := valid.fits job inside
      simp only [stateOf,here,Option.getD_some]
    have performs := Rolling.submit_ok independent valid found
    have after : jobs.foldl (backend.toRolling.advance answer) adapter = _ := Adapter.foldl_modify valid.distinct
    have mineIs : jobs.filter (·.sessionId = sessionId) = _ := filter_own valid.distinct
    refine ⟨fun exc next performed => ?_,fun told next performed mine => ?_,fun told next mine performed part => ?_⟩
    · simp [perform,performs,Except.map] at performed
    · simp only [perform,performs,Except.map,Prod.mk.injEq] at performed
      obtain ⟨_,rfl⟩ := performed
      have none : jobs.find? (·.sessionId = sessionId) = none := by
        cases own : jobs.find? (·.sessionId = sessionId) with
        | none => rfl
        | some job => simp [Request.own,mineIs,own] at mine
      refine ⟨?_,?_,?_⟩
      · rw [after]
        exact alike.ready
      · rw [after]
        exact alike.loaded
      · rw [after,alike.session]
        simp only [none,Option.elim_none]
        exact Option.map_id'.symm
    · simp only [perform,performs,Except.map,Prod.mk.injEq,Except.ok.injEq] at performed
      obtain ⟨rfl,rfl⟩ := performed
      cases own : jobs.find? (·.sessionId = sessionId) with
      | none => simp [Request.own,mineIs,own] at part
      | some job =>
        have inside := List.mem_of_find?_eq_some own
        have same : job.sessionId = sessionId := by simpa using List.find?_some own
        obtain ⟨state,here,fit⟩ := valid.fits job inside
        obtain rfl : .submit [job] = mine := by simpa [Request.own,mineIs,own] using part
        have there : alone.sessions job.sessionId = some (stateOf job) := by
          rw [same,alike.session,← same]
          exact found job inside
        have alone_valid : backend.Valid alone [job] := by
          refine ⟨?_,List.cons_ne_nil _ _,?_,List.nodup_singleton _,List.forall_mem_singleton.mpr (identified job inside),
            List.forall_mem_singleton.mpr ⟨state,?_,fit⟩⟩
          · rw [alike.ready,alike.loaded]
            exact valid.ready
          · exact Nat.le_trans (List.length_pos_iff.mpr valid.some) valid.count
          · rw [same,alike.session,← same]
            exact here
        have single := Rolling.submit_ok independent alone_valid (List.forall_mem_singleton.mpr there)
        have told : (jobs.map fun job => (backend.outcome answer (stateOf job) job).2).filter (·.sessionId = sessionId) =
            [(backend.outcome answer (stateOf job) job).2] := by
          have named : (fun result : InferenceResult => decide (result.sessionId = sessionId)) ∘
              (fun job => (backend.outcome answer (stateOf job) job).2) = fun job => decide (job.sessionId = sessionId) := by
            funext job
            simp only [Function.comp_apply,Rolling.outcome,sound.resultSession]
          rw [List.filter_map,named,mineIs,own]
          rfl
        refine ⟨_,Prod.ext ?_ rfl,?_,?_,?_⟩
        · simp only [perform,single,Except.map,Answer.own,told]
          rfl
        · simp only [perform,single]
          rw [after]
          exact alike.ready
        · simp only [perform,single]
          rw [after]
          exact alike.loaded
        · simp only [perform,single]
          rw [after]
          simp only [own,List.foldl_cons,List.foldl_nil,Rolling.advance,Adapter.modify,same,if_true,alike.session]
          rfl

theorem perform_isolated (sound : backend.Sound) {answer : Key → Waveform → Item} (independent : backend.Independent answer)
    (held : backend.AllHeld adapter.sessions) (alike : Alike sessionId adapter alone) {request : Request}
    (whole : request.Whole) (identified : request.Identified) : backend.Isolated sessionId request adapter alone := by
  cases request with
  | openSession named language task timestamps =>
    refine perform_isolated_one alike rfl (fun _ => rfl) rfl (fun told next performed => ?_) fun exc next performed => ?_
    · simp only [perform,openSession] at performed
      split at performed
      · simp [Except.map] at performed
      · cases performed
        rfl
    · simp only [perform,openSession] at performed
      split at performed
      · cases performed
        rfl
      · simp [Except.map] at performed
  | submit jobs => exact submit_isolated sound independent held alike whole identified
  | finish named last =>
    refine perform_isolated_one alike rfl (fun _ => rfl) rfl (fun told next performed => ?_) fun exc next performed => ?_
    · simp only [perform,finish] at performed
      split at performed
      · simp [Except.map] at performed
      split at performed
      · simp [Except.map] at performed
      · cases performed
        rfl
    · simp only [perform,finish] at performed
      split at performed
      · cases performed
        rfl
      split at performed
      · cases performed
        rfl
      · simp [Except.map] at performed
  | abort named =>
    refine perform_isolated_one alike rfl (fun _ => rfl) rfl (fun told next performed => ?_) fun exc next performed => ?_
    · cases performed
      rfl
    · simp [perform] at performed
  | drain =>
    refine ⟨fun exc next performed => ?_,fun told next performed none => ?_,fun told next mine performed part => ?_⟩
    · simp [perform] at performed
    · cases none
    · cases performed
      cases part
      exact ⟨_,rfl,rfl,alike.loaded,alike.session⟩
  | close =>
    refine ⟨fun exc next performed => ?_,fun told next performed none => ?_,fun told next mine performed part => ?_⟩
    · simp [perform] at performed
    · cases none
    · cases performed
      cases part
      exact ⟨_,rfl,rfl,alike.loaded,rfl⟩

/-- Requests one after another leave a session as its own parts of the accepted ones leave it alone. -/
theorem history_isolated (sound : backend.Sound) {answer : Key → Waveform → Item} (independent : backend.Independent answer)
    {requests : List Request} (held : backend.AllHeld adapter.sessions) (alike : Alike sessionId adapter alone)
    (whole : ∀ request ∈ requests, request.Whole) (identified : ∀ request ∈ requests, request.Identified) :
    (backend.performEach ((backend.history sessionId requests adapter).map Prod.fst) alone).1 =
        (backend.history sessionId requests adapter).map (fun told => .ok told.2) ∧
      Alike sessionId (backend.performEach requests adapter).2
        (backend.performEach ((backend.history sessionId requests adapter).map Prod.fst) alone).2 := by
  induction requests generalizing adapter alone with
  | nil => exact ⟨rfl,alike⟩
  | cons request rest ih =>
    obtain ⟨first,later⟩ := List.forall_mem_cons.mp whole
    obtain ⟨named,ids⟩ := List.forall_mem_cons.mp identified
    have isolated := perform_isolated sound independent held alike first named
    have kept := perform_kept sound held first
    simp only [history,performEach]
    rcases performed : backend.perform request adapter with ⟨reply,next⟩
    rw [performed] at kept
    cases reply with
    | error exc => exact ih kept (isolated.refused exc next performed) later ids
    | ok told =>
      cases mine : request.own sessionId with
      | none => exact ih kept (isolated.others told next performed mine) later ids
      | some mine =>
        rename_i part
        obtain ⟨last,alone,same⟩ := isolated.own told next part performed mine
        obtain ⟨answers,states⟩ := ih kept same later ids
        simp only [Option.map_some,Option.toList_some,List.singleton_append,List.map_cons,performEach,alone]
        exact ⟨by rw [answers],states⟩

/-- A session gets the same answers, and is left in the same state, as when the adapter has only its
    own parts of the accepted requests. -/
def AsAlone (backend : RollingSessions State Key Item Final) (sessionId : SessionId) (requests : List Request)
    (adapter : Adapter State) : Prop :=
  let mine := backend.history sessionId requests adapter
  (backend.performEach (mine.map Prod.fst) adapter).1 = mine.map (fun told => .ok told.2) ∧
    (backend.performEach (mine.map Prod.fst) adapter).2.sessions sessionId =
      (backend.performEach requests adapter).2.sessions sessionId

theorem Sound.asAlone (sound : backend.Sound) {answer : Key → Waveform → Item} (independent : backend.Independent answer)
    {requests : List Request} (whole : ∀ request ∈ requests, request.Whole)
    (identified : ∀ request ∈ requests, request.Identified) (sessionId : SessionId) (ready loaded : Bool) :
    backend.AsAlone sessionId requests ⟨ready,loaded,fun _ => none⟩ := by
  have alike : Alike sessionId (⟨ready,loaded,fun _ => none⟩ : Adapter State) ⟨ready,loaded,fun _ => none⟩ := ⟨rfl,rfl,rfl⟩
  obtain ⟨answers,states⟩ := history_isolated sound independent (fun _ _ none => by cases none) alike whole identified
  exact ⟨answers,states.session⟩

end RollingSessions

/-- Two sessions are opened and share a batch; one ends its segment, and the next batch names a
    session that nobody opened. -/
def sharedRequests (backendId : Text) : List Request :=
  let job := fun session final => { sampleJob session final with backendSessionId := backendId ++ [session] }
  [.openSession ['a'] none "transcribe".toList false,.openSession ['b'] (some ['e','n']) "transcribe".toList false,
    .submit [job 'a' false,job 'b' true],.finish ['b'] false,.submit [job 'a' true,job 'c' false]]

end SpeechGateway.Microbatch
