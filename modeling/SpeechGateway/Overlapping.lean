import SpeechGateway.Lifecycle
import SpeechGateway.Overlap

/-!
Calls of a rolling adapter that overlap. `submit` waits for the engine at every group,
`finish_segment` and `finish_session` wait for it when they have to decode, and `close` waits for its
end; in between, calls for other sessions go on. Every call answers what it would answer if the
calls had been made one after another in the order in which they began (`calls_serialize`).
-/
namespace SpeechGateway.Microbatch
open SpeechGateway.Backends SpeechGateway.Scheduling Grouping Overlap

/-- `_ready`, and whether there is an engine. -/
structure Flags where
  ready : Bool
  loaded : Bool
  deriving DecidableEq, Repr

/-- A call of an adapter at one of its suspensions. A call that waits for the engine has its answer,
    which depends on what the engine was given alone. -/
inductive Suspended (Key Item : Type)
  | begun (flags : Flags) (request : Request)
  | decoding (jobs : List InferenceJob) (groups : List (Key × List Nat)) (decoded : List (Option Item))
  | asked (jobs : List InferenceJob) (indices : List Nat) (answer : Except AdapterError (List Item))
    (groups : List (Key × List Nat)) (decoded : List (Option Item))
  | finishing (sessionId : SessionId) (last : Bool)
  | finalizing (sessionId : SessionId) (last : Bool) (answer : Except AdapterError Item)
  | closing

/-- The call is behind its first step. -/
def Suspended.Entered {Key Item : Type} : Suspended Key Item → Prop
  | .begun _ _ => False
  | _ => True

/-- The sessions that a request names: `close` is for all of them. -/
def Request.named : Request → Set SessionId
  | .openSession sessionId _ _ _ => {sessionId}
  | .submit jobs => { sessionId | ∃ job ∈ jobs, job.sessionId = sessionId }
  | .finish sessionId _ => {sessionId}
  | .abort sessionId => {sessionId}
  | .drain => ∅
  | .close => Set.univ

/-- The flags behind the first step of a call. -/
def Request.marks : Request → Flags → Flags
  | .drain, flags | .close, flags => { flags with ready := false }
  | _, flags => flags

/-- The flags behind the last step of a call that waited. -/
def Suspended.leaves {Key Item : Type} : Suspended Key Item → Flags → Flags
  | .closing, flags => { flags with loaded := false }
  | _, flags => flags

namespace RollingSessions
variable {State Key Item Final : Type} [DecidableEq Key] (backend : RollingSessions State Key Item Final)

/-- What a call of `finish_segment` or `finish_session` does with its final text. -/
def conclusion (sessionId : SessionId) (last : Bool) (concluded : Except AdapterError (Final × State))
    (sessions : SessionId → Option State) : (SessionId → Option State) × Except AdapterError Answer :=
  match concluded with
  | .error exc => (sessions,.error exc)
  | .ok (final,next) =>
    (fun other => if other = sessionId then (if last then none else some next) else sessions other,
      .ok (.finished (backend.resultOf next final last)))

/-- The first part of `submit`, up to its first group. -/
def startBatch (flags : Flags) (jobs : List InferenceJob) (sessions : SessionId → Option State) :
    (SessionId → Option State) × (Suspended Key Item ⊕ Except AdapterError Answer) :=
  let adapter : Adapter State := ⟨flags.ready,flags.loaded,sessions⟩
  if !flags.ready || !flags.loaded then (sessions,.inr (.error (.raised (.runtimeError backend.notReady)))) else
  if jobs = [] ∨ backend.maxBatchItems < jobs.length then
    (sessions,.inr (.error (.raised (.valueError backend.outsideLimits)))) else
  match backend.check adapter jobs [] with
  | .error exc => (sessions,.inr (.error exc))
  | .ok () =>
    let extended := backend.extendAll adapter jobs
    let entries := Rolling.entries extended jobs
    match Rolling.stableBatchId jobs with
    | .error exc => (extended.sessions,.inr (.error exc))
    | .ok () =>
      (extended.sessions,.inl (.decoding jobs (group (entries.map fun entry => backend.key entry.1 entry.2))
        (List.replicate entries.length none)))

/-- A step of a call, from one suspension to the next. -/
def advance : Suspended Key Item → (SessionId → Option State) →
    (SessionId → Option State) × (Suspended Key Item ⊕ Except AdapterError Answer)
  | .begun flags (.openSession sessionId language task timestamps), sessions =>
    let (reply,next) := backend.openSession sessionId language task timestamps ⟨flags.ready,flags.loaded,sessions⟩
    (next.sessions,.inr (reply.map .opened))
  | .begun flags (.submit jobs), sessions => backend.startBatch flags jobs sessions
  | .begun flags (.finish sessionId last), sessions =>
    match sessions sessionId with
    | none => (sessions,.inr (.error (.raised (.keyError "stale session"))))
    | some state =>
      if (backend.cachedFinal state).isNone ∧ backend.pcm state ≠ [] ∧ (flags.ready && flags.loaded) = true then
        (sessions,.inl (.finishing sessionId last))
      else
        let (next,reply) := backend.conclusion sessionId last (backend.consumeFinal (flags.ready && flags.loaded) state) sessions
        (next,.inr reply)
  | .begun _ (.abort sessionId), sessions =>
    (fun other => if other = sessionId then none else sessions other,.inr (.ok .aborted))
  | .begun _ .drain, sessions => (sessions,.inr (.ok .drained))
  | .begun flags .close, _ => (fun _ => none,if flags.loaded then .inl .closing else .inr (.ok .closed))
  | .decoding jobs [] decoded, sessions =>
    let (reply,next) := backend.settleAll ⟨true,true,sessions⟩ (jobs.zip decoded)
    (next.sessions,.inr (reply.map .results))
  | .decoding jobs ((key,indices) :: groups) decoded, sessions =>
    match indices.mapM (backend.waveform (Rolling.entries ⟨true,true,sessions⟩ jobs)) with
    | .error exc => (sessions,.inr (.error exc))
    | .ok waveforms => (sessions,.inl (.asked jobs indices (backend.decode key waveforms) groups decoded))
  | .asked jobs indices answer groups decoded, sessions =>
    match answer with
    | .error exc => (sessions,.inr (.error exc))
    | .ok items => (sessions,.inl (.decoding jobs groups (scatter indices items decoded)))
  | .finishing sessionId last, sessions =>
    match sessions sessionId with
    | none => (sessions,.inr (.error (.raised (.keyError "stale session"))))
    | some state =>
      match pcmToFloat32 (backend.pcm state) with
      | .error exc => (sessions,.inr (.error exc))
      | .ok waveform => (sessions,.inl (.finalizing sessionId last (backend.decodeFinal state waveform)))
  | .finalizing sessionId last answer, sessions =>
    match sessions sessionId with
    | none => (sessions,.inr (.error (.raised (.keyError "stale session"))))
    | some state =>
      let (next,reply) := backend.conclusion sessionId last
        (answer.map fun item => (backend.finalOf item,backend.clear (backend.conclude item state))) sessions
      (next,.inr reply)
  | .closing, sessions => (sessions,.inr (.ok .closed))

/-- The sessions that a call may use. -/
def used : Suspended Key Item → Set SessionId
  | .begun _ request => request.named
  | .decoding jobs _ _ => (Request.submit jobs).named
  | .asked jobs _ _ _ _ => (Request.submit jobs).named
  | .finishing sessionId _ => {sessionId}
  | .finalizing sessionId _ _ => {sessionId}
  | .closing => ∅

/-- The calls of an adapter. -/
def calls : Calls SessionId (Option State) Flags Request (Suspended Key Item) (Except AdapterError Answer) where
  enter := .begun
  marks := Request.marks
  leaves := Suspended.leaves
  advance := backend.advance
  keys := used

end RollingSessions

namespace Rolling
variable {State Key Item : Type} (backend : Rolling State Key Item) {adapter other : Adapter State}

/-- Two adapters that have the sessions of the jobs in common. -/
def Shared (adapter other : Adapter State) (jobs : List InferenceJob) : Prop :=
  Set.EqOn adapter.sessions other.sessions (Request.submit jobs).named

variable {backend}

theorem Shared.head {job : InferenceJob} {rest : List InferenceJob} (same : Shared adapter other (job :: rest)) :
    adapter.sessions job.sessionId = other.sessions job.sessionId := same ⟨job,List.mem_cons_self ..,rfl⟩

theorem Shared.tail {job : InferenceJob} {rest : List InferenceJob} (same : Shared adapter other (job :: rest)) :
    Shared adapter other rest := by
  rintro sessionId ⟨later,inside,rfl⟩
  exact same ⟨later,List.mem_cons_of_mem _ inside,rfl⟩

theorem modify_same {sessionId session : SessionId} {change : State → State}
    (same : adapter.sessions session = other.sessions session) :
    (adapter.modify sessionId change).sessions session = (other.modify sessionId change).sessions session := by
  simp only [Adapter.modify,same]

theorem check_shared {jobs : List InferenceJob} {seen : List SessionId} (same : Shared adapter other jobs) :
    backend.check adapter jobs seen = backend.check other jobs seen := by
  induction jobs generalizing seen with
  | nil => rfl
  | cons job rest ih => simp only [check,same.head,ih same.tail]

theorem extendAll_apart {jobs : List InferenceJob} {sessionId : SessionId}
    (apart : sessionId ∉ (Request.submit jobs).named) :
    (backend.extendAll adapter jobs).sessions sessionId = adapter.sessions sessionId := by
  induction jobs generalizing adapter with
  | nil => rfl
  | cons job rest ih =>
    have first : sessionId ≠ job.sessionId := fun own => apart ⟨job,List.mem_cons_self ..,own.symm⟩
    have later : sessionId ∉ (Request.submit rest).named := by
      rintro ⟨named,inside,own⟩
      exact apart ⟨named,List.mem_cons_of_mem _ inside,own⟩
    exact (ih later).trans (Adapter.modify_other first)

theorem extendAll_shared {jobs : List InferenceJob} {sessionId : SessionId}
    (same : adapter.sessions sessionId = other.sessions sessionId) :
    (backend.extendAll adapter jobs).sessions sessionId = (backend.extendAll other jobs).sessions sessionId := by
  induction jobs generalizing adapter other with
  | nil => exact same
  | cons job rest ih => exact ih (modify_same same)

theorem entries_shared {jobs : List InferenceJob} (same : Shared adapter other jobs) :
    entries adapter jobs = entries other jobs := by
  refine List.filterMap_congr fun job inside => ?_
  rw [show adapter.sessions job.sessionId = other.sessions job.sessionId from same ⟨job,inside,rfl⟩]

theorem settleAll_apart {settled : List (InferenceJob × Option Item)} {sessionId : SessionId}
    (apart : ∀ entry ∈ settled, sessionId ≠ entry.1.sessionId) :
    (backend.settleAll adapter settled).2.sessions sessionId = adapter.sessions sessionId := by
  induction settled generalizing adapter with
  | nil => rfl
  | cons entry rest ih =>
    obtain ⟨job,item⟩ := entry
    obtain ⟨first,later⟩ := List.forall_mem_cons.mp apart
    cases item with
    | none => rfl
    | some item =>
      simp only [settleAll]
      cases adapter.sessions job.sessionId with
      | none => rfl
      | some state => exact (ih later).trans (Adapter.modify_other first)

theorem settleAll_shared (backend : Rolling State Key Item) (adapter other : Adapter State)
    (settled : List (InferenceJob × Option Item)) (same : Shared adapter other (settled.map Prod.fst)) :
    (backend.settleAll adapter settled).1 = (backend.settleAll other settled).1 ∧
      Shared (backend.settleAll adapter settled).2 (backend.settleAll other settled).2 (settled.map Prod.fst) := by
  induction settled generalizing adapter other with
  | nil => exact ⟨rfl,same⟩
  | cons entry rest ih =>
    obtain ⟨job,item⟩ := entry
    cases item with
    | none => exact ⟨rfl,same⟩
    | some item =>
      have here : adapter.sessions job.sessionId = other.sessions job.sessionId := same.head
      simp only [settleAll,here]
      cases found : other.sessions job.sessionId with
      | none => exact ⟨rfl,same⟩
      | some state =>
        set change := fun state => (backend.settle state job item).1
        have next : Shared (adapter.modify job.sessionId change) (other.modify job.sessionId change)
            (job :: rest.map Prod.fst) := fun sessionId inside => modify_same (same inside)
        obtain ⟨replies,stores⟩ := ih _ _ next.tail
        refine ⟨by rw [replies],?_⟩
        rintro sessionId ⟨named,inside,rfl⟩
        by_cases later : named.sessionId ∈ (Request.submit (rest.map Prod.fst)).named
        · exact stores later
        · have apart : ∀ entry ∈ rest, named.sessionId ≠ entry.1.sessionId := by
            intro entry member own
            exact later ⟨entry.1,List.mem_map.mpr ⟨entry,member,rfl⟩,own.symm⟩
          dsimp only
          rw [settleAll_apart apart,settleAll_apart apart]
          exact next ⟨named,inside,rfl⟩

end Rolling

/-! ## Every call keeps to its sessions -/

namespace RollingSessions
variable {State Key Item Final : Type} [DecidableEq Key] (backend : RollingSessions State Key Item Final)
  {sessions others : SessionId → Option State}

omit [DecidableEq Key] in
theorem conclusion_apart {sessionId other : SessionId} {last : Bool} {concluded : Except AdapterError (Final × State)}
    (apart : other ≠ sessionId) : (backend.conclusion sessionId last concluded sessions).1 other = sessions other := by
  cases concluded with
  | error exc => rfl
  | ok final => exact if_neg apart

omit [DecidableEq Key] in
theorem conclusion_shared {sessionId : SessionId} (last : Bool) (concluded : Except AdapterError (Final × State))
    (same : sessions sessionId = others sessionId) :
    (backend.conclusion sessionId last concluded sessions).2 = (backend.conclusion sessionId last concluded others).2 ∧
      (backend.conclusion sessionId last concluded sessions).1 sessionId =
        (backend.conclusion sessionId last concluded others).1 sessionId := by
  cases concluded with
  | error exc => exact ⟨rfl,same⟩
  | ok final => exact ⟨rfl,by simp [conclusion]⟩

omit [DecidableEq Key] in
/-- What opening a session looks at, and what it changes. -/
theorem openSession_own (sessions others : SessionId → Option State) (flags : Flags) (sessionId : SessionId) (language : Option Text) (task : Text)
    (timestamps : Bool) :
    (∀ other ≠ sessionId, (backend.openSession sessionId language task timestamps
      ⟨flags.ready,flags.loaded,sessions⟩).2.sessions other = sessions other) ∧
    (sessions sessionId = others sessionId →
      (backend.openSession sessionId language task timestamps ⟨flags.ready,flags.loaded,sessions⟩).1 =
        (backend.openSession sessionId language task timestamps ⟨flags.ready,flags.loaded,others⟩).1 ∧
      (backend.openSession sessionId language task timestamps ⟨flags.ready,flags.loaded,sessions⟩).2.sessions sessionId =
        (backend.openSession sessionId language task timestamps ⟨flags.ready,flags.loaded,others⟩).2.sessions sessionId) := by
  unfold openSession
  dsimp only
  constructor
  · intro other apart
    split
    · rfl
    · exact if_neg apart
  · intro same
    rw [same]
    split
    · exact ⟨rfl,same⟩
    · exact ⟨rfl,by simp⟩

theorem startBatch_apart (flags : Flags) {jobs : List InferenceJob} {sessionId : SessionId}
    (apart : sessionId ∉ (Request.submit jobs).named) :
    (backend.startBatch flags jobs sessions).1 sessionId = sessions sessionId := by
  unfold startBatch
  dsimp only
  split
  · rfl
  split
  · rfl
  cases backend.check ⟨flags.ready,flags.loaded,sessions⟩ jobs [] with
  | error exc => rfl
  | ok => cases Rolling.stableBatchId jobs <;> exact Rolling.extendAll_apart apart

theorem startBatch_shared (flags : Flags) {jobs : List InferenceJob}
    (same : Set.EqOn sessions others (Request.submit jobs).named) :
    (backend.startBatch flags jobs sessions).2 = (backend.startBatch flags jobs others).2 ∧
      Set.EqOn (backend.startBatch flags jobs sessions).1 (backend.startBatch flags jobs others).1 (Request.submit jobs).named := by
  have checked : backend.check ⟨flags.ready,flags.loaded,sessions⟩ jobs [] =
      backend.check ⟨flags.ready,flags.loaded,others⟩ jobs [] := Rolling.check_shared same
  have extended : Rolling.Shared (backend.extendAll ⟨flags.ready,flags.loaded,sessions⟩ jobs)
      (backend.extendAll ⟨flags.ready,flags.loaded,others⟩ jobs) jobs := fun sessionId inside =>
    Rolling.extendAll_shared (same inside)
  unfold startBatch
  dsimp only
  rw [checked,Rolling.entries_shared extended]
  split
  · exact ⟨rfl,same⟩
  split
  · exact ⟨rfl,same⟩
  cases backend.check ⟨flags.ready,flags.loaded,others⟩ jobs [] with
  | error exc => exact ⟨rfl,same⟩
  | ok => cases Rolling.stableBatchId jobs <;> exact ⟨rfl,extended⟩

omit [DecidableEq Key] in
theorem zip_named {jobs : List InferenceJob} {decoded : List (Option Item)} :
    (Request.submit ((jobs.zip decoded).map Prod.fst)).named ⊆ (Request.submit jobs).named := by
  rintro sessionId ⟨job,inside,rfl⟩
  obtain ⟨entry,member,rfl⟩ := List.mem_map.mp inside
  exact ⟨entry.1,(List.of_mem_zip member).1,rfl⟩

/-- A step changes only the sessions that the call uses. -/
theorem advance_writes (call : Suspended Key Item) (sessions : SessionId → Option State) :
    Set.EqOn (backend.advance call sessions).1 sessions (used call)ᶜ := by
  intro session outside
  cases call with
  | begun flags request =>
    cases request with
    | openSession sessionId language task timestamps =>
      exact (backend.openSession_own sessions sessions flags sessionId language task timestamps).1 session outside
    | submit jobs => exact backend.startBatch_apart flags outside
    | finish sessionId last =>
      simp only [advance]
      split
      · rfl
      split
      · rfl
      · exact backend.conclusion_apart outside
    | abort sessionId => exact if_neg outside
    | drain => rfl
    | close => exact absurd (Set.mem_univ session) outside
  | decoding jobs groups decoded =>
    cases groups with
    | nil =>
      refine Rolling.settleAll_apart fun entry inside own => outside ?_
      exact zip_named ⟨entry.1,List.mem_map.mpr ⟨entry,inside,rfl⟩,own.symm⟩
    | cons group groups =>
      simp only [advance]
      split <;> rfl
  | asked jobs indices answer groups decoded => cases answer <;> rfl
  | finishing sessionId last =>
    simp only [advance]
    split
    · rfl
    split <;> rfl
  | finalizing sessionId last answer =>
    simp only [advance]
    split
    · rfl
    · exact backend.conclusion_apart outside
  | closing => rfl

/-- A step depends only on the sessions that the call uses. -/
theorem advance_reads (call : Suspended Key Item) (sessions others : SessionId → Option State)
    (same : Set.EqOn sessions others (used call)) :
    (backend.advance call sessions).2 = (backend.advance call others).2 ∧
      Set.EqOn (backend.advance call sessions).1 (backend.advance call others).1 (used call) := by
  cases call with
  | begun flags request =>
    cases request with
    | openSession sessionId language task timestamps =>
      obtain ⟨replies,stores⟩ := (backend.openSession_own sessions others flags sessionId language task timestamps).2
        (same (Set.mem_singleton sessionId))
      refine ⟨by simp only [advance,replies],?_⟩
      rintro session rfl
      exact stores
    | submit jobs => exact backend.startBatch_shared flags same
    | finish sessionId last =>
      have own : sessions sessionId = others sessionId := same (Set.mem_singleton sessionId)
      simp only [advance,own]
      cases others sessionId with
      | none => exact ⟨rfl,same⟩
      | some state =>
        dsimp only
        split
        · exact ⟨rfl,same⟩
        · obtain ⟨replies,stores⟩ := backend.conclusion_shared last
            (backend.consumeFinal (flags.ready && flags.loaded) state) own
          refine ⟨by rw [replies],?_⟩
          rintro session rfl
          exact stores
    | abort sessionId =>
      refine ⟨rfl,?_⟩
      rintro session rfl
      simp [advance]
    | drain => exact ⟨rfl,same⟩
    | close => exact ⟨rfl,fun _ _ => rfl⟩
  | decoding jobs groups decoded =>
    cases groups with
    | nil =>
      obtain ⟨replies,stores⟩ := Rolling.settleAll_shared backend.toRolling ⟨true,true,sessions⟩ ⟨true,true,others⟩
        (jobs.zip decoded) fun session inside => same (zip_named inside)
      refine ⟨by simp only [advance,replies],fun session inside => ?_⟩
      by_cases settled : session ∈ (Request.submit ((jobs.zip decoded).map Prod.fst)).named
      · exact stores settled
      · have apart : ∀ entry ∈ jobs.zip decoded, session ≠ entry.1.sessionId := by
          intro entry member own
          exact settled ⟨entry.1,List.mem_map.mpr ⟨entry,member,rfl⟩,own.symm⟩
        simp only [advance]
        rw [Rolling.settleAll_apart apart,Rolling.settleAll_apart apart]
        exact same inside
    | cons group groups =>
      have entries : Rolling.entries ⟨true,true,sessions⟩ jobs = Rolling.entries ⟨true,true,others⟩ jobs :=
        Rolling.entries_shared same
      simp only [advance,entries]
      split
      · exact ⟨rfl,same⟩
      · exact ⟨rfl,same⟩
  | asked jobs indices answer groups decoded => cases answer <;> exact ⟨rfl,same⟩
  | finishing sessionId last =>
    have own : sessions sessionId = others sessionId := same (Set.mem_singleton sessionId)
    simp only [advance,own]
    cases others sessionId with
    | none => exact ⟨rfl,same⟩
    | some state =>
      dsimp only
      split
      · exact ⟨rfl,same⟩
      · exact ⟨rfl,same⟩
  | finalizing sessionId last answer =>
    have own : sessions sessionId = others sessionId := same (Set.mem_singleton sessionId)
    simp only [advance,own]
    cases others sessionId with
    | none => exact ⟨rfl,same⟩
    | some state =>
      dsimp only
      obtain ⟨replies,stores⟩ := backend.conclusion_shared last
        (answer.map fun item => (backend.finalOf item,backend.clear (backend.conclude item state))) own
      refine ⟨by rw [replies],?_⟩
      rintro session rfl
      exact stores
  | closing => exact ⟨rfl,same⟩

/-- A call that goes on has begun, and uses no other sessions. -/
theorem advance_goesOn (call : Suspended Key Item) (sessions : SessionId → Option State) (later : Suspended Key Item)
    (goesOn : (backend.advance call sessions).2 = .inl later) : used later ⊆ used call ∧ later.Entered := by
  cases call with
  | begun flags request =>
    cases request with
    | openSession sessionId language task timestamps => simp [advance] at goesOn
    | submit jobs =>
      simp only [advance,startBatch] at goesOn
      split at goesOn
      · simp at goesOn
      split at goesOn
      · simp at goesOn
      split at goesOn
      · simp at goesOn
      split at goesOn
      · simp at goesOn
      · cases goesOn
        exact ⟨subset_rfl,trivial⟩
    | finish sessionId last =>
      simp only [advance] at goesOn
      split at goesOn
      · simp at goesOn
      split at goesOn
      · cases goesOn
        exact ⟨subset_rfl,trivial⟩
      · simp at goesOn
    | abort sessionId => simp [advance] at goesOn
    | drain => simp [advance] at goesOn
    | close =>
      simp only [advance] at goesOn
      split at goesOn
      · cases goesOn
        exact ⟨Set.empty_subset _,trivial⟩
      · simp at goesOn
  | decoding jobs groups decoded =>
    cases groups with
    | nil => simp [advance] at goesOn
    | cons group groups =>
      simp only [advance] at goesOn
      split at goesOn
      · simp at goesOn
      · cases goesOn
        exact ⟨subset_rfl,trivial⟩
  | asked jobs indices answer groups decoded =>
    cases answer with
    | error exc => simp [advance] at goesOn
    | ok items =>
      cases goesOn
      exact ⟨subset_rfl,trivial⟩
  | finishing sessionId last =>
    simp only [advance] at goesOn
    split at goesOn
    · simp at goesOn
    split at goesOn
    · simp at goesOn
    · cases goesOn
      exact ⟨subset_rfl,trivial⟩
  | finalizing sessionId last answer =>
    simp only [advance] at goesOn
    split at goesOn
    · simp at goesOn
    · simp at goesOn
  | closing => simp [advance] at goesOn

omit [DecidableEq Key] in
/-- Settling looks at the sessions only. -/
theorem settleAll_flags {ready loaded : Bool} {settled : List (InferenceJob × Option Item)} :
    backend.settleAll ⟨ready,loaded,sessions⟩ settled =
      ((backend.settleAll ⟨true,true,sessions⟩ settled).1,
        ⟨ready,loaded,(backend.settleAll ⟨true,true,sessions⟩ settled).2.sessions⟩) := by
  induction settled generalizing sessions with
  | nil => rfl
  | cons entry rest ih =>
    obtain ⟨job,item⟩ := entry
    cases item with
    | none => rfl
    | some item =>
      simp only [Rolling.settleAll]
      cases sessions job.sessionId with
      | none => rfl
      | some state =>
        dsimp only [Adapter.modify]
        rw [ih]

/-- The rest of `submit` from its groups on. -/
def remainder (jobs : List InferenceJob) (groups : List (Key × List Nat)) (decoded : List (Option Item))
    (sessions : SessionId → Option State) : (SessionId → Option State) × Except AdapterError Answer :=
  match runGroups (backend.waveform (Rolling.entries ⟨true,true,sessions⟩ jobs)) backend.decode groups decoded with
  | .error exc => (sessions,.error exc)
  | .ok decoded =>
    let (reply,next) := backend.settleAll ⟨true,true,sessions⟩ (jobs.zip decoded)
    (next.sessions,reply.map .results)

omit [DecidableEq Key] in
theorem remainder_cons {jobs : List InferenceJob} {key : Key} {indices : List Nat} {groups : List (Key × List Nat)}
    {decoded : List (Option Item)} : backend.remainder jobs ((key,indices) :: groups) decoded sessions =
      match indices.mapM (backend.waveform (Rolling.entries ⟨true,true,sessions⟩ jobs)) with
      | .error exc => (sessions,.error exc)
      | .ok waveforms =>
        match backend.decode key waveforms with
        | .error exc => (sessions,.error exc)
        | .ok items => backend.remainder jobs groups (scatter indices items decoded) sessions := by
  rw [remainder,runGroups]
  cases indices.mapM (backend.waveform (Rolling.entries ⟨true,true,sessions⟩ jobs)) with
  | error exc => rfl
  | ok waveforms =>
    dsimp only
    cases decodes : backend.decode key waveforms with
    | error exc => simp only [bind,Except.bind,decodes]
    | ok items =>
      simp only [bind,Except.bind,decodes]
      rfl

theorem decoding_completes (jobs : List InferenceJob) (groups : List (Key × List Nat)) (decoded : List (Option Item))
    (sessions : SessionId → Option State) :
    backend.calls.Completes (.decoding jobs groups decoded) sessions (backend.remainder jobs groups decoded sessions).1
      (backend.remainder jobs groups decoded sessions).2 := by
  induction groups generalizing decoded with
  | nil => exact .answered rfl
  | cons group groups ih =>
    obtain ⟨key,indices⟩ := group
    rw [remainder_cons]
    cases read : indices.mapM (backend.waveform (Rolling.entries ⟨true,true,sessions⟩ jobs)) with
    | error exc => exact .answered (by simp [calls,advance,read])
    | ok waveforms =>
      have stepped : backend.calls.advance (.decoding jobs ((key,indices) :: groups) decoded) sessions =
          (sessions,.inl (.asked jobs indices (backend.decode key waveforms) groups decoded)) := by
        simp [calls,advance,read]
      refine .resumed stepped ?_
      dsimp only
      cases backend.decode key waveforms with
      | error exc => exact .answered rfl
      | ok items => exact .resumed rfl (ih (scatter indices items decoded))

theorem submit_completes (flags : Flags) (jobs : List InferenceJob) (sessions : SessionId → Option State) :
    backend.calls.Completes (.begun flags (.submit jobs)) sessions
      (backend.perform (.submit jobs) ⟨flags.ready,flags.loaded,sessions⟩).2.sessions
      (backend.perform (.submit jobs) ⟨flags.ready,flags.loaded,sessions⟩).1 := by
  by_cases idle : (!flags.ready || !flags.loaded) = true
  · have refused : backend.submit jobs ⟨flags.ready,flags.loaded,sessions⟩ =
        (.error (.raised (.runtimeError backend.notReady)),⟨flags.ready,flags.loaded,sessions⟩) := if_pos idle
    rw [perform,refused]
    exact .answered (by simp only [calls,advance,startBatch,if_pos idle]; rfl)
  by_cases limits : jobs = [] ∨ backend.maxBatchItems < jobs.length
  · have refused : backend.submit jobs ⟨flags.ready,flags.loaded,sessions⟩ =
        (.error (.raised (.valueError backend.outsideLimits)),⟨flags.ready,flags.loaded,sessions⟩) := by
      rw [Rolling.submit,if_neg idle,if_pos limits]
    rw [perform,refused]
    exact .answered (by simp only [calls,advance,startBatch,if_neg idle,if_pos limits]; rfl)
  cases checked : backend.check ⟨flags.ready,flags.loaded,sessions⟩ jobs [] with
  | error exc =>
    have refused : backend.submit jobs ⟨flags.ready,flags.loaded,sessions⟩ =
        (.error exc,⟨flags.ready,flags.loaded,sessions⟩) := by
      rw [Rolling.submit,if_neg idle,if_neg limits,checked]
    rw [perform,refused]
    exact .answered (by simp only [calls,advance,startBatch,if_neg idle,if_neg limits,checked]; rfl)
  | ok =>
    cases named : Rolling.stableBatchId jobs with
    | error exc =>
      have refused : backend.submit jobs ⟨flags.ready,flags.loaded,sessions⟩ =
          (.error exc,backend.extendAll ⟨flags.ready,flags.loaded,sessions⟩ jobs) := by
        rw [Rolling.submit,if_neg idle,if_neg limits,checked]
        simp only [named]
      rw [perform,refused]
      exact .answered (by simp only [calls,advance,startBatch,if_neg idle,if_neg limits,checked,named]; rfl)
    | ok =>
      refine .resumed (by simp only [calls,advance,startBatch,if_neg idle,if_neg limits,checked,named]; rfl) ?_
      rw [perform,Rolling.submit,if_neg idle,if_neg limits,checked]
      simp only [named]
      generalize grown : backend.extendAll ⟨flags.ready,flags.loaded,sessions⟩ jobs = extended
      have rests := backend.decoding_completes jobs
        (group ((Rolling.entries extended jobs).map fun entry => backend.key entry.1 entry.2))
        (List.replicate (Rolling.entries extended jobs).length none) extended.sessions
      unfold remainder at rests
      rw [show Rolling.entries ⟨true,true,extended.sessions⟩ jobs = Rolling.entries extended jobs from rfl] at rests
      rw [Rolling.decodeAll]
      cases decodes : runGroups (backend.waveform (Rolling.entries extended jobs)) backend.decode
          (group ((Rolling.entries extended jobs).map fun entry => backend.key entry.1 entry.2))
          (List.replicate (Rolling.entries extended jobs).length none) with
      | error exc =>
        rw [decodes] at rests
        exact rests
      | ok decoded =>
        rw [decodes] at rests
        dsimp only at rests ⊢
        rw [show extended = ⟨extended.ready,extended.loaded,extended.sessions⟩ from rfl,settleAll_flags]
        exact rests

/-- A call of `finish_segment` or `finish_session` that finds its session. -/
theorem perform_finish {adapter : Adapter State} {sessionId : SessionId} {last : Bool} {state : State}
    (found : adapter.sessions sessionId = some state) :
    let concluded := backend.consumeFinal (adapter.ready && adapter.loaded) state
    backend.perform (.finish sessionId last) adapter = ((backend.conclusion sessionId last concluded adapter.sessions).2,
      { adapter with sessions := (backend.conclusion sessionId last concluded adapter.sessions).1 }) := by
  simp only [perform,finish,found,conclusion]
  cases backend.consumeFinal (adapter.ready && adapter.loaded) state with
  | error exc => rfl
  | ok final =>
    refine Prod.ext rfl ?_
    cases last with
    | true => rfl
    | false =>
      simp only [Adapter.modify,Bool.false_eq_true,if_false,Adapter.mk.injEq,true_and]
      funext other
      by_cases own : other = sessionId
      · simp [own,found]
      · simp [own]

theorem finish_completes (flags : Flags) (sessionId : SessionId) (last : Bool) (sessions : SessionId → Option State) :
    backend.calls.Completes (.begun flags (.finish sessionId last)) sessions
      (backend.perform (.finish sessionId last) ⟨flags.ready,flags.loaded,sessions⟩).2.sessions
      (backend.perform (.finish sessionId last) ⟨flags.ready,flags.loaded,sessions⟩).1 := by
  cases found : sessions sessionId with
  | none =>
    have refused : backend.finish sessionId last ⟨flags.ready,flags.loaded,sessions⟩ =
        (.error (.raised (.keyError "stale session")),⟨flags.ready,flags.loaded,sessions⟩) := by simp only [finish,found]
    rw [perform,refused]
    exact .answered (by simp only [calls,advance,found]; rfl)
  | some state =>
    rw [backend.perform_finish found]
    by_cases waits : (backend.cachedFinal state).isNone ∧ backend.pcm state ≠ [] ∧ (flags.ready && flags.loaded) = true
    · have stepped : backend.calls.advance (.begun flags (.finish sessionId last)) sessions =
          (sessions,.inl (.finishing sessionId last)) := by simp only [calls,advance,found,if_pos waits]
      refine .resumed stepped ?_
      obtain ⟨uncached,some,ready⟩ := waits
      have consumes : backend.consumeFinal (flags.ready && flags.loaded) state =
          match pcmToFloat32 (backend.pcm state) with
          | .error exc => .error exc
          | .ok waveform => (backend.decodeFinal state waveform).map fun item =>
            (backend.finalOf item,backend.clear (backend.conclude item state)) := by
        simp only [consumeFinal,Option.isNone_iff_eq_none.mp uncached,if_neg some,ready,Bool.not_true,
          Bool.false_eq_true,if_false]
        cases pcmToFloat32 (backend.pcm state) with
        | error exc => rfl
        | ok waveform => cases decodes : backend.decodeFinal state waveform <;> simp [Except.map,decodes]
      rw [consumes]
      cases reads : pcmToFloat32 (backend.pcm state) with
      | error exc => exact .answered (by simp only [calls,advance,found,reads]; rfl)
      | ok waveform =>
        have asked : backend.calls.advance (.finishing sessionId last) sessions =
            (sessions,.inl (.finalizing sessionId last (backend.decodeFinal state waveform))) := by
          simp only [calls,advance,found,reads]
        refine .resumed asked (.answered ?_)
        simp only [calls,advance,found]
    · exact .answered (by simp only [calls,advance,found,if_neg waits])

/-- Whole, a call does what `perform` does. -/
theorem begun_completes (flags : Flags) (request : Request) (sessions : SessionId → Option State) :
    backend.calls.Completes (.begun flags request) sessions
      (backend.perform request ⟨flags.ready,flags.loaded,sessions⟩).2.sessions
      (backend.perform request ⟨flags.ready,flags.loaded,sessions⟩).1 := by
  cases request with
  | openSession sessionId language task timestamps => exact .answered rfl
  | submit jobs => exact backend.submit_completes flags jobs sessions
  | finish sessionId last => exact backend.finish_completes flags sessionId last sessions
  | abort sessionId => exact .answered rfl
  | drain => exact .answered rfl
  | close =>
    cases loaded : flags.loaded with
    | true => exact .resumed (by simp only [calls,advance,loaded]; rfl) (.answered rfl)
    | false => exact .answered (by simp only [calls,advance,loaded]; rfl)

theorem finalizing_ends (sessionId : SessionId) (last : Bool) (answer : Except AdapterError Item)
    (sessions : SessionId → Option State) :
    ∃ next reply, backend.calls.Completes (.finalizing sessionId last answer) sessions next reply := by
  cases found : sessions sessionId with
  | none => exact ⟨_,_,.answered (by simp only [calls,advance,found]; rfl)⟩
  | some state => exact ⟨_,_,.answered (by simp only [calls,advance,found]; rfl)⟩

theorem finishing_ends (sessionId : SessionId) (last : Bool) (sessions : SessionId → Option State) :
    ∃ next reply, backend.calls.Completes (.finishing sessionId last) sessions next reply := by
  cases found : sessions sessionId with
  | none => exact ⟨_,_,.answered (by simp only [calls,advance,found]; rfl)⟩
  | some state =>
    cases reads : pcmToFloat32 (backend.pcm state) with
    | error exc => exact ⟨_,_,.answered (by simp only [calls,advance,found,reads]; rfl)⟩
    | ok waveform =>
      obtain ⟨next,reply,ends⟩ := backend.finalizing_ends sessionId last (backend.decodeFinal state waveform) sessions
      exact ⟨next,reply,.resumed (by simp only [calls,advance,found,reads]) ends⟩

theorem calls_lawful : backend.calls.Lawful where
  writes := backend.advance_writes
  reads := backend.advance_reads
  narrows call sessions later goesOn := (backend.advance_goesOn call sessions later goesOn).1
  ends call sessions := by
    cases call with
    | begun flags request => exact ⟨_,_,backend.begun_completes flags request sessions⟩
    | decoding jobs groups decoded => exact ⟨_,_,backend.decoding_completes jobs groups decoded sessions⟩
    | asked jobs indices answer groups decoded =>
      cases answer with
      | error exc => exact ⟨_,_,.answered rfl⟩
      | ok items => exact ⟨_,_,.resumed rfl (backend.decoding_completes jobs groups (scatter indices items decoded) sessions)⟩
    | finishing sessionId last => exact backend.finishing_ends sessionId last sessions
    | finalizing sessionId last answer => exact backend.finalizing_ends sessionId last answer sessions
    | closing => exact ⟨_,_,.answered rfl⟩

/-! ## One after another -/

/-- A change of the flags, or a whole call with its reply. -/
def performOne {Id : Type} (done : List (Id × Except AdapterError Answer) × Adapter State) :
    Entry Flags Request Id → List (Id × Except AdapterError Answer) × Adapter State
  | .control change =>
    let flags := change ⟨done.2.ready,done.2.loaded⟩
    (done.1,{ done.2 with ready := flags.ready, loaded := flags.loaded })
  | .call id request => (done.1 ++ [(id,(backend.perform request done.2).1)],(backend.perform request done.2).2)

/-- The calls one after another. -/
def performAll {Id : Type} (entries : List (Entry Flags Request Id)) (adapter : Adapter State) :
    List (Id × Except AdapterError Answer) × Adapter State :=
  entries.foldl backend.performOne ([],adapter)

/-- A whole call of `close`, with what it makes of the flags when it answers. -/
theorem performAll_close {Id : Type} (id : Id) (adapter : Adapter State) :
    backend.performAll [.call id .close,.control (@Suspended.closing Key Item).leaves] adapter =
      ([(id,.ok .closed)],adapter.close) := rfl

omit [DecidableEq Key] in
theorem extendAll_flags (jobs : List InferenceJob) (adapter : Adapter State) :
    (backend.extendAll adapter jobs).ready = adapter.ready ∧ (backend.extendAll adapter jobs).loaded = adapter.loaded := by
  induction jobs generalizing adapter with
  | nil => exact ⟨rfl,rfl⟩
  | cons job rest ih => exact ih _

/-- What a whole call makes of the flags. -/
theorem perform_flags (request : Request) (adapter : Adapter State) :
    (backend.perform request adapter).2.ready = (request.marks ⟨adapter.ready,adapter.loaded⟩).ready ∧
      (backend.perform request adapter).2.loaded = (request.marks ⟨adapter.ready,adapter.loaded⟩).loaded := by
  cases request with
  | openSession sessionId language task timestamps =>
    simp only [perform,openSession]
    split <;> exact ⟨rfl,rfl⟩
  | submit jobs =>
    simp only [perform,Rolling.submit]
    split
    · exact ⟨rfl,rfl⟩
    split
    · exact ⟨rfl,rfl⟩
    split
    · exact ⟨rfl,rfl⟩
    split
    · exact backend.extendAll_flags jobs adapter
    split
    · exact backend.extendAll_flags jobs adapter
    · have extended := backend.extendAll_flags jobs adapter
      generalize backend.extendAll adapter jobs = grown at extended ⊢
      obtain ⟨ready,loaded,sessions⟩ := grown
      rw [settleAll_flags]
      exact extended
  | finish sessionId last =>
    simp only [perform,finish]
    split
    · exact ⟨rfl,rfl⟩
    split
    · exact ⟨rfl,rfl⟩
    · cases last <;> exact ⟨rfl,rfl⟩
  | abort sessionId => exact ⟨rfl,rfl⟩
  | drain => exact ⟨rfl,rfl⟩
  | close => exact ⟨rfl,rfl⟩

theorem serial_performs {Id : Type} {adapter : Adapter State} {entries : List (Entry Flags Request Id)} {flags : Flags}
    {sessions : SessionId → Option State} {replies : List (Id × Except AdapterError Answer)}
    (serial : Serial backend.calls ⟨adapter.ready,adapter.loaded⟩ adapter.sessions entries flags sessions replies) :
    backend.performAll entries adapter = (replies,⟨flags.ready,flags.loaded,sessions⟩) := by
  unfold performAll
  induction serial with
  | nil => rfl
  | control before change ih => rw [List.foldl_append,ih]; rfl
  | @call entries flags sessions last replies id request reply before completes ih =>
    obtain ⟨rfl,rfl⟩ := completes.unique (backend.begun_completes flags request sessions)
    obtain ⟨ready,loaded⟩ := backend.perform_flags request ⟨flags.ready,flags.loaded,sessions⟩
    rw [List.foldl_append,ih]
    simp only [List.foldl_cons,List.foldl_nil,performOne]
    generalize backend.perform request ⟨flags.ready,flags.loaded,sessions⟩ = done at ready loaded ⊢
    obtain ⟨answer,next⟩ := done
    obtain ⟨_,_,_⟩ := next
    cases ready
    cases loaded
    rfl

/-- Calls that overlap are answered as they are one after another, in the order in which they began. -/
def Serializes : Prop :=
  ∀ (adapter : Adapter State) (entries : List (Entry Flags Request Nat))
    (state : Running SessionId (Option State) Flags (Suspended Key Item) (Except AdapterError Answer) Nat),
    Run backend.calls ⟨⟨adapter.ready,adapter.loaded⟩,adapter.sessions,[],[]⟩ entries state →
      (∀ reply ∈ state.replies, reply ∈ (backend.performAll entries adapter).1) ∧
      (∀ sessionId, (∀ call ∈ state.flying, sessionId ∉ used call.2) →
        state.store sessionId = (backend.performAll entries adapter).2.sessions sessionId) ∧
      state.shared = ⟨(backend.performAll entries adapter).2.ready,(backend.performAll entries adapter).2.loaded⟩ ∧
      (state.flying = [] → state.replies.Perm (backend.performAll entries adapter).1)

theorem serializes : backend.Serializes := by
  intro adapter entries state run
  obtain ⟨serial,replies,owed,ran,follows⟩ := overlap_serial backend.calls_lawful run
  obtain ⟨_,flying,_,settled,_,told⟩ := follows
  rw [backend.serial_performs ran]
  refine ⟨fun reply inside => told.subset (List.mem_append_left _ inside),fun sessionId apart => ?_,rfl,fun quiet => ?_⟩
  · refine settled sessionId fun other inside => ?_
    exact apart (other.id,other.call) (flying ▸ List.mem_map.mpr ⟨other,inside,rfl⟩)
  · obtain rfl : owed = [] := List.map_eq_nil_iff.mp (flying.symm.trans quiet)
    simpa using told

end RollingSessions

/-- Calls of either adapter that overlap, no two of them for one session, are answered as the same
    calls are one after another in the order in which they began; between the calls that are under
    way, the sessions and the flags are what these leave. `close` is for all sessions until it has
    cleared them, and then waits for the engine. -/
theorem calls_serialize (whisper : FasterWhisperSettings) (whisperEngine : FasterWhisperEngine) (sense : SenseVoiceSettings)
    (senseEngine : SenseVoiceEngine) :
    (fasterWhisperSessions whisper whisperEngine).Serializes ∧ (senseVoiceSessions sense senseEngine).Serializes :=
  ⟨RollingSessions.serializes _,RollingSessions.serializes _⟩

end SpeechGateway.Microbatch
