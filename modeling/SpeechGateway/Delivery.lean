import SpeechGateway.Carrying
import SpeechGateway.Holdings

/-!
What the gateway delivers to its back ends. In every state that a run reaches, each session is
tended and its worker holds exactly the job of its reservation (`Delivering`), whatever the
handlers, the publications, the aborts and the workers do, and in whatever order.
-/
namespace SpeechGateway.Gateway
open SpeechGateway.Backends SpeechGateway.Sessions SpeechGateway.Scheduling SpeechGateway.Settlement SpeechGateway.Cancellation
  Programs

variable {V : Type} {config : GatewayConfig V} {runtime : GatewayRuntime V}

section
variable {stage : Stage}

/-- What is submitted and not cleaned up is not marked safe. -/
theorem cleanup_unmarked : ∀ job ∈ stage.hands.awaitingCleanup ++ stage.cleaning, job ∈ stage.hands.unmarked := by
  cases stage <;> simp [Stage.hands,Stage.cleaning] <;> grind

theorem submissions_unmarked : ∀ job ∈ stage.submissions, job ∈ stage.hands.unmarked := by
  cases stage <;> simp [Stage.hands,Stage.submissions]

theorem heldBack_jobs : ∀ job ∈ stage.hands.awaitingReject ++ stage.rejecting, job ∈ stage.jobs := by
  cases stage <;> simp [Stage.hands,Stage.rejecting,Stage.jobs] <;> grind

/-- While a result is published, nothing of its session is submitted. -/
theorem publishing_free (distinct : (stage.hands.unmarked.map (·.sessionId)).Nodup) {settlement : Settlement}
    (publishes : settlement ∈ stage.publishing) :
    ofSession settlement.1.sessionId (stage.hands.awaitingCleanup ++ stage.cleaning) = [] := by
  refine List.filter_eq_nil_iff.mpr fun job member => ?_
  cases stage <;> simp only [Stage.hands,Stage.publishing,Stage.cleaning,List.mem_singleton,List.not_mem_nil,List.map_cons,
    List.nodup_cons,List.append_nil] at publishes distinct member
  case publishCleanupFailed item rest failures =>
    subst publishes
    have other := ne_of_mem_of_not_mem (List.mem_map_of_mem member) distinct.1
    simpa using other
  case publish current rest failures =>
    subst publishes
    have other := ne_of_mem_of_not_mem (List.mem_map_of_mem member) distinct.1
    simpa using other

/-- The job that is cleaned up is the only one of its session that is submitted. -/
theorem cleaning_alone (distinct : (stage.hands.unmarked.map (·.sessionId)).Nodup) {job : InferenceJob}
    (cleans : stage.cleaning = [job]) :
    ofSession job.sessionId stage.hands.awaitingCleanup = [] := by
  refine List.filter_eq_nil_iff.mpr fun other member => ?_
  cases stage <;> simp only [Stage.cleaning,reduceCtorEq,List.cons.injEq,and_true] at cleans
  subst cleans
  simp only [Stage.hands,List.map_cons,List.nodup_cons] at distinct member
  have other := ne_of_mem_of_not_mem (List.mem_map_of_mem member) distinct.1
  simpa using other

end

theorem ofSession_perm (sessionId : SessionId) {jobs others : List InferenceJob} (perm : jobs.Perm others) :
    (ofSession sessionId jobs).Perm (ofSession sessionId others) := perm.filter _

/-- At most one job of the session is on its way. -/
theorem Kept.single {view : View V} {held dispatched : List InferenceJob} (kept : Kept view held dispatched) :
    (ofSession view.ctx.session.sessionId (view.scheduler.queues view.ctx.session.selectedWorkerId) ++ held ++
      dispatched).length ≤ 1 := by
  cases found : view.ctx.session.reservation with
  | some reservation =>
    obtain ⟨_,_,job,single,_⟩ := Custody.reserved kept reservation found
    exact Nat.le_of_eq (congrArg List.length single)
  | none =>
    obtain ⟨rfl,waits⟩ := Custody.unreserved kept found
    rw [List.append_nil]
    rcases waits with empty | ⟨_,job,single⟩
    · exact Nat.le_trans (Nat.le_of_eq (congrArg List.length empty)) (Nat.zero_le 1)
    · exact Nat.le_of_eq (congrArg List.length single)

/-- Lists of at most one element are equal when they are permuted. -/
theorem perm_short {jobs others : List InferenceJob} (perm : jobs.Perm others) (short : others.length ≤ 1) : jobs = others := by
  match others,short with
  | [],_ => exact perm.eq_nil
  | [job],_ => exact perm.eq_singleton

/-- The worker of the session that a key belongs to. -/
def Home (contexts : SessionId → Option (SessionContext V)) (key : SessionKey) (worker : WorkerId) : Prop :=
  ∃ ctx, contexts key.1 = some ctx ∧ ctx.session.selectedWorkerId = worker

theorem home_functional (contexts : SessionId → Option (SessionContext V)) (key : SessionKey) (first second : WorkerId)
    (atFirst : Home contexts key first) (atSecond : Home contexts key second) : first = second := by
  obtain ⟨ctx,found,rfl⟩ := atFirst
  obtain ⟨other,again,rfl⟩ := atSecond
  rw [found] at again
  cases again
  rfl

/-- A job of a session of the worker. -/
def AtHome (contexts : SessionId → Option (SessionContext V)) (worker : WorkerId) (job : InferenceJob) : Prop :=
  Home contexts job.key worker ∧ job.generation = 1 ∧ job.jobId ≠ []

/-- The jobs out of the queue that a worker has not rejected or submitted. -/
def heldBack (scheduler : GatewayScheduler) (worker : WorkerId) : List InferenceJob :=
  (scheduler.stages worker).hands.awaitingReject ++ (scheduler.stages worker).rejecting

/-- The jobs that a worker has submitted and not cleaned up. -/
def inSubmission (scheduler : GatewayScheduler) (worker : WorkerId) : List InferenceJob :=
  (scheduler.stages worker).hands.awaitingCleanup ++ (scheduler.stages worker).cleaning

/-- The calls of the adapters are in order: none submits a job of a session that was aborted. -/
structure Orderly (contexts : SessionId → Option (SessionContext V)) (calls : List AdapterCall) : Prop where
  unknown : ∀ sessionId, contexts sessionId = none → submittedJobs sessionId calls = []
  aborted : ∀ sessionId, .abortSession sessionId ∈ calls → ∃ ctx, contexts sessionId = some ctx ∧ 1 < ctx.session.generation
  after : calls.Pairwise fun earlier later => ∀ sessionId batch,
    earlier = .abortSession sessionId → later = .submit batch → ofSession sessionId batch = []

/-- The sessions of the gateway are tended, where each worker holds the jobs `held` back and has
    the jobs `dispatched` in submission. -/
structure Attended (config : GatewayConfig V) (runtime : GatewayRuntime V) (held dispatched : WorkerId → List InferenceJob) :
    Prop where
  guarded : Guarded (Home runtime.contexts) runtime.scheduler
  outside : Cancellation.Outside config.scheduler runtime.scheduler
  holds : ∀ worker, WorkerHolds (AtHome runtime.contexts worker) runtime.scheduler worker
  claimed : ∀ worker job, (runtime.scheduler.stages worker).claims.count job ≤ (runtime.scheduler.queues worker).count job
  orderly : Orderly runtime.contexts runtime.calls
  named : ∀ sessionId ctx, runtime.contexts sessionId = some ctx →
    ctx.session.sessionId = sessionId ∧ ctx.session.selectedWorkerId ∈ config.scheduler.workers
  tended : ∀ sessionId view, runtime.view sessionId = some view → Tended config view
    (ofSession sessionId (held view.ctx.session.selectedWorkerId))
    (ofSession sessionId (dispatched view.ctx.session.selectedWorkerId))

/-- No job is lost or doubled on its way from the sessions to the adapters. -/
abbrev Delivering (config : GatewayConfig V) (runtime : GatewayRuntime V) : Prop :=
  Attended config runtime (heldBack runtime.scheduler) (inSubmission runtime.scheduler)

theorem init_delivering : Delivering config .init where
  guarded := init_guarded _
  outside _ _ := ⟨rfl,rfl⟩
  holds _ := idle_held (by simp [GatewayRuntime.init,GatewayScheduler.init])
  claimed _ _ := Nat.zero_le _
  orderly := ⟨fun _ _ => rfl,by simp [GatewayRuntime.init],.nil⟩
  named _ _ found := by cases found
  tended _ _ found := by cases found

/-! ## A worker goes on -/

section
variable {held dispatched : WorkerId → List InferenceJob} {worker : WorkerId} {next : GatewayScheduler}

/-- What a session has waiting and in submission when its worker goes on from `hands`: nothing
    changes, or its job is submitted. -/
theorem advances_session {scheduler : GatewayScheduler} {hands : Hands} (advances : Advances scheduler worker hands next)
    (sessionId : SessionId)
    (single : (ofSession sessionId (scheduler.queues worker) ++ ofSession sessionId hands.awaitingReject ++
      ofSession sessionId hands.awaitingCleanup).length ≤ 1) :
    (ofSession sessionId (next.stages worker).submissions = [] ∧
      ofSession sessionId (next.queues worker) ++ ofSession sessionId (heldBack next worker) =
        ofSession sessionId (scheduler.queues worker) ++ ofSession sessionId hands.awaitingReject ∧
      ofSession sessionId (inSubmission next worker) = ofSession sessionId hands.awaitingCleanup) ∨
    ∃ job, ofSession sessionId (next.stages worker).submissions = [job] ∧
      ofSession sessionId (scheduler.queues worker) ++ ofSession sessionId hands.awaitingReject = [job] ∧
      ofSession sessionId hands.awaitingCleanup = [] ∧
      ofSession sessionId (next.queues worker) ++ ofSession sessionId (heldBack next worker) = [] ∧
      ofSession sessionId (inSubmission next worker) = [job] := by
  have leaving : (next.queues worker ++ heldBack next worker ++ (next.stages worker).submissions).Perm
      (scheduler.queues worker ++ hands.awaitingReject) := by
    refine List.perm_iff_count.mpr fun job => ?_
    have := advances.leaving job
    simp only [heldBack,List.count_append]
    omega
  have cleaning : (inSubmission next worker).Perm (hands.awaitingCleanup ++ (next.stages worker).submissions) := by
    refine List.perm_iff_count.mpr fun job => ?_
    have := advances.cleaning job
    simp only [inSubmission,List.count_append]
    omega
  have left := ofSession_perm sessionId leaving
  have cleaned := ofSession_perm sessionId cleaning
  simp only [ofSession_append] at left cleaned
  simp only [List.length_append] at single
  have lengths := left.length_eq
  simp only [List.length_append] at lengths
  cases submits : ofSession sessionId (next.stages worker).submissions with
  | nil =>
    rw [submits,List.append_nil] at left cleaned
    refine .inl ⟨rfl,perm_short left (by simp only [List.length_append]; omega),perm_short cleaned (by omega)⟩
  | cons job rest =>
    rw [submits] at left cleaned lengths
    simp only [List.length_cons] at lengths
    obtain rfl : rest = [] := List.length_eq_zero_iff.mp (by omega)
    have none : ofSession sessionId hands.awaitingCleanup = [] := List.length_eq_zero_iff.mp (by omega)
    have queue : ofSession sessionId (next.queues worker) = [] := List.length_eq_zero_iff.mp (by omega)
    have back : ofSession sessionId (heldBack next worker) = [] := List.length_eq_zero_iff.mp (by omega)
    rw [queue,back] at left
    rw [none] at cleaned
    refine .inr ⟨job,rfl,(perm_short left.symm (by simp)),none,by rw [queue,back]; rfl,perm_short cleaned (by simp)⟩

/-- A change of the scheduler keeps a session tended that stays stopped where it was. -/
theorem Tended.reschedule {view later : View V} {held dispatched heldLater dispatchedLater : List InferenceJob}
    (tended : Tended config view held dispatched) (same : later.ctx = view.ctx)
    (stopped : ∀ event, Stopped view event → Stopped later event) (kept : Kept later heldLater dispatchedLater) :
    Tended config later heldLater dispatchedLater where
  kept := kept
  position := by
    obtain ⟨early,finishing,ending,awaits,cleared⟩ := tended.position
    rw [← same] at early finishing ending awaits cleared
    exact ⟨early,finishing,ending,fun event stands => stopped _ (awaits event stands),fun stands => stopped _ (cleared stands)⟩
  publishes := by
    obtain ⟨failing,segmenting⟩ := tended.publishes
    rw [← same] at failing segmenting
    exact ⟨failing,segmenting⟩
  exclusive := by rw [same]; exact tended.exclusive
  events := by rw [same]; exact tended.events
  aborts task member := by
    rw [same] at member
    have allowed := tended.aborts task member
    cases task with
    | safe event => exact stopped _ allowed
    | adapter =>
      unfold Allowed at allowed ⊢
      rw [same]
      exact allowed

/-- Only jobs that are not cancelled are submitted. -/
theorem submissions_fresh {scheduler : GatewayScheduler} {unmarked : List InferenceJob}
    (moves : Cancellation.Moves scheduler worker unmarked next) :
    ∀ job ∈ (next.stages worker).submissions, job.key ∉ scheduler.cancelledGenerations := by
  intro job member
  cases moves with
  | quiet quiet =>
    rw [quiet.silent] at member
    cases member
  | marks item rest first marks =>
    rw [marks.silent] at member
    cases member
  | dispatches batch free dispatches =>
    have queued := dispatches.queued job (dispatches.unmarked.subset (submissions_unmarked job member))
    simpa [GatewayScheduler.isCancelled] using queued.2

/-- The calls after a worker went on. -/
theorem advanced_calls (runtime : GatewayRuntime V) (worker : WorkerId) (scheduler : GatewayScheduler) (sessionId : SessionId) :
    submittedJobs sessionId (runtime.advanced worker scheduler).calls =
      submittedJobs sessionId runtime.calls ++ ofSession sessionId (scheduler.stages worker).submissions := by
  unfold GatewayRuntime.advanced
  dsimp only
  split
  · rename_i none
    simp [none,ofSession]
  · simp [submittedJobs]

theorem view_known {sessionId : SessionId} {ctx : SessionContext V} (known : runtime.contexts sessionId = some ctx) :
    runtime.view sessionId = some ⟨ctx,runtime.scheduler,runtime.timelines,runtime.calls⟩ := by
  rw [GatewayRuntime.view,known]
  rfl

/-- A session in its worker's hands while the worker goes on. -/
structure Carrying (runtime : GatewayRuntime V) (worker : WorkerId) (next : GatewayScheduler) : Prop where
  advances : Advances runtime.scheduler worker (runtime.scheduler.stages worker).hands next
  moves : Cancellation.Moves runtime.scheduler worker (runtime.scheduler.stages worker).hands.unmarked next
  holds : WorkerHolds (AtHome runtime.contexts worker) next worker

/-- What a session keeps when its worker goes on. -/
theorem Carrying.kept {sessionId : SessionId} {ctx : SessionContext V} (carrying : Carrying runtime worker next)
    (named : ctx.session.sessionId = sessionId) (home : ctx.session.selectedWorkerId = worker)
    (kept : Kept ⟨ctx,runtime.scheduler,runtime.timelines,runtime.calls⟩
      (ofSession sessionId (runtime.scheduler.stages worker).hands.awaitingReject)
      (ofSession sessionId (runtime.scheduler.stages worker).hands.awaitingCleanup)) :
    Kept ⟨ctx,next,runtime.timelines,(runtime.advanced worker next).calls⟩ (ofSession sessionId (heldBack next worker))
      (ofSession sessionId (inSubmission next worker)) ∧
    (ofSession sessionId (next.stages worker).submissions ≠ [] → ctx.session.generation = 1) := by
  have single := kept.single
  dsimp only at single
  rw [named,home] at single
  unfold Kept at kept ⊢
  dsimp only at kept ⊢
  rw [named,home] at kept ⊢
  rw [advanced_calls,carrying.moves.confined.cancelled]
  rcases advances_session carrying.advances sessionId single with ⟨none,waits,submits⟩ | ⟨job,submits,waits,none,empty,later⟩
  · rw [none,List.append_nil,waits,submits]
    exact ⟨kept,fun some => absurd rfl some⟩
  · rw [waits,none] at kept
    rw [submits,empty,later]
    have member : job ∈ ofSession sessionId (next.stages worker).submissions := by rw [submits]; exact List.mem_singleton.mpr rfl
    obtain ⟨inStage,own⟩ := List.mem_filter.mp member
    have own : job.sessionId = sessionId := by simpa using own
    have fresh := submissions_fresh carrying.moves job inStage
    have first : job.generation = 1 := Custody.first kept job (by simp)
    rw [InferenceJob.key,own,first] at fresh
    refine ⟨Custody.submit kept fresh,fun _ => ?_⟩
    by_contra later
    have positive := Custody.positive kept
    have past : 1 < ctx.session.generation := by omega
    exact fresh ((Custody.past kept past).2.2 (by simp))

/-- A worker goes on, once its hook has settled the job that the hook was about. -/
theorem Attended.advance (attended : Attended config runtime held dispatched) (carrying : Carrying runtime worker next)
    (alone : ∀ other, other ≠ worker → (runtime.scheduler.stages other).rejecting = [])
    (own : worker ∉ config.scheduler.workers → next.stages worker = .idle)
    (back : held worker = (runtime.scheduler.stages worker).hands.awaitingReject)
    (submitted : dispatched worker = (runtime.scheduler.stages worker).hands.awaitingCleanup)
    (others : ∀ other, other ≠ worker →
      held other = heldBack runtime.scheduler other ∧ dispatched other = inSubmission runtime.scheduler other) :
    Delivering config (runtime.advanced worker next) := by
  obtain ⟨advances,moves,holds⟩ := id carrying
  have sessions : ∀ sessionId ctx, runtime.contexts sessionId = some ctx → ctx.session.selectedWorkerId = worker →
      _ := fun sessionId ctx known home =>
    carrying.kept (attended.named sessionId ctx known).1 home (by
      have tended := attended.tended sessionId _ (view_known known)
      dsimp only at tended
      rw [home,back,submitted] at tended
      exact tended.kept)
  have submits : ∀ job ∈ (next.stages worker).submissions, ∃ ctx,
      runtime.contexts job.sessionId = some ctx ∧ ctx.session.selectedWorkerId = worker := by
    intro job member
    refine (holds.jobs job ?_).1
    cases stage : next.stages worker <;> rw [stage] at member <;> simp only [Stage.submissions,List.not_mem_nil] at member
    simpa [Stage.jobs,Stage.settlements,jobsOf] using member
  have calls : ∀ call ∈ (runtime.advanced worker next).calls, call ∈ runtime.calls ∨
      call = .submit (next.stages worker).submissions := by
    intro call member
    unfold GatewayRuntime.advanced at member
    dsimp only at member
    split at member
    · exact .inl member
    · simpa using member
  refine ⟨moves_guarded (home_functional _) attended.guarded moves alone,confined_outside attended.outside moves.confined own,
    fun other => ?_,fun other job => ?_,⟨fun sessionId unknown => ?_,fun sessionId member => ?_,?_⟩,attended.named,
    fun sessionId later found => ?_⟩
  · by_cases same : other = worker
    · rw [same]
      exact holds
    · obtain ⟨queue,stage⟩ := advances.others other same
      change Held _ (next.queues other) (next.stages other)
      rw [queue,stage]
      exact attended.holds other
  · by_cases same : other = worker
    · rw [same]
      exact advances.claims job
    · obtain ⟨queue,stage⟩ := advances.others other same
      change (next.stages other).claims.count job ≤ (next.queues other).count job
      rw [queue,stage]
      exact attended.claimed other job
  · rw [advanced_calls,attended.orderly.unknown sessionId unknown,List.nil_append]
    refine List.filter_eq_nil_iff.mpr fun job member => ?_
    obtain ⟨ctx,known,_⟩ := submits job member
    rw [decide_eq_true_eq]
    rintro rfl
    rw [show runtime.contexts job.sessionId = none from unknown] at known
    cases known
  · exact attended.orderly.aborted sessionId ((calls _ member).resolve_right (by simp))
  · have before : ∀ sessionId, .abortSession sessionId ∈ runtime.calls →
        ofSession sessionId (next.stages worker).submissions = [] := by
      intro sessionId aborted
      obtain ⟨ctx,known,past⟩ := attended.orderly.aborted sessionId aborted
      by_contra some
      obtain ⟨job,member⟩ := List.exists_mem_of_ne_nil _ some
      obtain ⟨inStage,ofIt⟩ := List.mem_filter.mp member
      obtain ⟨other,again,home⟩ := submits job inStage
      rw [show job.sessionId = sessionId by simpa using ofIt,known] at again
      cases again
      have first := (sessions sessionId ctx known home).2 some
      omega
    unfold GatewayRuntime.advanced
    dsimp only
    split
    · exact attended.orderly.after
    · refine List.pairwise_append.mpr ⟨attended.orderly.after,List.pairwise_singleton _ _,?_⟩
      rintro earlier member later isLast sessionId batch rfl rfl
      obtain rfl : batch = (next.stages worker).submissions := by simpa using isLast
      exact before sessionId member
  · obtain ⟨ctx,known,rfl⟩ := Option.map_eq_some_iff.mp found
    have known : runtime.contexts sessionId = some ctx := known
    have tended := attended.tended sessionId _ (view_known known)
    refine tended.reschedule rfl (fun event stopped => ?_) ?_
    · rcases stopped with barred | past
      · exact .inl (moves_barred (home_functional _) attended.guarded moves barred)
      · exact .inr past
    · by_cases home : ctx.session.selectedWorkerId = worker
      · dsimp only
        rw [home]
        exact (sessions sessionId ctx known home).1
      · obtain ⟨queue,stage⟩ := advances.others _ home
        obtain ⟨backs,submitting⟩ := others _ home
        have silent : ofSession sessionId (next.stages worker).submissions = [] := by
          refine List.filter_eq_nil_iff.mpr fun job member => ?_
          obtain ⟨other,again,here⟩ := submits job member
          rw [decide_eq_true_eq]
          rintro rfl
          rw [known] at again
          cases again
          exact home here
        have kept := tended.kept
        dsimp only at kept
        unfold Kept at kept ⊢
        dsimp only at kept ⊢
        have listed := advanced_calls runtime worker next sessionId
        rw [silent,List.append_nil] at listed
        have named := (attended.named sessionId ctx known).1
        rw [named] at kept ⊢
        rw [backs,submitting] at kept
        change Custody _ _ _ (_ ∈ next.cancelledGenerations) (ofSession sessionId (next.queues _) ++ ofSession sessionId
          (heldBack next _)) (ofSession sessionId (inSubmission next _)) _
        rw [listed,moves.confined.cancelled,queue]
        unfold heldBack inSubmission at kept ⊢
        rw [stage]
        exact kept

end

/-! ## A session goes on -/

section
variable {held dispatched heldLater dispatchedLater : WorkerId → List InferenceJob} {sessionId : SessionId} {view next : View V}

/-- What is submitted of a session has an event to wait for. -/
theorem Attended.awaited (attended : Attended config runtime held (inSubmission runtime.scheduler))
    (found : runtime.view sessionId = some view) :
    Awaited view (ofSession sessionId (inSubmission runtime.scheduler view.ctx.session.selectedWorkerId)) := by
  intro some
  obtain ⟨job,member⟩ := List.exists_mem_of_ne_nil _ some
  obtain ⟨inStage,ofIt⟩ := List.mem_filter.mp member
  have kept := (attended.tended sessionId view found).kept
  obtain ⟨ctx,known,rfl⟩ := Option.map_eq_some_iff.mp found
  have named := (attended.named sessionId ctx known).1
  have first : job.generation = 1 := Custody.first kept job (List.mem_append_right _ member)
  have key : job.key = (ctx.session.sessionId,1) := by
    rw [InferenceJob.key,first,named,show job.sessionId = sessionId by simpa using ofIt]
  have unmarked := cleanup_unmarked job inStage
  obtain ⟨_,event,accepted⟩ := attended.guarded.held _ job unmarked
  rw [key] at accepted
  exact ⟨by rw [View.key,accepted]; simp,_,job,unmarked,key⟩

/-- A program of a session leaves the queues of the others as they were. -/
theorem Touched.others {worker : WorkerId} {scheduler later : GatewayScheduler} (touched : Touched sessionId worker scheduler later)
    {other : SessionId} (distinct : other ≠ sessionId) (queue : WorkerId) :
    ofSession other (later.queues queue) = ofSession other (scheduler.queues queue) := by
  obtain ⟨jobs,grown,own⟩ := touched.queues queue
  have none : ofSession other jobs = [] := by
    refine List.filter_eq_nil_iff.mpr fun job member => ?_
    rw [decide_eq_true_eq,(own job member).2.1]
    exact fun same => distinct same.symm
  rw [grown,ofSession_append,none,List.append_nil]

/-- Calls that a program of a session makes submit nothing. -/
theorem control_submits {session : GatewaySession} {calls : List AdapterCall} (controls : ∀ call ∈ calls, Control session call)
    (other : SessionId) : submittedJobs other calls = [] := by
  refine List.flatMap_eq_nil_iff.mpr fun call member => ?_
  rcases controls call member with rfl | rfl | ⟨rfl,_⟩ <;> rfl

/-- The contexts after a step of a session: only its own is another, with the same worker. -/
theorem home_update {contexts : SessionId → Option (SessionContext V)} {before after : SessionContext V}
    (known : contexts sessionId = some before) (same : after.session.selectedWorkerId = before.session.selectedWorkerId)
    {key : SessionKey} {worker : WorkerId} :
    Home (Function.update contexts sessionId (some after)) key worker ↔ Home contexts key worker := by
  unfold Home
  by_cases own : key.1 = sessionId
  · rw [own,Function.update_self,known]
    simp [same]
  · rw [Function.update_of_ne own]

theorem guarded_mono {home weaker : SessionKey → WorkerId → Prop} {scheduler : GatewayScheduler}
    (guarded : Guarded home scheduler) (imp : ∀ key worker, home key worker → weaker key worker) : Guarded weaker scheduler where
  registry := guarded.registry
  queued worker job member := imp _ _ (guarded.queued worker job member)
  held worker job member := ⟨imp _ _ (guarded.held worker job member).1,(guarded.held worker job member).2⟩
  distinct := guarded.distinct
  purged := guarded.purged

/-- Jobs and cancellations of a session keep the events, where no worker is rejecting. -/
theorem touched_guarded {home : SessionKey → WorkerId → Prop} {worker : WorkerId} {scheduler later : GatewayScheduler}
    (guarded : Guarded home scheduler) (touched : Touched sessionId worker scheduler later)
    (atHome : ∀ key, key.1 = sessionId → home key worker) (alone : ∀ other, (scheduler.stages other).rejecting = []) :
    Guarded home later where
  registry := guarded.registry.of_same ⟨touched.accepted,touched.safe,touched.nextEvent⟩
  queued other job member := by
    obtain ⟨jobs,grown,own⟩ := touched.queues other
    rw [grown] at member
    rcases List.mem_append.mp member with old | new
    · exact guarded.queued other job old
    · obtain ⟨rfl,same,_⟩ := own job new
      exact atHome _ same
  held other job member := by
    rw [touched.stages] at member
    rw [touched.accepted]
    exact guarded.held other job member
  distinct other := by
    rw [touched.stages]
    exact guarded.distinct other
  purged other force item rest stands := by
    rw [touched.stages] at stands
    have none := alone other
    rw [stands] at none
    cases none

/-- A session goes on, and the others are left as they were. -/
theorem Attended.write (attended : Attended config runtime held dispatched) (found : runtime.view sessionId = some view)
    (guarded : Guarded (Home runtime.contexts) next.scheduler) (footprint : Footprint view next)
    (tended : Tended config next (ofSession sessionId (heldLater view.ctx.session.selectedWorkerId))
      (ofSession sessionId (dispatchedLater view.ctx.session.selectedWorkerId)))
    (others : ∀ other, other ≠ sessionId → ∀ worker, ofSession other (heldLater worker) = ofSession other (held worker) ∧
      ofSession other (dispatchedLater worker) = ofSession other (dispatched worker)) :
    Attended config (runtime.write sessionId next) heldLater dispatchedLater := by
  obtain ⟨ctx,known,rfl⟩ := Option.map_eq_some_iff.mp found
  have known : runtime.contexts sessionId = some ctx := known
  obtain ⟨named,working⟩ := attended.named sessionId ctx known
  obtain ⟨sameId,worker,generation,touched,more,grown,controls⟩ := footprint
  dsimp only at sameId worker generation touched grown tended
  have home : ∀ {key worker}, Home (Function.update runtime.contexts sessionId (some next.ctx)) key worker ↔
      Home runtime.contexts key worker := home_update known worker
  have calls : ∀ other, submittedJobs other next.calls = submittedJobs other runtime.calls := by
    intro other
    rw [grown,submittedJobs_append,control_submits controls,List.append_nil]
  have past : ∀ other before, runtime.contexts other = some before → 1 < before.session.generation →
      ∃ after, Function.update runtime.contexts sessionId (some next.ctx) other = some after ∧ 1 < after.session.generation := by
    intro other before opened past
    by_cases own : other = sessionId
    · subst own
      rw [known] at opened
      cases opened
      exact ⟨_,Function.update_self _ _ _,Nat.lt_of_lt_of_le past generation⟩
    · exact ⟨before,by rwa [Function.update_of_ne own],past⟩
  refine ⟨guarded_mono guarded fun _ _ => home.mpr,fun worker outside => ?_,fun worker => ?_,fun worker job => ?_,
    ⟨fun other unknown => ?_,fun other member => ?_,?_⟩,fun other after found => ?_,fun other later found => ?_⟩
  · obtain ⟨queue,stage⟩ := attended.outside worker outside
    obtain ⟨jobs,grown,own⟩ := touched.queues worker
    change next.scheduler.queues worker = [] ∧ next.scheduler.stages worker = .idle
    refine ⟨?_,by rw [touched.stages]; exact stage⟩
    rw [grown,queue,List.nil_append]
    by_contra some
    obtain ⟨job,member⟩ := List.exists_mem_of_ne_nil _ some
    rw [(own job member).1] at outside
    exact outside working
  · obtain ⟨queued,jobs,agreed,matched⟩ := attended.holds worker
    change Held _ (next.scheduler.queues worker) (next.scheduler.stages worker)
    rw [touched.stages]
    refine ⟨fun job member => ?_,fun job member => ⟨home.mpr (jobs job member).1,(jobs job member).2⟩,agreed,matched⟩
    obtain ⟨added,grown,own⟩ := touched.queues worker
    rw [grown] at member
    rcases List.mem_append.mp member with old | new
    · exact ⟨home.mpr (queued job old).1,(queued job old).2⟩
    · obtain ⟨rfl,same,_,named'⟩ := own job new
      rw [named] at same
      have first : job.generation = 1 := by
        refine Custody.first tended.kept job (List.mem_append_left _ (List.mem_append_left _ (List.mem_filter.mpr ⟨?_,?_⟩)))
        · rw [worker,grown]
          exact member
        · rw [sameId,named,same]
          exact decide_eq_true rfl
      exact ⟨home.mpr ⟨ctx,by rw [InferenceJob.key,same]; exact known,rfl⟩,first,named'⟩
  · have claimed := attended.claimed worker job
    obtain ⟨added,grown,own⟩ := touched.queues worker
    change (next.scheduler.stages worker).claims.count job ≤ (next.scheduler.queues worker).count job
    rw [touched.stages,grown,List.count_append]
    omega
  · change submittedJobs other next.calls = []
    rw [calls]
    refine attended.orderly.unknown other ?_
    by_cases own : other = sessionId
    · subst own
      exact absurd unknown (by simp [GatewayRuntime.write])
    · simpa [GatewayRuntime.write,Function.update_of_ne own] using unknown
  · change AdapterCall.abortSession other ∈ next.calls at member
    rw [grown] at member
    rcases List.mem_append.mp member with old | new
    · obtain ⟨before,found,gone⟩ := attended.orderly.aborted other old
      exact past other before found gone
    · rcases controls _ new with segment | finish | ⟨aborts,gone⟩
      · cases segment
      · cases finish
      · obtain rfl : other = sessionId := by
          injection aborts with same
          rw [same,sameId,named]
        exact ⟨next.ctx,Function.update_self _ _ _,gone⟩
  · change next.calls.Pairwise _
    rw [grown]
    refine List.pairwise_append.mpr ⟨attended.orderly.after,List.pairwise_of_forall_mem_list fun _ _ _ new => ?_,
      fun _ _ later new => ?_⟩ <;>
    · rintro other batch - rfl
      rcases controls _ new with segment | finish | ⟨aborts,_⟩
      · cases segment
      · cases finish
      · cases aborts
  · by_cases own : other = sessionId
    · subst own
      rw [show (runtime.write other next).contexts other = some next.ctx from Function.update_self _ _ _] at found
      cases found
      exact ⟨sameId.trans named,worker ▸ working⟩
    · rw [show (runtime.write sessionId next).contexts other = runtime.contexts other from Function.update_of_ne own _ _] at found
      exact attended.named other after found
  · obtain ⟨after,opened,rfl⟩ := Option.map_eq_some_iff.mp found
    have opened : Function.update runtime.contexts sessionId (some next.ctx) other = some after := opened
    by_cases own : other = sessionId
    · subst own
      rw [Function.update_self] at opened
      cases opened
      change Tended config next (ofSession other (heldLater next.ctx.session.selectedWorkerId))
        (ofSession other (dispatchedLater next.ctx.session.selectedWorkerId))
      rw [worker]
      exact tended
    · rw [Function.update_of_ne own] at opened
      have before := attended.tended other _ (view_known opened)
      obtain ⟨same,_⟩ := attended.named other after opened
      dsimp only at before
      obtain ⟨back,submits⟩ := others other own after.session.selectedWorkerId
      refine before.reschedule rfl (fun event stopped => ?_) ?_
      · refine stopped.imp_left fun ⟨cancelled,waits⟩ => ⟨touched.cancelled _ cancelled,?_⟩
        intro worker job member key
        change job ∈ (next.scheduler.stages worker).hands.unmarked at member
        rw [touched.stages] at member
        change next.scheduler.accepted _ = event
        rw [touched.accepted]
        exact waits worker job member key
      · have kept := before.kept
        unfold Kept at kept ⊢
        dsimp only at kept ⊢
        rw [same] at kept ⊢
        change Custody _ _ _ (_ ∈ next.scheduler.cancelledGenerations) (ofSession other (next.scheduler.queues _) ++ _) _
          (submittedJobs other next.calls)
        rw [touched.others (by rw [named]; exact own),calls,back,submits]
        exact custody_mono kept (touched.cancelled _)

end

/-! ## The steps of the gateway -/

section
variable {held dispatched : WorkerId → List InferenceJob} {sessionId : SessionId} {worker : WorkerId} {view : View V}
  {next : GatewayRuntime V}

/-- Only the worker that awaits `reject` goes on. -/
theorem Attended.alone (attended : Attended config runtime held dispatched) {action : GatewayAction}
    (enabled : runtime.enabled config action = true) (other : WorkerId) (elsewhere : ∀ now, action ≠ .hook other now) :
    (runtime.scheduler.stages other).rejecting = [] := by
  by_cases known : other ∈ config.scheduler.workers
  · have able := List.all_eq_true.mp enabled other known
    rw [Bool.or_eq_true] at able
    rcases able with none | own
    · exact List.isEmpty_iff.mp none
    · cases action <;> try cases own
      rename_i resumed now
      obtain rfl : resumed = other := by simpa using own
      exact absurd rfl (elsewhere now)
  · rw [(attended.outside other known).2]
    rfl

theorem Attended.viewed (attended : Attended config runtime held dispatched) (found : runtime.view sessionId = some view) :
    Guarded (Home runtime.contexts) view.scheduler := by
  obtain ⟨ctx,_,rfl⟩ := Option.map_eq_some_iff.mp found
  exact attended.guarded

/-- A program of a session that the scheduler does not wait for. -/
theorem Attended.goesOn {after : View V} (delivering : Delivering config runtime) (found : runtime.view sessionId = some view)
    (carried : Carried config view (ofSession sessionId (heldBack runtime.scheduler view.ctx.session.selectedWorkerId))
      (ofSession sessionId (inSubmission runtime.scheduler view.ctx.session.selectedWorkerId)) after)
    (alone : ∀ other, (runtime.scheduler.stages other).rejecting = []) :
    Delivering config (runtime.write sessionId after) := by
  obtain ⟨ctx,known,rfl⟩ := Option.map_eq_some_iff.mp found
  obtain ⟨named,_⟩ := delivering.named sessionId ctx known
  have guarded : Guarded (Home runtime.contexts) after.scheduler :=
    touched_guarded delivering.guarded carried.footprint.touched
      (fun key own => ⟨ctx,by rw [own,named]; exact known,rfl⟩) alone
  have stages : after.scheduler.stages = runtime.scheduler.stages := carried.footprint.touched.stages
  have back : heldBack (runtime.write sessionId after).scheduler = heldBack runtime.scheduler := by
    funext worker
    change _ ++ _ = _ ++ _
    rw [show (runtime.write sessionId after).scheduler.stages = runtime.scheduler.stages from stages]
  have submits : inSubmission (runtime.write sessionId after).scheduler = inSubmission runtime.scheduler := by
    funext worker
    change _ ++ _ = _ ++ _
    rw [show (runtime.write sessionId after).scheduler.stages = runtime.scheduler.stages from stages]
  unfold Delivering
  rw [back,submits]
  exact delivering.write found guarded carried.footprint carried.tended fun _ _ _ => ⟨rfl,rfl⟩

/-- The worker's suspended call goes on, once its hook has answered. -/
theorem Attended.resume {reply : Scheduling.Reply} {now : Time} (attended : Attended config runtime held dispatched)
    (resumed : runtime.resume config worker reply now = some next) (returns : hookReturns (runtime.scheduler.stages worker) reply)
    (alone : ∀ other, other ≠ worker → (runtime.scheduler.stages other).rejecting = [])
    (back : held worker = (runtime.scheduler.stages worker).hands.awaitingReject)
    (submitted : dispatched worker = (runtime.scheduler.stages worker).hands.awaitingCleanup)
    (others : ∀ other, other ≠ worker →
      held other = heldBack runtime.scheduler other ∧ dispatched other = inSubmission runtime.scheduler other) :
    Delivering config next := by
  obtain ⟨scheduler,goesOn,rfl⟩ := Option.map_eq_some_iff.mp resumed
  have named : ∀ job ∈ runtime.scheduler.queues worker, job.jobId ≠ [] :=
    fun job member => ((attended.holds worker).queued job member).2.2
  have carrying : Carrying runtime worker scheduler :=
    ⟨resume_advances config.scheduler _ _ worker reply now named (attended.claimed worker) returns goesOn,
      resume_moves config.scheduler _ _ worker reply now (attended.guarded.purged worker) goesOn,
      resume_held config.scheduler (attended.holds worker) goesOn⟩
  refine attended.advance carrying alone (fun outside => ?_) back submitted others
  simp only [GatewayScheduler.resume,(attended.outside worker outside).2,reduceCtorEq] at goesOn

theorem runOnce_delivering {force : Bool} {now : Time} (delivering : Delivering config runtime)
    (idle : runtime.scheduler.stages worker = .idle) (alone : ∀ other, (runtime.scheduler.stages other).rejecting = []) :
    Delivering config (runtime.advanced worker (runtime.scheduler.runOnce config.scheduler worker force now)) := by
  have named : ∀ job ∈ runtime.scheduler.queues worker, job.jobId ≠ [] :=
    fun job member => ((delivering.holds worker).queued job member).2.2
  have carrying : Carrying runtime worker (runtime.scheduler.runOnce config.scheduler worker force now) := by
    refine ⟨?_,?_,runOnce_held config.scheduler force now (delivering.holds worker).queued⟩
    · rw [idle]
      exact runOnce_advances config.scheduler _ worker force now named
    · rw [idle]
      exact runOnce_moves config.scheduler _ worker force now
  refine delivering.advance carrying (fun other _ => alone other) (fun outside => ?_) ?_ ?_ fun _ _ => ⟨rfl,rfl⟩
  · exact runOnce_outside (delivering.outside worker outside).1 force now
  · rw [heldBack,idle]
    rfl
  · rw [inSubmission,idle]
    rfl

/-- The session of a job that a worker holds. -/
theorem Attended.session {job : InferenceJob} (attended : Attended config runtime held dispatched)
    (atHome : AtHome runtime.contexts worker job) : ∃ view, runtime.view job.sessionId = some view ∧
      view.ctx.session.sessionId = job.sessionId ∧ view.ctx.session.selectedWorkerId = worker := by
  obtain ⟨⟨ctx,known,home⟩,_⟩ := atHome
  exact ⟨_,view_known known,(attended.named _ ctx known).1,home⟩

/-- A program that only returns. -/
theorem outcome_ok {α : Type} {program : Code V α} {holds : α → View V → Prop}
    (ran : wp program holds (fun _ _ => False) view) : ∃ value after, outcome program view = (.ok value,after) ∧ holds value after := by
  unfold wp at ran
  unfold outcome
  split at ran
  · rename_i value after found
    exact ⟨value,after,by rw [found],ran⟩
  · cases ran

theorem done_returns (stage : Stage) : hookReturns stage .done = true := by
  cases stage <;> rfl

/-- Jobs of one session only are none of the others. -/
theorem ofSession_others {job : InferenceJob} {jobs : List InferenceJob} (about : jobs = [] ∨ jobs = [job]) {other : SessionId}
    (distinct : other ≠ job.sessionId) : ofSession other jobs = [] := by
  rcases about with rfl | rfl
  · rfl
  · simp [ofSession,distinct.symm]

/-- The hook about a job has answered, and the worker goes on. -/
theorem Attended.answered {job : InferenceJob} {now : Time} {after : View V} (delivering : Delivering config runtime)
    (alone : ∀ other, other ≠ worker → (runtime.scheduler.stages other).rejecting = [])
    (found : runtime.view job.sessionId = some view) (home : view.ctx.session.selectedWorkerId = worker)
    (footprint : Footprint view after) (still : after.scheduler = view.scheduler)
    (tended : Tended config after (ofSession job.sessionId (runtime.scheduler.stages worker).hands.awaitingReject)
      (ofSession job.sessionId (runtime.scheduler.stages worker).hands.awaitingCleanup))
    (rejects : (runtime.scheduler.stages worker).rejecting = [] ∨ (runtime.scheduler.stages worker).rejecting = [job])
    (cleans : (runtime.scheduler.stages worker).cleaning = [] ∨ (runtime.scheduler.stages worker).cleaning = [job])
    (resumed : (runtime.write job.sessionId after).resume config worker .done now = some next) : Delivering config next := by
  obtain ⟨ctx,known,rfl⟩ := Option.map_eq_some_iff.mp found
  have same : (runtime.write job.sessionId after).scheduler = runtime.scheduler := still
  have written : Attended config (runtime.write job.sessionId after)
      (Function.update (heldBack runtime.scheduler) worker (runtime.scheduler.stages worker).hands.awaitingReject)
      (Function.update (inSubmission runtime.scheduler) worker (runtime.scheduler.stages worker).hands.awaitingCleanup) := by
    refine delivering.write found (by rw [still]; exact delivering.guarded) footprint ?_ fun other distinct queue => ?_
    · rw [home,Function.update_self,Function.update_self]
      exact tended
    · by_cases here : queue = worker
      · subst here
        rw [Function.update_self,Function.update_self,heldBack,inSubmission,ofSession_append,ofSession_append,
          ofSession_others rejects distinct,ofSession_others cleans distinct,List.append_nil,List.append_nil]
        exact ⟨rfl,rfl⟩
      · rw [Function.update_of_ne here,Function.update_of_ne here]
        exact ⟨rfl,rfl⟩
  refine written.resume resumed (done_returns _) ?_ ?_ ?_ fun other distinct => ?_
  · rwa [same]
  · rw [same,Function.update_self]
  · rw [same,Function.update_self]
  · rw [same,Function.update_of_ne distinct,Function.update_of_ne distinct]
    exact ⟨rfl,rfl⟩

/-- The session of the job that a hook is about, with what the worker holds of it. -/
theorem Attended.about {job : InferenceJob} (delivering : Delivering config runtime)
    (inStage : job ∈ (runtime.scheduler.stages worker).jobs) : ∃ view, runtime.view job.sessionId = some view ∧
      view.ctx.session.selectedWorkerId = worker ∧ Tended config view (ofSession job.sessionId (heldBack runtime.scheduler worker))
        (ofSession job.sessionId (inSubmission runtime.scheduler worker)) := by
  obtain ⟨view,found,_,home⟩ := delivering.session ((delivering.holds worker).jobs job inStage)
  have tended := delivering.tended _ view found
  rw [home] at tended
  exact ⟨view,found,home,tended⟩

theorem ofSession_own (job : InferenceJob) : ofSession job.sessionId [job] = [job] := by simp [ofSession]

/-- The hooks of a worker answer, and it goes on. -/
theorem hook_delivering {now : Time} (delivering : Delivering config runtime)
    (alone : ∀ other, other ≠ worker → (runtime.scheduler.stages other).rejecting = [])
    (hooked : runtime.hook config worker now = some next) : Delivering config next := by
  have rejects : ∀ job : InferenceJob, (runtime.scheduler.stages worker).rejecting = [job] →
      (runtime.scheduler.stages worker).cleaning = [] → job ∈ (runtime.scheduler.stages worker).jobs →
      awaitedHook (runtime.scheduler.stages worker) = some (some (job.sessionId,(rejectJob job : Code V Unit))) →
      Delivering config next := by
    intro job rejects none inStage awaits
    obtain ⟨view,found,home,tended⟩ := delivering.about inStage
    have single := tended.kept.single
    have empty : ofSession job.sessionId (runtime.scheduler.stages worker).hands.awaitingReject = [] := by
      rw [heldBack,rejects,ofSession_append,ofSession_own] at single
      simp only [List.length_append,List.length_cons] at single
      exact List.length_eq_zero_iff.mp (by omega)
    rw [heldBack,rejects,ofSession_append,ofSession_own,empty,inSubmission,none,List.append_nil] at tended
    obtain ⟨_,after,ran,later,footprint,still⟩ := outcome_ok (rejectJob_carried tended)
    simp only [GatewayRuntime.hook,awaits,found,ran,bind,Option.bind,replyOf] at hooked
    exact delivering.answered alone found home footprint still (by rw [empty]; exact later) (.inr rejects) (.inl none) hooked
  have discards : ∀ job : InferenceJob, (runtime.scheduler.stages worker).rejecting = [] →
      (runtime.scheduler.stages worker).cleaning = [] → job ∈ (runtime.scheduler.stages worker).jobs →
      awaitedHook (runtime.scheduler.stages worker) = some (some (job.sessionId,(discardTimeline job.jobId : Code V Unit))) →
      Delivering config next := by
    intro job none nothing inStage awaits
    obtain ⟨view,found,home,tended⟩ := delivering.about inStage
    rw [heldBack,none,inSubmission,nothing,List.append_nil,List.append_nil] at tended
    obtain ⟨later,footprint⟩ := tended.discard job.jobId
    simp only [GatewayRuntime.hook,awaits,found,bind,Option.bind] at hooked
    exact delivering.answered alone found home footprint rfl later (.inl none) (.inl nothing) hooked
  have still : (runtime.scheduler.stages worker).rejecting = [] → (runtime.scheduler.stages worker).cleaning = [] →
      (awaitedHook (runtime.scheduler.stages worker) : Option (Option (SessionId × Code V Unit))) = some none → Delivering config next := by
    intro none nothing awaits
    simp only [GatewayRuntime.hook,awaits,bind,Option.bind] at hooked
    refine delivering.resume hooked (done_returns _) alone ?_ ?_ fun _ _ => ⟨rfl,rfl⟩
    · rw [heldBack,none,List.append_nil]
    · rw [inSubmission,nothing,List.append_nil]
  cases stage : runtime.scheduler.stages worker
  case rejectExpired force item rest | rejectCancelled force item rest | drainReject item rest failures batch error =>
    exact rejects item (by rw [stage]; rfl) (by rw [stage]; rfl) (by simp [stage,Stage.jobs]) (by rw [stage]; rfl)
  case discard item rest failures | drainDiscard item rest failures batch error =>
    exact discards item (by rw [stage]; rfl) (by rw [stage]; rfl) (by simp [stage,Stage.jobs]) (by rw [stage]; rfl)
  case workerFailed batch error | cleanupFailed item rest failures => exact still (by rw [stage]; rfl) (by rw [stage]; rfl) (by rw [stage]; rfl)
  case cleanup current rest failures =>
    have inStage : current.1 ∈ (runtime.scheduler.stages worker).jobs := by simp [stage,Stage.jobs,Stage.settlements,jobsOf]
    have cleans : (runtime.scheduler.stages worker).cleaning = [current.1] := by rw [stage]; rfl
    obtain ⟨view,found,home,tended⟩ := delivering.about inStage
    have empty := cleaning_alone (delivering.guarded.distinct worker) cleans
    rw [heldBack,inSubmission,ofSession_append,ofSession_append,empty] at tended
    have rejects : (runtime.scheduler.stages worker).rejecting = [] := by rw [stage]; rfl
    rw [rejects,cleans,ofSession_own,List.nil_append] at tended
    obtain ⟨_,after,ran,later,footprint,still⟩ := outcome_ok (cleanupJob_carried tended)
    have awaits : awaitedHook (runtime.scheduler.stages worker) =
        some (some (current.1.sessionId,(cleanupJob current.1 : Code V Unit))) := by rw [stage]; rfl
    simp only [GatewayRuntime.hook,awaits,found,ran,bind,Option.bind,replyOf] at hooked
    refine delivering.answered alone found home footprint still ?_ (.inl rejects) (.inr cleans) hooked
    rw [empty]
    simpa [ofSession] using later
  all_goals simp [GatewayRuntime.hook,stage,awaitedHook,bind,Option.bind] at hooked

/-- The result that a worker publishes is of a session of its own, which has nothing submitted. -/
theorem Attended.publishes {job : InferenceJob} {result : InferenceResult} (delivering : Delivering config runtime)
    (publishes : (runtime.scheduler.stages worker).publishing.head? = some (job,result)) :
    result.sessionId = job.sessionId ∧ result.generation = 1 ∧ job ∈ (runtime.scheduler.stages worker).jobs ∧
      ofSession job.sessionId (inSubmission runtime.scheduler worker) = [] ∧
      (runtime.scheduler.stages worker).rejecting = [] ∧ (runtime.scheduler.stages worker).cleaning = [] := by
  have member := List.mem_of_mem_head? publishes
  have inStage : job ∈ (runtime.scheduler.stages worker).jobs ∧ (runtime.scheduler.stages worker).rejecting = [] ∧
      (runtime.scheduler.stages worker).cleaning = [] ∧ result.sessionId = job.sessionId := by
    have agreed := (delivering.holds worker).agreed
    cases stage : runtime.scheduler.stages worker <;> rw [stage] at member agreed <;>
      simp only [Stage.publishing,List.not_mem_nil,List.mem_singleton] at member
    case publishExpired force item rest =>
      cases member
      exact ⟨by simp [Stage.jobs],rfl,rfl,rfl⟩
    case publishCleanupFailed item rest failures =>
      cases member
      exact ⟨by simp [Stage.jobs],rfl,rfl,rfl⟩
    case publish current rest failures =>
      subst member
      exact ⟨by simp [Stage.jobs,Stage.settlements,jobsOf],rfl,rfl,(agreed (job,result) (by simp [Stage.settlements])).2.1⟩
    case publishFailures current rest =>
      subst member
      exact ⟨by simp [Stage.jobs,Stage.settlements,jobsOf],rfl,rfl,(agreed (job,result) (by simp [Stage.settlements])).2.1⟩
  obtain ⟨held,rejects,cleans,same⟩ := inStage
  have matched := ((delivering.holds worker).matched (job,result) (List.mem_append_right _ member)).1
  have first := ((delivering.holds worker).jobs job held).2.1
  exact ⟨same,matched.trans first,held,publishing_free (delivering.guarded.distinct worker) member,rejects,cleans⟩

theorem publish_delivering {answer : Except PyError AdapterResult} {moment : Moment} (delivering : Delivering config runtime)
    (alone : ∀ other, (runtime.scheduler.stages other).rejecting = [])
    (published : runtime.publish config worker answer moment = some next) : Delivering config next := by
  unfold GatewayRuntime.publish at published
  obtain ⟨⟨job,result⟩,publishes,published⟩ := Option.bind_eq_some_iff.mp published
  obtain ⟨same,first,inStage,free,rejects,cleans⟩ := delivering.publishes publishes
  obtain ⟨view,found,home,tended⟩ := delivering.about inStage
  have named : view.ctx.session.sessionId = job.sessionId := (delivering.named _ _ (view_ctx found)).1
  dsimp only at published
  rw [same,found] at published
  obtain ⟨program,goesOn,published⟩ := Option.bind_eq_some_iff.mp published
  have endable : Endable config view (ofSession job.sessionId (heldBack runtime.scheduler worker))
      (ofSession job.sessionId (inSubmission runtime.scheduler worker)) := ⟨tended,free⟩
  obtain ⟨finished,after,ran,carried⟩ := outcome_ok (publishResult_carried endable first (same.trans named.symm) goesOn)
  rw [← home] at carried
  have written := delivering.goesOn found carried alone
  rw [ran] at published
  cases finished with
  | false =>
    cases published
    exact written
  | true =>
    have stages : (runtime.write job.sessionId after).scheduler.stages = runtime.scheduler.stages :=
      carried.footprint.touched.stages.trans (by
        obtain ⟨ctx,_,rfl⟩ := Option.map_eq_some_iff.mp found
        rfl)
    refine written.resume published (done_returns _) (fun other _ => ?_) ?_ ?_ fun _ _ => ⟨rfl,rfl⟩
    · rw [stages]
      exact alone other
    · rw [heldBack,stages,rejects,List.append_nil]
    · rw [inSubmission,stages,cleans,List.append_nil]

/-- A session that is opened has no job. -/
theorem openContext_tended {scheduler : GatewayScheduler} {timelines : Text → Option Time} {calls : List AdapterCall}
    {held dispatched : List InferenceJob} (sessionId : SessionId) (worker : WorkerId) (backendSessionId language : Text)
    (options : SessionOptions) (now : Time) (queued : ofSession sessionId (scheduler.queues worker) = []) (back : held = [])
    (submits : dispatched = []) (submitted : submittedJobs sessionId calls = []) :
    Tended config ⟨openContext config sessionId worker backendSessionId language options now,scheduler,timelines,calls⟩ held
      dispatched := by
  subst back submits
  refine ⟨?_,early_position rfl rfl,unlocked_publishes rfl,by simp [openContext,Handler.holdsLock],by simp [openContext],
    by simp [openContext]⟩
  change Custody _ _ _ _ (ofSession sessionId (scheduler.queues worker) ++ []) [] (submittedJobs sessionId calls)
  rw [queued,submitted]
  refine ⟨Chunking.PcmRingBuffer.holds_empty _,rfl,Nat.one_pos,?_,?_,?_,?_,?_,?_,?_,?_,?_,.nil,?_⟩
  any_goals simp [openContext]
  exact ⟨rfl,rfl⟩

theorem open_delivering {backendSessionId language : Text} {options : SessionOptions} {now : Time}
    (delivering : Delivering config runtime) (fresh : runtime.contexts sessionId = none)
    (known : worker ∈ config.scheduler.workers) : Delivering config { runtime with
      contexts := Function.update runtime.contexts sessionId
        (some (openContext config sessionId worker backendSessionId language options now)) } := by
  have kept : ∀ {key other}, Home runtime.contexts key other → Home (Function.update runtime.contexts sessionId
      (some (openContext config sessionId worker backendSessionId language options now))) key other := by
    rintro key other ⟨ctx,found,home⟩
    refine ⟨ctx,?_,home⟩
    rwa [Function.update_of_ne]
    rintro same
    rw [same,fresh] at found
    cases found
  have absent : ∀ (jobs : List InferenceJob) (other : WorkerId), (∀ job ∈ jobs, Home runtime.contexts job.key other) →
      ofSession sessionId jobs = [] := by
    intro jobs other atHome
    refine List.filter_eq_nil_iff.mpr fun job member => ?_
    obtain ⟨ctx,found,_⟩ := atHome job member
    rw [decide_eq_true_eq]
    rintro rfl
    rw [show runtime.contexts job.sessionId = some ctx from found] at fresh
    cases fresh
  refine ⟨guarded_mono delivering.guarded fun _ _ => kept,delivering.outside,fun other => ?_,delivering.claimed,
    ⟨fun other unknown => ?_,fun other member => ?_,delivering.orderly.after⟩,fun other ctx found => ?_,fun other view found => ?_⟩
  · obtain ⟨queued,jobs,agreed,matched⟩ := delivering.holds other
    exact ⟨fun job member => ⟨kept (queued job member).1,(queued job member).2⟩,
      fun job member => ⟨kept (jobs job member).1,(jobs job member).2⟩,agreed,matched⟩
  · refine delivering.orderly.unknown other ?_
    change Function.update runtime.contexts sessionId _ other = none at unknown
    by_cases own : other = sessionId
    · rw [own]
      exact fresh
    · rwa [Function.update_of_ne own] at unknown
  · obtain ⟨ctx,found,past⟩ := delivering.orderly.aborted other member
    refine ⟨ctx,?_,past⟩
    change Function.update runtime.contexts sessionId _ other = some ctx
    rwa [Function.update_of_ne]
    rintro same
    rw [same,fresh] at found
    cases found
  · change Function.update runtime.contexts sessionId _ other = some ctx at found
    by_cases own : other = sessionId
    · subst own
      rw [Function.update_self] at found
      cases found
      exact ⟨rfl,known⟩
    · rw [Function.update_of_ne own] at found
      exact delivering.named other ctx found
  · obtain ⟨ctx,opened,rfl⟩ := Option.map_eq_some_iff.mp found
    change Function.update runtime.contexts sessionId _ other = some ctx at opened
    by_cases own : other = sessionId
    · subst own
      rw [Function.update_self] at opened
      cases opened
      refine openContext_tended _ _ _ _ _ _ ?_ ?_ ?_ (delivering.orderly.unknown _ fresh)
      · exact absent _ worker fun job member => delivering.guarded.queued worker job member
      · exact absent _ worker fun job member => ((delivering.holds worker).jobs job (heldBack_jobs job member)).1
      · exact absent _ worker fun job member => (delivering.guarded.held worker job (cleanup_unmarked job member)).1
    · rw [Function.update_of_ne own] at opened
      exact delivering.tended other _ (view_known opened)

theorem close_delivering (delivering : Delivering config runtime) :
    Delivering config { runtime with scheduler := { runtime.scheduler with closed := true } } := by
  obtain ⟨guarded,outside,holds,claimed,orderly,named,tended⟩ := delivering
  obtain ⟨registry,queued,held,distinct,purged⟩ := guarded
  refine ⟨⟨registry.of_same ⟨rfl,rfl,rfl⟩,queued,held,distinct,purged⟩,outside,holds,claimed,orderly,named,
    fun sessionId view found => ?_⟩
  obtain ⟨ctx,known,rfl⟩ := Option.map_eq_some_iff.mp found
  have before := tended sessionId _ (view_known known)
  exact before.reschedule rfl (fun _ stopped => stopped) before.kept

/-- Every step of the gateway keeps the audio of its sessions in order. -/
theorem step_delivering {action : GatewayAction} (delivering : Delivering config runtime)
    (stepped : runtime.step config action = some next) : Delivering config next := by
  unfold GatewayRuntime.step at stepped
  split at stepped
  · cases stepped
  rename_i disabled
  have enabled : runtime.enabled config action = true := by simpa using disabled
  have alone := fun other => delivering.alone enabled other
  cases action with
  | openSession sessionId worker backendSessionId language options now =>
    dsimp only at stepped
    split at stepped
    · cases stepped
    rename_i fresh
    cases stepped
    rw [Bool.or_eq_true,not_or] at fresh
    exact open_delivering delivering (Option.not_isSome_iff_eq_none.mp fresh.1) (by simpa using fresh.2)
  | command sessionId call =>
    obtain ⟨view,found,stepped⟩ := Option.bind_eq_some_iff.mp stepped
    obtain ⟨program,issued,stepped⟩ := Option.bind_eq_some_iff.mp stepped
    cases stepped
    have carried := command_carried (delivering.tended _ _ found) (delivering.awaited found) issued
    exact delivering.goesOn found (runHandler_of_wp carried) fun other => alone other (by simp)
  | proceed sessionId input moment =>
    obtain ⟨view,found,stepped⟩ := Option.bind_eq_some_iff.mp stepped
    obtain ⟨program,goesOn,stepped⟩ := Option.bind_eq_some_iff.mp stepped
    cases stepped
    have carried := proceed_carried (delivering.tended _ _ found) (delivering.awaited found) (delivering.viewed found) goesOn
    exact delivering.goesOn found (runHandler_of_wp carried) fun other => alone other (by simp)
  | abort sessionId =>
    obtain ⟨view,found,stepped⟩ := Option.bind_eq_some_iff.mp stepped
    cases stepped
    have carried := abort_carried (delivering.tended _ _ found) (delivering.awaited found)
    exact delivering.goesOn found (runTask_of_wp carried) fun other => alone other (by simp)
  | resumeAbort sessionId task =>
    obtain ⟨view,found,stepped⟩ := Option.bind_eq_some_iff.mp stepped
    obtain ⟨program,resumes,stepped⟩ := Option.bind_eq_some_iff.mp stepped
    cases stepped
    have carried := resumeAbort_carried (delivering.tended _ _ found) (delivering.awaited found) (delivering.viewed found) resumes
    exact delivering.goesOn found (runTask_of_wp carried) fun other => alone other (by simp)
  | send sessionId =>
    obtain ⟨view,found,stepped⟩ := Option.bind_eq_some_iff.mp stepped
    obtain ⟨program,sends,stepped⟩ := Option.bind_eq_some_iff.mp stepped
    cases stepped
    have carried := send_carried (delivering.tended _ _ found) sends
    exact delivering.goesOn found (runTask_of_wp carried) fun other => alone other (by simp)
  | runOnce worker force now =>
    dsimp only at stepped
    split at stepped
    · rename_i idle
      cases stepped
      exact runOnce_delivering delivering idle fun other => alone other (by simp)
    · cases stepped
  | submitted worker reply now =>
    dsimp only at stepped
    split at stepped
    · cases stepped
    rename_i submits
    have submitting : hookReturns (runtime.scheduler.stages worker) reply = true ∧
        (runtime.scheduler.stages worker).cleaning = [] := by
      cases stage : runtime.scheduler.stages worker <;> rw [stage] at submits <;>
        first | exact ⟨rfl,rfl⟩ | exact absurd rfl submits
    have rejecting := alone worker (by simp)
    refine delivering.resume stepped submitting.1 (fun other _ => alone other (by simp)) ?_ ?_ fun _ _ => ⟨rfl,rfl⟩
    · rw [heldBack,rejecting,List.append_nil]
    · rw [inSubmission,submitting.2,List.append_nil]
  | hook worker now => exact hook_delivering delivering (fun other distinct => alone other (by simpa using distinct.symm)) stepped
  | publish worker answer moment => exact publish_delivering delivering (fun other => alone other (by simp)) stepped
  | closeScheduler =>
    cases stepped
    exact close_delivering delivering

/-- In every state that a run reaches, no job is lost or doubled. -/
theorem reached_delivering {actions : List GatewayAction} (reached : Reached config actions runtime) :
    Delivering config runtime :=
  Machine.invariant (GatewayRuntime.step config) (Delivering config) (fun _ _ _ => step_delivering) init_delivering reached

end

/-- The jobs of a session that are on their way: queued, held back by a worker, or in submission. -/
def underway (config : GatewayConfig V) (runtime : GatewayRuntime V) (sessionId : SessionId) : List InferenceJob :=
  config.scheduler.workers.flatMap fun worker => ofSession sessionId
    (runtime.scheduler.queues worker ++ heldBack runtime.scheduler worker ++ inSubmission runtime.scheduler worker)

section
variable {sessionId : SessionId} {ctx : SessionContext V}

/-- Only the worker of a session has jobs of it. -/
theorem Attended.elsewhere (delivering : Delivering config runtime) (known : runtime.contexts sessionId = some ctx) {worker : WorkerId}
    (other : worker ≠ ctx.session.selectedWorkerId) : ofSession sessionId
      (runtime.scheduler.queues worker ++ heldBack runtime.scheduler worker ++ inSubmission runtime.scheduler worker) = [] := by
  refine List.filter_eq_nil_iff.mpr fun job member => ?_
  have home : Home runtime.contexts job.key worker := by
    rcases List.mem_append.mp member with waiting | submits
    · rcases List.mem_append.mp waiting with queued | back
      · exact delivering.guarded.queued worker job queued
      · exact ((delivering.holds worker).jobs job (heldBack_jobs job back)).1
    · exact (delivering.guarded.held worker job (cleanup_unmarked job submits)).1
  obtain ⟨own,found,here⟩ := home
  rw [decide_eq_true_eq]
  rintro rfl
  rw [show runtime.contexts job.sessionId = some own from found] at known
  cases known
  exact other here.symm

theorem flatMap_alone {workers : List WorkerId} {jobs : WorkerId → List InferenceJob} {home : WorkerId} (distinct : workers.Nodup)
    (others : ∀ worker, worker ≠ home → jobs worker = []) : (workers.flatMap jobs).length ≤ (jobs home).length := by
  induction workers with
  | nil => exact Nat.zero_le _
  | cons worker rest ih =>
    obtain ⟨fresh,distinct⟩ := List.nodup_cons.mp distinct
    rw [List.flatMap_cons,List.length_append]
    by_cases own : worker = home
    · subst own
      have none : rest.flatMap jobs = [] := List.flatMap_eq_nil_iff.mpr fun other member =>
        others other (ne_of_mem_of_not_mem member fresh)
      rw [none]
      exact Nat.le_refl _
    · rw [others worker own,List.length_nil,Nat.zero_add]
      exact ih distinct

theorem Attended.underway_single (delivering : Delivering config runtime) (known : runtime.contexts sessionId = some ctx) :
    (underway config runtime sessionId).length ≤ 1 := by
  have single := (delivering.tended sessionId _ (view_known known)).kept.single
  dsimp only at single
  rw [(delivering.named sessionId ctx known).1,← ofSession_append,← ofSession_append] at single
  exact Nat.le_trans (flatMap_alone config.scheduler.distinctWorkers fun _ other => delivering.elsewhere known other) single

theorem covers_contents {stream : Pcm} {start stop : Nat} {jobs : List InferenceJob} (covers : Covers stream start jobs stop) :
    (∀ job ∈ jobs.head?, job.startSample = start) ∧ ∀ job ∈ jobs, job.startSample < job.endSample ∧
      job.pcm = Chunking.PcmRingBuffer.samplesBetween stream job.startSample job.endSample := by
  induction jobs generalizing start with
  | nil => exact ⟨by simp,by simp⟩
  | cons job rest ih =>
    obtain ⟨rfl,nonempty,contents,later⟩ := covers
    refine ⟨by simp,fun other member => ?_⟩
    rcases List.mem_cons.mp member with rfl | inRest
    · exact ⟨nonempty,contents⟩
    · exact (ih later).2 other inRest

/-- The audio of a session is submitted once and in order, whatever happens to its jobs. -/
theorem audio_submitted_in_order {actions : List GatewayAction} (reached : Reached config actions runtime)
    (known : runtime.contexts sessionId = some ctx) :
    ((submittedJobs sessionId runtime.calls).map (·.pcm)).flatten <+: ctx.stream ∧
    (submittedJobs sessionId runtime.calls).IsChain (fun previous next => next.startSample = previous.endSample) ∧
    (∀ job ∈ (submittedJobs sessionId runtime.calls).head?, job.startSample = 0) ∧
    (∀ job ∈ submittedJobs sessionId runtime.calls, job.startSample < job.endSample ∧
      job.pcm = Chunking.PcmRingBuffer.samplesBetween ctx.stream job.startSample job.endSample) ∧
    ((submittedJobs sessionId runtime.calls).map (·.jobSequence)).Pairwise (· < ·) ∧
    (underway config runtime sessionId).length ≤ 1 := by
  have delivering := reached_delivering reached
  have kept := (delivering.tended sessionId _ (view_known known)).kept
  unfold Kept at kept
  dsimp only at kept
  rw [(delivering.named sessionId ctx known).1] at kept
  obtain ⟨stop,covers,within,_⟩ := kept.covers
  obtain ⟨starts,contents⟩ := covers_contents covers
  refine ⟨?_,covers_chain covers,starts,contents,kept.ordered,delivering.underway_single known⟩
  rw [covers_audio covers within,Chunking.PcmRingBuffer.samplesBetween,Nat.zero_mul,List.drop_zero]
  exact List.take_prefix _ _

/-- The result of the second job of the session `s`. -/
def secondResult : InferenceResult :=
  { firstResult with jobId := "s:1:2".toList, jobSequence := 2, startSample := 1, endSample := 2 }

/-- Two jobs of a session are submitted; the third waits too long, and its reservation is rolled back. -/
def rolledBack : List GatewayAction :=
  [.openSession ['s'] ['w'] [] [] ⟨[],false,[],[]⟩ 0,.proceed ['s'] .go ⟨0,.ok 0⟩,
    .command ['s'] (.ingest [1,0] true),.proceed ['s'] .go ⟨0,.ok 0⟩,.runOnce ['w'] true 0,
    .submitted ['w'] (.results [some firstResult]) 0,.hook ['w'] 0,.publish ['w'] (.ok {}) ⟨0,.ok 0⟩,
    .command ['s'] (.ingest [2,0] true),.proceed ['s'] .go ⟨0,.ok 0⟩,.runOnce ['w'] true 0,
    .submitted ['w'] (.results [some secondResult]) 0,.hook ['w'] 0,.publish ['w'] (.ok {}) ⟨0,.ok 0⟩,
    .command ['s'] (.ingest [3,0] true),.proceed ['s'] .go ⟨0,.ok 0⟩,.runOnce ['w'] true 2,.hook ['w'] 2]

theorem rolled_back_submitted : ∃ runtime ctx, Reached smallGateway rolledBack runtime ∧
    runtime.contexts ['s'] = some ctx ∧ (submittedJobs ['s'] runtime.calls).length = 2 ∧ ctx.session.inFlight = false ∧
    ctx.stream = [1,0,2,0,3,0] ∧ ((submittedJobs ['s'] runtime.calls).map (·.pcm)).flatten <+: ctx.stream ∧
    (submittedJobs ['s'] runtime.calls).IsChain (fun previous next => next.startSample = previous.endSample) ∧
    ((submittedJobs ['s'] runtime.calls).map (·.jobSequence)).Pairwise (· < ·) := by
  have ran : ((Machine.run (GatewayRuntime.step smallGateway) .init rolledBack).bind fun runtime =>
      (runtime.contexts ['s']).filter fun ctx => (submittedJobs ['s'] runtime.calls).length = 2 ∧
        ctx.session.inFlight = false ∧ ctx.stream = [1,0,2,0,3,0]).isSome = true := by decide +kernel
  obtain ⟨ctx,found⟩ := Option.isSome_iff_exists.mp ran
  obtain ⟨runtime,reached,found⟩ := Option.bind_eq_some_iff.mp found
  obtain ⟨known,seen⟩ := Option.filter_eq_some_iff.mp found
  obtain ⟨two,free,stream⟩ := of_decide_eq_true seen
  obtain ⟨audio,chain,_,_,ordered,_⟩ := audio_submitted_in_order reached known
  exact ⟨runtime,ctx,reached,known,two,free,stream,audio,chain,ordered⟩

/-- No job of a session is in a submission once its adapter was told to abort it. -/
theorem Attended.unaborted (delivering : Delivering config runtime) {worker : WorkerId} {job : InferenceJob}
    (submits : job ∈ (runtime.scheduler.stages worker).submissions) : .abortSession job.sessionId ∉ runtime.calls := by
  intro aborted
  obtain ⟨ctx,known,past⟩ := delivering.orderly.aborted _ aborted
  have tended := delivering.tended _ _ (view_known known)
  have none := tended.past past
  dsimp only at none
  have unmarked := submissions_unmarked job submits
  obtain ⟨other,found,home⟩ := (delivering.guarded.held worker job unmarked).1
  rw [show runtime.contexts job.sessionId = some other from found] at known
  cases known
  rw [home] at none
  refine List.filter_eq_nil_iff.mp none job ?_ (decide_eq_true rfl)
  cases stage : runtime.scheduler.stages worker <;> rw [stage] at submits <;>
    simp only [Stage.submissions,List.not_mem_nil] at submits
  rw [inSubmission,stage]
  exact List.mem_append_left _ submits

/-- A job that was submitted can always be cleaned up. -/
theorem Attended.cleans (delivering : Delivering config runtime) {worker : WorkerId} {job : InferenceJob}
    (cleans : (runtime.scheduler.stages worker).cleaning = [job]) :
    ∃ view after, runtime.view job.sessionId = some view ∧ outcome (cleanupJob job : Code V Unit) view = (.ok (),after) := by
  have inStage : job ∈ (runtime.scheduler.stages worker).jobs := by
    cases stage : runtime.scheduler.stages worker <;> rw [stage] at cleans <;>
      simp only [Stage.cleaning,reduceCtorEq,List.cons.injEq,and_true] at cleans
    subst cleans
    simp [Stage.jobs,Stage.settlements,jobsOf]
  obtain ⟨view,found,home,tended⟩ := delivering.about inStage
  rw [inSubmission,ofSession_append,cleaning_alone (delivering.guarded.distinct worker) cleans,cleans,ofSession_own,
    List.nil_append] at tended
  obtain ⟨_,after,ran,_⟩ := outcome_ok (cleanupJob_carried tended)
  exact ⟨view,after,found,ran⟩

/-- Where all jobs of a generation go to one worker, none is submitted after `cancel_session` and a
    `wait_session_safe` that returned. So no session of the gateway is aborted while a job of it
    is submitted, every submitted job is cleaned up, and no adapter gets a job of a session that
    it has aborted. -/
theorem cancellation_barrier (config : GatewayConfig V) :
    (∀ {scheduling : SchedulerConfig} (home : SessionKey → WorkerId) {called returned final : GatewayScheduler} {key : SessionKey}
      {before waiting later : List SchedulerAction}, (∀ action ∈ before ++ (waiting ++ later), Routed (home · = ·) action) →
      Machine.run (GatewayScheduler.step scheduling false) .init before = some called →
      key ∈ called.cancelledGenerations →
      Machine.run (GatewayScheduler.step scheduling false) called waiting = some returned →
      waitReturned called returned key = true →
      Machine.run (GatewayScheduler.step scheduling false) returned later = some final →
      ∀ worker, ∀ job ∈ (final.stages worker).submissions, job.key ≠ key) ∧
    ∀ {actions : List GatewayAction} {runtime : GatewayRuntime V}, Reached config actions runtime →
      (∀ worker, ∀ job ∈ (runtime.scheduler.stages worker).submissions, .abortSession job.sessionId ∉ runtime.calls) ∧
      (∀ worker job, (runtime.scheduler.stages worker).cleaning = [job] →
        ∃ view after, runtime.view job.sessionId = some view ∧ outcome (cleanupJob job) view = (.ok (),after)) ∧
      runtime.calls.Pairwise fun earlier later => ∀ sessionId batch,
        earlier = .abortSession sessionId → later = .submit batch → ofSession sessionId batch = [] := by
  constructor
  · intro scheduling home called returned final key before waiting later routed begins cancelled waits safe goesOn
    have functional : ∀ (key : SessionKey) first second, home key = first → home key = second → first = second :=
      fun _ _ _ first second => first.symm.trans second
    have barrier : Barrier scheduling (home · = ·) [] called :=
      run_barrier functional (fun action member => routed action (List.mem_append_left _ member))
        ⟨init_guarded _,fun _ _ => ⟨rfl,rfl⟩,by simp⟩ begins
    exact cancelled_never_submitted functional (fun action member => routed action (List.mem_append_right _ member)) barrier
      cancelled waits safe goesOn
  · intro actions runtime reached
    have delivering := reached_delivering reached
    exact ⟨fun _ _ => delivering.unaborted,fun _ _ => delivering.cleans,delivering.orderly.after⟩

/-- A job is cancelled in its submission, and another of the generation is enqueued later. -/
theorem client_abort_barred :
    (∃ called returned final, Machine.run (GatewayScheduler.step twoWorkers false) .init
        [.enqueue (sharedJob ['v'] 1) 1,.runOnce ['v'] false 2,.cancelSession (['s'],1)] = some called ∧
      Machine.run (GatewayScheduler.step twoWorkers false) called [.resume ['v'] (.results [some (.failure (sharedJob ['v'] 1) "late")]) 3,
        .resume ['v'] .done 3,.resume ['v'] .done 3] = some returned ∧
      Machine.run (GatewayScheduler.step twoWorkers false) returned [.enqueue (sharedJob ['v'] 2) 4,.runOnce ['v'] true 4] =
        some final ∧ ∀ worker, ∀ job ∈ (final.stages worker).submissions, job.key ≠ (['s'],1)) ∧
    ∃ runtime, Reached smallGateway clientAborts runtime ∧ .abortSession ['s'] ∈ runtime.calls ∧
      ∀ worker, ∀ job ∈ (runtime.scheduler.stages worker).submissions, .abortSession job.sessionId ∉ runtime.calls := by
  constructor
  · have ran : ((Machine.run (GatewayScheduler.step twoWorkers false) .init
        [.enqueue (sharedJob ['v'] 1) 1,.runOnce ['v'] false 2,.cancelSession (['s'],1)]).bind fun called =>
      (Machine.run (GatewayScheduler.step twoWorkers false) called
        [.resume ['v'] (.results [some (.failure (sharedJob ['v'] 1) "late")]) 3,.resume ['v'] .done 3,
          .resume ['v'] .done 3]).bind fun returned =>
      (Machine.run (GatewayScheduler.step twoWorkers false) returned [.enqueue (sharedJob ['v'] 2) 4,.runOnce ['v'] true 4]).filter
        fun _ => (['s'],1) ∈ called.cancelledGenerations ∧ waitReturned called returned (['s'],1) = true).isSome = true := by
      decide +kernel
    obtain ⟨final,found⟩ := Option.isSome_iff_exists.mp ran
    obtain ⟨called,begins,found⟩ := Option.bind_eq_some_iff.mp found
    obtain ⟨returned,waits,found⟩ := Option.bind_eq_some_iff.mp found
    obtain ⟨goesOn,checked⟩ := Option.filter_eq_some_iff.mp found
    obtain ⟨cancelled,safe⟩ := of_decide_eq_true checked
    exact ⟨called,returned,final,begins,waits,goesOn,(cancellation_barrier smallGateway).1 (fun _ => ['v'])
      (by simp [Routed,sharedJob]) begins cancelled waits safe goesOn⟩
  · have ran : ((Machine.run (GatewayRuntime.step smallGateway) .init clientAborts).filter fun runtime =>
        .abortSession ['s'] ∈ runtime.calls).isSome = true := by decide +kernel
    obtain ⟨runtime,found⟩ := Option.isSome_iff_exists.mp ran
    obtain ⟨reached,aborted⟩ := Option.filter_eq_some_iff.mp found
    exact ⟨runtime,reached,of_decide_eq_true aborted,((cancellation_barrier smallGateway).2 reached).1⟩

end

end SpeechGateway.Gateway
