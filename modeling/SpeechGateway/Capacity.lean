import Mathlib.Tactic.Linarith
import SpeechGateway.Coordinator

/-!
The capacity accounts of the coordinator: its reservations, its busy sessions and its counter of
jobs agree, in every state of every run, with the jobs that are queued and the one that the
worker has in its hands.
-/
namespace SpeechGateway.Coordinator
open ASRInferenceCoordinator

/-- How far the worker is with a job. Up to rank 0 the job counts as queued, up to rank 1 it is
    not executed, up to rank 3 its session is not purged, up to 4, 5 and 6 it holds its audio, the
    operation of its session and its stream reservation. -/
def Phase.rank : Phase → Nat
  | .taken _ => 0
  | .checking _ | .rejecting .. | .rejected .. | .dropping _ | .warming | .claiming | .claimed | .executing => 1
  | .transcribing | .cleaning _ => 2
  | .purging _ => 3
  | .releasingAudio _ => 4
  | .releasingSession _ => 5
  | .releasingStream _ => 6
  | .settlingStarted _ | .settingStarted _ | .settlingResult _ | .settingResult _ => 7

/-- The job in the worker's hands, up to a rank. -/
def Worker.held (rank : Nat) : Worker → List Job
  | .busy phase job => if phase.rank ≤ rank then [job] else []
  | _ => []

/-- The queued jobs and the one in the worker's hands, up to a rank. -/
def ASRInferenceCoordinator.holding (state : ASRInferenceCoordinator) (rank : Nat) : List Job :=
  state.jobs ++ state.worker.held rank

/-- The job holds the reservation for a stream that it is to open. -/
def Job.opens (sessionId : SessionId) (job : Job) : Bool :=
  job.holdsStreamReservation && decide (job.sessionId = some sessionId)

/-- The job is to open the session, or has opened it. -/
def Job.creates (sessionId : SessionId) (job : Job) : Bool :=
  job.action.reservesStream && decide (job.sessionId = some sessionId)

/-- The job is an operation of the session. -/
def Job.operates (sessionId : SessionId) (job : Job) : Bool :=
  job.action.reservesOperation && decide (job.sessionId = some sessionId)

theorem reservesStream_operation {action : JobAction} (reserves : action.reservesStream = true) :
    action.reservesOperation = false := by
  cases action <;> first | rfl | cases reserves

/-! ## The accounts -/

/-- What the coordinator's lock protects, with the jobs that still hold something. -/
structure Books where
  active : Finset SessionId
  reserved : Finset SessionId
  busy : Finset SessionId
  opened : Finset SessionId
  businessJobs : Nat
  holding : Nat → List Job

namespace Books

/-- The unfinished operations of a session. -/
def operations (books : Books) (sessionId : SessionId) : List Job :=
  (books.holding 5).filter (Job.operates sessionId)

/-- The books once a job is queued. -/
def queued (books : Books) (job : Job) : Books :=
  { books with
    businessJobs := books.businessJobs + if job.business then 1 else 0
    holding := fun rank => job :: books.holding rank }

end Books

/-- The accounts agree with the jobs. -/
structure Accounted (settings : CoordinatorSettings) (books : Books) : Prop where
  limited : books.reserved.card ≤ settings.maxActiveStreams
  covered : books.active ⊆ books.reserved
  owned : ∀ sessionId ∈ books.reserved, sessionId ∉ books.active →
    ∃ job ∈ books.holding 6, job.opens sessionId = true
  opening : ∀ job ∈ books.holding 6, ∀ sessionId, job.opens sessionId = true →
    sessionId ∉ books.active ∧ books.operations sessionId = []
  creating : ∀ job ∈ books.holding 6, ∀ sessionId, job.creates sessionId = true → sessionId ∈ books.opened
  reserving : ∀ job ∈ books.holding 3, ∀ sessionId, job.opens sessionId = true → sessionId ∈ books.reserved
  owners : ∀ sessionId, ((books.holding 6).filter (Job.creates sessionId)).length ≤ 1
  shaped : ∀ job ∈ books.holding 1, job.holdsStreamReservation = job.action.reservesStream ∧
    (job.action.reservesStream = true → job.sessionId.isSome = true)
  flagged : ∀ job ∈ books.holding 6, job.holdsStreamReservation = true → job.action.reservesStream = true
  known : ∀ sessionId, sessionId ∈ books.reserved ∨ sessionId ∈ books.busy ∨ books.operations sessionId ≠ [] →
    sessionId ∈ books.opened
  single : ∀ sessionId, (books.operations sessionId).length ≤ 1
  free : ∀ sessionId ∈ books.active, sessionId ∉ books.busy → books.operations sessionId = []
  counted : books.businessJobs = ((books.holding 0).filter Job.business).length
  jobsBounded : books.businessJobs ≤ settings.inferenceQueueSize

namespace Accounted
variable {settings : CoordinatorSettings} {books : Books}

/-- The order of the jobs does not matter, and the worker may go on with its job. -/
theorem reorder (accounted : Accounted settings books) {holding : Nat → List Job}
    (perm : ∀ rank, rank = 0 ∨ 5 ≤ rank ∧ rank ≤ 6 → (holding rank).Perm (books.holding rank))
    (fewer : ∀ rank, rank = 1 ∨ rank = 3 → holding rank ⊆ books.holding rank) :
    Accounted settings { books with holding := holding } := by
  have operations : ∀ sessionId, (Books.operations { books with holding := holding } sessionId).Perm (books.operations sessionId) :=
    fun sessionId => (perm 5 (by decide)).filter _
  have nothing : ∀ sessionId, Books.operations { books with holding := holding } sessionId = [] ↔ books.operations sessionId = [] :=
    fun sessionId => ⟨fun none => (none ▸ operations sessionId).nil_eq.symm,fun none => (none ▸ operations sessionId).eq_nil⟩
  have held : ∀ job, job ∈ holding 6 ↔ job ∈ books.holding 6 := fun job => (perm 6 (by decide)).mem_iff
  refine ⟨accounted.limited,accounted.covered,?_,?_,?_,?_,?_,?_,?_,?_,?_,?_,?_,accounted.jobsBounded⟩
  · intro sessionId reserved idle
    obtain ⟨job,member,opens⟩ := accounted.owned sessionId reserved idle
    exact ⟨job,(held job).mpr member,opens⟩
  · intro job member sessionId opens
    obtain ⟨idle,none⟩ := accounted.opening job ((held job).mp member) sessionId opens
    exact ⟨idle,(nothing sessionId).mpr none⟩
  · exact fun job member => accounted.creating job ((held job).mp member)
  · exact fun job member => accounted.reserving job (fewer 3 (.inr rfl) member)
  · intro sessionId
    rw [((perm 6 (by decide)).filter _).length_eq]
    exact accounted.owners sessionId
  · exact fun job member => accounted.shaped job (fewer 1 (.inl rfl) member)
  · exact fun job member => accounted.flagged job ((held job).mp member)
  · intro sessionId present
    refine accounted.known sessionId (present.imp_right (Or.imp_right fun some => ?_))
    exact fun none => some ((nothing sessionId).mpr none)
  · intro sessionId
    rw [(operations sessionId).length_eq]
    exact accounted.single sessionId
  · exact fun sessionId active idle => (nothing sessionId).mpr (accounted.free sessionId active idle)
  · rw [((perm 0 (by decide)).filter _).length_eq]
    exact accounted.counted

/-- A job that opens a session creates it. -/
theorem opens_creates (accounted : Accounted settings books) {job : Job} (held : job ∈ books.holding 6) {sessionId : SessionId}
    (opens : job.opens sessionId = true) : job.creates sessionId = true := by
  obtain ⟨holds,own⟩ : job.holdsStreamReservation = true ∧ job.sessionId = some sessionId := by
    simpa [Job.opens] using opens
  simp [Job.creates,own,accounted.flagged job held holds]

section
variable {job : Job}

theorem queued_each {rank : Nat} {p : Job → Prop} (mine : p job) (others : ∀ holder ∈ books.holding rank, p holder) :
    ∀ holder ∈ (books.queued job).holding rank, p holder :=
  List.forall_mem_cons.mpr ⟨mine,others⟩

theorem queued_owned (accounted : Accounted settings books) (job : Job) {sessionId : SessionId}
    (reserved : sessionId ∈ books.reserved) (unused : sessionId ∉ books.active) :
    ∃ holder ∈ (books.queued job).holding 6, holder.opens sessionId = true := by
  obtain ⟨holder,held,opens⟩ := accounted.owned sessionId reserved unused
  exact ⟨holder,List.mem_cons_of_mem _ held,opens⟩

theorem queued_counted (accounted : Accounted settings books) (job : Job) :
    (books.queued job).businessJobs = (((books.queued job).holding 0).filter Job.business).length := by
  simp only [Books.queued,List.filter_cons,accounted.counted]
  split <;> simp

/-- A job without a stream is not the owner of one. -/
theorem queued_owners (accounted : Accounted settings books) (uncreating : ∀ sessionId, job.creates sessionId = false)
    (sessionId : SessionId) : (((books.queued job).holding 6).filter (Job.creates sessionId)).length ≤ 1 := by
  simpa [Books.queued,List.filter_cons,uncreating] using accounted.owners sessionId

theorem unopening (plain : job.holdsStreamReservation = false) (sessionId : SessionId) : ¬job.opens sessionId = true := by
  simp [Job.opens,plain]

theorem uncreating (streamless : job.action.reservesStream = false) (sessionId : SessionId) : job.creates sessionId = false := by
  simp [Job.creates,streamless]

/-- An operation of an active session that is not busy is queued. -/
theorem admitOperation (accounted : Accounted settings books) {sessionId : SessionId}
    (operates : job.operates sessionId = true) (plain : job.holdsStreamReservation = false)
    (active : sessionId ∈ books.active) (idle : sessionId ∉ books.busy)
    (room : (books.queued job).businessJobs ≤ settings.inferenceQueueSize) :
    Accounted settings { books.queued job with busy := books.busy ∪ job.sessionId.toFinset } := by
  obtain ⟨reserves,own⟩ : job.action.reservesOperation = true ∧ job.sessionId = some sessionId := by
    simpa [Job.operates] using operates
  have streamless : job.action.reservesStream = false := by
    cases stream : job.action.reservesStream with
    | false => rfl
    | true => rw [reservesStream_operation stream] at reserves; cases reserves
  have none : books.operations sessionId = [] := accounted.free sessionId active idle
  have operations : ∀ other, Books.operations { books.queued job with busy := books.busy ∪ job.sessionId.toFinset } other =
      if other = sessionId then [job] else books.operations other := by
    intro other
    simp only [Books.operations,Books.queued,List.filter_cons]
    by_cases same : other = sessionId
    · subst same
      rw [if_pos operates,if_pos rfl]
      exact congrArg _ none
    · have foreign : job.operates other = false := by simp [Job.operates,own,Ne.symm same]
      rw [if_neg (by simp [foreign]),if_neg same]
  refine ⟨accounted.limited,accounted.covered,fun _ => accounted.queued_owned job,?_,?_,?_,
    accounted.queued_owners (uncreating streamless),?_,?_,?_,?_,?_,accounted.queued_counted job,room⟩
  · refine queued_each (fun other opens => absurd opens (unopening plain other)) fun holder held other opens => ?_
    obtain ⟨unused,nothing⟩ := accounted.opening holder held other opens
    rw [operations,if_neg (by rintro rfl; exact unused active)]
    exact ⟨unused,nothing⟩
  · refine queued_each (fun other creates => ?_) accounted.creating
    rw [uncreating streamless] at creates
    cases creates
  · exact queued_each (fun other opens => absurd opens (unopening plain other)) accounted.reserving
  · exact queued_each ⟨plain.trans streamless.symm,fun stream => by rw [streamless] at stream; cases stream⟩ accounted.shaped
  · exact queued_each (fun holds => by rw [plain] at holds; cases holds) accounted.flagged
  · intro other present
    by_cases same : other = sessionId
    · rw [same]
      exact accounted.known sessionId (.inl (accounted.covered active))
    · rw [operations,if_neg same] at present
      refine accounted.known other (present.imp_right (Or.imp_left fun busy => ?_))
      simpa [own,same] using busy
  · intro other
    rw [operations]
    split
    · exact Nat.le_refl 1
    · exact accounted.single other
  · intro other used quiet
    rw [operations,if_neg (by rintro rfl; exact quiet (by simp [own]))]
    exact accounted.free other used fun busy => quiet (Finset.mem_union_left _ busy)

/-- A job that is to open a new session is queued. -/
theorem admitStream (accounted : Accounted settings books) {sessionId : SessionId}
    (stream : job.action.reservesStream = true) (holds : job.holdsStreamReservation = true)
    (own : job.sessionId = some sessionId) (fresh : sessionId ∉ books.opened)
    (vacant : books.reserved.card < settings.maxActiveStreams)
    (room : (books.queued job).businessJobs ≤ settings.inferenceQueueSize) :
    Accounted settings { books.queued job with
      reserved := books.reserved ∪ job.sessionId.toFinset
      opened := books.opened ∪ job.sessionId.toFinset } := by
  have unoperating : ∀ other, job.operates other = false := by simp [Job.operates,reservesStream_operation stream]
  have unreserved : sessionId ∉ books.reserved := fun reserved => fresh (accounted.known _ (.inl reserved))
  have operations : ∀ other, Books.operations { books.queued job with
      reserved := books.reserved ∪ job.sessionId.toFinset
      opened := books.opened ∪ job.sessionId.toFinset } other = books.operations other := by
    intro other
    simp [Books.operations,Books.queued,unoperating]
  have foreign : ∀ other, job.creates other = true → other = sessionId := by
    intro other creates
    have same : job.sessionId = some other := by simpa [Job.creates,stream] using creates
    rw [own] at same
    exact (Option.some.inj same).symm
  have foreignOpens : ∀ other, job.opens other = true → other = sessionId := by
    intro other opens
    have same : job.sessionId = some other := by simpa [Job.opens,holds] using opens
    rw [own] at same
    exact (Option.some.inj same).symm
  have mine : job.sessionId.toFinset = {sessionId} := by rw [own]; rfl
  rw [mine] at operations ⊢
  refine ⟨?_,?_,?_,?_,?_,?_,?_,?_,?_,?_,?_,?_,accounted.queued_counted job,room⟩
  · refine Nat.le_trans (Finset.card_union_le _ _) ?_
    rw [Finset.card_singleton]
    exact vacant
  · exact fun other active => Finset.mem_union_left _ (accounted.covered active)
  · intro other reserved unused
    rcases Finset.mem_union.mp reserved with old | new
    · exact accounted.queued_owned job old unused
    · rw [Finset.mem_singleton.mp new]
      exact ⟨job,List.mem_cons_self ..,by simp [Job.opens,holds,own]⟩
  · refine queued_each (fun other opens => ?_) fun holder held other opens => ?_
    · rw [operations,foreignOpens other opens]
      refine ⟨fun active => unreserved (accounted.covered active),?_⟩
      by_contra some
      exact fresh (accounted.known _ (.inr (.inr some)))
    · rw [operations]
      exact accounted.opening holder held other opens
  · refine queued_each (fun other creates => ?_) fun holder held other creates => ?_
    · rw [foreign other creates]
      exact Finset.mem_union_right _ (Finset.mem_singleton_self _)
    · exact Finset.mem_union_left _ (accounted.creating holder held other creates)
  · refine queued_each (fun other opens => ?_) fun holder held other opens => ?_
    · rw [foreignOpens other opens]
      exact Finset.mem_union_right _ (Finset.mem_singleton_self _)
    · exact Finset.mem_union_left _ (accounted.reserving holder held other opens)
  · intro other
    by_cases same : job.creates other = true
    · obtain rfl := foreign other same
      have alone : (books.holding 6).filter (Job.creates other) = [] :=
        List.filter_eq_nil_iff.mpr fun holder held creates => fresh (accounted.creating holder held other creates)
      simp [Books.queued,same,alone]
    · simpa [Books.queued,List.filter_cons,same] using accounted.owners other
  · exact queued_each ⟨holds.trans stream.symm,fun _ => by rw [own]; rfl⟩ accounted.shaped
  · exact queued_each (fun _ => stream) accounted.flagged
  · intro other present
    rw [operations] at present
    rcases present with reserved | later
    · rcases Finset.mem_union.mp reserved with old | new
      · exact Finset.mem_union_left _ (accounted.known other (.inl old))
      · exact Finset.mem_union_right _ new
    · exact Finset.mem_union_left _ (accounted.known other (.inr later))
  · intro other
    rw [operations]
    exact accounted.single other
  · intro other active idle
    rw [operations]
    exact accounted.free other active idle

/-- A job that reserves nothing is queued. -/
theorem admitOther (accounted : Accounted settings books) (streamless : job.action.reservesStream = false)
    (unoperating : job.action.reservesOperation = false) (plain : job.holdsStreamReservation = false)
    (room : (books.queued job).businessJobs ≤ settings.inferenceQueueSize) :
    Accounted settings (books.queued job) := by
  have operations : ∀ other, (books.queued job).operations other = books.operations other := by
    intro other
    simp [Books.operations,Books.queued,Job.operates,unoperating]
  refine ⟨accounted.limited,accounted.covered,fun _ => accounted.queued_owned job,?_,?_,?_,
    accounted.queued_owners (uncreating streamless),?_,?_,?_,?_,?_,accounted.queued_counted job,room⟩
  · refine queued_each (fun other opens => absurd opens (unopening plain other)) fun holder held other opens => ?_
    rw [operations]
    exact accounted.opening holder held other opens
  · refine queued_each (fun other creates => ?_) accounted.creating
    rw [uncreating streamless] at creates
    cases creates
  · exact queued_each (fun other opens => absurd opens (unopening plain other)) accounted.reserving
  · exact queued_each ⟨plain.trans streamless.symm,fun stream => by rw [streamless] at stream; cases stream⟩ accounted.shaped
  · exact queued_each (fun holds => by rw [plain] at holds; cases holds) accounted.flagged
  · intro other present
    rw [operations] at present
    exact accounted.known other present
  · intro other
    rw [operations]
    exact accounted.single other
  · intro other active idle
    rw [operations]
    exact accounted.free other active idle

end

section
variable {jobs : List Job} {job : Job}

/-- The queue, and the job in hand from a rank on. -/
def carried (jobs : List Job) (job : Job) (reached rank : Nat) : List Job := jobs ++ if reached ≤ rank then [job] else []

theorem mem_carried {reached rank : Nat} {other : Job} :
    other ∈ carried jobs job reached rank ↔ other ∈ jobs ∨ reached ≤ rank ∧ other = job := by
  unfold carried
  split <;> simp [*]

theorem carried_before {reached rank : Nat} (before : rank < reached) : carried jobs job reached rank = jobs := by
  simp [carried,Nat.not_le.mpr before]

theorem carried_from {reached rank : Nat} (since : reached ≤ rank) : carried jobs job reached rank = jobs ++ [job] := by
  simp [carried,since]

/-- The worker goes on with a job that is not in the queue any more, and gives nothing back. -/
theorem advance {reached later : Nat} (accounted : Accounted settings { books with holding := carried jobs job reached })
    (started : 1 ≤ reached) (onward : reached ≤ later) (holds : later ≤ 5) :
    Accounted settings { books with holding := carried jobs job later } := by
  refine accounted.reorder (fun rank inside => ?_) fun rank inside other member => ?_
  · rcases inside with rfl | ⟨high,_⟩
    · rw [carried_before (by omega)]
      dsimp only
      rw [carried_before (by omega)]
    · rw [carried_from (by omega)]
      dsimp only
      rw [carried_from (by omega)]
  · rw [mem_carried] at member
    exact mem_carried.mpr (member.imp_right fun ⟨reaches,same⟩ => ⟨by omega,same⟩)

/-- The operations of a session, with the job in hand. -/
theorem carried_operations {reached : Nat} (holds : reached ≤ 5) (sessionId : SessionId) :
    Books.operations { books with holding := carried jobs job reached } sessionId =
      jobs.filter (Job.operates sessionId) ++ [job].filter (Job.operates sessionId) := by
  rw [Books.operations]
  dsimp only
  rw [carried_from holds,List.filter_append]

/-- A job in hand that operates on a session is the only operation of it. -/
theorem operates_alone {reached : Nat} (accounted : Accounted settings { books with holding := carried jobs job reached })
    (holds : reached ≤ 5) {sessionId : SessionId} (operates : job.operates sessionId = true) :
    jobs.filter (Job.operates sessionId) = [] := by
  have single := accounted.single sessionId
  rw [carried_operations holds,List.length_append,List.filter_singleton,operates] at single
  exact List.length_eq_zero_iff.mp (by simpa using single)

/-- No queued job opens the session of the job in hand. -/
theorem unopened {reached : Nat} (accounted : Accounted settings { books with holding := carried jobs job reached })
    (holds : reached ≤ 5) {sessionId : SessionId} (own : job.sessionId = some sessionId)
    (acts : job.action.reservesOperation = true ∨ job.action.reservesStream = true) :
    ∀ other ∈ jobs, other.opens sessionId = false := by
  intro other queued
  by_contra opens
  rw [Bool.not_eq_false] at opens
  have held : other ∈ carried jobs job reached 6 := mem_carried.mpr (.inl queued)
  rcases acts with operation | stream
  · have none := (accounted.opening other held sessionId opens).2
    rw [carried_operations holds] at none
    have operates : job.operates sessionId = true := by simp [Job.operates,operation,own]
    simp [operates] at none
  · have owners := accounted.owners sessionId
    dsimp only at owners
    have creates : job.creates sessionId = true := by simp [Job.creates,stream,own]
    rw [carried_from (by omega),List.filter_append,List.length_append,List.filter_singleton,creates] at owners
    have empty : jobs.filter (Job.creates sessionId) = [] := List.length_eq_zero_iff.mp (by simpa using owners)
    exact List.filter_eq_nil_iff.mp empty other queued (accounted.opens_creates held opens)

/-- The worker releases the slot of the job that it has taken. -/
theorem releaseSlot (accounted : Accounted settings { books with holding := carried jobs job 0 }) :
    Accounted settings { books with
      businessJobs := if job.business then books.businessJobs - 1 else books.businessJobs
      holding := carried jobs job 1 } := by
  have counted := accounted.counted
  have bounded := accounted.jobsBounded
  dsimp only at counted bounded
  rw [carried_from (le_refl 0),List.filter_append,List.length_append,List.filter_singleton] at counted
  refine ⟨accounted.limited,accounted.covered,accounted.owned,accounted.opening,accounted.creating,accounted.reserving,
    accounted.owners,accounted.shaped,accounted.flagged,accounted.known,accounted.single,accounted.free,?_,?_⟩
  · dsimp only
    rw [carried_before Nat.zero_lt_one]
    split <;> simp_all
  · dsimp only
    split <;> omega

/-- The worker has opened the session of its job. -/
theorem openSession {sessionId : SessionId} (accounted : Accounted settings { books with holding := carried jobs job 1 })
    (stream : job.action.reservesStream = true) (own : job.sessionId = some sessionId) :
    Accounted settings { books with
      active := books.active ∪ job.sessionId.toFinset
      holding := carried jobs { job with holdsStreamReservation := false } 2 } := by
  set opened : Job := { job with holdsStreamReservation := false } with openedIs
  have held : job ∈ carried jobs job 1 1 := mem_carried.mpr (.inr ⟨le_refl 1,rfl⟩)
  have holds : job.holdsStreamReservation = true := (accounted.shaped job held).1.trans stream
  have opens : job.opens sessionId = true := by simp [Job.opens,holds,own]
  have inHand : job ∈ carried jobs job 1 6 := mem_carried.mpr (.inr ⟨by decide,rfl⟩)
  have mine : job.sessionId.toFinset = {sessionId} := by rw [own]; rfl
  obtain ⟨unused,none⟩ := accounted.opening job inHand sessionId opens
  have quiet := accounted.unopened (by decide) own (.inr stream)
  have unopening : ∀ other, opened.opens other = false := by simp [openedIs,Job.opens]
  have operations : ∀ other, Books.operations { books with
      active := books.active ∪ job.sessionId.toFinset, holding := carried jobs opened 2 } other =
      Books.operations { books with holding := carried jobs job 1 } other := by
    intro other
    have unoperating : job.action.reservesOperation = false := reservesStream_operation stream
    simp [Books.operations,carried,Job.operates,openedIs,unoperating]
  have queued : ∀ {rank : Nat} {other : Job} {session : SessionId}, other ∈ carried jobs opened 2 rank →
      other.opens session = true → other ∈ jobs := by
    intro rank other session member opens
    rcases mem_carried.mp member with queued | ⟨_,rfl⟩
    · exact queued
    · rw [unopening] at opens
      cases opens
  rw [mine] at operations ⊢
  refine ⟨accounted.limited,?_,?_,?_,?_,?_,?_,?_,?_,?_,?_,?_,?_,accounted.jobsBounded⟩
  · intro other active
    rcases Finset.mem_union.mp active with old | new
    · exact accounted.covered old
    · rw [Finset.mem_singleton.mp new]
      exact accounted.reserving job (mem_carried.mpr (.inr ⟨by decide,rfl⟩)) sessionId opens
  · intro other reserved idle
    obtain ⟨old,new⟩ := not_or.mp (fun active => idle (Finset.mem_union.mpr active))
    obtain ⟨holder,member,holderOpens⟩ := accounted.owned other reserved old
    rcases mem_carried.mp member with inQueue | ⟨_,rfl⟩
    · exact ⟨holder,mem_carried.mpr (.inl inQueue),holderOpens⟩
    · have same : holder.sessionId = some other := by simpa [Job.opens,holds] using holderOpens
      rw [own] at same
      exact absurd (Finset.mem_singleton.mpr (Option.some.inj same).symm) new
  · intro holder member other holderOpens
    have inQueue := queued member holderOpens
    obtain ⟨idle,nothing⟩ := accounted.opening holder (mem_carried.mpr (.inl inQueue)) other holderOpens
    rw [operations]
    refine ⟨fun active => ?_,nothing⟩
    rcases Finset.mem_union.mp active with old | new
    · exact idle old
    · rw [Finset.mem_singleton.mp new,quiet holder inQueue] at holderOpens
      cases holderOpens
  · intro holder member other creates
    rcases mem_carried.mp member with inQueue | ⟨_,rfl⟩
    · exact accounted.creating holder (mem_carried.mpr (.inl inQueue)) other creates
    · exact accounted.creating job inHand other creates
  · intro holder member other holderOpens
    exact accounted.reserving holder (mem_carried.mpr (.inl (queued member holderOpens))) other holderOpens
  · intro other
    have owners := accounted.owners other
    dsimp only at owners ⊢
    rw [carried_from (by decide),List.filter_append] at owners ⊢
    have same : [opened].filter (Job.creates other) = ([job].filter (Job.creates other)).map fun _ => opened := by
      by_cases creates : job.creates other = true
      · have later : opened.creates other = true := creates
        simp [creates,later]
      · have later : opened.creates other ≠ true := creates
        simp [creates,later]
    rw [same,List.length_append,List.length_map,← List.length_append]
    exact owners
  · intro holder member
    rcases mem_carried.mp member with inQueue | ⟨late,_⟩
    · exact accounted.shaped holder (mem_carried.mpr (.inl inQueue))
    · omega
  · intro holder member flagged
    rcases mem_carried.mp member with inQueue | ⟨_,rfl⟩
    · exact accounted.flagged holder (mem_carried.mpr (.inl inQueue)) flagged
    · exact stream
  · intro other present
    rw [operations] at present
    exact accounted.known other present
  · intro other
    rw [operations]
    exact accounted.single other
  · intro other active idle
    rw [operations]
    rcases Finset.mem_union.mp active with old | new
    · exact accounted.free other old idle
    · rw [Finset.mem_singleton.mp new]
      exact none
  · have counted := accounted.counted
    dsimp only at counted ⊢
    rw [carried_before Nat.zero_lt_one] at counted
    rw [carried_before (by decide)]
    exact counted

/-- The worker has closed the session of its job: it has executed the job that ends it, or purges
    it. -/
theorem closeSession {reached later : Nat} {quiet : Finset SessionId}
    (accounted : Accounted settings { books with holding := carried jobs job reached }) (started : 1 ≤ reached)
    (onward : reached < later) (holds : later ≤ 4) (low : 3 < later ∨ job.holdsStreamReservation = false)
    (acts : job.action.reservesOperation = true ∨ job.action.reservesStream = true ∨ job.sessionId = none)
    (idle : ∀ sessionId ∈ books.busy, sessionId ∉ quiet → job.sessionId = some sessionId) (fewer : quiet ⊆ books.busy) :
    Accounted settings { books with
      active := books.active \ job.sessionId.toFinset
      reserved := books.reserved \ job.sessionId.toFinset
      busy := quiet
      holding := carried jobs job later } := by
  have same : ∀ rank, 4 ≤ rank → carried jobs job later rank = carried jobs job reached rank := by
    intro rank high
    rw [carried_from (by omega),carried_from (by omega)]
  have operations : ∀ other, Books.operations { books with
      active := books.active \ job.sessionId.toFinset
      reserved := books.reserved \ job.sessionId.toFinset
      busy := quiet
      holding := carried jobs job later } other = Books.operations { books with holding := carried jobs job reached } other := by
    intro other
    simp only [Books.operations]
    rw [same 5 (by decide)]
  have mine : ∀ {other}, other ∈ job.sessionId.toFinset ↔ job.sessionId = some other := by simp
  refine ⟨?_,?_,?_,?_,?_,?_,?_,?_,?_,?_,?_,?_,?_,accounted.jobsBounded⟩
  · exact Nat.le_trans (Finset.card_le_card Finset.sdiff_subset) accounted.limited
  · exact fun other active => Finset.mem_sdiff.mpr
      ⟨accounted.covered (Finset.mem_sdiff.mp active).1,(Finset.mem_sdiff.mp active).2⟩
  · intro other reserved unused
    obtain ⟨old,foreign⟩ := Finset.mem_sdiff.mp reserved
    obtain ⟨holder,member,opens⟩ := accounted.owned other old fun active => unused (Finset.mem_sdiff.mpr ⟨active,foreign⟩)
    exact ⟨holder,by dsimp only; rw [same 6 (by decide)]; exact member,opens⟩
  · intro holder member other opens
    dsimp only at member
    rw [same 6 (by decide)] at member
    obtain ⟨unused,none⟩ := accounted.opening holder member other opens
    rw [operations]
    exact ⟨fun active => unused (Finset.mem_sdiff.mp active).1,none⟩
  · intro holder member
    dsimp only at member
    rw [same 6 (by decide)] at member
    exact accounted.creating holder member
  · intro holder member other opens
    have queued : holder ∈ jobs := by
      rcases mem_carried.mp member with queued | ⟨early,rfl⟩
      · exact queued
      · rcases low with late | plain
        · omega
        · simp [Job.opens,plain] at opens
    refine Finset.mem_sdiff.mpr ⟨accounted.reserving holder (mem_carried.mpr (.inl queued)) other opens,fun own => ?_⟩
    rw [mine] at own
    have unopened := accounted.unopened (by omega) own (acts.imp_right fun rest => rest.resolve_right (by simp [own])) holder queued
    rw [unopened] at opens
    cases opens
  · intro other
    dsimp only
    rw [same 6 (by decide)]
    exact accounted.owners other
  · intro holder member
    refine accounted.shaped holder (mem_carried.mpr ((mem_carried.mp member).imp_right fun ⟨early,_⟩ => ?_))
    omega
  · intro holder member
    dsimp only at member
    rw [same 6 (by decide)] at member
    exact accounted.flagged holder member
  · intro other present
    rw [operations] at present
    refine accounted.known other (present.imp (fun reserved => ?_) (Or.imp_left fun busy => fewer busy))
    exact (Finset.mem_sdiff.mp reserved).1
  · intro other
    rw [operations]
    exact accounted.single other
  · intro other active calm
    obtain ⟨used,foreign⟩ := Finset.mem_sdiff.mp active
    rw [operations]
    refine accounted.free other used fun busy => ?_
    exact foreign (mine.mpr (idle other busy calm))
  · have counted := accounted.counted
    dsimp only at counted ⊢
    rw [carried_before (by omega)] at counted ⊢
    exact counted

/-- What the job in hand still holds becomes less: its operation, its reservation. -/
theorem holdLess {reached later : Nat} (accounted : Accounted settings { books with holding := carried jobs job reached })
    (started : 1 ≤ reached) (onward : reached ≤ later) {quiet reserved : Finset SessionId}
    (calm : ∀ sessionId ∈ books.active, sessionId ∈ books.busy → sessionId ∉ quiet → jobs.filter (Job.operates sessionId) = [] ∧ 5 < later)
    (fewer : quiet ⊆ books.busy) (covered : books.active ⊆ reserved) (kept : reserved ⊆ books.reserved)
    (owned : ∀ sessionId ∈ reserved, job.opens sessionId = true → later ≤ 6)
    (queued : ∀ other ∈ jobs, ∀ sessionId, other.opens sessionId = true → sessionId ∈ reserved)
    (mine : later ≤ 3 → ∀ sessionId, job.opens sessionId = true → sessionId ∈ reserved) :
    Accounted settings { books with
      busy := quiet
      reserved := reserved
      holding := carried jobs job later } := by
  have member : ∀ {rank : Nat} {other : Job}, other ∈ carried jobs job later rank → other ∈ carried jobs job reached rank := by
    intro rank other held
    exact mem_carried.mpr ((mem_carried.mp held).imp_right fun ⟨since,same⟩ => ⟨by omega,same⟩)
  have sub : ∀ sessionId, (Books.operations { books with
      busy := quiet
      reserved := reserved
      holding := carried jobs job later } sessionId).Sublist
      (Books.operations { books with holding := carried jobs job reached } sessionId) := by
    intro sessionId
    refine List.Sublist.filter _ ?_
    dsimp only [carried]
    refine (List.append_sublist_append_left _).mpr ?_
    split
    · rw [if_pos (by omega)]
    · exact List.nil_sublist _
  have nothing : ∀ {sessionId}, Books.operations { books with holding := carried jobs job reached } sessionId = [] →
      Books.operations { books with
        busy := quiet
        reserved := reserved
        holding := carried jobs job later } sessionId = [] := fun none => List.sublist_nil.mp (none ▸ sub _)
  refine ⟨?_,covered,?_,?_,?_,?_,?_,?_,?_,?_,?_,?_,?_,accounted.jobsBounded⟩
  · exact Nat.le_trans (Finset.card_le_card kept) accounted.limited
  · intro sessionId held unused
    obtain ⟨holder,inHand,opens⟩ := accounted.owned sessionId (kept held) unused
    refine ⟨holder,mem_carried.mpr ((mem_carried.mp inHand).imp_right ?_),opens⟩
    rintro ⟨_,rfl⟩
    exact ⟨owned sessionId held opens,rfl⟩
  · intro holder held sessionId opens
    obtain ⟨unused,none⟩ := accounted.opening holder (member held) sessionId opens
    exact ⟨unused,nothing none⟩
  · exact fun holder held => accounted.creating holder (member held)
  · intro holder held sessionId opens
    rcases mem_carried.mp held with inQueue | ⟨early,rfl⟩
    · exact queued holder inQueue sessionId opens
    · exact mine early sessionId opens
  · intro sessionId
    refine Nat.le_trans (List.Sublist.length_le (List.Sublist.filter _ ?_)) (accounted.owners sessionId)
    dsimp only [carried]
    refine (List.append_sublist_append_left _).mpr ?_
    split
    · rw [if_pos (by omega)]
    · exact List.nil_sublist _
  · exact fun holder held => accounted.shaped holder (member held)
  · exact fun holder held => accounted.flagged holder (member held)
  · intro sessionId present
    refine accounted.known sessionId (present.imp (fun held => kept held) (Or.imp (fun busy => fewer busy) fun some none => ?_))
    exact some (nothing none)
  · exact fun sessionId => Nat.le_trans (sub sessionId).length_le (accounted.single sessionId)
  · intro sessionId active idle
    by_cases busy : sessionId ∈ books.busy
    · obtain ⟨none,late⟩ := calm sessionId active busy idle
      rw [Books.operations]
      dsimp only
      rw [carried_before late]
      exact none
    · exact nothing (accounted.free sessionId active busy)
  · have counted := accounted.counted
    dsimp only at counted ⊢
    rw [carried_before (by omega)] at counted ⊢
    exact counted

/-- The worker releases the operation of its job. -/
theorem releaseOperation (accounted : Accounted settings { books with holding := carried jobs job 5 }) :
    Accounted settings { books with
      busy := if job.action.reservesOperation then books.busy \ job.sessionId.toFinset else books.busy
      holding := carried jobs job 6 } := by
  have reserving : ∀ other ∈ jobs, ∀ sessionId, other.opens sessionId = true → sessionId ∈ books.reserved :=
    fun other queued => accounted.reserving other (mem_carried.mpr (.inl queued))
  refine accounted.holdLess (by decide) (by decide) ?_ ?_ accounted.covered subset_rfl
    (fun _ _ _ => by decide) reserving (by omega)
  · intro sessionId active busy quiet
    split at quiet
    · rename_i operation
      have own : job.sessionId = some sessionId := by
        by_contra foreign
        exact quiet (Finset.mem_sdiff.mpr ⟨busy,by simpa using foreign⟩)
      exact ⟨accounted.operates_alone (le_refl 5) (by simp [Job.operates,operation,own]),by decide⟩
    · exact absurd busy quiet
  · split
    · exact Finset.sdiff_subset
    · exact subset_rfl

/-- The worker releases the stream reservation of its job, and is done with it. -/
theorem releaseStream (accounted : Accounted settings { books with holding := carried jobs job 6 }) :
    Accounted settings { books with
      reserved := if job.holdsStreamReservation then books.reserved \ job.sessionId.toFinset else books.reserved
      holding := carried jobs job 7 } := by
  have inHand : job ∈ carried jobs job 6 6 := mem_carried.mpr (.inr ⟨le_refl 6,rfl⟩)
  refine accounted.holdLess (by decide) (by decide) (fun _ _ busy quiet => absurd busy quiet) subset_rfl
    ?_ ?_ ?_ ?_ (by omega)
  · intro sessionId active
    split
    · rename_i holds
      refine Finset.mem_sdiff.mpr ⟨accounted.covered active,fun own => ?_⟩
      have opens : job.opens sessionId = true := by simpa [Job.opens,holds] using own
      exact (accounted.opening job inHand sessionId opens).1 active
    · exact accounted.covered active
  · split
    · exact Finset.sdiff_subset
    · exact subset_rfl
  · intro sessionId held opens
    obtain ⟨holds,own⟩ : job.holdsStreamReservation = true ∧ job.sessionId = some sessionId := by simpa [Job.opens] using opens
    rw [if_pos holds] at held
    exact absurd (by simp [own]) (Finset.mem_sdiff.mp held).2
  · intro other queued sessionId opens
    have reserved := accounted.reserving other (mem_carried.mpr (.inl queued)) sessionId opens
    split
    · rename_i holds
      refine Finset.mem_sdiff.mpr ⟨reserved,fun own => ?_⟩
      have own : job.sessionId = some sessionId := by simpa using own
      have stream := accounted.flagged job inHand holds
      have owners := accounted.owners sessionId
      dsimp only at owners
      have creates : job.creates sessionId = true := by simp [Job.creates,stream,own]
      rw [carried_from (le_refl 6),List.filter_append,List.length_append,List.filter_singleton,creates] at owners
      have empty : jobs.filter (Job.creates sessionId) = [] := List.length_eq_zero_iff.mp (by simpa using owners)
      have held : other ∈ carried jobs job 6 6 := mem_carried.mpr (.inl queued)
      exact List.filter_eq_nil_iff.mp empty other queued (accounted.opens_creates held opens)
    · exact reserved

end

end Accounted

end SpeechGateway.Coordinator
