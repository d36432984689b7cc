import SpeechGateway.Custody
import SpeechGateway.Gateway
import SpeechGateway.Settlement

/-!
What the code of a session does to it. Whatever a handler or a publication computes, and
wherever it raises, it moves in a few ways (`Work`): it appends audio, enqueues a job or fails
to, keeps accounts, goes on to its next suspension. Only ending a session is left out, which
few programs do. What each of these ways keeps, every such program keeps.
-/
namespace SpeechGateway.Gateway
open SpeechGateway.Backends SpeechGateway.Protocol SpeechGateway.Vad SpeechGateway.Sessions SpeechGateway.Scheduling
  SpeechGateway.Settlement Programs

variable {V : Type}

/-- Nothing changes but the transcript, its metadata, and what is kept for deadlines. -/
structure SameCore (view next : View V) : Prop where
  session : next.ctx.session = view.ctx.session
  stream : next.ctx.stream = view.ctx.stream
  live : next.ctx.live = view.ctx.live
  vad : next.ctx.vad = view.ctx.vad
  endpointPending : next.ctx.endpointPending = view.ctx.endpointPending
  endpoints : next.ctx.endpoints = view.ctx.endpoints
  utteranceSamples : next.ctx.utteranceSamples = view.ctx.utteranceSamples
  idle : next.ctx.idle = view.ctx.idle
  handler : next.ctx.handler = view.ctx.handler
  publication : next.ctx.publication = view.ctx.publication
  events : next.ctx.events = view.ctx.events
  sent : next.ctx.sent = view.ctx.sent
  aborts : next.ctx.aborts = view.ctx.aborts
  terminalEvents : next.ctx.terminalEvents = view.ctx.terminalEvents
  cancellations : next.ctx.cancellations = view.ctx.cancellations
  refusals : next.ctx.refusals = view.ctx.refusals
  scheduler : next.scheduler = view.scheduler
  calls : next.calls = view.calls

/-- Nothing of the session changes but its accounts of input and of discarded samples. -/
structure AccountsOnly (session next : GatewaySession) : Prop where
  sessionId : next.sessionId = session.sessionId
  worker : next.selectedWorkerId = session.selectedWorkerId
  generation : next.generation = session.generation
  terminalState : next.terminalState = session.terminalState
  buffer : next.buffer = session.buffer
  reservation : next.reservation = session.reservation
  nextJobSequence : next.nextJobSequence = session.nextJobSequence
  finishRequested : next.finishRequested = session.finishRequested

/-- A terminal event may be sent to the client. -/
def Over (session : GatewaySession) : Prop := 1 < session.generation ∨ session.terminalState = .succeeded

instance (session : GatewaySession) : Decidable (Over session) := inferInstanceAs (Decidable (_ ∨ _))

/-- A detector that holds nothing back. -/
def Silent (config : GatewayConfig V) (vad : Option V) : Prop := ∀ current, vad = some current → config.detector.held current = 0

/-- The final flag of the next job. -/
def finalDecode (ctx : SessionContext V) (count : Nat) (remaining : Int) : Bool :=
  ctx.session.finishRequested || ctx.endpointPending || decide ((count : Int) = remaining)

section
variable (config : GatewayConfig V) (guarded hearing : Prop) (goes : Handler → Prop) (out : Publication → Prop)

/-- One change of a session. Its handler may go on to where `goes` says, and the publication
    of its result to where `out` says. What is `guarded` appends to open sessions only, and
    ends the connection of sessions that are over; only what is `hearing` calls a detector and
    accounts for its decisions. -/
inductive Work : View V → View V → Prop
  | inner {view next : View V} (same : SameCore view next) : Work view next
  | goto {view : View V} {handler : Handler} (allowed : goes handler) :
      Work view (view.withContext fun ctx => { ctx with handler := handler })
  | setIdle {view : View V} :
      Work view (view.withContext fun ctx => { ctx with idle := true, handler := ctx.handler.wake })
  | publication {view : View V} {publication : Publication} (allowed : out publication) :
      Work view (view.withContext fun ctx => { ctx with publication := publication })
  | speak {view : View V} {events : List OutboundEvent}
      (ends : guarded → ∀ event ∈ events, event.terminal = true → Over view.ctx.session) :
      Work view (view.withContext fun ctx => { ctx with events := ctx.events ++ events })
  | account {view : View V} {session : GatewaySession} (hears : hearing) (accounts : AccountsOnly view.ctx.session session) :
      Work view (view.withContext fun ctx => { ctx with session := session })
  | note {view : View V} {refusal : Refusal} (hears : hearing) :
      Work view (view.withContext fun ctx => { ctx with refusals := ctx.refusals ++ [refusal] })
  | hear {view : View V} {vad : Option V} {pending : Bool} {endpoints : List Nat} (hears : hearing)
      (quiet : guarded → Open view.ctx.session ∨ (Silent config view.ctx.vad → Silent config vad)) :
      Work view (view.withContext fun ctx => { ctx with vad := vad, endpointPending := pending, endpoints := endpoints })
  | utter {view : View V} {samples : Nat} :
      Work view (view.withContext fun ctx => { ctx with utteranceSamples := samples })
  | append {view : View V} {session : GatewaySession} {pcm : Pcm} {countAccepted : Bool} (hears : hearing)
      (opened : guarded → Open view.ctx.session) (appends : view.ctx.session.appendPcm pcm countAccepted = .ok session) :
      Work view (view.withContext fun ctx => appended ctx session pcm)
  | schedule {view : View V} {moment : Moment} {force : Bool} {remaining : Int} {count : Nat}
      {reservation : SessionReservation} {session : GatewaySession} {scheduler : GatewayScheduler}
      (measured : segmentRemaining config moment view.ctx = .ok remaining)
      (counted : nextCount config view.ctx.session remaining force = count) (some : count ≠ 0)
      (reserves : view.ctx.session.reserve count (finalDecode view.ctx count remaining) = .ok (reservation,session))
      (enqueues : view.scheduler.enqueue config.scheduler moment.now (makeJob config moment.now session reservation) =
        .ok scheduler) :
      Work view (scheduled view moment.now session (makeJob config moment.now session reservation) scheduler)
  | refuse {view : View V} {count : Nat} {final held : Bool} {reservation : SessionReservation}
      {session restored : GatewaySession} (reserves : view.ctx.session.reserve count final = .ok (reservation,session))
      (rollsBack : session.rollback reservation.jobSequence = .ok (held,restored)) :
      Work view (view.withContext fun ctx => { ctx with session := restored })
  | control {view : View V} {call : AdapterCall}
      (own : guarded → call = .finishSegment view.ctx.session.sessionId ∨ call = .finishSession view.ctx.session.sessionId) :
      Work view { view with calls := view.calls ++ [call] }

/-- Any number of such changes. -/
abbrev Worked (start view : View V) : Prop := Relation.ReflTransGen (Work config guarded hearing goes out) start view

end

variable {config : GatewayConfig V} {guarded hearing : Prop} {goes : Handler → Prop} {out : Publication → Prop}
  {start view : View V}

/-- How the session stands with the gateway is the same. -/
structure SameLife (session next : GatewaySession) : Prop where
  sessionId : next.sessionId = session.sessionId
  worker : next.selectedWorkerId = session.selectedWorkerId
  generation : next.generation = session.generation
  terminalState : next.terminalState = session.terminalState
  finishRequested : next.finishRequested = session.finishRequested

theorem SameLife.refl {session : GatewaySession} : SameLife session session := ⟨.refl _,.refl _,.refl _,.refl _,.refl _⟩

theorem SameLife.trans {first second third : GatewaySession} (same : SameLife first second) (later : SameLife second third) :
    SameLife first third where
  sessionId := later.sessionId.trans same.sessionId
  worker := later.worker.trans same.worker
  generation := later.generation.trans same.generation
  terminalState := later.terminalState.trans same.terminalState
  finishRequested := later.finishRequested.trans same.finishRequested

theorem reserve_life {session next : GatewaySession} {samples : Nat} {final : Bool} {reservation : SessionReservation}
    (reserves : session.reserve samples final = .ok (reservation,next)) : SameLife session next := by
  obtain ⟨_,_,_,_,rfl,rfl⟩ := reserve_eq reserves
  exact ⟨rfl,rfl,rfl,rfl,rfl⟩

theorem rollback_life {session next : GatewaySession} {jobSequence : Nat} {held : Bool}
    (rollsBack : session.rollback jobSequence = .ok (held,next)) : SameLife session next := by
  unfold GatewaySession.rollback at rollsBack
  split at rollsBack
  · cases rollsBack
    exact .refl
  split at rollsBack
  · cases rollsBack
    exact .refl
  rename_i reservation _ _
  cases found : session.buffer.rollback reservation.chunk.startSample reservation.chunk.endSample with
  | error exc => simp [found,bind,Except.bind] at rollsBack
  | ok buffer =>
    simp only [found,bind,Except.bind,Except.ok.injEq,Prod.mk.injEq] at rollsBack
    obtain ⟨_,rfl⟩ := rollsBack
    exact ⟨rfl,rfl,rfl,rfl,rfl⟩

theorem appendPcm_life {session next : GatewaySession} {pcm : Pcm} {countAccepted : Bool}
    (appends : session.appendPcm pcm countAccepted = .ok next) : SameLife session next := by
  obtain ⟨_,_,_,rfl⟩ := appendPcm_eq appends
  exact ⟨rfl,rfl,rfl,rfl,rfl⟩

theorem work_life (work : Work config guarded hearing goes out start view) : SameLife start.ctx.session view.ctx.session := by
  cases work with
  | inner same => rw [same.session]; exact .refl
  | account _ accounts => exact ⟨accounts.1,accounts.2,accounts.3,accounts.4,accounts.finishRequested⟩
  | append _ _ appends => exact appendPcm_life appends
  | schedule _ _ _ reserves => exact reserve_life reserves
  | refuse reserves rollsBack => exact (reserve_life reserves).trans (rollback_life rollsBack)
  | _ => exact .refl

theorem worked_life (worked : Worked config guarded hearing goes out start view) : SameLife start.ctx.session view.ctx.session := by
  induction worked with
  | refl => exact .refl
  | tail _ work ih => exact ih.trans (work_life work)

theorem Open.of_life {session next : GatewaySession} (opened : Open session) (same : SameLife session next) : Open next := by
  intro later
  rw [same.finishRequested]
  exact opened (same.generation ▸ later)

theorem Over.of_life {session next : GatewaySession} (past : Over session) (same : SameLife session next) : Over next := by
  rw [Over,same.generation,same.terminalState]
  exact past

/-- A handler stands where it stood or where it may go, and may have been woken there. -/
inductive Stands (goes : Handler → Prop) (before : Handler) : Handler → Prop
  | still : Stands goes before before
  | gone {handler : Handler} (allowed : goes handler) : Stands goes before handler
  | woken {handler : Handler} (stands : Stands goes before handler) : Stands goes before handler.wake

theorem worked_handler (worked : Worked config guarded hearing goes out start view) :
    Stands goes start.ctx.handler view.ctx.handler := by
  induction worked with
  | refl => exact .still
  | tail _ work ih =>
    cases work with
    | inner same => rwa [same.handler]
    | goto allowed => exact .gone allowed
    | setIdle => exact .woken ih
    | _ => exact ih

theorem worked_publication (worked : Worked config guarded hearing goes out start view) :
    view.ctx.publication = start.ctx.publication ∨ out view.ctx.publication := by
  induction worked with
  | refl => exact .inl rfl
  | tail _ work ih =>
    cases work with
    | inner same => rwa [same.publication]
    | publication allowed => exact .inr allowed
    | _ => exact ih

/-- A silent detector of a session that takes no audio stays silent. -/
theorem worked_silent (worked : Worked config guarded hearing goes out start view) (strict : guarded) :
    Open start.ctx.session ∨ (Silent config start.ctx.vad → Silent config view.ctx.vad) := by
  induction worked with
  | refl => exact .inr fun silent => silent
  | @tail middle last before work ih =>
    refine ih.elim .inl fun kept => ?_
    cases work with
    | inner same =>
      rw [same.vad]
      exact .inr kept
    | hear _ quiet =>
      rcases quiet strict with opened | still
      · have life := worked_life before
        refine .inl fun later => ?_
        rw [← life.finishRequested]
        exact opened (life.generation ▸ later)
      · exact .inr fun silent => still (kept silent)
    | _ => exact .inr kept

/-- A terminal event is new only where the session is over. -/
theorem worked_terminal (worked : Worked config guarded hearing goes out start view) (strict : guarded) :
    ∀ event ∈ view.ctx.events, event.terminal = true → event ∈ start.ctx.events ∨ Over start.ctx.session := by
  induction worked with
  | refl => exact fun event member _ => .inl member
  | @tail middle last before work ih =>
    intro event member terminal
    have life := worked_life before
    cases work with
    | inner same =>
      rw [same.events] at member
      exact ih event member terminal
    | speak ends =>
      rcases List.mem_append.mp member with old | new
      · exact ih event old terminal
      · have past := ends strict event new terminal
        rw [Over,life.generation,life.terminalState] at past
        exact .inr past
    | _ => exact ih event member terminal

/-- The scheduler has only got jobs of the session, in the queue of its worker. -/
structure Fed (worker : WorkerId) (key : SessionKey) (scheduler next : GatewayScheduler) : Prop where
  stages : next.stages = scheduler.stages
  cancelled : next.cancelledGenerations = scheduler.cancelledGenerations
  accepted : next.accepted = scheduler.accepted
  safe : next.safe = scheduler.safe
  nextEvent : next.nextEvent = scheduler.nextEvent
  queues : ∀ other, ∃ jobs, next.queues other = scheduler.queues other ++ jobs ∧
    ∀ job ∈ jobs, other = worker ∧ job.key = key ∧ job.workerId = worker ∧ job.jobId ≠ []

theorem Fed.refl {worker : WorkerId} {key : SessionKey} {scheduler : GatewayScheduler} : Fed worker key scheduler scheduler where
  stages := .refl _
  cancelled := .refl _
  accepted := .refl _
  safe := .refl _
  nextEvent := .refl _
  queues other := ⟨[],by simp,by simp⟩

theorem Fed.trans {worker : WorkerId} {key : SessionKey} {first second third : GatewayScheduler}
    (fed : Fed worker key first second) (later : Fed worker key second third) : Fed worker key first third where
  stages := later.stages.trans fed.stages
  cancelled := later.cancelled.trans fed.cancelled
  accepted := later.accepted.trans fed.accepted
  safe := later.safe.trans fed.safe
  nextEvent := later.nextEvent.trans fed.nextEvent
  queues other := by
    obtain ⟨jobs,grown,own⟩ := fed.queues other
    obtain ⟨more,grownMore,ownMore⟩ := later.queues other
    refine ⟨jobs ++ more,by rw [grownMore,grown,List.append_assoc],?_⟩
    intro job member
    exact (List.mem_append.mp member).elim (own job) (ownMore job)

/-- The job that a session enqueues, as it waits in the queue. -/
theorem enqueue_fed {session : GatewaySession} {reservation : SessionReservation} {moment : Moment}
    {scheduler next : GatewayScheduler}
    (enqueues : scheduler.enqueue config.scheduler moment.now (makeJob config moment.now session reservation) = .ok next) :
    Fed session.selectedWorkerId (session.sessionId,session.generation) scheduler next ∧
      next.queues session.selectedWorkerId = scheduler.queues session.selectedWorkerId ++
        [(makeJob config moment.now session reservation).stamped moment.now] := by
  obtain ⟨rfl,_⟩ := enqueue_ok enqueues
  refine ⟨⟨rfl,rfl,rfl,rfl,rfl,?_⟩,setQueue_queue _ _ _⟩
  intro other
  by_cases here : other = session.selectedWorkerId
  · subst here
    refine ⟨[(makeJob config moment.now session reservation).stamped moment.now],setQueue_queue _ _ _,?_⟩
    intro job member
    obtain rfl := List.mem_singleton.mp member
    rw [stamped_key,stamped_worker,stamped_id]
    refine ⟨rfl,rfl,rfl,?_⟩
    simp [makeJob]
  · exact ⟨[],by rw [List.append_nil]; exact setQueue_other _ _ _ _ here,by simp⟩

theorem worked_fed (worked : Worked config guarded hearing goes out start view) :
    Fed start.ctx.session.selectedWorkerId (start.ctx.session.sessionId,start.ctx.session.generation) start.scheduler
      view.scheduler := by
  induction worked with
  | refl => exact .refl
  | tail before work ih =>
    have life := worked_life before
    cases work with
    | inner same =>
      rw [same.scheduler]
      exact ih
    | schedule _ _ _ reserves enqueues =>
      have same := life.trans (reserve_life reserves)
      have fed := (enqueue_fed enqueues).1
      rw [same.worker,same.sessionId,same.generation] at fed
      exact ih.trans fed
    | _ => exact ih

/-- The custody of the session that a view shows, where the scheduler holds the jobs `held`
    outside of its queues. -/
def Kept (view : View V) (held dispatched : List InferenceJob) : Prop :=
  let session := view.ctx.session
  Custody session view.ctx.live view.ctx.stream ((session.sessionId,1) ∈ view.scheduler.cancelledGenerations)
    (ofSession session.sessionId (view.scheduler.queues session.selectedWorkerId) ++ held) dispatched
    (submittedJobs session.sessionId view.calls)

theorem makeJob_carries {session : GatewaySession} {reservation : SessionReservation} (now : Time)
    (current : reservation.generation = session.generation) :
    Carries ((makeJob config now session reservation).stamped now) reservation := by
  unfold InferenceJob.stamped
  split <;> exact ⟨current.symm,rfl,rfl,rfl,rfl⟩

theorem stamped_session (job : InferenceJob) (now : Time) : (job.stamped now).sessionId = job.sessionId :=
  congrArg Prod.fst (stamped_key job now)

theorem work_kept {held dispatched : List InferenceJob} (work : Work config guarded hearing goes out start view) (strict : guarded)
    (kept : Kept start held dispatched) : Kept view held dispatched := by
  cases work with
  | inner same =>
    unfold Kept at kept ⊢
    rwa [same.session,same.stream,same.live,same.scheduler,same.calls]
  | @account session _ accounts =>
    have custody : Custody session _ _ _ _ _ _ := Custody.account kept ⟨accounts.buffer,accounts.reservation,
      accounts.generation,accounts.nextJobSequence,accounts.terminalState,accounts.finishRequested⟩
    rw [← accounts.sessionId,← accounts.worker] at custody
    exact custody
  | append _ opened appends =>
    have same := appendPcm_life appends
    have custody := Custody.append kept (opened strict) appends
    rw [← same.sessionId,← same.worker] at custody
    exact custody
  | @schedule moment _ _ _ reservation session scheduler _ _ _ reserves enqueues =>
    have same := reserve_life reserves
    obtain ⟨_,_,_,_,current,_⟩ := reserve_eq reserves
    have carries : Carries ((makeJob config moment.now session reservation).stamped moment.now) reservation :=
      makeJob_carries moment.now (by rw [same.generation,current])
    obtain ⟨none,rfl,_,custody⟩ := Custody.schedule kept reserves carries
    obtain ⟨empty,rfl⟩ := List.append_eq_nil_iff.mp none
    obtain ⟨fed,queued⟩ := enqueue_fed enqueues
    rw [← same.sessionId,← fed.cancelled] at custody
    unfold Kept
    dsimp only [scheduled]
    rw [queued,ofSession_append,same.worker,same.sessionId,empty,List.nil_append,List.append_nil]
    rw [same.sessionId] at custody
    have own : ofSession start.ctx.session.sessionId [(makeJob config moment.now session reservation).stamped moment.now] =
        [(makeJob config moment.now session reservation).stamped moment.now] := by
      simp [ofSession,stamped_session,makeJob,same.sessionId]
    rwa [own]
  | refuse reserves rollsBack =>
    have same := (reserve_life reserves).trans (rollback_life rollsBack)
    have custody := Custody.refuse kept reserves rollsBack
    rw [← same.sessionId,← same.worker] at custody
    exact custody
  | @control call own =>
    have silent : submittedJobs start.ctx.session.sessionId (start.calls ++ [call]) =
        submittedJobs start.ctx.session.sessionId start.calls := by
      rcases own strict with rfl | rfl <;> simp [submittedJobs]
    unfold Kept at kept ⊢
    dsimp only
    rwa [silent]
  | _ => exact kept

theorem worked_kept {held dispatched : List InferenceJob} (worked : Worked config guarded hearing goes out start view)
    (strict : guarded) (kept : Kept start held dispatched) : Kept view held dispatched := by
  induction worked with
  | refl => exact kept
  | tail _ work ih => exact work_kept work strict ih

/-! ## Programs that only work -/

theorem inner_works {change : View V → View V}
    (same : ∀ view, SameCore view (change view)) :
    Keeps (Worked config guarded hearing goes out start) (modify change : Code V Unit) :=
  keeps_modify fun _ worked => worked.tail (.inner (same _))

theorem goto_works (handler : Handler) (allowed : goes handler) :
    Keeps (Worked config guarded hearing goes out start) (goto handler : Code V Unit) :=
  keeps_modify fun _ worked => worked.tail (.goto allowed)

theorem setIdle_works : Keeps (Worked config guarded hearing goes out start) (setIdle : Code V Unit) :=
  keeps_modify fun _ worked => worked.tail .setIdle

theorem hear_works {change : SessionContext V → SessionContext V} (hears : hearing)
    (quiet : guarded → Open start.ctx.session ∨ ∀ ctx, Silent config ctx.vad → Silent config (change ctx).vad)
    (only : ∀ ctx, change ctx = { ctx with
      vad := (change ctx).vad, endpointPending := (change ctx).endpointPending, endpoints := (change ctx).endpoints }) :
    Keeps (Worked config guarded hearing goes out start) (updateContext change) :=
  keeps_modify fun view worked => worked.tail <| by
    rw [View.withContext,only]
    exact .hear hears fun strict => (quiet strict).imp (fun opened => opened.of_life (worked_life worked)) fun kept => kept view.ctx

theorem control_works (call : AdapterCall)
    (own : guarded → call = .finishSegment start.ctx.session.sessionId ∨
      call = .finishSession start.ctx.session.sessionId) :
    Keeps (Worked config guarded hearing goes out start) (record call : Code V Unit) :=
  keeps_modify fun _ worked => worked.tail (.control fun strict => (worked_life worked).sessionId ▸ own strict)

theorem discardTimeline_works (jobId : Text) : Keeps (Worked config guarded hearing goes out start) (discardTimeline jobId : Code V Unit) :=
  inner_works fun _ => by constructor <;> rfl

theorem outbound_terminal {jobId : Option Text} {terminal : Bool} {closeCode : Option Nat} {events : List WireEvent}
    {event : OutboundEvent} (member : event ∈ outbound jobId terminal closeCode events) (ends : event.terminal = true) :
    terminal = true := by
  induction events using outbound.induct with
  | case1 => simp [outbound] at member
  | case2 single =>
    simp only [outbound,List.mem_singleton] at member
    rwa [member] at ends
  | case3 first rest nonempty ih =>
    rw [outbound.eq_3 _ _ _ _ _ nonempty] at member
    rcases List.mem_cons.mp member with rfl | later
    · cases ends
    · exact ih later

theorem enqueueEvents_works (events : List WireEvent) (jobId : Option Text) (terminal : Bool) (closeCode : Option Nat)
    (ends : guarded → terminal = true → Over start.ctx.session) :
    Keeps (Worked config guarded hearing goes out start) (enqueueEvents events jobId terminal closeCode : Code V Unit) :=
  keeps_modify fun _ worked => worked.tail
    (.speak fun strict _ member closing => (ends strict (outbound_terminal member closing)).of_life (worked_life worked))

theorem requireContext_works : Keeps (Worked config guarded hearing goes out start) (requireContext : Code V Unit) :=
  keeps_bind keeps_get fun _ => keeps_when fun _ => keeps_throw _

theorem callProtocol_works (call : ProtocolSession → Protocol.Reply) :
    Keeps (Worked config guarded hearing goes out start) (callProtocol call : Code V (List WireEvent)) :=
  keeps_bind keeps_get fun _ => keeps_bind (inner_works fun _ => by constructor <;> rfl) fun _ => keeps_ofExcept _

/-- Bytes that make no whole sample cannot be appended. -/
theorem appendPcm_short {session : GatewaySession} {pcm : Pcm} {countAccepted : Bool} (short : sampleCount pcm = 0)
    (some : pcm ≠ []) (next : GatewaySession) : session.appendPcm pcm countAccepted ≠ .ok next := by
  intro appends
  obtain ⟨_,buffer,grown,_⟩ := appendPcm_eq appends
  have odd : pcm.length % 2 ≠ 0 := by
    have := List.length_pos_iff.mpr some
    unfold sampleCount at short
    omega
  rw [Chunking.PcmRingBuffer.append,if_pos odd] at grown
  cases grown

/-- Accounting for a decision, where the call answers as `answer` says. -/
theorem accountFor_wp {refusal : PyError → Refusal} {answer : Except PyError GatewaySession} {view : View V}
    {returns : GatewaySession → View V → Prop} {raises : PyError → View V → Prop}
    (answered : ∀ session, answer = .ok session → returns session view)
    (refused : ∀ exc, answer = .error exc →
      raises exc (view.withContext fun ctx => { ctx with refusals := ctx.refusals ++ [refusal exc] })) :
    wp (accountFor refusal answer : Code V GatewaySession) returns raises view := by
  cases answer with
  | ok session => exact answered session rfl
  | error exc => exact refused exc rfl

theorem appendPcm_works (hears : hearing) (pcm : Pcm) (countAccepted : Bool)
    (opened : guarded → Open start.ctx.session ∨ sampleCount pcm = 0 ∧ pcm ≠ []) :
    Keeps (Worked config guarded hearing goes out start) (appendPcm pcm countAccepted : Code V Unit) := by
  intro view worked
  simp only [appendPcm,updateContext,wp_bind,wp_get]
  refine accountFor_wp (fun session appends => ?_) fun _ _ => worked.tail (.note hears)
  refine worked.tail (.append hears (fun strict => ?_) appends)
  rcases opened strict with opened | ⟨short,some⟩
  · exact opened.of_life (worked_life worked)
  · exact absurd appends (appendPcm_short short some session)

/-- Recording discarded samples changes the account of them alone. -/
theorem recordDiscarded_eq {session next : GatewaySession} {samples : Nat}
    (records : session.recordDiscarded samples = .ok next) : samples ≤ session.pendingVad ∧
      next = { session with externalDiscardedSamples := session.externalDiscardedSamples + samples } := by
  unfold GatewaySession.recordDiscarded at records
  split at records
  · cases records
  · rename_i fits
    cases records
    exact ⟨Nat.not_lt.mp fits,rfl⟩

theorem recordDiscarded_works (hears : hearing) (samples : Nat) :
    Keeps (Worked config guarded hearing goes out start) (recordDiscarded samples : Code V Unit) := by
  intro view worked
  simp only [recordDiscarded,setSession,updateContext,wp_when,wp_bind,wp_get]
  refine ⟨fun _ => accountFor_wp (fun session records => ?_) fun _ _ => worked.tail (.note hears),fun _ => worked⟩
  obtain ⟨_,rfl⟩ := recordDiscarded_eq records
  exact worked.tail (.account hears ⟨rfl,rfl,rfl,rfl,rfl,rfl,rfl,rfl⟩)

/-- After a job was refused by the scheduler. -/
def refused (view : View V) (job : InferenceJob) (session : GatewaySession) : View V where
  ctx := { view.ctx with session := session, idle := true, handler := view.ctx.handler.wake }
  scheduler := view.scheduler
  timelines := Function.update view.timelines job.jobId none
  calls := view.calls

/-- The ways in which `_schedule_next` ends. -/
theorem scheduleNext_wp {moment : Moment} {force : Bool} {view : View V} {returns : Bool → View V → Prop}
    {raises : PyError → View V → Prop} (fails : ∀ exc, raises exc view)
    (none : ∀ remaining, segmentRemaining config moment view.ctx = .ok remaining →
      nextCount config view.ctx.session remaining force = 0 → returns false view)
    (enqueued : ∀ remaining count reservation session scheduler,
      segmentRemaining config moment view.ctx = .ok remaining →
      nextCount config view.ctx.session remaining force = count → count ≠ 0 →
      view.ctx.session.reserve count (finalDecode view.ctx count remaining) = .ok (reservation,session) →
      view.scheduler.enqueue config.scheduler moment.now (makeJob config moment.now session reservation) = .ok scheduler →
      returns true (scheduled view moment.now session (makeJob config moment.now session reservation) scheduler))
    (declined : ∀ remaining count reservation session held restored exc,
      segmentRemaining config moment view.ctx = .ok remaining →
      nextCount config view.ctx.session remaining force = count → count ≠ 0 →
      view.ctx.session.reserve count (finalDecode view.ctx count remaining) = .ok (reservation,session) →
      session.rollback reservation.jobSequence = .ok (held,restored) →
      raises exc (refused view (makeJob config moment.now session reservation) restored))
    (stuck : ∀ jobId exc, raises exc { view with timelines := Function.update view.timelines jobId Option.none }) :
    wp (scheduleNext config moment force) returns raises view := by
  simp only [scheduleNext,requireContext,wp_bind,wp_get,wp_when,wp_ite,wp_throw,wp_pure,wp_ofExcept]
  refine ⟨fun _ => fails _,fun _ => ⟨?_,fun exc _ => fails exc⟩⟩
  intro remaining measured
  refine ⟨none remaining measured,?_⟩
  intro some
  refine ⟨?_,fun exc _ => fails exc⟩
  rintro ⟨reservation,session⟩ reserves
  dsimp only
  split
  · rename_i scheduler enqueues
    exact enqueued remaining _ reservation session scheduler measured rfl some reserves enqueues
  · rename_i exc _
    simp only [discardTimeline,setSession,setIdle,updateContext,wp_bind,wp_modify,wp_ofExcept,wp_throw]
    refine ⟨?_,fun exc _ => stuck _ exc⟩
    rintro ⟨held,restored⟩ rollsBack
    exact declined remaining _ reservation session held restored exc measured rfl some reserves rollsBack

theorem scheduleNext_works (moment : Moment) (force : Bool) :
    Keeps (Worked config guarded hearing goes out start) (scheduleNext config moment force) := by
  intro view worked
  refine scheduleNext_wp (fun _ => worked) (fun _ _ _ => worked) ?_ ?_ ?_
  · intro remaining count reservation session scheduler measured counted some reserves enqueues
    exact worked.tail (.schedule measured counted some reserves enqueues)
  · intro remaining count reservation session held restored exc _ _ _ reserves rollsBack
    refine ((worked.tail (.refuse reserves rollsBack)).tail .setIdle).tail (.inner ?_)
    constructor <;> rfl
  · intro jobId exc
    refine worked.tail (.inner ?_)
    constructor <;> rfl

theorem settleIdle_works (scheduled : Bool) : Keeps (Worked config guarded hearing goes out start) (settleIdle scheduled : Code V Unit) :=
  keeps_bind keeps_get fun _ => keeps_when fun _ => keeps_bind setIdle_works fun _ =>
    inner_works fun _ => by constructor <;> rfl

theorem checkDeadlines_works (now : Time) : Keeps (Worked config guarded hearing goes out start) (checkDeadlines config now) :=
  keeps_bind requireContext_works fun _ => keeps_bind keeps_get fun _ =>
    keeps_bind (keeps_when fun _ => keeps_throw _) fun _ => keeps_when fun _ => keeps_throw _

/-- Where the handler may stand when a call of `ingest` is suspended or has returned. -/
def Ingest.leadsTo : Ingest → Handler → Prop
  | .frame .., .ready | .frame .., .ingestAccept .. | .frame .., .ingestAppend .. => True
  | .segment, .segmentIdle _ | .finish, .finishIdle _ => True
  | _, _ => False

/-- Where the handler stands when a call of `ingest` has returned. -/
def Ingest.returnsTo : Ingest → Handler → Prop
  | .frame .., .ready | .segment, .segmentIdle _ | .finish, .finishIdle _ => True
  | _, _ => False

theorem Ingest.returnsTo_leads {call : Ingest} {handler : Handler} (returns : call.returnsTo handler) :
    call.leadsTo handler := by
  cases call <;> cases handler <;> first | exact returns | trivial

theorem ingested_works (call : Ingest) (scheduled : Bool) (allowed : ∀ handler, call.returnsTo handler → goes handler) :
    Keeps (Worked config guarded hearing goes out start) (ingested call scheduled : Code V Unit) := by
  cases call with
  | frame pcm force => exact goto_works _ (allowed _ trivial)
  | segment => exact keeps_bind keeps_get fun _ => goto_works _ (allowed _ trivial)
  | finish => exact keeps_bind (settleIdle_works _) fun _ => keeps_bind keeps_get fun _ => goto_works _ (allowed _ trivial)

theorem ingestScheduled_works (moment : Moment) (call : Ingest) (force : Bool)
    (allowed : ∀ handler, call.returnsTo handler → goes handler) :
    Keeps (Worked config guarded hearing goes out start) (ingestScheduled config moment call force) :=
  keeps_bind (scheduleNext_works moment force) fun _ => ingested_works call _ allowed

theorem awaitReservation_works (exc : PyError) (handler : Handler) (allowed : goes handler) :
    Keeps (Worked config guarded hearing goes out start) (awaitReservation exc handler : Code V Unit) := by
  unfold awaitReservation
  split
  · exact keeps_bind keeps_get fun _ => keeps_ite (fun _ => goto_works _ allowed) fun _ => keeps_throw _
  · exact keeps_throw _

section
variable (moment : Moment) (pcm : Pcm) (force : Bool)

theorem ingestHeard_works (hears : hearing) (decision : VADDecision) :
    Keeps (Worked config guarded hearing (Ingest.frame pcm force).leadsTo out start) (ingestHeard config moment pcm force decision) :=
  keeps_bind (recordDiscarded_works hears _) fun _ =>
    keeps_bind (hear_works hears (fun _ => .inr fun _ silent => silent) fun _ => rfl) fun _ =>
    ingestScheduled_works moment _ _ fun _ => Ingest.returnsTo_leads

theorem ingestAppend_works (hears : hearing) (opened : guarded → Open start.ctx.session) (decision : Option VADDecision) :
    Keeps (Worked config guarded hearing (Ingest.frame pcm force).leadsTo out start) (ingestAppend config moment pcm force decision) := by
  intro view worked
  simp only [ingestAppend,wp_bind,wp_get]
  split
  · rename_i session appends
    simp only [updateContext,wp_bind,wp_modify]
    have later := worked.tail (Work.append hears (fun strict => (opened strict).of_life (worked_life worked)) appends)
    split
    · exact ingestHeard_works moment pcm force hears _ _ later
    · exact ingestScheduled_works moment (.frame pcm force) force (fun _ => Ingest.returnsTo_leads) _ later
  · refine keeps_bind (keeps_when fun _ => ?_) (fun _ => awaitReservation_works _ _ trivial) view worked
    exact keeps_modify fun _ worked => worked.tail (.note hears)

theorem ingestHear_works (hears : hearing) (opened : guarded → Open start.ctx.session) :
    Keeps (Worked config guarded hearing (Ingest.frame pcm force).leadsTo out start) (ingestHear config moment pcm force) := by
  refine keeps_bind keeps_get fun view => ?_
  split
  · exact keeps_throw _
  refine keeps_bind (keeps_ofExcept _) fun heard => keeps_bind (hear_works hears (fun strict => .inl (opened strict)) fun _ => rfl) fun _ => ?_
  exact keeps_ite (fun _ => ingestAppend_works moment pcm force hears opened _) fun _ => ingestHeard_works moment pcm force hears _

theorem ingestAccept_works (hears : hearing) (opened : guarded → Open start.ctx.session) :
    Keeps (Worked config guarded hearing (Ingest.frame pcm force).leadsTo out start) (ingestAccept config moment pcm force) := by
  intro view worked
  simp only [ingestAccept,wp_bind,wp_get]
  split
  · rename_i session accepts
    simp only [setSession,updateContext,wp_bind,wp_modify]
    refine ingestHear_works moment pcm force hears opened _ (worked.tail (.account hears ?_))
    unfold GatewaySession.acceptVadInput at accepts
    split at accepts
    · cases accepts
    dsimp only at accepts
    split at accepts
    · cases accepts
    · cases accepts
      exact ⟨rfl,rfl,rfl,rfl,rfl,rfl,rfl,rfl⟩
  · exact awaitReservation_works _ (.ingestAccept pcm force) trivial view worked

end

theorem ingestLocked_works (moment : Moment) (call : Ingest)
    (heard : (call = .finish ∨ call = .segment) ∨ hearing ∧ (guarded → Open start.ctx.session)) :
    Keeps (Worked config guarded hearing call.leadsTo out start) (ingestLocked config moment call) := by
  unfold ingestLocked
  refine keeps_bind (checkDeadlines_works _) fun _ => keeps_bind keeps_get fun _ => ?_
  refine keeps_bind (keeps_when fun _ => keeps_throw _) fun _ => ?_
  cases call with
  | frame pcm force =>
    obtain ⟨hears,opened⟩ := heard.resolve_left (by simp)
    refine keeps_ite (fun _ => ingestScheduled_works moment _ _ fun _ => Ingest.returnsTo_leads) fun _ => ?_
    exact keeps_ite (fun _ => ingestAccept_works moment pcm force hears opened) fun _ =>
      ingestAppend_works moment pcm force hears opened _
  | segment => exact ingestScheduled_works moment _ _ fun _ => Ingest.returnsTo_leads
  | finish => exact ingestScheduled_works moment _ _ fun _ => Ingest.returnsTo_leads

theorem applyControlResult_works (text : Text) (metadata : Option Metadata) :
    Keeps (Worked config guarded hearing goes out start) (applyControlResult config text metadata) := by
  unfold applyControlResult
  refine keeps_bind (keeps_when fun _ => inner_works fun _ => by constructor <;> rfl) fun _ => keeps_bind keeps_get fun _ => ?_
  dsimp only
  split
  · exact callProtocol_works _
  · exact callProtocol_works _

theorem applyControl_works (control : AdapterResult) :
    Keeps (Worked config guarded hearing goes out start) (applyControl config control) := by
  refine keeps_bind (keeps_ite (fun _ => applyControlResult_works _ _) fun _ => keeps_pure _) fun _ => ?_
  exact keeps_bind (keeps_when fun _ => inner_works fun _ => by constructor <;> rfl) fun _ => keeps_pure _

theorem segmentAnswered_works (answer : Except PyError AdapterResult) (allowed : goes .ready) :
    Keeps (Worked config guarded hearing goes out start) (segmentAnswered config answer) := by
  refine keeps_bind (keeps_ofExcept _) fun _ => keeps_bind (applyControl_works _) fun _ => keeps_bind keeps_get fun _ => ?_
  refine keeps_bind (callProtocol_works _) fun _ => keeps_bind ?_ fun _ => ?_
  · refine keeps_modify fun view worked => ?_
    exact (worked.tail (Work.utter)).tail (.inner (by constructor <;> rfl))
  · exact keeps_bind (enqueueEvents_works _ _ _ _ fun _ => by simp) fun _ => goto_works _ allowed

theorem finishHearing_works (hears : hearing) (opened : guarded → Open start.ctx.session) :
    Keeps (Worked config guarded hearing goes out start) (finishHearing config) := by
  refine keeps_bind keeps_get fun _ => ?_
  split
  · refine keeps_bind (hear_works hears (fun strict => .inl (opened strict)) fun _ => rfl) fun _ =>
      keeps_bind (keeps_when fun _ => ?_) fun _ => recordDiscarded_works hears _
    exact appendPcm_works hears _ _ fun strict => .inl (opened strict)
  · exact keeps_pure _

theorem enqueueReady_works (allowed : goes .ready) : Keeps (Worked config guarded hearing goes out start) (enqueueReady : Code V Unit) :=
  keeps_bind requireContext_works fun _ => keeps_bind keeps_get fun _ => keeps_bind (callProtocol_works _) fun _ =>
    keeps_bind (enqueueEvents_works _ _ _ _ fun _ => by simp) fun _ => goto_works _ allowed

theorem errorAnswered_works (exc : PyError) (code : String) (closeCode : Nat) (past : guarded → Over start.ctx.session)
    (allowed : goes .closed) : Keeps (Worked config guarded hearing goes out start) (errorAnswered exc code closeCode : Code V Unit) :=
  keeps_bind (callProtocol_works _) fun _ => keeps_bind (enqueueEvents_works _ _ _ _ fun strict _ => past strict) fun _ =>
    goto_works _ allowed

theorem abortAnswered_works (answer : Except PyError AdapterResult) (past : guarded → Over start.ctx.session)
    (allowed : goes .closed) : Keeps (Worked config guarded hearing goes out start) (abortAnswered answer : Code V Unit) := by
  refine keeps_bind (keeps_ofExcept _) fun _ => keeps_bind requireContext_works fun _ => keeps_bind ?_ fun _ => ?_
  · exact keeps_modify fun view worked => worked.tail (.speak fun strict _ _ _ => (past strict).of_life (worked_life worked))
  · exact goto_works _ allowed

theorem suspend_works (publication : Publication) (allowed : out publication) :
    Keeps (Worked config guarded hearing goes out start) (suspend publication : Code V Bool) :=
  keeps_bind (keeps_modify fun _ worked => worked.tail (.publication allowed)) fun _ => keeps_pure _

section
variable (waits : out .waiting)
include waits

theorem published_works : Keeps (Worked config guarded hearing goes out start) (published : Code V Bool) :=
  keeps_bind (keeps_modify fun _ worked => worked.tail (.publication waits)) fun _ => keeps_pure _

theorem dropResult_works (result : InferenceResult) :
    Keeps (Worked config guarded hearing goes out start) (dropResult result : Code V Bool) :=
  keeps_bind (discardTimeline_works _) fun _ => keeps_bind setIdle_works fun _ => published_works waits

theorem concludeResult_works (moment : Moment) (result : InferenceResult) (events : List WireEvent)
    (deferred continuation : Bool) :
    Keeps (Worked config guarded hearing goes out start) (concludeResult config moment result events deferred continuation) := by
  refine keeps_bind keeps_get fun _ => ?_
  refine keeps_bind (keeps_ite (fun _ => keeps_pure _) fun _ => scheduleNext_works moment _) fun _ => ?_
  refine keeps_bind (settleIdle_works _) fun _ => ?_
  refine keeps_bind (keeps_ite (fun _ => enqueueEvents_works _ _ _ _ fun _ => by simp) fun _ => discardTimeline_works _) fun _ => ?_
  exact published_works waits

theorem acceptResult_works (moment : Moment) (result : InferenceResult) (saved : Saved)
    (suspends : ∀ events deferred, out (.segmentAdapter events deferred saved))
    (own : guarded → result.sessionId = start.ctx.session.sessionId) :
    Keeps (Worked config guarded hearing goes out start) (acceptResult config moment result saved) := by
  refine keeps_bind (keeps_when fun _ => inner_works fun _ => by constructor <;> rfl) fun _ => keeps_bind keeps_get fun _ => ?_
  refine keeps_bind (callProtocol_works _) fun events => keeps_bind ?_ fun _ => keeps_bind keeps_get fun _ => ?_
  · exact keeps_modify fun _ worked => worked.tail .utter
  refine keeps_bind (keeps_ite (fun _ => scheduleNext_works moment _) fun _ => keeps_pure _) fun deferred => ?_
  refine keeps_bind keeps_get fun _ => keeps_ite (fun _ => ?_) fun _ => concludeResult_works waits moment result _ _ _
  exact keeps_bind (control_works _ fun strict => .inl (by rw [own strict])) fun _ => suspend_works _ (suspends events deferred)

end

/-- Finalizing an endpoint appends audio to an open session only; a detector that holds
    nothing has none to release. -/
theorem finalizeEndpoint_works (hears : hearing) (vad : V) (continuation : Bool)
    (quiet : guarded → Open start.ctx.session ∨ config.detector.held vad = 0) :
    Keeps (Worked config guarded hearing goes out start) (finalizeEndpoint config vad continuation) := by
  unfold finalizeEndpoint
  have conserved := config.detector.endpointFinalized_conserves vad
  have settles : guarded → Open start.ctx.session ∨ ∀ ctx : SessionContext V, Silent config ctx.vad →
      Silent config (some (config.detector.endpointFinalized vad).2) := by
    refine fun strict => (quiet strict).imp_right ?_
    rintro none _ _ current ⟨⟩
    omega
  refine keeps_bind (hear_works hears settles fun _ => rfl) fun _ =>
    keeps_bind (keeps_when fun some => appendPcm_works hears _ _ ?_) fun _ => ?_
  · refine fun strict => (quiet strict).imp_right fun none => ?_
    have short : sampleCount (config.detector.endpointFinalized vad).1.audioToModel = 0 := by
      rw [none,VADDecision.samples] at conserved
      omega
    exact ⟨short,some⟩
  · exact keeps_bind (recordDiscarded_works hears _) fun _ =>
      keeps_bind (hear_works hears (fun _ => .inr fun _ silent => silent) fun _ => rfl) fun _ => keeps_pure _

/-- The detector is as it was. -/
def SameVad (start view : View V) : Prop := view.ctx.vad = start.ctx.vad

theorem callProtocol_sameVad (call : ProtocolSession → Protocol.Reply) :
    Keeps (SameVad start) (callProtocol call : Code V (List WireEvent)) :=
  keeps_bind keeps_get fun _ => keeps_bind (keeps_modify fun _ same => same) fun _ => keeps_ofExcept _

theorem applyControl_sameVad (control : AdapterResult) : Keeps (SameVad start) (applyControl config control) := by
  refine keeps_bind (keeps_ite (fun _ => ?_) fun _ => keeps_pure _) fun _ => ?_
  · refine keeps_bind (keeps_when fun _ => keeps_modify fun _ same => same) fun _ => keeps_bind keeps_get fun _ => ?_
    dsimp only
    split
    · exact callProtocol_sameVad _
    · exact callProtocol_sameVad _
  · exact keeps_bind (keeps_when fun _ => keeps_modify fun _ same => same) fun _ => keeps_pure _

theorem restoring_works (conflicts : ∀ exc, out (.conflictLock exc)) (saved : Saved) {program : Code V Bool}
    (works : wp program (fun _ => Worked config guarded hearing goes out start) (fun _ => Worked config guarded hearing goes out start) view) :
    wp (restoring saved program) (fun _ => Worked config guarded hearing goes out start) (fun _ => Worked config guarded hearing goes out start) view := by
  rw [restoring,wp_tryCatch]
  refine wp_mono works (fun _ _ worked => worked) fun exc next worked => ?_
  exact keeps_bind (inner_works fun _ => by constructor <;> rfl) (fun _ => suspend_works _ (conflicts exc)) next worked

theorem finalizePending_works (hears : hearing) (left : Bool) {view : View V} (worked : Worked config guarded hearing goes out start view)
    (quiet : guarded → Open start.ctx.session ∨ ∀ vad, view.ctx.vad = some vad → config.detector.held vad = 0) :
    wp (finalizePending config left) (fun _ => Worked config guarded hearing goes out start) (fun _ => Worked config guarded hearing goes out start) view := by
  simp only [finalizePending,wp_bind,wp_get]
  split
  · rename_i vad _ found
    exact finalizeEndpoint_works hears vad left (fun strict => (quiet strict).imp_right fun none => none vad found) view worked
  · exact worked

theorem segmentEnded_works (hears : hearing) (waits : out .waiting) (conflicts : ∀ exc, out (.conflictLock exc)) (moment : Moment)
    (result : InferenceResult) (events : List WireEvent) (deferred : Bool) (saved : Saved)
    (answer : Except PyError AdapterResult)
    (quiet : guarded → Open start.ctx.session ∨ ∀ vad, start.ctx.vad = some vad → config.detector.held vad = 0) :
    wp (segmentEnded config moment result events deferred saved answer) (fun _ => Worked config guarded hearing goes out start)
      (fun _ => Worked config guarded hearing goes out start) start := by
  refine restoring_works conflicts saved ?_
  have raised : ∀ (exc : PyError) (next : View V), Worked config guarded hearing goes out start next ∧ SameVad start next →
      Worked config guarded hearing goes out start next := fun _ _ kept => kept.1
  refine wp_bind_of_keeps (keeps_ofExcept _) ⟨.refl,rfl⟩ raised fun control view kept => ?_
  refine wp_bind_of_keeps (keeps_and (applyControl_works _) (applyControl_sameVad _)) kept raised fun _ view kept => ?_
  refine wp_bind_of_keeps keeps_get kept raised fun _ view kept => ?_
  refine wp_bind_of_keeps (keeps_and (callProtocol_works _) (callProtocol_sameVad _)) kept raised fun _ view kept => ?_
  refine wp_bind_of_keeps (keeps_modify ?_) kept raised fun _ view kept => ?_
  · rintro view ⟨worked,same⟩
    exact ⟨(worked.tail (Work.utter)).tail (.inner (by constructor <;> rfl)),same⟩
  refine wp_bind_of_keeps keeps_get kept raised fun read view kept => ?_
  have silent := fun strict => (quiet strict).imp_right fun none vad found => none vad (kept.2 ▸ found)
  have settled := finalizePending_works hears (decide (0 < read.ctx.session.buffer.bufferedSamples)) kept.1 silent
  rw [wp_bind]
  exact wp_mono settled (fun _ view worked => concludeResult_works waits moment result _ _ _ view worked)
    fun _ _ worked => worked

theorem failAnswered_works (waits : out .waiting) (conflicts : ∀ exc, out (.conflictLock exc)) (result : InferenceResult)
    (exc : PyError) (code : String) (saved : Saved) (past : guarded → Over start.ctx.session) :
    Keeps (Worked config guarded hearing goes out start) (failAnswered result exc code saved : Code V Bool) :=
  fun view worked => restoring_works conflicts saved <| keeps_bind (callProtocol_works _) (fun _ =>
    keeps_bind (enqueueEvents_works _ _ _ _ fun strict _ => past strict) fun _ =>
      keeps_bind setIdle_works fun _ => published_works waits) view worked

theorem conflictAnswered_works (waits : out .waiting) (result : InferenceResult) (exc : PyError)
    (past : guarded → Over start.ctx.session) :
    Keeps (Worked config guarded hearing goes out start) (conflictAnswered result exc : Code V Bool) := by
  refine keeps_bind keeps_get fun _ => keeps_bind (keeps_when fun _ => ?_) fun _ =>
    keeps_bind setIdle_works fun _ => published_works waits
  exact keeps_bind (callProtocol_works _) fun _ => enqueueEvents_works _ _ _ _ fun strict _ => past strict

end SpeechGateway.Gateway
