import SpeechGateway.Cancellation
import SpeechGateway.Work

/-!
A session between two steps (`Tended`). Its audio is in custody, its handler, publication
and aborts stand where the state of the session allows it, and only one of them holds the
lock. Each program of the session keeps this, if no job of it is submitted when it ends
the session.
-/
namespace SpeechGateway.Gateway
open SpeechGateway.Backends SpeechGateway.Protocol SpeechGateway.Vad SpeechGateway.Sessions SpeechGateway.Scheduling
  SpeechGateway.Cancellation Programs

variable {V : Type} {config : GatewayConfig V} {view next : View V}

/-- The client has not asked to finish yet. -/
def Handler.early : Handler → Bool
  | .starting | .ready | .ingestLock (.frame ..) | .ingestLock .segment | .ingestAccept .. | .ingestAppend ..
  | .segmentIdle _ | .segmentLock | .segmentAdapter => true
  | _ => false

def Handler.finishing : Handler → Bool
  | .ingestLock .finish | .finishIdle _ | .finishLock | .finishAdapter => true
  | _ => false

/-- The handler has ended the session. -/
def Handler.ending : Handler → Bool
  | .errorAdapter .. | .abortAdapter => true
  | _ => false

/-- The safe event that the handler waits for before it ends the session. -/
def Handler.awaits : Handler → Option Nat
  | .errorSafe _ _ _ event | .abortSafe event => some event
  | _ => none

/-- The handler has seen the session safe, and is about to end it. -/
def Handler.cleared : Handler → Bool
  | .errorLock .. => true
  | _ => false

/-- The publication has ended the session. -/
def Publication.failing : Publication → Bool
  | .failAdapter .. | .conflictAdapter _ => true
  | _ => false

/-- The publication ends a segment. -/
def Publication.segmenting : Publication → Bool
  | .segmentAdapter .. => true
  | _ => false

theorem Publication.outside {publication : Publication} (outside : publication.holdsLock = false) :
    publication.segmenting = false := by
  cases publication <;> first | rfl | cases outside

/-- What cancels and waits for the session uses as its key, in its first generation. -/
def View.key (view : View V) : SessionKey := (view.ctx.session.sessionId,1)

/-- The first generation is past, or is cancelled and its jobs wait for the event. -/
def Stopped (view : View V) (event : Option Nat) : Prop :=
  Barred view.scheduler view.key event ∨ 1 < view.ctx.session.generation

/-- The handler may stand here. -/
structure Position (view : View V) (handler : Handler) : Prop where
  early : handler.early = true → view.ctx.session.finishRequested = false
  finishing : handler.finishing = true → view.ctx.session.finishRequested = true
  ending : handler.ending = true → 1 < view.ctx.session.generation
  awaits : ∀ event, handler.awaits = some event → Stopped view (some event)
  cleared : handler.cleared = true → Stopped view none

/-- The publication may stand here. -/
structure Publishes (config : GatewayConfig V) (view : View V) (publication : Publication) : Prop where
  failing : publication.failing = true → 1 < view.ctx.session.generation
  segmenting : publication.segmenting = true → view.ctx.session.terminalState ≠ .succeeded ∧
    (Open view.ctx.session ∨ Silent config view.ctx.vad)

/-- The abort may stand here. -/
def Allowed (view : View V) : AbortTask → Prop
  | .safe event => Stopped view (some event)
  | .adapter => 1 < view.ctx.session.generation

/-- A session and its coroutines. The scheduler holds the jobs `held` outside of its queues,
    and the jobs `dispatched` are submitted. -/
structure Tended (config : GatewayConfig V) (view : View V) (held dispatched : List InferenceJob) : Prop where
  kept : Kept view held dispatched
  position : Position view view.ctx.handler
  publishes : Publishes config view view.ctx.publication
  exclusive : view.ctx.handler.holdsLock = true → view.ctx.publication.holdsLock = false
  events : ∀ event ∈ view.ctx.events, event.terminal = true → Over view.ctx.session
  aborts : ∀ task ∈ view.ctx.aborts, Allowed view task

/-- The session goes on, or ends. -/
structure Onward (view next : View V) : Prop where
  sessionId : next.ctx.session.sessionId = view.ctx.session.sessionId
  generation : view.ctx.session.generation ≤ next.ctx.session.generation
  finishRequested : next.ctx.session.finishRequested = view.ctx.session.finishRequested
  past : Over view.ctx.session → Over next.ctx.session
  cancelled : ∀ key ∈ view.scheduler.cancelledGenerations, key ∈ next.scheduler.cancelledGenerations
  stages : next.scheduler.stages = view.scheduler.stages
  accepted : next.scheduler.accepted = view.scheduler.accepted

theorem Stopped.onward {event : Option Nat} (stopped : Stopped view event) (onward : Onward view next) :
    Stopped next event := by
  rcases stopped with ⟨cancelled,waits⟩ | past
  · refine .inl ⟨?_,?_⟩
    · rw [View.key,onward.sessionId]
      exact onward.cancelled _ cancelled
    · intro worker job member same
      rw [onward.stages] at member
      rw [onward.accepted,View.key,onward.sessionId]
      exact waits worker job member (by rw [same,View.key,View.key,onward.sessionId])
  · exact .inr (Nat.lt_of_lt_of_le past onward.generation)

theorem Position.onward {handler : Handler} (position : Position view handler) (onward : Onward view next) :
    Position next handler where
  early stands := onward.finishRequested.trans (position.early stands)
  finishing stands := onward.finishRequested.trans (position.finishing stands)
  ending stands := Nat.lt_of_lt_of_le (position.ending stands) onward.generation
  awaits event stands := (position.awaits event stands).onward onward
  cleared stands := (position.cleared stands).onward onward

theorem Position.wake {handler : Handler} (position : Position view handler) : Position view handler.wake := by
  cases handler <;> exact ⟨position.early,position.finishing,position.ending,position.awaits,position.cleared⟩

theorem Allowed.onward {task : AbortTask} (allowed : Allowed view task) (onward : Onward view next) : Allowed next task := by
  cases task with
  | safe event => exact Stopped.onward allowed onward
  | adapter => exact Nat.lt_of_lt_of_le allowed onward.generation

/-- Handlers that no condition is put on. -/
theorem free_position {handler : Handler} (free : handler = .raised ∨ handler = .closed) : Position view handler := by
  rcases free with rfl | rfl <;> constructor <;> simp [Handler.early,Handler.finishing,Handler.ending,Handler.awaits,Handler.cleared]

theorem early_only {handler : Handler} (early : handler.early = true) :
    handler.finishing = false ∧ handler.ending = false ∧ handler.awaits = none ∧ handler.cleared = false := by
  cases handler with
  | ingestLock call =>
    cases call with
    | frame pcm force => exact ⟨rfl,rfl,rfl,rfl⟩
    | segment => exact ⟨rfl,rfl,rfl,rfl⟩
    | finish => cases early
  | _ => first | exact ⟨rfl,rfl,rfl,rfl⟩ | cases early

theorem early_position {handler : Handler} (early : handler.early = true)
    (taking : view.ctx.session.finishRequested = false) : Position view handler := by
  obtain ⟨finishing,ending,awaits,cleared⟩ := early_only early
  refine ⟨fun _ => taking,?_,?_,?_,?_⟩ <;> simp [finishing,ending,awaits,cleared]

section
variable {guarded hearing : Prop} {goes : Handler → Prop} {out : Publication → Prop}

theorem worked_onward (worked : Worked config guarded hearing goes out view next) : Onward view next := by
  have life := worked_life worked
  have fed := worked_fed worked
  exact ⟨life.sessionId,Nat.le_of_eq life.generation.symm,life.finishRequested,fun past => past.of_life life,
    fun key member => fed.cancelled ▸ member,fed.stages,fed.accepted⟩

theorem Stands.position {before handler : Handler} (stands : Stands goes before handler) (position : Position view before)
    (places : ∀ handler, goes handler → Position view handler) : Position view handler := by
  induction stands with
  | still => exact position
  | gone allowed => exact places _ allowed
  | woken _ ih => exact ih.wake

@[simp] theorem wake_holdsLock (handler : Handler) : handler.wake.holdsLock = handler.holdsLock := by
  cases handler <;> rfl

theorem Stands.locks {before handler : Handler} (stands : Stands goes before handler) (locks : handler.holdsLock = true) :
    before.holdsLock = true ∨ ∃ handler, goes handler ∧ handler.holdsLock = true := by
  induction stands with
  | still => exact .inl locks
  | gone allowed => exact .inr ⟨_,allowed,locks⟩
  | woken _ ih => exact ih (by rwa [wake_holdsLock] at locks)

theorem Publishes.worked {publication : Publication} (publishes : Publishes config view publication)
    (worked : Worked config True True goes out view next) : Publishes config next publication where
  failing stands := Nat.lt_of_lt_of_le (publishes.failing stands) (worked_onward worked).generation
  segmenting stands := by
    obtain ⟨running,quiet⟩ := publishes.segmenting stands
    have life := worked_life worked
    refine ⟨by rwa [life.terminalState],?_⟩
    rcases quiet with opened | silent
    · exact .inl (opened.of_life life)
    · exact (worked_silent worked trivial).imp (fun opened => opened.of_life life) fun kept => kept silent

/-- Work keeps a session tended that goes only where it may, and does not take the lock twice. -/
theorem Tended.worked {held dispatched : List InferenceJob} (tended : Tended config view held dispatched)
    (worked : Worked config True True goes out view next) (places : ∀ handler, goes handler → Position view handler)
    (shows : ∀ publication, out publication → Publishes config view publication)
    (locks : ∀ handler, goes handler → handler.holdsLock = true →
      view.ctx.publication.holdsLock = false ∧ ∀ publication, out publication → publication.holdsLock = false)
    (waits : ∀ publication, out publication → publication.holdsLock = true → view.ctx.handler.holdsLock = false) :
    Tended config next held dispatched where
  kept := worked_kept worked trivial tended.kept
  position := ((worked_handler worked).position tended.position places).onward (worked_onward worked)
  publishes := by
    rcases worked_publication worked with same | shown
    · rw [same]
      exact tended.publishes.worked worked
    · exact (shows _ shown).worked worked
  exclusive holds := by
    by_contra taken
    rw [Bool.not_eq_false] at taken
    rcases (worked_handler worked).locks holds with before | ⟨handler,allowed,holds⟩
    · rcases worked_publication worked with same | shown
      · rw [same,tended.exclusive before] at taken
        cases taken
      · rw [waits _ shown taken] at before
        cases before
    · obtain ⟨still,others⟩ := locks handler allowed holds
      rcases worked_publication worked with same | shown
      · rw [same,still] at taken
        cases taken
      · rw [others _ shown] at taken
        cases taken
  events event member ends := by
    rcases worked_terminal worked trivial event member ends with old | past
    · exact (tended.events event old ends).of_life (worked_life worked)
    · exact past.of_life (worked_life worked)
  aborts task member := by
    have same : next.ctx.aborts = view.ctx.aborts := by
      clear member places shows locks waits tended
      induction worked with
      | refl => rfl
      | tail _ work ih =>
        rw [← ih]
        cases work with
        | inner same => exact same.aborts
        | _ => rfl
    rw [same] at member
    exact (tended.aborts task member).onward (worked_onward worked)

end

/-- The scheduler has only got jobs of the session, and cancellations of it. -/
structure Touched (sessionId : SessionId) (worker : WorkerId) (scheduler next : GatewayScheduler) : Prop where
  stages : next.stages = scheduler.stages
  accepted : next.accepted = scheduler.accepted
  safe : next.safe = scheduler.safe
  nextEvent : next.nextEvent = scheduler.nextEvent
  cancelled : ∀ key ∈ scheduler.cancelledGenerations, key ∈ next.cancelledGenerations
  own : ∀ key ∈ next.cancelledGenerations, key ∈ scheduler.cancelledGenerations ∨ key.1 = sessionId
  queues : ∀ other, ∃ jobs, next.queues other = scheduler.queues other ++ jobs ∧
    ∀ job ∈ jobs, other = worker ∧ job.sessionId = sessionId ∧ job.workerId = worker ∧ job.jobId ≠ []

/-- A call that the adapter receives for the session, while it is submitted no job. -/
def Control (session : GatewaySession) (call : AdapterCall) : Prop :=
  call = .finishSegment session.sessionId ∨ call = .finishSession session.sessionId ∨
    call = .abortSession session.sessionId ∧ 1 < session.generation

/-- What a program of a session may change beyond it. -/
structure Footprint (view next : View V) : Prop where
  sessionId : next.ctx.session.sessionId = view.ctx.session.sessionId
  worker : next.ctx.session.selectedWorkerId = view.ctx.session.selectedWorkerId
  generation : view.ctx.session.generation ≤ next.ctx.session.generation
  touched : Touched view.ctx.session.sessionId view.ctx.session.selectedWorkerId view.scheduler next.scheduler
  calls : ∃ more, next.calls = view.calls ++ more ∧ ∀ call ∈ more, Control next.ctx.session call

theorem Fed.touched {worker : WorkerId} {key : SessionKey} {scheduler later : GatewayScheduler}
    (fed : Fed worker key scheduler later) : Touched key.1 worker scheduler later where
  stages := fed.stages
  accepted := fed.accepted
  safe := fed.safe
  nextEvent := fed.nextEvent
  cancelled known member := fed.cancelled ▸ member
  own known member := .inl (fed.cancelled ▸ member)
  queues other := by
    obtain ⟨jobs,grown,own⟩ := fed.queues other
    refine ⟨jobs,grown,?_⟩
    intro job member
    obtain ⟨here,same,worker,named⟩ := own job member
    exact ⟨here,congrArg Prod.fst same,worker,named⟩

theorem Touched.refl {sessionId : SessionId} {worker : WorkerId} {scheduler : GatewayScheduler} :
    Touched sessionId worker scheduler scheduler :=
  (show Fed worker (sessionId,0) scheduler scheduler from .refl).touched

theorem Touched.trans {sessionId : SessionId} {worker : WorkerId} {first second third : GatewayScheduler}
    (touched : Touched sessionId worker first second) (later : Touched sessionId worker second third) :
    Touched sessionId worker first third where
  stages := later.stages.trans touched.stages
  accepted := later.accepted.trans touched.accepted
  safe := later.safe.trans touched.safe
  nextEvent := later.nextEvent.trans touched.nextEvent
  cancelled key member := later.cancelled key (touched.cancelled key member)
  own key member := (later.own key member).elim (touched.own key) .inr
  queues other := by
    obtain ⟨jobs,grown,own⟩ := touched.queues other
    obtain ⟨more,grownMore,ownMore⟩ := later.queues other
    refine ⟨jobs ++ more,by rw [grownMore,grown,List.append_assoc],?_⟩
    intro job member
    exact (List.mem_append.mp member).elim (own job) (ownMore job)

theorem Control.later {session later : GatewaySession} {call : AdapterCall} (control : Control session call)
    (sessionId : later.sessionId = session.sessionId) (generation : session.generation ≤ later.generation) :
    Control later call := by
  rw [Control,sessionId]
  rcases control with segment | finish | ⟨aborts,past⟩
  · exact .inl segment
  · exact .inr (.inl finish)
  · exact .inr (.inr ⟨aborts,Nat.lt_of_lt_of_le past generation⟩)

theorem Footprint.refl : Footprint view view :=
  ⟨rfl,rfl,Nat.le_refl _,.refl,[],by simp,by simp⟩

theorem Footprint.trans {last : View V} (footprint : Footprint view next) (later : Footprint next last) :
    Footprint view last where
  sessionId := later.sessionId.trans footprint.sessionId
  worker := later.worker.trans footprint.worker
  generation := Nat.le_trans footprint.generation later.generation
  touched := by
    have touched := later.touched
    rw [footprint.sessionId,footprint.worker] at touched
    exact footprint.touched.trans touched
  calls := by
    obtain ⟨more,grown,own⟩ := footprint.calls
    obtain ⟨rest,grownRest,ownRest⟩ := later.calls
    refine ⟨more ++ rest,by rw [grownRest,grown,List.append_assoc],?_⟩
    intro call member
    rcases List.mem_append.mp member with early | late
    · exact (own call early).later later.sessionId later.generation
    · exact ownRest call late

/-- A change of the context alone. -/
theorem footprint_context {change : SessionContext V → SessionContext V}
    (sessionId : (change view.ctx).session.sessionId = view.ctx.session.sessionId)
    (worker : (change view.ctx).session.selectedWorkerId = view.ctx.session.selectedWorkerId)
    (generation : view.ctx.session.generation ≤ (change view.ctx).session.generation) :
    Footprint view (view.withContext change) :=
  ⟨sessionId,worker,generation,.refl,[],by simp [View.withContext],by simp⟩

theorem worked_footprint {goes : Handler → Prop} {out : Publication → Prop}
    (worked : Worked config True True goes out view next) :
    Footprint view next := by
  have life := worked_life worked
  refine ⟨life.sessionId,life.worker,Nat.le_of_eq life.generation.symm,(worked_fed worked).touched,?_⟩
  clear life
  induction worked with
  | refl => exact ⟨[],by simp,by simp⟩
  | @tail middle last before work ih =>
    obtain ⟨more,grown,own⟩ := ih
    have life := work_life work
    have kept : ∀ call ∈ more, Control last.ctx.session call :=
      fun call member => (own call member).later life.sessionId (Nat.le_of_eq life.generation.symm)
    cases work with
    | inner same => exact ⟨more,same.calls.trans grown,kept⟩
    | @control call issued =>
      refine ⟨more ++ [call],by simp [grown],?_⟩
      intro other member
      rcases List.mem_append.mp member with early | late
      · exact kept other early
      · obtain rfl := List.mem_singleton.mp late
        exact (issued trivial).imp_right .inl
    | _ => exact ⟨more,grown,kept⟩

/-! ## Ending a session -/

/-- What the next state of a tended session is. -/
structure Carried (config : GatewayConfig V) (view : View V) (held dispatched : List InferenceJob) (next : View V) : Prop where
  tended : Tended config next held dispatched
  footprint : Footprint view next

theorem Tended.past {held dispatched : List InferenceJob} (tended : Tended config view held dispatched)
    (past : 1 < view.ctx.session.generation) : dispatched = [] :=
  (tended.kept.unreserved (tended.kept.past past).2.1).1

/-- Custody only asks for more cancellations. -/
theorem custody_mono {session : GatewaySession} {live : Bool} {stream : Pcm} {cancelled weaker : Prop}
    {waiting dispatched submitted : List InferenceJob}
    (custody : Custody session live stream cancelled waiting dispatched submitted) (imp : cancelled → weaker) :
    Custody session live stream weaker waiting dispatched submitted := by
  obtain ⟨holds,coherent,positive,reserved,unreserved,first,past,blocked,stopped,succeeded,released,covers,ordered,
    bounded⟩ := custody
  exact ⟨holds,coherent,positive,reserved,unreserved,first,
    fun later => ⟨(past later).1,(past later).2.1,fun some => imp ((past later).2.2 some)⟩,blocked,stopped,succeeded,
    released,covers,ordered,bounded⟩

/-- After `scheduler.cancel_session`. -/
def View.cancel (view : View V) : View V :=
  { view with scheduler := view.scheduler.cancelSession (view.ctx.session.sessionId,view.ctx.session.generation) }

theorem cancel_onward (view : View V) : Onward view view.cancel :=
  ⟨rfl,Nat.le_refl _,rfl,fun past => past,fun _ member => List.mem_cons_of_mem _ member,rfl,rfl⟩

theorem cancel_footprint (view : View V) : Footprint view view.cancel := by
  refine ⟨rfl,rfl,Nat.le_refl _,⟨rfl,rfl,rfl,rfl,fun _ member => List.mem_cons_of_mem _ member,?_,?_⟩,[],
    by simp [View.cancel],by simp⟩
  · intro key member
    rcases List.mem_cons.mp member with rfl | old
    · exact .inr rfl
    · exact .inl old
  · exact fun other => ⟨[],by simp [View.cancel,GatewayScheduler.cancelSession],by simp⟩

theorem Tended.cancel {held dispatched : List InferenceJob} (tended : Tended config view held dispatched) :
    Tended config view.cancel held dispatched where
  kept := custody_mono tended.kept fun member => List.mem_cons_of_mem _ member
  position := tended.position.onward (cancel_onward view)
  publishes := ⟨tended.publishes.failing,tended.publishes.segmenting⟩
  exclusive := tended.exclusive
  events := tended.events
  aborts task member := (tended.aborts task member).onward (cancel_onward view)

/-- The cancelled generation waits for its event. -/
theorem cancel_stopped (view : View V) (positive : 0 < view.ctx.session.generation) :
    Stopped view.cancel (safeEvent view.cancel) := by
  by_cases first : view.ctx.session.generation = 1
  · refine .inl ?_
    have key : view.cancel.key = (view.ctx.session.sessionId,view.ctx.session.generation) := by
      rw [first]
      rfl
    rw [key]
    exact barred_of_cancelled List.mem_cons_self
  · exact .inr (by simp only [View.cancel]; omega)

/-- The session has ended, and tells its adapter. -/
def View.end (view : View V) (session : GatewaySession) (vad : Option V) (reports : List TerminalState)
    (cancellations : Nat) : View V where
  ctx := { view.ctx with
    session := session
    vad := vad
    terminalEvents := reports
    cancellations := cancellations }
  scheduler := view.scheduler
  timelines := view.timelines
  calls := view.calls ++ [.abortSession session.sessionId]

/-- Ending a session that has no submitted job. -/
theorem Tended.end {held dispatched : List InferenceJob} (tended : Tended config view held dispatched)
    {session : GatewaySession} {vad : Option V} {reports : List TerminalState} {cancellations : Nat}
    (kept : Custody session view.ctx.live view.ctx.stream (view.key ∈ view.scheduler.cancelledGenerations)
      (ofSession view.ctx.session.sessionId (view.scheduler.queues view.ctx.session.selectedWorkerId) ++ held) dispatched
      (submittedJobs view.ctx.session.sessionId view.calls))
    (sessionId : session.sessionId = view.ctx.session.sessionId)
    (worker : session.selectedWorkerId = view.ctx.session.selectedWorkerId)
    (finishRequested : session.finishRequested = view.ctx.session.finishRequested)
    (generation : view.ctx.session.generation ≤ session.generation) (past : 1 < session.generation)
    (stopped : session.terminalState = .aborted ∨ session.terminalState = .failed)
    (silent : Silent config vad ∨ view.ctx.publication.segmenting = false) :
    Carried config view held dispatched (view.end session vad reports cancellations) := by
  have onward : Onward view (view.end session vad reports cancellations) :=
    ⟨sessionId,generation,finishRequested,fun _ => .inl past,fun _ member => member,rfl,rfl⟩
  refine ⟨⟨?_,tended.position.onward onward,⟨fun _ => past,?_⟩,tended.exclusive,fun _ _ _ => .inl past,
    fun task member => (tended.aborts task member).onward onward⟩,⟨sessionId,worker,generation,.refl,[_],rfl,?_⟩⟩
  · have same : submittedJobs session.sessionId (view.calls ++ [.abortSession session.sessionId]) =
        submittedJobs view.ctx.session.sessionId view.calls := by
      rw [sessionId]
      simp [submittedJobs]
    unfold Kept View.end
    dsimp only
    rwa [same,sessionId,worker]
  · intro segmenting
    refine ⟨?_,?_⟩
    · rcases stopped with state | state <;> simp [View.end,state]
    · exact .inr (silent.resolve_right fun free => Bool.false_ne_true (free.symm.trans segmenting))
  · intro call member
    obtain rfl := List.mem_singleton.mp member
    exact .inr (.inr ⟨rfl,past⟩)

/-- A session that still has nothing submitted when it is ended. -/
structure Endable (config : GatewayConfig V) (view : View V) (held dispatched : List InferenceJob) : Prop where
  tended : Tended config view held dispatched
  free : dispatched = []

section
variable {held dispatched : List InferenceJob}

theorem abortSession_wp (endable : Endable config view held dispatched)
    (stops : view.ctx.session.generation = 1 → view.key ∈ view.scheduler.cancelledGenerations) :
    wp (abortSession config)
      (fun _ next => Carried config view held dispatched next ∧ 1 < next.ctx.session.generation) (fun _ _ => False) view := by
  obtain ⟨session,aborts,past,generation,sessionId,worker,finish,stopped,kept⟩ := endable.tended.kept.abort endable.free stops
  simp only [abortSession,setSession,emitTerminal,updateContext,record,View.withContext,wp_bind,wp_get,wp_ofExcept,
    wp_modify,aborts,Except.ok.injEq,reduceCtorEq,false_implies,implies_true,and_true]
  rintro _ rfl
  refine ⟨endable.tended.end kept sessionId worker finish generation past stopped (.inl ?_),past⟩
  intro current found
  obtain ⟨vad,_,rfl⟩ := Option.map_eq_some_iff.mp found
  exact config.detector.reset_held vad

theorem failSession_wp (endable : Endable config view held dispatched) (quiet : view.ctx.publication.segmenting = false) :
    wp (failSession : Code V Bool) (fun failed next => if failed then
        Carried config view held dispatched next ∧ 1 < next.ctx.session.generation ∧
          next.ctx.publication = view.ctx.publication ∧ next.ctx.handler = view.ctx.handler
      else next = view) (fun _ _ => False) view := by
  have tended := endable.tended.cancel
  obtain ⟨session,fails,past,generation,sessionId,worker,finish,stopped,kept⟩ := tended.kept.fail endable.free (by
    intro first
    have key : view.ctx.session.generation = 1 := first
    simp [View.cancel,GatewayScheduler.cancelSession,key])
  have carried : Carried config view.cancel held dispatched
      (view.cancel.end session view.ctx.vad view.ctx.terminalEvents view.ctx.cancellations) :=
    tended.end kept sessionId worker finish generation past (.inr stopped) (.inr quiet)
  simp only [failSession,cancelSession,setSession,updateContext,record,wp_bind,wp_get,wp_ite,wp_pure,wp_ofExcept,wp_modify]
  refine ⟨fun _ => by simp,fun _ => ?_⟩
  have fails : view.ctx.session.fail = .ok session := fails
  simp only [fails,Except.ok.injEq,reduceCtorEq,false_implies,implies_true,and_true]
  rintro _ rfl
  exact ⟨⟨carried.tended,(cancel_footprint view).trans carried.footprint⟩,past,rfl,rfl⟩

theorem Carried.refl (tended : Tended config view held dispatched) : Carried config view held dispatched view :=
  ⟨tended,.refl⟩

theorem Carried.trans {last : View V} (carried : Carried config view held dispatched next)
    (later : Carried config next held dispatched last) : Carried config view held dispatched last :=
  ⟨later.tended,carried.footprint.trans later.footprint⟩

end

end SpeechGateway.Gateway
