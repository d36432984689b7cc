import SpeechGateway.Endings

/-!
Each program of a session keeps it tended: its handler, its aborts and its sender, the hooks of
the scheduler and its publications. A program that ends the session finds nothing of it
submitted, since it has waited for the event of its generation.
-/
namespace SpeechGateway.Gateway
open SpeechGateway.Backends SpeechGateway.Protocol SpeechGateway.Vad SpeechGateway.Sessions SpeechGateway.Scheduling
  SpeechGateway.Cancellation Programs

variable {V : Type} {config : GatewayConfig V} {view next : View V} {held dispatched : List InferenceJob}

/-- What is submitted of the session has an event to wait for. -/
def Awaited (view : View V) (dispatched : List InferenceJob) : Prop :=
  dispatched ≠ [] → view.scheduler.accepted view.key ≠ none ∧
    ∃ worker, ∃ job ∈ (view.scheduler.stages worker).hands.unmarked, job.key = view.key

/-- Where the first generation is stopped and waits for no event, nothing is submitted. -/
theorem Awaited.free (awaited : Awaited view dispatched) (tended : Tended config view held dispatched)
    (stopped : Stopped view none) : dispatched = [] := by
  rcases stopped with ⟨_,waits⟩ | past
  · by_contra some
    obtain ⟨accepted,worker,job,member,own⟩ := awaited some
    exact accepted (waits worker job member own)
  · exact tended.past past

theorem Awaited.endable (awaited : Awaited view dispatched) (tended : Tended config view held dispatched)
    (stopped : Stopped view none) : Endable config view held dispatched :=
  ⟨tended,awaited.free tended stopped⟩

/-- A cancelled session without an event can be ended at once. -/
theorem Tended.cancelled_endable (tended : Tended config view held dispatched) (awaited : Awaited view dispatched)
    (none : safeEvent view.cancel = none) : Endable config view.cancel held dispatched := by
  have stopped := cancel_stopped view tended.kept.positive
  rw [none] at stopped
  have kept : Awaited view.cancel dispatched := awaited
  exact kept.endable tended.cancel stopped

theorem onward_context {change : SessionContext V → SessionContext V}
    (same : (change view.ctx).session = view.ctx.session) : Onward view (view.withContext change) := by
  constructor <;> simp [View.withContext,same]

theorem carried_context {change : SessionContext V → SessionContext V}
    (same : (change view.ctx).session = view.ctx.session) (tended : Tended config (view.withContext change) held dispatched) :
    Carried config view held dispatched (view.withContext change) :=
  ⟨tended,footprint_context (by rw [same]) (by rw [same]) (by rw [same])⟩

/-- The handler goes where it may. -/
theorem Tended.goto (tended : Tended config view held dispatched) {handler : Handler} (position : Position view handler)
    (locks : handler.holdsLock = true → view.ctx.publication.holdsLock = false) :
    Carried config view held dispatched (view.withContext fun ctx => { ctx with handler := handler }) := by
  have onward : Onward view (view.withContext fun ctx => { ctx with handler := handler }) := onward_context rfl
  exact carried_context rfl ⟨tended.kept,position.onward onward,⟨tended.publishes.failing,tended.publishes.segmenting⟩,locks,
    tended.events,fun task member => (tended.aborts task member).onward onward⟩

/-- The session is as it was, and so are its handler and its publication. -/
theorem Tended.record (tended : Tended config view held dispatched) {change : SessionContext V → SessionContext V}
    (same : ∀ ctx, change ctx = { ctx with
      sent := (change ctx).sent
      aborts := (change ctx).aborts
      terminalEvents := (change ctx).terminalEvents
      firstUndecodedAt := (change ctx).firstUndecodedAt
      cancellations := (change ctx).cancellations })
    (aborts : ∀ task ∈ (change view.ctx).aborts, Allowed view task) :
    Carried config view held dispatched (view.withContext change) := by
  have session : (change view.ctx).session = view.ctx.session := by rw [same]
  have onward : Onward view (view.withContext change) := onward_context session
  refine carried_context session ⟨?_,?_,?_,?_,?_,fun task member => (aborts task member).onward onward⟩
  · simp only [Kept,View.withContext]
    rw [same]
    exact tended.kept
  · have stands : (view.withContext change).ctx.handler = view.ctx.handler := by simp only [View.withContext]; rw [same]
    rw [stands]
    exact tended.position.onward onward
  · simp only [View.withContext]
    rw [same]
    exact ⟨tended.publishes.failing,tended.publishes.segmenting⟩
  · simp only [View.withContext]
    rw [same]
    exact tended.exclusive
  · simp only [View.withContext]
    rw [same]
    exact tended.events

/-- An exception ends the call of the handler. -/
theorem Carried.raised (carried : Carried config view held dispatched next) :
    Carried config view held dispatched (next.withContext fun ctx => { ctx with handler := .raised }) :=
  carried.trans (carried.tended.goto (free_position (.inl rfl)) (by simp [Handler.holdsLock]))

/-- Work that goes only where it may. -/
theorem Tended.carried {goes : Handler → Prop} {out : Publication → Prop} (tended : Tended config view held dispatched)
    (worked : Worked config True True goes out view next) (places : ∀ handler, goes handler → Position view handler)
    (shows : ∀ publication, out publication → Publishes config view publication)
    (locks : ∀ handler, goes handler → handler.holdsLock = true →
      view.ctx.publication.holdsLock = false ∧ ∀ publication, out publication → publication.holdsLock = false)
    (waits : ∀ publication, out publication → publication.holdsLock = true → view.ctx.handler.holdsLock = false) :
    Carried config view held dispatched next :=
  ⟨tended.worked worked places shows locks waits,worked_footprint worked⟩

/-! ## The handler -/

/-- Whether it returns or raises, the handler's program keeps the session tended. -/
abbrev Handles (config : GatewayConfig V) (view : View V) (held dispatched : List InferenceJob) (program : Code V Unit) : Prop :=
  wp program (fun _ => Carried config view held dispatched)
    (fun _ next => Carried config view held dispatched (next.withContext fun ctx => { ctx with handler := .raised })) view

/-- Work of a handler, whose publication stays where it is. -/
abbrev Steps (config : GatewayConfig V) (goes : Handler → Prop) (start view : View V) : Prop :=
  Worked config True True goes (fun _ => False) start view

theorem Tended.steps {goes : Handler → Prop} (tended : Tended config view held dispatched)
    (steps : Steps config goes view next) (places : ∀ handler, goes handler → Position view handler)
    (locks : ∀ handler, goes handler → handler.holdsLock = true → view.ctx.publication.holdsLock = false) :
    Carried config view held dispatched next :=
  tended.carried steps places (fun _ no => no.elim) (fun handler goes holds => ⟨locks handler goes holds,fun _ no => no.elim⟩)
    fun _ no => no.elim

theorem handles_carried {goes : Handler → Prop} {program : Code V Unit} (works : Keeps (Steps config goes view) program)
    (tended : Tended config view held dispatched) (places : ∀ handler, goes handler → Position view handler)
    (locks : ∀ handler, goes handler → handler.holdsLock = true → view.ctx.publication.holdsLock = false) :
    Handles config view held dispatched program :=
  wp_mono (works view .refl) (fun _ _ steps => tended.steps steps places locks)
    fun _ _ steps => (tended.steps steps places locks).raised

/-- Work whose handler goes to one place. -/
theorem handles_goto {handler : Handler} {program : Code V Unit} (works : Keeps (Steps config (· = handler) view) program)
    (tended : Tended config view held dispatched) (position : Position view handler)
    (locks : handler.holdsLock = true → view.ctx.publication.holdsLock = false) : Handles config view held dispatched program := by
  refine handles_carried works tended ?_ ?_
  · rintro _ rfl
    exact position
  · rintro _ rfl
    exact locks

/-- Work whose handler stays where it is. -/
theorem Tended.stays (tended : Tended config view held dispatched) (steps : Steps config (fun _ => False) view next) :
    Carried config view held dispatched next :=
  tended.steps steps (fun _ no => no.elim) fun _ no => no.elim

theorem handles_stays {program : Code V Unit} (works : Keeps (Steps config (fun _ => False) view) program)
    (tended : Tended config view held dispatched) : Handles config view held dispatched program :=
  handles_carried works tended (fun _ no => no.elim) fun _ no => no.elim

/-- A handler whose client has not asked to finish appends audio. -/
theorem Tended.opened (tended : Tended config view held dispatched) (early : view.ctx.handler.early = true) :
    Open view.ctx.session := fun _ => tended.position.early early

/-- Accounting for a decision leaves the detector alone. -/
theorem accounting_silent (pcm : Pcm) (samples : Nat) :
    Keeps (fun next : View V => Silent config next.ctx.vad) (do
      when (pcm ≠ []) (appendPcm pcm false)
      recordDiscarded samples : Code V Unit) := by
  refine keeps_bind (keeps_when fun _ => keeps_bind keeps_get fun _ => keeps_bind ?_ fun _ => ?_) fun _ => keeps_when fun _ =>
    keeps_bind keeps_get fun _ => keeps_bind ?_ fun _ => ?_
  · exact fun view silent => accountFor_wp (fun _ _ => silent) fun _ _ => silent
  · exact keeps_modify fun _ silent => silent
  · exact fun view silent => accountFor_wp (fun _ _ => silent) fun _ _ => silent
  · exact keeps_modify fun _ silent => silent

/-- The detector holds nothing after the end of its input. -/
theorem finishHearing_silent {start : View V} :
    wp (finishHearing config) (fun _ next => Silent config next.ctx.vad) (fun _ _ => True) start := by
  simp only [finishHearing,wp_bind,wp_get]
  split
  · rename_i vad _
    simp only [updateContext]
    rw [wp_bind,wp_modify]
    refine wp_mono (accounting_silent _ _ _ ?_) (fun _ _ silent => silent) fun _ _ _ => trivial
    rintro _ ⟨⟩
    exact config.detector.finishInput_held vad
  · rename_i unheard
    intro current found
    rw [unheard] at found
    cases found

/-- The client asks to finish. -/
theorem Tended.requestFinish (tended : Tended config view held dispatched) (silent : Silent config view.ctx.vad) :
    Carried config view held dispatched (view.withContext fun ctx =>
      { ctx with session := ctx.session.requestFinish, handler := .ingestLock .finish }) := by
  have life : view.ctx.session.requestFinish.sessionId = view.ctx.session.sessionId ∧
      view.ctx.session.requestFinish.selectedWorkerId = view.ctx.session.selectedWorkerId ∧
      view.ctx.session.requestFinish.generation = view.ctx.session.generation ∧
      view.ctx.session.requestFinish.finishRequested = true ∧
      (view.ctx.session.terminalState ≠ .succeeded → view.ctx.session.requestFinish.terminalState ≠ .succeeded) := by
    unfold GatewaySession.requestFinish
    split
    · rename_i requested
      exact ⟨rfl,rfl,rfl,requested,id⟩
    · exact ⟨rfl,rfl,rfl,rfl,fun _ => by simp⟩
  obtain ⟨sessionId,worker,generation,requested,running⟩ := life
  have stopped : ∀ event, Stopped view event → Stopped (view.withContext fun ctx =>
      { ctx with session := ctx.session.requestFinish, handler := .ingestLock .finish }) event := by
    rintro event (barred | past)
    · refine .inl ?_
      rw [View.key] at barred ⊢
      simp only [View.withContext,sessionId]
      exact barred
    · exact .inr (by simp only [View.withContext,generation]; exact past)
  refine ⟨⟨?_,?_,⟨?_,?_⟩,by simp [View.withContext,Handler.holdsLock],?_,?_⟩,
    footprint_context sessionId worker (Nat.le_of_eq generation.symm)⟩
  · have kept := Custody.requestFinish tended.kept
    unfold Kept
    simp only [View.withContext]
    rw [sessionId,worker]
    exact kept
  · refine ⟨by simp [View.withContext,Handler.early],fun _ => requested,?_,?_,?_⟩ <;>
      simp [View.withContext,Handler.ending,Handler.awaits,Handler.cleared]
  · intro failing
    simp only [View.withContext,generation]
    exact tended.publishes.failing failing
  · exact fun segmenting => ⟨running (tended.publishes.segmenting segmenting).1,.inr silent⟩
  · intro event member terminal
    simp only [View.withContext,Over,generation]
    rcases tended.events event member terminal with past | succeeded
    · exact .inl past
    · have asked := (tended.kept.succeeded succeeded).2.2
      have same : view.ctx.session.requestFinish = view.ctx.session := if_pos asked
      exact .inr (by rw [same]; exact succeeded)
  · intro task member
    have allowed := tended.aborts task member
    cases task with
    | safe event => exact stopped _ allowed
    | adapter =>
      simp only [Allowed,View.withContext,generation]
      exact allowed

theorem finish_carried (tended : Tended config view held dispatched) (early : view.ctx.handler.early = true) :
    Handles config view held dispatched (finish config) := by
  unfold Handles finish
  refine wp_bind_of_keeps requireContext_works .refl (fun _ next steps => (tended.stays steps).raised) fun _ next steps => ?_
  have carried := tended.stays steps
  have opened : Open next.ctx.session := (tended.opened early).of_life (worked_life steps)
  rw [wp_bind]
  have works : Keeps (Steps config (fun _ => False) next) (finishHearing config) := finishHearing_works trivial fun _ => opened
  refine wp_mono (wp_and (works next .refl) finishHearing_silent) ?_ ?_
  · rintro _ last ⟨heard,silent⟩
    simp only [setSession,goto,updateContext,wp_bind,wp_get,wp_modify]
    have later := carried.tended.stays heard
    exact carried.trans (later.trans (later.tended.requestFinish silent))
  · rintro _ last ⟨heard,_⟩
    exact (carried.trans (carried.tended.stays heard)).raised

/-- A session that has succeeded is over. -/
theorem Tended.succeed {session : GatewaySession} {reports : List TerminalState} (tended : Tended config view held dispatched)
    (requested : view.ctx.session.finishRequested = true) (outside : view.ctx.publication.holdsLock = false)
    (succeeds : view.ctx.session.succeed = .ok session) {events : List OutboundEvent} :
    Carried config view held dispatched (view.withContext fun ctx =>
      { ctx with session := session, terminalEvents := reports, events := ctx.events ++ events, handler := .closed }) := by
  obtain ⟨rfl,kept⟩ := Custody.succeed tended.kept requested succeeds
  have onward : Onward view (view.withContext fun ctx => { ctx with
      session := { view.ctx.session with terminalState := .succeeded }
      terminalEvents := reports
      events := ctx.events ++ events
      handler := .closed }) :=
    ⟨rfl,Nat.le_refl _,rfl,fun _ => .inr rfl,fun _ member => member,rfl,rfl⟩
  refine ⟨⟨kept,(free_position (.inr rfl)).onward onward,⟨tended.publishes.failing,?_⟩,by simp [View.withContext,Handler.holdsLock],
    fun _ _ _ => .inr rfl,fun task member => (tended.aborts task member).onward onward⟩,
    footprint_context rfl rfl (Nat.le_refl _)⟩
  intro segmenting
  exact (Bool.false_ne_true ((Publication.outside outside).symm.trans segmenting)).elim

theorem finishAnswered_carried (answer : Except PyError AdapterResult) (tended : Tended config view held dispatched)
    (requested : view.ctx.session.finishRequested = true) (outside : view.ctx.publication.holdsLock = false) :
    Handles config view held dispatched (finishAnswered config answer) := by
  have left : ∀ (exc : PyError) (next : View V), Steps config (fun _ => False) view next →
      Carried config view held dispatched (next.withContext fun ctx => { ctx with handler := .raised }) :=
    fun _ _ steps => (tended.stays steps).raised
  unfold Handles finishAnswered
  refine wp_bind_of_keeps (keeps_ofExcept _) .refl left fun control next steps => ?_
  refine wp_bind_of_keeps (applyControl_works control) steps left fun _ next steps => ?_
  refine wp_bind_of_keeps keeps_get steps left fun _ next steps => ?_
  refine wp_bind_of_keeps (callProtocol_works _) steps left fun _ next steps => ?_
  refine wp_bind_of_keeps (inner_works fun _ => by constructor <;> rfl) steps left fun _ next steps => ?_
  have carried := tended.stays steps
  have outside : next.ctx.publication.holdsLock = false := by
    rcases worked_publication steps with same | no
    · rw [same]
      exact outside
    · exact no.elim
  simp only [setSession,emitTerminal,enqueueEvents,goto,updateContext,wp_bind,wp_get,wp_ofExcept,wp_modify]
  refine ⟨fun session succeeds => ?_,fun exc _ => left exc next steps⟩
  have requested : next.ctx.session.finishRequested = true := by rwa [(worked_life steps).finishRequested]
  exact carried.trans (carried.tended.succeed requested outside succeeds)

theorem cancelAndWait_carried {safe : Handler} {waiting : Nat → Handler} (tended : Tended config view held dispatched)
    (standsSafe : ∀ view : View V, Stopped view none → Position view safe)
    (standsWaiting : ∀ (view : View V) (event : Nat), Stopped view (some event) → Position view (waiting event))
    (locks : safe.holdsLock = false ∧ ∀ event, (waiting event).holdsLock = false) :
    Handles config view held dispatched (cancelAndWait safe waiting) := by
  have carried : Carried config view held dispatched view.cancel := ⟨tended.cancel,cancel_footprint view⟩
  have stopped := cancel_stopped view tended.kept.positive
  simp only [Handles,cancelAndWait,requireContext,cancelSession,goto,updateContext,wp_bind,wp_get,wp_when,wp_throw,wp_modify]
  refine ⟨fun _ => (Carried.refl tended).raised,fun _ => ?_⟩
  split
  · rename_i none
    rw [View.cancel,none] at stopped
    exact carried.trans (carried.tended.goto (standsSafe _ stopped) (by simp [locks.1]))
  · rename_i event found
    rw [View.cancel,found] at stopped
    exact carried.trans (carried.tended.goto (standsWaiting _ event stopped) (by simp [locks.2]))

theorem abortSafe_carried (endable : Endable config view held dispatched)
    (stops : view.ctx.session.generation = 1 → view.key ∈ view.scheduler.cancelledGenerations) :
    wp (abortSafe config) (fun _ => Carried config view held dispatched) (fun _ _ => False) view := by
  unfold abortSafe
  rw [wp_bind]
  refine wp_mono (abortSession_wp endable stops) ?_ fun _ _ no => no
  rintro _ next ⟨carried,past⟩
  refine carried.trans (carried.tended.goto ⟨?_,?_,fun _ => past,?_,?_⟩ ?_) <;>
    simp [Handler.early,Handler.finishing,Handler.awaits,Handler.cleared,Handler.holdsLock]

/-- Where a stopped generation is not past, it is cancelled. -/
theorem Stopped.cancels {event : Option Nat} (stopped : Stopped view event) (first : view.ctx.session.generation = 1) :
    view.key ∈ view.scheduler.cancelledGenerations := by
  rcases stopped with ⟨cancelled,_⟩ | past
  · exact cancelled
  · omega

theorem errorLocked_carried (exc : PyError) (code : String) (closeCode : Nat) (endable : Endable config view held dispatched)
    (free : view.ctx.publication.holdsLock = false) :
    Handles config view held dispatched (errorLocked exc code closeCode) := by
  have tended := endable.tended
  have closes : Carried config view held dispatched (view.withContext fun ctx => { ctx with handler := .closed }) :=
    tended.goto (free_position (.inr rfl)) (by simp [Handler.holdsLock])
  simp only [Handles,errorLocked,wp_bind,wp_get,wp_ite]
  refine ⟨fun _ => closes,fun _ => ?_⟩
  refine wp_mono (failSession_wp endable (Publication.outside free)) ?_ fun _ _ no => no.elim
  rintro failed next ends
  cases failed with
  | false =>
    obtain rfl : next = view := ends
    exact closes
  | true =>
    obtain ⟨carried,past,publication,_⟩ := ends
    refine carried.trans (carried.tended.goto ⟨?_,?_,fun _ => past,?_,?_⟩ fun _ => ?_)
    any_goals simp [Handler.early,Handler.finishing,Handler.awaits,Handler.cleared]
    rw [publication]
    exact free

theorem stopped_position {handler : Handler} (early : handler.early = false) (finishing : handler.finishing = false)
    (ending : handler.ending = false) (awaits : ∀ event, handler.awaits = some event → Stopped view (some event))
    (cleared : handler.cleared = true → Stopped view none) : Position view handler :=
  ⟨by simp [early],by simp [finishing],by simp [ending],awaits,cleared⟩

theorem command_carried {call : Command} {program : Code V Unit} (tended : Tended config view held dispatched)
    (awaited : Awaited view dispatched) (issued : command config view.ctx.handler call = some program) :
    Handles config view held dispatched program := by
  have moves : ∀ handler : Handler, handler.early = true → handler.holdsLock = false → view.ctx.handler.early = true →
      Handles config view held dispatched (do requireContext; goto handler) := by
    intro handler early outside before
    have works : Keeps (Steps config (· = handler) view) (do requireContext; goto handler : Code V Unit) :=
      keeps_bind requireContext_works fun _ => goto_works _ rfl
    exact handles_goto works tended (early_position early (tended.position.early before)) (by simp [outside])
  cases stands : view.ctx.handler <;> cases call <;> simp only [command,stands,reduceCtorEq,Option.some.injEq] at issued <;>
    subst issued
  case ready.ingest | ready.segment => exact moves _ rfl rfl (by rw [stands]; rfl)
  case ready.finish => exact finish_carried tended (by rw [stands]; rfl)
  case ready.error | raised.error =>
    refine cancelAndWait_carried tended (fun _ stopped => ?_) (fun _ event stopped => ?_) ⟨rfl,fun _ => rfl⟩
    · exact stopped_position rfl rfl rfl (by simp [Handler.awaits]) fun _ => stopped
    · refine stopped_position rfl rfl rfl ?_ (by simp [Handler.cleared])
      rintro _ ⟨⟩
      exact stopped
  case ready.abort =>
    have carried : Carried config view held dispatched view.cancel := ⟨tended.cancel,cancel_footprint view⟩
    have stopped := cancel_stopped view tended.kept.positive
    simp only [Handles,requireContext,cancelSession,goto,updateContext,wp_bind,wp_get,wp_when,wp_throw,wp_modify]
    refine ⟨fun _ => (Carried.refl tended).raised,fun _ => ?_⟩
    split
    · rename_i none
      have endable := tended.cancelled_endable awaited none
      exact wp_mono (abortSafe_carried endable stopped.cancels) (fun _ _ later => carried.trans later) fun _ _ no => no.elim
    · rename_i event found
      rw [View.cancel,found] at stopped
      refine carried.trans (carried.tended.goto (stopped_position rfl rfl rfl ?_ ?_) ?_) <;>
        simp [Handler.awaits,Handler.cleared,Handler.holdsLock]
      exact stopped

/-- A call of `ingest` goes on as long as the client has not asked to finish, and the last one after. -/
theorem ingest_carried (call : Ingest) {program : Code V Unit} (tended : Tended config view held dispatched)
    (works : Keeps (Steps config call.leadsTo view) program) (free : view.ctx.publication.holdsLock = false)
    (early : call ≠ .finish → view.ctx.session.finishRequested = false)
    (finishing : call = .finish → view.ctx.session.finishRequested = true) : Handles config view held dispatched program := by
  refine handles_carried works tended (fun handler leads => ?_) fun _ _ _ => free
  cases call with
  | finish =>
    cases handler <;> first | exact leads.elim | skip
    refine ⟨?_,fun _ => finishing rfl,?_,?_,?_⟩ <;> simp [Handler.early,Handler.ending,Handler.awaits,Handler.cleared]
  | segment =>
    cases handler <;> first | exact leads.elim | exact early_position rfl (early (by simp))
  | frame pcm force =>
    cases handler <;> first | exact leads.elim | exact early_position rfl (early (by simp))

/-- The event that a stopped generation waits for is set. -/
theorem Stopped.settles {home : SessionKey → WorkerId → Prop} {event : Nat} (guarded : Guarded home view.scheduler)
    (stopped : Stopped view (some event)) (safe : view.isSafe event = true) : Stopped view none :=
  stopped.imp_left fun barred => guarded.settled barred (by simpa [View.isSafe] using safe)

theorem proceed_carried {home : SessionKey → WorkerId → Prop} {moment : Moment} {input : Input} {program : Code V Unit}
    (tended : Tended config view held dispatched) (awaited : Awaited view dispatched) (guarded : Guarded home view.scheduler)
    (goesOn : proceed config moment view input = some program) : Handles config view held dispatched program := by
  have position := tended.position
  have free : ¬view.ctx.locked = true → view.ctx.publication.holdsLock = false := by simp [SessionContext.locked]
  cases stands : view.ctx.handler <;> cases input <;>
    simp only [proceed,stands,reduceCtorEq,Option.some.injEq,Option.ite_none_left_eq_some,
      Option.ite_none_right_eq_some] at goesOn <;> rw [stands] at position
  case starting.go =>
    obtain ⟨_,rfl⟩ := goesOn
    have works : Keeps (Steps config (· = .ready) view) (enqueueReady : Code V Unit) := enqueueReady_works rfl
    exact handles_goto works tended (early_position rfl (position.early rfl)) (by simp [Handler.holdsLock])
  case ingestLock.go call =>
    obtain ⟨open',rfl⟩ := goesOn
    have taking : call ≠ .finish → view.ctx.session.finishRequested = false := by
      cases call with
      | finish => exact fun other => absurd rfl other
      | frame | segment => exact fun _ => position.early rfl
    refine ingest_carried call tended (ingestLocked_works moment call ?_) (free open') taking ?_
    · cases call with
      | frame => exact .inr ⟨trivial,fun _ _ => taking (by simp)⟩
      | segment => exact .inl (.inr rfl)
      | finish => exact .inl (.inl rfl)
    · rintro rfl
      exact position.finishing rfl
  case ingestAccept.go pcm force =>
    subst goesOn
    have taking := position.early rfl
    refine ingest_carried (.frame pcm force) tended (keeps_bind (checkDeadlines_works _) fun _ => ?_)
      (tended.exclusive (by rw [stands]; rfl)) (fun _ => taking) (by simp)
    exact ingestAccept_works moment pcm force trivial fun _ _ => taking
  case ingestAppend.go pcm force decision =>
    subst goesOn
    have taking := position.early rfl
    refine ingest_carried (.frame pcm force) tended (keeps_bind (checkDeadlines_works _) fun _ => ?_)
      (tended.exclusive (by rw [stands]; rfl)) (fun _ => taking) (by simp)
    exact ingestAppend_works moment pcm force trivial (fun _ _ => taking) decision
  case ingestAccept.timeout | ingestAppend.timeout =>
    subst goesOn
    exact handles_stays (keeps_throw _) tended
  case segmentIdle.go =>
    obtain ⟨_,rfl⟩ := goesOn
    exact tended.goto (early_position rfl (position.early rfl)) (by simp [Handler.holdsLock])
  case finishIdle.go =>
    obtain ⟨_,rfl⟩ := goesOn
    refine tended.goto ⟨?_,fun _ => position.finishing rfl,?_,?_,?_⟩ ?_ <;>
      simp [Handler.early,Handler.ending,Handler.awaits,Handler.cleared,Handler.holdsLock]
  case segmentLock.go =>
    obtain ⟨open',rfl⟩ := goesOn
    have works : Keeps (Steps config (· = .segmentAdapter) view) (do
        record (.finishSegment view.ctx.session.sessionId)
        goto .segmentAdapter : Code V Unit) :=
      keeps_bind (control_works _ fun _ => .inl rfl) fun _ => goto_works _ rfl
    simp only [Handles,wp_bind,wp_get]
    rw [← wp_bind]
    exact handles_goto works tended (early_position rfl (position.early rfl)) fun _ => free open'
  case finishLock.go =>
    obtain ⟨open',rfl⟩ := goesOn
    have works : Keeps (Steps config (· = .finishAdapter) view) (do
        record (.finishSession view.ctx.session.sessionId)
        goto .finishAdapter : Code V Unit) :=
      keeps_bind (control_works _ fun _ => .inr rfl) fun _ => goto_works _ rfl
    simp only [Handles,wp_bind,wp_get]
    rw [← wp_bind]
    refine handles_goto works tended ⟨?_,fun _ => position.finishing rfl,?_,?_,?_⟩ fun _ => free open' <;>
      simp [Handler.early,Handler.ending,Handler.awaits,Handler.cleared]
  case segmentAdapter.answer reply =>
    subst goesOn
    have works : Keeps (Steps config (· = .ready) view) (segmentAnswered config reply) := segmentAnswered_works reply rfl
    exact handles_goto works tended (early_position rfl (position.early rfl)) (by simp [Handler.holdsLock])
  case finishAdapter.answer reply =>
    subst goesOn
    exact finishAnswered_carried reply tended (position.finishing rfl) (tended.exclusive (by rw [stands]; rfl))
  case errorSafe.go exc code closeCode event =>
    obtain ⟨safe,rfl⟩ := goesOn
    have stopped := (position.awaits event rfl).settles guarded safe
    exact tended.goto (stopped_position rfl rfl rfl (by simp [Handler.awaits]) fun _ => stopped) (by simp [Handler.holdsLock])
  case errorLock.go exc code closeCode =>
    obtain ⟨open',rfl⟩ := goesOn
    exact errorLocked_carried exc code closeCode (awaited.endable tended (position.cleared rfl)) (free open')
  case errorAdapter.answer exc code closeCode reply =>
    subst goesOn
    have past := position.ending rfl
    simp only [Handles,sessionFailed,emitTerminal,updateContext,wp_bind,wp_modify]
    have carried : Carried config view held dispatched (view.withContext fun ctx =>
        { ctx with terminalEvents := ctx.terminalEvents ++ [.failed] }) := tended.record (fun _ => rfl) tended.aborts
    generalize reported : view.withContext _ = next at carried ⊢
    have works : Keeps (Steps config (· = .closed) next) (errorAnswered exc code closeCode : Code V Unit) :=
      errorAnswered_works exc code closeCode (fun _ => .inl (by rw [← reported]; exact past)) rfl
    exact wp_mono (handles_goto works carried.tended (free_position (.inr rfl)) (by simp [Handler.holdsLock]))
      (fun _ _ later => carried.trans later) fun _ _ later => carried.trans later
  case abortSafe.go event =>
    obtain ⟨safe,rfl⟩ := goesOn
    have stopped := (position.awaits event rfl).settles guarded safe
    exact wp_mono (abortSafe_carried (awaited.endable tended stopped) stopped.cancels) (fun _ _ later => later)
      fun _ _ no => no.elim
  case abortAdapter.answer reply =>
    subst goesOn
    have works : Keeps (Steps config (· = .closed) view) (abortAnswered reply : Code V Unit) :=
      abortAnswered_works reply (fun _ => .inl (position.ending rfl)) rfl
    exact handles_goto works tended (free_position (.inr rfl)) (by simp [Handler.holdsLock])

/-- Whether it returns or raises, the program keeps the session tended. -/
abbrev Tends (config : GatewayConfig V) (view : View V) (held dispatched : List InferenceJob) {α : Type}
    (program : Code V α) : Prop :=
  wp program (fun _ => Carried config view held dispatched) (fun _ => Carried config view held dispatched) view

theorem releaseSession_carried (tended : Tended config view held dispatched) (past : Over view.ctx.session) :
    Tends config view held dispatched (releaseSession : Code V Unit) := by
  simp only [Tends,releaseSession,updateContext,wp_bind,wp_get,wp_when,wp_modify]
  refine ⟨fun _ => ?_,fun _ => .refl tended⟩
  have life : view.ctx.session.close.sessionId = view.ctx.session.sessionId ∧
      view.ctx.session.close.selectedWorkerId = view.ctx.session.selectedWorkerId ∧
      view.ctx.session.close.finishRequested = view.ctx.session.finishRequested ∧
      view.ctx.session.close.terminalState = view.ctx.session.terminalState ∧
      view.ctx.session.generation ≤ view.ctx.session.close.generation := by
    unfold GatewaySession.close
    split <;> simp
  obtain ⟨sessionId,worker,requested,state,generation⟩ := life
  obtain ⟨closed,kept⟩ := Custody.close tended.kept past
  have onward : Onward view (view.withContext fun ctx => { ctx with live := false, session := ctx.session.close }) :=
    ⟨sessionId,generation,requested,fun _ => .inl closed,fun _ member => member,rfl,rfl⟩
  refine ⟨⟨?_,tended.position.onward onward,⟨fun _ => closed,fun segmenting => ?_⟩,tended.exclusive,fun _ _ _ => .inl closed,
    fun task member => (tended.aborts task member).onward onward⟩,footprint_context sessionId worker generation⟩
  · unfold Kept
    simp only [View.withContext]
    rw [sessionId,worker]
    exact kept
  · obtain ⟨running,quiet⟩ := tended.publishes.segmenting segmenting
    refine ⟨by simp only [View.withContext]; rwa [state],quiet.imp_left fun opened _ => ?_⟩
    exact requested.trans (opened (past.resolve_right running))

theorem abortTaskSafe_carried (endable : Endable config view held dispatched)
    (stops : view.ctx.session.generation = 1 → view.key ∈ view.scheduler.cancelledGenerations) :
    wp (abortTaskSafe config) (fun _ => Carried config view held dispatched) (fun _ _ => False) view := by
  unfold abortTaskSafe
  rw [wp_bind]
  refine wp_mono (abortSession_wp endable stops) ?_ fun _ _ no => no
  rintro _ next ⟨carried,past⟩
  refine carried.trans (carried.tended.record (fun _ => rfl) ?_)
  rintro task member
  rcases List.mem_cons.mp member with rfl | old
  · exact past
  · exact carried.tended.aborts task old

theorem abort_carried (tended : Tended config view held dispatched) (awaited : Awaited view dispatched) :
    Tends config view held dispatched (abort config) := by
  have carried : Carried config view held dispatched view.cancel := ⟨tended.cancel,cancel_footprint view⟩
  have stopped := cancel_stopped view tended.kept.positive
  simp only [Tends,abort,cancelSession,wp_bind,wp_get,wp_ite,wp_modify,wp_pure]
  refine ⟨fun _ => .refl tended,fun _ => ⟨fun ends => ?_,fun _ => ?_⟩⟩
  · refine releaseSession_carried tended ?_
    have ended := tended.kept.stopped
    unfold Gateway.ended at ends
    split at ends
    · exact .inl (ended (.inl ‹_›))
    · exact .inl (ended (.inr ‹_›))
    · exact .inr ‹_›
    · cases ends
    · cases ends
  · split
    · rename_i none
      have endable := tended.cancelled_endable awaited none
      exact wp_mono (abortTaskSafe_carried endable stopped.cancels) (fun _ _ later => carried.trans later) fun _ _ no => no.elim
    · rename_i event found
      rw [View.cancel,found] at stopped
      refine carried.trans (carried.tended.record (fun _ => rfl) ?_)
      rintro task member
      rcases List.mem_cons.mp member with rfl | old
      · exact stopped
      · exact carried.tended.aborts task old

theorem resumeAbort_carried {home : SessionKey → WorkerId → Prop} {task : AbortTask} {program : Code V Unit}
    (tended : Tended config view held dispatched) (awaited : Awaited view dispatched) (guarded : Guarded home view.scheduler)
    (resumes : resumeAbort config view task = some program) : Tends config view held dispatched program := by
  unfold resumeAbort at resumes
  split at resumes
  · cases resumes
  rename_i member
  have allowed : Allowed view task := tended.aborts task (by simpa using member)
  have left : Carried config view held dispatched (view.withContext fun ctx => { ctx with aborts := ctx.aborts.erase task }) :=
    tended.record (fun _ => rfl) fun other member => tended.aborts other (List.mem_of_mem_erase member)
  cases task with
  | safe event =>
    dsimp only at resumes
    split at resumes
    · rename_i safe
      cases resumes
      have stopped := Stopped.settles guarded allowed safe
      have endable : Endable config _ held dispatched := ⟨left.tended,awaited.free tended stopped⟩
      exact wp_mono (abortTaskSafe_carried endable stopped.cancels) (fun _ _ later => left.trans later) fun _ _ no => no.elim
    · cases resumes
  | adapter =>
    cases resumes
    exact wp_mono (releaseSession_carried left.tended (.inl allowed)) (fun _ _ later => left.trans later)
      fun _ _ later => left.trans later

theorem send_carried {program : Code V Unit} (tended : Tended config view held dispatched) (sends : send view = some program) :
    Tends config view held dispatched program := by
  unfold send at sends
  split at sends
  · cases sends
  split at sends
  · cases sends
  rename_i event found
  cases sends
  have left : Carried config view held dispatched (view.withContext fun ctx => { ctx with sent := ctx.sent + 1 }) :=
    tended.record (fun _ => rfl) tended.aborts
  simp only [Tends,updateContext]
  rw [wp_bind,wp_modify]
  have works : Keeps (Steps config (fun _ => False) (view.withContext fun ctx => { ctx with sent := ctx.sent + 1 }))
      (when (event.completesTimeline || event.terminal) (event.jobId.elim (pure ()) discardTimeline) : Code V Unit) := by
    refine keeps_when fun _ => ?_
    cases event.jobId with
    | none => exact keeps_pure _
    | some jobId => exact discardTimeline_works jobId
  refine wp_bind_of_keeps works .refl (fun _ _ steps => left.trans (left.tended.stays steps)) fun _ next steps => ?_
  have carried := left.tended.stays steps
  rw [wp_when]
  refine ⟨fun terminal => ?_,fun _ => left.trans carried⟩
  have life := worked_life steps
  have past : Over next.ctx.session := (tended.events event (List.mem_of_getElem? found) terminal).of_life life
  exact wp_mono (releaseSession_carried carried.tended past) (fun _ _ later => left.trans (carried.trans later))
    fun _ _ later => left.trans (carried.trans later)

/-! ## The hooks of the scheduler -/

theorem Tended.discard (tended : Tended config view held dispatched) (jobId : Text) :
    Carried config view held dispatched { view with timelines := Function.update view.timelines jobId none } :=
  tended.stays (.single (.inner (by constructor <;> rfl)))

/-- A reservation is given up, which leaves the session as it stands with the gateway. -/
theorem Tended.giveUp {session : GatewaySession} {since : Option Time} {waiting submitted : List InferenceJob}
    (tended : Tended config view held dispatched) (life : SameLife view.ctx.session session)
    (kept : Custody session view.ctx.live view.ctx.stream (view.key ∈ view.scheduler.cancelledGenerations)
      (ofSession view.ctx.session.sessionId (view.scheduler.queues view.ctx.session.selectedWorkerId) ++ waiting) submitted
      (submittedJobs view.ctx.session.sessionId view.calls)) :
    Tended config (view.withContext fun ctx => { ctx with session := session, firstUndecodedAt := since }) waiting submitted ∧
      Footprint view (view.withContext fun ctx => { ctx with session := session, firstUndecodedAt := since }) := by
  have onward : Onward view (view.withContext fun ctx => { ctx with session := session, firstUndecodedAt := since }) :=
    ⟨life.sessionId,Nat.le_of_eq life.generation.symm,life.finishRequested,fun past => past.of_life life,
      fun _ member => member,rfl,rfl⟩
  refine ⟨⟨?_,tended.position.onward onward,⟨?_,?_⟩,tended.exclusive,?_,fun task member => (tended.aborts task member).onward onward⟩,
    footprint_context life.sessionId life.worker (Nat.le_of_eq life.generation.symm)⟩
  · unfold Kept
    simp only [View.withContext]
    rw [life.sessionId,life.worker]
    exact kept
  · intro failing
    simp only [View.withContext,life.generation]
    exact tended.publishes.failing failing
  · intro segmenting
    obtain ⟨running,quiet⟩ := tended.publishes.segmenting segmenting
    exact ⟨by simp only [View.withContext]; rwa [life.terminalState],quiet.imp_left fun opened => opened.of_life life⟩
  · exact fun event member terminal => (tended.events event member terminal).of_life life

/-- A job that was submitted is cleaned up: it still owns the reservation. -/
theorem cleanupJob_carried {job : InferenceJob} (tended : Tended config view held [job]) :
    wp (cleanupJob job) (fun _ next => Tended config next held [] ∧ Footprint view next ∧ next.scheduler = view.scheduler)
      (fun _ _ => False) view := by
  obtain ⟨live,generation,owns,session,acknowledges,kept⟩ := Custody.clean tended.kept
  simp only [cleanupJob,updateContext,wp_bind,wp_get,wp_when,wp_throw,wp_ofExcept,wp_modify,acknowledges,Except.ok.injEq,
    reduceCtorEq,false_implies,implies_true,and_true]
  refine ⟨by simp [live,generation,owns],fun _ => ?_⟩
  rintro _ rfl
  obtain ⟨given,footprint⟩ := tended.giveUp (acknowledge_coherent acknowledges).2 kept
  exact ⟨given,footprint,rfl⟩

/-- The only job of the session is one that is about to be rejected. -/
theorem Tended.alone {job : InferenceJob} (tended : Tended config view [job] dispatched) :
    ofSession view.ctx.session.sessionId (view.scheduler.queues view.ctx.session.selectedWorkerId) = [] ∧ dispatched = [] := by
  have kept := tended.kept
  cases found : view.ctx.session.reservation with
  | some reservation =>
    obtain ⟨_,_,only,single,_⟩ := kept.reserved reservation found
    have counted := congrArg List.length single
    simp only [List.length_append,List.length_cons,List.length_nil] at counted
    exact ⟨List.length_eq_zero_iff.mp (by omega),List.length_eq_zero_iff.mp (by omega)⟩
  | none =>
    obtain ⟨nothing,waits⟩ := kept.unreserved found
    refine ⟨?_,nothing⟩
    rcases waits with empty | ⟨_,only,single⟩
    · simp at empty
    · have counted := congrArg List.length single
      simp only [List.length_append,List.length_cons,List.length_nil] at counted
      exact List.length_eq_zero_iff.mp (by omega)

/-- A job that is rejected gives its reservation back, unless the session has ended. -/
theorem rejectJob_carried {job : InferenceJob} (tended : Tended config view [job] dispatched) :
    wp (rejectJob job) (fun _ next => Tended config next [] dispatched ∧ Footprint view next ∧ next.scheduler = view.scheduler)
      (fun _ _ => False) view := by
  have left := tended.discard job.jobId
  have still : { view with timelines := Function.update view.timelines job.jobId none }.scheduler = view.scheduler := rfl
  rw [rejectJob,wp_bind,discardTimeline,wp_modify]
  generalize { view with timelines := Function.update view.timelines job.jobId none } = next at left still ⊢
  obtain ⟨tended,footprint⟩ := left
  obtain ⟨empty,rfl⟩ := tended.alone
  have kept : Custody next.ctx.session next.ctx.live next.ctx.stream (next.key ∈ next.scheduler.cancelledGenerations)
      (ofSession next.ctx.session.sessionId (next.scheduler.queues next.ctx.session.selectedWorkerId) ++ [job]) []
      (submittedJobs next.ctx.session.sessionId next.calls) := tended.kept
  rw [empty,List.nil_append] at kept
  obtain ⟨returns,stays⟩ := Custody.reject kept
  simp only [setSession,updateContext,wp_bind,wp_get,wp_when,wp_throw,wp_ofExcept,wp_modify]
  refine ⟨fun current => ?_,fun other => ?_⟩
  · obtain ⟨session,rollsBack,kept⟩ := returns current
    simp only [rollsBack,Except.ok.injEq,reduceCtorEq,false_implies,implies_true,and_true]
    rintro _ rfl
    obtain ⟨kept,later⟩ := tended.giveUp (rollback_life rollsBack) (by rw [empty]; exact kept)
    exact ⟨by simp,fun _ => ⟨kept,footprint.trans later,still⟩⟩
  · obtain ⟨kept,later⟩ := tended.giveUp .refl (by rw [empty]; exact stays other)
    exact ⟨kept,footprint.trans later,still⟩

/-- The publication's program keeps the session tended, and never raises. -/
abbrev Concludes (config : GatewayConfig V) (view : View V) (held dispatched : List InferenceJob) (program : Code V Bool) : Prop :=
  wp program (fun _ => Carried config view held dispatched) (fun _ _ => False) view

/-- Work of a publication, whose handler stays where it is unless it is woken. -/
abbrev Shows (config : GatewayConfig V) (out : Publication → Prop) (start view : View V) : Prop :=
  Worked config True True (fun _ => False) out start view

/-- A publication that waits for nothing inside the lock. -/
abbrev Unlocked (publication : Publication) : Prop := publication.holdsLock = false

theorem unlocked_waiting : Unlocked .waiting := rfl

theorem unlocked_conflict (exc : PyError) : Unlocked (.conflictLock exc) := rfl

theorem unlocked_publishes {publication : Publication} (outside : Unlocked publication) : Publishes config view publication := by
  cases publication with
  | waiting | conflictLock exc => exact ⟨by simp [Publication.failing],by simp [Publication.segmenting]⟩
  | failAdapter | segmentAdapter | conflictAdapter => cases outside

theorem Tended.shows {out : Publication → Prop} (tended : Tended config view held dispatched) (shows : Shows config out view next)
    (places : ∀ publication, out publication → Publishes config view publication)
    (waits : ∀ publication, out publication → publication.holdsLock = true → view.ctx.handler.holdsLock = false) :
    Carried config view held dispatched next :=
  tended.carried shows (fun _ no => no.elim) places (fun _ no => no.elim) waits

theorem Tended.unlocked (tended : Tended config view held dispatched) (shows : Shows config Unlocked view next) :
    Carried config view held dispatched next :=
  tended.shows shows (fun _ => unlocked_publishes) fun _ outside holds => by
    rw [outside] at holds
    cases holds

/-- Where a program works without raising, it concludes. -/
theorem concludes_unlocked {program : Code V Bool} (works : Keeps (Shows config Unlocked view) program)
    (returns : wp program (fun _ _ => True) (fun _ _ => False) view) (tended : Tended config view held dispatched) :
    Concludes config view held dispatched program :=
  wp_mono (wp_and (works view .refl) returns) (fun _ _ both => tended.unlocked both.1) fun _ _ both => both.2

theorem dropResult_works_unlocked {start : View V} (result : InferenceResult) :
    Keeps (Shows config Unlocked start) (dropResult result : Code V Bool) := dropResult_works unlocked_waiting result

theorem dropResult_carried (result : InferenceResult) (tended : Tended config view held dispatched) :
    Concludes config view held dispatched (dropResult result) :=
  concludes_unlocked (dropResult_works_unlocked result) trivial tended

theorem suspend_carried {publication : Publication} (tended : Tended config view held dispatched)
    (publishes : Publishes config view publication)
    (waits : publication.holdsLock = true → view.ctx.handler.holdsLock = false) :
    Concludes config view held dispatched (suspend publication) := by
  have works : Keeps (Shows config (· = publication) view) (suspend publication : Code V Bool) := suspend_works publication rfl
  have returns : wp (suspend publication : Code V Bool) (fun _ _ => True) (fun _ _ => False) view := trivial
  refine wp_mono (wp_and (works view .refl) returns) (fun _ _ both => tended.shows both.1 ?_ ?_) fun _ _ both => both.2
  · rintro _ rfl
    exact publishes
  · rintro _ rfl
    exact waits

/-- The publication of a result ends the session. -/
theorem failing_carried {publication : Publication} {later : Code V Bool} (endable : Endable config view held dispatched)
    (free : view.ctx.handler.holdsLock = false) (outside : view.ctx.publication.segmenting = false)
    (shows : publication.segmenting = false) (goesOn : Concludes config view held dispatched later) :
    Concludes config view held dispatched (do if ← failSession then suspend publication else later) := by
  rw [Concludes,wp_bind]
  refine wp_mono (failSession_wp endable outside) ?_ fun _ _ no => no
  rintro failed next ends
  cases failed with
  | false =>
    obtain rfl : next = view := ends
    exact goesOn
  | true =>
    obtain ⟨carried,past,_,handler⟩ := ends
    exact wp_mono (suspend_carried carried.tended ⟨fun _ => past,by simp [shows]⟩ fun _ => handler ▸ free)
      (fun _ _ later => carried.trans later) fun _ _ no => no

/-- Whatever raises, the publication goes on to report a conflict. -/
theorem restoring_returns (saved : Saved) (program : Code V Bool) :
    wp (restoring saved program) (fun _ _ => True) (fun _ _ => False) view := by
  rw [restoring,wp_tryCatch]
  unfold wp
  split <;> trivial

theorem restoring_carried {program : Code V Bool} (saved : Saved) (tends : Tends config view held dispatched program) :
    Concludes config view held dispatched (restoring saved program) := by
  rw [restoring,Concludes,wp_tryCatch]
  refine wp_mono tends (fun _ _ kept => kept) fun exc next carried => ?_
  have works : Keeps (Shows config Unlocked next) (do
      updateContext fun ctx => { ctx with protocol := saved.protocol, segmentMetadata := saved.metadata }
      suspend (.conflictLock exc) : Code V Bool) :=
    keeps_bind (inner_works fun _ => by constructor <;> rfl) fun _ => suspend_works _ rfl
  exact wp_mono (concludes_unlocked works trivial carried.tended) (fun _ _ later => carried.trans later) fun _ _ no => no

/-- A result that is not stale belongs to a session in its first generation. -/
theorem applyResultLocked_carried (moment : Moment) (result : InferenceResult) (saved : Saved)
    (endable : Endable config view held dispatched) (running : ended view.ctx.session = false)
    (first : view.ctx.session.generation = 1) (own : result.sessionId = view.ctx.session.sessionId)
    (free : view.ctx.handler.holdsLock = false) (outside : view.ctx.publication.segmenting = false) :
    Tends config view held dispatched (applyResultLocked config moment result saved) := by
  have fails : ∀ exc code, Tends config view held dispatched (failResult result saved exc code) := fun exc code =>
    wp_mono (failing_carried endable free outside rfl (dropResult_carried result endable.tended)) (fun _ _ kept => kept)
      fun _ _ no => no.elim
  simp only [Tends,applyResultLocked,wp_bind,wp_get,wp_ite]
  refine ⟨fun _ => fails _ _,fun _ => ⟨fun _ => fails _ _,fun _ => ?_⟩⟩
  split
  · exact fails _ _
  have works : Keeps (Shows config (fun publication => Unlocked publication ∨ ∃ events deferred,
      publication = .segmentAdapter events deferred saved) view) (acceptResult config moment result saved) :=
    acceptResult_works (.inl rfl) moment result saved (fun events deferred => .inr ⟨events,deferred,rfl⟩) fun _ => own
  have places : ∀ publication, (Unlocked publication ∨ ∃ events deferred, publication = .segmentAdapter events deferred saved) →
      Publishes config view publication := by
    rintro publication (outside | ⟨events,deferred,rfl⟩)
    · exact unlocked_publishes outside
    · refine ⟨by simp [Publication.failing],fun _ => ⟨fun state => ?_,.inl fun past => ?_⟩⟩
      · simp [ended,state] at running
      · omega
  exact wp_mono (works view .refl) (fun _ _ shows => endable.tended.shows shows places fun _ _ _ => free)
    fun _ _ shows => endable.tended.shows shows places fun _ _ _ => free

theorem applyResult_carried (moment : Moment) (result : InferenceResult) (endable : Endable config view held dispatched)
    (first : result.generation = 1) (own : result.sessionId = view.ctx.session.sessionId)
    (free : view.ctx.handler.holdsLock = false) (outside : view.ctx.publication.segmenting = false) :
    Concludes config view held dispatched (applyResult config moment result) := by
  simp only [Concludes,applyResult,wp_bind,wp_get,wp_ite]
  refine ⟨fun _ => dropResult_carried result endable.tended,fun fresh => ?_⟩
  simp only [staleOrTerminal,Bool.or_eq_true,decide_eq_true_eq,not_or,not_not,Bool.not_eq_true] at fresh
  obtain ⟨⟨current,_⟩,running⟩ := fresh
  exact restoring_carried _ (applyResultLocked_carried moment result _ endable running (current.symm.trans first) own free outside)

theorem segmentEnded_carried (moment : Moment) (result : InferenceResult) (events : List WireEvent) (deferred : Bool)
    (saved : Saved) (answer : Except PyError AdapterResult) (tended : Tended config view held dispatched)
    (segmenting : view.ctx.publication.segmenting = true) :
    Concludes config view held dispatched (segmentEnded config moment result events deferred saved answer) := by
  have quiet := (tended.publishes.segmenting segmenting).2
  have works : wp (segmentEnded config moment result events deferred saved answer) (fun _ => Shows config Unlocked view)
      (fun _ => Shows config Unlocked view) view :=
    segmentEnded_works trivial unlocked_waiting unlocked_conflict moment result events deferred saved answer fun _ => quiet
  exact wp_mono (wp_and works (restoring_returns saved _)) (fun _ _ both => tended.unlocked both.1) fun _ _ both => both.2

theorem publishResult_carried {moment : Moment} {result : InferenceResult} {answer : Except PyError AdapterResult}
    {program : Code V Bool} (endable : Endable config view held dispatched) (first : result.generation = 1)
    (own : result.sessionId = view.ctx.session.sessionId)
    (goesOn : publishResult config moment view result answer = some program) :
    Concludes config view held dispatched program := by
  have tended := endable.tended
  have drops : Concludes config view held dispatched (do discardTimeline result.jobId; published : Code V Bool) :=
    concludes_unlocked (keeps_bind (discardTimeline_works _) fun _ => published_works unlocked_waiting) trivial tended
  have free : ¬view.ctx.locked = true → view.ctx.handler.holdsLock = false := by
    simp only [SessionContext.locked,Bool.or_eq_true,not_or,Bool.not_eq_true,and_imp]
    exact fun outside _ => outside
  have reports : Carried config view held dispatched (view.withContext fun ctx =>
      { ctx with terminalEvents := ctx.terminalEvents ++ [.failed] }) := tended.record (fun _ => rfl) tended.aborts
  unfold publishResult at goesOn
  cases stands : view.ctx.publication with
  | waiting =>
    rw [stands] at goesOn
    dsimp only at goesOn
    split at goesOn
    · cases goesOn
      exact drops
    split at goesOn
    · cases goesOn
    · rename_i open'
      cases goesOn
      exact applyResult_carried moment result endable first own (free open') (by rw [stands]; rfl)
  | failAdapter exc code saved =>
    rw [stands] at goesOn
    cases goesOn
    have past := tended.publishes.failing (by rw [stands]; rfl)
    simp only [Concludes,sessionFailed,emitTerminal,updateContext,wp_bind,wp_modify]
    generalize reported : view.withContext _ = next at reports ⊢
    have works : Keeps (Shows config Unlocked next) (failAnswered result exc code saved : Code V Bool) :=
      failAnswered_works unlocked_waiting unlocked_conflict result exc code saved fun _ => .inl (by rw [← reported]; exact past)
    exact wp_mono (concludes_unlocked works (restoring_returns saved _) reports.tended) (fun _ _ later => reports.trans later)
      fun _ _ no => no
  | segmentAdapter events deferred saved =>
    rw [stands] at goesOn
    cases goesOn
    exact segmentEnded_carried moment result events deferred saved answer tended (by rw [stands]; rfl)
  | conflictLock exc =>
    rw [stands] at goesOn
    dsimp only at goesOn
    split at goesOn
    · cases goesOn
      exact drops
    split at goesOn
    · cases goesOn
    · rename_i open'
      cases goesOn
      simp only [conflictLocked,Concludes,wp_bind,wp_get,wp_ite]
      refine ⟨fun _ => dropResult_carried result tended,fun _ => ?_⟩
      rw [← wp_bind]
      refine failing_carried endable (free open') (by rw [stands]; rfl) rfl ?_
      exact concludes_unlocked (keeps_bind setIdle_works fun _ => published_works unlocked_waiting) trivial tended
  | conflictAdapter exc =>
    rw [stands] at goesOn
    cases goesOn
    have past := tended.publishes.failing (by rw [stands]; rfl)
    simp only [Concludes,sessionFailed,emitTerminal,updateContext]
    rw [wp_bind,wp_modify]
    generalize reported : view.withContext _ = next at reports ⊢
    have works : Keeps (Shows config Unlocked next) (conflictAnswered result exc : Code V Bool) :=
      conflictAnswered_works unlocked_waiting result exc fun _ => .inl (by rw [← reported]; exact past)
    refine wp_mono (concludes_unlocked works ?_ reports.tended) (fun _ _ later => reports.trans later) fun _ _ no => no
    simp only [conflictAnswered,callProtocol,enqueueEvents,setIdle,published,updateContext,wp_bind,wp_get,wp_modify,
      wp_ofExcept,wp_when,wp_pure]
    refine ⟨fun opened => ⟨fun _ _ => trivial,fun exc raises => ?_⟩,fun _ => trivial⟩
    obtain ⟨events,answers⟩ := protocolError_ok (by simpa using opened) _ _
    rw [answers] at raises
    cases raises

end SpeechGateway.Gateway
