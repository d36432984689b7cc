import SpeechGateway.Tending

/-!
How sessions end. Results that fail, errors, aborts and `finish` all end sessions, each after
awaits of its own. Some look first whether the session has ended; an abort that waited, and a
finish, do not.
-/
namespace SpeechGateway.Gateway
open SpeechGateway.Backends SpeechGateway.Protocol SpeechGateway.Vad SpeechGateway.Sessions SpeechGateway.Scheduling
  SpeechGateway.Settlement Programs

variable {V : Type} {config : GatewayConfig V} {view : View V}

/-- The buffer reserves what the session does. -/
def Coherent (session : GatewaySession) : Prop := session.buffer.reservation = session.reservation.map (·.chunk)

section
variable {session next : GatewaySession}

theorem reserve_coherent {samples : Nat} {final : Bool} {reservation : SessionReservation}
    (reserves : session.reserve samples final = .ok (reservation,next)) : Coherent next := by
  obtain ⟨_,chunk,buffer,range,rfl,rfl⟩ := reserve_eq reserves
  obtain ⟨_,_,_,_,_,rfl⟩ := reserveRange_eq range
  rfl

theorem rollback_coherent {jobSequence : Nat} {held : Bool} (coherent : Coherent session)
    (rollsBack : session.rollback jobSequence = .ok (held,next)) : Coherent next := by
  cases found : session.reservation with
  | none =>
    simp only [GatewaySession.rollback,found] at rollsBack
    cases rollsBack
    exact coherent
  | some reservation =>
    by_cases own : reservation.jobSequence = jobSequence
    · subst own
      rw [rollback_eq coherent found] at rollsBack
      cases rollsBack
      rfl
    · simp only [GatewaySession.rollback,found,if_pos own] at rollsBack
      cases rollsBack
      exact coherent

theorem acknowledge_coherent {jobSequence generation : Nat}
    (acknowledges : session.acknowledge jobSequence generation = .ok next) : Coherent next ∧ SameLife session next := by
  unfold GatewaySession.acknowledge at acknowledges
  split at acknowledges
  · cases acknowledges
  split at acknowledges
  · cases acknowledges
  split at acknowledges
  · cases acknowledges
  rename_i reservation _ _
  cases found : session.buffer.acknowledge reservation.chunk.startSample reservation.chunk.endSample with
  | error exc => simp [found,bind,Except.bind] at acknowledges
  | ok buffer =>
    simp only [found,bind,Except.bind,Except.ok.injEq] at acknowledges
    subst acknowledges
    unfold Chunking.PcmRingBuffer.acknowledge at found
    cases range : session.buffer.requireReservation reservation.chunk.startSample reservation.chunk.endSample with
    | error exc => simp [range,bind,Except.bind] at found
    | ok chunk =>
      simp only [range,bind,Except.bind,Except.ok.injEq] at found
      rw [← found]
      exact ⟨rfl,rfl,rfl,rfl,rfl,rfl⟩

/-- A session that has not ended can be aborted, and then has. -/
theorem abort_coherent (coherent : Coherent session) (running : ended session = false) :
    ∃ next, session.abort = .ok next ∧ Coherent next ∧ next.terminalState = .aborted := by
  rcases abort_eq coherent with ⟨past,_⟩ | ⟨_,next,aborts,aborted⟩
  · rcases past with state | state <;> simp [ended,state] at running
  · refine ⟨next,aborts,?_,aborted.terminalState⟩
    rw [Coherent,aborted.buffer,aborted.reservation,Option.map_none]

end

/-- `_fail_session` has ended the session for the handler, and has still to report it. -/
def Handler.failing : Handler → Bool
  | .errorAdapter .. => true
  | _ => false

@[simp] theorem wake_failing (handler : Handler) : handler.wake.failing = handler.failing := by
  cases handler <;> rfl

/-- The `asr_session_terminal` events that calls of `_fail_session` are about to emit. -/
def SessionContext.owed (ctx : SessionContext V) : Nat := ctx.handler.failing.toNat + ctx.publication.failing.toNat

/-- A session was reported and counted at most once, and only if it has ended. -/
structure EndsOnce (ctx : SessionContext V) : Prop where
  coherent : Coherent ctx.session
  reports : ctx.terminalEvents.length + ctx.owed ≤ (ended ctx.session).toNat
  counts : ctx.cancellations ≤ (ended ctx.session).toNat

theorem EndsOnce.running {ctx : SessionContext V} (once : EndsOnce ctx) (running : ended ctx.session = false) :
    ctx.terminalEvents = [] ∧ ctx.owed = 0 ∧ ctx.cancellations = 0 := by
  have reports := once.reports
  have counts := once.counts
  rw [running,Bool.toNat_false] at reports counts
  exact ⟨List.length_eq_zero_iff.mp (by omega),by omega,by omega⟩

/-- What matters for the ending of a session only gets less. -/
theorem EndsOnce.mono {ctx later : SessionContext V} (once : EndsOnce ctx) (coherent : Coherent later.session)
    (same : ended later.session = ended ctx.session)
    (reports : later.terminalEvents.length + later.owed ≤ ctx.terminalEvents.length + ctx.owed)
    (counts : later.cancellations ≤ ctx.cancellations) : EndsOnce later where
  coherent := coherent
  reports := by
    rw [same]
    exact Nat.le_trans reports once.reports
  counts := by
    rw [same]
    exact Nat.le_trans counts once.counts

theorem EndsOnce.raised {ctx : SessionContext V} (once : EndsOnce ctx) : EndsOnce { ctx with handler := .raised } := by
  refine once.mono once.coherent rfl (Nat.add_le_add_left (Nat.add_le_add_right ?_ _) _) (Nat.le_refl _)
  exact Nat.zero_le _

/-- The publication has made its report. -/
theorem owed_paid {ctx later : SessionContext V} (handler : later.handler.failing = ctx.handler.failing)
    (publication : later.publication.failing = false) (stands : ctx.publication.failing = true) :
    later.owed + 1 ≤ ctx.owed := by
  simp only [SessionContext.owed,handler,publication,stands,Bool.toNat_false,Bool.toNat_true]
  omega

/-- After `_fail_session` ended the session it owes one report. -/
theorem EndsOnce.fails {ctx later : SessionContext V} (once : EndsOnce ctx) (running : ended ctx.session = false)
    (coherent : Coherent later.session) (gone : ended later.session = true)
    (reports : later.terminalEvents = ctx.terminalEvents) (counts : later.cancellations = ctx.cancellations)
    (owes : later.owed ≤ ctx.owed + 1) : EndsOnce later := by
  obtain ⟨none,owed,uncounted⟩ := once.running running
  refine ⟨coherent,?_,?_⟩
  · rw [reports,none,gone,List.length_nil,Bool.toNat_true]
    omega
  · rw [counts,uncounted]
    exact Nat.zero_le _

/-- A report that was owed is made. -/
theorem EndsOnce.reports_failure {ctx later : SessionContext V} (once : EndsOnce ctx) (same : later.session = ctx.session)
    (reports : later.terminalEvents = ctx.terminalEvents ++ [.failed]) (counts : later.cancellations = ctx.cancellations)
    (paid : later.owed + 1 ≤ ctx.owed) : EndsOnce later := by
  refine once.mono (same ▸ once.coherent) (by rw [same]) ?_ (Nat.le_of_eq counts)
  rw [reports,List.length_append,List.length_singleton]
  omega

section
variable {guarded hearing : Prop} {goes : Handler → Prop} {out : Publication → Prop} {start : View V}

theorem work_coherent (work : Work config guarded hearing goes out start view) (coherent : Coherent start.ctx.session) :
    Coherent view.ctx.session := by
  cases work with
  | inner same => rwa [same.session]
  | account _ accounts =>
    rw [View.withContext,Coherent,accounts.buffer,accounts.reservation]
    exact coherent
  | append _ _ appends =>
    obtain ⟨_,buffer,grown,rfl⟩ := appendPcm_eq appends
    exact (append_reservation grown).1.trans coherent
  | schedule _ _ _ reserves => exact reserve_coherent reserves
  | refuse reserves rollsBack => exact rollback_coherent (reserve_coherent reserves) rollsBack
  | _ => exact coherent

theorem Stands.failing {before handler : Handler} (stands : Stands goes before handler)
    (places : ∀ handler, goes handler → handler.failing = false) : handler.failing.toNat ≤ before.failing.toNat := by
  induction stands with
  | still => exact Nat.le_refl _
  | gone allowed =>
    rw [places _ allowed]
    exact Nat.zero_le _
  | woken _ ih => rwa [wake_failing]

/-- The reports of a session and how often it was counted. -/
theorem worked_reports (worked : Worked config guarded hearing goes out start view) :
    view.ctx.terminalEvents = start.ctx.terminalEvents ∧ view.ctx.cancellations = start.ctx.cancellations := by
  induction worked with
  | refl => exact ⟨rfl,rfl⟩
  | tail _ work ih =>
    cases work with
    | inner same => exact ⟨same.terminalEvents.trans ih.1,same.cancellations.trans ih.2⟩
    | _ => exact ih

theorem ended_of_life {session next : GatewaySession} (same : SameLife session next) : ended next = ended session := by
  rw [ended,ended,same.terminalState]

theorem worked_once (worked : Worked config guarded hearing goes out start view) (once : EndsOnce start.ctx)
    (places : ∀ handler, goes handler → handler.failing = false)
    (shows : ∀ publication, out publication → publication.failing = false) : EndsOnce view.ctx := by
  obtain ⟨reports,counts⟩ := worked_reports worked
  refine once.mono ?_ (ended_of_life (worked_life worked)) ?_ (Nat.le_of_eq counts)
  · clear reports counts
    induction worked with
    | refl => exact once.coherent
    | tail _ work ih => exact work_coherent work ih
  · rw [reports]
    refine Nat.add_le_add_left (Nat.add_le_add ((worked_handler worked).failing places) ?_) _
    rcases worked_publication worked with same | shown
    · rw [same]
    · rw [shows _ shown]
      exact Nat.zero_le _

end

/-- Whether it returns or raises, the program leaves a session that ends once. -/
abbrev Once {α : Type} (program : Code V α) (view : View V) : Prop :=
  wp program (fun _ next => EndsOnce next.ctx) (fun _ next => EndsOnce next.ctx) view

/-- As for `Once`, where an exception ends the call of the handler. -/
abbrev HandlesOnce (program : Code V Unit) (view : View V) : Prop :=
  wp program (fun _ next => EndsOnce next.ctx) (fun _ next => EndsOnce { next.ctx with handler := .raised }) view

theorem Once.handles {program : Code V Unit} (once : Once program view) : HandlesOnce program view :=
  wp_mono once (fun _ _ kept => kept) fun _ _ kept => kept.raised

/-- Where a program that only works may go. -/
abbrev Calm (config : GatewayConfig V) (start view : View V) : Prop :=
  Worked config False True (fun handler => handler.failing = false) (fun publication => publication.failing = false) start view

theorem calm_once {start : View V} (calm : Calm config start view) (once : EndsOnce start.ctx) : EndsOnce view.ctx :=
  worked_once calm once (fun _ allowed => allowed) fun _ allowed => allowed

theorem once_of_works {goes : Handler → Prop} {out : Publication → Prop} {α : Type} {program : Code V α}
    (works : Keeps (Worked config False True goes out view) program) (once : EndsOnce view.ctx)
    (places : ∀ handler, goes handler → handler.failing = false)
    (shows : ∀ publication, out publication → publication.failing = false) : Once program view :=
  wp_mono (works view .refl) (fun _ _ worked => worked_once worked once places shows)
    fun _ _ worked => worked_once worked once places shows

theorem once_of_calm (config : GatewayConfig V) {α : Type} {program : Code V α} (works : Keeps (Calm config view) program)
    (once : EndsOnce view.ctx) : Once program view :=
  once_of_works works once (fun _ allowed => allowed) fun _ allowed => allowed

theorem leadsTo_calm {call : Ingest} {handler : Handler} (leads : call.leadsTo handler) : handler.failing = false := by
  cases handler <;> first | rfl | (cases call <;> cases leads)

/-- What `_fail_session` leaves before it reports. -/
theorem failSession_spec (coherent : Coherent view.ctx.session) :
    wp (failSession : Code V Bool)
      (fun failed next => if failed = true then ended view.ctx.session = false ∧ ∃ session, Coherent session ∧
          ended session = true ∧ next.ctx = { view.ctx with session := session }
        else next.ctx = view.ctx)
      (fun _ _ => False) view := by
  simp only [failSession,cancelSession,setSession,updateContext,record,wp_bind,wp_get,wp_ite,wp_pure,wp_ofExcept,wp_modify]
  refine ⟨fun _ => by simp,fun running => ?_⟩
  have running : ended view.ctx.session = false := by simpa using running
  obtain ⟨next,aborts,kept,_⟩ := abort_coherent coherent running
  have fails : view.ctx.session.fail = .ok { next with terminalState := .failed } := by
    rw [GatewaySession.fail,aborts]
    rfl
  simp only [fails,Except.ok.injEq,reduceCtorEq,false_implies,implies_true,and_true]
  rintro _ rfl
  exact ⟨running,{ next with terminalState := .failed },kept,rfl,rfl⟩

/-- What the end of an abort leaves. -/
theorem abortSession_spec (once : EndsOnce view.ctx) (running : ended view.ctx.session = false) :
    wp (abortSession config) (fun _ next => EndsOnce next.ctx ∧ next.ctx.owed = 0) (fun _ _ => False) view := by
  obtain ⟨next,aborts,kept,state⟩ := abort_coherent once.coherent running
  obtain ⟨reports,owed,counts⟩ := once.running running
  have gone : ended next = true := by rw [ended,state]
  simp only [abortSession,setSession,emitTerminal,updateContext,record,View.withContext,wp_bind,wp_get,wp_ofExcept,
    wp_modify,aborts,Except.ok.injEq,reduceCtorEq,false_implies,implies_true,and_true]
  rintro _ rfl
  refine ⟨⟨kept,?_,?_⟩,owed⟩
  · have free : ({ view.ctx with session := next } : SessionContext V).owed = 0 := owed
    simp only [SessionContext.owed] at owed ⊢
    simp only [reports,gone,owed]
    decide
  · simp only [counts,gone]
    decide

/-! ## The handler -/

theorem goto_once {handler : Handler} (once : EndsOnce view.ctx) (calm : handler.failing = false) :
    Once (goto handler) view := by
  refine once.mono once.coherent rfl ?_ (Nat.le_refl _)
  simp [View.withContext,SessionContext.owed,calm]

theorem finish_once (once : EndsOnce view.ctx) (running : view.ctx.live = true → ended view.ctx.session = false) :
    Once (finish config) view := by
  simp only [Once,finish,requireContext,wp_bind,wp_get,wp_when,wp_throw]
  refine ⟨fun _ => once,fun live => ?_⟩
  have running : ended view.ctx.session = false := running (by simpa using live)
  have hears : Keeps (Calm config view) (finishHearing config) := finishHearing_works trivial False.elim
  refine wp_mono (hears view .refl) ?_ fun _ _ calm => calm_once calm once
  intro _ next calm
  have kept := calm_once calm once
  have still : ended next.ctx.session = false := (ended_of_life (worked_life calm)).trans running
  have same : ended next.ctx.session.requestFinish = ended next.ctx.session := by
    rw [GatewaySession.requestFinish]
    split
    · rfl
    · rw [still]
      rfl
  have coherent : Coherent next.ctx.session.requestFinish := by
    rw [GatewaySession.requestFinish]
    split <;> exact kept.coherent
  simp only [setSession,updateContext]
  exact goto_once (kept.mono coherent same (Nat.le_refl _) (Nat.le_refl _)) rfl

theorem finishAnswered_once (answer : Except PyError AdapterResult) (once : EndsOnce view.ctx)
    (running : ∀ control, answer = .ok control → ended view.ctx.session = false) :
    Once (finishAnswered config answer) view := by
  have left : ∀ (exc : PyError) (next : View V), Calm config view next → EndsOnce next.ctx :=
    fun _ _ calm => calm_once calm once
  unfold Once finishAnswered
  rw [wp_bind,wp_ofExcept]
  refine ⟨fun control answered => ?_,fun exc _ => once⟩
  have running := running control answered
  refine wp_bind_of_keeps (applyControl_works control) .refl left fun _ next calm => ?_
  refine wp_bind_of_keeps keeps_get calm left fun _ next calm => ?_
  refine wp_bind_of_keeps (callProtocol_works _) calm left fun _ next calm => ?_
  refine wp_bind_of_keeps (inner_works fun _ => by constructor <;> rfl) calm left fun _ next calm => ?_
  have kept := calm_once calm once
  have still : ended next.ctx.session = false := (ended_of_life (worked_life calm)).trans running
  obtain ⟨reports,owed,counts⟩ := kept.running still
  simp only [setSession,emitTerminal,updateContext,View.withContext,wp_bind,wp_get,wp_ofExcept,wp_modify]
  refine ⟨fun session succeeds => ?_,fun _ _ => kept⟩
  unfold GatewaySession.succeed at succeeds
  split at succeeds
  · cases succeeds
  cases succeeds
  rw [← wp_bind]
  refine once_of_calm config (show Keeps (Calm config _) _ from ?_) ⟨kept.coherent,?_,?_⟩
  · exact keeps_bind (enqueueEvents_works _ _ _ _ False.elim) fun _ => goto_works _ rfl
  · simp only [SessionContext.owed] at owed ⊢
    simp only [reports,owed]
    exact Nat.le_refl 1
  · simp only [counts]
    exact Nat.zero_le _

/-- Cancelling and waiting only moves the handler. -/
theorem cancelAndWait_once {safe : Handler} {waiting : Nat → Handler} (once : EndsOnce view.ctx)
    (standsSafe : safe.failing = false) (standsWaiting : ∀ event, (waiting event).failing = false) :
    Once (cancelAndWait safe waiting) view := by
  simp only [Once,cancelAndWait,requireContext,cancelSession,wp_bind,wp_get,wp_when,wp_throw,wp_modify]
  refine ⟨fun _ => once,fun _ => ?_⟩
  split
  · exact goto_once once standsSafe
  · exact goto_once once (standsWaiting _)

theorem errorLocked_once (exc : PyError) (code : String) (closeCode : Nat) (once : EndsOnce view.ctx) :
    Once (errorLocked exc code closeCode) view := by
  simp only [Once,errorLocked,wp_bind,wp_get,wp_ite]
  refine ⟨fun _ => goto_once once rfl,fun _ => ?_⟩
  refine wp_mono (failSession_spec once.coherent) ?_ fun _ _ no => no.elim
  intro failed next spec
  cases failed with
  | false =>
    have same : next.ctx = view.ctx := spec
    exact goto_once (same ▸ once) rfl
  | true =>
    obtain ⟨running,session,coherent,gone,same⟩ := spec
    simp only [goto,updateContext,View.withContext]
    refine once.fails running ?_ ?_ ?_ ?_ ?_ <;> simp only [same]
    · exact coherent
    · exact gone
    · simp only [SessionContext.owed,Handler.failing,Bool.toNat_true]
      omega

theorem errorReported_once (exc : PyError) (code : String) (closeCode : Nat) (once : EndsOnce view.ctx)
    (stands : view.ctx.handler.failing = true) :
    HandlesOnce (do sessionFailed; errorAnswered exc code closeCode) view := by
  have reported : ∀ (handler : Handler) (protocol : ProtocolSession) (events : List OutboundEvent), handler.failing = false →
      EndsOnce { view.ctx with
        handler := handler, protocol := protocol, events := events, terminalEvents := view.ctx.terminalEvents ++ [.failed] } := by
    intro handler protocol events calm
    refine once.reports_failure rfl rfl rfl ?_
    simp only [SessionContext.owed,calm,stands,Bool.toNat_false,Bool.toNat_true]
    omega
  simp only [HandlesOnce,sessionFailed,emitTerminal,errorAnswered,callProtocol,enqueueEvents,goto,updateContext,View.withContext,
    wp_bind,wp_get,wp_modify,wp_ofExcept]
  exact ⟨fun _ _ => reported _ _ _ rfl,fun _ _ => reported _ _ _ rfl⟩

theorem abortSafe_once (once : EndsOnce view.ctx) (running : ended view.ctx.session = false) :
    Once (abortSafe config) view := by
  unfold Once abortSafe
  rw [wp_bind]
  refine wp_mono (abortSession_spec once running) ?_ fun _ _ no => no.elim
  rintro _ next ⟨kept,_⟩
  exact goto_once kept rfl

/-- The client's handler ends the session, or has it finish, without asking whether it has ended. -/
def blindCommand (view : View V) : Command → Bool
  | .finish => view.ctx.live && decide (view.ctx.handler = .ready)
  | .abort => view.ctx.live && decide (view.ctx.handler = .ready) && (safeEvent view).isNone
  | _ => false

theorem command_once {call : Command} {program : Code V Unit} (once : EndsOnce view.ctx)
    (blind : blindCommand view call = true → ended view.ctx.session = false)
    (issued : command config view.ctx.handler call = some program) : HandlesOnce program view := by
  have moves : ∀ handler : Handler, handler.failing = false →
      HandlesOnce (do requireContext; goto handler) view := fun handler calm =>
    (once_of_calm config (keeps_bind requireContext_works fun _ => goto_works _ calm) once).handles
  cases stands : view.ctx.handler <;> cases call <;> simp only [command,stands,reduceCtorEq,Option.some.injEq] at issued <;>
    subst issued
  case ready.ingest => exact moves _ rfl
  case ready.segment => exact moves _ rfl
  case ready.finish => exact (finish_once once fun live => blind (by simp [blindCommand,live,stands])).handles
  case ready.error | raised.error => exact (cancelAndWait_once once rfl fun _ => rfl).handles
  case ready.abort =>
    refine Once.handles ?_
    simp only [Once,requireContext,cancelSession,wp_bind,wp_get,wp_when,wp_throw,wp_modify]
    refine ⟨fun _ => once,fun live => ?_⟩
    split
    · rename_i safe
      have unsafe' : safeEvent view = none := safe
      exact abortSafe_once once (blind (by simp_all [blindCommand]))
    · exact goto_once once rfl

/-- The handler that goes on ends the session without asking whether it has ended. -/
def blindInput : Handler → Input → Bool
  | .abortSafe _, .go | .finishAdapter, .answer (.ok _) => true
  | _, _ => false

theorem proceed_once {moment : Moment} {input : Input} {program : Code V Unit} (once : EndsOnce view.ctx)
    (blind : blindInput view.ctx.handler input = true → ended view.ctx.session = false)
    (goesOn : proceed config moment view input = some program) : HandlesOnce program view := by
  have calm : ∀ {program : Code V Unit}, Keeps (Calm config view) program → HandlesOnce program view :=
    fun works => (once_of_calm config works once).handles
  have hears : ∀ {call : Ingest} {program : Code V Unit},
      Keeps (Worked config False True call.leadsTo (fun publication => publication.failing = false) view) program →
        HandlesOnce program view :=
    fun works => (once_of_works works once (fun _ => leadsTo_calm) fun _ allowed => allowed).handles
  cases stands : view.ctx.handler <;> cases input <;>
    simp only [proceed,stands,reduceCtorEq,Option.some.injEq,Option.ite_none_left_eq_some,
      Option.ite_none_right_eq_some] at goesOn
  case starting.go =>
    obtain ⟨_,rfl⟩ := goesOn
    exact calm (enqueueReady_works rfl)
  case ingestLock.go call =>
    obtain ⟨_,rfl⟩ := goesOn
    exact hears (ingestLocked_works moment call (.inr ⟨trivial,False.elim⟩))
  case ingestAccept.go pcm force =>
    subst goesOn
    exact hears (keeps_bind (checkDeadlines_works _) fun _ => ingestAccept_works moment pcm force trivial False.elim)
  case ingestAppend.go pcm force decision =>
    subst goesOn
    exact hears (keeps_bind (checkDeadlines_works _) fun _ => ingestAppend_works moment pcm force trivial False.elim decision)
  case ingestAccept.timeout | ingestAppend.timeout =>
    subst goesOn
    exact calm (keeps_throw _)
  case segmentIdle.go | finishIdle.go =>
    obtain ⟨_,rfl⟩ := goesOn
    exact calm (goto_works _ rfl)
  case segmentLock.go | finishLock.go =>
    obtain ⟨_,rfl⟩ := goesOn
    simp only [HandlesOnce,record,wp_bind,wp_get,wp_modify]
    exact (goto_once once rfl).handles
  case segmentAdapter.answer reply =>
    subst goesOn
    exact calm (segmentAnswered_works reply rfl)
  case finishAdapter.answer reply =>
    subst goesOn
    refine (finishAnswered_once reply once ?_).handles
    rintro control rfl
    exact blind (by rw [stands]; rfl)
  case errorSafe.go =>
    obtain ⟨_,rfl⟩ := goesOn
    exact calm (goto_works _ rfl)
  case errorLock.go =>
    obtain ⟨_,rfl⟩ := goesOn
    exact (errorLocked_once _ _ _ once).handles
  case errorAdapter.answer =>
    subst goesOn
    exact errorReported_once _ _ _ once (by rw [stands]; rfl)
  case abortSafe.go =>
    obtain ⟨_,rfl⟩ := goesOn
    exact (abortSafe_once once (blind (by rw [stands]; rfl))).handles
  case abortAdapter.answer reply =>
    subst goesOn
    exact calm (abortAnswered_works reply False.elim rfl)

theorem releaseSession_once (once : EndsOnce view.ctx) : Once (releaseSession : Code V Unit) view := by
  have coherent : Coherent view.ctx.session.close ∧ ended view.ctx.session.close = ended view.ctx.session := by
    rw [GatewaySession.close]
    split <;> exact ⟨once.coherent,rfl⟩
  simp only [Once,releaseSession,updateContext,wp_bind,wp_get,wp_when,wp_modify]
  exact ⟨fun _ => once.mono coherent.1 coherent.2 (Nat.le_refl _) (Nat.le_refl _),fun _ => once⟩

theorem abortTaskSafe_once (once : EndsOnce view.ctx) (running : ended view.ctx.session = false) :
    Once (abortTaskSafe config) view := by
  unfold Once abortTaskSafe
  rw [wp_bind]
  refine wp_mono (abortSession_spec once running) ?_ fun _ _ no => no.elim
  rintro _ next ⟨kept,_⟩
  exact kept.mono kept.coherent rfl (Nat.le_refl _) (Nat.le_refl _)

theorem abort_once (once : EndsOnce view.ctx) : Once (abort config) view := by
  simp only [Once,abort,cancelSession,wp_bind,wp_get,wp_ite,wp_modify,wp_pure]
  refine ⟨fun _ => once,fun _ => ⟨fun _ => releaseSession_once once,fun running => ?_⟩⟩
  split
  · exact abortTaskSafe_once once (by simpa using running)
  · exact once.mono once.coherent rfl (Nat.le_refl _) (Nat.le_refl _)

theorem resumeAbort_once {task : AbortTask} {program : Code V Unit} (once : EndsOnce view.ctx)
    (running : ∀ event, task = .safe event → ended view.ctx.session = false)
    (resumes : resumeAbort config view task = some program) : Once program view := by
  unfold resumeAbort at resumes
  split at resumes
  · cases resumes
  have left : EndsOnce (view.withContext fun ctx => { ctx with aborts := ctx.aborts.erase task }).ctx :=
    once.mono once.coherent rfl (Nat.le_refl _) (Nat.le_refl _)
  cases task with
  | safe event =>
    dsimp only at resumes
    split at resumes
    · cases resumes
      exact abortTaskSafe_once left (running event rfl)
    · cases resumes
  | adapter =>
    cases resumes
    exact releaseSession_once left

theorem send_once {program : Code V Unit} (once : EndsOnce view.ctx) (sends : send view = some program) :
    Once program view := by
  unfold send at sends
  split at sends
  · cases sends
  split at sends
  · cases sends
  rename_i event _
  cases sends
  refine (?_ : Keeps (fun view : View V => EndsOnce view.ctx) _) view once
  refine keeps_bind (keeps_modify fun _ once => once.mono once.coherent rfl (Nat.le_refl _) (Nat.le_refl _)) fun _ => ?_
  refine keeps_bind (keeps_when fun _ => ?_) fun _ => keeps_when fun _ _ once => releaseSession_once once
  cases event.jobId with
  | none => exact keeps_pure _
  | some jobId => exact keeps_modify fun _ once => once

theorem cleanupJob_once (job : InferenceJob) (once : EndsOnce view.ctx) : Once (cleanupJob job) view := by
  simp only [Once,cleanupJob,updateContext,wp_bind,wp_get,wp_when,wp_throw,wp_ofExcept,wp_modify]
  refine ⟨fun _ => once,fun _ => ⟨fun session acknowledges => ?_,fun _ _ => once⟩⟩
  obtain ⟨coherent,same⟩ := acknowledge_coherent acknowledges
  exact once.mono coherent (ended_of_life same) (Nat.le_refl _) (Nat.le_refl _)

theorem rejectJob_once (job : InferenceJob) (once : EndsOnce view.ctx) : Once (rejectJob job) view := by
  simp only [Once,rejectJob,discardTimeline,setSession,updateContext,wp_bind,wp_get,wp_when,wp_throw,wp_ofExcept,wp_modify]
  refine ⟨fun _ => ⟨?_,fun _ _ => once⟩,fun _ => once⟩
  rintro ⟨held,session⟩ rollsBack
  have kept : EndsOnce { view.ctx with session := session } :=
    once.mono (rollback_coherent once.coherent rollsBack) (ended_of_life (rollback_life rollsBack)) (Nat.le_refl _)
      (Nat.le_refl _)
  exact ⟨fun _ => kept,fun _ => kept⟩

/-- A publication that may fail the session, and otherwise goes on with `later`. -/
theorem failing_once (config : GatewayConfig V) {publication : Publication} {later : Code V Bool} (once : EndsOnce view.ctx)
    (works : ∀ {view : View V}, Keeps (Calm config view) later) :
    Once (do if ← failSession then suspend publication else later) view := by
  rw [Once,wp_bind]
  refine wp_mono (failSession_spec once.coherent) ?_ fun _ _ no => no.elim
  intro failed next spec
  cases failed with
  | false =>
    have same : next.ctx = view.ctx := spec
    exact once_of_calm config works (same ▸ once)
  | true =>
    obtain ⟨running,session,coherent,gone,same⟩ := spec
    refine once.fails running ?_ ?_ ?_ ?_ ?_ <;> simp only [View.withContext,same]
    · exact coherent
    · exact gone
    · have : publication.failing.toNat ≤ 1 := Bool.toNat_le _
      simp only [SessionContext.owed]
      omega

theorem dropResult_calm (result : InferenceResult) : Keeps (Calm config view) (dropResult result : Code V Bool) := by
  refine dropResult_works ?_ result
  rfl

theorem applyResultLocked_once (moment : Moment) (result : InferenceResult) (saved : Saved) (once : EndsOnce view.ctx) :
    Once (applyResultLocked config moment result saved) view := by
  have fails : ∀ exc code, Once (failResult result saved exc code) view :=
    fun _ _ => failing_once config once (dropResult_calm result)
  simp only [Once,applyResultLocked,wp_bind,wp_get,wp_ite]
  refine ⟨fun _ => fails _ _,fun _ => ⟨fun _ => fails _ _,fun _ => ?_⟩⟩
  split
  · exact fails _ _
  · refine once_of_calm config (acceptResult_works ?_ moment result saved (fun _ _ => ?_) False.elim) once
    · rfl
    · rfl

theorem applyResult_once (moment : Moment) (result : InferenceResult) (once : EndsOnce view.ctx) :
    Once (applyResult config moment result) view := by
  simp only [Once,applyResult,wp_bind,wp_get,wp_ite]
  refine ⟨fun _ => once_of_calm config (dropResult_calm result) once,fun _ => ?_⟩
  rw [restoring,wp_tryCatch]
  refine wp_mono (applyResultLocked_once moment result _ once) (fun _ _ kept => kept) fun exc next kept => ?_
  refine once_of_calm config ?_ kept
  exact keeps_bind (inner_works fun _ => by constructor <;> rfl) fun _ => suspend_works _ rfl

theorem failReported_once (result : InferenceResult) (exc : PyError) (code : String) (saved : Saved)
    (once : EndsOnce view.ctx) (stands : view.ctx.publication.failing = true) :
    Once (do sessionFailed; failAnswered result exc code saved) view := by
  simp only [Once,sessionFailed,emitTerminal,failAnswered,restoring,callProtocol,enqueueEvents,setIdle,published,suspend,
    updateContext,View.withContext,wp_bind,wp_tryCatch,wp_get,wp_modify,wp_ofExcept,wp_pure]
  exact ⟨fun _ _ => once.reports_failure rfl rfl rfl (owed_paid (wake_failing _) rfl stands),
    fun _ _ => once.reports_failure rfl rfl rfl (owed_paid rfl rfl stands)⟩

/-- An open protocol session can always report an error. -/
theorem protocolError_ok {protocol : ProtocolSession} (opened : protocol.terminal = false) (exc : PyError) (code : String) :
    ∃ events, (protocol.error exc code).1 = .ok events := by
  simp [ProtocolSession.error,opened]

theorem conflictReported_once (result : InferenceResult) (exc : PyError) (once : EndsOnce view.ctx)
    (stands : view.ctx.publication.failing = true) :
    Once (do sessionFailed; conflictAnswered result exc : Code V Bool) view := by
  simp only [Once,sessionFailed,emitTerminal,conflictAnswered,callProtocol,enqueueEvents,setIdle,published,
    updateContext,View.withContext,wp_bind,wp_get,wp_modify,wp_ofExcept,wp_when,wp_pure]
  refine ⟨fun opened => ⟨fun _ _ => once.reports_failure rfl rfl rfl (owed_paid (wake_failing _) rfl stands),
    fun exc raises => ?_⟩,fun _ => once.reports_failure rfl rfl rfl (owed_paid (wake_failing _) rfl stands)⟩
  obtain ⟨events,answers⟩ := protocolError_ok (by simpa using opened) _ _
  rw [answers] at raises
  cases raises

theorem publishResult_once {moment : Moment} {result : InferenceResult} {answer : Except PyError AdapterResult}
    {program : Code V Bool} (once : EndsOnce view.ctx)
    (goesOn : publishResult config moment view result answer = some program) : Once program view := by
  have drops : Once (do discardTimeline result.jobId; published : Code V Bool) view :=
    once_of_calm config (keeps_bind (discardTimeline_works _) fun _ => published_works (by rfl)) once
  unfold publishResult at goesOn
  cases stands : view.ctx.publication with
  | waiting =>
    rw [stands] at goesOn
    dsimp only at goesOn
    split at goesOn
    · cases goesOn
      exact drops
    split at goesOn
    · cases goesOn
    · cases goesOn
      exact applyResult_once moment result once
  | failAdapter exc code saved =>
    rw [stands] at goesOn
    cases goesOn
    exact failReported_once result exc code saved once (by rw [stands]; rfl)
  | segmentAdapter events deferred saved =>
    rw [stands] at goesOn
    cases goesOn
    have works : wp (segmentEnded config moment result events deferred saved answer) (fun _ => Calm config view)
        (fun _ => Calm config view) view := by
      refine segmentEnded_works trivial ?_ (fun _ => ?_) moment result events deferred saved answer False.elim
      · rfl
      · rfl
    exact wp_mono works (fun _ _ calm => calm_once calm once) fun _ _ calm => calm_once calm once
  | conflictLock exc =>
    rw [stands] at goesOn
    dsimp only at goesOn
    split at goesOn
    · cases goesOn
      exact drops
    split at goesOn
    · cases goesOn
    · cases goesOn
      simp only [conflictLocked,Once,wp_bind,wp_get,wp_ite]
      refine ⟨fun _ => once_of_calm config (dropResult_calm result) once,fun _ => ?_⟩
      rw [← wp_bind]
      refine failing_once config once (keeps_bind setIdle_works fun _ => published_works ?_)
      rfl
  | conflictAdapter exc =>
    rw [stands] at goesOn
    cases goesOn
    exact conflictReported_once result exc once (by rw [stands]; rfl)

/-! ## The gateway -/

/-- No step ends a session that has ended: an abort that the client asks for or that has waited,
    a `finish`, and the answer to one all meet a session that still runs. -/
def Unended (runtime : GatewayRuntime V) : GatewayAction → Prop
  | .command sessionId call => ∀ view ∈ runtime.view sessionId, blindCommand view call = true → ended view.ctx.session = false
  | .proceed sessionId input _ =>
    ∀ view ∈ runtime.view sessionId, blindInput view.ctx.handler input = true → ended view.ctx.session = false
  | .resumeAbort sessionId (.safe _) => ∀ view ∈ runtime.view sessionId, ended view.ctx.session = false
  | _ => True

instance (runtime : GatewayRuntime V) (action : GatewayAction) : Decidable (Unended runtime action) :=
  match action with
  | .command .. | .proceed .. | .resumeAbort _ (.safe _) => inferInstanceAs (Decidable (∀ _ ∈ _, _))
  | .resumeAbort _ .adapter | .openSession .. | .abort _ | .send _ | .runOnce .. | .submitted .. | .hook .. | .publish ..
  | .closeScheduler => .isTrue trivial

theorem awaitedHook_once {stage : Stage} {sessionId : SessionId} {program : Code V Unit}
    (awaits : awaitedHook stage = some (some (sessionId,program))) (once : EndsOnce view.ctx) : Once program view := by
  have discards : ∀ jobId, Once (discardTimeline jobId : Code V Unit) view := fun _ => once
  cases stage <;> simp only [awaitedHook,Option.some.injEq,Prod.mk.injEq,reduceCtorEq] at awaits <;>
    obtain ⟨-,rfl⟩ := awaits
  case cleanup => exact cleanupJob_once _ once
  case rejectExpired | rejectCancelled | drainReject => exact rejectJob_once _ once
  case discard | drainDiscard => exact discards _

theorem moves_once {runtime : GatewayRuntime V} {action : GatewayAction} {sessionId : SessionId} {before after : View V}
    (unended : Unended runtime action) (moves : Moves config runtime action sessionId before after)
    (once : EndsOnce before.ctx) : EndsOnce after.ctx := by
  cases moves with
  | command found issued => exact runHandler_of_wp (command_once once (unended _ found) issued)
  | proceed found goesOn => exact runHandler_of_wp (proceed_once once (unended _ found) goesOn)
  | abort found => exact runTask_of_wp (abort_once once)
  | resumeAbort found resumes =>
    refine runTask_of_wp (resumeAbort_once once ?_ resumes)
    rintro event rfl
    exact unended _ found
  | send found sends => exact runTask_of_wp (send_once once sends)
  | hook awaits found => exact outcome_of_wp (awaitedHook_once awaits once)
  | publish publishes found goesOn => exact outcome_of_wp (publishResult_once once goesOn)

theorem openContext_once (sessionId : SessionId) (worker : WorkerId) (backendSessionId language : Text)
    (options : SessionOptions) (now : Time) :
    EndsOnce (openContext config sessionId worker backendSessionId language options now) :=
  ⟨rfl,Nat.le_refl 0,Nat.le_refl 0⟩

/-- In a run whose steps end no session that has ended, each session is reported at most once
    and counted at most once. -/
theorem terminal_once {actions : List GatewayAction} {runtime : GatewayRuntime V} (reached : Reached config actions runtime)
    (unended : Machine.Along (GatewayRuntime.step config) Unended .init actions) {sessionId : SessionId}
    {ctx : SessionContext V} (found : runtime.contexts sessionId = some ctx) :
    ctx.terminalEvents.length ≤ 1 ∧ ctx.cancellations ≤ 1 := by
  have all : ∀ sessionId ctx, runtime.contexts sessionId = some ctx → EndsOnce ctx := by
    refine Machine.invariant_along (GatewayRuntime.step config)
      (fun runtime => ∀ sessionId ctx, runtime.contexts sessionId = some ctx → EndsOnce ctx) ?_ ?_ unended reached
    · intro runtime action next holds unended stepped
      exact contexts_step openContext_once (fun _ _ _ moves once => moves_once unended moves once) holds stepped
    · intro sessionId ctx found
      cases found
  have once := all sessionId ctx found
  have one : (ended ctx.session).toNat ≤ 1 := Bool.toNat_le _
  exact ⟨by have := once.reports; omega,Nat.le_trans once.counts one⟩

/-- A detector that discards all it hears. -/
def deaf : Detector Unit where
  initial := ()
  addAudio _ pcm := .ok ({ discardedSamples := sampleCount pcm },())
  endpointFinalized _ := ({},())
  finishInput _ := ({},())
  reset _ := ()
  held _ := 0
  initial_held := rfl
  addAudio_conserves heard := by
    cases heard
    simp [VADDecision.samples,sampleCount]
  endpointFinalized_conserves _ := rfl
  finishInput_conserves _ := rfl
  finishInput_held _ := rfl
  addAudio_whole heard := by
    cases heard
    rfl
  endpointFinalized_whole _ := rfl
  finishInput_whole _ := rfl
  reset_held _ := rfl

/-- A gateway whose one worker takes one job at a time and leaves no endpoints to it. -/
def smallGateway : GatewayConfig Unit where
  scheduler := Accounts.exampleConfig
  chars := ascii
  detector := deaf
  measuresSegments _ := false
  rollingBatch := false
  defaultUpdateMs := 1
  maxSessionBufferSamples := 4
  maxAudioSeconds := 1
  maxSessionSeconds := 1
  maxUndecodedAgeSeconds := 1
  maxConnectionLagSeconds := 1
  streamQueueTimeoutSeconds := 1

/-- The result of the first job of the session `s`. -/
def firstResult : InferenceResult where
  jobId := "s:1:1".toList
  sessionId := ['s']
  generation := 1
  jobSequence := 1
  workerId := ['w']
  startSample := 0
  endSample := 1
  text := []

/-- The client aborts while a job of its session is submitted. -/
def clientAborts : List GatewayAction :=
  [.openSession ['s'] ['w'] [] [] ⟨[],false,[],[]⟩ 0,.proceed ['s'] .go ⟨0,.ok 0⟩,
    .command ['s'] (.ingest [0,0] true),.proceed ['s'] .go ⟨0,.ok 0⟩,.runOnce ['w'] true 0,
    .command ['s'] .abort,.submitted ['w'] (.results [some firstResult]) 0,.hook ['w'] 0,.hook ['w'] 0,
    .proceed ['s'] .go ⟨0,.ok 0⟩]

theorem client_abort_reported : ∃ runtime ctx, Reached smallGateway clientAborts runtime ∧
    runtime.contexts ['s'] = some ctx ∧ ctx.terminalEvents.length ≤ 1 ∧ ctx.cancellations ≤ 1 := by
  have ran : ((Machine.run (GatewayRuntime.step smallGateway) .init clientAborts).bind fun runtime =>
      runtime.contexts ['s']).isSome = true := by decide +kernel
  have checked : Machine.check (GatewayRuntime.step smallGateway) (fun runtime action => decide (Unended runtime action))
      .init clientAborts = true := by decide +kernel
  obtain ⟨ctx,found⟩ := Option.isSome_iff_exists.mp ran
  obtain ⟨runtime,reached,known⟩ := Option.bind_eq_some_iff.mp found
  have unended := (Machine.along_of_check _ checked).mono _ fun _ _ => of_decide_eq_true
  exact ⟨runtime,ctx,reached,known,terminal_once reached unended known⟩

/-- While a job of the session is submitted the client aborts, and its connection is lost. Both
    aborts wait for the job, and both then end the session. -/
def overlappingAborts : List GatewayAction :=
  [.openSession ['s'] ['w'] [] [] ⟨[],false,[],[]⟩ 0,.proceed ['s'] .go ⟨0,.ok 0⟩,
    .command ['s'] (.ingest [0,0] true),.proceed ['s'] .go ⟨0,.ok 0⟩,.runOnce ['w'] true 0,
    .command ['s'] .abort,.abort ['s'],.submitted ['w'] (.results [some firstResult]) 0,.hook ['w'] 0,.hook ['w'] 0,
    .proceed ['s'] .go ⟨0,.ok 0⟩,.resumeAbort ['s'] (.safe 0)]

theorem overlapping_aborts_report_twice : ∃ runtime ctx, Reached smallGateway overlappingAborts runtime ∧
    runtime.contexts ['s'] = some ctx ∧ ctx.terminalEvents = [.aborted,.aborted] ∧ ctx.cancellations = 2 := by
  have ran : ((Machine.run (GatewayRuntime.step smallGateway) .init overlappingAborts).bind fun runtime =>
      (runtime.contexts ['s']).map fun ctx => (ctx.terminalEvents,ctx.cancellations)) =
        some ([.aborted,.aborted],2) := by decide +kernel
  obtain ⟨runtime,reached,found⟩ := Option.bind_eq_some_iff.mp ran
  obtain ⟨ctx,known,seen⟩ := Option.map_eq_some_iff.mp found
  obtain ⟨reports,counts⟩ := Prod.mk.inj seen
  exact ⟨runtime,ctx,reached,known,reports,counts⟩

end SpeechGateway.Gateway
