import SpeechGateway.Delivery

/-!
How large the jobs are. `_schedule_next` computes how many samples a job may take, but
`ready_samples` reads a maximum of zero as no maximum, and ignores a negative one: a job is
within the limits exactly where the segment has room at all (`jobs_fit_iff`).
-/
namespace SpeechGateway.Gateway
open SpeechGateway.Backends SpeechGateway.Protocol SpeechGateway.Vad SpeechGateway.Sessions SpeechGateway.Scheduling
  SpeechGateway.Settlement Programs

variable {V : Type} {config : GatewayConfig V} {moment : Moment} {uttered : Nat} {start view : View V}

/-- A job of so many samples stays within the input limit, within what is left of a segment of which
    `uttered` samples are decoded, and within what the adapter allows. -/
structure Fits (config : GatewayConfig V) (worker : WorkerId) (moment : Moment) (uttered samples : Nat) : Prop where
  positive : 0 < samples
  input : samples ≤ (config.scheduler.capabilities worker).maxInputSamples
  segment : uttered + samples ≤ (config.scheduler.capabilities worker).maxSegmentSamples
  adapter : config.measuresSegments worker = true → ∀ answer, moment.remaining = .ok answer → (samples : Int) ≤ answer

/-- The segment has room for more, and so says the adapter. -/
structure HasRoom (config : GatewayConfig V) (worker : WorkerId) (moment : Moment) (uttered : Nat) : Prop where
  segment : uttered < (config.scheduler.capabilities worker).maxSegmentSamples
  adapter : config.measuresSegments worker = true → ∀ answer, moment.remaining = .ok answer → 0 < answer

theorem readySamples_le {session : GatewaySession} {preferred : Nat} {maximum : Int} {force : Bool} (positive : 0 < maximum) :
    (session.readySamples preferred maximum force : Int) ≤ maximum := by
  unfold GatewaySession.readySamples
  dsimp only
  split_ifs <;> omega

section
variable {ctx : SessionContext V} {remaining : Int}

/-- What the segment has left, and what the adapter answers where it is asked. -/
theorem segmentRemaining_eq (measured : segmentRemaining config moment ctx = .ok remaining) :
    let worker := ctx.session.selectedWorkerId
    let left : Int := (config.scheduler.capabilities worker).maxSegmentSamples - ctx.utteranceSamples
    config.measuresSegments worker = false ∧ remaining = left ∨
      config.measuresSegments worker = true ∧ ∃ answer, moment.remaining = .ok answer ∧ remaining = min left answer := by
  unfold segmentRemaining at measured
  dsimp only at measured ⊢
  split at measured
  · rename_i measures
    cases answered : moment.remaining with
    | error exc =>
      rw [answered] at measured
      cases measured
    | ok answer =>
      rw [answered] at measured
      cases measured
      exact .inr ⟨measures,answer,rfl,rfl⟩
  · rename_i measures
    cases measured
    exact .inl ⟨by simpa using measures,rfl⟩

theorem hasRoom_iff (measured : segmentRemaining config moment ctx = .ok remaining) :
    HasRoom config ctx.session.selectedWorkerId moment ctx.utteranceSamples ↔ 0 < remaining := by
  rcases segmentRemaining_eq measured with ⟨free,rfl⟩ | ⟨measures,answer,answered,rfl⟩
  · constructor
    · rintro ⟨segment,_⟩
      omega
    · exact fun room => ⟨by omega,fun measures => by rw [free] at measures; cases measures⟩
  · constructor
    · rintro ⟨segment,adapter⟩
      have := adapter measures answer answered
      omega
    · refine fun room => ⟨by omega,fun _ other again => ?_⟩
      cases answered.symm.trans again
      omega

theorem fits_iff (measured : segmentRemaining config moment ctx = .ok remaining) (samples : Nat) :
    Fits config ctx.session.selectedWorkerId moment ctx.utteranceSamples samples ↔ 0 < samples ∧
      (samples : Int) ≤ min ((config.scheduler.capabilities ctx.session.selectedWorkerId).maxInputSamples : Int) remaining := by
  rcases segmentRemaining_eq measured with ⟨free,rfl⟩ | ⟨measures,answer,answered,rfl⟩
  · constructor
    · rintro ⟨positive,input,segment,_⟩
      omega
    · rintro ⟨positive,limit⟩
      exact ⟨positive,by omega,by omega,fun measures => by rw [free] at measures; cases measures⟩
  · constructor
    · rintro ⟨positive,input,segment,adapter⟩
      have := adapter measures answer answered
      omega
    · rintro ⟨positive,limit⟩
      refine ⟨positive,by omega,by omega,fun _ other again => ?_⟩
      cases answered.symm.trans again
      omega

/-- What the call takes is within the limits exactly where there is room. -/
theorem nextCount_fits {force : Bool} (measured : segmentRemaining config moment ctx = .ok remaining)
    (some : nextCount config ctx.session remaining force ≠ 0) :
    Fits config ctx.session.selectedWorkerId moment ctx.utteranceSamples (nextCount config ctx.session remaining force) ↔
      HasRoom config ctx.session.selectedWorkerId moment ctx.utteranceSamples := by
  rw [fits_iff measured,hasRoom_iff measured]
  have input := (config.scheduler.capabilities ctx.session.selectedWorkerId).maxInputPositive
  constructor
  · rintro ⟨positive,limit⟩
    omega
  · intro room
    refine ⟨Nat.pos_of_ne_zero some,readySamples_le ?_⟩
    omega

end

/-- The session has the same segment, and nothing is enqueued. -/
structure Aside (view next : View V) : Prop where
  sessionId : next.ctx.session.sessionId = view.ctx.session.sessionId
  worker : next.ctx.session.selectedWorkerId = view.ctx.session.selectedWorkerId
  uttered : next.ctx.utteranceSamples = view.ctx.utteranceSamples
  queues : next.scheduler.queues = view.scheduler.queues

/-- So far, and the segment has `uttered` samples. -/
structure Ready (uttered : Nat) (start view : View V) : Prop where
  sessionId : view.ctx.session.sessionId = start.ctx.session.sessionId
  worker : view.ctx.session.selectedWorkerId = start.ctx.session.selectedWorkerId
  uttered : view.ctx.utteranceSamples = uttered
  queues : view.scheduler.queues = start.scheduler.queues

/-- The queues are as they were. -/
def Unfed (start view : View V) : Prop := view.scheduler.queues = start.scheduler.queues

/-- Every job in a queue was there before, or belongs to the session, whose segment has `uttered` samples, and is within
    the limits exactly where there was room. -/
def Grown (config : GatewayConfig V) (moment : Moment) (uttered : Nat) (start view : View V) : Prop :=
  ∀ worker, ∀ job ∈ view.scheduler.queues worker, job ∈ start.scheduler.queues worker ∨
    job.sessionId = start.ctx.session.sessionId ∧ view.ctx.utteranceSamples = uttered ∧
      (Fits config worker moment uttered job.sampleCount ↔ HasRoom config worker moment uttered)

/-- What only looks at the session's segment and the queues. -/
def Blind (inv : View V → Prop) : Prop := ∀ view next, Aside view next → inv view → inv next

/-- What only looks at the samples uttered and the queues. -/
def Loose (inv : View V → Prop) : Prop :=
  ∀ view next : View V, next.ctx.utteranceSamples = view.ctx.utteranceSamples →
    next.scheduler.queues = view.scheduler.queues → inv view → inv next

theorem Loose.blind {inv : View V → Prop} (loose : Loose inv) : Blind inv :=
  fun view next aside holds => loose view next aside.uttered aside.queues holds

theorem ready_blind : Blind (Ready uttered start) := fun _ _ aside ready =>
  ⟨aside.sessionId.trans ready.sessionId,aside.worker.trans ready.worker,aside.uttered.trans ready.uttered,
    aside.queues.trans ready.queues⟩

theorem unfed_loose : Loose (Unfed start) := fun _ _ _ same unfed => same.trans unfed

theorem grown_loose : Loose (Grown config moment uttered start) := by
  intro view next same queues grown worker job member
  rw [queues] at member
  rw [same]
  exact grown worker job member

theorem Ready.grown {known : Nat} (ready : Ready known start view) : Grown config moment uttered start view :=
  fun _ _ member => .inl (ready.queues ▸ member)

section
variable {inv : View V → Prop} (blind : Blind inv)
include blind

theorem modify_blind {change : View V → View V} (aside : ∀ view, Aside view (change view)) :
    Keeps inv (modify change : Code V Unit) :=
  keeps_modify fun view holds => blind view _ (aside view) holds

theorem context_blind {change : SessionContext V → SessionContext V} (session : ∀ ctx, (change ctx).session = ctx.session)
    (same : ∀ ctx, (change ctx).utteranceSamples = ctx.utteranceSamples) : Keeps inv (updateContext change) :=
  modify_blind blind fun view =>
    ⟨congrArg GatewaySession.sessionId (session view.ctx),congrArg GatewaySession.selectedWorkerId (session view.ctx),
      same view.ctx,rfl⟩

theorem goto_blind (handler : Handler) : Keeps inv (goto handler : Code V Unit) :=
  context_blind blind (fun _ => rfl) fun _ => rfl

theorem setIdle_blind : Keeps inv (setIdle : Code V Unit) := context_blind blind (fun _ => rfl) fun _ => rfl

theorem record_blind (call : AdapterCall) : Keeps inv (record call : Code V Unit) :=
  modify_blind blind fun _ => ⟨rfl,rfl,rfl,rfl⟩

theorem discardTimeline_blind (jobId : Text) : Keeps inv (discardTimeline jobId : Code V Unit) :=
  modify_blind blind fun _ => ⟨rfl,rfl,rfl,rfl⟩

theorem cancelSession_blind : Keeps inv (cancelSession : Code V Unit) :=
  modify_blind blind fun _ => ⟨rfl,rfl,rfl,rfl⟩

theorem emitTerminal_blind (state : TerminalState) : Keeps inv (emitTerminal state : Code V Unit) :=
  context_blind blind (fun _ => rfl) fun _ => rfl

omit blind in
theorem requireContext_blind : Keeps inv (requireContext : Code V Unit) :=
  keeps_bind keeps_get fun _ => keeps_when fun _ => keeps_throw _

theorem callProtocol_blind (call : ProtocolSession → Protocol.Reply) :
    Keeps inv (callProtocol call : Code V (List WireEvent)) :=
  keeps_bind keeps_get fun _ => keeps_bind (context_blind blind (fun _ => rfl) fun _ => rfl) fun _ => keeps_ofExcept _

theorem enqueueEvents_blind (events : List WireEvent) (jobId : Option Text) (terminal : Bool) (closeCode : Option Nat) :
    Keeps inv (enqueueEvents events jobId terminal closeCode : Code V Unit) :=
  context_blind blind (fun _ => rfl) fun _ => rfl

theorem appendPcm_blind (pcm : Pcm) (countAccepted : Bool) : Keeps inv (appendPcm pcm countAccepted : Code V Unit) := by
  intro view holds
  simp only [appendPcm,updateContext,wp_bind,wp_get]
  refine accountFor_wp (fun session appends => ?_) fun _ _ => blind view _ ⟨rfl,rfl,rfl,rfl⟩ holds
  have life := appendPcm_life appends
  exact blind view _ ⟨life.sessionId,life.worker,rfl,rfl⟩ holds

theorem recordDiscarded_blind (samples : Nat) : Keeps inv (recordDiscarded samples : Code V Unit) := by
  intro view holds
  simp only [recordDiscarded,setSession,updateContext,wp_when,wp_bind,wp_get]
  refine ⟨fun _ => accountFor_wp (fun session records => ?_) fun _ _ => blind view _ ⟨rfl,rfl,rfl,rfl⟩ holds,fun _ => holds⟩
  obtain ⟨_,rfl⟩ := recordDiscarded_eq records
  exact blind view _ ⟨rfl,rfl,rfl,rfl⟩ holds

theorem settleIdle_blind (scheduled : Bool) : Keeps inv (settleIdle scheduled : Code V Unit) :=
  keeps_bind keeps_get fun _ => keeps_when fun _ => keeps_bind (setIdle_blind blind) fun _ =>
    context_blind blind (fun _ => rfl) fun _ => rfl

omit blind in
theorem checkDeadlines_blind (now : Time) : Keeps inv (checkDeadlines config now) :=
  keeps_bind requireContext_blind fun _ => keeps_bind keeps_get fun _ =>
    keeps_bind (keeps_when fun _ => keeps_throw _) fun _ => keeps_when fun _ => keeps_throw _

theorem awaitIdle_blind (handler : Bool → Handler) : Keeps inv (awaitIdle handler : Code V Unit) :=
  keeps_bind keeps_get fun _ => goto_blind blind _

theorem ingested_blind (call : Ingest) (scheduled : Bool) : Keeps inv (ingested call scheduled : Code V Unit) := by
  cases call with
  | frame pcm force => exact goto_blind blind _
  | segment => exact awaitIdle_blind blind _
  | finish => exact keeps_bind (settleIdle_blind blind _) fun _ => awaitIdle_blind blind _

theorem awaitReservation_blind (exc : PyError) (handler : Handler) : Keeps inv (awaitReservation exc handler : Code V Unit) := by
  unfold awaitReservation
  split
  · exact keeps_bind keeps_get fun _ => keeps_ite (fun _ => goto_blind blind _) fun _ => keeps_throw _
  · exact keeps_throw _

theorem applyControlResult_blind (text : Text) (metadata : Option Metadata) :
    Keeps inv (applyControlResult config text metadata) := by
  unfold applyControlResult
  refine keeps_bind (keeps_when fun _ => context_blind blind (fun _ => rfl) fun _ => rfl) fun _ => keeps_bind keeps_get fun _ => ?_
  dsimp only
  split
  · exact callProtocol_blind blind _
  · exact callProtocol_blind blind _

theorem applyControl_blind (control : AdapterResult) : Keeps inv (applyControl config control) := by
  refine keeps_bind (keeps_ite (fun _ => applyControlResult_blind blind _ _) fun _ => keeps_pure _) fun _ => ?_
  exact keeps_bind (keeps_when fun _ => context_blind blind (fun _ => rfl) fun _ => rfl) fun _ => keeps_pure _

theorem suspend_blind (publication : Publication) : Keeps inv (suspend publication : Code V Bool) :=
  keeps_bind (context_blind blind (fun _ => rfl) fun _ => rfl) fun _ => keeps_pure _

theorem published_blind : Keeps inv (published : Code V Bool) :=
  keeps_bind (context_blind blind (fun _ => rfl) fun _ => rfl) fun _ => keeps_pure _

theorem dropResult_blind (result : InferenceResult) : Keeps inv (dropResult result : Code V Bool) :=
  keeps_bind (discardTimeline_blind blind _) fun _ => keeps_bind (setIdle_blind blind) fun _ => published_blind blind

theorem finalizePending_blind (left : Bool) : Keeps inv (finalizePending config left) := by
  refine keeps_bind keeps_get fun view => ?_
  dsimp only
  split
  · refine keeps_bind (context_blind blind (fun _ => rfl) fun _ => rfl) fun _ =>
      keeps_bind (keeps_when fun _ => appendPcm_blind blind _ _) fun _ => ?_
    exact keeps_bind (recordDiscarded_blind blind _) fun _ =>
      keeps_bind (context_blind blind (fun _ => rfl) fun _ => rfl) fun _ => keeps_pure _
  · exact keeps_pure _

end

section
variable {inv : View V → Prop} (loose : Loose inv)
include loose

theorem context_loose {change : SessionContext V → SessionContext V}
    (same : ∀ ctx, (change ctx).utteranceSamples = ctx.utteranceSamples) : Keeps inv (updateContext change) :=
  keeps_modify fun view holds => loose view _ (same view.ctx) rfl holds

theorem setSession_loose (session : GatewaySession) : Keeps inv (setSession session : Code V Unit) :=
  context_loose loose fun _ => rfl

theorem failSession_loose : Keeps inv (failSession : Code V Bool) := by
  refine keeps_bind keeps_get fun _ => keeps_ite (fun _ => keeps_pure _) fun _ => ?_
  refine keeps_bind (cancelSession_blind loose.blind) fun _ => keeps_bind keeps_get fun _ => keeps_bind (keeps_ofExcept _) fun _ => ?_
  exact keeps_bind (setSession_loose loose _) fun _ => keeps_bind keeps_get fun _ =>
    keeps_bind (record_blind loose.blind _) fun _ => keeps_pure _

theorem failResult_loose (result : InferenceResult) (saved : Saved) (exc : PyError) (code : String) :
    Keeps inv (failResult result saved exc code : Code V Bool) :=
  keeps_bind (failSession_loose loose) fun _ => keeps_ite (fun _ => suspend_blind loose.blind _) fun _ =>
    dropResult_blind loose.blind _

theorem restoring_loose (saved : Saved) {program : Code V Bool} {view : View V}
    (kept : wp program (fun _ => inv) (fun _ => inv) view) : wp (restoring saved program) (fun _ => inv) (fun _ => inv) view := by
  rw [restoring,wp_tryCatch]
  refine wp_mono kept (fun _ _ holds => holds) fun exc next holds => ?_
  refine keeps_bind ?_ (fun _ => suspend_blind loose.blind _) next holds
  exact context_loose loose fun _ => rfl

theorem failAnswered_loose (result : InferenceResult) (exc : PyError) (code : String) (saved : Saved) :
    Keeps inv (failAnswered result exc code saved : Code V Bool) :=
  fun view holds => restoring_loose loose saved <| keeps_bind (callProtocol_blind loose.blind _) (fun _ =>
    keeps_bind (enqueueEvents_blind loose.blind _ _ _ _) fun _ => keeps_bind (setIdle_blind loose.blind) fun _ =>
      published_blind loose.blind) view holds

theorem conflictLocked_loose (result : InferenceResult) (exc : PyError) :
    Keeps inv (conflictLocked result exc : Code V Bool) := by
  refine keeps_bind keeps_get fun _ => keeps_ite (fun _ => dropResult_blind loose.blind _) fun _ => ?_
  refine keeps_bind (failSession_loose loose) fun _ => keeps_ite (fun _ => suspend_blind loose.blind _) fun _ => ?_
  exact keeps_bind (setIdle_blind loose.blind) fun _ => published_blind loose.blind

theorem conflictAnswered_loose (result : InferenceResult) (exc : PyError) :
    Keeps inv (conflictAnswered result exc : Code V Bool) := by
  refine keeps_bind keeps_get fun _ => keeps_bind (keeps_when fun _ => ?_) fun _ =>
    keeps_bind (setIdle_blind loose.blind) fun _ => published_blind loose.blind
  exact keeps_bind (callProtocol_blind loose.blind _) fun _ => enqueueEvents_blind loose.blind _ _ _ _

theorem releaseSession_loose : Keeps inv (releaseSession : Code V Unit) :=
  keeps_bind keeps_get fun _ => keeps_when fun _ => context_loose loose fun _ => rfl

theorem abortSession_loose : Keeps inv (abortSession config) := by
  refine keeps_bind (context_loose loose fun _ => rfl) fun _ => keeps_bind keeps_get fun _ => keeps_bind (keeps_ofExcept _) fun _ => ?_
  refine keeps_bind (setSession_loose loose _) fun _ => keeps_bind (emitTerminal_blind loose.blind _) fun _ => ?_
  exact keeps_bind (context_loose loose fun _ => rfl) fun _ => keeps_bind keeps_get fun _ => record_blind loose.blind _

theorem abortTaskSafe_loose : Keeps inv (abortTaskSafe config) :=
  keeps_bind (abortSession_loose loose) fun _ => context_loose loose fun _ => rfl

theorem abortSafe_loose : Keeps inv (abortSafe config) :=
  keeps_bind (abortSession_loose loose) fun _ => goto_blind loose.blind _

theorem cancelAndWait_loose (safe : Handler) (waiting : Nat → Handler) : Keeps inv (cancelAndWait safe waiting : Code V Unit) := by
  refine keeps_bind requireContext_blind fun _ => keeps_bind (cancelSession_blind loose.blind) fun _ => keeps_bind keeps_get fun _ => ?_
  split
  · exact goto_blind loose.blind _
  · exact goto_blind loose.blind _

theorem finishHearing_loose : Keeps inv (finishHearing config) := by
  refine keeps_bind keeps_get fun _ => ?_
  split
  · exact keeps_bind (context_loose loose fun _ => rfl) fun _ =>
      keeps_bind (keeps_when fun _ => appendPcm_blind loose.blind _ _) fun _ => recordDiscarded_blind loose.blind _
  · exact keeps_pure _

theorem finishAnswered_loose (answer : Except PyError AdapterResult) : Keeps inv (finishAnswered config answer) := by
  refine keeps_bind (keeps_ofExcept _) fun _ => keeps_bind (applyControl_blind loose.blind _) fun _ => keeps_bind keeps_get fun _ => ?_
  refine keeps_bind (callProtocol_blind loose.blind _) fun _ => keeps_bind (context_loose loose fun _ => rfl) fun _ => ?_
  refine keeps_bind keeps_get fun _ => keeps_bind (keeps_ofExcept _) fun _ => keeps_bind (setSession_loose loose _) fun _ => ?_
  exact keeps_bind (emitTerminal_blind loose.blind _) fun _ => keeps_bind (enqueueEvents_blind loose.blind _ _ _ _) fun _ =>
    goto_blind loose.blind _

theorem errorLocked_loose (exc : PyError) (code : String) (closeCode : Nat) :
    Keeps inv (errorLocked exc code closeCode : Code V Unit) := by
  refine keeps_bind keeps_get fun _ => keeps_ite (fun _ => goto_blind loose.blind _) fun _ => ?_
  exact keeps_bind (failSession_loose loose) fun _ => keeps_ite (fun _ => goto_blind loose.blind _) fun _ => goto_blind loose.blind _

/-- The calls of a handler enqueue nothing. -/
theorem command_loose {handler : Handler} {call : Command} {program : Code V Unit}
    (issued : Gateway.command config handler call = some program) : Keeps inv program := by
  unfold Gateway.command at issued
  split at issued <;> cases issued
  · exact keeps_bind requireContext_blind fun _ => goto_blind loose.blind _
  · exact keeps_bind requireContext_blind fun _ => goto_blind loose.blind _
  · refine keeps_bind requireContext_blind fun _ => keeps_bind (finishHearing_loose loose) fun _ => keeps_bind keeps_get fun _ => ?_
    exact keeps_bind (setSession_loose loose _) fun _ => goto_blind loose.blind _
  · exact cancelAndWait_loose loose _ _
  · exact cancelAndWait_loose loose _ _
  · refine keeps_bind requireContext_blind fun _ => keeps_bind (cancelSession_blind loose.blind) fun _ => keeps_bind keeps_get fun _ => ?_
    split
    · exact abortSafe_loose loose
    · exact goto_blind loose.blind _

theorem abort_loose : Keeps inv (Gateway.abort config) := by
  refine keeps_bind keeps_get fun _ => keeps_ite (fun _ => keeps_pure _) fun _ =>
    keeps_ite (fun _ => releaseSession_loose loose) fun _ => ?_
  refine keeps_bind (cancelSession_blind loose.blind) fun _ => keeps_bind keeps_get fun _ => ?_
  split
  · exact abortTaskSafe_loose loose
  · exact context_loose loose fun _ => rfl

theorem resumeAbort_loose {task : AbortTask} {program : Code V Unit} (resumes : Gateway.resumeAbort config view task = some program) :
    Keeps inv program := by
  unfold Gateway.resumeAbort at resumes
  split at resumes
  · cases resumes
  cases task with
  | safe event =>
    dsimp only at resumes
    split at resumes <;> cases resumes
    exact keeps_bind (context_loose loose fun _ => rfl) fun _ => abortTaskSafe_loose loose
  | adapter =>
    cases resumes
    exact keeps_bind (context_loose loose fun _ => rfl) fun _ => releaseSession_loose loose

theorem send_loose {program : Code V Unit} (sends : Gateway.send view = some program) : Keeps inv program := by
  unfold Gateway.send at sends
  split at sends
  · cases sends
  split at sends
  · cases sends
  rename_i event _
  cases sends
  refine keeps_bind (context_loose loose fun _ => rfl) fun _ => keeps_bind (keeps_when fun _ => ?_) fun _ =>
    keeps_when fun _ => releaseSession_loose loose
  cases event.jobId with
  | none => exact keeps_pure _
  | some jobId => exact discardTimeline_blind loose.blind _

theorem rejectJob_loose (job : InferenceJob) : Keeps inv (rejectJob job : Code V Unit) := by
  refine keeps_bind (discardTimeline_blind loose.blind _) fun _ => keeps_bind keeps_get fun _ => keeps_when fun _ => ?_
  exact keeps_bind (keeps_ofExcept _) fun _ => keeps_bind (setSession_loose loose _) fun _ => keeps_when fun _ => keeps_throw _

theorem cleanupJob_loose (job : InferenceJob) : Keeps inv (cleanupJob job : Code V Unit) := by
  refine keeps_bind keeps_get fun _ => keeps_bind (keeps_when fun _ => keeps_throw _) fun _ => ?_
  exact keeps_bind (keeps_ofExcept _) fun _ => context_loose loose fun _ => rfl

theorem awaitedHook_loose {stage : Stage} {sessionId : SessionId} {program : Code V Unit}
    (awaits : awaitedHook stage = some (some (sessionId,program))) : Keeps inv program := by
  unfold awaitedHook at awaits
  split at awaits <;> cases awaits
  · exact rejectJob_loose loose _
  · exact rejectJob_loose loose _
  · exact rejectJob_loose loose _
  · exact cleanupJob_loose loose _
  · exact discardTimeline_blind loose.blind _
  · exact discardTimeline_blind loose.blind _

end

/-! ## Programs that schedule -/

theorem reserve_samples {session next : GatewaySession} {samples : Nat} {final : Bool} {reservation : SessionReservation}
    (reserves : session.reserve samples final = .ok (reservation,next)) :
    reservation.chunk.endSample - reservation.chunk.startSample = samples := by
  obtain ⟨_,chunk,buffer,range,rfl,_⟩ := reserve_eq reserves
  obtain ⟨_,_,_,begins,ends,_⟩ := reserveRange_eq range
  rw [begins,ends,Nat.add_sub_cancel_left]

theorem stamped_samples (job : InferenceJob) (now : Time) : (job.stamped now).sampleCount = job.sampleCount := by
  unfold InferenceJob.stamped
  split <;> rfl

theorem enqueue_queues {scheduler next : GatewayScheduler} {now : Time} {job : InferenceJob}
    (enqueues : scheduler.enqueue config.scheduler now job = .ok next) (worker : WorkerId) :
    ∀ other ∈ next.queues worker, other ∈ scheduler.queues worker ∨ worker = job.workerId ∧ other = job.stamped now := by
  obtain ⟨rfl,_⟩ := enqueue_ok enqueues
  intro other member
  change other ∈ (scheduler.setQueue _ _).queues worker at member
  by_cases own : worker = job.workerId
  · subst own
    rw [setQueue_queue,List.mem_append,List.mem_singleton] at member
    exact member.imp_right fun same => ⟨rfl,same⟩
  · rw [setQueue_other _ _ _ _ own] at member
    exact .inl member

/-- What the call leaves. Where it enqueues nothing, it may be made again. -/
theorem scheduleNext_grown {force : Bool} (ready : Ready uttered start view) :
    wp (scheduleNext config moment force)
      (fun scheduled next => Grown config moment uttered start next ∧ (scheduled = false → Ready uttered start next))
      (fun _ => Grown config moment uttered start) view := by
  refine scheduleNext_wp (fun _ => ready.grown) (fun _ _ _ => ⟨ready.grown,fun _ => ready⟩) ?_ ?_ ?_
  · intro remaining count reservation session scheduler measured counted some reserves enqueues
    have fits := nextCount_fits measured (by rwa [counted])
    have life := reserve_life reserves
    rw [counted,ready.uttered,← life.worker] at fits
    refine ⟨fun worker job member => ?_,fun never => by cases never⟩
    rcases enqueue_queues enqueues worker job member with waiting | ⟨rfl,rfl⟩
    · exact .inl (ready.queues ▸ waiting)
    · have samples : (makeJob config moment.now session reservation).sampleCount = count := reserve_samples reserves
      refine .inr ⟨?_,ready.uttered,by rwa [stamped_samples,samples]⟩
      rw [stamped_session]
      exact life.sessionId.trans ready.sessionId
  · intro remaining count reservation session held restored exc _ _ _ reserves rollsBack
    exact grown_loose view _ rfl rfl ready.grown
  · intro jobId exc
    exact grown_loose view _ rfl rfl ready.grown

/-- Whether it returns or raises, the program leaves such queues. -/
abbrev Grows {α : Type} (config : GatewayConfig V) (moment : Moment) (uttered : Nat) (start : View V) (program : Code V α)
    (view : View V) : Prop :=
  wp program (fun _ => Grown config moment uttered start) (fun _ => Grown config moment uttered start) view

theorem grows_of_keeps {α : Type} {program : Code V α} {known : Nat} (keeps : Keeps (Grown config moment uttered start) program)
    (ready : Ready known start view) : Grows config moment uttered start program view := keeps view ready.grown

theorem grows_bind {α β : Type} {first : Code V β} {later : β → Code V α} {known : Nat}
    (keeps : Keeps (Ready known start) first) (ready : Ready known start view)
    (goesOn : ∀ value next, Ready known start next → Grows config moment uttered start (later value) next) :
    Grows config moment uttered start (first >>= later) view :=
  wp_bind_of_keeps keeps ready (fun _ _ kept => kept.grown) goesOn

section
variable (ready : Ready uttered start view)
include ready

theorem ingestScheduled_grows (call : Ingest) (force : Bool) :
    Grows config moment uttered start (ingestScheduled config moment call force) view := by
  rw [Grows,ingestScheduled,wp_bind]
  exact wp_mono (scheduleNext_grown ready) (fun _ next grown => ingested_blind grown_loose.blind _ _ next grown.1)
    fun _ _ grown => grown

theorem ingestHeard_grows (pcm : Pcm) (force : Bool) (decision : VADDecision) :
    Grows config moment uttered start (ingestHeard config moment pcm force decision) view := by
  refine grows_bind (recordDiscarded_blind ready_blind _) ready fun _ view ready => ?_
  refine grows_bind (context_blind ready_blind (fun _ => ?_) fun _ => ?_) ready fun _ view ready => ?_
  · rfl
  · rfl
  · exact ingestScheduled_grows ready _ _

theorem ingestAppend_grows (pcm : Pcm) (force : Bool) (decision : Option VADDecision) :
    Grows config moment uttered start (ingestAppend config moment pcm force decision) view := by
  simp only [Grows,ingestAppend,wp_bind,wp_get]
  split
  · rename_i session appends
    have life := appendPcm_life appends
    have ready : Ready uttered start (view.withContext fun ctx => appended ctx session (decision.elim pcm VADDecision.audioToModel)) :=
      ready_blind view _ ⟨life.sessionId,life.worker,rfl,rfl⟩ ready
    simp only [updateContext,wp_bind,wp_modify]
    split
    · exact ingestHeard_grows ready _ _ _
    · exact ingestScheduled_grows ready _ _
  · refine grows_bind (keeps_when fun _ => ?_) ready fun _ view ready => ?_
    · exact context_blind ready_blind (fun _ => rfl) fun _ => rfl
    · exact awaitReservation_blind grown_loose.blind _ _ view ready.grown

theorem ingestHear_grows (pcm : Pcm) (force : Bool) :
    Grows config moment uttered start (ingestHear config moment pcm force) view := by
  refine grows_bind keeps_get ready fun read view ready => ?_
  split
  · exact ready.grown
  refine grows_bind (keeps_ofExcept _) ready fun heard view ready => ?_
  refine grows_bind (context_blind ready_blind (fun _ => ?_) fun _ => ?_) ready fun _ view ready => ?_
  · rfl
  · rfl
  rw [Grows,wp_ite]
  exact ⟨fun _ => ingestAppend_grows ready _ _ _,fun _ => ingestHeard_grows ready _ _ _⟩

theorem ingestAccept_grows (pcm : Pcm) (force : Bool) :
    Grows config moment uttered start (ingestAccept config moment pcm force) view := by
  simp only [Grows,ingestAccept,wp_bind,wp_get]
  split
  · rename_i session accepts
    simp only [setSession,updateContext,wp_modify,wp_bind]
    refine ingestHear_grows (ready_blind view _ ?_ ready) _ _
    unfold GatewaySession.acceptVadInput at accepts
    split at accepts
    · cases accepts
    dsimp only at accepts
    split at accepts <;> cases accepts
    exact ⟨rfl,rfl,rfl,rfl⟩
  · exact awaitReservation_blind grown_loose.blind _ _ view ready.grown

theorem ingestLocked_grows (call : Ingest) : Grows config moment uttered start (ingestLocked config moment call) view := by
  refine grows_bind (checkDeadlines_blind _) ready fun _ view ready => ?_
  refine grows_bind keeps_get ready fun read view ready => ?_
  refine grows_bind (keeps_when fun _ => keeps_throw _) ready fun _ view ready => ?_
  cases call with
  | frame pcm force =>
    dsimp only
    rw [Grows,wp_ite,wp_ite]
    exact ⟨fun _ => ingestScheduled_grows ready _ _,fun _ =>
      ⟨fun _ => ingestAccept_grows ready _ _,fun _ => ingestAppend_grows ready _ _ _⟩⟩
  | segment => exact ingestScheduled_grows ready _ _
  | finish => exact ingestScheduled_grows ready _ _

end

theorem concludeResult_grows {deferred : Bool} (grown : Grown config moment uttered start view)
    (ready : deferred = false → Ready uttered start view) (result : InferenceResult) (events : List WireEvent)
    (continuation : Bool) :
    Grows config moment uttered start (concludeResult config moment result events deferred continuation) view := by
  have rest : ∀ scheduled, Keeps (Grown config moment uttered start) (do
      settleIdle scheduled
      (if events ≠ [] then enqueueEvents events (some result.jobId) else discardTimeline result.jobId)
      published : Code V Bool) := by
    refine fun scheduled => keeps_bind (settleIdle_blind grown_loose.blind _) fun _ => keeps_bind ?_ fun _ =>
      published_blind grown_loose.blind
    exact keeps_ite (fun _ => enqueueEvents_blind grown_loose.blind _ _ _ _) fun _ => discardTimeline_blind grown_loose.blind _
  simp only [Grows,concludeResult]
  rw [wp_bind,wp_get,wp_bind]
  cases deferred with
  | true => exact rest _ view grown
  | false =>
    exact wp_mono (scheduleNext_grown (ready rfl)) (fun _ next grown => rest _ next grown.1) fun _ _ grown => grown

theorem acceptResult_grows {known : Nat} (ready : Ready known start view) (result : InferenceResult) (saved : Saved) :
    Grows config moment (known + (result.endSample - result.startSample)) start (acceptResult config moment result saved) view := by
  refine grows_bind (keeps_when fun _ => ?_) ready fun _ view ready => ?_
  · exact context_blind ready_blind (fun _ => rfl) fun _ => rfl
  refine grows_bind keeps_get ready fun read view ready => ?_
  refine grows_bind (callProtocol_blind ready_blind _) ready fun events view ready => ?_
  rw [Grows,updateContext,wp_bind,wp_modify]
  have ready : Ready (known + (result.endSample - result.startSample)) start (view.withContext fun ctx =>
      { ctx with utteranceSamples := ctx.utteranceSamples + (result.endSample - result.startSample) }) :=
    ⟨ready.sessionId,ready.worker,congrArg (· + _) ready.uttered,ready.queues⟩
  revert ready
  generalize view.withContext _ = view, known + (result.endSample - result.startSample) = length
  intro ready
  rw [wp_bind,wp_get,wp_bind]
  have called : wp (if (view.ctx.endpointPending && !result.final) = true then scheduleNext config moment true else pure false)
      (fun deferred next => Grown config moment length start next ∧ (deferred = false → Ready length start next))
      (fun _ => Grown config moment length start) view := by
    rw [wp_ite]
    exact ⟨fun _ => scheduleNext_grown ready,fun _ => ⟨ready.grown,fun _ => ready⟩⟩
  refine wp_mono called (fun deferred next grown => ?_) fun _ _ grown => grown
  rw [wp_bind,wp_get,wp_ite]
  refine ⟨fun _ => ?_,fun _ => concludeResult_grows grown.1 grown.2 _ _ _⟩
  exact keeps_bind (record_blind grown_loose.blind _) (fun _ => suspend_blind grown_loose.blind _) next grown.1

theorem applyResult_grows {known : Nat} (ready : Ready known start view) (result : InferenceResult) :
    Grows config moment (known + (result.endSample - result.startSample)) start (applyResult config moment result) view := by
  refine grows_bind keeps_get ready fun read view ready => ?_
  rw [Grows,wp_ite]
  refine ⟨fun _ => grows_of_keeps (dropResult_blind grown_loose.blind _) ready,fun _ => restoring_loose grown_loose _ ?_⟩
  have fails : ∀ exc code, Grows config moment (known + (result.endSample - result.startSample)) start
      (failResult result ⟨read.ctx.protocol,read.ctx.segmentMetadata⟩ exc code : Code V Bool) view :=
    fun exc code => grows_of_keeps (failResult_loose grown_loose _ _ exc code) ready
  simp only [applyResultLocked,wp_bind,wp_get,wp_ite]
  refine ⟨fun _ => fails _ _,fun _ => ⟨fun _ => fails _ _,fun _ => ?_⟩⟩
  split
  · exact fails _ _
  · exact acceptResult_grows ready _ _

theorem segmentEnded_grows {known : Nat} (ready : Ready known start view) (result : InferenceResult) (events : List WireEvent)
    (deferred : Bool) (saved : Saved) (answer : Except PyError AdapterResult) :
    Grows config moment 0 start (segmentEnded config moment result events deferred saved answer) view := by
  refine restoring_loose grown_loose saved ?_
  refine grows_bind (keeps_ofExcept _) ready fun control view ready => ?_
  refine grows_bind (applyControl_blind ready_blind _) ready fun more view ready => ?_
  refine grows_bind keeps_get ready fun read view ready => ?_
  refine grows_bind (callProtocol_blind ready_blind _) ready fun committed view ready => ?_
  rw [updateContext,Grows,wp_bind,wp_modify]
  have ready : Ready 0 start (view.withContext fun ctx =>
      { ctx with
        segmentMetadata := if ctx.session.finishRequested then read.ctx.segmentMetadata else none
        utteranceSamples := 0 }) := ⟨ready.sessionId,ready.worker,rfl,ready.queues⟩
  refine grows_bind keeps_get ready fun _ view ready => ?_
  refine grows_bind (finalizePending_blind ready_blind _) ready fun continuation view ready => ?_
  exact concludeResult_grows ready.grown (fun _ => ready) _ _ _

/-- The samples of the segment when a publication calls `_schedule_next`. -/
def utteredAt (ctx : SessionContext V) (result : InferenceResult) : Nat :=
  match ctx.publication with
  | .waiting => ctx.utteranceSamples + (result.endSample - result.startSample)
  | _ => 0

theorem publishResult_grows {result : InferenceResult} {answer : Except PyError AdapterResult} {program : Code V Bool}
    (goesOn : publishResult config moment view result answer = some program) :
    Grows config moment (utteredAt view.ctx result) view program view := by
  have ready : Ready view.ctx.utteranceSamples view view := ⟨rfl,rfl,rfl,rfl⟩
  have dropped : Grows config moment (utteredAt view.ctx result) view (do
      discardTimeline result.jobId
      published : Code V Bool) view :=
    grows_of_keeps (keeps_bind (discardTimeline_blind grown_loose.blind _) fun _ => published_blind grown_loose.blind) ready
  unfold publishResult at goesOn
  cases stands : view.ctx.publication with
  | waiting =>
    simp only [stands] at goesOn
    split at goesOn
    · cases goesOn
      exact dropped
    split at goesOn
    · cases goesOn
    · cases goesOn
      rw [show utteredAt view.ctx result = _ from by rw [utteredAt,stands]]
      exact applyResult_grows ready result
  | failAdapter exc code saved =>
    simp only [stands] at goesOn
    cases goesOn
    exact grows_of_keeps (keeps_bind (emitTerminal_blind grown_loose.blind _) fun _ => failAnswered_loose grown_loose _ _ _ _) ready
  | segmentAdapter events deferred saved =>
    simp only [stands] at goesOn
    cases goesOn
    rw [show utteredAt view.ctx result = 0 from by rw [utteredAt,stands]]
    exact segmentEnded_grows ready _ _ _ _ _
  | conflictLock exc =>
    simp only [stands] at goesOn
    split at goesOn
    · cases goesOn
      exact dropped
    split at goesOn
    · cases goesOn
    · cases goesOn
      exact grows_of_keeps (conflictLocked_loose grown_loose _ _) ready
  | conflictAdapter exc =>
    simp only [stands] at goesOn
    cases goesOn
    exact grows_of_keeps (keeps_bind (emitTerminal_blind grown_loose.blind _) fun _ => conflictAnswered_loose grown_loose _ _) ready

section
variable {scheduler middle next : GatewayScheduler} {worker : WorkerId} {force : Bool} {now : Time}

/-- No job is new in a queue. -/
def Shrinks (scheduler next : GatewayScheduler) : Prop := ∀ worker, ∀ job ∈ next.queues worker, job ∈ scheduler.queues worker

theorem Shrinks.trans (shrinks : Shrinks scheduler middle) (later : Shrinks middle next) : Shrinks scheduler next :=
  fun worker job member => shrinks worker job (later worker job member)

theorem shrinks_of_eq (same : next.queues = scheduler.queues) : Shrinks scheduler next :=
  fun worker job member => by rwa [same] at member

theorem setQueue_shrinks {queue : List InferenceJob} (less : ∀ job ∈ queue, job ∈ scheduler.queues worker) :
    Shrinks scheduler (scheduler.setQueue worker queue) := by
  intro other job member
  by_cases own : other = worker
  · subst own
    rw [setQueue_queue] at member
    exact less job member
  · rwa [setQueue_other _ _ _ _ own] at member

theorem nextFailure_shrinks (failures : List Settlement) : Shrinks scheduler (scheduler.nextFailure worker failures) := by
  cases failures <;> exact shrinks_of_eq rfl

theorem nextSettlement_shrinks (failures settlements : List Settlement) :
    Shrinks scheduler (scheduler.nextSettlement worker failures settlements) := by
  cases settlements with
  | nil => exact nextFailure_shrinks failures
  | cons current rest => exact shrinks_of_eq rfl

theorem nextDrain_shrinks (failures : List Settlement) (batch : List InferenceJob) (error : String) (jobs : List InferenceJob) :
    Shrinks scheduler (scheduler.nextDrain worker failures batch error jobs) := by
  cases jobs with
  | nil => exact (shrinks_of_eq rfl : Shrinks scheduler _).trans (nextSettlement_shrinks _ _)
  | cons item rest => exact shrinks_of_eq rfl

theorem drainFailedQueue_shrinks (batch : List InferenceJob) (error : String) :
    Shrinks scheduler (scheduler.drainFailedQueue worker batch error) := by
  have emptied : Shrinks scheduler (scheduler.setQueue worker []) := setQueue_shrinks (by simp)
  exact (emptied.trans (shrinks_of_eq rfl)).trans (nextDrain_shrinks _ _ _ _)

theorem failBatch_shrinks (batch : List InferenceJob) (typeName : String) :
    Shrinks scheduler (scheduler.failBatch worker batch typeName) := by
  unfold GatewayScheduler.failBatch
  dsimp only
  split
  · exact drainFailedQueue_shrinks _ _
  · exact shrinks_of_eq rfl

theorem submitted_shrinks (batch : List InferenceJob) (raw : List (Option InferenceResult)) :
    Shrinks scheduler (scheduler.submitted worker batch raw) := by
  unfold GatewayScheduler.submitted
  split
  · exact failBatch_shrinks _ _
  split
  · exact failBatch_shrinks _ _
  · exact (shrinks_of_eq rfl : Shrinks scheduler _).trans (nextSettlement_shrinks _ _)

theorem dispatch_shrinks : Shrinks scheduler (scheduler.dispatch config.scheduler worker force now) := by
  have sorted : ∀ job ∈ (scheduler.queues worker).insertionSort (earlier · ·), job ∈ scheduler.queues worker :=
    fun job => (List.perm_insertionSort (earlier · ·) (scheduler.queues worker)).mem_iff.mp
  unfold GatewayScheduler.dispatch
  dsimp only
  split
  · exact setQueue_shrinks sorted
  generalize GatewayScheduler.selectBatch _ _ _ _ _ = batch
  have accepted := (acceptAll_keeps batch scheduler).1
  have taken : Shrinks scheduler ((batch.foldl GatewayScheduler.accept scheduler).setQueue worker
      (batch.foldl List.erase ((scheduler.queues worker).insertionSort (earlier · ·)))) := by
    refine (shrinks_of_eq accepted).trans (setQueue_shrinks fun job member => ?_)
    rw [← List.diff_eq_foldl] at member
    rw [accepted]
    exact sorted job (List.diff_subset _ _ member)
  split
  · exact taken.trans (shrinks_of_eq rfl)
  · exact taken.trans (shrinks_of_eq rfl)

theorem remove_shrinks (item : InferenceJob) : Shrinks scheduler (scheduler.remove worker item) :=
  (setQueue_shrinks fun _ member => List.mem_of_mem_erase member : Shrinks scheduler _).trans (shrinks_of_eq rfl)

theorem nextCancelled_shrinks (claims : List InferenceJob) :
    Shrinks scheduler (scheduler.nextCancelled config.scheduler worker force now claims) := by
  cases claims with
  | nil =>
    rw [GatewayScheduler.nextCancelled]
    split
    · exact shrinks_of_eq rfl
    · exact dispatch_shrinks
  | cons item rest => exact (remove_shrinks item).trans (shrinks_of_eq rfl)

theorem nextExpired_shrinks (claims : List InferenceJob) :
    Shrinks scheduler (scheduler.nextExpired config.scheduler worker force now claims) := by
  cases claims with
  | nil =>
    rw [GatewayScheduler.nextExpired]
    split
    · exact shrinks_of_eq rfl
    · exact nextCancelled_shrinks _
  | cons item rest => exact (remove_shrinks item).trans (shrinks_of_eq rfl)

theorem runOnce_shrinks : Shrinks scheduler (scheduler.runOnce config.scheduler worker force now) := by
  unfold GatewayScheduler.runOnce
  split
  · exact drainFailedQueue_shrinks _ _
  split
  · exact shrinks_of_eq rfl
  · exact nextExpired_shrinks _

theorem drained_shrinks (item : InferenceJob) (rest : List InferenceJob) (failures : List Settlement)
    (batch : List InferenceJob) (error : String) :
    Shrinks scheduler (scheduler.drained worker item rest failures batch error) := by
  unfold GatewayScheduler.drained
  split
  · exact shrinks_of_eq rfl
  · exact nextDrain_shrinks _ _ _ _

theorem cleaned_shrinks (current : Settlement) (rest failures : List Settlement) :
    Shrinks scheduler (scheduler.cleaned worker current rest failures) := by
  unfold GatewayScheduler.cleaned
  dsimp only
  split <;> exact shrinks_of_eq rfl

/-- Whatever is answered, `run_once` only takes jobs out of its queue. -/
theorem resume_shrinks {reply : Scheduling.Reply} (resumed : scheduler.resume config.scheduler worker reply now = some next) :
    Shrinks scheduler next := by
  have marked : ∀ item, Shrinks scheduler (scheduler.markSafe item) := fun item => shrinks_of_eq (markSafe_keeps scheduler item).1
  unfold GatewayScheduler.resume at resumed
  dsimp only at resumed
  split at resumed <;> cases resumed
  all_goals first
    | exact shrinks_of_eq rfl
    | exact nextExpired_shrinks _
    | exact nextCancelled_shrinks _
    | exact submitted_shrinks _ _
    | exact failBatch_shrinks _ _
    | exact drainFailedQueue_shrinks _ _
    | exact drained_shrinks _ _ _ _ _
    | exact nextDrain_shrinks _ _ _ _
    | exact cleaned_shrinks _ _ _
    | exact nextFailure_shrinks _
    | exact (marked _).trans (nextSettlement_shrinks _ _)
    | exact (marked _).trans (shrinks_of_eq rfl)

end

/-! ## One step of the gateway -/

theorem unfed_grown (unfed : Unfed start view) : Grown config moment uttered start view :=
  fun _ _ member => .inl (unfed ▸ member)

theorem grows_of_unfed {α : Type} {program : Code V α} (keeps : Keeps (Unfed view) program) :
    Grows config moment uttered view program view :=
  wp_mono (keeps view rfl) (fun _ _ => unfed_grown) fun _ _ => unfed_grown

theorem segmentAnswered_unfed (answer : Except PyError AdapterResult) : Keeps (Unfed start) (segmentAnswered config answer) := by
  refine keeps_bind (keeps_ofExcept _) fun _ => keeps_bind (applyControl_blind unfed_loose.blind _) fun _ => ?_
  refine keeps_bind keeps_get fun _ => keeps_bind (callProtocol_blind unfed_loose.blind _) fun _ => ?_
  refine keeps_bind (keeps_modify fun _ unfed => unfed) fun _ => ?_
  exact keeps_bind (enqueueEvents_blind unfed_loose.blind _ _ _ _) fun _ => goto_blind unfed_loose.blind _

theorem proceed_grows {input : Input} {program : Code V Unit} (goesOn : proceed config moment view input = some program) :
    Grows config moment view.ctx.utteranceSamples view program view := by
  have ready : Ready view.ctx.utteranceSamples view view := ⟨rfl,rfl,rfl,rfl⟩
  have blind : Blind (Unfed view) := unfed_loose.blind
  cases stands : view.ctx.handler <;> cases input <;>
    simp only [proceed,stands,reduceCtorEq,Option.some.injEq,Option.ite_none_left_eq_some,
      Option.ite_none_right_eq_some] at goesOn
  case starting.go =>
    obtain ⟨_,rfl⟩ := goesOn
    exact grows_of_unfed (keeps_bind requireContext_blind fun _ => keeps_bind keeps_get fun _ =>
      keeps_bind (callProtocol_blind blind _) fun _ => keeps_bind (enqueueEvents_blind blind _ _ _ _) fun _ =>
        goto_blind blind _)
  case ingestLock.go call =>
    obtain ⟨_,rfl⟩ := goesOn
    exact ingestLocked_grows ready call
  case ingestAccept.go pcm force =>
    subst goesOn
    exact grows_bind (checkDeadlines_blind _) ready fun _ _ ready => ingestAccept_grows ready _ _
  case ingestAppend.go pcm force decision =>
    subst goesOn
    exact grows_bind (checkDeadlines_blind _) ready fun _ _ ready => ingestAppend_grows ready _ _ _
  case ingestAccept.timeout | ingestAppend.timeout =>
    subst goesOn
    exact grows_of_unfed (keeps_throw _)
  case segmentIdle.go | finishIdle.go | errorSafe.go =>
    obtain ⟨_,rfl⟩ := goesOn
    exact grows_of_unfed (goto_blind blind _)
  case segmentLock.go | finishLock.go =>
    obtain ⟨_,rfl⟩ := goesOn
    exact grows_of_unfed (keeps_bind keeps_get fun _ => keeps_bind (record_blind blind _) fun _ => goto_blind blind _)
  case segmentAdapter.answer reply =>
    subst goesOn
    exact grows_of_unfed (segmentAnswered_unfed reply)
  case finishAdapter.answer reply =>
    subst goesOn
    exact grows_of_unfed (finishAnswered_loose unfed_loose reply)
  case errorLock.go =>
    obtain ⟨_,rfl⟩ := goesOn
    exact grows_of_unfed (errorLocked_loose unfed_loose _ _ _)
  case errorAdapter.answer =>
    subst goesOn
    exact grows_of_unfed (keeps_bind (emitTerminal_blind blind _) fun _ => keeps_bind (callProtocol_blind blind _) fun _ =>
      keeps_bind (enqueueEvents_blind blind _ _ _ _) fun _ => goto_blind blind _)
  case abortSafe.go =>
    obtain ⟨_,rfl⟩ := goesOn
    exact grows_of_unfed (abortSafe_loose unfed_loose)
  case abortAdapter.answer reply =>
    subst goesOn
    refine grows_of_unfed (keeps_bind (keeps_ofExcept _) fun _ => keeps_bind requireContext_blind fun _ => ?_)
    exact keeps_bind (context_loose unfed_loose fun _ => rfl) fun _ => goto_blind blind _

/-- The moment at which a step may call `_schedule_next`, and how many samples the segment of the session has then. -/
def callSite (runtime : GatewayRuntime V) : GatewayAction → Option (SessionId × Moment × Nat)
  | .proceed sessionId _ moment => do
    let ctx ← runtime.contexts sessionId
    some (sessionId,moment,ctx.utteranceSamples)
  | .publish worker _ moment => do
    let (_,result) ← (runtime.scheduler.stages worker).publishing.head?
    let ctx ← runtime.contexts result.sessionId
    some (result.sessionId,moment,utteredAt ctx result)
  | _ => none

/-- What the code of the step reads from outside. -/
def GatewayAction.reads : GatewayAction → Option Moment
  | .proceed _ _ moment | .publish _ _ moment => some moment
  | _ => none

/-- The step puts the job into the queue of the worker. -/
structure Enqueues (config : GatewayConfig V) (runtime : GatewayRuntime V) (action : GatewayAction) (next : GatewayRuntime V)
    (worker : WorkerId) (job : InferenceJob) : Prop where
  stepped : runtime.step config action = some next
  queued : job ∈ next.scheduler.queues worker
  fresh : job ∉ runtime.scheduler.queues worker

/-- Every job that the step enqueues is within the limits, which are those of its session when it is made. -/
def JobsFit (config : GatewayConfig V) (runtime : GatewayRuntime V) (action : GatewayAction) : Prop :=
  ∀ next worker job, Enqueues config runtime action next worker job → ∃ moment ctx, action.reads = some moment ∧
    next.contexts job.sessionId = some ctx ∧ Fits config worker moment ctx.utteranceSamples job.sampleCount

/-- Where the step enqueues a job, there was room in the segment. -/
def Roomy (config : GatewayConfig V) (runtime : GatewayRuntime V) (action : GatewayAction) : Prop :=
  ∀ next worker job, Enqueues config runtime action next worker job → ∃ moment uttered,
    callSite runtime action = some (job.sessionId,moment,uttered) ∧ HasRoom config worker moment uttered

section
variable {runtime next : GatewayRuntime V} {action : GatewayAction} {worker : WorkerId} {job : InferenceJob}

/-- How a step makes a job. -/
def Sized (config : GatewayConfig V) (runtime : GatewayRuntime V) (action : GatewayAction) (next : GatewayRuntime V)
    (worker : WorkerId) (job : InferenceJob) : Prop :=
  ∃ moment uttered ctx, callSite runtime action = some (job.sessionId,moment,uttered) ∧ action.reads = some moment ∧
    next.contexts job.sessionId = some ctx ∧ ctx.utteranceSamples = uttered ∧
      (Fits config worker moment uttered job.sampleCount ↔ HasRoom config worker moment uttered)

/-- A job that a session's code enqueues. -/
theorem sized_of_grown {sessionId : SessionId} {before after : View V} (named : before.ctx.session.sessionId = sessionId)
    (grown : Grown config moment uttered before after) (site : callSite runtime action = some (sessionId,moment,uttered))
    (timed : action.reads = some moment) (known : next.contexts sessionId = some after.ctx)
    (queued : job ∈ after.scheduler.queues worker) :
    job ∈ before.scheduler.queues worker ∨ Sized config runtime action next worker job := by
  refine (grown worker job queued).imp_right ?_
  rintro ⟨own,same,fits⟩
  obtain rfl := named.symm.trans own.symm
  exact ⟨moment,uttered,after.ctx,site,timed,known,same,fits⟩

theorem view_scheduler {sessionId : SessionId} {view : View V} (found : runtime.view sessionId = some view) :
    view.scheduler = runtime.scheduler := by
  obtain ⟨ctx,_,rfl⟩ := Option.map_eq_some_iff.mp found
  rfl

theorem runtime_resume_shrinks {reply : Scheduling.Reply} {now : Time}
    (resumed : runtime.resume config worker reply now = some next) : Shrinks runtime.scheduler next.scheduler := by
  obtain ⟨scheduler,goesOn,rfl⟩ := Option.map_eq_some_iff.mp resumed
  exact resume_shrinks goesOn

theorem hook_shrinks {now : Time} (hooked : runtime.hook config worker now = some next) :
    Shrinks runtime.scheduler next.scheduler := by
  unfold GatewayRuntime.hook at hooked
  obtain ⟨awaited,awaits,hooked⟩ := Option.bind_eq_some_iff.mp hooked
  cases awaited with
  | none => exact runtime_resume_shrinks hooked
  | some pair =>
    obtain ⟨sessionId,program⟩ := pair
    dsimp only at hooked
    split at hooked
    · exact runtime_resume_shrinks hooked
    · rename_i view found
      have unfed : Unfed view (outcome program view).2 := outcome_of_wp (awaitedHook_loose unfed_loose awaits view rfl)
      rw [Unfed,view_scheduler found] at unfed
      exact (shrinks_of_eq unfed).trans (runtime_resume_shrinks hooked)

theorem publish_sized {answer : Except PyError AdapterResult} {moment : Moment} {publishing : WorkerId}
    (delivering : Delivering config runtime) (published : runtime.publish config publishing answer moment = some next)
    (queued : job ∈ next.scheduler.queues worker) : job ∈ runtime.scheduler.queues worker ∨
      Sized config runtime (.publish publishing answer moment) next worker job := by
  unfold GatewayRuntime.publish at published
  obtain ⟨⟨mine,result⟩,publishes,published⟩ := Option.bind_eq_some_iff.mp published
  dsimp only at published
  split at published
  · exact .inl (runtime_resume_shrinks published worker job queued)
  rename_i view found
  obtain ⟨program,goesOn,published⟩ := Option.bind_eq_some_iff.mp published
  have grown := outcome_of_wp (publishResult_grows goesOn)
  have known := view_ctx found
  have named := (delivering.named _ _ known).1
  have site : callSite runtime (.publish publishing answer moment) =
      some (result.sessionId,moment,utteredAt view.ctx result) := by
    simp [callSite,publishes,known]
  rw [← view_scheduler found]
  split at published <;> rename_i after ran <;> rw [ran] at grown
  · refine sized_of_grown named grown site rfl ?_ (runtime_resume_shrinks published worker job queued)
    rw [resume_contexts published]
    exact Function.update_self _ _ _
  · cases published
    exact sized_of_grown named grown site rfl (Function.update_self _ _ _) queued
  · refine sized_of_grown named grown site rfl ?_ (runtime_resume_shrinks published worker job queued)
    rw [resume_contexts published]
    exact Function.update_self _ _ _

/-- Every job that a step enqueues is made by a call of `_schedule_next`. -/
theorem step_sized (delivering : Delivering config runtime) (enqueues : Enqueues config runtime action next worker job) :
    Sized config runtime action next worker job := by
  obtain ⟨stepped,queued,fresh⟩ := enqueues
  have unfed : ∀ {sessionId : SessionId} {before after : View V}, runtime.view sessionId = some before → Unfed before after →
      job ∈ after.scheduler.queues worker → Sized config runtime action next worker job := by
    intro sessionId before after found unfed member
    rw [unfed,view_scheduler found] at member
    exact absurd member fresh
  unfold GatewayRuntime.step at stepped
  split at stepped
  · cases stepped
  cases action with
  | openSession sessionId worker backendSessionId language options now =>
    dsimp only at stepped
    split at stepped <;> cases stepped
    exact absurd queued fresh
  | command sessionId call =>
    obtain ⟨view,found,stepped⟩ := Option.bind_eq_some_iff.mp stepped
    obtain ⟨program,issued,stepped⟩ := Option.bind_eq_some_iff.mp stepped
    cases stepped
    exact unfed found (runHandler_of_wp (command_loose unfed_loose issued view rfl)) queued
  | proceed sessionId input moment =>
    obtain ⟨view,found,stepped⟩ := Option.bind_eq_some_iff.mp stepped
    obtain ⟨program,goesOn,stepped⟩ := Option.bind_eq_some_iff.mp stepped
    cases stepped
    have grown : Grown config moment view.ctx.utteranceSamples view (runHandler program view) :=
      runHandler_of_wp (wp_mono (proceed_grows goesOn) (fun _ _ grown => grown) fun _ next grown => grown_loose next _ rfl rfl grown)
    have known := view_ctx found
    have site : callSite runtime (.proceed sessionId input moment) = some (sessionId,moment,view.ctx.utteranceSamples) := by
      simp [callSite,known]
    have written : (runtime.write sessionId (runHandler program view)).contexts sessionId = some (runHandler program view).ctx :=
      Function.update_self _ _ _
    rcases sized_of_grown (delivering.named _ _ known).1 grown site rfl written queued with old | sized
    · rw [view_scheduler found] at old
      exact absurd old fresh
    · exact sized
  | abort sessionId =>
    obtain ⟨view,found,stepped⟩ := Option.bind_eq_some_iff.mp stepped
    cases stepped
    exact unfed found (runTask_of_wp (abort_loose unfed_loose view rfl)) queued
  | resumeAbort sessionId task =>
    obtain ⟨view,found,stepped⟩ := Option.bind_eq_some_iff.mp stepped
    obtain ⟨program,resumes,stepped⟩ := Option.bind_eq_some_iff.mp stepped
    cases stepped
    exact unfed found (runTask_of_wp (resumeAbort_loose unfed_loose resumes view rfl)) queued
  | send sessionId =>
    obtain ⟨view,found,stepped⟩ := Option.bind_eq_some_iff.mp stepped
    obtain ⟨program,sends,stepped⟩ := Option.bind_eq_some_iff.mp stepped
    cases stepped
    exact unfed found (runTask_of_wp (send_loose unfed_loose sends view rfl)) queued
  | runOnce resumed force now =>
    dsimp only at stepped
    split at stepped <;> cases stepped
    exact absurd (runOnce_shrinks worker job queued) fresh
  | submitted resumed reply now =>
    dsimp only at stepped
    split at stepped
    · cases stepped
    · exact absurd (runtime_resume_shrinks stepped worker job queued) fresh
  | hook resumed now => exact absurd (hook_shrinks stepped worker job queued) fresh
  | publish publishing answer moment => exact (publish_sized delivering stepped queued).resolve_left fresh
  | closeScheduler =>
    cases stepped
    exact absurd queued fresh

theorem step_fits_iff (delivering : Delivering config runtime) :
    JobsFit config runtime action ↔ Roomy config runtime action := by
  constructor
  · intro fit next worker job enqueues
    obtain ⟨moment,uttered,ctx,site,timed,known,same,fits⟩ := step_sized delivering enqueues
    obtain ⟨again,other,timed',known',within⟩ := fit next worker job enqueues
    cases timed.symm.trans timed'
    cases known.symm.trans known'
    rw [same] at within
    exact ⟨moment,uttered,site,fits.mp within⟩
  · intro room next worker job enqueues
    obtain ⟨moment,uttered,ctx,site,timed,known,same,fits⟩ := step_sized delivering enqueues
    obtain ⟨again,other,site',has⟩ := room next worker job enqueues
    cases site.symm.trans site'
    exact ⟨moment,ctx,timed,known,by rw [same]; exact fits.mpr has⟩

end

/-- In a run, every job that is enqueued is within the limits exactly if every one was made where its segment had room. -/
theorem jobs_fit_iff (config : GatewayConfig V) (actions : List GatewayAction) :
    Machine.Along (GatewayRuntime.step config) (JobsFit config) .init actions ↔
      Machine.Along (GatewayRuntime.step config) (Roomy config) .init actions := by
  have delivering : Machine.Along (GatewayRuntime.step config) (fun runtime _ => Delivering config runtime) .init actions :=
    Machine.along_of_invariant _ (fun _ _ _ => step_delivering) init_delivering actions
  constructor
  · exact fun fit => (delivering.and _ fit).mono _ fun _ _ both => (step_fits_iff both.1).mp both.2
  · exact fun room => (delivering.and _ room).mono _ fun _ _ both => (step_fits_iff both.1).mpr both.2

/-- A job takes all the samples of its segment. While it runs the client sends more, and then the adapter fails to
    finish the segment. -/
def unfinishedSegment : List GatewayAction :=
  [.openSession ['s'] ['w'] [] [] ⟨[],false,[],[]⟩ 0,.proceed ['s'] .go ⟨0,.ok 0⟩,
    .command ['s'] (.ingest [1,0,2,0,3,0,4,0] true),.proceed ['s'] .go ⟨0,.ok 0⟩,.runOnce ['w'] true 0,
    .submitted ['w'] (.results [some { firstResult with endSample := 4 }]) 0,.hook ['w'] 0,
    .command ['s'] (.ingest [5,0,6,0] true),.publish ['w'] (.ok {}) ⟨0,.ok 0⟩,
    .publish ['w'] (.error (.runtimeError "finish failed")) ⟨0,.ok 0⟩]

/-- The waiting frame takes the lock before the failure does, and a job of two samples is enqueued where none are left. -/
theorem full_segment_exceeded : ∃ runtime next job ctx, Reached smallGateway unfinishedSegment runtime ∧
    Enqueues smallGateway runtime (.proceed ['s'] .go ⟨0,.ok 0⟩) next ['w'] job ∧ next.contexts job.sessionId = some ctx ∧
      ctx.utteranceSamples = 4 ∧ (smallGateway.scheduler.capabilities ['w']).maxSegmentSamples = 4 ∧ job.sampleCount = 2 ∧
      ¬Machine.Along (GatewayRuntime.step smallGateway) (JobsFit smallGateway) .init
        (unfinishedSegment ++ [.proceed ['s'] .go ⟨0,.ok 0⟩]) := by
  have ran : ((Machine.run (GatewayRuntime.step smallGateway) .init unfinishedSegment).bind fun runtime =>
      (runtime.step smallGateway (.proceed ['s'] .go ⟨0,.ok 0⟩)).bind fun next =>
        (next.scheduler.queues ['w']).head?.bind fun job => (next.contexts job.sessionId).map fun ctx =>
          (runtime.scheduler.queues ['w'],ctx.utteranceSamples,job.sampleCount)) = some ([],4,2) := by decide +kernel
  obtain ⟨runtime,reached,ran⟩ := Option.bind_eq_some_iff.mp ran
  obtain ⟨next,stepped,ran⟩ := Option.bind_eq_some_iff.mp ran
  obtain ⟨job,queued,ran⟩ := Option.bind_eq_some_iff.mp ran
  obtain ⟨ctx,known,seen⟩ := Option.map_eq_some_iff.mp ran
  obtain ⟨empty,seen⟩ := Prod.mk.inj seen
  obtain ⟨uttered,samples⟩ := Prod.mk.inj seen
  have enqueues : Enqueues smallGateway runtime (.proceed ['s'] .go ⟨0,.ok 0⟩) next ['w'] job :=
    ⟨stepped,List.mem_of_mem_head? queued,by rw [empty]; exact List.not_mem_nil⟩
  refine ⟨runtime,next,job,ctx,reached,enqueues,known,uttered,rfl,samples,fun fit => ?_⟩
  obtain ⟨_,fit,_⟩ := (Machine.along_append _ reached).mp fit
  obtain ⟨moment,other,_,known',within⟩ := fit next ['w'] job enqueues
  cases known.symm.trans known'
  have segment := within.segment
  rw [uttered,samples] at segment
  exact absurd segment (by decide)

end SpeechGateway.Gateway
