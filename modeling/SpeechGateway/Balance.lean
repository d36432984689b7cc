import SpeechGateway.Endings
import SpeechGateway.Listening

/-!
What a session with a detector accounts for. Samples are accepted before the detector hears
them, and are buffered or counted as discarded once it has decided; those it has not decided
about are pending. A session that fails counts them as discarded, and leaves its detector as
it is.
-/
namespace SpeechGateway.Gateway
open SpeechGateway.Backends SpeechGateway.Protocol SpeechGateway.Vad SpeechGateway.Chunking SpeechGateway.Sessions
  SpeechGateway.Scheduling SpeechGateway.Settlement Programs

/-- The pending samples, without the clamp of `sample_accounting`. -/
def pendingInput (session : GatewaySession) : Int :=
  (session.acceptedSamples : Int) - session.buffer.acceptedSamples - session.externalDiscardedSamples

/-- What was accepted is in the buffer, has left it, was discarded outside of it or is pending,
    and what is buffered or pending fits into the buffer. -/
structure Balanced (session : GatewaySession) : Prop where
  coherent : Coherent session
  positive : 0 < session.generation
  whole : session.buffer.data.length % 2 = 0
  counted : session.buffer.acceptedSamples =
    sampleCount session.buffer.data + session.buffer.acknowledgedSamples + session.buffer.discardedSamples
  reserved : session.buffer.reservedSamples ≤ sampleCount session.buffer.data
  pending : session.buffer.acceptedSamples + session.externalDiscardedSamples ≤ session.acceptedSamples
  within : sampleCount session.buffer.data + session.pendingVad ≤ session.buffer.maxSamples
  past : session.terminalState = .aborted ∨ session.terminalState = .failed → 1 < session.generation

/-- The session takes audio. -/
def Taking (session : GatewaySession) : Prop := session.terminalState = .opened ∨ session.terminalState = .finishing

section
variable {session next : GatewaySession}

/-- Accepted samples are buffered, reserved, acknowledged, discarded or pending. -/
theorem Balanced.identity (balanced : Balanced session) :
    (session.acceptedSamples : Int) = session.buffer.bufferedSamples + session.buffer.reservedSamples +
      session.buffer.acknowledgedSamples + (session.buffer.discardedSamples + session.externalDiscardedSamples) +
      pendingInput session := by
  have counted := balanced.counted
  have reserved := balanced.reserved
  unfold pendingInput PcmRingBuffer.bufferedSamples
  omega

theorem Balanced.clamped (balanced : Balanced session) : (session.pendingVad : Int) = pendingInput session := by
  have pending := balanced.pending
  unfold pendingInput GatewaySession.pendingVad
  omega

theorem Balanced.limited (balanced : Balanced session) :
    session.buffer.bufferedSamples + session.buffer.reservedSamples + session.pendingVad ≤ session.buffer.maxSamples := by
  have reserved := balanced.reserved
  have within := balanced.within
  unfold PcmRingBuffer.bufferedSamples
  omega

theorem sampleCount_extend {data pcm : Pcm} (whole : data.length % 2 = 0) :
    sampleCount (data ++ pcm) = sampleCount data + sampleCount pcm := by
  simp only [sampleCount,List.length_append]
  omega

/-- The pending samples that the detector released are appended. -/
theorem append_balanced {pcm : Pcm} (balanced : Balanced session) (fits : sampleCount pcm ≤ session.pendingVad)
    (appends : session.appendPcm pcm false = .ok next) :
    Balanced next ∧ next.pendingVad = session.pendingVad - sampleCount pcm ∧ SameLife session next := by
  obtain ⟨taking,buffer,grown,rfl⟩ := appendPcm_eq appends
  have life := appendPcm_life appends
  obtain ⟨reservation,_⟩ := append_reservation grown
  unfold PcmRingBuffer.append at grown
  split at grown
  · cases grown
  rename_i even
  dsimp only at grown
  split at grown
  · cases grown
  cases grown
  obtain ⟨coherent,positive,whole,counted,reserved,pending,within,past⟩ := balanced
  have length : sampleCount (session.buffer.data ++ pcm) = _ := sampleCount_extend whole
  unfold GatewaySession.pendingVad at *
  refine ⟨⟨coherent,positive,?_,?_,?_,?_,?_,past⟩,?_,life⟩
  · simp only [List.length_append]
    omega
  · dsimp only
    omega
  · unfold PcmRingBuffer.reservedSamples at *
    dsimp only
    omega
  · dsimp only
    omega
  · simp only [GatewaySession.pendingVad,Bool.false_eq_true,if_false]
    omega
  · simp only [Bool.false_eq_true,if_false]
    omega

/-- Without a detector nothing is pending, and what is appended is accepted. -/
theorem append_unheard {pcm : Pcm} (balanced : Balanced session) (unheard : session.pendingVad = 0)
    (appends : session.appendPcm pcm true = .ok next) :
    Balanced next ∧ next.pendingVad = 0 ∧ SameLife session next := by
  obtain ⟨_,buffer,grown,rfl⟩ := appendPcm_eq appends
  have life := appendPcm_life appends
  unfold PcmRingBuffer.append at grown
  split at grown
  · cases grown
  rename_i even
  dsimp only at grown
  split at grown
  · cases grown
  rename_i room
  cases grown
  obtain ⟨coherent,positive,whole,counted,reserved,pending,within,past⟩ := balanced
  have length : sampleCount (session.buffer.data ++ pcm) = _ := sampleCount_extend whole
  simp only [GatewaySession.pendingVad] at unheard within
  refine ⟨⟨coherent,positive,?_,?_,?_,?_,?_,past⟩,?_,life⟩
  · simp only [List.length_append]
    omega
  · dsimp only
    omega
  · unfold PcmRingBuffer.reservedSamples at *
    dsimp only
    omega
  · simp only [if_true]
    omega
  · simp only [GatewaySession.pendingVad,if_true]
    omega
  · simp only [GatewaySession.pendingVad,if_true]
    omega

/-- Pending whole samples can be appended while the session takes audio. -/
theorem append_fits {pcm : Pcm} (balanced : Balanced session) (fits : sampleCount pcm ≤ session.pendingVad)
    (whole : pcm.length % 2 = 0) (countAccepted : Bool) {exc : PyError}
    (refused : session.appendPcm pcm countAccepted = .error exc) :
    ¬Taking session ∧ exc = .runtimeError "session is terminal" := by
  unfold GatewaySession.appendPcm at refused
  split at refused
  · rename_i terminal
    cases refused
    exact ⟨fun taking => taking.elim terminal.1 terminal.2,rfl⟩
  have room : ¬session.buffer.maxSamples < sampleCount session.buffer.data + sampleCount pcm := by
    have within := balanced.within
    omega
  rw [PcmRingBuffer.append,if_neg (by omega)] at refused
  dsimp only at refused
  rw [if_neg room] at refused
  cases refused

theorem discard_balanced {samples : Nat} (balanced : Balanced session)
    (records : session.recordDiscarded samples = .ok next) :
    Balanced next ∧ next.pendingVad = session.pendingVad - samples ∧ SameLife session next := by
  obtain ⟨fits,rfl⟩ := recordDiscarded_eq records
  obtain ⟨coherent,positive,whole,counted,reserved,pending,within,past⟩ := balanced
  simp only [GatewaySession.pendingVad] at fits within
  refine ⟨⟨coherent,positive,whole,counted,reserved,?_,?_,past⟩,?_,⟨rfl,rfl,rfl,rfl,rfl⟩⟩
  · dsimp only
    omega
  · simp only [GatewaySession.pendingVad]
    omega
  · simp only [GatewaySession.pendingVad]
    omega

theorem discard_fits {samples : Nat} (fits : samples ≤ session.pendingVad) {exc : PyError} :
    session.recordDiscarded samples ≠ .error exc := by
  rw [GatewaySession.recordDiscarded,if_neg (by omega)]
  simp

theorem accept_balanced {pcm : Pcm} (balanced : Balanced session) (accepts : session.acceptVadInput pcm = .ok next) :
    Balanced next ∧ next.pendingVad = session.pendingVad + sampleCount pcm ∧ SameLife session next := by
  unfold GatewaySession.acceptVadInput at accepts
  split at accepts
  · cases accepts
  dsimp only at accepts
  split at accepts
  · cases accepts
  rename_i fits
  cases accepts
  obtain ⟨coherent,positive,whole,counted,reserved,pending,within,past⟩ := balanced
  simp only [GatewaySession.pendingVad,PcmRingBuffer.bufferedSamples] at fits within
  refine ⟨⟨coherent,positive,whole,counted,reserved,?_,?_,past⟩,?_,⟨rfl,rfl,rfl,rfl,rfl⟩⟩
  · dsimp only
    omega
  · simp only [GatewaySession.pendingVad]
    omega
  · simp only [GatewaySession.pendingVad]
    omega

/-- The accounts of two sessions are the same, and what is reserved is buffered. -/
structure SameAccounts (session next : GatewaySession) : Prop where
  life : SameLife session next
  buffer : next.buffer = { session.buffer with reservation := next.buffer.reservation }
  accepted : next.acceptedSamples = session.acceptedSamples
  external : next.externalDiscardedSamples = session.externalDiscardedSamples
  reserved : session.buffer.reservedSamples ≤ sampleCount session.buffer.data →
    next.buffer.reservedSamples ≤ sampleCount next.buffer.data

theorem SameAccounts.refl {session : GatewaySession} : SameAccounts session session :=
  ⟨⟨rfl,rfl,rfl,rfl,rfl⟩,rfl,rfl,rfl,id⟩

theorem SameAccounts.trans {first second third : GatewaySession} (same : SameAccounts first second)
    (later : SameAccounts second third) : SameAccounts first third where
  life := same.life.trans later.life
  buffer := by rw [later.buffer,same.buffer]
  accepted := later.accepted.trans same.accepted
  external := later.external.trans same.external
  reserved fits := later.reserved (same.reserved fits)

theorem SameAccounts.pendingVad (same : SameAccounts session next) : next.pendingVad = session.pendingVad := by
  rw [GatewaySession.pendingVad,GatewaySession.pendingVad,same.accepted,same.external,same.buffer]

theorem Balanced.same (balanced : Balanced session) (same : SameAccounts session next) (coherent : Coherent next) :
    Balanced next := by
  have reserved := same.reserved balanced.reserved
  have pendingVad := same.pendingVad
  obtain ⟨life,buffer,accepted,external,_⟩ := same
  obtain ⟨_,positive,whole,counted,_,pending,within,past⟩ := balanced
  rw [life.terminalState.symm,life.generation.symm] at past
  refine ⟨coherent,life.generation ▸ positive,?_,?_,reserved,?_,?_,past⟩
  · rwa [buffer]
  · rwa [buffer]
  · rwa [buffer,accepted,external]
  · rw [pendingVad,buffer]
    exact within

theorem reserve_accounts {samples : Nat} {final : Bool} {reservation : SessionReservation}
    (reserves : session.reserve samples final = .ok (reservation,next)) : SameAccounts session next := by
  have life := reserve_life reserves
  obtain ⟨_,chunk,buffer,range,rfl,rfl⟩ := reserve_eq reserves
  obtain ⟨free,_,fits,starts,stops,rfl⟩ := reserveRange_eq range
  refine ⟨life,rfl,rfl,rfl,fun _ => ?_⟩
  simp only [PcmRingBuffer.bufferedSamples,PcmRingBuffer.reservedSamples,free,Option.map_none,Option.map_some,Option.getD_some,
    Option.getD_none,ReadyChunk.sampleCount,starts,stops] at fits ⊢
  omega

theorem rollback_accounts {jobSequence : Nat} {held : Bool} (coherent : Coherent session)
    (rollsBack : session.rollback jobSequence = .ok (held,next)) : SameAccounts session next := by
  have life := rollback_life rollsBack
  cases found : session.reservation with
  | none =>
    simp only [GatewaySession.rollback,found] at rollsBack
    cases rollsBack
    exact .refl
  | some reservation =>
    by_cases own : reservation.jobSequence = jobSequence
    · subst own
      rw [rollback_eq coherent found] at rollsBack
      cases rollsBack
      exact ⟨life,rfl,rfl,rfl,fun _ => Nat.zero_le _⟩
    · simp only [GatewaySession.rollback,found,if_pos own] at rollsBack
      cases rollsBack
      exact .refl

/-- The acknowledged samples leave the buffer. -/
theorem acknowledge_balanced {jobSequence generation : Nat} (balanced : Balanced session)
    (acknowledges : session.acknowledge jobSequence generation = .ok next) :
    Balanced next ∧ next.pendingVad = session.pendingVad ∧ SameLife session next := by
  obtain ⟨coherent,life⟩ := acknowledge_coherent acknowledges
  unfold GatewaySession.acknowledge at acknowledges
  split at acknowledges
  · cases acknowledges
  split at acknowledges
  · cases acknowledges
  rename_i reservation found
  split at acknowledges
  · cases acknowledges
  have holds := balanced.coherent
  rw [Coherent,found,Option.map_some] at holds
  obtain ⟨_,positive,whole,counted,reserved,pending,within,past⟩ := balanced
  simp only [PcmRingBuffer.reservedSamples,holds,Option.map_some,Option.getD_some] at reserved
  simp only [PcmRingBuffer.acknowledge,PcmRingBuffer.requireReservation,holds,bind,Except.bind,if_true,
    Except.ok.injEq] at acknowledges
  subst acknowledges
  have length : sampleCount (session.buffer.data.drop (reservation.chunk.sampleCount * 2)) =
      sampleCount session.buffer.data - reservation.chunk.sampleCount := by
    simp only [sampleCount,List.length_drop]
    omega
  simp only [GatewaySession.pendingVad] at within
  refine ⟨⟨coherent,positive,?_,?_,Nat.zero_le _,pending,?_,past⟩,rfl,life⟩
  · simp only [List.length_drop]
    omega
  · simp only [length]
    omega
  · simp only [GatewaySession.pendingVad,length]
    omega

/-- An abort discards all that is buffered or pending, unless the session has been aborted or
    has failed. -/
theorem abort_balanced (balanced : Balanced session) : ∃ next, session.abort = .ok next ∧ Balanced next ∧
    next.buffer.maxSamples = session.buffer.maxSamples ∧
    ((session.terminalState = .aborted ∨ session.terminalState = .failed) ∧ next = session ∨
      next.terminalState = .aborted ∧ next.pendingVad = 0) := by
  by_cases past : session.terminalState = .aborted ∨ session.terminalState = .failed
  · exact ⟨session,by rw [GatewaySession.abort,if_pos past],balanced,rfl,.inl ⟨past,rfl⟩⟩
  obtain ⟨coherent,positive,whole,counted,reserved,pending,within,_⟩ := balanced
  have all : { session.buffer with reservation := none }.bufferedSamples = sampleCount session.buffer.data := by
    simp [PcmRingBuffer.bufferedSamples,PcmRingBuffer.reservedSamples]
  simp only [GatewaySession.pendingVad] at within
  rw [GatewaySession.abort,if_neg past,dropReservation_eq coherent]
  simp only [bind,Except.bind,all]
  by_cases empty : sampleCount session.buffer.data = 0
  · simp only [empty,if_true]
    refine ⟨_,rfl,⟨rfl,Nat.succ_pos _,whole,counted,Nat.zero_le _,?_,?_,fun _ => Nat.succ_lt_succ positive⟩,rfl,.inr ⟨rfl,?_⟩⟩
    · simp only [GatewaySession.pendingVad]
      omega
    · simp only [GatewaySession.pendingVad]
      omega
    · simp only [GatewaySession.pendingVad]
      omega
  · have discards : { session.buffer with reservation := none }.discard (sampleCount session.buffer.data) = .ok
        { session.buffer with
          data := session.buffer.data.drop (sampleCount session.buffer.data * 2)
          baseSample := session.buffer.baseSample + sampleCount session.buffer.data
          discardedSamples := session.buffer.discardedSamples + sampleCount session.buffer.data
          reservation := none } := by
      simp [PcmRingBuffer.discard,all]
    have length : sampleCount (session.buffer.data.drop (sampleCount session.buffer.data * 2)) = 0 := by
      simp only [sampleCount,List.length_drop]
      omega
    simp only [empty,if_false,discards]
    refine ⟨_,rfl,⟨rfl,Nat.succ_pos _,?_,?_,Nat.zero_le _,?_,?_,fun _ => Nat.succ_lt_succ positive⟩,rfl,.inr ⟨rfl,?_⟩⟩
    · simp only [List.length_drop]
      omega
    · simp only [length]
      omega
    · simp only [GatewaySession.pendingVad]
      omega
    · simp only [GatewaySession.pendingVad,length]
      omega
    · simp only [GatewaySession.pendingVad]
      omega

theorem fail_balanced (balanced : Balanced session) : ∃ next, session.fail = .ok next ∧ Balanced next ∧
    next.terminalState = .failed ∧ (session.pendingVad = 0 → next.pendingVad = 0) := by
  obtain ⟨next,aborts,⟨coherent,positive,whole,counted,reserved,pending,within,past⟩,_,ends⟩ := abort_balanced balanced
  refine ⟨{ next with terminalState := .failed },by rw [GatewaySession.fail,aborts]; rfl,
    ⟨coherent,positive,whole,counted,reserved,pending,within,fun _ => past ?_⟩,rfl,fun none => ?_⟩
  · rcases ends with ⟨past,rfl⟩ | ⟨aborted,_⟩
    · exact past
    · exact .inl aborted
  · rcases ends with ⟨_,rfl⟩ | ⟨_,nothing⟩
    · exact none
    · exact nothing

/-- Only how the session stands changes. -/
theorem Balanced.restate (balanced : Balanced session) {state : TerminalState} {requested : Bool}
    (running : state ≠ .aborted ∧ state ≠ .failed) :
    Balanced { session with terminalState := state, finishRequested := requested } := by
  obtain ⟨coherent,positive,whole,counted,reserved,pending,within,_⟩ := balanced
  exact ⟨coherent,positive,whole,counted,reserved,pending,within,fun past => past.elim (absurd · running.1) (absurd · running.2)⟩

theorem close_balanced (balanced : Balanced session) : Balanced session.close := by
  rw [GatewaySession.close]
  split
  · exact balanced
  · obtain ⟨coherent,positive,whole,counted,reserved,pending,within,past⟩ := balanced
    exact ⟨coherent,Nat.succ_pos _,whole,counted,reserved,pending,within,fun ends => Nat.lt_succ_of_lt (past ends)⟩

end

/-! ## The accounts of a detector -/

variable {V : Type} {config : GatewayConfig V} {view : View V}

/-- What the detector retains; no detector retains nothing. -/
def heldBy (config : GatewayConfig V) (vad : Option V) : Nat := vad.elim 0 config.detector.held

/-- The session is terminal, which is all that may be wrong with the audio. -/
def Refusal.Terminal : Refusal → Prop
  | .append exc => exc = .runtimeError "session is terminal"
  | .discard _ => False

/-- The pending samples are those that the detector retains, and `owed` others that it has yet to
    hear or has decided about. After the end of the session they may be more. A session that has
    failed accounts for nothing that its detector had retained then. -/
structure Booked (config : GatewayConfig V) (owed : Nat) (session : GatewaySession) (vad : Option V)
    (refusals : List Refusal) : Prop where
  balanced : Balanced session
  retained : ¬Over session → Taking session ∧ session.pendingVad = heldBy config vad + owed
  covered : session.terminalState ≠ .failed → session.terminalState ≠ .succeeded →
    heldBy config vad + owed ≤ session.pendingVad
  unheard : vad = none → session.pendingVad = 0
  refusals : ∀ refusal ∈ refusals, refusal.Terminal

/-- Where the coroutines of the session may stand. -/
structure Placed (session : GatewaySession) (vad : Option V) (handler : Handler) (publication : Publication) : Prop where
  closed : session.terminalState = .succeeded → handler = .closed
  segmenting : publication.segmenting = true → session.terminalState ≠ .failed ∧ session.terminalState ≠ .succeeded
  exclusive : handler.holdsLock = true → publication.holdsLock = false
  accepts : ∀ pcm force, handler = .ingestAccept pcm force → vad ≠ none
  appends : ∀ pcm force decision, handler = .ingestAppend pcm force decision → decision = none ∧ vad = none

/-- The accounts of a session are in order, and its coroutines stand where they may. -/
structure Audited (config : GatewayConfig V) (owed : Nat) (ctx : SessionContext V) : Prop where
  booked : Booked config owed ctx.session ctx.vad ctx.refusals
  placed : Placed ctx.session ctx.vad ctx.handler ctx.publication

section
variable {session next : GatewaySession} {vad : Option V} {refusals : List Refusal} {owed : Nat}

/-- The detector hears what it owes, and owes what it decided. -/
theorem Booked.hear {heard later : V} {samples : Nat} (booked : Booked config owed session (some heard) refusals)
    (conserves : samples + config.detector.held later = config.detector.held heard + owed) :
    Booked config samples session (some later) refusals := by
  obtain ⟨balanced,retained,covered,_,terminal⟩ := booked
  refine ⟨balanced,fun running => ?_,fun failed succeeded => ?_,by simp,terminal⟩
  · obtain ⟨taking,pending⟩ := retained running
    refine ⟨taking,?_⟩
    simp only [heldBy,Option.elim_some] at *
    omega
  · have covers := covered failed succeeded
    simp only [heldBy,Option.elim_some] at *
    omega

theorem Taking.of_life (taking : Taking session) (life : SameLife session next) : Taking next := by
  rwa [Taking,life.terminalState]

/-- The session accepts samples for its detector to hear. -/
theorem Booked.accept {samples : Nat} (booked : Booked config 0 session vad refusals) (life : SameLife session next)
    (balanced : Balanced next) (pending : next.pendingVad = session.pendingVad + samples)
    (covers : heldBy config vad ≤ session.pendingVad) (heard : vad ≠ none) : Booked config samples next vad refusals := by
  obtain ⟨_,retained,_,_,terminal⟩ := booked
  refine ⟨balanced,fun first => ?_,fun _ _ => ?_,fun none => absurd none heard,terminal⟩
  · obtain ⟨taking,same⟩ := retained fun gone => first (gone.of_life life)
    exact ⟨taking.of_life life,by omega⟩
  · omega

/-- Samples leave what is owed and what is pending. -/
theorem Booked.pay {samples : Nat} (booked : Booked config owed session vad refusals) (life : SameLife session next)
    (balanced : Balanced next) (pays : next.pendingVad = session.pendingVad - samples) (fits : samples ≤ owed) :
    Booked config (owed - samples) next vad refusals := by
  obtain ⟨_,retained,covered,unheard,terminal⟩ := booked
  refine ⟨balanced,fun running => ?_,fun failed succeeded => ?_,fun none => ?_,terminal⟩
  · obtain ⟨taking,pending⟩ := retained fun gone => running (gone.of_life life)
    exact ⟨taking.of_life life,by omega⟩
  · rw [life.terminalState] at failed succeeded
    have covers := covered failed succeeded
    omega
  · have := unheard none
    omega

/-- A terminal session no longer has to account for what it owes. -/
theorem Booked.forgive (booked : Booked config owed session vad refusals) (terminal : ¬Taking session) {more : List Refusal}
    (refused : ∀ refusal ∈ more, refusal.Terminal) : Booked config 0 session vad (refusals ++ more) := by
  obtain ⟨balanced,retained,covered,unheard,before⟩ := booked
  refine ⟨balanced,fun running => absurd (retained running).1 terminal,fun failed succeeded => ?_,unheard,?_⟩
  · have covers := covered failed succeeded
    omega
  · intro refusal member
    exact (List.mem_append.mp member).elim (before refusal) (refused refusal)

theorem Booked.same (booked : Booked config owed session vad refusals) (same : SameAccounts session next)
    (coherent : Coherent next) : Booked config owed next vad refusals := by
  exact booked.pay same.life (booked.balanced.same same coherent) same.pendingVad (Nat.zero_le owed)

theorem Booked.close (booked : Booked config 0 session vad refusals) :
    Booked config 0 session.close vad refusals ∧ session.close.terminalState = session.terminalState := by
  have balanced := close_balanced booked.balanced
  have positive := booked.balanced.positive
  by_cases past : session.terminalState = .aborted ∨ session.terminalState = .failed
  · rw [GatewaySession.close,if_pos past]
    exact ⟨booked,rfl⟩
  · rw [GatewaySession.close,if_neg past] at balanced ⊢
    obtain ⟨_,_,covered,unheard,terminal⟩ := booked
    exact ⟨⟨balanced,fun first => absurd (.inl (Nat.succ_lt_succ positive)) first,covered,unheard,terminal⟩,rfl⟩

end

section
variable {session next : GatewaySession} {vad : Option V} {handler : Handler} {publication : Publication}

theorem Placed.wake (placed : Placed session vad handler publication) : Placed session vad handler.wake publication := by
  obtain ⟨closed,segmenting,exclusive,accepts,appends⟩ := placed
  refine ⟨fun succeeded => by rw [closed succeeded]; rfl,segmenting,by rwa [wake_holdsLock],fun pcm force stands => ?_,
    fun pcm force decision stands => ?_⟩
  · refine accepts pcm force ?_
    cases handler <;> first | exact stands | cases stands
  · refine appends pcm force decision ?_
    cases handler <;> first | exact stands | cases stands

theorem Placed.same (placed : Placed session vad handler publication)
    (same : next.terminalState = session.terminalState) : Placed next vad handler publication := by
  obtain ⟨closed,segmenting,exclusive,accepts,appends⟩ := placed
  rw [← same] at closed segmenting
  exact ⟨closed,segmenting,exclusive,accepts,appends⟩

/-- The handler goes where it does not hold the lock. -/
theorem Placed.goto {stands : Handler} (placed : Placed session vad stands publication)
    (running : session.terminalState ≠ .succeeded) (outside : handler.holdsLock = false) :
    Placed session vad handler publication := by
  refine ⟨fun succeeded => absurd succeeded running,placed.segmenting,?_,?_,?_⟩
  · simp [outside]
  · rintro pcm force rfl
    cases outside
  · rintro pcm force decision rfl
    cases outside

/-- The handler takes the lock, to wait for the adapter. -/
theorem Placed.enter {stands : Handler} (placed : Placed session vad stands publication)
    (running : session.terminalState ≠ .succeeded) (free : publication.holdsLock = false)
    (accepts : ∀ pcm force, handler ≠ .ingestAccept pcm force)
    (appends : ∀ pcm force decision, handler ≠ .ingestAppend pcm force decision) :
    Placed session vad handler publication :=
  ⟨fun succeeded => absurd succeeded running,placed.segmenting,fun _ => free,fun pcm force stands => absurd stands (accepts pcm force),
    fun pcm force decision stands => absurd stands (appends pcm force decision)⟩

theorem Placed.show {shown : Publication} (placed : Placed session vad handler publication)
    (outside : shown.holdsLock = true → handler.holdsLock = false)
    (running : shown.segmenting = true → session.terminalState ≠ .failed ∧ session.terminalState ≠ .succeeded) :
    Placed session vad handler shown := by
  refine ⟨placed.closed,running,fun holds => ?_,placed.accepts,placed.appends⟩
  by_contra taken
  rw [Bool.not_eq_false] at taken
  rw [outside taken] at holds
  cases holds

end

section
variable {guarded : Prop} {goes : Handler → Prop} {out : Publication → Prop} {start : View V} {owed : Nat}

theorem worked_accounts (worked : Worked config guarded False goes out start view) (coherent : Coherent start.ctx.session) :
    SameAccounts start.ctx.session view.ctx.session ∧ Coherent view.ctx.session ∧ view.ctx.vad = start.ctx.vad ∧
      view.ctx.refusals = start.ctx.refusals := by
  induction worked with
  | refl => exact ⟨.refl,coherent,rfl,rfl⟩
  | tail _ work ih =>
    obtain ⟨same,coherent,vad,refusals⟩ := ih
    have kept := work_coherent work coherent
    cases work with
    | inner inner =>
      refine ⟨?_,kept,inner.vad.trans vad,inner.refusals.trans refusals⟩
      rwa [inner.session]
    | schedule _ _ _ reserves => exact ⟨same.trans (reserve_accounts reserves),kept,vad,refusals⟩
    | refuse reserves rollsBack =>
      have later := (reserve_accounts reserves).trans (rollback_accounts (reserve_coherent reserves) rollsBack)
      exact ⟨same.trans later,kept,vad,refusals⟩
    | _ => first | exact ⟨same,kept,vad,refusals⟩ | exact (‹False›).elim

theorem worked_audited (worked : Worked config guarded False goes out start view) (audited : Audited config owed start.ctx)
    (places : ∀ handler, goes handler → start.ctx.handler ≠ .closed ∧ handler.holdsLock = false)
    (shows : ∀ publication, out publication → (publication.holdsLock = true → start.ctx.handler.holdsLock = false) ∧
      (publication.segmenting = true →
        start.ctx.session.terminalState ≠ .failed ∧ start.ctx.session.terminalState ≠ .succeeded)) :
    Audited config owed view.ctx := by
  obtain ⟨booked,placed⟩ := audited
  obtain ⟨same,coherent,vad,refusals⟩ := worked_accounts worked booked.balanced.coherent
  refine ⟨?_,?_⟩
  · rw [vad,refusals]
    exact booked.same same coherent
  rw [vad]
  refine Placed.same ?_ same.life.terminalState
  have stands : Placed start.ctx.session start.ctx.vad view.ctx.handler start.ctx.publication ∧
      (view.ctx.handler.holdsLock = true → start.ctx.handler.holdsLock = true) := by
    have stands := worked_handler worked
    generalize view.ctx.handler = handler at stands
    induction stands with
    | still => exact ⟨placed,id⟩
    | gone allowed =>
      obtain ⟨running,outside⟩ := places _ allowed
      exact ⟨placed.goto (fun succeeded => running (placed.closed succeeded)) outside,by simp [outside]⟩
    | woken _ ih => exact ⟨ih.1.wake,by rw [wake_holdsLock]; exact ih.2⟩
  rcases worked_publication worked with still | shown
  · rw [still]
    exact stands.1
  · obtain ⟨outside,running⟩ := shows _ shown
    refine stands.1.show (fun holds => ?_) running
    have free := outside holds
    by_contra taken
    rw [stands.2 (by simpa using taken)] at free
    cases free

end

/-- The session goes on as it was, with the same detector. -/
structure Stays (view next : View V) : Prop where
  life : SameLife view.ctx.session next.ctx.session
  vad : next.ctx.vad = view.ctx.vad
  handler : next.ctx.handler = view.ctx.handler

theorem Stays.trans {next last : View V} (stays : Stays view next) (later : Stays next last) : Stays view last :=
  ⟨stays.life.trans later.life,later.vad.trans stays.vad,later.handler.trans stays.handler⟩

section
variable {owed : Nat} {ctx : SessionContext V}

theorem Audited.raised (audited : Audited config 0 ctx) (running : ctx.session.terminalState ≠ .succeeded) :
    Audited config 0 { ctx with handler := .raised } :=
  ⟨audited.booked,audited.placed.goto running rfl⟩

/-- The detector has heard what it was owed. -/
theorem Audited.hear {heard later : V} {samples : Nat} (audited : Audited config owed ctx) (found : ctx.vad = some heard)
    (conserves : samples + config.detector.held later = config.detector.held heard + owed) :
    Audited config samples { ctx with vad := some later } := by
  obtain ⟨booked,closed,segmenting,exclusive,accepts,appends⟩ := audited
  rw [found] at booked
  refine ⟨booked.hear conserves,closed,segmenting,exclusive,by simp,fun pcm force decision stands => ?_⟩
  have unheard := (appends pcm force decision stands).2
  rw [found] at unheard
  cases unheard

/-- Audio that the detector released was appended. -/
theorem Audited.append {audio : Pcm} {session : GatewaySession} (audited : Audited config owed ctx)
    (part : sampleCount audio ≤ owed) (fits : owed ≤ ctx.session.pendingVad)
    (appends : ctx.session.appendPcm audio false = .ok session) :
    Audited config (owed - sampleCount audio) (appended ctx session audio) ∧
      owed - sampleCount audio ≤ session.pendingVad ∧ SameLife ctx.session session := by
  obtain ⟨booked,placed⟩ := audited
  obtain ⟨balanced,pays,life⟩ := append_balanced booked.balanced (by omega) appends
  exact ⟨⟨booked.pay life balanced pays part,placed.same life.terminalState⟩,by omega,life⟩

/-- Audio that the detector released was refused, since the session is terminal. -/
theorem Audited.refuse {audio : Pcm} {exc : PyError} (audited : Audited config owed ctx)
    (part : sampleCount audio ≤ owed) (fits : owed ≤ ctx.session.pendingVad) (whole : audio.length % 2 = 0)
    (refused : ctx.session.appendPcm audio false = .error exc) :
    exc = .runtimeError "session is terminal" ∧
      Audited config 0 { ctx with refusals := ctx.refusals ++ [.append exc] } := by
  obtain ⟨booked,placed⟩ := audited
  obtain ⟨terminal,rfl⟩ := append_fits booked.balanced (by omega) whole false refused
  refine ⟨rfl,booked.forgive terminal ?_,placed⟩
  intro refusal member
  obtain rfl := List.mem_singleton.mp member
  rfl

theorem appendPcm_audited {audio : Pcm} (audited : Audited config owed view.ctx) (part : sampleCount audio ≤ owed)
    (fits : owed ≤ view.ctx.session.pendingVad) (whole : audio.length % 2 = 0) :
    wp (appendPcm audio false : Code V Unit)
      (fun _ next => Audited config (owed - sampleCount audio) next.ctx ∧
        owed - sampleCount audio ≤ next.ctx.session.pendingVad ∧ Stays view next)
      (fun _ next => Audited config 0 next.ctx ∧ Stays view next) view := by
  simp only [appendPcm,updateContext,wp_bind,wp_get]
  refine accountFor_wp (fun session appends => ?_) fun exc refused => ?_
  · obtain ⟨kept,left,life⟩ := audited.append part fits appends
    exact ⟨kept,left,life,rfl,rfl⟩
  · exact ⟨(audited.refuse part fits whole refused).2,.refl,rfl,rfl⟩

theorem recordDiscarded_audited {samples : Nat} (audited : Audited config samples view.ctx)
    (fits : samples ≤ view.ctx.session.pendingVad) :
    wp (recordDiscarded samples : Code V Unit)
      (fun _ next => Audited config 0 next.ctx ∧ Stays view next) (fun _ _ => False) view := by
  simp only [recordDiscarded,setSession,updateContext,wp_when,wp_bind,wp_get]
  refine ⟨fun _ => accountFor_wp (fun session records => ?_) fun _ refused => discard_fits fits refused,fun none => ?_⟩
  · obtain ⟨booked,placed⟩ := audited
    obtain ⟨balanced,pays,life⟩ := discard_balanced booked.balanced records
    have settled := booked.pay life balanced pays (Nat.le_refl _)
    rw [Nat.sub_self] at settled
    exact ⟨⟨settled,placed.same life.terminalState⟩,life,rfl,rfl⟩
  · obtain rfl : samples = 0 := by omega
    exact ⟨audited,.refl,rfl,rfl⟩

/-- The decision of the detector is accounted for. -/
theorem decision_audited {decision : VADDecision} (audited : Audited config decision.samples view.ctx)
    (fits : decision.samples ≤ view.ctx.session.pendingVad) (whole : decision.audioToModel.length % 2 = 0) :
    wp (do
        when (decision.audioToModel ≠ []) (appendPcm decision.audioToModel false)
        recordDiscarded decision.discardedSamples : Code V Unit)
      (fun _ next => Audited config 0 next.ctx ∧ Stays view next)
      (fun _ next => Audited config 0 next.ctx ∧ Stays view next) view := by
  have rest : decision.samples - sampleCount decision.audioToModel = decision.discardedSamples := by
    rw [VADDecision.samples]
    omega
  rw [wp_bind,wp_when]
  refine ⟨fun _ => ?_,fun empty => ?_⟩
  · refine wp_mono (appendPcm_audited audited (Nat.le_add_right _ _) fits whole) ?_ fun _ _ kept => kept
    rintro _ next ⟨kept,left,stays⟩
    rw [rest] at kept left
    refine wp_mono (recordDiscarded_audited kept left) ?_ fun _ _ no => no.elim
    rintro _ last ⟨settled,later⟩
    exact ⟨settled,stays.trans later⟩
  · have none : decision.audioToModel = [] := not_not.mp empty
    rw [none,show sampleCount [] = 0 from rfl,Nat.sub_zero] at rest
    rw [rest] at audited fits
    exact wp_mono (recordDiscarded_audited audited fits) (fun _ _ kept => kept) fun _ _ no => no.elim

end

/-! ## The handler -/

/-- Whether it returns or raises, the program leaves the accounts in order. -/
abbrev Audits (config : GatewayConfig V) {α : Type} (program : Code V α) (view : View V) : Prop :=
  wp program (fun _ next => Audited config 0 next.ctx) (fun _ next => Audited config 0 next.ctx) view

/-- As for `Audits`, where an exception ends the call of the handler. -/
abbrev HandlesAudited (config : GatewayConfig V) (program : Code V Unit) (view : View V) : Prop :=
  wp program (fun _ next => Audited config 0 next.ctx)
    (fun _ next => Audited config 0 { next.ctx with handler := .raised }) view

/-- Where programs may go that move a handler on, outside of the lock. -/
abbrev Outside (handler : Handler) : Prop := handler.holdsLock = false

/-- Programs of a handler that call no detector. -/
abbrev Steady (config : GatewayConfig V) (start view : View V) : Prop :=
  Worked config False False Outside (fun _ => False) start view

theorem steady_audited {start : View V} {owed : Nat} (steady : Steady config start view)
    (audited : Audited config owed start.ctx) (running : start.ctx.handler ≠ .closed) : Audited config owed view.ctx :=
  worked_audited steady audited (fun _ outside => ⟨running,outside⟩) fun _ no => no.elim

theorem handles_of_works {program : Code V Unit} (works : Keeps (Steady config view) program)
    (audited : Audited config 0 view.ctx) (running : view.ctx.handler ≠ .closed) : HandlesAudited config program view := by
  refine wp_mono (works view .refl) (fun _ _ steady => steady_audited steady audited running) fun _ next steady => ?_
  refine (steady_audited steady audited running).raised fun succeeded => running (audited.placed.closed ?_)
  rwa [(worked_life steady).terminalState] at succeeded

/-- The rest of a call of `ingest`, once the audio is accounted for. -/
theorem ingestScheduled_audited (moment : Moment) (call : Ingest) (force : Bool) (audited : Audited config 0 view.ctx)
    (running : view.ctx.handler ≠ .closed) : HandlesAudited config (ingestScheduled config moment call force) view := by
  refine handles_of_works (ingestScheduled_works moment call force fun handler returns => ?_) audited running
  cases call <;> cases handler <;> first | rfl | exact (returns : False).elim

theorem ingestHeard_audited (moment : Moment) (pcm : Pcm) (force : Bool) (decision : VADDecision)
    (audited : Audited config decision.discardedSamples view.ctx)
    (fits : decision.discardedSamples ≤ view.ctx.session.pendingVad) (running : view.ctx.handler ≠ .closed) :
    HandlesAudited config (ingestHeard config moment pcm force decision) view := by
  unfold HandlesAudited ingestHeard
  rw [wp_bind]
  refine wp_mono (recordDiscarded_audited audited fits) ?_ fun _ _ no => no.elim
  rintro _ next ⟨kept,stays⟩
  simp only [updateContext,wp_bind,wp_modify]
  exact ingestScheduled_audited moment _ _ ⟨kept.booked,kept.placed⟩ (stays.handler ▸ running)

/-- A handler waits until its session can take audio. -/
theorem awaitReservation_audited {exc : PyError} {handler : Handler} (audited : Audited config 0 view.ctx)
    (running : view.ctx.handler ≠ .closed) (stands : Placed view.ctx.session view.ctx.vad handler view.ctx.publication) :
    HandlesAudited config (awaitReservation exc handler) view := by
  have raised := audited.raised fun succeeded => running (audited.placed.closed succeeded)
  unfold HandlesAudited awaitReservation
  split
  · simp only [goto,updateContext,wp_bind,wp_get,wp_ite,wp_modify,wp_throw]
    exact ⟨fun _ => ⟨audited.booked,stands⟩,fun _ => raised⟩
  · exact raised

/-- The audio that the detector released is appended without waiting. -/
theorem ingestAppend_audited (moment : Moment) (pcm : Pcm) (force : Bool) (decision : VADDecision)
    (audited : Audited config decision.samples view.ctx) (fits : decision.samples ≤ view.ctx.session.pendingVad)
    (whole : decision.audioToModel.length % 2 = 0) (running : view.ctx.handler ≠ .closed) :
    HandlesAudited config (ingestAppend config moment pcm force (some decision)) view := by
  have rest : decision.samples - sampleCount decision.audioToModel = decision.discardedSamples := by
    rw [VADDecision.samples]
    omega
  simp only [HandlesAudited,ingestAppend,wp_bind,wp_get]
  split
  · rename_i session appends
    obtain ⟨kept,left,_⟩ := audited.append (Nat.le_add_right _ _) fits appends
    rw [rest] at kept left
    simp only [updateContext,wp_bind,wp_modify]
    exact ingestHeard_audited moment pcm force decision kept left running
  · rename_i exc refused
    obtain ⟨rfl,kept⟩ := audited.refuse (Nat.le_add_right _ _) fits whole refused
    have running : view.ctx.session.terminalState ≠ .succeeded := fun succeeded => running (audited.placed.closed succeeded)
    exact kept.raised running

/-- The detector hears all audio in whole samples. -/
def HearsAll (config : GatewayConfig V) : Prop :=
  ∀ vad pcm, pcm.length % 2 = 0 → ∃ heard, config.detector.addAudio vad pcm = .ok heard

section
variable (hearsAll : HearsAll config) (moment : Moment) (pcm : Pcm) (force : Bool)
include hearsAll

/-- The detector hears what the session has accepted. -/
theorem ingestHear_audited (whole : pcm.length % 2 = 0) (audited : Audited config (sampleCount pcm) view.ctx)
    (covers : heldBy config view.ctx.vad + sampleCount pcm ≤ view.ctx.session.pendingVad)
    (running : view.ctx.handler ≠ .closed) : HandlesAudited config (ingestHear config moment pcm force) view := by
  simp only [HandlesAudited,ingestHear,wp_bind,wp_get]
  split
  · rename_i unheard
    have none := audited.booked.unheard unheard
    have silent : sampleCount pcm = 0 := by omega
    rw [silent] at audited
    exact audited.raised fun succeeded => running (audited.placed.closed succeeded)
  rename_i vad found
  obtain ⟨⟨decision,later⟩,heard⟩ := hearsAll vad pcm whole
  have conserves := config.detector.addAudio_conserves heard
  have released := config.detector.addAudio_whole heard
  have decided := audited.hear found conserves
  rw [found] at covers
  have fits : decision.samples ≤ view.ctx.session.pendingVad := by
    simp only [heldBy,Option.elim_some] at covers
    omega
  simp only [heard,wp_bind,wp_ofExcept,Except.ok.injEq,reduceCtorEq,false_implies,implies_true,and_true]
  rintro _ rfl
  simp only [updateContext,wp_modify,wp_ite]
  refine ⟨fun _ => ingestAppend_audited moment pcm force decision decided fits released running,fun empty => ?_⟩
  have none : decision.audioToModel = [] := not_not.mp empty
  have rest : decision.samples = decision.discardedSamples := by
    rw [VADDecision.samples,none]
    exact Nat.zero_add _
  rw [rest] at decided fits
  exact ingestHeard_audited moment pcm force decision decided fits running

theorem ingestAccept_audited (audited : Audited config 0 view.ctx)
    (covers : heldBy config view.ctx.vad ≤ view.ctx.session.pendingVad) (heard : view.ctx.vad ≠ none)
    (running : view.ctx.handler ≠ .closed) (free : view.ctx.publication.holdsLock = false) :
    HandlesAudited config (ingestAccept config moment pcm force) view := by
  have open' : view.ctx.session.terminalState ≠ .succeeded := fun succeeded => running (audited.placed.closed succeeded)
  simp only [HandlesAudited,ingestAccept,wp_bind,wp_get]
  split
  · rename_i session accepts
    obtain ⟨balanced,pending,life⟩ := accept_balanced audited.booked.balanced accepts
    have whole : pcm.length % 2 = 0 := by
      by_contra odd
      rw [GatewaySession.acceptVadInput,if_pos odd] at accepts
      cases accepts
    simp only [setSession,updateContext,wp_bind,wp_modify]
    have accepted := audited.booked.accept life balanced pending covers heard
    refine ingestHear_audited hearsAll moment pcm force whole ⟨accepted,audited.placed.same life.terminalState⟩ ?_ running
    simp only [View.withContext]
    omega
  · refine awaitReservation_audited audited running ⟨by simp [open'],audited.placed.segmenting,fun _ => free,?_,by simp⟩
    rintro _ _ ⟨⟩
    exact heard

end

/-- Without a detector a frame is appended as it comes, and waits where it does not fit. -/
theorem ingestAppend_unheard (moment : Moment) (pcm : Pcm) (force : Bool) (audited : Audited config 0 view.ctx)
    (unheard : view.ctx.vad = none) (running : view.ctx.handler ≠ .closed)
    (free : view.ctx.publication.holdsLock = false) :
    HandlesAudited config (ingestAppend config moment pcm force none) view := by
  have open' : view.ctx.session.terminalState ≠ .succeeded := fun succeeded => running (audited.placed.closed succeeded)
  simp only [HandlesAudited,ingestAppend,wp_bind,wp_get]
  split
  · rename_i session appends
    simp only [updateContext,wp_bind,wp_modify]
    obtain ⟨balanced,none,life⟩ := append_unheard audited.booked.balanced (audited.booked.unheard unheard) appends
    have pays : session.pendingVad = view.ctx.session.pendingVad - 0 := by
      rw [none,audited.booked.unheard unheard]
    exact ingestScheduled_audited moment _ _
      ⟨audited.booked.pay life balanced pays (Nat.le_refl 0),audited.placed.same life.terminalState⟩ running
  · simp only [wp_bind,wp_when]
    refine ⟨by simp,fun _ => ?_⟩
    refine awaitReservation_audited audited running ⟨by simp [open'],audited.placed.segmenting,fun _ => free,by simp,?_⟩
    rintro _ _ _ ⟨⟩
    exact ⟨rfl,unheard⟩

theorem checkDeadlines_keeps {inv : View V → Prop} (now : Time) : Keeps inv (checkDeadlines config now) := by
  refine keeps_bind (keeps_bind keeps_get fun _ => keeps_when fun _ => keeps_throw _) fun _ => ?_
  refine keeps_bind keeps_get fun _ => keeps_bind (keeps_when fun _ => keeps_throw _) fun _ => ?_
  exact keeps_when fun _ => keeps_throw _

/-- A program that follows a look at the deadlines. -/
theorem deadlines_audited {program : Code V Unit} (now : Time) (audited : Audited config 0 view.ctx)
    (running : view.ctx.handler ≠ .closed) (rest : HandlesAudited config program view) :
    HandlesAudited config (do checkDeadlines config now; program) view := by
  have raised := audited.raised fun succeeded => running (audited.placed.closed succeeded)
  have reads : Keeps (· = view) (checkDeadlines config now) := checkDeadlines_keeps now
  refine wp_bind_of_keeps reads rfl ?_ ?_
  · rintro _ _ rfl
    exact raised
  · rintro _ _ rfl
    exact rest

/-- The call hears audio. -/
def Ingest.hears (call : Ingest) : Bool := !call.pcm.isEmpty

theorem ingestLocked_audited (hearsAll : HearsAll config) (moment : Moment) (call : Ingest)
    (audited : Audited config 0 view.ctx)
    (covers : call.hears = true → heldBy config view.ctx.vad ≤ view.ctx.session.pendingVad)
    (running : view.ctx.handler ≠ .closed) (free : view.ctx.publication.holdsLock = false) :
    HandlesAudited config (ingestLocked config moment call) view := by
  have raised := audited.raised fun succeeded => running (audited.placed.closed succeeded)
  refine deadlines_audited moment.now audited running ?_
  simp only [HandlesAudited,wp_bind,wp_get,wp_when,wp_throw]
  refine ⟨fun _ => raised,fun _ => ?_⟩
  cases call with
  | frame pcm force =>
    simp only [wp_ite]
    refine ⟨fun _ => ingestScheduled_audited moment _ _ audited running,fun some => ⟨fun heard => ?_,fun unheard => ?_⟩⟩
    · refine ingestAccept_audited hearsAll moment pcm force audited (covers ?_) ?_ running free
      · simpa [Ingest.hears,Ingest.pcm] using some
      · exact Option.isSome_iff_ne_none.mp heard
    · exact ingestAppend_unheard moment pcm force audited (Option.not_isSome_iff_eq_none.mp unheard) running free
  | segment => exact ingestScheduled_audited moment _ _ audited running
  | finish => exact ingestScheduled_audited moment _ _ audited running

/-- A detector that ends its input retains nothing. -/
theorem finishHearing_audited (audited : Audited config 0 view.ctx)
    (covers : heldBy config view.ctx.vad ≤ view.ctx.session.pendingVad) :
    wp (finishHearing config)
      (fun _ next => Audited config 0 next.ctx ∧ SameLife view.ctx.session next.ctx.session ∧ heldBy config next.ctx.vad = 0)
      (fun _ next => Audited config 0 next.ctx ∧ SameLife view.ctx.session next.ctx.session) view := by
  unfold finishHearing
  rw [wp_bind,wp_get]
  split
  · rename_i vad found
    have conserves := config.detector.finishInput_conserves vad
    have clear := config.detector.finishInput_held vad
    have released := config.detector.finishInput_whole vad
    have disposed : (config.detector.finishInput vad).1.samples + config.detector.held (config.detector.finishInput vad).2 =
        config.detector.held vad + 0 := by rw [conserves,clear]
    have decided := audited.hear found disposed
    rw [found] at covers
    have fits : (config.detector.finishInput vad).1.samples ≤ view.ctx.session.pendingVad := by
      simp only [heldBy,Option.elim_some] at covers
      omega
    rw [wp_bind]
    simp only [updateContext,wp_modify]
    refine wp_mono (decision_audited decided fits released) ?_ ?_
    · rintro _ next ⟨kept,stays⟩
      refine ⟨kept,stays.life,?_⟩
      rw [stays.vad]
      exact clear
    · rintro _ next ⟨kept,stays⟩
      exact ⟨kept,stays.life⟩
  · rename_i unheard
    exact ⟨audited,.refl,by rw [unheard]; rfl⟩

theorem finish_audited (audited : Audited config 0 view.ctx)
    (covers : view.ctx.live = true → heldBy config view.ctx.vad ≤ view.ctx.session.pendingVad)
    (running : view.ctx.handler ≠ .closed) : HandlesAudited config (finish config) view := by
  have open' : view.ctx.session.terminalState ≠ .succeeded := fun succeeded => running (audited.placed.closed succeeded)
  simp only [HandlesAudited,finish,requireContext,wp_bind,wp_get,wp_when,wp_throw]
  refine ⟨fun _ => audited.raised open',fun live => ?_⟩
  refine wp_mono (finishHearing_audited audited (covers (by simpa using live))) ?_ ?_
  · rintro _ next ⟨kept,life,clear⟩
    simp only [setSession,goto,updateContext,View.withContext,wp_bind,wp_get,wp_modify]
    have open' : next.ctx.session.terminalState ≠ .succeeded := by rwa [life.terminalState]
    by_cases requested : next.ctx.session.finishRequested = true
    · have same : next.ctx.session.requestFinish = next.ctx.session := if_pos requested
      rw [same]
      exact ⟨kept.booked,kept.placed.goto open' rfl⟩
    have same : next.ctx.session.requestFinish =
        { next.ctx.session with finishRequested := true, terminalState := .finishing } := if_neg requested
    rw [same]
    obtain ⟨⟨balanced,retained,covered,unheard,terminal⟩,closed,segmenting,exclusive,accepts,appends⟩ := kept
    refine ⟨⟨balanced.restate (by simp),fun first => ?_,fun _ _ => ?_,unheard,terminal⟩,
      by simp,by simp,by simp [Handler.holdsLock],by simp,by simp⟩
    · refine ⟨.inr rfl,(retained fun gone => ?_).2⟩
      exact gone.elim (fun past => first (.inl past)) open'
    · rw [clear]
      exact Nat.zero_le _
  · rintro _ next ⟨kept,life⟩
    exact kept.raised (by rwa [life.terminalState])

theorem finishAnswered_audited (answer : Except PyError AdapterResult) (audited : Audited config 0 view.ctx)
    (running : view.ctx.handler ≠ .closed) (stands : view.ctx.handler.holdsLock = true) :
    HandlesAudited config (finishAnswered config answer) view := by
  have left : ∀ (exc : PyError) (next : View V), Steady config view next →
      Audited config 0 { next.ctx with handler := .raised } := by
    intro exc next steady
    refine (steady_audited steady audited running).raised fun succeeded => running (audited.placed.closed ?_)
    rwa [(worked_life steady).terminalState] at succeeded
  unfold HandlesAudited finishAnswered
  refine wp_bind_of_keeps (keeps_ofExcept _) .refl left fun control next steady => ?_
  refine wp_bind_of_keeps (applyControl_works control) steady left fun _ next steady => ?_
  refine wp_bind_of_keeps keeps_get steady left fun _ next steady => ?_
  refine wp_bind_of_keeps (callProtocol_works _) steady left fun _ next steady => ?_
  refine wp_bind_of_keeps (inner_works fun _ => by constructor <;> rfl) steady left fun _ next steady => ?_
  have kept := steady_audited steady audited running
  have shown : next.ctx.publication.segmenting = false := by
    rcases worked_publication steady with same | no
    · have outside := audited.placed.exclusive stands
      rw [same]
      exact Publication.outside outside
    · exact no.elim
  simp only [setSession,emitTerminal,enqueueEvents,goto,updateContext,View.withContext,wp_bind,wp_get,wp_ofExcept,wp_modify]
  refine ⟨fun session succeeds => ?_,fun exc _ => left exc next steady⟩
  unfold GatewaySession.succeed at succeeds
  split at succeeds
  · cases succeeds
  cases succeeds
  obtain ⟨⟨balanced,retained,covered,unheard,terminal⟩,closed,segmenting,exclusive,accepts,appends⟩ := kept
  refine ⟨⟨balanced.restate (by simp),fun first => absurd (.inr rfl) first,fun _ succeeded => absurd rfl succeeded,unheard,
    terminal⟩,by simp,by simp [shown],by simp [Handler.holdsLock],by simp,by simp⟩

theorem cancelAndWait_audited {safe : Handler} {waiting : Nat → Handler} (audited : Audited config 0 view.ctx)
    (running : view.ctx.handler ≠ .closed) (standsSafe : safe.holdsLock = false)
    (standsWaiting : ∀ event, (waiting event).holdsLock = false) :
    HandlesAudited config (cancelAndWait safe waiting) view := by
  have open' : view.ctx.session.terminalState ≠ .succeeded := fun succeeded => running (audited.placed.closed succeeded)
  simp only [HandlesAudited,cancelAndWait,requireContext,cancelSession,wp_bind,wp_get,wp_when,wp_throw,wp_modify]
  refine ⟨fun _ => audited.raised open',fun _ => ?_⟩
  split
  · exact ⟨audited.booked,audited.placed.goto open' standsSafe⟩
  · exact ⟨audited.booked,audited.placed.goto open' (standsWaiting _)⟩

/-- What the end of an abort leaves. -/
theorem abortSession_audited (audited : Audited config 0 view.ctx) :
    wp (abortSession config) (fun _ next => Audited config 0 next.ctx ∧ next.ctx.handler = view.ctx.handler ∧
      (next.ctx.session.terminalState = .aborted ∨ next.ctx.session.terminalState = .failed)) (fun _ _ => False) view := by
  obtain ⟨⟨balanced,retained,covered,unheard,terminal⟩,closed,segmenting,exclusive,accepts,appends⟩ := audited
  obtain ⟨next,aborts,balancedNext,_,ends⟩ := abort_balanced balanced
  have silent : heldBy config (view.ctx.vad.map config.detector.reset) = 0 := by
    cases view.ctx.vad with
    | none => rfl
    | some vad => exact config.detector.reset_held vad
  have kind : ∀ {vad : Option V}, vad.map config.detector.reset = none ↔ vad = none := Option.map_eq_none_iff
  have past : next.terminalState = .aborted ∨ next.terminalState = .failed := by
    rcases ends with ⟨past,rfl⟩ | ⟨aborted,_⟩
    · exact past
    · exact .inl aborted
  simp only [abortSession,setSession,emitTerminal,updateContext,record,View.withContext,wp_bind,wp_get,wp_ofExcept,
    wp_modify,aborts,Except.ok.injEq,reduceCtorEq,false_implies,implies_true,and_true]
  rintro _ rfl
  refine ⟨⟨⟨balancedNext,fun first => absurd (.inl (balancedNext.past past)) first,fun _ _ => ?_,fun none => ?_,terminal⟩,
    ?_,?_,exclusive,?_,?_⟩,trivial,past⟩
  · rw [silent]
    exact Nat.zero_le _
  · rcases ends with ⟨_,rfl⟩ | ⟨_,nothing⟩
    · exact unheard (kind.mp none)
    · exact nothing
  · intro succeeded
    rcases past with state | state <;> rw [state] at succeeded <;> cases succeeded
  · intro shown
    rcases ends with ⟨_,rfl⟩ | ⟨aborted,_⟩
    · exact segmenting shown
    · rw [aborted]
      simp
  · exact fun pcm force stands none => accepts pcm force stands (kind.mp none)
  · exact fun pcm force decision stands => ⟨(appends pcm force decision stands).1,kind.mpr (appends pcm force decision stands).2⟩

/-- What `_fail_session` leaves. -/
theorem failSession_audited (audited : Audited config 0 view.ctx) (outside : view.ctx.publication.segmenting = false) :
    wp (failSession : Code V Bool) (fun failed next => Audited config 0 next.ctx ∧ next.ctx.handler = view.ctx.handler ∧
      next.ctx.publication = view.ctx.publication ∧
      (failed = true → next.ctx.session.terminalState = .failed) ∧
      (failed = false → next.ctx.session = view.ctx.session)) (fun _ _ => False) view := by
  obtain ⟨⟨balanced,retained,covered,unheard,terminal⟩,closed,segmenting,exclusive,accepts,appends⟩ := id audited
  obtain ⟨next,fails,balancedNext,state,nothing⟩ := fail_balanced balanced
  simp only [failSession,cancelSession,setSession,updateContext,record,View.withContext,wp_bind,wp_get,wp_ite,wp_pure,
    wp_ofExcept,wp_modify]
  refine ⟨fun _ => ⟨audited,by simp⟩,fun running => ?_⟩
  simp only [fails,Except.ok.injEq,reduceCtorEq,false_implies,implies_true,and_true]
  rintro _ rfl
  refine ⟨⟨⟨balancedNext,fun first => absurd (.inl (balancedNext.past (.inr state))) first,fun failed => absurd state failed,
    fun none => nothing (unheard none),terminal⟩,fun succeeded => ?_,by simp [outside],exclusive,accepts,appends⟩,
    by simp [state]⟩
  rw [state] at succeeded
  cases succeeded

theorem abortSafe_audited (audited : Audited config 0 view.ctx) : HandlesAudited config (abortSafe config) view := by
  unfold HandlesAudited abortSafe
  rw [wp_bind]
  refine wp_mono (abortSession_audited audited) ?_ fun _ _ no => no.elim
  rintro _ next ⟨kept,_,past⟩
  refine ⟨kept.booked,kept.placed.goto (fun succeeded => ?_) rfl⟩
  rcases past with state | state <;> rw [state] at succeeded <;> cases succeeded

theorem errorLocked_audited (exc : PyError) (code : String) (closeCode : Nat) (audited : Audited config 0 view.ctx)
    (running : view.ctx.handler ≠ .closed) (free : view.ctx.publication.holdsLock = false) :
    HandlesAudited config (errorLocked exc code closeCode) view := by
  have open' : view.ctx.session.terminalState ≠ .succeeded := fun succeeded => running (audited.placed.closed succeeded)
  have outside : view.ctx.publication.segmenting = false := Publication.outside free
  simp only [HandlesAudited,errorLocked,wp_bind,wp_get,wp_ite]
  refine ⟨fun _ => ⟨audited.booked,audited.placed.goto open' rfl⟩,fun _ => ?_⟩
  refine wp_mono (failSession_audited audited outside) ?_ fun _ _ no => no.elim
  rintro failed next ⟨kept,_,same,fails,stays⟩
  cases failed with
  | false =>
    refine ⟨kept.booked,kept.placed.goto ?_ rfl⟩
    rwa [stays rfl]
  | true =>
    have state := fails rfl
    refine ⟨kept.booked,kept.placed.enter ?_ ?_ (by rintro _ _ ⟨⟩) (by rintro _ _ _ ⟨⟩)⟩
    · rw [state]
      simp
    · rw [same]
      exact free

theorem command_audited {call : Command} {program : Code V Unit} (audited : Audited config 0 view.ctx)
    (covers : call = .finish → view.ctx.live = true → view.ctx.handler = .ready →
      heldBy config view.ctx.vad ≤ view.ctx.session.pendingVad)
    (issued : command config view.ctx.handler call = some program) : HandlesAudited config program view := by
  have moves : ∀ handler : Handler, handler.holdsLock = false → view.ctx.handler ≠ .closed →
      HandlesAudited config (do requireContext; goto handler) view := fun handler outside running =>
    handles_of_works (keeps_bind requireContext_works fun _ => goto_works _ outside) audited running
  cases stands : view.ctx.handler <;> cases call <;> simp only [command,stands,reduceCtorEq,Option.some.injEq] at issued <;>
    subst issued
  case ready.ingest | ready.segment => exact moves _ rfl (by simp [stands])
  case ready.finish => exact finish_audited audited (fun live => covers rfl live stands) (by simp [stands])
  case ready.error | raised.error => exact cancelAndWait_audited audited (by simp [stands]) rfl fun _ => rfl
  case ready.abort =>
    have open' : view.ctx.session.terminalState ≠ .succeeded := fun succeeded => by
      have closed := audited.placed.closed succeeded
      rw [stands] at closed
      cases closed
    simp only [HandlesAudited,requireContext,cancelSession,wp_bind,wp_get,wp_when,wp_throw,wp_modify]
    refine ⟨fun _ => audited.raised open',fun live => ?_⟩
    split
    · exact abortSafe_audited ⟨audited.booked,audited.placed⟩
    · exact ⟨audited.booked,audited.placed.goto open' rfl⟩

/-- The handler that goes on has its detector hear a frame. -/
def Handler.hears : Handler → Bool
  | .ingestLock call => call.hears
  | .ingestAccept .. => true
  | _ => false

theorem proceed_audited (hearsAll : HearsAll config) {moment : Moment} {input : Input} {program : Code V Unit}
    (audited : Audited config 0 view.ctx)
    (covers : view.ctx.handler.hears = true → heldBy config view.ctx.vad ≤ view.ctx.session.pendingVad)
    (goesOn : proceed config moment view input = some program) : HandlesAudited config program view := by
  have calm : ∀ {program : Code V Unit}, Keeps (Steady config view) program → view.ctx.handler ≠ .closed →
      HandlesAudited config program view := fun works running => handles_of_works works audited running
  have free : ¬view.ctx.locked = true → view.ctx.publication.holdsLock = false := by
    simp [SessionContext.locked]
  cases stands : view.ctx.handler <;> cases input <;>
    simp only [proceed,stands,reduceCtorEq,Option.some.injEq,Option.ite_none_left_eq_some,
      Option.ite_none_right_eq_some] at goesOn
  case starting.go =>
    obtain ⟨_,rfl⟩ := goesOn
    exact calm (enqueueReady_works rfl) (by simp [stands])
  case ingestLock.go call =>
    obtain ⟨open',rfl⟩ := goesOn
    exact ingestLocked_audited hearsAll moment call audited (fun hears => covers (by rw [stands]; exact hears))
      (by simp [stands]) (free open')
  case ingestAccept.go pcm force =>
    subst goesOn
    refine deadlines_audited moment.now audited (by simp [stands]) ?_
    refine ingestAccept_audited hearsAll moment pcm force audited (covers (by rw [stands]; rfl)) ?_ (by simp [stands])
      (audited.placed.exclusive (by rw [stands]; rfl))
    exact audited.placed.accepts pcm force stands
  case ingestAppend.go pcm force decision =>
    subst goesOn
    obtain ⟨rfl,unheard⟩ := audited.placed.appends pcm force decision stands
    refine deadlines_audited moment.now audited (by simp [stands]) ?_
    exact ingestAppend_unheard moment pcm force audited unheard (by simp [stands])
      (audited.placed.exclusive (by rw [stands]; rfl))
  case ingestAccept.timeout | ingestAppend.timeout =>
    subst goesOn
    exact calm (keeps_throw _) (by simp [stands])
  case segmentIdle.go | finishIdle.go =>
    obtain ⟨_,rfl⟩ := goesOn
    exact calm (goto_works _ rfl) (by simp [stands])
  case segmentLock.go | finishLock.go =>
    obtain ⟨open',rfl⟩ := goesOn
    have outside := free open'
    have running : view.ctx.session.terminalState ≠ .succeeded := fun succeeded => by
      have ends := audited.placed.closed succeeded
      rw [stands] at ends
      cases ends
    simp only [HandlesAudited,record,wp_bind,wp_get,wp_modify]
    exact ⟨audited.booked,audited.placed.enter running outside (by rintro _ _ ⟨⟩) (by rintro _ _ _ ⟨⟩)⟩
  case segmentAdapter.answer reply =>
    subst goesOn
    exact calm (segmentAnswered_works reply rfl) (by simp [stands])
  case finishAdapter.answer reply =>
    subst goesOn
    exact finishAnswered_audited reply audited (by simp [stands]) (by rw [stands]; rfl)
  case errorSafe.go =>
    obtain ⟨_,rfl⟩ := goesOn
    exact calm (goto_works _ rfl) (by simp [stands])
  case errorLock.go =>
    obtain ⟨open',rfl⟩ := goesOn
    exact errorLocked_audited _ _ _ audited (by simp [stands]) (free open')
  case errorAdapter.answer exc code closeCode reply =>
    subst goesOn
    simp only [HandlesAudited,sessionFailed,emitTerminal,updateContext,wp_bind,wp_modify]
    refine handles_of_works (errorAnswered_works exc code closeCode False.elim ?_) ⟨audited.booked,audited.placed⟩ ?_
    · rfl
    · simp [View.withContext,stands]
  case abortSafe.go =>
    obtain ⟨_,rfl⟩ := goesOn
    exact abortSafe_audited audited
  case abortAdapter.answer reply =>
    subst goesOn
    exact calm (abortAnswered_works reply False.elim rfl) (by simp [stands])

theorem releaseSession_audited (audited : Audited config 0 view.ctx) :
    Audits config (releaseSession : Code V Unit) view := by
  simp only [Audits,releaseSession,updateContext,wp_bind,wp_get,wp_when,wp_modify]
  refine ⟨fun _ => ?_,fun _ => audited⟩
  obtain ⟨closed,state⟩ := audited.booked.close
  exact ⟨closed,audited.placed.same state⟩

theorem abortTaskSafe_audited (audited : Audited config 0 view.ctx) : Audits config (abortTaskSafe config) view := by
  unfold Audits abortTaskSafe
  rw [wp_bind]
  refine wp_mono (abortSession_audited audited) ?_ fun _ _ no => no.elim
  rintro _ next ⟨kept,_⟩
  exact ⟨kept.booked,kept.placed⟩

theorem abort_audited (audited : Audited config 0 view.ctx) : Audits config (abort config) view := by
  simp only [Audits,abort,cancelSession,wp_bind,wp_get,wp_ite,wp_modify,wp_pure]
  refine ⟨fun _ => audited,fun _ => ⟨fun _ => releaseSession_audited audited,fun _ => ?_⟩⟩
  split
  · exact abortTaskSafe_audited ⟨audited.booked,audited.placed⟩
  · exact ⟨audited.booked,audited.placed⟩

theorem resumeAbort_audited {task : AbortTask} {program : Code V Unit} (audited : Audited config 0 view.ctx)
    (resumes : resumeAbort config view task = some program) : Audits config program view := by
  unfold resumeAbort at resumes
  split at resumes
  · cases resumes
  have left : Audited config 0 (view.withContext fun ctx => { ctx with aborts := ctx.aborts.erase task }).ctx :=
    ⟨audited.booked,audited.placed⟩
  cases task with
  | safe event =>
    dsimp only at resumes
    split at resumes
    · cases resumes
      exact abortTaskSafe_audited left
    · cases resumes
  | adapter =>
    cases resumes
    exact releaseSession_audited left

theorem send_audited {program : Code V Unit} (audited : Audited config 0 view.ctx) (sends : send view = some program) :
    Audits config program view := by
  unfold send at sends
  split at sends
  · cases sends
  split at sends
  · cases sends
  rename_i event _
  cases sends
  refine (?_ : Keeps (fun view : View V => Audited config 0 view.ctx) _) view audited
  refine keeps_bind (keeps_modify fun _ audited => ⟨audited.booked,audited.placed⟩) fun _ => ?_
  refine keeps_bind (keeps_when fun _ => ?_) fun _ => keeps_when fun _ _ audited => releaseSession_audited audited
  cases event.jobId with
  | none => exact keeps_pure _
  | some jobId => exact keeps_modify fun _ audited => ⟨audited.booked,audited.placed⟩

theorem cleanupJob_audited (job : InferenceJob) (audited : Audited config 0 view.ctx) :
    Audits config (cleanupJob job) view := by
  simp only [Audits,cleanupJob,updateContext,wp_bind,wp_get,wp_when,wp_throw,wp_ofExcept,wp_modify]
  refine ⟨fun _ => audited,fun _ => ⟨fun session acknowledges => ?_,fun _ _ => audited⟩⟩
  obtain ⟨balanced,pending,life⟩ := acknowledge_balanced audited.booked.balanced acknowledges
  exact ⟨audited.booked.pay life balanced pending (Nat.zero_le 0),audited.placed.same life.terminalState⟩

theorem rejectJob_audited (job : InferenceJob) (audited : Audited config 0 view.ctx) :
    Audits config (rejectJob job) view := by
  simp only [Audits,rejectJob,discardTimeline,setSession,updateContext,wp_bind,wp_get,wp_when,wp_throw,wp_ofExcept,wp_modify]
  refine ⟨fun _ => ⟨?_,fun _ _ => ⟨audited.booked,audited.placed⟩⟩,fun _ => ⟨audited.booked,audited.placed⟩⟩
  rintro ⟨held,session⟩ rollsBack
  have coherent := audited.booked.balanced.coherent
  have same := rollback_accounts coherent rollsBack
  have kept : Audited config 0 { view.ctx with session := session } :=
    ⟨audited.booked.same same (rollback_coherent coherent rollsBack),audited.placed.same same.life.terminalState⟩
  exact ⟨fun _ => kept,fun _ => kept⟩

/-! ## Publications -/

/-- Programs of a publication that call no detector. -/
theorem audits_of_works {out : Publication → Prop} {α : Type} {program : Code V α}
    (works : Keeps (Worked config False False (fun _ => False) out view) program) (audited : Audited config 0 view.ctx)
    (shows : ∀ publication, out publication → (publication.holdsLock = true → view.ctx.handler.holdsLock = false) ∧
      (publication.segmenting = true →
        view.ctx.session.terminalState ≠ .failed ∧ view.ctx.session.terminalState ≠ .succeeded)) :
    Audits config program view :=
  wp_mono (works view .refl) (fun _ _ worked => worked_audited worked audited (fun _ no => no.elim) shows)
    fun _ _ worked => worked_audited worked audited (fun _ no => no.elim) shows

/-- A publication that does not wait inside the lock may always come next. -/
theorem shows_unlocked {out : Publication → Prop} (unlocked : ∀ publication, out publication → publication.holdsLock = false)
    (publication : Publication) (shown : out publication) :
    (publication.holdsLock = true → view.ctx.handler.holdsLock = false) ∧ (publication.segmenting = true →
      view.ctx.session.terminalState ≠ .failed ∧ view.ctx.session.terminalState ≠ .succeeded) := by
  have outside := unlocked publication shown
  refine ⟨by simp [outside],fun segmenting => ?_⟩
  cases publication <;> simp [Publication.segmenting,Publication.holdsLock] at segmenting outside

/-- A publication that goes on without the lock. -/
theorem unlocked_audited {program : Code V Bool}
    (works : Keeps (Worked config False False (fun _ => False) (fun publication => publication.holdsLock = false) view) program)
    (audited : Audited config 0 view.ctx) : Audits config program view :=
  audits_of_works works audited (shows_unlocked fun _ outside => outside)

theorem failing_audited {publication : Publication} {later : Code V Bool} (audited : Audited config 0 view.ctx)
    (free : view.ctx.handler.holdsLock = false) (outside : view.ctx.publication.segmenting = false)
    (shows : publication.segmenting = false)
    (works : ∀ {view : View V},
      Keeps (Worked config False False (fun _ => False) (fun publication => publication.holdsLock = false) view) later) :
    Audits config (do if ← failSession then suspend publication else later) view := by
  rw [Audits,wp_bind]
  refine wp_mono (failSession_audited audited outside) ?_ fun _ _ no => no.elim
  rintro failed next ⟨kept,handler,_,_,_⟩
  cases failed with
  | false => exact unlocked_audited works kept
  | true =>
    refine ⟨kept.booked,kept.placed.show (fun _ => ?_) fun segmenting => ?_⟩
    rotate_left
    · exact (Bool.false_ne_true (shows.symm.trans segmenting)).elim
    rw [handler]
    exact free

theorem dropResult_unlocked (result : InferenceResult) :
    Keeps (Worked config False False (fun _ => False) (fun publication => publication.holdsLock = false) view)
      (dropResult result : Code V Bool) := by
  refine dropResult_works ?_ result
  rfl

theorem applyResultLocked_audited (moment : Moment) (result : InferenceResult) (saved : Saved)
    (audited : Audited config 0 view.ctx) (running : ended view.ctx.session = false)
    (free : view.ctx.handler.holdsLock = false) (outside : view.ctx.publication.segmenting = false) :
    Audits config (applyResultLocked config moment result saved) view := by
  have fails : ∀ exc code, Audits config (failResult result saved exc code) view :=
    fun _ _ => failing_audited audited free outside rfl (dropResult_unlocked result)
  have states : view.ctx.session.terminalState ≠ .failed ∧ view.ctx.session.terminalState ≠ .succeeded := by
    constructor <;> intro state <;> simp [ended,state] at running
  simp only [Audits,applyResultLocked,wp_bind,wp_get,wp_ite]
  refine ⟨fun _ => fails _ _,fun _ => ⟨fun _ => fails _ _,fun _ => ?_⟩⟩
  split
  · exact fails _ _
  · have works : Keeps (Worked config False False (fun _ => False) (fun _ => True) view)
        (acceptResult config moment result saved) :=
      acceptResult_works trivial moment result saved (fun _ _ => trivial) False.elim
    exact audits_of_works works audited fun _ _ => ⟨fun _ => free,fun _ => states⟩

/-- Whatever raised, the publication goes on to report a conflict. -/
theorem restoring_audited {program : Code V Bool} (saved : Saved) (audits : Audits config program view) :
    Audits config (restoring saved program) view := by
  rw [restoring,Audits,wp_tryCatch]
  refine wp_mono audits (fun _ _ kept => kept) fun exc next kept => ?_
  have works : Keeps (Worked config False False (fun _ => False) (fun publication => publication.holdsLock = false) next)
      (do
        updateContext fun ctx => { ctx with protocol := saved.protocol, segmentMetadata := saved.metadata }
        suspend (.conflictLock exc) : Code V Bool) :=
    keeps_bind (inner_works fun _ => by constructor <;> rfl) fun _ => suspend_works _ rfl
  exact unlocked_audited works kept

theorem applyResult_audited (moment : Moment) (result : InferenceResult) (audited : Audited config 0 view.ctx)
    (free : view.ctx.handler.holdsLock = false) (outside : view.ctx.publication.segmenting = false) :
    Audits config (applyResult config moment result) view := by
  simp only [Audits,applyResult,wp_bind,wp_get,wp_ite]
  refine ⟨fun _ => unlocked_audited (dropResult_unlocked result) audited,fun fresh => ?_⟩
  have running : ended view.ctx.session = false := by
    simp only [staleOrTerminal,Bool.or_eq_true,not_or,Bool.not_eq_true] at fresh
    exact fresh.2
  exact restoring_audited _ (applyResultLocked_audited moment result _ audited running free outside)

/-- The detector goes on after an endpoint; what it releases then is appended to the open session. -/
theorem finalizeEndpoint_audited {vad : V} (continuation : Bool) (audited : Audited config 0 view.ctx)
    (found : view.ctx.vad = some vad)
    (running : view.ctx.session.terminalState ≠ .failed ∧ view.ctx.session.terminalState ≠ .succeeded) :
    Audits config (finalizeEndpoint config vad continuation) view := by
  have conserves := config.detector.endpointFinalized_conserves vad
  have released := config.detector.endpointFinalized_whole vad
  have disposed : (config.detector.endpointFinalized vad).1.samples + config.detector.held (config.detector.endpointFinalized vad).2 =
      config.detector.held vad + 0 := conserves
  have decided := audited.hear found disposed
  have covers := audited.booked.covered running.1 running.2
  rw [found] at covers
  have fits : (config.detector.endpointFinalized vad).1.samples ≤ view.ctx.session.pendingVad := by
    simp only [heldBy,Option.elim_some] at covers
    omega
  simp only [Audits,finalizeEndpoint,updateContext]
  rw [wp_bind]
  simp only [wp_modify]
  generalize moved : view.withContext _ = next
  have heard : Audited config (config.detector.endpointFinalized vad).1.samples next.ctx := by
    rw [← moved]
    exact ⟨decided.booked,decided.placed⟩
  have session : next.ctx.session = view.ctx.session := by rw [← moved]; rfl
  rw [← session] at fits
  have settled := decision_audited heard fits released
  rw [wp_bind] at settled ⊢
  refine wp_mono settled ?_ fun _ _ kept => kept.1
  intro _ next discards
  rw [wp_bind]
  refine wp_mono discards ?_ fun _ _ kept => kept.1
  rintro _ last ⟨kept,_⟩
  exact ⟨kept.booked,kept.placed⟩

theorem finalizePending_audited (left : Bool) (audited : Audited config 0 view.ctx)
    (running : view.ctx.session.terminalState ≠ .failed ∧ view.ctx.session.terminalState ≠ .succeeded) :
    Audits config (finalizePending config left) view := by
  simp only [Audits,finalizePending,wp_bind,wp_get]
  split
  · rename_i vad _ found
    exact finalizeEndpoint_audited left audited found running
  · exact audited

theorem segmentEnded_audited (moment : Moment) (result : InferenceResult) (events : List WireEvent) (deferred : Bool)
    (saved : Saved) (answer : Except PyError AdapterResult) (audited : Audited config 0 view.ctx)
    (segmenting : view.ctx.publication.segmenting = true) :
    Audits config (segmentEnded config moment result events deferred saved answer) view := by
  refine restoring_audited saved ?_
  have running := audited.placed.segmenting segmenting
  have settles : ∀ next : View V, Worked config False False (fun _ => False) (fun _ => False) view next →
      Audited config 0 next.ctx := fun _ worked => worked_audited worked audited (fun _ no => no.elim) fun _ no => no.elim
  have raised : ∀ (exc : PyError) (next : View V), _ → Audited config 0 next.ctx := fun _ => settles
  refine wp_bind_of_keeps (keeps_ofExcept _) .refl raised fun control next worked => ?_
  refine wp_bind_of_keeps (applyControl_works _) worked raised fun _ next worked => ?_
  refine wp_bind_of_keeps keeps_get worked raised fun _ next worked => ?_
  refine wp_bind_of_keeps (callProtocol_works _) worked raised fun _ next worked => ?_
  refine wp_bind_of_keeps (keeps_modify ?_) worked raised fun _ next worked => ?_
  · intro next worked
    exact (worked.tail Work.utter).tail (.inner (by constructor <;> rfl))
  refine wp_bind_of_keeps keeps_get worked raised fun _ next worked => ?_
  have audited := settles next worked
  rw [← (worked_life worked).terminalState] at running
  rw [wp_bind]
  refine wp_mono (finalizePending_audited _ audited running) ?_ fun _ _ kept => kept
  intro continuation last kept
  refine unlocked_audited (concludeResult_works ?_ moment result _ deferred continuation) kept
  rfl

theorem publishResult_audited {moment : Moment} {result : InferenceResult} {answer : Except PyError AdapterResult}
    {program : Code V Bool} (audited : Audited config 0 view.ctx)
    (goesOn : publishResult config moment view result answer = some program) : Audits config program view := by
  have drops : Audits config (do discardTimeline result.jobId; published : Code V Bool) view := by
    refine unlocked_audited (keeps_bind (discardTimeline_works _) fun _ => published_works ?_) audited
    rfl
  have free : ¬view.ctx.locked = true → view.ctx.handler.holdsLock = false := by
    simp only [SessionContext.locked,Bool.or_eq_true,not_or,Bool.not_eq_true,and_imp]
    exact fun outside _ => outside
  unfold publishResult at goesOn
  cases stands : view.ctx.publication with
  | waiting =>
    rw [stands] at goesOn
    dsimp only at goesOn
    split at goesOn
    · cases goesOn
      exact drops
    split at goesOn
    · cases goesOn
    · rename_i open'
      cases goesOn
      exact applyResult_audited moment result audited (free open') (by rw [stands]; rfl)
  | failAdapter exc code saved =>
    rw [stands] at goesOn
    cases goesOn
    simp only [Audits,sessionFailed,emitTerminal,updateContext,wp_bind,wp_modify]
    refine unlocked_audited (failAnswered_works ?_ (fun _ => ?_) result exc code saved False.elim)
      ⟨audited.booked,audited.placed⟩
    · rfl
    · rfl
  | segmentAdapter events deferred saved =>
    rw [stands] at goesOn
    cases goesOn
    exact segmentEnded_audited moment result events deferred saved answer audited (by rw [stands]; rfl)
  | conflictLock exc =>
    rw [stands] at goesOn
    dsimp only at goesOn
    split at goesOn
    · cases goesOn
      exact drops
    split at goesOn
    · cases goesOn
    · rename_i open'
      cases goesOn
      simp only [conflictLocked,Audits,wp_bind,wp_get,wp_ite]
      refine ⟨fun _ => unlocked_audited (dropResult_unlocked result) audited,fun _ => ?_⟩
      rw [← wp_bind]
      refine failing_audited audited (free open') (by rw [stands]; rfl) rfl (keeps_bind setIdle_works fun _ => published_works ?_)
      rfl
  | conflictAdapter exc =>
    rw [stands] at goesOn
    cases goesOn
    simp only [Audits,sessionFailed,emitTerminal,updateContext,wp_bind,wp_modify]
    refine unlocked_audited (conflictAnswered_works ?_ result exc False.elim) ⟨audited.booked,audited.placed⟩
    rfl

theorem awaitedHook_audited {stage : Stage} {sessionId : SessionId} {program : Code V Unit}
    (awaits : awaitedHook stage = some (some (sessionId,program))) (audited : Audited config 0 view.ctx) :
    Audits config program view := by
  cases stage <;> simp only [awaitedHook,Option.some.injEq,Prod.mk.injEq,reduceCtorEq] at awaits <;>
    obtain ⟨-,rfl⟩ := awaits
  case cleanup => exact cleanupJob_audited _ audited
  case rejectExpired | rejectCancelled | drainReject => exact rejectJob_audited _ audited
  case discard | drainDiscard => exact audited

/-! ## Runs -/

/-- The detector hears a frame, or the end of the input, after its session has failed only when
    what it retains has not been counted as discarded. -/
def Undiscarded (config : GatewayConfig V) (runtime : GatewayRuntime V) : GatewayAction → Prop
  | .command sessionId .finish => ∀ view ∈ runtime.view sessionId, view.ctx.live = true → view.ctx.handler = .ready →
      view.ctx.session.terminalState = .failed → heldBy config view.ctx.vad ≤ view.ctx.session.pendingVad
  | .proceed sessionId _ _ => ∀ view ∈ runtime.view sessionId, view.ctx.handler.hears = true →
      view.ctx.session.terminalState = .failed → heldBy config view.ctx.vad ≤ view.ctx.session.pendingVad
  | _ => True

instance (runtime : GatewayRuntime V) (action : GatewayAction) : Decidable (Undiscarded config runtime action) :=
  match action with
  | .command _ .finish => inferInstanceAs (Decidable (∀ _ ∈ _, _))
  | .proceed .. => inferInstanceAs (Decidable (∀ _ ∈ _, _))
  | .command _ (.ingest ..) | .command _ .segment | .command _ (.error ..) | .command _ .abort
  | .openSession .. | .abort _ | .resumeAbort .. | .send _ | .runOnce .. | .submitted .. | .hook .. | .publish ..
  | .closeScheduler => .isTrue trivial

/-- A session whose handler goes on has not succeeded; unless it has failed, it accounts for
    what its detector retains. -/
theorem Audited.covers {ctx : SessionContext V} (audited : Audited config 0 ctx) (running : ctx.handler ≠ .closed)
    (failed : ctx.session.terminalState = .failed → heldBy config ctx.vad ≤ ctx.session.pendingVad) :
    heldBy config ctx.vad ≤ ctx.session.pendingVad := by
  by_cases state : ctx.session.terminalState = .failed
  · exact failed state
  · exact audited.booked.covered state fun succeeded => running (audited.placed.closed succeeded)

theorem moves_audited {runtime : GatewayRuntime V} {action : GatewayAction} {sessionId : SessionId} {before after : View V}
    (hearsAll : HearsAll config) (undiscarded : Undiscarded config runtime action)
    (moves : Moves config runtime action sessionId before after) (audited : Audited config 0 before.ctx) :
    Audited config 0 after.ctx := by
  cases moves with
  | command found issued =>
    refine runHandler_of_wp (command_audited audited ?_ issued)
    rintro rfl live stands
    exact audited.covers (by simp [stands]) (undiscarded _ found live stands)
  | proceed found goesOn =>
    refine runHandler_of_wp (proceed_audited hearsAll audited (fun hears => ?_) goesOn)
    refine audited.covers (fun closed => ?_) (undiscarded _ found hears)
    rw [closed] at hears
    cases hears
  | abort found => exact runTask_of_wp (abort_audited audited)
  | resumeAbort found resumes => exact runTask_of_wp (resumeAbort_audited audited resumes)
  | send found sends => exact runTask_of_wp (send_audited audited sends)
  | hook awaits found => exact outcome_of_wp (awaitedHook_audited awaits audited)
  | publish publishes found goesOn => exact outcome_of_wp (publishResult_audited audited goesOn)

theorem openContext_audited (sessionId : SessionId) (worker : WorkerId) (backendSessionId language : Text)
    (options : SessionOptions) (now : Time) :
    Audited config 0 (openContext config sessionId worker backendSessionId language options now) := by
  have silent : heldBy config (openContext config sessionId worker backendSessionId language options now).vad = 0 := by
    unfold openContext
    dsimp only
    split
    · exact config.detector.initial_held
    · rfl
  refine ⟨⟨⟨rfl,Nat.one_pos,rfl,?_,Nat.zero_le _,Nat.le_refl 0,?_,?_⟩,fun _ => ⟨.inl rfl,?_⟩,fun _ _ => ?_,
    fun _ => rfl,?_⟩,⟨?_,?_,?_,?_,?_⟩⟩
  · simp [openContext,sampleCount]
  · simp [openContext,sampleCount,GatewaySession.pendingVad]
  · rintro (_ | _) <;> contradiction
  · rw [silent]
    rfl
  · rw [silent]
    exact Nat.zero_le _
  · rintro _ ⟨⟩
  · rintro ⟨⟩
  · rintro ⟨⟩
  · rintro ⟨⟩
  · rintro _ _ ⟨⟩
  · rintro _ _ _ ⟨⟩

/-- In a run whose steps keep discarded samples from the detectors, the accounts of every session
    are in order. -/
theorem reached_audited {actions : List GatewayAction} {runtime : GatewayRuntime V} (hearsAll : HearsAll config)
    (reached : Reached config actions runtime)
    (undiscarded : Machine.Along (GatewayRuntime.step config) (Undiscarded config) .init actions) {sessionId : SessionId}
    {ctx : SessionContext V} (found : runtime.contexts sessionId = some ctx) : Audited config 0 ctx := by
  refine Machine.invariant_along (GatewayRuntime.step config)
    (fun runtime => ∀ sessionId ctx, runtime.contexts sessionId = some ctx → Audited config 0 ctx) ?_ ?_ undiscarded reached
    sessionId ctx found
  · intro runtime action next holds undiscarded stepped
    exact contexts_step openContext_audited (fun _ _ _ moves kept => moves_audited hearsAll undiscarded moves kept) holds stepped
  · intro sessionId ctx found
    cases found

/-- A detector in a state that its calls reach. -/
abbrev AlignedDetector (σ : Type) := { detector : StreamingVADEndpointDetector σ // detector.Aligned }

section
variable {σ : Type} (settings : VADSettings) (backend : VADBackend σ)

/-- `add_audio`. Where it raises, it has not changed the detector. -/
def AlignedDetector.addAudio (vad : AlignedDetector σ) (pcm : Pcm) : Except PyError (VADDecision × AlignedDetector σ) :=
  match heard : vad.1.addAudio settings backend pcm with
  | (.ok decision,next) =>
    .ok (decision,⟨next,(StreamingVADEndpointDetector.addAudio_sheds settings backend vad.2 heard).2⟩)
  | (.error exc,_) => .error exc

theorem AlignedDetector.addAudio_sheds {vad next : AlignedDetector σ} {pcm : Pcm} {decision : VADDecision}
    (heard : vad.addAudio settings backend pcm = .ok (decision,next)) :
    Sheds (vad.1.retained ++ pcm) decision.audioToModel decision.discardedSamples next.1.retained := by
  unfold addAudio at heard
  split at heard
  · rename_i found
    cases heard
    exact (StreamingVADEndpointDetector.addAudio_sheds settings backend vad.2 found).1
  · cases heard

theorem AlignedDetector.addAudio_whole (vad : AlignedDetector σ) {pcm : Pcm} (whole : pcm.length % 2 = 0) :
    ∃ heard, vad.addAudio settings backend pcm = .ok heard := by
  unfold addAudio
  split
  · exact ⟨_,rfl⟩
  · rename_i found
    rw [StreamingVADEndpointDetector.addAudio,if_neg (not_not.mpr whole)] at found
    cases found

theorem sheds_whole {before released after : Pcm} {discarded : Nat} (sheds : Sheds before released discarded after) :
    released.length % 2 = 0 := by
  obtain ⟨_,_,_,whole,_⟩ := sheds
  exact whole

/-- `StreamingVADEndpointDetector`, as the gateway calls it. -/
def streamingDetector (start : σ) : Detector (AlignedDetector σ) where
  initial := ⟨{ backendState := start },StreamingVADEndpointDetector.aligned_initial start⟩
  addAudio := AlignedDetector.addAudio settings backend
  endpointFinalized vad :=
    ((vad.1.endpointFinalized settings backend).1,
      ⟨(vad.1.endpointFinalized settings backend).2,
        (StreamingVADEndpointDetector.endpointFinalized_sheds settings backend vad.1 vad.2).2⟩)
  finishInput vad :=
    ((vad.1.finishInput settings backend).1,
      ⟨(vad.1.finishInput settings backend).2,
        (StreamingVADEndpointDetector.finishInput_sheds settings backend vad.1 vad.2).2.2⟩)
  reset vad := ⟨vad.1.reset backend,StreamingVADEndpointDetector.aligned_reset backend vad.1⟩
  held vad := sampleCount vad.1.retained
  initial_held := (rfl : sampleCount [] = 0)
  addAudio_conserves {vad next pcm decision} heard := by
    have conserved := (AlignedDetector.addAudio_sheds settings backend heard).conserves
    rw [sampleCount_append pcm vad.2.retained_whole] at conserved
    exact conserved
  endpointFinalized_conserves vad :=
    (StreamingVADEndpointDetector.endpointFinalized_sheds settings backend vad.1 vad.2).1.conserves
  finishInput_conserves vad := (StreamingVADEndpointDetector.finishInput_sheds settings backend vad.1 vad.2).1.conserves
  finishInput_held vad := by
    rw [(StreamingVADEndpointDetector.finishInput_sheds settings backend vad.1 vad.2).2.1]
    rfl
  addAudio_whole heard := sheds_whole (AlignedDetector.addAudio_sheds settings backend heard)
  endpointFinalized_whole vad :=
    sheds_whole (StreamingVADEndpointDetector.endpointFinalized_sheds settings backend vad.1 vad.2).1
  finishInput_whole vad := sheds_whole (StreamingVADEndpointDetector.finishInput_sheds settings backend vad.1 vad.2).1
  reset_held _ := (rfl : sampleCount [] = 0)

end

section
variable {σ : Type} {settings : VADSettings} {backend : VADBackend σ} {start : σ} {config : GatewayConfig (AlignedDetector σ)}

/-- In a run that keeps discarded samples from the detectors, the accounts of every session with a
    detector balance: the pending samples are never negative, they are the samples that the
    detector retains until the session ends, and with what the buffer holds they fit into it.
    So the audio that a detector releases always fits, and what it discards is pending. -/
theorem session_accounts_balance (streams : config.detector = streamingDetector settings backend start)
    {actions : List GatewayAction} {runtime : GatewayRuntime (AlignedDetector σ)} (reached : Reached config actions runtime)
    (undiscarded : Machine.Along (GatewayRuntime.step config) (Undiscarded config) .init actions) {sessionId : SessionId}
    {ctx : SessionContext (AlignedDetector σ)} (found : runtime.contexts sessionId = some ctx) {vad : AlignedDetector σ}
    (listens : ctx.vad = some vad) :
    (ctx.session.acceptedSamples : Int) = ctx.session.buffer.bufferedSamples + ctx.session.buffer.reservedSamples +
        ctx.session.buffer.acknowledgedSamples +
        (ctx.session.buffer.discardedSamples + ctx.session.externalDiscardedSamples) + pendingInput ctx.session ∧
      0 ≤ pendingInput ctx.session ∧
      (¬Over ctx.session → pendingInput ctx.session = sampleCount vad.1.retained) ∧
      ctx.session.buffer.bufferedSamples + ctx.session.buffer.reservedSamples + pendingInput ctx.session ≤
        ctx.session.buffer.maxSamples ∧
      ∀ refusal ∈ ctx.refusals, refusal.Terminal := by
  have hearsAll : HearsAll config := by
    intro vad pcm whole
    rw [streams]
    exact AlignedDetector.addAudio_whole settings backend vad whole
  have booked := (reached_audited hearsAll reached undiscarded found).booked
  have clamped := booked.balanced.clamped
  have limited := booked.balanced.limited
  refine ⟨booked.balanced.identity,by omega,fun running => ?_,by omega,booked.refusals⟩
  have same := (booked.retained running).2
  rw [heldBy,listens,streams,Option.elim_some,Nat.add_zero] at same
  rw [← clamped,same]
  rfl

end

/-- Frames of one sample, where any sound is speech and one silent frame ends an utterance. -/
def briskSettings : VADSettings where
  sampleRate := 1000
  frameSamples := 1
  onsetThreshold := 1 / 2
  offsetThreshold := 1 / 2
  minSpeechMs := 1
  minSilenceMs := 1
  hangoverMs := 1
  preRollMs := 1
  framePositive := Nat.one_pos

def anySound : VADBackend Unit where
  speechProbability _ frame := (if frame.all (· = 0) then 0 else 1,())
  reset _ := ()

/-- A gateway with the detector for its worker. -/
def listeningGateway : GatewayConfig (AlignedDetector Unit) where
  scheduler :=
    { smallGateway.scheduler with
      capabilities := fun worker =>
        { smallGateway.scheduler.capabilities worker with
          vadMode := .gateway
          vadOwned := nofun } }
  chars := ascii
  detector := streamingDetector briskSettings anySound ()
  measuresSegments _ := false
  rollingBatch := false
  defaultUpdateMs := 1
  maxSessionBufferSamples := 4
  maxAudioSeconds := 1
  maxSessionSeconds := 1
  maxUndecodedAgeSeconds := 1
  maxConnectionLagSeconds := 1
  streamQueueTimeoutSeconds := 1

/-- Speech of one sample and two silent ones. The detector releases the first two, reports an
    endpoint and retains the last. -/
def utterance : List GatewayAction :=
  [.openSession ['s'] ['w'] [] [] ⟨[],false,[],[]⟩ 0,.proceed ['s'] .go ⟨0,.ok 0⟩,
    .command ['s'] (.ingest [1,0,0,0,0,0] true),.proceed ['s'] .go ⟨0,.ok 0⟩]

theorem utterance_balanced : ∃ runtime ctx vad, Reached listeningGateway utterance runtime ∧
    runtime.contexts ['s'] = some ctx ∧ ctx.vad = some vad ∧ ¬Over ctx.session ∧
      pendingInput ctx.session = sampleCount vad.1.retained := by
  have ran : ((Machine.run (GatewayRuntime.step listeningGateway) .init utterance).bind fun runtime =>
      (runtime.contexts ['s']).bind fun ctx => ctx.vad.filter fun _ => !decide (Over ctx.session)).isSome = true := by
    decide +kernel
  have checked : Machine.check (GatewayRuntime.step listeningGateway)
      (fun runtime action => decide (Undiscarded listeningGateway runtime action)) .init utterance = true := by
    decide +kernel
  obtain ⟨vad,found⟩ := Option.isSome_iff_exists.mp ran
  obtain ⟨runtime,reached,found⟩ := Option.bind_eq_some_iff.mp found
  obtain ⟨ctx,known,found⟩ := Option.bind_eq_some_iff.mp found
  obtain ⟨listens,open'⟩ := Option.filter_eq_some_iff.mp found
  have running : ¬Over ctx.session := by simpa using open'
  have undiscarded := (Machine.along_of_check _ checked).mono _ fun _ _ => of_decide_eq_true
  exact ⟨runtime,ctx,vad,reached,known,listens,running,
    (session_accounts_balance rfl reached undiscarded known listens).2.2.1 running⟩

/-- The job of the utterance fails. While the adapter is told, the client finishes. -/
def finishAfterFailure : List GatewayAction :=
  utterance ++ [.runOnce ['w'] true 0,
    .submitted ['w'] (.results [some { firstResult with endSample := 2, error := some "backend failed" }]) 0,.hook ['w'] 0,
    .publish ['w'] (.ok {}) ⟨0,.ok 0⟩,.command ['s'] .finish]

theorem finish_after_failure_refused : ∃ runtime ctx, Reached listeningGateway finishAfterFailure runtime ∧
    runtime.contexts ['s'] = some ctx ∧
    ctx.refusals = [.discard (.valueError "discarded VAD samples exceed pending input")] := by
  have ran : ((Machine.run (GatewayRuntime.step listeningGateway) .init finishAfterFailure).bind fun runtime =>
      (runtime.contexts ['s']).map fun ctx => ctx.refusals) =
        some [.discard (.valueError "discarded VAD samples exceed pending input")] := by decide +kernel
  obtain ⟨runtime,reached,found⟩ := Option.bind_eq_some_iff.mp ran
  obtain ⟨ctx,known,refused⟩ := Option.map_eq_some_iff.mp found
  exact ⟨runtime,ctx,reached,known,refused⟩

end SpeechGateway.Gateway
