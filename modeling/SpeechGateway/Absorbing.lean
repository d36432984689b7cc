import SpeechGateway.Endings
import SpeechGateway.RingBuffer

/-!
The ends of a session, over any sequence of calls of its methods. A session that has ended
stays as it is, refuses audio and has nothing to reserve, up to the first call that
takes it out of its end (`ends_absorb_iff`): `request_finish` and `succeed` do not look at how it ended, and
`abort` and `fail` look only for some of the ends.
-/
namespace SpeechGateway.Sessions
open SpeechGateway.Chunking SpeechGateway.Gateway GatewaySession

/-- A call of a method that ends a session or moves its audio. -/
inductive SessionCall
  | appendPcm (pcm : Pcm) (countAccepted : Bool)
  | reserve (samples : Int) (final : Bool)
  | acknowledge (jobSequence generation : Nat)
  | rollback (jobSequence : Nat)
  | requestFinish
  | abort
  | fail
  | succeed
  deriving DecidableEq, Repr

/-- No negative count is reserved, as no empty one is. -/
def SessionCall.run (session : GatewaySession) : SessionCall → Except PyError GatewaySession
  | .appendPcm pcm countAccepted => session.appendPcm pcm countAccepted
  | .reserve samples final => (session.reserve samples.toNat final).map (·.2)
  | .acknowledge jobSequence generation => session.acknowledge jobSequence generation
  | .rollback jobSequence => (session.rollback jobSequence).map (·.2)
  | .requestFinish => .ok session.requestFinish
  | .abort => session.abort
  | .fail => session.fail
  | .succeed => session.succeed

/-- The session after a call that may raise. -/
def perform (session : GatewaySession) (call : SessionCall) : GatewaySession :=
  match call.run session with
  | .ok next => next
  | .error _ => session

def after (session : GatewaySession) (calls : List SessionCall) : GatewaySession := calls.foldl perform session

/-- `sample_accounting`. -/
structure SampleAccounting where
  accepted : Nat
  buffered : Nat
  reserved : Nat
  acknowledged : Nat
  discarded : Nat
  pendingVad : Nat
  deriving DecidableEq, Repr

def sampleAccounting (session : GatewaySession) : SampleAccounting where
  accepted := session.acceptedSamples
  buffered := session.buffer.bufferedSamples
  reserved := session.buffer.reservedSamples
  acknowledged := session.buffer.acknowledgedSamples
  discarded := session.buffer.discardedSamples + session.externalDiscardedSamples
  pendingVad := session.pendingVad

/-- `GatewaySession.__init__` has just made the session. -/
structure Created (session : GatewaySession) : Prop where
  opened : session.terminalState = .opened
  unreserved : session.reservation = none
  buffer : ∃ maxSamples, session.buffer = { maxSamples := maxSamples }
  unfinished : session.finishRequested = false

/-- The call takes the session out of its end. -/
def revives (session : GatewaySession) (call : SessionCall) : Bool :=
  match call, session.terminalState with
  | .requestFinish, .succeeded | .requestFinish, .failed | .requestFinish, .aborted => !session.finishRequested
  | .abort, .succeeded | .fail, .succeeded | .fail, .aborted | .succeed, .failed | .succeed, .aborted => true
  | _, _ => false

/-- No call of the sequence does. -/
def Absorbing : GatewaySession → List SessionCall → Prop
  | _, [] => True
  | session, call :: rest => revives session call = false ∧ Absorbing (perform session call) rest

/-- The later state of an ended session: the same end and accounts, and no audio taken or reserved. -/
structure Absorbed (earlier session : GatewaySession) : Prop where
  state : session.terminalState = earlier.terminalState
  accounting : sampleAccounting session = sampleAccounting earlier
  refuses : ∀ pcm countAccepted, ∃ error, session.appendPcm pcm countAccepted = .error error
  exhausted : ∀ samples final, ∃ error, SessionCall.run session (.reserve samples final) = .error error

/-- The buffer reserves what the session does, and an ended session holds no audio. -/
structure Settled (session : GatewaySession) : Prop where
  coherent : Coherent session
  nonempty : ∀ chunk, session.buffer.reservation = some chunk → 0 < chunk.sampleCount
  empty : ended session = true → session.reservation = none ∧ session.buffer.bufferedSamples = 0

section Steps
variable {session next : GatewaySession} {call : SessionCall}

theorem ended_iff : ended session = true ↔
    session.terminalState = .succeeded ∨ session.terminalState = .failed ∨ session.terminalState = .aborted := by
  unfold ended
  cases session.terminalState <;> simp

theorem appendPcm_refused (past : ended session = true) (pcm : Pcm) (countAccepted : Bool) :
    session.appendPcm pcm countAccepted = .error (.runtimeError "session is terminal") := by
  unfold GatewaySession.appendPcm
  rw [if_pos]
  rcases ended_iff.mp past with state | state | state <;> simp [state]

theorem reserve_refused (settled : Settled session) (past : ended session = true) (samples : Nat) (final : Bool) :
    session.reserve samples final = .error (.valueError "reservation sample count is outside buffered range") := by
  obtain ⟨free,empty⟩ := settled.empty past
  have unreserved : session.buffer.reservation = none := by rw [settled.coherent,free]; rfl
  have outside : samples = 0 ∨ session.buffer.bufferedSamples < samples := by omega
  simp [GatewaySession.reserve,inFlight,free,PcmRingBuffer.reserveRange,unreserved,outside,bind,Except.bind]

/-- An ended session that nothing revives stays as it is. -/
theorem perform_ended (settled : Settled session) (past : ended session = true) (stays : revives session call = false) :
    perform session call = session := by
  obtain ⟨free,empty⟩ := settled.empty past
  have states := ended_iff.mp past
  cases call with
  | appendPcm pcm countAccepted => simp only [perform,SessionCall.run,appendPcm_refused past]
  | reserve samples final => simp [perform,SessionCall.run,reserve_refused settled past,Except.map]
  | acknowledge jobSequence generation =>
    simp only [perform,SessionCall.run,GatewaySession.acknowledge,free]
    by_cases stale : generation ≠ session.generation
    · rw [if_pos stale]
    · rw [if_neg stale]
  | rollback jobSequence => simp [perform,SessionCall.run,GatewaySession.rollback,free,Except.map]
  | requestFinish =>
    have requested : session.finishRequested = true := by
      rcases states with state | state | state <;> simpa [revives,state] using stays
    simp [perform,SessionCall.run,GatewaySession.requestFinish,requested]
  | abort =>
    have way : session.terminalState = .aborted ∨ session.terminalState = .failed := by
      rcases states with state | state | state <;> simp [revives,state] at stays ⊢
    simp only [perform,SessionCall.run,GatewaySession.abort,if_pos way]
  | fail =>
    have failed : session.terminalState = .failed := by
      rcases states with state | state | state <;> simp [revives,state] at stays ⊢
    simp only [perform,SessionCall.run,GatewaySession.fail,GatewaySession.abort,if_pos (Or.inr failed),bind,Except.bind]
    rw [← failed]
  | succeed =>
    have succeeded : session.terminalState = .succeeded := by
      rcases states with state | state | state <;> simp [revives,state] at stays ⊢
    simp only [perform,SessionCall.run,GatewaySession.succeed]
    split
    · rename_i accounted
      split_ifs at accounted
      cases accounted
      rw [← succeeded]
    · rfl

/-- A call that revives a session gives it another state. -/
theorem perform_revives (settled : Settled session) (past : ended session = true) (moves : revives session call = true) :
    (perform session call).terminalState ≠ session.terminalState := by
  obtain ⟨free,empty⟩ := settled.empty past
  have unreserved : session.buffer.reservation = none := by rw [settled.coherent,free]; rfl
  have states := ended_iff.mp past
  cases call with
  | appendPcm | reserve | acknowledge | rollback => simp [revives] at moves
  | requestFinish =>
    have unfinished : session.finishRequested = false := by
      rcases states with state | state | state <;> simpa [revives,state] using moves
    rcases states with state | state | state <;>
      simp [perform,SessionCall.run,GatewaySession.requestFinish,unfinished,state]
  | abort =>
    have succeeded : session.terminalState = .succeeded := by
      rcases states with state | state | state <;> simp [revives,state] at moves ⊢
    rcases abort_eq settled.coherent with ⟨other,_⟩ | ⟨_,next,aborts,aborted⟩
    · simp [succeeded] at other
    · simp [perform,SessionCall.run,aborts,aborted.terminalState,succeeded]
  | fail =>
    have way : session.terminalState ≠ .failed := by
      rcases states with state | state | state <;> simp [revives,state] at moves ⊢
    have fails : ∃ next, session.fail = .ok next ∧ next.terminalState = .failed := by
      rcases abort_eq settled.coherent with ⟨_,aborts⟩ | ⟨_,next,aborts,_⟩
      · exact ⟨{ session with terminalState := .failed },by rw [GatewaySession.fail,aborts]; rfl,rfl⟩
      · exact ⟨{ next with terminalState := .failed },by rw [GatewaySession.fail,aborts]; rfl,rfl⟩
    obtain ⟨next,fails,failed⟩ := fails
    simpa [perform,SessionCall.run,fails,failed] using way.symm
  | succeed =>
    have way : session.terminalState ≠ .succeeded := by
      rcases states with state | state | state <;> simp [revives,state] at moves ⊢
    have clear : session.buffer.reservedSamples = 0 := by simp [PcmRingBuffer.reservedSamples,unreserved]
    simpa [perform,SessionCall.run,GatewaySession.succeed,empty,clear] using way.symm

/-- A result that is applied frees the reservation. -/
theorem acknowledge_frees {jobSequence generation : Nat} (done : session.acknowledge jobSequence generation = .ok next) :
    next.terminalState = session.terminalState ∧ next.reservation = none ∧ next.buffer.reservation = none := by
  unfold GatewaySession.acknowledge at done
  split_ifs at done
  split at done
  · cases done
  · rename_i reservation found
    split_ifs at done
    cases moved : session.buffer.acknowledge reservation.chunk.startSample reservation.chunk.endSample with
    | error error => simp [moved,bind,Except.bind] at done
    | ok buffer =>
      simp only [moved,bind,Except.bind] at done
      cases done
      obtain ⟨_,_,rfl⟩ := PcmRingBuffer.acknowledge_ok moved
      exact ⟨rfl,rfl,rfl⟩

/-- A rollback frees the reservation, or does nothing. -/
theorem rollback_frees {jobSequence : Nat} {held : Bool} (coherent : Coherent session)
    (done : session.rollback jobSequence = .ok (held,next)) :
    next = session ∨ next.terminalState = session.terminalState ∧ next.reservation = none ∧ next.buffer.reservation = none := by
  cases found : session.reservation with
  | none =>
    simp only [GatewaySession.rollback,found] at done
    cases done
    exact .inl rfl
  | some reservation =>
    by_cases own : reservation.jobSequence = jobSequence
    · subst own
      rw [rollback_eq coherent found] at done
      cases done
      exact .inr ⟨rfl,rfl,rfl⟩
    · simp only [GatewaySession.rollback,found,if_pos own] at done
      cases done
      exact .inl rfl

theorem Settled.freed (running : ended next = false) (free : next.reservation = none)
    (unreserved : next.buffer.reservation = none) : Settled next :=
  ⟨by rw [Coherent,free,unreserved]; rfl,by simp [unreserved],by simp [running]⟩

/-- A call that returned on a running session keeps its reservation coherent and, if the session
    has ended now, leaves it empty. -/
theorem Settled.run (settled : Settled session) (running : ended session = false) (done : call.run session = .ok next) :
    Settled next := by
  have runs : ∀ {later : GatewaySession}, later.terminalState = session.terminalState → ended later = false := by
    intro later same
    rw [ended,same,← ended,running]
  have aborts : ∃ aborted, session.abort = .ok aborted ∧ Aborted session aborted := by
    rcases abort_eq settled.coherent with ⟨past,_⟩ | ⟨_,aborts⟩
    · rcases past with state | state <;> simp [ended,state] at running
    · exact aborts
  cases call with
  | appendPcm pcm countAccepted =>
    obtain ⟨_,buffer,appends,rfl⟩ := appendPcm_eq done
    obtain ⟨_,_,rfl⟩ := PcmRingBuffer.append_ok appends
    exact ⟨settled.coherent,settled.nonempty,fun past => by simp [runs] at past⟩
  | reserve samples final =>
    cases reserves : session.reserve samples.toNat final with
    | error error => simp [SessionCall.run,reserves,Except.map] at done
    | ok reserved =>
      obtain ⟨reservation,later⟩ := reserved
      obtain rfl : later = next := by simpa [SessionCall.run,reserves,Except.map] using done
      obtain ⟨_,chunk,buffer,range,rfl,rfl⟩ := reserve_eq reserves
      obtain ⟨_,some,_,start,stop,rfl⟩ := reserveRange_eq range
      refine ⟨rfl,?_,fun past => by simp [runs] at past⟩
      rintro _ ⟨⟩
      simp only [ReadyChunk.sampleCount,start,stop]
      omega
  | acknowledge jobSequence generation =>
    obtain ⟨state,free,unreserved⟩ := acknowledge_frees done
    exact .freed (runs state) free unreserved
  | rollback jobSequence =>
    cases rollsBack : session.rollback jobSequence with
    | error error => simp [SessionCall.run,rollsBack,Except.map] at done
    | ok outcome =>
      obtain ⟨held,later⟩ := outcome
      obtain rfl : later = next := by simpa [SessionCall.run,rollsBack,Except.map] using done
      rcases rollback_frees settled.coherent rollsBack with rfl | ⟨state,free,unreserved⟩
      · exact settled
      · exact .freed (runs state) free unreserved
  | requestFinish =>
    cases done
    unfold GatewaySession.requestFinish
    split
    · exact settled
    · exact ⟨settled.coherent,settled.nonempty,fun past => by simp [ended] at past⟩
  | abort =>
    obtain ⟨aborted,made,left⟩ := aborts
    obtain rfl : aborted = next := by simpa [SessionCall.run,made] using done
    exact ⟨by rw [Coherent,left.buffer,left.reservation]; rfl,by simp [left.buffer],fun _ => ⟨left.reservation,left.empty⟩⟩
  | fail =>
    obtain ⟨aborted,made,left⟩ := aborts
    simp only [SessionCall.run,GatewaySession.fail,made,bind,Except.bind] at done
    cases done
    exact ⟨by rw [Coherent,left.buffer,left.reservation]; rfl,by simp [left.buffer],fun _ => ⟨left.reservation,left.empty⟩⟩
  | succeed =>
    simp only [SessionCall.run,GatewaySession.succeed] at done
    split_ifs at done with pending
    cases done
    obtain ⟨empty,clear⟩ : session.buffer.bufferedSamples = 0 ∧ session.buffer.reservedSamples = 0 := by omega
    have unreserved : session.buffer.reservation = none := by
      cases held : session.buffer.reservation with
      | none => rfl
      | some chunk =>
        have some := settled.nonempty chunk held
        simp only [PcmRingBuffer.reservedSamples,held,Option.map_some,Option.getD_some] at clear
        omega
    refine ⟨settled.coherent,settled.nonempty,fun _ => ⟨?_,empty⟩⟩
    have same := settled.coherent
    rw [Coherent,unreserved] at same
    exact Option.map_eq_none_iff.mp same.symm

theorem Settled.perform (settled : Settled session) (stays : revives session call = false) : Settled (perform session call) := by
  by_cases past : ended session = true
  · rw [perform_ended settled past stays]
    exact settled
  · unfold Sessions.perform
    split
    · rename_i done
      exact settled.run (by simpa using past) done
    · exact settled

theorem Created.settled (created : Created session) : Settled session := by
  obtain ⟨maxSamples,buffer⟩ := created.buffer
  refine ⟨by rw [Coherent,buffer,created.unreserved]; rfl,by simp [buffer],?_⟩
  simp [ended,created.opened]

theorem Settled.absorbed (settled : Settled session) (past : ended session = true) : Absorbed session session := by
  refine ⟨rfl,rfl,fun pcm countAccepted => ⟨_,appendPcm_refused past pcm countAccepted⟩,fun samples final =>
    ⟨.valueError "reservation sample count is outside buffered range",?_⟩⟩
  simp only [SessionCall.run,reserve_refused settled past,Except.map]

/-! ## Sequences of calls -/

theorem after_append (session : GatewaySession) (first later : List SessionCall) :
    after session (first ++ later) = after (after session first) later := List.foldl_append

theorem absorbing_append (session : GatewaySession) (first later : List SessionCall) :
    Absorbing session (first ++ later) ↔ Absorbing session first ∧ Absorbing (after session first) later := by
  induction first generalizing session with
  | nil => simp [Absorbing,after]
  | cons call rest ih =>
    simp only [List.cons_append,Absorbing,ih]
    exact (and_assoc).symm

theorem Settled.after {calls : List SessionCall} (settled : Settled session) (absorbing : Absorbing session calls) :
    Settled (after session calls) := by
  induction calls generalizing session with
  | nil => exact settled
  | cons call rest ih => exact ih (settled.perform absorbing.1) absorbing.2

theorem revives_ended (moves : revives session call = true) : ended session = true := by
  unfold revives at moves
  split at moves <;> simp_all [ended]

/-- Nothing changes an ended session that nothing revives. -/
theorem after_ended {calls : List SessionCall} (settled : Settled session) (past : ended session = true)
    (absorbing : Absorbing session calls) : after session calls = session := by
  induction calls with
  | nil => rfl
  | cons call rest ih =>
    have same := perform_ended settled past absorbing.1
    have rest := absorbing.2
    rw [same] at rest
    rw [Sessions.after,List.foldl_cons,same]
    exact ih rest

/-- The first call that revives the session. -/
theorem first_revival {calls : List SessionCall} (revived : ¬Absorbing session calls) :
    ∃ first call last, calls = first ++ [call] ++ last ∧ Absorbing session first ∧ revives (after session first) call = true := by
  induction calls generalizing session with
  | nil => exact absurd trivial revived
  | cons call rest ih =>
    cases moves : revives session call with
    | true => exact ⟨[],call,rest,rfl,trivial,moves⟩
    | false =>
      obtain ⟨first,later,last,rfl,absorbing,revives⟩ := ih fun absorbing => revived ⟨moves,absorbing⟩
      exact ⟨call :: first,later,last,rfl,⟨moves,absorbing⟩,revives⟩

/-- The ends of a session absorb in a sequence of calls exactly when none of them is a
    `request_finish` of an ended session that was not asked to finish before, an `abort` of one that
    succeeded, a `fail` of one that succeeded or was aborted, or a `succeed` of one that failed or
    was aborted. -/
theorem ends_absorb_iff (session : GatewaySession) (created : Created session) (calls : List SessionCall) :
    (∀ first middle last, calls = first ++ middle ++ last → ended (after session first) = true →
      Absorbed (after session first) (after session (first ++ middle))) ↔ Absorbing session calls := by
  constructor
  · intro absorbed
    by_contra revived
    obtain ⟨first,call,last,rfl,absorbing,moves⟩ := first_revival revived
    have settled := created.settled.after absorbing
    have past := revives_ended moves
    have state := (absorbed first [call] last rfl past).state
    rw [after_append] at state
    exact perform_revives settled past moves state
  · rintro absorbing first middle last rfl past
    obtain ⟨both,_⟩ := (absorbing_append _ _ _).mp absorbing
    obtain ⟨before,between⟩ := (absorbing_append _ _ _).mp both
    have settled := created.settled.after before
    rw [after_append,after_ended settled past between]
    exact settled.absorbed past

end Steps

/-- A session that nothing has happened to. -/
def exampleSession : GatewaySession where
  sessionId := ['s']
  selectedWorkerId := ['w']
  backendSessionId := ['b']
  sampleRate := 1
  language := []
  options := ⟨[],false,[],[]⟩
  buffer := { maxSamples := 4 }

theorem exampleSession_created : Created exampleSession := ⟨rfl,rfl,⟨4,rfl⟩,rfl⟩

/-- A success in order. -/
def finishedCalls : List SessionCall :=
  [.appendPcm [1,2] true,.requestFinish,.reserve 1 true,.acknowledge 1 1,.succeed,.appendPcm [3,4] true,.requestFinish]

theorem ends_absorb_finished : ended (after exampleSession (finishedCalls.take 5)) = true ∧
    Absorbed (after exampleSession (finishedCalls.take 5)) (after exampleSession finishedCalls) :=
  ⟨by decide,(ends_absorb_iff exampleSession exampleSession_created finishedCalls).mpr ⟨by decide,by decide,by decide,by decide,by decide,by decide,by decide,trivial⟩
    (finishedCalls.take 5) (finishedCalls.drop 5) [] rfl (by decide)⟩

/-- A failed session that is asked to finish takes audio again, and succeeds. -/
theorem failed_session_succeeds :
    let failed := after exampleSession [.appendPcm [1,2] true,.fail]
    let resumed := after failed [.requestFinish,.appendPcm [3,4] true]
    failed.terminalState = .failed ∧ resumed.terminalState = .finishing ∧
      sampleAccounting resumed ≠ sampleAccounting failed ∧ resumed.buffer.data = [3,4] ∧
      (after resumed [.reserve 1 true,.acknowledge 1 2,.succeed]).terminalState = .succeeded := by
  decide

end SpeechGateway.Sessions
