import SpeechGateway.Runtime

/-!
Who has a session's audio. The buffer holds what follows its base in the stream of all
appended bytes, a reservation is the front of the buffer, and the scheduler holds exactly
the job of the reservation. What was submitted to the adapter is the stream up to a
frontier (`Custody`).
-/
namespace SpeechGateway.Gateway
open SpeechGateway.Chunking SpeechGateway.Sessions SpeechGateway.Scheduling PcmRingBuffer

/-- The jobs cover the stream from one position up to another, in order. -/
def Covers (stream : Pcm) : Nat → List InferenceJob → Nat → Prop
  | start, [], stop => start = stop
  | start, job :: rest, stop =>
    job.startSample = start ∧ start < job.endSample ∧ job.pcm = samplesBetween stream start job.endSample ∧
      Covers stream job.endSample rest stop

theorem covers_le {stream : Pcm} {start stop : Nat} {jobs : List InferenceJob} (covers : Covers stream start jobs stop) :
    start ≤ stop := by
  induction jobs generalizing start with
  | nil => exact Nat.le_of_eq covers
  | cons job rest ih =>
    obtain ⟨_,nonempty,_,later⟩ := covers
    exact Nat.le_trans (Nat.le_of_lt nonempty) (ih later)

theorem covers_snoc {stream : Pcm} {start stop : Nat} {jobs : List InferenceJob} {job : InferenceJob}
    (covers : Covers stream start jobs stop) (starts : job.startSample = stop) (nonempty : stop < job.endSample)
    (contents : job.pcm = samplesBetween stream stop job.endSample) :
    Covers stream start (jobs ++ [job]) job.endSample := by
  induction jobs generalizing start with
  | nil =>
    obtain rfl : start = stop := covers
    exact ⟨starts,nonempty,contents,rfl⟩
  | cons first rest ih =>
    obtain ⟨starts,nonempty,contents,later⟩ := covers
    exact ⟨starts,nonempty,contents,ih later⟩

theorem covers_append {stream : Pcm} {start stop : Nat} {jobs : List InferenceJob} (more : Pcm)
    (covers : Covers stream start jobs stop) (within : stop * 2 ≤ stream.length) :
    Covers (stream ++ more) start jobs stop := by
  induction jobs generalizing start with
  | nil => exact covers
  | cons job rest ih =>
    obtain ⟨starts,nonempty,contents,later⟩ := covers
    have := covers_le later
    exact ⟨starts,nonempty,by rw [contents,samplesBetween_append _ _ _ _ (by omega)],ih later⟩

/-- Put together, the audio of the jobs is that part of the stream. -/
theorem covers_audio {stream : Pcm} {start stop : Nat} {jobs : List InferenceJob} (covers : Covers stream start jobs stop)
    (within : stop * 2 ≤ stream.length) : (jobs.map (·.pcm)).flatten = samplesBetween stream start stop := by
  induction jobs generalizing start with
  | nil =>
    obtain rfl : start = stop := covers
    simp [samplesBetween]
  | cons job rest ih =>
    obtain ⟨starts,nonempty,contents,later⟩ := covers
    rw [List.map_cons,List.flatten_cons,ih later,contents,
      samplesBetween_trans stream (Nat.le_of_lt nonempty) (covers_le later) within]

/-- Each job starts where the one before ended. -/
theorem covers_chain {stream : Pcm} {start stop : Nat} {jobs : List InferenceJob} (covers : Covers stream start jobs stop) :
    jobs.IsChain fun first second => second.startSample = first.endSample := by
  induction jobs generalizing start with
  | nil => exact .nil
  | cons job rest ih =>
    obtain ⟨_,_,_,later⟩ := covers
    cases rest with
    | nil => exact .singleton _
    | cons next rest => exact .cons_cons later.1 (ih later)

def ofSession (sessionId : SessionId) (jobs : List InferenceJob) : List InferenceJob :=
  jobs.filter (·.sessionId = sessionId)

/-- The jobs of a session that were passed to `adapter.submit`, in order. -/
def submittedJobs (sessionId : SessionId) (calls : List AdapterCall) : List InferenceJob :=
  calls.flatMap fun | .submit batch => ofSession sessionId batch | _ => []

@[simp] theorem submittedJobs_append (sessionId : SessionId) (calls more : List AdapterCall) :
    submittedJobs sessionId (calls ++ more) = submittedJobs sessionId calls ++ submittedJobs sessionId more := by
  simp [submittedJobs]

@[simp] theorem ofSession_append (sessionId : SessionId) (jobs more : List InferenceJob) :
    ofSession sessionId (jobs ++ more) = ofSession sessionId jobs ++ ofSession sessionId more := by
  simp [ofSession]

/-- The job was made for the reservation. -/
structure Carries (job : InferenceJob) (reservation : SessionReservation) : Prop where
  generation : job.generation = reservation.generation
  jobSequence : job.jobSequence = reservation.jobSequence
  startSample : job.startSample = reservation.chunk.startSample
  endSample : job.endSample = reservation.chunk.endSample
  pcm : job.pcm = reservation.chunk.pcm

/-- How far the jobs of the session were submitted, while it is in its first generation. -/
def frontier (session : GatewaySession) (dispatched : List InferenceJob) : Nat :=
  if dispatched = [] then session.buffer.baseSample
  else session.reservation.elim session.buffer.baseSample (·.chunk.endSample)

/-- A number that no submitted job has reached. -/
def sequenceBound (session : GatewaySession) (dispatched : List InferenceJob) : Nat :=
  if dispatched = [] then session.reservation.elim session.nextJobSequence (·.jobSequence) else session.nextJobSequence

/-- A session with the stream of its appended bytes, whose jobs `waiting` are not submitted
    yet, whose jobs `dispatched` are submitted and not cleaned up, and whose jobs `submitted`
    are all those ever submitted. A session past its first generation is over: it has no
    audio left, and a job of it that still waits is cancelled. -/
structure Custody (session : GatewaySession) (live : Bool) (stream : Pcm) (cancelled : Prop)
    (waiting dispatched submitted : List InferenceJob) : Prop where
  holds : Holds stream session.buffer
  coherent : session.buffer.reservation = session.reservation.map (·.chunk)
  positive : 0 < session.generation
  reserved : ∀ reservation, session.reservation = some reservation →
    reservation.generation = session.generation ∧ reservation.jobSequence < session.nextJobSequence ∧
      ∃ job, waiting ++ dispatched = [job] ∧ Carries job reservation
  unreserved : session.reservation = none → dispatched = [] ∧
    (waiting = [] ∨ 1 < session.generation ∧ ∃ job, waiting = [job])
  first : ∀ job ∈ waiting ++ dispatched, job.generation = 1
  past : 1 < session.generation → session.buffer.bufferedSamples = 0 ∧ session.reservation = none ∧
    (waiting ≠ [] → cancelled)
  blocked : 1 < session.generation → session.finishRequested = false →
    session.terminalState = .failed ∨ session.terminalState = .aborted
  stopped : session.terminalState = .failed ∨ session.terminalState = .aborted → 1 < session.generation
  succeeded : session.terminalState = .succeeded →
    session.buffer.bufferedSamples = 0 ∧ session.reservation = none ∧ session.finishRequested = true
  released : live = false → 1 < session.generation
  covers : ∃ stop, Covers stream 0 submitted stop ∧ stop * 2 ≤ stream.length ∧
    (session.generation = 1 → stop = frontier session dispatched)
  ordered : (submitted.map (·.jobSequence)).Pairwise (· < ·)
  bounded : ∀ job ∈ submitted, job.jobSequence < sequenceBound session dispatched

theorem appendPcm_eq {session next : GatewaySession} {pcm : Pcm} {countAccepted : Bool}
    (appends : session.appendPcm pcm countAccepted = .ok next) :
    (session.terminalState = .opened ∨ session.terminalState = .finishing) ∧
      ∃ buffer, session.buffer.append pcm = .ok buffer ∧ next = { session with
        buffer := buffer
        acceptedSamples := session.acceptedSamples + if countAccepted then sampleCount pcm else 0 } := by
  unfold GatewaySession.appendPcm at appends
  split at appends
  · cases appends
  rename_i opened
  cases found : session.buffer.append pcm with
  | error exc => simp [found,bind,Except.bind] at appends
  | ok buffer =>
    simp only [found,bind,Except.bind,Except.ok.injEq] at appends
    exact ⟨by grind,buffer,rfl,appends.symm⟩

theorem append_reservation {buffer next : PcmRingBuffer} {pcm : Pcm} (appends : buffer.append pcm = .ok next) :
    next.reservation = buffer.reservation ∧ next.baseSample = buffer.baseSample := by
  unfold PcmRingBuffer.append at appends
  split at appends
  · cases appends
  dsimp only at appends
  split at appends
  · cases appends
  · cases appends
    exact ⟨rfl,rfl⟩

theorem reserve_eq {session next : GatewaySession} {samples : Nat} {final : Bool} {reservation : SessionReservation}
    (reserves : session.reserve samples final = .ok (reservation,next)) :
    session.reservation = none ∧ ∃ chunk buffer, session.buffer.reserveRange samples final = .ok (chunk,buffer) ∧
      reservation = ⟨session.nextJobSequence,session.generation,chunk⟩ ∧ next = { session with
        buffer := buffer
        nextJobSequence := session.nextJobSequence + 1
        reservation := some reservation } := by
  unfold GatewaySession.reserve at reserves
  split at reserves
  · cases reserves
  rename_i free
  cases found : session.buffer.reserveRange samples final with
  | error exc => simp [found,bind,Except.bind] at reserves
  | ok reserved =>
    obtain ⟨chunk,buffer⟩ := reserved
    simp only [found,bind,Except.bind,Except.ok.injEq,Prod.mk.injEq] at reserves
    obtain ⟨rfl,rfl⟩ := reserves
    refine ⟨by simpa [GatewaySession.inFlight] using free,chunk,buffer,rfl,rfl,rfl⟩

theorem reserveRange_eq {buffer next : PcmRingBuffer} {samples : Nat} {final : Bool} {chunk : ReadyChunk}
    (reserves : buffer.reserveRange samples final = .ok (chunk,next)) :
    buffer.reservation = none ∧ 0 < samples ∧ samples ≤ buffer.bufferedSamples ∧
      chunk.startSample = buffer.baseSample ∧ chunk.endSample = buffer.baseSample + samples ∧
      next = { buffer with reservation := some chunk } := by
  unfold reserveRange at reserves
  split at reserves
  · cases reserves
  rename_i free
  split at reserves
  · cases reserves
  rename_i fits
  cases reserves
  obtain ⟨some,enough⟩ := not_or.mp fits
  exact ⟨by simpa using free,Nat.pos_of_ne_zero some,Nat.not_lt.mp enough,rfl,rfl,rfl⟩

/-- A rollback of the reserved range gives the reservation up, and changes nothing else. -/
theorem bufferRollback_eq {buffer : PcmRingBuffer} {chunk : ReadyChunk} (reserved : buffer.reservation = some chunk) :
    buffer.rollback chunk.startSample chunk.endSample = .ok { buffer with reservation := none } := by
  simp [PcmRingBuffer.rollback,requireReservation,reserved,bind,Except.bind]

theorem rollback_eq {session : GatewaySession} {reservation : SessionReservation}
    (coherent : session.buffer.reservation = session.reservation.map (·.chunk))
    (reserved : session.reservation = some reservation) :
    session.rollback reservation.jobSequence = .ok (true,{ session with
      buffer := { session.buffer with reservation := none }
      reservation := none }) := by
  rw [reserved] at coherent
  simp [GatewaySession.rollback,reserved,bufferRollback_eq coherent,bind,Except.bind]

theorem acknowledge_eq {session : GatewaySession} {reservation : SessionReservation}
    (coherent : session.buffer.reservation = session.reservation.map (·.chunk))
    (reserved : session.reservation = some reservation) : ∃ buffer,
      session.buffer.acknowledge reservation.chunk.startSample reservation.chunk.endSample = .ok buffer ∧
      session.acknowledge reservation.jobSequence session.generation =
        .ok { session with buffer := buffer, reservation := none } := by
  rw [reserved,Option.map_some] at coherent
  simp [GatewaySession.acknowledge,reserved,PcmRingBuffer.acknowledge,requireReservation,coherent,bind,Except.bind]

/-- What `abort` leaves of a session that had not failed or been aborted. -/
structure Aborted (session next : GatewaySession) : Prop where
  sessionId : next.sessionId = session.sessionId
  worker : next.selectedWorkerId = session.selectedWorkerId
  generation : next.generation = session.generation + 1
  terminalState : next.terminalState = .aborted
  finishRequested : next.finishRequested = session.finishRequested
  nextJobSequence : next.nextJobSequence = session.nextJobSequence
  reservation : next.reservation = none
  buffer : next.buffer.reservation = none
  empty : next.buffer.bufferedSamples = 0
  holds : ∀ stream, Holds stream session.buffer → Holds stream next.buffer

theorem dropReservation_eq {session : GatewaySession}
    (coherent : session.buffer.reservation = session.reservation.map (·.chunk)) :
    session.dropReservation = .ok { session with
      buffer := { session.buffer with reservation := none }
      reservation := none } := by
  obtain ⟨sessionId,worker,backend,rate,language,options,generation,terminal,buffer,next,reservation,finish,accepted,
    discarded⟩ := session
  cases reservation with
  | none =>
    obtain ⟨maxSamples,data,base,accepted,acknowledged,discarded,reserved⟩ := buffer
    obtain rfl : reserved = none := coherent
    rfl
  | some reservation =>
    have reserved : buffer.reservation = some reservation.chunk := coherent
    simp [GatewaySession.dropReservation,bufferRollback_eq reserved,bind,Except.bind]

theorem unreserved_holds {stream : Pcm} {buffer : PcmRingBuffer} (holds : Holds stream buffer) :
    Holds stream { buffer with reservation := none } :=
  ⟨holds.aligned,holds.reached,holds.data,by simp⟩

/-- All buffered samples can be discarded when none is reserved. -/
theorem discardAll_eq {buffer : PcmRingBuffer} (free : buffer.reservation = none) :
    ∃ next, (if buffer.bufferedSamples = 0 then .ok buffer else buffer.discard buffer.bufferedSamples) =
        (.ok next : Except PyError PcmRingBuffer) ∧ next.reservation = none ∧ next.bufferedSamples = 0 ∧
      ∀ stream, Holds stream buffer → Holds stream next := by
  by_cases empty : buffer.bufferedSamples = 0
  · exact ⟨buffer,by rw [if_pos empty],free,empty,fun _ holds => holds⟩
  have discards : ∃ next, buffer.discard buffer.bufferedSamples = .ok next := by
    simp [PcmRingBuffer.discard,free]
  obtain ⟨next,discards⟩ := discards
  refine ⟨next,by rw [if_neg empty,discards],?_⟩
  have all : next.reservation = none ∧ next.bufferedSamples = 0 := by
    simp only [PcmRingBuffer.discard,free,Option.isSome_none,Bool.false_eq_true,if_false,lt_irrefl,Except.ok.injEq] at discards
    subst discards
    refine ⟨rfl,?_⟩
    simp only [bufferedSamples,reservedSamples,free,Option.map_none,Option.getD_none,sampleCount,List.length_drop]
    omega
  exact ⟨all.1,all.2,fun stream holds => (discard_holds holds discards).1⟩

/-- `abort` always succeeds. -/
theorem abort_eq {session : GatewaySession}
    (coherent : session.buffer.reservation = session.reservation.map (·.chunk)) :
    (session.terminalState = .aborted ∨ session.terminalState = .failed) ∧ session.abort = .ok session ∨
      ¬(session.terminalState = .aborted ∨ session.terminalState = .failed) ∧
        ∃ next, session.abort = .ok next ∧ Aborted session next := by
  by_cases past : session.terminalState = .aborted ∨ session.terminalState = .failed
  · exact .inl ⟨past,by rw [GatewaySession.abort,if_pos past]⟩
  refine .inr ⟨past,?_⟩
  obtain ⟨buffer,discards,free,empty,holds⟩ :=
    discardAll_eq (show { session.buffer with reservation := none }.reservation = none from rfl)
  rw [GatewaySession.abort,if_neg past,dropReservation_eq coherent]
  simp only [bind,Except.bind] at discards ⊢
  rw [discards]
  exact ⟨_,rfl,rfl,rfl,rfl,rfl,rfl,rfl,rfl,free,empty,fun stream held => holds stream (unreserved_holds held)⟩

/-! ### Custody is kept -/

/-- Audio may still be appended to the session. -/
def Open (session : GatewaySession) : Prop := 1 < session.generation → session.finishRequested = false

section
variable {session next : GatewaySession} {live : Bool} {stream : Pcm} {cancelled : Prop}
  {waiting dispatched submitted : List InferenceJob}

/-- With nothing reserved and audio to take, the session is in its first generation, and no
    job of it is anywhere. -/
theorem Custody.free (custody : Custody session live stream cancelled waiting dispatched submitted)
    (unreserved : session.reservation = none) (some : 0 < session.buffer.bufferedSamples) :
    session.generation = 1 ∧ waiting = [] ∧ dispatched = [] := by
  have first : ¬1 < session.generation := by
    intro later
    exact absurd (custody.past later).1 (Nat.pos_iff_ne_zero.mp some)
  obtain ⟨none,held⟩ := custody.unreserved unreserved
  have := custody.positive
  refine ⟨by omega,?_,none⟩
  rcases held with none | ⟨later,_⟩
  · exact none
  · exact absurd later first

theorem Custody.account (custody : Custody session live stream cancelled waiting dispatched submitted)
    (accounts : next.buffer = session.buffer ∧ next.reservation = session.reservation ∧
      next.generation = session.generation ∧ next.nextJobSequence = session.nextJobSequence ∧
      next.terminalState = session.terminalState ∧ next.finishRequested = session.finishRequested) :
    Custody next live stream cancelled waiting dispatched submitted := by
  obtain ⟨buffer,reservation,generation,sequences,terminal,finish⟩ := accounts
  obtain ⟨holds,coherent,positive,reserved,unreserved,first,past,blocked,stopped,succeeded,released,covers,ordered,
    bounded⟩ := custody
  constructor <;> simp only [frontier,sequenceBound,buffer,reservation,generation,sequences,terminal,finish] at * <;>
    assumption

theorem Custody.append (custody : Custody session live stream cancelled waiting dispatched submitted) (opened : Open session)
    {pcm : Pcm} {countAccepted : Bool} (appends : session.appendPcm pcm countAccepted = .ok next) :
    Custody next live (stream ++ pcm) cancelled waiting dispatched submitted := by
  obtain ⟨running,buffer,lengthens,rfl⟩ := appendPcm_eq appends
  obtain ⟨reservation,base⟩ := append_reservation lengthens
  have first : ¬1 < session.generation := by
    intro later
    rcases custody.blocked later (opened later) with state | state <;> rw [state] at running <;> simp at running
  have live : live = true := by
    by_contra gone
    exact first (custody.released (by simpa using gone))
  obtain ⟨stop,covers,within,reaches⟩ := custody.covers
  constructor
  case holds => exact append_holds custody.holds lengthens
  case coherent => exact reservation.trans custody.coherent
  case positive => exact custody.positive
  case reserved => exact custody.reserved
  case unreserved => exact custody.unreserved
  case first => exact custody.first
  case past => exact fun later => absurd later first
  case blocked => exact custody.blocked
  case stopped => exact custody.stopped
  case succeeded =>
    intro state
    dsimp only at state
    rw [state] at running
    simp at running
  case released => exact fun gone => absurd (live.symm.trans gone) (by simp)
  case covers =>
    refine ⟨stop,covers_append pcm covers within,?_,?_⟩
    · rw [List.length_append]
      omega
    · simpa only [frontier,base] using reaches
  case ordered => exact custody.ordered
  case bounded => exact custody.bounded

/-- The job of a new reservation is all there is of the session. -/
theorem Custody.schedule (custody : Custody session live stream cancelled waiting dispatched submitted) {count : Nat}
    {final : Bool} {reservation : SessionReservation}
    (reserves : session.reserve count final = .ok (reservation,next)) {job : InferenceJob}
    (carries : Carries job reservation) :
    waiting = [] ∧ dispatched = [] ∧ job.generation = 1 ∧ Custody next live stream cancelled [job] [] submitted := by
  obtain ⟨unreserved,chunk,buffer,takes,rfl,rfl⟩ := reserve_eq reserves
  obtain ⟨_,some,enough,starts,ends,rfl⟩ := reserveRange_eq takes
  obtain ⟨holds,_⟩ := reserveRange_holds custody.holds takes
  obtain ⟨generation,rfl,rfl⟩ := custody.free unreserved (Nat.lt_of_lt_of_le some enough)
  have only : job.generation = 1 := carries.generation.trans generation
  obtain ⟨stop,covers,within,reaches⟩ := custody.covers
  refine ⟨rfl,rfl,only,?_⟩
  constructor
  case holds => exact holds
  case coherent => rfl
  case positive => exact custody.positive
  case reserved =>
    rintro reservation ⟨⟩
    exact ⟨rfl,Nat.lt_succ_self _,job,rfl,carries⟩
  case unreserved => simp
  case first => simpa using only
  case past => exact fun later => absurd later (by dsimp only; omega)
  case blocked => exact custody.blocked
  case stopped => exact custody.stopped
  case succeeded =>
    intro state
    have := (custody.succeeded state).1
    omega
  case released => exact custody.released
  case covers => exact ⟨stop,covers,within,by simpa [frontier] using reaches⟩
  case ordered => exact custody.ordered
  case bounded => simpa [sequenceBound,unreserved] using custody.bounded

/-- A reservation that is given back at once only uses up a sequence number. -/
theorem Custody.refuse (custody : Custody session live stream cancelled waiting dispatched submitted) {count : Nat}
    {final held : Bool} {reservation : SessionReservation} {restored : GatewaySession}
    (reserves : session.reserve count final = .ok (reservation,next))
    (rollsBack : next.rollback reservation.jobSequence = .ok (held,restored)) :
    Custody restored live stream cancelled waiting dispatched submitted := by
  obtain ⟨unreserved,chunk,buffer,takes,rfl,rfl⟩ := reserve_eq reserves
  obtain ⟨free,some,enough,starts,ends,rfl⟩ := reserveRange_eq takes
  obtain ⟨generation,rfl,rfl⟩ := custody.free unreserved (Nat.lt_of_lt_of_le some enough)
  rw [rollback_eq rfl rfl] at rollsBack
  cases rollsBack
  have same : { session.buffer with reservation := none } = session.buffer := by
    rw [← free]
  obtain ⟨stop,covers,within,reaches⟩ := custody.covers
  constructor
  case holds => exact same ▸ custody.holds
  case coherent => rfl
  case positive => exact custody.positive
  case reserved => simp
  case unreserved => simp
  case first => simp
  case past => exact fun later => absurd later (by dsimp only; omega)
  case blocked => exact custody.blocked
  case stopped => exact custody.stopped
  case succeeded =>
    intro state
    have := (custody.succeeded state).1
    omega
  case released => exact custody.released
  case covers => exact ⟨stop,covers,within,by simpa [frontier] using reaches⟩
  case ordered => exact custody.ordered
  case bounded =>
    intro job member
    have := custody.bounded job member
    simp only [sequenceBound,unreserved,if_true,Option.elim_none] at this ⊢
    omega

/-- The worker submits the job. A cancelled job is not submitted. -/
theorem Custody.submit {job : InferenceJob}
    (custody : Custody session live stream cancelled [job] [] submitted) (fresh : ¬cancelled) :
    Custody session live stream cancelled [] [job] (submitted ++ [job]) := by
  have first : ¬1 < session.generation := fun later => fresh ((custody.past later).2.2 (by simp))
  have reserved : session.reservation ≠ none := by
    intro none
    rcases (custody.unreserved none).2 with absent | ⟨later,_⟩
    · simp at absent
    · exact first later
  obtain ⟨reservation,found⟩ := Option.ne_none_iff_exists'.mp reserved
  obtain ⟨generation,next,holder,only,carries⟩ := custody.reserved reservation found
  obtain rfl : holder = job := by simpa using only.symm
  have coherent := custody.coherent
  rw [found,Option.map_some] at coherent
  obtain ⟨starts,nonempty,within,contents⟩ := custody.holds.reserved _ coherent
  have one : session.generation = 1 := by
    have := custody.positive
    omega
  obtain ⟨stop,covers,_,reaches⟩ := custody.covers
  obtain rfl : stop = session.buffer.baseSample := by simpa [frontier] using reaches one
  constructor
  case holds => exact custody.holds
  case coherent => exact custody.coherent
  case positive => exact custody.positive
  case reserved => exact custody.reserved
  case unreserved => exact fun none => absurd none reserved
  case first => exact custody.first
  case past => exact fun later => absurd later first
  case blocked => exact custody.blocked
  case stopped => exact custody.stopped
  case succeeded => exact custody.succeeded
  case released => exact custody.released
  case covers =>
    refine ⟨_,covers_snoc covers (carries.startSample.trans starts) ?_ ?_,?_,?_⟩
    · rw [carries.endSample]
      omega
    · rw [carries.pcm,contents,carries.endSample,starts]
    · rwa [carries.endSample]
    · intro _
      simp [frontier,found,carries.endSample]
  case ordered =>
    rw [List.map_append,List.pairwise_append]
    refine ⟨custody.ordered,by simp,?_⟩
    intro sequence member other single
    obtain ⟨earlier,before,rfl⟩ := List.mem_map.mp member
    obtain rfl : other = holder.jobSequence := by simpa using single
    have := custody.bounded earlier before
    simp only [sequenceBound,found,if_true,Option.elim_some] at this
    rwa [carries.jobSequence]
  case bounded =>
    intro other member
    simp only [sequenceBound,List.cons_ne_nil,if_false]
    rcases List.mem_append.mp member with before | last
    · have := custody.bounded other before
      simp only [sequenceBound,found,if_true,Option.elim_some] at this
      omega
    · obtain rfl : other = holder := by simpa using last
      rw [carries.jobSequence]
      exact next

/-- A submitted job of the session owns its reservation, and cleaning it up acknowledges it. -/
theorem Custody.clean {job : InferenceJob} (custody : Custody session live stream cancelled waiting [job] submitted) :
    live = true ∧ session.generation = job.generation ∧
      session.matchesReservation job.jobSequence job.startSample job.endSample = true ∧
      ∃ next, session.acknowledge job.jobSequence job.generation = .ok next ∧
        Custody next live stream cancelled waiting [] submitted := by
  have reserved : session.reservation ≠ none := by
    intro none
    simpa using (custody.unreserved none).1
  obtain ⟨reservation,found⟩ := Option.ne_none_iff_exists'.mp reserved
  obtain ⟨generation,later,holder,only,carries⟩ := custody.reserved reservation found
  obtain ⟨rfl,rfl⟩ : waiting = [] ∧ holder = job := by
    rcases waiting with _ | ⟨first,rest⟩
    · exact ⟨rfl,by simpa using only.symm⟩
    · simp at only
  have one : holder.generation = 1 := custody.first holder (by simp)
  have same : session.generation = holder.generation := generation ▸ carries.generation.symm
  have running : live = true := by
    by_contra gone
    have := custody.released (by simpa using gone)
    omega
  have coherent := custody.coherent
  rw [found,Option.map_some] at coherent
  obtain ⟨buffer,acknowledged,acknowledges⟩ := acknowledge_eq custody.coherent found
  obtain ⟨holds,base,free⟩ := acknowledge_holds custody.holds acknowledged
  have owned : session.acknowledge holder.jobSequence holder.generation =
      .ok { session with buffer := buffer, reservation := none } := by
    rw [carries.jobSequence,← same]
    exact acknowledges
  refine ⟨running,same,?_,_,owned,?_⟩
  · simp [GatewaySession.matchesReservation,found,carries.jobSequence,generation,carries.startSample,carries.endSample]
  obtain ⟨stop,covers,within,reaches⟩ := custody.covers
  constructor
  case holds => exact holds
  case coherent => exact free
  case positive => exact custody.positive
  case reserved => simp
  case unreserved => simp
  case first => simp
  case past =>
    intro later
    dsimp only at later
    omega
  case blocked => exact custody.blocked
  case stopped => exact custody.stopped
  case succeeded =>
    intro state
    exact absurd (custody.succeeded state).2.1 reserved
  case released => exact custody.released
  case covers =>
    refine ⟨stop,covers,within,?_⟩
    simpa [frontier,found,base] using reaches
  case ordered => exact custody.ordered
  case bounded => simpa [sequenceBound] using custody.bounded

/-- Rejecting a job of the session gives its reservation back, if it still has one. -/
theorem Custody.reject {job : InferenceJob} (custody : Custody session live stream cancelled [job] [] submitted) :
    (live = true ∧ session.generation = job.generation →
      ∃ next, session.rollback job.jobSequence = .ok (true,next) ∧ Custody next live stream cancelled [] [] submitted) ∧
    (¬(live = true ∧ session.generation = job.generation) → Custody session live stream cancelled [] [] submitted) := by
  have one : job.generation = 1 := custody.first job (by simp)
  have positive := custody.positive
  obtain ⟨stop,covers,within,reaches⟩ := custody.covers
  constructor
  · rintro ⟨running,same⟩
    have reserved : session.reservation ≠ none := by
      intro none
      rcases (custody.unreserved none).2 with absent | ⟨later,_⟩
      · simp at absent
      · omega
    obtain ⟨reservation,found⟩ := Option.ne_none_iff_exists'.mp reserved
    obtain ⟨generation,later,holder,only,carries⟩ := custody.reserved reservation found
    obtain rfl : holder = job := by simpa using only.symm
    refine ⟨_,carries.jobSequence ▸ rollback_eq custody.coherent found,?_⟩
    constructor
    case holds => exact unreserved_holds custody.holds
    case coherent => rfl
    case positive => exact positive
    case reserved => simp
    case unreserved => simp
    case first => simp
    case past =>
      intro later
      dsimp only at later
      omega
    case blocked => exact custody.blocked
    case stopped => exact custody.stopped
    case succeeded =>
      intro state
      exact absurd (custody.succeeded state).2.1 reserved
    case released => exact custody.released
    case covers => exact ⟨stop,covers,within,by simpa [frontier] using reaches⟩
    case ordered => exact custody.ordered
    case bounded =>
      intro other member
      have := custody.bounded other member
      simp only [sequenceBound,found,if_true,Option.elim_some,Option.elim_none] at this ⊢
      omega
  · intro gone
    have later : 1 < session.generation := by
      by_cases running : live = true
      · have : session.generation ≠ job.generation := fun same => gone ⟨running,same⟩
        omega
      · exact custody.released (by simpa using running)
    obtain ⟨empty,unreserved,_⟩ := custody.past later
    constructor
    case holds => exact custody.holds
    case coherent => exact custody.coherent
    case positive => exact positive
    case reserved => simp [unreserved]
    case unreserved => simp
    case first => simp
    case past => exact fun _ => ⟨empty,unreserved,fun some => absurd rfl some⟩
    case blocked => exact custody.blocked
    case stopped => exact custody.stopped
    case succeeded => exact custody.succeeded
    case released => exact custody.released
    case covers => exact ⟨stop,covers,within,reaches⟩
    case ordered => exact custody.ordered
    case bounded => exact custody.bounded

/-- Aborting a session that has no submitted job, and whose waiting job is cancelled. -/
theorem Custody.abort (custody : Custody session live stream cancelled waiting dispatched submitted)
    (free : dispatched = []) (stops : session.generation = 1 → cancelled) :
    ∃ next, session.abort = .ok next ∧ 1 < next.generation ∧ session.generation ≤ next.generation ∧
      next.sessionId = session.sessionId ∧ next.selectedWorkerId = session.selectedWorkerId ∧
      next.finishRequested = session.finishRequested ∧
      (next.terminalState = .aborted ∨ next.terminalState = .failed) ∧
      Custody next live stream cancelled waiting dispatched submitted := by
  subst free
  rcases abort_eq custody.coherent with ⟨past,aborts⟩ | ⟨open_,next,aborts,aborted⟩
  · exact ⟨session,aborts,custody.stopped past.symm,Nat.le_refl _,rfl,rfl,rfl,past,custody⟩
  have positive := custody.positive
  have later : 1 < next.generation := by
    rw [aborted.generation]
    omega
  have stopped : waiting ≠ [] → cancelled := by
    intro some
    by_cases one : session.generation = 1
    · exact stops one
    · exact (custody.past (by omega)).2.2 some
  have alone : waiting = [] ∨ ∃ job, waiting = [job] := by
    cases found : session.reservation with
    | none =>
      rcases (custody.unreserved found).2 with none | ⟨_,some⟩
      · exact .inl none
      · exact .inr some
    | some reservation =>
      obtain ⟨_,_,job,only,_⟩ := custody.reserved reservation found
      exact .inr ⟨job,by simpa using only⟩
  have onward : session.generation ≤ next.generation := by
    rw [aborted.generation]
    omega
  refine ⟨next,aborts,later,onward,aborted.sessionId,aborted.worker,aborted.finishRequested,.inl aborted.terminalState,?_⟩
  obtain ⟨stop,covers,within,_⟩ := custody.covers
  constructor
  case holds => exact aborted.holds stream custody.holds
  case coherent => rw [aborted.buffer,aborted.reservation,Option.map_none]
  case positive => exact Nat.lt_trans Nat.one_pos later
  case reserved => simp [aborted.reservation]
  case unreserved => exact fun _ => ⟨rfl,alone.imp_right fun some => ⟨later,some⟩⟩
  case first => exact custody.first
  case past => exact fun _ => ⟨aborted.empty,aborted.reservation,stopped⟩
  case blocked => exact fun _ _ => .inr aborted.terminalState
  case stopped => exact fun _ => later
  case succeeded =>
    intro state
    rw [aborted.terminalState] at state
    cases state
  case released => exact fun _ => later
  case covers =>
    refine ⟨stop,covers,within,?_⟩
    omega
  case ordered => exact custody.ordered
  case bounded =>
    intro job member
    have := custody.bounded job member
    simp only [sequenceBound,if_true,aborted.reservation,Option.elim_none,aborted.nextJobSequence] at this ⊢
    cases found : session.reservation with
    | none => simpa [found] using this
    | some reservation =>
      have next := (custody.reserved reservation found).2.1
      simp only [found,Option.elim_some] at this
      omega

/-- A terminal state that is put on a session that is over anyway. -/
theorem Custody.restate (custody : Custody session live stream cancelled waiting dispatched submitted)
    {state : TerminalState} (stopped : state = .failed ∨ state = .aborted → 1 < session.generation)
    (blocked : 1 < session.generation → session.finishRequested = false → state = .failed ∨ state = .aborted)
    (succeeded : state = .succeeded →
      session.buffer.bufferedSamples = 0 ∧ session.reservation = none ∧ session.finishRequested = true) :
    Custody { session with terminalState := state } live stream cancelled waiting dispatched submitted where
  holds := custody.holds
  coherent := custody.coherent
  positive := custody.positive
  reserved := custody.reserved
  unreserved := custody.unreserved
  first := custody.first
  past := custody.past
  blocked := blocked
  stopped := stopped
  succeeded := succeeded
  released := custody.released
  covers := custody.covers
  ordered := custody.ordered
  bounded := custody.bounded

theorem Custody.fail (custody : Custody session live stream cancelled waiting dispatched submitted)
    (free : dispatched = []) (stops : session.generation = 1 → cancelled) :
    ∃ next, session.fail = .ok next ∧ 1 < next.generation ∧ session.generation ≤ next.generation ∧
      next.sessionId = session.sessionId ∧ next.selectedWorkerId = session.selectedWorkerId ∧
      next.finishRequested = session.finishRequested ∧ next.terminalState = .failed ∧
      Custody next live stream cancelled waiting dispatched submitted := by
  obtain ⟨aborted,aborts,later,onward,sessionId,worker,finish,_,kept⟩ := custody.abort free stops
  refine ⟨{ aborted with terminalState := .failed },?_,later,onward,sessionId,worker,finish,rfl,?_⟩
  · rw [GatewaySession.fail,aborts]
    rfl
  · exact kept.restate (fun _ => later) (fun _ _ => .inl rfl) (by simp)

theorem Custody.requestFinish (custody : Custody session live stream cancelled waiting dispatched submitted) :
    Custody session.requestFinish live stream cancelled waiting dispatched submitted := by
  unfold GatewaySession.requestFinish
  split
  · exact custody
  obtain ⟨holds,coherent,positive,reserved,unreserved,first,past,_,_,_,released,covers,ordered,bounded⟩ := custody
  exact ⟨holds,coherent,positive,reserved,unreserved,first,past,by simp,by simp,by simp,released,covers,ordered,bounded⟩

/-- A session succeeds only with all its audio accounted for. -/
theorem Custody.succeed (custody : Custody session live stream cancelled waiting dispatched submitted)
    (finish : session.finishRequested = true) (succeeds : session.succeed = .ok next) :
    next = { session with terminalState := .succeeded } ∧
      Custody next live stream cancelled waiting dispatched submitted := by
  unfold GatewaySession.succeed at succeeds
  split at succeeds
  · cases succeeds
  rename_i accounted
  cases succeeds
  obtain ⟨empty,nothing⟩ := not_or.mp accounted
  have coherent := custody.coherent
  have unreserved : session.reservation = none := by
    cases found : session.reservation with
    | none => rfl
    | some reservation =>
      rw [found,Option.map_some] at coherent
      obtain ⟨_,nonempty,_⟩ := custody.holds.reserved _ coherent
      simp only [reservedSamples,coherent,Option.map_some,Option.getD_some,ReadyChunk.sampleCount,not_not] at nothing
      omega
  refine ⟨rfl,custody.restate (by simp) ?_ fun _ => ⟨not_not.mp empty,unreserved,finish⟩⟩
  intro _ missing
  rw [finish] at missing
  cases missing

/-- The session is taken from the manager when it has ended. -/
theorem Custody.close (custody : Custody session live stream cancelled waiting dispatched submitted)
    (ended : 1 < session.generation ∨ session.terminalState = .succeeded) :
    1 < session.close.generation ∧ Custody session.close false stream cancelled waiting dispatched submitted := by
  have positive := custody.positive
  have later : 1 < session.close.generation := by
    unfold GatewaySession.close
    split
    · exact custody.stopped (Or.symm ‹_›)
    · dsimp only
      omega
  refine ⟨later,?_⟩
  have idle : session.buffer.bufferedSamples = 0 ∧ session.reservation = none ∧ (waiting ≠ [] → cancelled) := by
    rcases ended with past | succeeded
    · exact custody.past past
    · obtain ⟨empty,unreserved,_⟩ := custody.succeeded succeeded
      refine ⟨empty,unreserved,?_⟩
      intro some
      rcases (custody.unreserved unreserved).2 with none | ⟨past,_⟩
      · exact absurd none some
      · exact (custody.past past).2.2 some
  have finished : session.finishRequested = false → session.terminalState = .failed ∨ session.terminalState = .aborted := by
    intro missing
    rcases ended with past | succeeded
    · exact custody.blocked past missing
    · rw [(custody.succeeded succeeded).2.2] at missing
      cases missing
  obtain ⟨stop,covers,within,_⟩ := custody.covers
  have shape : session.close = { session with generation := session.close.generation } := by
    unfold GatewaySession.close
    split <;> rfl
  rw [shape]
  constructor
  case holds => exact custody.holds
  case coherent => exact custody.coherent
  case positive => exact Nat.lt_trans Nat.one_pos later
  case reserved => simp [idle.2.1]
  case unreserved =>
    intro unreserved
    obtain ⟨none,held⟩ := custody.unreserved unreserved
    exact ⟨none,held.imp_right fun some => ⟨later,some.2⟩⟩
  case first => exact custody.first
  case past => exact fun _ => idle
  case blocked => exact fun _ missing => finished missing
  case stopped => exact fun _ => later
  case succeeded => exact custody.succeeded
  case released => exact fun _ => later
  case covers =>
    refine ⟨stop,covers,within,?_⟩
    dsimp only
    omega
  case ordered => exact custody.ordered
  case bounded => exact custody.bounded

end

end SpeechGateway.Gateway
