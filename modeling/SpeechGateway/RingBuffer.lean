import SpeechGateway.Chunking

/-!
The methods of `PcmRingBuffer` statement by statement, with what an exception leaves
behind. A method that raises has changed nothing, so each is the function of `Chunking`
with the same name (`run_call`), and after any calls, valid or not, the buffer is a window of the stream
of all bytes it accepted (`buffer_refines_stream`).
-/
namespace SpeechGateway.Chunking.PcmRingBuffer

/-- A method: it returns or raises, and leaves a buffer in both cases. -/
abbrev Method (α : Type) := EStateM PyError PcmRingBuffer α

/-- `PcmRingBuffer.__init__`. -/
def create (maxSamples : Int) : Except PyError PcmRingBuffer :=
  if maxSamples ≤ 0 then .error (.valueError "max_samples must be positive")
  else .ok { maxSamples := maxSamples.toNat }

namespace Method

def append (pcm : Pcm) : Method (Nat × Nat) := do
  if pcm.length % 2 ≠ 0 then throw (.valueError "pcm_s16le bytes must be sample-aligned")
  let samples := sampleCount pcm
  let current := sampleCount (← get).data
  if (← get).maxSamples < current + samples then
    throw (.capacity .sessionPcmLimit (← get).maxSamples current samples "session PCM buffer limit exceeded")
  let start := (← get).acceptedSamples
  modify fun buffer => { buffer with data := buffer.data ++ pcm }
  modify fun buffer => { buffer with acceptedSamples := buffer.acceptedSamples + samples }
  return (start,(← get).acceptedSamples)

def reserveRange (samples : Int) (final : Bool) : Method ReadyChunk := do
  if (← get).reservation.isSome then throw (.runtimeError "one in-flight reservation is already active")
  if samples ≤ 0 ∨ (← get).bufferedSamples < samples then
    throw (.valueError "reservation sample count is outside buffered range")
  let start := (← get).baseSample
  let stop := start + samples.toNat
  let chunk : ReadyChunk := ⟨start,stop,(← get).data.take (samples.toNat * 2),final⟩
  modify fun buffer => { buffer with reservation := some chunk }
  return chunk

/-- `_require_reservation`. -/
def requireReservation (start stop : Int) : Method ReadyChunk := do
  match (← get).reservation with
  | some chunk =>
    if ((chunk.startSample : Int),(chunk.endSample : Int)) ≠ (start,stop) then
      throw (.runtimeError "reservation range does not match active reservation")
    return chunk
  | none => throw (.runtimeError "reservation range does not match active reservation")

def acknowledge (startSample endSample : Int) : Method Unit := do
  let reservation ← requireReservation startSample endSample
  let samples := reservation.sampleCount
  modify fun buffer => { buffer with data := buffer.data.drop (samples * 2) }
  modify fun buffer => { buffer with baseSample := reservation.endSample }
  modify fun buffer => { buffer with acknowledgedSamples := buffer.acknowledgedSamples + samples }
  modify fun buffer => { buffer with reservation := none }

def rollback (startSample endSample : Int) : Method Unit := do
  let _ ← requireReservation startSample endSample
  modify fun buffer => { buffer with reservation := none }

def discard (samples : Int) : Method Unit := do
  if (← get).reservation.isSome then throw (.runtimeError "cannot discard while a reservation is in-flight")
  if samples < 0 ∨ (← get).bufferedSamples < samples then
    throw (.valueError "discard sample count is outside buffered range")
  modify fun buffer => { buffer with data := buffer.data.drop (samples.toNat * 2) }
  modify fun buffer => { buffer with baseSample := buffer.baseSample + samples.toNat }
  modify fun buffer => { buffer with discardedSamples := buffer.discardedSamples + samples.toNat }

end Method

/-- A call with any arguments. -/
inductive Call
  | append (pcm : Pcm)
  | reserveRange (samples : Int) (final : Bool)
  | acknowledge (startSample endSample : Int)
  | rollback (startSample endSample : Int)
  | discard (samples : Int)

/-- What a call returns: the chunk of a reservation, and nothing else that matters here. -/
def Call.run : Call → Method (Option ReadyChunk)
  | .append pcm => do
    let _ ← Method.append pcm
    return none
  | .reserveRange samples final => do
    return some (← Method.reserveRange samples final)
  | .acknowledge startSample endSample => do
    Method.acknowledge startSample endSample
    return none
  | .rollback startSample endSample => do
    Method.rollback startSample endSample
    return none
  | .discard samples => do
    Method.discard samples
    return none

/-- How a call can return, with the buffer it leaves. -/
inductive Returns (buffer : PcmRingBuffer) : Call → Option ReadyChunk → PcmRingBuffer → Prop
  | append {pcm : Pcm} {next : PcmRingBuffer} (done : buffer.append pcm = .ok next) : Returns buffer (.append pcm) none next
  | reserveRange {samples : Nat} {final : Bool} {chunk : ReadyChunk} {next : PcmRingBuffer}
      (done : buffer.reserveRange samples final = .ok (chunk,next)) :
      Returns buffer (.reserveRange samples final) (some chunk) next
  | acknowledge {startSample endSample : Nat} {next : PcmRingBuffer}
      (done : buffer.acknowledge startSample endSample = .ok next) :
      Returns buffer (.acknowledge startSample endSample) none next
  | rollback {startSample endSample : Nat} {next : PcmRingBuffer}
      (done : buffer.rollback startSample endSample = .ok next) : Returns buffer (.rollback startSample endSample) none next
  | discard {samples : Nat} {next : PcmRingBuffer} (done : buffer.discard samples = .ok next) :
      Returns buffer (.discard samples) none next

/-- The method does this when it returns, and changes nothing when it raises. -/
def Does {α : Type} (buffer : PcmRingBuffer) (method : Method α) (done : α → PcmRingBuffer → Prop) : Prop :=
  match EStateM.run method buffer with
  | .ok value next => done value next
  | .error _ after => after = buffer

section Methods
variable (buffer : PcmRingBuffer)

/-- After a part that only looks at the buffer. -/
theorem Does.bind {α β : Type} {first : Method α} {rest : α → Method β} {found : α → Prop} {done : β → PcmRingBuffer → Prop}
    (looks : Does buffer first fun value next => next = buffer ∧ found value)
    (goes : ∀ value, found value → Does buffer (rest value) done) : Does buffer (first >>= rest) done := by
  unfold Does at *
  rw [EStateM.run_bind]
  cases outcome : EStateM.run first buffer with
  | ok value next =>
    rw [outcome] at looks
    obtain ⟨rfl,holds⟩ := looks
    exact goes value holds
  | error error after =>
    rw [outcome] at looks
    exact looks

/-- The value of a method is looked at last. -/
theorem Does.returns {α β : Type} {first : Method α} {value : α → β} {done : α → PcmRingBuffer → Prop}
    {finished : β → PcmRingBuffer → Prop} (does : Does buffer first done)
    (finishes : ∀ result next, done result next → finished (value result) next) :
    Does buffer (first >>= fun result => pure (value result)) finished := by
  unfold Does at *
  rw [EStateM.run_bind]
  cases outcome : EStateM.run first buffer with
  | ok result next =>
    rw [outcome] at does
    exact finishes result next does
  | error error after =>
    rw [outcome] at does
    exact does

theorem append_does (pcm : Pcm) : Does buffer (Method.append pcm) fun _ next => buffer.append pcm = .ok next := by
  unfold Does Method.append append
  by_cases odd : pcm.length % 2 = 0
  · by_cases full : buffer.maxSamples < sampleCount buffer.data + sampleCount pcm
    · simp [odd,full]
    · simp only [odd,full,EStateM.run_bind,EStateM.run_get,EStateM.run_modify,EStateM.run_pure,ne_eq,not_true_eq_false,if_false]
  · simp [odd]

theorem reserveRange_does (samples : Int) (final : Bool) : Does buffer (Method.reserveRange samples final) fun chunk next =>
    ∃ count : Nat, samples = count ∧ buffer.reserveRange count final = .ok (chunk,next) := by
  unfold Does Method.reserveRange reserveRange
  by_cases busy : buffer.reservation.isSome = true
  · simp [busy]
  · by_cases outside : samples ≤ 0 ∨ (buffer.bufferedSamples : Int) < samples
    · simp [busy,outside]
    · have exact : samples = samples.toNat := by omega
      have inside : ¬(samples.toNat = 0 ∨ buffer.bufferedSamples < samples.toNat) := by omega
      simp only [busy,outside,EStateM.run_bind,EStateM.run_get,EStateM.run_pure,EStateM.run_modify,Bool.false_eq_true,if_false]
      exact ⟨samples.toNat,exact,by rw [if_neg inside]⟩

/-- A reservation is found at its own range only. -/
theorem requireReservation_does (start stop : Int) : Does buffer (Method.requireReservation start stop) fun chunk next =>
    next = buffer ∧ start = chunk.startSample ∧ stop = chunk.endSample ∧
      buffer.requireReservation chunk.startSample chunk.endSample = .ok chunk := by
  unfold Does Method.requireReservation requireReservation
  cases held : buffer.reservation with
  | none =>
    simp only [EStateM.run_bind,EStateM.run_get,held]
    rfl
  | some chunk =>
    by_cases range : ((chunk.startSample : Int),(chunk.endSample : Int)) = (start,stop)
    · obtain ⟨rfl,rfl⟩ := Prod.mk.inj range
      simp [held]
    · simp only [EStateM.run_bind,EStateM.run_get,held,ne_eq,range,not_false_eq_true,if_true]
      rfl

theorem acknowledge_does (start stop : Int) : Does buffer (Method.acknowledge start stop) fun _ next =>
    ∃ first last : Nat, start = first ∧ stop = last ∧ buffer.acknowledge first last = .ok next := by
  refine Does.bind buffer (requireReservation_does buffer start stop) ?_
  rintro chunk ⟨first,last,found⟩
  exact ⟨_,_,first,last,by simp [acknowledge,found,bind,Except.bind]⟩

theorem rollback_does (start stop : Int) : Does buffer (Method.rollback start stop) fun _ next =>
    ∃ first last : Nat, start = first ∧ stop = last ∧ buffer.rollback first last = .ok next := by
  refine Does.bind buffer (requireReservation_does buffer start stop) ?_
  rintro chunk ⟨first,last,found⟩
  exact ⟨_,_,first,last,by simp [rollback,found,bind,Except.bind]⟩

theorem discard_does (samples : Int) : Does buffer (Method.discard samples) fun _ next =>
    ∃ count : Nat, samples = count ∧ buffer.discard count = .ok next := by
  unfold Does Method.discard discard
  by_cases busy : buffer.reservation.isSome = true
  · simp [busy]
  · by_cases outside : samples < 0 ∨ (buffer.bufferedSamples : Int) < samples
    · simp [busy,outside]
    · have exact : samples = samples.toNat := by omega
      have inside : ¬buffer.bufferedSamples < samples.toNat := by omega
      simp only [busy,outside,EStateM.run_bind,EStateM.run_get,EStateM.run_modify,Bool.false_eq_true,if_false]
      exact ⟨samples.toNat,exact,by rw [if_neg inside]⟩

/-- A call returns with the buffer that the function of the same name gives, or it raises
    and changes nothing. -/
theorem call_does (call : Call) : Does buffer call.run (Returns buffer call) := by
  cases call with
  | append pcm => exact (append_does buffer pcm).returns _ fun _ _ done => .append done
  | reserveRange samples final =>
    refine (reserveRange_does buffer samples final).returns _ ?_
    rintro chunk next ⟨count,rfl,done⟩
    exact .reserveRange done
  | acknowledge start stop =>
    refine (acknowledge_does buffer start stop).returns _ ?_
    rintro _ next ⟨first,last,rfl,rfl,done⟩
    exact .acknowledge done
  | rollback start stop =>
    refine (rollback_does buffer start stop).returns _ ?_
    rintro _ next ⟨first,last,rfl,rfl,done⟩
    exact .rollback done
  | discard samples =>
    refine (discard_does buffer samples).returns _ ?_
    rintro _ next ⟨count,rfl,done⟩
    exact .discard done

end Methods

/-! ## Every sequence of calls -/

/-- A buffer, the bytes it accepted so far and the chunks it reserved so far. -/
structure Usage where
  buffer : PcmRingBuffer
  stream : Pcm := []
  chunks : List ReadyChunk := []

/-- The bytes that a returning call adds to the stream. -/
def Call.bytes : Call → Pcm
  | .append pcm => pcm
  | _ => []

/-- A call and what becomes of the buffer, also when it raises. -/
def Usage.perform (usage : Usage) (call : Call) : Usage :=
  match EStateM.run call.run usage.buffer with
  | .ok chunk next => ⟨next,usage.stream ++ call.bytes,usage.chunks ++ chunk.toList⟩
  | .error _ after => { usage with buffer := after }

/-- The cursors agree with the window that the buffer holds of the stream. -/
structure Windowed (maxSamples : Nat) (usage : Usage) : Prop where
  holds : Holds usage.stream usage.buffer
  base : usage.buffer.baseSample = usage.buffer.acknowledgedSamples + usage.buffer.discardedSamples
  accepted : usage.buffer.acceptedSamples * 2 = usage.stream.length
  limit : usage.buffer.maxSamples = maxSamples
  bounded : sampleCount usage.buffer.data ≤ maxSamples
  chunks : ∀ chunk ∈ usage.chunks, chunk.startSample < chunk.endSample ∧ chunk.endSample * 2 ≤ usage.stream.length ∧
    chunk.pcm = samplesBetween usage.stream chunk.startSample chunk.endSample

section Runs
variable {buffer next : PcmRingBuffer} {call : Call} {chunk : Option ReadyChunk}

theorem append_ok {pcm : Pcm} (done : buffer.append pcm = .ok next) :
    pcm.length % 2 = 0 ∧ sampleCount buffer.data + sampleCount pcm ≤ buffer.maxSamples ∧
      next = { buffer with data := buffer.data ++ pcm, acceptedSamples := buffer.acceptedSamples + sampleCount pcm } := by
  unfold append at done
  dsimp only at done
  split_ifs at done with odd full
  cases done
  exact ⟨by omega,by omega,rfl⟩

theorem reserveRange_ok {samples : Nat} {final : Bool} {chunk : ReadyChunk}
    (done : buffer.reserveRange samples final = .ok (chunk,next)) : next = { buffer with reservation := some chunk } := by
  unfold reserveRange at done
  split_ifs at done
  cases done
  rfl

theorem requireReservation_ok {first last : Nat} {chunk : ReadyChunk}
    (found : buffer.requireReservation first last = .ok chunk) : buffer.reservation = some chunk := by
  unfold requireReservation at found
  split at found
  · split_ifs at found
    cases found
    assumption
  · cases found

theorem acknowledge_ok {first last : Nat} (done : buffer.acknowledge first last = .ok next) :
    ∃ chunk, buffer.reservation = some chunk ∧ next =
      { buffer with
        data := buffer.data.drop (chunk.sampleCount * 2)
        baseSample := chunk.endSample
        acknowledgedSamples := buffer.acknowledgedSamples + chunk.sampleCount
        reservation := none } := by
  unfold acknowledge at done
  cases found : buffer.requireReservation first last with
  | error error => simp [found,bind,Except.bind] at done
  | ok chunk =>
    simp only [found,bind,Except.bind] at done
    cases done
    exact ⟨chunk,requireReservation_ok found,rfl⟩

theorem discard_ok {samples : Nat} (done : buffer.discard samples = .ok next) :
    next = { buffer with
      data := buffer.data.drop (samples * 2)
      baseSample := buffer.baseSample + samples
      discardedSamples := buffer.discardedSamples + samples } := by
  unfold discard at done
  split_ifs at done
  cases done
  rfl

theorem sampleCount_drop (pcm : Pcm) (count : Nat) : sampleCount (pcm.drop count) ≤ sampleCount pcm := by
  simp only [sampleCount,List.length_drop]
  omega

variable {maxSamples : Nat} {usage : Usage}

/-- The chunks reserved before stay what they are. -/
theorem Windowed.keeps (windowed : Windowed maxSamples usage) (more : Pcm) :
    ∀ chunk ∈ usage.chunks, chunk.startSample < chunk.endSample ∧ chunk.endSample * 2 ≤ (usage.stream ++ more).length ∧
      chunk.pcm = samplesBetween (usage.stream ++ more) chunk.startSample chunk.endSample := by
  intro chunk member
  obtain ⟨nonempty,within,contents⟩ := windowed.chunks chunk member
  refine ⟨nonempty,?_,?_⟩
  · rw [List.length_append]
    omega
  · rw [contents,samplesBetween_append _ _ _ _ within]

/-- A call that returned moves the window along the stream. -/
theorem Returns.windowed (returns : Returns usage.buffer call chunk next) (windowed : Windowed maxSamples usage) :
    Windowed maxSamples ⟨next,usage.stream ++ call.bytes,usage.chunks ++ chunk.toList⟩ := by
  have base := windowed.base
  have accepted := windowed.accepted
  have bounded := windowed.bounded
  have kept := windowed.keeps []
  simp only [List.append_nil] at kept
  cases returns with
  | @append pcm _ done =>
    have holds := append_holds windowed.holds done
    obtain ⟨even,room,rfl⟩ := append_ok done
    refine ⟨holds,base,?_,windowed.limit,?_,?_⟩
    · simp only [Call.bytes,List.length_append,sampleCount]
      omega
    · have limit := windowed.limit
      simp only [sampleCount,List.length_append] at room ⊢
      omega
    · simpa [Call.bytes] using windowed.keeps pcm
  | @reserveRange samples final chunk _ done =>
    obtain ⟨holds,reserved,_⟩ := reserveRange_holds windowed.holds done
    obtain ⟨_,range⟩ := holds.reserved chunk reserved
    obtain rfl := reserveRange_ok done
    simp only [Call.bytes,List.append_nil]
    refine ⟨holds,base,accepted,windowed.limit,bounded,?_⟩
    intro other member
    rcases List.mem_append.mp member with before | now
    · exact kept other before
    · obtain rfl : other = chunk := by simpa using now
      exact range
  | @acknowledge first last _ done =>
    have holds := (acknowledge_holds windowed.holds done).1
    obtain ⟨chunk,reserved,rfl⟩ := acknowledge_ok done
    obtain ⟨starts,nonempty,_⟩ := windowed.holds.reserved chunk reserved
    simp only [Call.bytes,List.append_nil,Option.toList_none]
    refine ⟨holds,?_,accepted,windowed.limit,Nat.le_trans (sampleCount_drop _ _) bounded,kept⟩
    simp only [ReadyChunk.sampleCount]
    omega
  | @rollback first last _ done =>
    obtain ⟨holds,rfl⟩ := rollback_holds windowed.holds done
    simp only [Call.bytes,List.append_nil,Option.toList_none]
    exact ⟨holds,base,accepted,windowed.limit,bounded,kept⟩
  | @discard samples _ done =>
    have holds := (discard_holds windowed.holds done).1
    obtain rfl := discard_ok done
    simp only [Call.bytes,List.append_nil,Option.toList_none]
    refine ⟨holds,?_,accepted,windowed.limit,Nat.le_trans (sampleCount_drop _ _) bounded,kept⟩
    dsimp only
    omega

/-- Every call keeps the window, also one that raises. -/
theorem Windowed.perform (windowed : Windowed maxSamples usage) (call : Call) : Windowed maxSamples (usage.perform call) := by
  have does := call_does usage.buffer call
  unfold Does at does
  unfold Usage.perform
  cases outcome : EStateM.run call.run usage.buffer with
  | ok chunk next =>
    rw [outcome] at does
    exact Returns.windowed does windowed
  | error error after =>
    rw [outcome] at does
    obtain rfl := does
    exact windowed

theorem run_windowed (calls : List Call) (windowed : Windowed maxSamples usage) :
    Windowed maxSamples (calls.foldl Usage.perform usage) := by
  induction calls generalizing usage with
  | nil => exact windowed
  | cons call rest ih => exact ih (windowed.perform call)

/-- What the buffer holds, in samples. -/
theorem Windowed.held (windowed : Windowed maxSamples usage) :
    usage.buffer.acceptedSamples = usage.buffer.baseSample + sampleCount usage.buffer.data ∧
      usage.buffer.reservedSamples ≤ sampleCount usage.buffer.data := by
  have aligned := windowed.holds.aligned
  have reached := windowed.holds.reached
  have accepted := windowed.accepted
  have data := windowed.holds.data
  have held : sampleCount usage.buffer.data * 2 = usage.stream.length - usage.buffer.baseSample * 2 := by
    rw [sampleCount,data,List.length_drop]
    omega
  refine ⟨by omega,?_⟩
  cases reserved : usage.buffer.reservation with
  | none => simp [reservedSamples,reserved]
  | some chunk =>
    obtain ⟨starts,nonempty,within,_⟩ := windowed.holds.reserved chunk reserved
    simp only [reservedSamples,reserved,Option.map_some,Option.getD_some,ReadyChunk.sampleCount]
    omega

/-- However a buffer is used, with valid calls and others: the accepted samples are those
    acknowledged, discarded, reserved and buffered; it holds the accepted stream from its base
    on, and no more than its limit; a chunk has the bytes of its range; and a call that raises
    changes nothing. -/
theorem buffer_refines_stream (limit : Int) (buffer : PcmRingBuffer) (created : create limit = .ok buffer) (calls : List Call) :
    let usage := calls.foldl Usage.perform { buffer := buffer }
    usage.buffer.acceptedSamples = usage.buffer.acknowledgedSamples + usage.buffer.discardedSamples +
        usage.buffer.reservedSamples + usage.buffer.bufferedSamples ∧
      usage.stream.length = usage.buffer.acceptedSamples * 2 ∧
      usage.buffer.data = usage.stream.drop ((usage.buffer.acknowledgedSamples + usage.buffer.discardedSamples) * 2) ∧
      (∀ chunk ∈ usage.chunks, chunk.startSample < chunk.endSample ∧ chunk.endSample ≤ usage.buffer.acceptedSamples ∧
        chunk.pcm = samplesBetween usage.stream chunk.startSample chunk.endSample) ∧
      (sampleCount usage.buffer.data : Int) ≤ limit ∧
      ∀ call error after, EStateM.run (Call.run call) usage.buffer = .error error after → after = usage.buffer := by
  intro usage
  unfold create at created
  split_ifs at created with positive
  cases created
  have start : Windowed limit.toNat { buffer := { maxSamples := limit.toNat } } :=
    ⟨holds_empty _,rfl,rfl,rfl,by simp [sampleCount],by simp⟩
  have windowed : Windowed limit.toNat usage := run_windowed calls start
  obtain ⟨held,reserved⟩ := windowed.held
  have base := windowed.base
  have accepted := windowed.accepted
  have bounded := windowed.bounded
  refine ⟨?_,accepted.symm,?_,?_,by omega,?_⟩
  · simp only [bufferedSamples]
    omega
  · rw [← base]
    exact windowed.holds.data
  · intro chunk member
    obtain ⟨nonempty,within,contents⟩ := windowed.chunks chunk member
    exact ⟨nonempty,by omega,contents⟩
  · intro call error after raised
    have does := call_does usage.buffer call
    unfold Does at does
    rw [raised] at does
    exact does

end Runs

/-- Reserved, rolled back, reserved again and acknowledged; the calls out of turn raise. -/
theorem buffer_refines_stream_reserved :
    let usage := [Call.append [1,2,3,4,5,6],.append [7],.reserveRange 2 false,.discard 1,.rollback 0 2,.discard 1,
      .reserveRange (-1) false,.reserveRange 1 true,.acknowledge 1 2].foldl Usage.perform { buffer := { maxSamples := 4 } }
    usage.chunks = [⟨0,2,[1,2,3,4],false⟩,⟨1,2,[3,4],true⟩] ∧
      usage.buffer.data = usage.stream.drop ((usage.buffer.acknowledgedSamples + usage.buffer.discardedSamples) * 2) :=
  ⟨by decide,(buffer_refines_stream 4 _ rfl _).2.2.1⟩

end SpeechGateway.Chunking.PcmRingBuffer
