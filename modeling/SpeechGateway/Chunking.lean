import SpeechGateway.Values

/-!
`PcmRingBuffer`: the bytes of a session from an absolute base position on, with at most one
reserved range at the front. Against the stream of all appended bytes, the buffer holds
what follows its base (`Holds`), whatever is acknowledged, rolled back or discarded.
-/
namespace SpeechGateway.Chunking

structure ReadyChunk where
  startSample : Nat
  endSample : Nat
  pcm : Pcm
  final : Bool := false
  deriving DecidableEq, Repr

def ReadyChunk.sampleCount (chunk : ReadyChunk) : Nat := chunk.endSample - chunk.startSample

structure PcmRingBuffer where
  maxSamples : Nat
  data : Pcm := []
  baseSample : Nat := 0
  acceptedSamples : Nat := 0
  acknowledgedSamples : Nat := 0
  discardedSamples : Nat := 0
  reservation : Option ReadyChunk := none
  deriving DecidableEq, Repr

namespace PcmRingBuffer

def reservedSamples (buffer : PcmRingBuffer) : Nat := (buffer.reservation.map ReadyChunk.sampleCount).getD 0

def bufferedSamples (buffer : PcmRingBuffer) : Nat := sampleCount buffer.data - buffer.reservedSamples

def append (buffer : PcmRingBuffer) (pcm : Pcm) : Except PyError PcmRingBuffer :=
  if pcm.length % 2 ≠ 0 then .error (.valueError "pcm_s16le bytes must be sample-aligned") else
  let samples := sampleCount pcm
  let current := sampleCount buffer.data
  if buffer.maxSamples < current + samples then
    .error (.capacity .sessionPcmLimit buffer.maxSamples current samples "session PCM buffer limit exceeded")
  else
    .ok { buffer with data := buffer.data ++ pcm, acceptedSamples := buffer.acceptedSamples + samples }

def reserveRange (buffer : PcmRingBuffer) (samples : Nat) (final : Bool) : Except PyError (ReadyChunk × PcmRingBuffer) :=
  if buffer.reservation.isSome then .error (.runtimeError "one in-flight reservation is already active") else
  if samples = 0 ∨ buffer.bufferedSamples < samples then
    .error (.valueError "reservation sample count is outside buffered range")
  else
    let chunk : ReadyChunk :=
      ⟨buffer.baseSample,buffer.baseSample + samples,buffer.data.take (samples * 2),final⟩
    .ok (chunk,{ buffer with reservation := some chunk })

/-- `_require_reservation`. -/
def requireReservation (buffer : PcmRingBuffer) (start stop : Nat) : Except PyError ReadyChunk :=
  match buffer.reservation with
  | some chunk =>
    if (chunk.startSample,chunk.endSample) = (start,stop) then .ok chunk
    else .error (.runtimeError "reservation range does not match active reservation")
  | none => .error (.runtimeError "reservation range does not match active reservation")

def acknowledge (buffer : PcmRingBuffer) (startSample endSample : Nat) : Except PyError PcmRingBuffer := do
  let chunk ← buffer.requireReservation startSample endSample
  .ok { buffer with
    data := buffer.data.drop (chunk.sampleCount * 2)
    baseSample := chunk.endSample
    acknowledgedSamples := buffer.acknowledgedSamples + chunk.sampleCount
    reservation := none }

def rollback (buffer : PcmRingBuffer) (startSample endSample : Nat) : Except PyError PcmRingBuffer := do
  let _ ← buffer.requireReservation startSample endSample
  .ok { buffer with reservation := none }

def discard (buffer : PcmRingBuffer) (samples : Nat) : Except PyError PcmRingBuffer :=
  if buffer.reservation.isSome then .error (.runtimeError "cannot discard while a reservation is in-flight") else
  if buffer.bufferedSamples < samples then .error (.valueError "discard sample count is outside buffered range") else
  .ok { buffer with
    data := buffer.data.drop (samples * 2)
    baseSample := buffer.baseSample + samples
    discardedSamples := buffer.discardedSamples + samples }

/-- The samples of `stream` from one position up to another. -/
def samplesBetween (stream : Pcm) (start stop : Nat) : Pcm := (stream.take (stop * 2)).drop (start * 2)

/-- The buffer holds what follows its base in the stream of all appended bytes, and a
    reservation is a nonempty range at the front. -/
structure Holds (stream : Pcm) (buffer : PcmRingBuffer) : Prop where
  aligned : stream.length % 2 = 0
  reached : buffer.baseSample * 2 ≤ stream.length
  data : buffer.data = stream.drop (buffer.baseSample * 2)
  reserved : ∀ chunk, buffer.reservation = some chunk →
    chunk.startSample = buffer.baseSample ∧ chunk.startSample < chunk.endSample ∧
      chunk.endSample * 2 ≤ stream.length ∧ chunk.pcm = samplesBetween stream chunk.startSample chunk.endSample

theorem holds_empty (maxSamples : Nat) : Holds [] { maxSamples := maxSamples } :=
  ⟨rfl,Nat.le_refl _,rfl,by simp⟩

theorem samplesBetween_append (stream more : Pcm) (start stop : Nat) (within : stop * 2 ≤ stream.length) :
    samplesBetween (stream ++ more) start stop = samplesBetween stream start stop := by
  rw [samplesBetween,samplesBetween,List.take_append_of_le_length within]

/-- Ranges in a row make one range. -/
theorem samplesBetween_trans (stream : Pcm) {start middle stop : Nat} (first : start ≤ middle) (second : middle ≤ stop)
    (within : stop * 2 ≤ stream.length) :
    samplesBetween stream start middle ++ samplesBetween stream middle stop = samplesBetween stream start stop := by
  have bound : middle * 2 ≤ (stream.take (stop * 2)).length := by
    rw [List.length_take]
    omega
  have cut : stream.take (middle * 2) = (stream.take (stop * 2)).take (middle * 2) := by
    rw [List.take_take]
    congr 1
    omega
  simp only [samplesBetween]
  rw [cut,List.drop_take]
  conv_rhs => rw [← List.take_append_drop (middle * 2 - start * 2) ((stream.take (stop * 2)).drop (start * 2))]
  rw [List.drop_drop]
  congr 2
  omega

theorem append_holds {stream : Pcm} {buffer next : PcmRingBuffer} (holds : Holds stream buffer) {pcm : Pcm}
    (appended : buffer.append pcm = .ok next) : Holds (stream ++ pcm) next := by
  unfold append at appended
  split at appended
  · cases appended
  rename_i even
  simp only [] at appended
  split at appended
  · cases appended
  cases appended
  refine ⟨?_,?_,?_,?_⟩
  · have := holds.aligned
    rw [List.length_append]
    omega
  · have := holds.reached
    rw [List.length_append]
    dsimp only
    omega
  · dsimp only
    rw [holds.data,List.drop_append_of_le_length holds.reached]
  · intro chunk reserved
    obtain ⟨starts,nonempty,within,contents⟩ := holds.reserved chunk reserved
    refine ⟨starts,nonempty,?_,?_⟩
    · rw [List.length_append]
      omega
    · rw [contents,samplesBetween_append _ _ _ _ within]

theorem reserveRange_holds {stream : Pcm} {buffer next : PcmRingBuffer} (holds : Holds stream buffer) {samples : Nat}
    {final : Bool} {chunk : ReadyChunk} (reserved : buffer.reserveRange samples final = .ok (chunk,next)) :
    Holds stream next ∧ next.reservation = some chunk ∧ next.baseSample = buffer.baseSample ∧
      chunk.endSample = chunk.startSample + samples ∧ chunk.final = final := by
  unfold reserveRange at reserved
  split at reserved
  · cases reserved
  rename_i free
  split at reserved
  · cases reserved
  rename_i fits
  have unreserved : buffer.reservation = none := by simpa using free
  have counted : buffer.bufferedSamples = sampleCount buffer.data := by
    simp [bufferedSamples,reservedSamples,unreserved]
  cases reserved
  refine ⟨⟨holds.aligned,holds.reached,holds.data,?_⟩,rfl,rfl,rfl,rfl⟩
  rintro chunk ⟨⟩
  have aligned := holds.aligned
  have length : buffer.data.length = stream.length - buffer.baseSample * 2 := by rw [holds.data,List.length_drop]
  rw [counted,sampleCount,length] at fits
  have reached := holds.reached
  refine ⟨rfl,?_,?_,?_⟩
  · dsimp only
    omega
  · dsimp only
    omega
  · dsimp only
    rw [holds.data,samplesBetween,List.drop_take]
    congr 1
    omega

theorem acknowledge_holds {stream : Pcm} {buffer next : PcmRingBuffer} (holds : Holds stream buffer) {start stop : Nat}
    (acknowledged : buffer.acknowledge start stop = .ok next) :
    Holds stream next ∧ next.baseSample = stop ∧ next.reservation = none := by
  unfold acknowledge requireReservation at acknowledged
  cases reservation : buffer.reservation with
  | none => simp [reservation,bind,Except.bind] at acknowledged
  | some chunk =>
    obtain ⟨starts,nonempty,within,_⟩ := holds.reserved chunk reservation
    simp only [reservation,bind,Except.bind] at acknowledged
    split at acknowledged
    · cases acknowledged
    rename_i matched
    split at matched
    · rename_i range
      cases matched
      cases acknowledged
      cases range
      refine ⟨⟨holds.aligned,within,?_,by simp⟩,rfl,rfl⟩
      dsimp only
      rw [holds.data,List.drop_drop,ReadyChunk.sampleCount]
      congr 1
      omega
    · cases matched

theorem rollback_holds {stream : Pcm} {buffer next : PcmRingBuffer} (holds : Holds stream buffer) {start stop : Nat}
    (rolledBack : buffer.rollback start stop = .ok next) :
    Holds stream next ∧ next = { buffer with reservation := none } := by
  unfold rollback at rolledBack
  cases found : buffer.requireReservation start stop with
  | error e => simp [found,bind,Except.bind] at rolledBack
  | ok chunk =>
    simp only [found,bind,Except.bind] at rolledBack
    cases rolledBack
    exact ⟨⟨holds.aligned,holds.reached,holds.data,by simp⟩,rfl⟩

/-- Discarding moves the base over samples that no reservation covers. -/
theorem discard_holds {stream : Pcm} {buffer next : PcmRingBuffer} (holds : Holds stream buffer) {samples : Nat}
    (discarded : buffer.discard samples = .ok next) :
    Holds stream next ∧ next.baseSample = buffer.baseSample + samples ∧ next.reservation = none := by
  unfold discard at discarded
  split at discarded
  · cases discarded
  rename_i free
  split at discarded
  · cases discarded
  rename_i fits
  have unreserved : buffer.reservation = none := by simpa using free
  have length : buffer.data.length = stream.length - buffer.baseSample * 2 := by rw [holds.data,List.length_drop]
  have counted : buffer.bufferedSamples = sampleCount buffer.data := by
    simp [bufferedSamples,reservedSamples,unreserved]
  rw [counted,sampleCount,length] at fits
  have aligned := holds.aligned
  have reached := holds.reached
  cases discarded
  refine ⟨⟨holds.aligned,?_,?_,by simp [unreserved]⟩,rfl,unreserved⟩
  · dsimp only
    omega
  · dsimp only
    rw [holds.data,List.drop_drop]
    congr 1
    omega

end PcmRingBuffer
end SpeechGateway.Chunking
