import SpeechGateway.Chunking

/-!
`GatewaySession`: one client stream with its buffer, its generation and the single
reservation that a job in flight holds. A method that raises changes nothing.
-/
namespace SpeechGateway.Sessions
open SpeechGateway.Chunking

inductive TerminalState
  | opened
  | finishing
  | succeeded
  | failed
  | aborted
  deriving DecidableEq, Repr

structure SessionReservation where
  jobSequence : Nat
  generation : Nat
  chunk : ReadyChunk
  deriving DecidableEq, Repr

/-- The start options, as far as a batch key tells them apart: `hash` identities stand for
    the prompt and for all options together. -/
structure SessionOptions where
  task : Text
  timestamps : Bool
  promptIdentity : Text
  optionsIdentity : Text
  deriving DecidableEq, Repr

structure GatewaySession where
  sessionId : SessionId
  selectedWorkerId : WorkerId
  backendSessionId : Text
  sampleRate : Nat
  language : Text
  options : SessionOptions
  generation : Nat := 1
  terminalState : TerminalState := .opened
  buffer : PcmRingBuffer
  nextJobSequence : Nat := 1
  reservation : Option SessionReservation := none
  finishRequested : Bool := false
  acceptedSamples : Nat := 0
  externalDiscardedSamples : Nat := 0
  deriving DecidableEq, Repr

namespace GatewaySession

def inFlight (session : GatewaySession) : Bool := session.reservation.isSome

/-- `sample_accounting["pending_vad"]`: samples that the detector still holds. -/
def pendingVad (session : GatewaySession) : Nat :=
  session.acceptedSamples - session.buffer.acceptedSamples - session.externalDiscardedSamples

def appendPcm (session : GatewaySession) (pcm : Pcm) (countAccepted : Bool) : Except PyError GatewaySession :=
  if session.terminalState ≠ .opened ∧ session.terminalState ≠ .finishing then
    .error (.runtimeError "session is terminal")
  else do
    let buffer ← session.buffer.append pcm
    .ok { session with
      buffer := buffer
      acceptedSamples := session.acceptedSamples + if countAccepted then sampleCount pcm else 0 }

def acceptVadInput (session : GatewaySession) (pcm : Pcm) : Except PyError GatewaySession :=
  if pcm.length % 2 ≠ 0 then .error (.valueError "pcm_s16le bytes must be sample-aligned") else
  let samples := sampleCount pcm
  let current := session.buffer.bufferedSamples + session.buffer.reservedSamples + session.pendingVad
  if session.buffer.maxSamples < current + samples then
    .error (.capacity .sessionPcmLimit session.buffer.maxSamples current samples "session PCM buffer limit exceeded")
  else .ok { session with acceptedSamples := session.acceptedSamples + samples }

def recordDiscarded (session : GatewaySession) (samples : Nat) : Except PyError GatewaySession :=
  if session.pendingVad < samples then .error (.valueError "discarded VAD samples exceed pending input") else
  .ok { session with externalDiscardedSamples := session.externalDiscardedSamples + samples }

/-- `ready_samples`; a maximum of zero stands for no maximum. -/
def readySamples (session : GatewaySession) (preferred : Nat) (maximum : Int) (force : Bool) : Nat :=
  if session.inFlight then 0 else
  let available := session.buffer.bufferedSamples
  let maximum : Int := if maximum = 0 then available else maximum
  if maximum ≤ available ∧ 0 < maximum then maximum.toNat else
  if preferred ≤ available ∧ 0 < preferred then preferred else
  if force || session.finishRequested then available else 0

def reserve (session : GatewaySession) (samples : Nat) (final : Bool) :
    Except PyError (SessionReservation × GatewaySession) :=
  if session.inFlight then .error (.runtimeError "session already has an in-flight job") else do
    let (chunk,buffer) ← session.buffer.reserveRange samples final
    let reservation : SessionReservation := ⟨session.nextJobSequence,session.generation,chunk⟩
    .ok (reservation,{ session with
      buffer := buffer
      nextJobSequence := session.nextJobSequence + 1
      reservation := some reservation })

def acknowledge (session : GatewaySession) (jobSequence generation : Nat) : Except PyError GatewaySession :=
  if generation ≠ session.generation then .error (.runtimeError "stale generation result") else
  match session.reservation with
  | none => .error (.runtimeError "result does not match in-flight reservation")
  | some reservation =>
    if reservation.jobSequence ≠ jobSequence then
      .error (.runtimeError "result does not match in-flight reservation")
    else do
      let buffer ← session.buffer.acknowledge reservation.chunk.startSample reservation.chunk.endSample
      .ok { session with buffer := buffer, reservation := none }

/-- `rollback`: whether the job held the reservation. -/
def rollback (session : GatewaySession) (jobSequence : Nat) : Except PyError (Bool × GatewaySession) :=
  match session.reservation with
  | none => .ok (false,session)
  | some reservation =>
    if reservation.jobSequence ≠ jobSequence then .ok (false,session) else do
    let buffer ← session.buffer.rollback reservation.chunk.startSample reservation.chunk.endSample
    .ok (true,{ session with buffer := buffer, reservation := none })

def matchesReservation (session : GatewaySession) (jobSequence startSample endSample : Nat) : Bool :=
  session.reservation.any fun reservation =>
    decide (reservation.jobSequence = jobSequence ∧ reservation.generation = session.generation ∧
      reservation.chunk.startSample = startSample ∧ reservation.chunk.endSample = endSample)

def requestFinish (session : GatewaySession) : GatewaySession :=
  if session.finishRequested then session
  else { session with finishRequested := true, terminalState := .finishing }

/-- The part of `abort` that gives the reservation back. -/
def dropReservation (session : GatewaySession) : Except PyError GatewaySession :=
  match session.reservation with
  | none => .ok session
  | some reservation => do
    let buffer ← session.buffer.rollback reservation.chunk.startSample reservation.chunk.endSample
    .ok { session with buffer := buffer, reservation := none }

def abort (session : GatewaySession) : Except PyError GatewaySession :=
  if session.terminalState = .aborted ∨ session.terminalState = .failed then .ok session else do
  let session ← session.dropReservation
  let buffer ← (if session.buffer.bufferedSamples = 0 then .ok session.buffer
    else session.buffer.discard session.buffer.bufferedSamples)
  let session := { session with buffer := buffer }
  .ok { session with
    externalDiscardedSamples := session.externalDiscardedSamples + session.pendingVad
    generation := session.generation + 1
    terminalState := .aborted }

def fail (session : GatewaySession) : Except PyError GatewaySession := do
  let session ← session.abort
  .ok { session with terminalState := .failed }

def succeed (session : GatewaySession) : Except PyError GatewaySession :=
  if session.buffer.bufferedSamples ≠ 0 ∨ session.buffer.reservedSamples ≠ 0 then
    .error (.runtimeError "cannot succeed with unaccounted PCM")
  else .ok { session with terminalState := .succeeded }

/-- `SessionManager.close`, for a session it still holds. -/
def close (session : GatewaySession) : GatewaySession :=
  if session.terminalState = .aborted ∨ session.terminalState = .failed then session
  else { session with generation := session.generation + 1 }

end GatewaySession
end SpeechGateway.Sessions
