import SpeechGateway.Values

/-!
What a worker advertises: its modes, and the capability numbers that size jobs and
batches.
-/
namespace SpeechGateway.Backends

inductive DispatchMode
  | single
  | fixedMicrobatch
  | dynamicMicrobatch
  | continuous
  | statefulDynamic
  deriving DecidableEq, Repr

inductive VadMode
  | none
  | gateway
  | worker
  | both
  deriving DecidableEq, Repr

inductive ResultMode
  | cumulativeSnapshot
  | replaceableSegment
  | confirmedPlusTail
  deriving DecidableEq, Repr

/-- The capabilities that job creation, batching and result application read, with the
    checks that `BackendCapabilities.__post_init__` makes on them. -/
structure BackendCapabilities where
  modelRevision : Text
  dispatchMode : DispatchMode
  vadMode : VadMode
  resultMode : ResultMode
  maxInputSamples : Nat
  maxSegmentSamples : Nat
  maxBatchItems : Nat
  maxBatchSamples : Nat
  maxInputPositive : 0 < maxInputSamples
  maxSegmentPositive : 0 < maxSegmentSamples
  maxBatchItemsPositive : 0 < maxBatchItems
  maxBatchSamplesPositive : 0 < maxBatchSamples
  singleBatch : dispatchMode = .single → maxBatchItems = 1
  vadOwned : vadMode ≠ .both
  inputFitsSegment : maxInputSamples ≤ maxSegmentSamples

/-- A backend that takes one job of one sample at a time. -/
def oneSample : BackendCapabilities where
  modelRevision := []
  dispatchMode := .single
  vadMode := .none
  resultMode := .cumulativeSnapshot
  maxInputSamples := 1
  maxSegmentSamples := 1
  maxBatchItems := 1
  maxBatchSamples := 1
  maxInputPositive := Nat.one_pos
  maxSegmentPositive := Nat.one_pos
  maxBatchItemsPositive := Nat.one_pos
  maxBatchSamplesPositive := Nat.one_pos
  singleBatch _ := rfl
  vadOwned := by decide
  inputFitsSegment := by decide

/-- Result metadata, kept as the adapter sends it. -/
abbrev Metadata := List (Text × Text)

/-- `AdapterResult`, as far as the gateway reads it. -/
structure AdapterResult where
  text : Text := []
  metadata : Option Metadata := none
  deriving DecidableEq, Repr

end SpeechGateway.Backends
