import SpeechGateway.Values
import SpeechGateway.Machine
import Mathlib.Logic.Function.Basic
import Mathlib.Data.List.Nodup
import Mathlib.Tactic.SplitIfs

/-!
`Qwen3TTSSynthesizer`: callers of `stream_pcm` put their requests on a bounded queue, and a
worker thread takes them in micro-batches. `close` puts `_STOP` on the same queue, which the
worker puts back when it finds it while it collects a batch. A `put`, a `get`, a `set`, a model
call with the writing of its answer, and a whole `start` are one step each.
-/
namespace SpeechGateway

/-- The settings that the synthesizer reads, with the bounds of their fields, and
    `_float_audio_to_pcm`, which may raise on what the model returned. -/
structure QwenSettings (Wave : Type*) where
  batchSize : Nat
  queueSize : Nat
  sampleRate : Nat
  defaultVoice : Text
  modelId : String
  batchSize_pos : 0 < batchSize
  queueSize_pos : 0 < queueSize
  floatAudioToPcm : Wave → Except String Pcm

/-- A `_QwenRequest` of the caller with its number, or `_STOP`. -/
inductive QueueItem
  | request (caller : Nat)
  | stop
  deriving DecidableEq, Repr

/-- `_QwenRequest`. -/
structure QwenRequest where
  text : Text
  done : Bool
  pcm : Option Pcm
  error : Option String
  cancelled : Bool
  deriving DecidableEq, Repr

/-- Where a worker thread stands: in the first `get` of its loop, in the `get` that collects the
    batch, in the `put` that gives `_STOP` back, before the model call, or setting `done`. -/
inductive QwenWorker
  | unstarted
  | getting
  | collecting (batch : List Nat)
  | restoring (batch : List Nat)
  | inferring (batch : List Nat)
  | answering (rest : List Nat)
  | exited
  deriving DecidableEq, Repr

/-- Where a call of `stream_pcm` stands. -/
inductive QwenCaller
  | idle
  | starting
  | putting
  | waiting
  | returned (result : Except String Pcm)

/-- Where a call of `close` stands. -/
inductive QwenCloser
  | idle
  | stopping (worker : Nat)
  | joining (worker : Nat)
  | forgetting
  | closed
  deriving DecidableEq, Repr

/-- What `generate_custom_voice` answers: waveforms and their sample rate, or an exception. -/
abbrev QwenAnswer (Wave : Type*) := Except String (List Wave × Nat)

/-- The synthesizer with its threads. `loaded` is what the first attempt to load the model came
    to, `order` the requests in the order of their puts, and `served` the batches of the model
    calls with their answers. -/
structure Qwen3TTSSynthesizer (Wave : Type*) where
  loaded : Option (Except String Unit)
  queue : List QueueItem
  worker : Option Nat
  workers : Nat → QwenWorker
  started : Nat
  requests : Nat → QwenRequest
  callers : Nat → QwenCaller
  closers : Nat → QwenCloser
  dispatchedBatches : Nat
  dispatchedRequests : Nat
  lastBatchSize : Nat
  order : List Nat
  served : List (List Nat × QwenAnswer Wave)

inductive QwenAction (Wave : Type*)
  | streamPcm (caller : Nat) (text : Text) (voice : Option Text)
  | startFor (caller : Nat) (load : Except String Unit)
  | put (caller : Nat)
  | putTimeout (caller : Nat)
  | answered (caller : Nat)
  | giveUp (caller : Nat)
  | start (load : Except String Unit)
  | close (closer : Nat)
  | putStop (closer : Nat)
  | joined (closer : Nat)
  | joinTimeout (closer : Nat)
  | forget (closer : Nat)
  | get (worker : Nat)
  | expire (worker : Nat)
  | restore (worker : Nat)
  | infer (worker : Nat) (answer : QwenAnswer Wave)
  | setDone (worker : Nat)

def QwenRequest.of (text : Text) : QwenRequest := ⟨text,false,none,none,false⟩

/-- The thread has been started and has not returned. -/
def QwenWorker.Lives : QwenWorker → Prop
  | .unstarted | .exited => False
  | _ => True

instance (worker : QwenWorker) : Decidable worker.Lives := by
  cases worker <;> unfold QwenWorker.Lives <;> infer_instance

/-- `len(batch) < tts_qwen_batch_size` decides whether the worker goes on collecting. -/
def QwenWorker.collect {Wave : Type*} (settings : QwenSettings Wave) (batch : List Nat) : QwenWorker :=
  if batch.length < settings.batchSize then .collecting batch else .inferring batch

/-- The worker sets `done` for every request of its batch and returns to its loop. -/
def QwenWorker.answer : List Nat → QwenWorker
  | [] => .getting
  | caller :: rest => .answering (caller :: rest)

namespace Qwen3TTSSynthesizer
variable {Wave : Type*}

def unknownVoiceMessage (voice : Text) : String := s!"unknown TTS voice: {String.ofList voice}"
def queueFullMessage : String := "Qwen3-TTS request queue is full"
def timedOutMessage : String := "Qwen3-TTS request timed out"
def noAudioMessage : String := "Qwen3-TTS returned no audio"
def unavailableMessage (error : String) : String := s!"Qwen3-TTS backend is unavailable: {error}"
def loadMessage (settings : QwenSettings Wave) (error : String) : String :=
  s!"failed to load Qwen3-TTS model {settings.modelId}: {error}"
def inferenceMessage (error : String) : String := s!"Qwen3-TTS inference failed: {error}"
def rateMessage (settings : QwenSettings Wave) (rate : Nat) : String :=
  s!"Qwen3-TTS returned {rate} Hz; configured output is {settings.sampleRate} Hz"
def countMessage (waves requests : Nat) : String := s!"Qwen3-TTS returned {waves} waveforms for {requests} requests"

def initial : Qwen3TTSSynthesizer Wave where
  loaded := none
  queue := []
  worker := none
  workers := fun _ => .unstarted
  started := 0
  requests := fun _ => .of []
  callers := fun _ => .idle
  closers := fun _ => .idle
  dispatchedBatches := 0
  dispatchedRequests := 0
  lastBatchSize := 0
  order := []
  served := []

def withCaller (state : Qwen3TTSSynthesizer Wave) (caller : Nat) (stage : QwenCaller) : Qwen3TTSSynthesizer Wave :=
  { state with callers := Function.update state.callers caller stage }

def withCloser (state : Qwen3TTSSynthesizer Wave) (closer : Nat) (stage : QwenCloser) : Qwen3TTSSynthesizer Wave :=
  { state with closers := Function.update state.closers closer stage }

def withWorker (state : Qwen3TTSSynthesizer Wave) (worker : Nat) (stage : QwenWorker) : Qwen3TTSSynthesizer Wave :=
  { state with workers := Function.update state.workers worker stage }

/-- `_load_model`, where `load` is what importing and loading come to if they are tried. -/
def loadModel (settings : QwenSettings Wave) (state : Qwen3TTSSynthesizer Wave) (load : Except String Unit) :
    Qwen3TTSSynthesizer Wave × Except String Unit :=
  match state.loaded with
  | some (.ok ()) => (state,.ok ())
  | some (.error error) => (state,.error (unavailableMessage error))
  | none => ({ state with loaded := some load },load.mapError (loadMessage settings))

/-- `self._worker is not None and self._worker.is_alive()`. -/
def workerLives (state : Qwen3TTSSynthesizer Wave) : Bool :=
  match state.worker with
  | none => false
  | some worker => decide (state.workers worker).Lives

/-- `start`. -/
def start (settings : QwenSettings Wave) (state : Qwen3TTSSynthesizer Wave) (load : Except String Unit) :
    Qwen3TTSSynthesizer Wave × Except String Unit :=
  match state.loadModel settings load with
  | (state,.error error) => (state,.error error)
  | (state,.ok ()) =>
    if state.workerLives then (state,.ok ())
    else ({ state.withWorker state.started .getting with worker := some state.started,started := state.started + 1 },.ok ())

/-- `stream_pcm` up to `start`. -/
def streamPcm (settings : QwenSettings Wave) (state : Qwen3TTSSynthesizer Wave) (caller : Nat) (text : Text)
    (voice : Option Text) : Option (Qwen3TTSSynthesizer Wave) :=
  match state.callers caller with
  | .idle =>
    -- `voice or self.settings.tts_default_voice`: an empty voice counts as none
    let selected := match voice with
      | some (first :: rest) => first :: rest
      | _ => settings.defaultVoice
    if selected ≠ settings.defaultVoice then
      some (state.withCaller caller (.returned (.error (unknownVoiceMessage selected))))
    else some { state.withCaller caller .starting with requests := Function.update state.requests caller (.of text) }
  | _ => none

/-- `stream_pcm` behind `start`. -/
def startFor (settings : QwenSettings Wave) (state : Qwen3TTSSynthesizer Wave) (caller : Nat) (load : Except String Unit) :
    Option (Qwen3TTSSynthesizer Wave) :=
  match state.callers caller with
  | .starting =>
    match state.start settings load with
    | (state,.ok ()) => some (state.withCaller caller .putting)
    | (state,.error error) => some (state.withCaller caller (.returned (.error error)))
  | _ => none

def put (settings : QwenSettings Wave) (state : Qwen3TTSSynthesizer Wave) (caller : Nat) : Option (Qwen3TTSSynthesizer Wave) :=
  match state.callers caller with
  | .putting =>
    if state.queue.length < settings.queueSize then
      some { state.withCaller caller .waiting with
        queue := state.queue ++ [.request caller],order := state.order ++ [caller] }
    else none
  | _ => none

/-- `queue.Full`. -/
def putTimeout (settings : QwenSettings Wave) (state : Qwen3TTSSynthesizer Wave) (caller : Nat) :
    Option (Qwen3TTSSynthesizer Wave) :=
  match state.callers caller with
  | .putting =>
    if settings.queueSize ≤ state.queue.length then
      some (state.withCaller caller (.returned (.error queueFullMessage)))
    else none
  | _ => none

/-- What `stream_pcm` makes of a request that is done. -/
def result (request : QwenRequest) : Except String Pcm :=
  match request.error,request.pcm with
  | some error,_ => .error error
  | none,some (byte :: rest) => .ok (byte :: rest)
  | none,_ => .error noAudioMessage

def answered (state : Qwen3TTSSynthesizer Wave) (caller : Nat) : Option (Qwen3TTSSynthesizer Wave) :=
  match state.callers caller with
  | .waiting =>
    if (state.requests caller).done then some (state.withCaller caller (.returned (result (state.requests caller))))
    else none
  | _ => none

/-- The deadline of `stream_pcm` passes. -/
def giveUp (state : Qwen3TTSSynthesizer Wave) (caller : Nat) : Option (Qwen3TTSSynthesizer Wave) :=
  match state.callers caller with
  | .waiting =>
    some { state.withCaller caller (.returned (.error timedOutMessage)) with
      requests := Function.update state.requests caller { state.requests caller with cancelled := true } }
  | _ => none

/-- `close` up to its test of the worker. -/
def close (state : Qwen3TTSSynthesizer Wave) (closer : Nat) : Option (Qwen3TTSSynthesizer Wave) :=
  match state.closers closer with
  | .idle =>
    match state.worker with
    | none => some (state.withCloser closer .forgetting)
    | some worker =>
      if (state.workers worker).Lives then some (state.withCloser closer (.stopping worker))
      else some (state.withCloser closer .forgetting)
  | _ => none

/-- `self._queue.put(_STOP, timeout=0.1)`, which is tried again until it succeeds. -/
def putStop (settings : QwenSettings Wave) (state : Qwen3TTSSynthesizer Wave) (closer : Nat) :
    Option (Qwen3TTSSynthesizer Wave) :=
  match state.closers closer with
  | .stopping worker =>
    if state.queue.length < settings.queueSize then
      some { state.withCloser closer (.joining worker) with queue := state.queue ++ [.stop] }
    else none
  | _ => none

/-- `worker.join(timeout=10)` returns because the thread has ended. -/
def joined (state : Qwen3TTSSynthesizer Wave) (closer : Nat) : Option (Qwen3TTSSynthesizer Wave) :=
  match state.closers closer with
  | .joining worker => if (state.workers worker).Lives then none else some (state.withCloser closer .forgetting)
  | _ => none

def joinTimeout (state : Qwen3TTSSynthesizer Wave) (closer : Nat) : Option (Qwen3TTSSynthesizer Wave) :=
  match state.closers closer with
  | .joining _ => some (state.withCloser closer .forgetting)
  | _ => none

/-- `self._worker = None`. -/
def forget (state : Qwen3TTSSynthesizer Wave) (closer : Nat) : Option (Qwen3TTSSynthesizer Wave) :=
  match state.closers closer with
  | .forgetting => some { state.withCloser closer .closed with worker := none }
  | _ => none

/-- A `get` of `_worker_loop` returns an item. -/
def get (settings : QwenSettings Wave) (state : Qwen3TTSSynthesizer Wave) (worker : Nat) : Option (Qwen3TTSSynthesizer Wave) :=
  match state.workers worker,state.queue with
  | .getting,.stop :: rest => some { state.withWorker worker .exited with queue := rest }
  | .getting,.request caller :: rest => some { state.withWorker worker (.collect settings [caller]) with queue := rest }
  | .collecting batch,.stop :: rest => some { state.withWorker worker (.restoring batch) with queue := rest }
  | .collecting batch,.request caller :: rest =>
    some { state.withWorker worker (.collect settings (batch ++ [caller])) with queue := rest }
  | _,_ => none

/-- `tts_qwen_batch_wait_ms` have passed. -/
def expire (state : Qwen3TTSSynthesizer Wave) (worker : Nat) : Option (Qwen3TTSSynthesizer Wave) :=
  match state.workers worker with
  | .collecting batch => some (state.withWorker worker (.inferring batch))
  | _ => none

/-- `self._queue.put(_STOP)` in `_worker_loop`, which waits for room. -/
def restore (settings : QwenSettings Wave) (state : Qwen3TTSSynthesizer Wave) (worker : Nat) :
    Option (Qwen3TTSSynthesizer Wave) :=
  match state.workers worker with
  | .restoring batch =>
    if state.queue.length < settings.queueSize then
      some { state.withWorker worker (.inferring batch) with queue := state.queue ++ [.stop] }
    else none
  | _ => none

/-- `for request, wav in zip(requests, wavs)`: the requests with their waveforms, up to an exception. -/
def assign (settings : QwenSettings Wave) : (Nat → QwenRequest) → List (Nat × Wave) → (Nat → QwenRequest) × Except String Unit
  | requests, [] => (requests,.ok ())
  | requests, (caller,wave) :: rest =>
    if (requests caller).cancelled then assign settings requests rest
    else match settings.floatAudioToPcm wave with
      | .error error => (requests,.error error)
      | .ok pcm => assign settings (Function.update requests caller { requests caller with pcm := some pcm }) rest

/-- `request.error = RuntimeError(…)` for every request of the batch. -/
def fail (requests : Nat → QwenRequest) (error : String) : List Nat → Nat → QwenRequest
  | [] => requests
  | caller :: rest =>
    fail (Function.update requests caller { requests caller with error := some (inferenceMessage error) }) error rest

/-- `_run_batch` up to its `finally`. -/
def runBatch (settings : QwenSettings Wave) (requests : Nat → QwenRequest) (batch : List Nat) :
    QwenAnswer Wave → Nat → QwenRequest
  | .error error => fail requests error batch
  | .ok (waves,rate) =>
    if rate ≠ settings.sampleRate then fail requests (rateMessage settings rate) batch
    else if waves.length ≠ batch.length then fail requests (countMessage waves.length batch.length) batch
    else match assign settings requests (batch.zip waves) with
      | (assigned,.ok ()) => assigned
      | (assigned,.error error) => fail assigned error batch

/-- The model answers the worker's batch. -/
def infer (settings : QwenSettings Wave) (state : Qwen3TTSSynthesizer Wave) (worker : Nat) (answer : QwenAnswer Wave) :
    Option (Qwen3TTSSynthesizer Wave) :=
  match state.workers worker with
  | .inferring batch =>
    some { state.withWorker worker (.answer batch) with
      requests := runBatch settings state.requests batch answer
      dispatchedBatches := state.dispatchedBatches + 1
      dispatchedRequests := state.dispatchedRequests + batch.length
      lastBatchSize := batch.length
      served := state.served ++ [(batch,answer)] }
  | _ => none

/-- `request.done.set()`. -/
def setDone (state : Qwen3TTSSynthesizer Wave) (worker : Nat) : Option (Qwen3TTSSynthesizer Wave) :=
  match state.workers worker with
  | .answering (caller :: rest) =>
    some { state.withWorker worker (.answer rest) with
      requests := Function.update state.requests caller { state.requests caller with done := true } }
  | _ => none

def step (settings : QwenSettings Wave) (state : Qwen3TTSSynthesizer Wave) : QwenAction Wave → Option (Qwen3TTSSynthesizer Wave)
  | .streamPcm caller text voice => state.streamPcm settings caller text voice
  | .startFor caller load => state.startFor settings caller load
  | .put caller => state.put settings caller
  | .putTimeout caller => state.putTimeout settings caller
  | .answered caller => state.answered caller
  | .giveUp caller => state.giveUp caller
  | .start load => some (state.start settings load).1
  | .close closer => state.close closer
  | .putStop closer => state.putStop settings closer
  | .joined closer => state.joined closer
  | .joinTimeout closer => state.joinTimeout closer
  | .forget closer => state.forget closer
  | .get worker => state.get settings worker
  | .expire worker => state.expire worker
  | .restore worker => state.restore settings worker
  | .infer worker answer => state.infer settings worker answer
  | .setDone worker => state.setDone worker

/-! ## What each action needs and changes -/

section Cases
variable {settings : QwenSettings Wave} {state next : Qwen3TTSSynthesizer Wave} {caller closer worker : Nat}

theorem put_cases (stepped : state.put settings caller = some next) : state.callers caller = .putting ∧
    next = { state.withCaller caller .waiting with
      queue := state.queue ++ [.request caller],order := state.order ++ [caller] } := by
  unfold put at stepped
  split at stepped
  · rename_i putting
    split_ifs at stepped
    exact ⟨putting,(Option.some.inj stepped).symm⟩
  · cases stepped

theorem giveUp_cases (stepped : state.giveUp caller = some next) : state.callers caller = .waiting ∧
    next = { state.withCaller caller (.returned (.error timedOutMessage)) with
      requests := Function.update state.requests caller { state.requests caller with cancelled := true } } := by
  unfold giveUp at stepped
  split at stepped
  · exact ⟨‹_›,(Option.some.inj stepped).symm⟩
  · cases stepped

theorem putStop_cases (stepped : state.putStop settings closer = some next) : ∃ told,
    state.closers closer = .stopping told ∧
      next = { state.withCloser closer (.joining told) with queue := state.queue ++ [.stop] } := by
  unfold putStop at stepped
  split at stepped
  · rename_i told stopping
    split_ifs at stepped
    exact ⟨told,stopping,(Option.some.inj stepped).symm⟩
  · cases stepped

theorem forget_cases (stepped : state.forget closer = some next) : state.closers closer = .forgetting ∧
    next = { state.withCloser closer .closed with worker := none } := by
  unfold forget at stepped
  split at stepped
  · exact ⟨‹_›,(Option.some.inj stepped).symm⟩
  · cases stepped

/-- A worker takes `_STOP` and exits, or keeps it to put it back; or it takes a request into its batch. -/
theorem get_cases (stepped : state.get settings worker = some next) : ∃ item rest, state.queue = item :: rest ∧
    ((item = .stop ∧ state.workers worker = .getting ∧ next = { state.withWorker worker .exited with queue := rest }) ∨
      (∃ batch, item = .stop ∧ state.workers worker = .collecting batch ∧
        next = { state.withWorker worker (.restoring batch) with queue := rest }) ∨
      ∃ caller batch, item = .request caller ∧
        (state.workers worker = .getting ∧ batch = [] ∨ state.workers worker = .collecting batch) ∧
        next = { state.withWorker worker (.collect settings (batch ++ [caller])) with queue := rest }) := by
  unfold get at stepped
  split at stepped <;> cases stepped <;> rename_i stage queue <;> refine ⟨_,_,queue,?_⟩
  · exact .inl ⟨rfl,stage,rfl⟩
  · exact .inr (.inr ⟨_,[],rfl,.inl ⟨stage,rfl⟩,rfl⟩)
  · exact .inr (.inl ⟨_,rfl,stage,rfl⟩)
  · exact .inr (.inr ⟨_,_,rfl,.inr stage,rfl⟩)

theorem expire_cases (stepped : state.expire worker = some next) : ∃ batch, state.workers worker = .collecting batch ∧
    next = state.withWorker worker (.inferring batch) := by
  unfold expire at stepped
  split at stepped
  · exact ⟨_,‹_›,(Option.some.inj stepped).symm⟩
  · cases stepped

theorem restore_cases (stepped : state.restore settings worker = some next) : ∃ batch,
    state.workers worker = .restoring batch ∧
      next = { state.withWorker worker (.inferring batch) with queue := state.queue ++ [.stop] } := by
  unfold restore at stepped
  split at stepped
  · rename_i batch restoring
    split_ifs at stepped
    exact ⟨batch,restoring,(Option.some.inj stepped).symm⟩
  · cases stepped

theorem infer_cases {answer : QwenAnswer Wave} (stepped : state.infer settings worker answer = some next) : ∃ batch,
    state.workers worker = .inferring batch ∧ next = { state.withWorker worker (.answer batch) with
      requests := runBatch settings state.requests batch answer
      dispatchedBatches := state.dispatchedBatches + 1
      dispatchedRequests := state.dispatchedRequests + batch.length
      lastBatchSize := batch.length
      served := state.served ++ [(batch,answer)] } := by
  unfold infer at stepped
  split at stepped
  · exact ⟨_,‹_›,(Option.some.inj stepped).symm⟩
  · cases stepped

theorem setDone_cases (stepped : state.setDone worker = some next) : ∃ caller rest,
    state.workers worker = .answering (caller :: rest) ∧ next = { state.withWorker worker (.answer rest) with
      requests := Function.update state.requests caller { state.requests caller with done := true } } := by
  unfold setDone at stepped
  split at stepped
  · exact ⟨_,_,‹_›,(Option.some.inj stepped).symm⟩
  · cases stepped

end Cases

section Answers
variable {settings : QwenSettings Wave} {requests : Nat → QwenRequest}

theorem fail_apply (requests : Nat → QwenRequest) (error : String) (batch : List Nat) (caller : Nat) :
    fail requests error batch caller =
      if caller ∈ batch then { requests caller with error := some (inferenceMessage error) } else requests caller := by
  induction batch generalizing requests with
  | nil => rfl
  | cons first rest ih =>
    rw [fail,ih]
    by_cases same : caller = first
    · subst same
      by_cases later : caller ∈ rest <;> simp [later]
    · simp [same]

/-- The callers of the pairs get the waveforms at their side, unless they were cancelled. -/
theorem assign_apply {pairs : List (Nat × Wave)} (apart : (pairs.map Prod.fst).Nodup) :
    (∀ caller, caller ∉ pairs.map Prod.fst → (assign settings requests pairs).1 caller = requests caller) ∧
    ((assign settings requests pairs).2 = .ok () → ∀ caller wave, (caller,wave) ∈ pairs →
      (requests caller).cancelled = true ∨ ∃ pcm, settings.floatAudioToPcm wave = .ok pcm ∧
        (assign settings requests pairs).1 caller = { requests caller with pcm := some pcm }) := by
  induction pairs generalizing requests with
  | nil => exact ⟨fun _ _ => rfl,fun _ _ _ member => by cases member⟩
  | cons pair rest ih =>
    obtain ⟨first,wave⟩ := pair
    simp only [List.map_cons,List.nodup_cons] at apart
    obtain ⟨alone,apart⟩ := apart
    have unlike : ∀ {caller value}, (caller,value) ∈ rest → caller ≠ first := by
      rintro caller value member rfl
      exact alone (List.mem_map_of_mem member)
    rw [assign]
    by_cases cancelled : (requests first).cancelled = true
    · rw [if_pos cancelled]
      obtain ⟨others,written⟩ := @ih requests apart
      refine ⟨fun caller missing => others caller fun member => missing (List.mem_cons_of_mem _ member),?_⟩
      intro fine caller value member
      rcases List.mem_cons.mp member with same | later
      · cases same
        exact .inl cancelled
      · exact written fine caller value later
    · rw [if_neg cancelled]
      cases converted : settings.floatAudioToPcm wave with
      | error error => exact ⟨fun _ _ => rfl,fun fine => by cases fine⟩
      | ok pcm =>
        obtain ⟨others,written⟩ := @ih (Function.update requests first { requests first with pcm := some pcm }) apart
        constructor
        · intro caller missing
          simp only [List.map_cons,List.mem_cons,not_or] at missing
          rw [others caller missing.2,Function.update_of_ne missing.1]
        · intro fine caller value member
          rcases List.mem_cons.mp member with same | later
          · cases same
            exact .inr ⟨pcm,converted,by rw [others first alone,Function.update_self]⟩
          · have other := written fine caller value later
            rwa [Function.update_of_ne (unlike later)] at other

/-- An exception leaves the requests behind it alone, and nothing but `pcm` is written. -/
theorem assign_keeps (pairs : List (Nat × Wave)) (caller : Nat) :
    ((assign settings requests pairs).1 caller).done = (requests caller).done ∧
      ((assign settings requests pairs).1 caller).cancelled = (requests caller).cancelled := by
  induction pairs generalizing requests with
  | nil => exact ⟨rfl,rfl⟩
  | cons pair rest ih =>
    obtain ⟨first,wave⟩ := pair
    rw [assign]
    split_ifs
    · exact ih
    · split
      · exact ⟨rfl,rfl⟩
      · obtain ⟨done,cancelled⟩ := @ih (Function.update requests first { requests first with pcm := some _ })
        rw [done,cancelled]
        by_cases same : caller = first
        · subst same
          simp
        · simp [same]

/-- A request was answered with an error, with the waveform at its position, or was excused. -/
def Answered (settings : QwenSettings Wave) (excused : Prop) (request : QwenRequest) (answer : QwenAnswer Wave)
    (position : Nat) : Prop :=
  request.error ≠ none ∨ excused ∨ ∃ waves rate wave pcm, answer = .ok (waves,rate) ∧ waves[position]? = some wave ∧
    settings.floatAudioToPcm wave = .ok pcm ∧ request.pcm = some pcm

theorem runBatch_answered {batch : List Nat} (apart : batch.Nodup) {position caller : Nat}
    (placed : batch[position]? = some caller) (answer : QwenAnswer Wave) :
    Answered settings ((requests caller).cancelled = true) (runBatch settings requests batch answer caller) answer position := by
  have member : caller ∈ batch := List.mem_of_getElem? placed
  have failed : ∀ (written : Nat → QwenRequest) error, (fail written error batch caller).error ≠ none := by
    intro written error
    rw [fail_apply,if_pos member]
    simp
  rcases answer with error | ⟨waves,rate⟩
  · exact .inl (failed _ _)
  · simp only [runBatch]
    split_ifs with different lengths
    · exact .inl (failed _ _)
    · exact .inl (failed _ _)
    · push Not at lengths
      have callers : (batch.zip waves).map Prod.fst = batch := List.map_fst_zip (by omega)
      have short : position < batch.length := (List.getElem?_eq_some_iff.mp placed).1
      obtain ⟨wave,at_position⟩ : ∃ wave, waves[position]? = some wave := ⟨_,List.getElem?_eq_getElem (by omega)⟩
      have paired : (caller,wave) ∈ batch.zip waves := by
        refine List.mem_of_getElem? (show (batch.zip waves)[position]? = some (caller,wave) from ?_)
        rw [List.getElem?_zip_eq_some]
        exact ⟨placed,at_position⟩
      obtain ⟨_,written⟩ := @assign_apply Wave settings requests (batch.zip waves) (by rw [callers]; exact apart)
      rcases outcome : assign settings requests (batch.zip waves) with ⟨assigned,error | ⟨⟩⟩
      · exact .inl (failed _ _)
      · rw [outcome] at written
        rcases written rfl caller wave paired with cancelled | ⟨pcm,converted,wrote⟩
        · exact .inr (.inl cancelled)
        · exact .inr (.inr ⟨waves,rate,wave,pcm,rfl,at_position,converted,(congrArg QwenRequest.pcm wrote)⟩)

theorem runBatch_other {batch : List Nat} {caller : Nat} (missing : caller ∉ batch) (answer : QwenAnswer Wave)
    (apart : batch.Nodup) : runBatch settings requests batch answer caller = requests caller := by
  have failed : ∀ (written : Nat → QwenRequest) error, fail written error batch caller = written caller := by
    intro written error
    rw [fail_apply,if_neg missing]
  rcases answer with error | ⟨waves,rate⟩
  · exact failed _ _
  · simp only [runBatch]
    split_ifs with different lengths
    · exact failed _ _
    · exact failed _ _
    · push Not at lengths
      have callers : (batch.zip waves).map Prod.fst = batch := List.map_fst_zip (by omega)
      have others := (@assign_apply Wave settings requests (batch.zip waves) (by rw [callers]; exact apart)).1 caller
        (by rw [callers]; exact missing)
      rcases outcome : assign settings requests (batch.zip waves) with ⟨assigned,error | ⟨⟩⟩ <;> rw [outcome] at others
      · exact (failed _ _).trans others
      · exact others

theorem runBatch_keeps (requests : Nat → QwenRequest) (batch : List Nat) (answer : QwenAnswer Wave) (caller : Nat) :
    (runBatch settings requests batch answer caller).done = (requests caller).done ∧
      (runBatch settings requests batch answer caller).cancelled = (requests caller).cancelled := by
  have failed : ∀ (written : Nat → QwenRequest) error, (fail written error batch caller).done = (written caller).done ∧
      (fail written error batch caller).cancelled = (written caller).cancelled := by
    intro written error
    rw [fail_apply]
    split_ifs <;> exact ⟨rfl,rfl⟩
  rcases answer with error | ⟨waves,rate⟩
  · exact failed _ _
  · simp only [runBatch]
    split_ifs
    · exact failed _ _
    · exact failed _ _
    · have kept := @assign_keeps Wave settings requests (batch.zip waves) caller
      rcases outcome : assign settings requests (batch.zip waves) with ⟨assigned,error | ⟨⟩⟩ <;> rw [outcome] at kept
      · exact ⟨(failed _ _).1.trans kept.1,(failed _ _).2.trans kept.2⟩
      · exact kept

end Answers
end Qwen3TTSSynthesizer

/-! ## Where a request is -/

/-- The requests on the queue, in order. -/
def requestsOf : List QueueItem → List Nat
  | [] => []
  | .request caller :: rest => caller :: requestsOf rest
  | .stop :: rest => requestsOf rest

theorem requestsOf_append (first rest : List QueueItem) : requestsOf (first ++ rest) = requestsOf first ++ requestsOf rest := by
  induction first with
  | nil => rfl
  | cons item first ih => cases item <;> simp [requestsOf,ih]

theorem mem_requestsOf {queue : List QueueItem} {caller : Nat} : caller ∈ requestsOf queue ↔ .request caller ∈ queue := by
  induction queue with
  | nil => simp [requestsOf]
  | cons item rest ih => cases item <;> simp [requestsOf,ih]

namespace QwenWorker
variable {Wave : Type*} {settings : QwenSettings Wave}

/-- The batch that the model has not answered yet. -/
def holding : QwenWorker → List Nat
  | .collecting batch | .restoring batch | .inferring batch => batch
  | _ => []

/-- The answered requests whose `done` is still to be set. -/
def setting : QwenWorker → List Nat
  | .answering rest => rest
  | _ => []

/-- A batch is never empty and never larger than `tts_qwen_batch_size`. -/
def Sized (settings : QwenSettings Wave) : QwenWorker → Prop
  | .collecting batch | .restoring batch => 0 < batch.length ∧ batch.length < settings.batchSize
  | .inferring batch => 0 < batch.length ∧ batch.length ≤ settings.batchSize
  | _ => True

/-- How many steps of its own the worker is away from having set every `done`. -/
def left (settings : QwenSettings Wave) : QwenWorker → Nat
  | .collecting batch => 2 * settings.batchSize + 3 - batch.length
  | .restoring _ => settings.batchSize + 2
  | .inferring _ => settings.batchSize + 1
  | .answering rest => rest.length
  | _ => 0

@[simp] theorem holding_collect (batch : List Nat) : (collect settings batch).holding = batch := by
  unfold collect
  split_ifs <;> rfl

@[simp] theorem setting_collect (batch : List Nat) : (collect settings batch).setting = [] := by
  unfold collect
  split_ifs <;> rfl

@[simp] theorem holding_answer (rest : List Nat) : (answer rest).holding = [] := by cases rest <;> rfl

@[simp] theorem setting_answer (rest : List Nat) : (answer rest).setting = rest := by cases rest <;> rfl

theorem sized_collect {batch : List Nat} (some : 0 < batch.length) (few : batch.length ≤ settings.batchSize) :
    (collect settings batch).Sized settings := by
  unfold collect
  split_ifs with room
  · exact ⟨some,room⟩
  · exact ⟨some,few⟩

theorem sized_answer (rest : List Nat) : (answer rest).Sized settings := by cases rest <;> trivial

end QwenWorker

/-- A request is not on the queue yet, on it, in the batch of a worker, or answered by the model. -/
inductive Place
  | fresh
  | queued
  | held (worker : Nat)
  | modelled

/-- The call of `stream_pcm` has not put its request yet. -/
def QwenCaller.Early : QwenCaller → Prop
  | .idle | .starting | .putting => True
  | .waiting | .returned _ => False

namespace Qwen3TTSSynthesizer
variable {Wave : Type*} {settings : QwenSettings Wave} {quiet : Bool} {place : Nat → Place}
  {state next : Qwen3TTSSynthesizer Wave} {action : QwenAction Wave}

/-- Every request is at one place, and the batches of the model calls were taken in the order of the
    queue and answered. With `quiet` no caller gives up on a request that is not done. -/
structure Placed (settings : QwenSettings Wave) (quiet : Bool) (place : Nat → Place) (state : Qwen3TTSSynthesizer Wave) : Prop where
  early : ∀ caller, (state.callers caller).Early → place caller = .fresh
  queued : ∀ caller, caller ∈ requestsOf state.queue ↔ place caller = .queued
  held : ∀ caller worker, caller ∈ (state.workers worker).holding ↔ place caller = .held worker
  modelled : ∀ caller, (∃ entry ∈ state.served, caller ∈ entry.1) ↔ place caller = .modelled
  setting : ∀ caller worker, caller ∈ (state.workers worker).setting → place caller = .modelled
  orderly : state.order.Nodup
  known : ∀ caller ∈ state.order, place caller ≠ .fresh
  ordered : ∀ worker, ((state.workers worker).holding ++ requestsOf state.queue).Sublist state.order
  sized : ∀ worker, (state.workers worker).Sized settings
  batches : ∀ entry ∈ state.served, 0 < entry.1.length ∧ entry.1.length ≤ settings.batchSize ∧ entry.1.Sublist state.order
  answers : ∀ entry ∈ state.served, ∀ position caller, entry.1[position]? = some caller →
    Answered settings (quiet = false ∧ (state.requests caller).cancelled = true) (state.requests caller) entry.2 position
  done : ∀ caller, place caller = .modelled → (state.requests caller).done = true ∨
    ∃ worker, caller ∈ (state.workers worker).setting
  undone : ∀ caller, (state.requests caller).done = true → place caller = .modelled
  calm : quiet = true → ∀ caller, (state.requests caller).cancelled = true → (state.requests caller).done = true

theorem initial_placed (settings : QwenSettings Wave) (quiet : Bool) :
    Placed settings quiet (fun _ => .fresh) (initial : Qwen3TTSSynthesizer Wave) := by
  constructor <;> simp [initial,requestsOf,QwenWorker.holding,QwenWorker.setting,QwenWorker.Sized,QwenRequest.of]

/-- The requests stay where they are. -/
theorem Placed.frame (placed : Placed settings quiet place state)
    (callers : ∀ caller, (next.callers caller).Early → (state.callers caller).Early)
    (queue : requestsOf next.queue = requestsOf state.queue) (requests : next.requests = state.requests)
    (order : next.order = state.order) (served : next.served = state.served)
    (workers : ∀ worker, (next.workers worker).holding = (state.workers worker).holding ∧
      (next.workers worker).setting = (state.workers worker).setting ∧ (next.workers worker).Sized settings) :
    Placed settings quiet place next := by
  constructor
  · exact fun caller soon => placed.early caller (callers caller soon)
  · rw [queue]
    exact placed.queued
  · intro caller worker
    rw [(workers worker).1]
    exact placed.held caller worker
  · rw [served]
    exact placed.modelled
  · intro caller worker
    rw [(workers worker).2.1]
    exact placed.setting caller worker
  · rw [order]
    exact placed.orderly
  · rw [order]
    exact placed.known
  · intro worker
    rw [(workers worker).1,queue,order]
    exact placed.ordered worker
  · exact fun worker => (workers worker).2.2
  · rw [served,order]
    exact placed.batches
  · rw [served,requests]
    exact placed.answers
  · intro caller modelled
    rw [requests]
    refine (placed.done caller modelled).imp_right ?_
    rintro ⟨worker,member⟩
    exact ⟨worker,by rwa [(workers worker).2.1]⟩
  · rw [requests]
    exact placed.undone
  · rw [requests]
    exact placed.calm

/-- One worker goes on to a stage with the same requests in its hands. -/
theorem Placed.same (placed : Placed settings quiet place state) {worker : Nat} {stage : QwenWorker}
    (holding : stage.holding = (state.workers worker).holding) (setting : stage.setting = (state.workers worker).setting)
    (sized : stage.Sized settings) (other : Nat) :
    (Function.update state.workers worker stage other).holding = (state.workers other).holding ∧
      (Function.update state.workers worker stage other).setting = (state.workers other).setting ∧
      (Function.update state.workers worker stage other).Sized settings := by
  by_cases mine : other = worker
  · subst mine
    rw [Function.update_self]
    exact ⟨holding,setting,sized⟩
  · rw [Function.update_of_ne mine]
    exact ⟨rfl,rfl,placed.sized other⟩

/-- The caller goes on to a later stage. -/
theorem early_update {callers : Nat → QwenCaller} {caller : Nat} {stage : QwenCaller}
    (later : stage.Early → (callers caller).Early) (other : Nat) (soon : (Function.update callers caller stage other).Early) :
    (callers other).Early := by
  by_cases mine : other = caller
  · subst mine
    rw [Function.update_self] at soon
    exact later soon
  · rwa [Function.update_of_ne mine] at soon

/-- The request of a caller is put on the queue. -/
theorem Placed.put (placed : Placed settings quiet place state) {caller : Nat} (stepped : state.put settings caller = some next) :
    ∃ place, Placed settings quiet place next := by
  obtain ⟨putting,rfl⟩ := put_cases stepped
  have fresh : place caller = .fresh := placed.early caller (by rw [putting]; trivial)
  have unknown : caller ∉ state.order := fun member => placed.known caller member fresh
  have elsewhere : ∀ {other}, place other ≠ .fresh → other ≠ caller := by
    rintro other known rfl
    exact known fresh
  refine ⟨Function.update place caller .queued,?_⟩
  constructor
  · intro other soon
    have unlike : other ≠ caller := by
      rintro rfl
      simp [withCaller,QwenCaller.Early] at soon
    rw [Function.update_of_ne unlike]
    exact placed.early other (by simpa [withCaller,unlike] using soon)
  · intro other
    simp only [requestsOf_append,requestsOf,List.mem_append,List.mem_singleton,placed.queued]
    by_cases mine : other = caller
    · simp [mine]
    · simp [mine]
  · intro other worker
    by_cases mine : other = caller
    · subst mine
      simp [withCaller,placed.held,fresh]
    · simp [withCaller,mine,placed.held]
  · intro other
    by_cases mine : other = caller
    · subst mine
      rw [Function.update_self,withCaller,placed.modelled,fresh]
      simp
    · rw [Function.update_of_ne mine]
      exact placed.modelled other
  · intro other worker member
    have there := placed.setting other worker member
    rwa [Function.update_of_ne (elsewhere (by simp [there]))]
  · exact List.nodup_append.mpr ⟨placed.orderly,List.nodup_singleton _,by
      rintro other member _ single rfl
      exact unknown (List.mem_singleton.mp single ▸ member)⟩
  · intro other member
    rcases List.mem_append.mp member with before | now
    · rw [Function.update_of_ne (elsewhere (placed.known other before))]
      exact placed.known other before
    · rw [List.mem_singleton.mp now,Function.update_self]
      simp
  · intro worker
    simp only [requestsOf_append,requestsOf]
    rw [← List.append_assoc]
    exact (placed.ordered worker).append (List.Sublist.refl _)
  · exact placed.sized
  · intro entry member
    obtain ⟨some,few,sub⟩ := placed.batches entry member
    exact ⟨some,few,sub.trans (List.sublist_append_left _ _)⟩
  · exact placed.answers
  · intro other modelled
    by_cases mine : other = caller
    · subst mine
      simp at modelled
    · rw [Function.update_of_ne mine] at modelled
      exact placed.done other modelled
  · intro other done
    have there := placed.undone other done
    rwa [Function.update_of_ne (elsewhere (by simp [there]))]
  · exact placed.calm

/-- A worker takes the first request of the queue into its batch. -/
theorem Placed.takes (placed : Placed settings quiet place state) {worker caller : Nat} {rest : List QueueItem} {batch : List Nat}
    (queue : state.queue = .request caller :: rest) (holding : (state.workers worker).holding = batch)
    (setting : (state.workers worker).setting = []) (room : batch.length < settings.batchSize) :
    Placed settings quiet (Function.update place caller (.held worker))
      { state.withWorker worker (.collect settings (batch ++ [caller])) with queue := rest } := by
  have queued : place caller = .queued := (placed.queued caller).mp (by simp [queue,requestsOf])
  have elsewhere : ∀ {other}, place other ≠ .queued → other ≠ caller := by
    rintro other unqueued rfl
    exact unqueued queued
  have inLine : ∀ worker, ((state.workers worker).holding ++ caller :: requestsOf rest).Sublist state.order := by
    intro worker
    have line := placed.ordered worker
    rwa [queue] at line
  have once : caller ∉ requestsOf rest := by
    have apart := (inLine worker).nodup placed.orderly
    exact (List.nodup_cons.mp (List.nodup_append.mp apart).2.1).1
  constructor
  · intro other soon
    have fresh := placed.early other soon
    rwa [Function.update_of_ne (elsewhere (by simp [fresh]))]
  · intro other
    by_cases mine : other = caller
    · subst mine
      simp [once]
    · rw [Function.update_of_ne mine,← placed.queued,queue]
      simp [requestsOf,mine]
  · intro other holder
    by_cases same : holder = worker
    · subst same
      simp only [withWorker,Function.update_self,QwenWorker.holding_collect,List.mem_append,List.mem_singleton]
      by_cases mine : other = caller
      · simp [mine]
      · rw [← holding,placed.held]
        simp [mine]
    · simp only [withWorker,Function.update_of_ne same,placed.held]
      by_cases mine : other = caller
      · subst mine
        simp [queued,Ne.symm same]
      · simp [mine]
  · intro other
    show (∃ entry ∈ state.served,other ∈ entry.1) ↔ _
    rw [placed.modelled]
    by_cases mine : other = caller
    · subst mine
      simp [queued]
    · simp [mine]
  · intro other holder member
    have there : place other = .modelled := by
      by_cases same : holder = worker
      · subst same
        simp [withWorker] at member
      · simp only [withWorker,Function.update_of_ne same] at member
        exact placed.setting other holder member
    rwa [Function.update_of_ne (elsewhere (by simp [there]))]
  · exact placed.orderly
  · intro other member
    by_cases mine : other = caller
    · subst mine
      simp
    · rw [Function.update_of_ne mine]
      exact placed.known other member
  · intro holder
    by_cases same : holder = worker
    · subst same
      simp only [withWorker,Function.update_self,QwenWorker.holding_collect]
      rw [List.append_assoc,← holding]
      exact inLine holder
    · simp only [withWorker,Function.update_of_ne same]
      exact ((List.sublist_cons_self _ _).append_left _).trans (inLine holder)
  · intro holder
    by_cases same : holder = worker
    · subst same
      simp only [withWorker,Function.update_self]
      exact QwenWorker.sized_collect (by simp) (by simpa using Nat.succ_le_of_lt room)
    · simp only [withWorker,Function.update_of_ne same]
      exact placed.sized holder
  · exact placed.batches
  · exact placed.answers
  · intro other modelled
    have there : place other = .modelled := by
      by_cases mine : other = caller
      · subst mine
        simp at modelled
      · rwa [Function.update_of_ne mine] at modelled
    refine (placed.done other there).imp_right ?_
    rintro ⟨holder,member⟩
    have unlike : holder ≠ worker := by
      rintro rfl
      simp [setting] at member
    exact ⟨holder,by simpa [withWorker,unlike] using member⟩
  · intro other done
    have there := placed.undone other done
    rwa [Function.update_of_ne (elsewhere (by simp [there]))]
  · exact placed.calm

/-- The model answers the batch of a worker. -/
theorem Placed.infer (placed : Placed settings quiet place state) {worker : Nat} {answer : QwenAnswer Wave}
    (stepped : state.infer settings worker answer = some next) : ∃ place, Placed settings quiet place next := by
  obtain ⟨batch,inferring,rfl⟩ := infer_cases stepped
  have held : ∀ {caller}, caller ∈ batch ↔ place caller = .held worker := by
    intro caller
    rw [← placed.held caller worker,inferring,QwenWorker.holding]
  have line : batch.Sublist state.order := by
    have whole := placed.ordered worker
    rw [inferring,QwenWorker.holding] at whole
    exact (List.sublist_append_left _ _).trans whole
  have apart : batch.Nodup := line.nodup placed.orderly
  have kept := fun caller => @runBatch_keeps Wave settings state.requests batch answer caller
  refine ⟨fun caller => if caller ∈ batch then .modelled else place caller,?_⟩
  have elsewhere : ∀ {caller}, (∀ holder, place caller ≠ .held holder) → caller ∉ batch := by
    rintro caller free member
    exact free worker (held.mp member)
  constructor
  · intro caller soon
    have fresh := placed.early caller soon
    simpa [elsewhere (show ∀ holder, place caller ≠ .held holder by simp [fresh])] using fresh
  · intro caller
    show caller ∈ requestsOf state.queue ↔ _
    rw [placed.queued]
    by_cases mine : caller ∈ batch
    · simp [mine,held.mp mine]
    · simp [mine]
  · intro caller holder
    by_cases same : holder = worker
    · subst same
      simp only [withWorker,Function.update_self,QwenWorker.holding_answer]
      by_cases mine : caller ∈ batch
      · simp [mine]
      · simp [mine,← held]
    · simp only [withWorker,Function.update_of_ne same,placed.held]
      by_cases mine : caller ∈ batch
      · simp [mine,held.mp mine,Ne.symm same]
      · simp [mine]
  · intro caller
    simp only [List.mem_append,List.mem_singleton,or_and_right,exists_or,exists_eq_left,placed.modelled]
    by_cases mine : caller ∈ batch
    · simp [mine]
    · simp [mine]
  · intro caller holder member
    by_cases same : holder = worker
    · subst same
      simp only [withWorker,Function.update_self,QwenWorker.setting_answer] at member
      simp [member]
    · simp only [withWorker,Function.update_of_ne same] at member
      have there := placed.setting caller holder member
      simp [there]
  · exact placed.orderly
  · intro caller member
    by_cases mine : caller ∈ batch
    · simp [mine]
    · simpa [mine] using placed.known caller member
  · intro holder
    by_cases same : holder = worker
    · subst same
      simp only [withWorker,Function.update_self,QwenWorker.holding_answer,List.nil_append]
      exact (List.sublist_append_right _ _).trans (placed.ordered holder)
    · simp only [withWorker,Function.update_of_ne same]
      exact placed.ordered holder
  · intro holder
    by_cases same : holder = worker
    · subst same
      simp only [withWorker,Function.update_self]
      exact QwenWorker.sized_answer batch
    · simp only [withWorker,Function.update_of_ne same]
      exact placed.sized holder
  · intro entry member
    rcases List.mem_append.mp member with before | now
    · exact placed.batches entry before
    · rw [List.mem_singleton.mp now]
      have sized := placed.sized worker
      rw [inferring] at sized
      exact ⟨sized.1,sized.2,line⟩
  · intro entry member position caller positioned
    rcases List.mem_append.mp member with before | now
    · -- a request is answered once
      have there : place caller = .modelled :=
        (placed.modelled caller).mp ⟨entry,before,List.mem_of_getElem? positioned⟩
      have unmoved : caller ∉ batch := elsewhere (by simp [there])
      simp only [runBatch_other unmoved answer apart]
      exact placed.answers entry before position caller positioned
    · rw [List.mem_singleton.mp now] at positioned ⊢
      rcases @runBatch_answered Wave settings state.requests batch apart position caller positioned answer with
        failed | cancelled | written
      · exact .inl failed
      · refine .inr (.inl ⟨?_,(kept caller).2.trans cancelled⟩)
        cases silent : quiet with
        | false => rfl
        | true =>
          have done := placed.undone caller (placed.calm silent caller cancelled)
          cases done.symm.trans (held.mp (List.mem_of_getElem? positioned))
      · exact .inr (.inr written)
  · intro caller modelled
    by_cases mine : caller ∈ batch
    · exact .inr ⟨worker,by simp [withWorker,mine]⟩
    · simp only [mine,if_false] at modelled
      refine (placed.done caller modelled).imp (fun done => (kept caller).1.trans done) ?_
      rintro ⟨holder,member⟩
      have unlike : holder ≠ worker := by
        rintro rfl
        simp [inferring,QwenWorker.setting] at member
      exact ⟨holder,by simpa [withWorker,unlike] using member⟩
  · intro caller done
    have there := placed.undone caller ((kept caller).1.symm.trans done)
    simp [there]
  · intro silent caller cancelled
    exact (kept caller).1.trans (placed.calm silent caller ((kept caller).2.symm.trans cancelled))

/-- A change of one request which keeps what the model has written to it. -/
theorem answers_update (placed : Placed settings quiet place state) {caller : Nat} {request : QwenRequest}
    (error : request.error = (state.requests caller).error) (pcm : request.pcm = (state.requests caller).pcm)
    (cancelled : (state.requests caller).cancelled = true → request.cancelled = true) :
    ∀ entry ∈ state.served, ∀ position other, entry.1[position]? = some other →
      Answered settings (quiet = false ∧ (Function.update state.requests caller request other).cancelled = true)
        (Function.update state.requests caller request other) entry.2 position := by
  intro entry member position other positioned
  have before := placed.answers entry member position other positioned
  by_cases mine : other = caller
  · subst mine
    rw [Function.update_self]
    unfold Answered at before ⊢
    rw [error,pcm]
    exact before.imp_right fun rest => rest.imp_left fun excused => ⟨excused.1,cancelled excused.2⟩
  · rwa [Function.update_of_ne mine]

theorem Placed.setDone (placed : Placed settings quiet place state) {worker : Nat}
    (stepped : state.setDone worker = some next) : Placed settings quiet place next := by
  obtain ⟨caller,rest,answering,rfl⟩ := setDone_cases stepped
  have shrinks : ∀ other holder, other ∈ (Function.update state.workers worker (.answer rest) holder).setting →
      other ∈ (state.workers holder).setting := by
    intro other holder member
    by_cases same : holder = worker
    · subst same
      rw [Function.update_self,QwenWorker.setting_answer] at member
      rw [answering]
      exact List.mem_cons_of_mem _ member
    · rwa [Function.update_of_ne same] at member
  have holds : ∀ holder, (Function.update state.workers worker (.answer rest) holder).holding = (state.workers holder).holding := by
    intro holder
    by_cases same : holder = worker
    · subst same
      rw [Function.update_self,QwenWorker.holding_answer,answering]
      rfl
    · rw [Function.update_of_ne same]
  constructor
  · exact placed.early
  · exact placed.queued
  · intro other holder
    simp only [withWorker,holds]
    exact placed.held other holder
  · exact placed.modelled
  · exact fun other holder member => placed.setting other holder (shrinks other holder member)
  · exact placed.orderly
  · exact placed.known
  · intro holder
    simp only [withWorker,holds]
    exact placed.ordered holder
  · intro holder
    by_cases same : holder = worker
    · subst same
      simp only [withWorker,Function.update_self]
      exact QwenWorker.sized_answer rest
    · simp only [withWorker,Function.update_of_ne same]
      exact placed.sized holder
  · exact placed.batches
  · exact answers_update placed rfl rfl id
  · intro other modelled
    by_cases mine : other = caller
    · subst mine
      simp
    · simp only [Function.update_of_ne mine]
      refine (placed.done other modelled).imp_right ?_
      rintro ⟨holder,member⟩
      by_cases same : holder = worker
      · subst same
        refine ⟨holder,?_⟩
        rw [answering] at member
        simp only [withWorker,Function.update_self,QwenWorker.setting_answer]
        exact (List.mem_cons.mp member).resolve_left mine
      · exact ⟨holder,by simpa [withWorker,same] using member⟩
  · intro other done
    by_cases mine : other = caller
    · subst mine
      exact placed.setting other worker (by simp [answering,QwenWorker.setting])
    · simp only [Function.update_of_ne mine] at done
      exact placed.undone other done
  · intro silent other cancelled
    by_cases mine : other = caller
    · subst mine
      simp
    · simp only [Function.update_of_ne mine] at cancelled ⊢
      exact placed.calm silent other cancelled

/-- A caller gives up on its request; with `quiet` only on one that is done. -/
theorem Placed.giveUp (placed : Placed settings quiet place state) {caller : Nat}
    (calm : quiet = true → (state.requests caller).done = true) (stepped : state.giveUp caller = some next) :
    Placed settings quiet place next := by
  obtain ⟨_,rfl⟩ := giveUp_cases stepped
  have same : ∀ other, (Function.update state.requests caller { state.requests caller with cancelled := true } other).done =
      (state.requests other).done := by
    intro other
    by_cases mine : other = caller
    · subst mine
      rw [Function.update_self]
    · rw [Function.update_of_ne mine]
  constructor
  · exact fun other soon => placed.early other (early_update (by rintro ⟨⟩) other soon)
  · exact placed.queued
  · exact placed.held
  · exact placed.modelled
  · exact placed.setting
  · exact placed.orderly
  · exact placed.known
  · exact placed.ordered
  · exact placed.sized
  · exact placed.batches
  · exact answers_update placed rfl rfl (fun _ => rfl)
  · intro other modelled
    rw [same]
    exact placed.done other modelled
  · intro other done
    rw [same] at done
    exact placed.undone other done
  · intro silent other cancelled
    rw [same]
    by_cases mine : other = caller
    · subst mine
      exact calm silent
    · simp only [Function.update_of_ne mine] at cancelled
      exact placed.calm silent other cancelled

/-- `start` loads the model once, and makes a thread when none lives. -/
theorem start_cases (settings : QwenSettings Wave) (state : Qwen3TTSSynthesizer Wave) (load : Except String Unit) : ∃ loaded,
    (state.start settings load).1 = { state with loaded := loaded } ∨
      state.workerLives = false ∧ (state.start settings load).1 =
        { state with loaded := loaded,workers := Function.update state.workers state.started .getting,
                     worker := some state.started,started := state.started + 1 } := by
  have loads : ∃ loaded, (state.loadModel settings load).1 = { state with loaded := loaded } := by
    unfold loadModel
    split <;> exact ⟨_,rfl⟩
  unfold Qwen3TTSSynthesizer.start
  rcases outcome : state.loadModel settings load with ⟨ready,error | ⟨⟩⟩ <;> rw [outcome] at loads <;>
    obtain ⟨loaded,rfl⟩ := loads <;> refine ⟨loaded,?_⟩
  · exact .inl rfl
  · by_cases lives : ({ state with loaded := loaded } : Qwen3TTSSynthesizer Wave).workerLives = true
    · left
      simp only
      rw [if_pos lives]
    · right
      refine ⟨Bool.eq_false_iff.mpr lives,?_⟩
      simp only
      rw [if_neg lives]
      rfl

theorem Placed.start (placed : Placed settings quiet place state) (unborn : state.workers state.started = .unstarted)
    (load : Except String Unit) : Placed settings quiet place (state.start settings load).1 := by
  obtain ⟨loaded,same | ⟨_,started⟩⟩ := start_cases settings state load
  · rw [same]
    exact placed.frame (fun _ => id) rfl rfl rfl rfl (fun worker => ⟨rfl,rfl,placed.sized worker⟩)
  · rw [started]
    exact placed.frame (fun _ => id) rfl rfl rfl rfl (placed.same (by rw [unborn]; rfl) (by rw [unborn]; rfl) trivial)

theorem streamPcm_cases {caller : Nat} {text : Text} {voice : Option Text}
    (stepped : state.streamPcm settings caller text voice = some next) : state.callers caller = .idle ∧
      ((∃ result, next = state.withCaller caller (.returned result)) ∨
        next = { state.withCaller caller .starting with requests := Function.update state.requests caller (.of text) }) := by
  unfold Qwen3TTSSynthesizer.streamPcm at stepped
  split at stepped
  · rename_i idle
    refine ⟨idle,?_⟩
    simp only at stepped
    split_ifs at stepped
    · exact .inl ⟨_,(Option.some.inj stepped).symm⟩
    · exact .inr (Option.some.inj stepped).symm
  · cases stepped

/-- A new request is the caller's own. -/
theorem Placed.streamPcm (placed : Placed settings quiet place state) {caller : Nat} {text : Text} {voice : Option Text}
    (stepped : state.streamPcm settings caller text voice = some next) : Placed settings quiet place next := by
  obtain ⟨idle,moved⟩ := streamPcm_cases stepped
  have fresh : place caller = .fresh := placed.early caller (by rw [idle]; trivial)
  have soon : ∀ stage other, (Function.update state.callers caller stage other).Early → (state.callers other).Early :=
    fun stage => early_update (fun _ => by rw [idle]; trivial)
  have elsewhere : ∀ {other}, place other ≠ .fresh → other ≠ caller := by
    rintro other known rfl
    exact known fresh
  obtain ⟨result,rfl⟩ | rfl := moved
  · exact placed.frame (soon _) rfl rfl rfl rfl (fun worker => ⟨rfl,rfl,placed.sized worker⟩)
  · constructor
    · exact fun other early => placed.early other (soon _ other early)
    · exact placed.queued
    · exact placed.held
    · exact placed.modelled
    · exact placed.setting
    · exact placed.orderly
    · exact placed.known
    · exact placed.ordered
    · exact placed.sized
    · exact placed.batches
    · intro entry member position other positioned
      have there : place other = .modelled := (placed.modelled other).mp ⟨entry,member,List.mem_of_getElem? positioned⟩
      simp only [Function.update_of_ne (elsewhere (show place other ≠ .fresh by simp [there]))]
      exact placed.answers entry member position other positioned
    · intro other modelled
      simp only [Function.update_of_ne (elsewhere (show place other ≠ .fresh by simp [modelled]))]
      exact placed.done other modelled
    · intro other done
      by_cases mine : other = caller
      · subst mine
        simp [QwenRequest.of] at done
      · simp only [Function.update_of_ne mine] at done
        exact placed.undone other done
    · intro silent other cancelled
      by_cases mine : other = caller
      · subst mine
        simp [QwenRequest.of] at cancelled
      · simp only [Function.update_of_ne mine] at cancelled ⊢
        exact placed.calm silent other cancelled

/-- No caller gives up on a request that is not done. -/
def Calm (state : Qwen3TTSSynthesizer Wave) (action : QwenAction Wave) : Prop :=
  ∀ caller, action = .giveUp caller → (state.requests caller).done = true

/-- No thread beyond those that `start` made. -/
def Born (state : Qwen3TTSSynthesizer Wave) : Prop := ∀ worker, state.started ≤ worker → state.workers worker = .unstarted

/-! ## Every step -/

/-- Steps in which only a caller or a closer goes on. -/
def Aside : QwenAction Wave → Prop
  | .putTimeout _ | .answered _ | .close _ | .joined _ | .joinTimeout _ => True
  | _ => False

theorem aside_cases (aside : Aside action) (stepped : state.step settings action = some next) : ∃ callers closers,
    next = { state with callers := callers,closers := closers } ∧ ∀ caller, (callers caller).Early → (state.callers caller).Early := by
  have caller : ∀ caller stage, (stage.Early → (state.callers caller).Early) → ∃ callers closers,
      state.withCaller caller stage = { state with callers := callers,closers := closers } ∧
        ∀ other, (callers other).Early → (state.callers other).Early :=
    fun caller stage later => ⟨_,_,rfl,early_update later⟩
  have closer : ∀ closer stage, ∃ callers closers,
      state.withCloser closer stage = { state with callers := callers,closers := closers } ∧
        ∀ other, (callers other).Early → (state.callers other).Early :=
    fun closer stage => ⟨_,_,rfl,fun _ => id⟩
  cases action <;> try exact aside.elim
  case putTimeout number =>
    simp only [Qwen3TTSSynthesizer.step,Qwen3TTSSynthesizer.putTimeout] at stepped
    split at stepped
    · split_ifs at stepped
      cases stepped
      exact caller _ _ (by rintro ⟨⟩)
    · cases stepped
  case answered number =>
    simp only [Qwen3TTSSynthesizer.step,Qwen3TTSSynthesizer.answered] at stepped
    split at stepped
    · split_ifs at stepped
      cases stepped
      exact caller _ _ (by rintro ⟨⟩)
    · cases stepped
  case close number =>
    simp only [Qwen3TTSSynthesizer.step,Qwen3TTSSynthesizer.close] at stepped
    split at stepped
    · split at stepped
      · cases stepped
        exact closer _ _
      · split_ifs at stepped <;> cases stepped <;> exact closer _ _
    · cases stepped
  case joined number =>
    simp only [Qwen3TTSSynthesizer.step,Qwen3TTSSynthesizer.joined] at stepped
    split at stepped
    · split_ifs at stepped
      cases stepped
      exact closer _ _
    · cases stepped
  case joinTimeout number =>
    simp only [Qwen3TTSSynthesizer.step,Qwen3TTSSynthesizer.joinTimeout] at stepped
    split at stepped <;> cases stepped
    exact closer _ _

/-- A step which makes no thread moves one worker that was started, or none. -/
theorem born_update (born : Born state) {worker : Nat} {stage : QwenWorker} (lives : state.workers worker ≠ .unstarted) :
    Born { state with workers := Function.update state.workers worker stage } := by
  intro other late
  have unlike : other ≠ worker := by
    rintro rfl
    exact lives (born _ late)
  exact (Function.update_of_ne unlike _ _).trans (born other late)

theorem Born.start (born : Born state) (load : Except String Unit) : Born (state.start settings load).1 := by
  obtain ⟨loaded,same | ⟨_,started⟩⟩ := start_cases settings state load
  · rw [same]
    exact born
  · rw [started]
    intro worker late
    have unlike : worker ≠ state.started := by
      rintro rfl
      exact Nat.not_succ_le_self _ late
    exact (Function.update_of_ne unlike _ _).trans (born worker (Nat.le_of_succ_le late))

theorem startFor_cases {caller : Nat} {load : Except String Unit} (stepped : state.startFor settings caller load = some next) :
    ∃ stage, next = (state.start settings load).1.withCaller caller stage ∧ (stage.Early → (state.callers caller).Early) := by
  unfold startFor at stepped
  split at stepped
  · rename_i starting
    split at stepped <;> rename_i started <;> cases stepped
    · exact ⟨_,by rw [started],fun _ => by rw [starting]; trivial⟩
    · exact ⟨_,by rw [started],fun _ => by rw [starting]; trivial⟩
  · cases stepped

/-- A worker stays as it is, or was started and goes on. -/
theorem Born.step (born : Born state) (stepped : state.step settings action = some next) : Born next := by
  cases action with
  | start load =>
    cases stepped
    exact born.start load
  | startFor caller load =>
    obtain ⟨stage,rfl,_⟩ := startFor_cases stepped
    exact (show Born (state.start settings load).1 from born.start load)
  | get worker =>
    obtain ⟨_,_,_,⟨_,stage,rfl⟩ | ⟨_,_,stage,rfl⟩ | ⟨_,_,_,⟨stage,_⟩ | stage,rfl⟩⟩ := get_cases stepped
    all_goals exact born_update born (by simp [stage])
  | expire worker =>
    obtain ⟨_,stage,rfl⟩ := expire_cases stepped
    exact born_update born (by simp [stage])
  | restore worker =>
    obtain ⟨_,stage,rfl⟩ := restore_cases stepped
    exact born_update born (by simp [stage])
  | infer worker answer =>
    obtain ⟨_,stage,rfl⟩ := infer_cases stepped
    exact born_update born (by simp [stage])
  | setDone worker =>
    obtain ⟨_,_,stage,rfl⟩ := setDone_cases stepped
    exact born_update born (by simp [stage])
  | putTimeout | answered | close | joined | joinTimeout =>
    obtain ⟨callers,closers,rfl,_⟩ := aside_cases (by simp [Aside]) stepped
    exact born
  | streamPcm caller text voice =>
    obtain ⟨_,⟨result,rfl⟩ | rfl⟩ := streamPcm_cases stepped
    · exact born
    · exact born
  | put caller =>
    obtain ⟨_,rfl⟩ := put_cases stepped
    exact born
  | giveUp caller =>
    obtain ⟨_,rfl⟩ := giveUp_cases stepped
    exact born
  | putStop closer =>
    obtain ⟨_,_,rfl⟩ := putStop_cases stepped
    exact born
  | forget closer =>
    obtain ⟨_,rfl⟩ := forget_cases stepped
    exact born

theorem Placed.step (placed : Placed settings quiet place state) (born : Born state)
    (calm : quiet = true → Calm state action) (stepped : state.step settings action = some next) :
    ∃ place, Placed settings quiet place next := by
  cases action with
  | streamPcm caller text voice => exact ⟨place,placed.streamPcm stepped⟩
  | put caller => exact placed.put stepped
  | giveUp caller => exact ⟨place,placed.giveUp (fun silent => calm silent caller rfl) stepped⟩
  | infer worker answer => exact placed.infer stepped
  | setDone worker => exact ⟨place,placed.setDone stepped⟩
  | putTimeout | answered | close | joined | joinTimeout =>
    obtain ⟨callers,closers,rfl,later⟩ := aside_cases (by simp [Aside]) stepped
    exact ⟨place,placed.frame later rfl rfl rfl rfl (fun worker => ⟨rfl,rfl,placed.sized worker⟩)⟩
  | start load =>
    cases stepped
    exact ⟨place,placed.start (born _ (Nat.le_refl _)) load⟩
  | startFor caller load =>
    obtain ⟨stage,rfl,later⟩ := startFor_cases stepped
    have kept := placed.start (born _ (Nat.le_refl _)) load
    refine ⟨place,kept.frame (early_update fun early => ?_) rfl rfl rfl rfl (fun worker => ⟨rfl,rfl,kept.sized worker⟩)⟩
    obtain ⟨loaded,same | ⟨_,started⟩⟩ := start_cases settings state load
    · rw [same]
      exact later early
    · rw [started]
      exact later early
  | putStop closer =>
    obtain ⟨_,_,rfl⟩ := putStop_cases stepped
    exact ⟨place,placed.frame (fun _ => id) (by simp [requestsOf_append,requestsOf]) rfl rfl rfl
      (fun worker => ⟨rfl,rfl,placed.sized worker⟩)⟩
  | forget closer =>
    obtain ⟨_,rfl⟩ := forget_cases stepped
    exact ⟨place,placed.frame (fun _ => id) rfl rfl rfl rfl (fun worker => ⟨rfl,rfl,placed.sized worker⟩)⟩
  | get worker =>
    have sized := placed.sized worker
    obtain ⟨_,_,queue,⟨rfl,stage,rfl⟩ | ⟨batch,rfl,stage,rfl⟩ | ⟨_,batch,rfl,⟨stage,rfl⟩ | stage,rfl⟩⟩ := get_cases stepped <;>
      rw [stage] at sized
    · exact ⟨place,placed.frame (fun _ => id) (by rw [queue]; rfl) rfl rfl rfl
        (placed.same (by rw [stage]; rfl) (by rw [stage]; rfl) trivial)⟩
    · exact ⟨place,placed.frame (fun _ => id) (by rw [queue]; rfl) rfl rfl rfl
        (placed.same (by rw [stage]; rfl) (by rw [stage]; rfl) sized)⟩
    · exact ⟨_,placed.takes queue (show (state.workers worker).holding = [] by rw [stage]; rfl) (by rw [stage]; rfl) settings.batchSize_pos⟩
    · exact ⟨_,placed.takes queue (by rw [stage]; rfl) (by rw [stage]; rfl) sized.2⟩
  | expire worker =>
    have sized := placed.sized worker
    obtain ⟨_,stage,rfl⟩ := expire_cases stepped
    rw [stage] at sized
    exact ⟨place,placed.frame (fun _ => id) rfl rfl rfl rfl
      (placed.same (by rw [stage]; rfl) (by rw [stage]; rfl) ⟨sized.1,Nat.le_of_lt sized.2⟩)⟩
  | restore worker =>
    have sized := placed.sized worker
    obtain ⟨_,stage,rfl⟩ := restore_cases stepped
    rw [stage] at sized
    exact ⟨place,placed.frame (fun _ => id) (by simp [requestsOf_append,requestsOf]) rfl rfl rfl
      (placed.same (by rw [stage]; rfl) (by rw [stage]; rfl) ⟨sized.1,Nat.le_of_lt sized.2⟩)⟩

/-- A worker thread lives. -/
def Serves (state : Qwen3TTSSynthesizer Wave) : Prop := ∃ worker, (state.workers worker).Lives

/-- `_STOP` is on the queue, or a worker has taken it and is to put it back. -/
def Told (state : Qwen3TTSSynthesizer Wave) : Prop :=
  .stop ∈ state.queue ∨ ∃ worker batch, state.workers worker = .restoring batch

/-- A request or `_STOP` is put while a worker lives that was not told to stop, and `close` drops
    `_worker` when no worker lives. -/
def Orderly (state : Qwen3TTSSynthesizer Wave) (action : QwenAction Wave) : Prop :=
  ((∃ caller, action = .put caller) ∨ (∃ closer, action = .putStop closer) → Serves state ∧ ¬Told state) ∧
  ((∃ closer, action = .forget closer) → ¬Serves state)

/-- A request waits on the queue and no worker can take it: all have exited, or wait for room on
    the queue to put `_STOP` back. -/
def Stranded (settings : QwenSettings Wave) (state : Qwen3TTSSynthesizer Wave) : Prop :=
  ∃ caller, .request caller ∈ state.queue ∧ (state.requests caller).done = false ∧
    (state.requests caller).cancelled = false ∧ ∀ worker, (state.workers worker).Lives →
      (∃ batch, state.workers worker = .restoring batch) ∧ settings.queueSize ≤ state.queue.length

structure Served (state : Qwen3TTSSynthesizer Wave) : Prop where
  owner : ∀ worker, (state.workers worker).Lives → state.worker = some worker
  waits : state.queue ≠ [] → Serves state
  last : .stop ∉ state.queue.dropLast
  restoring : ∀ worker batch, state.workers worker = .restoring batch → state.queue = []

theorem initial_served : Served (initial : Qwen3TTSSynthesizer Wave) := by
  constructor <;> simp [initial,QwenWorker.Lives]

namespace Served

theorem alone (served : Served state) {first second : Nat} (lives : (state.workers first).Lives)
    (also : (state.workers second).Lives) : first = second :=
  Option.some.inj ((served.owner first lives).symm.trans (served.owner second also))

theorem unstranded (served : Served state) : ¬Stranded settings state := by
  rintro ⟨caller,queued,_,_,stuck⟩
  obtain ⟨worker,lives⟩ := served.waits (List.ne_nil_of_mem queued)
  obtain ⟨⟨batch,restoring⟩,_⟩ := stuck worker lives
  rw [served.restoring worker batch restoring] at queued
  cases queued

/-- What is behind `_STOP` on the queue. -/
theorem behind (served : Served state) {rest : List QueueItem} (queue : state.queue = .stop :: rest) : rest = [] := by
  cases rest with
  | nil => rfl
  | cons item rest =>
    refine absurd ?_ served.last
    rw [queue]
    exact List.mem_cons_self ..

theorem last_tail {item : QueueItem} {rest : List QueueItem} (last : .stop ∉ (item :: rest).dropLast) : .stop ∉ rest.dropLast := by
  cases rest with
  | nil => simp
  | cons second rest => exact fun member => last (List.mem_cons_of_mem _ member)

/-- Nothing moves but callers, closers and requests. -/
theorem frame (served : Served state) (queue : next.queue = state.queue) (workers : next.workers = state.workers)
    (worker : next.worker = state.worker) : Served next := by
  obtain ⟨owner,waits,last,restoring⟩ := served
  constructor
  · rw [workers,worker]
    exact owner
  · unfold Serves
    rw [queue,workers]
    exact waits
  · rw [queue]
    exact last
  · rw [workers,queue]
    exact restoring

/-- An item is put behind the requests while a worker serves them. -/
theorem puts (served : Served state) (serves : Serves state) (untold : ¬Told state) (item : QueueItem)
    (queue : next.queue = state.queue ++ [item]) (workers : next.workers = state.workers)
    (worker : next.worker = state.worker) : Served next := by
  constructor
  · rw [workers,worker]
    exact served.owner
  · intro _
    unfold Serves
    rw [workers]
    exact serves
  · rw [queue,List.dropLast_concat]
    exact fun member => untold (.inl member)
  · rw [workers]
    exact fun holder batch restoring => absurd (.inr ⟨holder,batch,restoring⟩) untold

/-- A living worker goes on, and takes what it takes from the front of the queue. -/
theorem goes (served : Served state) {worker : Nat} (stage : QwenWorker) (queue : List QueueItem)
    (lives : (state.workers worker).Lives) (still : stage.Lives) (last : .stop ∉ queue.dropLast)
    (restoring : ∀ batch, stage = .restoring batch → queue = []) :
    Served { state.withWorker worker stage with queue := queue } := by
  have living : ∀ other, (Function.update state.workers worker stage other).Lives → other = worker := by
    intro other alive
    by_contra unlike
    rw [Function.update_of_ne unlike] at alive
    exact unlike (served.alone alive lives)
  constructor
  · intro other alive
    rw [living other alive]
    exact served.owner worker lives
  · exact fun _ => ⟨worker,by simpa [withWorker] using still⟩
  · exact last
  · intro other batch stands
    have mine : other = worker := living other (show (Function.update state.workers worker stage other).Lives by
      rw [show Function.update state.workers worker stage other = .restoring batch from stands]
      trivial)
    subst mine
    exact restoring batch (by simpa [withWorker] using stands)

theorem start (served : Served state) (load : Except String Unit) : Served (state.start settings load).1 := by
  obtain ⟨loaded,same | ⟨idle,started⟩⟩ := start_cases settings state load
  · rw [same]
    exact served.frame rfl rfl rfl
  · have dead : ∀ worker, ¬(state.workers worker).Lives := by
      intro worker lives
      have owner := served.owner worker lives
      simp [workerLives,owner,lives] at idle
    have empty : state.queue = [] := by
      by_contra some
      obtain ⟨worker,lives⟩ := served.waits some
      exact dead worker lives
    have living : ∀ other, (Function.update state.workers state.started .getting other).Lives → other = state.started := by
      intro other alive
      by_contra unlike
      rw [Function.update_of_ne unlike] at alive
      exact dead other alive
    rw [started]
    constructor
    · intro other alive
      rw [living other alive]
    · exact fun some => absurd empty some
    · exact served.last
    · exact fun _ _ _ => empty

theorem step (served : Served state) (orderly : Orderly state action) (stepped : state.step settings action = some next) :
    Served next := by
  cases action with
  | putTimeout | answered | close | joined | joinTimeout =>
    obtain ⟨callers,closers,rfl,_⟩ := aside_cases (by simp [Aside]) stepped
    exact served.frame rfl rfl rfl
  | streamPcm caller text voice =>
    obtain ⟨_,⟨result,rfl⟩ | rfl⟩ := streamPcm_cases stepped
    · exact served.frame rfl rfl rfl
    · exact served.frame rfl rfl rfl
  | start load =>
    cases stepped
    exact served.start load
  | startFor caller load =>
    obtain ⟨stage,rfl,_⟩ := startFor_cases stepped
    exact (show Served (state.start settings load).1 from served.start load).frame rfl rfl rfl
  | put caller =>
    obtain ⟨serves,untold⟩ := orderly.1 (.inl ⟨caller,rfl⟩)
    obtain ⟨_,rfl⟩ := put_cases stepped
    exact served.puts serves untold _ rfl rfl rfl
  | putStop closer =>
    obtain ⟨serves,untold⟩ := orderly.1 (.inr ⟨closer,rfl⟩)
    obtain ⟨_,_,rfl⟩ := putStop_cases stepped
    exact served.puts serves untold _ rfl rfl rfl
  | giveUp caller =>
    obtain ⟨_,rfl⟩ := giveUp_cases stepped
    exact served.frame rfl rfl rfl
  | forget closer =>
    have dead := orderly.2 ⟨closer,rfl⟩
    obtain ⟨_,rfl⟩ := forget_cases stepped
    exact ⟨fun worker lives => absurd ⟨worker,lives⟩ dead,served.waits,served.last,served.restoring⟩
  | get worker =>
    obtain ⟨_,rest,queue,⟨rfl,stage,rfl⟩ | ⟨batch,rfl,stage,rfl⟩ | ⟨taken,batch,rfl,stage,rfl⟩⟩ := get_cases stepped
    · -- the queue is empty when the worker exits
      have empty := served.behind queue
      have lives : (state.workers worker).Lives := by rw [stage]; trivial
      have dead : ∀ other, ¬(Function.update state.workers worker .exited other).Lives := by
        intro other alive
        by_cases mine : other = worker
        · subst mine
          simp [QwenWorker.Lives] at alive
        · rw [Function.update_of_ne mine] at alive
          exact mine (served.alone alive lives)
      refine ⟨fun other alive => absurd alive (dead other),fun some => absurd empty some,?_,fun _ _ _ => empty⟩
      simp [empty]
    · refine served.goes _ _ (by rw [stage]; trivial) trivial ?_ (fun _ _ => served.behind queue)
      simp [served.behind queue]
    · have lives : (state.workers worker).Lives := by rcases stage with ⟨stage,_⟩ | stage <;> rw [stage] <;> trivial
      refine served.goes _ _ lives (by unfold QwenWorker.collect; split_ifs <;> trivial) ?_ ?_
      · exact last_tail (queue ▸ served.last)
      · intro batch restoring
        unfold QwenWorker.collect at restoring
        split_ifs at restoring
  | expire worker =>
    obtain ⟨_,stage,rfl⟩ := expire_cases stepped
    exact served.goes _ state.queue (by rw [stage]; trivial) trivial served.last (by rintro _ ⟨⟩)
  | restore worker =>
    obtain ⟨_,stage,rfl⟩ := restore_cases stepped
    exact served.goes _ _ (by rw [stage]; trivial) trivial (by simp [served.restoring worker _ stage]) (by rintro _ ⟨⟩)
  | infer worker answer =>
    obtain ⟨batch,stage,rfl⟩ := infer_cases stepped
    have gone := served.goes (.answer batch) state.queue (by rw [stage]; trivial)
      (by cases batch <;> trivial) served.last (by cases batch <;> rintro _ ⟨⟩)
    exact gone.frame rfl rfl rfl
  | setDone worker =>
    obtain ⟨_,rest,stage,rfl⟩ := setDone_cases stepped
    have gone := served.goes (.answer rest) state.queue (by rw [stage]; trivial)
      (by cases rest <;> trivial) served.last (by cases rest <;> rintro _ ⟨⟩)
    exact gone.frame rfl rfl rfl

end Served
/-- The worker has taken the request, and its `done` is still to be set. -/
def InHands (state : Qwen3TTSSynthesizer Wave) (worker caller : Nat) : Prop :=
  caller ∈ (state.workers worker).holding ∨ caller ∈ (state.workers worker).setting

/-- The worker can take a step towards having set every `done`, and no step leads it away. -/
def Progresses (settings : QwenSettings Wave) (state : Qwen3TTSSynthesizer Wave) (worker : Nat) : Prop :=
  (∃ action next, state.step settings action = some next ∧
    (next.workers worker).left settings < (state.workers worker).left settings) ∧
  ∀ action next, state.step settings action = some next →
    (next.workers worker).left settings ≤ (state.workers worker).left settings

/-- One worker goes on to a stage with less left. -/
theorem left_update {workers : Nat → QwenWorker} {mover : Nat} {stage : QwenWorker}
    (lower : stage.left settings ≤ (workers mover).left settings) (worker : Nat) :
    (Function.update workers mover stage worker).left settings ≤ (workers worker).left settings := by
  by_cases mine : worker = mover
  · subst mine
    rwa [Function.update_self]
  · exact Nat.le_of_eq (by rw [Function.update_of_ne mine])

theorem left_collect {batch : List Nat} {caller : Nat} (room : batch.length < settings.batchSize) :
    (QwenWorker.collect settings (batch ++ [caller])).left settings ≤ 2 * settings.batchSize + 3 - batch.length := by
  unfold QwenWorker.collect
  split_ifs <;> simp only [QwenWorker.left,List.length_append,List.length_singleton] <;> omega

theorem left_answer (rest : List Nat) : (QwenWorker.answer rest).left settings = rest.length := by cases rest <;> rfl

/-- A worker with something in its hands does not fall behind. -/
theorem step_left (placed : Placed settings quiet place state) (born : Born state) {worker caller : Nat}
    (hands : InHands state worker caller) (stepped : state.step settings action = some next) :
    (next.workers worker).left settings ≤ (state.workers worker).left settings := by
  have known : state.workers worker ≠ .unstarted ∧ state.workers worker ≠ .getting := by
    constructor <;> intro stage <;> simp [InHands,stage,QwenWorker.holding,QwenWorker.setting] at hands
  have starts : ∀ load, ((state.start settings load).1.workers worker).left settings ≤ (state.workers worker).left settings := by
    intro load
    obtain ⟨loaded,same | ⟨_,started⟩⟩ := start_cases settings state load
    · exact Nat.le_of_eq (by rw [same])
    · have unlike : worker ≠ state.started := by
        rintro rfl
        exact known.1 (born _ (Nat.le_refl _))
      rw [started]
      simp only [Function.update_of_ne unlike]
      exact Nat.le_refl _
  cases action with
  | putTimeout | answered | close | joined | joinTimeout =>
    obtain ⟨callers,closers,rfl,_⟩ := aside_cases (by simp [Aside]) stepped
    exact Nat.le_refl _
  | streamPcm caller text voice =>
    obtain ⟨_,⟨result,rfl⟩ | rfl⟩ := streamPcm_cases stepped
    · exact Nat.le_refl _
    · exact Nat.le_refl _
  | start load =>
    cases stepped
    exact starts load
  | startFor caller load =>
    obtain ⟨stage,rfl,_⟩ := startFor_cases stepped
    exact starts load
  | put caller =>
    obtain ⟨_,rfl⟩ := put_cases stepped
    exact Nat.le_refl _
  | putStop closer =>
    obtain ⟨_,_,rfl⟩ := putStop_cases stepped
    exact Nat.le_refl _
  | giveUp caller =>
    obtain ⟨_,rfl⟩ := giveUp_cases stepped
    exact Nat.le_refl _
  | forget closer =>
    obtain ⟨_,rfl⟩ := forget_cases stepped
    exact Nat.le_refl _
  | get mover =>
    have sized := placed.sized mover
    obtain ⟨_,_,_,⟨_,stage,rfl⟩ | ⟨_,_,stage,rfl⟩ | ⟨_,_,_,⟨stage,_⟩ | stage,rfl⟩⟩ := get_cases stepped <;> rw [stage] at sized
    · exact left_update (by simp [QwenWorker.left]) worker
    · refine left_update ?_ worker
      have few := sized.2
      rw [stage]
      simp only [QwenWorker.left]
      omega
    · have unlike : worker ≠ mover := by
        rintro rfl
        exact known.2 stage
      simp only [withWorker,Function.update_of_ne unlike]
      exact Nat.le_refl _
    · refine left_update ?_ worker
      rw [stage]
      exact left_collect sized.2
  | expire mover =>
    have sized := placed.sized mover
    obtain ⟨_,stage,rfl⟩ := expire_cases stepped
    rw [stage] at sized
    refine left_update ?_ worker
    have few := sized.2
    rw [stage]
    simp only [QwenWorker.left]
    omega
  | restore mover =>
    obtain ⟨_,stage,rfl⟩ := restore_cases stepped
    refine left_update ?_ worker
    rw [stage]
    simp [QwenWorker.left]
  | infer mover answer =>
    have sized := placed.sized mover
    obtain ⟨_,stage,rfl⟩ := infer_cases stepped
    rw [stage] at sized
    refine left_update ?_ worker
    rw [left_answer,stage]
    exact Nat.le_succ_of_le sized.2
  | setDone mover =>
    obtain ⟨_,_,stage,rfl⟩ := setDone_cases stepped
    refine left_update ?_ worker
    rw [left_answer,stage]
    simp [QwenWorker.left]

/-- While the workers are served in order, one with something in its hands is never stuck. -/
theorem progresses (placed : Placed settings quiet place state) (born : Born state) (served : Served state)
    {worker caller : Nat} (hands : InHands state worker caller) : Progresses settings state worker := by
  refine ⟨?_,fun action next stepped => step_left placed born hands stepped⟩
  have sized := placed.sized worker
  cases stage : state.workers worker with
  | unstarted | getting | exited => simp [InHands,stage,QwenWorker.holding,QwenWorker.setting] at hands
  | collecting batch =>
    rw [stage] at sized
    refine ⟨.expire worker,_,by simp only [Qwen3TTSSynthesizer.step,Qwen3TTSSynthesizer.expire,stage]; rfl,?_⟩
    have few := sized.2
    simp only [withWorker,Function.update_self,QwenWorker.left]
    omega
  | restoring batch =>
    have room : state.queue.length < settings.queueSize := by
      rw [served.restoring worker batch stage]
      exact settings.queueSize_pos
    refine ⟨.restore worker,_,by simp only [Qwen3TTSSynthesizer.step,Qwen3TTSSynthesizer.restore,stage,if_pos room]; rfl,?_⟩
    simp [withWorker,QwenWorker.left]
  | inferring batch =>
    rw [stage] at sized
    refine ⟨.infer worker (.error ""),_,by simp only [Qwen3TTSSynthesizer.step,Qwen3TTSSynthesizer.infer,stage]; rfl,?_⟩
    simp only [withWorker,Function.update_self,left_answer]
    exact Nat.lt_succ_of_le sized.2
  | answering rest =>
    cases rest with
    | nil => simp [InHands,stage,QwenWorker.holding,QwenWorker.setting] at hands
    | cons caller rest =>
      refine ⟨.setDone worker,_,by simp only [Qwen3TTSSynthesizer.step,Qwen3TTSSynthesizer.setDone,stage]; rfl,?_⟩
      simp only [withWorker,Function.update_self,left_answer]
      exact Nat.lt_succ_self _

/-! ## Runs -/

theorem reached_placed {quiet : Bool} {actions : List (QwenAction Wave)}
    (along : quiet = true → Machine.Along (step settings) Calm initial actions)
    (ran : Machine.run (step settings) initial actions = some state) :
    (∃ place, Placed settings quiet place state) ∧ Born state := by
  have calm : Machine.Along (step settings) (fun state action => quiet = true → Calm state action) initial actions := by
    cases quiet with
    | true => exact (along rfl).mono (step settings) fun _ _ calm _ => calm
    | false => exact (Machine.along_true (step settings) initial actions).mono (step settings) fun _ _ _ => by rintro ⟨⟩
  refine Machine.invariant_along (step settings) (fun state => (∃ place, Placed settings quiet place state) ∧ Born state)
    ?_ ⟨⟨_,initial_placed settings quiet⟩,fun _ _ => rfl⟩ calm ran
  rintro state action next ⟨⟨place,placed⟩,born⟩ calm stepped
  exact ⟨placed.step born calm stepped,born.step stepped⟩

theorem reached_served {actions : List (QwenAction Wave)} (along : Machine.Along (step settings) Orderly initial actions)
    (ran : Machine.run (step settings) initial actions = some state) : Served state :=
  Machine.invariant_along (step settings) Served (fun _ _ _ served orderly stepped => served.step orderly stepped)
    initial_served along ran

/-- Every batch is of the size and in the order of the queue, and every request that was taken is done or
    in the hands of a worker. It is answered with an error or its own waveform unless its caller gave up
    on it. While nothing is put behind `_STOP` and `close` drops only an ended worker, no request is
    stranded, one worker serves, and it is never stuck. -/
theorem requests_served (settings : QwenSettings Wave) (actions : List (QwenAction Wave)) (state : Qwen3TTSSynthesizer Wave)
    (ran : Machine.run (step settings) initial actions = some state) :
    (∀ entry ∈ state.served, 0 < entry.1.length ∧ entry.1.length ≤ settings.batchSize ∧ entry.1.Sublist state.order) ∧
    (∀ caller ∈ state.order, .request caller ∉ state.queue →
      (state.requests caller).done = true ∨ ∃ worker, InHands state worker caller) ∧
    (∀ entry ∈ state.served, ∀ position caller, entry.1[position]? = some caller →
      Answered settings ((state.requests caller).cancelled = true) (state.requests caller) entry.2 position) ∧
    (Machine.Along (step settings) Calm initial actions → ∀ entry ∈ state.served, ∀ position caller,
      entry.1[position]? = some caller → Answered settings False (state.requests caller) entry.2 position) ∧
    (Machine.Along (step settings) Orderly initial actions → ¬Stranded settings state ∧
      (∀ first second, (state.workers first).Lives → (state.workers second).Lives → first = second) ∧
      ∀ worker caller, InHands state worker caller → Progresses settings state worker) := by
  obtain ⟨⟨place,placed⟩,born⟩ := @reached_placed Wave settings state false actions (by rintro ⟨⟩) ran
  refine ⟨placed.batches,?_,?_,?_,?_⟩
  · intro caller ordered unqueued
    cases stands : place caller with
    | fresh => exact absurd stands (placed.known caller ordered)
    | queued => exact absurd (mem_requestsOf.mp ((placed.queued caller).mpr stands)) unqueued
    | held worker => exact .inr ⟨worker,.inl ((placed.held caller worker).mpr stands)⟩
    | modelled => exact (placed.done caller stands).imp_right fun ⟨worker,member⟩ => ⟨worker,.inr member⟩
  · intro entry member position caller positioned
    exact (placed.answers entry member position caller positioned).imp_right fun rest => rest.imp_left (·.2)
  · intro calm entry member position caller positioned
    obtain ⟨⟨place,placed⟩,_⟩ := @reached_placed Wave settings state true actions (fun _ => calm) ran
    refine (placed.answers entry member position caller positioned).imp_right fun rest => rest.imp_left ?_
    rintro ⟨⟨⟩,_⟩
  · intro orderly
    have served := reached_served orderly ran
    exact ⟨served.unstranded,fun _ _ => served.alone,fun worker caller => progresses placed born served⟩

/-- Batches of two, a queue of one, and a model whose waveforms are samples already. -/
def exampleQwen : QwenSettings Pcm := ⟨2,1,24000,['v'],"qwen",Nat.two_pos,Nat.one_pos,.ok⟩

/-- One request is answered, and the synthesizer is closed. -/
def answeredActions : List (QwenAction Pcm) :=
  [.start (.ok ()),.streamPcm 0 ['a'] none,.startFor 0 (.ok ()),.put 0,.get 0,.expire 0,.infer 0 (.ok ([[1,0]],24000)),
    .setDone 0,.answered 0,.close 0,.putStop 0,.get 0,.joined 0,.forget 0]

theorem requests_served_answered : ∃ state, Machine.run (step exampleQwen) initial answeredActions = some state ∧
    (∀ entry ∈ state.served, ∀ position caller, entry.1[position]? = some caller →
      Answered exampleQwen False (state.requests caller) entry.2 position) ∧ ¬Stranded exampleQwen state := by
  have calm : Machine.Along (step exampleQwen) Calm initial answeredActions := by
    have checked : Machine.check (step exampleQwen) (fun _ action => match action with | .giveUp _ => false | _ => true)
        initial answeredActions = true := by decide
    refine (Machine.along_of_check (step exampleQwen) checked).mono (step exampleQwen) ?_
    rintro state action quiet caller rfl
    cases quiet
  have orderly : Machine.Along (step exampleQwen) Orderly initial answeredActions := by
    have checked : Machine.check (step exampleQwen) (fun state action => decide (state.started ≤ 1) && match action with
        | .put _ | .putStop _ => decide (state.workers 0 = .getting ∧ .stop ∉ state.queue)
        | .forget _ => decide (¬(state.workers 0).Lives)
        | _ => true) initial answeredActions = true := by decide
    have born := Machine.along_of_invariant (step exampleQwen)
      (fun _ _ _ born stepped => Born.step born stepped) (show Born (initial : Qwen3TTSSynthesizer Pcm) from fun _ _ => rfl)
      answeredActions
    refine ((Machine.along_of_check (step exampleQwen) checked).and (step exampleQwen) born).mono (step exampleQwen) ?_
    rintro state action ⟨quiet,born⟩
    obtain ⟨few,quiet⟩ := Bool.and_eq_true_iff.mp quiet
    have others : ∀ worker, worker ≠ 0 → state.workers worker = .unstarted := by
      intro worker unlike
      have late : state.started ≤ 1 := of_decide_eq_true few
      exact born worker (by omega)
    have untold : state.workers 0 = .getting ∧ .stop ∉ state.queue → Serves state ∧ ¬Told state := by
      rintro ⟨getting,unstopped⟩
      refine ⟨⟨0,by rw [getting]; trivial⟩,?_⟩
      rintro (stopped | ⟨worker,batch,restoring⟩)
      · exact unstopped stopped
      · by_cases first : worker = 0
        · subst first
          cases getting.symm.trans restoring
        · cases (others worker first).symm.trans restoring
    constructor
    · rintro (⟨caller,rfl⟩ | ⟨closer,rfl⟩)
      · exact untold (of_decide_eq_true quiet)
      · exact untold (of_decide_eq_true quiet)
    · rintro ⟨closer,rfl⟩ ⟨worker,lives⟩
      by_cases first : worker = 0
      · subst first
        exact of_decide_eq_true quiet lives
      · rw [others worker first] at lives
        exact lives
  exact ⟨_,rfl,(requests_served exampleQwen answeredActions _ rfl).2.2.2.1 calm,
    ((requests_served exampleQwen answeredActions _ rfl).2.2.2.2 orderly).1⟩

/-- `_STOP` is taken out of the full queue, another request takes its place, and the worker waits for room. -/
def restoringActions : List (QwenAction Pcm) :=
  [.start (.ok ()),.streamPcm 0 ['a'] none,.startFor 0 (.ok ()),.put 0,.get 0,.close 0,.putStop 0,
    .streamPcm 1 ['b'] none,.startFor 1 (.ok ()),.get 0,.put 1]

/-- `close` waits ten seconds for a busy worker, and the next `start` makes a second one. -/
def secondWorkerActions : List (QwenAction Pcm) :=
  [.start (.ok ()),.streamPcm 0 ['a'] none,.startFor 0 (.ok ()),.put 0,.get 0,.expire 0,.close 0,.putStop 0,
    .joinTimeout 0,.forget 0,.start (.ok ())]

theorem request_stranded :
    (∃ state, Machine.run (step exampleQwen) initial restoringActions = some state ∧ Stranded exampleQwen state) ∧
    ∃ state, Machine.run (step exampleQwen) initial secondWorkerActions = some state ∧
      (state.workers 0).Lives ∧ (state.workers 1).Lives := by
  refine ⟨⟨_,rfl,1,by decide,rfl,rfl,?_⟩,_,rfl,trivial,trivial⟩
  intro worker lives
  by_cases first : worker = 0
  · subst first
    exact ⟨⟨[0],rfl⟩,by decide⟩
  · have born := (@reached_placed Pcm exampleQwen _ false restoringActions (by rintro ⟨⟩) rfl).2
    rw [born worker (show 1 ≤ worker by omega)] at lives
    exact lives.elim

end Qwen3TTSSynthesizer
end SpeechGateway
