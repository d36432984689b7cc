import SpeechGateway.Values
import SpeechGateway.Fairness
import Mathlib.Tactic.SplitIfs

/-!
`_stream_pcm_in_thread`: a producer thread walks through `synthesizer.stream_pcm` and puts its
chunks on a queue of size two, from which the asynchronous generator takes them with one
executor call of `items.get` at a time. The generator may be closed at its `yield` and
cancelled at each `await`; a cancelled `items.get` stays behind when its thread already runs.
-/
namespace SpeechGateway

/-- What `synthesizer.stream_pcm` yields, and the text of the exception that ends it. -/
structure Synthesis where
  chunks : List Pcm
  failure : Option String
  deriving DecidableEq, Repr

/-- `items` holds chunks, one `_StreamFailure` and `_STREAM_END`. -/
inductive StreamItem
  | chunk (pcm : Pcm)
  | streamFailure (error : String)
  | streamEnd
  deriving DecidableEq, Repr

/-- Where the thread of `produce` stands. `putting` is before the test of `stopped` in `put`,
    `trying` in `items.put(item, timeout=0.1)`. -/
inductive Producer
  | absent
  | pending
  | iterating (rest : List Pcm)
  | putting (item : StreamItem) (rest : List Pcm)
  | trying (item : StreamItem) (rest : List Pcm)
  | ended
  deriving DecidableEq, Repr

/-- The executor call of `items.get`. -/
inductive Getter
  | idle
  | submitted
  | running
  | served (item : StreamItem)
  deriving DecidableEq, Repr

/-- How the generator ends. -/
inductive StreamOutcome
  | finished
  | raised (error : String)
  | closed
  | cancelled
  deriving DecidableEq, Repr

/-- Where the generator stands: at `await asyncio.to_thread(items.get)`, at its `yield`, at
    `await producer`, or behind them. -/
inductive Consumer
  | created
  | awaitingItem
  | yielding
  | awaitingProducer (outcome : StreamOutcome)
  | terminated (outcome : StreamOutcome)
  deriving DecidableEq, Repr

/-- One call of `_stream_pcm_in_thread`. -/
structure PcmBridge where
  items : List StreamItem
  stopped : Bool
  producer : Producer
  getter : Getter
  consumer : Consumer
  yielded : List Pcm
  deriving DecidableEq, Repr

/-- The consumer asks for the next chunk, closes the generator or has it cancelled; the event
    loop resumes the generator; the executor runs its threads. -/
inductive BridgeAction
  | next
  | close
  | cancel
  | receive
  | finish
  | getterStarts
  | getterTakes
  | produce
  | full
  deriving DecidableEq, Repr

/-- `queue.Queue(maxsize=2)`. -/
def itemsMaxsize : Nat := 2

def oddLengthMessage : String := "TTS produced an odd-length pcm_s16le chunk"

/-- `produce` goes on after a successful `put`. -/
def Producer.afterPut : StreamItem → List Pcm → Producer
  | .chunk _, rest => .iterating rest
  | .streamFailure _, _ => .putting .streamEnd []
  | .streamEnd, _ => .ended

namespace PcmBridge

/-- The generator object, before its first `__anext__`. -/
def created : PcmBridge where
  items := []
  stopped := false
  producer := .absent
  getter := .idle
  consumer := .created
  yielded := []

/-- The next step of the thread of `produce`. -/
def produce (synthesis : Synthesis) (bridge : PcmBridge) : Option PcmBridge :=
  match bridge.producer with
  | .absent | .ended => none
  | .pending => some { bridge with producer := .iterating synthesis.chunks }
  | .iterating [] =>
    match synthesis.failure with
    | some error => some { bridge with producer := .putting (.streamFailure error) [] }
    | none => some { bridge with producer := .putting .streamEnd [] }
  | .iterating (pcm :: rest) =>
    if pcm = [] then some { bridge with producer := .iterating rest }
    else if pcm.length % 2 ≠ 0 then some { bridge with producer := .putting (.streamFailure oddLengthMessage) [] }
    else some { bridge with producer := .putting (.chunk pcm) rest }
  | .putting item rest =>
    -- `put` returns False once `stopped` is set, and each of its callers returns
    if bridge.stopped then some { bridge with producer := .ended }
    else some { bridge with producer := .trying item rest }
  | .trying item rest =>
    if bridge.items.length < itemsMaxsize then
      some { bridge with items := bridge.items ++ [item],producer := .afterPut item rest }
    else none

/-- `items.put` timed out. -/
def full (bridge : PcmBridge) : Option PcmBridge :=
  match bridge.producer with
  | .trying item rest =>
    if itemsMaxsize ≤ bridge.items.length then some { bridge with producer := .putting item rest } else none
  | _ => none

/-- `__anext__`: the body starts, or goes on behind its `yield`, up to the await of `items.get`. -/
def next (bridge : PcmBridge) : Option PcmBridge :=
  match bridge.consumer with
  | .created => some { bridge with producer := .pending,getter := .submitted,consumer := .awaitingItem }
  | .yielding => some { bridge with getter := .submitted,consumer := .awaitingItem }
  | _ => none

/-- The generator goes on behind the await of `items.get`. -/
def receive (bridge : PcmBridge) : Option PcmBridge :=
  match bridge.consumer,bridge.getter with
  | .awaitingItem,.served (.chunk pcm) =>
    some { bridge with getter := .idle,consumer := .yielding,yielded := bridge.yielded ++ [pcm] }
  | .awaitingItem,.served (.streamFailure error) =>
    some { bridge with getter := .idle,stopped := true,consumer := .awaitingProducer (.raised error) }
  | .awaitingItem,.served .streamEnd =>
    some { bridge with getter := .idle,stopped := true,consumer := .awaitingProducer .finished }
  | _,_ => none

/-- `aclose`, possible while the generator is suspended at its `yield` or was never started. -/
def close (bridge : PcmBridge) : Option PcmBridge :=
  match bridge.consumer with
  | .created => some { bridge with consumer := .terminated .closed }
  | .yielding => some { bridge with stopped := true,consumer := .awaitingProducer .closed }
  | _ => none

/-- `CancelledError` at an await. An executor call that has not started is cancelled with it,
    one that runs goes on and its result is lost. -/
def cancel (bridge : PcmBridge) : Option PcmBridge :=
  match bridge.consumer with
  | .awaitingItem =>
    some { bridge with stopped := true,consumer := .awaitingProducer .cancelled,
                       getter := if bridge.getter = .running then .running else .idle }
  | .awaitingProducer _ =>
    some { bridge with consumer := .terminated .cancelled,
                       producer := if bridge.producer = .pending then .ended else bridge.producer }
  | _ => none

/-- The generator goes on behind `await producer`. -/
def finish (bridge : PcmBridge) : Option PcmBridge :=
  match bridge.consumer,bridge.producer with
  | .awaitingProducer outcome,.ended => some { bridge with consumer := .terminated outcome }
  | _,_ => none

/-- An executor thread picks up the call of `items.get`. -/
def getterStarts (bridge : PcmBridge) : Option PcmBridge :=
  match bridge.getter with
  | .submitted => some { bridge with getter := .running }
  | _ => none

/-- `items.get` returns. -/
def getterTakes (bridge : PcmBridge) : Option PcmBridge :=
  match bridge.getter,bridge.items with
  | .running,item :: rest => some { bridge with getter := .served item,items := rest }
  | _,_ => none

def step (synthesis : Synthesis) (bridge : PcmBridge) : BridgeAction → Option PcmBridge
  | .next => bridge.next
  | .close => bridge.close
  | .cancel => bridge.cancel
  | .receive => bridge.receive
  | .finish => bridge.finish
  | .getterStarts => bridge.getterStarts
  | .getterTakes => bridge.getterTakes
  | .produce => bridge.produce synthesis
  | .full => bridge.full

end PcmBridge

/-- The chunks that are put on the queue: `produce` skips the empty ones. -/
def Synthesis.spoken (synthesis : Synthesis) : List Pcm := synthesis.chunks.filter (· ≠ [])

/-- How the generator ends by itself. -/
def Synthesis.outcome (synthesis : Synthesis) : StreamOutcome :=
  match synthesis.failure with
  | some error => .raised error
  | none => .finished

/-- Every item that `produce` has still to put, from some chunks on. -/
def Synthesis.itemsFrom (synthesis : Synthesis) : List Pcm → List StreamItem
  | [] =>
    match synthesis.failure with
    | some error => [.streamFailure error,.streamEnd]
    | none => [.streamEnd]
  | pcm :: rest =>
    if pcm = [] then synthesis.itemsFrom rest
    else if pcm.length % 2 ≠ 0 then [.streamFailure oddLengthMessage,.streamEnd]
    else .chunk pcm :: synthesis.itemsFrom rest

/-- What is still to be put once the item is on the queue. -/
def Synthesis.itemsAfter (synthesis : Synthesis) : StreamItem → List Pcm → List StreamItem
  | .chunk _, rest => synthesis.itemsFrom rest
  | .streamFailure _, _ => [.streamEnd]
  | .streamEnd, _ => []

/-- What the producer has still to put. -/
def Producer.owed (synthesis : Synthesis) : Producer → List StreamItem
  | .absent | .pending => synthesis.itemsFrom synthesis.chunks
  | .iterating rest => synthesis.itemsFrom rest
  | .putting item rest | .trying item rest => item :: synthesis.itemsAfter item rest
  | .ended => []

/-- The producer is inside `items.put`. -/
def Producer.Tries (producer : Producer) : Prop := ∃ item rest, producer = .trying item rest

theorem Producer.owed_afterPut (synthesis : Synthesis) (item : StreamItem) (rest : List Pcm) :
    (Producer.afterPut item rest).owed synthesis = synthesis.itemsAfter item rest := by
  cases item <;> rfl

/-- What an executor call of `items.get` holds. -/
def Getter.held : Getter → List StreamItem
  | .served item => [item]
  | _ => []

/-- The mark on which the generator left its loop. -/
def StreamOutcome.mark : StreamOutcome → List StreamItem
  | .finished => [.streamEnd]
  | .raised error => [.streamFailure error]
  | .closed | .cancelled => []

def Consumer.mark : Consumer → List StreamItem
  | .awaitingProducer outcome | .terminated outcome => outcome.mark
  | _ => []

namespace PcmBridge
variable {synthesis : Synthesis} {bridge after : PcmBridge} {action : BridgeAction}

section
variable {bridge after : PcmBridge}

theorem next_cases (stepped : bridge.next = some after) :
    bridge.consumer = .created ∧ after = { bridge with producer := .pending,getter := .submitted,consumer := .awaitingItem } ∨
      bridge.consumer = .yielding ∧ after = { bridge with getter := .submitted,consumer := .awaitingItem } := by
  unfold next at stepped
  split at stepped
  · exact .inl ⟨‹_›,(Option.some.inj stepped).symm⟩
  · exact .inr ⟨‹_›,(Option.some.inj stepped).symm⟩
  · cases stepped

theorem close_cases (stepped : bridge.close = some after) :
    bridge.consumer = .created ∧ after = { bridge with consumer := .terminated .closed } ∨
      bridge.consumer = .yielding ∧ after = { bridge with stopped := true,consumer := .awaitingProducer .closed } := by
  unfold close at stepped
  split at stepped
  · exact .inl ⟨‹_›,(Option.some.inj stepped).symm⟩
  · exact .inr ⟨‹_›,(Option.some.inj stepped).symm⟩
  · cases stepped

theorem cancel_cases (stepped : bridge.cancel = some after) :
    bridge.consumer = .awaitingItem ∧ after =
        { bridge with stopped := true,consumer := .awaitingProducer .cancelled,
                      getter := if bridge.getter = .running then .running else .idle } ∨
      ∃ outcome, bridge.consumer = .awaitingProducer outcome ∧ after =
        { bridge with consumer := .terminated .cancelled,
                      producer := if bridge.producer = .pending then .ended else bridge.producer } := by
  unfold cancel at stepped
  split at stepped
  · exact .inl ⟨‹_›,(Option.some.inj stepped).symm⟩
  · exact .inr ⟨_,‹_›,(Option.some.inj stepped).symm⟩
  · cases stepped

theorem receive_cases (stepped : bridge.receive = some after) : ∃ item,
    bridge.consumer = .awaitingItem ∧ bridge.getter = .served item ∧
      ((∃ pcm, item = .chunk pcm ∧
          after = { bridge with getter := .idle,consumer := .yielding,yielded := bridge.yielded ++ [pcm] }) ∨
        ∃ outcome : StreamOutcome, outcome.mark = [item] ∧
          after = { bridge with getter := .idle,stopped := true,consumer := .awaitingProducer outcome }) := by
  unfold receive at stepped
  split at stepped
  · exact ⟨_,‹_›,‹_›,.inl ⟨_,rfl,(Option.some.inj stepped).symm⟩⟩
  · exact ⟨_,‹_›,‹_›,.inr ⟨_,rfl,(Option.some.inj stepped).symm⟩⟩
  · exact ⟨_,‹_›,‹_›,.inr ⟨_,rfl,(Option.some.inj stepped).symm⟩⟩
  · cases stepped

theorem finish_cases (stepped : bridge.finish = some after) : ∃ outcome,
    bridge.consumer = .awaitingProducer outcome ∧ bridge.producer = .ended ∧
      after = { bridge with consumer := .terminated outcome } := by
  unfold finish at stepped
  split at stepped
  · exact ⟨_,‹_›,‹_›,(Option.some.inj stepped).symm⟩
  · cases stepped

theorem getterStarts_cases (stepped : bridge.getterStarts = some after) :
    bridge.getter = .submitted ∧ after = { bridge with getter := .running } := by
  unfold getterStarts at stepped
  split at stepped
  · exact ⟨‹_›,(Option.some.inj stepped).symm⟩
  · cases stepped

theorem getterTakes_cases (stepped : bridge.getterTakes = some after) : ∃ item rest,
    bridge.getter = .running ∧ bridge.items = item :: rest ∧
      after = { bridge with getter := .served item,items := rest } := by
  unfold getterTakes at stepped
  split at stepped
  · exact ⟨_,_,‹_›,‹_›,(Option.some.inj stepped).symm⟩
  · cases stepped

end

/-- Only the producer and the queue change. Until the generator stops, nothing is lost on the way
    to the queue, and a `put` that was under way ends on a queue that is not empty. -/
structure Puts (synthesis : Synthesis) (bridge after : PcmBridge) : Prop where
  same : ∃ producer items, after = { bridge with producer := producer,items := items }
  launched : bridge.producer ≠ .absent ∧ after.producer ≠ .absent
  owed : bridge.stopped = false →
    after.items ++ after.producer.owed synthesis = bridge.items ++ bridge.producer.owed synthesis
  offered : bridge.items ≠ [] ∨ bridge.producer.Tries → after.items ≠ [] ∨ after.producer.Tries

theorem produce_puts (stepped : bridge.produce synthesis = some after) : Puts synthesis bridge after := by
  unfold produce at stepped
  split at stepped
  · cases stepped
  · cases stepped
  · rename_i stands
    cases stepped
    exact ⟨⟨_,_,rfl⟩,by simp [stands],fun _ => by simp [stands,Producer.owed],by simp [stands,Producer.Tries]⟩
  · rename_i stands
    split at stepped <;> rename_i failure
    · cases stepped
      exact ⟨⟨_,_,rfl⟩,by simp [stands],
        fun _ => by simp [stands,Producer.owed,Synthesis.itemsFrom,Synthesis.itemsAfter,failure],
        by simp [stands,Producer.Tries]⟩
    · cases stepped
      exact ⟨⟨_,_,rfl⟩,by simp [stands],
        fun _ => by simp [stands,Producer.owed,Synthesis.itemsFrom,Synthesis.itemsAfter,failure],
        by simp [stands,Producer.Tries]⟩
  · rename_i pcm rest stands
    by_cases empty : pcm = []
    · rw [if_pos empty] at stepped
      cases stepped
      exact ⟨⟨_,_,rfl⟩,by simp [stands],fun _ => by simp [stands,Producer.owed,Synthesis.itemsFrom,empty],
        by simp [stands,Producer.Tries]⟩
    · rw [if_neg empty] at stepped
      by_cases odd : pcm.length % 2 ≠ 0
      · rw [if_pos odd] at stepped
        cases stepped
        exact ⟨⟨_,_,rfl⟩,by simp [stands],
          fun _ => by simp only [stands,Producer.owed,Synthesis.itemsFrom,Synthesis.itemsAfter,if_neg empty,if_pos odd],
          by simp [stands,Producer.Tries]⟩
      · rw [if_neg odd] at stepped
        cases stepped
        exact ⟨⟨_,_,rfl⟩,by simp [stands],
          fun _ => by simp only [stands,Producer.owed,Synthesis.itemsFrom,Synthesis.itemsAfter,if_neg empty,if_neg odd],
          by simp [stands,Producer.Tries]⟩
  · rename_i item rest stands
    by_cases stopped : bridge.stopped = true
    · rw [if_pos stopped] at stepped
      cases stepped
      exact ⟨⟨_,_,rfl⟩,by simp [stands],fun going => by simp [stopped] at going,by simp [stands,Producer.Tries]⟩
    · rw [if_neg stopped] at stepped
      cases stepped
      exact ⟨⟨_,_,rfl⟩,by simp [stands],fun _ => by simp [stands,Producer.owed],by simp [stands,Producer.Tries]⟩
  · rename_i item rest stands
    by_cases room : bridge.items.length < itemsMaxsize
    · rw [if_pos room] at stepped
      cases stepped
      refine ⟨⟨_,_,rfl⟩,⟨by simp [stands],by cases item <;> simp [Producer.afterPut]⟩,fun _ => ?_,fun _ => .inl (by simp)⟩
      show bridge.items ++ [item] ++ (Producer.afterPut item rest).owed synthesis = bridge.items ++ bridge.producer.owed synthesis
      rw [Producer.owed_afterPut,stands,List.append_assoc]
      rfl
    · rw [if_neg room] at stepped
      cases stepped

theorem full_puts (stepped : bridge.full = some after) : Puts synthesis bridge after := by
  unfold full at stepped
  split at stepped
  · rename_i item rest stands
    by_cases filled : itemsMaxsize ≤ bridge.items.length
    · rw [if_pos filled] at stepped
      cases stepped
      refine ⟨⟨_,_,rfl⟩,by simp [stands],fun _ => by simp [stands,Producer.owed],fun _ => .inl ?_⟩
      rintro nothing
      simp [show bridge.items = [] from nothing,itemsMaxsize] at filled
    · rw [if_neg filled] at stepped
      cases stepped
  · cases stepped

/-! ## What holds wherever the generator stands -/

/-- What the position of the generator says about the flag and the two threads. -/
def Stands (bridge : PcmBridge) : Prop :=
  match bridge.consumer with
  | .created => bridge = created
  | .awaitingItem => bridge.stopped = false ∧ bridge.producer ≠ .absent ∧ bridge.getter ≠ .idle
  | .yielding => bridge.stopped = false ∧ bridge.producer ≠ .absent ∧ bridge.getter = .idle
  | .awaitingProducer _ => bridge.stopped = true ∧ bridge.producer ≠ .absent ∧ bridge.getter ≠ .submitted
  | .terminated _ =>
    bridge.stopped = true ∧ bridge.producer ≠ .absent ∧ bridge.getter ≠ .submitted ∨
      bridge.producer = .absent ∧ bridge.getter = .idle

theorem created_stands : Stands created := rfl

theorem Stands.puts (stands : Stands bridge) (puts : Puts synthesis bridge after) : Stands after := by
  obtain ⟨⟨producer,items,rfl⟩,⟨before,behind⟩,_,_⟩ := puts
  unfold Stands at stands ⊢
  cases position : bridge.consumer <;> simp only [position] at stands ⊢
  · exact absurd (stands ▸ rfl) before
  · exact ⟨stands.1,behind,stands.2.2⟩
  · exact ⟨stands.1,behind,stands.2.2⟩
  · exact ⟨stands.1,behind,stands.2.2⟩
  · rcases stands with ⟨stopped,_,getter⟩ | ⟨absent,_⟩
    · exact .inl ⟨stopped,behind,getter⟩
    · exact absurd absent before

theorem Stands.step (stands : Stands bridge) (stepped : bridge.step synthesis action = some after) : Stands after := by
  cases action with
  | produce => exact stands.puts (produce_puts stepped)
  | full => exact stands.puts (show Puts synthesis bridge after from full_puts stepped)
  | next =>
    obtain ⟨position,rfl⟩ | ⟨position,rfl⟩ := next_cases stepped <;> simp only [Stands,position] at stands
    · subst stands
      exact ⟨rfl,by simp,by simp⟩
    · exact ⟨stands.1,stands.2.1,by simp⟩
  | close =>
    obtain ⟨position,rfl⟩ | ⟨position,rfl⟩ := close_cases stepped <;> simp only [Stands,position] at stands
    · subst stands
      exact .inr ⟨rfl,rfl⟩
    · exact ⟨rfl,stands.2.1,by simp [stands.2.2]⟩
  | cancel =>
    obtain ⟨position,rfl⟩ | ⟨_,position,rfl⟩ := cancel_cases stepped <;> simp only [Stands,position] at stands
    · refine ⟨rfl,stands.2.1,?_⟩
      by_cases running : bridge.getter = .running <;> simp [running]
    · refine .inl ⟨stands.1,?_,stands.2.2⟩
      by_cases pending : bridge.producer = .pending
      · simp [pending]
      · simpa [pending] using stands.2.1
  | receive =>
    obtain ⟨_,position,_,⟨_,_,rfl⟩ | ⟨_,_,rfl⟩⟩ := receive_cases stepped <;> simp only [Stands,position] at stands
    · exact ⟨stands.1,stands.2.1,rfl⟩
    · exact ⟨rfl,stands.2.1,by simp⟩
  | finish =>
    obtain ⟨_,position,_,rfl⟩ := finish_cases stepped
    simp only [Stands,position] at stands
    exact .inl stands
  | getterStarts =>
    obtain ⟨submitted,rfl⟩ := getterStarts_cases stepped
    unfold Stands at stands ⊢
    cases position : bridge.consumer <;> simp only [position,submitted] at stands ⊢
    · rw [stands] at submitted
      cases submitted
    · exact ⟨stands.1,stands.2.1,by simp⟩
    · cases stands.2.2
    · exact absurd rfl stands.2.2
    · rcases stands with ⟨_,_,unsubmitted⟩ | ⟨_,idle⟩
      · exact absurd rfl unsubmitted
      · cases idle
  | getterTakes =>
    obtain ⟨_,_,running,_,rfl⟩ := getterTakes_cases stepped
    unfold Stands at stands ⊢
    cases position : bridge.consumer <;> simp only [position,running] at stands ⊢
    · rw [stands] at running
      cases running
    · exact ⟨stands.1,stands.2.1,by simp⟩
    · cases stands.2.2
    · exact ⟨stands.1,stands.2.1,by simp⟩
    · rcases stands with ⟨stopped,launched,_⟩ | ⟨_,idle⟩
      · exact .inl ⟨stopped,launched,by simp⟩
      · cases idle

/-- While the generator goes on, what was yielded, what is under way and what is still owed are the
    items of the synthesizer; afterwards what was yielded is their beginning, up to the mark on
    which the loop was left. -/
structure Flows (synthesis : Synthesis) (bridge : PcmBridge) : Prop where
  going : bridge.stopped = false → bridge.yielded.map .chunk ++ (bridge.getter.held ++
    (bridge.items ++ bridge.producer.owed synthesis)) = synthesis.itemsFrom synthesis.chunks
  heard : bridge.yielded.map .chunk ++ bridge.consumer.mark <+: synthesis.itemsFrom synthesis.chunks

theorem created_flows : Flows synthesis created := ⟨fun _ => rfl,List.nil_prefix⟩

theorem Flows.puts (flows : Flows synthesis bridge) (puts : Puts synthesis bridge after) : Flows synthesis after := by
  obtain ⟨⟨producer,items,rfl⟩,_,owed,_⟩ := puts
  refine ⟨fun going => ?_,flows.heard⟩
  rw [owed going]
  exact flows.going going

/-- What the generator receives comes next. -/
theorem Flows.receives (flows : Flows synthesis bridge) {item : StreamItem} (going : bridge.stopped = false)
    (served : bridge.getter = .served item) :
    bridge.yielded.map .chunk ++ [item] <+: synthesis.itemsFrom synthesis.chunks := by
  rw [← flows.going going,served]
  refine List.prefix_append_right_inj _ |>.mpr ?_
  exact List.prefix_append [item] _

theorem Flows.step (flows : Flows synthesis bridge) (stands : Stands bridge)
    (stepped : bridge.step synthesis action = some after) : Flows synthesis after := by
  have beginning : bridge.yielded.map .chunk <+: synthesis.itemsFrom synthesis.chunks :=
    (List.prefix_append _ _).trans flows.heard
  cases action with
  | produce => exact flows.puts (produce_puts stepped)
  | full => exact flows.puts (full_puts stepped)
  | next =>
    obtain ⟨position,rfl⟩ | ⟨position,rfl⟩ := next_cases stepped <;> simp only [Stands,position] at stands
    · subst stands
      exact ⟨fun _ => rfl,List.nil_prefix⟩
    · refine ⟨fun going => ?_,by simpa [Consumer.mark] using beginning⟩
      have before := flows.going going
      rwa [stands.2.2] at before
  | close =>
    obtain ⟨position,rfl⟩ | ⟨position,rfl⟩ := close_cases stepped
    · exact ⟨flows.going,by simpa [Consumer.mark,StreamOutcome.mark] using beginning⟩
    · exact ⟨by simp,by simpa [Consumer.mark,StreamOutcome.mark] using beginning⟩
  | cancel =>
    obtain ⟨position,rfl⟩ | ⟨_,position,rfl⟩ := cancel_cases stepped <;> simp only [Stands,position] at stands
    · exact ⟨by simp,by simpa [Consumer.mark,StreamOutcome.mark] using beginning⟩
    · refine ⟨fun going => ?_,by simpa [Consumer.mark,StreamOutcome.mark] using beginning⟩
      cases stands.1.symm.trans going
  | receive =>
    obtain ⟨_,position,served,⟨pcm,rfl,rfl⟩ | ⟨_,mark,rfl⟩⟩ := receive_cases stepped <;> simp only [Stands,position] at stands
    · refine ⟨fun going => ?_,by simpa [Consumer.mark] using flows.receives stands.1 served⟩
      have before := flows.going going
      rw [served] at before
      simpa [Getter.held] using before
    · refine ⟨by simp,?_⟩
      simp only [Consumer.mark,mark]
      exact flows.receives stands.1 served
  | finish =>
    obtain ⟨_,position,_,rfl⟩ := finish_cases stepped
    refine ⟨flows.going,?_⟩
    have before := flows.heard
    rwa [position] at before
  | getterStarts =>
    obtain ⟨submitted,rfl⟩ := getterStarts_cases stepped
    refine ⟨fun going => ?_,flows.heard⟩
    have before := flows.going going
    rwa [submitted] at before
  | getterTakes =>
    obtain ⟨_,_,running,queued,rfl⟩ := getterTakes_cases stepped
    refine ⟨fun going => ?_,flows.heard⟩
    have before := flows.going going
    rwa [running,queued] at before

/-- An executor thread is blocked in `items.get` or in `items.put`. -/
def Blocked (bridge : PcmBridge) : Prop :=
  bridge.getter = .running ∧ bridge.items = [] ∨ bridge.producer.Tries ∧ itemsMaxsize ≤ bridge.items.length

/-- A cancellation of the await of `items.get` finds the call not yet running, or something for it
    on the queue or inside `items.put`. -/
def Feeds (bridge : PcmBridge) (action : BridgeAction) : Prop :=
  action = .cancel → bridge.consumer = .awaitingItem → bridge.getter = .running →
    bridge.items ≠ [] ∨ bridge.producer.Tries

/-- A call of `items.get` that was left behind will be served. -/
def Fed (bridge : PcmBridge) : Prop :=
  bridge.stopped = true → bridge.getter = .running → bridge.items ≠ [] ∨ bridge.producer.Tries

theorem Fed.step (fed : Fed bridge) (stands : Stands bridge) (feeds : Feeds bridge action)
    (stepped : bridge.step synthesis action = some after) : Fed after := by
  have puts : Puts synthesis bridge after → Fed after := by
    rintro ⟨⟨producer,items,rfl⟩,_,_,offered⟩ stopped running
    exact offered (fed stopped running)
  cases action with
  | produce => exact puts (produce_puts stepped)
  | full => exact puts (full_puts stepped)
  | next =>
    obtain ⟨_,rfl⟩ | ⟨_,rfl⟩ := next_cases stepped <;> intro _ running <;> cases running
  | close =>
    obtain ⟨position,rfl⟩ | ⟨position,rfl⟩ := close_cases stepped <;> simp only [Stands,position] at stands
    · exact fed
    · intro _ running
      cases stands.2.2.symm.trans running
  | cancel =>
    obtain ⟨position,rfl⟩ | ⟨_,_,rfl⟩ := cancel_cases stepped
    · intro _ running
      refine feeds rfl position ?_
      by_contra idle
      simp [idle] at running
    · intro stopped running
      refine (fed stopped running).imp_right ?_
      rintro ⟨item,rest,trying⟩
      exact ⟨item,rest,by simp [trying]⟩
  | receive =>
    obtain ⟨_,_,_,⟨_,_,rfl⟩ | ⟨_,_,rfl⟩⟩ := receive_cases stepped <;> intro _ running <;> cases running
  | finish =>
    obtain ⟨_,_,_,rfl⟩ := finish_cases stepped
    exact fed
  | getterStarts =>
    obtain ⟨submitted,rfl⟩ := getterStarts_cases stepped
    intro stopped _
    cases position : bridge.consumer <;> simp only [Stands,position] at stands
    · rw [stands] at submitted
      cases submitted
    · cases stands.1.symm.trans stopped
    · cases stands.1.symm.trans stopped
    · exact absurd submitted stands.2.2
    · rcases stands with ⟨_,_,unsubmitted⟩ | ⟨_,idle⟩
      · exact absurd submitted unsubmitted
      · cases idle.symm.trans submitted
  | getterTakes =>
    obtain ⟨_,_,_,_,rfl⟩ := getterTakes_cases stepped
    intro _ running
    cases running

/-! ## The way to the end -/

end PcmBridge

/-- What is to do once the item is on the queue. -/
def StreamItem.remaining : StreamItem → List Pcm → Nat
  | .chunk _, rest => 10 * rest.length + 24
  | .streamFailure _, _ => 12
  | .streamEnd, _ => 0

/-- How much the producer has still to do. A thread that waits for room on the queue goes round
    between the test of `stopped` and `items.put`, and stays at one level. -/
def Producer.remaining (synthesis : Synthesis) (bridge : PcmBridge) : Producer → Nat
  | .absent | .pending => 10 * synthesis.chunks.length + 25
  | .iterating rest => 10 * rest.length + 24
  | .putting item rest =>
    item.remaining rest + if bridge.stopped then 7 else if bridge.items.length < itemsMaxsize then 9 else 8
  | .trying item rest => item.remaining rest + 8
  | .ended => 0

def Getter.remaining : Getter → Nat
  | .idle => 0
  | .submitted => 2
  | .running => 1
  | .served _ => 4

def Consumer.remaining : Consumer → Nat
  | .created | .yielding => 5
  | .awaitingItem => 2
  | .awaitingProducer _ => 1
  | .terminated _ => 0

namespace PcmBridge
variable {synthesis : Synthesis} {bridge after : PcmBridge} {action : BridgeAction}

def remaining (synthesis : Synthesis) (bridge : PcmBridge) : Nat :=
  bridge.consumer.remaining + bridge.getter.remaining + 7 * bridge.items.length +
    bridge.producer.remaining synthesis bridge

/-- The action that the bridge waits for. -/
def need (bridge : PcmBridge) : Option BridgeAction :=
  match bridge.consumer with
  | .created | .yielding => some .next
  | .awaitingItem =>
    match bridge.getter with
    | .idle => none
    | .submitted => some .getterStarts
    | .served _ => some .receive
    | .running => if bridge.items = [] then some .produce else some .getterTakes
  | .awaitingProducer _ =>
    match bridge.producer with
    | .ended => some .finish
    | .trying _ _ => if bridge.items.length < itemsMaxsize then some .produce else some .full
    | _ => some .produce
  | .terminated _ => none

/-- The producer goes round while the queue is full. -/
def Spins (bridge : PcmBridge) (action : BridgeAction) : Prop :=
  bridge.stopped = false ∧ itemsMaxsize ≤ bridge.items.length ∧
    (action = .full ∨ action = .produce ∧ ∃ item rest, bridge.producer = .putting item rest)

theorem remaining_afterPut (item : StreamItem) (rest : List Pcm) :
    (Producer.afterPut item rest).remaining synthesis bridge + 7 < item.remaining rest + 8 := by
  cases item with
  | chunk pcm =>
    simp only [Producer.afterPut,Producer.remaining,StreamItem.remaining]
    omega
  | streamFailure error =>
    simp only [Producer.afterPut,Producer.remaining,StreamItem.remaining]
    split_ifs <;> omega
  | streamEnd => simp [Producer.afterPut,Producer.remaining,StreamItem.remaining]

theorem produce_lowers (stepped : bridge.produce synthesis = some after) :
    after.remaining synthesis < bridge.remaining synthesis ∨ Spins bridge .produce := by
  unfold produce at stepped
  split at stepped
  · cases stepped
  · cases stepped
  · rename_i stands
    cases stepped
    left
    simp [remaining,stands,Producer.remaining]
  · rename_i stands
    left
    split at stepped <;> cases stepped <;> simp only [remaining,stands,Producer.remaining,StreamItem.remaining] <;>
      split_ifs <;> simp
  · rename_i pcm rest stands
    left
    split_ifs at stepped <;> cases stepped <;>
      simp only [remaining,stands,Producer.remaining,StreamItem.remaining,List.length_cons]
    · omega
    · split_ifs <;> omega
    · split_ifs <;> omega
  · rename_i item rest stands
    by_cases stopped : bridge.stopped = true
    · rw [if_pos stopped] at stepped
      cases stepped
      left
      simp [remaining,stands,Producer.remaining,stopped]
    · rw [if_neg stopped] at stepped
      cases stepped
      by_cases room : bridge.items.length < itemsMaxsize
      · left
        simp [remaining,stands,Producer.remaining,stopped,room]
      · right
        exact ⟨by simpa using stopped,by omega,.inr ⟨rfl,item,rest,stands⟩⟩
  · rename_i item rest stands
    by_cases room : bridge.items.length < itemsMaxsize
    · rw [if_pos room] at stepped
      cases stepped
      left
      have lower := @remaining_afterPut synthesis
        { bridge with items := bridge.items ++ [item],producer := .afterPut item rest } item rest
      have level : bridge.producer.remaining synthesis bridge = item.remaining rest + 8 := by
        rw [stands]
        rfl
      simp only [remaining,level,List.length_append,List.length_singleton]
      omega
    · rw [if_neg room] at stepped
      cases stepped

theorem full_lowers (stepped : bridge.full = some after) :
    after.remaining synthesis < bridge.remaining synthesis ∨ Spins bridge .full := by
  unfold full at stepped
  split at stepped
  · rename_i item rest stands
    by_cases filled : itemsMaxsize ≤ bridge.items.length
    · rw [if_pos filled] at stepped
      cases stepped
      by_cases stopped : bridge.stopped = true
      · left
        simp [remaining,stands,Producer.remaining,stopped]
      · right
        exact ⟨by simpa using stopped,filled,.inl rfl⟩
    · rw [if_neg filled] at stepped
      cases stepped
  · cases stepped

/-- A producer keeps its level when another party moves, or has room for one turn more. -/
theorem remaining_le (stopped : bridge.stopped = true → after.stopped = true) (producer : after.producer = bridge.producer) :
    after.producer.remaining synthesis after ≤ bridge.producer.remaining synthesis bridge + 1 := by
  rw [producer]
  cases bridge.producer with
  | putting item rest =>
    simp only [Producer.remaining]
    split_ifs <;> simp_all
  | _ => simp [Producer.remaining]

theorem remaining_mono (stopped : bridge.stopped = true → after.stopped = true) (items : after.items = bridge.items)
    (producer : after.producer = bridge.producer) :
    after.producer.remaining synthesis after ≤ bridge.producer.remaining synthesis bridge := by
  rw [producer]
  cases bridge.producer with
  | putting item rest =>
    simp only [Producer.remaining,items]
    split_ifs <;> simp_all
  | _ => simp [Producer.remaining]

theorem step_lowers (stands : Stands bridge) (stepped : bridge.step synthesis action = some after) :
    after.remaining synthesis < bridge.remaining synthesis ∨ Spins bridge action := by
  have drop : (bridge.stopped = true → after.stopped = true) → after.items = bridge.items →
      after.producer = bridge.producer → after.consumer.remaining + after.getter.remaining <
        bridge.consumer.remaining + bridge.getter.remaining →
      after.remaining synthesis < bridge.remaining synthesis ∨ Spins bridge action := by
    intro stopped items producer lower
    have level := @remaining_mono synthesis _ _ stopped items producer
    left
    simp only [remaining,items]
    omega
  cases action with
  | produce => exact produce_lowers stepped
  | full => exact full_lowers stepped
  | next =>
    obtain ⟨position,rfl⟩ | ⟨position,rfl⟩ := next_cases stepped <;> simp only [Stands,position] at stands
    · subst stands
      left
      simp [remaining,created,Producer.remaining,Getter.remaining,Consumer.remaining]
    · apply drop id rfl rfl
      simp [position,stands.2.2,Getter.remaining,Consumer.remaining]
  | close =>
    obtain ⟨position,rfl⟩ | ⟨position,rfl⟩ := close_cases stepped
    · apply drop id rfl rfl
      simp [position,Consumer.remaining]
    · apply drop (fun _ => rfl) rfl rfl
      simp [position,Consumer.remaining]
  | cancel =>
    obtain ⟨position,rfl⟩ | ⟨_,position,rfl⟩ := cancel_cases stepped
    · apply drop (fun _ => rfl) rfl rfl
      cases held : bridge.getter <;> simp [position,Getter.remaining,Consumer.remaining]
    · by_cases pending : bridge.producer = .pending
      · left
        simp [remaining,pending,position,Producer.remaining,Consumer.remaining]
        omega
      · apply drop id rfl (if_neg pending)
        simp [position,Consumer.remaining]
  | receive =>
    obtain ⟨_,position,served,⟨_,_,rfl⟩ | ⟨_,_,rfl⟩⟩ := receive_cases stepped
    · apply drop id rfl rfl
      simp [position,served,Getter.remaining,Consumer.remaining]
    · apply drop (fun _ => rfl) rfl rfl
      simp [position,served,Getter.remaining,Consumer.remaining]
  | finish =>
    obtain ⟨_,position,_,rfl⟩ := finish_cases stepped
    apply drop id rfl rfl
    simp [position,Consumer.remaining]
  | getterStarts =>
    obtain ⟨submitted,rfl⟩ := getterStarts_cases stepped
    apply drop id rfl rfl
    simp [submitted,Getter.remaining]
  | getterTakes =>
    obtain ⟨item,rest,running,queued,rfl⟩ := getterTakes_cases stepped
    left
    have level := @remaining_le synthesis bridge { bridge with getter := .served item,items := rest } id rfl
    simp only [remaining,running,queued,Getter.remaining,List.length_cons] at level ⊢
    omega

/-- Going round changes neither how much there is to do nor what is waited for. -/
theorem Spins.same (spins : Spins bridge action) (stands : Stands bridge)
    (stepped : bridge.step synthesis action = some after) :
    after.remaining synthesis = bridge.remaining synthesis ∧ after.need = bridge.need := by
  obtain ⟨going,filled,turns⟩ := spins
  have crowded : bridge.items ≠ [] := by
    rintro nothing
    simp [nothing,itemsMaxsize] at filled
  have busy : ¬bridge.items.length < itemsMaxsize := by omega
  have needs : ∀ producer, ({ bridge with producer := producer } : PcmBridge).need = bridge.need := by
    intro producer
    unfold Stands at stands
    cases position : bridge.consumer <;> simp only [position] at stands <;> simp only [need,position]
    cases going.symm.trans stands.1
  rcases turns with rfl | ⟨rfl,item,rest,putting⟩
  · simp only [PcmBridge.step,full] at stepped
    split at stepped
    · rename_i trying
      rw [if_pos filled] at stepped
      cases stepped
      refine ⟨?_,needs _⟩
      simp [remaining,trying,Producer.remaining,going,busy]
    · cases stepped
  · simp only [PcmBridge.step,produce,putting] at stepped
    rw [if_neg (by simp [going])] at stepped
    cases stepped
    refine ⟨?_,needs _⟩
    simp [remaining,putting,Producer.remaining,going,busy]

end PcmBridge

theorem Synthesis.streamEnd_mem (synthesis : Synthesis) (rest : List Pcm) : .streamEnd ∈ synthesis.itemsFrom rest := by
  induction rest with
  | nil =>
    unfold itemsFrom
    split <;> simp
  | cons pcm rest ih =>
    unfold itemsFrom
    split_ifs <;> simp [ih]

namespace PcmBridge
variable {synthesis : Synthesis} {bridge after : PcmBridge} {action : BridgeAction}

/-- What a consumer that goes on, the event loop and the threads do. -/
def Wanted (action : BridgeAction) : Prop := action ≠ .close ∧ action ≠ .cancel

/-- The producer can take its next step. -/
theorem produce_enabled (launched : bridge.producer ≠ .absent) (lives : bridge.producer ≠ .ended)
    (room : bridge.producer.Tries → bridge.items.length < itemsMaxsize) :
    ∃ after, bridge.produce synthesis = some after := by
  unfold produce
  split
  · rename_i absent
    exact absurd absent launched
  · rename_i ended
    exact absurd ended lives
  · exact ⟨_,rfl⟩
  · split
    · exact ⟨_,rfl⟩
    · exact ⟨_,rfl⟩
  · split_ifs
    · exact ⟨_,rfl⟩
    · exact ⟨_,rfl⟩
    · exact ⟨_,rfl⟩
  · split_ifs
    · exact ⟨_,rfl⟩
    · exact ⟨_,rfl⟩
  · rename_i item rest trying
    rw [if_pos (room ⟨item,rest,trying⟩)]
    exact ⟨_,rfl⟩

theorem enabled_of (action : BridgeAction) (needs : bridge.need = some action) (wanted : Wanted action)
    (possible : (bridge.step synthesis action).isSome = true) (still : ¬Spins bridge action) :
    ∃ action after, bridge.need = some action ∧ Wanted action ∧ bridge.step synthesis action = some after ∧
      ¬Spins bridge action := by
  obtain ⟨after,stepped⟩ := Option.isSome_iff_exists.mp possible
  exact ⟨action,after,needs,wanted,stepped,still⟩

/-- The needed action is enabled, and it does not go round. -/
theorem need_enabled (stands : Stands bridge) (flows : Flows synthesis bridge)
    (goes : ∀ outcome, bridge.consumer ≠ .terminated outcome) :
    ∃ action after, bridge.need = some action ∧ Wanted action ∧ bridge.step synthesis action = some after ∧
      ¬Spins bridge action := by
  unfold Stands at stands
  cases position : bridge.consumer <;> simp only [position] at stands
  case terminated outcome => exact absurd position (goes outcome)
  case created | yielding =>
    exact enabled_of .next (by simp only [need,position]) (by simp [Wanted])
      (by simp [step,PcmBridge.next,position]) (by simp [Spins])
  case awaitingItem =>
    obtain ⟨going,launched,active⟩ := stands
    cases getter : bridge.getter with
    | idle => exact absurd getter active
    | submitted =>
      exact enabled_of .getterStarts (by simp only [need,position,getter]) (by simp [Wanted])
        (by simp [step,PcmBridge.getterStarts,getter]) (by simp [Spins])
    | served item =>
      apply enabled_of .receive (by simp only [need,position,getter]) (by simp [Wanted])
      · cases item <;> simp [step,PcmBridge.receive,position,getter]
      · simp [Spins]
    | running =>
      cases queued : bridge.items with
      | cons item rest =>
        exact enabled_of .getterTakes (by simp [need,position,getter,queued]) (by simp [Wanted])
          (by simp [step,PcmBridge.getterTakes,getter,queued]) (by simp [Spins])
      | nil =>
        -- an ended producer has put the end marker, and the generator goes on only before it
        have lives : bridge.producer ≠ .ended := by
          intro ended
          have all := flows.going going
          have last := synthesis.streamEnd_mem synthesis.chunks
          rw [← all,getter,queued,ended] at last
          simp [Getter.held,Producer.owed] at last
        obtain ⟨after,stepped⟩ := @produce_enabled synthesis bridge launched lives (fun _ => by simp [queued,itemsMaxsize])
        exact ⟨.produce,after,by simp [need,position,getter,queued],by simp [Wanted],stepped,
          by simp [Spins,queued,itemsMaxsize]⟩
  case awaitingProducer outcome =>
    obtain ⟨stopped,launched,_⟩ := stands
    have still : ∀ action, ¬Spins bridge action := fun action spins => by cases stopped.symm.trans spins.1
    by_cases ended : bridge.producer = .ended
    · exact enabled_of .finish (by simp only [need,position,ended]) (by simp [Wanted])
        (by simp [step,PcmBridge.finish,position,ended]) (still _)
    · by_cases room : bridge.producer.Tries → bridge.items.length < itemsMaxsize
      · obtain ⟨after,stepped⟩ := @produce_enabled synthesis bridge launched ended room
        refine ⟨.produce,after,?_,by simp [Wanted],stepped,still _⟩
        simp only [need,position]
        split
        · rename_i ends
          exact absurd ends ended
        · rename_i item rest trying
          rw [if_pos (room ⟨item,rest,trying⟩)]
        · rfl
      · push Not at room
        obtain ⟨⟨item,rest,trying⟩,filled⟩ := room
        apply enabled_of .full _ (by simp [Wanted]) _ (still _)
        · simp only [need,position,trying]
          rw [if_neg (by omega)]
        · have waits : itemsMaxsize ≤ bridge.items.length := by omega
          simp [step,PcmBridge.full,trying,waits]

/-! ## Runs -/

theorem reached (synthesis : Synthesis) {actions : List BridgeAction}
    (ran : Machine.run (step synthesis) created actions = some bridge) : Stands bridge ∧ Flows synthesis bridge := by
  refine Machine.invariant (step synthesis) (fun bridge => Stands bridge ∧ Flows synthesis bridge) ?_
    ⟨created_stands,created_flows⟩ ran
  rintro bridge action after ⟨stands,flows⟩ stepped
  exact ⟨stands.step stepped,flows.step stands stepped⟩

/-- Under every fair schedule the generator ends, whatever is closed or cancelled. -/
theorem terminates (synthesis : Synthesis) {schedule : ℕ → BridgeAction} (fair : Machine.Fair Wanted schedule) :
    ∃ time outcome, (Machine.attempts (step synthesis) created schedule time).consumer = .terminated outcome := by
  have kept : ∀ time, Stands (Machine.attempts (step synthesis) created schedule time) ∧
      Flows synthesis (Machine.attempts (step synthesis) created schedule time) := fun time => by
    obtain ⟨actions,ran,_⟩ := @Machine.attempts_ran _ _ (step synthesis) created schedule (fun _ _ => True)
      (fun _ => trivial) time
    exact reached synthesis ran
  refine Machine.settles (step synthesis) (fun bridge => ∃ outcome, bridge.consumer = .terminated outcome)
    (fun bridge => Stands bridge ∧ Flows synthesis bridge) need (remaining synthesis) ?_ ?_ kept fair
  · rintro bridge action after ⟨stands,_⟩ stepped
    rcases step_lowers stands stepped with lower | spins
    · exact .inl lower
    · exact .inr (spins.same stands stepped)
  · rintro bridge ⟨stands,flows⟩ goes
    push Not at goes
    obtain ⟨action,after,needs,wanted,stepped,still⟩ := need_enabled stands flows goes
    exact ⟨action,after,needs,wanted,stepped,(step_lowers stands stepped).resolve_right still⟩

end PcmBridge

/-- The items behind the chunks. -/
def Synthesis.ending (synthesis : Synthesis) : List StreamItem := synthesis.itemsFrom []

theorem Synthesis.chunk_notMem_ending (synthesis : Synthesis) (pcm : Pcm) : .chunk pcm ∉ synthesis.ending := by
  unfold ending itemsFrom
  split <;> simp

theorem Synthesis.itemsFrom_even (synthesis : Synthesis) {rest : List Pcm} (even : ∀ pcm ∈ rest, pcm.length % 2 = 0) :
    synthesis.itemsFrom rest = (rest.filter (· ≠ [])).map .chunk ++ synthesis.ending := by
  induction rest with
  | nil => rfl
  | cons pcm rest ih =>
    obtain ⟨first,later⟩ := List.forall_mem_cons.mp even
    unfold itemsFrom
    by_cases empty : pcm = []
    · simp [empty,ih later]
    · simp [empty,first,ih later]

theorem chunks_of_prefix {first all : List Pcm} {ending : List StreamItem} (bare : ∀ pcm, .chunk pcm ∉ ending)
    (begins : first.map .chunk <+: all.map .chunk ++ ending) : first <+: all := by
  induction first generalizing all with
  | nil => exact List.nil_prefix
  | cons pcm first ih =>
    cases all with
    | nil =>
      obtain ⟨rest,rfl⟩ := begins
      exact absurd (List.mem_cons_self ..) (bare pcm)
    | cons other all =>
      obtain ⟨same,later⟩ := List.cons_prefix_cons.mp begins
      cases same
      exact List.cons_prefix_cons.mpr ⟨rfl,ih later⟩

/-- A mark comes behind every chunk. -/
theorem chunks_of_mark {first all : List Pcm} {ending : List StreamItem} {mark : StreamItem}
    (bare : ∀ pcm, .chunk pcm ∉ ending) (marks : ∀ pcm, mark ≠ .chunk pcm)
    (begins : first.map .chunk ++ [mark] <+: all.map .chunk ++ ending) : first = all ∧ [mark] <+: ending := by
  induction first generalizing all with
  | nil =>
    cases all with
    | nil => exact ⟨rfl,begins⟩
    | cons pcm all => exact absurd (List.cons_prefix_cons.mp begins).1 (marks pcm)
  | cons pcm first ih =>
    cases all with
    | nil =>
      obtain ⟨rest,rfl⟩ := begins
      exact absurd (List.mem_cons_self ..) (bare pcm)
    | cons other all =>
      obtain ⟨same,later⟩ := List.cons_prefix_cons.mp begins
      cases same
      obtain ⟨same,marked⟩ := ih later
      exact ⟨by rw [same],marked⟩

/-- The generator ended by itself. -/
def StreamOutcome.Natural : StreamOutcome → Prop
  | .finished | .raised _ => True
  | .closed | .cancelled => False

def Consumer.Natural : Consumer → Prop
  | .awaitingProducer outcome | .terminated outcome => outcome.Natural
  | _ => True

namespace PcmBridge
variable {synthesis : Synthesis} {bridge after : PcmBridge} {action : BridgeAction}

/-- Unless it is closed or cancelled, the generator ends by itself. -/
theorem step_natural (natural : bridge.consumer.Natural) (wanted : Wanted action)
    (stepped : bridge.step synthesis action = some after) : after.consumer.Natural := by
  cases action with
  | close => exact absurd rfl wanted.1
  | cancel => exact absurd rfl wanted.2
  | produce =>
    obtain ⟨⟨producer,items,rfl⟩,_⟩ := produce_puts stepped
    exact natural
  | full =>
    obtain ⟨⟨producer,items,rfl⟩,_⟩ := (show Puts synthesis bridge after from full_puts stepped)
    exact natural
  | next => obtain ⟨_,rfl⟩ | ⟨_,rfl⟩ := next_cases stepped <;> trivial
  | receive =>
    obtain ⟨item,_,_,⟨_,_,rfl⟩ | ⟨outcome,mark,rfl⟩⟩ := receive_cases stepped
    · trivial
    · cases outcome with
      | finished | raised => trivial
      | closed | cancelled => cases mark
  | finish =>
    obtain ⟨_,position,_,rfl⟩ := finish_cases stepped
    rwa [position] at natural
  | getterStarts =>
    obtain ⟨_,rfl⟩ := getterStarts_cases stepped
    exact natural
  | getterTakes =>
    obtain ⟨_,_,_,_,rfl⟩ := getterTakes_cases stepped
    exact natural

/-- A generator that ended by itself yielded every chunk, and ended as the synthesizer did. -/
theorem Flows.complete (flows : Flows synthesis bridge) (even : ∀ pcm ∈ synthesis.chunks, pcm.length % 2 = 0)
    {outcome : StreamOutcome} (terminated : bridge.consumer = .terminated outcome) (natural : outcome.Natural) :
    bridge.yielded = synthesis.spoken ∧ outcome = synthesis.outcome := by
  have heard := flows.heard
  rw [synthesis.itemsFrom_even even,terminated] at heard
  cases outcome with
  | finished =>
    obtain ⟨all,marked⟩ := chunks_of_mark synthesis.chunk_notMem_ending (by simp) heard
    refine ⟨all,?_⟩
    unfold Synthesis.outcome
    unfold Synthesis.ending Synthesis.itemsFrom at marked
    cases failure : synthesis.failure with
    | none => rfl
    | some error => simp [failure] at marked
  | raised error =>
    obtain ⟨all,marked⟩ := chunks_of_mark synthesis.chunk_notMem_ending (by simp) heard
    refine ⟨all,?_⟩
    unfold Synthesis.outcome
    unfold Synthesis.ending Synthesis.itemsFrom at marked
    cases failure : synthesis.failure with
    | none => simp [failure] at marked
    | some other =>
      simp only [failure,List.cons_prefix_cons] at marked
      cases marked.1
      rfl
  | closed | cancelled => exact natural.elim

theorem Fed.unblocked (fed : Fed bridge) (stands : Stands bridge) {outcome : StreamOutcome}
    (terminated : bridge.consumer = .terminated outcome) (past : ¬bridge.producer.Tries) : ¬Blocked bridge := by
  rintro (⟨running,nothing⟩ | ⟨tries,_⟩)
  · simp only [Stands,terminated] at stands
    rcases stands with ⟨stopped,_,_⟩ | ⟨_,idle⟩
    · rcases fed stopped running with queued | tries
      · exact queued nothing
      · exact past tries
    · cases idle.symm.trans running
  · exact past tries

/-- A run yields a beginning of the chunks, all of them if it ends undisturbed, and leaves no thread
    blocked if it is cancelled where something comes for the getter. -/
theorem run_streamed (synthesis : Synthesis) (even : ∀ pcm ∈ synthesis.chunks, pcm.length % 2 = 0)
    {actions : List BridgeAction} (ran : Machine.run (step synthesis) created actions = some bridge) :
    bridge.yielded <+: synthesis.spoken ∧
      ((∀ action ∈ actions, Wanted action) → ∀ outcome, bridge.consumer = .terminated outcome →
        bridge.yielded = synthesis.spoken ∧ outcome = synthesis.outcome) ∧
      (Machine.Along (step synthesis) Feeds created actions → ∀ outcome, bridge.consumer = .terminated outcome →
        bridge.producer = .ended ∨ bridge.producer = .absent → ¬Blocked bridge) := by
  refine ⟨?_,?_,?_⟩
  · obtain ⟨_,flows⟩ := reached synthesis ran
    have heard := (List.prefix_append _ _).trans flows.heard
    rw [synthesis.itemsFrom_even even] at heard
    exact chunks_of_prefix synthesis.chunk_notMem_ending heard
  · intro undisturbed outcome terminated
    obtain ⟨_,flows⟩ := reached synthesis ran
    have natural : bridge.consumer.Natural :=
      Machine.invariant_along (step synthesis) (fun bridge => bridge.consumer.Natural)
        (fun _ _ _ natural wanted stepped => step_natural natural wanted stepped) (show created.consumer.Natural from trivial)
        (Machine.along_of_forall (step synthesis) undisturbed created) ran
    rw [terminated] at natural
    exact flows.complete even terminated natural
  · intro along outcome terminated past
    have kept : Stands bridge ∧ Fed bridge :=
      Machine.invariant_along (step synthesis) (fun bridge => Stands bridge ∧ Fed bridge)
        (fun _ _ _ holds feeds stepped => ⟨holds.1.step stepped,holds.2.step holds.1 feeds stepped⟩)
        ⟨created_stands,by simp [Fed,created]⟩ along ran
    refine kept.2.unblocked kept.1 terminated ?_
    rintro ⟨item,rest,trying⟩
    rcases past with ended | absent
    · cases ended.symm.trans trying
    · cases absent.symm.trans trying

/-- Every run yields a beginning of the chunks in order, and all of them when nothing closes or
    cancels it, which then ends as the synthesizer did. No thread is left blocked unless a
    cancellation leaves behind a call of `items.get` with nothing to take. The same holds at every
    time of a fair schedule, and under it the generator does end. -/
theorem pcm_streamed (synthesis : Synthesis) (even : ∀ pcm ∈ synthesis.chunks, pcm.length % 2 = 0) :
    (∀ actions bridge, Machine.run (step synthesis) created actions = some bridge →
      bridge.yielded <+: synthesis.spoken ∧
      ((∀ action ∈ actions, Wanted action) → ∀ outcome, bridge.consumer = .terminated outcome →
        bridge.yielded = synthesis.spoken ∧ outcome = synthesis.outcome) ∧
      (Machine.Along (step synthesis) Feeds created actions → ∀ outcome, bridge.consumer = .terminated outcome →
        bridge.producer = .ended ∨ bridge.producer = .absent → ¬Blocked bridge)) ∧
    ∀ schedule : ℕ → BridgeAction, Machine.Fair Wanted schedule →
      (∀ time, (Machine.attempts (step synthesis) created schedule time).yielded <+: synthesis.spoken) ∧
      (∃ time outcome, (Machine.attempts (step synthesis) created schedule time).consumer = .terminated outcome ∧
        ((∀ time, Wanted (schedule time)) →
          (Machine.attempts (step synthesis) created schedule time).yielded = synthesis.spoken ∧ outcome = synthesis.outcome)) ∧
      ((∀ time, Feeds (Machine.attempts (step synthesis) created schedule time) (schedule time)) → ∀ time outcome,
        (Machine.attempts (step synthesis) created schedule time).consumer = .terminated outcome →
          (Machine.attempts (step synthesis) created schedule time).producer = .ended ∨
            (Machine.attempts (step synthesis) created schedule time).producer = .absent →
          ¬Blocked (Machine.attempts (step synthesis) created schedule time)) := by
  refine ⟨fun actions bridge ran => run_streamed synthesis even ran,fun schedule fair => ⟨?_,?_,?_⟩⟩
  · intro time
    obtain ⟨actions,ran,_⟩ := @Machine.attempts_ran _ _ (step synthesis) created schedule (fun _ _ => True)
      (fun _ => trivial) time
    exact (run_streamed synthesis even ran).1
  · obtain ⟨time,outcome,terminated⟩ := terminates synthesis fair
    refine ⟨time,outcome,terminated,fun undisturbed => ?_⟩
    obtain ⟨actions,ran,scheduled,_⟩ := @Machine.attempts_ran _ _ (step synthesis) created schedule (fun _ _ => True)
      (fun _ => trivial) time
    refine (run_streamed synthesis even ran).2.1 (fun action member => ?_) outcome terminated
    obtain ⟨earlier,rfl⟩ := scheduled action member
    exact undisturbed earlier
  · intro feeds time outcome terminated past
    obtain ⟨actions,ran,_,along⟩ := Machine.attempts_ran (step synthesis) created schedule feeds time
    exact (run_streamed synthesis even ran).2.2 along outcome terminated past

/-- One chunk of one sample. -/
def exampleSynthesis : Synthesis := ⟨[[1,0]],none⟩

/-- A run of the example to its end, with a cancellation while the end marker is on the queue. -/
def cancelledActions : List BridgeAction :=
  [.next,.produce,.produce,.produce,.produce,.getterStarts,.getterTakes,.receive,.next,.getterStarts,.produce,.produce,
    .produce,.cancel,.finish,.getterTakes]

/-- Every party in turn. -/
def roundRobin (time : ℕ) : BridgeAction :=
  match time % 7 with
  | 0 => .next
  | 1 => .receive
  | 2 => .finish
  | 3 => .getterStarts
  | 4 => .getterTakes
  | 5 => .produce
  | _ => .full

theorem roundRobin_fair : Machine.Fair Wanted roundRobin := by
  have turn : ∀ place, place < 7 → ∀ time, ∃ later, time ≤ later ∧ roundRobin later = roundRobin place := by
    intro place small time
    refine ⟨7 * time + place,by omega,?_⟩
    have position : (7 * time + place) % 7 = place % 7 := by omega
    unfold roundRobin
    rw [position]
  intro action wanted
  cases action with
  | next => exact turn 0 (by omega)
  | receive => exact turn 1 (by omega)
  | finish => exact turn 2 (by omega)
  | getterStarts => exact turn 3 (by omega)
  | getterTakes => exact turn 4 (by omega)
  | produce => exact turn 5 (by omega)
  | full => exact turn 6 (by omega)
  | close => exact absurd rfl wanted.1
  | cancel => exact absurd rfl wanted.2

theorem pcm_streamed_cancelled : (∃ bridge, Machine.run (step exampleSynthesis) created cancelledActions = some bridge ∧
    bridge.yielded <+: exampleSynthesis.spoken ∧ ¬Blocked bridge) ∧
    ∃ time outcome, (Machine.attempts (step exampleSynthesis) created roundRobin time).consumer = .terminated outcome := by
  obtain ⟨runs,ends⟩ := pcm_streamed exampleSynthesis (by decide)
  obtain ⟨_,⟨time,outcome,terminated,_⟩,_⟩ := ends _ roundRobin_fair
  refine ⟨⟨_,rfl,(runs cancelledActions _ rfl).1,(runs cancelledActions _ rfl).2.2 ?_ _ rfl (.inl rfl)⟩,time,outcome,terminated⟩
  have checked : Machine.check (step exampleSynthesis)
      (fun bridge action => decide (action = .cancel → bridge.items ≠ [])) created cancelledActions = true := by decide
  refine (Machine.along_of_check (step exampleSynthesis) checked).mono (step exampleSynthesis) ?_
  intro bridge action queued cancels _ _
  exact .inl (of_decide_eq_true queued cancels)

/-- A cancelled call of `items.get` that runs already, before the producer has put anything. -/
def strandedActions : List BridgeAction :=
  [.next,.getterStarts,.cancel,.produce,.produce,.produce,.finish]

theorem getter_stranded : ∃ synthesis actions bridge, (∀ pcm ∈ synthesis.chunks, pcm.length % 2 = 0) ∧
    Machine.run (step synthesis) created actions = some bridge ∧ bridge.consumer = .terminated .cancelled ∧
    bridge.producer = .ended ∧ Blocked bridge ∧ ∀ action, bridge.step synthesis action = none := by
  refine ⟨exampleSynthesis,strandedActions,_,by decide,rfl,rfl,rfl,.inl ⟨rfl,rfl⟩,?_⟩
  intro action
  cases action <;> rfl

end PcmBridge
end SpeechGateway
