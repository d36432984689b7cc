import SpeechGateway.Handshake
import SpeechGateway.JsonCompact

/-!
`stream_asr_client.py` against the server. Its receiver checks every message as JSON; with
`--verify-protocol` it accepts exactly the streams that the server finished and that had a sentence,
and then the server had the key and the audio of the client (`strict_client_verifies`). What it
prints is left out.
-/
namespace SpeechGateway.Client
open SpeechGateway.Streaming SpeechGateway.Vad SpeechGateway.Display SpeechGateway.Connections Programs
open SpeechGateway.Stateful (Failure)
open JsonText (JsonError Nesting Printable Value)
open Unicode (Str char)

def typeName : EventType → String
  | .ready => "ready"
  | .partialText => "partial"
  | .sentenceFinal => "sentence_final"
  | .final => "final"
  | .error => "error"

/-- The payload of `_send_event`. -/
def eventPayload (event : TranscriptEvent) : Payload :=
  [(str "type",.str (str (typeName event.type))),(str "sequence",.int event.sequence)] ++
    if event.type ∈ [.partialText,.sentenceFinal,.final] then [(str "text",.str (event.text.map char))] else []

/-- The payload of `fail`. -/
def failurePayload (failure : Failure) (sequence : Nat) : Payload :=
  [(str "type",.str (str "error")),(str "code",.str (str failure.code)),(str "message",.str (str failure.message)),
    (str "sequence",.int sequence)]

/-- `send_json`. -/
def sendJson (payload : Payload) : Str := JsonText.compact [] (.dict payload)

/-- The message of a frame. -/
def message : Frame → Option Str
  | .event event => some (sendJson (eventPayload event))
  | .error failure sequence => some (sendJson (failurePayload failure sequence))
  | .close _ => none

/-- The number of a frame has no more digits than Python writes. -/
def Writable : Frame → Prop
  | .event event => Printable event.sequence
  | .error _ sequence => Printable sequence
  | .close _ => True

def closing : Frame → Option Nat
  | .close code => some code
  | _ => none

inductive StreamProtocol
  | legacy
  | gateway
  deriving DecidableEq, Repr

/-- The arguments that are sent. `--sample-rate` was read by `int`. -/
structure ClientArgs where
  apiKey : Str
  language : Str
  sampleRate : Int
  protocol : StreamProtocol
  ratePrintable : Printable sampleRate

/-- `build_start_message`. -/
def buildStartMessage (args : ClientArgs) : Payload :=
  [(str "type",.str (str "start")),(str "language",.str args.language),(str "sample_rate",.int args.sampleRate),
    (str "format",.str (str "pcm_s16le"))] ++
    match args.protocol with
    | .legacy => [(str "api_key",.str args.apiKey)]
    | .gateway => []

def finishMessage (protocol : StreamProtocol) : Payload :=
  [(str "type",.str (str (if protocol = .legacy then "end" else "finish")))]

/-- `json.dumps(payload, ensure_ascii=False)`. -/
def dumps (payload : Payload) : Str := JsonText.compact [char ' '] (.dict payload)

/-- `send_audio`, of these chunks from `ffmpeg`. -/
def sendAudio (args : ClientArgs) (chunks : List Pcm) : List Message :=
  (chunks.map fun chunk => ⟨false,some chunk,none⟩) ++ [⟨false,none,some (dumps (finishMessage args.protocol))⟩]

def sentMessages (args : ClientArgs) (chunks : List Pcm) : List Message :=
  ⟨false,none,some (dumps (buildStartMessage args))⟩ :: sendAudio args chunks

/-- What a server may receive of a client that sends these messages: they come in their order, the
    server may lose its patience before each of them, and the client may leave at any time. -/
inductive Received : List Message → List Arrival → Prop
  | nothing (messages : List Message) : Received messages []
  | timedOut {messages : List Message} {arrivals : List Arrival} (later : Received messages arrivals) :
    Received messages (.timedOut :: arrivals)
  | message (message : Message) {messages : List Message} {arrivals : List Arrival} (later : Received messages arrivals) :
    Received (message :: messages) (.message message :: arrivals)
  | left (messages : List Message) : Received messages [.message ⟨true,none,none⟩]

inductive SequenceWarning
  | notIncreasing (sequence previous : Int)
  | gap (expected got : Int)

/-- What a client gives up with: a `StreamClientError`, a socket that closed before a message, what
    `json.loads` raises besides `JSONDecodeError`, or the `TypeError` of a type that is not hashable. -/
inductive ClientError
  | said (text : String)
  | sequence (warning : SequenceWarning)
  | notPositive (sequence : Option Value)
  | notReady (payload : Payload)
  | notFirst (sequence : Option Value)
  | server (code text : Option Value)
  | closeCode (code : Nat)
  | finals (count : Nat)
  | ffmpeg (status : Int)
  | connectionClosed
  | json (error : JsonError)
  | unhashable

/-- A Python `int`, of which a `bool` is one. -/
def integer : Option Value → Option Int
  | some (.int n) => some n
  | some (.bool b) => some (if b then 1 else 0)
  | _ => none

structure SequenceTracker where
  lastSequence : Option Int := none

/-- `SequenceTracker.observe`, of a payload with any `sequence`. -/
def SequenceTracker.observe (tracker : SequenceTracker) (payload : Payload) : Option SequenceWarning × SequenceTracker :=
  match integer (payload.lookup (str "sequence")) with
  | none => (none,tracker)
  | some sequence =>
    match tracker.lastSequence with
    | none => (none,⟨some sequence⟩)
    | some previous =>
      if sequence ≤ previous then (some (.notIncreasing sequence previous),⟨some sequence⟩) else
      if sequence ≠ previous + 1 then (some (.gap (previous + 1) sequence),⟨some sequence⟩) else
      (none,⟨some sequence⟩)

/-- The state of the loop of `receive_messages`. -/
structure Receiver where
  tracker : SequenceTracker
  finalCount : Nat := 0
  sentenceFinalCount : Nat := 0
  events : List Payload

/-- A sequence that is an integer, no `bool`, and positive. -/
def isPositive : Option Value → Bool
  | some (.int n) => decide (0 < n)
  | _ => false

/-- A value that can be looked up in a set. -/
def isHashable : Option Value → Bool
  | some (.list _) | some (.dict _) => false
  | _ => true

/-- What the loop does with an object. With either `--print-mode` its type is looked up in a set. -/
def Receiver.note (verifyProtocol : Bool) (receiver : Receiver) (payload : Payload) : Except ClientError Receiver :=
  let sequence := payload.lookup (str "sequence")
  if verifyProtocol && !isPositive sequence then .error (.notPositive sequence) else
  let (warning,tracker) := receiver.tracker.observe payload
  match warning.filter fun _ => verifyProtocol with
  | some warning => .error (.sequence warning)
  | none =>
    let type := payload.lookup (str "type")
    if Value.isStr "error" type then .error (.server (payload.lookup (str "code")) (payload.lookup (str "message"))) else
    if !isHashable type then .error .unhashable else
    .ok { tracker
          finalCount := receiver.finalCount + if Value.isStr "final" type then 1 else 0
          sentenceFinalCount := receiver.sentenceFinalCount + if Value.isStr "sentence_final" type then 1 else 0
          events := receiver.events ++ [payload] }

/-- What the loop does with a message. -/
def Receiver.take (room : Nesting) (verifyProtocol : Bool) (receiver : Receiver) (message : Str) :
    Except ClientError Receiver :=
  if verifyProtocol && decide (receiver.finalCount ≠ 0) then .error (.said "server sent an event after final") else
  match JsonText.loads room message with
  | .error .decode => if verifyProtocol then .error (.said "server returned a malformed JSON event") else .ok receiver
  | .error error => .error (.json error)
  | .ok (.dict payload) => receiver.note verifyProtocol payload
  | .ok _ => .error (.said "server returned a non-object event")

def Receiver.takeAll (room : Nesting) (verifyProtocol : Bool) : List Str → Receiver → Except ClientError Receiver
  | [],receiver => .ok receiver
  | message :: later,receiver => (receiver.take room verifyProtocol message).bind (takeAll room verifyProtocol later)

/-- What is wrong with the close code that was received, if any was. -/
def closeFault : Option Nat → Option ClientError
  | none => some (.said "server did not send a received close frame; expected normal close code 1000")
  | some code => if code ≠ 1000 then some (.closeCode code) else none

/-- What follows the loop. -/
def Receiver.close (verifyProtocol : Bool) (receiver : Receiver) (received : Option Nat) : Except ClientError (List Payload) :=
  match if verifyProtocol then closeFault received else none with
  | some fault => .error fault
  | none =>
    if receiver.finalCount = 0 then .error (.said "server closed before final") else
    if receiver.finalCount ≠ 1 then .error (.finals receiver.finalCount) else
    if verifyProtocol && decide (receiver.sentenceFinalCount = 0) then
      .error (.said "server sent no sentence_final event for speech audio")
    else .ok receiver.events

/-- `receive_messages`, after the first payload. -/
def receiveMessages (room : Nesting) (verifyProtocol : Bool) (tracker : SequenceTracker) (first : Payload)
    (messages : List Str) (received : Option Nat) : Except ClientError (List Payload) :=
  (Receiver.takeAll room verifyProtocol messages { tracker, events := [first] }).bind fun receiver =>
    receiver.close verifyProtocol received

/-- A sequence that is the integer 1, no `bool`. -/
def isFirst : Option Value → Bool
  | some (.int n) => decide (n = 1)
  | _ => false

/-- `validate_ready_event`. -/
def validateReadyEvent (verifyProtocol : Bool) (payload : Payload) : Except ClientError SequenceTracker :=
  if !Value.isStr "ready" (payload.lookup (str "type")) then .error (.notReady payload) else
  if verifyProtocol && !isFirst (payload.lookup (str "sequence")) then .error (.notFirst (payload.lookup (str "sequence"))) else
  .ok (SequenceTracker.observe {} payload).2

/-- The first message. -/
def receiveReady (room : Nesting) (verifyProtocol : Bool) (message : Str) :
    Except ClientError (Payload × SequenceTracker) :=
  match JsonText.loads room message with
  | .error .decode => .error (.said "server returned an invalid ready response")
  | .error error => .error (.json error)
  | .ok (.dict first) =>
    if Value.isStr "error" (first.lookup (str "type")) then
      .error (.server (first.lookup (str "code")) (first.lookup (str "message"))) else
    (validateReadyEvent verifyProtocol first).map fun tracker => (first,tracker)
  | .ok _ => .error (.said "server returned a non-object ready response")

/-- The tasks that `asyncio.wait` found done, in the order in which they are looked at. -/
inductive Done
  | sender
  | receiver
  | senderReceiver
  | receiverSender
  deriving DecidableEq, Repr

/-- `run_stream_tasks`, of tasks that end so. -/
def runStreamTasks {α : Type} (done : Done) (sender : Except ClientError Unit) (receiver : Except ClientError α) :
    Except ClientError α :=
  match done with
  | .sender | .senderReceiver => sender.bind fun _ => receiver
  | .receiver => receiver.bind fun _ => .error (.said "server closed before final audio was sent")
  | .receiverSender => receiver.bind fun events => sender.map fun _ => events

/-- `stream_audio`, of a server that wrote these messages and closed with `received`. -/
def streamAudio (room : Nesting) (verifyProtocol : Bool) (messages : List Str) (received : Option Nat) (done : Done)
    (sender : Except ClientError Unit) : Except ClientError (List Payload) :=
  match messages with
  | [] => .error .connectionClosed
  | first :: later =>
    (receiveReady room verifyProtocol first).bind fun (payload,tracker) =>
      runStreamTasks done sender (receiveMessages room verifyProtocol tracker payload later received)

/-- `stream_audio`, of a client that read the frames of a connection. A connection that ends without a
    close of `transcribe_stream` is not closed normally. -/
def streamFrames (room : Nesting) (verifyProtocol : Bool) (frames : List Frame) (done : Done)
    (sender : Except ClientError Unit) : Except ClientError (List Payload) :=
  streamAudio room verifyProtocol (frames.filterMap message) (frames.getLast?.bind closing) done sender

/-- Distinct keys, and behind each a string or an integer that is written. -/
def Plain (payload : Payload) : Prop :=
  (payload.map Prod.fst).Nodup ∧ ∀ member ∈ payload, member.2.Exact ∧ member.2.nesting ≤ 0

theorem loads_plain {room : Nesting} {gap : Str} (blank : ∀ c ∈ gap, JsonText.isBlank c = true) {payload : Payload}
    (plain : Plain payload) : JsonText.loads room (JsonText.compact gap (.dict payload)) = .ok (.dict payload) := by
  obtain ⟨distinct,each⟩ := plain
  have shallow := JsonText.nesting_dict fun member inside => (each member inside).2
  have three := room.property
  exact JsonText.loads_compact blank (JsonText.exact_dict distinct fun member inside => (each member inside).1) (by omega)

theorem loads_sendJson {room : Nesting} {payload : Payload} (plain : Plain payload) :
    JsonText.loads room (sendJson payload) = .ok (.dict payload) := loads_plain (List.forall_mem_nil _) plain

theorem loads_dumps {room : Nesting} {payload : Payload} (plain : Plain payload) :
    JsonText.loads room (dumps payload) = .ok (.dict payload) :=
  loads_plain (by simp only [List.mem_singleton,forall_eq]; decide) plain

theorem eventPayload_plain {event : TranscriptEvent} (printable : Printable event.sequence) : Plain (eventPayload event) := by
  have keys : [str "type",str "sequence"].Nodup := by decide
  have keys' : [str "type",str "sequence",str "text"].Nodup := by decide
  unfold eventPayload
  split
  · exact ⟨keys',by simpa [Value.Exact,Value.nesting] using printable⟩
  · exact ⟨keys,by simpa [Value.Exact,Value.nesting] using printable⟩

theorem failurePayload_plain (failure : Failure) {sequence : Nat} (printable : Printable sequence) :
    Plain (failurePayload failure sequence) := by
  have keys : [str "type",str "code",str "message",str "sequence"].Nodup := by decide
  exact ⟨keys,by simpa [failurePayload,Value.Exact,Value.nesting] using printable⟩

theorem eventPayload_sequence (event : TranscriptEvent) :
    (eventPayload event).lookup (str "sequence") = some (.int event.sequence) := rfl

theorem isStr_typeName (type other : EventType) :
    Value.isStr (typeName type) (some (.str (str (typeName other)))) = decide (other = type) := by
  cases type <;> cases other <;> decide

/-! ## What a strict receiver accepts -/

section
variable {room : Nesting}

/-- The next event is noted. -/
theorem take_event {receiver : Receiver} {event : TranscriptEvent} {last : Nat} (going : receiver.finalCount = 0)
    (tracked : receiver.tracker.lastSequence = some (last : Int)) (next : event.sequence = last + 1)
    (printable : Printable event.sequence) (fine : event.type ≠ .error) :
    receiver.take room true (sendJson (eventPayload event)) = .ok
      { tracker := ⟨some event.sequence⟩
        finalCount := if event.type = .final then 1 else 0
        sentenceFinalCount := receiver.sentenceFinalCount + if event.type = .sentenceFinal then 1 else 0
        events := receiver.events ++ [eventPayload event] } := by
  have positive : isPositive (some (.int event.sequence)) = true := by
    simp [isPositive,next]
  have observed : receiver.tracker.observe (eventPayload event) = (none,⟨some event.sequence⟩) := by
    unfold SequenceTracker.observe
    rw [eventPayload_sequence]
    simp only [integer,tracked,next]
    rw [if_neg (by omega),if_neg (by simp)]
  have isError : Value.isStr "error" ((eventPayload event).lookup (str "type")) = decide (event.type = .error) :=
    isStr_typeName .error event.type
  have isFinal : Value.isStr "final" ((eventPayload event).lookup (str "type")) = decide (event.type = .final) :=
    isStr_typeName .final event.type
  have isSentence : Value.isStr "sentence_final" ((eventPayload event).lookup (str "type")) =
      decide (event.type = .sentenceFinal) := isStr_typeName .sentenceFinal event.type
  have hashable : isHashable ((eventPayload event).lookup (str "type")) = true := rfl
  unfold Receiver.take Receiver.note
  simp [loads_sendJson (eventPayload_plain printable),going,eventPayload_sequence,positive,observed,isError,isFinal,isSentence,
    hashable,fine]

/-- Events with consecutive numbers, of which only the last can be final, are noted one after another. -/
theorem takeAll_events {receiver : Receiver} {events : List TranscriptEvent} {last : Nat} (more : List Str)
    (going : receiver.finalCount = 0) (tracked : receiver.tracker.lastSequence = some (last : Int))
    (numbered : events.map (·.sequence) = List.range' (last + 1) events.length)
    (printable : ∀ event ∈ events, Printable event.sequence) (ordered : Ordered events) :
    Receiver.takeAll room true ((events.map fun event => sendJson (eventPayload event)) ++ more) receiver =
      Receiver.takeAll room true more
        { tracker := ⟨some ((last + events.length : Nat) : Int)⟩
          finalCount := events.countP (·.type = .final)
          sentenceFinalCount := receiver.sentenceFinalCount + events.countP (·.type = .sentenceFinal)
          events := receiver.events ++ events.map eventPayload } := by
  induction events generalizing receiver last with
  | nil =>
    obtain ⟨⟨tracked'⟩,finals,sentences,noted⟩ := receiver
    dsimp only at going tracked
    simp [going,tracked]
  | cons event later ih =>
    rw [List.map_cons,List.length_cons,List.range'_succ,List.cons.injEq] at numbered
    obtain ⟨next,numbered⟩ := numbered
    obtain ⟨apart,fine⟩ := ordered
    rw [List.pairwise_cons] at apart
    obtain ⟨first,printable⟩ := List.forall_mem_cons.mp printable
    rw [List.map_cons,List.cons_append,Receiver.takeAll,take_event going tracked next first (fine event List.mem_cons_self)]
    have shifted : last + 1 + later.length = last + (event :: later).length := by
      rw [List.length_cons]
      omega
    by_cases final : event.type = .final
    · -- Nothing follows a final event.
      obtain rfl : later = [] := List.eq_nil_iff_forall_not_mem.mpr fun other member => apart.1 other member final
      simp [Except.bind,final,next]
    · show Receiver.takeAll room true _ _ = _
      rw [ih (if_neg final) (by simp only [next]) numbered printable
        ⟨apart.2,fun other member => fine other (List.mem_cons_of_mem _ member)⟩,shifted]
      simp [List.countP_cons,final,Nat.add_assoc,Nat.add_comm]

/-- An error is never accepted. -/
theorem take_failure (receiver : Receiver) (failure : Failure) {sequence : Nat} (printable : Printable sequence) :
    ∃ exc, receiver.take room true (sendJson (failurePayload failure sequence)) = .error exc := by
  unfold Receiver.take Receiver.note
  rw [loads_sendJson (failurePayload_plain failure printable)]
  dsimp only
  split
  · exact ⟨_,rfl⟩
  · split
    · exact ⟨_,rfl⟩
    · split <;> exact ⟨_,rfl⟩

theorem takeAll_failure {α : Type} (failure : Failure) {sequence : Nat} (printable : Printable sequence) (more : List Str)
    (receiver : Receiver) (next : Receiver → Except ClientError α) (result : α) :
    (Receiver.takeAll room true (sendJson (failurePayload failure sequence) :: more) receiver).bind next ≠ .ok result := by
  obtain ⟨exc,refused⟩ := @take_failure room receiver failure _ printable
  rw [Receiver.takeAll,refused]
  exact nofun

/-- Where there is a final event, there is one. -/
theorem finals_count {events : List TranscriptEvent} (ordered : Ordered events) (final : ∃ event ∈ events, event.type = .final) :
    events.countP (·.type = .final) = 1 := by
  have apart := ordered.1
  clear ordered
  induction events with
  | nil =>
    obtain ⟨event,member,_⟩ := final
    exact absurd member List.not_mem_nil
  | cons first later ih =>
    rw [List.pairwise_cons] at apart
    by_cases here : first.type = .final
    · obtain rfl : later = [] := List.eq_nil_iff_forall_not_mem.mpr fun other member => apart.1 other member here
      simp [here]
    · obtain ⟨event,member,type⟩ := final
      rcases List.mem_cons.mp member with rfl | inside
      · exact absurd type here
      · simpa [List.countP_cons,here] using ih ⟨event,inside,type⟩ apart.2

theorem runStreamTasks_ok {α : Type} {done : Done} {sender : Except ClientError Unit} {receiver : Except ClientError α}
    {result : α} : runStreamTasks done sender receiver = .ok result ↔
      done ≠ .receiver ∧ sender = .ok () ∧ receiver = .ok result := by
  cases done <;> cases sender <;> cases receiver <;> simp [runStreamTasks,Except.bind,Except.map]

theorem receiveReady_failure (failure : Failure) {sequence : Nat} (printable : Printable sequence) :
    ∃ exc, receiveReady room true (sendJson (failurePayload failure sequence)) = .error exc := by
  unfold receiveReady
  rw [loads_sendJson (failurePayload_plain failure printable)]
  exact ⟨_,rfl⟩

theorem receiveReady_ready {event : TranscriptEvent} (ready : event.type = .ready) (one : event.sequence = 1) :
    receiveReady room true (sendJson (eventPayload event)) = .ok (eventPayload event,⟨some 1⟩) := by
  have printable : Printable event.sequence := by
    rw [one]
    decide
  have isError : Value.isStr "error" ((eventPayload event).lookup (str "type")) = decide (event.type = .error) :=
    isStr_typeName .error event.type
  have isReady : Value.isStr "ready" ((eventPayload event).lookup (str "type")) = decide (event.type = .ready) :=
    isStr_typeName .ready event.type
  unfold receiveReady validateReadyEvent SequenceTracker.observe
  simp [loads_sendJson (eventPayload_plain printable),isError,isReady,ready,eventPayload_sequence,one,isFirst,integer,Except.map]

theorem close_ok {receiver : Receiver} {received : Option Nat} {events : List Payload} :
    receiver.close true received = .ok events ↔
      received = some 1000 ∧ receiver.finalCount = 1 ∧ receiver.sentenceFinalCount ≠ 0 ∧ events = receiver.events := by
  unfold Receiver.close
  rw [if_pos rfl]
  cases received with
  | none => simp [closeFault]
  | some code =>
    by_cases normal : code = 1000
    · by_cases single : receiver.finalCount = 1
      · by_cases silent : receiver.sentenceFinalCount = 0
        · simp [closeFault,normal,single,silent]
        · simp [closeFault,normal,single,silent,eq_comm]
      · by_cases none : receiver.finalCount = 0
        · simp [closeFault,normal,none]
        · simp [closeFault,normal,none,single]
    · simp [closeFault,normal]

theorem messages_events (events : List TranscriptEvent) (ending : List Frame) :
    (events.map Frame.event ++ ending).filterMap message =
      (events.map fun event => sendJson (eventPayload event)) ++ ending.filterMap message := by
  rw [List.filterMap_append,List.filterMap_map]
  congr 1
  exact congrFun List.filterMap_eq_map' events

theorem closing_events (events : List TranscriptEvent) : (events.map Frame.event).getLast?.bind closing = none := by
  rw [List.getLast?_map]
  cases events.getLast? <;> rfl

/-- With `--verify-protocol`, the streams that are accepted are those that the server finished and
    that had a sentence. -/
theorem streamFrames_ok {sent : List TranscriptEvent} {socket : Socket} {ending : List Frame}
    (numbered : sent.map (·.sequence) = List.range' 1 sent.length)
    (opens : ∀ first, sent.head? = some first → first.type = .ready) (ordered : Ordered sent) (ends : Ending sent socket ending)
    (writable : ∀ frame ∈ sent.map Frame.event ++ ending, Writable frame)
    {done : Done} {sender : Except ClientError Unit} {events : List Payload} :
    streamFrames room true (sent.map .event ++ ending) done sender = .ok events ↔
      done ≠ .receiver ∧ sender = .ok () ∧ ending = [.close 1000] ∧ (∃ event ∈ sent, event.type = .sentenceFinal) ∧
        events = sent.map eventPayload := by
  obtain ⟨printable,ended⟩ := List.forall_mem_append.mp writable
  rw [List.forall_mem_map] at printable
  unfold streamFrames streamAudio
  rw [messages_events]
  cases sent with
  | nil =>
    -- Without an event, the first message is an error or none.
    cases ends with
    | talking => simp
    | left => simp
    | leftAtError failure sequence later =>
      obtain ⟨exc,refused⟩ := @receiveReady_failure room failure sequence (ended _ List.mem_cons_self)
      simp [message,refused,Except.bind]
    | failed failure sequence later abnormal =>
      obtain ⟨exc,refused⟩ := @receiveReady_failure room failure sequence (ended _ List.mem_cons_self)
      simp [message,refused,Except.bind]
    | finished final =>
      obtain ⟨event,member,_⟩ := final
      exact absurd member List.not_mem_nil
  | cons first later =>
    have ready := opens first rfl
    rw [List.map_cons,List.length_cons,List.range'_succ,List.cons.injEq] at numbered
    obtain ⟨one,numbered⟩ := numbered
    have ordered' : Ordered later :=
      ⟨(List.pairwise_cons.mp ordered.1).2,fun event member => ordered.2 event (List.mem_cons_of_mem _ member)⟩
    have noted (more : List Str) :=
      @takeAll_events room { tracker := ⟨some 1⟩, events := [eventPayload first] } later 1 more rfl rfl numbered
        (fun event member => printable event (List.mem_cons_of_mem _ member)) ordered'
    rw [List.map_cons,List.cons_append]
    dsimp only
    rw [receiveReady_ready ready one]
    show runStreamTasks done sender (receiveMessages _ _ _ _ _ _) = .ok events ↔ _
    rw [runStreamTasks_ok]
    unfold receiveMessages
    rw [noted]
    refine and_congr_right fun _ => and_congr_right fun _ => ?_
    cases ends with
    | talking =>
      rw [List.append_nil,closing_events]
      simp [Receiver.takeAll,Except.bind,close_ok]
    | left =>
      rw [List.append_nil,closing_events]
      simp [Receiver.takeAll,Except.bind,close_ok]
    | leftAtError failure sequence later =>
      exact iff_of_false (takeAll_failure failure (ended (.error failure sequence) List.mem_cons_self) [] _ _ _) (by simp)
    | failed failure sequence later abnormal =>
      exact iff_of_false (takeAll_failure failure (ended (.error failure sequence) List.mem_cons_self) [] _ _ _) (by simp)
    | finished final =>
      have single := finals_count ordered final
      rw [List.countP_cons,ready,if_neg (by decide),Nat.add_zero] at single
      have sentences : later.countP (·.type = .sentenceFinal) ≠ 0 ↔ ∃ event ∈ first :: later, event.type = .sentenceFinal := by
        simp [ready]
      simp only [List.filterMap_cons,message,List.filterMap_nil,Receiver.takeAll,Except.bind,close_ok,single,
        List.getLast?_concat,Option.bind_some,closing,Nat.zero_add,true_and,sentences]
      rfl

end

/-! ## A client and a server -/

/-- A finished stream is one whose last frame closes it normally. -/
theorem ending_finished {sent : List TranscriptEvent} {socket : Socket} {ending : List Frame} (ends : Ending sent socket ending) :
    ending = [.close 1000] ↔ (sent.map Frame.event ++ ending).getLast? = some (.close 1000) := by
  have event : (sent.map Frame.event).getLast? ≠ some (.close 1000) := by
    rw [List.getLast?_map]
    cases sent.getLast? <;> simp
  cases ends with
  | talking => exact iff_of_false (List.cons_ne_nil _ _).symm (by rwa [List.append_nil])
  | left => exact iff_of_false (List.cons_ne_nil _ _).symm (by rwa [List.append_nil])
  | leftAtError failure sequence later => simp
  | failed failure sequence later abnormal => simpa using abnormal
  | finished final => simp

theorem ending_final {sent : List TranscriptEvent} {socket : Socket} (ends : Ending sent socket [.close 1000]) :
    ∃ event ∈ sent, event.type = .final := by
  cases ends with
  | finished final => exact final

theorem buildStartMessage_plain (args : ClientArgs) : Plain (buildStartMessage args) := by
  have keys : [str "type",str "language",str "sample_rate",str "format"].Nodup := by decide
  have keys' : [str "type",str "language",str "sample_rate",str "format",str "api_key"].Nodup := by decide
  have printable := args.ratePrintable
  unfold buildStartMessage
  split
  · exact ⟨keys',by simpa [Value.Exact,Value.nesting] using printable⟩
  · exact ⟨keys,by simpa [Value.Exact,Value.nesting] using printable⟩

theorem finishMessage_plain (protocol : StreamProtocol) : Plain (finishMessage protocol) :=
  ⟨List.nodup_singleton _,by simp [finishMessage,Value.Exact,Value.nesting]⟩

theorem start_apiKey (args : ClientArgs) :
    (buildStartMessage args).lookup (str "api_key") = if args.protocol = .legacy then some (.str args.apiKey) else none := by
  obtain ⟨apiKey,language,sampleRate,protocol,_⟩ := args
  cases protocol <;> rfl

theorem start_sampleRate (args : ClientArgs) :
    (buildStartMessage args).lookup (str "sample_rate") = some (.int args.sampleRate) := rfl

/-- The client of an authentic start message. -/
theorem authentic_args {settings : ConnectionSettings} {args : ClientArgs} (authentic : Authentic settings (buildStartMessage args)) :
    args.protocol = .legacy ∧ args.apiKey = settings.apiKey ∧ args.sampleRate = 16000 := by
  have key := authentic.apiKey
  have rate := authentic.sampleRate
  rw [start_apiKey] at key
  rw [start_sampleRate] at rate
  split_ifs at key with legacy
  refine ⟨legacy,Value.str.inj (Option.some.inj key),?_⟩
  rcases rate with none | same
  · cases none
  · exact Value.int.inj (Option.some.inj same)

theorem finish_ends {args : ClientArgs} (legacy : args.protocol = .legacy) (room : Nesting) :
    (Arrival.message ⟨false,none,some (dumps (finishMessage args.protocol))⟩).ends room = true := by
  have command : readCommand room (dumps (finishMessage .legacy)) = .finish := by
    unfold readCommand
    rw [loads_dumps (finishMessage_plain .legacy)]
    rfl
  show (readCommand room (dumps (finishMessage args.protocol)) == .finish) = true
  rw [legacy,command]
  rfl

/-- The audio before the command that ends the stream is what the client sent. -/
theorem spoken_sendAudio {args : ClientArgs} (legacy : args.protocol = .legacy) {room : Nesting} {chunks : List Pcm}
    {arrivals : List Arrival} (received : Received (sendAudio args chunks) arrivals)
    (ended : ∃ arrival ∈ arrivals, arrival.ends room = true) :
    spoken (arrivals.takeWhile (!·.ends room)) = chunks.flatten := by
  induction arrivals generalizing chunks with
  | nil =>
    obtain ⟨_,member,_⟩ := ended
    exact absurd member List.not_mem_nil
  | cons arrival rest ih =>
    -- A message that does not end the stream leaves the end to the others.
    have onward (goesOn : arrival.ends room = false) : ∃ arrival ∈ rest, arrival.ends room = true := by
      obtain ⟨ending,member,ends⟩ := ended
      rcases List.mem_cons.mp member with rfl | inside
      · rw [goesOn] at ends
        cases ends
      · exact ⟨ending,inside,ends⟩
    generalize sent : sendAudio args chunks = messages at received
    cases received with
    | timedOut later =>
      subst sent
      rw [List.takeWhile_cons_of_pos rfl,spoken_cons,ih later (onward rfl)]
      rfl
    | message message later =>
      cases chunks with
      | nil =>
        obtain ⟨rfl,_⟩ := List.cons.inj sent
        rw [List.takeWhile_cons,finish_ends legacy]
        rfl
      | cons chunk chunks =>
        obtain ⟨rfl,rfl⟩ := List.cons.inj sent
        rw [List.takeWhile_cons_of_pos rfl,spoken_cons,ih later (onward rfl),List.flatten_cons]
        rfl
    | left =>
      obtain ⟨_,member,_⟩ := onward rfl
      exact absurd member List.not_mem_nil

/-- A connection that was opened by the client of these messages had its start message first. -/
theorem received_start {args : ClientArgs} {chunks : List Pcm} {message : Message} {rest : List Arrival}
    (received : Received (sentMessages args chunks) (.message message :: rest)) (present : message.disconnect = false) :
    message = ⟨false,none,some (dumps (buildStartMessage args))⟩ ∧ Received (sendAudio args chunks) rest := by
  cases received with
  | message _ later => exact ⟨rfl,later⟩
  | left => cases present

section
variable {σ : Type} (chars : Alphabet) (settings : ConnectionSettings) (world : World) (backend : VADBackend σ)

/-- The frames of a connection, however it stands. -/
theorem connect_framed (arrivals : List Arrival) (start : σ) :
    ∃ standing connection sent ending, connect chars settings world backend arrivals start = (standing,connection) ∧
      Framed connection sent ending := by
  obtain ⟨standing,connection,ran,ended⟩ :=
    connect_spec chars world backend (@transcribeStream_spec _ settings chars world backend arrivals start)
  cases standing with
  | waits =>
    obtain ⟨sent,_,framed⟩ := Waits.framed ended
    exact ⟨_,_,sent,[],ran,framed⟩
  | returned =>
    obtain ⟨⟨_,_,sent,ending,framed⟩,_⟩ := ended
    exact ⟨_,_,sent,ending,ran,framed⟩
  | raised exc =>
    obtain ⟨⟨⟨_,_,sent,ending,framed⟩,_⟩,_⟩ := ended
    exact ⟨_,_,sent,ending,ran,framed⟩

/-- A client with `--verify-protocol` accepts a stream of the server, whose numbers are written,
    exactly if its audio was sent before the server closed, the server closed the stream normally, and
    there was a sentence. If it is the client of the stream, whatever the server waited for in vain, it
    then had the key and the rate of the server, the events are all that the server sent, they have the
    whole transcript, and, where no detector drops silence, the server has heard the audio of the file. -/
theorem strict_client_verifies (arrivals : List Arrival) (start : σ) :
    ∃ standing connection, connect chars settings world backend arrivals start = (standing,connection) ∧
      ((∀ frame ∈ connection.frames, Writable frame) → ∀ room done sender,
        ((∃ events, streamFrames room true connection.frames done sender = .ok events) ↔
          done ≠ .receiver ∧ sender = .ok () ∧ connection.frames.getLast? = some (.close 1000) ∧
            ∃ event, .event event ∈ connection.frames ∧ event.type = .sentenceFinal) ∧
        ∀ args chunks events, Received (sentMessages args chunks) arrivals →
          streamFrames room true connection.frames done sender = .ok events →
            args.apiKey = settings.apiKey ∧ args.sampleRate = 16000 ∧
            (∃ sent, connection.frames = sent.map .event ++ [.close 1000] ∧ events = sent.map eventPayload ∧
              transcriptFromEvents sent = connection.transcript.confirmedText ++ connection.transcript.partialText) ∧
            ((settings.stateful = true → settings.vad = none) → heard connection.calls = chunks.flatten)) := by
  obtain ⟨standing,connection,sent,ending,ran,framed⟩ := connect_framed chars settings world backend arrivals start
  refine ⟨standing,connection,ran,fun writable room done sender => ?_⟩
  have accepts (events : List Payload) : streamFrames room true connection.frames done sender = .ok events ↔
      done ≠ .receiver ∧ sender = .ok () ∧ ending = [.close 1000] ∧ (∃ event ∈ sent, event.type = .sentenceFinal) ∧
        events = sent.map eventPayload := by
    rw [framed.frames] at writable ⊢
    exact streamFrames_ok framed.numbered framed.opens framed.ordered framed.ends writable
  have finished := ending_finished framed.ends
  rw [← framed.frames] at finished
  refine ⟨⟨?_,?_⟩,?_⟩
  · rintro ⟨events,accepted⟩
    obtain ⟨inTime,complete,ended,⟨event,member,type⟩,_⟩ := (accepts events).mp accepted
    refine ⟨inTime,complete,finished.mp ended,event,?_,type⟩
    rw [framed.frames]
    exact List.mem_append_left _ (List.mem_map_of_mem member)
  · rintro ⟨inTime,complete,closed,event,member,type⟩
    have ended := finished.mpr closed
    rw [framed.frames,ended] at member
    exact ⟨_,(accepts _).mpr ⟨inTime,complete,ended,⟨event,by simpa using member,type⟩,rfl⟩⟩
  · intro args chunks events received accepted
    obtain ⟨_,_,ended,⟨event,member,_⟩,told⟩ := (accepts events).mp accepted
    have closed := finished.mp ended
    obtain ⟨_,opened,ran',authenticated⟩ := connection_authenticates chars settings world backend arrivals start
    obtain ⟨_,rfl⟩ := Prod.mk.inj (ran.symm.trans ran')
    rcases authenticated with ⟨message,rest,rawStart,payload,arrived,present,text,loaded,authentic⟩ | ⟨_,failure,short⟩
    · subst arrived
      obtain ⟨rfl,later⟩ := received_start received present
      cases text
      rw [loads_dumps (buildStartMessage_plain args)] at loaded
      cases loaded
      obtain ⟨legacy,key,rate⟩ := authentic_args authentic
      refine ⟨key,rate,⟨sent,by rw [framed.frames,ended],told,framed.completed (ending_final (ended ▸ framed.ends))⟩,
        fun undetected => ?_⟩
      obtain ⟨_,_,ran'',_,_,hears⟩ := connection_hears chars settings world backend undetected _ start
      obtain ⟨_,rfl⟩ := Prod.mk.inj (ran.symm.trans ran'')
      obtain ⟨all,ends⟩ := hears closed
      rw [all]
      exact spoken_sendAudio legacy later ends
    · -- A connection that was never opened has sent no event.
      obtain ⟨first,rest,rfl⟩ := List.exists_cons_of_ne_nil (List.ne_nil_of_mem member)
      rw [framed.frames,List.map_cons,List.cons_append,List.cons_prefix_cons] at short
      cases short.1

end

end SpeechGateway.Client
