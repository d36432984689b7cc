import SpeechGateway.Slots
import SpeechGateway.Packing
import Mathlib.Algebra.Order.Ring.Rat
import Mathlib.Tactic.NormNum

/-!
The messages of `/v1/tts/stream`: what `synthesize_tts_stream` sends for a chunk in either
transport, and the loop of the client that takes the messages apart and checks their numbers.
The chunks that the server numbers from where the client stands are taken as they are
(`readStream_chunks`).
-/
namespace SpeechGateway
open Packing

/-- A value as `json.loads` returns it. -/
inductive Json
  | null
  | bool (value : Bool)
  | int (value : Int)
  | float (value : Rat)
  | nan
  | infinity
  | str (value : Text)
  | array (items : List Json)
  | object (fields : List (String × Json))

abbrev JsonObject := List (String × Json)

/-- `==` with a string. -/
def Json.isStr (text : String) : Option Json → Bool
  | some (.str value) => value == text.toList
  | _ => false

/-- `==` with an integer. -/
def Json.isInt (number : Int) : Option Json → Bool
  | some (.int value) => value == number
  | some (.float value) => value == number
  | some (.bool value) => (if value then 1 else 0) == number
  | _ => false

/-- A frame of the websocket; the text of a text frame is JSON. -/
inductive WireMessage
  | text (payload : Json)
  | bytes (payload : List UInt8)

/-- `payload.get("event")` of a text frame. -/
def WireMessage.event : WireMessage → Option Json
  | .text (.object fields) => fields.lookup "event"
  | _ => none

inductive AudioTransport
  | hex
  | binary
  deriving DecidableEq, Repr

/-- What a stream keeps from its start. -/
structure StreamInfo where
  sessionId : Text
  traceId : Text
  sampleRate : Int
  transport : AudioTransport

/-- `_event_payload`. -/
def eventPayload (info : StreamInfo) (event : String) (statusCode : Int) (statusMsg : String) : JsonObject :=
  [("event",.str event.toList),("session_id",.str info.sessionId),("trace_id",.str info.traceId),
    ("base_resp",.object [("status_code",.int statusCode),("status_msg",.str statusMsg.toList)])]

def magic : List UInt8 := [0x54,0x54,0x53,0x31]

/-- `struct.pack("<4sIQ", b"TTS1", chunk_sequence, sample_offset)`, which raises out of range. -/
def packHeader (chunkSequence sampleOffset : Nat) : Option (List UInt8) :=
  if chunkSequence < 2 ^ 32 ∧ sampleOffset < 2 ^ 64 then
    some (magic ++ toLittleEndian 4 chunkSequence ++ toLittleEndian 8 sampleOffset)
  else none

def continuedPayload (info : StreamInfo) (chunkSequence sampleOffset : Nat) (pcm : Pcm) : JsonObject :=
  eventPayload info "task_continued" 0 "success" ++
    [("data",.object [("audio",.str (toHex pcm))]),("is_final",.bool false),
      ("extra_info",.object [("audio_format",.str "pcm".toList),("audio_sample_rate",.int info.sampleRate),
        ("audio_channel",.int 1),("chunk_sequence",.int chunkSequence),("sample_offset",.int sampleOffset)])]

/-- The message for a chunk. -/
def chunkMessage (info : StreamInfo) (chunkSequence sampleOffset : Nat) (pcm : Pcm) : Option WireMessage :=
  match info.transport with
  | .binary => (packHeader chunkSequence sampleOffset).map fun header => .bytes (header ++ pcm)
  | .hex => some (.text (.object (continuedPayload info chunkSequence sampleOffset pcm)))

def startedMessage (info : StreamInfo) : WireMessage := .text (.object (eventPayload info "task_started" 0 "success"))

def failedMessage (info : StreamInfo) (message : String) : WireMessage :=
  .text (.object (eventPayload info "task_failed" 1004 message))

/-- `round(value, 3)`. -/
def round3 (value : Rat) : Rat := roundHalfEven (value * 1000) / 1000

def finishedPayload (info : StreamInfo) (chunks totalSamples : Nat) (synthesisMs encodeMs : Rat) : JsonObject :=
  eventPayload info "task_finished" 0 "success" ++
    [("extra_info",.object [("chunks",.int chunks),("total_samples",.int totalSamples),
      ("audio_sample_rate",.int info.sampleRate),("audio_channel",.int 1),("queue_ms",.null),
      ("synthesis_ms",.float (round3 synthesisMs)),("encode_ms",.float (round3 encodeMs))])]

/-- The message that ends a stream. -/
def finishedMessage (info : StreamInfo) (chunks totalSamples : Nat) (synthesisMs encodeMs : Rat) : WireMessage :=
  .text (.object (finishedPayload info chunks totalSamples synthesisMs encodeMs))

/-- What `int` and `float` make of a string. -/
structure Literals where
  int : Text → Option Int
  float : Text → Option Json

/-- A `BenchmarkError` with its text, or with the status that the server gave, and an exception
    that the client does not make one. -/
inductive ClientError
  | benchmark (message : String)
  | server (status : Json)
  | raised (typeName : String)

/-- `parse_binary_chunk`. -/
def parseBinaryChunk (payload : List UInt8) : Except ClientError (Int × Int × Pcm) :=
  if payload.length < 18 then .error (.benchmark "binary frame is shorter than the TTS1 header and one sample") else
  if payload.take 4 ≠ magic then .error (.benchmark "binary frame has invalid magic") else
  if (payload.drop 16).length % 2 ≠ 0 then .error (.benchmark "binary frame has odd-length pcm_s16le") else
  .ok (ofLittleEndian ((payload.drop 4).take 4),ofLittleEndian ((payload.drop 8).take 8),payload.drop 16)

/-- `_json_message` on the parsed text. -/
def jsonMessage : Json → Except ClientError JsonObject
  | .object fields => .ok fields
  | _ => .error (.benchmark "expected JSON object")

/-- The error for `task_failed`. -/
def serverFailed (payload : JsonObject) : ClientError :=
  match payload.lookup "base_resp" with
  | none => .server (.str "unknown".toList)
  | some (.object response) => .server ((response.lookup "status_code").getD (.str "unknown".toList))
  | some _ => .raised "AttributeError"

/-- `_require_event`. -/
def requireEvent (payload : JsonObject) (expected : String) : Except ClientError Unit :=
  if Json.isStr "task_failed" (payload.lookup "event") then .error (serverFailed payload) else
  if Json.isStr expected (payload.lookup "event") then .ok () else .error (.benchmark ("expected_" ++ expected))

section
variable (literals : Literals)

def hexChunkError : ClientError := .benchmark "invalid hex audio chunk"

/-- `int(extra[key])`, where the handler turns what it names into an error of the client. -/
def intField (extra : JsonObject) (key : String) : Except ClientError Int :=
  match extra.lookup key with
  | some (.int value) => .ok value
  | some (.bool value) => .ok (if value then 1 else 0)
  | some (.float value) => .ok (if 0 ≤ value then value.floor else value.ceil)
  | some (.str value) => (literals.int value).elim (.error hexChunkError) .ok
  | some .infinity => .error (.raised "OverflowError")
  | _ => .error hexChunkError

/-- `bytes.fromhex(data["audio"])`. -/
def audioField (data : JsonObject) : Except ClientError Pcm :=
  match data.lookup "audio" with
  | some (.str audio) => (ofHex audio).elim (.error hexChunkError) .ok
  | _ => .error hexChunkError

/-- The branch for `task_continued`. -/
def taskContinued (payload : JsonObject) : Except ClientError (Int × Int × Pcm) :=
  match payload.lookup "extra_info",payload.lookup "data" with
  | some (.object extra),some (.object data) => do
    let chunkSequence ← intField literals extra "chunk_sequence"
    let sampleOffset ← intField literals extra "sample_offset"
    let pcm ← audioField data
    return (chunkSequence,sampleOffset,pcm)
  | _,_ => .error (.benchmark "task_continued metadata is missing")

def nonnegativeNumber (field : String) : Json → Except ClientError (Option Rat)
  | .int value => if value < 0 then .error (.benchmark ("invalid server " ++ field)) else .ok (some value)
  | .float value => if value < 0 then .error (.benchmark ("invalid server " ++ field)) else .ok (some value)
  | _ => .error (.benchmark ("invalid server " ++ field))

/-- `_optional_nonnegative_number`. -/
def optionalNonnegativeNumber (field : String) : Option Json → Except ClientError (Option Rat)
  | none | some .null => .ok none
  | some (.str value) => (literals.float value).elim (.error (.benchmark ("invalid server " ++ field))) (nonnegativeNumber field)
  | some value => nonnegativeNumber field value

/-- What the loop of the client keeps. The last field is read by no code: the audio of the chunks. -/
structure StreamClient where
  expectedSequence : Nat := 0
  expectedOffset : Nat := 0
  audioBytes : Nat := 0
  serverQueueMs : Option Rat := none
  serverSynthesisMs : Option Rat := none
  serverEncodeMs : Option Rat := none
  heard : Pcm := []
  deriving DecidableEq, Repr

namespace StreamClient

/-- The checks behind a chunk, and what it counts. -/
def take (client : StreamClient) (chunk : Int × Int × Pcm) : Except ClientError StreamClient :=
  let (chunkSequence,sampleOffset,pcm) := chunk
  if chunkSequence ≠ client.expectedSequence then .error (.benchmark "non-contiguous chunk sequence") else
  if sampleOffset ≠ client.expectedOffset then .error (.benchmark "non-contiguous sample offset") else
  if pcm = [] ∨ pcm.length % 2 ≠ 0 then .error (.benchmark "invalid pcm audio chunk") else
  .ok { client with
    expectedSequence := client.expectedSequence + 1
    expectedOffset := client.expectedOffset + sampleCount pcm
    audioBytes := client.audioBytes + pcm.length
    heard := client.heard ++ pcm }

/-- The branch for `task_finished`. -/
def finish (client : StreamClient) (payload : JsonObject) : Except ClientError StreamClient :=
  match payload.lookup "extra_info" with
  | some (.object extra) => do
    if ¬Json.isInt client.expectedSequence (extra.lookup "chunks") then throw (.benchmark "server chunk count mismatch")
    if ¬Json.isInt client.expectedOffset (extra.lookup "total_samples") then throw (.benchmark "server sample count mismatch")
    let queueMs ← optionalNonnegativeNumber literals "queue_ms" (extra.lookup "queue_ms")
    let synthesisMs ← optionalNonnegativeNumber literals "synthesis_ms" (extra.lookup "synthesis_ms")
    let encodeMs ← optionalNonnegativeNumber literals "encode_ms" (extra.lookup "encode_ms")
    return { client with serverQueueMs := queueMs,serverSynthesisMs := synthesisMs,serverEncodeMs := encodeMs }
  | _ => .error (.benchmark "task_finished is missing extra_info")

end StreamClient

/-- The loop of `send_request` over the messages that arrive, up to `task_finished`. -/
def readStream : List WireMessage → StreamClient → Except ClientError StreamClient
  | [], _ => .error (.raised "ConnectionClosed")
  | .bytes payload :: rest, client => do
    let chunk ← parseBinaryChunk payload
    let client ← client.take chunk
    readStream rest client
  | .text message :: rest, client => do
    let payload ← jsonMessage message
    if Json.isStr "task_failed" (payload.lookup "event") then throw (serverFailed payload)
    else if Json.isStr "task_finished" (payload.lookup "event") then client.finish literals payload
    else do
      requireEvent payload "task_continued"
      let chunk ← taskContinued literals payload
      let client ← client.take chunk
      readStream rest client

/-- `send_request` from the answer to `task_start` on. -/
def readAnswers : List WireMessage → Except ClientError StreamClient
  | [] => .error (.raised "ConnectionClosed")
  | .bytes _ :: _ => .error (.benchmark "expected JSON text frame")
  | .text message :: rest => do
    let payload ← jsonMessage message
    requireEvent payload "task_started"
    readStream literals rest {}

end

/-! ## What is sent is taken -/

/-- The client behind a chunk that it takes. -/
def StreamClient.after (client : StreamClient) (pcm : Pcm) : StreamClient :=
  { client with
    expectedSequence := client.expectedSequence + 1
    expectedOffset := client.expectedOffset + sampleCount pcm
    audioBytes := client.audioBytes + pcm.length
    heard := client.heard ++ pcm }

/-- Audio as `_stream_pcm_in_thread` yields it. -/
def Audible (pcm : Pcm) : Prop := pcm ≠ [] ∧ pcm.length % 2 = 0

section
variable {literals : Literals} {info : StreamInfo} {client : StreamClient} {pcm : Pcm}

theorem StreamClient.take_after (audible : Audible pcm) :
    client.take (client.expectedSequence,client.expectedOffset,pcm) = .ok (client.after pcm) := by
  have valid : ¬(pcm = [] ∨ pcm.length % 2 ≠ 0) := by
    rintro (empty | odd)
    · exact audible.1 empty
    · exact odd audible.2
  simp only [StreamClient.take,ne_eq,not_true,if_false,if_neg valid]
  rfl

theorem parseBinaryChunk_packed {chunkSequence sampleOffset : Nat} {header : List UInt8} (audible : Audible pcm)
    (packed : packHeader chunkSequence sampleOffset = some header) :
    parseBinaryChunk (header ++ pcm) = .ok (chunkSequence,sampleOffset,pcm) := by
  unfold packHeader at packed
  split at packed
  · rename_i fits
    cases packed
    obtain ⟨some,even⟩ := audible
    have two : 2 ≤ pcm.length := by
      have positive := List.length_pos_iff.mpr some
      omega
    have four : magic.length = 4 := rfl
    have numbers : ofLittleEndian (toLittleEndian 4 chunkSequence) = chunkSequence :=
      ofLittleEndian_toLittleEndian (by simpa using fits.1)
    have offsets : ofLittleEndian (toLittleEndian 8 sampleOffset) = sampleOffset :=
      ofLittleEndian_toLittleEndian (by simpa using fits.2)
    have long : ¬(magic ++ toLittleEndian 4 chunkSequence ++ toLittleEndian 8 sampleOffset ++ pcm).length < 18 := by
      simp [four]
      omega
    have behind : (magic ++ toLittleEndian 4 chunkSequence ++ toLittleEndian 8 sampleOffset ++ pcm).drop 16 = pcm := by
      rw [List.drop_append_of_le_length (by simp [four]),List.drop_eq_nil_of_le (by simp [four]),List.nil_append]
    have first : (magic ++ toLittleEndian 4 chunkSequence ++ toLittleEndian 8 sampleOffset ++ pcm).take 4 = magic := by
      simp [magic]
    have second : ((magic ++ toLittleEndian 4 chunkSequence ++ toLittleEndian 8 sampleOffset ++ pcm).drop 4).take 4 =
        toLittleEndian 4 chunkSequence := by
      simp [magic]
    have third : ((magic ++ toLittleEndian 4 chunkSequence ++ toLittleEndian 8 sampleOffset ++ pcm).drop 8).take 8 =
        toLittleEndian 8 sampleOffset := by
      simp [magic]
    rw [parseBinaryChunk,if_neg long,first,if_neg (by simp),behind,if_neg (by omega),second,third,numbers,offsets]
  · cases packed

theorem taskContinued_payload (chunkSequence sampleOffset : Nat) :
    taskContinued literals (continuedPayload info chunkSequence sampleOffset pcm) = .ok (chunkSequence,sampleOffset,pcm) := by
  have audio : audioField [("audio",.str (toHex pcm))] = .ok pcm := by
    show (ofHex (toHex pcm)).elim _ _ = _
    rw [ofHex_toHex]
    rfl
  show (audioField [("audio",.str (toHex pcm))] >>= fun pcm => _) = _
  rw [audio]
  rfl

/-- A chunk with the numbers that the client expects is taken. -/
theorem readStream_chunk {message : WireMessage} (audible : Audible pcm)
    (sent : chunkMessage info client.expectedSequence client.expectedOffset pcm = some message) (rest : List WireMessage) :
    readStream literals (message :: rest) client = readStream literals rest (client.after pcm) := by
  unfold chunkMessage at sent
  split at sent
  · obtain ⟨header,packed,rfl⟩ := Option.map_eq_some_iff.mp sent
    rw [readStream,parseBinaryChunk_packed audible packed]
    show (client.take _ >>= _) = _
    rw [StreamClient.take_after audible]
    rfl
  · cases sent
    rw [readStream]
    show (taskContinued literals (continuedPayload info client.expectedSequence client.expectedOffset pcm) >>= _) = _
    rw [taskContinued_payload]
    show (client.take _ >>= _) = _
    rw [StreamClient.take_after audible]
    rfl

theorem round3_nonneg {value : Rat} (nonneg : 0 ≤ value) : 0 ≤ round3 value := by
  have floor : 0 ≤ (value * 1000).floor := Rat.le_floor_iff.mpr (Rat.mul_nonneg nonneg (by decide))
  have whole : 0 ≤ roundHalfEven (value * 1000) := by
    unfold roundHalfEven
    dsimp only
    split
    · exact floor
    · omega
  exact div_nonneg (by exact_mod_cast whole) (by norm_num)

/-- The end of a stream with the counts of the client is accepted. -/
theorem readStream_finished {synthesisMs encodeMs : Rat} (synthesis : 0 ≤ synthesisMs) (encode : 0 ≤ encodeMs)
    (rest : List WireMessage) :
    readStream literals (finishedMessage info client.expectedSequence client.expectedOffset synthesisMs encodeMs :: rest)
      client = .ok { client with serverQueueMs := none,serverSynthesisMs := some (round3 synthesisMs),
                                 serverEncodeMs := some (round3 encodeMs) } := by
  have synthesisMs' : nonnegativeNumber "synthesis_ms" (.float (round3 synthesisMs)) = .ok (some (round3 synthesisMs)) :=
    if_neg (Rat.not_lt.mpr (round3_nonneg synthesis))
  have encodeMs' : nonnegativeNumber "encode_ms" (.float (round3 encodeMs)) = .ok (some (round3 encodeMs)) :=
    if_neg (Rat.not_lt.mpr (round3_nonneg encode))
  have chunks : Json.isInt client.expectedSequence (some (.int client.expectedSequence)) = true := by simp [Json.isInt]
  have samples : Json.isInt client.expectedOffset (some (.int client.expectedOffset)) = true := by simp [Json.isInt]
  rw [finishedMessage,readStream]
  show client.finish literals (finishedPayload info client.expectedSequence client.expectedOffset synthesisMs encodeMs) = _
  have extra : (finishedPayload info client.expectedSequence client.expectedOffset synthesisMs encodeMs).lookup "extra_info" =
      some (.object [("chunks",.int client.expectedSequence),("total_samples",.int client.expectedOffset),
        ("audio_sample_rate",.int info.sampleRate),("audio_channel",.int 1),("queue_ms",.null),
        ("synthesis_ms",.float (round3 synthesisMs)),("encode_ms",.float (round3 encodeMs))]) := rfl
  simp only [StreamClient.finish,extra]
  refine (if_neg (not_not.mpr chunks)).trans ((if_neg (not_not.mpr samples)).trans ?_)
  show (nonnegativeNumber "synthesis_ms" (.float (round3 synthesisMs)) >>= _) = _
  rw [synthesisMs']
  show (nonnegativeNumber "encode_ms" (.float (round3 encodeMs)) >>= _) = _
  rw [encodeMs']
  rfl

theorem readAnswers_started (rest : List WireMessage) :
    readAnswers literals (startedMessage info :: rest) = readStream literals rest {} := rfl

end

end SpeechGateway
