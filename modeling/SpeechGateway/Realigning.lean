import SpeechGateway.Values

/-!
The TTS backends behind HTTP. The body of a response arrives in pieces of any length, and each
backend carries an odd byte from one piece to the next. What both yield is the whole samples of
the body, however it was cut (`pcm_realigned`).
-/
namespace SpeechGateway.HttpTts

/-- What `client.stream` answers: the status that `raise_for_status` refuses, the header
    `content-type`, the pieces of `iter_bytes`, and the text of the `HTTPError` that cuts them off. -/
structure HttpResponse where
  refused : Option String := none
  contentType : Option Text := none
  pieces : List Pcm := []
  broken : Option String := none
  deriving Repr

/-- What a generator yields, and the exception that ends it. -/
structure Stream where
  chunks : List Pcm := []
  raised : Option PyError := none
  deriving DecidableEq, Repr

/-- The content type of a response in small letters. -/
def HttpResponse.mediaType (chars : Alphabet) (response : HttpResponse) : Text :=
  chars.lower (response.contentType.getD [])

def got (mediaType : Text) : String := if mediaType = [] then "missing" else String.ofList mediaType

namespace VLLMOmniTTSSynthesizer

/-- The loop over `iter_bytes`: what it yields, `pending` and `yielded`. -/
def realign : List Pcm → Pcm → Bool → List Pcm × Pcm × Bool
  | [], pending, yielded => ([],pending,yielded)
  | piece :: rest, pending, yielded =>
    if piece = [] then realign rest pending yielded else
    let chunk := pending ++ piece
    let pending := if chunk.length % 2 ≠ 0 then chunk.drop (chunk.length - 1) else []
    let chunk := if pending ≠ [] then chunk.dropLast else chunk
    if chunk = [] then realign rest pending yielded else
    let (later,ended) := realign rest pending true
    (chunk :: later,ended)

/-- `stream_pcm`. -/
def streamPcm (chars : Alphabet) (defaultVoice : Text) (voice : Option Text) (response : HttpResponse) : Stream :=
  let selectedVoice := if voice.getD [] = [] then defaultVoice else voice.getD []
  if selectedVoice ≠ defaultVoice then
    { raised := some (.runtimeError ("unknown TTS voice: " ++ String.ofList selectedVoice)) } else
  match response.refused with
  | some error => { raised := some (.runtimeError ("vLLM-Omni TTS inference failed: " ++ error)) }
  | none =>
    let contentType := response.mediaType chars
    if !("audio/pcm".toList.isPrefixOf contentType) then
      { raised := some (.runtimeError ("vLLM-Omni returned an unexpected content type for a PCM stream: " ++
          "expected audio/pcm, got " ++ got contentType)) } else
    let (chunks,pending,yielded) := realign response.pieces [] false
    match response.broken with
    | some error => ⟨chunks,some (.runtimeError ("vLLM-Omni TTS inference failed: " ++ error))⟩
    | none =>
      if pending ≠ [] then ⟨chunks,some (.runtimeError "vLLM-Omni returned an odd-length pcm_s16le stream")⟩ else
      if !yielded then ⟨chunks,some (.runtimeError "vLLM-Omni returned no audio")⟩ else ⟨chunks,none⟩

end VLLMOmniTTSSynthesizer

namespace VoxServeTTSSynthesizer

/-- The loop over `iter_bytes`, which yields where the other one goes on. -/
def realign : List Pcm → Pcm → Bool → List Pcm × Pcm × Bool
  | [], pending, yielded => ([],pending,yielded)
  | piece :: rest, pending, yielded =>
    if piece = [] then realign rest pending yielded else
    let chunk := pending ++ piece
    let pending := if chunk.length % 2 ≠ 0 then chunk.drop (chunk.length - 1) else []
    let chunk := if pending ≠ [] then chunk.dropLast else chunk
    if chunk ≠ [] then
      let (later,ended) := realign rest pending true
      (chunk :: later,ended)
    else realign rest pending yielded

/-- `_require_content_type`. -/
def requireContentType (chars : Alphabet) (response : HttpResponse) (expected backend : String) : Except PyError Unit :=
  let actual := response.mediaType chars
  if !(expected.toList.isPrefixOf actual) then
    .error (.runtimeError (backend ++ " returned an unexpected content type: expected " ++ expected ++ ", got " ++ got actual))
  else .ok ()

/-- `_stream_pcm_response`. -/
def streamPcmResponse (chars : Alphabet) (response : HttpResponse) : Stream :=
  match response.refused with
  | some error => { raised := some (.runtimeError ("VoxServe TTS inference failed: " ++ error)) }
  | none =>
    match requireContentType chars response "audio/pcm" "VoxServe" with
    | .error error => { raised := some error }
    | .ok () =>
      let (chunks,pending,yielded) := realign response.pieces [] false
      match response.broken with
      | some error => ⟨chunks,some (.runtimeError ("VoxServe TTS inference failed: " ++ error))⟩
      | none =>
        if pending ≠ [] then ⟨chunks,some (.runtimeError "VoxServe returned an odd-length pcm_s16le stream")⟩ else
        if !yielded then ⟨chunks,some (.runtimeError "VoxServe returned no audio")⟩ else ⟨chunks,none⟩

/-- `stream_pcm`, which leaves the instruction of the voice to the model. -/
def streamPcm (chars : Alphabet) (defaultVoice instruct : Text) (voice : Option Text) (response : HttpResponse) : Stream :=
  let selectedVoice := if voice.getD [] = [] then defaultVoice else voice.getD []
  if selectedVoice ≠ defaultVoice then
    { raised := some (.runtimeError ("unknown TTS voice: " ++ String.ofList selectedVoice)) } else
  if instruct ≠ [] then
    { raised := some (.runtimeError "VoxServe /v1/audio/speech does not expose Qwen instruction control") } else
  streamPcmResponse chars response

end VoxServeTTSSynthesizer

/-! ## Whole samples -/

/-- What a backend makes of a body: whole samples in chunks that are not empty, all of them, and
    an exception if the body is odd or empty. -/
structure Realigned (body : Pcm) (stream : Stream) : Prop where
  audible : ∀ chunk ∈ stream.chunks, chunk ≠ [] ∧ chunk.length % 2 = 0
  whole : body ≠ [] → body.length % 2 = 0 → stream.chunks.flatten = body ∧ stream.raised = none
  odd : body.length % 2 = 1 → stream.chunks.flatten = body.dropLast ∧ stream.raised ≠ none
  empty : body = [] → stream.chunks = [] ∧ stream.raised ≠ none

/-- The loops are one. -/
theorem realign_same (pieces : List Pcm) (pending : Pcm) (yielded : Bool) :
    VoxServeTTSSynthesizer.realign pieces pending yielded = VLLMOmniTTSSynthesizer.realign pieces pending yielded := by
  induction pieces generalizing pending yielded with
  | nil => rfl
  | cons piece rest ih =>
    rw [VoxServeTTSSynthesizer.realign,VLLMOmniTTSSynthesizer.realign]
    simp only [ih,ne_eq,ite_not]

/-- What is yielded of a chunk and what is carried on. -/
theorem carried_byte (chunk : Pcm) {pending whole : Pcm}
    (carried : pending = if chunk.length % 2 ≠ 0 then chunk.drop (chunk.length - 1) else [])
    (kept : whole = if pending ≠ [] then chunk.dropLast else chunk) :
    whole ++ pending = chunk ∧ pending.length = chunk.length % 2 ∧ whole.length % 2 = 0 := by
  by_cases odd : chunk.length % 2 = 0
  · subst carried kept
    simp [odd]
  · rw [if_pos odd] at carried
    have one : pending.length = 1 := by rw [carried,List.length_drop]; omega
    rw [if_pos (List.ne_nil_of_length_pos (by omega))] at kept
    subst carried kept
    refine ⟨?_,by omega,by rw [List.length_dropLast]; omega⟩
    rw [List.dropLast_eq_take,List.take_append_drop]

/-- The loop yields whole samples, and with the carried byte they are all that has arrived. -/
theorem realign_pieces (pieces : List Pcm) (pending : Pcm) (yielded : Bool) (short : pending.length ≤ 1)
    {chunks : List Pcm} {left : Pcm} {any : Bool}
    (ran : VLLMOmniTTSSynthesizer.realign pieces pending yielded = (chunks,left,any)) :
    chunks.flatten ++ left = pending ++ pieces.flatten ∧ left.length ≤ 1 ∧
      (∀ chunk ∈ chunks, chunk ≠ [] ∧ chunk.length % 2 = 0) ∧ any = (yielded || decide (chunks ≠ [])) := by
  induction pieces generalizing pending yielded chunks left any with
  | nil =>
    cases ran
    simp [short]
  | cons piece rest ih =>
    rw [VLLMOmniTTSSynthesizer.realign] at ran
    by_cases empty : piece = []
    · rw [if_pos empty] at ran
      simpa [empty] using ih pending yielded short ran
    · rw [if_neg empty] at ran
      dsimp only at ran
      generalize carried : (if (pending ++ piece).length % 2 ≠ 0 then (pending ++ piece).drop ((pending ++ piece).length - 1)
        else []) = carry at ran
      generalize kept : (if carry ≠ [] then (pending ++ piece).dropLast else pending ++ piece) = whole at ran
      obtain ⟨parts,one,aligned⟩ := carried_byte (pending ++ piece) carried.symm kept.symm
      have small : carry.length ≤ 1 := by omega
      by_cases nothing : whole = []
      · rw [if_pos nothing] at ran
        obtain ⟨sum,rest_⟩ := ih carry yielded small ran
        refine ⟨?_,rest_⟩
        rw [sum,List.flatten_cons,← List.append_assoc,← parts,nothing,List.nil_append]
      · rw [if_neg nothing] at ran
        cases later : VLLMOmniTTSSynthesizer.realign rest carry true with
        | mk following ended =>
          obtain ⟨final,some⟩ := ended
          rw [later] at ran
          cases ran
          obtain ⟨sum,less,audible,marked⟩ := ih carry true small later
          refine ⟨?_,less,?_,?_⟩
          · rw [List.flatten_cons,List.append_assoc,sum,List.flatten_cons,← List.append_assoc,← List.append_assoc,parts]
          · rintro chunk (_ | ⟨_,member⟩)
            · exact ⟨nothing,aligned⟩
            · exact audible chunk member
          · simp [marked]

/-- A response whose body arrives whole as PCM. -/
structure HttpResponse.Delivers (chars : Alphabet) (response : HttpResponse) (body : Pcm) : Prop where
  accepted : response.refused = none
  unbroken : response.broken = none
  media : "audio/pcm".toList <+: response.mediaType chars
  cut : response.pieces.flatten = body

/-- The end of a stream, where a backend has its own texts. -/
def ended (ran : List Pcm × Pcm × Bool) (oddLength noAudio : String) : Stream :=
  if ran.2.1 ≠ [] then ⟨ran.1,some (.runtimeError oddLength)⟩ else
  if !ran.2.2 then ⟨ran.1,some (.runtimeError noAudio)⟩ else ⟨ran.1,none⟩

theorem ended_chunks (ran : List Pcm × Pcm × Bool) (oddLength noAudio : String) :
    (ended ran oddLength noAudio).chunks = ran.1 := by
  unfold ended
  split_ifs <;> rfl

theorem flatten_even {chunks : List Pcm} (audible : ∀ chunk ∈ chunks, chunk ≠ [] ∧ chunk.length % 2 = 0) :
    chunks.flatten.length % 2 = 0 := by
  induction chunks with
  | nil => rfl
  | cons chunk rest ih =>
    have first := (audible chunk (by simp)).2
    have others := ih fun other member => audible other (by simp [member])
    rw [List.flatten_cons,List.length_append]
    omega

theorem ended_realigned (pieces : List Pcm) (oddLength noAudio : String) :
    Realigned pieces.flatten (ended (VLLMOmniTTSSynthesizer.realign pieces [] false) oddLength noAudio) := by
  cases ran : VLLMOmniTTSSynthesizer.realign pieces [] false with
  | mk chunks rest =>
    obtain ⟨left,any⟩ := rest
    obtain ⟨sum,short,audible,marked⟩ := realign_pieces pieces [] false (by simp) ran
    rw [List.nil_append] at sum
    rw [Bool.false_or] at marked
    have even := flatten_even audible
    rw [← sum,marked]
    rcases left with _ | ⟨byte,_ | ⟨more,left⟩⟩
    · -- nothing is carried behind the last piece
      by_cases some : chunks = []
      · subst some
        exact ⟨by simp [ended],by simp,by simp,by simp [ended]⟩
      · have sounds : chunks.flatten ≠ [] := by
          obtain ⟨chunk,rest,rfl⟩ := List.exists_cons_of_ne_nil some
          simp [(audible chunk (by simp)).1]
        rw [List.append_nil]
        exact ⟨by simpa [ended,some] using audible,by simp [ended,some],
          fun odd => absurd (even.symm.trans odd) (by decide),fun none => absurd none sounds⟩
    · -- the last byte is carried
      refine ⟨by simpa [ended] using audible,?_,by simp [ended],by simp⟩
      intro _ whole
      rw [List.length_append,List.length_singleton] at whole
      omega
    · simp at short

theorem vllm_ended (chars : Alphabet) {defaultVoice : Text} {voice : Option Text} {response : HttpResponse} {body : Pcm}
    (delivered : response.Delivers chars body) (selected : voice.getD [] = [] ∨ voice.getD [] = defaultVoice) :
    VLLMOmniTTSSynthesizer.streamPcm chars defaultVoice voice response =
      ended (VLLMOmniTTSSynthesizer.realign response.pieces [] false)
        "vLLM-Omni returned an odd-length pcm_s16le stream" "vLLM-Omni returned no audio" := by
  have voiced : (if voice.getD [] = [] then defaultVoice else voice.getD []) = defaultVoice := by
    split_ifs with absent
    · rfl
    · exact selected.resolve_left absent
  have media := List.isPrefixOf_iff_prefix.mpr delivered.media
  simp only [VLLMOmniTTSSynthesizer.streamPcm,voiced,delivered.accepted,delivered.unbroken,media,ended]
  exact if_neg fun other => other rfl

theorem vox_ended (chars : Alphabet) {response : HttpResponse} {body : Pcm} (delivered : response.Delivers chars body) :
    VoxServeTTSSynthesizer.streamPcmResponse chars response =
      ended (VLLMOmniTTSSynthesizer.realign response.pieces [] false)
        "VoxServe returned an odd-length pcm_s16le stream" "VoxServe returned no audio" := by
  have media := List.isPrefixOf_iff_prefix.mpr delivered.media
  simp only [VoxServeTTSSynthesizer.streamPcmResponse,VoxServeTTSSynthesizer.requireContentType,delivered.accepted,
    delivered.unbroken,media,ended,realign_same]
  rfl

/-- What is recovered is the whole samples of the body. -/
theorem Realigned.recovered {body : Pcm} {stream : Stream} (realigned : Realigned body stream) :
    stream.chunks.flatten = if body.length % 2 = 0 then body else body.dropLast := by
  by_cases even : body.length % 2 = 0
  · rw [if_pos even]
    by_cases empty : body = []
    · rw [(realigned.empty empty).1,empty,List.flatten_nil]
    · exact (realigned.whole empty even).1
  · rw [if_neg even]
    exact (realigned.odd (by omega)).1

/-- Both backends yield the same chunks, the whole samples of the body, and what they recover does
    not depend on how it was cut. -/
theorem pcm_realigned (chars : Alphabet) (defaultVoice : Text) (voice : Option Text)
    (selected : voice.getD [] = [] ∨ voice.getD [] = defaultVoice) (body : Pcm) (response : HttpResponse)
    (delivered : response.Delivers chars body) :
    (VLLMOmniTTSSynthesizer.streamPcm chars defaultVoice voice response).chunks =
        (VoxServeTTSSynthesizer.streamPcmResponse chars response).chunks ∧
      Realigned body (VLLMOmniTTSSynthesizer.streamPcm chars defaultVoice voice response) ∧
      Realigned body (VoxServeTTSSynthesizer.streamPcmResponse chars response) ∧
      ∀ other : HttpResponse, other.Delivers chars body →
        (VoxServeTTSSynthesizer.streamPcmResponse chars other).chunks.flatten =
          (VLLMOmniTTSSynthesizer.streamPcm chars defaultVoice voice response).chunks.flatten := by
  have vox : ∀ {other : HttpResponse}, other.Delivers chars body →
      Realigned body (VoxServeTTSSynthesizer.streamPcmResponse chars other) := by
    intro other arrived
    rw [vox_ended chars arrived,← arrived.cut]
    exact ended_realigned ..
  have vllm : Realigned body (VLLMOmniTTSSynthesizer.streamPcm chars defaultVoice voice response) := by
    rw [vllm_ended chars delivered selected,← delivered.cut]
    exact ended_realigned ..
  refine ⟨?_,vllm,vox delivered,fun other arrived => ?_⟩
  · rw [vllm_ended chars delivered selected,vox_ended chars delivered,ended_chunks,ended_chunks]
  · rw [(vox arrived).recovered,vllm.recovered]

/-- A body cut inside a sample, with an empty piece. -/
def cutBody : HttpResponse where
  contentType := some "audio/pcm;rate=24000".toList
  pieces := [[1],[],[2,3],[4]]

theorem cut_body_realigned :
    (VLLMOmniTTSSynthesizer.streamPcm ascii "default".toList none cutBody).chunks =
      (VoxServeTTSSynthesizer.streamPcmResponse ascii cutBody).chunks ∧
    (VoxServeTTSSynthesizer.streamPcmResponse ascii cutBody).chunks.flatten = [1,2,3,4] := by
  have delivered : cutBody.Delivers ascii [1,2,3,4] := ⟨rfl,rfl,by decide,rfl⟩
  have realigned := pcm_realigned ascii "default".toList none (.inl rfl) [1,2,3,4] cutBody delivered
  exact ⟨realigned.1,(realigned.2.2.1.whole (by decide) (by decide)).1⟩

end SpeechGateway.HttpTts
