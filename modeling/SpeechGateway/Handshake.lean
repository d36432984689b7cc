import SpeechGateway.Conserving

/-!
The start message. `_parse_stream_start` accepts exactly the objects that name the type, the key and,
if anything, the format and the rate of the gateway (`parseStreamStart_iff`), and without such a
message the coordinator is never asked (`connection_authenticates`).
-/
namespace SpeechGateway.Connections
open SpeechGateway.Streaming SpeechGateway.Vad SpeechGateway.Coordinator Programs
open SpeechGateway.Stateful (Failure)
open JsonText (Value)
open Unicode (Str isHigh isLow)

/-- A start message of a client that has the key. -/
structure Authentic (settings : ConnectionSettings) (payload : Payload) : Prop where
  type : payload.lookup (str "type") = some (.str (str "start"))
  apiKey : payload.lookup (str "api_key") = some (.str settings.apiKey)
  secret : settings.apiKey ≠ []
  language : payload.lookup (str "language") = none ∨ payload.lookup (str "language") = some .null ∨
    ∃ text, payload.lookup (str "language") = some (.str text) ∧ text.length ≤ 32 ∧ ∀ c ∈ text, isHigh c = false ∧ isLow c = false
  sampleRate : payload.lookup (str "sample_rate") = none ∨ payload.lookup (str "sample_rate") = some (.int 16000)
  format : payload.lookup (str "format") = none ∨ payload.lookup (str "format") = some (.str (str "pcm_s16le"))

theorem isStr_iff (text : String) (value : Option Value) : Value.isStr text value = true ↔ value = some (.str (str text)) := by
  unfold Value.isStr
  split
  · simp
  · rename_i other
    constructor
    · intro no
      cases no
    · intro same
      exact absurd same (other _)

theorem startSampleRate_iff (value : Option Value) (rate : Int) :
    startSampleRate value = some rate ↔ value = none ∧ rate = 16000 ∨ value = some (.int rate) := by
  unfold startSampleRate
  split
  · simp [eq_comm]
  · simp
  · rename_i absent other
    constructor
    · intro no
      cases no
    · rintro (⟨rfl,_⟩ | rfl)
      · exact absurd rfl absent
      · exact absurd rfl (other _)

theorem startLanguage_isSome (value : Option Value) :
    (startLanguage value).isSome = true ↔ value = none ∨ value = some .null ∨
      ∃ text, value = some (.str text) ∧ text.length ≤ 32 ∧ ∀ c ∈ text, isHigh c = false ∧ isLow c = false := by
  unfold startLanguage
  split
  · simp
  · simp
  · rename_i text
    split_ifs with fits
    · simpa using fits
    · simpa using fits
  · rename_i absent null other
    constructor
    · intro no
      cases no
    · rintro (rfl | rfl | ⟨text,rfl,_⟩)
      · exact absurd rfl absent
      · exact absurd rfl null
      · exact absurd rfl (other _)

theorem startApiKey_iff (value : Option Value) (text : Str) : startApiKey value = some text ↔ value = some (.str text) := by
  unfold startApiKey
  split
  · simp
  · rename_i other
    constructor
    · intro no
      cases no
    · intro same
      exact absurd same (other _)

theorem modelValidate_iff (payload : Payload) (start : ASRStreamStart) :
    modelValidate payload = some start ↔
      payload.lookup (str "type") = some (.str (str "start")) ∧
      payload.lookup (str "api_key") = some (.str start.apiKey) ∧
      startLanguage (payload.lookup (str "language")) = some start.language ∧
      startSampleRate (payload.lookup (str "sample_rate")) = some start.sampleRate ∧
      (payload.lookup (str "format") = none ∨ payload.lookup (str "format") = some (.str (str "pcm_s16le"))) := by
  obtain ⟨apiKey,language,sampleRate⟩ := start
  unfold modelValidate
  by_cases type : Value.isStr "start" (payload.lookup (str "type")) = true
  · rw [if_neg (by simp [type])]
    by_cases format : ((payload.lookup (str "format")).isNone || Value.isStr "pcm_s16le" (payload.lookup (str "format"))) = true
    · have named := (isStr_iff _ _).mp type
      have formatted := format
      rw [Bool.or_eq_true,Option.isNone_iff_eq_none,isStr_iff] at formatted
      rw [if_neg (by simp [format])]
      simp only [Option.bind_eq_bind,Option.bind_eq_some_iff,startApiKey_iff,Option.pure_def,Option.some.injEq,
        ASRStreamStart.mk.injEq]
      constructor
      · rintro ⟨_,found,_,spoken,_,rated,rfl,rfl,rfl⟩
        exact ⟨named,found,spoken,rated,formatted⟩
      · rintro ⟨_,found,spoken,rated,_⟩
        exact ⟨_,found,_,spoken,_,rated,rfl,rfl,rfl⟩
    · rw [if_pos (by simpa using format)]
      rw [Bool.or_eq_true,Option.isNone_iff_eq_none,isStr_iff] at format
      constructor
      · intro no
        cases no
      · rintro ⟨_,_,_,_,formatted⟩
        exact absurd formatted format
  · rw [if_pos (by simpa using type)]
    constructor
    · intro no
      cases no
    · rintro ⟨named,_⟩
      exact absurd ((isStr_iff _ _).mpr named) type

variable {settings : ConnectionSettings}

theorem isValidApiKey_iff (apiKey : Str) :
    isValidApiKey settings apiKey = true ↔ apiKey = settings.apiKey ∧ settings.apiKey ≠ [] := by
  unfold isValidApiKey
  simp only [Bool.and_eq_true,decide_eq_true_eq]
  constructor
  · rintro ⟨some,same⟩
    exact ⟨same,same ▸ some⟩
  · rintro ⟨same,some⟩
    exact ⟨same ▸ some,same⟩

theorem startLanguage_isLanguage {value : Option Value} {language : Option Str} (spoken : startLanguage value = some language) :
    isLanguage value = true := by
  unfold startLanguage at spoken
  split at spoken
  · rfl
  · rfl
  · rfl
  · cases spoken

theorem startSampleRate_isRate {value : Option Value} (rated : startSampleRate value = some 16000) : isOtherRate value = false := by
  rcases (startSampleRate_iff _ _).mp rated with ⟨rfl,_⟩ | rfl
  · rfl
  · rfl

theorem readStart_iff (payload : Payload) (start : ASRStreamStart) :
    readStart settings payload = .ok start ↔
      modelValidate payload = some start ∧ start.sampleRate = 16000 ∧ start.apiKey = settings.apiKey ∧ settings.apiKey ≠ [] := by
  constructor
  · intro accepted
    unfold readStart at accepted
    split_ifs at accepted
    split at accepted
    · cases accepted
    · rename_i found
      split_ifs at accepted with rate key
      cases accepted
      exact ⟨found,not_not.mp rate,(isValidApiKey_iff _).mp (by simpa using key)⟩
  · rintro ⟨validated,rate,key⟩
    obtain ⟨_,_,spoken,rated,_⟩ := (modelValidate_iff payload start).mp validated
    unfold readStart
    simp only [startLanguage_isLanguage spoken,startSampleRate_isRate (rate ▸ rated),validated,rate,
      (isValidApiKey_iff _).mpr key]
    rfl

/-- The messages that open a session. -/
theorem parseStreamStart_iff (world : World) {rawStart : Str} :
    (∃ start, parseStreamStart settings world rawStart = .ok (.ok start)) ↔
      ∃ payload, JsonText.loads world.nesting rawStart = .ok (.dict payload) ∧ Authentic settings payload := by
  constructor
  · rintro ⟨start,accepted⟩
    unfold parseStreamStart at accepted
    split at accepted
    · cases accepted
    · cases accepted
    · rename_i payload loaded
      obtain ⟨validated,rate,key,secret⟩ := (readStart_iff payload start).mp (Except.ok.inj accepted)
      obtain ⟨type,found,spoken,rated,formatted⟩ := (modelValidate_iff payload start).mp validated
      refine ⟨payload,loaded,type,key ▸ found,secret,?_,?_,formatted⟩
      · exact (startLanguage_isSome _).mp (by rw [spoken]; rfl)
      · rcases (startSampleRate_iff _ _).mp rated with ⟨absent,_⟩ | given
        · exact .inl absent
        · exact .inr (rate ▸ given)
    · cases accepted
  · rintro ⟨payload,loaded,authentic⟩
    obtain ⟨language,spoken⟩ := Option.isSome_iff_exists.mp ((startLanguage_isSome _).mpr authentic.language)
    have rated : startSampleRate (payload.lookup (str "sample_rate")) = some 16000 :=
      (startSampleRate_iff _ _).mpr (authentic.sampleRate.imp (fun absent => ⟨absent,rfl⟩) id)
    refine ⟨⟨settings.apiKey,language,16000⟩,?_⟩
    unfold parseStreamStart
    rw [loaded]
    exact congrArg Except.ok ((readStart_iff _ _).mpr ⟨(modelValidate_iff _ _).mpr
      ⟨authentic.type,authentic.apiKey,spoken,rated,authentic.format⟩,rfl,rfl,authentic.secret⟩)

section
variable {σ : Type} (chars : Alphabet) (world : World) (backend : VADBackend σ)

/-- The frames of a refused start: an error and its close, as far as the client has seen them. -/
def Refused (failure : Failure) (connection : Connection σ) : Prop :=
  connection.calls = [] ∧ connection.sessionId = none ∧ connection.frames <+: [.error failure 1,.close failure.closeCode]

theorem fail_refuses (failure : Failure) (start : σ) :
    wp (fail world failure) (fun _ => Refused failure) (fun _ => Refused failure) (.accepted settings world start) := by
  unfold fail
  rw [wp_bind,wp_get]
  dsimp only
  rw [wp_bind,wp_modify,wp_bind]
  apply transmit_spec world rfl
  · intro steps
    apply transmit_spec world rfl
    · intro steps'
      exact ⟨rfl,rfl,List.prefix_refl _⟩
    · intro steps' step
      exact ⟨rfl,rfl,[.close failure.closeCode],rfl⟩
  · intro steps step
    exact ⟨rfl,rfl,List.nil_prefix⟩

/-- What became of a connection: its start message is accepted, or nothing was begun. -/
def Opened (settings : ConnectionSettings) (world : World) (arrivals : List Arrival) (connection : Connection σ) : Prop :=
  (∃ message rest rawStart start, arrivals = .message message :: rest ∧ message.disconnect = false ∧
      message.text = some rawStart ∧ parseStreamStart settings world rawStart = .ok (.ok start)) ∨
    connection.sessionId = none ∧ connection.calls = [] ∧
      ∃ failure, connection.frames <+: [.error failure 1,.close failure.closeCode]

theorem converse_opens (arrivals : List Arrival) (start : σ) :
    wp (converse chars settings world backend arrivals) (fun _ => Opened settings world arrivals) (fun _ => Opened settings world arrivals)
      (.accepted settings world start) := by
  have refused (failure : Failure) : wp (do fail world failure; return false) (fun _ => Opened settings world arrivals)
      (fun _ => Opened settings world arrivals) (.accepted settings world start) := by
    rw [wp_bind]
    apply wp_mono (fail_refuses world failure start)
    · exact fun _ _ ⟨calls,session,frames⟩ => .inr ⟨session,calls,failure,frames⟩
    · exact fun _ _ ⟨calls,session,frames⟩ => .inr ⟨session,calls,failure,frames⟩
  have opened {program : Code σ Bool} (accepted : ∀ connection : Connection σ, Opened settings world arrivals connection) :
      wp program (fun _ => Opened settings world arrivals) (fun _ => Opened settings world arrivals) (.accepted settings world start) := by
    unfold wp
    split
    · exact accepted _
    · exact accepted _
  have silent : Opened settings world arrivals (Connection.accepted settings world start) :=
    .inr ⟨rfl,rfl,sessionTimeout,List.nil_prefix⟩
  unfold converse
  cases arrivals with
  | nil => exact silent
  | cons arrival rest =>
    cases arrival with
    | timedOut => exact refused _
    | message message =>
      obtain ⟨disconnect,bytes,text⟩ := message
      dsimp only
      split
      · rename_i rawStart
        rcases parsed : parseStreamStart settings world rawStart with error | failure | request
        · exact silent
        · exact refused failure
        · exact opened fun connection => .inl ⟨_,rest,rawStart,request,rfl,rfl,rfl,parsed⟩
      · exact refused _

/-- There is no session to give back, unless a start message was accepted. -/
theorem abort_opens {arrivals : List Arrival} : Keeps (Opened settings world arrivals) (abort : Code σ Unit) := by
  intro connection opened
  rcases opened with accepted | ⟨session,silent⟩
  · unfold wp
    split
    · exact .inl accepted
    · exact .inl accepted
  · unfold abort
    rw [wp_bind,wp_get]
    simp only [session]
    exact .inr ⟨session,silent⟩

theorem transcribeStream_opens (arrivals : List Arrival) (start : σ) :
    wp (transcribeStream chars settings world backend arrivals) (fun _ => Opened settings world arrivals)
      (fun _ => Opened settings world arrivals) (.accepted settings world start) := by
  unfold transcribeStream
  have ends (waits : Bool) : Keeps (Opened settings world arrivals) (do when (!waits) abort; return waits : Code σ Bool) :=
    keeps_bind (keeps_when fun _ => abort_opens world) fun _ => keeps_pure waits
  rw [wp_bind,wp_tryCatch]
  apply wp_mono (converse_opens chars world backend arrivals start)
  · exact fun waits next opened => ends waits next opened
  · intro exc next opened
    rw [wp_bind]
    apply wp_mono (abort_opens world next opened)
    · intro _ last opened
      by_cases ended : exc = .streamClosed ∨ exc = .disconnected
      · rw [if_pos ended]
        exact ends false last opened
      · rw [if_neg ended]
        exact opened
    · exact fun _ _ opened => opened

end

/-- For every client and every world, the coordinator is asked for nothing and the client gets no event
    before a start message with the key of the gateway: until then the frames are a beginning of one error
    and its close. -/
theorem connection_authenticates {σ : Type} (chars : Alphabet) (settings : ConnectionSettings) (world : World)
    (backend : VADBackend σ) (arrivals : List Arrival) (start : σ) :
    ∃ standing connection, connect chars settings world backend arrivals start = (standing,connection) ∧
      ((∃ message rest rawStart payload, arrivals = .message message :: rest ∧ message.disconnect = false ∧
          message.text = some rawStart ∧ JsonText.loads world.nesting rawStart = .ok (.dict payload) ∧
          Authentic settings payload) ∨
        connection.calls = [] ∧ ∃ failure, connection.frames <+: [.error failure 1,.close failure.closeCode]) := by
  obtain ⟨standing,connection,ran,ended⟩ :=
    connect_spec chars world backend (@transcribeStream_opens settings _ chars world backend arrivals start)
  refine ⟨standing,connection,ran,?_⟩
  have opened : Opened settings world arrivals connection := by
    cases standing <;> exact ended
  rcases opened with ⟨message,rest,rawStart,request,arrived,present,text,parsed⟩ | ⟨_,calls,refused⟩
  · obtain ⟨payload,loaded,authentic⟩ := (parseStreamStart_iff world).mp ⟨request,parsed⟩
    exact .inl ⟨message,rest,rawStart,payload,arrived,present,text,loaded,authentic⟩
  · exact .inr ⟨calls,refused⟩

end SpeechGateway.Connections
