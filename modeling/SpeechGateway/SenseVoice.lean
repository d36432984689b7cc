import SpeechGateway.Finals
import SpeechGateway.Programs
import SpeechGateway.Dict
import SpeechGateway.Scanning
import Mathlib.Data.List.TakeWhile

/-!
What SenseVoice writes and what becomes of it: the model sets tags before and into its text,
`normalize_sensevoice_output` takes them out and keeps the first of each kind, and
`SenseVoiceEngine` asks the model for a batch and checks its answer.
-/
namespace SpeechGateway.Microbatch
open SpeechGateway.Backends SpeechGateway.Scheduling RollingSessions Overlap Grouping Scanning Dict
open Programs (bind_ok)

/-- What the group of `TAG_PATTERN` matches. -/
abbrev Tag := { name : Text // name ≠ [] ∧ '|' ∉ name }

/-- The name behind an opening `<|`, as far as it goes. -/
def tagName (text : Text) : Text := (text.drop 2).takeWhile (· ≠ '|')

theorem tagName_bar (text : Text) : '|' ∉ tagName text := by
  intro inside
  simpa using List.mem_takeWhile_imp inside

/-- A match of `TAG_PATTERN` at the head. The name goes on to the next bar, so a shorter one never matches. -/
def readTag (text : Text) : Option Tag :=
  if found : ['<','|'] <+: text ∧ tagName text ≠ [] ∧ ['|','>'] <+: (text.drop 2).dropWhile (· ≠ '|')
  then some ⟨tagName text,found.2.1,tagName_bar text⟩ else none

def writeTag (tag : Tag) : Text := ['<','|'] ++ (tag.val ++ ['|','>'])

theorem readTag_iff {text : Text} {tag : Tag} : readTag text = some tag ↔ writeTag tag <+: text := by
  constructor
  · intro read
    rw [readTag] at read
    split at read
    · rename_i found
      cases read
      obtain ⟨⟨behind,rfl⟩,-,rest,closed⟩ := found
      refine ⟨rest,?_⟩
      have split : behind.takeWhile (· ≠ '|') ++ (['|','>'] ++ rest) = behind := by
        rw [closed]
        exact List.takeWhile_append_dropWhile
      show ['<','|'] ++ (behind.takeWhile (· ≠ '|') ++ ['|','>']) ++ rest = ['<','|'] ++ behind
      rw [List.append_assoc,List.append_assoc,split]
    · cases read
  · rintro ⟨rest,rfl⟩
    have visible : ∀ c ∈ tag.val, decide (c ≠ '|') = true := fun c inside =>
      decide_eq_true fun bar => tag.property.2 (bar ▸ inside)
    have behind : (writeTag tag ++ rest).drop 2 = tag.val ++ (['|','>'] ++ rest) := by simp [writeTag]
    have name : tagName (writeTag tag ++ rest) = tag.val := by
      rw [tagName,behind,List.takeWhile_append_of_pos visible]
      simp
    rw [readTag,dif_pos]
    · exact congrArg some (Subtype.ext name)
    · refine ⟨⟨tag.val ++ (['|','>'] ++ rest),by simp [writeTag]⟩,name ▸ tag.property.1,⟨rest,?_⟩⟩
      rw [behind,List.dropWhile_append_of_pos visible]
      simp

/-- `TAG_PATTERN`. -/
def tagPattern : Pattern Char Tag where
  write := writeTag
  read := readTag
  write_ne _ := List.cons_ne_nil _ _
  read_iff := readTag_iff

def languageTags : List Text := ["zh","yue","en","ja","ko"].map String.toList
def emotionTags : List Text := ["HAPPY","SAD","ANGRY","NEUTRAL"].map String.toList
def eventTags : List Text := ["Speech","BGM","Applause","Laughter","Cry","Cough","Sneeze"].map String.toList

/-- A tag in the loop of `normalize_sensevoice_output`. -/
def noteTag (chars : Alphabet) (metadata : Metadata) (tag : Text) : Metadata :=
  if languageTags.contains tag ∧ ¬(metadata.map Prod.fst).contains "language".toList then
    setItem metadata "language".toList tag
  else if emotionTags.contains tag ∧ ¬(metadata.map Prod.fst).contains "emotion".toList then
    setItem metadata "emotion".toList (chars.lower tag)
  else if eventTags.contains tag ∧ ¬(metadata.map Prod.fst).contains "audio_event".toList then
    setItem metadata "audio_event".toList (chars.lower tag)
  else metadata

/-- `normalize_sensevoice_output`. -/
def normalizeSensevoiceOutput (chars : Alphabet) (raw : Text) : SenseVoiceDecoded where
  text := strip chars (remove tagPattern raw)
  metadata := ((findAll tagPattern raw).map Subtype.val).foldl (noteTag chars) []

/-- What a tag says by itself; an unknown one says nothing. -/
def tagEntry (chars : Alphabet) (tag : Text) : Option (Text × Text) :=
  if languageTags.contains tag then some ("language".toList,tag) else
  if emotionTags.contains tag then some ("emotion".toList,chars.lower tag) else
  if eventTags.contains tag then some ("audio_event".toList,chars.lower tag) else none

/-- No tag is of two kinds, so a tag whose kind was told before changes nothing. -/
theorem noteTag_eq (chars : Alphabet) (metadata : Metadata) (tag : Text) :
    noteTag chars metadata tag = match tagEntry chars tag with
      | some (key,value) => if (metadata.map Prod.fst).contains key then metadata else setItem metadata key value
      | none => metadata := by
  have spoken : ∀ tag ∈ languageTags, ¬emotionTags.contains tag ∧ ¬eventTags.contains tag := by decide
  have felt : ∀ tag ∈ emotionTags, ¬eventTags.contains tag := by decide
  have unlike {tags : List Text} (other : ¬tags.contains tag) (key : Text) :
      ¬(tags.contains tag ∧ ¬(metadata.map Prod.fst).contains key) := fun both => other both.1
  have once {tags : List Text} (inside : tags.contains tag) (key : Text) (set : Metadata) :
      (if tags.contains tag ∧ ¬(metadata.map Prod.fst).contains key then set else metadata) =
        if (metadata.map Prod.fst).contains key then metadata else set := by
    by_cases told : (metadata.map Prod.fst).contains key
    · rw [if_neg fun both => both.2 told,if_pos told]
    · rw [if_pos ⟨inside,told⟩,if_neg told]
  rw [noteTag,tagEntry]
  by_cases language : languageTags.contains tag
  · obtain ⟨noEmotion,noEvent⟩ := spoken tag (List.contains_iff_mem.mp language)
    rw [if_pos language,if_neg (unlike noEmotion _),if_neg (unlike noEvent _)]
    exact once language _ _
  rw [if_neg (unlike language _),if_neg language]
  by_cases emotion : emotionTags.contains tag
  · rw [if_pos emotion,if_neg (unlike (felt tag (List.contains_iff_mem.mp emotion)) _)]
    exact once emotion _ _
  rw [if_neg (unlike emotion _),if_neg emotion]
  by_cases event : eventTags.contains tag
  · rw [if_pos event]
    exact once event _ _
  · rw [if_neg (unlike event _),if_neg event]

theorem nodup_noteTag {metadata : Metadata} (distinct : (metadata.map Prod.fst).Nodup) (chars : Alphabet) (tag : Text) :
    ((noteTag chars metadata tag).map Prod.fst).Nodup := by
  rw [noteTag_eq]
  cases tagEntry chars tag with
  | none => exact distinct
  | some entry =>
    dsimp only
    split
    · exact distinct
    · exact nodup_setItem distinct _ _

theorem lookup_none_iff {metadata : Metadata} {key : Text} :
    metadata.lookup key = none ↔ ¬(metadata.map Prod.fst).contains key := by
  rw [List.lookup_eq_none_iff,List.contains_iff_mem]
  simp only [List.mem_map,not_exists,not_and,ne_eq,bne_iff_ne]
  exact ⟨fun apart item inside same => apart item inside same.symm,fun apart item inside same => apart item inside same.symm⟩

theorem lookup_noteTag (chars : Alphabet) (metadata : Metadata) (tag key : Text) :
    (noteTag chars metadata tag).lookup key = (metadata.lookup key).or ((tagEntry chars tag).toList.lookup key) := by
  rw [noteTag_eq]
  cases tagEntry chars tag with
  | none => simp
  | some entry =>
    obtain ⟨own,value⟩ := entry
    rw [Option.toList_some,lookup_cons,List.lookup_nil]
    dsimp only
    by_cases told : (metadata.map Prod.fst).contains own
    · rw [if_pos told]
      by_cases same : key = own
      · cases found : metadata.lookup key with
        | none => exact absurd told (lookup_none_iff.mp (same ▸ found))
        | some value => rw [Option.some_or]
      · rw [if_neg same,Option.or_none]
    · rw [if_neg told,lookup_setItem]
      by_cases same : key = own
      · rw [if_pos same,if_pos same,same,lookup_none_iff.mpr told,Option.none_or]
      · rw [if_neg same,if_neg same,Option.or_none]

/-- Of each kind the first tag stays. -/
theorem lookup_noteTags (chars : Alphabet) (tags : List Text) (key : Text) :
    (tags.foldl (noteTag chars) []).lookup key = (tags.filterMap (tagEntry chars)).lookup key := by
  induction tags using List.reverseRecOn with
  | nil => rfl
  | append_singleton tags tag ih =>
    rw [List.foldl_append,List.foldl_cons,List.foldl_nil,lookup_noteTag,ih,List.filterMap_append,List.lookup_append]
    cases entry : tagEntry chars tag <;> simp [entry]

theorem nodup_noteTags (chars : Alphabet) (tags : List Text) : ((tags.foldl (noteTag chars) []).map Prod.fst).Nodup := by
  induction tags using List.reverseRecOn with
  | nil => exact List.nodup_nil
  | append_singleton tags tag ih =>
    rw [List.foldl_append,List.foldl_cons,List.foldl_nil]
    exact nodup_noteTag ih chars tag

/-- The raw text is cut in the one way in which no tag begins where a character stands for itself. The text is
    what remains between the tags, without blanks around it, and of each kind of tag the first is told. -/
theorem normalized_pieces (chars : Alphabet) (raw : Text) :
    ∃ pieces : List (Char ⊕ Tag),
      (∀ other, render tagPattern other = raw ∧ Leftmost tagPattern other ↔ other = pieces) ∧
      (normalizeSensevoiceOutput chars raw).text = strip chars (pieces.filterMap Sum.getLeft?) ∧
      ((normalizeSensevoiceOutput chars raw).metadata.map Prod.fst).Nodup ∧
      ∀ key, (normalizeSensevoiceOutput chars raw).metadata.lookup key =
        ((pieces.filterMap Sum.getRight?).filterMap fun tag => tagEntry chars tag.val).lookup key := by
  refine ⟨scan tagPattern 0 raw,fun other => scan_iff.symm.trans eq_comm,rfl,nodup_noteTags chars _,fun key => ?_⟩
  rw [normalizeSensevoiceOutput,lookup_noteTags,List.filterMap_map]
  rfl

/-- Without the tag inside it a piece of text may look like a tag, and stays. -/
example : normalizeSensevoiceOutput ascii "<|en|><|<|HAPPY|>SAD|> hi ".toList =
    ⟨"<|SAD|> hi".toList,[("language".toList,"en".toList),("emotion".toList,"happy".toList)]⟩ := by decide

/-! ## The engine -/

/-- What the model may return, as far as `_generate` looks into it. -/
inductive ModelValue
  | str (text : Text)
  | list (items : List ModelValue)
  | dict (items : List (Text × ModelValue))
  | other

/-- The arguments of the model's `generate`. -/
structure ModelCall where
  input : List Waveform
  language : Text
  useItn : Bool
  batchSize : Nat

/-- The model: a value, or the type name of an exception. -/
abbrev Model := ModelCall → Except String ModelValue

/-- `item.get("text")`, where the item is a `dict` and it a `str`. -/
def itemText : ModelValue → Option Text
  | .dict items =>
    match items.lookup "text".toList with
    | some (.str text) => some text
    | _ => none
  | _ => none

def decodeItem (chars : Alphabet) (item : ModelValue) : Except AdapterError SenseVoiceDecoded :=
  match itemText item with
  | some text => .ok (normalizeSensevoiceOutput chars text)
  | none => .error (.batchFailure "result_contract" "TypeError")

/-- `_generate`. -/
def generate (chars : Alphabet) (useItn : Bool) (model : Model) (inputs : List Waveform) (language : Text) :
    Except AdapterError (List SenseVoiceDecoded) :=
  match model ⟨inputs,language,useItn,inputs.length⟩ with
  | .error typeName => .error (.batchFailure "engine_generate" typeName)
  | .ok (.list raw) =>
    if raw.length ≠ inputs.length then .error (.batchFailure "result_count" "RuntimeError") else raw.mapM (decodeItem chars)
  | .ok _ => .error (.batchFailure "result_contract" "TypeError")

/-- `language or "auto"`. -/
def languageOrAuto (language : Option Text) : Text :=
  if language.getD [] = [] then "auto".toList else language.getD []

def transcribeBatch (chars : Alphabet) (useItn : Bool) (model : Model) : SenseVoiceEngine := fun audio language =>
  if audio = [] then .ok [] else generate chars useItn model audio (languageOrAuto language)

theorem decodeItem_ok {chars : Alphabet} {item : ModelValue} {decoded : SenseVoiceDecoded} :
    decodeItem chars item = .ok decoded ↔ ∃ text, itemText item = some text ∧ decoded = normalizeSensevoiceOutput chars text := by
  rw [decodeItem]
  cases itemText item with
  | none => simp
  | some text => simp [eq_comm]

theorem decodeItems_ok {chars : Alphabet} {raw : List ModelValue} {decoded : List SenseVoiceDecoded} :
    raw.mapM (decodeItem chars) = .ok decoded ↔
      ∃ texts : List Text, raw.map itemText = texts.map some ∧ decoded = texts.map (normalizeSensevoiceOutput chars) := by
  induction raw generalizing decoded with
  | nil =>
    constructor
    · intro same
      cases same
      exact ⟨[],rfl,rfl⟩
    · rintro ⟨texts,same,rfl⟩
      rw [List.map_eq_nil_iff.mp same.symm]
      rfl
  | cons item rest ih =>
    rw [List.mapM_cons,bind_ok]
    constructor
    · rintro ⟨first,here,later⟩
      obtain ⟨others,there,same⟩ := bind_ok.mp later
      cases same
      obtain ⟨text,read,rfl⟩ := decodeItem_ok.mp here
      obtain ⟨texts,reads,rfl⟩ := ih.mp there
      exact ⟨text :: texts,by rw [List.map_cons,List.map_cons,read,reads],rfl⟩
    · rintro ⟨texts,reads,rfl⟩
      cases texts with
      | nil => cases reads
      | cons text texts =>
        rw [List.map_cons,List.map_cons,List.cons.injEq] at reads
        exact ⟨_,decodeItem_ok.mpr ⟨text,reads.1,rfl⟩,bind_ok.mpr ⟨_,ih.mpr ⟨texts,reads.2,rfl⟩,rfl⟩⟩

/-- A batch is answered where the model gives a list with one text for every waveform. -/
theorem transcribeBatch_ok {chars : Alphabet} {useItn : Bool} {model : Model} {audio : List Waveform} {language : Option Text}
    {decoded : List SenseVoiceDecoded} :
    transcribeBatch chars useItn model audio language = .ok decoded ↔ audio = [] ∧ decoded = [] ∨
      audio ≠ [] ∧ ∃ (raw : List ModelValue) (texts : List Text),
        model ⟨audio,languageOrAuto language,useItn,audio.length⟩ = .ok (.list raw) ∧ raw.length = audio.length ∧
        raw.map itemText = texts.map some ∧ decoded = texts.map (normalizeSensevoiceOutput chars) := by
  rw [transcribeBatch]
  by_cases empty : audio = []
  · rw [if_pos empty]
    constructor
    · intro same
      cases same
      exact .inl ⟨empty,rfl⟩
    · rintro (⟨-,rfl⟩ | ⟨some,-⟩)
      · rfl
      · exact absurd empty some
  rw [if_neg empty,generate]
  cases answer : model ⟨audio,languageOrAuto language,useItn,audio.length⟩ with
  | error typeName => simp [empty]
  | ok value =>
    cases value with
    | list raw =>
      dsimp only
      by_cases same : raw.length = audio.length
      · rw [if_neg (not_not.mpr same),decodeItems_ok]
        simp [empty,same]
      · rw [if_pos same]
        simp [empty,same]
    | str text => simp [empty]
    | dict items => simp [empty]
    | other => simp [empty]

/-- A model that transcribes every waveform by itself makes an engine that does. -/
theorem transcribeBatch_alone {chars : Alphabet} {useItn : Bool} {model : Model} {transcript : Waveform → Text → Text}
    (alone : ∀ call, model call = .ok (.list (call.input.map fun waveform =>
      .dict [("text".toList,.str (transcript waveform call.language))])))
    (audio : List Waveform) (language : Option Text) :
    transcribeBatch chars useItn model audio language =
      .ok (audio.map fun waveform => normalizeSensevoiceOutput chars (transcript waveform (languageOrAuto language))) := by
  rw [transcribeBatch_ok]
  by_cases empty : audio = []
  · exact .inl ⟨empty,by rw [empty,List.map_nil]⟩
  · refine .inr ⟨empty,_,audio.map fun waveform => transcript waveform (languageOrAuto language),alone _,
      List.length_map ..,?_,?_⟩
    · rw [List.map_map,List.map_map]
      rfl
    · rw [List.map_map]
      rfl

/-- With such a model the final text of a segment is its transcript without the tags. -/
theorem final_normalized (settings : SenseVoiceSettings) (chars : Alphabet) (useItn : Bool) {model : Model}
    {transcript : Waveform → Text → Text} (alone : ∀ call, model call = .ok (.list (call.input.map fun waveform =>
      .dict [("text".toList,.str (transcript waveform call.language))]))) :
    (senseVoiceSessions settings (transcribeBatch chars useItn model)).TellsFinal
      (fun language waveform => normalizeSensevoiceOutput chars (transcript waveform (languageOrAuto language)))
      fun state => state.language :=
  Caching.tellsFinal (senseVoice_sound settings _) (senseVoice_caching (transcribeBatch_alone alone))

/-! ## The languages that the model is asked for -/

/-- A language that a session may have. -/
def Supported (language : Option Text) : Prop := ∀ told ∈ language, told ∈ senseVoiceLanguages

def AllSupported (sessions : SessionId → Option SenseVoiceState) : Prop :=
  ∀ (sessionId : SessionId) (state : SenseVoiceState), sessions sessionId = some state → Supported state.language

/-- The languages of the groups that a call has still to decode. -/
def Suspended.Asks : Suspended (Option Text) SenseVoiceDecoded → Prop
  | .decoding _ groups _ => ∀ group ∈ groups, Supported group.1
  | .asked _ _ _ groups _ => ∀ group ∈ groups, Supported group.1
  | _ => True

/-- The model, with an exception in place of an answer in any language that is not one of the adapter's. -/
def restricted (model : Model) : Model := fun call =>
  if senseVoiceLanguages.contains call.language then model call else .error "AssertionError"

variable {settings : SenseVoiceSettings} {engine other : SenseVoiceEngine}

theorem languageOrAuto_supported {language : Option Text} (supported : Supported language) :
    languageOrAuto language ∈ senseVoiceLanguages := by
  rw [languageOrAuto]
  split
  · decide
  · cases language with
    | none => contradiction
    | some told => exact supported told rfl

theorem transcribeBatch_restricted (chars : Alphabet) (useItn : Bool) (model : Model) (audio : List Waveform)
    {language : Option Text} (supported : Supported language) :
    transcribeBatch chars useItn model audio language = transcribeBatch chars useItn (restricted model) audio language := by
  have known := List.contains_iff_mem.mpr (languageOrAuto_supported supported)
  simp only [transcribeBatch,generate,restricted,if_pos known]

theorem AllSupported.modify {adapter : Adapter SenseVoiceState} (held : AllSupported adapter.sessions) (sessionId : SessionId)
    {change : SenseVoiceState → SenseVoiceState}
    (kept : ∀ state, Supported state.language → Supported (change state).language) :
    AllSupported (adapter.modify sessionId change).sessions := by
  intro other state found
  simp only [Adapter.modify] at found
  split at found
  · obtain ⟨before,here,rfl⟩ := Option.map_eq_some_iff.mp found
    exact kept before (held other before here)
  · exact held other state found

theorem AllSupported.extend {adapter : Adapter SenseVoiceState} (held : AllSupported adapter.sessions) (jobs : List InferenceJob) :
    AllSupported ((senseVoice settings engine).extendAll adapter jobs).sessions := by
  rw [Rolling.extendAll]
  induction jobs generalizing adapter with
  | nil => exact held
  | cons job rest ih => exact ih (held.modify job.sessionId fun _ => id)

/-- A language that a result tells is taken over only where the adapter has it. -/
theorem settle_supported {state : SenseVoiceState} (supported : Supported state.language) (job : InferenceJob)
    (item : SenseVoiceDecoded) : Supported ((senseVoice settings engine).settle state job item).1.language := by
  have told : Supported (state.language.or
      ((item.metadata.lookup "language".toList).filter (· ∈ senseVoiceLanguages))) := by
    intro told here
    cases known : state.language with
    | some own =>
      rw [known,Option.some_or] at here
      exact supported told (known ▸ here)
    | none =>
      rw [known,Option.none_or] at here
      exact of_decide_eq_true (Option.mem_filter_iff.mp here).2
  simp only [senseVoice]
  split <;> exact told

theorem AllSupported.settle {adapter : Adapter SenseVoiceState} (held : AllSupported adapter.sessions)
    (settled : List (InferenceJob × Option SenseVoiceDecoded)) :
    AllSupported ((senseVoice settings engine).settleAll adapter settled).2.sessions := by
  induction settled generalizing adapter with
  | nil => exact held
  | cons entry rest ih =>
    obtain ⟨job,item⟩ := entry
    cases item with
    | none => exact held
    | some item =>
      simp only [Rolling.settleAll]
      cases adapter.sessions job.sessionId with
      | none => exact held
      | some state => exact ih (held.modify job.sessionId fun state supported => settle_supported supported job item)

theorem AllSupported.write {sessions : SessionId → Option SenseVoiceState} (held : AllSupported sessions) (sessionId : SessionId)
    {next : Option SenseVoiceState} (supported : ∀ state ∈ next, Supported state.language) :
    AllSupported fun other => if other = sessionId then next else sessions other := by
  intro other state found
  dsimp only at found
  split at found
  · exact supported state found
  · exact held other state found

theorem AllSupported.conclude {sessions : SessionId → Option SenseVoiceState} (held : AllSupported sessions)
    {sessionId : SessionId} {last : Bool} {concluded : Except AdapterError (SenseVoiceDecoded × SenseVoiceState)}
    (next : ∀ final state, concluded = .ok (final,state) → Supported state.language) :
    AllSupported ((senseVoiceSessions settings engine).conclusion sessionId last concluded sessions).1 := by
  cases concluded with
  | error exc => exact held
  | ok concluded =>
    obtain ⟨final,state⟩ := concluded
    refine held.write sessionId fun after here => ?_
    cases last with
    | true => cases here
    | false =>
      cases here
      exact next final _ rfl

theorem consumeFinal_language {state next : SenseVoiceState} {ready : Bool} {final : SenseVoiceDecoded}
    (consumed : (senseVoiceSessions settings engine).consumeFinal ready state = .ok (final,next)) :
    next.language = state.language := by
  rw [RollingSessions.consumeFinal] at consumed
  split at consumed
  · cases consumed
    rfl
  split at consumed
  · cases consumed
    rfl
  split at consumed
  · cases consumed
  split at consumed
  · cases consumed
  split at consumed
  · cases consumed
  · cases consumed
    rfl

theorem languageOf_supported {language start : Option Text}
    (taken : (senseVoiceSessions settings engine).languageOf language = .ok start) : Supported start := by
  simp only [senseVoiceSessions] at taken
  generalize (if language.getD [] = [] then "auto".toList else language.getD []) = normalized at taken
  split at taken
  · rename_i known
    cases taken
    intro told here
    split at here
    · cases here
    · cases here
      exact List.contains_iff_mem.mp known
  · cases taken

theorem admissible_language {State Key Item Final : Type} {backend : RollingSessions State Key Item Final}
    {ready taken timestamps : Bool} {language start : Option Text} {task : Text}
    (admitted : backend.admissible ready taken language task timestamps = .ok start) :
    backend.languageOf language = .ok start := by
  simp only [RollingSessions.admissible,bind,Except.bind,pure,Except.pure,throw,throwThe,MonadExceptOf.throw] at admitted
  generalize "transcribe".toList = transcribe at admitted
  cases spoken : backend.languageOf language with
  | error exc =>
    rw [spoken] at admitted
    cases ready <;> cases timestamps <;> by_cases named : task = transcribe <;> simp [named] at admitted
  | ok normalized =>
    rw [spoken] at admitted
    cases ready <;> cases timestamps <;> cases taken <;> by_cases named : task = transcribe <;>
      simp [named] at admitted
    exact congrArg _ admitted

theorem AllSupported.openSession {sessions : SessionId → Option SenseVoiceState} (held : AllSupported sessions)
    (ready loaded : Bool) (sessionId : SessionId) (language : Option Text) (task : Text) (timestamps : Bool) :
    AllSupported ((senseVoiceSessions settings engine).openSession sessionId language task timestamps
      ⟨ready,loaded,sessions⟩).2.sessions := by
  simp only [RollingSessions.openSession]
  split
  · exact held
  · rename_i start admitted
    refine held.write sessionId fun state here => ?_
    cases here
    exact languageOf_supported (admissible_language admitted)

theorem AllSupported.groups {sessions : SessionId → Option SenseVoiceState} (held : AllSupported sessions)
    {ready loaded : Bool} {jobs : List InferenceJob} :
    ∀ entry ∈ group ((Rolling.entries ⟨ready,loaded,sessions⟩ jobs).map fun entry =>
      (senseVoiceSessions settings engine).key entry.1 entry.2), Supported entry.1 := by
  intro entry inside
  obtain ⟨⟨state,job⟩,there,same⟩ := List.mem_map.mp (key_of_group inside)
  obtain ⟨own,-,found⟩ := List.mem_filterMap.mp there
  obtain ⟨before,here,same'⟩ := Option.map_eq_some_iff.mp found
  cases same'
  rw [← same]
  exact held _ _ here

/-- A step that answers asks nothing more. -/
theorem AllSupported.answered {sessions : SessionId → Option SenseVoiceState} (held : AllSupported sessions)
    (reply : Except AdapterError Answer) :
    AllSupported sessions ∧ ∀ later : Suspended (Option Text) SenseVoiceDecoded, .inr reply = Sum.inl later → later.Asks :=
  ⟨held,nofun⟩

theorem AllSupported.startBatch {sessions : SessionId → Option SenseVoiceState} (held : AllSupported sessions)
    (flags : Flags) (jobs : List InferenceJob) :
    AllSupported ((senseVoiceSessions settings engine).startBatch flags jobs sessions).1 ∧
      ∀ later, ((senseVoiceSessions settings engine).startBatch flags jobs sessions).2 = .inl later → later.Asks := by
  have before : AllSupported (Adapter.mk flags.ready flags.loaded sessions).sessions := held
  simp only [RollingSessions.startBatch]
  split
  · exact held.answered _
  split
  · exact held.answered _
  split
  · exact held.answered _
  split
  · exact (before.extend jobs).answered _
  · refine ⟨before.extend jobs,fun later goesOn => ?_⟩
    cases goesOn
    exact (before.extend jobs).groups

/-- Every step keeps the languages of the sessions, and asks in no other. -/
theorem AllSupported.advance (call : Suspended (Option Text) SenseVoiceDecoded) (sessions : SessionId → Option SenseVoiceState)
    (held : AllSupported sessions) (asks : call.Asks) :
    AllSupported ((senseVoiceSessions settings engine).advance call sessions).1 ∧
      ∀ later, ((senseVoiceSessions settings engine).advance call sessions).2 = .inl later → later.Asks := by
  cases call with
  | begun flags request =>
    cases request with
    | openSession sessionId language task timestamps =>
      exact (held.openSession flags.ready flags.loaded sessionId language task timestamps).answered _
    | submit jobs => exact held.startBatch flags jobs
    | finish sessionId last =>
      simp only [RollingSessions.advance]
      split
      · exact held.answered _
      rename_i state found
      split
      · refine ⟨held,fun later goesOn => ?_⟩
        cases goesOn
        trivial
      · refine AllSupported.answered (held.conclude fun final next consumed => ?_) _
        rw [consumeFinal_language consumed]
        exact held sessionId state found
    | abort sessionId =>
      have gone : AllSupported fun other => if other = sessionId then none else sessions other :=
        held.write sessionId fun state here => absurd here (Option.not_mem_none state)
      exact gone.answered _
    | drain => exact held.answered _
    | close =>
      refine ⟨fun _ _ none => absurd none (Option.not_mem_none _),fun later goesOn => ?_⟩
      simp only [RollingSessions.advance] at goesOn
      split at goesOn
      · cases goesOn
        trivial
      · cases goesOn
  | decoding jobs groups decoded =>
    cases groups with
    | nil =>
      have before : AllSupported (Adapter.mk true true sessions).sessions := held
      exact (before.settle _).answered _
    | cons first groups =>
      simp only [RollingSessions.advance]
      split
      · exact held.answered _
      · refine ⟨held,fun later goesOn => ?_⟩
        cases goesOn
        exact fun entry inside => asks entry (List.mem_cons_of_mem _ inside)
  | asked jobs indices answer groups decoded =>
    cases answer with
    | error exc => exact held.answered _
    | ok items =>
      refine ⟨held,fun later goesOn => ?_⟩
      cases goesOn
      exact asks
  | finishing sessionId last =>
    simp only [RollingSessions.advance]
    split
    · exact held.answered _
    split
    · exact held.answered _
    · refine ⟨held,fun later goesOn => ?_⟩
      cases goesOn
      trivial
  | finalizing sessionId last answer =>
    simp only [RollingSessions.advance]
    split
    · exact held.answered _
    rename_i state found
    refine AllSupported.answered (held.conclude fun final next concluded => ?_) _
    cases answer with
    | error exc => cases concluded
    | ok item =>
      cases concluded
      exact held sessionId state found
  | closing => exact held.answered _

theorem check_alike (adapter : Adapter SenseVoiceState) (jobs : List InferenceJob) (seen : List SessionId) :
    (senseVoice settings engine).check adapter jobs seen = (senseVoice settings other).check adapter jobs seen := by
  induction jobs generalizing seen with
  | nil => rfl
  | cons job rest ih =>
    simp only [Rolling.check,ih]
    rfl

theorem settleAll_alike (adapter : Adapter SenseVoiceState) (settled : List (InferenceJob × Option SenseVoiceDecoded)) :
    (senseVoice settings engine).settleAll adapter settled = (senseVoice settings other).settleAll adapter settled := by
  induction settled generalizing adapter with
  | nil => rfl
  | cons entry rest ih =>
    obtain ⟨job,item⟩ := entry
    cases item with
    | none => rfl
    | some item =>
      simp only [Rolling.settleAll,ih]
      rfl

/-- Engines that agree on the languages of the adapter take the same steps. -/
theorem advance_alike (agree : ∀ audio language, Supported language → engine audio language = other audio language)
    (call : Suspended (Option Text) SenseVoiceDecoded) (sessions : SessionId → Option SenseVoiceState)
    (held : AllSupported sessions) (asks : call.Asks) :
    (senseVoiceSessions settings engine).advance call sessions = (senseVoiceSessions settings other).advance call sessions := by
  cases call with
  | begun flags request =>
    cases request with
    | openSession sessionId language task timestamps => rfl
    | submit jobs =>
      have checked adapter : (senseVoiceSessions settings engine).check adapter jobs [] =
          (senseVoiceSessions settings other).check adapter jobs [] := check_alike adapter jobs []
      simp only [RollingSessions.advance,RollingSessions.startBatch,checked]
      rfl
    | finish sessionId last =>
      cases found : sessions sessionId with
      | none => simp only [RollingSessions.advance,found]
      | some state =>
        have final waveform : (senseVoiceSessions settings engine).decodeFinal state waveform =
            (senseVoiceSessions settings other).decodeFinal state waveform := by
          simp only [senseVoiceSessions,agree _ _ (held sessionId state found)]
        have consumed ready : (senseVoiceSessions settings engine).consumeFinal ready state =
            (senseVoiceSessions settings other).consumeFinal ready state := by
          simp only [RollingSessions.consumeFinal,final]
          rfl
        simp only [RollingSessions.advance,found,consumed]
        rfl
    | abort sessionId => rfl
    | drain => rfl
    | close => rfl
  | decoding jobs groups decoded =>
    cases groups with
    | nil =>
      have settled : (senseVoiceSessions settings engine).settleAll ⟨true,true,sessions⟩ (jobs.zip decoded) =
          (senseVoiceSessions settings other).settleAll ⟨true,true,sessions⟩ (jobs.zip decoded) := settleAll_alike _ _
      simp only [RollingSessions.advance,settled]
    | cons first groups =>
      have supported := asks first List.mem_cons_self
      have decode waveforms : (senseVoiceSessions settings engine).decode first.1 waveforms =
          (senseVoiceSessions settings other).decode first.1 waveforms := by
        simp only [senseVoiceSessions,senseVoice,agree _ _ supported]
      simp only [RollingSessions.advance,decode]
      rfl
  | asked jobs indices answer groups decoded => rfl
  | finishing sessionId last =>
    cases found : sessions sessionId with
    | none => simp only [RollingSessions.advance,found]
    | some state =>
      have final waveform : (senseVoiceSessions settings engine).decodeFinal state waveform =
          (senseVoiceSessions settings other).decodeFinal state waveform := by
        simp only [senseVoiceSessions,agree _ _ (held sessionId state found)]
      simp only [RollingSessions.advance,found,final]
      rfl
  | finalizing sessionId last answer => rfl
  | closing => rfl

theorem run_alike (agree : ∀ audio language, Supported language → engine audio language = other audio language)
    {flags : Flags} {entries : List (Entry Flags Request Nat)} {state : Running SessionId (Option SenseVoiceState) Flags
      (Suspended (Option Text) SenseVoiceDecoded) (Except AdapterError Answer) Nat}
    (run : Run (senseVoiceSessions settings engine).calls ⟨flags,fun _ => none,[],[]⟩ entries state) :
    Run (senseVoiceSessions settings other).calls ⟨flags,fun _ => none,[],[]⟩ entries state :=
  run.transfer AllSupported Suspended.Asks (fun call store held asks => held.advance call store asks)
    (fun call store held asks => advance_alike agree call store held asks) (fun _ _ => trivial) nofun

/-- Whatever calls for different sessions overlap, the model is asked in the languages of the adapter
    only: with a model that refuses every other language the runs are the same. -/
theorem asks_supported (settings : SenseVoiceSettings) (chars : Alphabet) (useItn : Bool) (model : Model) (flags : Flags)
    (entries : List (Entry Flags Request Nat)) (state : Running SessionId (Option SenseVoiceState) Flags
      (Suspended (Option Text) SenseVoiceDecoded) (Except AdapterError Answer) Nat) :
    Run (senseVoiceSessions settings (transcribeBatch chars useItn model)).calls ⟨flags,fun _ => none,[],[]⟩ entries state ↔
      Run (senseVoiceSessions settings (transcribeBatch chars useItn (restricted model))).calls ⟨flags,fun _ => none,[],[]⟩
        entries state :=
  ⟨run_alike fun audio _ supported => transcribeBatch_restricted chars useItn model audio supported,
    run_alike fun audio _ supported => (transcribeBatch_restricted chars useItn model audio supported).symm⟩

end SpeechGateway.Microbatch
