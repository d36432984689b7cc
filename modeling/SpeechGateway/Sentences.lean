import SpeechGateway.Display
import Mathlib.Data.List.Chain
import Mathlib.Data.List.TakeWhile
import Mathlib.Data.Nat.Find

/-!
Sentences read twice. `split_committed_sentences` reads a text once, with everything before a dot
in view. `_commit_all_complete_sentences` reads the sentences again, each without the text before
it. The commit agrees with the splitter exactly where both readings end the sentences alike
(`commit_agrees_iff`).
-/
namespace SpeechGateway.Streaming
open StreamingTranscriptState

theorem strip_blank_append (chars : Alphabet) {blank : Text} (text : Text) (spaces : ∀ c ∈ blank, chars.isSpace c) :
    strip chars (blank ++ text) = strip chars text := by
  rw [strip,List.dropWhile_append_of_pos spaces,← strip]

theorem strip_append_blank (chars : Alphabet) (text : Text) {blank : Text} (spaces : ∀ c ∈ blank, chars.isSpace c) :
    strip chars (text ++ blank) = strip chars text := by
  have gone : blank.dropWhile chars.isSpace = [] := List.dropWhile_eq_nil_iff.mpr spaces
  have reversed : ∀ c ∈ blank.reverse, chars.isSpace c := by simpa using spaces
  rw [strip,strip,List.dropWhile_append]
  by_cases empty : (text.dropWhile chars.isSpace).isEmpty
  · simp [gone,List.isEmpty_iff.mp empty]
  · rw [if_neg empty,List.reverse_append,List.dropWhile_append_of_pos reversed]

theorem slice_append (text : Text) {start middle stop : Nat} (before : start ≤ middle) (after : middle ≤ stop) :
    slice text start stop = slice text start middle ++ slice text middle stop := by
  simp only [slice,List.drop_take]
  have parts := List.take_add (l := text.drop start) (i := middle - start) (j := stop - middle)
  rw [List.drop_drop,show start + (middle - start) = middle by omega] at parts
  rw [← parts,show middle - start + (stop - middle) = stop - start by omega]

theorem length_slice (text : Text) (start : Nat) {stop : Nat} (inside : stop ≤ text.length) :
    (slice text start stop).length = stop - start := by
  simp [slice]
  omega

section
variable {chars : Alphabet}

/-- Terminators and closers of sentences are not white space. -/
def Visible (chars : Alphabet) : Prop :=
  ∀ c, c ∈ sentenceTerminators ∨ c ∈ sentenceClosers → chars.isSpace c = false

/-- A text that ends visibly loses only its leading white space. -/
theorem strip_take (text : Text) {stop : Nat} {last : Char} (final : text[stop]? = some last)
    (visible : chars.isSpace last = false) :
    strip chars (text.take (stop + 1)) = (text.take (stop + 1)).dropWhile chars.isSpace := by
  have ends : text.take (stop + 1) = text.take stop ++ [last] := by rw [List.take_add_one,final]; rfl
  have kept : ∃ rest, (text.take (stop + 1)).dropWhile chars.isSpace = rest ++ [last] := by
    rw [ends,List.dropWhile_append]
    by_cases empty : ((text.take stop).dropWhile chars.isSpace).isEmpty
    · exact ⟨[],by simp [empty,visible]⟩
    · exact ⟨_,if_neg empty⟩
  obtain ⟨rest,kept⟩ := kept
  rw [strip,kept]
  simp [visible]

/-- Two prefixes that end visibly and are the same when stripped are the same. -/
theorem strip_take_inj (text : Text) {first second : Nat} {last final : Char} (ends : text[first]? = some last)
    (visible : chars.isSpace last = false) (stops : text[second]? = some final) (seen : chars.isSpace final = false)
    (same : strip chars (text.take (first + 1)) = strip chars (text.take (second + 1))) : first = second := by
  have leads : ∀ {stop : Nat} {last : Char}, text[stop]? = some last → chars.isSpace last = false →
      (text.takeWhile chars.isSpace).length + (strip chars (text.take (stop + 1))).length = stop + 1 := by
    intro stop last ends visible
    have inside : stop < text.length := (List.getElem?_eq_some_iff.mp ends).1
    have short : (text.takeWhile chars.isSpace).length ≤ stop := by
      by_contra long
      have split := List.takeWhile_append_dropWhile (p := chars.isSpace) (l := text)
      rw [← split,List.getElem?_append_left (by omega)] at ends
      simp [List.mem_takeWhile_imp (List.mem_of_getElem? ends)] at visible
    have parts := congrArg List.length
      (List.takeWhile_append_dropWhile (p := chars.isSpace) (l := text.take (stop + 1)))
    rw [← List.take_takeWhile,List.length_append,List.length_take,List.length_take,← strip_take text ends visible] at parts
    omega
  have one := leads ends visible
  have two := leads stops seen
  rw [same] at one
  omega

/-- The first sentence end from `start` on is at `index`. -/
structure FirstEnd (chars : Alphabet) (text : Text) (start index : Nat) : Prop where
  reached : start ≤ index
  ends : endsSentence chars text index = true
  quiet : ∀ earlier, start ≤ earlier → earlier < index → endsSentence chars text earlier = false

theorem endsSentence_inside {text : Text} {index : Nat} (ends : endsSentence chars text index = true) :
    index < text.length := by
  by_contra outside
  simp [endsSentence,List.getElem?_eq_none (not_lt.mp outside)] at ends

theorem firstEnd_or_quiet (chars : Alphabet) (text : Text) (start : Nat) :
    (∃ index, FirstEnd chars text start index) ∨ ∀ index, start ≤ index → endsSentence chars text index = false := by
  by_cases some : ∃ index, start ≤ index ∧ endsSentence chars text index = true
  · obtain ⟨reached,ends⟩ := Nat.find_spec some
    refine .inl ⟨Nat.find some,reached,ends,?_⟩
    intro earlier after before
    simpa [after] using Nat.find_min some before
  · refine .inr fun index after => ?_
    simpa [after] using not_exists.mp some index

theorem sentenceBoundaryEnd_le {text : Text} {index : Nat} (inside : index < text.length) :
    sentenceBoundaryEnd text index ≤ text.length := by
  have short := (List.takeWhile_sublist (l := text.drop (index + 1)) fun c =>
    sentenceTerminators.contains c || sentenceClosers.contains c).length_le
  rw [List.length_drop] at short
  unfold sentenceBoundaryEnd
  omega

/-- A run of terminators and closers ends visibly. -/
theorem boundary_visible (seen : Visible chars) {text : Text} {index : Nat} (ends : endsSentence chars text index = true) :
    ∃ last, text[sentenceBoundaryEnd text index - 1]? = some last ∧ chars.isSpace last = false := by
  unfold sentenceBoundaryEnd
  generalize runIs : (text.drop (index + 1)).takeWhile
    (fun c => sentenceTerminators.contains c || sentenceClosers.contains c) = run
  have split := List.takeWhile_append_dropWhile (l := text.drop (index + 1))
    (p := fun c => sentenceTerminators.contains c || sentenceClosers.contains c)
  rw [runIs] at split
  rcases run.eq_nil_or_concat with rfl | ⟨earlier,last,rfl⟩
  · obtain ⟨c,found,terminates⟩ := (Option.any_eq_true _ _).mp (Bool.and_eq_true_iff.mp ends).1
    exact ⟨c,by simpa using found,seen c (.inl (by simpa using terminates))⟩
  · have punctuation := List.mem_takeWhile_imp (x := last) (by rw [runIs]; simp)
    refine ⟨last,?_,seen last (by simpa using punctuation)⟩
    have placed : (text.drop (index + 1))[earlier.length]? = some last := by rw [← split]; simp
    rw [List.getElem?_drop] at placed
    rw [← placed,List.length_concat]
    congr 1

theorem firstPunctuationLoop_skip {text : Text} {index stop : Nat} (before : index ≤ stop) (inside : stop ≤ text.length)
    (quiet : ∀ earlier, index ≤ earlier → earlier < stop → endsSentence chars text earlier = false) (minChars : Int) :
    firstPunctuationLoop chars text minChars index = firstPunctuationLoop chars text minChars stop := by
  induction before using Nat.decreasingInduction with
  | self => rfl
  | of_succ index before ih =>
    rw [firstPunctuationLoop,dif_pos (by omega),if_neg (by simp [quiet index le_rfl before])]
    exact ih fun earlier after => quiet earlier (by omega)

/-- `first_punctuation_candidate` of a text without a sentence end. -/
theorem firstPunctuationCandidate_quiet {text : Text} (quiet : ∀ index, endsSentence chars text index = false)
    (minChars : Int) : firstPunctuationCandidate chars text minChars = [] := by
  rw [firstPunctuationCandidate,firstPunctuationLoop_skip (Nat.zero_le _) le_rfl fun index _ _ => quiet index,
    firstPunctuationLoop,dif_neg (by omega)]

/-- `first_punctuation_candidate` ends at the first sentence end. -/
theorem firstPunctuationCandidate_found (seen : Visible chars) {text : Text} {index : Nat}
    (found : FirstEnd chars text 0 index) :
    firstPunctuationCandidate chars text 1 = text.take (sentenceBoundaryEnd text index) := by
  have inside := endsSentence_inside found.ends
  rw [firstPunctuationCandidate,firstPunctuationLoop_skip found.reached inside.le found.quiet,
    firstPunctuationLoop,dif_pos inside,if_pos found.ends]
  refine if_pos ?_
  obtain ⟨last,final,visible⟩ := boundary_visible seen found.ends
  have stays : last ∈ (text.take (sentenceBoundaryEnd text index)).filter fun c => !chars.isSpace c := by
    refine List.mem_filter.mpr ⟨?_,by simp [visible]⟩
    have positive := lt_sentenceBoundaryEnd text index
    exact List.mem_of_getElem? (i := sentenceBoundaryEnd text index - 1)
      (by rw [List.getElem?_take_of_lt (by omega)]; exact final)
  have long := List.length_pos_of_mem stays
  omega

/-! ## Reading a text once -/

/-- The position after the white space at `position`. -/
def skipSpaces (chars : Alphabet) (text : Text) (position : Nat) : Nat :=
  position + ((text.drop position).takeWhile chars.isSpace).length

theorem skipSpaces_le {text : Text} {position : Nat} (inside : position ≤ text.length) :
    skipSpaces chars text position ≤ text.length := by
  have short := (List.takeWhile_sublist (l := text.drop position) chars.isSpace).length_le
  rw [List.length_drop] at short
  unfold skipSpaces
  omega

/-- What `skipSpaces` skips is white space. -/
theorem slice_skipSpaces (text : Text) (position : Nat) :
    ∀ c ∈ slice text position (skipSpaces chars text position), chars.isSpace c := by
  have skipped : slice text position (skipSpaces chars text position) = (text.drop position).takeWhile chars.isSpace := by
    rw [slice,skipSpaces,List.drop_take,Nat.add_sub_cancel_left]
    exact List.prefix_iff_eq_take.mp (List.takeWhile_prefix _) |>.symm
  rw [skipped]
  exact fun c => List.mem_takeWhile_imp

/-- Where the sentences end that `split_committed_sentences` finds from `index` on. -/
def sentenceEnds (chars : Alphabet) (text : Text) (index : Nat) : List Nat :=
  if _inside : index < text.length then
    if endsSentence chars text index then
      sentenceBoundaryEnd text index :: sentenceEnds chars text (skipSpaces chars text (sentenceBoundaryEnd text index))
    else sentenceEnds chars text (index + 1)
  else []
termination_by text.length - index
decreasing_by
  · have := lt_sentenceBoundaryEnd text index
    unfold skipSpaces
    omega
  · omega

/-- The splitter reads `text` from `start`: where its sentences end, what it commits for them, and
    where the tail starts. -/
inductive Reading (chars : Alphabet) (text : Text) : Nat → List Nat → List Text → Nat → Prop
  | done {start : Nat} (quiet : ∀ index, start ≤ index → endsSentence chars text index = false) : Reading chars text start [] [] start
  | sentence {start index last : Nat} {ends : List Nat} {committed : List Text} (found : FirstEnd chars text start index)
      (rest : Reading chars text (skipSpaces chars text (sentenceBoundaryEnd text index)) ends committed last) :
      Reading chars text start (sentenceBoundaryEnd text index :: ends)
        (strip chars (slice text start (sentenceBoundaryEnd text index)) :: committed) last

/-- A sentence is not blank. -/
theorem strip_sentence (seen : Visible chars) {text : Text} {start index : Nat} (reached : start ≤ index)
    (ends : endsSentence chars text index = true) : strip chars (slice text start (sentenceBoundaryEnd text index)) ≠ [] := by
  obtain ⟨last,final,visible⟩ := boundary_visible seen ends
  have positive := lt_sentenceBoundaryEnd text index
  have placed : (text.drop start)[sentenceBoundaryEnd text index - start - 1]? = some last := by
    rw [List.getElem?_drop,← final]
    congr 1
    omega
  have stripped := strip_take (text.drop start) placed visible
  rw [show sentenceBoundaryEnd text index - start - 1 + 1 = sentenceBoundaryEnd text index - start by omega,
    ← List.drop_take] at stripped
  rw [slice,stripped]
  intro blank
  have space := List.dropWhile_eq_nil_iff.mp blank last (List.mem_of_getElem? (i := sentenceBoundaryEnd text index - start - 1)
    (by rw [List.drop_take,List.getElem?_take_of_lt (by omega)]; exact placed))
  simp [visible] at space

theorem splitCommittedLoop_reading (seen : Visible chars) (text : Text) (index : Nat) {start : Nat} (reached : start ≤ index)
    (quiet : ∀ earlier, start ≤ earlier → earlier < index → endsSentence chars text earlier = false) (committed : List Text) :
    ∃ found last, Reading chars text start (sentenceEnds chars text index) found last ∧
      splitCommittedLoop chars text index start committed = (committed ++ found,text.drop last) := by
  fun_induction sentenceEnds chars text index generalizing start committed with
  | case1 index inside ends ih =>
    obtain ⟨found,last,read,split⟩ := ih le_rfl (by omega)
      (committed ++ [strip chars (slice text start (sentenceBoundaryEnd text index))])
    refine ⟨_,last,.sentence ⟨reached,ends,quiet⟩ read,?_⟩
    rw [splitCommittedLoop,dif_pos inside,if_pos ends]
    dsimp only
    rw [if_pos (strip_sentence seen reached ends)]
    exact split.trans (by simp)
  | case2 index inside going ih =>
    have still : ∀ earlier, start ≤ earlier → earlier < index + 1 → endsSentence chars text earlier = false := by
      intro earlier after before
      rcases Nat.lt_succ_iff_lt_or_eq.mp before with before | rfl
      · exact quiet earlier after before
      · simpa using going
    obtain ⟨found,last,read,split⟩ := ih (by omega) still committed
    refine ⟨found,last,read,?_⟩
    rw [splitCommittedLoop,dif_pos inside,if_neg going]
    exact split
  | case3 index outside =>
    refine ⟨[],start,.done fun earlier after => ?_,?_⟩
    · by_cases before : earlier < index
      · exact quiet earlier after before
      · exact Bool.eq_false_iff.mpr fun ends => by have := endsSentence_inside ends; omega
    · rw [splitCommittedLoop,dif_neg outside,List.append_nil]

/-- The positions of a reading are inside the text, and each is behind the one before. -/
theorem Reading.bounds {text : Text} {start last : Nat} {ends : List Nat} {committed : List Text}
    (read : Reading chars text start ends committed last) (inside : start ≤ text.length) :
    start ≤ last ∧ last ≤ text.length ∧ (∀ stop ∈ ends, start < stop ∧ stop ≤ last) ∧ committed.length = ends.length := by
  induction read with
  | done _ => exact ⟨le_rfl,inside,by simp,rfl⟩
  | @sentence start index last ends committed found _ ih =>
    have reached := found.reached
    have ended := lt_sentenceBoundaryEnd text index
    have stays := sentenceBoundaryEnd_le (endsSentence_inside found.ends)
    have skips : sentenceBoundaryEnd text index ≤ skipSpaces chars text (sentenceBoundaryEnd text index) :=
      Nat.le_add_right ..
    obtain ⟨later,fits,between,counted⟩ := ih (skipSpaces_le stays)
    refine ⟨by omega,fits,?_,by simp [counted]⟩
    rintro stop (_ | ⟨_,member⟩)
    · omega
    · have := between stop member
      omega

theorem Reading.nonblank (seen : Visible chars) {text : Text} {start last : Nat} {ends : List Nat} {committed : List Text}
    (read : Reading chars text start ends committed last) : ∀ sentence ∈ committed, sentence ≠ [] := by
  induction read with
  | done _ => simp
  | sentence found _ ih =>
    rintro sentence (_ | ⟨_,member⟩)
    · exact strip_sentence seen found.reached found.ends
    · exact ih sentence member

theorem dotTokenStart_take (text : Text) {stop index : Nat} (inside : index < stop) :
    dotTokenStart chars (text.take stop) index = dotTokenStart chars text index := by
  induction index with
  | zero => rfl
  | succ index ih => rw [dotTokenStart,dotTokenStart,List.getElem?_take_of_lt (by omega),ih (by omega)]

/-- What follows the character behind a dot does not matter. -/
theorem endsSentence_take (text : Text) {stop index : Nat} (inside : index + 1 < stop) :
    endsSentence chars (text.take stop) index = endsSentence chars text index := by
  have token : dotToken chars (text.take stop) index = dotToken chars text index := by
    rw [dotToken,dotToken,dotTokenStart_take text (by omega),slice,slice,List.take_take,Nat.min_eq_left (by omega)]
  have here := List.getElem?_take_of_lt (l := text) (show index < stop by omega)
  have next := List.getElem?_take_of_lt (l := text) inside
  have previous := List.getElem?_take_of_lt (l := text) (show index - 1 < stop by omega)
  simp only [endsSentence,isSentenceEnd,here,next,previous,token]

/-- A run that ends before the cut, or whose rest after the cut does, is cut nowhere. -/
theorem sentenceBoundaryEnd_take (text : Text) {stop index : Nat} (inside : index < stop) :
    sentenceBoundaryEnd (text.take stop) index = min stop (sentenceBoundaryEnd text index) := by
  rw [sentenceBoundaryEnd,sentenceBoundaryEnd,List.drop_take,← List.take_takeWhile,List.length_take]
  omega

/-- Read without the text before it, the sentence behind `start` still ends at `stop`. -/
def ReadsAlone (chars : Alphabet) (text : Text) (start stop : Nat) : Prop :=
  ∃ index, FirstEnd chars (text.drop start) 0 index ∧ start + sentenceBoundaryEnd (text.drop start) index = stop

/-- The candidate in a text that is cut behind `stop` is the sentence up to `stop` if it reads alone. -/
theorem readsAlone_iff (seen : Visible chars) (text : Text) {start stop last : Nat} (before : start < stop)
    (after : stop < last) (inside : last ≤ text.length) :
    ReadsAlone chars text start stop ↔
      firstPunctuationCandidate chars (slice text start last) 1 = slice text start stop := by
  have cut : slice text start last = (text.drop start).take (last - start) := by rw [slice,List.drop_take]
  have wanted : slice text start stop = (text.drop start).take (stop - start) := by rw [slice,List.drop_take]
  have same : ∀ {index : Nat}, index + 1 < last - start → (FirstEnd chars (text.drop start) 0 index ↔
      FirstEnd chars ((text.drop start).take (last - start)) 0 index) := by
    intro index short
    constructor
    · rintro ⟨reached,ends,quiet⟩
      exact ⟨reached,by rw [endsSentence_take _ short,ends],
        fun earlier after before => by rw [endsSentence_take _ (by omega),quiet earlier after before]⟩
    · rintro ⟨reached,ends,quiet⟩
      exact ⟨reached,by rw [← endsSentence_take _ short,ends],
        fun earlier after before => by rw [← endsSentence_take _ (show earlier + 1 < last - start by omega),quiet earlier after before]⟩
  rw [cut,wanted]
  constructor
  · rintro ⟨index,found,ended⟩
    have positive := lt_sentenceBoundaryEnd (text.drop start) index
    have found' : FirstEnd chars ((text.drop start).take (last - start)) 0 index := (same (by omega)).mp found
    rw [firstPunctuationCandidate_found seen found',sentenceBoundaryEnd_take _ (by omega),List.take_take]
    congr 1
    omega
  · intro candidate
    have long := congrArg List.length candidate
    rcases firstEnd_or_quiet chars ((text.drop start).take (last - start)) 0 with ⟨index,found⟩ | quiet
    · have inside' := endsSentence_inside found.ends
      have positive := lt_sentenceBoundaryEnd (text.drop start) index
      simp only [List.length_take,List.length_drop] at inside'
      rw [firstPunctuationCandidate_found seen found,sentenceBoundaryEnd_take _ (by omega)] at long
      simp only [List.length_take,List.length_drop] at long
      exact ⟨index,(same (by omega)).mpr found,by omega⟩
    · rw [firstPunctuationCandidate_quiet fun index => quiet index (Nat.zero_le _)] at long
      simp at long
      omega

/-- A candidate that is the sentence when stripped is the sentence behind the same white space. -/
theorem candidate_of_strip (seen : Visible chars) {text : Text} {before start index last : Nat} (behind : before ≤ start)
    (blank : ∀ c ∈ slice text before start, chars.isSpace c) (found : FirstEnd chars text start index)
    (inside : last ≤ text.length) (some : firstPunctuationCandidate chars (slice text before last) 1 ≠ [])
    (same : strip chars (firstPunctuationCandidate chars (slice text before last) 1) =
      strip chars (slice text start (sentenceBoundaryEnd text index))) :
    firstPunctuationCandidate chars (slice text before last) 1 = slice text before (sentenceBoundaryEnd text index) := by
  rcases firstEnd_or_quiet chars (slice text before last) 0 with ⟨alone,ended⟩ | quiet
  · rw [firstPunctuationCandidate_found seen ended] at same ⊢
    obtain ⟨final,placed,visible⟩ := boundary_visible seen ended.ends
    obtain ⟨other,stands,shown⟩ := boundary_visible seen found.ends
    have positive := lt_sentenceBoundaryEnd (slice text before last) alone
    have reached := found.reached
    have ends := lt_sentenceBoundaryEnd text index
    have fits := sentenceBoundaryEnd_le (endsSentence_inside ended.ends)
    have long := length_slice text before inside
    generalize sentenceBoundaryEnd (slice text before last) alone = taken at *
    generalize sentenceBoundaryEnd text index = stop at *
    have cut : (slice text before last).take taken = slice text before (before + taken) := by
      rw [slice,List.drop_take,List.take_take,slice,List.drop_take,Nat.min_eq_left (by omega),Nat.add_sub_cancel_left]
    have here : text[before + (taken - 1)]? = .some final := by
      rw [← placed,slice,List.getElem?_drop,List.getElem?_take_of_lt (by omega)]
    have past : start < before + taken := by
      by_contra short
      have space := blank final (List.mem_of_getElem? (i := taken - 1)
        (by rw [slice,List.getElem?_drop,List.getElem?_take_of_lt (by omega)]; exact here))
      simp [visible] at space
    have agree : before + taken - 1 - start = stop - 1 - start := by
      refine strip_take_inj (text.drop start) ?_ visible ?_ shown ?_
      · rw [List.getElem?_drop,← here]
        congr 1
        omega
      · rw [List.getElem?_drop,← stands]
        congr 1
        omega
      · rw [cut,slice_append text behind past.le,strip_blank_append chars _ blank,slice,slice,List.drop_take,List.drop_take] at same
        rwa [show before + taken - 1 - start + 1 = before + taken - start by omega,
          show stop - 1 - start + 1 = stop - start by omega]
    rw [cut]
    congr 1
    omega
  · exact absurd (firstPunctuationCandidate_quiet (fun index => quiet index (Nat.zero_le _)) 1) some

/-- The loop cuts the sentences of a reading, behind the white space from `before` on, exactly where
    each but the last reads alone. -/
theorem exactSentences_iff (seen : Visible chars) {text : Text} {start last : Nat} {ends : List Nat} {committed : List Text}
    (read : Reading chars text start ends committed last) (some : ends ≠ []) (inside : start ≤ text.length) {before : Nat}
    (behind : before ≤ start) (blank : ∀ c ∈ slice text before start, chars.isSpace c) :
    (∃ sentences, exactSentences chars ends.length (slice text before last) = .some sentences ∧
        sentences.map (strip chars) = committed) ↔
      List.IsChain (ReadsAlone chars text) (before :: ends.dropLast) := by
  induction read generalizing before with
  | done _ => exact absurd rfl some
  | @sentence start index last ends committed found rest ih =>
    have reached := found.reached
    have ended := lt_sentenceBoundaryEnd text index
    have stays := sentenceBoundaryEnd_le (endsSentence_inside found.ends)
    have skips : sentenceBoundaryEnd text index ≤ skipSpaces chars text (sentenceBoundaryEnd text index) :=
      Nat.le_add_right ..
    obtain ⟨later,fits,between,_⟩ := rest.bounds (skipSpaces_le stays)
    have whole : ∀ {stop : Nat}, sentenceBoundaryEnd text index ≤ stop → strip chars (slice text before stop) =
        strip chars (slice text start (sentenceBoundaryEnd text index) ++ slice text (sentenceBoundaryEnd text index) stop) := by
      intro stop after
      rw [slice_append text behind (show start ≤ stop by omega),strip_blank_append chars _ blank,
        slice_append text (show start ≤ sentenceBoundaryEnd text index by omega) after]
    cases ends with
    | nil =>
      cases rest
      have last := (whole skips).trans (strip_append_blank chars _ (slice_skipSpaces text _))
      have some : slice text before (skipSpaces chars text (sentenceBoundaryEnd text index)) ≠ [] := by
        intro empty
        rw [empty] at last
        exact strip_sentence seen reached found.ends last.symm
      exact ⟨fun _ => List.isChain_singleton before,fun _ => ⟨_,if_neg some,by simp [last]⟩⟩
    | cons second ends =>
      have next := between second (by simp)
      have onward := ih (by simp) (skipSpaces_le stays) skips (slice_skipSpaces text _)
      rw [List.dropLast_cons_cons,List.isChain_cons_cons,readsAlone_iff seen text (by omega) (by omega) fits,← onward,
        List.length_cons,List.length_cons,exactSentences]
      -- a cut that goes on drops the candidate from what remains
      have rest : slice text before (sentenceBoundaryEnd text index) ++ slice text (sentenceBoundaryEnd text index) last =
          slice text before last := (slice_append text (by omega) (by omega)).symm
      have solid : slice text before (sentenceBoundaryEnd text index) ≠ [] := by
        have long := length_slice text before stays
        exact List.ne_nil_of_length_pos (by omega)
      constructor
      · rintro ⟨sentences,cut,stripped⟩
        split_ifs at cut with none
        obtain ⟨later,rested,rfl⟩ := Option.map_eq_some_iff.mp cut
        obtain ⟨same,others⟩ := List.cons.inj stripped
        have agreed := candidate_of_strip seen behind blank found fits none same
        refine ⟨agreed,later,?_,others⟩
        rw [agreed,← rest,List.drop_left] at rested
        exact rested
      · rintro ⟨agreed,later,rested,others⟩
        refine ⟨slice text before (sentenceBoundaryEnd text index) :: later,?_,?_⟩
        · rw [agreed,if_neg solid,← rest,List.drop_left]
          exact Option.map_eq_some_iff.mpr ⟨later,rested,rfl⟩
        · have first := whole le_rfl
          simp only [slice,List.drop_take,Nat.sub_self,List.take_zero,List.append_nil] at first
          simp only [List.map_cons,others,slice,List.drop_take,first]

/-- A letter or a dot, which a dot token can go on with. -/
def inToken (chars : Alphabet) (c : Char) : Bool := chars.isAlpha c || c == '.'

/-- No dot token goes over `position`. -/
def Guarded (chars : Alphabet) (text : Text) (position : Nat) : Prop :=
  position = 0 ∨ text[position - 1]?.any (inToken chars) = false ∨ text[position]?.any (inToken chars) = false

theorem dotTokenStart_step (text : Text) (index : Nat) :
    dotTokenStart chars text (index + 1) =
      if text[index]?.any (inToken chars) then dotTokenStart chars text index else index + 1 := by
  rw [dotTokenStart]
  cases text[index]? with
  | none => simp
  | some c => simp [inToken]

theorem dotTokenStart_drop (text : Text) {start : Nat} (guarded : Guarded chars text start) {index : Nat}
    (after : start < index) : dotTokenStart chars text index = start + dotTokenStart chars (text.drop start) (index - start) := by
  obtain ⟨more,rfl⟩ := Nat.exists_eq_add_of_lt after
  rw [show start + more + 1 - start = more + 1 by omega]
  induction more with
  | zero =>
    rw [dotTokenStart_step,dotTokenStart_step _ 0,List.getElem?_drop]
    simp only [Nat.add_zero,Nat.zero_add]
    by_cases token : text[start]?.any (inToken chars)
    · rw [if_pos token,if_pos token]
      rcases guarded with rfl | outside | outside
      · rfl
      · cases start with
        | zero => rfl
        | succ earlier =>
          rw [dotTokenStart_step,if_neg (by simpa using outside)]
          rfl
      · simp [outside] at token
    · rw [if_neg token,if_neg token]
  | succ more ih =>
    rw [show start + (more + 1) + 1 = start + more + 1 + 1 by omega,dotTokenStart_step,dotTokenStart_step _ (more + 1),
      List.getElem?_drop,ih (by omega),show start + (more + 1) = start + more + 1 by omega]
    split_ifs
    · rfl
    · omega

/-- Behind a guarded position the text before it does not matter. -/
theorem endsSentence_drop (text : Text) {start : Nat} (guarded : Guarded chars text start) {index : Nat}
    (after : start < index) : endsSentence chars (text.drop start) (index - start) = endsSentence chars text index := by
  have token : dotToken chars (text.drop start) (index - start) = dotToken chars text index := by
    rw [dotToken,dotToken,dotTokenStart_drop text guarded after,slice,slice,List.drop_take,List.drop_take,List.drop_drop]
    congr 1
    omega
  have here : (text.drop start)[index - start]? = text[index]? := by rw [List.getElem?_drop]; congr 1; omega
  have next : (text.drop start)[index - start + 1]? = text[index + 1]? := by rw [List.getElem?_drop]; congr 1; omega
  have previous : (text.drop start)[index - start - 1]? = text[index - 1]? := by rw [List.getElem?_drop]; congr 1; omega
  have some : 0 < index - start ∧ 0 < index := by omega
  simp only [endsSentence,isSentenceEnd,here,next,previous,token,some.1,some.2,if_true]

/-- A run of terminators and closers is not followed by another terminator. -/
theorem boundary_ends (text : Text) (index : Nat) :
    text[sentenceBoundaryEnd text index]?.any sentenceTerminators.contains = false := by
  unfold sentenceBoundaryEnd
  have behind := List.head?_dropWhile_not (fun c => sentenceTerminators.contains c || sentenceClosers.contains c)
    (text.drop (index + 1))
  have split := List.takeWhile_append_dropWhile (l := text.drop (index + 1))
    (p := fun c => sentenceTerminators.contains c || sentenceClosers.contains c)
  have placed := congrArg List.head? (congrArg (List.drop
    ((text.drop (index + 1)).takeWhile fun c => sentenceTerminators.contains c || sentenceClosers.contains c).length) split)
  rw [List.drop_left,List.drop_drop,List.head?_drop] at placed
  rw [placed] at behind
  cases found : text[index + 1 + ((text.drop (index + 1)).takeWhile fun c =>
      sentenceTerminators.contains c || sentenceClosers.contains c).length]? with
  | none => rfl
  | some c =>
    rw [found] at behind
    exact (Bool.or_eq_false_iff.mp behind).1

/-- White space ends no sentence. -/
theorem endsSentence_blank (seen : Visible chars) {text : Text} {index : Nat} {c : Char} (here : text[index]? = some c)
    (space : chars.isSpace c) : endsSentence chars text index = false := by
  refine Bool.eq_false_iff.mpr fun ends => ?_
  obtain ⟨found,placed,terminates⟩ := (Option.any_eq_true _ _).mp (Bool.and_eq_true_iff.mp ends).1
  cases here.symm.trans placed
  simp [seen c (.inl (by simpa using terminates))] at space

/-- A sentence behind a guarded position, where no terminator stands, reads alone. -/
theorem readsAlone_of_guarded (seen : Visible chars) {text : Text} {before start index : Nat} (behind : before ≤ start)
    (guarded : Guarded chars text before) (blank : ∀ c ∈ slice text before start, chars.isSpace c)
    (calm : before = 0 ∨ text[before]?.any sentenceTerminators.contains = false) (found : FirstEnd chars text start index) :
    ReadsAlone chars text before (sentenceBoundaryEnd text index) := by
  have same : ∀ position, before ≤ position → endsSentence chars (text.drop before) (position - before) =
      endsSentence chars text position := by
    intro position after
    rcases Nat.lt_or_eq_of_le after with later | rfl
    · exact endsSentence_drop text guarded later
    · rcases calm with rfl | quiet
      · rfl
      · have shifted : (text.drop before)[before - before]? = text[before]? := by rw [List.getElem?_drop]; congr 1; omega
        rw [endsSentence,endsSentence,shifted,quiet,Bool.false_and,Bool.false_and]
  have reached := found.reached
  refine ⟨index - before,⟨Nat.zero_le _,by rw [same index (by omega),found.ends],?_⟩,?_⟩
  · intro earlier _ soon
    have shifted := same (before + earlier) (Nat.le_add_right ..)
    rw [Nat.add_sub_cancel_left] at shifted
    rw [shifted]
    by_cases skipped : before + earlier < start
    · have inside := endsSentence_inside found.ends
      have placed : (slice text before start)[earlier]? = text[before + earlier]? := by
        rw [slice,List.getElem?_drop,List.getElem?_take_of_lt skipped]
      have here : text[before + earlier]? = some text[before + earlier] := List.getElem?_eq_getElem (by omega)
      exact endsSentence_blank seen here (blank _ (List.mem_of_getElem? (placed.trans here)))
    · exact found.quiet _ (by omega) (by omega)
  · rw [sentenceBoundaryEnd,sentenceBoundaryEnd,List.drop_drop,show before + (index - before + 1) = index + 1 by omega]
    omega

theorem readsAlone_chain (seen : Visible chars) {text : Text} {start last : Nat} {ends : List Nat} {committed : List Text}
    (read : Reading chars text start ends committed last) {before : Nat} (behind : before ≤ start)
    (blank : ∀ c ∈ slice text before start, chars.isSpace c)
    (calm : before = 0 ∨ text[before]?.any sentenceTerminators.contains = false)
    (guarded : ∀ position ∈ before :: ends, Guarded chars text position) :
    List.IsChain (ReadsAlone chars text) (before :: ends) := by
  induction read generalizing before with
  | done _ => exact List.isChain_singleton before
  | @sentence start index last ends committed found rest ih =>
    refine List.isChain_cons_cons.mpr ⟨readsAlone_of_guarded seen behind (guarded before (by simp)) blank calm found,?_⟩
    exact ih (Nat.le_add_right ..) (slice_skipSpaces text _) (.inr (boundary_ends text index))
      fun position member => guarded position (by simp [member])

/-! ## Commits against the splitter -/

/-- The commit agrees with the splitter: it emits the sentences, whose texts add up to the text
    before the tail and are the committed ones when stripped, and the tail as a partial. -/
def CommitAgrees (chars : Alphabet) (state : StreamingTranscriptState) : Prop :=
  ∃ sentences : List Text,
    (state.commitAllCompleteSentences chars).1.map (fun event => (event.type,event.text)) =
      sentences.map (fun sentence => (.sentenceFinal,sentence)) ++
        [(.partialText,(splitCommittedSentences chars state.partialText).2)] ∧
    sentences.map (strip chars) = (splitCommittedSentences chars state.partialText).1 ∧
    sentences.flatten ++ (splitCommittedSentences chars state.partialText).2 = state.partialText ∧
    ∀ sentence ∈ sentences, strip chars sentence ≠ []

theorem events_shown (state : StreamingTranscriptState) (texts : List (EventType × Text)) :
    (state.events texts).1.map (fun event => (event.type,event.text)) = texts := by
  induction texts generalizing state with
  | nil => rfl
  | cons first rest ih => exact congrArg (first :: ·) (ih _)

/-- The text before the tail. -/
theorem take_before_tail {text : Text} {last : Nat} (inside : last ≤ text.length) :
    text.take (text.length - (text.drop last).length) = slice text 0 last := by
  rw [List.length_drop,slice,List.drop_zero]
  congr 1
  omega

/-- The commit emits the sentences that its loop cuts. -/
theorem commitAll_cut {chars : Alphabet} {state : StreamingTranscriptState} {last : Nat} {committed sentences : List Text}
    (split : splitCommittedSentences chars state.partialText = (committed,state.partialText.drop last))
    (inside : last ≤ state.partialText.length) (some : committed ≠ [])
    (cut : exactSentences chars committed.length (slice state.partialText 0 last) = .some sentences) :
    (state.commitAllCompleteSentences chars).1.map (fun event => (event.type,event.text)) =
      sentences.map (fun sentence => (.sentenceFinal,sentence)) ++ [(.partialText,state.partialText.drop last)] ∧
    sentences.flatten ++ state.partialText.drop last = state.partialText := by
  constructor
  · rw [commitAllCompleteSentences,split]
    simp only [some,if_false,take_before_tail inside,cut]
    exact events_shown ..
  · obtain ⟨count,counted⟩ := Nat.exists_eq_succ_of_ne_zero (mt List.length_eq_zero_iff.mp some)
    rw [counted] at cut
    rw [Display.exactSentences_flatten chars count _ cut,slice,List.drop_zero,List.take_append_drop]

/-- The commit agrees where every sentence but the last reads alone. -/
theorem commitAgrees_iff_chain (seen : Visible chars) {state : StreamingTranscriptState}
    (complete : (splitCommittedSentences chars state.partialText).1 ≠ []) :
    CommitAgrees chars state ↔
      List.IsChain (ReadsAlone chars state.partialText) (0 :: (sentenceEnds chars state.partialText 0).dropLast) := by
  obtain ⟨committed,last,read,split⟩ := splitCommittedLoop_reading seen state.partialText 0 le_rfl (by omega) []
  rw [List.nil_append,← splitCommittedSentences] at split
  rw [split] at complete
  obtain ⟨_,inside,_,counted⟩ := read.bounds (Nat.zero_le _)
  have some : sentenceEnds chars state.partialText 0 ≠ [] := by
    intro none
    rw [none] at counted
    exact complete (List.length_eq_zero_iff.mp counted)
  rw [← exactSentences_iff seen read some (Nat.zero_le _) le_rfl (by simp [slice]),← counted]
  unfold CommitAgrees
  rw [split]
  constructor
  · rintro ⟨sentences,emitted,stripped,_⟩
    cases cut : exactSentences chars committed.length (slice state.partialText 0 last) with
    | none =>
      have silent : (state.commitAllCompleteSentences chars).1 = [] := by
        rw [commitAllCompleteSentences,split]
        simp only [complete,if_false,take_before_tail inside,cut]
      simp [silent] at emitted
    | some cutSentences =>
      have shown := (commitAll_cut split inside complete cut).1
      rw [emitted,List.append_left_inj] at shown
      have same : sentences = cutSentences := List.map_injective_iff.mpr (fun a b pair => (Prod.mk.inj pair).2) shown
      exact ⟨cutSentences,rfl,same ▸ stripped⟩
  · rintro ⟨sentences,cut,stripped⟩
    obtain ⟨emitted,whole⟩ := commitAll_cut split inside complete cut
    refine ⟨sentences,emitted,stripped,whole,fun sentence member blank => ?_⟩
    have listed : [] ∈ committed := stripped ▸ blank ▸ List.mem_map_of_mem member
    exact read.nonblank seen [] listed rfl

theorem visible_ascii : Visible ascii := by
  have listed : (sentenceTerminators ++ sentenceClosers).all (fun c => ascii.isSpace c = false) = true := by decide
  exact fun c punctuation => of_decide_eq_true (List.all_eq_true.mp listed c (List.mem_append.mpr punctuation))

/-- A transcript that commits immediately, with `text` as its partial text. -/
def immediate (text : String) : StreamingTranscriptState :=
  { StreamingTranscriptState.init
      { sampleRate := 16000, stableCommitEnabled := false, stableCommitSeconds := 0, stableCommitMinChars := 1,
        stableCommitMinUpdates := 1, immediateCommitOnPunctuation := true, sampleRatePositive := sessionRate_positive } with
    partialText := text.toList }

/-- `_commit_all_complete_sentences` agrees with `split_committed_sentences` if and only if every
    sentence but the first and the last reads alone. -/
theorem commit_agrees_iff (chars : Alphabet) (seen : Visible chars) (state : StreamingTranscriptState)
    (complete : (splitCommittedSentences chars state.partialText).1 ≠ []) :
    CommitAgrees chars state ↔
      List.IsChain (ReadsAlone chars state.partialText) (sentenceEnds chars state.partialText 0).dropLast := by
  rw [commitAgrees_iff_chain seen complete]
  obtain ⟨committed,last,read,_⟩ := splitCommittedLoop_reading seen state.partialText 0 le_rfl (by omega) []
  generalize sentenceEnds chars state.partialText 0 = ends at read
  -- the first sentence has no text before it
  cases read with
  | done _ => simp
  | @sentence _ index _ ends _ found rest =>
    cases ends with
    | nil => simp
    | cons second ends =>
      rw [List.dropLast_cons_cons,List.isChain_cons_cons]
      refine and_iff_right ⟨index,?_,?_⟩
      · rwa [List.drop_zero]
      · rw [List.drop_zero,Nat.zero_add]

theorem commit_agrees_apart : CommitAgrees ascii (immediate "First. Second. tail") :=
  (commit_agrees_iff ascii visible_ascii (immediate "First. Second. tail") (by decide +kernel)).mpr
    (by rw [show (sentenceEnds ascii (immediate "First. Second. tail").partialText 0).dropLast = [6] by decide +kernel]
        exact List.isChain_singleton 6)

/-- Behind the dots, `A.` alone is an initial: the commit takes `A. B?` for one sentence and is left
    with a blank one. -/
theorem commit_disagrees_behind_dots :
    (splitCommittedSentences ascii (immediate "Wait...A. B? C").partialText).1 ≠ [] ∧
      ¬ CommitAgrees ascii (immediate "Wait...A. B? C") := by
  refine ⟨by decide +kernel,?_⟩
  rintro ⟨sentences,emitted,_,_,nonblank⟩
  have blank : (EventType.sentenceFinal,[' ']) ∈ ((immediate "Wait...A. B? C").commitAllCompleteSentences ascii).1.map
      fun event => (event.type,event.text) := by decide +kernel
  rw [emitted] at blank
  have member : [' '] ∈ sentences := by simpa using blank
  exact nonblank _ member (by decide)

/-- The commit agrees unless a letter or a dot stands on both sides of the end of a sentence. -/
theorem commit_agrees_of_guarded (seen : Visible chars) (state : StreamingTranscriptState)
    (complete : (splitCommittedSentences chars state.partialText).1 ≠ [])
    (guarded : ∀ position ∈ sentenceEnds chars state.partialText 0, Guarded chars state.partialText position) :
    CommitAgrees chars state := by
  obtain ⟨_,_,read,_⟩ := splitCommittedLoop_reading seen state.partialText 0 le_rfl (by omega) []
  have chain := readsAlone_chain seen read le_rfl (by simp [slice]) (.inl rfl)
    (List.forall_mem_cons.mpr ⟨.inl rfl,guarded⟩)
  refine (commitAgrees_iff_chain seen complete).mpr ?_
  cases ends : sentenceEnds chars state.partialText 0 with
  | nil => exact List.isChain_singleton 0
  | cons first rest =>
    rw [ends] at chain
    exact chain.dropLast

end
end SpeechGateway.Streaming
