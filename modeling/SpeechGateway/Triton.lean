import SpeechGateway.Values
import SpeechGateway.Machine

/-!
`TritonTTSSynthesizer.stream_pcm`. The client of the server runs one reader thread, whose callback
puts every response on a queue of size two; the generator takes them, and cancels the call and
joins the thread on its way out. The chunks come in order, and the join returns as long as the
responses that nobody takes any more fit on the queue (`stream_closing`).
-/
namespace SpeechGateway.Triton

/-- A response: an error, or a result with `triton_final_response` and its waveform, if any. -/
inductive Response (Audio : Type)
  | error (message : String)
  | result (final : Bool) (waveform : Option Audio)
  deriving DecidableEq, Repr

/-- Where the reader thread stands: at the stream, or in `responses.put` of the callback. -/
inductive Reader (Audio : Type)
  | absent
  | reading
  | putting (response : Response Audio)
  | ended
  deriving DecidableEq, Repr

/-- How the generator ends: by the final response, by an exception of its loop, by an exception of
    `async_stream_infer`, or because its consumer closes it. -/
inductive Outcome
  | finished
  | raised (error : String)
  | refused (error : String)
  | closed
  deriving DecidableEq, Repr

/-- Where the generator stands: at `async_stream_infer`, at `responses.get`, at its `yield`, or at the
    join of `stop_stream`, behind which the call is cancelled. -/
inductive Consumer
  | created
  | inferring
  | getting
  | yielding
  | stopping (outcome : Outcome)
  | terminated (outcome : Outcome)
  deriving DecidableEq, Repr

/-- One call of `stream_pcm`, with the responses that the server has still to send. -/
structure TritonStream (Audio : Type) where
  incoming : List (Response Audio)
  responses : List (Response Audio) := []
  reader : Reader Audio := .absent
  consumer : Consumer := .created
  yielded : List Pcm := []
  deriving DecidableEq, Repr

/-- The consumer of the generator asks for the next chunk or closes it; the generator goes on behind
    a call; the reader thread goes on. -/
inductive StreamAction
  | next
  | close
  | inferred
  | inferFails (error : String)
  | get
  | join
  | receive
  | put
  | readerEnds
  deriving DecidableEq, Repr

/-- `queue.Queue(maxsize=2)`. -/
def responsesMaxsize : Nat := 2

namespace TritonStream
variable {Audio : Type} (floatAudioToPcm : Audio → Pcm)

/-- The generator leaves its loop: `stop_stream` cancels the call and joins the reader thread. -/
def stop (stream : TritonStream Audio) (outcome : Outcome) : TritonStream Audio :=
  { stream with consumer := .stopping outcome }

/-- The body of the loop, behind `responses.get`. -/
def handle (stream : TritonStream Audio) : Response Audio → TritonStream Audio
  | .error message => stream.stop (.raised ("Triton TTS inference failed: " ++ message))
  | .result true _ => stream.stop .finished
  | .result false none => stream
  | .result false (some waveform) =>
    let pcm := floatAudioToPcm waveform
    if pcm ≠ [] then { stream with yielded := stream.yielded ++ [pcm],consumer := .yielding } else stream

/-- Behind the `finally`. -/
def leave (stream : TritonStream Audio) : Outcome → Outcome
  | .finished => if stream.yielded = [] then .raised "Triton CosyVoice did not return audio" else .finished
  | outcome => outcome

/-- A reader that is cancelled may read on; it ends with the stream. -/
def step (stream : TritonStream Audio) : StreamAction → Option (TritonStream Audio)
  | .next =>
    match stream.consumer with
    | .created => some { stream with reader := .reading,consumer := .inferring }
    | .yielding => some { stream with consumer := .getting }
    | _ => none
  | .close =>
    match stream.consumer with
    | .created => some { stream with consumer := .terminated .closed }
    | .yielding => some (stream.stop .closed)
    | _ => none
  | .inferred => if stream.consumer = .inferring then some { stream with consumer := .getting } else none
  | .inferFails error => if stream.consumer = .inferring then some (stream.stop (.refused error)) else none
  | .get =>
    match stream.consumer,stream.responses with
    | .getting,response :: rest => some ({ stream with responses := rest }.handle floatAudioToPcm response)
    | _,_ => none
  | .join =>
    match stream.consumer,stream.reader with
    | .stopping outcome,.ended => some { stream with consumer := .terminated (stream.leave outcome) }
    | _,_ => none
  | .receive =>
    match stream.reader,stream.incoming with
    | .reading,response :: rest => some { stream with incoming := rest,reader := .putting response }
    | _,_ => none
  | .put =>
    match stream.reader with
    | .putting response =>
      if stream.responses.length < responsesMaxsize then
        some { stream with responses := stream.responses ++ [response],reader := .reading }
      else none
    | _ => none
  | .readerEnds =>
    match stream.reader,stream.consumer with
    | .reading,.stopping _ => some { stream with reader := .ended }
    | .reading,_ => if stream.incoming = [] then some { stream with reader := .ended } else none
    | _,_ => none

/-- The PCM of the responses before the first error or final one, without the empty ones. -/
def heard : List (Response Audio) → List Pcm
  | [] => []
  | .error _ :: _ => []
  | .result true _ :: _ => []
  | .result false none :: rest => heard rest
  | .result false (some waveform) :: rest =>
    if floatAudioToPcm waveform ≠ [] then floatAudioToPcm waveform :: heard rest else heard rest

/-- The response that the callback holds. -/
def held (stream : TritonStream Audio) : List (Response Audio) :=
  match stream.reader with
  | .putting response => [response]
  | _ => []

/-- The responses that are not taken yet, in order. -/
def untaken (stream : TritonStream Audio) : List (Response Audio) := stream.responses ++ stream.held ++ stream.incoming

/-- The chunks are those of the responses, in order: all of them unless the generator is closed or
    its request is refused. -/
def Ordered (script : List (Response Audio)) (stream : TritonStream Audio) : Prop :=
  stream.yielded <+: heard floatAudioToPcm script ∧
    ∀ outcome, stream.consumer = .stopping outcome ∨ stream.consumer = .terminated outcome →
      outcome ≠ .closed → (∀ error, outcome ≠ .refused error) → stream.yielded = heard floatAudioToPcm script

/-- The consumer joins the reader thread, which is blocked in `responses.put`. -/
def Deadlocked (stream : TritonStream Audio) : Prop :=
  ∃ outcome response, stream.consumer = .stopping outcome ∧ stream.reader = .putting response ∧
    responsesMaxsize ≤ stream.responses.length

/-- Whether the generator leaves its loop with the response. -/
def leavesWith : Response Audio → Bool
  | .error _ => true
  | .result final _ => final

/-- When the action makes the generator leave its loop, the responses that are not taken fit on the
    queue. -/
def Roomy (stream : TritonStream Audio) : StreamAction → Prop
  | .close => stream.consumer = .yielding → stream.untaken.length ≤ responsesMaxsize
  | .inferFails _ => stream.untaken.length ≤ responsesMaxsize
  | .get => stream.responses.head?.any leavesWith → stream.untaken.length ≤ responsesMaxsize + 1
  | _ => True

/-- A generator that was not asked for a chunk. -/
def created (script : List (Response Audio)) : TritonStream Audio := { incoming := script }

/-- The steps of a stream. -/
inductive Moves (stream : TritonStream Audio) : StreamAction → TritonStream Audio → Prop
  | started (fresh : stream.consumer = .created) :
      Moves stream .next { stream with reader := .reading,consumer := .inferring }
  | resumed (waits : stream.consumer = .yielding) : Moves stream .next { stream with consumer := .getting }
  | dropped (fresh : stream.consumer = .created) : Moves stream .close { stream with consumer := .terminated .closed }
  | closed (waits : stream.consumer = .yielding) : Moves stream .close (stream.stop .closed)
  | inferred (asks : stream.consumer = .inferring) : Moves stream .inferred { stream with consumer := .getting }
  | refused (asks : stream.consumer = .inferring) (error : String) :
      Moves stream (.inferFails error) (stream.stop (.refused error))
  | took {response : Response Audio} {rest : List (Response Audio)} (gets : stream.consumer = .getting)
      (first : stream.responses = response :: rest) :
      Moves stream .get ({ stream with responses := rest }.handle floatAudioToPcm response)
  | joined {outcome : Outcome} (stops : stream.consumer = .stopping outcome) (ended : stream.reader = .ended) :
      Moves stream .join { stream with consumer := .terminated (stream.leave outcome) }
  | received {response : Response Audio} {rest : List (Response Audio)} (reads : stream.reader = .reading)
      (first : stream.incoming = response :: rest) :
      Moves stream .receive { stream with incoming := rest,reader := .putting response }
  | put {response : Response Audio} (puts : stream.reader = .putting response)
      (room : stream.responses.length < responsesMaxsize) :
      Moves stream .put { stream with responses := stream.responses ++ [response],reader := .reading }
  | readerEnded (reads : stream.reader = .reading)
      (free : (∃ outcome, stream.consumer = .stopping outcome) ∨ stream.incoming = []) :
      Moves stream .readerEnds { stream with reader := .ended }

variable {floatAudioToPcm} {stream after : TritonStream Audio}

theorem step_moves {action : StreamAction} (stepped : stream.step floatAudioToPcm action = some after) :
    stream.Moves floatAudioToPcm action after := by
  cases action <;> simp only [step] at stepped
  case next =>
    split at stepped <;> cases stepped
    · exact .started ‹_›
    · exact .resumed ‹_›
  case close =>
    split at stepped <;> cases stepped
    · exact .dropped ‹_›
    · exact .closed ‹_›
  case inferred =>
    split_ifs at stepped with asks
    cases stepped
    exact .inferred asks
  case inferFails error =>
    split_ifs at stepped with asks
    cases stepped
    exact .refused asks error
  case get =>
    split at stepped <;> cases stepped
    exact .took ‹_› ‹_›
  case join =>
    split at stepped <;> cases stepped
    exact .joined ‹_› ‹_›
  case receive =>
    split at stepped <;> cases stepped
    exact .received ‹_› ‹_›
  case put =>
    split at stepped
    · split_ifs at stepped with room
      cases stepped
      exact .put ‹_› room
    · cases stepped
  case readerEnds =>
    split at stepped
    · cases stepped
      exact .readerEnded ‹_› (.inl ⟨_,‹_›⟩)
    · split_ifs at stepped with none
      cases stepped
      exact .readerEnded ‹_› (.inr none)
    · cases stepped

/-- The generator is on its way out, or behind it. -/
def Left (stream : TritonStream Audio) (outcome : Outcome) : Prop :=
  stream.consumer = .stopping outcome ∨ stream.consumer = .terminated outcome

/-- What the generator makes of a response. -/
theorem handle_cases (floatAudioToPcm : Audio → Pcm) (stream : TritonStream Audio) (response : Response Audio) (rest : List (Response Audio)) :
    (leavesWith response = true ∧ heard floatAudioToPcm (response :: rest) = [] ∧
        ∃ outcome, outcome ≠ .closed ∧ (∀ error, outcome ≠ .refused error) ∧
          stream.handle floatAudioToPcm response = stream.stop outcome) ∨
      (leavesWith response = false ∧ heard floatAudioToPcm (response :: rest) = heard floatAudioToPcm rest ∧
        stream.handle floatAudioToPcm response = stream) ∨
      (leavesWith response = false ∧ ∃ pcm, heard floatAudioToPcm (response :: rest) = pcm :: heard floatAudioToPcm rest ∧
        stream.handle floatAudioToPcm response = { stream with yielded := stream.yielded ++ [pcm],consumer := .yielding }) := by
  rcases response with message | ⟨_ | _,_ | waveform⟩
  · exact .inl ⟨rfl,rfl,.raised ("Triton TTS inference failed: " ++ message),nofun,nofun,rfl⟩
  · exact .inr (.inl ⟨rfl,rfl,rfl⟩)
  · by_cases silent : floatAudioToPcm waveform = []
    · exact .inr (.inl ⟨rfl,by simp [heard,silent],by simp [handle,silent]⟩)
    · exact .inr (.inr ⟨rfl,floatAudioToPcm waveform,by simp [heard,silent],by simp [handle,silent]⟩)
  · exact .inl ⟨rfl,rfl,.finished,nofun,nofun,rfl⟩
  · exact .inl ⟨rfl,rfl,.finished,nofun,nofun,rfl⟩

/-- The chunks of a stream, while its generator runs and on its way out. -/
def Flows (floatAudioToPcm : Audio → Pcm) (script : List (Response Audio)) (stream : TritonStream Audio) : Prop :=
  ((∀ outcome, ¬ stream.Left outcome) →
    stream.yielded ++ heard floatAudioToPcm stream.untaken = heard floatAudioToPcm script) ∧
  stream.Ordered floatAudioToPcm script

section
variable {script : List (Response Audio)}

/-- The reader thread moves responses on. -/
theorem Flows.shift (flows : Flows floatAudioToPcm script stream) (consumer : after.consumer = stream.consumer)
    (yielded : after.yielded = stream.yielded) (untaken : after.untaken = stream.untaken) :
    Flows floatAudioToPcm script after := by
  unfold Flows Ordered Left at *
  rw [consumer,yielded,untaken]
  exact flows

/-- The generator goes on inside its body. -/
theorem Flows.goes (flows : Flows floatAudioToPcm script stream) (runs : ∀ outcome, ¬ stream.Left outcome)
    (going : ∀ outcome, ¬ after.Left outcome)
    (same : after.yielded ++ heard floatAudioToPcm after.untaken = stream.yielded ++ heard floatAudioToPcm stream.untaken) :
    Flows floatAudioToPcm script after := by
  have whole := same.trans (flows.1 runs)
  refine ⟨fun _ => whole,⟨_,whole⟩,?_⟩
  intro outcome left
  exact absurd left (going outcome)

/-- The generator leaves; if it is neither closed nor refused, nothing more is heard. -/
theorem Flows.leaves (flows : Flows floatAudioToPcm script stream) (runs : ∀ outcome, ¬ stream.Left outcome)
    {outcome : Outcome} (left : after.Left outcome) (yielded : after.yielded = stream.yielded)
    (nothing : outcome ≠ .closed → (∀ error, outcome ≠ .refused error) → heard floatAudioToPcm stream.untaken = []) :
    Flows floatAudioToPcm script after := by
  have whole := flows.1 runs
  refine ⟨fun going => absurd left (going outcome),by rw [yielded]; exact ⟨_,whole⟩,?_⟩
  intro other also unclosed asked
  have same : other = outcome := by
    unfold Left at left
    rcases also with also | also <;> rcases left with left | left <;> simp_all
  subst same
  rw [yielded,← whole,nothing unclosed asked,List.append_nil]

theorem Flows.step {action : StreamAction} (flows : Flows floatAudioToPcm script stream)
    (idle : stream.consumer = .created → stream.reader = .absent)
    (stepped : stream.step floatAudioToPcm action = some after) : Flows floatAudioToPcm script after := by
  have stays : ∀ {consumer : Consumer}, stream.consumer = consumer → (∀ outcome, consumer ≠ .stopping outcome) →
      (∀ outcome, consumer ≠ .terminated outcome) → ∀ outcome, ¬ stream.Left outcome := by
    rintro consumer rfl stops ends outcome (left | left)
    · exact stops outcome left
    · exact ends outcome left
  cases step_moves stepped with
  | started fresh =>
    refine flows.goes (stays fresh nofun nofun) (by rintro _ (_ | _) <;> contradiction) ?_
    simp [untaken,held,idle fresh]
  | resumed waits => exact flows.goes (stays waits nofun nofun) (by rintro _ (_ | _) <;> contradiction) rfl
  | dropped fresh => exact flows.leaves (stays fresh nofun nofun) (.inr rfl) rfl fun unclosed => absurd rfl unclosed
  | closed waits => exact flows.leaves (stays waits nofun nofun) (.inl rfl) rfl fun unclosed => absurd rfl unclosed
  | inferred asks => exact flows.goes (stays asks nofun nofun) (by rintro _ (_ | _) <;> contradiction) rfl
  | refused asks error =>
    exact flows.leaves (stays asks nofun nofun) (.inl rfl) rfl fun _ asked => absurd rfl (asked error)
  | @took response rest gets first =>
    have runs := stays gets nofun nofun
    have next : stream.untaken = response :: { stream with responses := rest }.untaken := by simp [untaken,held,first]
    rcases handle_cases floatAudioToPcm { stream with responses := rest } response
        { stream with responses := rest }.untaken with
      ⟨_,nothing,outcome,_,_,stops⟩ | ⟨_,same,stays_⟩ | ⟨_,pcm,more,yields⟩
    · rw [stops]
      exact flows.leaves runs (.inl rfl) rfl fun _ _ => next ▸ nothing
    · rw [stays_]
      exact flows.goes runs runs (by rw [next,same])
    · rw [yields]
      refine flows.goes runs (by rintro _ (_ | _) <;> contradiction) ?_
      rw [next,more]
      simp [untaken,held]
  | @joined outcome stops ended =>
    refine ⟨fun running => absurd (.inr rfl) (running (stream.leave outcome)),flows.2.1,?_⟩
    rintro other (left | left) unclosed asked
    · cases left
    · cases left
      refine flows.2.2 outcome (.inl stops) ?_ ?_
      · rintro rfl
        exact unclosed rfl
      · rintro error rfl
        exact asked error rfl
  | received reads first => exact flows.shift rfl rfl (by simp [untaken,held,reads,first])
  | put puts room => exact flows.shift rfl rfl (by simp [untaken,held,puts])
  | readerEnded reads free => exact flows.shift rfl rfl (by simp [untaken,held,reads])

end

/-- The queue, and when the reader thread runs. -/
structure Standing (stream : TritonStream Audio) : Prop where
  fits : stream.responses.length ≤ responsesMaxsize
  idle : stream.consumer = .created → stream.reader = .absent
  launched : stream.reader = .absent → stream.consumer = .created ∨ stream.consumer = .terminated .closed
  drained : stream.reader = .ended → stream.incoming = [] ∨ ∃ outcome, stream.Left outcome

theorem Standing.step {action : StreamAction} (standing : stream.Standing)
    (stepped : stream.step floatAudioToPcm action = some after) : after.Standing := by
  obtain ⟨fits,idle,launched,drained⟩ := standing
  -- the generator moves and the reader thread does not
  have moves : ∀ {next : TritonStream Audio}, next.responses.length ≤ responsesMaxsize → next.reader = stream.reader →
      next.incoming = stream.incoming → stream.consumer ≠ .created → stream.consumer ≠ .terminated .closed →
      next.consumer ≠ .created → ((∃ outcome, stream.Left outcome) → ∃ outcome, next.Left outcome) → next.Standing := by
    intro next fits reader incoming started open_ goes left
    refine ⟨fits,fun fresh => absurd fresh goes,fun absent => ?_,fun ended => ?_⟩
    · exact absurd (launched (reader ▸ absent)) (not_or.mpr ⟨started,open_⟩)
    · rw [incoming]
      exact (drained (reader ▸ ended)).imp_right left
  cases step_moves stepped with
  | started fresh => exact ⟨fits,nofun,nofun,nofun⟩
  | dropped fresh => exact ⟨fits,nofun,fun _ => .inr rfl,fun _ => .inr ⟨.closed,.inr rfl⟩⟩
  | resumed waits => exact moves fits rfl rfl (by simp [waits]) (by simp [waits]) nofun (by simp [Left,waits])
  | closed waits => exact moves fits rfl rfl (by simp [waits]) (by simp [waits]) nofun fun _ => ⟨.closed,.inl rfl⟩
  | inferred asks => exact moves fits rfl rfl (by simp [asks]) (by simp [asks]) nofun (by simp [Left,asks])
  | refused asks error =>
    exact moves fits rfl rfl (by simp [asks]) (by simp [asks]) nofun fun _ => ⟨.refused error,.inl rfl⟩
  | @took response rest gets first =>
    have fewer : rest.length ≤ responsesMaxsize := by
      rw [first,List.length_cons] at fits
      omega
    rcases handle_cases floatAudioToPcm { stream with responses := rest } response [] with
      ⟨_,_,outcome,_,_,stops⟩ | ⟨_,_,stays⟩ | ⟨_,pcm,_,yields⟩
    · rw [stops]
      exact moves fewer rfl rfl (by simp [gets]) (by simp [gets]) nofun fun _ => ⟨outcome,.inl rfl⟩
    · rw [stays]
      exact moves fewer rfl rfl (by simp [gets]) (by simp [gets]) (by simp [gets]) (by simp [Left,gets])
    · rw [yields]
      exact moves fewer rfl rfl (by simp [gets]) (by simp [gets]) nofun (by simp [Left,gets])
  | @joined outcome stops ended =>
    exact moves fits rfl rfl (by simp [stops]) (by simp [stops]) nofun fun _ => ⟨stream.leave outcome,.inr rfl⟩
  | received reads first => exact ⟨fits,fun fresh => absurd (reads.symm.trans (idle fresh)) nofun,nofun,nofun⟩
  | put puts room =>
    refine ⟨?_,fun fresh => absurd (puts.symm.trans (idle fresh)) nofun,nofun,nofun⟩
    rw [List.length_append,List.length_singleton]
    exact room
  | readerEnded reads free =>
    refine ⟨fits,fun fresh => absurd (reads.symm.trans (idle fresh)) nofun,nofun,fun _ => ?_⟩
    exact free.symm.imp_right fun ⟨outcome,stops⟩ => ⟨outcome,.inl stops⟩

/-! ## The join -/

/-- A generator that joins the reader thread has left no more than fits on the queue. -/
def Closes (stream : TritonStream Audio) : Prop :=
  ∀ outcome, stream.consumer = .stopping outcome → stream.untaken.length ≤ responsesMaxsize

theorem Closes.step {action : StreamAction} (closes : stream.Closes) (roomy : stream.Roomy action)
    (stepped : stream.step floatAudioToPcm action = some after) : after.Closes := by
  cases step_moves stepped with
  | started _ | resumed _ | dropped _ | inferred _ | joined _ _ => intro outcome stops; cases stops
  | closed waits => exact fun _ _ => roomy waits
  | refused _ _ => exact fun _ _ => roomy
  | @took response rest gets first =>
    intro outcome stops
    have next : stream.untaken = response :: { stream with responses := rest }.untaken := by simp [untaken,held,first]
    rcases handle_cases floatAudioToPcm { stream with responses := rest } response [] with
      ⟨leaves,_,outcome,_,_,last⟩ | ⟨_,_,stays⟩ | ⟨_,pcm,_,yields⟩
    · rw [last]
      have room := roomy (by rw [first]; exact leaves)
      rw [next,List.length_cons] at room
      exact Nat.le_of_succ_le_succ room
    · rw [stays] at stops
      cases gets.symm.trans stops
    · rw [yields] at stops
      cases stops
  | received reads first =>
    intro outcome stops
    simpa [untaken,held,reads,first] using closes outcome stops
  | put puts room =>
    intro outcome stops
    simpa [untaken,held,puts] using closes outcome stops
  | readerEnded reads free =>
    intro outcome stops
    simpa [untaken,held,reads] using closes outcome stops

/-- Where the responses fit, the reader thread is not blocked. -/
theorem Closes.free (closes : stream.Closes) : ¬ stream.Deadlocked := by
  rintro ⟨outcome,response,stops,puts,full⟩
  have few := closes outcome stops
  simp only [untaken,held,puts,List.length_append,List.length_singleton] at few
  omega

/-- A generator that joins a reader thread with more responses than fit on the queue can be joined to
    it forever. -/
theorem overrun_deadlocks (floatAudioToPcm : Audio → Pcm) (count : Nat) (stream : TritonStream Audio)
    (short : 2 * stream.incoming.length + stream.held.length ≤ count) {outcome : Outcome}
    (stops : stream.consumer = .stopping outcome) (standing : stream.Standing) (lives : stream.reader ≠ .ended)
    (more : responsesMaxsize < stream.untaken.length) :
    ∃ actions last, Machine.run (step floatAudioToPcm) stream actions = some last ∧ last.Deadlocked := by
  induction count generalizing stream with
  | zero =>
    -- nothing is on its way, and what is on the queue fits
    have none : stream.incoming = [] ∧ stream.held = [] :=
      ⟨List.length_eq_zero_iff.mp (by omega),List.length_eq_zero_iff.mp (by omega)⟩
    have fits := standing.fits
    rw [untaken,none.1,none.2,List.append_nil,List.append_nil] at more
    omega
  | succ count ih =>
    cases reader : stream.reader with
    | absent =>
      rcases standing.launched reader with fresh | left
      · cases stops.symm.trans fresh
      · cases stops.symm.trans left
    | ended => exact absurd reader lives
    | putting response =>
      by_cases room : stream.responses.length < responsesMaxsize
      · have stepped : stream.step floatAudioToPcm .put =
            some { stream with responses := stream.responses ++ [response],reader := .reading } := by
          simp [step,reader,room]
        simp only [held,reader,List.length_singleton] at short
        obtain ⟨actions,last,ran,dead⟩ := ih { stream with responses := stream.responses ++ [response],reader := .reading }
          (by simp only [held,List.length_nil]; omega) stops (standing.step stepped) (by simp)
          (by simpa [untaken,held,reader] using more)
        exact ⟨.put :: actions,last,(Machine.run_cons _).mpr ⟨_,stepped,ran⟩,dead⟩
      · exact ⟨[],stream,rfl,outcome,response,stops,reader,Nat.le_of_not_lt room⟩
    | reading =>
      cases incoming : stream.incoming with
      | nil =>
        have fits := standing.fits
        simp only [untaken,held,reader,incoming,List.append_nil] at more
        omega
      | cons response rest =>
        have stepped : stream.step floatAudioToPcm .receive =
            some { stream with incoming := rest,reader := .putting response } := by
          simp [step,reader,incoming]
        simp only [incoming,held,reader,List.length_cons,List.length_nil] at short
        obtain ⟨actions,last,ran,dead⟩ := ih { stream with incoming := rest,reader := .putting response }
          (by simp only [held,List.length_singleton]; omega) stops (standing.step stepped) (by simp)
          (by simpa [untaken,held,reader,incoming] using more)
        exact ⟨.receive :: actions,last,(Machine.run_cons _).mpr ⟨_,stepped,ran⟩,dead⟩

/-- A step that leaves with more responses than fit on the queue joins a reader thread that runs. -/
theorem overrun_stops {action : StreamAction} (standing : stream.Standing)
    (stepped : stream.step floatAudioToPcm action = some after) (overrun : ¬ stream.Roomy action) :
    ∃ outcome, after.consumer = .stopping outcome ∧ after.reader ≠ .ended ∧ responsesMaxsize < after.untaken.length := by
  -- the reader thread of a generator that has not left has not ended with so many responses
  have lives : stream.reader = .ended → (∀ outcome, ¬ stream.Left outcome) →
      stream.untaken.length ≤ responsesMaxsize := by
    intro ended runs
    have nothing := (standing.drained ended).resolve_right fun ⟨outcome,left⟩ => runs outcome left
    simpa [untaken,held,ended,nothing] using standing.fits
  cases step_moves stepped with
  | started _ | resumed _ | inferred _ | joined _ _ | received _ _ | put _ _ | readerEnded _ _ => exact absurd trivial overrun
  | dropped fresh => exact absurd (fun waits => by cases fresh.symm.trans waits) overrun
  | closed waits =>
    have many : responsesMaxsize < stream.untaken.length := by
      simpa [Roomy,waits] using overrun
    refine ⟨.closed,rfl,fun ended => ?_,many⟩
    have few := lives ended (by simp [Left,waits])
    omega
  | refused asks error =>
    have many : responsesMaxsize < stream.untaken.length := by
      simpa [Roomy] using overrun
    refine ⟨.refused error,rfl,fun ended => ?_,many⟩
    have few := lives ended (by simp [Left,asks])
    omega
  | @took response rest gets first =>
    obtain ⟨leaving,many⟩ := Classical.not_imp.mp overrun
    have next : stream.untaken = response :: { stream with responses := rest }.untaken := by simp [untaken,held,first]
    rw [next,List.length_cons] at many
    rw [first,List.head?_cons,Option.any_some] at leaving
    rcases handle_cases floatAudioToPcm { stream with responses := rest } response [] with
      ⟨_,_,outcome,_,_,stops⟩ | ⟨stays,_⟩ | ⟨stays,_⟩
    · rw [stops]
      refine ⟨outcome,rfl,fun ended => ?_,Nat.lt_of_succ_lt_succ (Nat.lt_of_not_le many)⟩
      have few := lives ended (by simp [Left,gets])
      rw [next,List.length_cons] at few
      omega
    · simp [leaving] at stays
    · simp [leaving] at stays

theorem created_flows (script : List (Response Audio)) : Flows floatAudioToPcm script (created script) :=
  ⟨fun _ => rfl,List.nil_prefix,by rintro _ (_ | _) <;> contradiction⟩

theorem created_standing (script : List (Response Audio)) : (created script).Standing :=
  ⟨Nat.zero_le _,fun _ => rfl,fun _ => .inl rfl,nofun⟩

theorem created_closes (script : List (Response Audio)) : (created script).Closes := nofun

/-- `stream_pcm` yields the chunks of the responses in order. If the responses that are not taken fit
    on the queue whenever the generator leaves its loop, it never joins a reader thread that is
    blocked in `responses.put`; and a step that leaves with more of them can end so. -/
theorem stream_closing (floatAudioToPcm : Audio → Pcm) (script : List (Response Audio)) (actions : List StreamAction)
    (final : TritonStream Audio) (ran : Machine.run (step floatAudioToPcm) (created script) actions = some final) :
    final.Ordered floatAudioToPcm script ∧
      (Machine.Along (step floatAudioToPcm) Roomy (created script) actions → ¬ final.Deadlocked) ∧
      ∀ action next, final.step floatAudioToPcm action = some next → ¬ final.Roomy action →
        ∃ more last, Machine.run (step floatAudioToPcm) next more = some last ∧ last.Deadlocked := by
  obtain ⟨flows,standing⟩ := Machine.invariant (step floatAudioToPcm)
    (fun stream => Flows floatAudioToPcm script stream ∧ stream.Standing)
    (fun _ _ _ holds stepped => ⟨holds.1.step holds.2.idle stepped,holds.2.step stepped⟩)
    ⟨created_flows script,created_standing script⟩ ran
  refine ⟨flows.2,fun roomy => ?_,fun action next stepped overrun => ?_⟩
  · have closes := Machine.invariant_along (step floatAudioToPcm) Closes
      (fun _ _ _ closes room stepped => closes.step room stepped) (created_closes script) roomy ran
    exact closes.free
  · obtain ⟨outcome,stops,lives,many⟩ := overrun_stops standing stepped overrun
    exact overrun_deadlocks floatAudioToPcm _ next (Nat.le_refl _) stops (standing.step stepped) lives many

/-- A chunk and the final response, read to the end. -/
def readActions : List StreamAction :=
  [.next,.inferred,.receive,.put,.receive,.get,.put,.next,.get,.readerEnds,.join]

def shortScript : List (Response Pcm) := [.result false (some [1,2]),.result true none]

theorem stream_closing_read : ∃ final, Machine.run (step id) (created shortScript) readActions = some final ∧
    final.yielded = [[1,2]] ∧ ¬ final.Deadlocked := by
  refine ⟨⟨[],[],.ended,.terminated .finished,[[1,2]]⟩,rfl,?_⟩
  obtain ⟨ordered,free,_⟩ := stream_closing id shortScript readActions
    ⟨[],[],.ended,.terminated .finished,[[1,2]]⟩ rfl
  refine ⟨ordered.2 .finished (.inr rfl) nofun nofun,free ?_⟩
  simp [Machine.Along,readActions,shortScript,created,step,Roomy,handle,stop,untaken,held,leavesWith,responsesMaxsize]

/-- The consumer closes the generator behind its first chunk, while the reader thread holds the
    fourth response. -/
theorem close_deadlocks : ∃ (script : List (Response Pcm)) (actions : List StreamAction) (final : TritonStream Pcm),
    Machine.run (step id) (created script) actions = some final ∧ final.Deadlocked :=
  ⟨[.result false (some [1,2]),.result false (some [3,4]),.result false (some [5,6]),.result false (some [7,8])],
    [.next,.inferred,.receive,.put,.get,.receive,.put,.receive,.put,.receive,.close],_,rfl,.closed,
    .result false (some [7,8]),rfl,rfl,by decide⟩

end TritonStream
end SpeechGateway.Triton
