import Mathlib.Logic.Relation

/-!
Programs that read and write a state and may raise (`EStateM`): what was written before an
exception stays written. A weakest precondition has one postcondition for returning and one
for raising. A program keeps an invariant when each of its parts does.
-/
namespace Programs
variable {Error State α β : Type}

theorem bind_ok {first : Except Error α} {next : α → Except Error β} {result : β} :
    (first >>= next) = .ok result ↔ ∃ value, first = .ok value ∧ next value = .ok result := by
  cases first with
  | error failure => exact ⟨nofun,fun ⟨_,same,_⟩ => by cases same⟩
  | ok value => exact ⟨fun same => ⟨value,rfl,same⟩,fun ⟨_,same,later⟩ => by cases same; exact later⟩

/-- Runs the program where the condition holds. -/
def when (condition : Prop) [Decidable condition] (program : EStateM Error State Unit) : EStateM Error State Unit :=
  if condition then program else pure ()

/-- Run from `state`, the program returns or raises as the postconditions say. -/
def wp (program : EStateM Error State α) (returns : α → State → Prop) (raises : Error → State → Prop)
    (state : State) : Prop :=
  match program.run state with
  | .ok value next => returns value next
  | .error exc next => raises exc next

section
variable {returns : α → State → Prop} {raises : Error → State → Prop} {state : State}

@[simp] theorem wp_pure (value : α) : wp (pure value) returns raises state ↔ returns value state := .rfl

@[simp] theorem wp_bind (first : EStateM Error State β) (later : β → EStateM Error State α) :
    wp (first >>= later) returns raises state ↔
      wp first (fun value => wp (later value) returns raises) raises state := by
  simp only [wp,EStateM.run,bind,EStateM.bind]
  cases first state <;> rfl

@[simp] theorem wp_throw (exc : Error) : wp (throw exc) returns raises state ↔ raises exc state := .rfl

@[simp] theorem wp_tryCatch (program : EStateM Error State α) (handler : Error → EStateM Error State α) :
    wp (tryCatch program handler) returns raises state ↔
      wp program returns (fun exc => wp (handler exc) returns raises) state := by
  simp only [wp,EStateM.run,tryCatch,tryCatchThe,MonadExceptOf.tryCatch]
  delta EStateM.tryCatch
  cases program state <;> rfl

@[simp] theorem wp_get {returns : State → State → Prop} : wp get returns raises state ↔ returns state state := .rfl

@[simp] theorem wp_set {returns : PUnit → State → Prop} (next : State) :
    wp (set next) returns raises state ↔ returns ⟨⟩ next := .rfl

@[simp] theorem wp_modify {returns : PUnit → State → Prop} (change : State → State) :
    wp (modify change) returns raises state ↔ returns ⟨⟩ (change state) := .rfl

@[simp] theorem wp_ofExcept (value : Except Error α) :
    wp (ofExcept value) returns raises state ↔
      (∀ result, value = .ok result → returns result state) ∧ ∀ exc, value = .error exc → raises exc state := by
  cases value with
  | ok result =>
    have returned : wp (ofExcept (.ok result)) returns raises state ↔ returns result state := .rfl
    simp [returned]
  | error exc =>
    have raised : wp (ofExcept (.error exc)) returns raises state ↔ raises exc state := .rfl
    simp [raised]

@[simp] theorem wp_ite (condition : Prop) [Decidable condition] (yes no : EStateM Error State α) :
    wp (if condition then yes else no) returns raises state ↔
      (condition → wp yes returns raises state) ∧ (¬condition → wp no returns raises state) := by
  split <;> simp [*]

@[simp] theorem wp_when {returns : Unit → State → Prop} (condition : Prop) [Decidable condition]
    (program : EStateM Error State Unit) :
    wp (when condition program) returns raises state ↔
      (condition → wp program returns raises state) ∧ (¬condition → returns () state) := by
  rw [when,wp_ite,wp_pure]

theorem wp_mono {weaker : α → State → Prop} {weakerRaises : Error → State → Prop} {program : EStateM Error State α}
    (holds : wp program returns raises state) (imp : ∀ value next, returns value next → weaker value next)
    (impRaises : ∀ exc next, raises exc next → weakerRaises exc next) : wp program weaker weakerRaises state := by
  unfold wp at *
  cases ran : program.run state with
  | ok value next =>
    rw [ran] at holds
    exact imp value next holds
  | error exc next =>
    rw [ran] at holds
    exact impRaises exc next holds

theorem wp_and {other : α → State → Prop} {otherRaises : Error → State → Prop} {program : EStateM Error State α}
    (first : wp program returns raises state) (second : wp program other otherRaises state) :
    wp program (fun value next => returns value next ∧ other value next)
      (fun exc next => raises exc next ∧ otherRaises exc next) state := by
  unfold wp at *
  cases ran : program.run state with
  | ok value next =>
    rw [ran] at first second
    exact ⟨first,second⟩
  | error exc next =>
    rw [ran] at first second
    exact ⟨first,second⟩

end

/-- Whether it returns or raises, the program leaves what it found. -/
def Keeps (inv : State → Prop) (program : EStateM Error State α) : Prop :=
  ∀ state, inv state → wp program (fun _ => inv) (fun _ => inv) state

section
variable {inv : State → Prop}

theorem keeps_pure (value : α) : Keeps inv (pure value : EStateM Error State α) := fun _ holds => holds

theorem keeps_throw (exc : Error) : Keeps inv (throw exc : EStateM Error State α) := fun _ holds => holds

theorem keeps_get : Keeps inv (get : EStateM Error State State) := fun _ holds => holds

theorem keeps_bind {first : EStateM Error State β} {later : β → EStateM Error State α} (keeps : Keeps inv first)
    (keepsLater : ∀ value, Keeps inv (later value)) : Keeps inv (first >>= later) := by
  intro state holds
  rw [wp_bind]
  exact wp_mono (keeps state holds) (fun value next kept => keepsLater value next kept) fun _ _ kept => kept

/-- What the first program keeps is known when the rest runs. -/
theorem wp_bind_of_keeps {returns : α → State → Prop} {raises : Error → State → Prop} {state : State}
    {first : EStateM Error State β} {later : β → EStateM Error State α} (keeps : Keeps inv first) (holds : inv state)
    (raised : ∀ exc next, inv next → raises exc next)
    (goesOn : ∀ value next, inv next → wp (later value) returns raises next) :
    wp (first >>= later) returns raises state := by
  rw [wp_bind]
  exact wp_mono (keeps state holds) goesOn raised

theorem keeps_modify {change : State → State} (kept : ∀ state, inv state → inv (change state)) :
    Keeps inv (modify change : EStateM Error State PUnit) := fun state holds => kept state holds

theorem keeps_ofExcept (value : Except Error α) : Keeps inv (ofExcept value : EStateM Error State α) := by
  intro state holds
  rw [wp_ofExcept]
  exact ⟨fun _ _ => holds,fun _ _ => holds⟩

theorem keeps_ite {condition : Prop} [Decidable condition] {yes no : EStateM Error State α}
    (keepsYes : condition → Keeps inv yes) (keepsNo : ¬condition → Keeps inv no) :
    Keeps inv (if condition then yes else no) := by
  split
  · exact keepsYes ‹_›
  · exact keepsNo ‹_›

theorem keeps_when {condition : Prop} [Decidable condition] {program : EStateM Error State Unit}
    (keeps : condition → Keeps inv program) : Keeps inv (when condition program) :=
  keeps_ite keeps fun _ => keeps_pure ()

theorem keeps_and {other : State → Prop} {program : EStateM Error State α} (keeps : Keeps inv program)
    (keepsOther : Keeps other program) : Keeps (fun state => inv state ∧ other state) program := by
  rintro state ⟨holds,holdsOther⟩
  exact wp_and (keeps state holds) (keepsOther state holdsOther)

theorem keeps_tryCatch {program : EStateM Error State α} {handler : Error → EStateM Error State α}
    (keeps : Keeps inv program) (keepsHandler : ∀ exc, Keeps inv (handler exc)) :
    Keeps inv (tryCatch program handler) := by
  intro state holds
  rw [wp_tryCatch]
  exact wp_mono (keeps state holds) (fun _ _ kept => kept) fun exc next kept => keepsHandler exc next kept

end

end Programs
