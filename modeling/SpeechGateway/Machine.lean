import Mathlib.Logic.Relation

/-!
Machines whose step is a partial function, run over lists of actions. An action that is
not enabled has no next state. Invariants may depend on a condition that every step of
the run meets, and a run may be observed while it happens.
-/
namespace Machine
variable {State Action Event : Type*} (step : State → Action → Option State)

/-- The state after the actions, if each is enabled in turn. -/
def run : State → List Action → Option State
  | state, [] => some state
  | state, action :: rest => (step state action).bind fun next => run next rest

@[simp] theorem run_nil (state : State) : run step state [] = some state := rfl

theorem run_cons {state final : State} {action : Action} {rest : List Action} :
    run step state (action :: rest) = some final ↔
      ∃ next, step state action = some next ∧ run step next rest = some final := by
  simp [run,Option.bind_eq_some_iff]

theorem run_append {state final : State} {first later : List Action} :
    run step state (first ++ later) = some final ↔
      ∃ middle, run step state first = some middle ∧ run step middle later = some final := by
  induction first generalizing state with
  | nil => simp [run]
  | cons action rest ih =>
    simp only [List.cons_append,run_cons,ih]
    constructor
    · rintro ⟨next,stepped,middle,ran,finished⟩
      exact ⟨middle,⟨next,stepped,ran⟩,finished⟩
    · rintro ⟨middle,⟨next,stepped,ran⟩,finished⟩
      exact ⟨next,stepped,middle,ran,finished⟩

theorem run_snoc {state final : State} {actions : List Action} {last : Action} :
    run step state (actions ++ [last]) = some final ↔
      ∃ middle, run step state actions = some middle ∧ step middle last = some final := by
  simp [run_append,run_cons]

/-- Every step of the run meets the condition. -/
def Along (condition : State → Action → Prop) : State → List Action → Prop
  | _, [] => True
  | state, action :: rest =>
    condition state action ∧ ∀ next, step state action = some next → Along condition next rest

theorem along_append {condition : State → Action → Prop} {state middle : State} {first later : List Action}
    (ran : run step state first = some middle) :
    Along step condition state (first ++ later) ↔
      Along step condition state first ∧ Along step condition middle later := by
  induction first generalizing state with
  | nil =>
    cases ran
    simp [Along]
  | cons action rest ih =>
    obtain ⟨next,stepped,ran⟩ := (run_cons step).mp ran
    simp [Along,stepped,ih ran,and_assoc]

theorem Along.mono {condition weaker : State → Action → Prop}
    (implies : ∀ state action, condition state action → weaker state action) {state : State} {actions : List Action}
    (along : Along step condition state actions) : Along step weaker state actions := by
  induction actions generalizing state with
  | nil => exact along
  | cons action rest ih => exact ⟨implies _ _ along.1,fun next stepped => ih (along.2 next stepped)⟩

theorem along_true (state : State) (actions : List Action) : Along step (fun _ _ => True) state actions := by
  induction actions generalizing state with
  | nil => trivial
  | cons action rest ih => exact ⟨trivial,fun next _ => ih next⟩

theorem Along.and {first second : State → Action → Prop} {state : State} {actions : List Action}
    (left : Along step first state actions) (right : Along step second state actions) :
    Along step (fun state action => first state action ∧ second state action) state actions := by
  induction actions generalizing state with
  | nil => trivial
  | cons action rest ih => exact ⟨⟨left.1,right.1⟩,fun next stepped => ih (left.2 next stepped) (right.2 next stepped)⟩

/-- What every step preserves holds before each step of a run. -/
theorem along_of_invariant {Inv : State → Prop}
    (preserved : ∀ state action next, Inv state → step state action = some next → Inv next)
    {state : State} (start : Inv state) (actions : List Action) : Along step (fun state _ => Inv state) state actions := by
  induction actions generalizing state with
  | nil => trivial
  | cons action rest ih => exact ⟨start,fun next stepped => ih (preserved _ _ _ start stepped)⟩

theorem along_of_forall {condition : Action → Prop} {actions : List Action}
    (all : ∀ action ∈ actions, condition action) (state : State) :
    Along step (fun _ action => condition action) state actions := by
  induction actions generalizing state with
  | nil => trivial
  | cons action rest ih =>
    obtain ⟨now,later⟩ := List.forall_mem_cons.mp all
    exact ⟨now,fun next _ => ih later next⟩

/-- Whether every step of the run meets a decidable condition. -/
def check (condition : State → Action → Bool) : State → List Action → Bool
  | _, [] => true
  | state, action :: rest => condition state action && (step state action).all fun next => check condition next rest

theorem along_of_check {condition : State → Action → Bool} {state : State} {actions : List Action}
    (checked : check step condition state actions = true) :
    Along step (fun state action => condition state action = true) state actions := by
  induction actions generalizing state with
  | nil => trivial
  | cons action rest ih =>
    simp only [check,Bool.and_eq_true] at checked
    obtain ⟨first,later⟩ := checked
    refine ⟨first,fun next stepped => ih ?_⟩
    simpa [stepped] using later

/-- What the steps meeting the condition preserve holds after every run of such steps. -/
theorem invariant_along {condition : State → Action → Prop} (Inv : State → Prop)
    (preserved : ∀ state action next, Inv state → condition state action → step state action = some next → Inv next)
    {state final : State} {actions : List Action} (start : Inv state) (along : Along step condition state actions)
    (ran : run step state actions = some final) : Inv final := by
  induction actions generalizing state with
  | nil =>
    cases ran
    exact start
  | cons action rest ih =>
    obtain ⟨next,stepped,ran⟩ := (run_cons step).mp ran
    exact ih (preserved _ _ _ start along.1 stepped) (along.2 next stepped) ran

/-- What every step preserves holds after every run. -/
theorem invariant (Inv : State → Prop)
    (preserved : ∀ state action next, Inv state → step state action = some next → Inv next)
    {state final : State} {actions : List Action} (start : Inv state)
    (ran : run step state actions = some final) : Inv final :=
  invariant_along step Inv (fun _ _ _ holds _ stepped => preserved _ _ _ holds stepped) start
    (along_true step state actions) ran

variable (observe : State → Action → State → List Event)

/-- The machine together with everything observed so far, in order. -/
def observed (traced : State × List Event) (action : Action) : Option (State × List Event) :=
  (step traced.1 action).map fun next => (next,traced.2 ++ observe traced.1 action next)

theorem observed_eq_some {traced final : State × List Event} {action : Action} :
    observed step observe traced action = some final ↔
      ∃ next, step traced.1 action = some next ∧ final = (next,traced.2 ++ observe traced.1 action next) := by
  rw [observed,Option.map_eq_some_iff]
  simp only [eq_comm]

end Machine
