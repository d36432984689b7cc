import SpeechGateway.Machine
import Mathlib.Tactic.Common
import Mathlib.Data.Nat.Notation

/-!
Infinite schedules of a machine. Every party attempts its actions again and again, and an
attempt at an action that is not enabled changes nothing. A machine settles under every fair
schedule when a measure never grows, and some wanted action lowers it until it does.
-/
namespace Machine
variable {State Action : Type*} (step : State → Action → Option State)

/-- The state after so many attempts of the schedule. -/
def attempts (start : State) (schedule : ℕ → Action) : ℕ → State
  | 0 => start
  | time + 1 => (step (attempts start schedule time) (schedule time)).getD (attempts start schedule time)

/-- Every wanted action is attempted again and again. -/
def Fair (wanted : Action → Prop) (schedule : ℕ → Action) : Prop :=
  ∀ action, wanted action → ∀ time, ∃ later, time ≤ later ∧ schedule later = action

variable (start : State) (schedule : ℕ → Action)

theorem attempts_succ (time : ℕ) :
    step (attempts step start schedule time) (schedule time) = some (attempts step start schedule (time + 1)) ∨
      attempts step start schedule (time + 1) = attempts step start schedule time := by
  rw [attempts]
  cases step (attempts step start schedule time) (schedule time) with
  | none => exact .inr rfl
  | some next => exact .inl rfl

/-- What was attempted with success is a run, and meets what every attempt met. -/
theorem attempts_ran {condition : State → Action → Prop}
    (attempted : ∀ time, condition (attempts step start schedule time) (schedule time)) (time : ℕ) :
    ∃ actions, run step start actions = some (attempts step start schedule time) ∧
      (∀ action ∈ actions, ∃ earlier, schedule earlier = action) ∧ Along step condition start actions := by
  induction time with
  | zero => exact ⟨[],rfl,by simp,trivial⟩
  | succ time ih =>
    obtain ⟨actions,ran,scheduled,along⟩ := ih
    rcases attempts_succ step start schedule time with stepped | stayed
    · refine ⟨actions ++ [schedule time],(run_snoc step).mpr ⟨_,ran,stepped⟩,fun action member => ?_,?_⟩
      · rcases List.mem_append.mp member with before | now
        · exact scheduled action before
        · rw [List.mem_singleton.mp now]
          exact ⟨time,rfl⟩
      · exact (along_append step ran).mpr ⟨along,attempted time,fun _ _ => trivial⟩
    · rw [stayed]
      exact ⟨actions,ran,scheduled,along⟩

section Settling
variable {start schedule} (Goal Inv : State → Prop) (need : State → Option Action) (measure : State → ℕ) {wanted : Action → Prop}

/-- Until the measure falls, the same action stays needed. -/
theorem stays_needed
    (lowers : ∀ state action next, Inv state → step state action = some next →
      measure next < measure state ∨ measure next = measure state ∧ need next = need state)
    (kept : ∀ time, Inv (attempts step start schedule time)) (first ahead : ℕ) :
    measure (attempts step start schedule (first + ahead)) < measure (attempts step start schedule first) ∨
      measure (attempts step start schedule (first + ahead)) = measure (attempts step start schedule first) ∧
        need (attempts step start schedule (first + ahead)) = need (attempts step start schedule first) := by
  induction ahead with
  | zero => exact .inr ⟨rfl,rfl⟩
  | succ ahead ih =>
    rw [← Nat.add_assoc]
    rcases attempts_succ step start schedule (first + ahead) with stepped | stayed
    · rcases lowers _ _ _ (kept _) stepped with lower | ⟨same,needs⟩
      · left
        rcases ih with below | ⟨level,_⟩ <;> omega
      · rw [same,needs]
        exact ih
    · rw [stayed]
      exact ih

/-- Under a fair schedule the goal is reached. -/
theorem settles
    (lowers : ∀ state action next, Inv state → step state action = some next →
      measure next < measure state ∨ measure next = measure state ∧ need next = need state)
    (needed : ∀ state, Inv state → ¬Goal state → ∃ action next, need state = some action ∧ wanted action ∧
      step state action = some next ∧ measure next < measure state)
    (kept : ∀ time, Inv (attempts step start schedule time)) (fair : Fair wanted schedule) :
    ∃ time, Goal (attempts step start schedule time) := by
  by_contra never
  push Not at never
  -- every time has a later one with a smaller measure
  have falls : ∀ time, ∃ later,
      measure (attempts step start schedule later) < measure (attempts step start schedule time) := by
    intro time
    obtain ⟨action,_,needs,wants,_,_⟩ := needed _ (kept time) (never time)
    obtain ⟨later,after,scheduled⟩ := fair action wants time
    obtain ⟨ahead,rfl⟩ := Nat.exists_eq_add_of_le after
    rcases stays_needed step Inv need measure lowers kept time ahead with lower | ⟨same,still⟩
    · exact ⟨_,lower⟩
    · obtain ⟨other,next,sought,_,stepped,lower⟩ := needed _ (kept (time + ahead)) (never (time + ahead))
      have wanted : other = action := Option.some.inj (sought.symm.trans (still.trans needs))
      refine ⟨time + ahead + 1,?_⟩
      rw [attempts,scheduled,← wanted,stepped,Option.getD_some,← same]
      exact lower
  have bounded : ∀ level time, measure (attempts step start schedule time) < level → False := by
    intro level
    induction level with
    | zero => exact fun time below => Nat.not_lt_zero _ below
    | succ level ih =>
      intro time below
      obtain ⟨later,lower⟩ := falls time
      exact ih later (by omega)
  exact bounded _ 0 (Nat.lt_succ_self _)

end Settling
end Machine
