import Mathlib.Order.Basic

/-!
Hysteresis over a sequence. Some positions may start a run and some, among them these, may
continue one. A run is confirmed at its `rise`th position and ends with `fall` positions in a
row that do not continue it. What a machine that reads the sequence from left to right knows
at a position is one of three phases, and each position takes it to the next.
-/
namespace Hysteresis
variable {starts stays : Nat → Prop} {rise fall since first confirmed loud position : Nat}

/-- A run that starts at `first`, not before `since`, goes on until `last` and is long enough there. -/
structure Rises (starts stays : Nat → Prop) (rise since first last : Nat) : Prop where
  late : since ≤ first
  length : last + 1 = first + rise
  begins : starts first
  continues : ∀ position, first ≤ position → position ≤ last → stays position

/-- The earliest position where such a run is long enough. -/
structure Confirms (starts stays : Nat → Prop) (rise since first last : Nat) : Prop
    extends Rises starts stays rise since first last where
  least : ∀ other later, Rises starts stays rise since other later → last ≤ later

/-- Enough positions up to `last`, all after `confirmed`, do not continue a run. -/
structure Falls (stays : Nat → Prop) (fall confirmed last : Nat) : Prop where
  late : confirmed + fall ≤ last
  quiet : ∀ position, last < position + fall → position ≤ last → ¬stays position

/-- The earliest such position. -/
structure Ends (stays : Nat → Prop) (fall confirmed last : Nat) : Prop extends Falls stays fall confirmed last where
  least : ∀ later, Falls stays fall confirmed later → last ≤ later

/-- A start is lost: its run breaks off too soon, before `position`. -/
def Lost (stays : Nat → Prop) (rise position start : Nat) : Prop :=
  ∃ gap, start ≤ gap ∧ gap < position ∧ gap < start + rise ∧ ¬stays gap

/-- Before `position` every start is lost. -/
def Idle (starts stays : Nat → Prop) (rise since position : Nat) : Prop :=
  ∀ start, since ≤ start → start < position → starts start → Lost stays rise position start

/-- The run from `first` goes on, and is not long enough yet. -/
structure Rising (starts stays : Nat → Prop) (rise since first position : Nat) : Prop where
  late : since ≤ first
  begun : first < position
  short : position < first + rise
  begins : starts first
  continues : ∀ other, first ≤ other → other < position → stays other
  lost : ∀ start, since ≤ start → start < first → starts start → Lost stays rise position start

/-- A confirmed run goes on: `loud` is its last position so far that continues it. -/
structure Sustained (stays : Nat → Prop) (fall confirmed loud position : Nat) : Prop where
  after : confirmed ≤ loud
  before : loud < position
  continues : stays loud
  quiet : ∀ other, loud < other → other < position → ¬stays other
  short : position ≤ loud + fall
  unended : ∀ last, Falls stays fall confirmed last → position ≤ last

theorem Lost.mono {later start : Nat} (lost : Lost stays rise position start) (le : position ≤ later) :
    Lost stays rise later start := by
  obtain ⟨gap,from',before,soon,quiet⟩ := lost
  exact ⟨gap,from',by omega,soon,quiet⟩

/-- A start that is lost confirms nothing. -/
theorem Lost.not_rises {start last : Nat} (lost : Lost stays rise position start) :
    ¬Rises starts stays rise since start last := by
  obtain ⟨gap,from',_,soon,quiet⟩ := lost
  intro rises
  have length := rises.length
  exact quiet (rises.continues gap from' (by omega))

theorem idle_start (starts stays : Nat → Prop) (rise since : Nat) : Idle starts stays rise since since :=
  fun start late early => by omega

/-- While every start is lost nothing is confirmed. -/
theorem Idle.unconfirmed (idle : Idle starts stays rise since position) (long : 0 < rise) {start last : Nat}
    (rises : Rises starts stays rise since start last) : position ≤ last := by
  have length := rises.length
  by_cases inside : start < position
  · exact absurd rises (idle start rises.late inside rises.begins).not_rises
  · omega

theorem Rising.unconfirmed (rising : Rising starts stays rise since first position) {start last : Nat}
    (rises : Rises starts stays rise since start last) : position ≤ last := by
  have length := rises.length
  have short := rising.short
  by_cases early : start < first
  · exact absurd rises (rising.lost start rises.late early rises.begins).not_rises
  · omega

/-- A position that starts no run. -/
theorem Idle.quiet (idle : Idle starts stays rise since position) (silent : ¬starts position) :
    Idle starts stays rise since (position + 1) := by
  intro start late early begins
  by_cases here : start = position
  · subst here
    exact absurd begins silent
  · exact (idle start late (by omega) begins).mono (Nat.le_succ _)

/-- A position that starts a run. -/
theorem Idle.begin (idle : Idle starts stays rise since position) (late : since ≤ position) (begins : starts position)
    (continues : stays position) (long : 1 < rise) : Rising starts stays rise since position (position + 1) where
  late := late
  begun := Nat.lt_succ_self _
  short := by omega
  begins := begins
  continues other from' before := by
    obtain rfl : other = position := by omega
    exact continues
  lost start late early begins := (idle start late early begins).mono (Nat.le_succ _)

/-- It may be long enough at once. -/
theorem Idle.confirm (idle : Idle starts stays rise since position) (late : since ≤ position) (begins : starts position)
    (continues : stays position) (short : rise = 1) : Confirms starts stays rise since position position where
  late := late
  length := by omega
  begins := begins
  continues other from' upTo := by
    obtain rfl : other = position := by omega
    exact continues
  least _ _ rises := idle.unconfirmed (by omega) rises

theorem Rising.continue (rising : Rising starts stays rise since first position) (continues : stays position)
    (short : position + 1 < first + rise) : Rising starts stays rise since first (position + 1) where
  late := rising.late
  begun := Nat.lt_succ_of_lt rising.begun
  short := short
  begins := rising.begins
  continues other from' before := by
    by_cases here : other = position
    · subst here
      exact continues
    · exact rising.continues other from' (by omega)
  lost start late early begins := (rising.lost start late early begins).mono (Nat.le_succ _)

theorem Rising.confirm (rising : Rising starts stays rise since first position) (continues : stays position)
    (long : position + 1 = first + rise) : Confirms starts stays rise since first position where
  late := rising.late
  length := long
  begins := rising.begins
  continues other from' upTo := by
    by_cases here : other = position
    · subst here
      exact continues
    · exact rising.continues other from' (by omega)
  least _ _ rises := rising.unconfirmed rises

/-- The run breaks off; no start within it could do better. -/
theorem Rising.break (rising : Rising starts stays rise since first position) (quiet : ¬stays position) :
    Idle starts stays rise since (position + 1) := by
  have short := rising.short
  intro start late early begins
  by_cases before : start < first
  · exact (rising.lost start late before begins).mono (Nat.le_succ _)
  · exact ⟨position,by omega,by omega,by omega,quiet⟩

/-- A run has just been confirmed. -/
theorem sustained_confirmed (long : 0 < fall) (continues : stays confirmed) :
    Sustained stays fall confirmed confirmed (confirmed + 1) where
  after := Nat.le_refl _
  before := Nat.lt_succ_self _
  continues := continues
  quiet other after before := by omega
  short := by omega
  unended last falls := by
    have := falls.late
    omega

/-- The earliest end of a sustained run is no earlier than here. -/
theorem Sustained.unended_next (sustained : Sustained stays fall confirmed loud position)
    (short : stays position ∨ position + 1 ≤ loud + fall) {last : Nat} (falls : Falls stays fall confirmed last)
    (long : 0 < fall) : position + 1 ≤ last := by
  have reached := sustained.unended last falls
  have before := sustained.before
  by_contra early
  obtain rfl : last = position := by omega
  rcases short with continues | short
  · exact falls.quiet last (by omega) (Nat.le_refl _) continues
  · exact falls.quiet loud (by omega) (by omega) sustained.continues

theorem Sustained.louder (sustained : Sustained stays fall confirmed loud position) (long : 0 < fall)
    (continues : stays position) : Sustained stays fall confirmed position (position + 1) where
  after := by
    have := sustained.after
    have := sustained.before
    omega
  before := Nat.lt_succ_self _
  continues := continues
  quiet other after before := by omega
  short := by omega
  unended _ falls := sustained.unended_next (.inl continues) falls long

theorem Sustained.quieter (sustained : Sustained stays fall confirmed loud position) (long : 0 < fall)
    (silent : ¬stays position) (short : position + 1 ≤ loud + fall) :
    Sustained stays fall confirmed loud (position + 1) where
  after := sustained.after
  before := Nat.lt_succ_of_lt sustained.before
  continues := sustained.continues
  quiet other after before := by
    by_cases here : other = position
    · subst here
      exact silent
    · exact sustained.quiet other after (by omega)
  short := short
  unended _ falls := sustained.unended_next (.inr short) falls long

theorem Sustained.end (sustained : Sustained stays fall confirmed loud position) (silent : ¬stays position)
    (long : position = loud + fall) : Ends stays fall confirmed position where
  late := by
    have := sustained.after
    omega
  quiet other near upTo := by
    by_cases here : other = position
    · subst here
      exact silent
    · exact sustained.quiet other (by omega) (by omega)
  least last falls := sustained.unended last falls

end Hysteresis
