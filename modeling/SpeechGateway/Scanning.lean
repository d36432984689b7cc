import Mathlib.Data.List.Basic
import Mathlib.Data.List.Infix

/-!
A scan for the matches of a pattern, from the left and without overlaps: where a match begins it is
taken whole, and every other character stands for itself. A text is cut in one way only.
-/
namespace Scanning

/-- A pattern whose matches are told apart by how they are written: at most one of them begins a text. -/
structure Pattern (α β : Type*) where
  write : β → List α
  read : List α → Option β
  write_ne : ∀ found, write found ≠ []
  read_iff : ∀ {text found}, read text = some found ↔ write found <+: text

variable {α β : Type*} (pattern : Pattern α β)

/-- The scan, with the characters that the last match still covers left out. -/
def scan : Nat → List α → List (α ⊕ β)
  | _,[] => []
  | covered + 1,_ :: rest => scan covered rest
  | 0,first :: rest =>
    match pattern.read (first :: rest) with
    | some found => .inr found :: scan ((pattern.write found).length - 1) rest
    | none => .inl first :: scan 0 rest

/-- All matches. -/
def findAll (text : List α) : List β := (scan pattern 0 text).filterMap Sum.getRight?

/-- What stands between the matches. -/
def remove (text : List α) : List α := (scan pattern 0 text).filterMap Sum.getLeft?

/-- The text that was cut into these pieces. -/
def render (pieces : List (α ⊕ β)) : List α := pieces.flatMap (Sum.elim (fun single => [single]) pattern.write)

/-- No match begins at a character that stands for itself. -/
inductive Leftmost : List (α ⊕ β) → Prop
  | done : Leftmost []
  | single {first rest} (unmatched : pattern.read (first :: render pattern rest) = none) (later : Leftmost rest) :
      Leftmost (.inl first :: rest)
  | found {found rest} (later : Leftmost rest) : Leftmost (.inr found :: rest)

variable {pattern}

@[simp] theorem render_single (first : α) (rest : List (α ⊕ β)) :
    render pattern (.inl first :: rest) = first :: render pattern rest := rfl

@[simp] theorem render_found (found : β) (rest : List (α ⊕ β)) :
    render pattern (.inr found :: rest) = pattern.write found ++ render pattern rest := rfl

theorem scan_covered (covered : Nat) (text : List α) : scan pattern covered text = scan pattern 0 (text.drop covered) := by
  induction text generalizing covered with
  | nil => cases covered <;> rfl
  | cons first rest ih =>
    cases covered with
    | zero => rfl
    | succ covered => exact ih covered

theorem scan_single {first : α} {rest : List α} (unmatched : pattern.read (first :: rest) = none) :
    scan pattern 0 (first :: rest) = .inl first :: scan pattern 0 rest := by
  rw [scan,unmatched]

theorem scan_found (found : β) (rest : List α) :
    scan pattern 0 (pattern.write found ++ rest) = .inr found :: scan pattern 0 rest := by
  have matched := pattern.read_iff.mpr (List.prefix_append (pattern.write found) rest)
  cases written : pattern.write found with
  | nil => exact absurd written (pattern.write_ne found)
  | cons first tail =>
    rw [written,List.cons_append] at matched
    rw [List.cons_append,scan,matched]
    dsimp only
    rw [scan_covered,written]
    simp

/-- The pieces of a text make up the text. -/
theorem render_scan (covered : Nat) (text : List α) : render pattern (scan pattern covered text) = text.drop covered := by
  induction text generalizing covered with
  | nil => cases covered <;> rfl
  | cons first rest ih =>
    cases covered with
    | succ covered => exact ih covered
    | zero =>
      cases matched : pattern.read (first :: rest) with
      | none => rw [scan_single matched,render_single,ih,List.drop_zero,List.drop_zero]
      | some found =>
        obtain ⟨tail,split⟩ := pattern.read_iff.mp matched
        cases written : pattern.write found with
        | nil => exact absurd written (pattern.write_ne found)
        | cons other more =>
          rw [written,List.cons_append,List.cons.injEq] at split
          rw [scan,matched]
          dsimp only
          rw [render_found,ih,written,← split.1,← split.2]
          simp

theorem leftmost_scan (covered : Nat) (text : List α) : Leftmost pattern (scan pattern covered text) := by
  induction text generalizing covered with
  | nil => cases covered <;> exact .done
  | cons first rest ih =>
    cases covered with
    | succ covered => exact ih covered
    | zero =>
      rw [scan]
      cases matched : pattern.read (first :: rest) with
      | none => exact .single (by rwa [render_scan,List.drop_zero]) (ih 0)
      | some found => exact .found (ih _)

theorem scan_render {pieces : List (α ⊕ β)} (leftmost : Leftmost pattern pieces) :
    scan pattern 0 (render pattern pieces) = pieces := by
  induction leftmost with
  | done => rfl
  | single unmatched _ ih => rw [render_single,scan_single unmatched,ih]
  | found _ ih => rw [render_found,scan_found,ih]

/-- The scan cuts a text in the one way in which it can be cut. -/
theorem scan_iff {text : List α} {pieces : List (α ⊕ β)} :
    scan pattern 0 text = pieces ↔ render pattern pieces = text ∧ Leftmost pattern pieces := by
  constructor
  · rintro rfl
    exact ⟨render_scan 0 text,leftmost_scan 0 text⟩
  · rintro ⟨rfl,leftmost⟩
    exact scan_render leftmost

end Scanning
