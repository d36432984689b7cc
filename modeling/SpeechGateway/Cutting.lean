import Mathlib.Data.List.TakeDrop

/-!
A list cut into pieces of one length and a shorter rest, which is there even when it is empty.
The pieces of a list that grows are those that it had, without the rest, and the pieces of the
rest with what was added (`cut_append`).
-/
namespace SpeechGateway.Cutting
variable {α : Type} {size : Nat}

/-- The pieces of `size` elements, and the rest. -/
def cut (size : Nat) (list : List α) : List (List α) :=
  if _ : 0 < size ∧ size ≤ list.length then list.take size :: cut size (list.drop size) else [list]
termination_by list.length
decreasing_by
  simp only [List.length_drop]
  omega

theorem cut_short {list : List α} (short : list.length < size) : cut size list = [list] := by
  rw [cut,dif_neg (by omega)]

theorem cut_full {first rest : List α} (positive : 0 < size) (full : first.length = size) :
    cut size (first ++ rest) = first :: cut size rest := by
  subst full
  rw [cut,dif_pos ⟨positive,by simp⟩,List.take_left,List.drop_left]

theorem flatten_cut (list : List α) : (cut size list).flatten = list := by
  fun_induction cut size list with
  | case1 list _ ih => rw [List.flatten_cons,ih,List.take_append_drop]
  | case2 => simp

theorem cut_append (positive : 0 < size) {list last : List α} {pieces : List (List α)}
    (ends : cut size list = pieces ++ [last]) (more : List α) :
    cut size (list ++ more) = pieces ++ cut size (last ++ more) := by
  induction pieces generalizing list with
  | nil =>
    have same : list = last := by
      rw [← flatten_cut list,ends]
      simp
    rw [same,List.nil_append]
  | cons piece pieces ih =>
    rw [cut] at ends
    split at ends
    · rename_i fits
      obtain ⟨rfl,later⟩ := List.cons.inj ends
      have full : (list.take size).length = size := by
        rw [List.length_take]
        omega
      rw [List.cons_append,← ih later,← cut_full positive full,← List.append_assoc,List.take_append_drop]
    · simp at ends

end SpeechGateway.Cutting
