import Mathlib.Algebra.GroupWithZero.Nat
import Mathlib.Data.List.Basic

/-!
Filling a batch greedily from a list: the first item of every key, in order, up to the first one
that does not fit. The loop that skips keys already taken computes the longest
initial part of these items that the limits allow (`fill_fills`).
-/
namespace Greedy
variable {Item Key : Type*} [DecidableEq Key] (key : Item → Key) (cost : Item → Nat) (limit bound : Nat)

/-- The first item of every key. -/
def firsts : List Item → List Item
  | [] => []
  | item :: rest => item :: (firsts rest).filter fun other => key other ≠ key item

def total (items : List Item) : Nat := (items.map cost).sum

/-- The loop: items whose key is taken are skipped, and the first other one that does not fit ends it. -/
def fill : List Item → List Item → List Item
  | [], batch => batch
  | item :: rest, batch =>
    if batch.any fun taken => key taken = key item then fill rest batch else
    if limit ≤ batch.length ∨ bound < total cost batch + cost item then batch else
    fill rest (batch ++ [item])

/-- The longest initial part of an offer within the limits. -/
structure Fills (offer batch : List Item) : Prop where
  count : batch.length ≤ limit
  total : total cost batch ≤ bound
  longest : ∃ rest, offer = batch ++ rest ∧
    ∀ next, rest.head? = some next → limit ≤ batch.length ∨ bound < Greedy.total cost batch + cost next

theorem firsts_filter (allowed : Key → Bool) (items : List Item) :
    (firsts key items).filter (fun item => allowed (key item)) = firsts key (items.filter fun item => allowed (key item)) := by
  induction items with
  | nil => rfl
  | cons item rest ih =>
    by_cases here : allowed (key item) = true
    · simp only [firsts,List.filter_cons,here,if_true,← ih,List.filter_filter]
      congr 2
      funext other
      exact Bool.and_comm _ _
    · simp only [firsts,List.filter_cons,here,if_false,← ih,List.filter_filter,Bool.false_eq_true]
      apply List.filter_congr
      intro other _
      by_cases same : key other = key item
      · simp [same,here]
      · simp [same]

/-- An item is the first of its key. -/
theorem mem_firsts {item : Item} {items : List Item} (member : item ∈ firsts key items) :
    ∃ before behind, items = before ++ item :: behind ∧ ∀ other ∈ before, key other ≠ key item := by
  induction items with
  | nil => cases member
  | cons first rest ih =>
    rcases List.mem_cons.mp member with rfl | later
    · exact ⟨[],rest,rfl,by simp⟩
    · obtain ⟨inside,other⟩ := List.mem_filter.mp later
      obtain ⟨before,behind,rfl,earlier⟩ := ih inside
      refine ⟨first :: before,behind,rfl,?_⟩
      intro one among
      rcases List.mem_cons.mp among with rfl | among
      · exact (of_decide_eq_true other).symm
      · exact earlier one among

theorem firsts_sublist (items : List Item) : (firsts key items).Sublist items := by
  induction items with
  | nil => exact List.Sublist.refl _
  | cons item rest ih => exact (List.filter_sublist.trans ih).cons_cons item

theorem firsts_nodup (items : List Item) : ((firsts key items).map key).Nodup := by
  induction items with
  | nil => exact List.nodup_nil
  | cons item rest ih =>
    rw [firsts,List.map_cons,List.nodup_cons]
    refine ⟨?_,ih.sublist (List.filter_sublist.map key)⟩
    intro member
    obtain ⟨other,inside,same⟩ := List.mem_map.mp member
    exact of_decide_eq_true (List.mem_filter.mp inside).2 same

theorem total_append (items : List Item) (item : Item) : total cost (items ++ [item]) = total cost items + cost item := by
  simp [total]

/-- The loop goes on from a batch with the first items of the other keys. -/
theorem fill_from (items batch : List Item) (count : batch.length ≤ limit) (fits : total cost batch ≤ bound) :
    ∃ taken, fill key cost limit bound items batch = batch ++ taken ∧ (batch ++ taken).length ≤ limit ∧
      total cost (batch ++ taken) ≤ bound ∧
      ∃ rest, firsts key (items.filter fun item => !batch.any fun taken => key taken = key item) = taken ++ rest ∧
        ∀ next, rest.head? = some next → limit ≤ (batch ++ taken).length ∨ bound < total cost (batch ++ taken) + cost next := by
  induction items generalizing batch with
  | nil => exact ⟨[],by simp [fill],by simpa using count,by simpa using fits,[],rfl,by simp⟩
  | cons item rest ih =>
    unfold fill
    by_cases seen : (batch.any fun taken => decide (key taken = key item)) = true
    · rw [if_pos seen,List.filter_cons,if_neg (by simpa using seen)]
      exact ih batch count fits
    have clear : (!batch.any fun taken => decide (key taken = key item)) = true := by simpa using seen
    rw [if_neg seen,List.filter_cons,if_pos clear]
    by_cases full : limit ≤ batch.length ∨ bound < total cost batch + cost item
    · rw [if_pos full]
      refine ⟨[],by simp,by simpa using count,by simpa using fits,_,rfl,?_⟩
      rintro next ⟨⟩
      simpa using full
    rw [if_neg full]
    obtain ⟨taken,filled,within,sum,left,offer,stops⟩ := ih (batch ++ [item]) (by simp; omega)
      (by rw [total_append]; omega)
    simp only [List.append_assoc,List.singleton_append] at filled within sum stops
    refine ⟨item :: taken,filled,within,sum,left,?_,stops⟩
    rw [firsts,List.cons_append,← offer,firsts_filter key (fun other => decide (other ≠ key item)),List.filter_filter]
    congr 2
    apply List.filter_congr
    intro other _
    rw [List.any_append,Bool.not_or,Bool.and_comm]
    simp [eq_comm]

theorem fill_fills (items : List Item) :
    Fills cost limit bound (firsts key items) (fill key cost limit bound items []) := by
  obtain ⟨taken,filled,within,sum,rest,offer,stops⟩ := fill_from key cost limit bound items [] (Nat.zero_le _) (Nat.zero_le _)
  simp only [List.nil_append,List.any_nil,Bool.not_false,List.filter_true] at filled within sum offer stops
  rw [filled]
  exact ⟨within,sum,rest,offer,stops⟩

/-- The head of the offer is taken exactly when it fits alone. -/
theorem Fills.head {first : Item} {offer batch : List Item} (fills : Fills cost limit bound (first :: offer) batch)
    (some : 0 < limit) : first ∈ batch ↔ cost first ≤ bound := by
  obtain ⟨rest,split,stops⟩ := fills.longest
  cases batch with
  | nil =>
    obtain rfl := split
    have stopped := stops first rfl
    simp only [List.length_nil,Greedy.total,List.map_nil,List.sum_nil] at stopped
    simp only [List.not_mem_nil,false_iff]
    omega
  | cons taken more =>
    obtain ⟨rfl,_⟩ := List.cons.inj split
    have sum := fills.total
    simp only [Greedy.total,List.map_cons,List.sum_cons] at sum
    exact ⟨fun _ => by omega,fun _ => List.mem_cons_self⟩

end Greedy
