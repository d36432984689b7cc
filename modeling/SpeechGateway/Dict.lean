import Mathlib.Data.List.Induction
import Mathlib.Data.List.Nodup

/-!
A Python `dict` as its items in the order in which the keys were first set.
-/
namespace Dict
variable {κ α : Type*} [DecidableEq κ]

/-- `items[key] = value`. -/
def setItem : List (κ × α) → κ → α → List (κ × α)
  | [],key,value => [(key,value)]
  | item :: rest,key,value => if item.1 = key then (key,value) :: rest else item :: setItem rest key value

/-- `dict(pairs)`: of a repeated key the last value stays. -/
def toDict (pairs : List (κ × α)) : List (κ × α) := pairs.foldl (fun items pair => setItem items pair.1 pair.2) []

theorem mem_setItem {items : List (κ × α)} {key : κ} {value : α} {item : κ × α}
    (member : item ∈ setItem items key value) : item = (key,value) ∨ item ∈ items := by
  induction items with
  | nil => exact Or.inl (List.mem_singleton.mp member)
  | cons first rest ih =>
    rw [setItem] at member
    split_ifs at member
    · rcases List.mem_cons.mp member with same | later
      · exact Or.inl same
      · exact Or.inr (List.mem_cons_of_mem _ later)
    · rcases List.mem_cons.mp member with same | later
      · exact Or.inr (same ▸ List.mem_cons_self)
      · exact (ih later).imp_right (List.mem_cons_of_mem _)

theorem keys_setItem (items : List (κ × α)) (key : κ) (value : α) :
    (setItem items key value).map Prod.fst =
      if key ∈ items.map Prod.fst then items.map Prod.fst else items.map Prod.fst ++ [key] := by
  induction items with
  | nil => rfl
  | cons item rest ih =>
    by_cases here : item.1 = key
    · simp [setItem,here]
    · rw [setItem,if_neg here,List.map_cons,ih,List.map_cons]
      by_cases later : key ∈ rest.map Prod.fst
      · rw [if_pos later,if_pos (List.mem_cons_of_mem _ later)]
      · rw [if_neg later,if_neg (by simp [later,Ne.symm here])]
        rfl

theorem nodup_setItem {items : List (κ × α)} (distinct : (items.map Prod.fst).Nodup) (key : κ) (value : α) :
    ((setItem items key value).map Prod.fst).Nodup := by
  rw [keys_setItem]
  split_ifs with present
  · exact distinct
  · exact distinct.append (List.nodup_singleton key) (by simpa using present)

/-- A new key goes to the end. -/
theorem setItem_new {items : List (κ × α)} {key : κ} (fresh : key ∉ items.map Prod.fst) (value : α) :
    setItem items key value = items ++ [(key,value)] := by
  induction items with
  | nil => rfl
  | cons item rest ih =>
    rw [List.map_cons,List.mem_cons,not_or] at fresh
    rw [setItem,if_neg (Ne.symm fresh.1),ih fresh.2,List.cons_append]

theorem toDict_snoc (pairs : List (κ × α)) (last : κ × α) :
    toDict (pairs ++ [last]) = setItem (toDict pairs) last.1 last.2 := by
  rw [toDict,List.foldl_append]
  rfl

theorem nodup_toDict (pairs : List (κ × α)) : ((toDict pairs).map Prod.fst).Nodup := by
  induction pairs using List.reverseRecOn with
  | nil => exact List.nodup_nil
  | append_singleton pairs last ih =>
    rw [toDict_snoc]
    exact nodup_setItem ih _ _

/-- Pairs with distinct keys are the items. -/
theorem toDict_distinct {pairs : List (κ × α)} (distinct : (pairs.map Prod.fst).Nodup) : toDict pairs = pairs := by
  induction pairs using List.reverseRecOn with
  | nil => rfl
  | append_singleton pairs last ih =>
    rw [List.map_append,List.nodup_append] at distinct
    rw [toDict_snoc,ih distinct.1,setItem_new]
    intro present
    exact distinct.2.2 _ present last.1 (by simp) rfl

section
variable [BEq κ] [LawfulBEq κ]

theorem lookup_cons (item : κ × α) (rest : List (κ × α)) (key : κ) :
    (item :: rest).lookup key = if key = item.1 then some item.2 else rest.lookup key := by
  rw [List.lookup_cons]
  by_cases same : key = item.1
  · rw [if_pos same,beq_iff_eq.mpr same]
  · rw [if_neg same,beq_eq_false_iff_ne.mpr same]

theorem lookup_setItem (items : List (κ × α)) (key other : κ) (value : α) :
    (setItem items key value).lookup other = if other = key then some value else items.lookup other := by
  induction items with
  | nil => exact lookup_cons _ _ _
  | cons item rest ih =>
    by_cases here : item.1 = key
    · rw [setItem,if_pos here,lookup_cons,lookup_cons,here]
      split_ifs <;> rfl
    · rw [setItem,if_neg here,lookup_cons,lookup_cons,ih]
      by_cases same : other = item.1
      · rw [if_pos same,if_pos same,if_neg fun equal => here (same.symm.trans equal)]
      · rw [if_neg same,if_neg same]

/-- Where equal keys come with equal values, every pair is found again. -/
theorem lookup_toDict {pairs : List (κ × α)}
    (agree : ∀ first ∈ pairs, ∀ second ∈ pairs, first.1 = second.1 → first.2 = second.2) (key : κ) (value : α) :
    (toDict pairs).lookup key = some value ↔ (key,value) ∈ pairs := by
  induction pairs using List.reverseRecOn with
  | nil => simp [toDict]
  | append_singleton pairs last ih =>
    have earlier := ih fun first member second member' =>
      agree first (List.mem_append_left _ member) second (List.mem_append_left _ member')
    rw [toDict_snoc,lookup_setItem,List.mem_append,List.mem_singleton]
    by_cases same : key = last.1
    · subst same
      rw [if_pos rfl,Option.some.injEq]
      constructor
      · rintro rfl
        exact Or.inr rfl
      · rintro (present | same)
        · exact agree last (by simp) _ (List.mem_append_left _ present) rfl
        · exact congrArg Prod.snd same.symm
    · rw [if_neg same,earlier]
      constructor
      · exact Or.inl
      · rintro (present | rfl)
        · exact present
        · exact absurd rfl same

omit [DecidableEq κ] in
theorem mem_of_lookup {items : List (κ × α)} {key : κ} {value : α} (found : items.lookup key = some value) :
    (key,value) ∈ items := by
  obtain ⟨before,after,split,-⟩ := List.lookup_eq_some_iff.mp found
  rw [split]
  simp

theorem lookup_of_mem {items : List (κ × α)} (distinct : (items.map Prod.fst).Nodup) {key : κ} {value : α}
    (member : (key,value) ∈ items) : items.lookup key = some value := by
  induction items with
  | nil => cases member
  | cons item rest ih =>
    rw [List.map_cons,List.nodup_cons] at distinct
    rcases List.mem_cons.mp member with rfl | later
    · simp
    · have apart : key ≠ item.1 := by
        rintro rfl
        exact distinct.1 (List.mem_map.mpr ⟨_,later,rfl⟩)
      rw [lookup_cons,if_neg apart,ih distinct.2 later]

theorem mem_keys {items : List (κ × α)} {key : κ} : key ∈ items.map Prod.fst ↔ ∃ value, items.lookup key = some value := by
  induction items with
  | nil => simp
  | cons item rest ih =>
    rw [List.map_cons,List.mem_cons,ih,lookup_cons]
    by_cases same : key = item.1 <;> simp [same]

end

end Dict
