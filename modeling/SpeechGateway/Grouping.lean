import Mathlib.Data.List.Basic

/-!
Work in groups: the entries of a list are grouped by a key, every group is worked on at once, and
what comes out is scattered back to the positions of its entries. Where the work on an entry does
not depend on the others of its group, every entry gets what it would get alone
(`runGroups_group`).
-/
namespace Grouping
variable {Key Entry Input Item Error : Type} [DecidableEq Key]

/-- `grouped.setdefault(key, []).append(index)`. -/
def add (key : Key) (index : Nat) : List (Key × List Nat) → List (Key × List Nat)
  | [] => [(key,[index])]
  | (other,indices) :: rest =>
    if other = key then (other,indices ++ [index]) :: rest else (other,indices) :: add key index rest

/-- The positions of the keys from `first` on, joined to groups that are there already. -/
def groupFrom (first : Nat) (grouped : List (Key × List Nat)) : List Key → List (Key × List Nat)
  | [] => grouped
  | key :: rest => groupFrom (first + 1) (add key first grouped) rest

/-- The positions of every key, in the order in which the keys come first. -/
def group (keys : List Key) : List (Key × List Nat) := groupFrom 0 [] keys

/-- `for index, item in zip(indices, items): found[index] = item`. -/
def scatter : List Nat → List Item → List (Option Item) → List (Option Item)
  | index :: indices, item :: items, found => scatter indices items (found.set index (some item))
  | _, _, found => found

/-- Calls on the groups, one after another. -/
def runGroups (input : Nat → Except Error Input) (call : Key → List Input → Except Error (List Item)) :
    List (Key × List Nat) → List (Option Item) → Except Error (List (Option Item))
  | [], found => return found
  | (key,indices) :: rest, found => do
    let inputs ← indices.mapM input
    let items ← call key inputs
    runGroups input call rest (scatter indices items found)

/-- A position is in a group of the key. -/
def Placed (grouped : List (Key × List Nat)) (key : Key) (index : Nat) : Prop :=
  ∃ indices, (key,indices) ∈ grouped ∧ index ∈ indices

theorem placed_add {grouped : List (Key × List Nat)} {key other : Key} {first index : Nat} :
    Placed (add key first grouped) other index ↔ Placed grouped other index ∨ other = key ∧ index = first := by
  induction grouped with
  | nil => simp [add,Placed,and_assoc]
  | cons entry rest ih =>
    obtain ⟨own,indices⟩ := entry
    have split : ∀ {key index head} {rest : List (Key × List Nat)}, Placed ((own,head) :: rest) key index ↔
        own = key ∧ index ∈ head ∨ Placed rest key index := by
      intro key index head rest
      simp only [Placed,List.mem_cons,Prod.mk.injEq]
      constructor
      · rintro ⟨found,⟨same,rfl⟩ | inside,member⟩
        · exact .inl ⟨same.symm,member⟩
        · exact .inr ⟨found,inside,member⟩
      · rintro (⟨same,member⟩ | ⟨found,inside,member⟩)
        · exact ⟨head,.inl ⟨same.symm,rfl⟩,member⟩
        · exact ⟨found,.inr inside,member⟩
    rw [add]
    by_cases same : own = key
    · subst same
      rw [if_pos rfl,split,split,List.mem_append,List.mem_singleton]
      grind
    · rw [if_neg same,split,split,ih,or_assoc]

theorem placed_groupFrom {keys : List Key} {first index : Nat} {grouped : List (Key × List Nat)} {key : Key} :
    Placed (groupFrom first grouped keys) key index ↔
      Placed grouped key index ∨ first ≤ index ∧ keys[index - first]? = some key := by
  induction keys generalizing first grouped with
  | nil => simp [groupFrom]
  | cons own rest ih =>
    rw [groupFrom,ih,placed_add]
    by_cases here : index = first
    · subst here
      simp [show ¬index + 1 ≤ index by omega,eq_comm]
    · by_cases later : first ≤ index
      · have next : index - first = (index - (first + 1)) + 1 := by omega
        have after : first + 1 ≤ index := by omega
        rw [next,List.getElem?_cons_succ]
        simp [here,later,after]
      · simp [here,later,show ¬first + 1 ≤ index by omega]

theorem placed_group {keys : List Key} {key : Key} {index : Nat} : Placed (group keys) key index ↔ keys[index]? = some key := by
  rw [group,placed_groupFrom]
  simp [Placed]

theorem key_of_add {key : Key} {index : Nat} {grouped : List (Key × List Nat)} {entry : Key × List Nat}
    (inside : entry ∈ add key index grouped) : entry.1 = key ∨ entry.1 ∈ grouped.map Prod.fst := by
  induction grouped with
  | nil =>
    obtain rfl := List.mem_singleton.mp inside
    exact .inl rfl
  | cons first rest ih =>
    obtain ⟨own,indices⟩ := first
    rw [add] at inside
    split at inside
    · rcases List.mem_cons.mp inside with rfl | later
      · exact .inr List.mem_cons_self
      · exact .inr (List.mem_cons_of_mem _ (List.mem_map_of_mem later))
    · rcases List.mem_cons.mp inside with rfl | later
      · exact .inr List.mem_cons_self
      · exact (ih later).imp_right (List.mem_cons_of_mem _)

theorem key_of_groupFrom {keys : List Key} {first : Nat} {grouped : List (Key × List Nat)} {entry : Key × List Nat}
    (inside : entry ∈ groupFrom first grouped keys) : entry.1 ∈ grouped.map Prod.fst ∨ entry.1 ∈ keys := by
  induction keys generalizing first grouped with
  | nil => exact .inl (List.mem_map_of_mem inside)
  | cons key rest ih =>
    rcases ih inside with before | later
    · obtain ⟨other,there,same⟩ := List.mem_map.mp before
      rcases key_of_add there with own | old
      · exact .inr (List.mem_cons.mpr (.inl (same ▸ own)))
      · exact .inl (same ▸ old)
    · exact .inr (List.mem_cons_of_mem _ later)

/-- Only the keys of entries have groups. -/
theorem key_of_group {keys : List Key} {entry : Key × List Nat} (inside : entry ∈ group keys) : entry.1 ∈ keys :=
  (key_of_groupFrom inside).resolve_left List.not_mem_nil

@[simp] theorem length_scatter (indices : List Nat) (items : List Item) (found : List (Option Item)) :
    (scatter indices items found).length = found.length := by
  fun_induction scatter indices items found with
  | case1 index indices item items found ih => rw [ih,List.length_set]
  | case2 => rfl

/-- Scattering answers at some positions answers these, and leaves the others as they are. -/
theorem scatter_answers {answer : Nat → Item} {indices : List Nat} {found : List (Option Item)} {index : Nat}
    (inside : index < found.length) : (scatter indices (indices.map answer) found)[index]? =
      if index ∈ indices then some (some (answer index)) else found[index]? := by
  induction indices generalizing found with
  | nil => rfl
  | cons first rest ih =>
    rw [List.map_cons,scatter,ih (by simpa using inside)]
    by_cases later : index ∈ rest
    · simp [later]
    · by_cases here : first = index
      · subst here
        simp [later,inside]
      · simp [later,here,Ne.symm here]

theorem mapM_ok {input : Nat → Except Error Input} {value : Nat → Input} {indices : List Nat}
    (reads : ∀ index ∈ indices, input index = .ok (value index)) : indices.mapM input = .ok (indices.map value) := by
  induction indices with
  | nil => rfl
  | cons index rest ih =>
    rw [List.mapM_cons,reads index (List.mem_cons_self ..),ih fun other inside => reads other (List.mem_cons_of_mem _ inside)]
    rfl

omit [DecidableEq Key] in
/-- Every position of some groups gets its answer, and no other position anything. -/
theorem runGroups_answers {input : Nat → Except Error Input} {call : Key → List Input → Except Error (List Item)}
    {answer : Nat → Item} {groups : List (Key × List Nat)}
    (calls : ∀ key indices, (key,indices) ∈ groups → (indices.mapM input >>= call key) = .ok (indices.map answer))
    (found : List (Option Item)) : ∃ last, runGroups input call groups found = .ok last ∧ last.length = found.length ∧
      ∀ index < found.length, ((∃ key, Placed groups key index) → last[index]? = some (some (answer index))) ∧
        ((∀ key, ¬Placed groups key index) → last[index]? = found[index]?) := by
  induction groups generalizing found with
  | nil => exact ⟨found,rfl,rfl,fun index _ => ⟨fun ⟨_,_,inside,_⟩ => absurd inside List.not_mem_nil,fun _ => rfl⟩⟩
  | cons entry rest ih =>
    obtain ⟨key,indices⟩ := entry
    obtain ⟨last,ran,length,answers⟩ := ih (fun key indices inside => calls key indices (List.mem_cons_of_mem _ inside))
      (scatter indices (indices.map answer) found)
    rw [length_scatter] at length answers
    refine ⟨last,?_,length,fun index inside => ?_⟩
    · have called := calls key indices (List.mem_cons_self ..)
      rw [runGroups,← bind_assoc,called]
      exact ran
    obtain ⟨placed,unplaced⟩ := answers index inside
    have scattered : (scatter indices (indices.map answer) found)[index]? = _ := scatter_answers inside
    by_cases later : ∃ other, Placed rest other index
    · refine ⟨fun _ => placed later,fun none => ?_⟩
      obtain ⟨other,members,group,member⟩ := later
      exact absurd ⟨members,List.mem_cons_of_mem _ group,member⟩ (none other)
    · have same := unplaced fun other here => later ⟨other,here⟩
      rw [same,scattered]
      constructor
      · rintro ⟨other,members,group,member⟩
        rcases List.mem_cons.mp group with first | group
        · cases first
          rw [if_pos member]
        · exact absurd ⟨other,members,group,member⟩ later
      · intro none
        rw [if_neg fun member => none key ⟨indices,List.mem_cons_self ..,member⟩]

/-- Where a call answers every input by itself, every entry gets the answer to its key and input. -/
theorem runGroups_group {entries : List Entry} {key : Entry → Key} (value : Entry → Input) {answer : Key → Input → Item}
    {input : Nat → Except Error Input} {call : Key → List Input → Except Error (List Item)}
    (inputs : ∀ index entry, entries[index]? = some entry → input index = .ok (value entry))
    (calls : ∀ key values, call key values = .ok (values.map (answer key))) :
    runGroups input call (group (entries.map key)) (List.replicate entries.length none) =
      .ok (entries.map fun entry => some (answer (key entry) (value entry))) := by
  cases entries with
  | nil => rfl
  | cons first others =>
    generalize first :: others = entries at inputs
    -- No position of a group is behind the last entry, where any answer would do.
    have answered : ∀ own indices, (own,indices) ∈ group (entries.map key) → (indices.mapM input >>= call own) =
        .ok (indices.map fun index => answer (key (entries.getD index first)) (value (entries.getD index first))) := by
      intro own indices inside
      have entered : ∀ index ∈ indices, ∃ entry, entries[index]? = some entry ∧ key entry = own := by
        intro index member
        have keyed := placed_group.mp ⟨indices,inside,member⟩
        rwa [List.getElem?_map,Option.map_eq_some_iff] at keyed
      have reads : indices.mapM input = .ok (indices.map fun index => value (entries.getD index first)) :=
        mapM_ok fun index member => by
          obtain ⟨entry,here,_⟩ := entered index member
          rw [inputs index entry here,List.getD_eq_getElem?_getD,here]
          rfl
      rw [reads]
      show call own _ = _
      rw [calls,List.map_map]
      congr 1
      refine List.map_congr_left fun index member => ?_
      obtain ⟨entry,here,keyed⟩ := entered index member
      rw [Function.comp_apply,List.getD_eq_getElem?_getD,here,← keyed]
      rfl
    obtain ⟨last,ran,length,answers⟩ := runGroups_answers answered (List.replicate entries.length none)
    rw [ran]
    congr 1
    rw [List.length_replicate] at length answers
    refine List.ext_getElem? fun index => ?_
    by_cases inside : index < entries.length
    · have here := List.getElem?_eq_getElem inside
      have keyed : (entries.map key)[index]? = some (key entries[index]) := by rw [List.getElem?_map,here]; rfl
      rw [(answers index inside).1 ⟨_,placed_group.mpr keyed⟩,List.getElem?_map,here,List.getD_eq_getElem?_getD,here]
      rfl
    · rw [List.getElem?_eq_none (by omega),List.getElem?_eq_none (by simpa using inside)]

end Grouping
