import Mathlib.Data.Set.Lattice
import Mathlib.Data.Set.Function
import Mathlib.Order.CompletePartialOrder
import Mathlib.Data.List.Perm.Basic

/-!
Calls that overlap. A call works on the objects under its keys in several steps, and between two of
them other calls take theirs. As long as calls that overlap have no key in common, each of them
answers what it answers when the calls run as wholes, one after another, in the order in which
they began (`overlap_serial`).
-/
namespace Overlap
variable {Key Object Shared Request Call Reply Id : Type*}

/-- How a request becomes a call, what a step of a call does, and the keys that it may use. What is
    shared is looked at when a call begins, and changed when it begins and when it answers. -/
structure Calls (Key Object Shared Request Call Reply : Type*) where
  enter : Shared → Request → Call
  marks : Request → Shared → Shared
  leaves : Call → Shared → Shared
  advance : Call → (Key → Object) → (Key → Object) × (Call ⊕ Reply)
  keys : Call → Set Key

namespace Calls
variable (calls : Calls Key Object Shared Request Call Reply)

/-- A call that takes all its steps at once. -/
inductive Completes : Call → (Key → Object) → (Key → Object) → Reply → Prop
  | answered {call : Call} {store next : Key → Object} {reply : Reply}
      (stepped : calls.advance call store = (next,.inr reply)) : Completes call store next reply
  | resumed {call later : Call} {store next last : Key → Object} {reply : Reply}
      (stepped : calls.advance call store = (next,.inl later)) (rest : Completes later next last reply) :
      Completes call store last reply

/-- A call uses its own keys only, keeps to them, and comes to an end. -/
structure Lawful : Prop where
  writes : ∀ call store, Set.EqOn (calls.advance call store).1 store (calls.keys call)ᶜ
  reads : ∀ call store other, Set.EqOn store other (calls.keys call) →
    (calls.advance call store).2 = (calls.advance call other).2 ∧
      Set.EqOn (calls.advance call store).1 (calls.advance call other).1 (calls.keys call)
  narrows : ∀ call store later, (calls.advance call store).2 = .inl later → calls.keys later ⊆ calls.keys call
  ends : ∀ call store, ∃ last reply, calls.Completes call store last reply

variable {calls}

/-- What a whole call leaves outside its keys. -/
theorem Completes.writes (lawful : calls.Lawful) {call : Call} {store last : Key → Object} {reply : Reply}
    (completes : calls.Completes call store last reply) : Set.EqOn last store (calls.keys call)ᶜ := by
  induction completes with
  | @answered call store next reply stepped =>
    intro key outside
    have kept := lawful.writes call store outside
    rwa [stepped] at kept
  | @resumed call later store next last reply stepped rest ih =>
    intro key outside
    have kept := lawful.writes call store outside
    rw [stepped] at kept
    have narrows := lawful.narrows call store later (by rw [stepped])
    exact (ih fun inside => outside (narrows inside)).trans kept

/-- A whole call does the same wherever it finds the same under its keys. -/
theorem Completes.reads (lawful : calls.Lawful) {call : Call} {store last : Key → Object} {reply : Reply}
    (completes : calls.Completes call store last reply) {other : Key → Object}
    (same : Set.EqOn store other (calls.keys call)) :
    ∃ otherLast, calls.Completes call other otherLast reply ∧ Set.EqOn last otherLast (calls.keys call) := by
  induction completes generalizing other with
  | @answered call store next reply stepped =>
    obtain ⟨answers,stores⟩ := lawful.reads call store other same
    rw [stepped] at answers stores
    exact ⟨_,.answered (Prod.ext rfl answers.symm),stores⟩
  | @resumed call later store next last reply stepped rest ih =>
    obtain ⟨answers,stores⟩ := lawful.reads call store other same
    rw [stepped] at answers stores
    have narrows := lawful.narrows call store later (by rw [stepped])
    obtain ⟨otherLast,completes,own⟩ := @ih (calls.advance call other).1 fun key inside => stores (narrows inside)
    refine ⟨otherLast,.resumed (Prod.ext rfl answers.symm) completes,fun key inside => ?_⟩
    by_cases kept : key ∈ calls.keys later
    · exact own kept
    · rw [rest.writes lawful kept,completes.writes lawful kept]
      exact stores inside

theorem Completes.unique {call : Call} {store last otherLast : Key → Object} {reply otherReply : Reply}
    (completes : calls.Completes call store last reply) (other : calls.Completes call store otherLast otherReply) :
    last = otherLast ∧ reply = otherReply := by
  induction completes with
  | answered stepped =>
    cases other with
    | answered again =>
      rw [stepped] at again
      simpa using again
    | resumed again =>
      rw [stepped] at again
      simp at again
  | resumed stepped _ ih =>
    cases other with
    | answered again =>
      rw [stepped] at again
      simp at again
    | resumed again rest =>
      rw [stepped,Prod.mk.injEq,Sum.inl.injEq] at again
      obtain ⟨rfl,rfl⟩ := again
      exact ih rest

/-- What every step of a good call keeps, a whole call keeps. -/
theorem Completes.keeps {Inv : (Key → Object) → Prop} {Good : Call → Prop}
    (steps : ∀ call store, Inv store → Good call → Inv (calls.advance call store).1 ∧
      ∀ later, (calls.advance call store).2 = .inl later → Good later)
    {call : Call} {store last : Key → Object} {reply : Reply} (completes : calls.Completes call store last reply)
    (start : Inv store) (good : Good call) : Inv last := by
  induction completes with
  | answered stepped =>
    have kept := (steps _ _ start good).1
    rwa [stepped] at kept
  | resumed stepped rest ih =>
    obtain ⟨kept,stays⟩ := steps _ _ start good
    rw [stepped] at kept stays
    exact ih kept (stays _ rfl)

end Calls

/-- What happens to a store: what is shared changes, or a call begins. -/
inductive Entry (Shared Request Id : Type*)
  | control (change : Shared → Shared)
  | call (id : Id) (request : Request)

/-- Calls one after another, each as a whole, with their replies. -/
inductive Serial (calls : Calls Key Object Shared Request Call Reply) (shared : Shared) (store : Key → Object) :
    List (Entry Shared Request Id) → Shared → (Key → Object) → List (Id × Reply) → Prop
  | nil : Serial calls shared store [] shared store []
  | control {entries : List (Entry Shared Request Id)} {between : Shared} {middle : Key → Object}
      {replies : List (Id × Reply)} (before : Serial calls shared store entries between middle replies)
      (change : Shared → Shared) : Serial calls shared store (entries ++ [.control change]) (change between) middle replies
  | call {entries : List (Entry Shared Request Id)} {between : Shared} {middle last : Key → Object}
      {replies : List (Id × Reply)} {id : Id} {request : Request} {reply : Reply}
      (before : Serial calls shared store entries between middle replies)
      (completes : calls.Completes (calls.enter between request) middle last reply) :
      Serial calls shared store (entries ++ [.call id request]) (calls.marks request between) last (replies ++ [(id,reply)])

/-- The store with the calls under way, in the order in which they began, and the replies so far. -/
structure Running (Key Object Shared Call Reply Id : Type*) where
  shared : Shared
  store : Key → Object
  flying : List (Id × Call)
  replies : List (Id × Reply)

/-- Runs of calls that overlap. A call begins only when those under way leave its keys alone. What it
    changes of what is shared when it answers is an entry at that place. -/
inductive Run (calls : Calls Key Object Shared Request Call Reply) (start : Running Key Object Shared Call Reply Id) :
    List (Entry Shared Request Id) → Running Key Object Shared Call Reply Id → Prop
  | nil : Run calls start [] start
  | control {entries : List (Entry Shared Request Id)} {state : Running Key Object Shared Call Reply Id}
      (before : Run calls start entries state) (change : Shared → Shared) :
      Run calls start (entries ++ [.control change]) { state with shared := change state.shared }
  | began {entries : List (Entry Shared Request Id)} {state : Running Key Object Shared Call Reply Id} {id : Id}
      {request : Request} (before : Run calls start entries state)
      (apart : ∀ entry ∈ state.flying, Disjoint (calls.keys (calls.enter state.shared request)) (calls.keys entry.2)) :
      Run calls start (entries ++ [.call id request])
        { state with shared := calls.marks request state.shared,
                     flying := state.flying ++ [(id,calls.enter state.shared request)] }
  | resumed {entries : List (Entry Shared Request Id)} {state : Running Key Object Shared Call Reply Id}
      {earlier others : List (Id × Call)} {id : Id} {call later : Call} {next : Key → Object}
      (before : Run calls start entries state) (under : state.flying = earlier ++ (id,call) :: others)
      (stepped : calls.advance call state.store = (next,.inl later)) :
      Run calls start entries { state with store := next, flying := earlier ++ (id,later) :: others }
  | answered {entries : List (Entry Shared Request Id)} {state : Running Key Object Shared Call Reply Id}
      {earlier others : List (Id × Call)} {id : Id} {call : Call} {next : Key → Object} {reply : Reply}
      (before : Run calls start entries state) (under : state.flying = earlier ++ (id,call) :: others)
      (stepped : calls.advance call state.store = (next,.inr reply)) :
      Run calls start (entries ++ [.control (calls.leaves call)])
        { shared := calls.leaves call state.shared, store := next, flying := earlier ++ others,
          replies := state.replies ++ [(id,reply)] }

/-- What every step of a good call keeps, holds in every run of calls that are good when they begin. -/
theorem Run.keeps {calls : Calls Key Object Shared Request Call Reply} (Inv : (Key → Object) → Prop) {Good : Call → Prop}
    (steps : ∀ call store, Inv store → Good call → Inv (calls.advance call store).1 ∧
      ∀ later, (calls.advance call store).2 = .inl later → Good later)
    {shared : Shared} {store : Key → Object} {entries : List (Entry Shared Request Id)}
    {state : Running Key Object Shared Call Reply Id} (run : Run calls ⟨shared,store,[],[]⟩ entries state)
    (begins : ∀ id request shared, .call id request ∈ entries → Good (calls.enter shared request)) (start : Inv store) :
    Inv state.store ∧ ∀ entry ∈ state.flying, Good entry.2 := by
  induction run with
  | nil => exact ⟨start,nofun⟩
  | control before change ih => exact ih fun id request shared inside => begins id request shared (List.mem_append_left _ inside)
  | @began entries state id request before apart ih =>
    obtain ⟨kept,good⟩ := ih fun id request shared inside => begins id request shared (List.mem_append_left _ inside)
    refine ⟨kept,fun entry inside => ?_⟩
    rcases List.mem_append.mp inside with old | new
    · exact good entry old
    · obtain rfl := List.mem_singleton.mp new
      exact begins id request _ (List.mem_append_right _ (List.mem_singleton_self _))
  | @resumed entries state earlier others id call later next before under stepped ih =>
    obtain ⟨kept,good⟩ := ih begins
    rw [under] at good
    obtain ⟨goes,stays⟩ := steps call state.store kept (good (id,call) (by simp))
    rw [stepped] at goes stays
    refine ⟨goes,fun entry inside => ?_⟩
    rcases List.mem_append.mp inside with first | behind
    · exact good entry (List.mem_append_left _ first)
    · rcases List.mem_cons.mp behind with rfl | behind
      · exact stays later rfl
      · exact good entry (List.mem_append_right _ (List.mem_cons_of_mem _ behind))
  | @answered entries state earlier others id call next reply before under stepped ih =>
    obtain ⟨kept,good⟩ := ih fun id request shared inside => begins id request shared (List.mem_append_left _ inside)
    rw [under] at good
    obtain ⟨goes,_⟩ := steps call state.store kept (good (id,call) (by simp))
    rw [stepped] at goes
    refine ⟨goes,fun entry inside => good entry ?_⟩
    rcases List.mem_append.mp inside with first | behind
    · exact List.mem_append_left _ first
    · exact List.mem_append_right _ (List.mem_cons_of_mem _ behind)

/-- Calls that step alike as long as they are good have the same runs. -/
theorem Run.transfer {calls : Calls Key Object Shared Request Call Reply} (Inv : (Key → Object) → Prop) (Good : Call → Prop)
    (steps : ∀ call store, Inv store → Good call → Inv (calls.advance call store).1 ∧
      ∀ later, (calls.advance call store).2 = .inl later → Good later)
    {other : Call → (Key → Object) → (Key → Object) × (Call ⊕ Reply)}
    (alike : ∀ call store, Inv store → Good call → calls.advance call store = other call store)
    {shared : Shared} {store : Key → Object} {entries : List (Entry Shared Request Id)}
    {state : Running Key Object Shared Call Reply Id} (run : Run calls ⟨shared,store,[],[]⟩ entries state)
    (begins : ∀ request shared, Good (calls.enter shared request)) (start : Inv store) :
    Run { calls with advance := other } ⟨shared,store,[],[]⟩ entries state := by
  have holds {entries : List (Entry Shared Request Id)} {state : Running Key Object Shared Call Reply Id}
      (run : Run calls ⟨shared,store,[],[]⟩ entries state) :
      Inv state.store ∧ ∀ entry ∈ state.flying, Good entry.2 :=
    run.keeps Inv steps (fun _ request shared _ => begins request shared) start
  induction run with
  | nil => exact .nil
  | control before change ih => exact ih.control change
  | began before apart ih => exact ih.began apart
  | resumed before under stepped ih =>
    obtain ⟨kept,good⟩ := holds before
    have same := alike _ _ kept (good _ (by rw [under]; exact List.mem_append_right _ List.mem_cons_self))
    exact ih.resumed under (same.symm.trans stepped)
  | answered before under stepped ih =>
    obtain ⟨kept,good⟩ := holds before
    have same := alike _ _ kept (good _ (by rw [under]; exact List.mem_append_right _ List.mem_cons_self))
    exact ih.answered under (same.symm.trans stepped)

/-! ## What is owed -/

/-- A call under way with the reply that it will give. -/
structure Owed (Call Reply Id : Type*) where
  id : Id
  call : Call
  reply : Reply

/-- What a call under way owes to a store in which it has run as a whole. -/
structure Owed.Due (calls : Calls Key Object Shared Request Call Reply) (owed : Owed Call Reply Id)
    (store serial : Key → Object) : Prop where
  completes : ∃ last, calls.Completes owed.call store last owed.reply ∧ Set.EqOn last serial (calls.keys owed.call)

/-- Calls that overlap have come as far as the same calls one after another, up to what those under
    way owe. -/
structure Follows (calls : Calls Key Object Shared Request Call Reply)
    (state : Running Key Object Shared Call Reply Id) (shared : Shared) (serial : Key → Object)
    (replies : List (Id × Reply)) (owed : List (Owed Call Reply Id)) : Prop where
  shared : state.shared = shared
  flying : state.flying = owed.map fun owed => (owed.id,owed.call)
  apart : owed.Pairwise fun first second => Disjoint (calls.keys first.call) (calls.keys second.call)
  settled : ∀ key, (∀ other ∈ owed, key ∉ calls.keys other.call) → state.store key = serial key
  due : ∀ other ∈ owed, other.Due calls state.store serial
  told : (state.replies ++ owed.map fun owed => (owed.id,owed.reply)).Perm replies

section
variable {calls : Calls Key Object Shared Request Call Reply} {state : Running Key Object Shared Call Reply Id}
  {shared : Shared} {serial : Key → Object} {replies : List (Id × Reply)}

/-- What happens outside the keys of a call is nothing to it. -/
theorem Owed.Due.apart (lawful : calls.Lawful) {owed : Owed Call Reply Id} {store serial next : Key → Object}
    (due : owed.Due calls store serial) {later : Key → Object} (kept : Set.EqOn next store (calls.keys owed.call))
    (keptSerial : Set.EqOn later serial (calls.keys owed.call)) : owed.Due calls next later := by
  obtain ⟨last,completes,own⟩ := due.completes
  obtain ⟨otherLast,again,same⟩ := completes.reads lawful kept.symm
  exact ⟨otherLast,again,fun key inside => (same inside).symm.trans ((own inside).trans (keptSerial inside).symm)⟩

/-- A call that begins owes all that it does. -/
theorem Follows.began (lawful : calls.Lawful) {owed : List (Owed Call Reply Id)}
    (follows : Follows calls state shared serial replies owed) {id : Id} {request : Request}
    (apart : ∀ entry ∈ state.flying, Disjoint (calls.keys (calls.enter state.shared request)) (calls.keys entry.2)) :
    ∃ last reply, calls.Completes (calls.enter shared request) serial last reply ∧
      Follows calls
        { state with shared := calls.marks request state.shared,
                     flying := state.flying ++ [(id,calls.enter state.shared request)] }
        (calls.marks request shared) last (replies ++ [(id,reply)]) (owed ++ [⟨id,calls.enter shared request,reply⟩]) := by
  obtain ⟨rfl,flying,pairwise,settled,due,told⟩ := follows
  obtain ⟨last,reply,completes⟩ := lawful.ends (calls.enter state.shared request) serial
  have free : ∀ other ∈ owed, Disjoint (calls.keys (calls.enter state.shared request)) (calls.keys other.call) := by
    intro other inside
    exact apart (other.id,other.call) (flying ▸ List.mem_map.mpr ⟨other,inside,rfl⟩)
  -- Under its keys the call finds what it would find behind the calls before it.
  have same : Set.EqOn state.store serial (calls.keys (calls.enter state.shared request)) := by
    intro key inside
    exact settled key fun other member => Set.disjoint_left.mp (free other member) inside
  refine ⟨last,reply,completes,rfl,?_,?_,?_,?_,?_⟩
  · simp [flying]
  · rw [List.pairwise_append]
    refine ⟨pairwise,List.pairwise_singleton _ _,fun first member second last => ?_⟩
    obtain rfl := List.mem_singleton.mp last
    exact (free first member).symm
  · intro key none
    have others : ∀ other ∈ owed, key ∉ calls.keys other.call := fun other member =>
      none other (List.mem_append_left _ member)
    have outside : key ∉ calls.keys (calls.enter state.shared request) :=
      none ⟨id,_,reply⟩ (List.mem_append_right _ (List.mem_singleton_self _))
    exact (settled key others).trans (completes.writes lawful outside).symm
  · intro other member
    rcases List.mem_append.mp member with before | new
    · refine (due other before).apart lawful (fun _ _ => rfl) fun key inside => ?_
      exact completes.writes lawful fun own => Set.disjoint_left.mp (free other before) own inside
    · obtain rfl := List.mem_singleton.mp new
      obtain ⟨otherLast,again,own⟩ := completes.reads lawful same.symm
      exact ⟨otherLast,again,own.symm⟩
  · rw [List.map_append,← List.append_assoc]
    exact told.append_right _

/-- The calls under way before and behind one of them. -/
theorem Follows.split {owed : List (Owed Call Reply Id)} (follows : Follows calls state shared serial replies owed)
    {earlier others : List (Id × Call)} {id : Id} {call : Call} (under : state.flying = earlier ++ (id,call) :: others) :
    ∃ first reply rest, owed = first ++ ⟨id,call,reply⟩ :: rest ∧
      earlier = first.map (fun owed => (owed.id,owed.call)) ∧ others = rest.map fun owed => (owed.id,owed.call) := by
  obtain ⟨first,second,rfl,firsts,seconds⟩ := List.map_eq_append_iff.mp (follows.flying.symm.trans under)
  obtain ⟨own,rest,rfl,here,rests⟩ := List.map_eq_cons_iff.mp seconds
  obtain ⟨own,mine,reply⟩ := own
  simp only [Prod.mk.injEq] at here
  obtain ⟨rfl,rfl⟩ := here
  exact ⟨first,reply,rest,rfl,firsts.symm,rests.symm⟩

/-- The calls under way beside one of them. -/
theorem mem_beside {first rest : List (Owed Call Reply Id)} {one other : Owed Call Reply Id} :
    other ∈ first ++ one :: rest ↔ other = one ∨ other ∈ first ++ rest := by
  rw [List.mem_append,List.mem_cons,List.mem_append,or_left_comm]

theorem apart_beside {first rest : List (Owed Call Reply Id)} {one : Owed Call Reply Id} :
    (first ++ one :: rest).Pairwise (fun first second => Disjoint (calls.keys first.call) (calls.keys second.call)) ↔
      (∀ other ∈ first ++ rest, Disjoint (calls.keys one.call) (calls.keys other.call)) ∧
        (first ++ rest).Pairwise fun first second => Disjoint (calls.keys first.call) (calls.keys second.call) := by
  rw [List.pairwise_middle fun {_ _} apart => apart.symm,List.pairwise_cons]

/-- A step of one call leaves what the others owe. -/
theorem due_beside (lawful : calls.Lawful) {first rest : List (Owed Call Reply Id)} {one : Owed Call Reply Id}
    {store serial : Key → Object} (due : ∀ other ∈ first ++ one :: rest, other.Due calls store serial)
    (apart : ∀ other ∈ first ++ rest, Disjoint (calls.keys one.call) (calls.keys other.call)) :
    ∀ other ∈ first ++ rest, other.Due calls (calls.advance one.call store).1 serial := by
  intro other member
  refine (due other (mem_beside.mpr (.inr member))).apart lawful (fun key inside => ?_) fun _ _ => rfl
  exact lawful.writes one.call store fun own => Set.disjoint_left.mp (apart other member) own inside

/-- A call that goes on owes less. -/
theorem Follows.resumed (lawful : calls.Lawful) {owed : List (Owed Call Reply Id)}
    (follows : Follows calls state shared serial replies owed) {earlier others : List (Id × Call)} {id : Id}
    {call later : Call} {next : Key → Object} (under : state.flying = earlier ++ (id,call) :: others)
    (stepped : calls.advance call state.store = (next,.inl later)) :
    ∃ last, Follows calls { state with store := next, flying := earlier ++ (id,later) :: others } shared serial
      replies last := by
  obtain ⟨first,reply,rest,rfl,rfl,rfl⟩ := follows.split under
  obtain ⟨shares,flying,pairwise,settled,due,told⟩ := follows
  obtain ⟨free,pairwise⟩ := apart_beside.mp pairwise
  have narrows : calls.keys later ⊆ calls.keys call := lawful.narrows call state.store later (by rw [stepped])
  obtain rfl : (calls.advance call state.store).1 = next := by rw [stepped]
  -- What the call still has to do ends where the whole call ends.
  obtain ⟨last,completes,own⟩ := (due ⟨id,call,reply⟩ (by simp)).completes
  have rests : calls.Completes later (calls.advance call state.store).1 last reply := by
    cases completes with
    | answered again =>
      rw [stepped] at again
      simp at again
    | resumed again rests =>
      rw [stepped,Prod.mk.injEq,Sum.inl.injEq] at again
      obtain ⟨rfl,rfl⟩ := again
      rwa [stepped]
  refine ⟨first ++ ⟨id,later,reply⟩ :: rest,shares,by simp,?_,?_,?_,?_⟩
  · exact apart_beside.mpr ⟨fun other member => (free other member).mono_left narrows,pairwise⟩
  · intro key none
    by_cases inside : key ∈ calls.keys call
    · have outside : key ∉ calls.keys later := none ⟨id,later,reply⟩ (by simp)
      exact (rests.writes lawful outside).symm.trans (own inside)
    · refine (lawful.writes call state.store inside).trans (settled key fun other member => ?_)
      rcases mem_beside.mp member with rfl | beside
      · exact inside
      · exact none other (mem_beside.mpr (.inr beside))
  · intro other member
    rcases mem_beside.mp member with rfl | beside
    · exact ⟨last,rests,fun key inside => own (narrows inside)⟩
    · exact due_beside lawful due free other beside
  · simpa using told

/-- A call that answers gives the reply that it owed. -/
theorem Follows.answered (lawful : calls.Lawful) {owed : List (Owed Call Reply Id)}
    (follows : Follows calls state shared serial replies owed) {earlier others : List (Id × Call)} {id : Id}
    {call : Call} {next : Key → Object} {reply : Reply} (under : state.flying = earlier ++ (id,call) :: others)
    (stepped : calls.advance call state.store = (next,.inr reply)) :
    ∃ last, Follows calls
      { shared := calls.leaves call state.shared, store := next, flying := earlier ++ others,
        replies := state.replies ++ [(id,reply)] } (calls.leaves call shared) serial replies last := by
  obtain ⟨first,promised,rest,rfl,rfl,rfl⟩ := follows.split under
  obtain ⟨shares,flying,pairwise,settled,due,told⟩ := follows
  obtain ⟨free,pairwise⟩ := apart_beside.mp pairwise
  obtain ⟨last,completes,own⟩ := (due ⟨id,call,promised⟩ (by simp)).completes
  obtain ⟨rfl,rfl⟩ := completes.unique (.answered stepped)
  obtain rfl : (calls.advance call state.store).1 = last := by rw [stepped]
  refine ⟨first ++ rest,congrArg (calls.leaves call) shares,by simp,pairwise,?_,due_beside lawful due free,?_⟩
  · intro key none
    by_cases inside : key ∈ calls.keys call
    · exact own inside
    · refine (lawful.writes call state.store inside).trans (settled key fun other member => ?_)
      rcases mem_beside.mp member with rfl | beside
      · exact inside
      · exact none other beside
  · refine List.Perm.trans ?_ told
    simp only [List.map_append,List.map_cons,List.append_assoc,List.singleton_append]
    exact List.Perm.append_left _ List.perm_middle.symm

end

/-- Calls that overlap, and leave each other's keys alone, answer as they do one after another. What
    they leave differs only under the keys of those that are still under way. -/
theorem overlap_serial {calls : Calls Key Object Shared Request Call Reply} (lawful : calls.Lawful) {shared : Shared}
    {store : Key → Object} {entries : List (Entry Shared Request Id)} {state : Running Key Object Shared Call Reply Id}
    (run : Run calls ⟨shared,store,[],[]⟩ entries state) :
    ∃ serial replies owed, Serial calls shared store entries state.shared serial replies ∧
      Follows calls state state.shared serial replies owed := by
  induction run with
  | nil => exact ⟨store,[],[],.nil,rfl,rfl,.nil,fun _ _ => rfl,nofun,.refl _⟩
  | control before change ih =>
    obtain ⟨serial,replies,owed,ran,follows⟩ := ih
    exact ⟨serial,replies,owed,.control ran change,rfl,follows.flying,follows.apart,follows.settled,follows.due,follows.told⟩
  | began before apart ih =>
    obtain ⟨serial,replies,owed,ran,follows⟩ := ih
    obtain ⟨last,reply,completes,follows⟩ := follows.began lawful apart
    exact ⟨last,_,_,.call ran completes,follows⟩
  | resumed before under stepped ih =>
    obtain ⟨serial,replies,owed,ran,follows⟩ := ih
    obtain ⟨last,follows⟩ := follows.resumed lawful under stepped
    exact ⟨serial,replies,last,ran,follows⟩
  | answered before under stepped ih =>
    obtain ⟨serial,replies,owed,ran,follows⟩ := ih
    obtain ⟨last,follows⟩ := follows.answered lawful under stepped
    exact ⟨serial,replies,last,.control ran _,follows⟩

end Overlap
