import Axon7.Lib.SortedRange

/-!
# ClientIndex and DataItemIndex

Two maps of lists: the data items of each client, and the clients of each data
item. Lists are compared with the set algorithms for sorted ranges, whatever
order they are in.
-/

namespace Axon7.OsObserver

open Axon7.Lib
open Std (TreeMap)

/-! ## Lists of an entry -/

theorem eq_singleton_iff {α : Type*} {cur : List α} (hnd : cur.Nodup)
    (x : α) :
    cur = [x] ↔ x ∈ cur ∧ ∀ y ∈ cur, y = x := by
  constructor
  · intro h
    simp [h]
  · intro ⟨hmem, hall⟩
    cases cur with
    | nil => cases hmem
    | cons y rest =>
      obtain rfl := hall y List.mem_cons_self
      obtain rfl : rest = [] := by
        rw [List.eq_nil_iff_forall_not_mem]
        intro y' hy'
        have heq := hall y' (List.mem_cons_of_mem _ hy')
        exact (List.nodup_cons.mp hnd).1 (heq ▸ hy')
      rfl

section Entry

variable {α : Type*} [LinearOrder α]

/-- `list::unique`: one element of each run of equal ones. -/
def unique (l : List α) : List α := l.destutter (· ≠ ·)

/-- What `ClientIndex::add` leaves of an entry that is there. -/
def addTo (cur l : List α) : List α :=
  let difference := setDifference l cur
  if difference = [] then cur
  else unique (mergeRange cur (difference.insertionSort (· ≤ ·)))

/-- What the keyed `remove` of either index leaves of an entry. -/
def removeFrom (cur r : List α) : List α :=
  cur.diff (setIntersection cur r)

theorem mem_destutter' {x a : α} {l : List α} :
    x ∈ l.destutter' (· ≠ ·) a ↔ x = a ∨ x ∈ l := by
  induction l generalizing a with
  | nil => simp
  | cons b l ih =>
    by_cases hab : a ≠ b
    · rw [List.destutter'_cons_pos _ hab, List.mem_cons, ih, List.mem_cons]
    · rw [List.destutter'_cons_neg _ hab, ih, List.mem_cons,
        not_not.mp hab, or_self_left]

@[simp] theorem mem_unique {x : α} {l : List α} : x ∈ unique l ↔ x ∈ l := by
  cases l with
  | nil => rfl
  | cons a l => rw [unique, List.destutter_cons', mem_destutter', List.mem_cons]

@[simp] theorem mem_addTo {x : α} {cur l : List α} :
    x ∈ addTo cur l ↔ x ∈ cur ∨ x ∈ l := by
  have hsub := (setDifference_sublist l cur).subset (a := x)
  have hor : x ∈ l → x ∈ setDifference l cur ∨ x ∈ cur := mem_setDifference_or
  rw [addTo]
  split
  · next hnil =>
      rw [hnil] at hor
      refine ⟨.inl, fun h => h.elim id fun hx => ?_⟩
      exact (hor hx).resolve_left List.not_mem_nil
  · rw [mem_unique, mem_mergeRange, List.mem_insertionSort]
    tauto

theorem removeFrom_sublist (cur r : List α) : (removeFrom cur r).Sublist cur :=
  List.diff_sublist _ _

theorem mem_removeFrom_of_not_mem {x : α} {cur r : List α} (hx : x ∉ r) :
    x ∈ removeFrom cur r ↔ x ∈ cur :=
  ⟨fun h => (removeFrom_sublist cur r).subset h, fun h =>
    List.mem_diff_of_mem h fun hin => hx (mem_right_of_mem_setIntersection hin)⟩

@[simp] theorem removeFrom_nil_right (cur : List α) : removeFrom cur [] = cur := by
  rw [removeFrom, setIntersection_nil_right, List.diff_nil]

/-- The search for the elements of `r` meets every occurrence of this one. -/
def FindsAll (cur r : List α) (x : α) : Prop :=
  cur.count x ≤ (setIntersection cur r).count x

theorem mem_removeFrom_iff {x : α} {cur r : List α} :
    x ∈ removeFrom cur r ↔ ¬ FindsAll cur r x := by
  rw [← List.count_pos_iff, removeFrom, List.count_diff, FindsAll]
  omega

theorem removeFrom_eq_nil_iff {cur r : List α} :
    removeFrom cur r = [] ↔ ∀ x ∈ cur, FindsAll cur r x := by
  rw [List.eq_nil_iff_forall_not_mem]
  simp only [mem_removeFrom_iff, not_not]
  refine ⟨fun h x _ => h x, fun h x => ?_⟩
  by_cases hx : x ∈ cur
  · exact h x hx
  · rw [FindsAll, List.count_eq_zero_of_not_mem hx]
    exact Nat.zero_le _

end Entry

/-! ## The indices -/

abbrev ClientIndex (CT DIT : Type*) [LinearOrder CT] := TreeMap CT (List DIT)

abbrev DataItemIndex (CT DIT : Type*) [LinearOrder DIT] := TreeMap DIT (List CT)

section Keyed

variable {κ ν : Type*} [LinearOrder κ]

/-- `getSubscribedList` and `getListOfSubscribedClients`: the list of a key,
empty if it has none. -/
def getList (m : TreeMap κ (List ν)) (k : κ) : List ν := m[k]?.getD []

theorem getList_insert (m : TreeMap κ (List ν)) (k k' : κ) (l : List ν) :
    getList (m.insert k l) k' = if k' = k then l else getList m k' := by
  rw [getList, TreeMap.getElem?_insert]
  simp only [compare_eq_iff_eq, eq_comm (a := k)]
  split <;> rfl

theorem getList_erase (m : TreeMap κ (List ν)) (k k' : κ) :
    getList (m.erase k) k' = if k' = k then [] else getList m k' := by
  rw [getList, TreeMap.getElem?_erase]
  simp only [compare_eq_iff_eq, eq_comm (a := k)]
  split <;> rfl

variable [LinearOrder ν]

/-- The keyed `remove` of either index: an entry left empty goes. -/
def removeKeyed (m : TreeMap κ (List ν)) (k : κ) (r : List ν) :
    TreeMap κ (List ν) :=
  match m[k]? with
  | none => m
  | some cur =>
    if removeFrom cur r = [] then m.erase k
    else m.insert k (removeFrom cur r)

theorem getList_removeKeyed (m : TreeMap κ (List ν)) (k k' : κ) (r : List ν) :
    getList (removeKeyed m k r) k' =
      if k' = k then removeFrom (getList m k) r else getList m k' := by
  rw [removeKeyed]
  split
  · next hnone =>
      have hnil : getList m k = [] := by rw [getList, hnone, Option.getD_none]
      split
      · next heq => rw [heq, hnil, removeFrom, List.nil_diff]
      · rfl
  · next cur hsome =>
      have hcur : getList m k = cur := by
        rw [getList, hsome, Option.getD_some]
      rw [hcur]
      split
      · next hnil => rw [getList_erase, hnil]
      · rw [getList_insert]

end Keyed

section Ops

variable {CT DIT : Type*} [LinearOrder CT] [LinearOrder DIT]

namespace ClientIndex

/-- `isSubscribedClient`. -/
def isSubscribedClient (m : ClientIndex CT DIT) (client : CT) : Bool :=
  m.contains client

/-- `remove` of a client. The answer is always 0. -/
def removeClient (m : ClientIndex CT DIT) (client : CT) :
    ClientIndex CT DIT × Nat :=
  (m.erase client, 0)

/-- `add`. -/
def add (m : ClientIndex CT DIT) (client : CT) (l : List DIT) :
    ClientIndex CT DIT :=
  match m[client]? with
  | some cur => m.insert client (addTo cur l)
  | none => m.insert client l

/-- The items `add` reports as new. -/
def addOut (m : ClientIndex CT DIT) (client : CT) (l : List DIT) : List DIT :=
  match m[client]? with
  | some cur => (setDifference l cur).insertionSort (· ≤ ·)
  | none => l

end ClientIndex

namespace DataItemIndex

/-- `remove` of a list of clients from every entry, and the items whose
entries are left empty. -/
def removeClients (m : DataItemIndex CT DIT) (r : List CT) :
    DataItemIndex CT DIT × List DIT :=
  (m.filterMap fun _ clients =>
      if clients.diff r = [] then none else some (clients.diff r),
    (m.toList.filter fun entry => entry.2.diff r = []).map Prod.fst)

/-- `add` of a client: the index and the items that are new to it. -/
def add (m : DataItemIndex CT DIT) (client : CT) :
    List DIT → DataItemIndex CT DIT × List DIT
  | [] => (m, [])
  | id :: l =>
    match m[id]? with
    | none =>
      let (m, out) := add (m.insert id [client]) client l
      (m, id :: out)
    | some clients =>
      add (if client ∈ clients then m
        else m.insert id (clients ++ [client])) client l

end DataItemIndex

/-! ## What the operations do to the lists -/

/-- No entry is empty: a key without items has none. -/
def Filled {κ ν : Type*} [LinearOrder κ] (m : TreeMap κ (List ν)) : Prop :=
  ∀ k : κ, m[k]? ≠ some []

theorem Filled.getList_eq_nil {κ ν : Type*} [LinearOrder κ]
    {m : TreeMap κ (List ν)} (h : Filled m) {k : κ} :
    getList m k = [] ↔ m[k]? = none := by
  rw [getList]
  cases hk : m[k]? with
  | none => simp
  | some l =>
    have hne : l ≠ [] := fun hnil => h k (by rw [hk, hnil])
    simp [hne]

theorem Filled.insert {κ ν : Type*} [LinearOrder κ] {m : TreeMap κ (List ν)}
    (h : Filled m) (k : κ) {l : List ν} (hl : l ≠ []) :
    Filled (m.insert k l) := by
  intro k'
  rw [TreeMap.getElem?_insert]
  split
  · simpa using hl
  · exact h k'

theorem Filled.erase {κ ν : Type*} [LinearOrder κ] {m : TreeMap κ (List ν)}
    (h : Filled m) (k : κ) : Filled (m.erase k) := by
  intro k'
  rw [TreeMap.getElem?_erase]
  split
  · exact nofun
  · exact h k'

theorem Filled.removeKeyed {κ ν : Type*} [LinearOrder κ] [LinearOrder ν]
    {m : TreeMap κ (List ν)} (h : Filled m) (k : κ) (r : List ν) :
    Filled (removeKeyed m k r) := by
  rw [OsObserver.removeKeyed]
  split
  · exact h
  · split
    · exact h.erase k
    · next hne => exact h.insert k hne

namespace ClientIndex

variable {m : ClientIndex CT DIT}

theorem getList_add (h : Filled m) (client : CT) (l : List DIT) :
    getList (m.add client l) client =
      if getList m client = [] then l else addTo (getList m client) l := by
  rw [add]
  split
  · next cur hsome =>
      have hcur : getList m client = cur := by
        rw [getList, hsome, Option.getD_some]
      have hne : cur ≠ [] := fun hnil => h client (by rw [hsome, hnil])
      rw [getList_insert, if_pos rfl, hcur, if_neg hne]
  · next hnone =>
      rw [getList_insert, if_pos rfl, if_pos (h.getList_eq_nil.mpr hnone)]

theorem mem_getList_add (client client' : CT) (l : List DIT) {id : DIT} :
    id ∈ getList (m.add client l) client' ↔
      id ∈ getList m client' ∨ client' = client ∧ id ∈ l := by
  rw [add]
  split
  · next cur hsome =>
      have hcur : getList m client = cur := by
        rw [getList, hsome, Option.getD_some]
      rw [getList_insert]
      split
      · next heq => rw [heq, hcur, mem_addTo, eq_self, true_and]
      · next hne => simp [hne]
  · next hnone =>
      have hnil : getList m client = [] := by
        rw [getList, hnone, Option.getD_none]
      rw [getList_insert]
      split
      · next heq => simp [heq, hnil]
      · next hne => simp [hne]

theorem filled_add (h : Filled m) (client : CT) {l : List DIT} (hl : l ≠ []) :
    Filled (m.add client l) := by
  rw [add]
  split
  · next cur hsome =>
      have hcur : cur ≠ [] := fun hnil => h client (by rw [hsome, hnil])
      obtain ⟨x, hx⟩ := List.exists_mem_of_ne_nil cur hcur
      have hadd : x ∈ addTo cur l := mem_addTo.mpr (.inl hx)
      exact h.insert client (List.ne_nil_of_mem hadd)
  · exact h.insert client hl

end ClientIndex

namespace DataItemIndex

variable {m : DataItemIndex CT DIT}

/-- The client at the end of the list of an item, if it was not in it. -/
def addOne (m : DataItemIndex CT DIT) (client : CT) (id : DIT) :
    DataItemIndex CT DIT :=
  if client ∈ getList m id then m
  else m.insert id (getList m id ++ [client])

theorem add_cons (m : DataItemIndex CT DIT) (client : CT) (id : DIT)
    (l : List DIT) :
    (m.add client (id :: l)).1 = ((m.addOne client id).add client l).1 ∧
      (m.add client (id :: l)).2 = (if m[id]? = none then [id] else []) ++
        ((m.addOne client id).add client l).2 := by
  rw [add, addOne, getList]
  split
  · next hnone => simp [hnone]
  · next clients hsome => simp [hsome]

theorem getList_addOne (client : CT) (id id' : DIT) {client' : CT} :
    client' ∈ getList (m.addOne client id) id' ↔
      client' ∈ getList m id' ∨ client' = client ∧ id' = id := by
  rw [addOne]
  split
  · next hmem =>
      refine ⟨.inl, fun h => ?_⟩
      obtain h | ⟨rfl, rfl⟩ := h
      · exact h
      · exact hmem
  · rw [getList_insert]
    split
    · next heq => simp [heq]
    · next hne => simp [hne]

theorem mem_getList_add (client : CT) (l : List DIT) {client' : CT}
    {id : DIT} : client' ∈ getList (m.add client l).1 id ↔
      client' ∈ getList m id ∨ client' = client ∧ id ∈ l := by
  induction l generalizing m with
  | nil => simp [add]
  | cons id' l ih =>
    rw [(add_cons m client id' l).1, ih, getList_addOne, List.mem_cons]
    tauto

theorem mem_add_out (hfill : Filled m) (client : CT) (l : List DIT) {id : DIT} :
    id ∈ (m.add client l).2 ↔ id ∈ l ∧ getList m id = [] := by
  induction l generalizing m with
  | nil => simp [add]
  | cons id' l ih =>
    have hone : Filled (m.addOne client id') := by
      rw [addOne]
      split
      · exact hfill
      · exact hfill.insert id' (by simp)
    have hget : getList (m.addOne client id') id = [] ↔
        getList m id = [] ∧ id ≠ id' := by
      rw [List.eq_nil_iff_forall_not_mem, List.eq_nil_iff_forall_not_mem]
      simp only [getList_addOne]
      constructor
      · intro h
        refine ⟨fun c hc => h c (.inl hc), fun heq => ?_⟩
        exact h client (.inr ⟨rfl, heq⟩)
      · intro ⟨h, hne⟩ c hc
        obtain hc | ⟨-, heq⟩ := hc
        · exact h c hc
        · exact hne heq
    rw [(add_cons m client id' l).2, List.mem_append, ih hone, hget,
      List.mem_cons]
    simp only [← hfill.getList_eq_nil]
    by_cases heq : id = id'
    · subst heq
      split
      · next hnil => simp [hnil]
      · next hne => simp [hne]
    · split <;> simp [heq]

theorem filled_add (h : Filled m) (client : CT) (l : List DIT) :
    Filled (m.add client l).1 := by
  induction l generalizing m with
  | nil => exact h
  | cons id l ih =>
    rw [(add_cons m client id l).1]
    refine ih ?_
    rw [addOne]
    split
    · exact h
    · exact h.insert id (by simp)

theorem nodup_add (h : ∀ id, (getList m id).Nodup) (client : CT)
    (l : List DIT) (id : DIT) : (getList (m.add client l).1 id).Nodup := by
  induction l generalizing m with
  | nil => exact h id
  | cons id' l ih =>
    rw [(add_cons m client id' l).1]
    refine ih fun id'' => ?_
    rw [addOne]
    split
    · exact h id''
    · next hnot =>
        rw [getList_insert]
        split
        · exact List.nodup_append.mpr ⟨h id', List.nodup_singleton _,
            fun c hc c' hc' heq => hnot
              (List.mem_singleton.mp hc' ▸ heq ▸ hc)⟩
        · exact h id''

theorem getList_removeClients (m : DataItemIndex CT DIT) (r : List CT)
    (id : DIT) :
    getList (m.removeClients r).1 id = (getList m id).diff r := by
  rw [removeClients, getList, getList, TreeMap.getElem?_filterMap']
  cases m[id]? with
  | none => simp
  | some clients =>
    show (if clients.diff r = [] then none
      else some (clients.diff r)).getD [] = clients.diff r
    split
    · next hnil => exact hnil.symm
    · rfl

theorem filled_removeClients (m : DataItemIndex CT DIT) (r : List CT) :
    Filled (m.removeClients r).1 := by
  intro id
  rw [removeClients, TreeMap.getElem?_filterMap']
  cases m[id]? with
  | none => exact nofun
  | some clients =>
    show (if clients.diff r = [] then none
      else some (clients.diff r)) ≠ some []
    split
    · exact nofun
    · next hne => exact fun heq => hne (Option.some.inj heq)

theorem mem_removeClients_out (h : Filled m) (r : List CT) {id : DIT} :
    id ∈ (m.removeClients r).2 ↔
      getList m id ≠ [] ∧ (getList m id).diff r = [] := by
  simp only [removeClients, List.mem_map, List.mem_filter, Prod.exists,
    exists_and_right, exists_eq_right, decide_eq_true_eq,
    TreeMap.mem_toList_iff_getElem?_eq_some]
  constructor
  · intro ⟨clients, hsome, hnil⟩
    have hcur : getList m id = clients := by
      rw [getList, hsome, Option.getD_some]
    rw [hcur]
    exact ⟨fun heq => h id (by rw [hsome, heq]), hnil⟩
  · intro ⟨hne, hnil⟩
    have hsome := Option.ne_none_iff_exists'.mp fun hnone =>
      hne (h.getList_eq_nil.mpr hnone)
    obtain ⟨clients, hsome⟩ := hsome
    have hcur : getList m id = clients := by
      rw [getList, hsome, Option.getD_some]
    exact ⟨clients, hsome, hcur ▸ hnil⟩

end DataItemIndex

end Ops

end Axon7.OsObserver
