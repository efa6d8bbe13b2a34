import Axon7.OsObserver.Index

/-!
# SystemStatusOsObserver

The requests of the clients, processed one after the other by the message
task, with the subscription object of the framework set: what they do to the
two indices and what they tell the clients and the framework.
-/

namespace Axon7.OsObserver

open Axon7.Lib
open Std (TreeMap)

structure SystemStatusOsObserver (CT DIT : Type*) [LinearOrder CT]
    [LinearOrder DIT] where
  mClientIndex : ClientIndex CT DIT
  mDataItemIndex : DataItemIndex CT DIT

/-- The requests of `IDataItemSubscription`. -/
inductive Request (CT DIT : Type*)
  | subscribe (l : List DIT) (client : CT)
  | updateSubscription (l : List DIT) (client : CT)
  | requestData (l : List DIT) (client : CT)
  | unsubscribe (l : List DIT) (client : CT)
  | unsubscribeAll (client : CT)

/-- What goes out: first responses to clients, the rest to the framework. -/
inductive Call (CT DIT : Type*)
  | firstResponse (l : List DIT) (client : CT)
  | subscribe (l : List DIT)
  | unsubscribe (l : List DIT)
  | requestData (l : List DIT)

variable {CT DIT : Type*} [LinearOrder CT] [LinearOrder DIT]

/-- A call with a list, unless it is empty. -/
def callFor (f : List DIT → Call CT DIT) (l : List DIT) : List (Call CT DIT) :=
  if l = [] then [] else [f l]

namespace SystemStatusOsObserver

def init : SystemStatusOsObserver CT DIT := ⟨{}, {}⟩

/-- `HandleSubscribeReq`. -/
def subscribe (o : SystemStatusOsObserver CT DIT) (l : List DIT)
    (client : CT) : SystemStatusOsObserver CT DIT × List (Call CT DIT) :=
  if l = [] then (o, [])
  else
    let (items, yetToSubscribe) := o.mDataItemIndex.add client l
    ({ mClientIndex := o.mClientIndex.add client l, mDataItemIndex := items },
      callFor (.firstResponse · client) l ++ callFor .subscribe yetToSubscribe)

/-- `HandleUpdateSubscriptionReq`. The data item index follows only if the
client has left the client index. -/
def updateSubscription (o : SystemStatusOsObserver CT DIT) (l : List DIT)
    (client : CT) : SystemStatusOsObserver CT DIT × List (Call CT DIT) :=
  if l = [] then (o, [])
  else
    let currentlySubscribed := getList o.mClientIndex client
    let removeDataItem := setDifference currentlySubscribed l
    let pendingFirstResponse := o.mClientIndex.addOut client l
    let clients := o.mClientIndex.add client l
    let (items, yetToSubscribe) := o.mDataItemIndex.add client l
    let clients : ClientIndex CT DIT :=
      removeKeyed clients client removeDataItem
    let (items, unsubscribeList) :=
      if clients.isSubscribedClient client then (items, [])
      else items.removeClients [client]
    ({ mClientIndex := clients, mDataItemIndex := items },
      callFor (.firstResponse · client) pendingFirstResponse ++
        callFor .subscribe yetToSubscribe ++
        callFor .unsubscribe unsubscribeList)

/-- `HandleRequestData`. -/
def requestData (o : SystemStatusOsObserver CT DIT) (l : List DIT)
    (client : CT) : SystemStatusOsObserver CT DIT × List (Call CT DIT) :=
  if l = [] then (o, [])
  else
    ({ mClientIndex := o.mClientIndex.add client l
       mDataItemIndex := (o.mDataItemIndex.add client l).1 },
      [.requestData l])

/-- The loop of `HandleUnsubscribeReq`: the client out of the list of each
item, and the items that nobody is left for. -/
def unsubscribeItems (client : CT) :
    List DIT → DataItemIndex CT DIT → DataItemIndex CT DIT × List DIT
  | [], items => (items, [])
  | id :: l, items =>
    let items := removeKeyed items id [client]
    let (items', unsubscribeList) := unsubscribeItems client l items
    (items', if getList items id = [] then id :: unsubscribeList
      else unsubscribeList)

/-- `HandleUnsubscribeReq`. -/
def unsubscribe (o : SystemStatusOsObserver CT DIT) (l : List DIT)
    (client : CT) : SystemStatusOsObserver CT DIT × List (Call CT DIT) :=
  if l = [] then (o, [])
  else
    let (items, unsubscribeList) :=
      unsubscribeItems client l o.mDataItemIndex
    ({ mClientIndex := removeKeyed o.mClientIndex client l
       mDataItemIndex := items },
      callFor .unsubscribe unsubscribeList)

/-- `HandleUnsubscribeAllReq`. -/
def unsubscribeAll (o : SystemStatusOsObserver CT DIT) (client : CT) :
    SystemStatusOsObserver CT DIT × List (Call CT DIT) :=
  let (clients, result) := o.mClientIndex.removeClient client
  if 0 = result then ({ o with mClientIndex := clients }, [])
  else
    let (items, unsubscribeList) := o.mDataItemIndex.removeClients [client]
    ({ mClientIndex := clients, mDataItemIndex := items },
      callFor .unsubscribe unsubscribeList)

def proc (o : SystemStatusOsObserver CT DIT) :
    Request CT DIT → SystemStatusOsObserver CT DIT × List (Call CT DIT)
  | .subscribe l client => o.subscribe l client
  | .updateSubscription l client => o.updateSubscription l client
  | .requestData l client => o.requestData l client
  | .unsubscribe l client => o.unsubscribe l client
  | .unsubscribeAll client => o.unsubscribeAll client

/-- The observer after the requests. -/
def run (reqs : List (Request CT DIT)) : SystemStatusOsObserver CT DIT :=
  reqs.foldl (fun o r => (o.proc r).1) init

theorem run_snoc (reqs : List (Request CT DIT)) (r : Request CT DIT) :
    run (reqs ++ [r]) = ((run reqs).proc r).1 := List.foldl_concat ..

/-! ## The indices after each request -/

/-- The client has the item in its entry of the client index. -/
def HasItem (o : SystemStatusOsObserver CT DIT) (client : CT) (id : DIT) :
    Prop := id ∈ getList o.mClientIndex client

/-- The item has the client in its entry of the data item index. -/
def HasClient (o : SystemStatusOsObserver CT DIT) (id : DIT) (client : CT) :
    Prop := client ∈ getList o.mDataItemIndex id

instance (o : SystemStatusOsObserver CT DIT) (id : DIT) (client : CT) :
    Decidable (o.HasClient id client) :=
  inferInstanceAs (Decidable (_ ∈ _))

/-- No entry is empty and no client is listed twice for an item. -/
structure Tidy (o : SystemStatusOsObserver CT DIT) : Prop where
  clients : Filled o.mClientIndex
  items : Filled o.mDataItemIndex
  nodup : ∀ id, (getList o.mDataItemIndex id).Nodup

theorem tidy_init : (init : SystemStatusOsObserver CT DIT).Tidy where
  clients k := by simp [init]
  items k := by simp [init]
  nodup id := by simp [init, getList]

variable {o : SystemStatusOsObserver CT DIT}

/-- The index entries of a client that has added a list. -/
def added (o : SystemStatusOsObserver CT DIT) (l : List DIT) (client : CT) :
    SystemStatusOsObserver CT DIT :=
  { mClientIndex := o.mClientIndex.add client l
    mDataItemIndex := (o.mDataItemIndex.add client l).1 }

theorem subscribe_fst {l : List DIT} (hl : l ≠ []) (client : CT) :
    (o.subscribe l client).1 = o.added l client := by
  rw [subscribe, if_neg hl]
  rfl

theorem requestData_fst {l : List DIT} (hl : l ≠ []) (client : CT) :
    (o.requestData l client).1 = o.added l client := by
  rw [requestData, if_neg hl]
  rfl

theorem hasItem_added (l : List DIT) (client client' : CT) (id : DIT) :
    (o.added l client).HasItem client' id ↔
      o.HasItem client' id ∨ client' = client ∧ id ∈ l :=
  ClientIndex.mem_getList_add client client' l

theorem hasClient_added (l : List DIT) (client client' : CT) (id : DIT) :
    (o.added l client).HasClient id client' ↔
      o.HasClient id client' ∨ client' = client ∧ id ∈ l :=
  DataItemIndex.mem_getList_add client l

theorem Tidy.added (h : o.Tidy) {l : List DIT} (hl : l ≠ []) (client : CT) :
    (o.added l client).Tidy where
  clients := ClientIndex.filled_add h.clients client hl
  items := DataItemIndex.filled_add h.items client l
  nodup := DataItemIndex.nodup_add h.nodup client l

/-- What an update of its subscription leaves of the entry of a client. -/
def kept (o : SystemStatusOsObserver CT DIT) (l : List DIT) (client : CT) :
    List DIT :=
  removeFrom (getList (o.mClientIndex.add client l) client)
    (setDifference (getList o.mClientIndex client) l)

theorem getList_clients_update {l : List DIT} (hl : l ≠ [])
    (client client' : CT) :
    getList (o.updateSubscription l client).1.mClientIndex client' =
      if client' = client then o.kept l client
      else getList o.mClientIndex client' := by
  rw [updateSubscription, if_neg hl]
  dsimp only
  rw [getList_removeKeyed]
  split
  · rfl
  · next hne =>
      -- an add leaves the other clients alone
      rw [ClientIndex.add]
      split <;> rw [getList_insert, if_neg hne]

/-- An update leaves the client nothing: the search for what it does not ask
for meets all that the client had and all that it asks for. -/
def Empties (o : SystemStatusOsObserver CT DIT) (l : List DIT) (client : CT) :
    Prop :=
  let cur := getList o.mClientIndex client
  ∀ id ∈ addTo cur l, FindsAll (addTo cur l) (setDifference cur l) id

theorem mem_kept_iff (h : o.Tidy) (l : List DIT) (client : CT) {id : DIT} :
    id ∈ o.kept l client ↔ ¬ FindsAll (addTo (getList o.mClientIndex client) l)
      (setDifference (getList o.mClientIndex client) l) id := by
  have hkept : o.kept l client =
      removeFrom (getList (o.mClientIndex.add client l) client)
        (setDifference (getList o.mClientIndex client) l) := rfl
  rw [hkept, ClientIndex.getList_add h.clients, ← mem_removeFrom_iff]
  split
  · next hcur =>
      -- a new client has nothing to lose
      have hdrop : setDifference (getList o.mClientIndex client) l = [] := by
        rw [hcur]
        rfl
      rw [hdrop, removeFrom_nil_right, removeFrom_nil_right, mem_addTo, hcur]
      simp
  · rfl

theorem kept_eq_nil_iff (h : o.Tidy) (l : List DIT) (client : CT) :
    o.kept l client = [] ↔ o.Empties l client := by
  rw [List.eq_nil_iff_forall_not_mem, Empties, ← removeFrom_eq_nil_iff,
    List.eq_nil_iff_forall_not_mem]
  simp only [mem_kept_iff h, mem_removeFrom_iff]

theorem isSubscribedClient_update {l : List DIT} (hl : l ≠ []) (h : o.Tidy)
    (client : CT) :
    ClientIndex.isSubscribedClient (removeKeyed (o.mClientIndex.add client l)
      client (setDifference (getList o.mClientIndex client) l)) client =
        true ↔ o.kept l client ≠ [] := by
  have hfill : Filled (removeKeyed (o.mClientIndex.add client l) client
      (setDifference (getList o.mClientIndex client) l)) :=
    (ClientIndex.filled_add h.clients client hl).removeKeyed client _
  have hkept : getList (removeKeyed (o.mClientIndex.add client l) client
      (setDifference (getList o.mClientIndex client) l)) client =
      o.kept l client := by
    rw [getList_removeKeyed, if_pos rfl]
    rfl
  rw [ClientIndex.isSubscribedClient, ← hkept, Ne, hfill.getList_eq_nil,
    TreeMap.contains_eq_isSome_getElem?, Option.isSome_iff_ne_none]

theorem update_items {l : List DIT} (hl : l ≠ []) (h : o.Tidy)
    (client : CT) :
    (o.updateSubscription l client).1.mDataItemIndex =
      if o.kept l client = [] then
        ((o.mDataItemIndex.add client l).1.removeClients [client]).1
      else (o.mDataItemIndex.add client l).1 := by
  have hsub := isSubscribedClient_update hl h client
  rw [updateSubscription, if_neg hl]
  dsimp only
  split
  · next hin => rw [if_neg (hsub.mp hin)]
  · next hnot =>
      rw [if_pos (by_contra fun hne => hnot (hsub.mpr hne))]

theorem update_calls {l : List DIT} (hl : l ≠ []) (h : o.Tidy)
    (client : CT) :
    (o.updateSubscription l client).2 =
      callFor (.firstResponse · client) (o.mClientIndex.addOut client l) ++
        callFor .subscribe (o.mDataItemIndex.add client l).2 ++
        callFor .unsubscribe (if o.kept l client = [] then
          ((o.mDataItemIndex.add client l).1.removeClients [client]).2
          else []) := by
  have hsub := isSubscribedClient_update hl h client
  rw [updateSubscription, if_neg hl]
  dsimp only
  split
  · next hin => rw [if_neg (hsub.mp hin)]
  · next hnot =>
      rw [if_pos (by_contra fun hne => hnot (hsub.mpr hne))]

theorem Tidy.update (h : o.Tidy) (l : List DIT) (client : CT) :
    (o.updateSubscription l client).1.Tidy := by
  by_cases hl : l = []
  · rw [updateSubscription, if_pos hl]
    exact h
  · have hadd := h.added hl client
    refine ⟨?_, ?_, fun id => ?_⟩
    · rw [updateSubscription, if_neg hl]
      exact (ClientIndex.filled_add h.clients client hl).removeKeyed client _
    · rw [update_items hl h]
      split
      · exact DataItemIndex.filled_removeClients _ _
      · exact hadd.items
    · rw [update_items hl h]
      split
      · rw [DataItemIndex.getList_removeClients]
        exact (hadd.nodup id).diff
      · exact hadd.nodup id

theorem removeFrom_singleton {clients : List CT} (hnd : clients.Nodup)
    (client : CT) :
    removeFrom clients [client] = clients ∨
      removeFrom clients [client] = clients.erase client ∧
        client ∉ removeFrom clients [client] := by
  have hsub := setIntersection_sublist clients [client]
  have hmem : ∀ c ∈ setIntersection clients [client], c = client :=
    fun c hc => List.mem_singleton.mp (mem_right_of_mem_setIntersection hc)
  cases hset : setIntersection clients [client] with
  | nil =>
    rw [removeFrom, hset]
    exact .inl rfl
  | cons c rest =>
    rw [hset] at hsub hmem
    obtain rfl := hmem c List.mem_cons_self
    obtain rfl : rest = [] := by
      rw [List.eq_nil_iff_forall_not_mem]
      intro c' hc'
      have heq := hmem c' (List.mem_cons_of_mem _ hc')
      have hnd' := hnd.sublist hsub
      exact (List.nodup_cons.mp hnd').1 (heq ▸ hc')
    rw [removeFrom, hset, List.diff_cons, List.diff_nil]
    exact .inr ⟨rfl, hnd.not_mem_erase⟩

theorem removeFrom_removeFrom {clients : List CT} (hnd : clients.Nodup)
    (client : CT) :
    removeFrom (removeFrom clients [client]) [client] =
      removeFrom clients [client] := by
  obtain heq | ⟨-, hnot⟩ := removeFrom_singleton hnd client
  · rw [heq, heq]
  · have hempty : setIntersection (removeFrom clients [client]) [client] =
        [] := by
      rw [List.eq_nil_iff_forall_not_mem]
      intro c hc
      have heq := List.mem_singleton.mp (mem_right_of_mem_setIntersection hc)
      subst heq
      exact hnot ((setIntersection_sublist _ _).subset hc)
    rw [removeFrom, hempty, List.diff_nil]

theorem unsubscribeItems_spec (client : CT) (l : List DIT)
    {items : DataItemIndex CT DIT}
    (hnd : ∀ id, (getList items id).Nodup) (id : DIT) :
    getList (unsubscribeItems client l items).1 id =
        (if id ∈ l then removeFrom (getList items id) [client]
          else getList items id) ∧
      (id ∈ (unsubscribeItems client l items).2 ↔
        id ∈ l ∧ removeFrom (getList items id) [client] = []) := by
  induction l generalizing items with
  | nil => simp [unsubscribeItems]
  | cons id' l ih =>
    have hone : ∀ id, getList (removeKeyed items id' [client]) id =
        if id = id' then removeFrom (getList items id') [client]
        else getList items id := fun id => getList_removeKeyed ..
    have hnd' : ∀ id, (getList (removeKeyed items id' [client]) id).Nodup := by
      intro id
      rw [hone]
      split
      · exact (hnd id').sublist (removeFrom_sublist _ _)
      · exact hnd id
    obtain ⟨hget, hout⟩ := ih hnd'
    rw [unsubscribeItems]
    dsimp only
    rw [hget, hone, hone, if_pos rfl]
    constructor
    · by_cases heq : id = id'
      · subst heq
        simp [removeFrom_removeFrom (hnd id)]
      · simp [heq]
    · by_cases heq : id = id'
      · subst heq
        split
        · next hnil => simp [hnil]
        · next hne =>
            rw [hout, hone, if_pos rfl, removeFrom_removeFrom (hnd id)]
            simp [hne]
      · split
        · rw [List.mem_cons, hout, hone, if_neg heq]
          simp [heq]
        · rw [hout, hone, if_neg heq]
          simp [heq]

theorem filled_unsubscribeItems (client : CT) (l : List DIT)
    {items : DataItemIndex CT DIT} (h : Filled items) :
    Filled (unsubscribeItems client l items).1 := by
  induction l generalizing items with
  | nil => exact h
  | cons id l ih => exact ih (h.removeKeyed id [client])

theorem Tidy.unsubscribe (h : o.Tidy) (l : List DIT) (client : CT) :
    (o.unsubscribe l client).1.Tidy := by
  rw [SystemStatusOsObserver.unsubscribe]
  split
  · exact h
  · refine ⟨h.clients.removeKeyed client l,
      filled_unsubscribeItems client l h.items, fun id => ?_⟩
    dsimp only
    rw [(unsubscribeItems_spec client l h.nodup id).1]
    split
    · exact (h.nodup id).sublist (removeFrom_sublist _ _)
    · exact h.nodup id

theorem Tidy.unsubscribeAll (h : o.Tidy) (client : CT) :
    (o.unsubscribeAll client).1.Tidy :=
  ⟨h.clients.erase client, h.items, h.nodup⟩

theorem Tidy.proc (h : o.Tidy) (r : Request CT DIT) : (o.proc r).1.Tidy := by
  cases r with
  | subscribe l client =>
    by_cases hl : l = []
    · rw [SystemStatusOsObserver.proc, subscribe, if_pos hl]
      exact h
    · rw [SystemStatusOsObserver.proc, subscribe_fst hl]
      exact h.added hl client
  | updateSubscription l client => exact h.update l client
  | requestData l client =>
    by_cases hl : l = []
    · rw [SystemStatusOsObserver.proc, requestData, if_pos hl]
      exact h
    · rw [SystemStatusOsObserver.proc, requestData_fst hl]
      exact h.added hl client
  | unsubscribe l client => exact h.unsubscribe l client
  | unsubscribeAll client => exact h.unsubscribeAll client

theorem run_tidy (reqs : List (Request CT DIT)) : (run reqs).Tidy := by
  induction reqs using List.reverseRecOn with
  | nil => exact tidy_init
  | append_singleton reqs r ih =>
    rw [run_snoc]
    exact ih.proc r

end SystemStatusOsObserver

end Axon7.OsObserver
