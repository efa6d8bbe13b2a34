import Axon7.OsObserver.SetOps
import Axon7.Status.History

/-!
# Notifications

The framework hands the observer a batch of data items. Each is copied into a new item of
its kind, recorded by the system status and, if that has changed, put into the observer's
own cache; the clients of the items that change there are told, each once, it is meant,
and of its own items. The loop gives the whole batch up at the first item it cannot create,
and the list of clients only loses repetitions that stand together.
-/

namespace Axon7.OsObserver

open Axon7.Lib
open Std (TreeMap)

variable {CT DIT V : Type*} [LinearOrder CT] [LinearOrder DIT]

/-- What the observer has from outside: the items the factory can create, when one of them
takes over the value of another and says so, and what the system status records: the items it
keeps a list of, and when their values are equal. -/
structure Items (DIT V : Type*) where
  canCreate : DIT → Bool
  copies : DIT → V → V → Bool
  recorded : DIT → Bool
  equals : DIT → V → V → Bool

/-- The observer with the cache of data items, and the report lists of the system status. -/
structure NotifyState (CT DIT V : Type*) [LinearOrder CT] [LinearOrder DIT] where
  indices : SystemStatusOsObserver CT DIT
  mDataItemCache : DIT → Option V
  mCache : DIT → List (Status.Item V)

section Code

variable (f : Items DIT V) (now : Status.Timespec)

/-- `SystemStatus::eventDataItemNotify`. -/
def eventDataItemNotify (reports : DIT → List (Status.Item V)) (di : DIT × V) :
    (DIT → List (Status.Item V)) × Bool :=
  if f.recorded di.1 then
    let r := Status.setIteminReport (f.equals di.1) Status.maxItem (reports di.1)
      ⟨now, now, di.2⟩
    (Function.update reports di.1 r.1, r.2)
  else (reports, false)

/-- The loop of `notify`: the items recorded as changed, or nothing if one of them cannot be
created. -/
def recordItems (reports : DIT → List (Status.Item V)) :
    List (DIT × V) → (DIT → List (Status.Item V)) × Option (List (DIT × V))
  | [] => (reports, some [])
  | each :: dlist =>
    if f.canCreate each.1 then
      let (reports, updated) := eventDataItemNotify f now reports each
      let (reports, rest) := recordItems reports dlist
      (reports, if updated then rest.map (each :: ·) else rest)
    else (reports, none)

/-- `updateCache`: a value that is not there is taken, one that is there is copied into. -/
def updateCache (cache : DIT → Option V) (d : DIT × V) : (DIT → Option V) × Bool :=
  match cache d.1 with
  | none =>
    if f.canCreate d.1 then (Function.update cache d.1 (some d.2), true) else (cache, false)
  | some v =>
    if f.copies d.1 v d.2 then (Function.update cache d.1 (some d.2), true)
    else (cache, false)

/-- The first loop of `HandleNotify`: the cache, and the items to be sent. -/
def updateItems (cache : DIT → Option V) : List (DIT × V) → (DIT → Option V) × List DIT
  | [] => (cache, [])
  | item :: mDList =>
    let (cache, updated) := updateCache f cache item
    let (cache, rest) := updateItems cache mDList
    (cache, if updated then item.1 :: rest else rest)

/-- The items a client is sent. -/
def toBeSent (o : SystemStatusOsObserver CT DIT) (ids : List DIT) (client : CT) : List DIT :=
  setIntersection (ids.insertionSort (· ≤ ·))
    ((getList o.mClientIndex client).insertionSort (· ≤ ·))

/-- The clients of the items, one item after the other. -/
def clientsOf (o : SystemStatusOsObserver CT DIT) (ids : List DIT) : List CT :=
  ids.flatMap (getList o.mDataItemIndex)

/-- `HandleNotify`: what it tells the clients, item by item from the cache. -/
def handleNotify (s : NotifyState CT DIT V) (mDList : List (DIT × V)) :
    NotifyState CT DIT V × List (CT × List (DIT × Option V)) :=
  let (cache, ids) := updateItems f s.mDataItemCache mDList
  ({ s with mDataItemCache := cache },
    (unique (clientsOf s.indices ids)).map fun client =>
      (client, (toBeSent s.indices ids client).map fun id => (id, cache id)))

/-- `notify`, with the message it sends handled. -/
def notify (s : NotifyState CT DIT V) (dlist : List (DIT × V)) :
    NotifyState CT DIT V × List (CT × List (DIT × Option V)) :=
  match recordItems f now s.mCache dlist with
  | (reports, some mDList) => handleNotify f { s with mCache := reports } mDList
  | (reports, none) => ({ s with mCache := reports }, [])

/-! ## What should be told -/

/-- The items whose cached value the batch changes, if those that cannot be created are passed
over: an item that changes twice is there twice. -/
def changes (s : NotifyState CT DIT V) (dlist : List (DIT × V)) : (DIT → Option V) × List DIT :=
  updateItems f s.mDataItemCache
    (((recordItems f now s.mCache (dlist.filter (f.canCreate ·.1))).2).getD [])

/-- The client is subscribed to an item that changes. -/
def Due (s : NotifyState CT DIT V) (dlist : List (DIT × V)) (client : CT) : Prop :=
  ∃ id ∈ (changes f now s dlist).2, s.indices.HasItem client id

/-- Each client that is due is told once, of exactly the changed items it is subscribed to
and with their new values, and no other client is told. -/
def NotifiesExactly (s : NotifyState CT DIT V) (dlist : List (DIT × V)) : Prop :=
  ∀ client,
    (Due f now s dlist client → ∃ items,
      (notify f now s dlist).2.filter (·.1 = client) = [(client, items)] ∧
        (items.map Prod.fst).Nodup ∧
        (∀ id, id ∈ items.map Prod.fst ↔
          id ∈ (changes f now s dlist).2 ∧ s.indices.HasItem client id) ∧
        ∀ item ∈ items, item.2 = (changes f now s dlist).1 item.1) ∧
    (¬ Due f now s dlist client → (notify f now s dlist).2.filter (·.1 = client) = [])

/-- When it works: nobody is due, or all items can be created, the clients of the changed
items, put one after the other, have equal ones together, and no item both changes twice and
is listed twice by a client. -/
def TellsRight (s : NotifyState CT DIT V) (dlist : List (DIT × V)) : Prop :=
  (∀ client, ¬ Due f now s dlist client) ∨
    (∀ di ∈ dlist, f.canCreate di.1) ∧
      Together (clientsOf s.indices (changes f now s dlist).2) ∧
      ∀ client id, (changes f now s dlist).2.count id ≤ 1 ∨
        (getList s.indices.mClientIndex client).count id ≤ 1

variable {f : Items DIT V} {now : Status.Timespec}

/-! ## What is told -/

theorem recordItems_of_canCreate {dlist : List (DIT × V)}
    (h : ∀ di ∈ dlist, f.canCreate di.1) (now : Status.Timespec)
    (reports : DIT → List (Status.Item V)) :
    ∃ mDList, (recordItems f now reports dlist).2 = some mDList := by
  induction dlist generalizing reports with
  | nil => exact ⟨[], rfl⟩
  | cons each dlist ih =>
    obtain ⟨heach, hrest⟩ := List.forall_mem_cons.1 h
    obtain ⟨mDList, hm⟩ := ih hrest (eventDataItemNotify f now reports each).1
    rw [recordItems, if_pos heach]
    dsimp only
    rw [hm]
    split
    · exact ⟨_, rfl⟩
    · exact ⟨_, rfl⟩

theorem recordItems_of_not_canCreate {dlist : List (DIT × V)}
    (h : ¬ ∀ di ∈ dlist, f.canCreate di.1) (reports : DIT → List (Status.Item V)) :
    (recordItems f now reports dlist).2 = none := by
  induction dlist generalizing reports with
  | nil => exact absurd (fun _ hdi => absurd hdi List.not_mem_nil) h
  | cons each dlist ih =>
    rw [recordItems]
    by_cases heach : f.canCreate each.1
    · have hrest : ¬ ∀ di ∈ dlist, f.canCreate di.1 := fun hall =>
        h (List.forall_mem_cons.2 ⟨heach, hall⟩)
      rw [if_pos heach]
      dsimp only
      rw [ih hrest]
      exact ite_self _
    · rw [if_neg heach]

variable {s : NotifyState CT DIT V} {dlist : List (DIT × V)}

theorem notify_of_canCreate (h : ∀ di ∈ dlist, f.canCreate di.1) :
    (notify f now s dlist).2 =
      (unique (clientsOf s.indices (changes f now s dlist).2)).map fun client =>
        (client, (toBeSent s.indices (changes f now s dlist).2 client).map fun id =>
          (id, (changes f now s dlist).1 id)) := by
  obtain ⟨mDList, hm⟩ := recordItems_of_canCreate h now s.mCache
  have hall : dlist.filter (f.canCreate ·.1) = dlist :=
    List.filter_eq_self.2 fun di hdi => h di hdi
  rw [changes, hall, hm, notify, ← Prod.eta (recordItems f now s.mCache dlist), hm]
  rfl

theorem notify_of_not_canCreate (h : ¬ ∀ di ∈ dlist, f.canCreate di.1) :
    (notify f now s dlist).2 = [] := by
  rw [notify, ← Prod.eta (recordItems f now s.mCache dlist), recordItems_of_not_canCreate h]

theorem filter_notify (h : ∀ di ∈ dlist, f.canCreate di.1) (client : CT) :
    (notify f now s dlist).2.filter (·.1 = client) =
      List.replicate ((unique (clientsOf s.indices (changes f now s dlist).2)).count client)
        (client, (toBeSent s.indices (changes f now s dlist).2 client).map fun id =>
          (id, (changes f now s dlist).1 id)) := by
  rw [notify_of_canCreate h, List.filter_map]
  have hcomp : ((fun call : CT × List (DIT × Option V) => decide (call.1 = client)) ∘
      fun c => (c, (toBeSent s.indices (changes f now s dlist).2 c).map fun id =>
        (id, (changes f now s dlist).1 id))) = fun c => decide (c = client) := rfl
  rw [hcomp, List.filter_eq, List.map_replicate]

omit [LinearOrder DIT] in
theorem map_fst_pairs {ids : List DIT} {cache : DIT → Option V} :
    (ids.map fun id => (id, cache id)).map Prod.fst = ids := by
  rw [List.map_map]
  exact List.map_id _

theorem count_toBeSent (o : SystemStatusOsObserver CT DIT) (ids : List DIT) (client : CT)
    (id : DIT) :
    (toBeSent o ids client).count id =
      min (ids.count id) ((getList o.mClientIndex client).count id) := by
  rw [toBeSent, count_setIntersection (List.pairwise_insertionSort _ _)
    (List.pairwise_insertionSort _ _), (List.perm_insertionSort _ _).count_eq,
    (List.perm_insertionSort _ _).count_eq]

theorem mem_toBeSent {o : SystemStatusOsObserver CT DIT} {ids : List DIT} {client : CT}
    {id : DIT} : id ∈ toBeSent o ids client ↔ id ∈ ids ∧ o.HasItem client id := by
  rw [← List.count_pos_iff, count_toBeSent, Nat.lt_min, List.count_pos_iff, List.count_pos_iff]
  rfl

theorem mem_clientsOf {o : SystemStatusOsObserver CT DIT}
    (hinv : ∀ client id, o.HasItem client id ↔ o.HasClient id client) {ids : List DIT}
    {client : CT} : client ∈ clientsOf o ids ↔ ∃ id ∈ ids, o.HasItem client id := by
  simp only [clientsOf, List.mem_flatMap, hinv]
  rfl

theorem due_iff (hinv : ∀ client id, s.indices.HasItem client id ↔ s.indices.HasClient id client)
    (client : CT) : Due f now s dlist client ↔
      client ∈ unique (clientsOf s.indices (changes f now s dlist).2) := by
  rw [mem_unique, mem_clientsOf hinv]
  rfl

theorem together_of_notifiesExactly
    (hinv : ∀ client id, s.indices.HasItem client id ↔ s.indices.HasClient id client)
    (hall : ∀ di ∈ dlist, f.canCreate di.1) (h : NotifiesExactly f now s dlist) :
    Together (clientsOf s.indices (changes f now s dlist).2) := by
  rw [← nodup_unique_iff, List.nodup_iff_count_le_one]
  intro client
  by_cases hmem : client ∈ unique (clientsOf s.indices (changes f now s dlist).2)
  · obtain ⟨items, hone, -⟩ := (h client).1 ((due_iff hinv client).2 hmem)
    rw [filter_notify hall] at hone
    have hlen := congrArg List.length hone
    rw [List.length_replicate] at hlen
    exact hlen.le
  · rw [List.count_eq_zero_of_not_mem hmem]
    exact Nat.zero_le _

theorem once_of_notifiesExactly (hall : ∀ di ∈ dlist, f.canCreate di.1)
    (h : NotifiesExactly f now s dlist) (client : CT) (id : DIT) :
    (changes f now s dlist).2.count id ≤ 1 ∨
      (getList s.indices.mClientIndex client).count id ≤ 1 := by
  by_contra htwice
  push Not at htwice
  have hid : id ∈ (changes f now s dlist).2 := List.count_pos_iff.1 (by omega)
  have hitem : s.indices.HasItem client id := List.count_pos_iff.1 (by omega)
  obtain ⟨items, hone, hnd, -⟩ := (h client).1 ⟨id, hid, hitem⟩
  rw [filter_notify hall] at hone
  have hitems := List.eq_of_mem_replicate (hone ▸ List.mem_singleton_self (client, items))
  obtain rfl := (Prod.ext_iff.1 hitems).2
  rw [map_fst_pairs, List.nodup_iff_count_le_one] at hnd
  have hle := hnd id
  rw [count_toBeSent] at hle
  omega

theorem filter_notify_of_not_due
    (hinv : ∀ client id, s.indices.HasItem client id ↔ s.indices.HasClient id client)
    {client : CT} (hclient : ¬ Due f now s dlist client) :
    (notify f now s dlist).2.filter (·.1 = client) = [] := by
  by_cases hall : ∀ di ∈ dlist, f.canCreate di.1
  · rw [due_iff hinv] at hclient
    rw [filter_notify hall, List.count_eq_zero_of_not_mem hclient, List.replicate_zero]
  · rw [notify_of_not_canCreate hall]
    rfl

/-- With inverse indices the clients are told exactly what they should be in the cases listed,
and only in those. -/
theorem notifiesExactly_iff (f : Items DIT V) (now : Status.Timespec)
    (s : NotifyState CT DIT V)
    (hinv : ∀ client id, s.indices.HasItem client id ↔ s.indices.HasClient id client)
    (dlist : List (DIT × V)) :
    NotifiesExactly f now s dlist ↔ TellsRight f now s dlist := by
  constructor
  · intro h
    by_cases hnone : ∀ client, ¬ Due f now s dlist client
    · exact .inl hnone
    obtain ⟨client, hclient⟩ := not_forall_not.1 hnone
    have hall : ∀ di ∈ dlist, f.canCreate di.1 := by
      by_contra hnot
      obtain ⟨items, hone, -⟩ := (h client).1 hclient
      rw [notify_of_not_canCreate hnot] at hone
      cases hone
    exact .inr ⟨hall, together_of_notifiesExactly hinv hall h, once_of_notifiesExactly hall h⟩
  · intro hcases client
    refine ⟨fun hclient => ?_, filter_notify_of_not_due hinv⟩
    rcases hcases with hnone | ⟨hall, htogether, htwice⟩
    · exact absurd hclient (hnone client)
    · rw [filter_notify hall, List.count_eq_one_of_mem (nodup_unique_iff.2 htogether)
        ((due_iff hinv client).1 hclient)]
      refine ⟨_, rfl, ?_, fun id => ?_, fun item hitem => ?_⟩
      · rw [map_fst_pairs, List.nodup_iff_count_le_one]
        intro id
        rw [count_toBeSent]
        have := htwice client id
        omega
      · rw [map_fst_pairs, mem_toBeSent]
      · obtain ⟨id, -, rfl⟩ := List.mem_map.1 hitem
        rfl

end Code

/-- A factory that knows the item 1 alone. -/
def oneItem : Items Nat Nat where
  canCreate id := id == 1
  copies _ a b := a != b
  recorded _ := true
  equals _ a b := a == b

/-- The client 0 is subscribed to the item 1, and nothing has come yet. -/
def oneClient : NotifyState Nat Nat Nat where
  indices :=
    { mClientIndex := (∅ : TreeMap Nat (List Nat)).insert 0 [1]
      mDataItemIndex := (∅ : TreeMap Nat (List Nat)).insert 1 [0] }
  mDataItemCache _ := none
  mCache _ := []

theorem oneClient_inverse (client id : Nat) :
    oneClient.indices.HasItem client id ↔ oneClient.indices.HasClient id client := by
  have hempty : ∀ k, getList (∅ : TreeMap Nat (List Nat)) k = [] := fun k => by simp [getList]
  rw [SystemStatusOsObserver.HasItem, SystemStatusOsObserver.HasClient]
  simp only [oneClient, getList_insert, hempty]
  by_cases hclient : client = 0 <;> by_cases hid : id = 1 <;> simp [hclient, hid]

theorem notifiesExactly_iff_of_oneClient :
    NotifiesExactly oneItem ⟨1, 0⟩ oneClient [(1, 7)] ↔
      TellsRight oneItem ⟨1, 0⟩ oneClient [(1, 7)] :=
  notifiesExactly_iff oneItem ⟨1, 0⟩ oneClient oneClient_inverse [(1, 7)]

/-- An item nobody can create keeps the item before it from the client that waits for it. -/
theorem notify_drops_batch :
    ¬ ∀ (f : Items Nat Nat) (now : Status.Timespec) (s : NotifyState Nat Nat Nat)
      (dlist : List (Nat × Nat)),
      (∀ client id, s.indices.HasItem client id ↔ s.indices.HasClient id client) →
      NotifiesExactly f now s dlist := by
  intro h
  have hdue : Due oneItem ⟨1, 0⟩ oneClient [(1, 7), (9, 7)] 0 := by
    refine ⟨1, by decide, ?_⟩
    rw [SystemStatusOsObserver.HasItem, oneClient, getList_insert]
    simp
  obtain ⟨items, hone, -⟩ :=
    (h oneItem ⟨1, 0⟩ oneClient [(1, 7), (9, 7)] oneClient_inverse 0).1 hdue
  rw [notify_of_not_canCreate (by decide)] at hone
  cases hone

end Axon7.OsObserver
