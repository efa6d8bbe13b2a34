import Axon7.Lib.Run
import Axon7.OsObserver.Observer

/-!
# The two indices as inverses

Of the five requests two keep the indices inverse to each other whatever they
ask for. The others touch one index more than the other: an update takes items
out of the client index alone, the two removes of an unsubscribe search
unsorted lists and may not both find what they look for, and the early return
of `unsubscribeAll` leaves the data item index as it was. The condition on a
request says just when this does no harm.
-/

namespace Axon7.OsObserver

open Axon7.Lib
open Std (TreeMap)

variable {CT DIT : Type*} [LinearOrder CT] [LinearOrder DIT]

namespace SystemStatusOsObserver

/-- An item is in the entry of a client iff the client is in that of the
item. -/
def Inverse (o : SystemStatusOsObserver CT DIT) : Prop :=
  ∀ client id, o.HasItem client id ↔ o.HasClient id client

/-- The client occurs in neither index. -/
def Absent (o : SystemStatusOsObserver CT DIT) (client : CT) : Prop :=
  o.mClientIndex[client]? = none ∧ ∀ id, ¬ o.HasClient id client

/-- The request does the same to both indices: the searches of an update meet none or all
of the items, those of an unsubscribe both ends of a pair or neither, and the client of an
`unsubscribeAll` has nothing. -/
def Even (o : SystemStatusOsObserver CT DIT) : Request CT DIT → Prop
  | .subscribe _ _ => True
  | .requestData _ _ => True
  | .updateSubscription l client =>
    let cur := getList o.mClientIndex client
    let drop := setDifference cur l
    l = [] ∨ o.Empties l client ∨
      ∀ id ∈ addTo cur l, ¬ FindsAll (addTo cur l) drop id
  | .unsubscribe l client =>
    ∀ id ∈ l, FindsAll (getList o.mClientIndex client) l id ↔
      FindsAll (getList o.mDataItemIndex id) [client] client
  | .unsubscribeAll client => getList o.mClientIndex client = []

variable {o : SystemStatusOsObserver CT DIT}

theorem inverse_added (h : o.Inverse) (l : List DIT) (client : CT) :
    (o.added l client).Inverse := by
  intro client' id
  rw [hasItem_added, hasClient_added, h]

theorem even_update_iff (ht : o.Tidy) {l : List DIT} (hl : l ≠ [])
    (client : CT) : o.Even (.updateSubscription l client) ↔
      o.kept l client = [] ∨
        ∀ id, o.HasItem client id ∨ id ∈ l → id ∈ o.kept l client := by
  rw [kept_eq_nil_iff ht]
  simp only [Even, hl, false_or, mem_addTo, mem_kept_iff ht]
  rfl

theorem inverse_update_iff (ht : o.Tidy) (h : o.Inverse) (l : List DIT)
    (client : CT) : (o.updateSubscription l client).1.Inverse ↔
      o.Even (.updateSubscription l client) := by
  by_cases hl : l = []
  · rw [updateSubscription, if_pos hl]
    exact iff_of_true h (.inl hl)
  · have hadd := inverse_added h l client
    have hnd : ∀ id, (getList (o.mDataItemIndex.add client l).1 id).Nodup :=
      (ht.added hl client).nodup
    have hitem : ∀ client' id,
        (o.updateSubscription l client).1.HasItem client' id ↔
          if client' = client then id ∈ o.kept l client
          else o.HasItem client' id := by
      intro client' id
      rw [HasItem, getList_clients_update hl]
      split <;> rfl
    have hclient : ∀ client' id,
        (o.updateSubscription l client).1.HasClient id client' ↔
          (o.HasClient id client' ∨ client' = client ∧ id ∈ l) ∧
            (o.kept l client = [] → client' ≠ client) := by
      intro client' id
      rw [← hasClient_added, HasClient, update_items hl ht]
      split
      · next hnil =>
          rw [DataItemIndex.getList_removeClients, List.diff_cons,
            List.diff_nil, (hnd id).mem_erase_iff, and_comm]
          simp only [hnil, true_imp_iff]
          rfl
      · next hne =>
          simp only [hne, false_imp_iff, and_true]
          rfl
    rw [even_update_iff ht hl, Inverse]
    simp only [hitem, hclient]
    by_cases hnil : o.kept l client = []
    · refine iff_of_true (fun client' id => ?_) (.inl hnil)
      rw [hnil]
      split
      · next heq => simp [heq]
      · next hne => simp [hne, h client' id]
    · simp only [hnil, false_or, false_imp_iff, and_true]
      -- nothing is kept that the client did not have or add
      have hsub : ∀ id, id ∈ o.kept l client →
          o.HasItem client id ∨ id ∈ l := by
        intro id hid
        have hmem := (removeFrom_sublist _ _).subset hid
        obtain hid | ⟨-, hid⟩ :=
          (ClientIndex.mem_getList_add client client l).mp hmem
        · exact .inl hid
        · exact .inr hid
      constructor
      · intro hinv id hid
        have hself := hinv client id
        rw [if_pos rfl] at hself
        refine hself.mpr (hid.imp (h client id).mp fun hid => ⟨rfl, hid⟩)
      · intro hkept client' id
        split
        · next heq =>
            subst heq
            rw [← h]
            simp only [true_and]
            exact ⟨hsub id, hkept id⟩
        · next hne => simp [hne, h client' id]

theorem inverse_unsubscribe_iff (ht : o.Tidy) (h : o.Inverse) (l : List DIT)
    (client : CT) : (o.unsubscribe l client).1.Inverse ↔
      o.Even (.unsubscribe l client) := by
  by_cases hl : l = []
  · rw [unsubscribe, if_pos hl]
    refine iff_of_true h ?_
    rw [hl]
    exact List.forall_mem_nil _
  · have hitem : ∀ client' id,
        (o.unsubscribe l client).1.HasItem client' id ↔
          if client' = client then
            id ∈ removeFrom (getList o.mClientIndex client) l
          else o.HasItem client' id := by
      intro client' id
      rw [unsubscribe, if_neg hl, HasItem]
      dsimp only
      rw [getList_removeKeyed]
      split <;> rfl
    have hclient : ∀ client' id,
        (o.unsubscribe l client).1.HasClient id client' ↔
          if id ∈ l then
            client' ∈ removeFrom (getList o.mDataItemIndex id) [client]
          else o.HasClient id client' := by
      intro client' id
      rw [unsubscribe, if_neg hl, HasClient]
      dsimp only
      rw [(unsubscribeItems_spec client l ht.nodup id).1]
      split <;> rfl
    rw [Even, Inverse]
    simp only [hitem, hclient]
    constructor
    · intro hinv id hid
      have hself := hinv client id
      rw [if_pos rfl, if_pos hid, mem_removeFrom_iff, mem_removeFrom_iff]
        at hself
      exact not_iff_not.mp hself
    · intro heven client' id
      by_cases heq : client' = client
      · subst heq
        rw [if_pos rfl]
        split
        · next hid =>
            rw [mem_removeFrom_iff, mem_removeFrom_iff]
            exact not_congr (heven id hid)
        · next hid => rw [mem_removeFrom_of_not_mem hid]; exact h client' id
      · rw [if_neg heq, h]
        split
        · rw [mem_removeFrom_of_not_mem (by simpa using heq)]
          rfl
        · rfl

theorem inverse_unsubscribeAll_iff (h : o.Inverse) (client : CT) :
    (o.unsubscribeAll client).1.Inverse ↔
      o.Even (.unsubscribeAll client) := by
  have hitem : ∀ client' id,
      (o.unsubscribeAll client).1.HasItem client' id ↔
        client' ≠ client ∧ o.HasItem client' id := by
    intro client' id
    show id ∈ getList (o.mClientIndex.erase client) client' ↔ _
    rw [getList_erase]
    split
    · next heq => simp [heq]
    · next hne => simp [hne, HasItem]
  have hclient : ∀ client' id,
      (o.unsubscribeAll client).1.HasClient id client' ↔
        o.HasClient id client' := fun _ _ => Iff.rfl
  rw [Even, Inverse, List.eq_nil_iff_forall_not_mem]
  simp only [hitem, hclient]
  constructor
  · intro hinv id hid
    exact ((hinv client id).mpr ((h client id).mp hid)).1 rfl
  · intro hnone client' id
    rw [← h]
    refine and_iff_right_of_imp fun hid heq => ?_
    subst heq
    exact hnone id hid

theorem inverse_proc_iff (ht : o.Tidy) (h : o.Inverse) (r : Request CT DIT) :
    (o.proc r).1.Inverse ↔ o.Even r := by
  cases r with
  | subscribe l client =>
    refine iff_of_true ?_ trivial
    by_cases hl : l = []
    · rw [proc, subscribe, if_pos hl]
      exact h
    · rw [proc, subscribe_fst hl]
      exact inverse_added h l client
  | updateSubscription l client => exact inverse_update_iff ht h l client
  | requestData l client =>
    refine iff_of_true ?_ trivial
    by_cases hl : l = []
    · rw [proc, requestData, if_pos hl]
      exact h
    · rw [proc, requestData_fst hl]
      exact inverse_added h l client
  | unsubscribe l client => exact inverse_unsubscribe_iff ht h l client
  | unsubscribeAll client => exact inverse_unsubscribeAll_iff h client

theorem absent_unsubscribeAll {client : CT}
    (h : (o.unsubscribeAll client).1.Inverse) :
    (o.unsubscribeAll client).1.Absent client := by
  have hnone : (o.mClientIndex.erase client)[client]? = none :=
    TreeMap.getElem?_erase_self
  refine ⟨hnone, fun id hid => ?_⟩
  have hitem : id ∈ getList (o.mClientIndex.erase client) client :=
    (h client id).mpr hid
  rw [getList_erase, if_pos rfl] at hitem
  cases hitem

/-- The indices are inverse after the requests, and the client of an
`unsubscribeAll` that has just been processed is in neither. -/
def Consistent (reqs : List (Request CT DIT)) : Prop :=
  (run reqs).Inverse ∧
    ∀ client, reqs.getLast? = some (.unsubscribeAll client) →
      (run reqs).Absent client

/-- The indices are consistent after every part of a run just if every request
of it was even when it was processed. -/
theorem run_consistent_iff (reqs : List (Request CT DIT)) :
    (∀ pre, pre <+: reqs → Consistent pre) ↔
      ∀ pre r, pre ++ [r] <+: reqs → (run pre).Even r := by
  refine forall_prefix_iff ⟨fun client id => ?_, nofun⟩ fun pre r _ hpre => ?_
  · simp [run, init, HasItem, HasClient, getList]
  · have hiff := inverse_proc_iff (run_tidy pre) hpre.1 r
    rw [← run_snoc] at hiff
    refine ⟨fun h => hiff.mp h.1, fun heven => ?_⟩
    refine ⟨hiff.mpr heven, fun client hlast => ?_⟩
    obtain rfl : r = .unsubscribeAll client := by simpa using hlast
    have hinv := hiff.mpr heven
    rw [run_snoc] at hinv ⊢
    exact absent_unsubscribeAll hinv

/-- The client of an `unsubscribeAll` stays in the list of its item. -/
theorem unsubscribeAll_left :
    let reqs : List (Request ℕ ℕ) := [.subscribe [1] 0, .unsubscribeAll 0]
    ¬ Consistent reqs := by
  intro reqs h
  have hstay : (run reqs).HasClient 1 0 := by decide
  exact (h.2 0 rfl).2 1 hstay

end SystemStatusOsObserver

end Axon7.OsObserver
