import Axon7.Lib.Run
import Axon7.OsObserver.Observer

/-!
# What the framework is told

The items the framework has been told to subscribe, against those some client
has subscribed. What the framework is told is read off the data item index: an
item without an entry is new, an item whose last client goes is dropped. So the
two sets agree as long as the index agrees with the subscriptions wherever a
request looks at it. The entries that a one-shot request leaves, those that an
update or a missed search keeps, and the index that `unsubscribeAll` does not
touch are what can set them apart.
-/

namespace Axon7.OsObserver

open Axon7.Lib
open SystemStatusOsObserver

variable {CT DIT : Type*} [LinearOrder DIT]

/-! ## The calls to the framework -/

local instance lawfulBEq_item : LawfulBEq DIT := instLawfulBEq

/-- Whether the item is on at the framework after one more call. -/
def tell (id : DIT) (on : Bool) : Call CT DIT → Bool
  | .subscribe l => on || decide (id ∈ l)
  | .unsubscribe l => on && !decide (id ∈ l)
  | .firstResponse _ _ => on
  | .requestData _ => on

/-- The item was last told to be subscribed. -/
def told (calls : List (Call CT DIT)) (id : DIT) : Bool :=
  calls.foldl (tell id) false

theorem tell_callFor_subscribe (id : DIT) (on : Bool) (l : List DIT) :
    (callFor Call.subscribe l : List (Call CT DIT)).foldl (tell id) on =
      (on || decide (id ∈ l)) := by
  rw [callFor]
  split
  · next hnil => simp [hnil]
  · rfl

theorem tell_callFor_unsubscribe (id : DIT) (on : Bool) (l : List DIT) :
    (callFor Call.unsubscribe l : List (Call CT DIT)).foldl (tell id) on =
      (on && !decide (id ∈ l)) := by
  rw [callFor]
  split
  · next hnil => simp [hnil]
  · rfl

theorem tell_callFor_firstResponse (id : DIT) (on : Bool) (l : List DIT)
    (client : CT) :
    (callFor (.firstResponse · client) l).foldl (tell id) on = on := by
  rw [callFor]
  split <;> rfl

variable [LinearOrder CT]

namespace SystemStatusOsObserver

/-- The calls of all requests, in order. -/
def calls (reqs : List (Request CT DIT)) : List (Call CT DIT) :=
  (reqs.foldl (fun s r => ((s.1.proc r).1, s.2 ++ (s.1.proc r).2))
    (init, [])).2

theorem calls_snoc (reqs : List (Request CT DIT)) (r : Request CT DIT) :
    calls (reqs ++ [r]) = calls reqs ++ ((run reqs).proc r).2 := by
  have hrun : (reqs.foldl (fun s r => ((s.1.proc r).1, s.2 ++ (s.1.proc r).2))
      ((init, []) : SystemStatusOsObserver CT DIT × List (Call CT DIT))).1 =
      run reqs := by
    induction reqs using List.reverseRecOn with
    | nil => rfl
    | append_singleton reqs r ih => rw [List.foldl_concat, ih, run_snoc]
  rw [calls, List.foldl_concat, hrun]
  rfl

/-- The framework has been told to subscribe the item, and not since to
unsubscribe it. -/
def IsTold (reqs : List (Request CT DIT)) (id : DIT) : Prop :=
  told (calls reqs) id = true

/-! ## The subscriptions of the clients -/

/-- The client has the item subscribed after one more request. An update
replaces what the client had, and a request for data subscribes nothing. -/
def subscribes (client : CT) (id : DIT) (on : Bool) : Request CT DIT → Bool
  | .subscribe l c => if c = client then on || decide (id ∈ l) else on
  | .updateSubscription l c =>
    if c = client ∧ l ≠ [] then decide (id ∈ l) else on
  | .requestData _ _ => on
  | .unsubscribe l c => if c = client then on && !decide (id ∈ l) else on
  | .unsubscribeAll c => if c = client then false else on

/-- The client has subscribed the item and not since unsubscribed it. -/
def Subscribed (reqs : List (Request CT DIT)) (client : CT) (id : DIT) :
    Prop :=
  reqs.foldl (subscribes client id) false = true

/-- Some client has it subscribed. -/
def Wanted (reqs : List (Request CT DIT)) (id : DIT) : Prop :=
  ∃ client, Subscribed reqs client id

/-- Nobody but the client has it subscribed. -/
def OnlyWants (reqs : List (Request CT DIT)) (client : CT) (id : DIT) : Prop :=
  ∀ client', Subscribed reqs client' id → client' = client

/-- Nobody but the client is listed for the item. -/
def OnlyHas (o : SystemStatusOsObserver CT DIT) (client : CT) (id : DIT) :
    Prop :=
  ∀ client', o.HasClient id client' → client' = client

/-- The framework is told just what the clients want. -/
def Tracks (reqs : List (Request CT DIT)) : Prop :=
  ∀ id, IsTold reqs id ↔ Wanted reqs id

/-- Where the request looks at the data item index, that agrees with the subscriptions: what
is to be subscribed is there only if somebody wants it, what a client drops is listed for
another just if another wants it. An update or `unsubscribeAll` drops no last client. -/
def Agrees (reqs : List (Request CT DIT)) : Request CT DIT → Prop
  | .subscribe l _ =>
    ∀ id ∈ l, getList (run reqs).mDataItemIndex id = [] ∨ Wanted reqs id
  | .updateSubscription l client =>
    l = [] ∨
      (∀ id ∈ l,
        (getList (run reqs).mDataItemIndex id = [] ∨ Wanted reqs id) ∧
          ¬ ((run reqs).Empties l client ∧ (run reqs).OnlyHas client id)) ∧
      ∀ id ∉ l, Wanted reqs id →
        ((run reqs).Empties l client ∧ (run reqs).HasClient id client ∧
          (run reqs).OnlyHas client id ↔ OnlyWants reqs client id)
  | .requestData _ _ => True
  | .unsubscribe l client =>
    ∀ id ∈ l, Wanted reqs id →
      ((run reqs).OnlyHas client id ↔ OnlyWants reqs client id)
  | .unsubscribeAll client =>
    ∀ id, Wanted reqs id → ¬ OnlyWants reqs client id

/-! ## What one request changes -/

theorem isTold_snoc (reqs : List (Request CT DIT)) (r : Request CT DIT)
    (id : DIT) : IsTold (reqs ++ [r]) id ↔
      ((run reqs).proc r).2.foldl (tell id) (told (calls reqs) id) = true := by
  rw [IsTold, told, calls_snoc, List.foldl_append]
  rfl

variable {reqs : List (Request CT DIT)}

theorem isTold_subscribe (l : List DIT) (client : CT) (id : DIT) :
    IsTold (reqs ++ [.subscribe l client]) id ↔ IsTold reqs id ∨
      id ∈ l ∧ getList (run reqs).mDataItemIndex id = [] := by
  rw [isTold_snoc, proc, subscribe]
  split
  · next hnil => simp [hnil, IsTold]
  · dsimp only
    rw [List.foldl_append, tell_callFor_firstResponse, tell_callFor_subscribe,
      Bool.or_eq_true, decide_eq_true_eq,
      DataItemIndex.mem_add_out (run_tidy reqs).items]
    rfl

theorem subscribed_subscribe (l : List DIT) (client c : CT) (id : DIT) :
    Subscribed (reqs ++ [.subscribe l client]) c id ↔
      Subscribed reqs c id ∨ c = client ∧ id ∈ l := by
  rw [Subscribed, List.foldl_concat, subscribes, Subscribed]
  split
  · next heq => simp [heq]
  · next hne => simp [Ne.symm hne]

theorem wanted_subscribe (l : List DIT) (client : CT) (id : DIT) :
    Wanted (reqs ++ [.subscribe l client]) id ↔
      Wanted reqs id ∨ id ∈ l := by
  simp only [Wanted, subscribed_subscribe, exists_or, exists_eq_left]

theorem isTold_requestData (l : List DIT) (client : CT) (id : DIT) :
    IsTold (reqs ++ [.requestData l client]) id ↔ IsTold reqs id := by
  rw [isTold_snoc, proc, requestData]
  split <;> rfl

theorem wanted_requestData (l : List DIT) (client : CT) (id : DIT) :
    Wanted (reqs ++ [.requestData l client]) id ↔ Wanted reqs id := by
  simp only [Wanted, Subscribed, List.foldl_concat, subscribes]

theorem removeFrom_singleton_eq_nil {clients : List CT} (hnd : clients.Nodup)
    (client : CT) :
    removeFrom clients [client] = [] ↔ ∀ c ∈ clients, c = client := by
  constructor
  · intro hnil c hc
    by_contra hne
    have hnot : c ∉ [client] := fun hmem => hne (List.mem_singleton.mp hmem)
    have hmem := (mem_removeFrom_of_not_mem hnot).mpr hc
    rw [hnil] at hmem
    cases hmem
  · intro hall
    by_cases hmem : client ∈ clients
    · rw [(eq_singleton_iff hnd client).mpr ⟨hmem, hall⟩]
      simp [removeFrom, setIntersection]
    · rw [List.eq_nil_iff_forall_not_mem.mpr fun c hc => hmem (hall c hc ▸ hc)]
      rfl

theorem isTold_unsubscribe (l : List DIT) (client : CT) (id : DIT) :
    IsTold (reqs ++ [.unsubscribe l client]) id ↔ IsTold reqs id ∧
      ¬ (id ∈ l ∧ (run reqs).OnlyHas client id) := by
  have ht := run_tidy reqs
  rw [isTold_snoc, proc, unsubscribe]
  split
  · next hnil => simp [hnil, IsTold]
  · dsimp only
    rw [tell_callFor_unsubscribe, Bool.and_eq_true, Bool.not_eq_true',
      decide_eq_false_iff_not,
      (unsubscribeItems_spec client l ht.nodup id).2,
      removeFrom_singleton_eq_nil (ht.nodup id)]
    rfl

theorem subscribed_unsubscribe (l : List DIT) (client c : CT) (id : DIT) :
    Subscribed (reqs ++ [.unsubscribe l client]) c id ↔
      Subscribed reqs c id ∧ ¬ (c = client ∧ id ∈ l) := by
  rw [Subscribed, List.foldl_concat, subscribes, Subscribed]
  split
  · next heq => simp [heq]
  · next hne => simp [Ne.symm hne]

theorem wanted_unsubscribe (l : List DIT) (client : CT) (id : DIT) :
    Wanted (reqs ++ [.unsubscribe l client]) id ↔
      Wanted reqs id ∧ (id ∈ l → ¬ OnlyWants reqs client id) := by
  simp only [Wanted, subscribed_unsubscribe, OnlyWants, not_forall]
  constructor
  · intro ⟨c, hc, hnot⟩
    exact ⟨⟨c, hc⟩, fun hid => ⟨c, hc, fun heq => hnot ⟨heq, hid⟩⟩⟩
  · intro ⟨⟨c, hc⟩, hother⟩
    by_cases hid : id ∈ l
    · obtain ⟨c', hc', hne⟩ := hother hid
      exact ⟨c', hc', fun h => hne h.1⟩
    · exact ⟨c, hc, fun h => hid h.2⟩

theorem isTold_unsubscribeAll (client : CT) (id : DIT) :
    IsTold (reqs ++ [.unsubscribeAll client]) id ↔ IsTold reqs id := by
  rw [isTold_snoc]
  rfl

theorem subscribed_unsubscribeAll (client c : CT) (id : DIT) :
    Subscribed (reqs ++ [.unsubscribeAll client]) c id ↔
      Subscribed reqs c id ∧ c ≠ client := by
  rw [Subscribed, List.foldl_concat, subscribes, Subscribed]
  split
  · next heq => simp [heq]
  · next hne => simp [Ne.symm hne]

theorem wanted_unsubscribeAll (client : CT) (id : DIT) :
    Wanted (reqs ++ [.unsubscribeAll client]) id ↔
      ¬ OnlyWants reqs client id := by
  simp only [Wanted, subscribed_unsubscribeAll, OnlyWants, not_forall,
    exists_prop]

theorem mem_update_out {o : SystemStatusOsObserver CT DIT} (ht : o.Tidy)
    (l : List DIT) (client : CT) (id : DIT) :
    id ∈ (if o.kept l client = [] then
        ((o.mDataItemIndex.add client l).1.removeClients [client]).2 else []) ↔
      o.Empties l client ∧ (id ∈ l ∨ o.HasClient id client) ∧
        o.OnlyHas client id := by
  have hfill := DataItemIndex.filled_add ht.items client l
  have hadd : ∀ c, c ∈ getList (o.mDataItemIndex.add client l).1 id ↔
      o.HasClient id c ∨ c = client ∧ id ∈ l :=
    fun c => DataItemIndex.mem_getList_add client l
  rw [← kept_eq_nil_iff ht]
  split
  · next hnil =>
      rw [DataItemIndex.mem_removeClients_out hfill, List.diff_cons,
        List.diff_nil, List.erase_eq_nil_iff]
      have hsingle : getList (o.mDataItemIndex.add client l).1 id = [client] ↔
          (id ∈ l ∨ o.HasClient id client) ∧ o.OnlyHas client id := by
        rw [eq_singleton_iff (DataItemIndex.nodup_add ht.nodup client l id)]
        simp only [hadd, eq_self, true_and]
        refine and_congr or_comm ⟨fun h c hc => h c (.inl hc), fun h c hc => ?_⟩
        exact hc.elim (h c) And.left
      rw [hsingle]
      constructor
      · intro ⟨hne, hor⟩
        exact ⟨hnil, hor.resolve_left hne⟩
      · intro ⟨_, h⟩
        refine ⟨fun heq => ?_, .inr h⟩
        rw [hsingle.mpr h] at heq
        cases heq
  · next hne => simp [hne]

theorem isTold_update {l : List DIT} (hl : l ≠ []) (client : CT) (id : DIT) :
    IsTold (reqs ++ [.updateSubscription l client]) id ↔
      (IsTold reqs id ∨ id ∈ l ∧ getList (run reqs).mDataItemIndex id = []) ∧
        ¬ ((run reqs).Empties l client ∧
          (id ∈ l ∨ (run reqs).HasClient id client) ∧
          (run reqs).OnlyHas client id) := by
  have ht := run_tidy reqs
  rw [isTold_snoc, proc, update_calls hl ht, List.foldl_append,
    List.foldl_append, tell_callFor_firstResponse, tell_callFor_subscribe,
    tell_callFor_unsubscribe, Bool.and_eq_true, Bool.not_eq_true',
    decide_eq_false_iff_not, mem_update_out ht, Bool.or_eq_true,
    decide_eq_true_eq, DataItemIndex.mem_add_out ht.items]
  rfl

theorem subscribed_update {l : List DIT} (hl : l ≠ []) (client c : CT)
    (id : DIT) : Subscribed (reqs ++ [.updateSubscription l client]) c id ↔
      if c = client then id ∈ l else Subscribed reqs c id := by
  rw [Subscribed, List.foldl_concat, subscribes, Subscribed]
  by_cases heq : c = client
  · simp [heq, hl]
  · simp [heq, Ne.symm heq]

theorem wanted_update {l : List DIT} (hl : l ≠ []) (client : CT) (id : DIT) :
    Wanted (reqs ++ [.updateSubscription l client]) id ↔
      id ∈ l ∨ ¬ OnlyWants reqs client id := by
  simp only [Wanted, subscribed_update hl, OnlyWants, not_forall]
  constructor
  · intro ⟨c, hc⟩
    split at hc
    · exact .inl hc
    · next hne => exact .inr ⟨c, hc, hne⟩
  · intro h
    obtain hid | ⟨c, hc, hne⟩ := h
    · refine ⟨client, ?_⟩
      rw [if_pos rfl]
      exact hid
    · refine ⟨c, ?_⟩
      rw [if_neg hne]
      exact hc

theorem tracks_update_nil (h : Tracks reqs) (client : CT) :
    Tracks (reqs ++ [.updateSubscription [] client]) := by
  intro id
  have htold : IsTold (reqs ++ [.updateSubscription [] client]) id ↔
      IsTold reqs id := by
    rw [isTold_snoc]
    rfl
  have hwanted : Wanted (reqs ++ [.updateSubscription [] client]) id ↔
      Wanted reqs id := by
    simp [Wanted, Subscribed, subscribes]
  rw [htold, hwanted, h id]

theorem tracks_snoc (h : Tracks reqs) (r : Request CT DIT) :
    Tracks (reqs ++ [r]) ↔ Agrees reqs r := by
  have hwant : ∀ client id, ¬ OnlyWants reqs client id → Wanted reqs id := by
    intro client id hnot
    rw [OnlyWants] at hnot
    push Not at hnot
    obtain ⟨c, hc, -⟩ := hnot
    exact ⟨c, hc⟩
  cases r with
  | subscribe l client =>
    simp only [Tracks, isTold_subscribe, wanted_subscribe, Agrees]
    refine forall_congr' fun id => ?_
    rw [h id]
    tauto
  | updateSubscription l client =>
    by_cases hl : l = []
    · subst hl
      exact iff_of_true (tracks_update_nil h client) (.inl rfl)
    · simp only [Tracks, isTold_update hl, wanted_update hl, Agrees, hl,
        false_or]
      rw [← forall_and]
      refine forall_congr' fun id => ?_
      have hwant := hwant client id
      rw [h id]
      by_cases hid : id ∈ l
      · simp only [hid, true_and, true_or, iff_true, not_true_eq_false,
          forall_true_left, false_imp_iff, and_true]
        rw [or_comm]
      · simp only [hid, false_and, or_false, false_or, not_false_eq_true,
          forall_true_left, false_imp_iff, true_and]
        tauto
  | requestData l client =>
    simp only [Tracks, isTold_requestData, wanted_requestData, Agrees,
      iff_true]
    exact h
  | unsubscribe l client =>
    simp only [Tracks, isTold_unsubscribe, wanted_unsubscribe, Agrees]
    refine forall_congr' fun id => ?_
    rw [h id]
    tauto
  | unsubscribeAll client =>
    simp only [Tracks, isTold_unsubscribeAll, wanted_unsubscribeAll,
      Agrees]
    refine forall_congr' fun id => ?_
    have hwant := hwant client id
    rw [h id]
    tauto

/-- The framework is told just what the clients want, after every part of a
run, iff the index agrees with the subscriptions wherever a request of the run
looks at it. -/
theorem run_tracks_iff (reqs : List (Request CT DIT)) :
    (∀ pre, pre <+: reqs → Tracks pre) ↔
      ∀ pre r, pre ++ [r] <+: reqs → Agrees pre r := by
  refine forall_prefix_iff (fun id => ?_) fun pre r _ hpre => tracks_snoc hpre r
  simp [IsTold, told, calls, Wanted, Subscribed]

/-- An item stays on at the framework after its only client has unsubscribed
all. -/
theorem unsubscribeAll_told :
    let reqs : List (Request ℕ ℕ) := [.subscribe [1] 0, .unsubscribeAll 0]
    ¬ Tracks reqs := by
  intro reqs h
  have htold : IsTold reqs 1 := by
    show told (calls _) 1 = true
    decide
  obtain ⟨client, hclient⟩ := (h 1).mp htold
  simp only [Subscribed, reqs, List.foldl_cons, List.foldl_nil, subscribes]
    at hclient
  split at hclient
  · cases hclient
  · next => simp at hclient

end SystemStatusOsObserver

end Axon7.OsObserver
