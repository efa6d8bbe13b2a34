import Axon7.Clients.Owned
import Axon7.Clients.Same
import Axon7.Lib.Run

/-!
# The WLAN clients as a map

What the record of a client should be is said by the events of that client
alone, from when it was last added, each over the kernel it met. The table is
the map that has these records, as long as no client is added twice and the
clients behind one that goes are in its power state: the loop that closes the gap
does not copy `power_save_set`.
-/

namespace Axon7.Clients

open Axon7.Lib
open Axon7.Tether (IpType Addr)
open Axon7.Conntrack (CtListener)

/-! ## What its own events make of a client -/

def HasMac (attribs : List HdrAttrib) : Prop := ∃ mac, .macAddr mac ∈ attribs

theorem HasMac.macAttrib_eq {attribs : List HdrAttrib} (h : HasMac attribs)
    (mac mac' : Mac) : macAttrib attribs mac = macAttrib attribs mac' := by
  obtain ⟨m, hm⟩ := h
  induction attribs generalizing mac mac' with
  | nil => cases hm
  | cons a attribs ih =>
    obtain rfl | hm := List.mem_cons.mp hm
    · rfl
    · exact ih _ _ hm

/-- The client an event is about. -/
def WlanEvent.mac : WlanEvent → Option Mac
  | .clientAdd attribs _ => some (macAttrib attribs 0)
  | .clientDel mac => some mac
  | .powerSave mac => some mac
  | .recover mac _ => some mac
  | .neighIpAddrAdd mac _ _ _ _ _ => some mac
  | .resetRt _ => none
  | .linkDown => none

section Own

variable (alloc : Alloc) (tx : List IpType)

/-- What an event of a client makes of its record, over a kernel. -/
def ownStep (c : Option Client) (kev : Kernel × WlanEvent) : Option Client :=
  match kev.2 with
  | .clientAdd attribs _ => some (Client.blank.make alloc tx attribs kev.1).1
  | .clientDel _ => none
  | .powerSave _ => c.map fun c => (c.sleep tx kev.1).1
  | .recover _ _ => c.map fun c => (c.wake alloc tx kev.1).1
  | .neighIpAddrAdd _ a ipv6Prefix _ _ _ =>
    c.map fun c => (c.addAddr alloc tx ipv6Prefix a kev.1).1
  | .resetRt _ => c
  | .linkDown => c

/-- The record that the events of a client make. -/
def ownRecord (history : List (Kernel × WlanEvent)) (mac : Mac) : Option Client :=
  (history.filter fun kev => kev.2.mac = some mac).foldl (ownStep alloc tx) none

/-- The map of the records after an event. -/
def ownNext (kev : Kernel × WlanEvent) (own : Mac → Option Client) (mac : Mac) :
    Option Client :=
  if kev.2.mac = some mac then ownStep alloc tx (own mac) kev else own mac

theorem ownRecord_snoc (history : List (Kernel × WlanEvent)) (kev : Kernel × WlanEvent) :
    ownRecord alloc tx (history ++ [kev]) =
      ownNext alloc tx kev (ownRecord alloc tx history) := by
  funext mac
  rw [ownRecord, ownNext, List.filter_append, List.foldl_append]
  split
  · rename_i hmac
    rw [List.filter_cons_of_pos (by simpa using hmac)]
    rfl
  · rename_i hmac
    rw [List.filter_cons_of_neg (by simpa using hmac)]
    rfl

end Own

namespace Iface

variable (alloc : Alloc) (tx : List IpType)

/-- The events, each with the kernel it meets. -/
def wlanHistory (s : Iface) : List WlanEvent → List (Kernel × WlanEvent)
  | [] => []
  | ev :: evs => (s.kernel, ev) :: (s.wlanCallback alloc tx ev).wlanHistory evs

theorem wlanHistory_snoc (s : Iface) (evs : List WlanEvent) (ev : WlanEvent) :
    s.wlanHistory alloc tx (evs ++ [ev]) =
      s.wlanHistory alloc tx evs ++ [((s.wlanRun alloc tx evs).kernel, ev)] := by
  induction evs generalizing s with
  | nil => rfl
  | cons e evs ih => exact congrArg _ (ih _)

/-! ## The map -/

/-- The addresses are distinct, and the records are those of the map. -/
structure IsMap (own : Mac → Option Client) (s : Iface) : Prop where
  distinct : s.Distinct
  present : ∀ i < s.numClient, ∃ c, own (s.clients i).mac = some c ∧
    Client.Same tx c (s.clients i)
  absent : ∀ mac, s.clientIndex mac = none → own mac = none

/-- The events about clients, each client with a MAC address, and room for
one that is added. -/
def Admits (s : Iface) : WlanEvent → Prop
  | .clientAdd attribs total =>
    HasMac attribs ∧ s.numClient < maxNumWifiClients ∧ total < maxNumWifiClients
  | .resetRt _ => False
  | .linkDown => False
  | _ => True

/-- A client that is added is not there yet, and behind one that is deleted all
are in the power state that it is in. -/
def InOrder (s : Iface) : WlanEvent → Prop
  | .clientAdd attribs _ => s.clientIndex (macAttrib attribs 0) = none
  | .clientDel mac => ∀ i, s.clientIndex mac = some i → ∀ j, i < j → j < s.numClient →
      (s.clients j).powerSaveSet = (s.clients i).powerSaveSet
  | _ => True

variable {alloc tx} {s t : Iface} {own own' : Mac → Option Client} {mac : Mac} {i : Nat}

theorem IsMap.of_alike (h : s.IsMap tx own) (ht : s.Alike t) : t.IsMap tx own where
  distinct i j hi hj hmac := by
    rw [ht.numClient] at hi hj
    rw [ht.clients] at hmac
    exact h.distinct i j hi hj hmac
  present i hi := by
    rw [ht.numClient] at hi
    rw [ht.clients]
    exact h.present i hi
  absent mac hf := h.absent mac (ht.clientIndex.symm.trans hf)

theorem IsMap.write (h : s.IsMap tx own) (hf : s.clientIndex mac = some i)
    {ck : Client × Kernel} {c : Client} (hmac : ck.1.mac = mac)
    (hsame : Client.Same tx c ck.1) (hown : own' mac = some c)
    (hrest : ∀ mac' ≠ mac, own' mac' = own mac') : (s.write i ck).IsMap tx own' := by
  obtain ⟨hi, hold⟩ := clientIndex_eq_some hf
  have hmacs : ∀ j, ((s.write i ck).clients j).mac = (s.clients j).mac := by
    intro j
    rcases eq_or_ne j i with rfl | hne
    · rw [write_self, hmac, hold]
    · rw [write_of_ne hne]
  have hfind : ∀ mac', (s.write i ck).clientIndex mac' = s.clientIndex mac' :=
    fun mac' => clientIndex_write (hmac.trans hold.symm)
  refine ⟨fun j j' hj hj' heq => ?_, fun j hj => ?_, fun mac' hnone => ?_⟩
  · rw [hmacs, hmacs] at heq
    exact h.distinct j j' hj hj' heq
  · rcases eq_or_ne j i with rfl | hne
    · rw [write_self, hmac]
      exact ⟨c, hown, hsame⟩
    · rw [write_of_ne hne, hrest _ fun heq => hne ?_]
      · exact h.present j hj
      · exact h.distinct j i hj hi (heq.trans hold.symm)
  · rw [hfind] at hnone
    rw [hrest mac' fun heq => ?_]
    · exact h.absent mac' hnone
    · rw [heq, hf] at hnone
      cases hnone

theorem IsMap.append_iff (h : s.IsMap tx own) {ck : Client × Kernel} {c : Client}
    (hmac : ck.1.mac = mac) (hsame : Client.Same tx c ck.1) (hown : own' mac = some c)
    (hrest : ∀ mac' ≠ mac, own' mac' = own mac') :
    IsMap tx own' { s.write s.numClient ck with numClient := s.numClient + 1 } ↔
      s.clientIndex mac = none := by
  generalize ht : ({ s.write s.numClient ck with numClient := s.numClient + 1 } :
    Iface) = t
  have hnum : t.numClient = s.numClient + 1 := by rw [← ht]
  have hlast : t.clients s.numClient = ck.1 := by
    rw [← ht]
    exact write_self ck
  have hold : ∀ i < s.numClient, t.clients i = s.clients i := by
    intro i hi
    rw [← ht]
    exact write_of_ne hi.ne ck
  have hcases : ∀ {i}, i < t.numClient → i < s.numClient ∨ i = s.numClient := by
    intro i hi
    omega
  rw [clientIndex_eq_none]
  constructor
  · intro h' i hi heq
    have hi' := h'.distinct i s.numClient (by omega) (by omega) ?_
    · omega
    · rw [hold i hi, hlast, heq, hmac]
  · intro hnew
    refine ⟨fun i j hi hj heq => ?_, fun i hi => ?_, fun mac' hnone => ?_⟩
    · obtain hi | rfl := hcases hi <;> obtain hj | rfl := hcases hj
      · rw [hold i hi, hold j hj] at heq
        exact h.distinct i j hi hj heq
      · rw [hold i hi, hlast, hmac] at heq
        exact absurd heq (hnew i hi)
      · rw [hold j hj, hlast, hmac] at heq
        exact absurd heq.symm (hnew j hj)
      · rfl
    · obtain hi | rfl := hcases hi
      · rw [hold i hi, hrest _ (hnew i hi)]
        exact h.present i hi
      · rw [hlast, hmac]
        exact ⟨c, hown, hsame⟩
    · rw [clientIndex_eq_none] at hnone
      have hne : mac' ≠ mac := by
        intro heq
        refine hnone s.numClient (by omega) ?_
        rw [hlast, hmac, heq]
      rw [hrest mac' hne]
      refine h.absent mac' (clientIndex_eq_none.mpr fun i hi => ?_)
      rw [← hold i hi]
      exact hnone i (by omega)

section Gap

variable {ck : Client × Kernel} {j : Nat}

theorem closeGap_front (tx : List IpType) (ck : Client × Kernel) (hj : j < i) :
    ((s.write i ck).closeGap tx i).clients j = s.clients j := by
  rw [closeGap_clients, if_neg (by omega), write_of_ne hj.ne]

theorem closeGap_back (tx : List IpType) (hsave : ck.1.powerSaveSet = (s.clients i).powerSaveSet)
    (hij : i ≤ j) (hj : j + 1 < s.numClient) :
    ∃ c, ((s.write i ck).closeGap tx i).clients j = .moveUp tx (s.clients (j + 1)) c ∧
      c.powerSaveSet = (s.clients j).powerSaveSet := by
  have hgap : i ≤ j ∧ j + 1 < (s.write i ck).numClient := ⟨hij, hj⟩
  refine ⟨(s.write i ck).clients j, ?_, ?_⟩
  · rw [closeGap_clients, if_pos hgap, write_of_ne (by omega)]
  · rcases eq_or_ne j i with rfl | hne
    · rw [write_self, hsave]
    · rw [write_of_ne hne]

theorem closeGap_same (tx : List IpType) (hsave : ck.1.powerSaveSet = (s.clients i).powerSaveSet)
    (hall : ∀ j, i < j → j < s.numClient →
      (s.clients j).powerSaveSet = (s.clients i).powerSaveSet)
    (hj : j + 1 < s.numClient) :
    Client.Same tx (s.clients (skip i j))
      (((s.write i ck).closeGap tx i).clients j) := by
  rcases Nat.lt_or_ge j i with hlt | hge
  · rw [closeGap_front tx ck hlt, skip, if_pos hlt]
    exact .refl tx _
  · obtain ⟨c, hc, hcs⟩ := closeGap_back tx hsave hge hj
    rw [hc, skip, if_neg (Nat.not_lt.mpr hge)]
    refine Client.moveUp_same _ ?_
    rw [hcs, hall (j + 1) (by omega) hj]
    rcases hge.eq_or_lt with rfl | hlt
    · rfl
    · exact hall j hlt (by omega)

end Gap

theorem IsMap.closeGap_iff (h : s.IsMap tx own) (hf : s.clientIndex mac = some i)
    {ck : Client × Kernel} (hsave : ck.1.powerSaveSet = (s.clients i).powerSaveSet)
    (own' : Mac → Option Client) (hown : own' mac = none)
    (hrest : ∀ mac' ≠ mac, own' mac' = own mac') :
    ((s.write i ck).closeGap tx i).IsMap tx own' ↔ ∀ j, i < j → j < s.numClient →
      (s.clients j).powerSaveSet = (s.clients i).powerSaveSet := by
  obtain ⟨hi, hold⟩ := clientIndex_eq_some hf
  have hsame := fun hall j hj => closeGap_same tx (j := j) hsave hall hj
  have hfront := fun j hj => closeGap_front (s := s) tx ck (i := i) (j := j) hj
  have hback := fun j hij hj => closeGap_back tx (i := i) (j := j) hsave hij hj
  have hnum : ((s.write i ck).closeGap tx i).numClient + 1 = s.numClient :=
    Nat.succ_pred (Nat.ne_zero_of_lt hi)
  generalize (s.write i ck).closeGap tx i = t at hsame hfront hback hnum ⊢
  have hmacs : ∀ j < t.numClient, (t.clients j).mac = (s.clients (skip i j)).mac := by
    intro j hj
    rw [skip]
    split
    · rw [hfront j ‹_›]
    · obtain ⟨c, hc, -⟩ := hback j (by omega) (by omega)
      rw [hc]
      rfl
  have hother : ∀ j < t.numClient, (t.clients j).mac ≠ mac := by
    intro j hj heq
    have hlt := skip_lt (i := i) hj
    rw [hmacs j hj, ← hold] at heq
    exact skip_ne (h.distinct _ i (by omega) hi heq)
  constructor
  · intro h' j hij hj
    -- one step behind the gap compares the record with the one before
    have hstep : ∀ j, i ≤ j → j + 1 < s.numClient →
        (s.clients (j + 1)).powerSaveSet = (s.clients j).powerSaveSet := by
      intro j hij hj
      have hj' : j < t.numClient := by omega
      obtain ⟨c, hc, hcs⟩ := hback j hij hj
      obtain ⟨d, hd, hsame⟩ := h'.present j hj'
      obtain ⟨d', hd', hsame'⟩ := h.present (j + 1) hj
      rw [hrest _ (hother j hj')] at hd
      have hmac : (t.clients j).mac = (s.clients (j + 1)).mac := by
        rw [hc]
        rfl
      rw [hmac, hd'] at hd
      cases hd
      rw [hsame'.powerSaveSet, ← hsame.powerSaveSet, hc]
      exact hcs
    induction j, hij using Nat.le_induction with
    | base => exact hstep i le_rfl hj
    | succ j hij ih => exact (hstep j (by omega) hj).trans (ih (by omega))
  · intro hall
    refine ⟨fun j j' hj hj' heq => ?_, fun j hj => ?_, fun mac' hnone => ?_⟩
    · rw [hmacs j hj, hmacs j' hj'] at heq
      have hlt := skip_lt (i := i) hj
      have hlt' := skip_lt (i := i) hj'
      exact skip_injective (h.distinct _ _ (by omega) (by omega) heq)
    · have hlt := skip_lt (i := i) hj
      obtain ⟨d, hd, hrec⟩ := h.present (skip i j) (by omega)
      rw [hrest _ (hother j hj), hmacs j hj]
      exact ⟨d, hd, hrec.trans (hsame hall j (by omega))⟩
    · rcases eq_or_ne mac' mac with rfl | hne
      · exact hown
      · rw [hrest mac' hne]
        refine h.absent mac' (clientIndex_eq_none.mpr fun k hk heq => ?_)
        have hki : k ≠ i := by
          rintro rfl
          exact hne (heq.symm.trans hold)
        obtain ⟨j, hj, rfl⟩ := exists_skip (n := t.numClient) (by omega) hki (by omega)
        exact clientIndex_eq_none.mp hnone j hj ((hmacs j hj).trans heq)

/-! ## Events -/

theorem IsMap.change (h : s.IsMap tx own) (mac : Mac) (op : Client → Client × Kernel)
    (hnone : s.clientIndex mac = none → t = s)
    (hsome : ∀ i, s.clientIndex mac = some i →
      (s.write i (op (s.clients i))).Alike t)
    (hmac : ∀ c, (op c).1.mac = c.mac)
    (hsame : ∀ {c d}, Client.Same tx c d → Client.SameWith tx (op c) (op d))
    (hown : own' mac = (own mac).map fun c => (op c).1)
    (hrest : ∀ mac' ≠ mac, own' mac' = own mac') : t.IsMap tx own' := by
  cases hf : s.clientIndex mac with
  | none =>
    have hall : own' = own := by
      funext mac'
      rcases eq_or_ne mac' mac with rfl | hne
      · rw [hown, h.absent mac' hf]
        rfl
      · exact hrest mac' hne
    rw [hnone hf, hall]
    exact h
  | some i =>
    obtain ⟨hi, hold⟩ := clientIndex_eq_some hf
    obtain ⟨c, hc, hcs⟩ := h.present i hi
    refine IsMap.of_alike ?_ (hsome i hf)
    refine h.write hf ((hmac _).trans hold) (hsame hcs).record ?_ hrest
    rw [hown, ← hold, hc]
    rfl

theorem ownNext_other {kev : Kernel × WlanEvent} (hev : kev.2.mac = some mac) :
    ∀ mac' ≠ mac, ownNext alloc tx kev own mac' = own mac' := by
  intro mac' hne
  rw [ownNext, hev, if_neg fun heq => hne (Option.some.inj heq).symm]

theorem ownNext_self {kev : Kernel × WlanEvent} (hev : kev.2.mac = some mac) :
    ownNext alloc tx kev own mac = ownStep alloc tx (own mac) kev :=
  if_pos hev

theorem IsMap.wlanCallback_iff (htx : tx ≠ []) (ho : s.Owned tx) (h : s.IsMap tx own)
    {ev : WlanEvent} (hev : s.Admits ev) :
    (s.wlanCallback alloc tx ev).IsMap tx (ownNext alloc tx (s.kernel, ev) own) ↔
      s.InOrder ev := by
  unfold Iface.wlanCallback
  rw [if_pos ho.active]
  cases ev with
  | clientAdd attribs total =>
    obtain ⟨hattr, hnum, htotal⟩ := hev
    dsimp only
    rw [handleWlanClientInitEx_eq (by omega) htx]
    refine h.append_iff (c := (Client.blank.make alloc tx attribs s.kernel).1) ?_ ?_
      (ownNext_self rfl) (ownNext_other rfl)
    · rw [Client.make_mac]
      exact hattr.macAttrib_eq _ _
    · refine (Client.make_same attribs s.kernel (hattr.macAttrib_eq _ _) ?_).record
      exact fun ip hip => (ho.wf _).header ip hip
  | clientDel mac =>
    cases hf : s.clientIndex mac with
    | none =>
      have hkept : ownNext alloc tx (s.kernel, .clientDel mac) own = own := by
        funext mac'
        rcases eq_or_ne mac' mac with rfl | hne
        · rw [ownNext_self rfl, h.absent mac' hf]
          rfl
        · exact ownNext_other rfl mac' hne
      dsimp only
      rw [hkept, handleClientDownEvt, hf, InOrder, hf]
      exact iff_of_true h (by rintro _ ⟨⟩)
    | some i =>
      obtain ⟨ck, -, hsave, -, halike⟩ := ho.handleClientDownEvt_alike hf
      have hiff := h.closeGap_iff hf hsave
        (ownNext alloc tx (s.kernel, .clientDel mac) own) (ownNext_self rfl) (ownNext_other rfl)
      rw [InOrder, hf]
      refine .trans ⟨fun h' => ?_, fun h' => ?_⟩ (hiff.trans ?_)
      · exact h'.of_alike halike.symm
      · exact h'.of_alike halike
      · exact ⟨fun hall i' hi' => Option.some.inj hi' ▸ hall, fun hall => hall i rfl⟩
  | powerSave mac =>
    refine iff_of_true (h.change mac (fun c => c.sleep tx s.kernel) ?_
      (fun i hf => handleWlanClientPwrsave_alike hf) (fun _ => Client.sleep_mac)
      (fun hcd => hcd.sleep _) (ownNext_self rfl) (ownNext_other rfl)) trivial
    intro hf
    dsimp only
    rw [handleWlanClientPwrsave, hf]
  | recover mac resumed =>
    refine iff_of_true (h.change mac (fun c => c.wake alloc tx s.kernel)
      ?_ (fun i hf => handleWlanClientRecover_alike hf) (fun _ => Client.wake_mac)
      (fun hcd => hcd.wake alloc _) (ownNext_self rfl) (ownNext_other rfl)) trivial
    intro hf
    dsimp only
    rw [handleWlanClientRecover, hf]
  | neighIpAddrAdd mac a ipv6Prefix natIface resumed reply =>
    refine iff_of_true (h.change mac
      (fun c => c.addAddr alloc tx ipv6Prefix a s.kernel) ?_
      (fun i hf => handleNeighIpAddrAdd_alike hf) (fun _ => Client.addAddr_mac)
      (fun hcd => hcd.addAddr alloc ipv6Prefix a _) (ownNext_self rfl)
      (ownNext_other rfl)) trivial
    intro hf
    dsimp only
    rw [handleNeighIpAddrAdd, handleClientIpaddr, hf]
  | resetRt ip => exact hev.elim
  | linkDown => exact hev.elim

/-! ## Runs -/

theorem wlanRun_snoc (s : Iface) (evs : List WlanEvent) (ev : WlanEvent) :
    s.wlanRun alloc tx (evs ++ [ev]) = (s.wlanRun alloc tx evs).wlanCallback alloc tx ev :=
  List.foldl_concat ..

/-- A run of events about clients, within the limits. -/
def AdmitsAll (alloc : Alloc) (tx : List IpType) (s : Iface) (evs : List WlanEvent) :
    Prop :=
  ∀ pre ev, pre ++ [ev] <+: evs → (s.wlanRun alloc tx pre).Admits ev

theorem AdmitsAll.of_snoc {evs : List WlanEvent} {ev : WlanEvent}
    (h : s.AdmitsAll alloc tx (evs ++ [ev])) :
    s.AdmitsAll alloc tx evs ∧ (s.wlanRun alloc tx evs).Admits ev :=
  ⟨fun pre ev' hpre => h pre ev' (hpre.trans (List.prefix_append _ _)),
    h evs ev (List.prefix_refl _)⟩

theorem AdmitsAll.owned (hA : alloc.Grants) {evs : List WlanEvent} (ho : s.Owned tx)
    (h : s.AdmitsAll alloc tx evs) : (s.wlanRun alloc tx evs).Owned tx := by
  induction evs using List.reverseRecOn with
  | nil => exact ho
  | append_singleton evs ev ih =>
    obtain ⟨hpre, hev⟩ := h.of_snoc
    rw [wlanRun_snoc]
    refine (ih hpre).wlanCallback hA ?_
    rintro rfl
    exact hev

theorem init_isMap (tx : List IpType) (ct : CtListener) :
    (init ct).IsMap tx fun _ => none :=
  ⟨fun _ _ hi => absurd hi (Nat.not_lt_zero _), fun _ hi => absurd hi (Nat.not_lt_zero _),
    fun _ _ => rfl⟩

/-- In a run of events about clients the table is at all times the map of what
the clients' own events make, just if every event is in order. -/
theorem wlanRun_isMap_iff (hA : alloc.Grants) (htx : tx ≠ []) (ct : CtListener)
    (evs : List WlanEvent) (hevs : (init ct).AdmitsAll alloc tx evs) :
    (∀ pre, pre <+: evs → ((init ct).wlanRun alloc tx pre).IsMap tx
        (ownRecord alloc tx ((init ct).wlanHistory alloc tx pre))) ↔
      ∀ pre ev, pre ++ [ev] <+: evs → ((init ct).wlanRun alloc tx pre).InOrder ev := by
  refine forall_prefix_iff (init_isMap tx ct) fun pre ev hpre h => ?_
  have hall : (init ct).AdmitsAll alloc tx (pre ++ [ev]) := fun pre' ev' hp =>
    hevs pre' ev' (hp.trans hpre)
  obtain ⟨hadmits, hev⟩ := hall.of_snoc
  rw [wlanRun_snoc, wlanHistory_snoc, ownRecord_snoc]
  exact h.wlanCallback_iff htx (hadmits.owned hA (init_owned tx ct)) hev

end Iface

/-- Two clients, of which the one that sleeps is deleted. -/
def sleeperDeleted : List WlanEvent :=
  [.clientAdd [.macAddr 1] 0, .clientAdd [.macAddr 2] 1, .powerSave 1, .clientDel 1]

theorem sleeperDeleted_admitsAll :
    (Iface.init newListener).AdmitsAll nextHandle [.v4, .v6] sleeperDeleted := by
  refine forall_concat_of_take fun k hk => ?_
  have hk : k < 4 := hk
  interval_cases k
  · exact ⟨⟨1, List.mem_cons_self⟩, by decide, by decide⟩
  · exact ⟨⟨2, List.mem_cons_self⟩, by decide, by decide⟩
  · trivial
  · trivial

theorem sleeperDeleted_isMap_iff :
    (∀ pre, pre <+: sleeperDeleted →
        ((Iface.init newListener).wlanRun nextHandle [.v4, .v6] pre).IsMap [.v4, .v6]
          (ownRecord nextHandle [.v4, .v6]
            ((Iface.init newListener).wlanHistory nextHandle [.v4, .v6] pre))) ↔
      ∀ pre ev, pre ++ [ev] <+: sleeperDeleted →
        ((Iface.init newListener).wlanRun nextHandle [.v4, .v6] pre).InOrder ev :=
  Iface.wlanRun_isMap_iff nextHandle_grants (by decide) newListener sleeperDeleted
    sleeperDeleted_admitsAll

/-- The other client is in power save then, though it never went to sleep. -/
theorem sleeperDeleted_wrong :
    (Iface.init newListener).AdmitsAll nextHandle [.v4, .v6] sleeperDeleted ∧
      ¬ ((Iface.init newListener).wlanRun nextHandle [.v4, .v6] sleeperDeleted).IsMap
        [.v4, .v6] (ownRecord nextHandle [.v4, .v6]
          ((Iface.init newListener).wlanHistory nextHandle [.v4, .v6]
            sleeperDeleted)) := by
  refine ⟨sleeperDeleted_admitsAll, fun h => ?_⟩
  obtain ⟨c, hc, hsame⟩ := h.present 0 (by decide)
  have hawake : (ownRecord nextHandle [.v4, .v6]
      ((Iface.init newListener).wlanHistory nextHandle [.v4, .v6] sleeperDeleted)
      2).map Client.powerSaveSet = some false := by decide
  have hasleep : (((Iface.init newListener).wlanRun nextHandle [.v4, .v6]
      sleeperDeleted).clients 0).powerSaveSet = true := by decide
  have hmac : (((Iface.init newListener).wlanRun nextHandle [.v4, .v6]
      sleeperDeleted).clients 0).mac = 2 := by decide
  rw [hmac] at hc
  rw [hc, Option.map_some, ← hsame.powerSaveSet, hasleep] at hawake
  cases hawake

end Axon7.Clients
