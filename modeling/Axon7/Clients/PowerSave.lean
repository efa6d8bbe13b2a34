import Axon7.Clients.ClientMap
import Axon7.Conntrack.CtListener

/-!
# Power save, in the records and in NatApp

That a client sleeps is noted in its record and, for its IPv4 address, in
`PwrSaveIfs`. The two are in step as long as the table is a map, an address comes
to a client that is awake, and no address is taken out of `PwrSaveIfs`, or left in
it, against the clients that sleep.
-/

namespace Axon7.Clients

open Axon7.Lib
open Axon7.Tether (IpType Addr)
open Axon7.Conntrack (Ip CtListener IfaceAddr NatCache)

/-! ## What the events say -/

/-- What an event of a client makes of its power state. -/
def powerStep (asleep : Option Bool) : WlanEvent → Option Bool
  | .clientAdd _ _ => some false
  | .clientDel _ => none
  | .powerSave _ => asleep.map fun _ => true
  | .recover _ _ => asleep.map fun _ => false
  | _ => asleep

/-- Whether the client is there, and whether it sleeps: it does if it was put to
sleep since it was last added or recovered. -/
def powerState (evs : List WlanEvent) (mac : Mac) : Option Bool :=
  (evs.filter fun ev => ev.mac = some mac).foldl powerStep none

theorem ownRecord_powerState (alloc : Alloc) (tx : List IpType)
    (history : List (Kernel × WlanEvent)) (mac : Mac) :
    (ownRecord alloc tx history mac).map Client.powerSaveSet =
      powerState (history.map Prod.snd) mac := by
  rw [ownRecord, powerState, List.filter_map, List.foldl_map]
  show Option.map _ (List.foldl _ _ (List.filter _ history)) =
    List.foldl _ _ (List.filter (fun kev => decide (kev.2.mac = some mac)) history)
  generalize List.filter (fun kev => decide (kev.2.mac = some mac)) history = l
  have hfold : ∀ c : Option Client,
      (l.foldl (ownStep alloc tx) c).map Client.powerSaveSet =
        l.foldl (fun st kev => powerStep st kev.2) (c.map Client.powerSaveSet) := by
    induction l with
    | nil => exact fun _ => rfl
    | cons kev l ih =>
      intro c
      rw [List.foldl_cons, List.foldl_cons, ih]
      refine congrArg (fun st => List.foldl _ st l) ?_
      obtain ⟨k, ev⟩ := kev
      cases ev with
      | clientAdd attribs total => rfl
      | clientDel mac => rfl
      | powerSave mac =>
        cases c with
        | none => rfl
        | some c => exact congrArg some Client.sleep_powerSaveSet
      | recover mac resumed =>
        cases c with
        | none => rfl
        | some c => exact congrArg some Client.wake_powerSaveSet
      | neighIpAddrAdd mac a ipv6Prefix natIface resumed reply =>
        cases c with
        | none => rfl
        | some c => exact congrArg some Client.addAddr_powerSaveSet
      | resetRt ip => rfl
      | linkDown => rfl
  exact hfold none

/-! ## The two in step -/

namespace Client

/-- The client sleeps, and has the address. -/
def SleepsAt (c : Client) (addr : Ip) : Prop :=
  c.powerSaveSet = true ∧ c.ipv4Set = true ∧ c.v4Addr = addr

/-- An address is not 0, and a client that sleeps has no rules. -/
structure Quiet (c : Client) : Prop where
  addr : c.ipv4Set = true → c.v4Addr ≠ 0
  rules : c.powerSaveSet = true → c.routeRuleSetV4 = false ∧ c.routeRuleSetV6 = 0

variable {alloc : Alloc} {tx : List IpType} {c d : Client} {k : Kernel}

theorem Same.sleepsAt (h : Same tx c d) {addr : Ip} : d.SleepsAt addr ↔ c.SleepsAt addr := by
  rw [SleepsAt, SleepsAt, h.powerSaveSet, h.ipv4Set]
  refine and_congr_right fun _ => and_congr_right fun hset => ?_
  rw [h.v4Addr hset]

theorem Quiet.of_same (hc : c.Quiet) (h : Same tx c d) : d.Quiet where
  addr hset := by
    rw [h.ipv4Set] at hset
    rw [h.v4Addr hset]
    exact hc.addr hset
  rules hasleep := by
    rw [h.powerSaveSet] at hasleep
    rw [h.routeRuleSetV4, h.routeRuleSetV6]
    exact hc.rules hasleep

theorem Quiet.sleep (h : c.Quiet) : (c.sleep tx k).1.Quiet := by
  rw [sleep_fst]
  split
  · exact h
  · exact ⟨h.addr, fun _ => ⟨rfl, rfl⟩⟩

theorem Quiet.wake (h : c.Quiet) : (c.wake alloc tx k).1.Quiet := by
  obtain ⟨_, _, _, heq⟩ := wake_fst alloc tx c k
  rw [heq]
  exact ⟨h.addr, nofun⟩

end Client

namespace Iface

variable {alloc : Alloc} {tx : List IpType} {s t : Iface} {mac : Mac} {i : Nat}
  {evs : List WlanEvent}

/-- `PwrSaveIfs`. -/
def pwrSaveIfs (s : Iface) : List Ip := s.ct.natInst.pwrSaveIfs

/-- Another client than that at `i` sleeps, and has the address. -/
def OtherSleepsAt (s : Iface) (i : Nat) (addr : Ip) : Prop :=
  ∃ j < s.numClient, j ≠ i ∧ (s.clients j).SleepsAt addr

/-- `PwrSaveIfs` has the addresses of the clients that sleep, each once. -/
structure PowerKept (s : Iface) : Prop where
  room : s.numClient ≤ maxNumWifiClients
  size : s.pwrSaveIfs.length = maxNumWifiClients
  once : SlotSet 0 s.pwrSaveIfs
  quiet : ∀ i < s.numClient, (s.clients i).Quiet
  mem_iff : ∀ addr ≠ 0, addr ∈ s.pwrSaveIfs ↔
    ∃ i < s.numClient, (s.clients i).SleepsAt addr

theorem PowerKept.mem_iff_or (h : s.PowerKept) (hi : i < s.numClient) {addr : Ip}
    (haddr : addr ≠ 0) : addr ∈ s.pwrSaveIfs ↔
      (s.clients i).SleepsAt addr ∨ s.OtherSleepsAt i addr := by
  rw [h.mem_iff addr haddr]
  constructor
  · rintro ⟨j, hj, hsleeps⟩
    rcases eq_or_ne j i with rfl | hne
    · exact .inl hsleeps
    · exact .inr ⟨j, hj, hne, hsleeps⟩
  · rintro (hsleeps | ⟨j, hj, -, hsleeps⟩)
    · exact ⟨i, hi, hsleeps⟩
    · exact ⟨j, hj, hsleeps⟩

theorem PowerKept.write (h : s.PowerKept) (hi : i < s.numClient)
    {ck : Client × Kernel} (ht : (s.write i ck).Alike t) (hq : ck.1.Quiet)
    (hsize : t.pwrSaveIfs.length = s.pwrSaveIfs.length) (honce : SlotSet 0 t.pwrSaveIfs)
    (hmem : ∀ addr ≠ 0, addr ∈ t.pwrSaveIfs ↔
      ck.1.SleepsAt addr ∨ s.OtherSleepsAt i addr) : t.PowerKept where
  room := ht.numClient.le.trans h.room
  size := hsize.trans h.size
  once := honce
  quiet j hj := by
    rw [ht.numClient] at hj
    rw [ht.clients]
    rcases eq_or_ne j i with rfl | hne
    · rw [write_self]
      exact hq
    · rw [write_of_ne hne]
      exact h.quiet j hj
  mem_iff addr haddr := by
    rw [hmem addr haddr, ht.numClient, ht.clients]
    constructor
    · rintro (hsleeps | ⟨j, hj, hne, hsleeps⟩)
      · exact ⟨i, hi, by rw [write_self]; exact hsleeps⟩
      · exact ⟨j, hj, by rw [write_of_ne hne]; exact hsleeps⟩
    · rintro ⟨j, hj, hsleeps⟩
      rcases eq_or_ne j i with rfl | hne
      · rw [write_self] at hsleeps
        exact .inl hsleeps
      · rw [write_of_ne hne] at hsleeps
        exact .inr ⟨j, hj, hne, hsleeps⟩

/-! ### What the handlers do to `PwrSaveIfs` -/

theorem dropAddr_pwrSaveIfs (c : Client) (haddr : c.ipv4Set = true → c.v4Addr ≠ 0)
    (honce : SlotSet 0 s.pwrSaveIfs) : (s.dropAddr c).pwrSaveIfs =
      if c.ipv4Set = true ∧ c.v4Addr ∈ s.ct.natIfaceIpv4Addr then
        s.pwrSaveIfs.replace c.v4Addr 0
      else s.pwrSaveIfs := by
  rw [dropAddr]
  by_cases hset : c.ipv4Set = true
  · rw [if_pos hset, pwrSaveIfs]
    refine (CtListener.handleNeighIpAddrDelEvt_pwrSaveIfs (haddr hset) honce).trans ?_
    exact if_congr (and_iff_right hset).symm rfl rfl
  · rw [if_neg hset, if_neg fun hand => hset hand.1]

theorem handleClientRouteRule_ct (alloc : Alloc) (tx : List IpType) (s : Iface) (mac : Mac)
    (ip : IpType) : (s.handleClientRouteRule alloc tx mac ip).ct = s.ct := by
  rw [handleClientRouteRule]
  split
  · rfl
  · dsimp only
    split <;> rfl

theorem handleClientDownEvt_ct (hf : s.clientIndex mac = some i) :
    (s.handleClientDownEvt tx mac).ct = (s.dropAddr (s.clients i)).ct := by
  rw [handleClientDownEvt, hf]
  dsimp only
  split
  · rfl
  · split <;> rfl

theorem handleWlanClientPwrsave_pwrSaveIfs (tx : List IpType) (hf : s.clientIndex mac = some i)
    (haddr : (s.clients i).ipv4Set = true → (s.clients i).v4Addr ≠ 0) :
    (s.handleWlanClientPwrsave tx mac).pwrSaveIfs =
      if (s.clients i).powerSaveSet = false ∧ (s.clients i).ipv4Set = true ∧
          (s.clients i).v4Addr ∉ s.pwrSaveIfs then
        s.pwrSaveIfs.replace 0 (s.clients i).v4Addr
      else s.pwrSaveIfs := by
  rw [handleWlanClientPwrsave, hf]
  dsimp only
  split
  · rename_i hasleep
    rw [if_neg fun hand => Bool.false_ne_true (hand.1.symm.trans hasleep)]
  · rename_i hawake
    have hawake := Bool.eq_false_of_not_eq_true hawake
    split
    · rename_i hset
      refine (NatCache.updatePwrSaveIf_pwrSaveIfs (haddr hset)).trans ?_
      show (if (s.clients i).v4Addr ∈ s.pwrSaveIfs then s.pwrSaveIfs
        else s.pwrSaveIfs.replace 0 (s.clients i).v4Addr) = _
      by_cases hmem : (s.clients i).v4Addr ∈ s.pwrSaveIfs
      · rw [if_pos hmem, if_neg fun hand => hand.2.2 hmem]
      · rw [if_neg hmem, if_pos ⟨hawake, hset, hmem⟩]
    · rename_i hset
      rw [if_neg fun hand => hset hand.2.1]
      rfl

theorem handleWlanClientRecover_pwrSaveIfs (alloc : Alloc) (tx : List IpType)
    (resumed : Nat → Option Nat) (hf : s.clientIndex mac = some i)
    (haddr : (s.clients i).ipv4Set = true → (s.clients i).v4Addr ≠ 0) :
    (s.handleWlanClientRecover alloc tx mac resumed).pwrSaveIfs =
      if (s.clients i).powerSaveSet = true ∧ (s.clients i).ipv4Set = true then
        s.pwrSaveIfs.replace (s.clients i).v4Addr 0
      else s.pwrSaveIfs := by
  rw [handleWlanClientRecover, hf]
  dsimp only
  have hv6 : ∀ t : Iface, (if (s.clients i).ipv6Set ≠ 0 then
      t.handleClientRouteRule alloc tx mac .v6 else t).pwrSaveIfs = t.pwrSaveIfs := by
    intro t
    split
    · rw [pwrSaveIfs, handleClientRouteRule_ct]
      rfl
    · rfl
  by_cases hasleep : (s.clients i).powerSaveSet = true
  · rw [if_pos hasleep, hv6]
    by_cases hset : (s.clients i).ipv4Set = true
    · rw [if_pos hset, if_pos ⟨hasleep, hset⟩]
      refine (NatCache.resetPwrSaveIf_pwrSaveIfs (haddr hset)).trans ?_
      rw [handleClientRouteRule_ct]
      rfl
    · rw [if_neg hset, if_neg fun hand => hset hand.2]
      rfl
  · rw [if_neg hasleep, if_neg fun hand => hasleep hand.1]

theorem handleNeighIpAddrAdd_pwrSaveIfs (alloc : Alloc) (hf : s.clientIndex mac = some i)
    {addr : Ip} {ipv6Prefix : BitVec 64} (natIface : Option Bool)
    (resumed reply : Nat → Option Nat) {ck : Client × Kernel}
    (hck : (s.clients i).ipaddr tx ipv6Prefix (.v4 addr) s.kernel = some ck) :
    (s.handleNeighIpAddrAdd alloc tx mac (.v4 addr) ipv6Prefix natIface resumed
        reply).pwrSaveIfs =
      if (s.dropAddr (s.clients i)).ct.Takes ⟨addr, true, natIface⟩ then
        (s.dropAddr (s.clients i)).pwrSaveIfs.replace addr 0
      else (s.dropAddr (s.clients i)).pwrSaveIfs := by
  rw [handleNeighIpAddrAdd, handleClientIpaddr, hf]
  dsimp only
  rw [hck]
  dsimp only [Option.map_some]
  refine CtListener.handleNeighIpAddrAddEvt_pwrSaveIfs.trans ?_
  rw [handleClientRouteRule_ct]
  rfl

/-! ### What keeps them in step -/

/-- An address comes to a client that is awake, and no address goes from
`PwrSaveIfs` that another client sleeps at. The address of a client that is
deleted does go, if no other sleeps at it. -/
def InStep (s : Iface) : WlanEvent → Prop
  | .recover mac _ => ∀ i, s.clientIndex mac = some i → ∀ addr,
      (s.clients i).SleepsAt addr → ¬ s.OtherSleepsAt i addr
  | .clientDel mac => ∀ i, s.clientIndex mac = some i →
      (s.clients i).ipv4Set = true →
        if (s.clients i).v4Addr ∈ s.ct.natIfaceIpv4Addr then
          ¬ s.OtherSleepsAt i (s.clients i).v4Addr
        else (s.clients i).powerSaveSet = true →
          s.OtherSleepsAt i (s.clients i).v4Addr
  | .neighIpAddrAdd mac (.v4 addr) _ natIface _ _ => ∀ i, s.clientIndex mac = some i →
      addr ≠ 0 → ¬ ((s.clients i).ipv4Set = true ∧ (s.clients i).v4Addr = addr) →
        (s.clients i).powerSaveSet = false ∧
        ((s.clients i).ipv4Set = true → (s.clients i).v4Addr ∈ s.ct.natIfaceIpv4Addr →
          ¬ s.OtherSleepsAt i (s.clients i).v4Addr) ∧
        ((s.dropAddr (s.clients i)).ct.Takes ⟨addr, true, natIface⟩ →
          ¬ s.OtherSleepsAt i addr)
  | _ => True

theorem length_replace_zero (l : List Ip) (a b : Ip) : (l.replace a b).length = l.length :=
  List.length_replace

theorem PowerKept.exists_free (h : s.PowerKept) (hi : i < s.numClient)
    (hawake : (s.clients i).powerSaveSet = false) : 0 ∈ s.pwrSaveIfs := by
  refine h.once.exists_free
    (s := ((Finset.range s.numClient).erase i).image fun j => (s.clients j).v4Addr) ?_ ?_
  · intro addr hmem hne
    obtain ⟨j, hj, hasleep, -, rfl⟩ := (h.mem_iff addr hne).mp hmem
    refine Finset.mem_image_of_mem _ (Finset.mem_erase.mpr ⟨?_, Finset.mem_range.mpr hj⟩)
    rintro rfl
    exact Bool.false_ne_true (hawake.symm.trans hasleep)
  · have hcard := Finset.card_erase_of_mem (Finset.mem_range.mpr hi)
    rw [Finset.card_range] at hcard
    have hle := Finset.card_image_le (f := fun j => (s.clients j).v4Addr)
      (s := (Finset.range s.numClient).erase i)
    have hroom := h.room
    rw [h.size]
    omega

theorem PowerKept.handleWlanClientPwrsave (h : s.PowerKept) :
    (s.handleWlanClientPwrsave tx mac).PowerKept := by
  cases hf : s.clientIndex mac with
  | none =>
    rw [Iface.handleWlanClientPwrsave, hf]
    exact h
  | some i =>
    have hi := (clientIndex_eq_some hf).1
    have hpwr := handleWlanClientPwrsave_pwrSaveIfs tx hf (h.quiet i hi).addr
    have hsleeps : ∀ addr, ((s.clients i).sleep tx s.kernel).1.SleepsAt addr ↔
        (s.clients i).ipv4Set = true ∧ (s.clients i).v4Addr = addr := by
      intro addr
      rw [Client.SleepsAt, Client.sleep_powerSaveSet, Client.sleep_fst]
      split <;> simp
    refine h.write hi (handleWlanClientPwrsave_alike hf) (h.quiet i hi).sleep ?_ ?_ ?_
    · rw [hpwr]
      split <;> simp
    · rw [hpwr]
      split
      · rename_i hnew
        exact h.once.insert hnew.2.2
      · exact h.once
    · intro addr haddr
      have hold := h.mem_iff_or hi haddr
      rw [hpwr, hsleeps]
      split
      · rename_i hnew
        obtain ⟨hawake, hset, -⟩ := hnew
        rw [SlotSet.mem_insert (h.exists_free hi hawake) haddr, hold,
          Client.SleepsAt, hawake]
        simp only [Bool.false_eq_true, false_and, false_or, hset, true_and, eq_comm]
        exact or_comm
      · rename_i hnone
        rw [hold]
        refine ⟨Or.imp_left And.right, ?_⟩
        rintro (⟨hset, rfl⟩ | hother)
        · by_cases hasleep : (s.clients i).powerSaveSet = true
          · exact .inl ⟨hasleep, hset, rfl⟩
          · have hawake := Bool.eq_false_of_not_eq_true hasleep
            exact hold.mp (not_not.mp fun hmem => hnone ⟨hawake, hset, hmem⟩)
        · exact .inr hother

theorem PowerKept.handleWlanClientRecover (h : s.PowerKept) {resumed : Nat → Option Nat}
    (hev : s.InStep (.recover mac resumed)) :
    (s.handleWlanClientRecover alloc tx mac resumed).PowerKept := by
  cases hf : s.clientIndex mac with
  | none =>
    rw [Iface.handleWlanClientRecover, hf]
    exact h
  | some i =>
    have hi := (clientIndex_eq_some hf).1
    have hother := hev i hf
    have hpwr := handleWlanClientRecover_pwrSaveIfs alloc tx resumed hf
      (h.quiet i hi).addr
    refine h.write hi (handleWlanClientRecover_alike hf) (h.quiet i hi).wake ?_ ?_ ?_
    · rw [hpwr]
      split <;> simp
    · rw [hpwr]
      split
      · exact h.once.erase _
      · exact h.once
    · intro addr haddr
      have hold := h.mem_iff_or hi haddr
      rw [hpwr, Client.SleepsAt, Client.wake_powerSaveSet]
      simp only [Bool.false_eq_true, false_and, false_or]
      split
      · rename_i hsleeps
        obtain ⟨hasleep, hset⟩ := hsleeps
        have hown : (s.clients i).SleepsAt (s.clients i).v4Addr := ⟨hasleep, hset, rfl⟩
        rw [h.once.mem_erase ((h.quiet i hi).addr hset) haddr, hold]
        constructor
        · rintro ⟨⟨-, -, rfl⟩ | hin, hne⟩
          · exact absurd rfl hne
          · exact hin
        · intro hin
          refine ⟨.inr hin, ?_⟩
          rintro rfl
          exact hother _ hown hin
      · rename_i hnone
        rw [hold]
        exact or_iff_right fun hsleeps => hnone ⟨hsleeps.1, hsleeps.2.1⟩

theorem PowerKept.handleClientDownEvt (h : s.PowerKept) (ho : s.Owned tx)
    (hord : s.InOrder (.clientDel mac)) (hev : s.InStep (.clientDel mac)) :
    (s.handleClientDownEvt tx mac).PowerKept := by
  cases hf : s.clientIndex mac with
  | none =>
    rw [Iface.handleClientDownEvt, hf]
    exact h
  | some i =>
    have hi := (clientIndex_eq_some hf).1
    have hord := hord i hf
    have hev := hev i hf
    obtain ⟨ck, -, hsave, -, halike⟩ := ho.handleClientDownEvt_alike hf
    have hpwr := dropAddr_pwrSaveIfs (s := s) (s.clients i) (h.quiet i hi).addr h.once
    have hct : (s.handleClientDownEvt tx mac).pwrSaveIfs =
        (s.dropAddr (s.clients i)).pwrSaveIfs :=
      congrArg (·.natInst.pwrSaveIfs) (handleClientDownEvt_ct hf)
    have hnum : (s.handleClientDownEvt tx mac).numClient + 1 = s.numClient := by
      rw [halike.numClient]
      exact Nat.succ_pred (Nat.ne_zero_of_lt hi)
    have hsame : ∀ j < (s.handleClientDownEvt tx mac).numClient,
        Client.Same tx (s.clients (skip i j))
          ((s.handleClientDownEvt tx mac).clients j) := by
      intro j hj
      rw [halike.clients]
      exact closeGap_same tx hsave hord (by omega)
    generalize s.handleClientDownEvt tx mac = t at hct hnum hsame ⊢
    rw [← hct] at hpwr
    refine ⟨?_, ?_, ?_, fun j hj => ?_, fun addr haddr => ?_⟩
    · have hroom := h.room
      omega
    · rw [hpwr]
      split
      · exact (length_replace_zero _ _ _).trans h.size
      · exact h.size
    · rw [hpwr]
      split
      · exact h.once.erase _
      · exact h.once
    · have hlt := skip_lt (i := i) hj
      exact (h.quiet (skip i j) (by omega)).of_same (hsame j hj)
    · have hleft : (∃ j < t.numClient, (t.clients j).SleepsAt addr) ↔
          s.OtherSleepsAt i addr := by
        constructor
        · rintro ⟨j, hj, hsleeps⟩
          have hlt := skip_lt (i := i) hj
          exact ⟨skip i j, by omega, skip_ne, (hsame j hj).sleepsAt.mp hsleeps⟩
        · rintro ⟨k, hk, hki, hsleeps⟩
          obtain ⟨j, hj, rfl⟩ := exists_skip (n := t.numClient) (by omega) hki (by omega)
          exact ⟨j, hj, (hsame j hj).sleepsAt.mpr hsleeps⟩
      have hold := h.mem_iff_or hi haddr
      rw [hleft, hpwr]
      split
      · rename_i hnat
        obtain ⟨hset, hnat⟩ := hnat
        have hnone := hev hset
        rw [if_pos hnat] at hnone
        rw [h.once.mem_erase ((h.quiet i hi).addr hset) haddr, hold]
        constructor
        · rintro ⟨⟨-, -, rfl⟩ | hin, hne⟩
          · exact absurd rfl hne
          · exact hin
        · intro hin
          refine ⟨.inr hin, ?_⟩
          rintro rfl
          exact hnone hin
      · rename_i hnat
        rw [hold]
        refine or_iff_right_of_imp ?_
        rintro ⟨hasleep, hset, rfl⟩
        have hstays := hev hset
        rw [if_neg fun hmem => hnat ⟨hset, hmem⟩] at hstays
        exact hstays hasleep

theorem PowerKept.handleNeighIpAddrAdd (h : s.PowerKept) {a : Addr}
    {ipv6Prefix : BitVec 64} {natIface : Option Bool} {resumed reply : Nat → Option Nat}
    (hev : s.InStep (.neighIpAddrAdd mac a ipv6Prefix natIface resumed reply)) :
    (s.handleNeighIpAddrAdd alloc tx mac a ipv6Prefix natIface resumed
      reply).PowerKept := by
  cases hf : s.clientIndex mac with
  | none =>
    rw [Iface.handleNeighIpAddrAdd, handleClientIpaddr, hf]
    exact h
  | some i =>
    have hi := (clientIndex_eq_some hf).1
    have halike : (s.write i
        ((s.clients i).addAddr alloc tx ipv6Prefix a s.kernel)).Alike
          (s.handleNeighIpAddrAdd alloc tx mac a ipv6Prefix natIface resumed reply) :=
      handleNeighIpAddrAdd_alike hf
    cases a with
    | v4 addr =>
      by_cases hold : addr = 0 ∨
          (s.clients i).ipv4Set = true ∧ (s.clients i).v4Addr = addr
      · rw [Iface.handleNeighIpAddrAdd, handleClientIpaddr, hf]
        dsimp only
        rw [Client.ipaddr_v4_eq_none hold]
        exact h
      · obtain ⟨hne, hnew⟩ := not_or.mp hold
        obtain ⟨hawake, hdrop, htake⟩ := hev i hf hne hnew
        obtain ⟨v4, k', hck⟩ := Client.ipaddr_v4 tx ipv6Prefix s.kernel hne
          hnew
        obtain ⟨hdl, v4', v6', hfst⟩ := Client.addAddr_v4_fst alloc tx
          ipv6Prefix s.kernel hne hnew
        have hpwr := handleNeighIpAddrAdd_pwrSaveIfs alloc hf natIface resumed reply
          hck
        have haddr := (h.quiet i hi).addr
        have hpwr' := dropAddr_pwrSaveIfs (s := s) (s.clients i) haddr h.once
        generalize s.dropAddr (s.clients i) = u at hpwr hpwr' htake
        -- without the old address there are just those of the others
        obtain ⟨hsize, honce, hmem⟩ : u.pwrSaveIfs.length = s.pwrSaveIfs.length ∧
            SlotSet 0 u.pwrSaveIfs ∧
            ∀ x ≠ 0, x ∈ u.pwrSaveIfs ↔ s.OtherSleepsAt i x := by
          have hothers : ∀ x ≠ 0, x ∈ s.pwrSaveIfs ↔ s.OtherSleepsAt i x := by
            intro x hx
            rw [h.mem_iff_or hi hx]
            exact or_iff_right fun hsleeps =>
              Bool.false_ne_true (hawake.symm.trans hsleeps.1)
          rw [hpwr']
          split
          · rename_i hnat
            obtain ⟨hset, hnat⟩ := hnat
            refine ⟨length_replace_zero _ _ _, h.once.erase _, fun x hx => ?_⟩
            rw [h.once.mem_erase (haddr hset) hx, hothers x hx]
            refine and_iff_left_of_imp fun hin => ?_
            rintro rfl
            exact hdrop hset hnat hin
          · exact ⟨rfl, h.once, hothers⟩
        refine h.write hi halike ?_ ?_ ?_ ?_
        · rw [hfst]
          refine ⟨fun _ => hne, fun hasleep => ?_⟩
          exact absurd (hawake.symm.trans hasleep) Bool.false_ne_true
        · rw [hpwr]
          split
          · exact (length_replace_zero _ _ _).trans hsize
          · exact hsize
        · rw [hpwr]
          split
          · exact honce.erase _
          · exact honce
        · intro x hx
          have hnone : ¬ ((s.clients i).addAddr alloc tx ipv6Prefix (.v4 addr)
              s.kernel).1.SleepsAt x := by
            rw [Client.SleepsAt, Client.addAddr_powerSaveSet, hawake]
            exact fun hsleeps => Bool.false_ne_true hsleeps.1
          rw [or_iff_right hnone, hpwr]
          split
          · rename_i htakes
            rw [honce.mem_erase hne hx, hmem x hx]
            refine and_iff_left_of_imp fun hin => ?_
            rintro rfl
            exact htake htakes hin
          · exact hmem x hx
    | v6 addr =>
      obtain ⟨a, n, hdl, v4, v6, hfst, hrules⟩ := Client.addAddr_v6_fst alloc tx
        ipv6Prefix addr (s.clients i) s.kernel
      have hpwr : (s.handleNeighIpAddrAdd alloc tx mac (.v6 addr) ipv6Prefix natIface
          resumed reply).pwrSaveIfs = s.pwrSaveIfs := by
        rw [Iface.handleNeighIpAddrAdd, handleClientIpaddr, hf]
        dsimp only
        cases (s.clients i).ipaddr tx ipv6Prefix (.v6 addr) s.kernel with
        | none => rfl
        | some ck =>
          exact congrArg (·.natInst.pwrSaveIfs) (handleClientRouteRule_ct alloc tx
            (s.write i ck) mac (Addr.v6 addr).ipType)
      refine h.write hi halike ?_ (congrArg _ hpwr) (hpwr ▸ h.once) ?_
      · rw [hfst]
        refine ⟨(h.quiet i hi).addr, fun hasleep => ?_⟩
        obtain ⟨rfl, rfl⟩ := hrules hasleep
        exact (h.quiet i hi).rules hasleep
      · intro addr' haddr'
        rw [hpwr, hfst, h.mem_iff_or hi haddr']
        rfl

theorem PowerKept.handleWlanClientInitEx (h : s.PowerKept)
    {attribs : List HdrAttrib} {total : Nat} :
    (s.handleWlanClientInitEx alloc tx attribs total).PowerKept := by
  by_cases hroom : maxNumWifiClients ≤ s.numClient ∨ maxNumWifiClients ≤ total
  · rw [Iface.handleWlanClientInitEx, if_pos hroom]
    exact h
  by_cases htx : tx = []
  · rw [Iface.handleWlanClientInitEx, if_neg hroom, if_pos htx]
    exact h
  rw [handleWlanClientInitEx_eq hroom htx]
  generalize hck : (s.clients s.numClient).make alloc tx attribs s.kernel = ck
  have hawake : ck.1.powerSaveSet = false := by
    rw [← hck]
    rfl
  have hset : ck.1.ipv4Set = false := by
    rw [← hck]
    rfl
  have hlast : (s.write s.numClient ck).clients s.numClient = ck.1 := write_self ck
  have hcases : ∀ {i}, i < s.numClient + 1 → i < s.numClient ∨ i = s.numClient := by
    intro i hi
    omega
  refine ⟨Nat.lt_of_not_ge fun hge => hroom (.inl hge), h.size, h.once, fun i hi => ?_,
    fun addr haddr => (h.mem_iff addr haddr).trans ?_⟩
  · obtain hi | rfl := hcases hi
    · dsimp only
      rw [write_of_ne hi.ne]
      exact h.quiet i hi
    · dsimp only
      rw [hlast]
      refine ⟨fun hon => ?_, fun hon => ?_⟩
      · exact absurd (hset.symm.trans hon) Bool.false_ne_true
      · exact absurd (hawake.symm.trans hon) Bool.false_ne_true
  · constructor
    · rintro ⟨i, hi, hsleeps⟩
      refine ⟨i, Nat.lt_succ_of_lt hi, ?_⟩
      dsimp only
      rw [write_of_ne hi.ne]
      exact hsleeps
    · rintro ⟨i, hi, hsleeps⟩
      dsimp only at hsleeps
      obtain hi | rfl := hcases hi
      · rw [write_of_ne hi.ne] at hsleeps
        exact ⟨i, hi, hsleeps⟩
      · rw [hlast] at hsleeps
        exact absurd (hawake.symm.trans hsleeps.1) Bool.false_ne_true

theorem PowerKept.wlanCallback (h : s.PowerKept) (ho : s.Owned tx) {ev : WlanEvent}
    (hadm : s.Admits ev) (hord : s.InOrder ev) (hev : s.InStep ev) :
    (s.wlanCallback alloc tx ev).PowerKept := by
  unfold Iface.wlanCallback
  rw [if_pos ho.active]
  cases ev with
  | clientAdd attribs total => exact h.handleWlanClientInitEx
  | clientDel mac => exact h.handleClientDownEvt ho hord hev
  | powerSave mac => exact h.handleWlanClientPwrsave
  | recover mac resumed => exact h.handleWlanClientRecover hev
  | neighIpAddrAdd mac a ipv6Prefix natIface resumed reply =>
    exact h.handleNeighIpAddrAdd hev
  | resetRt ip => exact hadm.elim
  | linkDown => exact hadm.elim

/-! ## Runs -/

/-- After the events no client that sleeps has a rule, and `PwrSaveIfs` has the
IPv4 addresses of the clients that sleep and no others. -/
structure NotOffloaded (alloc : Alloc) (tx : List IpType) (s : Iface)
    (evs : List WlanEvent) : Prop where
  rules : ∀ mac, powerState evs mac = some true →
    ∀ e ∈ (s.wlanRun alloc tx evs).kernel.live, ∀ tbl t dst hdr,
      e.2 ≠ .rtRule mac tbl t dst hdr
  saved : ∀ mac c, powerState evs mac = some true →
    ownRecord alloc tx (s.wlanHistory alloc tx evs) mac = some c → c.ipv4Set = true →
      c.v4Addr ∈ (s.wlanRun alloc tx evs).pwrSaveIfs
  only : ∀ addr ∈ (s.wlanRun alloc tx evs).pwrSaveIfs, addr ≠ 0 → ∃ mac c,
    powerState evs mac = some true ∧
      ownRecord alloc tx (s.wlanHistory alloc tx evs) mac = some c ∧
        c.ipv4Set = true ∧ c.v4Addr = addr

theorem wlanHistory_snd (alloc : Alloc) (tx : List IpType) (s : Iface)
    (evs : List WlanEvent) : (s.wlanHistory alloc tx evs).map Prod.snd = evs := by
  induction evs generalizing s with
  | nil => rfl
  | cons ev evs ih => exact congrArg _ (ih _)

theorem mem_books_rtRule {c : Client} {e : (Res × Nat) × Item} (he : e ∈ c.books tx)
    {tbl : RtTbl} {n : Nat} {dst : Addr} {hdr : Nat}
    (hrule : e.2 = .rtRule mac tbl n dst hdr) : c.mac = mac ∧ c.hdlsInUse tx ≠ [] := by
  have hheader : ∀ ip, e ∉ c.headerBooks ip := by
    intro ip he
    rw [Client.headerBooks] at he
    split at he
    · rw [Multiset.mem_singleton.mp he] at hrule
      cases hrule
    · exact Multiset.notMem_zero e he
  rw [Client.books, Multiset.mem_add, Multiset.mem_add, or_assoc] at he
  have he := (he.resolve_left (hheader .v4)).resolve_left (hheader .v6)
  obtain ⟨r, hr, rfl⟩ := List.mem_map.mp (Multiset.mem_coe.mp he)
  refine ⟨?_, List.ne_nil_of_mem hr⟩
  cases r <;> cases hrule <;> rfl

theorem PowerKept.notOffloaded (ho : (s.wlanRun alloc tx evs).Owned tx)
    (hmap : (s.wlanRun alloc tx evs).IsMap tx
      (ownRecord alloc tx (s.wlanHistory alloc tx evs)))
    (h : (s.wlanRun alloc tx evs).PowerKept) : s.NotOffloaded alloc tx evs := by
  have hstate : ∀ mac, (ownRecord alloc tx (s.wlanHistory alloc tx evs) mac).map
      Client.powerSaveSet = powerState evs mac := by
    intro mac
    rw [ownRecord_powerState, wlanHistory_snd]
  have hfind : ∀ {mac c}, ownRecord alloc tx (s.wlanHistory alloc tx evs) mac = some c →
      ∃ i < (s.wlanRun alloc tx evs).numClient,
        ((s.wlanRun alloc tx evs).clients i).mac = mac ∧
          Client.Same tx c ((s.wlanRun alloc tx evs).clients i) := by
    intro mac c hc
    cases hf : (s.wlanRun alloc tx evs).clientIndex mac with
    | none =>
      rw [hmap.absent mac hf] at hc
      cases hc
    | some i =>
      obtain ⟨hi, rfl⟩ := clientIndex_eq_some hf
      obtain ⟨c', hc', hsame⟩ := hmap.present i hi
      rw [hc] at hc'
      cases hc'
      exact ⟨i, hi, rfl, hsame⟩
  refine ⟨fun mac hasleep e he tbl n dst hdr hrule => ?_,
    fun mac c hasleep hc hset => ?_, fun addr haddr hne => ?_⟩
  · have he : e ∈ (s.wlanRun alloc tx evs).books tx := by
      rw [← ho.holds.owns.live]
      exact he
    obtain ⟨i, hi, he⟩ := Multiset.mem_sum.mp he
    obtain ⟨hmac, huse⟩ := mem_books_rtRule he hrule
    have hi := Finset.mem_range.mp hi
    obtain ⟨c, hc, hsame⟩ := hmap.present i hi
    have hsave := hstate mac
    rw [← hmac, hc, hmac, hasleep, Option.map_some, ← hsame.powerSaveSet] at hsave
    obtain ⟨hv4, hv6⟩ := (h.quiet i hi).rules (Option.some.inj hsave)
    exact huse (Client.hdlsInUse_eq_nil hv4 hv6)
  · obtain ⟨i, hi, rfl, hsame⟩ := hfind hc
    have hsave := hstate ((s.wlanRun alloc tx evs).clients i).mac
    rw [hc, hasleep, Option.map_some] at hsave
    have hsleeps : c.SleepsAt c.v4Addr := ⟨Option.some.inj hsave, hset, rfl⟩
    have hsleeps := hsame.sleepsAt.mpr hsleeps
    refine (h.mem_iff _ ?_).mpr ⟨i, hi, hsleeps⟩
    rw [← hsleeps.2.2]
    exact (h.quiet i hi).addr hsleeps.2.1
  · obtain ⟨i, hi, hsleeps⟩ := (h.mem_iff addr hne).mp haddr
    obtain ⟨c, hc, hsame⟩ := hmap.present i hi
    obtain ⟨hasleep, hset, heq⟩ := hsame.sleepsAt.mp hsleeps
    have hsave := hstate ((s.wlanRun alloc tx evs).clients i).mac
    rw [hc, Option.map_some, hasleep] at hsave
    exact ⟨_, c, hsave.symm, hc, hset, heq⟩

/-- If `PwrSaveIfs` is empty to begin with, clients that sleep are not offloaded in
any run of events that are in order and in step. -/
theorem wlanRun_notOffloaded (hA : alloc.Grants) (htx : tx ≠ []) (ct : CtListener)
    (hclean : ct.natInst.pwrSaveIfs = List.replicate maxNumWifiClients 0)
    (evs : List WlanEvent) (hevs : (init ct).AdmitsAll alloc tx evs)
    (hstep : ∀ pre ev, pre ++ [ev] <+: evs →
      ((init ct).wlanRun alloc tx pre).InOrder ev ∧
        ((init ct).wlanRun alloc tx pre).InStep ev) :
    ∀ pre, pre <+: evs → (init ct).NotOffloaded alloc tx pre := by
  have hrun : ∀ pre, pre <+: evs →
      ((init ct).wlanRun alloc tx pre).IsMap tx
        (ownRecord alloc tx ((init ct).wlanHistory alloc tx pre)) ∧
      ((init ct).wlanRun alloc tx pre).PowerKept ∧
      ((init ct).wlanRun alloc tx pre).Owned tx := by
    intro pre
    induction pre using List.reverseRecOn with
    | nil =>
      intro _
      refine ⟨init_isMap tx ct, ⟨Nat.zero_le _, ?_, ?_, ?_, ?_⟩, init_owned tx ct⟩
      · exact (congrArg _ hclean).trans List.length_replicate
      · rw [show ((init ct).wlanRun alloc tx []).pwrSaveIfs = _ from hclean]
        exact SlotSet.replicate 0 _
      · exact fun _ hi => absurd hi (Nat.not_lt_zero _)
      · intro addr hne
        rw [show ((init ct).wlanRun alloc tx []).pwrSaveIfs = _ from hclean]
        refine iff_of_false (fun hmem => hne (List.eq_of_mem_replicate hmem)) ?_
        rintro ⟨i, hi, -⟩
        exact Nat.not_lt_zero i hi
    | append_singleton pre ev ih =>
      intro hpre
      obtain ⟨hmap, hkept, ho⟩ := ih ((List.prefix_append _ _).trans hpre)
      obtain ⟨hord, hin⟩ := hstep pre ev hpre
      have hadm := hevs pre ev hpre
      rw [wlanRun_snoc, wlanHistory_snoc, ownRecord_snoc]
      refine ⟨(hmap.wlanCallback_iff htx ho hadm).mpr hord,
        hkept.wlanCallback ho hadm hord hin, ho.wlanCallback hA ?_⟩
      rintro rfl
      exact hadm
  intro pre hpre
  obtain ⟨hmap, hkept, ho⟩ := hrun pre hpre
  exact hkept.notOffloaded ho hmap

end Iface

/-- A client that gets an address, and sleeps. -/
def sleeper : List WlanEvent :=
  [.clientAdd [.macAddr 1] 0,
    .neighIpAddrAdd 1 (.v4 0xC0A80102) 0 (some true) (fun _ => none) fun _ => none,
    .powerSave 1]

theorem sleeper_notOffloaded :
    (Iface.init newListener).NotOffloaded nextHandle [.v4, .v6] sleeper := by
  refine Iface.wlanRun_notOffloaded nextHandle_grants (by decide) newListener rfl sleeper
    (forall_concat_of_take fun k hk => ?_) (forall_concat_of_take fun k hk => ?_)
    sleeper List.prefix_rfl
  all_goals
    have hk : k < 3 := hk
    interval_cases k
  · exact ⟨⟨1, List.mem_cons_self⟩, by decide, by decide⟩
  · trivial
  · trivial
  · exact ⟨rfl, trivial⟩
  · refine ⟨trivial, fun i hi _ _ => ?_⟩
    have hfirst : ((Iface.init newListener).wlanRun nextHandle [.v4, .v6]
        [.clientAdd [.macAddr 1] 0]).clientIndex 1 = some 0 := by decide
    obtain rfl : 0 = i := Option.some.inj (hfirst.symm.trans hi)
    have hnone : ∀ addr, ¬ ((Iface.init newListener).wlanRun nextHandle [.v4, .v6]
        [.clientAdd [.macAddr 1] 0]).OtherSleepsAt 0 addr := by
      rintro addr ⟨j, hj, hne, -⟩
      have hj : j < 1 := hj
      omega
    exact ⟨by decide, fun _ _ => hnone _, fun _ => hnone _⟩
  · exact ⟨trivial, trivial⟩

/-- A client that sleeps, and gets its first address. -/
def sleeperAddressed : List WlanEvent :=
  [.clientAdd [.macAddr 1] 0, .powerSave 1,
    .neighIpAddrAdd 1 (.v4 0xC0A80102) 0 (some true) (fun _ => none) fun _ => none]

/-- Its address is not in `PwrSaveIfs`. -/
theorem sleeperAddressed_offloaded :
    newListener.natInst.pwrSaveIfs = List.replicate maxNumWifiClients 0 ∧
      (Iface.init newListener).AdmitsAll nextHandle [.v4, .v6] sleeperAddressed ∧
        ¬ (Iface.init newListener).NotOffloaded nextHandle [.v4, .v6]
          sleeperAddressed := by
  refine ⟨rfl, forall_concat_of_take fun k hk => ?_, fun h => ?_⟩
  · have hk : k < 3 := hk
    interval_cases k
    · exact ⟨⟨1, List.mem_cons_self⟩, by decide, by decide⟩
    · trivial
    · trivial
  · have hown : (ownRecord nextHandle [.v4, .v6] ((Iface.init newListener).wlanHistory
        nextHandle [.v4, .v6] sleeperAddressed) 1).map
          (fun c => (c.ipv4Set, c.v4Addr)) = some (true, 0xC0A80102) := by decide
    have hmissing : (0xC0A80102 : Ip) ∉ ((Iface.init newListener).wlanRun nextHandle
        [.v4, .v6] sleeperAddressed).pwrSaveIfs := by decide
    obtain ⟨c, hc, heq⟩ := Option.map_eq_some_iff.mp hown
    obtain ⟨hset, haddr⟩ := Prod.mk.inj heq
    have hsaved := h.saved 1 c (by decide) hc hset
    rw [haddr] at hsaved
    exact hmissing hsaved

end Axon7.Clients
