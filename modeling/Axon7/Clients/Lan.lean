import Axon7.Clients.Owned
import Axon7.Lib.Run

/-!
# The clients of an IPACM_Lan

An `IPACM_Lan` that is not for an ODU, as built with `FEATURE_IPA_ANDROID` and
`FEATURE_IPACM_HAL`: clients come with an address, go with an IPv4 address, lose
single IPv6 addresses, and are cleaned when the upstream is the Wi-Fi station.
-/

namespace Axon7.Clients

open Axon7.Lib
open Axon7.Tether (IpType Addr)
open Axon7.Conntrack (CtListener)

namespace Client

variable (tx : List IpType)

/-- Where the loop of `handle_del_ipv6_addr` for the address ends. -/
def findV6 (addr : BitVec 128) (c : Client) : Nat :=
  ((List.range c.ipv6Set).find? fun n => c.v6Addr n = addr).getD c.ipv6Set

/-- The counts go down, and the loop closes the gap among the addresses and, for
the property, among the handles. -/
def closeV6Gap (t numV6 : Nat) (c : Client) : Client :=
  let last := c.ipv6Set - 1
  { c with
    ipv6Set := last
    routeRuleSetV6 := c.routeRuleSetV6 - 1
    v6Addr := fun n =>
      if numV6 ≤ n ∧ n < last then c.v6Addr (n + 1) else c.v6Addr n
    rtHdl := fun
      | .v4 t' => c.rtHdl (.v4 t')
      | .v6 t' n =>
        if t' = t ∧ numV6 ≤ n ∧ n < last then c.rtHdl (.v6 t' (n + 1))
        else c.rtHdl (.v6 t' n)
      | .v6Wan t' n =>
        if t' = t ∧ numV6 ≤ n ∧ n < last then c.rtHdl (.v6Wan t' (n + 1))
        else c.rtHdl (.v6Wan t' n) }

/-- The turn of `handle_del_ipv6_addr` for an IPv6 property. The next turn begins
where the loop that closes the gap ended. -/
def delIpv6Turn (x : Nat × Client × Kernel) (t : Nat) : Nat × Client × Kernel :=
  let (numV6, c, k) := x
  if c.routeRuleSetV6 = 0 then x
  else
    let k := deleteRoutingHdl .v6 (c.rtHdl (.v6 t numV6)) k
    let k := deleteRoutingHdl .v6 (c.rtHdl (.v6Wan t numV6)) k
    (max numV6 (c.ipv6Set - 1), c.closeV6Gap t numV6, k)

/-- `handle_del_ipv6_addr`, from where the client is found. -/
def delIpv6Addr (addr : BitVec 128) (c : Client) (k : Kernel) : Client × Kernel :=
  if addr = 0 then (c, k)
  else
    let numV6 := c.findV6 addr
    -- an address that is not there is told from one that is by the size of the array
    if numV6 = ipv6NumAddr then (c, k)
    else ((txOf tx .v6).foldl delIpv6Turn (numV6, c, k)).2

end Client

/-- The events about the clients of an `IPACM_Lan`. What is read elsewhere comes
with them: `backhaul_is_sta_mode`, `ipv6_prefix`, what `CheckNatIface` finds out,
and what the NAT driver answers. -/
inductive LanEvent
  | neighIpAddrAdd (backhaulIsSta : Bool) (mac : Mac) (a : Addr)
      (ipv6Prefix : BitVec 64) (natIface : Option Bool)
      (resumed reply : Nat → Option Nat)
  | neighIpAddrDel (mac : Mac) (a : Addr)
  | wanUpTether (isSta : Bool)
  | linkDown

namespace Iface

variable (alloc : Alloc) (tx : List IpType)

/-- `handle_eth_hdr_init`. Without properties the address is all that is
written. -/
def handleEthHdrInit (mac : Mac) (s : Iface) : Iface :=
  match s.clientIndex mac with
  | some _ => s
  | none =>
    if maxNumEthClients ≤ s.numClient then s
    else
      let c := { s.clients s.numClient with mac := mac }
      if tx = [] then s.write s.numClient (c, s.kernel)
      else
        { s.write s.numClient (c.initHeaders alloc tx s.kernel) with
          numClient := s.numClient + 1 }

/-- `handle_del_ipv6_addr`. -/
def handleDelIpv6Addr (mac : Mac) (addr : BitVec 128) (s : Iface) : Iface :=
  match s.clientIndex mac with
  | none => s
  | some i => s.write i ((s.clients i).delIpv6Addr tx addr s.kernel)

/-- `event_callback` of an `IPACM_Lan`. Nothing is done about clients if the
upstream is the modem. -/
def lanCallback (s : Iface) (ev : LanEvent) : Iface :=
  if s.isActive then
    match ev with
    | .neighIpAddrAdd backhaulIsSta mac a ipv6Prefix natIface resumed reply =>
      if backhaulIsSta then s
      else
        (s.handleEthHdrInit alloc tx mac).handleNeighIpAddrAdd alloc tx mac a
          ipv6Prefix natIface resumed reply
    | .neighIpAddrDel mac (.v4 _) => s.handleClientDownEvt tx mac
    | .neighIpAddrDel mac (.v6 addr) => s.handleDelIpv6Addr tx mac addr
    | .wanUpTether isSta => if isSta then s.cleanClients tx else s
    | .linkDown => s.handleDownEvt tx
  else s

def lanRun (s : Iface) (evs : List LanEvent) : Iface :=
  evs.foldl (lanCallback alloc tx) s

end Iface

namespace Client

variable {alloc : Alloc} {tx : List IpType} {c : Client} {k : Kernel} {rest : Books}

/-! ## An IPv6 address goes -/

/-- The two rules for an IPv6 address and a property. -/
def rulesFor (t n : Nat) (c : Client) : Books :=
  c.rtBooks [.v6 t n, .v6Wan t n]

theorem rtBooks_v6 {t : Nat} (ht : txOf tx .v6 = [t]) (c : Client) (m : Nat) :
    c.rtBooks (v6Hdls tx (List.range m)) = ∑ n ∈ Finset.range m, c.rulesFor t n := by
  induction m with
  | zero =>
    rw [v6Hdls, ht]
    rfl
  | succ m ih =>
    rw [Finset.sum_range_succ, ← ih, List.range_succ, rulesFor, ← rtBooks_append]
    refine rtBooks_perm ?_
    rw [v6Hdls, v6Hdls, ht]
    simp

theorem findV6_lt {addr : BitVec 128} (h : ∃ n < c.ipv6Set, c.v6Addr n = addr) :
    c.findV6 addr < c.ipv6Set := by
  rw [findV6]
  cases hf : (List.range c.ipv6Set).find? fun n => c.v6Addr n = addr with
  | none =>
    obtain ⟨n, hn, haddr⟩ := h
    have hno := List.find?_eq_none.mp hf n (List.mem_range.mpr hn)
    exact absurd (decide_eq_true haddr) hno
  | some n => exact List.mem_range.mp (List.mem_of_find?_eq_some hf)

theorem findV6_eq {addr : BitVec 128} (h : ¬ ∃ n < c.ipv6Set, c.v6Addr n = addr) :
    c.findV6 addr = c.ipv6Set := by
  rw [findV6, List.find?_eq_none.mpr]
  · rfl
  · intro n hn heq
    exact h ⟨n, List.mem_range.mp hn, of_decide_eq_true heq⟩

end Client

end Axon7.Clients

/-!
# No header and no rule of a LAN client is leaked

The kernel has what the records name as long as the upstream does not become the
Wi-Fi station while there are clients, and an IPv6 address that is deleted is one
that the client has, on an interface with one IPv6 property. Then a client has the
rules for all of its IPv6 addresses.
-/

namespace Axon7.Clients

open Axon7.Lib
open Axon7.Tether (IpType Addr)
open Axon7.Conntrack (CtListener)

namespace Client

variable {alloc : Alloc} {tx : List IpType} {c : Client} {k : Kernel} {rest : Books}
  {n t : Nat}

/-! ## One IPv6 address -/

/-- The books but for the IPv6 rules. -/
def booksV4 (tx : List IpType) (c : Client) : Books :=
  c.headerBooks .v4 + c.headerBooks .v6 +
    c.rtBooks (if c.routeRuleSetV4 then v4Hdls tx else [])

theorem books_eq (ht : txOf tx .v6 = [t]) : c.books tx =
    c.booksV4 tx + ∑ j ∈ Finset.range c.routeRuleSetV6, c.rulesFor t j := by
  rw [books, hdlsInUse, rtBooks_append, rtBooks_v6 ht, booksV4, add_assoc _ (rtBooks _ c)]

theorem closeV6Gap_books (ht : txOf tx .v6 = [t]) (hn : n < c.routeRuleSetV6)
    (heq : c.routeRuleSetV6 = c.ipv6Set) :
    c.books tx = c.rulesFor t n + (c.closeV6Gap t n).books tx := by
  obtain ⟨m, hm⟩ : ∃ m, c.routeRuleSetV6 = m + 1 := ⟨c.routeRuleSetV6 - 1, by omega⟩
  have hlast : c.ipv6Set - 1 = m := by omega
  have hleft : (c.closeV6Gap t n).routeRuleSetV6 = m := by
    show c.routeRuleSetV6 - 1 = m
    omega
  have hrules : ∀ j ∈ Finset.range m,
      (c.closeV6Gap t n).rulesFor t j = c.rulesFor t (Iface.skip n j) := by
    intro j hj
    have hj := Finset.mem_range.mp hj
    rw [rulesFor, rulesFor, rtBooks, rtBooks, closeV6Gap, hlast, Iface.skip]
    by_cases hlt : j < n
    · have hout : ¬ (n ≤ j ∧ j < m) := by omega
      simp [rtRule, hout, hlt, RtHdl.ip]
    · have hin : n ≤ j ∧ j < m := by omega
      simp [rtRule, hin, hlt, RtHdl.ip]
  have hv4 : (c.closeV6Gap t n).booksV4 tx = c.booksV4 tx := by
    refine congrArg (c.headerBooks .v4 + c.headerBooks .v6 + ·)
      (rtBooks_congr (fun r hr => ?_) fun r hr => ?_)
    all_goals
      change r ∈ (if c.routeRuleSetV4 then v4Hdls tx else []) at hr
      split at hr
      · obtain ⟨t', -, rfl⟩ := mem_v4Hdls.mp hr
        rfl
      · cases hr
  rw [books_eq ht, books_eq ht, hv4, hleft, Finset.sum_congr rfl hrules, hm,
    Iface.sum_skip (fun j => c.rulesFor t j) (i := n) (by omega), add_left_comm]

theorem Wf.closeV6Gap (h : c.Wf tx) (t n : Nat) : (c.closeV6Gap t n).Wf tx :=
  ⟨h.v4, Nat.sub_le_sub_right h.v6 1, h.header⟩

theorem delIpv6Turn_holds (ht : txOf tx .v6 = [t]) (hn : n < c.routeRuleSetV6)
    (heq : c.routeRuleSetV6 = c.ipv6Set) (h : Holds k (c.books tx + rest)) :
    ∃ n' k', delIpv6Turn (n, c, k) t = (n', c.closeV6Gap t n, k') ∧
      Holds k' ((c.closeV6Gap t n).books tx + rest) := by
  rw [closeV6Gap_books ht hn heq, rulesFor, rtBooks_cons, rtBooks_cons, Multiset.cons_add,
    Multiset.cons_add, Multiset.cons_add, Multiset.cons_add] at h
  have h := h.deleteRoutingHdl.deleteRoutingHdl
  rw [show c.rtBooks [] = 0 from rfl, zero_add] at h
  rw [delIpv6Turn, if_neg (by omega)]
  exact ⟨_, _, rfl, h⟩

/-- The deletion of an address is sound if there are no IPv6 rules, or the address
is that of the rules for one property, or the array is full and it is not there. -/
def SoundDel (tx : List IpType) (addr : BitVec 128) (c : Client) : Prop :=
  addr = 0 ∨ c.routeRuleSetV6 = 0 ∨ IpType.v6 ∉ tx ∨
    (txOf tx .v6).length = 1 ∧ (∃ n < c.ipv6Set, c.v6Addr n = addr) ∨
    c.ipv6Set = ipv6NumAddr ∧ ¬ ∃ n < c.ipv6Set, c.v6Addr n = addr

theorem delIpv6Turn_of_none (h : c.routeRuleSetV6 = 0) (l : List Nat) :
    l.foldl delIpv6Turn (n, c, k) = (n, c, k) := by
  induction l with
  | nil => rfl
  | cons t l ih =>
    rw [List.foldl_cons, show delIpv6Turn (n, c, k) t = (n, c, k) from if_pos h]
    exact ih

theorem Wf.delIpv6Addr (h : c.Wf tx) (heq : c.routeRuleSetV6 = c.ipv6Set)
    {addr : BitVec 128} (hs : c.SoundDel tx addr) (k : Kernel) :
    c.Keeps tx k (c.delIpv6Addr tx addr k) ∧
      ((c.delIpv6Addr tx addr k).1 = c ∨
        ∃ t n, (c.delIpv6Addr tx addr k).1 = c.closeV6Gap t n) := by
  have hsame : c.Keeps tx k (c, k) ∧ ((c, k).1 = c ∨ ∃ t n, (c, k).1 = c.closeV6Gap t n) :=
    ⟨h.keeps k, .inl rfl⟩
  rw [Client.delIpv6Addr]
  split
  · exact hsame
  rename_i hne
  dsimp only
  split
  · exact hsame
  rename_i hplace
  obtain hzero | hnone | hno | ⟨hone, hin⟩ | ⟨hfull, hout⟩ := hs
  · exact absurd hzero hne
  · rw [delIpv6Turn_of_none hnone]
    exact hsame
  · have hempty : txOf tx .v6 = [] := List.eq_nil_iff_forall_not_mem.mpr fun t ht =>
      hno (mem_of_txOf ht)
    rw [hempty]
    exact hsame
  · obtain ⟨t, ht⟩ := List.length_eq_one_iff.mp hone
    have hlt := findV6_lt hin
    rw [← heq] at hlt
    have hturn := fun (rest : Books) (hk : Holds k (c.books tx + rest)) =>
      delIpv6Turn_holds ht hlt heq hk
    rw [ht, List.foldl_cons, List.foldl_nil]
    rw [delIpv6Turn, if_neg (by omega)] at hturn ⊢
    refine ⟨⟨h.closeV6Gap t _, fun rest hk => ?_⟩, .inr ⟨t, _, rfl⟩⟩
    obtain ⟨n', k', hpair, hholds⟩ := hturn rest hk
    cases hpair
    exact hholds
  · exact absurd ((findV6_eq hout).trans hfull) hplace

/-! ## The IPv6 rules of a client -/

theorem routeRule_v6_set (h : c.routeRuleSetV6 ≤ c.ipv6Set) :
    (c.routeRule alloc tx .v6 k).1.routeRuleSetV6 =
      (c.routeRule alloc tx .v6 k).1.ipv6Set := by
  rw [routeRule]
  split
  · rfl
  · rename_i hge
    exact h.antisymm (Nat.not_lt.mp hge)

theorem routeRule_v4_set (alloc : Alloc) (tx : List IpType) (c : Client) (k : Kernel) :
    (c.routeRule alloc tx .v4 k).1.routeRuleSetV6 = c.routeRuleSetV6 ∧
      (c.routeRule alloc tx .v4 k).1.ipv6Set = c.ipv6Set := by
  rw [routeRule]
  split
  · rw [addRtRules_eq]
    exact ⟨rfl, rfl⟩
  · exact ⟨rfl, rfl⟩

theorem addHeader_powerSaveSet {ip : IpType} :
    (c.addHeader alloc tx ip k).1.powerSaveSet = c.powerSaveSet := by
  rw [addHeader]
  split <;> rfl

theorem addAddr_set (hawake : c.powerSaveSet = false)
    (heq : c.routeRuleSetV6 = c.ipv6Set) (ipv6Prefix : BitVec 64) (a : Addr) :
    (c.addAddr alloc tx ipv6Prefix a k).1.routeRuleSetV6 =
      (c.addAddr alloc tx ipv6Prefix a k).1.ipv6Set := by
  rw [addAddr]
  split
  · exact heq
  · rename_i c' k' hck
    cases a with
    | v4 addr =>
      have hkept : c'.routeRuleSetV6 = c.routeRuleSetV6 ∧ c'.ipv6Set = c.ipv6Set := by
        by_cases hold : addr = 0 ∨ c.ipv4Set = true ∧ c.v4Addr = addr
        · rw [ipaddr_v4_eq_none hold] at hck
          cases hck
        · obtain ⟨hne, hnew⟩ := not_or.mp hold
          obtain ⟨v4, k'', hsome⟩ := ipaddr_v4 tx ipv6Prefix k hne hnew
          rw [hsome] at hck
          cases hck
          exact ⟨rfl, rfl⟩
      split
      · exact hkept.1.trans (heq.trans hkept.2.symm)
      · have hroute := routeRule_v4_set alloc tx c' k'
        exact hroute.1.trans (hkept.1.trans (heq.trans (hroute.2.trans hkept.2).symm))
    | v6 addr =>
      have hle : c'.routeRuleSetV6 ≤ c'.ipv6Set ∧ c'.powerSaveSet = c.powerSaveSet := by
        obtain ⟨a, hc⟩ := ipaddr_v6 hck
        obtain rfl : c' = _ := hc
        exact ⟨heq.le.trans (Nat.le_succ _), rfl⟩
      rw [if_neg (by rw [hle.2, hawake]; exact Bool.false_ne_true)]
      exact routeRule_v6_set hle.1

end Client

namespace Iface

variable {alloc : Alloc} {tx : List IpType} {s t : Iface} {mac : Mac} {i : Nat}

/-! ## The table -/

/-- The books are kept, no client saves power, and each has the rules for all of its
IPv6 addresses. -/
structure Tidy (tx : List IpType) (s : Iface) : Prop where
  owned : s.Owned tx
  awake : ∀ i, (s.clients i).powerSaveSet = false
  routed : ∀ i < s.numClient, (s.clients i).routeRuleSetV6 = (s.clients i).ipv6Set

theorem Tidy.of_alike (h : s.Tidy tx) (ht : s.Alike t) : t.Tidy tx where
  owned := ht.owned h.owned
  awake i := by
    rw [ht.clients]
    exact h.awake i
  routed i hi := by
    rw [ht.numClient] at hi
    rw [ht.clients]
    exact h.routed i hi

theorem Tidy.write (h : s.Tidy tx) (hi : i < s.numClient) {ck : Client × Kernel}
    (hck : (s.clients i).Keeps tx s.kernel ck) (hawake : ck.1.powerSaveSet = false)
    (heq : ck.1.routeRuleSetV6 = ck.1.ipv6Set) : (s.write i ck).Tidy tx where
  owned := h.owned.write hi hck
  awake j := by
    rcases eq_or_ne j i with rfl | hne
    · rw [write_self]
      exact hawake
    · rw [write_of_ne hne]
      exact h.awake j
  routed j hj := by
    rcases eq_or_ne j i with rfl | hne
    · rw [write_self]
      exact heq
    · rw [write_of_ne hne]
      exact h.routed j hj

theorem Tidy.handleEthHdrInit (hA : alloc.Grants) (h : s.Tidy tx) :
    (s.handleEthHdrInit alloc tx mac).Tidy tx := by
  have hwf := h.owned.wf s.numClient
  generalize hc : ({ s.clients s.numClient with mac := mac } : Client) = c
  have hcwf : c.Wf tx := by
    rw [← hc]
    exact ⟨hwf.v4, hwf.v6, hwf.header⟩
  have hcawake : c.powerSaveSet = false := by
    rw [← hc]
    exact h.awake s.numClient
  have hrest : ∀ {ck : Client × Kernel} {j}, j ≠ s.numClient →
      (s.write s.numClient ck).clients j = s.clients j := fun hne => write_of_ne hne _
  rw [Iface.handleEthHdrInit]
  split
  · exact h
  split
  · exact h
  dsimp only
  rw [hc]
  split
  · refine ⟨⟨h.owned.active, ?_, fun j => ?_⟩, fun j => ?_, fun j hj => ?_⟩
    · have hbooks : (s.write s.numClient (c, s.kernel)).books tx = s.books tx :=
        Finset.sum_congr rfl fun j hj => by rw [hrest (Finset.mem_range.mp hj).ne]
      rw [hbooks]
      exact h.owned.holds
    · rcases eq_or_ne j s.numClient with rfl | hne
      · rw [write_self]
        exact hcwf
      · rw [hrest hne]
        exact h.owned.wf j
    · rcases eq_or_ne j s.numClient with rfl | hne
      · rw [write_self]
        exact hcawake
      · rw [hrest hne]
        exact h.awake j
    · rw [hrest (Nat.ne_of_lt hj)]
      exact h.routed j hj
  · have hinit : (c.initHeaders alloc tx s.kernel).1.powerSaveSet = false :=
      Client.addHeader_powerSaveSet.trans (Client.addHeader_powerSaveSet.trans hcawake)
    obtain ⟨hinitWf, hholds⟩ := hcwf.initHeaders hA h.owned.holds
    refine ⟨h.owned.append hinitWf hholds, fun j => ?_, fun j hj => ?_⟩
    · rcases eq_or_ne j s.numClient with rfl | hne
      · exact (congrArg Client.powerSaveSet (write_self _)).trans hinit
      · exact (congrArg Client.powerSaveSet (hrest hne)).trans (h.awake j)
    · dsimp only
      rcases eq_or_ne j s.numClient with rfl | hne
      · rw [write_self]
        rfl
      · rw [hrest hne]
        exact h.routed j (lt_of_le_of_ne (Nat.lt_succ_iff.mp hj) hne)

theorem Tidy.handleNeighIpAddrAdd (hA : alloc.Grants) (h : s.Tidy tx) {a : Addr}
    {ipv6Prefix : BitVec 64} {natIface : Option Bool} {resumed reply : Nat → Option Nat} :
    (s.handleNeighIpAddrAdd alloc tx mac a ipv6Prefix natIface resumed
      reply).Tidy tx := by
  cases hf : s.clientIndex mac with
  | none =>
    rw [Iface.handleNeighIpAddrAdd, handleClientIpaddr, hf]
    exact h
  | some i =>
    have hi := (clientIndex_eq_some hf).1
    refine (h.write hi ((h.owned.wf i).addAddr hA s.kernel) ?_ ?_).of_alike
      (handleNeighIpAddrAdd_alike hf)
    · exact Client.addAddr_powerSaveSet.trans (h.awake i)
    · exact Client.addAddr_set (h.awake i) (h.routed i hi) ipv6Prefix a

theorem Tidy.handleClientDownEvt (h : s.Tidy tx) :
    (s.handleClientDownEvt tx mac).Tidy tx := by
  cases hf : s.clientIndex mac with
  | none =>
    rw [Iface.handleClientDownEvt, hf]
    exact h
  | some i =>
    have hi := (clientIndex_eq_some hf).1
    obtain ⟨ck, -, hsave, -, halike⟩ := h.owned.handleClientDownEvt_alike hf
    have hawake : ∀ j, ((s.write i ck).clients j).powerSaveSet = false := by
      intro j
      rcases eq_or_ne j i with rfl | hne
      · rw [write_self, hsave]
        exact h.awake j
      · rw [write_of_ne hne]
        exact h.awake j
    have hnum : (s.handleClientDownEvt tx mac).numClient = s.numClient - 1 :=
      halike.numClient
    refine ⟨h.owned.handleClientDownEvt, fun j => ?_, fun j hj => ?_⟩
    · rw [halike.clients, closeGap_clients]
      split <;> exact hawake j
    · rw [hnum] at hj
      rw [halike.clients, closeGap_clients]
      have hlt : (s.write i ck).numClient = s.numClient := rfl
      split
      · rename_i hgap
        exact (congrArg (fun c : Client => c.routeRuleSetV6 = c.ipv6Set)
          (write_of_ne (by omega) ck)).mpr (h.routed (j + 1) (by omega))
      · rename_i hgap
        rw [write_of_ne (by omega)]
        exact h.routed j (by omega)

theorem Tidy.handleDelIpv6Addr (h : s.Tidy tx) {addr : BitVec 128}
    (hs : ∀ i, s.clientIndex mac = some i → (s.clients i).SoundDel tx addr) :
    (s.handleDelIpv6Addr tx mac addr).Tidy tx := by
  rw [Iface.handleDelIpv6Addr]
  split
  · exact h
  · rename_i i hf
    have hi := (clientIndex_eq_some hf).1
    obtain ⟨hkeeps, hrec⟩ := (h.owned.wf i).delIpv6Addr (h.routed i hi) (hs i hf) s.kernel
    refine h.write hi hkeeps ?_ ?_
    · obtain heq | ⟨t, n, heq⟩ := hrec
      · rw [heq]
        exact h.awake i
      · rw [heq]
        exact h.awake i
    · obtain heq | ⟨t, n, heq⟩ := hrec
      · rw [heq]
        exact h.routed i hi
      · rw [heq]
        exact congrArg (· - 1) (h.routed i hi)

/-! ## Runs -/

/-- The upstream is not the Wi-Fi station while there are clients, and the deletion
of an IPv6 address is sound. -/
def Careful (tx : List IpType) (s : Iface) : LanEvent → Prop
  | .neighIpAddrDel mac (.v6 addr) =>
    ∀ i, s.clientIndex mac = some i → (s.clients i).SoundDel tx addr
  | .wanUpTether isSta => isSta = true → s.numClient = 0
  | _ => True

/-- The table is tidy while the interface is up, and the kernel has nothing
afterwards. -/
def LanSettled (tx : List IpType) (s : Iface) : Prop :=
  s.Tidy tx ∨ s.isActive = false ∧ Holds s.kernel 0

theorem LanSettled.noLeak (h : s.LanSettled tx) : s.NoLeak tx :=
  Settled.noLeak (h.imp_left Tidy.owned)

theorem LanSettled.lanCallback (hA : alloc.Grants) (h : s.LanSettled tx) {ev : LanEvent}
    (hev : s.isActive = true → s.Careful tx ev) :
    (s.lanCallback alloc tx ev).LanSettled tx := by
  unfold Iface.lanCallback
  obtain h | ⟨hdown, h⟩ := h
  · rw [if_pos h.owned.active]
    have hev := hev h.owned.active
    cases ev with
    | neighIpAddrAdd backhaulIsSta mac a ipv6Prefix natIface resumed reply =>
      dsimp only
      split
      · exact .inl h
      · exact .inl ((h.handleEthHdrInit hA).handleNeighIpAddrAdd hA)
    | neighIpAddrDel mac a =>
      cases a with
      | v4 addr => exact .inl h.handleClientDownEvt
      | v6 addr => exact .inl (h.handleDelIpv6Addr hev)
    | wanUpTether isSta =>
      dsimp only
      split
      · rename_i hsta
        have hnone := hev hsta
        rw [Iface.cleanClients, hnone]
        exact .inl h
      · exact .inl h
    | linkDown => exact .inr ⟨rfl, h.owned.cleanClients⟩
  · rw [if_neg (by rw [hdown]; exact Bool.false_ne_true)]
    exact .inr ⟨hdown, h⟩

theorem init_tidy (tx : List IpType) (ct : CtListener) : (init ct).Tidy tx :=
  ⟨init_owned tx ct, fun _ => rfl, fun _ _ => rfl⟩

/-- Nothing leaks in a run of events that are careful while the interface is up. -/
theorem lanRun_noLeak (hA : alloc.Grants) (tx : List IpType) (ct : CtListener)
    (evs : List LanEvent)
    (hevs : ∀ pre ev, pre ++ [ev] <+: evs →
      ((init ct).lanRun alloc tx pre).isActive = true →
        ((init ct).lanRun alloc tx pre).Careful tx ev) :
    ∀ pre, pre <+: evs → ((init ct).lanRun alloc tx pre).NoLeak tx := by
  have hrun : ∀ pre, pre <+: evs → ((init ct).lanRun alloc tx pre).LanSettled tx := by
    intro pre
    induction pre using List.reverseRecOn with
    | nil => exact fun _ => .inl (init_tidy tx ct)
    | append_singleton pre ev ih =>
      intro hpre
      have h := ih ((List.prefix_append _ _).trans hpre)
      rw [lanRun, List.foldl_concat]
      exact h.lanCallback hA (hevs pre ev hpre)
  exact fun pre hpre => (hrun pre hpre).noLeak

end Iface

/-- A client with an address of each family, of which the IPv6 address goes. -/
def wiredClient : List LanEvent :=
  [.neighIpAddrAdd false 1 (.v4 0xC0A80102) 0 none (fun _ => none) fun _ => none,
    .neighIpAddrAdd false 1 (.v6 (0xFE80 <<< 112)) 0 none (fun _ => none) fun _ => none,
    .neighIpAddrDel 1 (.v6 (0xFE80 <<< 112)),
    .linkDown]

theorem wiredClient_noLeak :
    ((Iface.init newListener).lanRun nextHandle [.v4, .v6] wiredClient).NoLeak
      [.v4, .v6] := by
  refine Iface.lanRun_noLeak nextHandle_grants [.v4, .v6] newListener wiredClient
    (forall_concat_of_take fun k hk _ => ?_) wiredClient List.prefix_rfl
  have hk : k < 4 := hk
  interval_cases k
  · trivial
  · trivial
  · have hfirst : ((Iface.init newListener).lanRun nextHandle [.v4, .v6]
        (wiredClient.take 2)).clientIndex 1 = some 0 := by decide
    have haddr : ((((Iface.init newListener).lanRun nextHandle [.v4, .v6]
        (wiredClient.take 2)).clients 0).ipv6Set = 1) ∧
          (((Iface.init newListener).lanRun nextHandle [.v4, .v6]
            (wiredClient.take 2)).clients 0).v6Addr 0 = 0xFE80 <<< 112 := by decide
    intro i hi
    obtain rfl : 0 = i := Option.some.inj (hfirst.symm.trans hi)
    refine .inr (.inr (.inr (.inl ⟨by decide, 0, ?_, haddr.2⟩)))
    rw [haddr.1]
    exact Nat.zero_lt_one
  · trivial

/-- A client is there when the upstream becomes the Wi-Fi station, and the interface
goes down. -/
def stationUp : List LanEvent :=
  [.neighIpAddrAdd false 1 (.v4 0xC0A80102) 0 none (fun _ => none) fun _ => none,
    .wanUpTether true,
    .linkDown]

/-- Its header is deleted twice. -/
theorem stationUp_leaks :
    ¬ ((Iface.init newListener).lanRun nextHandle [.v4] stationUp).NoLeak [.v4] := by
  intro h
  have hrefused : ((Iface.init newListener).lanRun nextHandle [.v4]
      stationUp).kernel.refused = true := by decide
  exact Bool.false_ne_true (h.granted.symm.trans hrefused)

end Axon7.Clients
