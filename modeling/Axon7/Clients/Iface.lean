import Axon7.Clients.Client
import Axon7.Conntrack.CtListener

/-!
# The clients of IPACM_Wlan and IPACM_Lan

The array of records and their number, the kernel, and the listener of
connections with `NatApp`. The two kinds of interface do most things alike; what
each does with an event is in the last parts.
-/

namespace Axon7.Clients

open Axon7.Lib
open Axon7.Tether (IpType Addr)
open Axon7.Conntrack (Ip CtListener IfaceAddr)

/-- `IPA_MAX_NUM_WIFI_CLIENTS`. -/
def maxNumWifiClients : Nat := 32

/-- `IPA_MAX_NUM_ETH_CLIENTS`. -/
def maxNumEthClients : Nat := 15

/-- The clients of an interface. `num_wifi_client` or `num_eth_client` is
`numClient`. -/
structure Iface where
  clients : Nat → Client
  numClient : Nat
  kernel : Kernel
  ct : CtListener
  isActive : Bool

namespace Iface

variable (alloc : Alloc) (tx : List IpType)

/-- The constructor. -/
def init (ct : CtListener) : Iface where
  clients _ := .blank
  numClient := 0
  kernel := .empty
  ct := ct
  isActive := true

/-- `get_wlan_client_index` and `get_eth_client_index`. -/
def clientIndex (mac : Mac) (s : Iface) : Option Nat :=
  (List.range s.numClient).find? fun i => (s.clients i).mac = mac

/-- A record is written, with the kernel then. -/
def write (i : Nat) (ck : Client × Kernel) (s : Iface) : Iface :=
  { s with clients := Function.update s.clients i ck.1, kernel := ck.2 }

/-- `HandleNeighIpAddrDelEvt` for the address of a client, if it has one. -/
def dropAddr (c : Client) (s : Iface) : Iface :=
  if c.ipv4Set then { s with ct := s.ct.handleNeighIpAddrDelEvt c.v4Addr } else s

/-- `HandleNeighIpAddrAddEvt`. `natIface` is what `CheckNatIface` finds out. -/
def announce (a : Addr) (natIface : Option Bool) (resumed reply : Nat → Option Nat)
    (s : Iface) : Iface :=
  match a with
  | .v4 addr =>
    { s with ct := s.ct.handleNeighIpAddrAddEvt ⟨addr, true, natIface⟩ resumed reply }
  | .v6 _ => s

/-- `handle_wlan_client_ipaddr` and `handle_eth_client_ipaddr`, if they do not
fail. A client that had another IPv4 address is dropped from the listener
first. -/
def handleClientIpaddr (mac : Mac) (ipv6Prefix : BitVec 64) (a : Addr) (s : Iface) :
    Option Iface :=
  match s.clientIndex mac with
  | none => none
  | some i =>
    let c := s.clients i
    (c.ipaddr tx ipv6Prefix a s.kernel).map fun ck =>
      match a with
      | .v4 _ => (s.dropAddr c).write i ck
      | .v6 _ => s.write i ck

/-- `handle_wlan_client_route_rule` and `handle_eth_client_route_rule`. -/
def handleClientRouteRule (mac : Mac) (ip : IpType) (s : Iface) : Iface :=
  match s.clientIndex mac with
  | none => s
  | some i =>
    let c := s.clients i
    -- a LAN client never saves power
    if c.powerSaveSet then s else s.write i (c.routeRule alloc tx ip s.kernel)

/-- The gap at `i` is closed. -/
def closeGap (i : Nat) (s : Iface) : Iface :=
  { s with
    clients := (List.range' i (s.numClient - 1 - i)).foldl
      (fun cs j => Function.update cs j (.moveUp tx (cs (j + 1)) (cs j))) s.clients
    numClient := s.numClient - 1 }

/-- `handle_wlan_client_down_evt` and `handle_eth_client_down_evt`. -/
def handleClientDownEvt (mac : Mac) (s : Iface) : Iface :=
  match s.clientIndex mac with
  | none => s
  | some i =>
    let s := s.dropAddr (s.clients i)
    let (c, k) := (s.clients i).deleteRtRules tx .v4 s.kernel
    let (c, k) := c.deleteRtRules tx .v6 k
    match c.deleteHeader .v4 k with
    | none => s.write i (c, k)
    | some (c, k) =>
      match c.deleteHeader .v6 k with
      | none => s.write i (c, k)
      | some (c, k) =>
        let c := { c with
          ipv4Set := false
          ipv6Set := 0
          headerSet := fun _ => false
          routeRuleSetV4 := false
          routeRuleSetV6 := 0 }
        (s.write i (c, k)).closeGap tx i

/-- One turn of the loop over the clients when they all go: the flags for the
headers stay as they are. -/
def cleanClient (i : Nat) (s : Iface) : Iface :=
  let s := s.dropAddr (s.clients i)
  let (c, k) := (s.clients i).deleteRtRules tx .v4 s.kernel
  let (c, k) := c.deleteRtRules tx .v6 k
  let k := ((c.deleteHeader .v4 k).map Prod.snd).getD k
  let k := ((c.deleteHeader .v6 k).map Prod.snd).getD k
  s.write i (c, k)

def cleanClients (s : Iface) : Iface :=
  (List.range s.numClient).foldl (fun s i => s.cleanClient tx i) s

/-- `handle_down_evt`, as far as it is about clients. The records are freed. -/
def handleDownEvt (s : Iface) : Iface :=
  { s.cleanClients tx with isActive := false }

/-- `handle_wlan_client_reset_rt` and `handle_lan_client_reset_rt`. -/
def handleClientResetRt (ip : IpType) (s : Iface) : Iface :=
  (List.range s.numClient).foldl (fun s i =>
    let (c, k) := (s.clients i).deleteRtRules tx ip s.kernel
    let c :=
      match ip with
      | .v4 => { c with ipv4Set := false }
      | .v6 => { c with ipv6Set := 0 }
    s.write i (c, k)) s

/-! ## IPACM_Wlan -/

end Iface

/-- An attribute of `ipacm_event_data_wlan_ex`. -/
inductive HdrAttrib
  | macAddr (mac : Mac)
  | staId
  | other

/-- The MAC address that is written to the record. The last one stays. -/
def macAttrib (attribs : List HdrAttrib) (mac : Mac) : Mac :=
  attribs.foldl (fun mac a =>
    match a with
    | .macAddr mac => mac
    | _ => mac) mac

/-- The events about the clients of an `IPACM_Wlan`. What is read elsewhere comes
with them: `total_num_wifi_clients`, `ipv6_prefix`, what `CheckNatIface` finds
out, and what the NAT driver answers. -/
inductive WlanEvent
  | clientAdd (attribs : List HdrAttrib) (total : Nat)
  | clientDel (mac : Mac)
  | powerSave (mac : Mac)
  | recover (mac : Mac) (resumed : Nat → Option Nat)
  | neighIpAddrAdd (mac : Mac) (a : Addr) (ipv6Prefix : BitVec 64)
      (natIface : Option Bool) (resumed reply : Nat → Option Nat)
  | resetRt (ip : IpType)
  | linkDown

namespace Iface

variable (alloc : Alloc) (tx : List IpType)

/-- `handle_wlan_client_init_ex`. The new record is made in place of what was
left behind the last. -/
def handleWlanClientInitEx (attribs : List HdrAttrib) (total : Nat) (s : Iface) :
    Iface :=
  if maxNumWifiClients ≤ s.numClient ∨ maxNumWifiClients ≤ total then s
  else if tx = [] then s
  else
    let c := s.clients s.numClient
    let c := { c with mac := macAttrib attribs c.mac }
    let (c, k) := c.initHeaders alloc tx s.kernel
    { s.write s.numClient ({ c with powerSaveSet := false }, k) with
      numClient := s.numClient + 1 }

/-- `handle_wlan_client_pwrsave`. -/
def handleWlanClientPwrsave (mac : Mac) (s : Iface) : Iface :=
  match s.clientIndex mac with
  | none => s
  | some i =>
    let c := s.clients i
    if c.powerSaveSet then s
    else
      let s :=
        if c.ipv4Set then
          { s with ct := s.ct.call none (s.ct.natInst.updatePwrSaveIf c.v4Addr).2 }
        else s
      let (c, k) := c.deleteRtRules tx .v4 s.kernel
      let (c, k) := c.deleteRtRules tx .v6 k
      s.write i ({ c with powerSaveSet := true }, k)

/-- `IPA_WLAN_CLIENT_RECOVER_EVENT`. -/
def handleWlanClientRecover (mac : Mac) (resumed : Nat → Option Nat) (s : Iface) :
    Iface :=
  match s.clientIndex mac with
  | none => s
  | some i =>
    let c := s.clients i
    if c.powerSaveSet then
      let s := s.write i ({ c with powerSaveSet := false }, s.kernel)
      let s :=
        if c.ipv4Set then
          let s := s.handleClientRouteRule alloc tx mac .v4
          { s with
            ct := s.ct.call none (s.ct.natInst.resetPwrSaveIf c.v4Addr resumed) }
        else s
      if c.ipv6Set ≠ 0 then s.handleClientRouteRule alloc tx mac .v6 else s
    else s

/-- `IPA_NEIGH_CLIENT_IP_ADDR_ADD_EVENT`, alike for both kinds of interface
once there is a client. -/
def handleNeighIpAddrAdd (mac : Mac) (a : Addr) (ipv6Prefix : BitVec 64)
    (natIface : Option Bool) (resumed reply : Nat → Option Nat) (s : Iface) : Iface :=
  match s.handleClientIpaddr tx mac ipv6Prefix a with
  | none => s
  | some s =>
    (s.handleClientRouteRule alloc tx mac a.ipType).announce a natIface resumed
      reply

/-- `event_callback` of an `IPACM_Wlan`. -/
def wlanCallback (s : Iface) (ev : WlanEvent) : Iface :=
  if s.isActive then
    match ev with
    | .clientAdd attribs total => s.handleWlanClientInitEx alloc tx attribs total
    | .clientDel mac => s.handleClientDownEvt tx mac
    | .powerSave mac => s.handleWlanClientPwrsave tx mac
    | .recover mac resumed => s.handleWlanClientRecover alloc tx mac resumed
    | .neighIpAddrAdd mac a ipv6Prefix natIface resumed reply =>
      s.handleNeighIpAddrAdd alloc tx mac a ipv6Prefix natIface resumed reply
    | .resetRt ip => s.handleClientResetRt tx ip
    | .linkDown => s.handleDownEvt tx
  else s

def wlanRun (s : Iface) (evs : List WlanEvent) : Iface :=
  evs.foldl (wlanCallback alloc tx) s

end Iface

/-- A listener of an interface that is new, over a `NatApp` of one entry. -/
def newListener : CtListener :=
  .new 0 false [] (.new 1 0 (List.replicate maxNumWifiClients 0) [])

end Axon7.Clients

/-!
# The table of clients

How a client is found, what writing one record does to the search, and where the
records are once a gap is closed.
-/

namespace Axon7.Clients

open Axon7.Lib
open Axon7.Tether (IpType Addr)

namespace Iface

variable {tx : List IpType} {s t : Iface} {mac : Mac} {i : Nat}

/-! ## Finding a client -/

theorem clientIndex_eq_some (h : s.clientIndex mac = some i) :
    i < s.numClient ∧ (s.clients i).mac = mac := by
  refine ⟨List.mem_range.mp (List.mem_of_find?_eq_some h), ?_⟩
  have hmac := List.find?_some h
  exact of_decide_eq_true hmac

theorem clientIndex_eq_none :
    s.clientIndex mac = none ↔ ∀ i < s.numClient, (s.clients i).mac ≠ mac := by
  rw [clientIndex, List.find?_eq_none]
  simp

theorem clientIndex_congr (hnum : t.numClient = s.numClient)
    (hmac : ∀ i < s.numClient, (t.clients i).mac = (s.clients i).mac) :
    t.clientIndex mac = s.clientIndex mac := by
  rw [clientIndex, clientIndex, hnum]
  have hfind : ∀ l : List Nat, (∀ i ∈ l, i < s.numClient) →
      l.find? (fun i => (t.clients i).mac = mac) =
        l.find? (fun i => (s.clients i).mac = mac) := by
    intro l hl
    induction l with
    | nil => rfl
    | cons i l ih =>
      rw [List.find?_cons, List.find?_cons, hmac i (hl i List.mem_cons_self),
        ih fun j hj => hl j (List.mem_cons_of_mem _ hj)]
  exact hfind _ fun i hi => List.mem_range.mp hi

/-- The addresses in the table are distinct. -/
def Distinct (s : Iface) : Prop :=
  ∀ i j, i < s.numClient → j < s.numClient →
    (s.clients i).mac = (s.clients j).mac → i = j

/-! ## Closing a gap -/

theorem foldl_moveUp (tx : List IpType) (cs : Nat → Client) (i n : Nat) :
    (List.range' i n).foldl
        (fun cs j => Function.update cs j (.moveUp tx (cs (j + 1)) (cs j))) cs =
      fun j => if i ≤ j ∧ j < i + n then .moveUp tx (cs (j + 1)) (cs j) else cs j := by
  induction n with
  | zero =>
    funext j
    rw [if_neg (by omega)]
    rfl
  | succ n ih =>
    rw [List.range'_1_concat, List.foldl_append, ih, List.foldl_cons, List.foldl_nil]
    funext j
    rcases eq_or_ne j (i + n) with rfl | hne
    · dsimp only
      rw [Function.update_self, if_neg (by omega), if_neg (by omega),
        if_pos (by omega)]
    · rw [Function.update_of_ne hne]
      by_cases hj : i ≤ j ∧ j < i + n
      · rw [if_pos hj, if_pos (by omega)]
      · rw [if_neg hj, if_neg (by omega)]

theorem closeGap_clients (j : Nat) :
    (s.closeGap tx i).clients j =
      if i ≤ j ∧ j + 1 < s.numClient then .moveUp tx (s.clients (j + 1)) (s.clients j)
      else s.clients j := by
  rw [closeGap, foldl_moveUp]
  dsimp only
  by_cases hj : i ≤ j ∧ j + 1 < s.numClient
  · rw [if_pos hj, if_pos (by omega)]
  · rw [if_neg hj, if_neg (by omega)]

/-- Where the record at `j` was. -/
def skip (i j : Nat) : Nat := if j < i then j else j + 1

theorem skip_ne : skip i j ≠ i := by
  rw [skip]
  split <;> omega

theorem skip_lt {n : Nat} (hj : j < n) : skip i j < n + 1 := by
  rw [skip]
  split <;> omega

theorem skip_injective : Function.Injective (skip i) := by
  intro j k h
  rw [skip, skip] at h
  split at h <;> split at h <;> omega

theorem exists_skip {n k : Nat} (hk : k < n + 1) (hne : k ≠ i) (hi : i < n + 1) :
    ∃ j < n, skip i j = k := by
  rcases Nat.lt_or_ge k i with hlt | hge
  · exact ⟨k, by omega, if_pos hlt⟩
  · exact ⟨k - 1, by omega, by rw [skip, if_neg (by omega)]; omega⟩

theorem sum_skip {M : Type*} [AddCommMonoid M] (f : Nat → M) {n : Nat} (hi : i ≤ n) :
    ∑ j ∈ Finset.range (n + 1), f j = f i + ∑ j ∈ Finset.range n, f (skip i j) := by
  induction n with
  | zero =>
    obtain rfl : i = 0 := Nat.le_zero.mp hi
    simp
  | succ n ih =>
    rw [Finset.sum_range_succ]
    rcases Nat.lt_or_ge n i with hlt | hge
    · obtain rfl : i = n + 1 := by omega
      have hsame : ∀ j ∈ Finset.range (n + 1), f (skip (n + 1) j) = f j := by
        intro j hj
        rw [skip, if_pos (Finset.mem_range.mp hj)]
      rw [Finset.sum_congr rfl hsame, add_comm]
    · rw [ih hge, Finset.sum_range_succ _ n, skip, if_neg (Nat.not_lt.mpr hge),
        add_assoc]

end Iface

end Axon7.Clients
