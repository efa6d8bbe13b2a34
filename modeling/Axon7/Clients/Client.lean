import Axon7.Tether.Lan

/-!
# A client of a tethered interface

`ipa_wlan_client` and `ipa_eth_client`: the addresses of a client, the headers
that were made for it and the routing rules that lead to its addresses, one
table of handles for each transmit property of the interface. The flags and the
counts of the record say which of the handles are in use.

The kernel is the pool of what it has handles for. What is left out of a rule is
the pipe.
-/

namespace Axon7.Clients

open Axon7.Lib

open Axon7.Tether (IpType Addr)

abbrev Mac := BitVec 48

/-! ## The kernel -/

/-- What there are handles for. -/
inductive Res
  | hdr
  | rt (ip : IpType)
deriving DecidableEq

/-- `rt_tbl_lan_v4`, `rt_tbl_v6` and `rt_tbl_wan_v6`. -/
inductive RtTbl
  | lanV4
  | v6
  | wanV6
deriving DecidableEq

/-- A full header, or a routing rule made from the attributes of a transmit
property, with the client it is for. -/
inductive Item
  | header (mac : Mac) (ip : IpType)
  | rtRule (mac : Mac) (tbl : RtTbl) (txIndex : Nat) (dst : Addr) (hdrHdl : Nat)
deriving DecidableEq

abbrev Kernel := Pool (Res × Nat) Item

/-- The handle the kernel gives next. -/
abbrev Alloc := Kernel → Res → Nat

/-- The kernel gives handles that are not in use and not 0. -/
structure Alloc.Grants (alloc : Alloc) : Prop where
  fresh : ∀ (k : Kernel) res, k.Fresh (res, alloc k res)
  ne_zero : ∀ k res, alloc k res ≠ 0

/-- A kernel that counts its handles up. -/
def nextHandle : Alloc := fun k _ => k.nextHandle

theorem nextHandle_grants : nextHandle.Grants where
  fresh k res := k.fresh_nextHandle res
  ne_zero _ _ := Nat.succ_ne_zero _

/-- `DeleteRoutingHdl`: the handle 0 is skipped. -/
def deleteRoutingHdl (ip : IpType) (hdl : Nat) (k : Kernel) : Kernel :=
  if hdl = 0 then k else k.del (.rt ip, hdl)

/-- `DeleteHeaderHdl`: the handle 0 is refused. -/
def deleteHeaderHdl (hdl : Nat) (k : Kernel) : Option Kernel :=
  if hdl = 0 then none else some (k.del (.hdr, hdl))

/-! ## The record -/

/-- `IPV6_NUM_ADDR`. -/
def ipv6NumAddr : Nat := 3

/-- `wlan_client_rt_hdl` or `eth_client_rt_hdl`: where the handle of a rule is
kept, by transmit property and, for IPv6, by address. -/
inductive RtHdl
  | v4 (txIndex : Nat)
  | v6 (txIndex numV6 : Nat)
  | v6Wan (txIndex numV6 : Nat)
deriving DecidableEq

def RtHdl.ip : RtHdl → IpType
  | .v4 _ => .v4
  | .v6 _ _ => .v6
  | .v6Wan _ _ => .v6

/-- The record of a client. `hdr_hdl_v4` and `hdr_hdl_v6` are `hdrHdl`,
`ipv4_header_set` and `ipv6_header_set` are `headerSet`. Only a WLAN client has
`power_save_set`; a LAN client never sets it. -/
structure Client where
  mac : Mac
  v4Addr : BitVec 32
  v6Addr : Nat → BitVec 128
  hdrHdl : IpType → Nat
  routeRuleSetV4 : Bool
  routeRuleSetV6 : Nat
  ipv4Set : Bool
  ipv6Set : Nat
  headerSet : IpType → Bool
  powerSaveSet : Bool
  rtHdl : RtHdl → Nat

namespace Client

/-- The memory is cleared. -/
def blank : Client where
  mac := 0
  v4Addr := 0
  v6Addr _ := 0
  hdrHdl _ := 0
  routeRuleSetV4 := false
  routeRuleSetV6 := 0
  ipv4Set := false
  ipv6Set := 0
  headerSet _ := false
  powerSaveSet := false
  rtHdl _ := 0

/-- The rule whose handle is kept at the place. -/
def rtRule (c : Client) : RtHdl → Item
  | .v4 t => .rtRule c.mac .lanV4 t (.v4 c.v4Addr) (c.hdrHdl .v4)
  | .v6 t n => .rtRule c.mac .v6 t (.v6 (c.v6Addr n)) 0
  | .v6Wan t n => .rtRule c.mac .wanV6 t (.v6 (c.v6Addr n)) (c.hdrHdl .v6)

end Client

/-! ## Transmit properties

The interface has a list of them, each with its family. -/

section TxProps

variable (tx : List IpType)

/-- The transmit properties of the family. -/
def txOf (ip : IpType) : List Nat :=
  (List.range tx.length).filter fun t => tx[t]? = some ip

def v4Hdls : List RtHdl := (txOf tx .v4).map .v4

/-- Both handles for each of the addresses. -/
def v6Hdls (nums : List Nat) : List RtHdl :=
  (txOf tx .v6).flatMap fun t => nums.flatMap fun n => [.v6 t n, .v6Wan t n]

end TxProps

namespace Client

variable (alloc : Alloc) (tx : List IpType)

/-! ## Headers -/

/-- The header of the family, from the first transmit property that has it. -/
def addHeader (ip : IpType) (c : Client) (k : Kernel) : Client × Kernel :=
  if ip ∈ tx then
    let hdl := alloc k .hdr
    ({ c with
        hdrHdl := Function.update c.hdrHdl ip hdl
        headerSet := Function.update c.headerSet ip true },
      k.add (.hdr, hdl) (.header c.mac ip))
  else (c, k)

def deleteHeader (ip : IpType) (c : Client) (k : Kernel) : Option (Client × Kernel) :=
  if c.headerSet ip then
    (deleteHeaderHdl (c.hdrHdl ip) k).map fun k =>
      ({ c with headerSet := Function.update c.headerSet ip false }, k)
  else some (c, k)

/-- The last part of `handle_wlan_client_init_ex` and `handle_eth_hdr_init`. -/
def initHeaders (c : Client) (k : Kernel) : Client × Kernel :=
  let (c, k) := c.addHeader alloc tx .v4 k
  let (c, k) := c.addHeader alloc tx .v6 k
  ({ c with
      routeRuleSetV4 := false
      routeRuleSetV6 := 0
      ipv4Set := false
      ipv6Set := 0 }, k)

/-! ## Routing rules -/

/-- Rules are added one after the other, each handle kept in its place. -/
def addRtRules (hdls : List RtHdl) (c : Client) (k : Kernel) : Client × Kernel :=
  hdls.foldl (fun (c, k) r =>
    let hdl := alloc k (.rt r.ip)
    ({ c with rtHdl := Function.update c.rtHdl r hdl },
      k.add (.rt r.ip, hdl) (c.rtRule r))) (c, k)

def deleteRtHdls (hdls : List RtHdl) (c : Client) (k : Kernel) : Kernel :=
  hdls.foldl (fun k r => deleteRoutingHdl r.ip (c.rtHdl r) k) k

/-- `handle_wlan_client_route_rule` and `handle_eth_client_route_rule`, from
where the client is found. -/
def routeRule (ip : IpType) (c : Client) (k : Kernel) : Client × Kernel :=
  match ip with
  | .v4 =>
    if c.routeRuleSetV4 = false ∧ c.ipv4Set = true then
      let (c, k) := c.addRtRules alloc (v4Hdls tx) k
      ({ c with routeRuleSetV4 := true }, k)
    else (c, k)
  | .v6 =>
    if c.routeRuleSetV6 < c.ipv6Set then
      let nums := List.range' c.routeRuleSetV6 (c.ipv6Set - c.routeRuleSetV6)
      let (c, k) := c.addRtRules alloc (v6Hdls tx nums) k
      ({ c with routeRuleSetV6 := c.ipv6Set }, k)
    else (c, k)

/-- `delete_default_qos_rtrules` and `delete_eth_rtrules`. -/
def deleteRtRules (ip : IpType) (c : Client) (k : Kernel) : Client × Kernel :=
  match ip with
  | .v4 =>
    ({ c with routeRuleSetV4 := false },
      if c.routeRuleSetV4 then c.deleteRtHdls (v4Hdls tx) k else k)
  | .v6 =>
    ({ c with routeRuleSetV6 := 0 },
      c.deleteRtHdls (v6Hdls tx (List.range c.routeRuleSetV6)) k)

/-! ## Addresses -/

/-- A link-local address, or one with the prefix. -/
def isOffloaded (ipv6Prefix : BitVec 64) (addr : BitVec 128) : Bool :=
  addr.extractLsb' 96 32 &&& 0xFFC00000 = 0xFE800000 &&& 0xFFC00000 ||
    addr.extractLsb' 64 64 = ipv6Prefix

/-- `handle_wlan_client_ipaddr` and `handle_eth_client_ipaddr`, from where the
client is found. A failure changes nothing. -/
def ipaddr (ipv6Prefix : BitVec 64) (a : Addr) (c : Client) (k : Kernel) :
    Option (Client × Kernel) :=
  match a with
  | .v4 addr =>
    if addr = 0 then none
    else if c.ipv4Set = false then
      some ({ c with v4Addr := addr, ipv4Set := true }, k)
    else if addr = c.v4Addr then none
    else
      let (c, k) := c.deleteRtRules tx .v4 k
      some ({ c with v4Addr := addr }, k)
  | .v6 addr =>
    if addr = 0 then none
    else if isOffloaded ipv6Prefix addr = false then none
    else if c.ipv6Set < ipv6NumAddr then
      if ∃ n < c.ipv6Set, c.v6Addr n = addr then none
      else
        some ({ c with
          v6Addr := Function.update c.v6Addr c.ipv6Set addr
          ipv6Set := c.ipv6Set + 1 }, k)
    else none

/-! ## The next record moved up

The arrays are copied as far as the counts say. `power_save_set` is not
copied. -/

/-- The handle is copied. -/
def Moves (tx : List IpType) (next : Client) : RtHdl → Prop
  | .v4 t => t < tx.length
  | .v6 t n => t < tx.length ∧ n < next.routeRuleSetV6
  | .v6Wan t n => t < tx.length ∧ n < next.routeRuleSetV6

instance (next : Client) : DecidablePred (Moves tx next)
  | .v4 t => inferInstanceAs (Decidable (t < tx.length))
  | .v6 t n => inferInstanceAs (Decidable (t < tx.length ∧ n < next.routeRuleSetV6))
  | .v6Wan t n => inferInstanceAs (Decidable (t < tx.length ∧ n < next.routeRuleSetV6))

/-- One turn of the loop that closes the gap. -/
def moveUp (next c : Client) : Client where
  mac := next.mac
  v4Addr := next.v4Addr
  v6Addr n := if n < next.ipv6Set then next.v6Addr n else c.v6Addr n
  hdrHdl := next.hdrHdl
  routeRuleSetV4 := next.routeRuleSetV4
  routeRuleSetV6 := next.routeRuleSetV6
  ipv4Set := next.ipv4Set
  ipv6Set := next.ipv6Set
  headerSet := next.headerSet
  powerSaveSet := c.powerSaveSet
  rtHdl r := if Moves tx next r then next.rtHdl r else c.rtHdl r

/-! ## The fields an operation leaves alone -/

variable {alloc : Alloc} {tx : List IpType} {c : Client} {k : Kernel} {ip : IpType}

theorem addRtRules_eq (alloc : Alloc) (hdls : List RtHdl) (c : Client) (k : Kernel) :
    c.addRtRules alloc hdls k =
      ({ c with rtHdl := (c.addRtRules alloc hdls k).1.rtHdl },
        (c.addRtRules alloc hdls k).2) := by
  induction hdls generalizing c k with
  | nil => rfl
  | cons r hdls ih => exact ih _ _

theorem routeRule_fst (alloc : Alloc) (tx : List IpType) (ip : IpType) (c : Client)
    (k : Kernel) : ∃ hdl v4 v6, (c.routeRule alloc tx ip k).1 =
      { c with rtHdl := hdl, routeRuleSetV4 := v4, routeRuleSetV6 := v6 } := by
  cases ip with
  | v4 =>
    rw [routeRule]
    split
    · rw [addRtRules_eq]
      exact ⟨_, _, _, rfl⟩
    · exact ⟨_, _, _, rfl⟩
  | v6 =>
    rw [routeRule]
    split
    · dsimp only
      rw [addRtRules_eq]
      exact ⟨_, _, _, rfl⟩
    · exact ⟨_, _, _, rfl⟩

@[simp] theorem routeRule_mac : (c.routeRule alloc tx ip k).1.mac = c.mac := by
  obtain ⟨_, _, _, h⟩ := routeRule_fst alloc tx ip c k
  rw [h]

theorem ipaddr_mac {ipv6Prefix : BitVec 64} {a : Addr} {ck : Client × Kernel}
    (h : c.ipaddr tx ipv6Prefix a k = some ck) : ck.1.mac = c.mac := by
  cases a with
  | v4 addr =>
    rw [ipaddr] at h
    split at h
    · cases h
    split at h
    · cases h
      rfl
    split at h <;> cases h
    rfl
  | v6 addr =>
    rw [ipaddr] at h
    split at h
    · cases h
    split at h
    · cases h
    split at h
    · split at h <;> cases h
      rfl
    · cases h

end Client

end Axon7.Clients
