import Axon7.Clients.Iface

/-!
# What an event does to one record

Power save, recovery and a new address are about one client: the record of that
client changes, and the others stay. What becomes of the record depends on the
record and on the kernel alone.
-/

namespace Axon7.Clients

open Axon7.Lib
open Axon7.Tether (IpType Addr)
open Axon7.Conntrack (Ip)

namespace Client

variable (alloc : Alloc) (tx : List IpType)

/-- The client sleeps. -/
def sleep (c : Client) (k : Kernel) : Client × Kernel :=
  if c.powerSaveSet then (c, k)
  else
    let (c, k) := c.deleteRtRules tx .v4 k
    let (c, k) := c.deleteRtRules tx .v6 k
    ({ c with powerSaveSet := true }, k)

/-- The client is awake again. -/
def wake (c : Client) (k : Kernel) : Client × Kernel :=
  if c.powerSaveSet then
    let c := { c with powerSaveSet := false }
    let (c, k) := if c.ipv4Set then c.routeRule alloc tx .v4 k else (c, k)
    if c.ipv6Set ≠ 0 then c.routeRule alloc tx .v6 k else (c, k)
  else (c, k)

/-- The client has an address. -/
def addAddr (ipv6Prefix : BitVec 64) (a : Addr) (c : Client) (k : Kernel) :
    Client × Kernel :=
  match c.ipaddr tx ipv6Prefix a k with
  | none => (c, k)
  | some (c, k) =>
    if c.powerSaveSet then (c, k) else c.routeRule alloc tx a.ipType k

/-- A client is made, in place of what was there. -/
def make (attribs : List HdrAttrib) (c : Client) (k : Kernel) : Client × Kernel :=
  let c := { c with mac := macAttrib attribs c.mac }
  let (c, k) := c.initHeaders alloc tx k
  ({ c with powerSaveSet := false }, k)

variable {alloc tx} {c : Client} {k : Kernel} {ip : IpType}

theorem sleep_mac : (c.sleep tx k).1.mac = c.mac := by
  rw [sleep]
  split <;> rfl

theorem wake_mac : (c.wake alloc tx k).1.mac = c.mac := by
  rw [wake]
  split
  · dsimp only
    split <;> split <;> simp
  · rfl

theorem addAddr_mac {ipv6Prefix : BitVec 64} {a : Addr} :
    (c.addAddr alloc tx ipv6Prefix a k).1.mac = c.mac := by
  rw [addAddr]
  split
  · rfl
  · rename_i c' k' h
    have hmac := ipaddr_mac h
    split
    · exact hmac
    · exact routeRule_mac.trans hmac

theorem addHeader_mac : (c.addHeader alloc tx ip k).1.mac = c.mac := by
  rw [addHeader]
  split <;> rfl

theorem make_mac {attribs : List HdrAttrib} :
    (c.make alloc tx attribs k).1.mac = macAttrib attribs c.mac := by
  have hv4 : (addHeader alloc tx .v4 { c with mac := macAttrib attribs c.mac } k).1.mac =
      macAttrib attribs c.mac := addHeader_mac
  exact Eq.trans (addHeader_mac (c := (addHeader alloc tx .v4
    { c with mac := macAttrib attribs c.mac } k).1)) hv4

/-! ## What an event leaves of a record -/

theorem sleep_fst : (c.sleep tx k).1 =
    if c.powerSaveSet then c
    else { c with routeRuleSetV4 := false, routeRuleSetV6 := 0, powerSaveSet := true } := by
  rw [sleep]
  split <;> rfl

theorem wake_fst (alloc : Alloc) (tx : List IpType) (c : Client) (k : Kernel) :
    ∃ hdl v4 v6, (c.wake alloc tx k).1 = { c with
      powerSaveSet := false
      rtHdl := hdl
      routeRuleSetV4 := v4
      routeRuleSetV6 := v6 } := by
  rw [wake]
  split
  · have hv6 : ∀ ck : Client × Kernel, ∃ hdl v4 v6,
        (if ck.1.ipv6Set ≠ 0 then ck.1.routeRule alloc tx .v6 ck.2 else ck).1 =
          { ck.1 with rtHdl := hdl, routeRuleSetV4 := v4, routeRuleSetV6 := v6 } := by
      intro ck
      split
      · exact routeRule_fst alloc tx .v6 ck.1 ck.2
      · exact ⟨_, _, _, rfl⟩
    dsimp only
    split
    · obtain ⟨hdl, v4, v6, heq⟩ := hv6 (({ c with powerSaveSet := false } :
        Client).routeRule alloc tx .v4 k)
      obtain ⟨hdl', v4', v6', heq'⟩ := routeRule_fst alloc tx .v4
        { c with powerSaveSet := false } k
      refine ⟨hdl, v4, v6, heq.trans ?_⟩
      rw [heq']
    · exact hv6 ({ c with powerSaveSet := false }, k)
  · rename_i hawake
    refine ⟨c.rtHdl, c.routeRuleSetV4, c.routeRuleSetV6, ?_⟩
    rw [← Bool.eq_false_of_not_eq_true hawake]

theorem sleep_powerSaveSet : (c.sleep tx k).1.powerSaveSet = true := by
  rw [sleep_fst]
  split
  · assumption
  · rfl

theorem wake_powerSaveSet : (c.wake alloc tx k).1.powerSaveSet = false := by
  obtain ⟨_, _, _, heq⟩ := wake_fst alloc tx c k
  rw [heq]

theorem ipaddr_v4 (tx : List IpType) (ipv6Prefix : BitVec 64) (k : Kernel) {addr : Ip}
    (hne : addr ≠ 0)
    (hnew : ¬ (c.ipv4Set = true ∧ c.v4Addr = addr)) :
    ∃ v4 k', c.ipaddr tx ipv6Prefix (.v4 addr) k = some ({ c with
      v4Addr := addr
      ipv4Set := true
      routeRuleSetV4 := v4 }, k') := by
  rw [ipaddr, if_neg hne]
  split
  · exact ⟨c.routeRuleSetV4, k, rfl⟩
  · rename_i hset
    have hset := Bool.eq_true_of_not_eq_false hset
    rw [if_neg fun heq => hnew ⟨hset, heq.symm⟩, ← hset]
    exact ⟨false, _, rfl⟩

theorem ipaddr_v4_eq_none {ipv6Prefix : BitVec 64} {addr : Ip}
    (hold : addr = 0 ∨ c.ipv4Set = true ∧ c.v4Addr = addr) :
    c.ipaddr tx ipv6Prefix (.v4 addr) k = none := by
  rw [ipaddr]
  split
  · rfl
  · rename_i hne
    obtain ⟨hset, heq⟩ := hold.resolve_left hne
    rw [if_neg (by rw [hset]; rintro ⟨⟩), if_pos heq.symm]

theorem ipaddr_v6 {ipv6Prefix : BitVec 64} {addr : BitVec 128}
    {ck : Client × Kernel} (h : c.ipaddr tx ipv6Prefix (.v6 addr) k = some ck) :
    ∃ a, ck.1 = { c with v6Addr := a, ipv6Set := c.ipv6Set + 1 } := by
  rw [ipaddr] at h
  split at h
  · cases h
  split at h
  · cases h
  split at h
  · split at h <;> cases h
    exact ⟨_, rfl⟩
  · cases h

theorem addAddr_powerSaveSet {ipv6Prefix : BitVec 64} {a : Addr} :
    (c.addAddr alloc tx ipv6Prefix a k).1.powerSaveSet = c.powerSaveSet := by
  rw [addAddr]
  split
  · rfl
  · rename_i c' k' hck
    have hsave : c'.powerSaveSet = c.powerSaveSet := by
      cases a with
      | v4 addr =>
        by_cases hold : addr = 0 ∨ c.ipv4Set = true ∧ c.v4Addr = addr
        · rw [ipaddr_v4_eq_none hold] at hck
          cases hck
        · obtain ⟨hne, hnew⟩ := not_or.mp hold
          obtain ⟨v4, k'', heq⟩ := ipaddr_v4 tx ipv6Prefix k hne hnew
          rw [heq] at hck
          cases hck
          rfl
      | v6 addr =>
        obtain ⟨_, heq⟩ := ipaddr_v6 hck
        rw [show c' = _ from heq]
    split
    · exact hsave
    · obtain ⟨_, _, _, heq⟩ := routeRule_fst alloc tx a.ipType c' k'
      rw [heq]
      exact hsave

theorem addAddr_v4_fst (alloc : Alloc) (tx : List IpType) (ipv6Prefix : BitVec 64)
    (k : Kernel) {addr : Ip} (hne : addr ≠ 0) (hnew : ¬ (c.ipv4Set = true ∧ c.v4Addr = addr)) :
    ∃ hdl v4 v6, (c.addAddr alloc tx ipv6Prefix (.v4 addr) k).1 = { c with
      v4Addr := addr
      ipv4Set := true
      rtHdl := hdl
      routeRuleSetV4 := v4
      routeRuleSetV6 := v6 } := by
  obtain ⟨v4, k', heq⟩ := ipaddr_v4 tx ipv6Prefix k hne hnew
  rw [addAddr, heq]
  dsimp only
  split
  · exact ⟨_, _, _, rfl⟩
  · obtain ⟨hdl, v4', v6, hroute⟩ := routeRule_fst alloc tx (Addr.v4 addr).ipType
      { c with v4Addr := addr, ipv4Set := true, routeRuleSetV4 := v4 } k'
    exact ⟨hdl, v4', v6, hroute⟩

theorem addAddr_v6_fst (alloc : Alloc) (tx : List IpType) (ipv6Prefix : BitVec 64)
    (addr : BitVec 128) (c : Client) (k : Kernel) :
    ∃ a n hdl v4 v6, (c.addAddr alloc tx ipv6Prefix (.v6 addr) k).1 = { c with
      v6Addr := a
      ipv6Set := n
      rtHdl := hdl
      routeRuleSetV4 := v4
      routeRuleSetV6 := v6 } ∧
      (c.powerSaveSet = true → v4 = c.routeRuleSetV4 ∧ v6 = c.routeRuleSetV6) := by
  rw [addAddr]
  split
  · exact ⟨_, _, _, _, _, rfl, fun _ => ⟨rfl, rfl⟩⟩
  · rename_i c' k' hck
    obtain ⟨a, heq⟩ := ipaddr_v6 hck
    obtain rfl : c' = _ := heq
    split
    · exact ⟨_, _, _, _, _, rfl, fun _ => ⟨rfl, rfl⟩⟩
    · rename_i hawake
      obtain ⟨hdl, v4, v6, hroute⟩ := routeRule_fst alloc tx (Addr.v6 addr).ipType
        { c with v6Addr := a, ipv6Set := c.ipv6Set + 1 } k'
      exact ⟨a, c.ipv6Set + 1, hdl, v4, v6, hroute, fun hasleep => absurd hasleep hawake⟩

end Client

namespace Iface

variable {alloc : Alloc} {tx : List IpType} {s t u : Iface} {mac : Mac} {i : Nat}

/-! ## On the table -/

/-- Alike but for the listener. -/
structure Alike (s t : Iface) : Prop where
  clients : t.clients = s.clients
  numClient : t.numClient = s.numClient
  kernel : t.kernel = s.kernel
  isActive : t.isActive = s.isActive

theorem Alike.refl (s : Iface) : s.Alike s := ⟨rfl, rfl, rfl, rfl⟩

theorem Alike.trans (h : s.Alike t) (h' : t.Alike u) : s.Alike u where
  clients := h'.clients.trans h.clients
  numClient := h'.numClient.trans h.numClient
  kernel := h'.kernel.trans h.kernel
  isActive := h'.isActive.trans h.isActive

theorem Alike.symm (h : s.Alike t) : t.Alike s :=
  ⟨h.clients.symm, h.numClient.symm, h.kernel.symm, h.isActive.symm⟩

theorem dropAddr_alike (c : Client) : s.Alike (s.dropAddr c) := by
  rw [dropAddr]
  split <;> exact ⟨rfl, rfl, rfl, rfl⟩

theorem Alike.write (h : s.Alike t) (i : Nat) (ck : Client × Kernel) :
    (s.write i ck).Alike (t.write i ck) where
  clients := by rw [Iface.write, Iface.write, h.clients]
  numClient := h.numClient
  kernel := rfl
  isActive := h.isActive

theorem Alike.clientIndex (h : s.Alike t) : t.clientIndex mac = s.clientIndex mac :=
  clientIndex_congr h.numClient fun i _ => by rw [h.clients]

@[simp] theorem write_self (ck : Client × Kernel) : (s.write i ck).clients i = ck.1 :=
  Function.update_self _ _ _

@[simp] theorem write_write (ck ck' : Client × Kernel) :
    (s.write i ck).write i ck' = s.write i ck' := by
  simp [write]

theorem write_of_ne {j : Nat} (hne : j ≠ i) (ck : Client × Kernel) :
    (s.write i ck).clients j = s.clients j :=
  Function.update_of_ne hne _ _

theorem write_same : s.write i (s.clients i, s.kernel) = s := by
  simp [write]

theorem clientIndex_write {ck : Client × Kernel} (hmac : ck.1.mac = (s.clients i).mac) :
    (s.write i ck).clientIndex mac = s.clientIndex mac := by
  refine clientIndex_congr rfl fun j _ => ?_
  rcases eq_or_ne j i with rfl | hne
  · rw [write_self, hmac]
  · rw [write_of_ne hne]

theorem handleClientRouteRule_write (hi : s.clientIndex mac = some i)
    {ck : Client × Kernel} (hmac : ck.1.mac = (s.clients i).mac) (ip : IpType) :
    (s.write i ck).handleClientRouteRule alloc tx mac ip =
      s.write i (if ck.1.powerSaveSet then ck else ck.1.routeRule alloc tx ip ck.2) := by
  rw [handleClientRouteRule, clientIndex_write hmac, hi]
  dsimp only
  rw [write_self]
  split
  · rfl
  · rw [write_write]
    rfl

theorem Alike.handleClientRouteRule (h : s.Alike t) (alloc : Alloc)
    (tx : List IpType) (mac : Mac) (ip : IpType) :
    (s.handleClientRouteRule alloc tx mac ip).Alike
      (t.handleClientRouteRule alloc tx mac ip) := by
  rw [Iface.handleClientRouteRule, Iface.handleClientRouteRule, h.clientIndex, h.clients,
    h.kernel]
  split
  · exact h
  · dsimp only
    split
    · exact h
    · exact h.write _ _

theorem announce_alike (a : Addr) (natIface : Option Bool)
    (resumed reply : Nat → Option Nat) :
    s.Alike (s.announce a natIface resumed reply) := by
  cases a <;> exact ⟨rfl, rfl, rfl, rfl⟩

/-! ## The handlers -/

theorem handleWlanClientInitEx_eq {attribs : List HdrAttrib} {total : Nat}
    (hroom : ¬ (maxNumWifiClients ≤ s.numClient ∨ maxNumWifiClients ≤ total))
    (htx : tx ≠ []) : s.handleWlanClientInitEx alloc tx attribs total =
      { s.write s.numClient
          ((s.clients s.numClient).make alloc tx attribs s.kernel) with
        numClient := s.numClient + 1 } := by
  rw [handleWlanClientInitEx, if_neg hroom, if_neg htx]
  rfl

theorem handleWlanClientPwrsave_alike (hi : s.clientIndex mac = some i) :
    (s.write i ((s.clients i).sleep tx s.kernel)).Alike
      (s.handleWlanClientPwrsave tx mac) := by
  rw [handleWlanClientPwrsave, hi, Client.sleep]
  dsimp only
  split
  · rw [write_same]
    exact .refl s
  · split <;> exact ⟨rfl, rfl, rfl, rfl⟩

theorem handleWlanClientRecover_alike (hi : s.clientIndex mac = some i)
    {resumed : Nat → Option Nat} :
    (s.write i ((s.clients i).wake alloc tx s.kernel)).Alike
      (s.handleWlanClientRecover alloc tx mac resumed) := by
  rw [handleWlanClientRecover, hi, Client.wake]
  dsimp only
  split
  · have hv6 : ∀ {t : Iface} {ck : Client × Kernel}, (s.write i ck).Alike t →
        ck.1.mac = (s.clients i).mac → ck.1.powerSaveSet = false →
        ck.1.ipv6Set = (s.clients i).ipv6Set →
        (s.write i (if ck.1.ipv6Set ≠ 0 then ck.1.routeRule alloc tx .v6 ck.2
            else ck)).Alike
          (if (s.clients i).ipv6Set ≠ 0 then t.handleClientRouteRule alloc tx mac .v6
            else t) := by
      intro t ck ht hmac hawake hnum
      rw [hnum]
      split
      · have hroute := ht.handleClientRouteRule alloc tx mac .v6
        rw [handleClientRouteRule_write hi hmac, hawake] at hroute
        exact hroute
      · exact ht
    split
    · -- the IPv4 rules come before the NAT rules
      obtain ⟨_, _, _, hfst⟩ := Client.routeRule_fst alloc tx .v4
        { s.clients i with powerSaveSet := false } s.kernel
      refine hv6 (t := { Iface.handleClientRouteRule alloc tx mac .v4
        (s.write i ({ s.clients i with powerSaveSet := false }, s.kernel)) with
        ct := _ }) ?_ ?_ ?_ ?_
      · rw [handleClientRouteRule_write hi rfl]
        exact ⟨rfl, rfl, rfl, rfl⟩
      all_goals rw [hfst]
    · exact hv6 (.refl _) rfl rfl rfl
  · rw [write_same]
    exact .refl s

theorem handleNeighIpAddrAdd_alike (hi : s.clientIndex mac = some i) {a : Addr}
    {ipv6Prefix : BitVec 64} {natIface : Option Bool} {resumed reply : Nat → Option Nat} :
    (s.write i ((s.clients i).addAddr alloc tx ipv6Prefix a s.kernel)).Alike
      (s.handleNeighIpAddrAdd alloc tx mac a ipv6Prefix natIface resumed reply) := by
  rw [handleNeighIpAddrAdd, handleClientIpaddr, hi, Client.addAddr]
  dsimp only
  cases hck : (s.clients i).ipaddr tx ipv6Prefix a s.kernel with
  | none =>
    rw [write_same]
    exact .refl s
  | some ck =>
    dsimp only [Option.map_some]
    refine .trans ?_ (announce_alike a natIface resumed reply)
    have hroute : ∀ {t : Iface}, (s.write i ck).Alike t →
        (s.write i (if ck.1.powerSaveSet then ck
            else ck.1.routeRule alloc tx a.ipType ck.2)).Alike
          (t.handleClientRouteRule alloc tx mac a.ipType) := by
      intro t ht
      have hroute := ht.handleClientRouteRule alloc tx mac a.ipType
      rw [handleClientRouteRule_write hi (Client.ipaddr_mac hck)] at hroute
      exact hroute
    cases a with
    | v4 addr => exact hroute ((dropAddr_alike _).write i ck)
    | v6 addr => exact hroute (.refl _)

end Iface

end Axon7.Clients
