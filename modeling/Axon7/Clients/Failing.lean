import Axon7.Clients.Lan

/-!
# A setup that fails

`handle_wlan_client_init_ex` and `handle_eth_hdr_init` copy and add a header for
each family, `handle_wlan_client_route_rule` and `handle_eth_client_route_rule`
add one rule after the other. Where one of these fails the function returns. What
was done before stays as it is: nothing is deleted, and neither the number of the
clients nor the flag and the count for the rules are written.

No caller looks at the result. So an event is a list of calls of which any may
fail, and the states of the interface are those after lists of calls.
-/

namespace Axon7.Clients

open Axon7.Lib
open Axon7.Tether (IpType Addr)
open Axon7.Conntrack (CtListener)

/-- `CopyHeader` and `AddHeader`, for the first transmit property of the
family. -/
inductive HdrIoctl
  | copyHeader (ip : IpType)
  | addHeader (ip : IpType)

/-- What is called for a new client, in this order. -/
def hdrIoctls (tx : List IpType) : List HdrIoctl :=
  ([.v4, .v6].filter fun ip => decide (ip ∈ tx)).flatMap fun ip =>
    [.copyHeader ip, .addHeader ip]

namespace Client

variable (alloc : Alloc) (tx : List IpType)

/-- What follows one that does not fail. The address is among the attributes of a
WLAN client and is written with each header that is copied; a LAN client has
none. -/
def hdrIoctl (attribs : List HdrAttrib) (x : Client × Kernel) :
    HdrIoctl → Client × Kernel
  | .copyHeader _ => ({ x.1 with mac := macAttrib attribs x.1.mac }, x.2)
  | .addHeader ip => x.1.addHeader alloc tx ip x.2

def runHdrIoctls (attribs : List HdrAttrib) (ioctls : List HdrIoctl) (c : Client)
    (k : Kernel) : Client × Kernel :=
  ioctls.foldl (hdrIoctl alloc tx attribs) (c, k)

variable {alloc tx} {c : Client} {k : Kernel} {attribs : List HdrAttrib}
  {ioctls : List HdrIoctl} {ip : IpType} {n : Nat}

theorem macAttrib_macAttrib (attribs : List HdrAttrib) (mac : Mac) :
    macAttrib attribs (macAttrib attribs mac) = macAttrib attribs mac := by
  induction attribs using List.reverseRecOn generalizing mac with
  | nil => rfl
  | append_singleton l a ih =>
    have happ : ∀ mac, macAttrib (l ++ [a]) mac = macAttrib [a] (macAttrib l mac) :=
      fun _ => List.foldl_append
    rw [happ, happ]
    cases a with
    | macAddr mac' => rfl
    | staId => exact ih mac
    | other => exact ih mac

theorem mem_or_mem_of_ne_nil (htx : tx ≠ []) : IpType.v4 ∈ tx ∨ IpType.v6 ∈ tx := by
  obtain ⟨ip, hip⟩ := List.exists_mem_of_ne_nil tx htx
  cases ip with
  | v4 => exact .inl hip
  | v6 => exact .inr hip

theorem make_eq_runHdrIoctls (htx : tx ≠ []) : c.make alloc tx attribs k =
    ({ (c.runHdrIoctls alloc tx attribs (hdrIoctls tx) k).1 with
        routeRuleSetV4 := false
        routeRuleSetV6 := 0
        ipv4Set := false
        ipv6Set := 0
        powerSaveSet := false },
      (c.runHdrIoctls alloc tx attribs (hdrIoctls tx) k).2) := by
  have hmac := macAttrib_macAttrib attribs c.mac
  rw [make, initHeaders, runHdrIoctls, hdrIoctls]
  by_cases hv4 : IpType.v4 ∈ tx <;> by_cases hv6 : IpType.v6 ∈ tx
  · simp [hdrIoctl, addHeader, hv4, hv6, hmac]
  · simp [hdrIoctl, addHeader, hv4, hv6]
  · simp [hdrIoctl, addHeader, hv4, hv6]
  · exact absurd (mem_or_mem_of_ne_nil htx) (not_or.mpr ⟨hv4, hv6⟩)

theorem initHeaders_eq_runHdrIoctls : c.initHeaders alloc tx k =
    ({ (c.runHdrIoctls alloc tx [] (hdrIoctls tx) k).1 with
        routeRuleSetV4 := false
        routeRuleSetV6 := 0
        ipv4Set := false
        ipv6Set := 0 },
      (c.runHdrIoctls alloc tx [] (hdrIoctls tx) k).2) := by
  rw [initHeaders, runHdrIoctls, hdrIoctls]
  by_cases hv4 : IpType.v4 ∈ tx <;> by_cases hv6 : IpType.v6 ∈ tx <;>
    simp [hdrIoctl, addHeader, hv4, hv6, macAttrib]

theorem routeRule_eq_addRtRules : c.routeRule alloc tx ip k =
    ({ (c.addRtRules alloc (c.missingHdls tx ip) k).1 with
        routeRuleSetV4 := (c.routeRule alloc tx ip k).1.routeRuleSetV4
        routeRuleSetV6 := (c.routeRule alloc tx ip k).1.routeRuleSetV6 },
      (c.addRtRules alloc (c.missingHdls tx ip) k).2) := by
  cases ip with
  | v4 =>
    rw [routeRule, missingHdls]
    split
    · rw [addRtRules_eq]
    · rfl
  | v6 =>
    rw [routeRule, missingHdls]
    split
    · dsimp only
    · rfl

end Client

namespace Iface

variable (alloc : Alloc) (tx : List IpType)

/-! ## Where a call can fail -/

/-- What `handle_wlan_client_init_ex` calls. -/
def wlanIoctls (total : Nat) (s : Iface) : List HdrIoctl :=
  if maxNumWifiClients ≤ s.numClient ∨ maxNumWifiClients ≤ total then []
  else hdrIoctls tx

/-- What `handle_eth_hdr_init` calls. -/
def ethIoctls (mac : Mac) (s : Iface) : List HdrIoctl :=
  match s.clientIndex mac with
  | some _ => []
  | none => if maxNumEthClients ≤ s.numClient then [] else hdrIoctls tx

/-- What `handle_wlan_client_route_rule` and `handle_eth_client_route_rule` add. -/
def rulesToAdd (mac : Mac) (ip : IpType) (s : Iface) : List RtHdl :=
  match s.clientIndex mac with
  | none => []
  | some i => if (s.clients i).powerSaveSet then [] else (s.clients i).missingHdls tx ip

/-- `handle_wlan_client_init_ex` where the call at `n` fails, if it comes to that. -/
def failingWlanClientInitEx (attribs : List HdrAttrib) (total n : Nat) (s : Iface) :
    Iface :=
  if n < (s.wlanIoctls tx total).length then
    s.write s.numClient ((s.clients s.numClient).runHdrIoctls alloc tx attribs
      ((s.wlanIoctls tx total).take n) s.kernel)
  else s.handleWlanClientInitEx alloc tx attribs total

/-- `handle_eth_hdr_init` where the call at `n` fails. -/
def failingEthHdrInit (mac : Mac) (n : Nat) (s : Iface) : Iface :=
  if n < (s.ethIoctls tx mac).length then
    s.write s.numClient (Client.runHdrIoctls alloc tx []
      ((s.ethIoctls tx mac).take n) { s.clients s.numClient with mac := mac } s.kernel)
  else s.handleEthHdrInit alloc tx mac

/-- `handle_wlan_client_route_rule` and `handle_eth_client_route_rule` where the
addition at `n` fails. -/
def failingClientRouteRule (mac : Mac) (ip : IpType) (n : Nat) (s : Iface) : Iface :=
  match s.clientIndex mac with
  | none => s
  | some i =>
    if n < (s.rulesToAdd tx mac ip).length then
      s.write i ((s.clients i).addRtRules alloc ((s.rulesToAdd tx mac ip).take n)
        s.kernel)
    else s.handleClientRouteRule alloc tx mac ip

end Iface

/-! ## Calls -/

/-- The calls for the clients of both kinds of interface. `listener` is what the
listener of connections does. -/
inductive ClientCall
  | ipaddr (mac : Mac) (ipv6Prefix : BitVec 64) (a : Addr)
  | routeRule (mac : Mac) (ip : IpType) (n : Nat)
  | downEvt (mac : Mac)
  | resetRt (ip : IpType)
  | listener (ct : CtListener)

inductive WlanCall
  | initEx (attribs : List HdrAttrib) (total n : Nat)
  | pwrsave (mac : Mac)
  | awake (mac : Mac)
  | client (call : ClientCall)

inductive LanCall
  | hdrInit (mac : Mac) (n : Nat)
  | delIpv6Addr (mac : Mac) (addr : BitVec 128)
  | cleanClients
  | client (call : ClientCall)

namespace Iface

variable (alloc : Alloc) (tx : List IpType)

def clientCall (s : Iface) : ClientCall → Iface
  | .ipaddr mac ipv6Prefix a => (s.handleClientIpaddr tx mac ipv6Prefix a).getD s
  | .routeRule mac ip n => s.failingClientRouteRule alloc tx mac ip n
  | .downEvt mac => s.handleClientDownEvt tx mac
  | .resetRt ip => s.handleClientResetRt tx ip
  | .listener ct => { s with ct := ct }

/-- `power_save_set` is cleared before the rules come back. -/
def awake (mac : Mac) (s : Iface) : Iface :=
  match s.clientIndex mac with
  | none => s
  | some i => s.write i ({ s.clients i with powerSaveSet := false }, s.kernel)

def wlanCall (s : Iface) : WlanCall → Iface
  | .initEx attribs total n => s.failingWlanClientInitEx alloc tx attribs total n
  | .pwrsave mac => s.handleWlanClientPwrsave tx mac
  | .awake mac => s.awake mac
  | .client call => s.clientCall alloc tx call

def lanCall (s : Iface) : LanCall → Iface
  | .hdrInit mac n => s.failingEthHdrInit alloc tx mac n
  | .delIpv6Addr mac addr => s.handleDelIpv6Addr tx mac addr
  | .cleanClients => s.cleanClients tx
  | .client call => s.clientCall alloc tx call

def wlanCalls (s : Iface) (calls : List WlanCall) : Iface :=
  calls.foldl (wlanCall alloc tx) s

def lanCalls (s : Iface) (calls : List LanCall) : Iface :=
  calls.foldl (lanCall alloc tx) s

variable {alloc tx} {s : Iface}

/-! ## Events are calls -/

theorem wlanCall_initEx (attribs : List HdrAttrib) (total : Nat) :
    s.wlanCall alloc tx (.initEx attribs total (s.wlanIoctls tx total).length) =
      s.handleWlanClientInitEx alloc tx attribs total :=
  if_neg (Nat.lt_irrefl _)

theorem lanCall_hdrInit (mac : Mac) :
    s.lanCall alloc tx (.hdrInit mac (s.ethIoctls tx mac).length) =
      s.handleEthHdrInit alloc tx mac :=
  if_neg (Nat.lt_irrefl _)

theorem clientCall_routeRule (mac : Mac) (ip : IpType) :
    s.clientCall alloc tx (.routeRule mac ip (s.rulesToAdd tx mac ip).length) =
      s.handleClientRouteRule alloc tx mac ip := by
  rw [clientCall, failingClientRouteRule]
  split
  · rename_i hf
    rw [handleClientRouteRule, hf]
  · exact if_neg (Nat.lt_irrefl _)

theorem handleNeighIpAddrAdd_calls (alloc : Alloc) (tx : List IpType) (s : Iface)
    (mac : Mac) (a : Addr) (ipv6Prefix : BitVec 64) (natIface : Option Bool)
    (resumed reply : Nat → Option Nat) :
    ∃ calls : List ClientCall,
      s.handleNeighIpAddrAdd alloc tx mac a ipv6Prefix natIface resumed reply =
        calls.foldl (clientCall alloc tx) s := by
  rw [handleNeighIpAddrAdd]
  cases hip : s.handleClientIpaddr tx mac ipv6Prefix a with
  | none => exact ⟨[], rfl⟩
  | some t =>
    have hcall : s.clientCall alloc tx (.ipaddr mac ipv6Prefix a) = t := by
      rw [clientCall, hip]
      rfl
    refine ⟨[.ipaddr mac ipv6Prefix a,
      .routeRule mac a.ipType (t.rulesToAdd tx mac a.ipType).length,
      .listener ((t.handleClientRouteRule alloc tx mac a.ipType).announce a natIface
        resumed reply).ct], ?_⟩
    rw [List.foldl_cons, List.foldl_cons, List.foldl_cons, List.foldl_nil, hcall,
      clientCall_routeRule, clientCall]
    cases a <;> rfl

theorem wlanCalls_append (calls calls' : List WlanCall) :
    s.wlanCalls alloc tx (calls ++ calls') =
      (s.wlanCalls alloc tx calls).wlanCalls alloc tx calls' :=
  List.foldl_append

theorem wlanCalls_client (calls : List ClientCall) :
    s.wlanCalls alloc tx (calls.map .client) = calls.foldl (clientCall alloc tx) s :=
  List.foldl_map

theorem lanCalls_append (calls calls' : List LanCall) :
    s.lanCalls alloc tx (calls ++ calls') =
      (s.lanCalls alloc tx calls).lanCalls alloc tx calls' :=
  List.foldl_append

theorem lanCalls_client (calls : List ClientCall) :
    s.lanCalls alloc tx (calls.map .client) = calls.foldl (clientCall alloc tx) s :=
  List.foldl_map

theorem handleWlanClientRecover_calls (mac : Mac) (resumed : Nat → Option Nat) :
    ∃ calls, s.handleWlanClientRecover alloc tx mac resumed =
      s.wlanCalls alloc tx calls := by
  -- a family has rules to come back or not
  have hroute : ∀ (t : Iface) (ip : IpType), ∃ calls,
      t.handleClientRouteRule alloc tx mac ip = t.wlanCalls alloc tx calls :=
    fun t ip => ⟨[.client (.routeRule mac ip (t.rulesToAdd tx mac ip).length)],
      (clientCall_routeRule mac ip).symm⟩
  rw [handleWlanClientRecover]
  cases hf : s.clientIndex mac with
  | none => exact ⟨[], rfl⟩
  | some i =>
    dsimp only
    split
    · have hawake : ∃ calls, s.write i ({ s.clients i with powerSaveSet := false },
          s.kernel) = s.wlanCalls alloc tx calls := by
        refine ⟨[.awake mac], ?_⟩
        rw [wlanCalls, List.foldl_cons, List.foldl_nil, wlanCall, awake, hf]
      have hv6 : ∀ t : Iface, (∃ calls, t = s.wlanCalls alloc tx calls) → ∃ calls,
          (if (s.clients i).ipv6Set ≠ 0 then t.handleClientRouteRule alloc tx mac .v6
            else t) = s.wlanCalls alloc tx calls := by
        rintro t ⟨calls, rfl⟩
        split
        · obtain ⟨calls', heq⟩ := hroute (s.wlanCalls alloc tx calls) .v6
          exact ⟨calls ++ calls', heq.trans (wlanCalls_append _ _).symm⟩
        · exact ⟨calls, rfl⟩
      refine hv6 _ ?_
      split
      · obtain ⟨calls, heq⟩ := hawake
        rw [heq]
        obtain ⟨calls', heq'⟩ := hroute (s.wlanCalls alloc tx calls) .v4
        rw [heq', ← wlanCalls_append]
        exact ⟨(calls ++ calls') ++ [.client (.listener _)],
          ((wlanCalls_append _ [.client (.listener _)]).trans rfl).symm⟩
      · exact hawake
    · exact ⟨[], rfl⟩

theorem wlanCallback_calls (s : Iface) {ev : WlanEvent} (hev : ev ≠ .linkDown) :
    ∃ calls, s.wlanCallback alloc tx ev = s.wlanCalls alloc tx calls := by
  unfold wlanCallback
  split
  · cases ev with
    | clientAdd attribs total =>
      exact ⟨[.initEx attribs total _], (wlanCall_initEx attribs total).symm⟩
    | clientDel mac => exact ⟨[.client (.downEvt mac)], rfl⟩
    | powerSave mac => exact ⟨[.pwrsave mac], rfl⟩
    | recover mac resumed => exact handleWlanClientRecover_calls mac resumed
    | neighIpAddrAdd mac a ipv6Prefix natIface resumed reply =>
      obtain ⟨calls, heq⟩ := handleNeighIpAddrAdd_calls alloc tx s mac a ipv6Prefix
        natIface resumed reply
      exact ⟨calls.map .client, heq.trans (wlanCalls_client calls).symm⟩
    | resetRt ip => exact ⟨[.client (.resetRt ip)], rfl⟩
    | linkDown => exact absurd rfl hev
  · exact ⟨[], rfl⟩

theorem lanCallback_calls (s : Iface) {ev : LanEvent} (hev : ev ≠ .linkDown) :
    ∃ calls, s.lanCallback alloc tx ev = s.lanCalls alloc tx calls := by
  unfold lanCallback
  split
  · cases ev with
    | neighIpAddrAdd backhaulIsSta mac a ipv6Prefix natIface resumed reply =>
      dsimp only
      split
      · exact ⟨[], rfl⟩
      · obtain ⟨calls, heq⟩ := handleNeighIpAddrAdd_calls alloc tx
          (s.handleEthHdrInit alloc tx mac) mac a ipv6Prefix natIface resumed reply
        refine ⟨.hdrInit mac (s.ethIoctls tx mac).length :: calls.map .client, ?_⟩
        rw [heq, ← lanCalls_client, lanCalls, lanCalls, List.foldl_cons,
          lanCall_hdrInit]
    | neighIpAddrDel mac a =>
      cases a with
      | v4 addr => exact ⟨[.client (.downEvt mac)], rfl⟩
      | v6 addr => exact ⟨[.delIpv6Addr mac addr], rfl⟩
    | wanUpTether isSta =>
      dsimp only
      split
      · exact ⟨[.cleanClients], rfl⟩
      · exact ⟨[], rfl⟩
    | linkDown => exact absurd rfl hev
  · exact ⟨[], rfl⟩

end Iface

end Axon7.Clients
