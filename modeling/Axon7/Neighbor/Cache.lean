import Axon7.Lib.CloseGap
import Axon7.Lib.Run

/-!
# The neighbour cache

`IPACM_Neighbor`: which MAC address is on which interface, and the IPv4 address it had
last. The events of the kernel come in here and go out again as events about clients,
with the interface behind the bridge in place of the bridge.

The cache is an array of a hundred entries, of which the first `num_neighbor_client`
are in use. A client that comes when all are takes the entry at `circular_index`.
-/

namespace Axon7.Neighbor

open Axon7.Lib

abbrev Ip := BitVec 32

abbrev Mac := BitVec 48

/-- `IPA_MAX_NUM_NEIGHBOR_CLIENTS`. -/
def maxNumNeighborClients : Nat := 100

/-- `ipa_neighbor_client`. -/
structure NeighborClient where
  macAddr : Mac
  ifaceIndex : Int
  v4Addr : Ip
  ipaIfNum : Int
  ifaceName : String

/-- An entry that was cleared. -/
def NeighborClient.blank : NeighborClient := ⟨0, 0, 0, 0, ""⟩

/-- What an event is about, `ipacm_event_data_all`. -/
structure DataAll where
  isV4 : Bool
  ifIndex : Int
  ipv4Addr : Ip
  ipv6Addr : BitVec 128
  macAddr : Mac
  ifaceName : String

/-- An attribute of a WLAN client: its MAC address, or something else. -/
inductive WlanAttrib
  | macAddr (mac : Mac)
  | other

/-- What the function asks of the rest of the program: the IPA index of an interface,
which is none if the interface is not supported, and the tables of `IPACM_Config`. -/
structure Interfaces where
  ifaceIpaIndexQuery : Int → Option Int
  ifaceTable : Int → String
  ipaVirtualIfaceName : String
  featureL2tp : Bool

inductive NeighborEvent
  | wlanClientAddEx (ifIndex : Int) (attribs : List WlanAttrib)
  | newNeigh (data : DataAll)
  | delNeigh (data : DataAll)

/-- A client has an address, or has it no more. -/
inductive AddrEvent
  | neighClientIpAddrAdd
  | neighClientIpAddrDel

/-- What is posted: the event with all its data, or with the IPv4 address of an entry of
the cache, the other fields not being filled in. -/
inductive Posted
  | copied (event : AddrEvent) (data : DataAll)
  | cached (event : AddrEvent) (ifIndex : Int) (ipv4Addr : Ip) (macAddr : Mac)
      (ifaceName : String)

structure NeighborCache where
  numNeighborClient : Nat
  circularIndex : Nat
  neighborClient : List NeighborClient
  posted : List Posted

namespace NeighborCache

/-- The constructor. -/
def init : NeighborCache where
  numNeighborClient := 0
  circularIndex := 0
  neighborClient := List.replicate maxNumNeighborClients .blank
  posted := []

/-- The entries in use. -/
def clients (s : NeighborCache) : List NeighborClient :=
  s.neighborClient.take s.numNeighborClient

/-- The loop over the entries for the client. -/
def find (s : NeighborCache) (macAddr : Mac) : Option Nat :=
  s.clients.findIdx? (·.macAddr = macAddr)

def get (s : NeighborCache) (i : Nat) : NeighborClient :=
  s.neighborClient.getD i .blank

def modify (s : NeighborCache) (i : Nat) (f : NeighborClient → NeighborClient) :
    NeighborCache :=
  { s with neighborClient := s.neighborClient.modify i f }

def post (s : NeighborCache) (p : Posted) : NeighborCache :=
  { s with posted := s.posted ++ [p] }

/-- What is posted for the IPv4 address that is kept of a client. -/
def postCached (s : NeighborCache) (event : AddrEvent) (i : Nat) : NeighborCache :=
  let client := s.get i
  s.post (.cached event client.ifaceIndex client.v4Addr client.macAddr client.ifaceName)

/-- A client that is not in the cache: in the next entry, or in that of a client before
it. `v4Addr` is the address that it gets in the next entry. -/
def remember (s : NeighborCache) (data : DataAll) (ipaIfNum : Int) (v4Addr : Ip) :
    NeighborCache :=
  if s.numNeighborClient < maxNumNeighborClients then
    { s with
      neighborClient := s.neighborClient.set s.numNeighborClient
        ⟨data.macAddr, data.ifIndex, v4Addr, ipaIfNum, data.ifaceName⟩
      numNeighborClient := s.numNeighborClient + 1 }
  else
    { s with
      neighborClient := s.neighborClient.set s.circularIndex
        ⟨data.macAddr, data.ifIndex, 0, ipaIfNum, data.ifaceName⟩
      circularIndex := (s.circularIndex + 1) % maxNumNeighborClients }

/-- An entry is cleared and those behind it move down. The last of them stays where it
was too. -/
def forget (s : NeighborCache) (i : Nat) : NeighborCache :=
  { s with
    neighborClient := closeGap (fun _ next => (next, next)) i s.numNeighborClient
      (s.neighborClient.set i .blank)
    numNeighborClient := s.numNeighborClient - 1 }

/-- `IPA_WLAN_CLIENT_ADD_EVENT_EX`. -/
def wlanClientAddEx (env : Interfaces) (ifIndex : Int) (attribs : List WlanAttrib)
    (s : NeighborCache) : NeighborCache :=
  match env.ifaceIpaIndexQuery ifIndex with
  | none => s
  | some ipaInterfaceIndex =>
    let clientMacAddr := attribs.foldl (fun mac attrib =>
      match attrib with
      | .macAddr mac => mac
      | .other => mac) 0
    match s.find clientMacAddr with
    | none => s
    | some i =>
      if env.ipaVirtualIfaceName = env.ifaceTable ipaInterfaceIndex then s
      else
        let s := s.modify i fun client => { client with ifaceIndex := ifIndex }
        if ipaInterfaceIndex ≠ (s.get i).ipaIfNum then s
        else if (s.get i).v4Addr ≠ 0 then s.postCached .neighClientIpAddrAdd i
        else s

/-- An event of the bridge goes on with the interface of the client. -/
def onBridge (event : AddrEvent) (data : DataAll) (keepAddr : Bool) (s : NeighborCache) :
    NeighborCache :=
  match s.find data.macAddr with
  | none => s
  | some i =>
    let client := s.get i
    let s := if keepAddr then s.modify i fun client =>
      { client with v4Addr := data.ipv4Addr } else s
    s.post (.copied event
      { data with ifIndex := client.ifaceIndex, ifaceName := client.ifaceName })

/-- A client has an IPv4 address on an interface that is no bridge. -/
def newNeighV4 (data : DataAll) (ipaIfNum : Int) (s : NeighborCache) : NeighborCache :=
  let s :=
    match s.find data.macAddr with
    | some i => s.modify i fun client =>
      { client with
        ifaceIndex := data.ifIndex
        ipaIfNum := ipaIfNum
        v4Addr := data.ipv4Addr
        ifaceName := data.ifaceName }
    | none => s.remember data ipaIfNum data.ipv4Addr
  s.post (.copied .neighClientIpAddrAdd data)

def delNeighV4 (data : DataAll) (s : NeighborCache) : NeighborCache :=
  let s :=
    match s.find data.macAddr with
    | some i => s.forget i
    | none => s
  s.post (.copied .neighClientIpAddrDel data)

/-- An event without an address. -/
def noAddr (env : Interfaces) (isNew : Bool) (data : DataAll) (ipaIfNum : Int)
    (s : NeighborCache) : NeighborCache :=
  match s.find data.macAddr with
  | some i =>
    let s :=
      if env.ipaVirtualIfaceName = data.ifaceName then s
      else
        let s :=
          if data.ifIndex ≠ (s.get i).ifaceIndex then s.modify i fun client =>
            { client with ifaceIndex := data.ifIndex, ifaceName := data.ifaceName }
          else s
        if (s.get i).v4Addr ≠ 0 then
          s.postCached (if isNew then .neighClientIpAddrAdd else .neighClientIpAddrDel) i
        else s
    if isNew then s else s.forget i
  | none =>
    if isNew ∧ env.ipaVirtualIfaceName ≠ data.ifaceName then s.remember data ipaIfNum 0
    else s

/-- `IPV4_ADDR_LINKLOCAL` under its mask. -/
def isLinkLocal (ip : Ip) : Bool := ip &&& 0xFFFF0000 = 0xA9FE0000

/-- The index that is kept of an interface that is not supported, `IPACM_FAILURE`. -/
def ipacmFailure : Int := -1

/-- `IPA_NEW_NEIGH_EVENT` and `IPA_DEL_NEIGH_EVENT`. -/
def neigh (env : Interfaces) (isNew : Bool) (data : DataAll) (s : NeighborCache) :
    NeighborCache :=
  let ipaInterfaceIndex := env.ifaceIpaIndexQuery data.ifIndex
  let ipaIfNum := ipaInterfaceIndex.getD ipacmFailure
  let event := if isNew then AddrEvent.neighClientIpAddrAdd else .neighClientIpAddrDel
  if ipaInterfaceIndex = none ∧ env.featureL2tp = false then s
  else if data.isV4 then
    if data.ipv4Addr = 0 then s
    else if isLinkLocal data.ipv4Addr then s
    else if env.ipaVirtualIfaceName = data.ifaceName then s.onBridge event data true
    else if isNew then s.newNeighV4 data ipaIfNum
    else s.delNeighV4 data
  else if data.ipv6Addr ≠ 0 then
    if env.ipaVirtualIfaceName = data.ifaceName then s.onBridge event data false
    else s.post (.copied event data)
  else s.noAddr env isNew data ipaIfNum

/-- `event_callback`. -/
def eventCallback (env : Interfaces) (s : NeighborCache) : NeighborEvent → NeighborCache
  | .wlanClientAddEx ifIndex attribs => s.wlanClientAddEx env ifIndex attribs
  | .newNeigh data => s.neigh env true data
  | .delNeigh data => s.neigh env false data

end NeighborCache

end Axon7.Neighbor

/-!
# The neighbour cache by MAC addresses

No MAC address is in the cache twice, and there are never more clients than entries. A
client that gets an IPv4 address is in the cache with it, as long as it was there or an
entry was free: in the entry that is taken over the address is not filled in.
-/

namespace Axon7.Neighbor

open Axon7.Lib

/-- The addresses in the cache. -/
def NeighborCache.macs (s : NeighborCache) : List Mac := s.clients.map (·.macAddr)

/-- The client is in the cache with the interface and the address of the event. -/
def NeighborCache.Remembers (s : NeighborCache) (data : DataAll) : Prop :=
  ∃ client ∈ s.clients, client.macAddr = data.macAddr ∧
    client.ifaceIndex = data.ifIndex ∧ client.v4Addr = data.ipv4Addr

/-- An event with an IPv4 address on an interface that is no bridge. The interface is
supported and the address is not link-local: such events are ignored. -/
structure NewV4 (env : Interfaces) (data : DataAll) : Prop where
  isV4 : data.isV4 = true
  addr : data.ipv4Addr ≠ 0
  notBridge : env.ipaVirtualIfaceName ≠ data.ifaceName
  supported : env.ifaceIpaIndexQuery data.ifIndex = none → env.featureL2tp = true
  global : NeighborCache.isLinkLocal data.ipv4Addr = false

/-- What holds after an event. -/
structure Right (s : NeighborCache) (ev : Interfaces × NeighborEvent) : Prop where
  keyed : s.macs.Nodup
  counted : s.clients.length = s.numNeighborClient
  bounded : s.numNeighborClient ≤ maxNumNeighborClients
  kept : ∀ data, ev.2 = .newNeigh data → NewV4 ev.1 data → s.Remembers data

/-- The client is in the cache, or there is a free entry. -/
def HasEntry (s : NeighborCache) (ev : Interfaces × NeighborEvent) : Prop :=
  ∀ data, ev.2 = .newNeigh data → NewV4 ev.1 data →
    data.macAddr ∈ s.macs ∨ s.numNeighborClient < maxNumNeighborClients

namespace NeighborCache

variable {s : NeighborCache} {i : Nat} {f : NeighborClient → NeighborClient}
  {data : DataAll} {env : Interfaces}

/-- No address twice, and the numbers are in the array. -/
structure Keyed (s : NeighborCache) : Prop where
  size : s.neighborClient.length = maxNumNeighborClients
  bounded : s.numNeighborClient ≤ maxNumNeighborClients
  circular : s.circularIndex < maxNumNeighborClients
  nodup : s.macs.Nodup

theorem init_keyed : init.Keyed :=
  ⟨List.length_replicate, Nat.zero_le _, by decide, List.nodup_nil⟩

theorem Keyed.counted (h : s.Keyed) : s.clients.length = s.numNeighborClient :=
  List.length_take_of_le (h.size ▸ h.bounded)

theorem find_eq_none : s.find data.macAddr = none ↔ data.macAddr ∉ s.macs := by
  rw [find, List.findIdx?_eq_none_iff, macs, List.mem_map]
  simp

theorem find_congr {s' : NeighborCache} (h : s'.macs = s.macs) (macAddr : Mac) :
    s'.find macAddr = s.find macAddr := by
  have hfind : ∀ t : NeighborCache, t.find macAddr = t.macs.findIdx? (· = macAddr) := by
    intro t
    rw [macs, List.findIdx?_map]
    rfl
  rw [hfind, hfind, h]

theorem find_eq_some (h : s.find data.macAddr = some i) :
    ∃ client, s.clients[i]? = some client ∧ client.macAddr = data.macAddr := by
  obtain ⟨hi, hmac, -⟩ := List.findIdx?_eq_some_iff_getElem.mp h
  exact ⟨s.clients[i], List.getElem?_eq_getElem hi, of_decide_eq_true hmac⟩

/-! ## The writes -/

theorem Keyed.post (h : s.Keyed) (p : Posted) : (s.post p).Keyed :=
  ⟨h.size, h.bounded, h.circular, h.nodup⟩

theorem Keyed.postCached (h : s.Keyed) (event : AddrEvent) (i : Nat) :
    (s.postCached event i).Keyed :=
  h.post _

theorem macs_modify (hf : ∀ client, (f client).macAddr = client.macAddr) :
    (s.modify i f).macs = s.macs := by
  have hmap : ((s.neighborClient.modify i f).map (·.macAddr)) =
      s.neighborClient.map (·.macAddr) := by
    apply List.ext_getElem? fun j => ?_
    rw [List.getElem?_map, List.getElem?_map, List.getElem?_modify]
    cases s.neighborClient[j]? with
    | none => split <;> rfl
    | some client =>
      split
      · exact congrArg some (hf client)
      · rfl
  rw [macs, clients, List.map_take]
  show ((s.neighborClient.modify i f).map (·.macAddr)).take s.numNeighborClient = _
  rw [hmap, ← List.map_take]
  rfl

theorem Keyed.modify (h : s.Keyed)
    (hf : ∀ client, (f client).macAddr = client.macAddr) : (s.modify i f).Keyed := by
  refine ⟨?_, h.bounded, h.circular, ?_⟩
  · exact (List.length_modify ..).trans h.size
  · rw [macs_modify hf]
    exact h.nodup

theorem Keyed.remember_free (h : s.Keyed)
    (hroom : s.numNeighborClient < maxNumNeighborClients) (data : DataAll) (ipaIfNum : Int)
    (v4Addr : Ip) : (s.remember data ipaIfNum v4Addr).clients = s.clients ++
      [⟨data.macAddr, data.ifIndex, v4Addr, ipaIfNum, data.ifaceName⟩] := by
  have hlt : s.numNeighborClient < s.neighborClient.length := h.size ▸ hroom
  rw [remember, if_pos hroom]
  show (s.neighborClient.set _ _).take (s.numNeighborClient + 1) = _
  rw [List.take_add_one, List.take_set_of_le (Nat.le_refl _), List.getElem?_set_self hlt]
  rfl

theorem Keyed.remember_full (h : s.Keyed)
    (hfull : ¬ s.numNeighborClient < maxNumNeighborClients) (data : DataAll) (ipaIfNum : Int)
    (v4Addr : Ip) : (s.remember data ipaIfNum v4Addr).clients = s.clients.set s.circularIndex
      ⟨data.macAddr, data.ifIndex, 0, ipaIfNum, data.ifaceName⟩ := by
  have hall : s.neighborClient.length ≤ s.numNeighborClient := by
    rw [h.size]
    exact not_lt.mp hfull
  rw [remember, if_neg hfull]
  show (s.neighborClient.set _ _).take s.numNeighborClient = _
  rw [clients, List.take_of_length_le hall,
    List.take_of_length_le ((List.length_set ..).trans_le hall)]

theorem Keyed.remember (h : s.Keyed) (hnew : data.macAddr ∉ s.macs) (ipaIfNum : Int)
    (v4Addr : Ip) : (s.remember data ipaIfNum v4Addr).Keyed := by
  by_cases hroom : s.numNeighborClient < maxNumNeighborClients
  · have hclients := h.remember_free hroom data ipaIfNum v4Addr
    refine ⟨?_, ?_, ?_, ?_⟩
    · rw [NeighborCache.remember, if_pos hroom]
      exact (List.length_set ..).trans h.size
    · rw [NeighborCache.remember, if_pos hroom]
      exact hroom
    · rw [NeighborCache.remember, if_pos hroom]
      exact h.circular
    · rw [macs, hclients, List.map_append, List.map_singleton]
      exact List.nodup_append_comm.mp (List.nodup_cons.mpr ⟨hnew, h.nodup⟩)
  · have hclients := h.remember_full hroom data ipaIfNum v4Addr
    refine ⟨?_, ?_, ?_, ?_⟩
    · rw [NeighborCache.remember, if_neg hroom]
      exact (List.length_set ..).trans h.size
    · rw [NeighborCache.remember, if_neg hroom]
      exact h.bounded
    · rw [NeighborCache.remember, if_neg hroom]
      exact Nat.mod_lt _ (by decide)
    · rw [macs, hclients, List.map_set]
      exact h.nodup.set hnew

theorem Keyed.forget (h : s.Keyed) (hi : s.find data.macAddr = some i) :
    (s.forget i).Keyed := by
  obtain ⟨client, hclient, -⟩ := find_eq_some hi
  have hlt : i < s.numNeighborClient := by
    rw [← h.counted]
    exact (List.getElem?_eq_some_iff.mp hclient).1
  have hsize : (s.neighborClient.set i .blank).length = maxNumNeighborClients :=
    (List.length_set ..).trans h.size
  have hclients : (s.forget i).clients = s.clients.eraseIdx i := by
    have herase : ((closeGap (fun _ next => (next, next)) i s.numNeighborClient
        (s.neighborClient.set i .blank)).take (s.numNeighborClient - 1)).map id =
          (((s.neighborClient.set i .blank).take s.numNeighborClient).eraseIdx i).map id :=
      map_take_closeGap (fun _ _ => rfl) hlt (hsize ▸ h.bounded)
    rw [List.map_id, List.map_id, List.take_set, List.eraseIdx_set_eq] at herase
    exact herase
  refine ⟨length_closeGap.trans hsize, (Nat.sub_le _ _).trans h.bounded, h.circular, ?_⟩
  rw [macs, hclients]
  exact h.nodup.sublist ((List.eraseIdx_sublist s.clients i).map _)

/-! ## The events -/

theorem Keyed.wlanClientAddEx (h : s.Keyed) (ifIndex : Int) (attribs : List WlanAttrib) :
    (s.wlanClientAddEx env ifIndex attribs).Keyed := by
  rw [NeighborCache.wlanClientAddEx]
  split
  · exact h
  dsimp only
  split
  · exact h
  split
  · exact h
  · rename_i i _ _
    have hmod : (s.modify i fun client => { client with ifaceIndex := ifIndex }).Keyed :=
      h.modify fun _ => rfl
    split
    · exact hmod
    split
    · exact hmod.postCached _ i
    · exact hmod

theorem Keyed.onBridge (h : s.Keyed) (event : AddrEvent) (keepAddr : Bool) :
    (s.onBridge event data keepAddr).Keyed := by
  rw [NeighborCache.onBridge]
  split
  · exact h
  · refine Keyed.post ?_ _
    split
    · exact h.modify fun _ => rfl
    · exact h

theorem Keyed.newNeighV4 (h : s.Keyed) (ipaIfNum : Int) :
    (s.newNeighV4 data ipaIfNum).Keyed := by
  refine Keyed.post ?_ _
  split
  · exact h.modify fun _ => rfl
  · rename_i hnone
    exact h.remember (find_eq_none.mp hnone) ipaIfNum _

theorem Keyed.delNeighV4 (h : s.Keyed) : (s.delNeighV4 data).Keyed := by
  refine Keyed.post ?_ _
  split
  · rename_i hi
    exact h.forget hi
  · exact h

theorem Keyed.noAddr (h : s.Keyed) (isNew : Bool) (ipaIfNum : Int) :
    (s.noAddr env isNew data ipaIfNum).Keyed := by
  rw [NeighborCache.noAddr]
  split
  · rename_i i hi
    -- the entry may get the interface of the event, and stays in its place
    generalize hs' : (if env.ipaVirtualIfaceName = data.ifaceName then s else _) = s'
    have hpost : ∀ (event : AddrEvent) (t : NeighborCache), t.Keyed → t.macs = s.macs →
        (if (t.get i).v4Addr ≠ 0 then t.postCached event i else t).Keyed ∧
          (if (t.get i).v4Addr ≠ 0 then t.postCached event i else t).macs = s.macs := by
      intro event t ht hmacs
      split
      · exact ⟨ht.postCached event i, hmacs⟩
      · exact ⟨ht, hmacs⟩
    have hafter : s'.Keyed ∧ s'.macs = s.macs := by
      subst hs'
      split
      · exact ⟨h, rfl⟩
      split
      · exact hpost _ _ (h.modify fun _ => rfl) (macs_modify fun _ => rfl)
      · exact hpost _ _ h rfl
    split
    · exact hafter.1
    · exact hafter.1.forget ((find_congr hafter.2 data.macAddr).trans hi)
  · rename_i hnone
    split
    · exact h.remember (find_eq_none.mp hnone) ipaIfNum 0
    · exact h

theorem Keyed.neigh (h : s.Keyed) (isNew : Bool) : (s.neigh env isNew data).Keyed := by
  rw [NeighborCache.neigh]
  split
  · exact h
  split
  · split
    · exact h
    split
    · exact h
    split
    · exact h.onBridge _ true
    split
    · exact h.newNeighV4 _
    · exact h.delNeighV4
  · split
    · split
      · exact h.onBridge _ false
      · exact h.post _
    · exact h.noAddr isNew _

theorem Keyed.eventCallback (h : s.Keyed) (env : Interfaces) (ev : NeighborEvent) :
    (s.eventCallback env ev).Keyed := by
  cases ev with
  | wlanClientAddEx ifIndex attribs => exact h.wlanClientAddEx ifIndex attribs
  | newNeigh data => exact h.neigh true
  | delNeigh data => exact h.neigh false

/-! ## What is kept of an IPv4 address -/

theorem Keyed.modify_remembers (h : s.Keyed) (hi : s.find data.macAddr = some i)
    (ipaIfNum : Int) : (s.modify i fun client =>
      { client with
        ifaceIndex := data.ifIndex
        ipaIfNum := ipaIfNum
        v4Addr := data.ipv4Addr
        ifaceName := data.ifaceName }).Remembers data := by
  obtain ⟨client, hclient, hmac⟩ := find_eq_some hi
  have hlt : i < s.numNeighborClient := by
    rw [← h.counted]
    exact (List.getElem?_eq_some_iff.mp hclient).1
  rw [clients, List.getElem?_take_of_lt hlt] at hclient
  refine ⟨⟨client.macAddr, data.ifIndex, data.ipv4Addr, ipaIfNum, data.ifaceName⟩,
    List.mem_of_getElem? (i := i) ?_, hmac, rfl, rfl⟩
  show (((s.neighborClient.modify i _)).take s.numNeighborClient)[i]? = _
  rw [List.getElem?_take_of_lt hlt, List.getElem?_modify_eq, hclient]
  rfl

theorem Keyed.remember_remembers (h : s.Keyed) (hnew : data.macAddr ∉ s.macs)
    (haddr : data.ipv4Addr ≠ 0) (ipaIfNum : Int) :
    (s.remember data ipaIfNum data.ipv4Addr).Remembers data ↔
      s.numNeighborClient < maxNumNeighborClients := by
  constructor
  · rintro ⟨client, hclient, hmac, -, haddr'⟩
    by_contra hfull
    rw [h.remember_full hfull] at hclient
    obtain hold | rfl := List.mem_or_eq_of_mem_set hclient
    · exact hnew (hmac ▸ List.mem_map_of_mem hold)
    · exact haddr haddr'.symm
  · intro hroom
    rw [Remembers, h.remember_free hroom]
    exact ⟨_, List.mem_append_right _ (List.mem_singleton_self _), rfl, rfl, rfl⟩

theorem Keyed.newNeighV4_remembers (h : s.Keyed) (haddr : data.ipv4Addr ≠ 0)
    (ipaIfNum : Int) : (s.newNeighV4 data ipaIfNum).Remembers data ↔
      data.macAddr ∈ s.macs ∨ s.numNeighborClient < maxNumNeighborClients := by
  by_cases hin : data.macAddr ∈ s.macs
  · obtain ⟨i, hi⟩ : ∃ i, s.find data.macAddr = some i := by
      rw [← Option.ne_none_iff_exists']
      exact fun hnone => find_eq_none.mp hnone hin
    rw [NeighborCache.newNeighV4, hi]
    exact iff_of_true (h.modify_remembers hi ipaIfNum) (.inl hin)
  · rw [NeighborCache.newNeighV4, find_eq_none.mpr hin, or_iff_right hin]
    exact h.remember_remembers hin haddr ipaIfNum

theorem NewV4.neigh (hnew : NewV4 env data) (s : NeighborCache) : s.neigh env true data =
    s.newNeighV4 data ((env.ifaceIpaIndexQuery data.ifIndex).getD ipacmFailure) := by
  have hsupported : ¬ (env.ifaceIpaIndexQuery data.ifIndex = none ∧
      env.featureL2tp = false) := by
    rintro ⟨hnone, hl2tp⟩
    exact Bool.false_ne_true (hl2tp.symm.trans (hnew.supported hnone))
  rw [NeighborCache.neigh, if_neg hsupported, if_pos hnew.isV4, if_neg hnew.addr,
    if_neg (Bool.eq_false_iff.mp hnew.global), if_neg hnew.notBridge, if_pos rfl]

theorem Keyed.right_iff (h : s.Keyed) (ev : Interfaces × NeighborEvent) :
    Right (s.eventCallback ev.1 ev.2) ev ↔ HasEntry s ev := by
  have hkeyed := h.eventCallback ev.1 ev.2
  have hkept : ∀ data, ev.2 = .newNeigh data → NewV4 ev.1 data →
      ((s.eventCallback ev.1 ev.2).Remembers data ↔
        data.macAddr ∈ s.macs ∨ s.numNeighborClient < maxNumNeighborClients) := by
    intro data hev hnew
    rw [hev, NeighborCache.eventCallback, NewV4.neigh hnew]
    exact h.newNeighV4_remembers hnew.addr _
  constructor
  · intro hright data hev hnew
    exact (hkept data hev hnew).mp (hright.kept data hev hnew)
  · intro hentry
    exact ⟨hkeyed.nodup, hkeyed.counted, hkeyed.bounded,
      fun data hev hnew => (hkept data hev hnew).mpr (hentry data hev hnew)⟩

/-! ## Runs -/

/-- A run of events, with what the interfaces were at each. -/
def run (evs : List (Interfaces × NeighborEvent)) : NeighborCache :=
  evs.foldl (fun s ev => s.eventCallback ev.1 ev.2) init

theorem run_keyed (evs : List (Interfaces × NeighborEvent)) : (run evs).Keyed :=
  foldl_invariant Keyed (fun _ => True) (fun _ ev h _ => h.eventCallback ev.1 ev.2) init_keyed evs
    fun _ _ => trivial

/-- The cache is right after each event of a run just if each client has its entry. -/
theorem run_right_iff (evs : List (Interfaces × NeighborEvent)) :
    (∀ pre ev, pre ++ [ev] <+: evs → Right (run (pre ++ [ev])) ev) ↔
      ∀ pre ev, pre ++ [ev] <+: evs → HasEntry (run pre) ev := by
  refine forall_congr' fun pre => forall_congr' fun ev => forall_congr' fun _ => ?_
  rw [run, List.foldl_concat]
  exact (run_keyed pre).right_iff ev

/-- One interface, and no bridge of its name. -/
def wlan0 : Interfaces := ⟨fun _ => some 0, fun _ => "wlan0", "bridge0", false⟩

/-- A client with its address. -/
def guest (n : Nat) : DataAll where
  isV4 := true
  ifIndex := 1
  ipv4Addr := 0xC0A80002 + BitVec.ofNat 32 n
  ipv6Addr := 0
  macAddr := 0x020000000000 + BitVec.ofNat 48 n
  ifaceName := "wlan0"

/-- So many clients, one after the other. -/
def crowd (n : Nat) : List (Interfaces × NeighborEvent) :=
  (List.range n).map fun k => (wlan0, .newNeigh (guest k))

theorem crowd_succ (n : Nat) : crowd (n + 1) = crowd n ++ [(wlan0, .newNeigh (guest n))] := by
  rw [crowd, List.range_succ, List.map_append]
  rfl

/-- One more client than entries takes over that of the first, and its address is not
filled in. -/
theorem crowd_not_right :
    ¬ ∀ pre ev, pre ++ [ev] <+: crowd 101 → Right (run (pre ++ [ev])) ev := by
  intro hall
  have hlast : crowd 100 ++ [(wlan0, .newNeigh (guest 100))] <+: crowd 101 := by
    rw [← crowd_succ 100]
  have hright := hall (crowd 100) _ hlast
  have hnew : NewV4 wlan0 (guest 100) := ⟨rfl, by decide, by decide, nofun, by decide⟩
  obtain ⟨client, hclient, hmac, -, haddr⟩ := hright.kept _ rfl hnew
  rw [← crowd_succ] at hclient
  have hnone : ∀ client ∈ (run (crowd 101)).clients,
      client.macAddr = (guest 100).macAddr → client.v4Addr ≠ (guest 100).ipv4Addr := by
    decide +kernel
  exact hnone client hclient hmac haddr

end NeighborCache

end Axon7.Neighbor
