import Axon7.Lib.Text
import Axon7.Lib.Run

/-!
# The names of client headers

A client of a tethered interface gets headers of its own, one for each family,
and the kernel knows them by name. The name is made of the index of the
interface, a text for the family and a count that the interface only ever
increases. Both numbers are printed into a buffer of two bytes, so that of each
the first digit is left.
-/

namespace Axon7.Clients

open Axon7.Lib

/-! ## Names -/

/-- `WLAN_IFACE_INDEX_LEN` and `ETH_IFACE_INDEX_LEN`. -/
def ifaceIndexLen : Nat := 2

/-- `IPA_RESOURCE_NAME_MAX` of the kernel. -/
def ipaResourceNameMax : Nat := 32

/-- An `IPACM_Wlan`, or an `IPACM_Lan` for a cable. -/
inductive ClientKind
  | wlan
  | lan
deriving DecidableEq

inductive HdrIp
  | v4
  | v6
deriving DecidableEq

/-- `IPA_WLAN_PARTIAL_HDR_NAME_v4`, `IPA_ETH_HDR_NAME_v4` and the other two. -/
def hdrNameText : ClientKind → HdrIp → List Char
  | .wlan, .v4 => "IEEE802_3_v4".toList
  | .wlan, .v6 => "IEEE802_3_v6".toList
  | .lan, .v4 => "IPACM_ETH_v4".toList
  | .lan, .v6 => "IPACM_ETH_v6".toList

/-- `snprintf(index, sizeof(index), "%d", n)`. -/
def indexText (n : Nat) : List Char := snprintf ifaceIndexLen [] (Nat.toDigits 10 n)

/-- `strlcat`, and the check that follows it. -/
def strlcat? (name text : List Char) : Option (List Char) :=
  if ipaResourceNameMax < name.length + text.length then none
  else some (snprintf ipaResourceNameMax name text)

/-- The name of the header of a family. -/
def hdrName (kind : ClientKind) (ipaIfNum headerNameCount : Nat) (ip : HdrIp) :
    Option (List Char) :=
  (strlcat? (snprintf ipaResourceNameMax [] (indexText ipaIfNum)) (hdrNameText kind ip)).bind
    fun name => strlcat? name (indexText headerNameCount)

/-! ## Interfaces -/

/-- An interface: its index, whether it has transmit properties at all, and
whether there is one of a family. -/
structure ClientIface where
  kind : ClientKind
  ipaIfNum : Nat
  hasTxProp : Bool
  hasTxIp : HdrIp → Bool

/-- The families a client gets a header of, in their order. -/
def ClientIface.txIps (cfg : ClientIface) : List HdrIp := [.v4, .v6].filter cfg.hasTxIp

/-- A client, with the count its headers were named by and the names passed to
`AddHeader`. -/
structure NamedClient where
  mac : BitVec 48
  nameCount : Nat
  names : List (List Char)

/-- The clients present, and `header_name_count`. -/
structure NamedClients where
  clients : List NamedClient
  headerNameCount : Nat

variable {ι : Type} [DecidableEq ι]

/-- The instances, and `IPACM_Wlan::total_num_wifi_clients`. -/
structure NamedSystem (ι : Type) where
  iface : ι → NamedClients
  totalNumWifiClients : Nat

/-- A client comes or goes. Each call says whether its system calls succeed. -/
inductive ClientOp (ι : Type)
  | add (i : ι) (mac : BitVec 48) (succeeds : Bool)
  | del (i : ι) (mac : BitVec 48) (succeeds : Bool)

/-- `IPA_MAX_NUM_WIFI_CLIENTS` and `IPA_MAX_NUM_ETH_CLIENTS`. -/
def maxNumClients : ClientKind → Nat
  | .wlan => 32
  | .lan => 15

namespace NamedSystem

variable (cfg : ι → ClientIface)

def init : NamedSystem ι where
  iface _ := ⟨[], 0⟩
  totalNumWifiClients := 0

/-- There is room for the client: a `Lan` first looks whether it is there. -/
def Admits (s : NamedSystem ι) (i : ι) (mac : BitVec 48) : Prop :=
  (s.iface i).clients.length < maxNumClients (cfg i).kind ∧
    match (cfg i).kind with
    | .wlan => s.totalNumWifiClients < maxNumClients .wlan
    | .lan => mac ∉ (s.iface i).clients.map (·.mac)

instance (s : NamedSystem ι) (i : ι) (mac : BitVec 48) : Decidable (s.Admits cfg i mac) := by
  unfold Admits
  cases (cfg i).kind <;> infer_instance

/-- The names of the headers of the next client, if they can be made. -/
def headerNames (s : NamedSystem ι) (i : ι) : Option (List (List Char)) :=
  (cfg i).txIps.mapM (hdrName (cfg i).kind (cfg i).ipaIfNum (s.iface i).headerNameCount)

/-- `handle_wlan_client_init_ex` and `handle_eth_hdr_init`. -/
def addClient (s : NamedSystem ι) (i : ι) (mac : BitVec 48) (succeeds : Bool) :
    NamedSystem ι :=
  if s.Admits cfg i mac ∧ (cfg i).hasTxProp = true ∧ succeeds = true then
    match s.headerNames cfg i with
    | some names =>
      { iface := Function.update s.iface i
          { clients :=
              (s.iface i).clients ++ [⟨mac, (s.iface i).headerNameCount, names⟩]
            headerNameCount := (s.iface i).headerNameCount + 1 }
        totalNumWifiClients :=
          if (cfg i).kind = .wlan then s.totalNumWifiClients + 1
          else s.totalNumWifiClients }
    | none => s
  else s

/-- `handle_wlan_client_down_evt` and `handle_eth_client_down_evt`: the clients
behind move up. -/
def delClient (s : NamedSystem ι) (i : ι) (mac : BitVec 48) (succeeds : Bool) :
    NamedSystem ι :=
  if mac ∈ (s.iface i).clients.map (·.mac) ∧ succeeds = true then
    { iface := Function.update s.iface i
        { s.iface i with clients := (s.iface i).clients.eraseP fun c => c.mac = mac }
      totalNumWifiClients :=
        if (cfg i).kind = .wlan then s.totalNumWifiClients - 1 else s.totalNumWifiClients }
  else s

def step (s : NamedSystem ι) : ClientOp ι → NamedSystem ι
  | .add i mac succeeds => s.addClient cfg i mac succeeds
  | .del i mac succeeds => s.delClient cfg i mac succeeds

def run (ops : List (ClientOp ι)) : NamedSystem ι := ops.foldl (step cfg) init

end NamedSystem

/-! ## Digits -/

/-- What is left of a number. -/
def firstDigit (n : Nat) : Char := (Nat.toDigits 10 n).headD '0'

theorem indexText_eq (n : Nat) : indexText n = [firstDigit n] := by
  have hne := Nat.toDigits_ne_nil (b := 10) (n := n)
  obtain ⟨d, rest, hd⟩ := List.exists_cons_of_ne_nil hne
  rw [indexText, snprintf, firstDigit, hd]
  rfl

theorem length_hdrNameText (kind : ClientKind) (ip : HdrIp) :
    (hdrNameText kind ip).length = 12 := by
  cases kind <;> cases ip <;> rfl

theorem hdrNameText_inj {kind kind' : ClientKind} {ip ip' : HdrIp}
    (h : hdrNameText kind ip = hdrNameText kind' ip') : kind = kind' ∧ ip = ip' := by
  revert h
  cases kind <;> cases kind' <;> cases ip <;> cases ip' <;> decide

/-- A name as it is made. -/
def digitName (kind : ClientKind) (ipaIfNum headerNameCount : Nat) (ip : HdrIp) :
    List Char :=
  firstDigit ipaIfNum :: (hdrNameText kind ip ++ [firstDigit headerNameCount])

theorem hdrName_eq (kind : ClientKind) (ipaIfNum headerNameCount : Nat) (ip : HdrIp) :
    hdrName kind ipaIfNum headerNameCount ip
      = some (digitName kind ipaIfNum headerNameCount ip) := by
  have hlen := length_hdrNameText kind ip
  have hfirst : snprintf ipaResourceNameMax [] (indexText ipaIfNum) = [firstDigit ipaIfNum] := by
    rw [indexText_eq]
    rfl
  have htext : strlcat? [firstDigit ipaIfNum] (hdrNameText kind ip)
      = some (firstDigit ipaIfNum :: hdrNameText kind ip) := by
    rw [strlcat?, if_neg (by simp [hlen, ipaResourceNameMax]),
      snprintf_of_room (by simp [hlen, ipaResourceNameMax])]
    rfl
  rw [hdrName, hfirst, htext, Option.bind_some, strlcat?, indexText_eq,
    if_neg (by simp [hlen, ipaResourceNameMax]),
    snprintf_of_room (by simp [hlen, ipaResourceNameMax])]
  rfl

theorem digitName_inj_iff {kind kind' : ClientKind} {n n' m m' : Nat} {ip ip' : HdrIp} :
    digitName kind n m ip = digitName kind' n' m' ip' ↔
      firstDigit n = firstDigit n' ∧ (kind = kind' ∧ ip = ip') ∧
        firstDigit m = firstDigit m' := by
  have hlen : (hdrNameText kind ip).length = (hdrNameText kind' ip').length := by
    rw [length_hdrNameText, length_hdrNameText]
  constructor
  · intro h
    obtain ⟨hfirst, hrest⟩ := List.cons_eq_cons.mp h
    obtain ⟨htext, hlast⟩ := List.append_inj hrest hlen
    exact ⟨hfirst, hdrNameText_inj htext, List.singleton_inj.mp hlast⟩
  · intro ⟨hfirst, ⟨hkind, hip⟩, hlast⟩
    rw [digitName, digitName, hfirst, hkind, hip, hlast]

/-- The names of a client whose headers were named by that count. -/
def ClientIface.names (cfg : ClientIface) (nameCount : Nat) : List (List Char) :=
  cfg.txIps.map (digitName cfg.kind cfg.ipaIfNum nameCount)

theorem ClientIface.names_nodup (cfg : ClientIface) (nameCount : Nat) :
    (cfg.names nameCount).Nodup := by
  refine List.Nodup.map (fun ip ip' h => ?_) (List.Nodup.filter _ (by decide))
  exact (digitName_inj_iff.mp h).2.1.2

/-- Headers of two clients would have the same name. -/
def ClientIface.Clashes (cfg cfg' : ClientIface) (nameCount nameCount' : Nat) : Prop :=
  cfg.kind = cfg'.kind ∧ (∃ ip, cfg.hasTxIp ip = true ∧ cfg'.hasTxIp ip = true) ∧
    firstDigit cfg.ipaIfNum = firstDigit cfg'.ipaIfNum ∧
    firstDigit nameCount = firstDigit nameCount'

theorem ClientIface.disjoint_names_iff {cfg cfg' : ClientIface} {n n' : Nat} :
    (cfg.names n).Disjoint (cfg'.names n') ↔ ¬ cfg.Clashes cfg' n n' := by
  have hmem (c : ClientIface) (ip : HdrIp) : ip ∈ c.txIps ↔ c.hasTxIp ip = true := by
    rw [ClientIface.txIps, List.mem_filter]
    cases ip <;> simp
  constructor
  · intro hdisj ⟨hkind, ⟨ip, hip, hip'⟩, hfirst, hlast⟩
    have hsame : digitName cfg.kind cfg.ipaIfNum n ip
        = digitName cfg'.kind cfg'.ipaIfNum n' ip :=
      digitName_inj_iff.mpr ⟨hfirst, ⟨hkind, rfl⟩, hlast⟩
    refine hdisj (List.mem_map_of_mem ((hmem cfg ip).mpr hip)) ?_
    rw [hsame]
    exact List.mem_map_of_mem ((hmem cfg' ip).mpr hip')
  · intro hclash name hname hname'
    obtain ⟨ip, hip, rfl⟩ := List.mem_map.mp hname
    obtain ⟨ip', hip', heq⟩ := List.mem_map.mp hname'
    obtain ⟨hfirst, ⟨hkind, rfl⟩, hlast⟩ := digitName_inj_iff.mp heq
    exact hclash ⟨hkind.symm, ⟨ip', (hmem cfg ip').mp hip, (hmem cfg' ip').mp hip'⟩,
      hfirst.symm, hlast.symm⟩

/-! ## Clients present -/

/-- The names of the headers of all clients present are different, those of one
client among each other too. -/
structure NamesDiffer (s : NamedSystem ι) : Prop where
  own : ∀ i, ∀ c ∈ (s.iface i).clients, c.names.Nodup
  iface : ∀ i, (s.iface i).clients.Pairwise fun c c' => c.names.Disjoint c'.names
  other : ∀ i j, i ≠ j → ∀ c ∈ (s.iface i).clients, ∀ c' ∈ (s.iface j).clients,
    c.names.Disjoint c'.names

namespace NamedSystem

variable {cfg : ι → ClientIface} {s : NamedSystem ι}

omit [DecidableEq ι] in
theorem headerNames_eq (s : NamedSystem ι) (i : ι) :
    s.headerNames cfg i = some ((cfg i).names (s.iface i).headerNameCount) := by
  rw [headerNames, ClientIface.names, funext (hdrName_eq _ _ _)]
  exact List.mapM_pure

/-- The call adds the client. -/
def Adds (cfg : ι → ClientIface) (s : NamedSystem ι) (i : ι) (mac : BitVec 48)
    (succeeds : Bool) : Prop :=
  s.Admits cfg i mac ∧ (cfg i).hasTxProp = true ∧ succeeds = true

/-- The client added at an interface. -/
def nextClient (cfg : ι → ClientIface) (s : NamedSystem ι) (i : ι) (mac : BitVec 48) :
    NamedClient :=
  ⟨mac, (s.iface i).headerNameCount, (cfg i).names (s.iface i).headerNameCount⟩

theorem clients_addClient {i : ι} {mac : BitVec 48} {succeeds : Bool}
    (h : Adds cfg s i mac succeeds) (j : ι) :
    ((s.addClient cfg i mac succeeds).iface j).clients =
      if j = i then (s.iface i).clients ++ [s.nextClient cfg i mac]
      else (s.iface j).clients := by
  have hguard : s.Admits cfg i mac ∧ (cfg i).hasTxProp = true ∧ succeeds = true := h
  rw [addClient, if_pos hguard, headerNames_eq]
  simp only [Function.update_apply]
  split
  · rfl
  · rfl

theorem addClient_of_not {i : ι} {mac : BitVec 48} {succeeds : Bool}
    (h : ¬ Adds cfg s i mac succeeds) : s.addClient cfg i mac succeeds = s :=
  if_neg h

theorem clients_delClient (i : ι) (mac : BitVec 48) (succeeds : Bool) (j : ι) :
    ((s.delClient cfg i mac succeeds).iface j).clients.Sublist (s.iface j).clients := by
  rw [delClient]
  split
  · by_cases hj : j = i
    · subst hj
      simp only [Function.update_self]
      exact List.eraseP_sublist
    · simp only [Function.update_of_ne hj]
      exact List.Sublist.refl _
  · exact List.Sublist.refl _

/-- Every client has the names of its count. -/
def Named (cfg : ι → ClientIface) (s : NamedSystem ι) : Prop :=
  ∀ i, ∀ c ∈ (s.iface i).clients, c.names = (cfg i).names c.nameCount

theorem named_step (h : Named cfg s) (o : ClientOp ι) : Named cfg (s.step cfg o) := by
  cases o with
  | add i mac succeeds =>
    by_cases hadds : Adds cfg s i mac succeeds
    · intro j c hc
      rw [step, clients_addClient hadds] at hc
      split at hc
      · rename_i hj
        subst hj
        obtain hc | hc := List.mem_append.mp hc
        · exact h j c hc
        · rw [List.mem_singleton.mp hc]
          rfl
      · exact h j c hc
    · rw [step, addClient_of_not hadds]
      exact h
  | del i mac succeeds =>
    intro j c hc
    exact h j c ((clients_delClient i mac succeeds j).subset hc)

theorem named_run (cfg : ι → ClientIface) (ops : List (ClientOp ι)) :
    Named cfg (run cfg ops) := by
  refine foldl_invariant (Named cfg) (fun _ => True) (fun s o h _ => named_step h o) ?_ ops
    fun _ _ => trivial
  intro i c hc
  exact absurd hc List.not_mem_nil

/-- A client is added only where no header present has one of its names: no
client of the same kind of interface, with a header of the same family, has the
first digits of both numbers in common with it. -/
def AddsApart (cfg : ι → ClientIface) (s : NamedSystem ι) : ClientOp ι → Prop
  | .add i mac succeeds =>
    Adds cfg s i mac succeeds → ∀ j, ∀ c ∈ (s.iface j).clients,
      ¬ (cfg i).Clashes (cfg j) (s.iface i).headerNameCount c.nameCount
  | .del _ _ _ => True

end NamedSystem

open NamedSystem

variable {cfg : ι → ClientIface} {s : NamedSystem ι}

theorem NamesDiffer.del (h : NamesDiffer s) (i : ι) (mac : BitVec 48) (succeeds : Bool) :
    NamesDiffer (s.delClient cfg i mac succeeds) where
  own j c hc := h.own j c ((clients_delClient i mac succeeds j).subset hc)
  iface j := (h.iface j).sublist (clients_delClient i mac succeeds j)
  other j k hjk c hc c' hc' :=
    h.other j k hjk c ((clients_delClient i mac succeeds j).subset hc) c'
      ((clients_delClient i mac succeeds k).subset hc')

theorem NamesDiffer.add_iff (h : NamesDiffer s) {i : ι} {mac : BitVec 48} {succeeds : Bool}
    (hadds : Adds cfg s i mac succeeds) :
    NamesDiffer (s.addClient cfg i mac succeeds) ↔
      ∀ j, ∀ c ∈ (s.iface j).clients, (s.nextClient cfg i mac).names.Disjoint c.names := by
  have hnew := clients_addClient hadds
  have hself : ((s.addClient cfg i mac succeeds).iface i).clients
      = (s.iface i).clients ++ [s.nextClient cfg i mac] := (hnew i).trans (if_pos rfl)
  have hlast : s.nextClient cfg i mac
      ∈ ((s.addClient cfg i mac succeeds).iface i).clients := by
    rw [hself]
    exact List.mem_append_right _ (List.mem_singleton_self _)
  constructor
  · intro hadd j c hc
    by_cases hj : j = i
    · subst hj
      have hpair := hadd.iface j
      rw [hself, List.pairwise_append] at hpair
      exact List.disjoint_symm (hpair.2.2 c hc _ (List.mem_singleton_self _))
    · have hc' : c ∈ ((s.addClient cfg i mac succeeds).iface j).clients := by
        rw [hnew j, if_neg hj]
        exact hc
      exact hadd.other i j (Ne.symm hj) _ hlast c hc'
  · intro hdisj
    -- a client there now was there before, or is the new one
    have hcases : ∀ j, ∀ c ∈ ((s.addClient cfg i mac succeeds).iface j).clients,
        c ∈ (s.iface j).clients ∨ j = i ∧ c = s.nextClient cfg i mac := by
      intro j c hc
      by_cases hj : j = i
      · subst hj
        rw [hself, List.mem_append, List.mem_singleton] at hc
        exact hc.imp_right fun hc => ⟨rfl, hc⟩
      · rw [hnew j, if_neg hj] at hc
        exact .inl hc
    refine ⟨?_, ?_, ?_⟩
    · intro j c hc
      obtain hc | ⟨rfl, rfl⟩ := hcases j c hc
      · exact h.own j c hc
      · exact (cfg j).names_nodup _
    · intro j
      by_cases hj : j = i
      · subst hj
        rw [hself, List.pairwise_append]
        refine ⟨h.iface j, List.pairwise_singleton _ _, ?_⟩
        intro c hc c' hc'
        rw [List.mem_singleton.mp hc']
        exact List.disjoint_symm (hdisj j c hc)
      · rw [hnew j, if_neg hj]
        exact h.iface j
    · intro j k hjk c hc c' hc'
      obtain hold | ⟨hj, hnext⟩ := hcases j c hc
      · obtain hold' | ⟨-, hnext'⟩ := hcases k c' hc'
        · exact h.other j k hjk c hold c' hold'
        · rw [hnext']
          exact List.disjoint_symm (hdisj j c hold)
      · obtain hold' | ⟨hk, -⟩ := hcases k c' hc'
        · rw [hnext]
          exact hdisj k c' hold'
        · exact absurd (hj.trans hk.symm) hjk

theorem namesDiffer_step_iff (h : NamesDiffer s) (hnamed : Named cfg s) (o : ClientOp ι) :
    NamesDiffer (s.step cfg o) ↔ AddsApart cfg s o := by
  cases o with
  | add i mac succeeds =>
    by_cases hadds : Adds cfg s i mac succeeds
    · rw [step, h.add_iff hadds]
      constructor
      · intro hdisj _ j c hc
        have hd := hdisj j c hc
        rw [hnamed j c hc] at hd
        exact ClientIface.disjoint_names_iff.mp hd
      · intro hapart j c hc
        rw [hnamed j c hc]
        exact ClientIface.disjoint_names_iff.mpr (hapart hadds j c hc)
    · rw [step, addClient_of_not hadds]
      exact ⟨fun _ ha => absurd ha hadds, fun _ => h⟩
  | del i mac succeeds => exact ⟨fun _ => trivial, fun _ => h.del i mac succeeds⟩

/-- Through a run the names of the headers of the clients present differ exactly
when each client is added apart from those present. -/
theorem namesDiffer_run_iff (cfg : ι → ClientIface) (ops : List (ClientOp ι)) :
    (∀ pre, pre <+: ops → NamesDiffer (run cfg pre)) ↔
      ∀ pre o, pre ++ [o] <+: ops → AddsApart cfg (run cfg pre) o := by
  refine forall_prefix_iff ?_ ?_
  · exact ⟨fun i c hc => absurd hc List.not_mem_nil, fun i => List.Pairwise.nil,
      fun i j _ c hc => absurd hc List.not_mem_nil⟩
  · intro pre o _ hpre
    rw [run, List.foldl_append, List.foldl_cons, List.foldl_nil]
    exact namesDiffer_step_iff hpre (named_run cfg pre) o

/-- A WLAN interface with properties of both families. -/
def wlanIface : ClientIface := ⟨.wlan, 1, true, fun _ => true⟩

/-- Eleven clients connect, one after the other. -/
def elevenClients : List (ClientOp Unit) :=
  (List.range 11).map fun n => .add () (BitVec.ofNat 48 n) true

/-- The headers of the eleventh client have the names of those of the second. -/
theorem elevenClients_clash :
    ¬ ∀ pre, pre <+: elevenClients → NamesDiffer (run (fun _ => wlanIface) pre) := by
  intro h
  have hpair := (h elevenClients List.prefix_rfl).iface ()
  have hlen : ((run (fun _ => wlanIface) elevenClients).iface ()).clients.length = 11 := by
    decide +kernel
  have hdisj := List.pairwise_iff_getElem.mp hpair 1 10 (by omega) (by omega) (by decide)
  have hsame : "1IEEE802_3_v41".toList ∈
      (((run (fun _ => wlanIface) elevenClients).iface ()).clients.map (·.names))[1]! ∧
      "1IEEE802_3_v41".toList ∈
      (((run (fun _ => wlanIface) elevenClients).iface ()).clients.map (·.names))[10]! := by
    decide +kernel
  rw [getElem!_pos _ 1 (by rw [List.length_map]; omega),
    getElem!_pos _ 10 (by rw [List.length_map]; omega), List.getElem_map, List.getElem_map] at hsame
  exact hdisj hsame.1 hsame.2

end Axon7.Clients
