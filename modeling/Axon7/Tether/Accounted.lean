import Axon7.Tether.Lan
import Axon7.Lib.Run

/-!
# What rules coming and going leave alone

Adding and deleting rules, for the uplink or for software routing, touches
neither the addresses of an interface nor its flags for upstream and
downstream.
-/

namespace Axon7.Tether

theorem addFilteringRule_length (alloc : Alloc) (r : RuleSet) (n : Nat) (k : Kernel) :
    (addFilteringRule alloc r n k).1.length = n := by
  induction n generalizing k with
  | zero => rfl
  | succ n ih => exact congrArg (· + 1) (ih _)

theorem addFilteringRule_ne_zero {alloc : Alloc} (hA : alloc.Grants) (r : RuleSet) (n : Nat)
    (k : Kernel) : ∀ hdl ∈ (addFilteringRule alloc r n k).1, hdl ≠ 0 := by
  induction n generalizing k with
  | zero => exact fun _ h => absurd h List.not_mem_nil
  | succ n ih =>
    intro hdl hmem
    obtain rfl | hmem := List.mem_cons.mp hmem
    · exact hA.ne_zero k r.ip
    · exact ih _ hdl hmem

namespace Lan

variable {alloc : Alloc} {w : World} {s : Lan} {ip : IpType} {isSta : Bool}

structure Frame (s t : Lan) : Prop where
  ipType : t.ipType = s.ipType
  numDftRtV6 : t.numDftRtV6 = s.numDftRtV6
  ipv6Addr : t.ipv6Addr = s.ipv6Addr
  isUpstreamSet : t.isUpstreamSet = s.isUpstreamSet
  isDownstreamSet : t.isDownstreamSet = s.isDownstreamSet
  isActive : t.isActive = s.isActive

theorem Frame.refl (s : Lan) : s.Frame s := ⟨rfl, rfl, rfl, rfl, rfl, rfl⟩

theorem Frame.trans {t u : Lan} (h : s.Frame t) (h' : t.Frame u) : s.Frame u where
  ipType := h'.ipType.trans h.ipType
  numDftRtV6 := h'.numDftRtV6.trans h.numDftRtV6
  ipv6Addr := h'.ipv6Addr.trans h.ipv6Addr
  isUpstreamSet := h'.isUpstreamSet.trans h.isUpstreamSet
  isDownstreamSet := h'.isDownstreamSet.trans h.isDownstreamSet
  isActive := h'.isActive.trans h.isActive

theorem handleSoftwareRoutingEnable_frame :
    s.Frame (s.handleSoftwareRoutingEnable alloc) := by
  rw [handleSoftwareRoutingEnable]
  split
  · exact .refl s
  · exact ⟨rfl, rfl, rfl, rfl, rfl, rfl⟩

theorem uninstall_frame (r : RuleSet) (n : Nat) : s.Frame (s.uninstall r n) :=
  ⟨rfl, rfl, rfl, rfl, rfl, rfl⟩

theorem withSoftwareroutingAct_frame (act : Bool) :
    s.Frame { s with softwareroutingAct := act } :=
  ⟨rfl, rfl, rfl, rfl, rfl, rfl⟩

theorem handleSoftwareRoutingDisable_frame :
    s.Frame s.handleSoftwareRoutingDisable := by
  rw [handleSoftwareRoutingDisable]
  split
  · have h₄ : s.Frame (s.uninstall (.swRouting .v4) 1) := uninstall_frame _ _
    have h₆ := h₄.trans (uninstall_frame (.swRouting .v6) 1)
    exact h₆.trans (withSoftwareroutingAct_frame false)
  · exact .refl s

theorem checkSwRouting_frame : s.Frame (s.checkSwRouting alloc w) := by
  rw [checkSwRouting]
  split
  · exact handleSoftwareRoutingEnable_frame
  · exact .refl s

theorem handleWanUp_frame : s.Frame (s.handleWanUp alloc ip) := by
  rw [handleWanUp]
  split
  · exact .refl s
  · exact ⟨rfl, rfl, rfl, rfl, rfl, rfl⟩

theorem handleWanUpEx_frame : s.Frame (s.handleWanUpEx alloc w ip) := by
  rw [handleWanUpEx, handleUplinkFilterRule]
  split
  · exact .refl s
  · split <;> exact ⟨rfl, rfl, rfl, rfl, rfl, rfl⟩

theorem offload_frame : s.Frame (s.offload alloc w ip isSta) := by
  have hup : ∀ s : Lan, s.Frame
      (if isSta then s.handleWanUp alloc ip else s.handleWanUpEx alloc w ip) := by
    intro s
    split
    · exact handleWanUp_frame
    · exact handleWanUpEx_frame
  cases ip with
  | v4 => exact hup s
  | v6 =>
    have hpre : s.Frame (s.installIpv6PrefixFltRule alloc) :=
      ⟨rfl, rfl, rfl, rfl, rfl, rfl⟩
    exact hpre.trans (hup _)

theorem wanDown_frame : s.Frame (s.wanDown ip isSta) := by
  rw [wanDown]
  split
  · split
    · exact .refl s
    · split
      · exact .refl s
      · exact ⟨rfl, rfl, rfl, rfl, rfl, rfl⟩
  · exact ⟨rfl, rfl, rfl, rfl, rfl, rfl⟩

theorem handleWanDown_frame : s.Frame (s.handleWanDown ip isSta) := by
  cases ip with
  | v4 => exact wanDown_frame
  | v6 =>
    have hdel : s.Frame s.deleteIpv6PrefixFltRule := ⟨rfl, rfl, rfl, rfl, rfl, rfl⟩
    exact hdel.trans wanDown_frame

/-! An address changes the addresses. -/

theorem handleAddrEvt_flags {a : Addr} :
    (s.handleAddrEvt alloc a).2.isUpstreamSet = s.isUpstreamSet ∧
      (s.handleAddrEvt alloc a).2.isDownstreamSet = s.isDownstreamSet := by
  cases a with
  | v4 addr => exact ⟨rfl, rfl⟩
  | v6 addr =>
    rw [handleAddrEvt]
    dsimp only
    split
    · exact ⟨rfl, rfl⟩
    · split <;> exact ⟨rfl, rfl⟩

theorem handleAddrEvt_ipType {a : Addr} :
    (s.handleAddrEvt alloc a).2.ipType = s.ipType.config a.ipType := by
  cases a with
  | v4 addr => rfl
  | v6 addr =>
    rw [handleAddrEvt]
    dsimp only
    split
    · rfl
    · split <;> rfl

theorem handleAddrEvt_configured {a : Addr}
    (h : (s.handleAddrEvt alloc a).1 = false) : a.ipType = .v6 ∧ s.ipv6Addr ≠ [] := by
  cases a with
  | v4 addr => cases h
  | v6 addr =>
    rw [handleAddrEvt] at h
    dsimp only at h
    split at h
    · rename_i hmem
      exact ⟨rfl, List.ne_nil_of_mem hmem⟩
    · cases h

theorem handleAddrEvt_ipv6Addr {a : Addr}
    (h : (s.handleAddrEvt alloc a).2.ipv6Addr ≠ []) :
    a.ipType = .v6 ∨ s.ipv6Addr ≠ [] := by
  cases a with
  | v4 addr => exact .inr h
  | v6 addr => exact .inl rfl

theorem addDummyPrivateSubnetFltRule_frame :
    s.Frame (s.addDummyPrivateSubnetFltRule alloc ip) := by
  cases ip with
  | v4 => exact ⟨rfl, rfl, rfl, rfl, rfl, rfl⟩
  | v6 => exact .refl s

theorem addrAddBridge_ipType {a : Addr} :
    (s.addrAddBridge alloc a).ipType = s.ipType ∧
      (s.addrAddBridge alloc a).ipv6Addr = s.ipv6Addr := by
  rw [addrAddBridge]
  rw [addDummyPrivateSubnetFltRule_frame.ipType,
    addDummyPrivateSubnetFltRule_frame.ipv6Addr]
  split <;> exact ⟨rfl, rfl⟩

theorem has_of_not_wantsAddr {a : Addr} (h : ¬ s.wantsAddr a = true) :
    s.ipType.has a.ipType = true := by
  rw [wantsAddr] at h
  cases ha : a.ipType <;> cases hty : s.ipType <;> simp [ha, hty] at h <;> rfl

end Lan

/-! ## `config_ip_type` -/

section Config

variable {ip : IpType}

theorem has_config_self (ip : IpType) (ty : IfaceIpType) :
    (ty.config ip).has ip = true := by
  cases ip <;> cases ty <;> rfl

theorem has_config_of_ne {ip' : IpType} (hne : ip' ≠ ip) (ty : IfaceIpType) :
    (ty.config ip).has ip' = ty.has ip' := by
  cases ip <;> cases ip' <;> cases ty <;> first | rfl | exact absurd rfl hne

theorem config_of_has {ty : IfaceIpType} (h : ty.has ip = true) :
    ty.config ip = ty := by
  cases ip <;> cases ty <;> first | rfl | cases h

theorem has_config_of_has {ip' : IpType} {ty : IfaceIpType}
    (h : ty.has ip' = true) : (ty.config ip).has ip' = true := by
  rcases eq_or_ne ip' ip with rfl | hne
  · exact has_config_self ip' ty
  · rw [has_config_of_ne hne, h]

end Config

end Axon7.Tether

/-!
# The filter rules are counted

As long as `handle_wan_down` takes away what `handle_wan_up` or
`handle_wan_up_ex` put there, the count of `IPACM_Config` is the number of
rules the kernel has for the pipe, and no rule is deleted that is not there.

The rules are on the books by the sets they are in. A set comes on the books
with the handles it is installed under and goes off with the same; what is in
the array of a set that is not on the books does not matter.
-/

namespace Axon7.Tether

open Axon7.Lib

abbrev Entry := (IpType × Nat) × RuleSet

instance : Fintype RuleSet where
  elems := {.dft .v4, .dft .v6, .icmp .v4, .icmp .v6, .privateSubnet,
    .swRouting .v4, .swRouting .v6, .wanUl .v4, .wanUl .v6, .staUl .v4,
    .staUl .v6, .ipv6Prefix}
  complete r := by
    rcases r with ip | ip | _ | ip | ip | ip | _ <;> try rcases ip <;> decide
    all_goals decide

/-- How many rules are in a set, the uplink rules for the modem apart. -/
def RuleSet.size : RuleSet → Option Nat
  | .dft ip => some (numDftRules ip)
  | .icmp _ => some 1
  | .privateSubnet => some maxPrivateSubnetEntries
  | .swRouting _ => some 1
  | .wanUl _ => none
  | .staUl _ => some 1
  | .ipv6Prefix => some 1

/-- The rules of a set under the handles of its array. -/
def entries (r : RuleSet) (hdls : List Nat) : Multiset Entry :=
  hdls.map fun h => ((r.ip, h), r)

/-- The rules of a family among these. -/
def familyCount (ip : IpType) (es : Multiset Entry) : Nat :=
  es.countP fun e => e.1.1 = ip

@[simp] theorem entries_nil (r : RuleSet) : entries r [] = 0 := rfl

@[simp] theorem entries_cons (r : RuleSet) (h : Nat) (hdls : List Nat) :
    entries r (h :: hdls) = ((r.ip, h), r) ::ₘ entries r hdls := rfl

theorem mem_entries {r : RuleSet} {hdls : List Nat} {e : Entry} :
    e ∈ entries r hdls ↔ ∃ h ∈ hdls, ((r.ip, h), r) = e :=
  List.mem_map

@[simp] theorem familyCount_add (ip : IpType) (es es' : Multiset Entry) :
    familyCount ip (es + es') = familyCount ip es + familyCount ip es' :=
  Multiset.countP_add _ _ _

@[simp] theorem familyCount_zero (ip : IpType) : familyCount ip 0 = 0 := rfl

theorem familyCount_entries (ip : IpType) (r : RuleSet) (hdls : List Nat) :
    familyCount ip (entries r hdls) = if r.ip = ip then hdls.length else 0 := by
  induction hdls with
  | nil => simp
  | cons h hdls ih =>
    rw [entries_cons, familyCount, Multiset.countP_cons, ← familyCount, ih]
    split <;> rfl

/-! ## The kernel -/

variable {alloc : Alloc} {k : Kernel} {books : Multiset Entry}

theorem addFilteringRule_owns (hA : alloc.Grants) (r : RuleSet) (n : Nat)
    (h : k.Owns books) :
    (addFilteringRule alloc r n k).2.Owns
        (entries r (addFilteringRule alloc r n k).1 + books) := by
  induction n generalizing k books with
  | zero =>
    rw [addFilteringRule, entries_nil, zero_add]
    exact h
  | succ n ih =>
    have howns := ih (h.add (r := r) (hA.fresh k r.ip))
    rw [addFilteringRule, entries_cons, Multiset.cons_add, ← Multiset.add_cons]
    exact howns

theorem deleteFilteringHdls_owns {r : RuleSet} {hdls : List Nat}
    (hne : ∀ hdl ∈ hdls, hdl ≠ 0) (h : k.Owns (entries r hdls + books)) :
    (deleteFilteringHdls hdls r.ip k).Owns books := by
  induction hdls generalizing k with
  | nil =>
    rw [entries_nil, zero_add] at h
    exact h
  | cons hdl hdls ih =>
    rw [entries_cons, Multiset.cons_add] at h
    rw [deleteFilteringHdls, List.foldl_cons, if_neg (hne hdl List.mem_cons_self)]
    exact ih (fun hdl hm => hne hdl (List.mem_cons_of_mem _ hm)) h.del

/-! ## The books of an interface -/

namespace Lan

variable {s : Lan} {on : Finset RuleSet} {lost : Multiset Entry} {r : RuleSet}

/-- The rules of the sets that are on the books. -/
def held (on : Finset RuleSet) (s : Lan) : Multiset Entry :=
  ∑ r ∈ on, entries r (s.hdl r)

/-- The kernel has what is on the books and what was lost from them, and that
many rules are counted. -/
structure Accounts (on : Finset RuleSet) (lost : Multiset Entry) (s : Lan) :
    Prop where
  owns : s.kernel.Owns (s.held on + lost)
  count : ∀ ip, s.fltRuleCount ip = familyCount ip (s.held on + lost)
  ne_zero : ∀ r ∈ on, ∀ h ∈ s.hdl r, h ≠ 0
  size : ∀ r ∈ on, ∀ n ∈ r.size, (s.hdl r).length = n

theorem Accounts.congr {s' : Lan} (h : s.Accounts on lost)
    (hk : s'.kernel = s.kernel) (hc : s'.fltRuleCount = s.fltRuleCount)
    (hh : ∀ r ∈ on, s'.hdl r = s.hdl r) : s'.Accounts on lost := by
  have hheld : s'.held on = s.held on :=
    Finset.sum_congr rfl fun r hr => by rw [hh r hr]
  constructor
  · rw [hk, hheld]
    exact h.owns
  · rw [hc, hheld]
    exact h.count
  · intro r hr
    rw [hh r hr]
    exact h.ne_zero r hr
  · intro r hr
    rw [hh r hr]
    exact h.size r hr

/-! ### Installing -/

variable (alloc) in
/-- The handles a set is installed under. -/
def newHdls (r : RuleSet) (n : Nat) (s : Lan) : List Nat :=
  (addFilteringRule alloc r n s.kernel).1

section Install

variable {n : Nat} {kept : List Nat}

@[simp] theorem install_ipType :
    (s.install alloc r n kept).ipType = s.ipType := rfl

@[simp] theorem install_numDftRtV6 :
    (s.install alloc r n kept).numDftRtV6 = s.numDftRtV6 := rfl

@[simp] theorem install_ipv6Addr :
    (s.install alloc r n kept).ipv6Addr = s.ipv6Addr := rfl

@[simp] theorem install_softwareroutingAct :
    (s.install alloc r n kept).softwareroutingAct = s.softwareroutingAct := rfl

@[simp] theorem install_modemUlSet :
    (s.install alloc r n kept).modemUlSet = s.modemUlSet := rfl

@[simp] theorem install_staUlSet :
    (s.install alloc r n kept).staUlSet = s.staUlSet := rfl

@[simp] theorem install_isUpstreamSet :
    (s.install alloc r n kept).isUpstreamSet = s.isUpstreamSet := rfl

@[simp] theorem install_isDownstreamSet :
    (s.install alloc r n kept).isDownstreamSet = s.isDownstreamSet := rfl

@[simp] theorem install_isActive :
    (s.install alloc r n kept).isActive = s.isActive := rfl

theorem install_hdl_self :
    (s.install alloc r n kept).hdl r = kept ++ s.newHdls alloc r n :=
  Function.update_self r _ _

theorem install_hdl_of_ne {r' : RuleSet} (hr : r' ≠ r) :
    (s.install alloc r n kept).hdl r' = s.hdl r' :=
  Function.update_of_ne hr _ _

theorem install_count (ip : IpType) :
    (s.install alloc r n kept).fltRuleCount ip =
      s.fltRuleCount ip + (if r.ip = ip then n else 0 : Nat) := by
  show Function.update s.fltRuleCount r.ip _ ip = _
  rcases eq_or_ne ip r.ip with rfl | hip
  · rw [Function.update_self, if_pos rfl]
  · rw [Function.update_of_ne hip, if_neg hip.symm]
    simp

theorem newHdls_length : (s.newHdls alloc r n).length = n :=
  addFilteringRule_length alloc r n s.kernel

theorem newHdls_ne_zero (hA : alloc.Grants) {hdl : Nat}
    (hmem : hdl ∈ s.newHdls alloc r n) : hdl ≠ 0 :=
  addFilteringRule_ne_zero hA r n s.kernel hdl hmem

theorem Accounts.install (hA : alloc.Grants) (h : s.Accounts on lost)
    (hr : r ∉ on) (hn : ∀ m ∈ r.size, m = n) :
    (s.install alloc r n []).Accounts (insert r on) lost := by
  have howns := addFilteringRule_owns hA r n h.owns
  have hrest : ∀ r' ∈ on, (s.install alloc r n []).hdl r' = s.hdl r' :=
    fun r' hr' => install_hdl_of_ne fun heq => hr (heq ▸ hr')
  have hheld : (s.install alloc r n []).held (insert r on) =
      entries r (s.newHdls alloc r n) + s.held on := by
    rw [held, Finset.sum_insert hr, install_hdl_self, List.nil_append]
    exact congrArg _ (Finset.sum_congr rfl fun r' hr' => by rw [hrest r' hr'])
  constructor
  · rw [hheld, add_assoc]
    exact howns
  · intro ip
    rw [hheld, add_assoc, familyCount_add, familyCount_entries, install_count,
      h.count ip, newHdls_length, Int.natCast_add, add_comm]
  · intro r' hr'
    obtain rfl | hr' := Finset.mem_insert.mp hr'
    · rw [install_hdl_self]
      exact fun hdl hmem => newHdls_ne_zero hA hmem
    · rw [hrest r' hr']
      exact h.ne_zero r' hr'
  · intro r' hr' m hm
    obtain rfl | hr' := Finset.mem_insert.mp hr'
    · rw [install_hdl_self, List.nil_append, hn m hm]
      exact newHdls_length
    · rw [hrest r' hr']
      exact h.size r' hr' m hm

theorem Accounts.insert_nil (h : s.Accounts on lost) (hr : r ∉ on)
    (hnil : s.hdl r = []) (hsize : r.size = none) :
    s.Accounts (insert r on) lost := by
  have hheld : s.held (insert r on) = s.held on := by
    rw [held, Finset.sum_insert hr, hnil, entries_nil, zero_add]
    rfl
  constructor
  · rw [hheld]
    exact h.owns
  · rw [hheld]
    exact h.count
  · intro r' hr' hdl hmem
    obtain rfl | hr' := Finset.mem_insert.mp hr'
    · rw [hnil] at hmem
      exact absurd hmem List.not_mem_nil
    · exact h.ne_zero r' hr' hdl hmem
  · intro r' hr' m hm
    obtain rfl | hr' := Finset.mem_insert.mp hr'
    · rw [hsize] at hm
      cases hm
    · exact h.size r' hr' m hm

theorem Accounts.install_lost (hA : alloc.Grants) (h : s.Accounts on lost)
    (hr : r ∉ on) (hn : ∀ m ∈ r.size, m = n) :
    (s.install alloc r n []).Accounts on
      (entries r (s.newHdls alloc r n) + lost) := by
  have hin := h.install hA hr hn
  have hheld : (s.install alloc r n []).held (insert r on) =
      entries r (s.newHdls alloc r n) + (s.install alloc r n []).held on := by
    rw [held, Finset.sum_insert hr, install_hdl_self, List.nil_append]
    rfl
  have heq : (s.install alloc r n []).held (insert r on) + lost =
      (s.install alloc r n []).held on +
        (entries r (s.newHdls alloc r n) + lost) := by
    rw [hheld, add_assoc, add_left_comm]
  constructor
  · rw [← heq]
    exact hin.owns
  · rw [← heq]
    exact hin.count
  · exact fun r' hr' => hin.ne_zero r' (Finset.mem_insert_of_mem hr')
  · exact fun r' hr' => hin.size r' (Finset.mem_insert_of_mem hr')

end Install

/-! ### Uninstalling -/

section Uninstall

variable {n : Nat}

@[simp] theorem uninstall_ipType :
    (s.uninstall r n).ipType = s.ipType := rfl

@[simp] theorem uninstall_numDftRtV6 :
    (s.uninstall r n).numDftRtV6 = s.numDftRtV6 := rfl

@[simp] theorem uninstall_ipv6Addr :
    (s.uninstall r n).ipv6Addr = s.ipv6Addr := rfl

@[simp] theorem uninstall_softwareroutingAct :
    (s.uninstall r n).softwareroutingAct = s.softwareroutingAct := rfl

@[simp] theorem uninstall_modemUlSet :
    (s.uninstall r n).modemUlSet = s.modemUlSet := rfl

@[simp] theorem uninstall_staUlSet :
    (s.uninstall r n).staUlSet = s.staUlSet := rfl

@[simp] theorem uninstall_isUpstreamSet :
    (s.uninstall r n).isUpstreamSet = s.isUpstreamSet := rfl

@[simp] theorem uninstall_isDownstreamSet :
    (s.uninstall r n).isDownstreamSet = s.isDownstreamSet := rfl

@[simp] theorem uninstall_isActive :
    (s.uninstall r n).isActive = s.isActive := rfl

@[simp] theorem uninstall_hdl : (s.uninstall r n).hdl = s.hdl := rfl

theorem uninstall_count (ip : IpType) :
    (s.uninstall r n).fltRuleCount ip =
      s.fltRuleCount ip - (if r.ip = ip then n else 0 : Nat) := by
  show Function.update s.fltRuleCount r.ip _ ip = _
  rcases eq_or_ne ip r.ip with rfl | hip
  · rw [Function.update_self, if_pos rfl]
  · rw [Function.update_of_ne hip, if_neg hip.symm]
    simp

theorem Accounts.uninstall_all (h : s.Accounts on lost) (hr : r ∈ on)
    (hn : (s.hdl r).length = n) :
    (s.uninstall r n).Accounts (on.erase r) lost := by
  have hheld : s.held on + lost =
      entries r (s.hdl r) + ((s.uninstall r n).held (on.erase r) + lost) := by
    rw [← add_assoc, held, held, uninstall_hdl,
      Finset.add_sum_erase on (fun r => entries r (s.hdl r)) hr]
  constructor
  · have howns := h.owns
    rw [hheld] at howns
    exact deleteFilteringHdls_owns (h.ne_zero r hr) howns
  · intro ip
    rw [uninstall_count, h.count ip, hheld, familyCount_add, familyCount_entries,
      hn, Int.natCast_add, add_sub_cancel_left]
  · exact fun r' hr' => h.ne_zero r' (Finset.mem_of_mem_erase hr')
  · exact fun r' hr' => h.size r' (Finset.mem_of_mem_erase hr')

theorem Accounts.uninstall (h : s.Accounts on lost) (hr : r ∈ on)
    (hn : r.size = some n) :
    (s.uninstall r n).Accounts (on.erase r) lost :=
  h.uninstall_all hr (h.size r hr n hn)

end Uninstall

end Lan

end Axon7.Tether
