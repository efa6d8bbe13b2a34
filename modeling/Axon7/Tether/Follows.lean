import Axon7.Lib.Run
import Axon7.Tether.Accounted

/-!
# The uplink is offloaded when it is asked for

The uplink of a family is asked for by three parties: the upstream by a WAN
interface, the downstream by the framework, and the address by the kernel. An
interface is to have its uplink rules while all three ask. It keeps a flag for
each, acts when the second of upstream and downstream comes, and takes the
address for granted then.
-/

namespace Axon7.Tether

open Axon7.Lib

/-! ## What is asked for -/

/-- The events of a tethered interface on a modem backhaul. -/
inductive Request
  | addrAdd (a : Addr)
  | wanUp (ip : IpType)
  | wanDown (ip : IpType)
  | downstreamAdd (ip : IpType)
  | downstreamDel (ip : IpType)

def Request.event : Request → Event
  | .addrAdd a => .addrAdd a
  | .wanUp ip => .wanUpTether ip false
  | .wanDown ip => .wanDownTether ip false
  | .downstreamAdd ip => .downstreamAdd ip
  | .downstreamDel ip => .downstreamDel ip

/-- Which families have an upstream that is up, a downstream that was added
and not deleted since, and an address. -/
structure Asked where
  up : IpType → Bool
  downstream : IpType → Bool
  addr : IpType → Bool

namespace Asked

variable {q : Asked}

/-- All three. -/
def all (q : Asked) (ip : IpType) : Bool := q.up ip && q.downstream ip && q.addr ip

def next (q : Asked) : Request → Asked
  | .addrAdd a =>
    if a.isZero then q else { q with addr := Function.update q.addr a.ipType true }
  | .wanUp ip => { q with up := Function.update q.up ip true }
  | .wanDown ip => { q with up := Function.update q.up ip false }
  | .downstreamAdd ip =>
    { q with downstream := Function.update q.downstream ip true }
  | .downstreamDel ip =>
    { q with downstream := Function.update q.downstream ip false }

end Asked

/-! ## What the interface does -/

/-- `IPACM_Config`, as far as a tethered interface reads it. -/
structure Settings where
  ipaSwRtEnable : Bool
  numExtProps : IpType → Fin (maxNumExtProps + 1)

/-- The upstreams of a modem backhaul that are up, and no station. -/
def Settings.world (c : Settings) (up : IpType → Bool) : World where
  isWanUp := up
  backhaulIsStaMode := false
  ipaSwRtEnable := c.ipaSwRtEnable
  numExtProps := c.numExtProps

/-- An interface with what it is asked for. -/
abbrev Serving := Lan × Asked

namespace Serving

/-- An interface that is made while these upstreams are up. -/
def init (kind : IfaceKind) (c : Settings) (up : IpType → Bool) (g : Nat) : Serving :=
  (Lan.init kind (c.world up) g, ⟨up, fun _ => false, fun _ => false⟩)

/-- `isWanUP` and `isWanUP_V6` are as the upstreams are. -/
def step (alloc : Alloc) (kind : IfaceKind) (x : Serving) (r : Settings × Request) :
    Serving :=
  (x.1.eventCallback alloc kind (r.1.world x.2.up) r.2.event, x.2.next r.2)

def run (alloc : Alloc) (kind : IfaceKind) (x : Serving)
    (rs : List (Settings × Request)) : Serving :=
  rs.foldl (step alloc kind) x

end Serving

namespace Lan

variable {alloc : Alloc} {kind : IfaceKind} {w : World} {s : Lan} {ip : IpType}

/-- The uplink rules of the family are installed. -/
def UplinkInstalled (ip : IpType) (s : Lan) : Prop :=
  ∃ e ∈ s.kernel.live, e.2 = .wanUl ip

/-! ## The uplink rules in the kernel

Whatever else the interface deletes, it deletes no uplink rule of a family
whose flag is set but together with all of them. -/

structure Uplinks (s : Lan) : Prop where
  keyed : s.kernel.Keyed
  within : ∀ ip, ∀ e ∈ s.kernel.live, e.2 = .wanUl ip →
    e.1.1 = ip ∧ e.1.2 ∈ s.hdl (.wanUl ip)
  there : ∀ ip, s.modemUlSet ip = true → s.UplinkInstalled ip
  clear : ∀ ip, s.modemUlSet ip = false → s.hdl (.wanUl ip) = []
  ne_zero : ∀ ip, ∀ h ∈ s.hdl (.wanUl ip), h ≠ 0
  fits : ∀ ip, (s.hdl (.wanUl ip)).length ≤ maxNumExtProps

theorem Uplinks.installed_iff (h : s.Uplinks) :
    s.UplinkInstalled ip ↔ s.modemUlSet ip = true := by
  constructor
  · rintro ⟨e, he, hset⟩
    by_contra hno
    have hmem := (h.within ip e he hset).2
    rw [h.clear ip (Bool.eq_false_of_not_eq_true hno)] at hmem
    exact absurd hmem List.not_mem_nil
  · exact h.there ip

theorem uplinks_init (kind : IfaceKind) (w : World) (g : Nat) :
    (Lan.init kind w g).Uplinks where
  keyed := List.nodup_nil
  within _ _ he := absurd he List.not_mem_nil
  there _ h := absurd h Bool.false_ne_true
  clear _ _ := rfl
  ne_zero _ _ h := absurd h List.not_mem_nil
  fits _ := Nat.zero_le _

/-! ### Adding -/

theorem addFilteringRule_spec (hA : alloc.Grants) (r : RuleSet) (n : Nat)
    {k : Kernel} (hk : k.Keyed) :
    (addFilteringRule alloc r n k).2.Keyed ∧
      ∀ e, e ∈ (addFilteringRule alloc r n k).2.live ↔
        e ∈ k.live ∨
          ∃ h ∈ (addFilteringRule alloc r n k).1, e = ((r.ip, h), r) := by
  induction n generalizing k with
  | zero => exact ⟨hk, by simp [addFilteringRule]⟩
  | succ n ih =>
    obtain ⟨hkeyed, hmem⟩ := ih (hk.add (r := r) (hA.fresh k r.ip))
    refine ⟨hkeyed, fun e => ?_⟩
    rw [addFilteringRule]
    dsimp only
    rw [hmem, Pool.add, List.mem_cons, List.exists_mem_cons_iff]
    tauto

theorem Uplinks.install (hA : alloc.Grants) (h : s.Uplinks) {r : RuleSet} {n : Nat}
    {kept : List Nat} (hr : ∀ ip, r ≠ .wanUl ip) :
    (s.install alloc r n kept).Uplinks := by
  obtain ⟨hkeyed, hmem⟩ := addFilteringRule_spec hA r n h.keyed
  have hhdl : ∀ ip, (s.install alloc r n kept).hdl (.wanUl ip) = s.hdl (.wanUl ip) :=
    fun ip => Function.update_of_ne (hr ip).symm _ _
  constructor
  · exact hkeyed
  · intro ip e he hset
    rw [hhdl]
    obtain he | ⟨h', -, rfl⟩ := (hmem e).mp he
    · exact h.within ip e he hset
    · exact absurd hset (hr ip)
  · intro ip hset
    obtain ⟨e, he, heq⟩ := h.there ip hset
    exact ⟨e, (hmem e).mpr (.inl he), heq⟩
  · exact fun ip hset => (hhdl ip).trans (h.clear ip hset)
  · intro ip
    rw [hhdl]
    exact h.ne_zero ip
  · intro ip
    rw [hhdl]
    exact h.fits ip

theorem Uplinks.handleWanUpEx (hA : alloc.Grants) (h : s.Uplinks)
    (hext : (w.numExtProps ip).val ≠ 0) :
    (s.handleWanUpEx alloc w ip).Uplinks ∧
      (s.handleWanUpEx alloc w ip).modemUlSet = Function.update s.modemUlSet ip true := by
  rw [Lan.handleWanUpEx]
  split
  · rename_i hset
    refine ⟨h, (Function.update_eq_self_iff.mpr hset.symm).symm⟩
  · rename_i hset
    have hnil := h.clear ip (Bool.eq_false_of_not_eq_true hset)
    rw [handleUplinkFilterRule, if_neg hext, hnil]
    refine ⟨?_, rfl⟩
    obtain ⟨hkeyed, hmem⟩ := addFilteringRule_spec hA (.wanUl ip) (w.numExtProps ip) h.keyed
    have hlen := addFilteringRule_length alloc (.wanUl ip) (w.numExtProps ip) s.kernel
    have hne := addFilteringRule_ne_zero hA (.wanUl ip) (w.numExtProps ip) s.kernel
    generalize hadd : addFilteringRule alloc (.wanUl ip) (w.numExtProps ip) s.kernel = added
      at hkeyed hlen hne hmem
    have hself : ∀ f : RuleSet → List Nat,
        Function.update f (.wanUl ip) added.1 (.wanUl ip) = added.1 :=
      fun f => Function.update_self _ _ _
    have hother : ∀ {ip'}, ip' ≠ ip → ∀ f : RuleSet → List Nat,
        Function.update f (.wanUl ip) added.1 (.wanUl ip') = f (.wanUl ip') :=
      fun hne f => Function.update_of_ne (fun heq => hne (RuleSet.wanUl.inj heq)) _ _
    simp only [Lan.install, hadd, List.nil_append]
    constructor
    · exact hkeyed
    · intro ip' e he hset
      show e.1.1 = ip' ∧ e.1.2 ∈ Function.update s.hdl (.wanUl ip) added.1 (.wanUl ip')
      obtain he | ⟨x, hx, rfl⟩ := (hmem e).mp he
      · obtain ⟨hip, hin⟩ := h.within ip' e he hset
        rcases eq_or_ne ip' ip with rfl | hne
        · rw [hnil] at hin
          exact absurd hin List.not_mem_nil
        · rw [hother hne]
          exact ⟨hip, hin⟩
      · obtain rfl := RuleSet.wanUl.inj hset
        rw [hself]
        exact ⟨rfl, hx⟩
    · intro ip' hset
      rcases eq_or_ne ip' ip with rfl | hne
      · obtain ⟨x, hx⟩ := List.exists_mem_of_length_pos
          (hlen ▸ Nat.pos_of_ne_zero hext)
        exact ⟨_, (hmem _).mpr (.inr ⟨x, hx, rfl⟩), rfl⟩
      · obtain ⟨e, he, heq⟩ := h.there ip' ((Function.update_of_ne hne _ _).symm.trans hset)
        exact ⟨e, (hmem e).mpr (.inl he), heq⟩
    · intro ip' hset
      rcases eq_or_ne ip' ip with rfl | hne
      · exact absurd ((Function.update_self _ _ _).symm.trans hset) (by rintro ⟨⟩)
      · exact (hother hne _).trans
          (h.clear ip' ((Function.update_of_ne hne _ _).symm.trans hset))
    · intro ip'
      show ∀ x ∈ Function.update s.hdl (.wanUl ip) added.1 (.wanUl ip'), x ≠ 0
      rcases eq_or_ne ip' ip with rfl | hne'
      · rw [hself]
        exact hne
      · rw [hother hne']
        exact h.ne_zero ip'
    · intro ip'
      show (Function.update s.hdl (.wanUl ip) added.1 (.wanUl ip')).length ≤ _
      rcases eq_or_ne ip' ip with rfl | hne'
      · rw [hself, hlen]
        exact Nat.le_of_lt_succ (w.numExtProps ip').isLt
      · rw [hother hne']
        exact h.fits ip'

theorem Uplinks.offload (hA : alloc.Grants) (h : s.Uplinks)
    (hext : (w.numExtProps ip).val ≠ 0) :
    (s.offload alloc w ip false).Uplinks ∧
      (s.offload alloc w ip false).modemUlSet = Function.update s.modemUlSet ip true := by
  cases ip with
  | v4 => exact h.handleWanUpEx hA hext
  | v6 => exact (h.install hA (r := .ipv6Prefix) nofun).handleWanUpEx hA hext

/-! ### Deleting -/

theorem deleteFilteringHdls_spec (hdls : List Nat) (ip : IpType) {k : Kernel}
    (hk : k.Keyed) :
    (deleteFilteringHdls hdls ip k).Keyed ∧
      (∀ e ∈ (deleteFilteringHdls hdls ip k).live, e ∈ k.live ∧
        ∀ h ∈ hdls, h ≠ 0 → e.1 ≠ (ip, h)) ∧
      ∀ e ∈ k.live, e.1.1 ≠ ip → e ∈ (deleteFilteringHdls hdls ip k).live := by
  induction hdls generalizing k with
  | nil =>
    exact ⟨hk, fun e he => ⟨he, fun _ h => absurd h List.not_mem_nil⟩,
      fun _ he _ => he⟩
  | cons h hdls ih =>
    rw [deleteFilteringHdls, List.foldl_cons, ← deleteFilteringHdls]
    split
    · rename_i hzero
      obtain ⟨hkeyed, hleft, hother⟩ := ih hk
      refine ⟨hkeyed, fun e he => ⟨(hleft e he).1, fun h' hh' hne => ?_⟩, hother⟩
      obtain rfl | hh' := List.mem_cons.mp hh'
      · exact absurd hzero hne
      · exact (hleft e he).2 h' hh' hne
    · obtain ⟨hkeyed, hleft, hother⟩ := ih (hk.del (ip, h))
      refine ⟨hkeyed, fun e he => ?_, fun e he hip => ?_⟩
      · obtain ⟨hmem, hne⟩ := hleft e he
        refine ⟨Pool.mem_of_mem_del hmem, fun h' hh' hne' => ?_⟩
        obtain rfl | hh' := List.mem_cons.mp hh'
        · exact hk.ne_of_mem_del hmem
        · exact hne h' hh' hne'
      · refine hother e (Pool.mem_del_of_ne he fun heq => hip ?_) hip
        exact congrArg Prod.fst heq

/-- As long as the uplink rules of a family are about to be deleted, some may
be gone. -/
structure UplinksBut (ip : IpType) (s : Lan) : Prop where
  keyed : s.kernel.Keyed
  within : ∀ ip', ∀ e ∈ s.kernel.live, e.2 = .wanUl ip' →
    e.1.1 = ip' ∧ e.1.2 ∈ s.hdl (.wanUl ip')
  there : ∀ ip' ≠ ip, s.modemUlSet ip' = true → s.UplinkInstalled ip'
  held : s.modemUlSet ip = true → s.hdl (.wanUl ip) ≠ []
  clear : ∀ ip', s.modemUlSet ip' = false → s.hdl (.wanUl ip') = []
  ne_zero : ∀ ip', ∀ h ∈ s.hdl (.wanUl ip'), h ≠ 0
  fits : ∀ ip', (s.hdl (.wanUl ip')).length ≤ maxNumExtProps

theorem Uplinks.but (h : s.Uplinks) (ip : IpType) : s.UplinksBut ip :=
  { h with
    there := fun ip' _ => h.there ip'
    held := fun hset hnil => by
      obtain ⟨e, he, heq⟩ := h.there ip hset
      have hmem := (h.within ip e he heq).2
      rw [hnil] at hmem
      exact List.not_mem_nil hmem }

theorem UplinksBut.uninstall {r : RuleSet} (h : s.UplinksBut r.ip) {n : Nat} :
    (s.uninstall r n).UplinksBut r.ip := by
  obtain ⟨hkeyed, hleft, hother⟩ := deleteFilteringHdls_spec
    (s.hdl r) r.ip h.keyed
  refine { h with
    keyed := hkeyed
    within := fun ip e he => h.within ip e (hleft e he).1
    there := fun ip hne hset => ?_ }
  obtain ⟨e, he, heq⟩ := h.there ip hne hset
  exact ⟨e, hother e he fun hf => hne ((h.within ip e he heq).1.symm.trans hf), heq⟩

theorem UplinksBut.wanDown (h : s.UplinksBut ip) :
    (s.wanDown ip false).Uplinks ∧
      (s.wanDown ip false).modemUlSet = Function.update s.modemUlSet ip false := by
  rw [Lan.wanDown]
  split
  · rename_i hset
    have hlen : (s.hdl (.wanUl ip)).length ≠ 0 := fun hlen =>
      h.held hset.2 (List.length_eq_zero_iff.mp hlen)
    rw [if_neg (Nat.not_lt.mpr (h.fits ip)), if_neg hlen]
    refine ⟨?_, rfl⟩
    obtain ⟨hkeyed, hleft, hother⟩ := deleteFilteringHdls_spec
      (s.hdl (.wanUl ip)) ip h.keyed
    have hhdl : ∀ {ip'}, ip' ≠ ip →
        Function.update s.hdl (.wanUl ip) [] (.wanUl ip') = s.hdl (.wanUl ip') :=
      fun hne => Function.update_of_ne (fun heq => hne (RuleSet.wanUl.inj heq)) _ _
    constructor
    · exact hkeyed
    · intro ip' e he hrule
      show e.1.1 = ip' ∧ e.1.2 ∈ Function.update s.hdl (.wanUl ip) [] (.wanUl ip')
      obtain ⟨hmem, hne⟩ := hleft e he
      obtain ⟨hip, hin⟩ := h.within ip' e hmem hrule
      rcases eq_or_ne ip' ip with rfl | hne'
      · have heq : e.1 = (ip', e.1.2) := Prod.ext hip rfl
        exact absurd heq (hne _ hin (h.ne_zero _ _ hin))
      · rw [hhdl hne']
        exact ⟨hip, hin⟩
    · intro ip' hset'
      rcases eq_or_ne ip' ip with rfl | hne
      · exact absurd ((Function.update_self _ _ _).symm.trans hset') (by rintro ⟨⟩)
      · obtain ⟨e, he, heq⟩ :=
          h.there ip' hne ((Function.update_of_ne hne _ _).symm.trans hset')
        have hip := (h.within ip' e he heq).1
        exact ⟨e, hother e he fun hf => hne (hip.symm.trans hf), heq⟩
    · intro ip' hset'
      rcases eq_or_ne ip' ip with rfl | hne
      · exact Function.update_self _ _ _
      · exact (hhdl hne).trans
          (h.clear ip' ((Function.update_of_ne hne _ _).symm.trans hset'))
    · intro ip'
      show ∀ x ∈ Function.update s.hdl (.wanUl ip) [] (.wanUl ip'), x ≠ 0
      rcases eq_or_ne ip' ip with rfl | hne
      · rw [Function.update_self]
        exact fun _ hx => absurd hx List.not_mem_nil
      · rw [hhdl hne]
        exact h.ne_zero ip'
    · intro ip'
      show (Function.update s.hdl (.wanUl ip) [] (.wanUl ip')).length ≤ _
      rcases eq_or_ne ip' ip with rfl | hne
      · rw [Function.update_self]
        exact Nat.zero_le _
      · rw [hhdl hne]
        exact h.fits ip'
  · rename_i hset
    have hoff : s.modemUlSet ip = false :=
      Bool.eq_false_of_not_eq_true fun hon => hset ⟨rfl, hon⟩
    have hun := UplinksBut.uninstall (r := .staUl ip) (n := 1) h
    refine ⟨{ hun with there := fun ip' hip' => ?_ },
      (Function.update_eq_self_iff.mpr hoff.symm).symm⟩
    refine hun.there ip' ?_ hip'
    rintro rfl
    exact absurd (hoff.symm.trans hip') (by rintro ⟨⟩)

theorem Uplinks.handleWanDown (ip : IpType) (h : s.Uplinks) :
    (s.handleWanDown ip false).Uplinks ∧
      (s.handleWanDown ip false).modemUlSet = Function.update s.modemUlSet ip false := by
  cases ip with
  | v4 => exact (h.but .v4).wanDown
  | v6 => exact (UplinksBut.uninstall (r := .ipv6Prefix) (h.but .v6)).wanDown

/-! ### Addresses -/

/-- The uplink rules are as they were, and the flag for the downstream. -/
structure Aside (s t : Lan) : Prop where
  uplinks : s.Uplinks → t.Uplinks
  modemUlSet : t.modemUlSet = s.modemUlSet
  isDownstreamSet : t.isDownstreamSet = s.isDownstreamSet
  isActive : t.isActive = s.isActive

theorem Aside.trans {t u : Lan} (h : s.Aside t) (h' : t.Aside u) : s.Aside u where
  uplinks hs := h'.uplinks (h.uplinks hs)
  modemUlSet := h'.modemUlSet.trans h.modemUlSet
  isDownstreamSet := h'.isDownstreamSet.trans h.isDownstreamSet
  isActive := h'.isActive.trans h.isActive

theorem aside_refl (s : Lan) : s.Aside s := ⟨id, rfl, rfl, rfl⟩

theorem aside_install (hA : alloc.Grants) {r : RuleSet} {n : Nat}
    (hr : ∀ ip, r ≠ .wanUl ip) : s.Aside (s.install alloc r n []) :=
  ⟨fun h => h.install hA hr, rfl, rfl, rfl⟩

theorem aside_handleAddrEvt (hA : alloc.Grants) {a : Addr} :
    s.Aside (s.handleAddrEvt alloc a).2 := by
  have hdft : ∀ (s : Lan) ip, s.Aside (s.initFlRule alloc ip) :=
    fun _ _ => aside_install hA nofun
  have hicmp : ∀ (s : Lan) ip, s.Aside (s.installIcmpFltRule alloc ip) :=
    fun _ _ => aside_install hA nofun
  have htype : ∀ (s : Lan) ty l, s.Aside { s with ipType := ty, ipv6Addr := l } :=
    fun _ _ _ => ⟨fun h => { h with }, rfl, rfl, rfl⟩
  have hnum : ∀ (s : Lan) n, s.Aside { s with numDftRtV6 := n } :=
    fun _ _ => ⟨fun h => { h with }, rfl, rfl, rfl⟩
  cases a with
  | v4 addr => exact ((htype s _ _).trans (hdft _ _)).trans (hicmp _ _)
  | v6 addr =>
    rw [handleAddrEvt]
    dsimp only
    split
    · exact htype s _ _
    · split
      · exact (((htype s _ _).trans (hicmp _ _)).trans (hdft _ _)).trans (hnum _ _)
      · exact (htype s _ _).trans (hnum _ _)

theorem aside_addDummyPrivateSubnetFltRule (hA : alloc.Grants) :
    s.Aside (s.addDummyPrivateSubnetFltRule alloc ip) := by
  cases ip with
  | v4 => exact aside_install hA nofun
  | v6 => exact aside_refl s

theorem aside_checkSwRouting (hA : alloc.Grants) :
    s.Aside (s.checkSwRouting alloc w) := by
  rw [checkSwRouting]
  split
  · rw [handleSoftwareRoutingEnable]
    split
    · exact aside_refl s
    · have hboth : s.Aside ((s.install alloc (.swRouting .v4) 1 []).install alloc
          (.swRouting .v6) 1 []) :=
        (aside_install hA (r := .swRouting .v4) (by rintro _ ⟨⟩)).trans
          (aside_install hA (r := .swRouting .v6) (by rintro _ ⟨⟩))
      exact ⟨fun h => { hboth.uplinks h with }, rfl, rfl, rfl⟩
  · exact aside_refl s

end Lan

/-! ## The flags follow the requests -/

namespace Serving

variable {alloc : Alloc} {kind : IfaceKind} {x : Serving} {c : Settings}
  {ip : IpType}

/-- What the interface knows of the requests. It knows the upstream of a
family only from when it has an address. -/
structure Kept (kind : IfaceKind) (x : Serving) : Prop where
  uplinks : x.1.Uplinks
  active : x.1.isActive = true
  downstream : x.1.isDownstreamSet = x.2.downstream
  addr : kind ≠ .oduBridge → ∀ ip, x.1.ipType.has ip = x.2.addr ip
  bridge : kind = .oduBridge →
    x.1.ipType = .null ∧ ∀ ip, x.1.modemUlSet ip = false
  up : kind ≠ .oduBridge → ∀ ip, x.2.up ip = true → x.2.addr ip = true →
    x.1.isUpstreamSet ip = true
  ipv6Addr : x.1.ipv6Addr ≠ [] → x.1.ipType.has .v6 = true

theorem kept_init (kind : IfaceKind) (c : Settings) (up : IpType → Bool) (g : Nat) :
    (init kind c up g).Kept kind where
  uplinks := Lan.uplinks_init kind _ g
  active := rfl
  downstream := rfl
  addr _ ip := by cases ip <;> rfl
  bridge _ := ⟨rfl, fun _ => rfl⟩
  up _ _ _ h := absurd h Bool.false_ne_true
  ipv6Addr h := absurd rfl h

theorem Kept.offload (hA : alloc.Grants) (h : x.Kept kind)
    (hext : ∀ ip, (c.numExtProps ip).val ≠ 0) (hip : x.1.ipType.has ip = true)
    (up : IpType → Bool) :
    Kept kind (x.1.offload alloc (c.world up) ip false, x.2) ∧
      (x.1.offload alloc (c.world up) ip false).modemUlSet =
        Function.update x.1.modemUlSet ip true := by
  obtain ⟨huplinks, hset⟩ := h.uplinks.offload (w := c.world up) hA (hext ip)
  have hframe : x.1.Frame (x.1.offload alloc (c.world up) ip false) :=
    Lan.offload_frame
  refine ⟨{
    uplinks := huplinks
    active := hframe.isActive.trans h.active
    downstream := hframe.isDownstreamSet.trans h.downstream
    addr := ?_
    bridge := ?_
    up := ?_
    ipv6Addr := ?_ }, hset⟩
  · rw [hframe.ipType]
    exact h.addr
  · intro hk
    rw [(h.bridge hk).1] at hip
    cases ip <;> cases hip
  · rw [hframe.isUpstreamSet]
    exact h.up
  · rw [hframe.ipType, hframe.ipv6Addr]
    exact h.ipv6Addr

theorem Kept.handleWanDown (ip : IpType) (h : x.Kept kind) :
    Kept kind (x.1.handleWanDown ip false, x.2) ∧
      (x.1.handleWanDown ip false).modemUlSet =
        Function.update x.1.modemUlSet ip false := by
  obtain ⟨huplinks, hset⟩ := h.uplinks.handleWanDown ip
  have hframe : x.1.Frame (x.1.handleWanDown ip false) := Lan.handleWanDown_frame
  refine ⟨{
    uplinks := huplinks
    active := hframe.isActive.trans h.active
    downstream := hframe.isDownstreamSet.trans h.downstream
    addr := ?_
    bridge := ?_
    up := ?_
    ipv6Addr := ?_ }, hset⟩
  · rw [hframe.ipType]
    exact h.addr
  · intro hk
    obtain ⟨hty, hoff⟩ := h.bridge hk
    refine ⟨hframe.ipType.trans hty, fun ip' => ?_⟩
    rw [hset]
    rcases eq_or_ne ip' ip with rfl | hne
    · exact Function.update_self _ _ _
    · rw [Function.update_of_ne hne]
      exact hoff ip'
  · rw [hframe.isUpstreamSet]
    exact h.up
  · rw [hframe.ipType, hframe.ipv6Addr]
    exact h.ipv6Addr

/-- The uplink rules of each family are installed iff the family is asked for
by all three. -/
def Follows (x : Serving) : Prop := ∀ ip, x.1.UplinkInstalled ip ↔ x.2.all ip = true

/-- The condition on a request: the address of a family is not the last of the
three to come, nor is the interface an ODU in bridge mode; and when a
downstream is added or an upstream comes up that makes up two of the flags, no
upstream is noted that is down. -/
@[mk_iff]
structure InOrder (kind : IfaceKind) (x : Serving) (r : Request) (ip : IpType) :
    Prop where
  addrBefore : x.2.all ip = false → (x.2.next r).all ip = true →
    (∀ a, r ≠ .addrAdd a) ∧ kind ≠ .oduBridge
  upstreamNoted : x.1.ipType.has ip = true → x.1.isUpstreamSet ip = true →
    x.2.up ip = false →
      (r = .downstreamAdd ip → x.2.downstream ip = true) ∧
      (r = .wanUp ip → x.2.downstream ip = false)

theorem Kept.follows_iff (h : x.Kept kind) :
    x.Follows ↔ ∀ ip, x.1.modemUlSet ip = x.2.all ip := by
  refine forall_congr' fun ip => ?_
  rw [h.uplinks.installed_iff]
  exact Bool.eq_iff_iff.symm

theorem follows_iff_of {q : Asked} {s : Lan} {b : Bool}
    (h : Kept kind (s, q)) (hx : ∀ ip', x.1.modemUlSet ip' = x.2.all ip')
    (hset : s.modemUlSet = Function.update x.1.modemUlSet ip b)
    (hq : ∀ ip' ≠ ip, q.all ip' = x.2.all ip') :
    Follows (s, q) ↔ b = q.all ip := by
  rw [h.follows_iff]
  dsimp only
  rw [hset]
  constructor
  · intro hall
    rw [← hall ip, Function.update_self]
  · intro hb ip'
    rcases eq_or_ne ip' ip with rfl | hne
    · rw [Function.update_self, hb]
    · rw [Function.update_of_ne hne, hx, hq ip' hne]

theorem eventCallback_of_active {s : Lan} {w : World} {ev : Event}
    (h : s.isActive = true) : s.eventCallback alloc kind w ev =
      match ev with
      | .addrAdd a => s.addrAdd alloc kind w a
      | .wanUpTether ip isSta => s.wanUpTether alloc kind w ip isSta
      | .wanDownTether ip isSta => s.wanDownTether ip isSta
      | .downstreamAdd ip => s.downstreamAdd alloc w ip
      | .downstreamDel ip => s.downstreamDel w ip
      | .swRoutingEnable => s.handleSoftwareRoutingEnable alloc
      | .swRoutingDisable => s.handleSoftwareRoutingDisable
      | .linkDown => s.handleDownEvt w :=
  if_pos h

theorem inOrder_iff_of {r : Request}
    (hq : ∀ ip' ≠ ip, (x.2.next r).all ip' = x.2.all ip')
    (hr : ∀ ip' ≠ ip, r ≠ .downstreamAdd ip' ∧ r ≠ .wanUp ip') :
    (∀ ip', x.InOrder kind r ip') ↔ x.InOrder kind r ip := by
  refine ⟨fun h => h ip, fun h ip' => ?_⟩
  rcases eq_or_ne ip' ip with rfl | hne
  · exact h
  · constructor
    · intro hno hyes
      rw [hq ip' hne, hno] at hyes
      cases hyes
    · exact fun _ _ _ => ⟨fun heq => absurd heq (hr ip' hne).1,
        fun heq => absurd heq (hr ip' hne).2⟩

theorem Kept.flags (h : x.Kept kind) {u d : IpType → Bool} {q : Asked}
    (hd : d = q.downstream) (ha : q.addr = x.2.addr)
    (hu : kind ≠ .oduBridge → ∀ ip, q.up ip = true → q.addr ip = true →
      u ip = true) :
    Kept kind ({ x.1 with isUpstreamSet := u, isDownstreamSet := d }, q) where
  uplinks := { h.uplinks with }
  active := h.active
  downstream := hd
  addr hk ip := (h.addr hk ip).trans (congrFun ha ip).symm
  bridge := h.bridge
  up := hu
  ipv6Addr := h.ipv6Addr

theorem Kept.asked (h : x.Kept kind) {q : Asked}
    (hd : q.downstream = x.2.downstream) (ha : q.addr = x.2.addr)
    (hu : kind ≠ .oduBridge → ∀ ip, q.up ip = true → q.addr ip = true →
      x.1.isUpstreamSet ip = true) : Kept kind (x.1, q) :=
  h.flags (h.downstream.trans hd.symm) ha hu

theorem Kept.wanUp (hA : alloc.Grants) (h : x.Kept kind)
    (hx : ∀ ip, x.1.modemUlSet ip = x.2.all ip)
    (hext : ∀ ip, (c.numExtProps ip).val ≠ 0) :
    (x.step alloc kind (c, .wanUp ip)).Kept kind ∧
      ((x.step alloc kind (c, .wanUp ip)).Follows ↔
        ∀ ip', x.InOrder kind (.wanUp ip) ip') := by
  have hother : ∀ ip' ≠ ip, (x.2.next (.wanUp ip)).all ip' = x.2.all ip' :=
    fun ip' hne => by simp [Asked.next, Asked.all, Function.update_of_ne hne]
  rw [inOrder_iff_of hother fun ip' hne => ⟨nofun, fun heq =>
    hne (Request.wanUp.inj heq).symm⟩, step, Request.event,
    eventCallback_of_active h.active]
  simp only [Lan.wanUpTether, Bool.false_eq_true, and_false, if_false]
  have hup : ∀ {u : IpType → Bool}, (∀ ip', x.1.isUpstreamSet ip' = true → u ip' = true) →
      (x.2.addr ip = true → u ip = true) → kind ≠ .oduBridge →
      ∀ ip', (x.2.next (.wanUp ip)).up ip' = true → x.2.addr ip' = true →
        u ip' = true := by
    intro u hmono hself hk ip' hu ha
    rcases eq_or_ne ip' ip with rfl | hne
    · exact hself ha
    · exact hmono ip' (h.up hk ip' ((Function.update_of_ne hne _ _).symm.trans hu) ha)
  split
  · rename_i hhas
    have hk : kind ≠ .oduBridge := by
      rintro rfl
      rw [(h.bridge rfl).1] at hhas
      cases ip <;> cases hhas
    have ha : x.2.addr ip = true := (h.addr hk ip).symm.trans hhas
    split
    · rename_i hset
      have hkept : Kept kind (x.1, x.2.next (.wanUp ip)) :=
        h.asked rfl rfl (hup (fun _ h => h) fun _ => hset)
      refine ⟨hkept, (follows_iff_of hkept hx
        (Function.update_eq_self ip _).symm hother).trans ?_⟩
      rw [hx, inOrder_iff]
      cases hu : x.2.up ip <;> cases hd : x.2.downstream ip <;>
        simp [Asked.all, Asked.next, ha, hhas, hset, hk, hu, hd]
    · rename_i hset
      -- the upstream was down, so the family was not asked for by all three
      have hu : x.2.up ip = false :=
        Bool.eq_false_of_not_eq_true fun hu => hset (h.up hk ip hu ha)
      have hkept : Kept kind ({ x.1 with
          isUpstreamSet := Function.update x.1.isUpstreamSet ip true },
          x.2.next (.wanUp ip)) := by
        refine h.flags h.downstream rfl (hup (fun ip' hi => ?_) fun _ => ?_)
        · rcases eq_or_ne ip' ip with rfl | hne
          · exact Function.update_self _ _ _
          · rw [Function.update_of_ne hne]
            exact hi
        · exact Function.update_self _ _ _
      split
      · rename_i hdown
        have hd : x.2.downstream ip = true := (congrFun h.downstream ip).symm.trans hdown
        obtain ⟨hkept, hmodem⟩ := hkept.offload (c := c) hA hext hhas x.2.up
        refine ⟨hkept, (follows_iff_of hkept hx hmodem hother).trans ?_⟩
        rw [inOrder_iff]
        simp [Asked.all, Asked.next, ha, hset, hk, hd]
      · rename_i hdown
        have hd : x.2.downstream ip = false := by
          rw [← h.downstream]
          exact Bool.eq_false_of_not_eq_true hdown
        refine ⟨hkept, (follows_iff_of hkept hx
          (Function.update_eq_self ip _).symm hother).trans ?_⟩
        rw [hx, inOrder_iff]
        simp [Asked.all, Asked.next, hset, hk, hd]
  · rename_i hhas
    have hkept : Kept kind (x.1, x.2.next (.wanUp ip)) := by
      refine h.asked rfl rfl fun hk => hup (fun _ h => h) (fun ha => ?_) hk
      exact absurd ((h.addr hk ip).trans ha) hhas
    refine ⟨hkept, (follows_iff_of hkept hx
      (Function.update_eq_self ip _).symm hother).trans ?_⟩
    rw [hx, inOrder_iff]
    by_cases hk : kind = .oduBridge
    · rw [(hx ip).symm.trans ((h.bridge hk).2 ip)]
      cases (x.2.next (.wanUp ip)).all ip <;> simp [hhas, hk]
    · have ha : x.2.addr ip = false := by
        rw [← h.addr hk]
        exact Bool.eq_false_of_not_eq_true hhas
      simp [Asked.all, Asked.next, ha, hhas]

theorem Kept.wanDown (h : x.Kept kind)
    (hx : ∀ ip, x.1.modemUlSet ip = x.2.all ip) :
    (x.step alloc kind (c, .wanDown ip)).Kept kind ∧
      ((x.step alloc kind (c, .wanDown ip)).Follows ↔
        ∀ ip', x.InOrder kind (.wanDown ip) ip') := by
  have hother : ∀ ip' ≠ ip, (x.2.next (.wanDown ip)).all ip' = x.2.all ip' :=
    fun ip' hne => by simp [Asked.next, Asked.all, Function.update_of_ne hne]
  have hin : x.InOrder kind (.wanDown ip) ip := by
    rw [inOrder_iff]
    simp [Asked.all, Asked.next]
  have hall : (x.2.next (.wanDown ip)).all ip = false := by
    simp [Asked.all, Asked.next]
  rw [inOrder_iff_of hother fun _ _ => ⟨nofun, nofun⟩, iff_true_right hin, step,
    Request.event, eventCallback_of_active h.active]
  simp only [Lan.wanDownTether]
  have hup : ∀ {u : IpType → Bool}, (∀ ip' ≠ ip, u ip' = x.1.isUpstreamSet ip') →
      kind ≠ .oduBridge → ∀ ip', (x.2.next (.wanDown ip)).up ip' = true →
        x.2.addr ip' = true → u ip' = true := by
    intro u hsame hk ip' hu ha
    rcases eq_or_ne ip' ip with rfl | hne
    · exact absurd ((Function.update_self _ _ _).symm.trans hu) nofun
    · exact (hsame ip' hne).trans
        (h.up hk ip' ((Function.update_of_ne hne _ _).symm.trans hu) ha)
  -- a family that was not noted was not asked for by all three
  have hquiet : (x.1.ipType.has ip = true → x.1.isUpstreamSet ip = true →
      x.1.isDownstreamSet ip = false) → x.1.modemUlSet ip = false := by
    intro hno
    by_contra hset
    have hset := Bool.eq_true_of_not_eq_false hset
    have hk : kind ≠ .oduBridge := fun hk =>
      absurd (((h.bridge hk).2 ip).symm.trans hset) nofun
    rw [hx, Asked.all, Bool.and_eq_true, Bool.and_eq_true] at hset
    obtain ⟨⟨hu, hd⟩, ha⟩ := hset
    have hdown := hno ((h.addr hk ip).trans ha) (h.up hk ip hu ha)
    rw [h.downstream, hd] at hdown
    cases hdown
  split
  · split
    · split
      · obtain ⟨hkept, hmodem⟩ := Kept.handleWanDown ip (h.flags
          (q := x.2.next (.wanDown ip)) h.downstream rfl
          (hup fun ip' hne => Function.update_of_ne hne false x.1.isUpstreamSet))
        exact ⟨hkept, (follows_iff_of hkept hx hmodem hother).mpr hall.symm⟩
      · rename_i hdown
        have hkept := h.flags (q := x.2.next (.wanDown ip)) h.downstream rfl
          (hup fun ip' hne => Function.update_of_ne hne false x.1.isUpstreamSet)
        refine ⟨hkept, (follows_iff_of hkept hx
          (Function.update_eq_self ip _).symm hother).mpr ?_⟩
        rw [hall, hquiet fun _ _ => Bool.eq_false_of_not_eq_true hdown]
    · rename_i hset
      have hkept := h.asked (q := x.2.next (.wanDown ip)) rfl rfl
        (hup fun _ _ => rfl)
      refine ⟨hkept, (follows_iff_of hkept hx
        (Function.update_eq_self ip _).symm hother).mpr ?_⟩
      rw [hall, hquiet fun _ hup => absurd hup hset]
  · rename_i hhas
    have hkept := h.asked (q := x.2.next (.wanDown ip)) rfl rfl (hup fun _ _ => rfl)
    refine ⟨hkept, (follows_iff_of hkept hx
      (Function.update_eq_self ip _).symm hother).mpr ?_⟩
    rw [hall, hquiet fun hip => absurd hip hhas]

theorem Kept.downstreamDel (h : x.Kept kind)
    (hx : ∀ ip, x.1.modemUlSet ip = x.2.all ip) :
    (x.step alloc kind (c, .downstreamDel ip)).Kept kind ∧
      ((x.step alloc kind (c, .downstreamDel ip)).Follows ↔
        ∀ ip', x.InOrder kind (.downstreamDel ip) ip') := by
  have hother : ∀ ip' ≠ ip, (x.2.next (.downstreamDel ip)).all ip' = x.2.all ip' :=
    fun ip' hne => by simp [Asked.next, Asked.all, Function.update_of_ne hne]
  have hin : x.InOrder kind (.downstreamDel ip) ip := by
    rw [inOrder_iff]
    simp [Asked.all, Asked.next]
  have hall : (x.2.next (.downstreamDel ip)).all ip = false := by
    simp [Asked.all, Asked.next]
  rw [inOrder_iff_of hother fun _ _ => ⟨nofun, nofun⟩, iff_true_right hin, step,
    Request.event, eventCallback_of_active h.active]
  simp only [Lan.downstreamDel]
  have hdown : Function.update x.1.isDownstreamSet ip false =
      (x.2.next (.downstreamDel ip)).downstream := by
    rw [h.downstream]
    rfl
  -- a family that was not noted was not asked for by all three
  have hquiet : (x.1.isDownstreamSet ip = true → x.1.isUpstreamSet ip = false) →
      x.1.modemUlSet ip = false := by
    intro hno
    by_contra hset
    have hset := Bool.eq_true_of_not_eq_false hset
    have hk : kind ≠ .oduBridge := fun hk =>
      absurd (((h.bridge hk).2 ip).symm.trans hset) nofun
    rw [hx, Asked.all, Bool.and_eq_true, Bool.and_eq_true] at hset
    obtain ⟨⟨hu, hd⟩, ha⟩ := hset
    have hup := hno ((congrFun h.downstream ip).trans hd)
    rw [h.up hk ip hu ha] at hup
    cases hup
  split
  · split
    · obtain ⟨hkept, hmodem⟩ := Kept.handleWanDown ip
        (h.flags hdown rfl h.up)
      exact ⟨hkept, (follows_iff_of hkept hx hmodem hother).mpr hall.symm⟩
    · rename_i hset
      have hkept := h.flags hdown rfl h.up
      refine ⟨hkept, (follows_iff_of hkept hx
        (Function.update_eq_self ip _).symm hother).mpr ?_⟩
      rw [hall, hquiet fun _ => Bool.eq_false_of_not_eq_true hset]
  · rename_i hset
    have hoff : x.1.isDownstreamSet ip = false := Bool.eq_false_of_not_eq_true hset
    have hkept : Kept kind (x.1, x.2.next (.downstreamDel ip)) := by
      refine h.flags ?_ rfl h.up
      rw [← hdown]
      exact (Function.update_eq_self_iff.mpr hoff.symm).symm
    refine ⟨hkept, (follows_iff_of hkept hx
      (Function.update_eq_self ip _).symm hother).mpr ?_⟩
    rw [hall, hquiet fun hd => absurd hd hset]

theorem Kept.downstreamAdd (hA : alloc.Grants) (h : x.Kept kind)
    (hx : ∀ ip, x.1.modemUlSet ip = x.2.all ip)
    (hext : ∀ ip, (c.numExtProps ip).val ≠ 0) :
    (x.step alloc kind (c, .downstreamAdd ip)).Kept kind ∧
      ((x.step alloc kind (c, .downstreamAdd ip)).Follows ↔
        ∀ ip', x.InOrder kind (.downstreamAdd ip) ip') := by
  have hother : ∀ ip' ≠ ip, (x.2.next (.downstreamAdd ip)).all ip' = x.2.all ip' :=
    fun ip' hne => by simp [Asked.next, Asked.all, Function.update_of_ne hne]
  rw [inOrder_iff_of hother fun ip' hne => ⟨fun heq =>
    hne (Request.downstreamAdd.inj heq).symm, nofun⟩, step, Request.event,
    eventCallback_of_active h.active]
  simp only [Lan.downstreamAdd]
  have hdown : Function.update x.1.isDownstreamSet ip true =
      (x.2.next (.downstreamAdd ip)).downstream := by
    rw [h.downstream]
    rfl
  split
  · rename_i hset
    have hd : x.2.downstream ip = true := (congrFun h.downstream ip).symm.trans hset
    have hkept : Kept kind (x.1, x.2.next (.downstreamAdd ip)) := by
      refine h.flags ?_ rfl h.up
      rw [← hdown]
      exact (Function.update_eq_self_iff.mpr hset.symm).symm
    refine ⟨hkept, (follows_iff_of hkept hx
      (Function.update_eq_self ip _).symm hother).trans ?_⟩
    rw [hx, inOrder_iff]
    cases hu : x.2.up ip <;> cases ha : x.2.addr ip <;>
      simp [Asked.all, Asked.next, hd, hu, ha]
  · rename_i hset
    have hd : x.2.downstream ip = false :=
      (congrFun h.downstream ip).symm.trans (Bool.eq_false_of_not_eq_true hset)
    have hkept := h.flags hdown rfl h.up
    split
    · rename_i hready
      obtain ⟨hup, hhas⟩ := hready
      have hk : kind ≠ .oduBridge := by
        rintro rfl
        rw [(h.bridge rfl).1] at hhas
        cases ip <;> cases hhas
      have ha : x.2.addr ip = true := (h.addr hk ip).symm.trans hhas
      obtain ⟨hkept, hmodem⟩ := hkept.offload (c := c) hA hext hhas x.2.up
      refine ⟨hkept, (follows_iff_of hkept hx hmodem hother).trans ?_⟩
      rw [inOrder_iff]
      cases hu : x.2.up ip <;>
        simp [Asked.all, Asked.next, ha, hhas, hup, hk, hu, hd]
    · rename_i hready
      refine ⟨hkept, (follows_iff_of hkept hx
        (Function.update_eq_self ip _).symm hother).trans ?_⟩
      have hnoted : ¬ (x.1.ipType.has ip = true ∧ x.1.isUpstreamSet ip = true) :=
        fun hboth => hready hboth.symm
      have hoff : x.2.all ip = false := by simp [Asked.all, hd]
      rw [hx, hoff, inOrder_iff]
      by_cases hk : kind = .oduBridge
      · have hhas : x.1.ipType.has ip = false := by
          rw [(h.bridge hk).1]
          cases ip <;> rfl
        cases (x.2.next (.downstreamAdd ip)).all ip <;> simp [hk, hhas, hoff]
      · -- with an upstream and an address the upstream would be noted
        have hall : (x.2.next (.downstreamAdd ip)).all ip = false := by
          by_contra hyes
          have hyes := Bool.eq_true_of_not_eq_false hyes
          rw [Asked.all, Bool.and_eq_true, Bool.and_eq_true] at hyes
          obtain ⟨⟨hu, -⟩, ha⟩ := hyes
          exact hnoted ⟨(h.addr hk ip).trans ha, h.up hk ip hu ha⟩
        rw [hall]
        simp only [true_iff]
        exact ⟨fun _ => nofun, fun hhas hup => absurd ⟨hhas, hup⟩ hnoted⟩

theorem Kept.aside (h : x.Kept kind) (hk : kind ≠ .oduBridge) {s : Lan}
    (hs : x.1.Aside s) {q : Asked} (hd : q.downstream = x.2.downstream)
    (ha : ∀ ip, s.ipType.has ip = q.addr ip)
    (hu : ∀ ip, q.up ip = true → q.addr ip = true → s.isUpstreamSet ip = true)
    (hv6 : s.ipv6Addr ≠ [] → s.ipType.has .v6 = true) : Kept kind (s, q) where
  uplinks := hs.uplinks h.uplinks
  active := hs.isActive.trans h.active
  downstream := (hs.isDownstreamSet.trans h.downstream).trans hd.symm
  addr _ := ha
  bridge heq := absurd heq hk
  up _ := hu
  ipv6Addr := hv6

theorem Kept.addrAdd (hA : alloc.Grants) (h : x.Kept kind)
    (hx : ∀ ip, x.1.modemUlSet ip = x.2.all ip) {a : Addr} :
    (x.step alloc kind (c, .addrAdd a)).Kept kind ∧
      ((x.step alloc kind (c, .addrAdd a)).Follows ↔
        ∀ ip', x.InOrder kind (.addrAdd a) ip') := by
  rw [step, Request.event, eventCallback_of_active h.active]
  dsimp only
  -- what is offloaded is as it was
  have hiff : ∀ {s : Lan}, Kept kind (s, x.2.next (.addrAdd a)) → x.1.Aside s →
      Kept kind (s, x.2.next (.addrAdd a)) ∧
        (Follows (s, x.2.next (.addrAdd a)) ↔
          ∀ ip', x.InOrder kind (.addrAdd a) ip') := by
    intro s hkept hs
    refine ⟨hkept, ?_⟩
    rw [hkept.follows_iff]
    refine forall_congr' fun ip => ?_
    have hmono : x.2.all ip = true → (x.2.next (.addrAdd a)).all ip = true := by
      rw [Asked.next]
      split
      · exact id
      · rcases eq_or_ne ip a.ipType with rfl | hne
        · simp +contextual [Asked.all]
        · simp +contextual [Asked.all, Function.update_of_ne hne]
    dsimp only
    rw [hs.modemUlSet, hx, inOrder_iff]
    cases hall : x.2.all ip
    · cases (x.2.next (.addrAdd a)).all ip <;> simp
    · simp [hmono hall]
  rw [Lan.addrAdd]
  split
  · rename_i hzero
    have hkept : Kept kind (x.1, x.2.next (.addrAdd a)) := by
      rw [Asked.next, if_pos hzero]
      exact h
    exact hiff hkept (Lan.aside_refl _)
  rename_i hzero
  have hnext : x.2.next (.addrAdd a) =
      { x.2 with addr := Function.update x.2.addr a.ipType true } := if_neg hzero
  split
  · rename_i hk
    have hs : x.1.Aside (x.1.addrAddBridge alloc a) := by
      refine Lan.Aside.trans ?_ (Lan.aside_addDummyPrivateSubnetFltRule hA)
      split
      · exact ⟨fun h => { h with }, rfl, rfl, rfl⟩
      · exact Lan.aside_refl _
    obtain ⟨hty, hv6⟩ := @Lan.addrAddBridge_ipType alloc x.1 a
    refine hiff ⟨hs.uplinks h.uplinks, hs.isActive.trans h.active, ?_,
      fun hne => absurd hk hne, fun _ => ⟨hty.trans (h.bridge hk).1, ?_⟩,
      fun hne => absurd hk hne, ?_⟩ hs
    · rw [hnext]
      exact hs.isDownstreamSet.trans h.downstream
    · dsimp only
      rw [hs.modemUlSet]
      exact (h.bridge hk).2
    · dsimp only
      rw [hty, hv6]
      exact h.ipv6Addr
  rename_i hk
  -- the families there are, now with that of the address
  have hfam : ∀ ip, (x.1.ipType.config a.ipType).has ip =
      (x.2.next (.addrAdd a)).addr ip := by
    intro ip
    rw [hnext]
    dsimp only
    rcases eq_or_ne ip a.ipType with rfl | hne
    · rw [has_config_self, Function.update_self]
    · rw [has_config_of_ne hne, Function.update_of_ne hne, h.addr hk]
  have hsame : x.1.ipType.has a.ipType = true →
      ∀ ip, (x.2.next (.addrAdd a)).up ip = true →
        (x.2.next (.addrAdd a)).addr ip = true → x.1.isUpstreamSet ip = true := by
    intro hhas ip hu ha
    rw [← hfam, config_of_has hhas, h.addr hk] at ha
    rw [hnext] at hu
    exact h.up hk ip hu ha
  have hdown : (x.2.next (.addrAdd a)).downstream = x.2.downstream := by
    rw [hnext]
  split
  · rename_i hwants
    have hev := Lan.aside_handleAddrEvt hA (s := x.1) (a := a)
    dsimp only
    split
    · have hdummy : (x.1.handleAddrEvt alloc a).2.Aside
          ((x.1.handleAddrEvt alloc a).2.addDummyPrivateSubnetFltRule alloc
            a.ipType) :=
        Lan.aside_addDummyPrivateSubnetFltRule hA
      have hnote : ∀ (s : Lan) w, s.Aside (s.noteUpstream w) :=
        fun _ _ => ⟨fun h => { h with }, rfl, rfl, rfl⟩
      have hs := ((hev.trans hdummy).trans (hnote _ (c.world x.2.up))).trans
        (Lan.aside_checkSwRouting hA (w := c.world x.2.up))
      have hsw := @Lan.checkSwRouting_frame alloc (c.world x.2.up)
        (((x.1.handleAddrEvt alloc a).2.addDummyPrivateSubnetFltRule alloc
          a.ipType).noteUpstream (c.world x.2.up))
      have hframe := @Lan.addDummyPrivateSubnetFltRule_frame alloc
        (x.1.handleAddrEvt alloc a).2 a.ipType
      have hty := (hsw.ipType.trans hframe.ipType).trans Lan.handleAddrEvt_ipType
      refine hiff (h.aside hk hs hdown (fun ip => ?_) (fun ip hu ha => ?_) ?_) hs
      · rw [hty]
        exact hfam ip
      · rw [hsw.isUpstreamSet]
        rw [hnext] at hu
        exact (Bool.or_eq_true _ _).mpr (.inl hu)
      · rw [hty, hsw.ipv6Addr]
        intro hne
        obtain hv6 | hne := Lan.handleAddrEvt_ipv6Addr (hframe.ipv6Addr ▸ hne)
        · rw [hv6]
          exact has_config_self _ _
        · exact has_config_of_has (h.ipv6Addr hne)
    · rename_i hconf
      obtain ⟨hv6, hne⟩ :=
        Lan.handleAddrEvt_configured (Bool.eq_false_of_not_eq_true hconf)
      have hhas : x.1.ipType.has a.ipType = true := hv6 ▸ h.ipv6Addr hne
      refine hiff (h.aside hk hev hdown (fun ip => ?_) (fun ip hu ha => ?_) ?_) hev
      · rw [Lan.handleAddrEvt_ipType]
        exact hfam ip
      · rw [Lan.handleAddrEvt_flags.1]
        exact hsame hhas ip hu ha
      · rw [Lan.handleAddrEvt_ipType, config_of_has hhas]
        exact fun _ => h.ipv6Addr hne
  · rename_i hwants
    have hhas := Lan.has_of_not_wantsAddr hwants
    have hnow : ∀ ip, x.1.ipType.has ip = (x.2.next (.addrAdd a)).addr ip := by
      intro ip
      rw [← hfam, config_of_has hhas]
    split
    · exact hiff (h.aside hk (Lan.aside_refl _) hdown hnow (hsame hhas) h.ipv6Addr)
        (Lan.aside_refl _)
    · have hs := Lan.aside_checkSwRouting hA (w := c.world x.2.up) (s := x.1)
      have hsw := @Lan.checkSwRouting_frame alloc (c.world x.2.up) x.1
      refine hiff (h.aside hk hs hdown ?_ ?_ ?_) hs
      · rw [hsw.ipType]
        exact hnow
      · rw [hsw.isUpstreamSet]
        exact hsame hhas
      · rw [hsw.ipType, hsw.ipv6Addr]
        exact h.ipv6Addr

/-! ## A run -/

theorem kept_step (hA : alloc.Grants) (h : x.Kept kind) (hx : x.Follows)
    {r : Settings × Request} (hext : ∀ ip, (r.1.numExtProps ip).val ≠ 0) :
    (x.step alloc kind r).Kept kind ∧
      ((x.step alloc kind r).Follows ↔ ∀ ip, x.InOrder kind r.2 ip) := by
  obtain ⟨c, r⟩ := r
  have hx := h.follows_iff.mp hx
  cases r with
  | addrAdd a => exact h.addrAdd hA hx
  | wanUp ip => exact h.wanUp hA hx hext
  | wanDown ip => exact h.wanDown hx
  | downstreamAdd ip => exact h.downstreamAdd hA hx hext
  | downstreamDel ip => exact h.downstreamDel hx

@[simp] theorem run_concat (rs : List (Settings × Request))
    (r : Settings × Request) :
    x.run alloc kind (rs ++ [r]) = (x.run alloc kind rs).step alloc kind r := by
  rw [run, List.foldl_append]
  rfl

theorem follows_init (kind : IfaceKind) (c : Settings) (up : IpType → Bool)
    (g : Nat) : (init kind c up g).Follows := by
  rw [(kept_init kind c up g).follows_iff]
  intro ip
  simp [init, Lan.init, Asked.all]

/-- The uplink follows the requests throughout a run iff each of them comes in
order. -/
theorem run_offloads_iff (hA : alloc.Grants) (kind : IfaceKind) (c : Settings)
    (up : IpType → Bool) (g : Nat) {rs : List (Settings × Request)}
    (hext : ∀ r ∈ rs, ∀ ip, (r.1.numExtProps ip).val ≠ 0) :
    (∀ pre, pre <+: rs → ((init kind c up g).run alloc kind pre).Follows) ↔
      ∀ pre r, pre ++ [r] <+: rs →
        ∀ ip, ((init kind c up g).run alloc kind pre).InOrder kind r.2 ip := by
  have hmem : ∀ pre r, pre ++ [r] <+: rs → ∀ ip, (r.1.numExtProps ip).val ≠ 0 :=
    fun pre r hpre => hext r (hpre.subset (by simp))
  have hsteps : (∀ pre r, pre ++ [r] <+: rs →
        ((init kind c up g).run alloc kind (pre ++ [r])).Follows) ↔
      ∀ pre r, pre ++ [r] <+: rs →
        ∀ ip, ((init kind c up g).run alloc kind pre).InOrder kind r.2 ip := by
    refine forall_concat_iff
      (I := fun pre => ((init kind c up g).run alloc kind pre).Kept kind ∧
        ((init kind c up g).run alloc kind pre).Follows)
      ⟨kept_init kind c up g, follows_init kind c up g⟩ ?_ ?_
    · intro pre r hpre hI hR
      refine ⟨?_, hR⟩
      rw [run_concat]
      exact (kept_step hA hI.1 hI.2 (hmem pre r hpre)).1
    · intro pre r hpre hI
      rw [run_concat]
      exact (kept_step hA hI.1 hI.2 (hmem pre r hpre)).2
  rw [← hsteps]
  constructor
  · exact fun h pre r hpre => h _ hpre
  · intro h pre
    induction pre using List.reverseRecOn with
    | nil => exact fun _ => follows_init kind c up g
    | append_singleton pre r _ => exact h pre r

end Serving

/-- Two extended properties for each family. -/
def twoExtProps : Settings := ⟨false, fun _ => 2⟩

theorem addrFirst_follows :
    (∀ pre, pre <+: [(twoExtProps, .addrAdd (.v4 0xC0A80101)),
        (twoExtProps, .downstreamAdd .v4), (twoExtProps, .wanUp .v4)] →
      ((Serving.init .lan twoExtProps (fun _ => false) 0).run nextHandle .lan
        pre).Follows) ↔
    ∀ pre r, pre ++ [r] <+: [(twoExtProps, .addrAdd (.v4 0xC0A80101)),
        (twoExtProps, .downstreamAdd .v4), (twoExtProps, .wanUp .v4)] →
      ∀ ip, ((Serving.init .lan twoExtProps (fun _ => false) 0).run nextHandle .lan
        pre).InOrder .lan r.2 ip := by
  refine Serving.run_offloads_iff nextHandle_grants .lan twoExtProps _ 0 ?_
  intro r hr ip
  have hset : r.1 = twoExtProps := by
    simp only [List.mem_cons, List.not_mem_nil, or_false] at hr
    obtain rfl | rfl | rfl := hr <;> rfl
  rw [hset]
  exact (by decide : (2 : Fin (maxNumExtProps + 1)).val ≠ 0)

/-- The address comes last, and the uplink is never offloaded. -/
theorem addrLast_notOffloaded :
    ¬ ((Serving.init .lan twoExtProps (fun _ => false) 0).run nextHandle .lan
      [(twoExtProps, .downstreamAdd .v4), (twoExtProps, .wanUp .v4),
        (twoExtProps, .addrAdd (.v4 0xC0A80101))]).Follows := by
  intro h
  obtain ⟨e, he, hset⟩ := (h .v4).mpr (by decide)
  revert e
  decide

end Axon7.Tether
