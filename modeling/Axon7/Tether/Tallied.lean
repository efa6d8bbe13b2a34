import Axon7.Tether.Accounted

/-!
# The flags say which rules there are

A tethered interface knows its filter rules by its flags: the default ones by
its address family, the uplink rules by a flag for each backhaul and family.
Each operation that adds rules sets the flag, and each that deletes them
clears it.
-/

namespace Axon7.Tether

open Axon7.Lib

/-! ## A flag of one family set or cleared -/

section Flag

variable {f : IpType → Bool} {ip ip' : IpType}

theorem of_set (h : Function.update f ip true ip' = true) :
    ip' = ip ∨ f ip' = true := by
  rcases eq_or_ne ip' ip with heq | hne
  · exact .inl heq
  · rw [Function.update_of_ne hne] at h
    exact .inr h

theorem of_not_set (h : Function.update f ip true ip' = false) :
    ip' ≠ ip ∧ f ip' = false := by
  rcases eq_or_ne ip' ip with rfl | hne
  · rw [Function.update_self] at h
    cases h
  · rw [Function.update_of_ne hne] at h
    exact ⟨hne, h⟩

theorem of_cleared (h : Function.update f ip false ip' = false) :
    ip' = ip ∨ f ip' = false := by
  rcases eq_or_ne ip' ip with heq | hne
  · exact .inl heq
  · rw [Function.update_of_ne hne] at h
    exact .inr h

theorem of_not_cleared (h : Function.update f ip false ip' = true) :
    ip' ≠ ip ∧ f ip' = true := by
  rcases eq_or_ne ip' ip with rfl | hne
  · rw [Function.update_self] at h
    cases h
  · rw [Function.update_of_ne hne] at h
    exact ⟨hne, h⟩

end Flag

/-! ## The sets one by one -/

theorem RuleSet.forall_iff {P : RuleSet → Prop} : (∀ r, P r) ↔
    (P (.dft .v4) ∧ P (.dft .v6)) ∧ (P (.icmp .v4) ∧ P (.icmp .v6)) ∧ P .privateSubnet ∧
      (P (.swRouting .v4) ∧ P (.swRouting .v6)) ∧ (P (.wanUl .v4) ∧ P (.wanUl .v6)) ∧
      (P (.staUl .v4) ∧ P (.staUl .v6)) ∧ P .ipv6Prefix := by
  constructor
  · intro h
    exact ⟨⟨h _, h _⟩, ⟨h _, h _⟩, h _, ⟨h _, h _⟩, ⟨h _, h _⟩, ⟨h _, h _⟩, h _⟩
  · intro h r
    obtain ⟨hdft, hicmp, hsubnet, hsw, hwan, hsta, hpfx⟩ := h
    cases r with
    | dft ip => cases ip with | v4 => exact hdft.1 | v6 => exact hdft.2
    | icmp ip => cases ip with | v4 => exact hicmp.1 | v6 => exact hicmp.2
    | privateSubnet => exact hsubnet
    | swRouting ip => cases ip with | v4 => exact hsw.1 | v6 => exact hsw.2
    | wanUl ip => cases ip with | v4 => exact hwan.1 | v6 => exact hwan.2
    | staUl ip => cases ip with | v4 => exact hsta.1 | v6 => exact hsta.2
    | ipv6Prefix => exact hpfx

theorem RuleSet.eq_of_size {r : RuleSet} {n : ℕ} (h : r.size = some n) : ∀ m ∈ r.size, m = n := by
  intro m hm
  rw [h] at hm
  exact (Option.some_inj.1 hm).symm

namespace Lan

variable {alloc : Alloc} {kind : IfaceKind} {w : World} {s : Lan}
  {lost : Multiset Entry} {pfx : Bool} {ip : IpType} {isSta : Bool}

/-- Which sets are installed, by the flags, and by a flag of ours for the
prefix rule. -/
def installed (pfx : Bool) (s : Lan) : RuleSet → Bool
  | .dft ip => s.ipType.has ip
  | .icmp ip => s.ipType.has ip
  | .privateSubnet => s.ipType.has .v4
  | .swRouting _ => s.softwareroutingAct
  | .wanUl ip => s.modemUlSet ip
  | .staUl ip => s.staUlSet ip
  | .ipv6Prefix => pfx

def onBooks (pfx : Bool) (s : Lan) : Finset RuleSet :=
  Finset.univ.filter fun r => s.installed pfx r = true

@[simp] theorem mem_onBooks {r : RuleSet} :
    r ∈ s.onBooks pfx ↔ s.installed pfx r = true := by
  rw [onBooks, Finset.mem_filter]
  exact and_iff_right (Finset.mem_univ r)

/-- The flags say what is installed. Only an ODU in bridge mode, which has no
address family, loses rules, those of the private subnets. -/
structure Tallied (kind : IfaceKind) (pfx : Bool) (lost : Multiset Entry)
    (s : Lan) : Prop where
  accounts : s.Accounts (s.onBooks pfx) lost
  modem : ∀ ip, s.modemUlSet ip = true → s.ipType.has ip = true
  sta : ∀ ip, s.staUlSet ip = true → s.ipType.has ip = true
  prefixV6 : pfx = true → s.ipType.has .v6 = true
  wanUl : ∀ ip, s.modemUlSet ip = false → s.hdl (.wanUl ip) = []
  wanUlFits : ∀ ip, (s.hdl (.wanUl ip)).length ≤ maxNumExtProps
  numDftRtV6 : kind ≠ .oduBridge →
    (s.numDftRtV6 = 0 ↔ s.ipType.has .v6 = false)
  ipv6Addr : s.ipv6Addr ≠ [] → s.ipType.has .v6 = true
  bridge : kind = .oduBridge → s.ipType = .null
  bridged : lost ≠ 0 → kind = .oduBridge ∧
    ∃ h ∈ s.hdl .privateSubnet, h ≠ 0
  lostRules : ∀ e ∈ lost, e.2 = .privateSubnet
  active : s.isActive = true

theorem tallied_init (kind : IfaceKind) (w : World) (g : Nat) :
    (Lan.init kind w g).Tallied kind false 0 := by
  have hon : (Lan.init kind w g).onBooks false = ∅ := by
    ext r
    rw [mem_onBooks]
    cases r <;> simp [installed, Lan.init, IfaceIpType.has]
  constructor
  · rw [hon]
    exact {
      owns := Pool.owns_empty
      count := fun _ => rfl
      ne_zero := fun r hr => absurd hr (Finset.notMem_empty r)
      size := fun r hr => absurd hr (Finset.notMem_empty r) }
  · exact fun _ h => absurd h Bool.false_ne_true
  · exact fun _ h => absurd h Bool.false_ne_true
  · exact fun h => absurd h Bool.false_ne_true
  · exact fun _ _ => rfl
  · exact fun _ => Nat.zero_le _
  · exact fun _ => Iff.intro (fun _ => rfl) fun _ => rfl
  · exact fun h => absurd rfl h
  · exact fun _ => rfl
  · exact fun h => absurd rfl h
  · exact fun _ h => absurd h (Multiset.notMem_zero _)
  · rfl

theorem Accounts.byFlags {on : Finset RuleSet} {s' : Lan} (h : s.Accounts on lost)
    (hk : s'.kernel = s.kernel) (hc : s'.fltRuleCount = s.fltRuleCount)
    (hh : ∀ r ∈ on, s'.hdl r = s.hdl r)
    (hon : ∀ r, s'.installed pfx r = true ↔ r ∈ on) :
    s'.Accounts (s'.onBooks pfx) lost := by
  have heq : s'.onBooks pfx = on := by
    ext r
    rw [mem_onBooks, hon]
  rw [heq]
  exact h.congr hk hc hh

theorem Tallied.ofAccounts {t : Lan} (h : s.Tallied kind pfx lost) (hframe : s.Frame t)
    (hmodem : t.modemUlSet = s.modemUlSet) (hsta : t.staUlSet = s.staUlSet)
    (hul : ∀ ip, t.hdl (.wanUl ip) = s.hdl (.wanUl ip))
    (hsubnet : t.hdl .privateSubnet = s.hdl .privateSubnet)
    (hacc : t.Accounts (t.onBooks pfx) lost) : t.Tallied kind pfx lost where
  accounts := hacc
  modem := by rw [hmodem, hframe.ipType]; exact h.modem
  sta := by rw [hsta, hframe.ipType]; exact h.sta
  prefixV6 := by rw [hframe.ipType]; exact h.prefixV6
  wanUl := by
    intro ip hset
    rw [hmodem] at hset
    rw [hul, h.wanUl ip hset]
  wanUlFits := by
    intro ip
    rw [hul]
    exact h.wanUlFits ip
  numDftRtV6 := by rw [hframe.numDftRtV6, hframe.ipType]; exact h.numDftRtV6
  ipv6Addr := by rw [hframe.ipv6Addr, hframe.ipType]; exact h.ipv6Addr
  bridge := by rw [hframe.ipType]; exact h.bridge
  bridged := by rw [hsubnet]; exact h.bridged
  lostRules := h.lostRules
  active := by rw [hframe.isActive, h.active]

/-! ## Software routing -/

theorem Tallied.handleSoftwareRoutingEnable (hA : alloc.Grants)
    (h : s.Tallied kind pfx lost) :
    (s.handleSoftwareRoutingEnable alloc).Tallied kind pfx lost := by
  have hframe : s.Frame (s.handleSoftwareRoutingEnable alloc) :=
    handleSoftwareRoutingEnable_frame
  rw [Lan.handleSoftwareRoutingEnable] at hframe ⊢
  split
  · exact h
  · rename_i hact
    rw [if_neg hact] at hframe
    have h₄ := h.accounts.install hA (r := .swRouting .v4) (n := 1)
      (by simpa [installed] using hact) (RuleSet.eq_of_size rfl)
    have h₆ := h₄.install hA (r := .swRouting .v6) (n := 1)
      (by simpa [installed] using hact) (RuleSet.eq_of_size rfl)
    refine h.ofAccounts hframe rfl rfl (fun _ => rfl) rfl
      (h₆.byFlags rfl rfl (fun _ _ => rfl) ?_)
    refine RuleSet.forall_iff.2 ?_
    simp [installed]

theorem Tallied.clearSoftwareroutingAct {t : Lan} (h : s.Tallied kind pfx lost)
    (hframe : s.Frame t) (hmodem : t.modemUlSet = s.modemUlSet)
    (hsta : t.staUlSet = s.staUlSet) (hhdl : t.hdl = s.hdl)
    (hacc : t.Accounts (((s.onBooks pfx).erase (.swRouting .v4)).erase (.swRouting .v6))
      lost) : Tallied kind pfx lost { t with softwareroutingAct := false } := by
  have hhdl' (r : RuleSet) : t.hdl r = s.hdl r := congrFun hhdl r
  refine h.ofAccounts (hframe.trans (withSoftwareroutingAct_frame false)) hmodem hsta
    (fun ip => hhdl' (.wanUl ip)) (hhdl' .privateSubnet)
    (hacc.byFlags rfl rfl (fun _ _ => rfl) ?_)
  refine RuleSet.forall_iff.2 ?_
  simp [installed, hframe.ipType, hmodem, hsta]

theorem Tallied.handleSoftwareRoutingDisable (h : s.Tallied kind pfx lost) :
    s.handleSoftwareRoutingDisable.Tallied kind pfx lost := by
  rw [Lan.handleSoftwareRoutingDisable]
  split
  · rename_i hact
    have h₄ := h.accounts.uninstall (r := .swRouting .v4)
      (by simpa [installed] using hact) rfl
    have h₆ := h₄.uninstall (r := .swRouting .v6)
      (by simpa [installed] using hact) rfl
    have hframe := (uninstall_frame (.swRouting .v4) 1 (s := s)).trans
      (uninstall_frame (.swRouting .v6) 1)
    refine h.clearSoftwareroutingAct hframe ?_ ?_ ?_ h₆
    · rw [uninstall_modemUlSet, uninstall_modemUlSet]
    · rw [uninstall_staUlSet, uninstall_staUlSet]
    · rw [uninstall_hdl, uninstall_hdl]
  · exact h

/-! ## The uplink comes up -/

theorem Tallied.handleWanUpEx (hA : alloc.Grants) (h : s.Tallied kind pfx lost)
    (hip : s.ipType.has ip = true) :
    (s.handleWanUpEx alloc w ip).Tallied kind pfx lost := by
  rw [Lan.handleWanUpEx]
  split
  · exact h
  · rename_i hset
    have hnil := h.wanUl ip (Bool.eq_false_of_not_eq_true hset)
    have hoff : RuleSet.wanUl ip ∉ s.onBooks pfx := by simpa [installed] using hset
    have hmodem : ∀ ip', Function.update s.modemUlSet ip true ip' = true →
        s.ipType.has ip' = true := by
      intro ip' hip'
      obtain rfl | hip' := of_set hip'
      · exact hip
      · exact h.modem ip' hip'
    rw [Lan.handleUplinkFilterRule, hnil]
    split
    · refine { h with
        accounts := (h.accounts.insert_nil hoff hnil rfl).byFlags rfl rfl
          (fun _ _ => rfl) ?_
        modem := hmodem
        wanUl := ?_ }
      · refine RuleSet.forall_iff.2 ?_
        cases ip <;> simp [installed, Function.update]
      · exact fun ip' hip' => h.wanUl ip' (of_not_set hip').2
    · have hacc := h.accounts.install hA hoff (n := w.numExtProps ip)
        (by rintro _ ⟨⟩)
      refine { h with
        accounts := hacc.byFlags rfl rfl (fun _ _ => rfl) ?_
        modem := hmodem
        wanUl := ?_
        wanUlFits := ?_ }
      · refine RuleSet.forall_iff.2 ?_
        cases ip <;> simp [installed, Function.update]
      · intro ip' hip'
        obtain ⟨hne, hip'⟩ := of_not_set hip'
        exact (install_hdl_of_ne fun heq => hne (RuleSet.wanUl.inj heq)).trans
          (h.wanUl ip' hip')
      · intro ip'
        rcases eq_or_ne ip' ip with rfl | hne
        · show ((s.install alloc _ _ _).hdl _).length ≤ _
          rw [install_hdl_self, List.nil_append, newHdls_length]
          exact Nat.le_of_lt_succ (w.numExtProps ip').isLt
        · show ((s.install alloc _ _ _).hdl _).length ≤ _
          rw [install_hdl_of_ne fun heq => hne (RuleSet.wanUl.inj heq)]
          exact h.wanUlFits ip'

theorem Tallied.handleWanUp (hA : alloc.Grants) (h : s.Tallied kind pfx lost)
    (hip : s.ipType.has ip = true) :
    (s.handleWanUp alloc ip).Tallied kind pfx lost := by
  rw [Lan.handleWanUp]
  split
  · exact h
  · rename_i hset
    have hacc := h.accounts.install hA (r := .staUl ip) (n := 1)
      (by simpa [installed] using hset) (RuleSet.eq_of_size rfl)
    refine { h with accounts := hacc.byFlags rfl rfl (fun _ _ => rfl) ?_, sta := ?_ }
    · refine RuleSet.forall_iff.2 ?_
      cases ip <;> simp [installed, Function.update]
    · intro ip' hip'
      obtain rfl | hip' := of_set hip'
      · exact hip
      · exact h.sta ip' hip'

theorem Tallied.offload (hA : alloc.Grants) (h : s.Tallied kind pfx lost)
    (hip : s.ipType.has ip = true) (hpfx : ip = .v6 → pfx = false) :
    (s.offload alloc w ip isSta).Tallied kind (pfx || ip = .v6) lost := by
  have hup : ∀ {s : Lan} {pfx : Bool}, s.Tallied kind pfx lost →
      s.ipType.has ip = true →
      (if isSta then s.handleWanUp alloc ip else s.handleWanUpEx alloc w ip).Tallied
        kind pfx lost := by
    intro s pfx h hip
    split
    · exact h.handleWanUp hA hip
    · exact h.handleWanUpEx hA hip
  cases ip with
  | v4 => simpa [Lan.offload] using hup h hip
  | v6 =>
    obtain rfl := hpfx rfl
    have hacc := h.accounts.install hA (r := .ipv6Prefix) (n := 1)
      (by simp [installed]) (RuleSet.eq_of_size rfl)
    have hinst : (s.installIpv6PrefixFltRule alloc).Tallied kind true lost := by
      refine { h with
        accounts := hacc.byFlags rfl rfl (fun _ _ => rfl) ?_
        prefixV6 := fun _ => hip }
      refine RuleSet.forall_iff.2 ?_
      simp [installed, installIpv6PrefixFltRule]
    simpa [Lan.offload] using hup hinst hip

/-! ## The uplink goes down -/

/-- `handle_wan_down` finds the rules of the backhaul it is called for. -/
def CanWanDown (ip : IpType) (isSta : Bool) (s : Lan) : Prop :=
  (isSta = false ∧ s.modemUlSet ip = true) ∨ s.staUlSet ip = true

theorem Tallied.wanDown (h : s.Tallied kind pfx lost)
    (hcan : s.CanWanDown ip isSta) : (s.wanDown ip isSta).Tallied kind pfx lost := by
  rw [Lan.wanDown]
  split
  · rename_i hmodem
    rw [if_neg (Nat.not_lt.mpr (h.wanUlFits ip))]
    split
    · exact h
    · have hacc := h.accounts.uninstall_all (r := .wanUl ip)
        (by simpa [installed] using hmodem.2) rfl
      have hcleared : ∀ ip', s.hdl (.wanUl ip') = [] →
          Function.update s.hdl (.wanUl ip) [] (.wanUl ip') = [] := by
        intro ip' hnil
        rcases eq_or_ne (RuleSet.wanUl ip') (.wanUl ip) with heq | hne
        · rw [heq, Function.update_self]
        · rw [Function.update_of_ne hne, hnil]
      refine { h with
        accounts := hacc.byFlags rfl rfl ?_ ?_
        modem := ?_
        wanUl := ?_
        wanUlFits := ?_ }
      · intro r hr
        exact Function.update_of_ne (Finset.ne_of_mem_erase hr) _ _
      · refine RuleSet.forall_iff.2 ?_
        cases ip <;> simp [installed, Function.update]
      · exact fun ip' hip' => h.modem ip' (of_not_cleared hip').2
      · intro ip' hip'
        obtain rfl | hip' := of_cleared hip'
        · exact Function.update_self _ _ _
        · exact hcleared ip' (h.wanUl ip' hip')
      · intro ip'
        rcases eq_or_ne ip' ip with rfl | hne
        · show (Function.update s.hdl _ _ _).length ≤ _
          rw [Function.update_self]
          exact Nat.zero_le _
        · show (Function.update s.hdl _ _ _).length ≤ _
          rw [Function.update_of_ne fun heq => hne (RuleSet.wanUl.inj heq)]
          exact h.wanUlFits ip'
  · rename_i hmodem
    have hsta : s.staUlSet ip = true := hcan.resolve_left hmodem
    have hacc := h.accounts.uninstall (r := .staUl ip)
      (by simpa [installed] using hsta) rfl
    refine { h with accounts := hacc.byFlags rfl rfl (fun _ _ => rfl) ?_, sta := ?_ }
    · refine RuleSet.forall_iff.2 ?_
      cases ip <;> simp [installed, Function.update]
    · exact fun ip' hip' => h.sta ip' (of_not_cleared hip').2

theorem Tallied.handleWanDown (h : s.Tallied kind pfx lost)
    (hcan : s.CanWanDown ip isSta) (hpfx : ip = .v6 → pfx = true) :
    (s.handleWanDown ip isSta).Tallied kind (pfx && ip ≠ .v6) lost := by
  cases ip with
  | v4 => simpa [Lan.handleWanDown] using h.wanDown hcan
  | v6 =>
    obtain rfl := hpfx rfl
    have hacc := h.accounts.uninstall (r := .ipv6Prefix) (by simp [installed]) rfl
    have hdel : s.deleteIpv6PrefixFltRule.Tallied kind false lost := by
      refine { h with
        accounts := hacc.byFlags rfl rfl (fun _ _ => rfl) ?_
        prefixV6 := nofun }
      refine RuleSet.forall_iff.2 ?_
      simp [installed, deleteIpv6PrefixFltRule]
    simpa [Lan.handleWanDown] using hdel.wanDown hcan

/-! ## Addresses -/

theorem has_of_ne_v6 {ty : IfaceIpType} (hnull : ty ≠ .null) (h : ty ≠ .v6) :
    ty.has .v4 = true := by
  cases ty <;> first | rfl | exact absurd rfl hnull | exact absurd rfl h

theorem has_of_ne_v4 {ty : IfaceIpType} (hnull : ty ≠ .null) (h : ty ≠ .v4) :
    ty.has .v6 = true := by
  cases ty <;> first | rfl | exact absurd rfl hnull | exact absurd rfl h

theorem Tallied.addrV4 (hA : alloc.Grants) (h : s.Tallied kind pfx lost)
    (hkind : kind ≠ .oduBridge) (hip : s.ipType.has .v4 = false) {addr : BitVec 32} :
    ((s.handleAddrEvt alloc (.v4 addr)).2.addDummyPrivateSubnetFltRule alloc
      .v4).Tallied kind pfx lost := by
  have h₀ : ({ s with ipType := s.ipType.config .v4 } : Lan).Accounts
      (s.onBooks pfx) lost := h.accounts.congr rfl rfl fun _ _ => rfl
  have h₁ := h₀.install hA (r := .dft .v4) (n := numDftRules .v4)
    (by simpa [installed] using hip) (RuleSet.eq_of_size rfl)
  have h₂ := h₁.install hA (r := .icmp .v4) (n := 1)
    (by simpa [installed] using hip) (RuleSet.eq_of_size rfl)
  have h₃ := h₂.install hA (r := .privateSubnet) (n := maxPrivateSubnetEntries)
    (by simpa [installed] using hip) (RuleSet.eq_of_size rfl)
  have hself := has_config_self .v4 s.ipType
  have hother := has_config_of_ne (nofun : IpType.v6 ≠ .v4) s.ipType
  refine { h with
    accounts := h₃.byFlags rfl rfl (fun _ _ => rfl) ?_
    modem := fun ip hm => has_config_of_has (h.modem ip hm)
    sta := fun ip hm => has_config_of_has (h.sta ip hm)
    prefixV6 := fun hp => has_config_of_has (h.prefixV6 hp)
    numDftRtV6 := fun hk => (h.numDftRtV6 hk).trans (by rw [← hother]; rfl)
    ipv6Addr := fun hne => has_config_of_has (h.ipv6Addr hne)
    bridge := fun hk => absurd hk hkind
    bridged := fun hl => absurd (h.bridged hl).1 hkind }
  refine RuleSet.forall_iff.2 ?_
  simp [installed, handleAddrEvt, initFlRule, installIcmpFltRule,
      addDummyPrivateSubnetFltRule, Addr.ipType, hself, hother]

theorem Tallied.addrV6 (hA : alloc.Grants) (h : s.Tallied kind pfx lost)
    (hkind : kind ≠ .oduBridge) {addr : BitVec 128} :
    (s.handleAddrEvt alloc (.v6 addr)).2.Tallied kind pfx lost := by
  rw [handleAddrEvt]
  simp only [Addr.ipType]
  split
  · rename_i hmem
    have hhas := h.ipv6Addr (List.ne_nil_of_mem hmem)
    rw [config_of_has hhas]
    exact h
  · split
    · rename_i hnum
      have hip : s.ipType.has .v6 = false := (h.numDftRtV6 hkind).mp hnum
      have h₀ : ({ s with
            ipType := s.ipType.config .v6, ipv6Addr := s.ipv6Addr ++ [addr] } :
          Lan).Accounts (s.onBooks pfx) lost :=
        h.accounts.congr rfl rfl fun _ _ => rfl
      have h₁ := h₀.install hA (r := .icmp .v6) (n := 1)
        (by simpa [installed] using hip) (RuleSet.eq_of_size rfl)
      have h₂ := h₁.install hA (r := .dft .v6) (n := numDftRules .v6)
        (by simpa [installed] using hip) (RuleSet.eq_of_size rfl)
      have hself := has_config_self .v6 s.ipType
      have hother := has_config_of_ne (by decide : IpType.v4 ≠ .v6) s.ipType
      refine { h with
        accounts := h₂.byFlags rfl rfl (fun _ _ => rfl) ?_
        modem := fun ip hm => has_config_of_has (h.modem ip hm)
        sta := fun ip hm => has_config_of_has (h.sta ip hm)
        prefixV6 := fun _ => hself
        numDftRtV6 := fun _ =>
          ⟨by rintro ⟨⟩, fun hf => absurd (hself.symm.trans hf) (by rintro ⟨⟩)⟩
        ipv6Addr := fun _ => hself
        bridge := fun hk => absurd hk hkind
        bridged := fun hl => absurd (h.bridged hl).1 hkind }
      refine RuleSet.forall_iff.2 ?_
      simp [installed, initFlRule, installIcmpFltRule, hself, hother]
    · rename_i hnum
      have hhas : s.ipType.has .v6 = true :=
        Bool.eq_true_of_not_eq_false fun hf => hnum ((h.numDftRtV6 hkind).mpr hf)
      rw [config_of_has hhas]
      exact { h with
        accounts := h.accounts.congr rfl rfl fun _ _ => rfl
        numDftRtV6 := fun _ =>
          ⟨by rintro ⟨⟩, fun hf => absurd (hhas.symm.trans hf) (by rintro ⟨⟩)⟩
        ipv6Addr := fun _ => hhas
        bridge := fun hk => absurd hk hkind }

theorem Tallied.addrAddBridge (hA : alloc.Grants) {a : Addr}
    (h : s.Tallied .oduBridge pfx lost) :
    ∃ lost', (s.addrAddBridge alloc a).Tallied .oduBridge pfx lost' := by
  have hnum : (if a.ipType = .v6 ∧ s.numDftRtV6 = 0 then
      { s with numDftRtV6 := s.numDftRtV6 + 1 } else s).Tallied .oduBridge pfx lost := by
    split
    · exact { h with
        accounts := h.accounts.congr rfl rfl fun _ _ => rfl
        numDftRtV6 := fun hk => absurd rfl hk }
    · exact h
  rw [Lan.addrAddBridge]
  generalize hs : (if a.ipType = .v6 ∧ s.numDftRtV6 = 0 then
      { s with numDftRtV6 := s.numDftRtV6 + 1 } else s) = t at hnum ⊢
  cases a with
  | v6 addr => exact ⟨lost, hnum⟩
  | v4 addr =>
    have hnull := hnum.bridge rfl
    have hoff : RuleSet.privateSubnet ∉ t.onBooks pfx := by
      simp [installed, hnull, IfaceIpType.has]
    have hacc := hnum.accounts.install_lost hA hoff (n := maxPrivateSubnetEntries)
      (RuleSet.eq_of_size rfl)
    refine ⟨_, { hnum with
      accounts := hacc.congr rfl rfl fun _ _ => rfl
      bridged := fun _ => ⟨rfl, ?_⟩
      lostRules := ?_ }⟩
    · have hlen : (t.newHdls alloc .privateSubnet maxPrivateSubnetEntries).length =
          maxPrivateSubnetEntries := newHdls_length
      obtain ⟨hdl, hmem⟩ := List.exists_mem_of_length_pos
        (hlen ▸ (by decide : 0 < maxPrivateSubnetEntries))
      refine ⟨hdl, ?_, newHdls_ne_zero hA hmem⟩
      show hdl ∈ (t.install alloc .privateSubnet maxPrivateSubnetEntries []).hdl _
      rw [install_hdl_self]
      exact hmem
    · intro e he
      obtain he | he := Multiset.mem_add.mp he
      · obtain ⟨-, -, rfl⟩ := mem_entries.mp he
        rfl
      · exact hnum.lostRules e he

end Lan

end Axon7.Tether
