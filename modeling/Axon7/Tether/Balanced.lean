import Axon7.Tether.Tallied

/-!
# Runs in which what goes up comes down

`handle_wan_down` deletes the uplink rules of the backhaul it is called for,
whether they are there or not, and `handle_wan_down_v6` the prefix rule as
well; `handle_down_evt` takes away what the flags of `IPACM_Wan` say is there.
In a run where that is what is there the count is right after every event.
-/

namespace Axon7.Tether

open Axon7.Lib

/-- The rules that come with an address. -/
def RuleSet.isDefault : RuleSet → Bool
  | .dft _ => true
  | .icmp _ => true
  | .privateSubnet => true
  | _ => false

namespace Lan

variable {alloc : Alloc} {kind : IfaceKind} {w : World} {s : Lan}
  {lost : Multiset Entry} {pfx : Bool} {ip : IpType} {isSta : Bool}

/-! ## The interface goes down -/

/-- The prefix rule is there. -/
def PrefixInstalled (s : Lan) : Prop :=
  ∃ e ∈ s.kernel.live, e.2 = .ipv6Prefix

theorem Tallied.prefixInstalled (h : s.Tallied kind pfx lost) :
    s.PrefixInstalled ↔ pfx = true := by
  have hlive : ∀ e, e ∈ s.kernel.live ↔ e ∈ s.held (s.onBooks pfx) + lost := fun e => by
    rw [← h.accounts.owns.live]
    rfl
  constructor
  · rintro ⟨e, hmem, hset⟩
    obtain hmem | hmem := Multiset.mem_add.mp ((hlive _).mp hmem)
    · obtain ⟨r, hr, hmem⟩ := Multiset.mem_sum.mp hmem
      obtain ⟨hdl, -, rfl⟩ := mem_entries.mp hmem
      obtain rfl : r = .ipv6Prefix := hset
      exact mem_onBooks.mp hr
    · exact absurd ((h.lostRules _ hmem).symm.trans hset) nofun
  · intro hp
    have hon : RuleSet.ipv6Prefix ∈ s.onBooks pfx := mem_onBooks.mpr hp
    obtain ⟨hdl, hmem⟩ := List.exists_mem_of_length_pos
      (h.accounts.size _ hon 1 rfl ▸ Nat.one_pos)
    refine ⟨((.v6, hdl), .ipv6Prefix),
      (hlive _).mpr (Multiset.mem_add.mpr (.inl ?_)), rfl⟩
    exact Multiset.mem_sum.mpr ⟨_, hon, mem_entries.mpr ⟨hdl, hmem, rfl⟩⟩

/-- What `handle_wan_down` deletes for the family is there. -/
structure UplinkThere (ip : IpType) (isSta : Bool) (s : Lan) : Prop where
  rules : s.CanWanDown ip isSta
  prefixRule : ip = .v6 → s.PrefixInstalled

/-- The rules for the other backhaul are not. -/
def OtherUplinkGone (ip : IpType) (isSta : Bool) (s : Lan) : Prop :=
  if isSta = false ∧ s.modemUlSet ip = true then s.staUlSet ip = false
  else s.hdl (.wanUl ip) = []

/-- There are no uplink rules of the family. -/
structure UplinkGone (ip : IpType) (s : Lan) : Prop where
  modem : s.hdl (.wanUl ip) = []
  sta : s.staUlSet ip = false

/-- The interface goes down with nothing installed that `handle_down_evt`
leaves there. -/
def DownBalanced (kind : IfaceKind) (w : World) (s : Lan) : Prop :=
  if s.ipType = .null then
    kind = .oduBridge → ∀ h ∈ s.hdl .privateSubnet, h = 0
  else
    ∀ ip, if w.isWanUp ip = true then
        s.UplinkThere ip w.backhaulIsStaMode ∧
          s.OtherUplinkGone ip w.backhaulIsStaMode
      else s.UplinkGone ip ∧ (ip = .v6 → ¬ s.PrefixInstalled)

theorem handleWanDown_other {ip' : IpType} (hne : ip' ≠ ip) :
    (s.handleWanDown ip isSta).hdl (.wanUl ip') = s.hdl (.wanUl ip') ∧
      (s.handleWanDown ip isSta).modemUlSet ip' = s.modemUlSet ip' ∧
      (s.handleWanDown ip isSta).staUlSet ip' = s.staUlSet ip' := by
  have hwan : ∀ s : Lan, (s.wanDown ip isSta).hdl (.wanUl ip') = s.hdl (.wanUl ip') ∧
      (s.wanDown ip isSta).modemUlSet ip' = s.modemUlSet ip' ∧
      (s.wanDown ip isSta).staUlSet ip' = s.staUlSet ip' := by
    intro s
    rw [Lan.wanDown]
    split
    · split
      · exact ⟨rfl, rfl, rfl⟩
      · split
        · exact ⟨rfl, rfl, rfl⟩
        · exact ⟨Function.update_of_ne (fun heq => hne (RuleSet.wanUl.inj heq)) _ _,
            Function.update_of_ne hne _ _, rfl⟩
    · exact ⟨rfl, rfl, Function.update_of_ne hne _ _⟩
  cases ip with
  | v4 => exact hwan s
  | v6 => exact hwan s.deleteIpv6PrefixFltRule

theorem Tallied.handleWanDown_gone (h : s.Tallied kind pfx lost)
    (hother : s.OtherUplinkGone ip isSta) :
    (s.handleWanDown ip isSta).UplinkGone ip := by
  have hwan : ∀ s : Lan, (s.hdl (.wanUl ip)).length ≤ maxNumExtProps →
      s.OtherUplinkGone ip isSta → (s.wanDown ip isSta).UplinkGone ip := by
    intro s hfits hother
    rw [OtherUplinkGone] at hother
    rw [Lan.wanDown]
    split
    · rename_i hmodem
      rw [if_pos hmodem] at hother
      rw [if_neg (Nat.not_lt.mpr hfits)]
      split
      · rename_i hlen
        exact ⟨List.length_eq_zero_iff.mp hlen, hother⟩
      · exact ⟨Function.update_self _ _ _, hother⟩
    · rename_i hmodem
      rw [if_neg hmodem] at hother
      exact ⟨hother, Function.update_self _ _ _⟩
  cases ip with
  | v4 => exact hwan s (h.wanUlFits .v4) hother
  | v6 => exact hwan s.deleteIpv6PrefixFltRule (h.wanUlFits .v6) hother

theorem Tallied.downUplink (ip : IpType) (h : s.Tallied kind pfx lost)
    (hok : if w.isWanUp ip = true then
        s.UplinkThere ip w.backhaulIsStaMode ∧
          s.OtherUplinkGone ip w.backhaulIsStaMode
      else s.UplinkGone ip ∧ (ip = .v6 → ¬ s.PrefixInstalled)) :
    (s.downUplink w ip).Tallied kind (pfx && ip ≠ .v6) lost ∧
      (s.downUplink w ip).UplinkGone ip := by
  rw [Lan.downUplink]
  split
  · rename_i hup
    rw [if_pos hup] at hok
    exact ⟨h.handleWanDown hok.1.rules fun hip =>
        h.prefixInstalled.mp (hok.1.prefixRule hip),
      h.handleWanDown_gone hok.2⟩
  · rename_i hup
    rw [if_neg hup] at hok
    have hpfx : (pfx && ip ≠ .v6) = pfx := by
      cases ip with
      | v4 => exact Bool.and_true pfx
      | v6 =>
        have hno := hok.2 rfl
        rw [h.prefixInstalled, Bool.not_eq_true] at hno
        rw [hno, Bool.false_and]
    rw [hpfx]
    exact ⟨h, hok.1⟩

theorem downUplink_other {ip' : IpType} (hne : ip' ≠ ip) :
    (s.downUplink w ip).hdl (.wanUl ip') = s.hdl (.wanUl ip') ∧
      (s.downUplink w ip).modemUlSet ip' = s.modemUlSet ip' ∧
      (s.downUplink w ip).staUlSet ip' = s.staUlSet ip' := by
  rw [Lan.downUplink]
  split
  · exact handleWanDown_other hne
  · exact ⟨rfl, rfl, rfl⟩

theorem downUplink_ipType : (s.downUplink w ip).ipType = s.ipType := by
  rw [Lan.downUplink]
  split
  · exact handleWanDown_frame.ipType
  · rfl

section DefaultRules

variable {on : Finset RuleSet}

theorem Accounts.deleteV4Rules (h : s.Accounts on lost)
    (hicmp : s.ipType ≠ .v6 → .icmp .v4 ∈ on) (hdft : s.ipType ≠ .v6 → .dft .v4 ∈ on)
    (hpriv : s.ipType ≠ .v6 → .privateSubnet ∈ on) :
    s.deleteV4Rules.Accounts
      (if s.ipType = .v6 then on
        else ((on.erase (.icmp .v4)).erase (.dft .v4)).erase .privateSubnet) lost := by
  rw [Lan.deleteV4Rules]
  split
  · exact h
  · rename_i hty
    have h₁ := h.uninstall (hicmp hty) rfl
    have hmem : RuleSet.dft .v4 ∈ on.erase (.icmp .v4) :=
      Finset.mem_erase.mpr ⟨nofun, hdft hty⟩
    have hlen := h.size _ (hdft hty) 3 rfl
    have hhead : ((s.uninstall (.icmp .v4) 1).hdl (.dft .v4)).headD 0 ≠ 0 := by
      obtain ⟨x, l, heq⟩ := List.exists_cons_of_length_eq_add_one hlen
      rw [uninstall_hdl, heq]
      exact h.ne_zero _ (hdft hty) x (heq ▸ List.mem_cons_self)
    have h₂ := h₁.uninstall hmem rfl
    have h₃ := h₂.uninstall (r := .privateSubnet)
      (Finset.mem_erase.mpr ⟨nofun, Finset.mem_erase.mpr ⟨nofun, hpriv hty⟩⟩) rfl
    simp only [if_neg hhead]
    exact h₃

theorem Accounts.deleteV6Rules (h : s.Accounts on lost)
    (hicmp : s.ipType ≠ .v4 → .icmp .v6 ∈ on) (hdft : s.ipType ≠ .v4 → .dft .v6 ∈ on) :
    s.deleteV6Rules.Accounts
      (if s.ipType = .v4 then on else (on.erase (.icmp .v6)).erase (.dft .v6)) lost := by
  rw [Lan.deleteV6Rules]
  split
  · exact h
  · rename_i hty
    have h₁ := h.uninstall (hicmp hty) rfl
    have hlen := h.size _ (hdft hty) 8 rfl
    have hhead : ((s.uninstall (.icmp .v6) 1).hdl (.dft .v6)).headD 0 ≠ 0 := by
      obtain ⟨x, l, heq⟩ := List.exists_cons_of_length_eq_add_one hlen
      rw [uninstall_hdl, heq]
      exact h.ne_zero _ (hdft hty) x (heq ▸ List.mem_cons_self)
    have h₂ := h₁.uninstall (r := .dft .v6)
      (Finset.mem_erase.mpr ⟨nofun, hdft hty⟩) rfl
    simp only [if_neg hhead]
    exact h₂

end DefaultRules

@[simp] theorem deleteV4Rules_hdl : s.deleteV4Rules.hdl = s.hdl := by
  rw [Lan.deleteV4Rules]
  split
  · rfl
  · rw [uninstall_hdl]
    split <;> simp only [uninstall_hdl]

@[simp] theorem deleteV4Rules_ipType : s.deleteV4Rules.ipType = s.ipType := by
  rw [Lan.deleteV4Rules]
  split
  · rfl
  · rw [uninstall_ipType]
    split <;> simp only [uninstall_ipType]

@[simp] theorem deleteV4Rules_softwareroutingAct :
    s.deleteV4Rules.softwareroutingAct = s.softwareroutingAct := by
  rw [Lan.deleteV4Rules]
  split
  · rfl
  · rw [uninstall_softwareroutingAct]
    split <;> simp only [uninstall_softwareroutingAct]

@[simp] theorem deleteV6Rules_hdl : s.deleteV6Rules.hdl = s.hdl := by
  rw [Lan.deleteV6Rules]
  split
  · rfl
  · dsimp only
    split <;> simp only [uninstall_hdl]

@[simp] theorem deleteV6Rules_softwareroutingAct :
    s.deleteV6Rules.softwareroutingAct = s.softwareroutingAct := by
  rw [Lan.deleteV6Rules]
  split
  · rfl
  · dsimp only
    split <;> simp only [uninstall_softwareroutingAct]

theorem Tallied.deleteRules (h : s.Tallied kind pfx lost) (hty : s.ipType ≠ .null) :
    ∃ on, s.deleteV4Rules.deleteV6Rules.Accounts on lost ∧
      ∀ r, r ∈ on ↔ r ∈ s.onBooks pfx ∧ r.isDefault = false := by
  have h₄ := h.accounts.deleteV4Rules
    (fun hne => mem_onBooks.mpr (has_of_ne_v6 hty hne))
    (fun hne => mem_onBooks.mpr (has_of_ne_v6 hty hne))
    (fun hne => mem_onBooks.mpr (has_of_ne_v6 hty hne))
  have hmem : ∀ r, r.ip = .v6 → r ∈ s.onBooks pfx → r ∈ if s.ipType = .v6 then
      s.onBooks pfx else (((s.onBooks pfx).erase (.icmp .v4)).erase
        (.dft .v4)).erase .privateSubnet := by
    intro r hip hr
    split
    · exact hr
    · simp only [Finset.mem_erase]
      refine ⟨?_, ?_, ?_, hr⟩ <;> rintro rfl <;> cases hip
  have h₆ := h₄.deleteV6Rules
    (fun hne => hmem _ rfl (mem_onBooks.mpr
      (has_of_ne_v4 hty (deleteV4Rules_ipType ▸ hne))))
    (fun hne => hmem _ rfl (mem_onBooks.mpr
      (has_of_ne_v4 hty (deleteV4Rules_ipType ▸ hne))))
  refine ⟨_, h₆, fun r => ?_⟩
  rw [deleteV4Rules_ipType]
  rcases hip : s.ipType with _ | _ | _ | _
  · exact absurd hip hty
  all_goals
    rcases r with (_ | _) | (_ | _) | _ | (_ | _) | (_ | _) | (_ | _) | _ <;>
      simp [hip, installed, RuleSet.isDefault, IfaceIpType.has]

theorem Accounts.closed {on : Finset RuleSet} {s : Lan} (h : s.Accounts on 0)
    (hsw : ∀ ip, .swRouting ip ∈ on ↔ s.softwareroutingAct = true)
    (hrest : ∀ r ∈ on, (∀ ip, r ≠ .swRouting ip) → s.hdl r = []) :
    s.handleSoftwareRoutingDisable.kernel.live = [] ∧
      s.handleSoftwareRoutingDisable.kernel.refused = false ∧
      ∀ ip, s.handleSoftwareRoutingDisable.fltRuleCount ip = 0 := by
  have hempty : ∀ {t : Lan} {on : Finset RuleSet}, t.Accounts on 0 →
      (∀ r ∈ on, t.hdl r = []) → t.kernel.live = [] ∧ t.kernel.refused = false ∧
        ∀ ip, t.fltRuleCount ip = 0 := by
    intro t on h hnil
    have hheld : t.held on + 0 = 0 := by
      rw [add_zero, held]
      exact Finset.sum_eq_zero fun r hr => by rw [hnil r hr, entries_nil]
    refine ⟨?_, h.owns.granted, fun ip => ?_⟩
    · have hlive := h.owns.live
      rw [hheld] at hlive
      exact (Multiset.coe_eq_zero _).mp hlive
    · rw [h.count ip, hheld, familyCount_zero]
      rfl
  rw [Lan.handleSoftwareRoutingDisable]
  split
  · rename_i hact
    have h₁ := h.uninstall ((hsw .v4).mpr hact) rfl
    have h₂ := h₁.uninstall (r := .swRouting .v6)
      (Finset.mem_erase.mpr ⟨(by rintro ⟨⟩), (hsw .v6).mpr hact⟩) rfl
    refine hempty (h₂.congr rfl rfl fun _ _ => rfl) fun r hr => ?_
    rw [Finset.mem_erase, Finset.mem_erase] at hr
    refine hrest r hr.2.2 fun ip heq => ?_
    cases ip with
    | v4 => exact hr.2.1 heq
    | v6 => exact hr.1 heq
  · rename_i hact
    exact hempty h fun r hr => hrest r hr fun ip heq => hact ((hsw ip).mp (heq ▸ hr))

theorem Tallied.handleDownEvt (h : s.Tallied kind pfx lost)
    (hok : s.DownBalanced kind w) :
    (s.handleDownEvt w).kernel.live = [] ∧
      (s.handleDownEvt w).kernel.refused = false ∧
      ∀ ip, (s.handleDownEvt w).fltRuleCount ip = 0 := by
  rw [DownBalanced] at hok
  rw [Lan.handleDownEvt]
  split
  · rename_i hty
    rw [if_pos hty] at hok
    -- no family, so nothing but the rules for software routing is there
    have hlost : lost = 0 := by
      by_contra hne
      obtain ⟨hkind, hdl, hmem, hne⟩ := h.bridged hne
      exact hne (hok hkind hdl hmem)
    subst hlost
    have hhas : ∀ ip, s.ipType.has ip = false := fun ip => by
      rw [hty]
      cases ip <;> rfl
    refine Accounts.closed h.accounts (fun ip => by simp [installed]) fun r hr hsw => ?_
    rw [mem_onBooks] at hr
    cases r with
    | dft ip => exact absurd ((hhas ip).symm.trans hr) (by rintro ⟨⟩)
    | icmp ip => exact absurd ((hhas ip).symm.trans hr) (by rintro ⟨⟩)
    | privateSubnet => exact absurd ((hhas .v4).symm.trans hr) (by rintro ⟨⟩)
    | swRouting ip => exact absurd rfl (hsw ip)
    | wanUl ip => exact absurd ((hhas ip).symm.trans (h.modem ip hr)) (by rintro ⟨⟩)
    | staUl ip => exact absurd ((hhas ip).symm.trans (h.sta ip hr)) (by rintro ⟨⟩)
    | ipv6Prefix => exact absurd ((hhas .v6).symm.trans (h.prefixV6 hr)) (by rintro ⟨⟩)
  · rename_i hty
    rw [if_neg hty] at hok
    obtain ⟨h₄, hgone₄⟩ := h.downUplink .v4 (hok .v4)
    have hpfx : (pfx && decide (IpType.v4 ≠ .v6)) = pfx := Bool.and_true pfx
    rw [hpfx] at h₄
    obtain ⟨hul, hmodem, hsta⟩ :=
      downUplink_other (s := s) (w := w) (by decide : IpType.v6 ≠ .v4)
    have hrule6 : (s.downUplink w .v4).PrefixInstalled ↔ s.PrefixInstalled :=
      h₄.prefixInstalled.trans h.prefixInstalled.symm
    obtain ⟨h₆, hgone₆⟩ := h₄.downUplink .v6 (w := w) (by
      have hok := hok .v6
      split
      · rename_i hup
        rw [if_pos hup] at hok
        obtain ⟨⟨hrules, hpre⟩, hother⟩ := hok
        rw [CanWanDown, ← hmodem, ← hsta] at hrules
        rw [OtherUplinkGone, ← hmodem, ← hsta, ← hul] at hother
        exact ⟨⟨hrules, fun hip => hrule6.mpr (hpre hip)⟩, hother⟩
      · rename_i hup
        rw [if_neg hup] at hok
        exact ⟨⟨hul.trans hok.1.modem, hsta.trans hok.1.sta⟩,
          fun hip hp => hok.2 hip (hrule6.mp hp)⟩)
    have hpfx₆ : (pfx && decide (IpType.v6 ≠ .v6)) = false := Bool.and_false pfx
    rw [hpfx₆] at h₆
    obtain ⟨hul₄, -, hsta₄⟩ := downUplink_other (s := s.downUplink w .v4) (w := w)
      (by decide : IpType.v4 ≠ .v6)
    have hty₆ : ((s.downUplink w .v4).downUplink w .v6).ipType = s.ipType :=
      downUplink_ipType.trans downUplink_ipType
    set t := (s.downUplink w .v4).downUplink w .v6 with ht
    have hlost : lost = 0 := by
      by_contra hne
      exact hty (h.bridge (h.bridged hne).1)
    subst hlost
    obtain ⟨on, hacc, hon⟩ := h₆.deleteRules (hty₆ ▸ hty)
    refine Accounts.closed hacc (fun ip => ?_) fun r hr hsw => ?_
    · rw [hon, mem_onBooks]
      simp [installed, RuleSet.isDefault]
    · obtain ⟨hr, hdef⟩ := (hon r).mp hr
      rw [mem_onBooks] at hr
      simp only [deleteV6Rules_hdl, deleteV4Rules_hdl]
      cases r with
      | dft ip => cases hdef
      | icmp ip => cases hdef
      | privateSubnet => cases hdef
      | swRouting ip => exact absurd rfl (hsw ip)
      | wanUl ip =>
        cases ip with
        | v4 => exact hul₄.trans hgone₄.modem
        | v6 => exact hgone₆.modem
      | staUl ip =>
        cases ip with
        | v4 => exact absurd (hsta₄.symm.trans hr) (by simp [hgone₄.sta])
        | v6 => exact absurd hr (by simp [installed, hgone₆.sta])
      | ipv6Prefix => cases hr

/-! ## Runs -/

/-- While the interface is there, its rules are tallied, and the prefix rule
is there only between an upstream and a downstream. -/
def Steady (kind : IfaceKind) (s : Lan) : Prop :=
  ∃ pfx lost, s.Tallied kind pfx lost ∧
    (pfx = true → s.isUpstreamSet .v6 = true ∧ s.isDownstreamSet .v6 = true)

/-- The count of each family is the number of rules the kernel has, every rule
that was deleted was there, and once the interface is down both counts are
zero. -/
structure Accounted (s : Lan) : Prop where
  count : ∀ ip, s.fltRuleCount ip = (s.kernel.live.countP fun e => e.1.1 = ip : Nat)
  granted : s.kernel.refused = false
  closed : s.isActive = false → ∀ ip, s.fltRuleCount ip = 0

/-- The condition on an event. What `handle_wan_down` or `handle_wan_down_v6`
deletes is there when it is called, and the interface goes down with nothing
more than `handle_down_evt` deletes. -/
def Balanced (kind : IfaceKind) (w : World) (s : Lan) : Event → Prop
  | .wanDownTether ip isSta =>
    s.ipType.has ip = true → s.isUpstreamSet ip = true →
      s.isDownstreamSet ip = true → s.UplinkThere ip isSta
  | .downstreamDel ip =>
    s.isDownstreamSet ip = true → s.isUpstreamSet ip = true →
      s.UplinkThere ip w.backhaulIsStaMode
  | .linkDown => s.DownBalanced kind w
  | _ => True

theorem Tallied.accounted (h : s.Tallied kind pfx lost) : s.Accounted where
  count ip := by
    rw [h.accounts.count ip, ← h.accounts.owns.live]
    rfl
  granted := h.accounts.owns.granted
  closed hf := absurd (h.active.symm.trans hf) nofun

theorem Tallied.withFlags (h : s.Tallied kind pfx lost) (up down : IpType → Bool) :
    ({ s with isUpstreamSet := up, isDownstreamSet := down } : Lan).Tallied
      kind pfx lost :=
  { h with accounts := h.accounts.congr rfl rfl fun _ _ => rfl }

theorem Tallied.checkSwRouting (hA : alloc.Grants) (h : s.Tallied kind pfx lost) :
    (s.checkSwRouting alloc w).Tallied kind pfx lost := by
  rw [Lan.checkSwRouting]
  split
  · exact h.handleSoftwareRoutingEnable hA
  · exact h

/-! ### Events -/

theorem Steady.wanUpTether (hA : alloc.Grants) (h : s.Steady kind) :
    (s.wanUpTether alloc kind w ip isSta).Steady kind := by
  obtain ⟨pfx, lost, ht, hflags⟩ := h
  rw [Lan.wanUpTether]
  split
  · exact ⟨pfx, lost, ht, hflags⟩
  split
  · rename_i hip
    split
    · exact ⟨pfx, lost, ht, hflags⟩
    · rename_i hup
      have hset : pfx = true → Function.update s.isUpstreamSet ip true .v6 = true ∧
          s.isDownstreamSet .v6 = true := by
        intro hp
        refine ⟨?_, (hflags hp).2⟩
        rcases eq_or_ne IpType.v6 ip with rfl | hne
        · exact Function.update_self _ _ _
        · rw [Function.update_of_ne hne]
          exact (hflags hp).1
      have ht := ht.withFlags (Function.update s.isUpstreamSet ip true)
        s.isDownstreamSet
      dsimp only
      split
      · rename_i hdown
        refine ⟨_, lost, ht.offload hA hip ?_, ?_⟩
        · rintro rfl
          exact Bool.eq_false_of_not_eq_true fun hp => hup (hflags hp).1
        · rw [offload_frame.isUpstreamSet, offload_frame.isDownstreamSet]
          intro hp
          obtain hp | hp := (Bool.or_eq_true _ _).mp hp
          · exact hset hp
          · obtain rfl := of_decide_eq_true hp
            exact ⟨Function.update_self IpType.v6 true s.isUpstreamSet, hdown⟩
      · exact ⟨pfx, lost, ht, hset⟩
  · exact ⟨pfx, lost, ht, hflags⟩

theorem Steady.downstreamAdd (hA : alloc.Grants) (h : s.Steady kind) :
    (s.downstreamAdd alloc w ip).Steady kind := by
  obtain ⟨pfx, lost, ht, hflags⟩ := h
  rw [Lan.downstreamAdd]
  split
  · exact ⟨pfx, lost, ht, hflags⟩
  · rename_i hdown
    have hset : pfx = true → s.isUpstreamSet .v6 = true ∧
        Function.update s.isDownstreamSet ip true .v6 = true := by
      intro hp
      refine ⟨(hflags hp).1, ?_⟩
      rcases eq_or_ne IpType.v6 ip with rfl | hne
      · exact Function.update_self _ _ _
      · rw [Function.update_of_ne hne]
        exact (hflags hp).2
    have ht := ht.withFlags s.isUpstreamSet
      (Function.update s.isDownstreamSet ip true)
    dsimp only
    split
    · rename_i hup
      refine ⟨_, lost, ht.offload hA hup.2 ?_, ?_⟩
      · rintro rfl
        exact Bool.eq_false_of_not_eq_true fun hp => hdown (hflags hp).2
      · rw [offload_frame.isUpstreamSet, offload_frame.isDownstreamSet]
        intro hp
        obtain hp | hp := (Bool.or_eq_true _ _).mp hp
        · exact hset hp
        · obtain rfl := of_decide_eq_true hp
          exact ⟨hup.1, Function.update_self IpType.v6 true s.isDownstreamSet⟩
    · exact ⟨pfx, lost, ht, hset⟩

theorem Tallied.wanDownFlags (h : s.Tallied kind pfx lost)
    (hflags : pfx = true → s.isUpstreamSet .v6 = true ∧ s.isDownstreamSet .v6 = true)
    {up down : IpType → Bool} (hup : ∀ ip' ≠ ip, up ip' = s.isUpstreamSet ip')
    (hdown : ∀ ip' ≠ ip, down ip' = s.isDownstreamSet ip')
    (hthere : s.UplinkThere ip isSta) :
    (({ s with isUpstreamSet := up, isDownstreamSet := down } : Lan).handleWanDown
      ip isSta).Steady kind := by
  refine ⟨_, lost, (h.withFlags up down).handleWanDown hthere.rules fun hip =>
    h.prefixInstalled.mp (hthere.prefixRule hip), ?_⟩
  rw [handleWanDown_frame.isUpstreamSet, handleWanDown_frame.isDownstreamSet]
  intro hp
  obtain ⟨hp, hne⟩ := (Bool.and_eq_true _ _).mp hp
  have hne : IpType.v6 ≠ ip := (of_decide_eq_true hne).symm
  exact ⟨(hup _ hne).trans (hflags hp).1, (hdown _ hne).trans (hflags hp).2⟩

theorem Steady.wanDownTether (h : s.Steady kind)
    (hb : s.Balanced kind w (.wanDownTether ip isSta)) :
    (s.wanDownTether ip isSta).Steady kind := by
  obtain ⟨pfx, lost, ht, hflags⟩ := h
  rw [Lan.wanDownTether]
  split
  · rename_i hip
    split
    · rename_i hup
      dsimp only
      split
      · rename_i hdown
        exact ht.wanDownFlags hflags (fun ip' hne => Function.update_of_ne hne _ _)
          (fun _ _ => rfl) (hb hip hup hdown)
      · rename_i hdown
        refine ⟨pfx, lost, ht.withFlags _ _, fun hp => ?_⟩
        have hne : IpType.v6 ≠ ip := fun heq => hdown (heq ▸ (hflags hp).2)
        exact ⟨(Function.update_of_ne hne _ _).trans (hflags hp).1, (hflags hp).2⟩
    · exact ⟨pfx, lost, ht, hflags⟩
  · exact ⟨pfx, lost, ht, hflags⟩

theorem Steady.downstreamDel (h : s.Steady kind)
    (hb : s.Balanced kind w (.downstreamDel ip)) :
    (s.downstreamDel w ip).Steady kind := by
  obtain ⟨pfx, lost, ht, hflags⟩ := h
  rw [Lan.downstreamDel]
  split
  · rename_i hdown
    dsimp only
    split
    · rename_i hup
      exact ht.wanDownFlags hflags (fun _ _ => rfl)
        (fun ip' hne => Function.update_of_ne hne _ _) (hb hdown hup)
    · rename_i hup
      refine ⟨pfx, lost, ht.withFlags _ _, fun hp => ?_⟩
      have hne : IpType.v6 ≠ ip := fun heq => hup (heq ▸ (hflags hp).1)
      exact ⟨(hflags hp).1, (Function.update_of_ne hne _ _).trans (hflags hp).2⟩
  · exact ⟨pfx, lost, ht, hflags⟩

theorem Steady.checkSwRouting (hA : alloc.Grants) (h : s.Steady kind) :
    (s.checkSwRouting alloc w).Steady kind := by
  obtain ⟨pfx, lost, ht, hflags⟩ := h
  refine ⟨pfx, lost, ht.checkSwRouting hA, ?_⟩
  rw [checkSwRouting_frame.isUpstreamSet, checkSwRouting_frame.isDownstreamSet]
  exact hflags

theorem Steady.noteUpstream (h : s.Steady kind) : (s.noteUpstream w).Steady kind := by
  obtain ⟨pfx, lost, ht, hflags⟩ := h
  exact ⟨pfx, lost, ht.withFlags _ _, fun hp =>
    ⟨(Bool.or_eq_true _ _).mpr (.inr (hflags hp).1), (hflags hp).2⟩⟩

theorem Steady.handleAddrEvt (hA : alloc.Grants) (h : s.Steady kind)
    (hkind : kind ≠ .oduBridge) {a : Addr} (ha : s.wantsAddr a = true) :
    (if (s.handleAddrEvt alloc a).1 then
        (s.handleAddrEvt alloc a).2.addDummyPrivateSubnetFltRule alloc a.ipType
      else (s.handleAddrEvt alloc a).2).Steady kind := by
  obtain ⟨pfx, lost, ht, hflags⟩ := h
  cases a with
  | v4 addr =>
    have hip : s.ipType.has .v4 = false := by
      rw [wantsAddr] at ha
      cases hty : s.ipType <;> simp [hty, Addr.ipType] at ha <;> rfl
    exact ⟨pfx, lost, ht.addrV4 hA hkind hip, hflags⟩
  | v6 addr =>
    have hsame : (if (s.handleAddrEvt alloc (.v6 addr)).1 then
        (s.handleAddrEvt alloc (.v6 addr)).2.addDummyPrivateSubnetFltRule alloc
          (Addr.v6 addr).ipType
        else (s.handleAddrEvt alloc (.v6 addr)).2) =
        (s.handleAddrEvt alloc (.v6 addr)).2 := ite_self _
    rw [hsame]
    refine ⟨pfx, lost, ht.addrV6 hA hkind, ?_⟩
    rw [handleAddrEvt_flags.1, handleAddrEvt_flags.2]
    exact hflags

theorem Steady.addrAdd (hA : alloc.Grants) (h : s.Steady kind) {a : Addr} :
    (s.addrAdd alloc kind w a).Steady kind := by
  rw [Lan.addrAdd]
  split
  · exact h
  split
  · rename_i hkind
    subst hkind
    obtain ⟨pfx, lost, ht, hflags⟩ := h
    obtain ⟨lost', ht'⟩ := ht.addrAddBridge hA (a := a)
    refine ⟨pfx, lost', ht', fun hp => ?_⟩
    exact absurd (ht.prefixV6 hp) (by simp [ht.bridge rfl, IfaceIpType.has])
  rename_i hkind
  split
  · rename_i ha
    have haddr := h.handleAddrEvt hA hkind ha
    dsimp only
    split
    · rename_i hconf
      rw [if_pos hconf] at haddr
      exact haddr.noteUpstream.checkSwRouting hA
    · rename_i hconf
      rw [if_neg hconf] at haddr
      exact haddr
  · split
    · exact h
    · exact h.checkSwRouting hA

theorem eventCallback_accounted (hA : alloc.Grants) {ev : Event}
    (h : s.isActive = true → s.Steady kind) (hacc : s.Accounted)
    (hb : s.isActive = true → s.Balanced kind w ev) :
    ((s.eventCallback alloc kind w ev).isActive = true →
        (s.eventCallback alloc kind w ev).Steady kind) ∧
      (s.eventCallback alloc kind w ev).Accounted := by
  have hsteady : ∀ {t : Lan}, t.Steady kind →
      (t.isActive = true → t.Steady kind) ∧ t.Accounted :=
    fun ht => ⟨fun _ => ht, have ⟨_, _, ht, _⟩ := ht; ht.accounted⟩
  unfold Lan.eventCallback
  split
  · rename_i hact
    have h := h hact
    have hb := hb hact
    cases ev with
    | addrAdd a => exact hsteady (h.addrAdd hA)
    | wanUpTether ip isSta => exact hsteady (h.wanUpTether hA)
    | wanDownTether ip isSta => exact hsteady (h.wanDownTether hb)
    | downstreamAdd ip => exact hsteady (h.downstreamAdd hA)
    | downstreamDel ip => exact hsteady (h.downstreamDel hb)
    | swRoutingEnable =>
      obtain ⟨pfx, lost, ht, hflags⟩ := h
      refine hsteady ⟨pfx, lost, ht.handleSoftwareRoutingEnable hA, ?_⟩
      rw [handleSoftwareRoutingEnable_frame.isUpstreamSet,
        handleSoftwareRoutingEnable_frame.isDownstreamSet]
      exact hflags
    | swRoutingDisable =>
      obtain ⟨pfx, lost, ht, hflags⟩ := h
      refine hsteady ⟨pfx, lost, ht.handleSoftwareRoutingDisable, ?_⟩
      rw [handleSoftwareRoutingDisable_frame.isUpstreamSet,
        handleSoftwareRoutingDisable_frame.isDownstreamSet]
      exact hflags
    | linkDown =>
      obtain ⟨pfx, lost, ht, -⟩ := h
      obtain ⟨hlive, hgranted, hzero⟩ := ht.handleDownEvt hb
      refine ⟨nofun, ⟨fun ip => ?_, hgranted, fun _ => hzero⟩⟩
      rw [hzero, hlive]
      rfl
  · exact ⟨h, hacc⟩

theorem init_accounted (kind : IfaceKind) (w : World) (g : Nat) :
    (Lan.init kind w g).Accounted :=
  (tallied_init kind w g).accounted

@[simp] theorem run_concat (evs : List (World × Event)) (e : World × Event) :
    s.run alloc kind (evs ++ [e]) =
      (s.run alloc kind evs).eventCallback alloc kind e.1 e.2 := by
  rw [run, List.foldl_append]
  rfl

/-- In a run whose events meet their conditions the rules are counted
throughout. -/
theorem run_accounted (hA : alloc.Grants) (kind : IfaceKind) (w : World) (g : Nat)
    {evs : List (World × Event)}
    (hb : ∀ pre e, pre ++ [e] <+: evs →
      ((Lan.init kind w g).run alloc kind pre).isActive = true →
        ((Lan.init kind w g).run alloc kind pre).Balanced kind e.1 e.2) :
    ∀ pre, pre <+: evs → ((Lan.init kind w g).run alloc kind pre).Accounted := by
  have hrun : ∀ pre, pre <+: evs →
      (((Lan.init kind w g).run alloc kind pre).isActive = true →
        ((Lan.init kind w g).run alloc kind pre).Steady kind) ∧
      ((Lan.init kind w g).run alloc kind pre).Accounted := by
    intro pre
    induction pre using List.reverseRecOn with
    | nil =>
      intro _
      exact ⟨fun _ => ⟨false, 0, tallied_init kind w g, nofun⟩,
        init_accounted kind w g⟩
    | append_singleton pre e ih =>
      intro hpre
      obtain ⟨hsteady, hacc⟩ := ih ((List.prefix_append pre [e]).trans hpre)
      rw [run_concat]
      exact eventCallback_accounted hA hsteady hacc (hb pre e hpre)
  exact fun pre hpre => (hrun pre hpre).2

end Lan

/-- A modem backhaul with two extended properties for each family. -/
def modemWorld (up : IpType → Bool) : World where
  isWanUp := up
  backhaulIsStaMode := false
  ipaSwRtEnable := false
  numExtProps _ := ⟨2, by decide⟩

/-- An interface is offloaded, stops being so, and goes down. -/
def upAndDown : List (World × Event) :=
  [(modemWorld fun _ => false, .addrAdd (.v4 0xC0A80101)),
    (modemWorld fun _ => false, .downstreamAdd .v4),
    (modemWorld fun _ => false, .wanUpTether .v4 false),
    (modemWorld fun _ => false, .wanDownTether .v4 false),
    (modemWorld fun _ => false, .linkDown)]

theorem upAndDown_accounted :
    ((Lan.init .lan (modemWorld fun _ => false) 0).run nextHandle .lan
      upAndDown).Accounted := by
  refine Lan.run_accounted nextHandle_grants .lan _ 0
    (forall_concat_of_take fun k hk _ => ?_) upAndDown List.prefix_rfl
  match k, hk with
  | 0, _ => trivial
  | 1, _ => trivial
  | 2, _ => trivial
  | 3, _ => exact fun _ _ _ => ⟨.inl ⟨rfl, rfl⟩, nofun⟩
  | 4, _ =>
    show Lan.DownBalanced _ _ _
    rw [Lan.DownBalanced, if_neg (by decide)]
    rintro (_ | _)
    · exact ⟨⟨by decide, by decide⟩, nofun⟩
    · exact ⟨⟨by decide, by decide⟩, fun _ => by unfold Lan.PrefixInstalled; decide⟩

/-- The upstream is up, but there is no downstream when the interface goes
down: a rule is counted off that was never there. -/
theorem noDownstream_drift :
    ¬ ((Lan.init .lan (modemWorld fun _ => false) 0).run nextHandle .lan
      [(modemWorld fun _ => false, .addrAdd (.v4 0xC0A80101)),
        (modemWorld fun _ => false, .wanUpTether .v4 false),
        (modemWorld fun ip => ip = .v4, .linkDown)]).Accounted := by
  intro h
  exact absurd (h.closed (by decide) .v4) (by decide)

end Axon7.Tether
