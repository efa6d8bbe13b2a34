import Axon7.Wan.Frame

/-!
# The firewall of a station

The rules of a station's firewall are made and deleted for each family, and all
come from one file that is read again each time. What is deleted with the IPv6
rules depends on what was read last, for either family; and each family has room
for fifty handles, where an entry may take two.
-/

namespace Axon7.Wan

open Axon7.Lib
open Axon7.Tether (IpType)

/-! ## Handles of the firewall -/

/-- The places of `firewall_hdl_v4` and `_v6`, `dft_wan_fl_hdl` and the rule for
fragments. -/
def Place.isFirewall : Place → Bool
  | .firewall _ _ | .dftWanFl _ | .ipv6FragFirewall => true
  | _ => false

theorem Place.res_of_isFirewall {p : Place} (h : p.isFirewall = true) :
    ∃ ip, p.res = .flt ip := by
  cases p with
  | firewall ip n => exact ⟨ip, rfl⟩
  | dftWanFl n =>
    rw [Place.res]
    split
    · exact ⟨.v4, rfl⟩
    · exact ⟨.v6, rfl⟩
  | ipv6FragFirewall => exact ⟨.v6, rfl⟩
  | dftRtV4 | dftRtV6 _ | wanRoute _ _ | wanRouteV6A5 | hdrDummyV6 | hdrProcDummyV6
  | dftFl _ _ | ipv6DestFlt _ | clientHdr _ _ | clientRt _ _ =>
    exact absurd h Bool.false_ne_true

namespace Iface

/-- What is installed, with its handle, for a place. -/
def entry (i : Iface) (p : Place) : (Res × Nat) × (Nat × Place) :=
  ((p.res, i.hdl p), (i.conf.ipaIfNum, p))

/-- The firewall rules of the instance that are installed are those of the places, by
the handles that it has there. -/
structure FirewallAt (i : Iface) (g : Statics) (ps : Set Place) : Prop where
  keyed : g.kernel.Keyed
  tracks : g.kernel.Tracks (fun r => r.1 = i.conf.ipaIfNum ∧ r.2.isFirewall = true)
    (i.entry '' ps)
  ne_zero : ∀ p ∈ ps, i.hdl p ≠ 0

namespace FirewallAt

variable {alloc : Alloc} {i j : Iface} {g : Statics} {ps : Set Place}

theorem of_eq (h : i.FirewallAt g ps) (hhdl : j.hdl = i.hdl) (hconf : j.conf = i.conf)
    {g' : Statics} (hk : g'.kernel = g.kernel) : j.FirewallAt g' ps := by
  have hentry : j.entry = i.entry := by
    funext p
    rw [entry, entry, hhdl, hconf]
  refine ⟨hk ▸ h.keyed, ?_, hhdl ▸ h.ne_zero⟩
  rw [hk, hentry, hconf]
  exact h.tracks

theorem isFirewall (h : i.FirewallAt g ps) {p : Place} (hp : p ∈ ps) :
    p.isFirewall = true :=
  ((h.tracks (i.entry p)).mpr ⟨p, hp, rfl⟩).2.2

theorem add_place (h : i.FirewallAt g ps) (hA : alloc.Grants) {q : Place}
    (hq : q.isFirewall = true) (hnew : q ∉ ps) :
    let x := i.addAt alloc [q] g
    x.1.FirewallAt x.2 (ps ∪ {q}) := by
  have hfresh := hA.fresh g.kernel q.res
  have hold {p : Place} (hp : p ∈ ps) : p ≠ q := fun heq => hnew (heq ▸ hp)
  refine ⟨h.keyed.add hfresh, ?_, ?_⟩
  · have hadd := h.tracks.add_mem (x := (q.res, alloc g.kernel q.res))
      (r := (i.conf.ipaIfNum, q)) ⟨rfl, hq⟩
    intro e
    refine (hadd e).trans ?_
    rw [Set.mem_insert_iff, Set.image_union, Set.image_singleton, Set.mem_union, or_comm,
      Set.mem_singleton_iff]
    refine or_congr ?_ ?_
    · refine ⟨fun ⟨p, hp, heq⟩ => ⟨p, hp, ?_⟩, fun ⟨p, hp, heq⟩ => ⟨p, hp, ?_⟩⟩
      · rw [← heq, entry, entry]
        dsimp only [addAt]
        rw [Function.update_of_ne (hold hp)]
      · rw [← heq, entry, entry]
        dsimp only [addAt]
        rw [Function.update_of_ne (hold hp)]
    · rw [entry]
      dsimp only [addAt]
      rw [Function.update_self]
  · intro p hp
    dsimp only [addAt]
    obtain hp | hp := hp
    · rw [Function.update_of_ne (hold hp)]
      exact h.ne_zero p hp
    · obtain rfl := Set.mem_singleton_iff.mp hp
      rw [Function.update_self]
      exact hA.ne_zero _ _

theorem addAt (h : i.FirewallAt g ps) (hA : alloc.Grants) {qs : List Place}
    (hqs : ∀ q ∈ qs, q.isFirewall = true) (hnodup : qs.Nodup) (hnew : ∀ q ∈ qs, q ∉ ps) :
    (i.addAt alloc qs g).1.FirewallAt (i.addAt alloc qs g).2 (ps ∪ {q | q ∈ qs}) := by
  induction qs generalizing i g ps with
  | nil =>
    have hempty : ps ∪ {q | q ∈ ([] : List Place)} = ps := by simp
    rw [hempty]
    exact h
  | cons q qs ih =>
    obtain ⟨hq, hnodup⟩ := List.nodup_cons.mp hnodup
    have hone := h.add_place hA (hqs q List.mem_cons_self) (hnew q List.mem_cons_self)
    have hrest := ih hone (fun q hq => hqs q (List.mem_cons_of_mem _ hq)) hnodup
      fun p hp hmem => hmem.elim (hnew p (List.mem_cons_of_mem _ hp)) fun heq => hq (heq ▸ hp)
    have hset : ps ∪ {q} ∪ {p | p ∈ qs} = ps ∪ {p | p ∈ q :: qs} := by
      ext p
      simp only [Set.mem_union, Set.mem_singleton_iff, Set.mem_ofPred_eq, List.mem_cons,
        or_assoc]
    rw [hset] at hrest
    exact hrest

theorem addAt_other (h : i.FirewallAt g ps) (hA : alloc.Grants) {qs : List Place}
    (hqs : ∀ q ∈ qs, q.isFirewall = false) :
    (i.addAt alloc qs g).1.FirewallAt (i.addAt alloc qs g).2 ps := by
  induction qs generalizing i g with
  | nil => exact h
  | cons q qs ih =>
    have hq := hqs q List.mem_cons_self
    have hne {p : Place} (hp : p ∈ ps) : p ≠ q := by
      intro heq
      have hfw := h.isFirewall hp
      rw [heq, hq] at hfw
      exact absurd hfw Bool.false_ne_true
    refine ih ⟨h.keyed.add (hA.fresh g.kernel q.res), ?_, fun p hp => ?_⟩
      fun p hp => hqs p (List.mem_cons_of_mem _ hp)
    · have hadd := h.tracks.add_other (x := (q.res, alloc g.kernel q.res))
        (r := (i.conf.ipaIfNum, q)) (fun hsel => by simp [hq] at hsel)
      have hsame : Iface.entry { i with
          hdl := Function.update i.hdl q (alloc g.kernel q.res) } '' ps = i.entry '' ps := by
        refine Set.image_congr fun p hp => ?_
        rw [entry, entry]
        dsimp only
        rw [Function.update_of_ne (hne hp)]
      rw [hsame]
      exact hadd
    · dsimp only
      rw [Function.update_of_ne (hne hp)]
      exact h.ne_zero p hp

theorem delAt (h : i.FirewallAt g ps) {qs : List Place} (hnodup : qs.Nodup)
    (hqs : ∀ q ∈ qs, q ∈ ps) : i.FirewallAt (i.delAt qs g) (ps \ {q | q ∈ qs}) := by
  induction qs generalizing g ps with
  | nil =>
    have hempty : ps \ {q | q ∈ ([] : List Place)} = ps := by simp
    rw [hempty]
    exact h
  | cons q qs ih =>
    obtain ⟨hq, hnodup⟩ := List.nodup_cons.mp hnodup
    have hmem := hqs q List.mem_cons_self
    have hone : i.FirewallAt (i.delAt [q] g) (ps \ {q}) := by
      have hkernel : (i.delAt [q] g).kernel = g.kernel.del (q.res, i.hdl q) :=
        if_neg (h.ne_zero q hmem)
      refine ⟨hkernel ▸ h.keyed.del _, ?_, fun p hp => h.ne_zero p hp.1⟩
      have hdel := h.tracks.del_mem h.keyed (x := (q.res, i.hdl q)) ⟨q, hmem, rfl⟩
      have hinj : Function.Injective i.entry := fun p p' heq =>
        congrArg (fun e : (Res × Nat) × (Nat × Place) => e.2.2) heq
      rw [hkernel, Set.image_sdiff hinj, Set.image_singleton]
      exact hdel
    have hrest := ih hone hnodup fun p hp =>
      ⟨hqs p (List.mem_cons_of_mem _ hp), fun heq => hq (heq ▸ hp)⟩
    have hset : (ps \ {q}) \ {p | p ∈ qs} = ps \ {p | p ∈ q :: qs} := by
      ext p
      simp only [Set.mem_sdiff, Set.mem_singleton_iff, Set.mem_ofPred_eq, List.mem_cons,
        not_or, and_assoc]
    rw [hset] at hrest
    exact hrest

theorem delAt_other (h : i.FirewallAt g ps) {qs : List Place}
    (hqs : ∀ q ∈ qs, ∀ ip, q.res ≠ .flt ip) : i.FirewallAt (i.delAt qs g) ps := by
  induction qs generalizing g with
  | nil => exact h
  | cons q qs ih =>
    have hone : i.FirewallAt (i.delAt [q] g) ps := by
      by_cases hzero : i.hdl q = 0
      · exact h.of_eq rfl rfl (if_pos hzero)
      · have hkernel : (i.delAt [q] g).kernel = g.kernel.del (q.res, i.hdl q) :=
          if_neg hzero
        refine ⟨hkernel ▸ h.keyed.del _, ?_, h.ne_zero⟩
        rw [hkernel]
        refine h.tracks.del_other fun e he heq => ?_
        obtain ⟨p, hp, rfl⟩ := he
        obtain ⟨ip, hip⟩ := Place.res_of_isFirewall (h.isFirewall hp)
        exact hqs q List.mem_cons_self ip ((congrArg Prod.fst heq).symm.trans hip)
    exact ih hone fun p hp => hqs p (List.mem_cons_of_mem _ hp)

end FirewallAt

/-! ## Rules made and deleted -/

/-- The places of the first entries. -/
def entryPlaces (ip : IpType) (n : Nat) : List Place := (List.range n).map (.firewall ip)

/-- The default rules, and with IPv6 the one for ICMP. -/
def dftPlaces : IpType → List Place
  | .v4 => [.dftWanFl 0]
  | .v6 => [.dftWanFl 2, .dftWanFl 1]

def fragPlaces (frag : Bool) : List Place := if frag then [.ipv6FragFirewall] else []

/-- What `config_dft_firewall_rules` makes. -/
def made (ip : IpType) (fw : FirewallConf) : List Place :=
  fragPlaces (fw.hasFragRule ip) ++ entryPlaces ip (fw.split ip).length ++ dftPlaces ip

theorem mem_dftPlaces {ip : IpType} {q : Place} (hq : q ∈ dftPlaces ip) :
    ∃ n, q = .dftWanFl n := by
  cases ip with
  | v4 => exact ⟨0, List.mem_singleton.mp hq⟩
  | v6 =>
    obtain rfl | rfl := List.mem_pair.mp hq
    · exact ⟨2, rfl⟩
    · exact ⟨1, rfl⟩

theorem mem_fragPlaces {frag : Bool} {q : Place} :
    q ∈ fragPlaces frag ↔ frag = true ∧ q = .ipv6FragFirewall := by
  cases frag <;> simp [fragPlaces]

theorem made_isFirewall {ip : IpType} {fw : FirewallConf} {q : Place} (hq : q ∈ made ip fw) :
    q.isFirewall = true := by
  rw [made, List.mem_append, List.mem_append] at hq
  obtain (hq | hq) | hq := hq
  · rw [(mem_fragPlaces.mp hq).2]
    rfl
  · obtain ⟨n, -, rfl⟩ := List.mem_map.mp hq
    rfl
  · obtain ⟨n, rfl⟩ := mem_dftPlaces hq
    rfl

theorem entryPlaces_nodup (ip : IpType) (n : Nat) : (entryPlaces ip n).Nodup :=
  List.Nodup.map (fun _ _ heq => (Place.firewall.inj heq).2) List.nodup_range

theorem made_nodup (ip : IpType) (fw : FirewallConf) : (made ip fw).Nodup := by
  have hfrag : (fragPlaces (fw.hasFragRule ip)).Nodup := by
    rw [fragPlaces]
    split <;> decide
  have hdft : (dftPlaces ip).Nodup := by
    cases ip <;> decide
  rw [made, List.nodup_append, List.nodup_append]
  refine ⟨⟨hfrag, entryPlaces_nodup ip _, fun p hp q hq => ?_⟩, hdft, fun p hp q hq => ?_⟩
  · obtain ⟨n, -, rfl⟩ := List.mem_map.mp hq
    rw [(mem_fragPlaces.mp hp).2]
    exact Place.noConfusion
  · obtain ⟨n, rfl⟩ := mem_dftPlaces hq
    obtain hp | hp := List.mem_append.mp hp
    · rw [(mem_fragPlaces.mp hp).2]
      exact Place.noConfusion
    · obtain ⟨m, -, rfl⟩ := List.mem_map.mp hp
      exact Place.noConfusion

variable {alloc : Alloc} {i : Iface} {g : Statics} {ps : Set Place}

theorem configDftFirewallRules_eq (hrx : i.conf.rx ≠ []) (ip : IpType)
    (fw : FirewallConf) :
    i.configDftFirewallRules alloc ip fw g =
      (let x :=
        if fw.hasFragRule ip then
          ({ (Iface.addAt alloc [.ipv6FragFirewall] { i with firewallConfig := fw } g).1 with
            fragInstalled := true },
            (Iface.addAt alloc [.ipv6FragFirewall] { i with firewallConfig := fw } g).2)
        else ({ i with firewallConfig := fw }, g)
      let y := x.1.addAt alloc (entryPlaces ip (fw.split ip).length) x.2
      Iface.addAt alloc (dftPlaces ip)
        { y.1 with
          numFirewall := Function.update y.1.numFirewall ip
            (y.1.numFirewall ip + (fw.split ip).length) } y.2) := by
  rw [configDftFirewallRules, if_neg hrx]
  cases ip <;> rfl

theorem configDftFirewallRules_made (h : i.FirewallAt g ps) (hA : alloc.Grants)
    (hrx : i.conf.rx ≠ []) (ip : IpType) (fw : FirewallConf)
    (hnew : ∀ q ∈ made ip fw, q ∉ ps) : ∃ hdl k,
    let i' := { i with
      firewallConfig := fw
      fragInstalled := i.fragInstalled || fw.hasFragRule ip
      numFirewall := Function.update i.numFirewall ip
        (i.numFirewall ip + (fw.split ip).length)
      hdl := hdl }
    let g' := { g with kernel := k }
    i.configDftFirewallRules alloc ip fw g = (i', g') ∧
      i'.FirewallAt g' (ps ∪ {q | q ∈ made ip fw}) := by
  have hmade {q : Place} (hq : q ∈ made ip fw) := made_isFirewall hq
  have hnodup := made_nodup ip fw
  rw [made, List.nodup_append, List.nodup_append] at hnodup
  obtain ⟨⟨hfragNodup, hentryNodup, hfragEntry⟩, hdftNodup, hfrontDft⟩ := hnodup
  have hmem {q : Place} : q ∈ made ip fw ↔ (q ∈ fragPlaces (fw.hasFragRule ip) ∨
      q ∈ entryPlaces ip (fw.split ip).length) ∨ q ∈ dftPlaces ip := by
    rw [made, List.mem_append, List.mem_append]
  have hfrag : ∃ hdl k,
      (if fw.hasFragRule ip then
          ({ (Iface.addAt alloc [.ipv6FragFirewall] { i with firewallConfig := fw } g).1 with
            fragInstalled := true },
            (Iface.addAt alloc [.ipv6FragFirewall] { i with firewallConfig := fw } g).2)
        else ({ i with firewallConfig := fw }, g)) =
        ({ i with
            firewallConfig := fw
            fragInstalled := i.fragInstalled || fw.hasFragRule ip
            hdl := hdl }, { g with kernel := k }) ∧
      Iface.FirewallAt { i with hdl := hdl } { g with kernel := k }
        (ps ∪ {q | q ∈ fragPlaces (fw.hasFragRule ip)}) := by
    have hadd := h.addAt hA (fun q hq => hmade (hmem.mpr (.inl (.inl hq)))) hfragNodup
      fun q hq => hnew q (hmem.mpr (.inl (.inl hq)))
    cases hf : fw.hasFragRule ip with
    | false =>
      rw [hf] at hadd
      refine ⟨i.hdl, g.kernel, ?_, hadd⟩
      rw [if_neg Bool.false_ne_true, Bool.or_false]
    | true =>
      rw [hf] at hadd
      exact ⟨_, _, by rw [if_pos rfl, Bool.or_true]; rfl, hadd⟩
  obtain ⟨hdl₁, k₁, heq₁, h₁⟩ := hfrag
  rw [configDftFirewallRules_eq hrx, heq₁]
  dsimp only
  -- the rules of the entries
  have h₂ : Iface.FirewallAt { i with
      firewallConfig := fw
      fragInstalled := i.fragInstalled || fw.hasFragRule ip
      hdl := hdl₁ } { g with kernel := k₁ }
      (ps ∪ {q | q ∈ fragPlaces (fw.hasFragRule ip)}) :=
    h₁.of_eq (by rfl) (by rfl) (by rfl)
  have h₃ := h₂.addAt hA (fun q hq => hmade (hmem.mpr (.inl (.inr hq)))) hentryNodup
    fun q hq hold => hold.elim (hnew q (hmem.mpr (.inl (.inr hq))))
      fun hold => hfragEntry q hold q hq rfl
  obtain ⟨hdl₂, k₂, heq₂⟩ := addAt_frame alloc { i with
      firewallConfig := fw
      fragInstalled := i.fragInstalled || fw.hasFragRule ip
      hdl := hdl₁ } { g with kernel := k₁ } (entryPlaces ip (fw.split ip).length)
  rw [heq₂] at h₃ ⊢
  dsimp only at h₃ ⊢
  -- the default rules
  have h₄ : Iface.FirewallAt { i with
      firewallConfig := fw
      fragInstalled := i.fragInstalled || fw.hasFragRule ip
      numFirewall := Function.update i.numFirewall ip
        (i.numFirewall ip + (fw.split ip).length)
      hdl := hdl₂ } { g with kernel := k₂ }
      (ps ∪ {q | q ∈ fragPlaces (fw.hasFragRule ip)} ∪
        {q | q ∈ entryPlaces ip (fw.split ip).length}) :=
    h₃.of_eq (by rfl) (by rfl) (by rfl)
  have h₅ := h₄.addAt hA (fun q hq => hmade (hmem.mpr (.inr hq))) hdftNodup
    fun q hq hold => by
      obtain (hold | hold) | hold := hold
      · exact hnew q (hmem.mpr (.inr hq)) hold
      · exact hfrontDft q (List.mem_append_left _ hold) q hq rfl
      · exact hfrontDft q (List.mem_append_right _ hold) q hq rfl
  obtain ⟨hdl₃, k₃, heq₃⟩ := addAt_frame alloc { i with
      firewallConfig := fw
      fragInstalled := i.fragInstalled || fw.hasFragRule ip
      numFirewall := Function.update i.numFirewall ip
        (i.numFirewall ip + (fw.split ip).length)
      hdl := hdl₂ } { g with kernel := k₂ } (dftPlaces ip)
  rw [heq₃] at h₅ ⊢
  refine ⟨hdl₃, k₃, rfl, ?_⟩
  have hset : ps ∪ {q | q ∈ fragPlaces (fw.hasFragRule ip)} ∪
      {q | q ∈ entryPlaces ip (fw.split ip).length} ∪ {q | q ∈ dftPlaces ip} =
      ps ∪ {q | q ∈ made ip fw} := by
    ext q
    simp only [Set.mem_union, Set.mem_ofPred_eq, hmem, or_assoc]
  rw [← hset]
  exact h₅

/-- The rule for fragments goes with the IPv6 rules if the content read last has an
attribute that it is for. -/
def dropsFrag (ip : IpType) (i : Iface) : Bool :=
  ip = .v6 && i.fragInstalled && i.firewallConfig.checkAttrMask

/-- What `del_dft_firewall_rules` deletes. -/
def deleted (ip : IpType) (i : Iface) : List Place :=
  entryPlaces ip (i.numFirewall ip) ++ (dftPlaces ip).reverse ++ fragPlaces (i.dropsFrag ip)

theorem delAt_append (ps qs : List Place) (i : Iface) (g : Statics) :
    i.delAt (ps ++ qs) g = i.delAt qs (i.delAt ps g) := by
  rw [delAt, delAt, delAt, List.foldl_append]

theorem delDftFirewallRules_made (h : i.FirewallAt g ps) (hrx : i.conf.rx ≠ [])
    {ip : IpType} (hon : i.active ip = true) (hnum : i.numFirewall ip ≤ maxFirewallEntries)
    (hin : ∀ q ∈ i.deleted ip, q ∈ ps) : ∃ k,
    let i' := { i with
      numFirewall := Function.update i.numFirewall ip 0
      fragInstalled := i.fragInstalled && !i.dropsFrag ip }
    let g' := { g with kernel := k }
    i.delDftFirewallRules ip g = (i', g') ∧
      i'.FirewallAt g' (ps \ {q | q ∈ i.deleted ip}) := by
  have hnodup : (i.deleted ip).Nodup := by
    have hdft : (dftPlaces ip).reverse.Nodup := by
      cases ip <;> decide
    have hfrag : (fragPlaces (i.dropsFrag ip)).Nodup := by
      rw [fragPlaces]
      split <;> decide
    rw [deleted, List.nodup_append, List.nodup_append]
    refine ⟨⟨entryPlaces_nodup ip _, hdft, fun p hp q hq => ?_⟩, hfrag, fun p hp q hq => ?_⟩
    · obtain ⟨n, -, rfl⟩ := List.mem_map.mp hp
      obtain ⟨m, rfl⟩ := mem_dftPlaces (List.mem_reverse.mp hq)
      exact Place.noConfusion
    · obtain ⟨-, rfl⟩ := mem_fragPlaces.mp hq
      obtain hp | hp := List.mem_append.mp hp
      · obtain ⟨n, -, rfl⟩ := List.mem_map.mp hp
        exact Place.noConfusion
      · obtain ⟨m, rfl⟩ := mem_dftPlaces (List.mem_reverse.mp hp)
        exact Place.noConfusion
  have hdel := h.delAt hnodup hin
  refine ⟨(i.delAt (i.deleted ip) g).kernel, ?_, hdel.of_eq (by rfl) (by rfl) (by rfl)⟩
  rw [delDftFirewallRules, if_neg (by simp [hrx, hon]), if_neg (by omega)]
  cases ip with
  | v4 =>
    have hdrops : i.dropsFrag .v4 = false := rfl
    rw [deleted, hdrops, fragPlaces, if_neg Bool.false_ne_true, List.append_nil,
      delAt_append, Bool.not_false, Bool.and_true]
    rfl
  | v6 =>
    rw [deleted, delAt_append, delAt_append]
    by_cases hdrops : (i.fragInstalled && i.firewallConfig.checkAttrMask) = true
    · have heq : i.dropsFrag .v6 = true := hdrops
      dsimp only
      rw [if_pos hdrops, heq, Bool.not_true, Bool.and_false]
      rfl
    · have heq : i.dropsFrag .v6 = false := Bool.eq_false_iff.mpr hdrops
      dsimp only
      rw [if_neg hdrops, heq, Bool.not_false, Bool.and_true]
      rfl

/-! ## What the handles name -/

/-- The places whose handles are in use, where the families `on` have rules: the first
`num_firewall_v4` and `num_firewall_v6` of the entries, `dft_wan_fl_hdl`, and the rule for
fragments. -/
def names (on : IpType → Bool) (i : Iface) : Set Place
  | .firewall ip n => n < i.numFirewall ip
  | .dftWanFl n =>
    i.conf.rx ≠ [] ∧ if n = 0 then on .v4 = true else (n = 1 ∨ n = 2) ∧ on .v6 = true
  | .ipv6FragFirewall => i.fragInstalled = true
  | _ => False

/-- How many these are of a family. -/
def numRules (on : IpType → Bool) (i : Iface) (ip : IpType) : Nat :=
  i.numFirewall ip + (if i.conf.rx ≠ [] ∧ on ip = true then (dftPlaces ip).length else 0) +
    if ip = .v6 ∧ i.fragInstalled = true then 1 else 0

/-- What `increaseFltRuleCount` adds while the rules are made. -/
def configCount (ip : IpType) (fw : FirewallConf) (i : Iface) (count : IpType → Int) :
    IpType → Int :=
  if i.conf.rx = [] then count
  else Function.update count ip (count ip + (made ip fw).length)

/-- What `decreaseFltRuleCount` takes off while they are deleted. -/
def delCount (ip : IpType) (i : Iface) (count : IpType → Int) : IpType → Int :=
  if i.conf.rx = [] ∨ i.active ip = false ∨ maxFirewallEntries < i.numFirewall ip then count
  else Function.update count ip (count ip - (i.deleted ip).length)

/-- The families `on` have their rules, and nothing else is installed or counted. -/
structure Tidy (base : IpType → Int) (on : IpType → Bool) (i : Iface) (g : Statics)
    (count : IpType → Int) : Prop where
  installed : i.FirewallAt g (i.names on)
  idle : ∀ ip, on ip = false ∨ i.conf.rx = [] → i.numFirewall ip = 0
  noFrag : on .v6 = false ∨ i.conf.rx = [] → i.fragInstalled = false
  within : ∀ ip, i.numFirewall ip ≤ maxFirewallEntries
  counted : ∀ ip, count ip = base ip + i.numRules on ip

section Tidy

variable {base : IpType → Int} {on : IpType → Bool} {count : IpType → Int} {ip : IpType}

theorem mem_entryPlaces {ip' : IpType} {n m : Nat} :
    Place.firewall ip' m ∈ entryPlaces ip n ↔ ip' = ip ∧ m < n := by
  rw [entryPlaces, List.mem_map]
  constructor
  · intro ⟨k, hk, heq⟩
    obtain ⟨rfl, rfl⟩ := Place.firewall.inj heq
    exact ⟨rfl, List.mem_range.mp hk⟩
  · intro ⟨hip, hm⟩
    exact ⟨m, List.mem_range.mpr hm, by rw [hip]⟩

theorem mem_made {q : Place} {fw : FirewallConf} : q ∈ made ip fw ↔
    match q with
    | .firewall ip' n => ip' = ip ∧ n < (fw.split ip).length
    | .dftWanFl n => if n = 0 then ip = .v4 else (n = 1 ∨ n = 2) ∧ ip = .v6
    | .ipv6FragFirewall => fw.hasFragRule ip = true
    | _ => False := by
  rw [made, List.mem_append, List.mem_append, mem_fragPlaces]
  cases q with
  | firewall ip' n =>
    rw [mem_entryPlaces]
    cases ip <;> simp [dftPlaces]
  | dftWanFl n =>
    cases ip <;> simp [dftPlaces, entryPlaces]
    grind
  | ipv6FragFirewall => cases ip <;> simp [dftPlaces, entryPlaces]
  | dftRtV4 | dftRtV6 _ | wanRoute _ _ | wanRouteV6A5 | hdrDummyV6 | hdrProcDummyV6
  | dftFl _ _ | ipv6DestFlt _ | clientHdr _ _ | clientRt _ _ =>
    cases ip <;> simp [dftPlaces, entryPlaces]

theorem mem_deleted {q : Place} : q ∈ i.deleted ip ↔
    match q with
    | .firewall ip' n => ip' = ip ∧ n < i.numFirewall ip
    | .dftWanFl n => if n = 0 then ip = .v4 else (n = 1 ∨ n = 2) ∧ ip = .v6
    | .ipv6FragFirewall => i.dropsFrag ip = true
    | _ => False := by
  rw [deleted, List.mem_append, List.mem_append, List.mem_reverse, mem_fragPlaces]
  cases q with
  | firewall ip' n =>
    rw [mem_entryPlaces]
    cases ip <;> simp [dftPlaces]
  | dftWanFl n =>
    cases ip <;> simp [dftPlaces, entryPlaces]
    grind
  | ipv6FragFirewall => cases ip <;> simp [dftPlaces, entryPlaces]
  | dftRtV4 | dftRtV6 _ | wanRoute _ _ | wanRouteV6A5 | hdrDummyV6 | hdrProcDummyV6
  | dftFl _ _ | ipv6DestFlt _ | clientHdr _ _ | clientRt _ _ =>
    cases ip <;> simp [dftPlaces, entryPlaces]

theorem names_congr {on' : IpType → Bool} {j : Iface} (hrx : j.conf = i.conf)
    (hnum : j.numFirewall = i.numFirewall) (hfrag : j.fragInstalled = i.fragInstalled)
    (hon : i.conf.rx ≠ [] → on' = on) : j.names on' = i.names on := by
  ext q
  change j.names on' q ↔ i.names on q
  cases q with
  | dftWanFl n =>
    rw [names, names, hrx]
    refine and_congr_right fun h => ?_
    rw [hon h]
  | firewall ip n => rw [names, names, hnum]
  | ipv6FragFirewall => rw [names, names, hfrag]
  | dftRtV4 | dftRtV6 _ | wanRoute _ _ | wanRouteV6A5 | hdrDummyV6 | hdrProcDummyV6
  | dftFl _ _ | ipv6DestFlt _ | clientHdr _ _ | clientRt _ _ => exact Iff.rfl

theorem Tidy.of_noRx (h : i.Tidy base on g count) (hrx : i.conf.rx = [])
    (on' : IpType → Bool) : i.Tidy base on' g count := by
  have hnames : i.names on' = i.names on := names_congr rfl rfl rfl fun hne => absurd hrx hne
  refine ⟨hnames ▸ h.installed, fun ip _ => h.idle ip (.inr hrx),
    fun _ => h.noFrag (.inr hrx), h.within, fun ip => ?_⟩
  rw [h.counted ip]
  simp [numRules, hrx]

theorem length_made (ip : IpType) (fw : FirewallConf) : (made ip fw).length =
    (fw.split ip).length + (dftPlaces ip).length + if fw.hasFragRule ip then 1 else 0 := by
  rw [made, List.length_append, List.length_append, entryPlaces, List.length_map,
    List.length_range, fragPlaces]
  split <;> simp only [List.length_singleton, List.length_nil] <;> omega

theorem hasFragRule_v4 (fw : FirewallConf) : fw.hasFragRule .v4 = false := rfl

theorem Tidy.config (h : i.Tidy base on g count) (hA : alloc.Grants) (hoff : on ip = false)
    {fw : FirewallConf} (hfw : (fw.split ip).length ≤ maxFirewallEntries) :
    Tidy base (Function.update on ip true) (i.configDftFirewallRules alloc ip fw g).1
      (i.configDftFirewallRules alloc ip fw g).2 (i.configCount ip fw count) := by
  have hnum := h.idle ip (.inl hoff)
  have hfrag : ip = .v6 → i.fragInstalled = false := fun hip =>
    h.noFrag (.inl (hip ▸ hoff))
  by_cases hrx : i.conf.rx = []
  · rw [configDftFirewallRules, if_pos hrx, configCount, if_pos hrx]
    exact h.of_noRx hrx _
  have hnew : ∀ q ∈ made ip fw, q ∉ i.names on := by
    intro q hq hold
    rw [mem_made] at hq
    change i.names on q at hold
    cases q <;> simp only [names] at hq hold
    case firewall ip' n =>
      obtain ⟨rfl, -⟩ := hq
      rw [hnum] at hold
      exact Nat.not_lt_zero n hold
    case dftWanFl n =>
      cases ip <;> grind
    case ipv6FragFirewall =>
      cases ip with
      | v4 => exact absurd hq Bool.false_ne_true
      | v6 =>
        rw [hfrag rfl] at hold
        exact absurd hold Bool.false_ne_true
  obtain ⟨hdl, k, heq, hat⟩ := configDftFirewallRules_made h.installed hA hrx ip fw hnew
  rw [heq, configCount, if_neg hrx]
  dsimp only at hat ⊢
  refine ⟨?_, ?_, ?_, ?_, ?_⟩
  · have hnames : ∀ q, Iface.names (Function.update on ip true)
        { i with
          firewallConfig := fw
          fragInstalled := i.fragInstalled || fw.hasFragRule ip
          numFirewall := Function.update i.numFirewall ip
            (i.numFirewall ip + (fw.split ip).length)
          hdl := hdl } q ↔ q ∈ i.names on ∪ {q | q ∈ made ip fw} := by
      intro q
      rw [Set.mem_union, Set.mem_ofPred_eq, mem_made]
      change _ ↔ i.names on q ∨ _
      cases q <;> simp only [names, or_false]
      case firewall ip' n =>
        by_cases hip : ip' = ip
        · subst hip
          rw [Function.update_self, hnum, Nat.zero_add]
          simp
        · rw [Function.update_of_ne hip]
          simp [hip]
      case dftWanFl n => cases ip <;> grind
      case ipv6FragFirewall => rw [Bool.or_eq_true]
    rw [← Set.ext hnames] at hat
    exact hat
  · intro ip' hip'
    dsimp only at hip' ⊢
    have hne : ip' ≠ ip := by
      intro heq
      rw [heq, Function.update_self] at hip'
      exact hip'.elim (fun h => absurd h (by decide)) hrx
    rw [Function.update_of_ne hne] at hip' ⊢
    exact h.idle ip' hip'
  · intro hip'
    dsimp only at hip' ⊢
    cases ip with
    | v4 =>
      rw [hasFragRule_v4, Bool.or_false]
      rw [Function.update_of_ne (by decide)] at hip'
      exact h.noFrag hip'
    | v6 =>
      rw [Function.update_self] at hip'
      exact hip'.elim (fun h => absurd h (by decide)) fun h => absurd h hrx
  · intro ip'
    dsimp only
    by_cases hip : ip' = ip
    · rw [hip, Function.update_self, hnum]
      omega
    · rw [Function.update_of_ne hip]
      exact h.within ip'
  · intro ip'
    by_cases hip : ip' = ip
    · subst hip
      have hbefore : i.numRules on ip' = 0 := by
        cases ip' with
        | v4 => simp [numRules, hnum, hoff]
        | v6 => simp [numRules, hnum, hoff, hfrag rfl]
      rw [Function.update_self, h.counted, hbefore, length_made]
      cases ip' with
      | v4 => simp [numRules, hnum, hrx, hasFragRule_v4]
      | v6 => simp [numRules, hnum, hrx, hfrag rfl]
    · rw [Function.update_of_ne hip, h.counted]
      cases ip' <;> cases ip <;> simp [numRules, hasFragRule_v4] at hip ⊢

theorem length_deleted (ip : IpType) (i : Iface) : (i.deleted ip).length =
    i.numFirewall ip + (dftPlaces ip).length + if i.dropsFrag ip then 1 else 0 := by
  rw [deleted, List.length_append, List.length_append, entryPlaces, List.length_map,
    List.length_range, List.length_reverse, fragPlaces]
  split <;> rfl

theorem dropsFrag_v4 (i : Iface) : i.dropsFrag .v4 = false := rfl

theorem Tidy.del (h : i.Tidy base on g count) (hon : on ip = true)
    (hactive : i.active ip = true)
    (hdrop : ip = .v6 → i.fragInstalled = true → i.firewallConfig.checkAttrMask = true) :
    Tidy base (Function.update on ip false) (i.delDftFirewallRules ip g).1
      (i.delDftFirewallRules ip g).2 (i.delCount ip count) := by
  by_cases hrx : i.conf.rx = []
  · rw [delDftFirewallRules, if_pos (.inl hrx), delCount, if_pos (.inl hrx)]
    exact h.of_noRx hrx _
  have hdrops : ip = .v6 → i.dropsFrag ip = i.fragInstalled := by
    intro hip
    subst hip
    have heq : i.dropsFrag .v6 = (i.fragInstalled && i.firewallConfig.checkAttrMask) := rfl
    rw [heq]
    cases hf : i.fragInstalled with
    | false => rfl
    | true => rw [hdrop rfl hf, Bool.and_true]
  have hin : ∀ q ∈ i.deleted ip, q ∈ i.names on := by
    intro q hq
    rw [mem_deleted] at hq
    change i.names on q
    cases q <;> simp only [names] at hq ⊢
    case firewall ip' n =>
      obtain ⟨rfl, hn⟩ := hq
      exact hn
    case dftWanFl n => cases ip <;> grind
    case ipv6FragFirewall =>
      cases ip with
      | v4 => exact absurd hq Bool.false_ne_true
      | v6 => rwa [hdrops rfl] at hq
  obtain ⟨k, heq, hat⟩ :=
    delDftFirewallRules_made h.installed hrx hactive (h.within ip) hin
  rw [heq, delCount, if_neg (by simp [hrx, hactive, h.within ip])]
  dsimp only at hat ⊢
  refine ⟨?_, ?_, ?_, ?_, ?_⟩
  · have hnames : ∀ q, Iface.names (Function.update on ip false)
        { i with
          numFirewall := Function.update i.numFirewall ip 0
          fragInstalled := i.fragInstalled && !i.dropsFrag ip } q ↔
        q ∈ i.names on \ {q | q ∈ i.deleted ip} := by
      intro q
      rw [Set.mem_sdiff, Set.mem_ofPred_eq, mem_deleted]
      change _ ↔ i.names on q ∧ _
      cases q <;> simp only [names, false_and]
      case firewall ip' n =>
        by_cases hip : ip' = ip
        · subst hip
          rw [Function.update_self]
          simp
        · rw [Function.update_of_ne hip]
          simp [hip]
      case dftWanFl n => cases ip <;> grind
      case ipv6FragFirewall => simp
    rw [← Set.ext hnames] at hat
    exact hat
  · intro ip' hip'
    dsimp only at hip' ⊢
    by_cases hip : ip' = ip
    · rw [hip, Function.update_self]
    · rw [Function.update_of_ne hip] at hip' ⊢
      exact h.idle ip' hip'
  · intro hip'
    dsimp only at hip' ⊢
    cases ip with
    | v4 =>
      rw [dropsFrag_v4, Bool.not_false, Bool.and_true]
      rw [Function.update_of_ne (by decide)] at hip'
      exact h.noFrag hip'
    | v6 => rw [hdrops rfl, Bool.and_not_self]
  · intro ip'
    dsimp only
    by_cases hip : ip' = ip
    · rw [hip, Function.update_self]
      exact Nat.zero_le _
    · rw [Function.update_of_ne hip]
      exact h.within ip'
  · intro ip'
    by_cases hip : ip' = ip
    · subst hip
      rw [Function.update_self, h.counted, length_deleted]
      cases ip' with
      | v4 => simp [numRules, hrx, hon, dropsFrag_v4]
      | v6 => simp [numRules, hrx, hon, hdrops rfl]
    · rw [Function.update_of_ne hip, h.counted]
      cases ip' <;> cases ip <;> simp [numRules, dropsFrag_v4] at hip ⊢

theorem Tidy.of_installed {j : Iface} {g' : Statics} (h : i.Tidy base on g count)
    (hat : j.FirewallAt g' (i.names on)) (hconf : j.conf = i.conf)
    (hnum : j.numFirewall = i.numFirewall) (hfrag : j.fragInstalled = i.fragInstalled) :
    j.Tidy base on g' count := by
  refine ⟨?_, ?_, ?_, ?_, ?_⟩
  · have hnames : j.names on = i.names on := names_congr hconf hnum hfrag fun _ => rfl
    rw [hnames]
    exact hat
  · rw [hconf, hnum]
    exact h.idle
  · rw [hconf, hfrag]
    exact h.noFrag
  · rw [hnum]
    exact h.within
  · intro ip
    rw [h.counted, numRules, numRules, hconf, hnum, hfrag]

end Tidy

end Iface

end Axon7.Wan
