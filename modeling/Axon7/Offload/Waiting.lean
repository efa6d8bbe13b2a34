import Axon7.Offload.Cache

/-!
# What waits in the cache

An entry of the cache is a call to be made again for its interface. The call posts what
the entry asks for, or puts it back where the NAT interface check of a family still
holds, or does neither: the interface may be gone, the cache full, a route up already.
-/

namespace Axon7.Offload

/-- What an entry of the cache asks for, with the name copied. -/
inductive Waiting
  | downstream (dev : IfName) (pfx : Prefix)
  | upstream (dev : IfName) (gwAddrV4 gwAddrV6 : Prefix)
deriving DecidableEq

/-- An event that announces something, without the index. -/
inductive Posting
  | downstream (pfx : Prefix)
  | route (ipType : IpType) (gw : Prefix)

/-- What the event announces. -/
def Evt.posting : Evt → Option Posting
  | .downstreamAdd _ pfx => some (.downstream pfx)
  | .routeAdd ipType _ gw => some (.route ipType gw)
  | .downstreamDel _ _ => none
  | .routeDel _ _ _ => none

/-- A valid entry waits. -/
def FrameworkEventCache.waiting? (entry : FrameworkEventCache) : Option Waiting :=
  if entry.valid then
    match entry.event with
    | .other => none
    | .downstreamAdd => some (.downstream entry.devName entry.prefixCache)
    | .wanUpstreamRouteAdd =>
      some (.upstream entry.devName entry.prefixCache entry.prefixCacheV6)
  else none

/-- That, as a collection. -/
def FrameworkEventCache.waits (entry : FrameworkEventCache) : Multiset Waiting :=
  entry.waiting?.elim 0 ({·})

namespace Waiting

def dev : Waiting → IfName
  | .downstream dev _ => dev
  | .upstream dev _ _ => dev

/-- The gateway it gives for a family. -/
def gateway? : Waiting → IpType → Option Prefix
  | .downstream _ _, _ => none
  | .upstream _ gwAddrV4 _, .v4 => if gwAddrV4.fam = .v4 then some gwAddrV4 else none
  | .upstream _ _ gwAddrV6, .v6 => if gwAddrV6.fam = .v6 then some gwAddrV6 else none

/-- The route of a family it asks for. -/
def route (w : Waiting) (ipType : IpType) : Multiset Posting :=
  (w.gateway? ipType).elim 0 fun gw => {.route ipType gw}

/-- What is to be posted for it: one event for the downstream, or one for each family
of the upstream. -/
def postings : Waiting → Multiset Posting
  | .downstream _ pfx => {.downstream pfx}
  | w@(.upstream _ _ _) => w.route .v4 + w.route .v6

/-- It gives a family. -/
def Gives (w : Waiting) : Prop := ∃ ipType, (w.gateway? ipType).isSome = true

/-- The NAT interface check of a family it gives still holds. -/
def held (d : Devices) (name : IfName) : Waiting → Bool
  | .downstream _ pfx => Manager.cacheNeed d name pfx.fam pfx.fam
  | .upstream _ gwAddrV4 gwAddrV6 => Manager.cacheNeed d name gwAddrV4.fam gwAddrV6.fam

end Waiting

namespace Manager

/-- All that waits. -/
def waiting (m : Manager) : Multiset Waiting := ∑ i, (m.eventCache i).waits

/-- All that has been announced. -/
def announced (m : Manager) : Multiset Posting := m.posted.filterMap Evt.posting

def Full (m : Manager) : Prop := ∀ i, (m.eventCache i).valid = true

instance (m : Manager) : Decidable m.Full := inferInstanceAs (Decidable (∀ _, _))

/-- The routes that the first upstream finds up: none, where the interface is not that of
the default gateway. -/
def upFor (index : Nat) (m : Manager) (ipType : IpType) : Bool :=
  (index : Int) = m.defaultGwIndex && m.upstreamUp ipType

/-- The route of the family can be announced: it is not up, and an IPv6 gateway is not
the address 0. -/
def CanAnnounce (up : IpType → Bool) (ipType : IpType) (gw : Prefix) : Prop :=
  up ipType = false ∧ (ipType = .v6 → gw.v6Addr ≠ .replicate 4 0)

/-- An upstream can announce every family it gives. -/
def CanAnnounceAll (up : IpType → Bool) (w : Waiting) : Prop :=
  ∀ ipType, ∀ gw ∈ w.gateway? ipType, CanAnnounce up ipType gw

variable {m m' m'' : Manager} {d : Devices} {name : IfName} {w : Waiting}
  {i : CacheIndex} {slots : List CacheIndex}

/-! ## What waits and what is posted -/

theorem valid_of_waiting? {entry : FrameworkEventCache} (h : entry.waiting? = some w) :
    entry.valid = true := by
  rw [FrameworkEventCache.waiting?] at h
  by_contra hvalid
  rw [if_neg hvalid] at h
  exact absurd h nofun

theorem waits_of_waiting? {entry : FrameworkEventCache} (h : entry.waiting? = some w) :
    entry.waits = {w} := by
  rw [FrameworkEventCache.waits, h]
  rfl

theorem waits_of_not_valid {entry : FrameworkEventCache} (h : entry.valid = false) :
    entry.waits = 0 := by
  rw [FrameworkEventCache.waits, FrameworkEventCache.waiting?, h]
  rfl

theorem waiting_update {entry : FrameworkEventCache}
    (h : m'.eventCache = Function.update m.eventCache i entry) :
    m'.waiting + (m.eventCache i).waits = m.waiting + entry.waits := by
  have hrest : ∑ j ∈ Finset.univ.erase i, (m'.eventCache j).waits =
      ∑ j ∈ Finset.univ.erase i, (m.eventCache j).waits := by
    refine Finset.sum_congr rfl fun j hj => ?_
    rw [h, Function.update_of_ne (Finset.ne_of_mem_erase hj)]
  have hself : (m'.eventCache i).waits = entry.waits := by rw [h, Function.update_self]
  rw [waiting, waiting, ← Finset.add_sum_erase _ _ (Finset.mem_univ i), hrest, hself,
    ← Finset.add_sum_erase _ (fun j => (m.eventCache j).waits) (Finset.mem_univ i)]
  abel

theorem announced_snoc (evt : Evt) (h : m'.posted = m.posted ++ [evt]) :
    m'.announced = m.announced + evt.posting.elim 0 ({·}) := by
  rw [announced, announced, h, List.filterMap_append, ← Multiset.coe_add]
  cases evt <;> rfl

/-- What is still to be posted and what has been. -/
def total (m : Manager) : Multiset Posting := m.waiting.bind Waiting.postings + m.announced

/-! ## Putting an event back -/

/-- Nothing of what a replay looks at differs. -/
structure Alike (m m' : Manager) : Prop where
  posted : m'.posted = m.posted
  up : m'.upstreamUp = m.upstreamUp
  gw : m'.defaultGwIndex = m.defaultGwIndex

theorem Alike.announced (h : Alike m m') : m'.announced = m.announced := by
  rw [Manager.announced, h.posted]
  rfl

theorem Alike.upFor (h : Alike m m') (index : Nat) : m'.upFor index = m.upFor index := by
  funext ipType
  rw [Manager.upFor, h.gw, h.up]
  rfl

theorem Alike.trans (h : Alike m m') (h' : Alike m' m'') : Alike m m'' :=
  ⟨h'.posted.trans h.posted, h'.up.trans h.up, h'.gw.trans h.gw⟩

theorem cacheEvent_alike (fill : FrameworkEventCache → FrameworkEventCache) (n : Nat)
    (m : Manager) : Alike m (m.cacheEvent fill n).2 := by
  induction n generalizing m with
  | zero => exact ⟨rfl, rfl, rfl⟩
  | succ n ih =>
    rw [cacheEvent]
    split
    · exact ⟨rfl, rfl, rfl⟩
    · have hnext : Alike m { m with latestCacheIndex := m.latestCacheIndex + 1 } :=
        ⟨rfl, rfl, rfl⟩
      exact hnext.trans (ih _)

theorem cacheEvent_cases (fill : FrameworkEventCache → FrameworkEventCache) (n : Nat)
    (m : Manager) :
    (∃ j, (m.eventCache j).valid = false ∧ (m.cacheEvent fill n).2.eventCache =
        Function.update m.eventCache j (fill (m.eventCache j))) ∨
      (∀ k < n, (m.eventCache (m.latestCacheIndex + Fin.ofNat maxEventCache k)).valid = true) ∧
        (m.cacheEvent fill n).2.eventCache = m.eventCache := by
  induction n generalizing m with
  | zero => exact .inr ⟨fun k hk => absurd hk (Nat.not_lt_zero k), rfl⟩
  | succ n ih =>
    rw [cacheEvent]
    by_cases hfree : (m.eventCache m.latestCacheIndex).valid = false
    · rw [if_pos hfree]
      exact .inl ⟨_, hfree, rfl⟩
    · rw [if_neg hfree]
      obtain hput | ⟨hfull, hcache⟩ :=
        ih { m with latestCacheIndex := m.latestCacheIndex + 1 }
      · exact .inl hput
      · refine .inr ⟨fun k hk => ?_, hcache⟩
        cases k with
        | zero => simpa using hfree
        | succ k =>
          have hstep : m.latestCacheIndex + Fin.ofNat maxEventCache (k + 1) =
              m.latestCacheIndex + 1 + Fin.ofNat maxEventCache k := by
            apply Fin.ext
            simp only [Fin.val_add, Fin.val_ofNat, Fin.val_one, maxEventCache]
            omega
          rw [hstep]
          exact hfull k (by omega)

theorem cacheEvent_spec (fill : FrameworkEventCache → FrameworkEventCache) (m : Manager) :
    (m.Full ∧ (m.cacheEvent fill maxEventCache).2.eventCache = m.eventCache) ∨
      ∃ j, (m.eventCache j).valid = false ∧
        (m.cacheEvent fill maxEventCache).2.eventCache =
          Function.update m.eventCache j (fill (m.eventCache j)) := by
  obtain hput | ⟨hfull, hcache⟩ := cacheEvent_cases fill maxEventCache m
  · exact .inr hput
  · refine .inl ⟨fun j => ?_, hcache⟩
    have hj := hfull (j - m.latestCacheIndex).val (j - m.latestCacheIndex).isLt
    have hback : m.latestCacheIndex + (j - m.latestCacheIndex) = j := by
      apply Fin.ext
      simp only [Fin.val_add, Fin.sub_def, maxEventCache]
      omega
    rwa [Fin.ofNat_val_eq_self, hback] at hj

/-- The call that a turn of the loop makes for what waits. -/
def redo (d : Devices) (name : IfName) (m : Manager) : Waiting → Manager
  | .downstream _ pfx => (m.addDownstream d name pfx).2
  | .upstream _ gwAddrV4 gwAddrV6 => (m.setUpstream d (some name) gwAddrV4 gwAddrV6).2

/-- The slot is given up. -/
def giveUp (m : Manager) (i : CacheIndex) : Manager :=
  m.setEntry i { m.eventCache i with valid := false }

theorem replayEntry_of_due
    (hw : (m.eventCache i).waiting? = some w) (hdev : w.dev = devName name) :
    m.replayEntry d name i = (m.redo d name w).giveUp i := by
  have hvalid := valid_of_waiting? hw
  rw [FrameworkEventCache.waiting?, if_pos hvalid] at hw
  rw [replayEntry]
  cases hevent : (m.eventCache i).event with
  | other =>
    rw [hevent] at hw
    cases hw
  | downstreamAdd =>
    rw [hevent] at hw
    obtain rfl := Option.some.inj hw
    dsimp only
    rw [if_pos ⟨hvalid, hdev⟩]
    rfl
  | wanUpstreamRouteAdd =>
    rw [hevent] at hw
    obtain rfl := Option.some.inj hw
    dsimp only
    rw [if_pos ⟨hvalid, hdev⟩]
    rfl

theorem redo_absent (h : d.ifIndex name = none) (w : Waiting) : m.redo d name w = m := by
  cases w with
  | downstream dev pfx => rw [redo, addDownstream, h]
  | upstream dev gwAddrV4 gwAddrV6 =>
    rw [redo, setUpstream]
    dsimp only
    rw [h]

theorem redo_held {index : Nat} (hdev : w.dev = devName name)
    (hindex : d.ifIndex name = some index) (hheld : w.held d name = true) :
    Alike m (m.redo d name w) ∧
      ((m.Full ∧ (m.redo d name w).eventCache = m.eventCache) ∨
        ∃ j entry, (m.eventCache j).valid = false ∧ entry.valid = true ∧
          entry.waiting? = some w ∧
          (m.redo d name w).eventCache = Function.update m.eventCache j entry) := by
  cases w with
  | downstream dev pfx =>
    obtain rfl : dev = devName name := hdev
    have hlisted : ∃ l, (if name ∈ m.validIfaces then m
        else { m with validIfaces := m.validIfaces ++ [name] }) =
        { m with validIfaces := l } := by
      split
      · exact ⟨_, rfl⟩
      · exact ⟨_, rfl⟩
    obtain ⟨l, hlisted⟩ := hlisted
    have hneed : cacheNeed d name pfx.fam pfx.fam = true := hheld
    rw [redo, addDownstream, hindex, hlisted]
    dsimp only
    rw [if_pos hneed]
    have halike : Alike m { m with validIfaces := l } := ⟨rfl, rfl, rfl⟩
    refine ⟨halike.trans (cacheEvent_alike _ _ _), ?_⟩
    obtain hfull | ⟨j, hj, hput⟩ := cacheEvent_spec (fun entry =>
      { entry with
        valid := true
        event := .downstreamAdd
        devName := devName name
        prefixCache := pfx }) { m with validIfaces := l }
    · exact .inl hfull
    · exact .inr ⟨j, _, hj, rfl, rfl, hput⟩
  | upstream dev gwAddrV4 gwAddrV6 =>
    obtain rfl : dev = devName name := hdev
    have hneed : cacheNeed d name gwAddrV4.fam gwAddrV6.fam = true := hheld
    rw [redo, setUpstream]
    dsimp only
    rw [hindex]
    dsimp only
    rw [if_pos hneed]
    refine ⟨cacheEvent_alike _ _ _, ?_⟩
    obtain hfull | ⟨j, hj, hput⟩ := cacheEvent_spec (fun entry =>
      { entry with
        valid := true
        event := .wanUpstreamRouteAdd
        devName := devName name
        prefixCache := gwAddrV4
        prefixCacheV6 := gwAddrV6 }) m
    · exact .inl hfull
    · exact .inr ⟨j, _, hj, rfl, rfl, hput⟩

theorem redo_cache_of_not_held {index : Nat} (hindex : d.ifIndex name = some index)
    (hheld : w.held d name = false) : (m.redo d name w).eventCache = m.eventCache := by
  cases w with
  | downstream dev pfx =>
    have hneed : ¬ cacheNeed d name pfx.fam pfx.fam = true := by
      rw [Bool.not_eq_true]
      exact hheld
    rw [redo, addDownstream, hindex]
    dsimp only
    rw [if_neg hneed]
    split
    · rfl
    · rfl
  | upstream dev gwAddrV4 gwAddrV6 =>
    have hneed : ¬ cacheNeed d name gwAddrV4.fam gwAddrV6.fam = true := by
      rw [Bool.not_eq_true]
      exact hheld
    rw [redo, setUpstream]
    dsimp only
    rw [hindex]
    dsimp only
    rw [if_neg hneed]
    simp

theorem redo_downstream {index : Nat} {dev : IfName} {pfx : Prefix}
    (hindex : d.ifIndex name = some index)
    (hheld : (Waiting.downstream dev pfx).held d name = false) :
    (m.redo d name (.downstream dev pfx)).announced =
        m.announced + (Waiting.downstream dev pfx).postings ∧
      (m.redo d name (.downstream dev pfx)).upFor index = m.upFor index := by
  have hneed : ¬ cacheNeed d name pfx.fam pfx.fam = true := by
    rw [Bool.not_eq_true]
    exact hheld
  rw [redo, addDownstream, hindex]
  dsimp only
  rw [if_neg hneed]
  have hposted : (m.post (.downstreamAdd index pfx)).announced =
      m.announced + {.downstream pfx} := announced_snoc (.downstreamAdd index pfx) rfl
  split
  · exact ⟨hposted, rfl⟩
  · exact ⟨hposted, rfl⟩

/-! ## Announcing an upstream -/

theorem delRoute_spec (ipType : IpType) (gw : Prefix) (m : Manager) :
    (m.delRoute ipType gw).announced = m.announced ∧
      (m.delRoute ipType gw).upstreamUp = Function.update m.upstreamUp ipType false ∧
      (m.delRoute ipType gw).defaultGwIndex = m.defaultGwIndex := by
  rw [delRoute]
  split
  · exact ⟨(announced_snoc (.routeDel ipType m.defaultGwIndex gw) rfl).trans (add_zero _), rfl, rfl⟩
  · next hdown =>
      refine ⟨rfl, ?_, rfl⟩
      rw [Bool.not_eq_true] at hdown
      rw [← hdown, Function.update_eq_self]

theorem addRoute_of_can {ipType : IpType} {gw : Prefix}
    (h : CanAnnounce m.upstreamUp ipType gw) (index : Int) :
    (m.addRoute ipType index gw).announced = m.announced + {.route ipType gw} ∧
      (m.addRoute ipType index gw).upstreamUp = Function.update m.upstreamUp ipType true := by
  have haddr : ¬ (ipType = .v6 ∧ gw.v6Addr = .replicate 4 0) := fun hzero =>
    h.2 hzero.1 hzero.2
  rw [addRoute, if_pos h.1, if_neg haddr]
  exact ⟨announced_snoc (.routeAdd ipType index gw) rfl, rfl⟩

theorem addRoute_of_cannot {ipType : IpType} {gw : Prefix}
    (h : ¬ CanAnnounce m.upstreamUp ipType gw) (index : Int) :
    m.addRoute ipType index gw = m := by
  rw [addRoute]
  split
  · next hdown =>
      split
      · rfl
      · next haddr => exact absurd ⟨hdown, fun hv6 hzero => haddr ⟨hv6, hzero⟩⟩ h
  · rfl

variable {index : Nat} {dev : IfName} {gwAddrV4 gwAddrV6 : Prefix}

theorem withdraw_spec
    (hgw : m.defaultGwIndex = invalidIface → ∀ ipType, m.upstreamUp ipType = false)
    (ipType : IpType) (gw : Prefix) :
    let m' := if m.defaultGwIndex ≠ invalidIface then m.delRoute ipType gw else m
    m'.announced = m.announced ∧
      m'.upstreamUp = Function.update m.upstreamUp ipType false := by
  dsimp only
  split
  · exact ⟨(delRoute_spec ipType gw m).1, (delRoute_spec ipType gw m).2.1⟩
  · next hinvalid =>
      refine ⟨rfl, ?_⟩
      rw [not_not] at hinvalid
      rw [← hgw hinvalid ipType, Function.update_eq_self]

theorem addRoute_announced_le (ipType : IpType) (index : Int) (gw : Prefix) (m : Manager) :
    (m.addRoute ipType index gw).announced ≤ m.announced + {.route ipType gw} := by
  by_cases hcan : CanAnnounce m.upstreamUp ipType gw
  · exact (addRoute_of_can hcan index).1.le
  · rw [addRoute_of_cannot hcan]
    exact Multiset.le_add_right _ _

theorem addRoute_announced_lt {ipType : IpType} {gw : Prefix}
    (h : ¬ CanAnnounce m.upstreamUp ipType gw) (index : Int) :
    (m.addRoute ipType index gw).announced < m.announced + {.route ipType gw} := by
  rw [addRoute_of_cannot h]
  exact lt_add_of_pos_right _ (Multiset.singleton_ne_zero _).bot_lt

theorem announce_single {ipType ipType' : IpType} {gw : Prefix} (hne : ipType' ≠ ipType)
    (hgiven : w.gateway? ipType = some gw) (hother : w.gateway? ipType' = none)
    (hannounced : m'.announced = m.announced)
    (hup : m'.upstreamUp = Function.update m.upstreamUp ipType' false) (index : Int) :
    (CanAnnounceAll m.upstreamUp w →
      (m'.addRoute ipType index gw).announced = m.announced + {.route ipType gw} ∧
        (m'.addRoute ipType index gw).upstreamUp =
          fun ipType => (w.gateway? ipType).isSome) ∧
    (¬ CanAnnounceAll m.upstreamUp w →
      (m'.addRoute ipType index gw).announced < m.announced + {.route ipType gw}) := by
  have hall : CanAnnounceAll m.upstreamUp w ↔ CanAnnounce m'.upstreamUp ipType gw := by
    rw [CanAnnounce, hup, Function.update_of_ne hne.symm]
    constructor
    · exact fun h => h ipType gw hgiven
    · intro h ip gw' hgw'
      by_cases hip : ip = ipType
      · subst hip
        rw [hgiven] at hgw'
        exact Option.some.inj hgw' ▸ h
      · have hip' : ip = ipType' := by
          cases ip <;> cases ipType <;> cases ipType' <;> simp_all
        rw [hip', hother] at hgw'
        exact absurd hgw' nofun
  rw [hall, ← hannounced]
  refine ⟨fun hcan => ⟨(addRoute_of_can hcan index).1, ?_⟩,
    fun hcan => addRoute_announced_lt hcan index⟩
  rw [(addRoute_of_can hcan index).2, hup]
  funext ip
  by_cases hip : ip = ipType
  · rw [hip, Function.update_self, hgiven]
    rfl
  · have hip' : ip = ipType' := by
      cases ip <;> cases ipType <;> cases ipType' <;> simp_all
    rw [Function.update_of_ne hip, hip', Function.update_self, hother]
    rfl

theorem announce_both (hgiven4 : w.gateway? .v4 = some gwAddrV4)
    (hgiven6 : w.gateway? .v6 = some gwAddrV6) (index : Int) :
    (CanAnnounceAll m.upstreamUp w →
      ((m.addRoute .v4 index gwAddrV4).addRoute .v6 index gwAddrV6).announced =
          m.announced + ({.route .v4 gwAddrV4} + {.route .v6 gwAddrV6}) ∧
        ((m.addRoute .v4 index gwAddrV4).addRoute .v6 index gwAddrV6).upstreamUp =
          fun ipType => (w.gateway? ipType).isSome) ∧
    (¬ CanAnnounceAll m.upstreamUp w →
      ((m.addRoute .v4 index gwAddrV4).addRoute .v6 index gwAddrV6).announced <
        m.announced + ({.route .v4 gwAddrV4} + {.route .v6 gwAddrV6})) := by
  have hall : CanAnnounceAll m.upstreamUp w ↔
      CanAnnounce m.upstreamUp .v4 gwAddrV4 ∧ CanAnnounce m.upstreamUp .v6 gwAddrV6 := by
    constructor
    · exact fun h => ⟨h .v4 _ hgiven4, h .v6 _ hgiven6⟩
    · rintro ⟨h4, h6⟩ (_ | _) gw hgw
      · rw [hgiven4] at hgw
        exact Option.some.inj hgw ▸ h4
      · rw [hgiven6] at hgw
        exact Option.some.inj hgw ▸ h6
  -- the flag of IPv6 is as before when its turn comes
  have hup6 : (m.addRoute .v4 index gwAddrV4).upstreamUp .v6 = m.upstreamUp .v6 := by
    by_cases h4 : CanAnnounce m.upstreamUp .v4 gwAddrV4
    · rw [(addRoute_of_can h4 index).2]
      rfl
    · rw [addRoute_of_cannot h4]
  have hcan6 : CanAnnounce (m.addRoute .v4 index gwAddrV4).upstreamUp .v6 gwAddrV6 ↔
      CanAnnounce m.upstreamUp .v6 gwAddrV6 := by
    rw [CanAnnounce, hup6]
    rfl
  rw [hall, ← add_assoc]
  constructor
  · rintro ⟨h4, h6⟩
    obtain ⟨hannounced4, hup4⟩ := addRoute_of_can h4 index
    obtain ⟨hannounced6, hup6⟩ := addRoute_of_can (hcan6.mpr h6) index
    refine ⟨by rw [hannounced6, hannounced4], ?_⟩
    rw [hup6, hup4]
    funext ipType
    cases ipType
    · rw [hgiven4]
      rfl
    · rw [hgiven6]
      rfl
  · intro hnot
    by_cases h4 : CanAnnounce m.upstreamUp .v4 gwAddrV4
    · have h6 : ¬ CanAnnounce m.upstreamUp .v6 gwAddrV6 := fun h6 => hnot ⟨h4, h6⟩
      rw [← (addRoute_of_can h4 index).1]
      exact addRoute_announced_lt (fun h => h6 (hcan6.mp h)) index
    · refine (addRoute_announced_le .v6 index gwAddrV6 _).trans_lt ?_
      exact add_lt_add_left (addRoute_announced_lt h4 index) _

theorem announce_spec
    (hgw : m.defaultGwIndex = invalidIface → ∀ ipType, m.upstreamUp ipType = false)
    (hw : w = .upstream dev gwAddrV4 gwAddrV6) (hgives : w.Gives) :
    (CanAnnounceAll m.upstreamUp w →
      (m.announce index gwAddrV4 gwAddrV6).2.announced = m.announced + w.postings ∧
        (m.announce index gwAddrV4 gwAddrV6).2.upstreamUp =
          fun ipType => (w.gateway? ipType).isSome) ∧
    (¬ CanAnnounceAll m.upstreamUp w →
      (m.announce index gwAddrV4 gwAddrV6).2.announced < m.announced + w.postings) := by
  have hgiven4 : w.gateway? .v4 = if gwAddrV4.fam = .v4 then some gwAddrV4 else none := by
    rw [hw]
    rfl
  have hgiven6 : w.gateway? .v6 = if gwAddrV6.fam = .v6 then some gwAddrV6 else none := by
    rw [hw]
    rfl
  have hpostings : w.postings = w.route .v4 + w.route .v6 := by
    rw [hw]
    rfl
  rw [hpostings, Waiting.route, Waiting.route, announce]
  by_cases h4 : gwAddrV4.fam = .v4
  · rw [if_pos h4] at hgiven4
    by_cases h6 : gwAddrV6.fam = .v6
    · rw [if_pos h6] at hgiven6
      rw [if_pos ⟨h4, h6⟩, hgiven4, hgiven6]
      exact announce_both hgiven4 hgiven6 index
    · rw [if_neg h6] at hgiven6
      rw [if_neg fun h => h6 h.2, if_pos h4, hgiven4, hgiven6]
      obtain ⟨hannounced, hup⟩ := withdraw_spec hgw .v6 gwAddrV6
      simpa using announce_single (by decide) hgiven4 hgiven6 hannounced hup index
  · rw [if_neg h4] at hgiven4
    have h6 : gwAddrV6.fam = .v6 := by
      obtain ⟨ipType, hgives⟩ := hgives
      by_contra h6
      rw [if_neg h6] at hgiven6
      cases ipType
      · rw [hgiven4] at hgives
        cases hgives
      · rw [hgiven6] at hgives
        cases hgives
    rw [if_pos h6] at hgiven6
    rw [if_neg fun h => h4 h.1, if_neg h4, if_pos h6, hgiven4, hgiven6]
    obtain ⟨hannounced, hup⟩ := withdraw_spec hgw .v4 gwAddrV4
    simpa using announce_single (by decide) hgiven6 hgiven4 hannounced hup index

theorem switchUpstream_spec (index : Nat) (gwAddrV4 gwAddrV6 : Prefix) (m : Manager) :
    (m.switchUpstream index gwAddrV4 gwAddrV6).announced = m.announced ∧
      (m.switchUpstream index gwAddrV4 gwAddrV6).upstreamUp = m.upFor index ∧
      ((m.switchUpstream index gwAddrV4 gwAddrV6).defaultGwIndex = invalidIface →
        ∀ ipType, (m.switchUpstream index gwAddrV4 gwAddrV6).upstreamUp ipType = false) := by
  rw [switchUpstream]
  split
  · next hne =>
      obtain ⟨hannounced4, hup4, -⟩ := delRoute_spec .v4 gwAddrV4 m
      obtain ⟨hannounced6, hup6, -⟩ := delRoute_spec .v6 gwAddrV6 (m.delRoute .v4 gwAddrV4)
      have hdown : ∀ ipType,
          ((m.delRoute .v4 gwAddrV4).delRoute .v6 gwAddrV6).upstreamUp ipType = false := by
        intro ipType
        rw [hup6, hup4]
        cases ipType <;> rfl
      refine ⟨hannounced6.trans hannounced4, ?_, fun _ => hdown⟩
      funext ipType
      rw [upFor, decide_eq_false hne]
      exact hdown ipType
  · next heq =>
      rw [not_not] at heq
      refine ⟨rfl, ?_, fun hinvalid => ?_⟩
      · funext ipType
        rw [upFor, decide_eq_true heq, Bool.true_and]
      · rw [invalidIface] at hinvalid
        omega

theorem redo_upstream (hindex : d.ifIndex name = some index)
    (hw : w = .upstream dev gwAddrV4 gwAddrV6) (hgives : w.Gives)
    (hheld : w.held d name = false) :
    (CanAnnounceAll (m.upFor index) w →
      (m.redo d name w).announced = m.announced + w.postings ∧
        (m.redo d name w).upFor index = fun ipType => (w.gateway? ipType).isSome) ∧
    (¬ CanAnnounceAll (m.upFor index) w →
      (m.redo d name w).announced < m.announced + w.postings) := by
  have hneed : ¬ cacheNeed d name gwAddrV4.fam gwAddrV6.fam = true := by
    rw [Bool.not_eq_true]
    rw [hw] at hheld
    exact hheld
  obtain ⟨hannounced, hup, hgw⟩ := switchUpstream_spec index gwAddrV4 gwAddrV6 m
  obtain ⟨hcan, hcannot⟩ :=
    announce_spec hgw hw hgives
  have hredo : m.redo d name w =
      { ((m.switchUpstream index gwAddrV4 gwAddrV6).announce index gwAddrV4 gwAddrV6).2 with
        defaultGwIndex := index } := by
    rw [hw, redo, setUpstream]
    dsimp only
    rw [hindex]
    dsimp only
    rw [if_neg hneed]
  rw [hup, hannounced] at hcan hcannot
  rw [hredo]
  refine ⟨fun hall => ⟨(hcan hall).1, ?_⟩, hcannot⟩
  funext ipType
  rw [upFor, decide_eq_true rfl, Bool.true_and]
  exact congrFun (hcan hall).2 ipType

end Manager

end Axon7.Offload
