import Axon7.Offload.Manager
import Axon7.Lib.Run

/-!
# What the event cache holds and posts

An entry gets into the cache by a call that names its interface, and a replay
puts back at most what it found. So what is not in the cache, and is not asked
for again, is not posted by a replay. Removing the default route and removing a
downstream are judged by this.
-/

namespace Axon7.Offload

open Axon7.Lib

/-- A kind of entries: by the event, the name copied and the prefix. -/
abbrev Kind := CachedEvent → IfName → Prefix → Prop

namespace Manager

/-- No valid entry is of the kind. -/
def Free (kind : Kind) (m : Manager) : Prop :=
  ∀ i, (m.eventCache i).valid = true →
    ¬ kind (m.eventCache i).event (m.eventCache i).devName
      (m.eventCache i).prefixCache

/-- What `m'` has posted beyond `m` is as `P` says. -/
def Posts (P : Evt → Prop) (m m' : Manager) : Prop :=
  ∃ new, m'.posted = m.posted ++ new ∧ ∀ evt ∈ new, P evt

/-- The call may put an entry of the kind into the cache. -/
def Call.asks (kind : Kind) : Call → Prop
  | .addDownstream _ name pfx => kind .downstreamAdd (devName name) pfx
  | .setUpstream _ (some name) gwAddrV4 _ =>
    kind .wanUpstreamRouteAdd (devName name) gwAddrV4
  | _ => False

/-- A route event of either sort. -/
def routeEvt : Evt → Prop
  | .routeAdd _ _ _ => True
  | .routeDel _ _ _ => True
  | _ => False

variable {m m' m'' : Manager} {kind : Kind} {P : Evt → Prop} {name : IfName}

/-! ## The entries -/

theorem Free.congr (h : m.Free kind) (hcache : m'.eventCache = m.eventCache) :
    m'.Free kind := by
  rw [Free, hcache]
  exact h

theorem Free.setEntry (h : m.Free kind) {entry : FrameworkEventCache}
    (hentry : entry.valid = true →
      ¬ kind entry.event entry.devName entry.prefixCache) (i : CacheIndex) :
    (m.setEntry i entry).Free kind := by
  intro j
  show (Function.update m.eventCache i entry j).valid = true → _
  by_cases hji : j = i
  · subst hji
    simpa [Manager.setEntry] using hentry
  · simpa [Manager.setEntry, hji] using h j

theorem free_cleared (h : ∀ i, m.eventCache i = .cleared) : m.Free kind := by
  intro i hvalid
  rw [h i] at hvalid
  exact absurd hvalid nofun

theorem Free.cacheEvent (h : m.Free kind)
    {fill : FrameworkEventCache → FrameworkEventCache}
    (hfill : ∀ entry, ¬ kind (fill entry).event (fill entry).devName
      (fill entry).prefixCache) (n : Nat) :
    (m.cacheEvent fill n).2.Free kind := by
  induction n generalizing m with
  | zero => exact h
  | succ n ih =>
    rw [Manager.cacheEvent]
    have hnext : Free kind
        { m with latestCacheIndex := m.latestCacheIndex + 1 } := h
    split
    · exact hnext.setEntry (fun _ => hfill _) _
    · exact ih hnext

theorem Free.addDownstream (h : m.Free kind) (d : Devices) {pfx : Prefix}
    (hkind : ¬ kind .downstreamAdd (devName name) pfx) :
    (m.addDownstream d name pfx).2.Free kind := by
  rw [Manager.addDownstream]
  split
  · exact h
  · have hlisted : (if name ∈ m.validIfaces then m
        else { m with validIfaces := m.validIfaces ++ [name] }).Free kind := by
      split
      · exact h
      · exact h
    dsimp only
    split
    · exact hlisted.cacheEvent (fun _ => hkind) _
    · exact hlisted

theorem removeDownstream_cache (d : Devices) (name : IfName) (pfx : Prefix)
    (m : Manager) :
    (m.removeDownstream d name pfx).2.eventCache = m.eventCache := by
  rw [removeDownstream]
  split
  · rfl
  split
  · rfl
  · split <;> rfl

@[simp] theorem delRoute_cache (ipType : IpType) (gwAddr : Prefix)
    (m : Manager) : (m.delRoute ipType gwAddr).eventCache = m.eventCache := by
  rw [delRoute]
  split <;> rfl

@[simp] theorem addRoute_cache (ipType : IpType) (ix : Int) (gwAddr : Prefix)
    (m : Manager) : (m.addRoute ipType ix gwAddr).eventCache = m.eventCache := by
  rw [addRoute]
  split
  · split <;> rfl
  · rfl

@[simp] theorem switchUpstream_cache (index : Nat) (gwAddrV4 gwAddrV6 : Prefix)
    (m : Manager) :
    (m.switchUpstream index gwAddrV4 gwAddrV6).eventCache = m.eventCache := by
  rw [switchUpstream]
  split
  · simp
  · rfl

@[simp] theorem announce_cache (index : Nat) (gwAddrV4 gwAddrV6 : Prefix)
    (m : Manager) :
    (m.announce index gwAddrV4 gwAddrV6).2.eventCache = m.eventCache :=
  announce_keeps (I := fun m' => m'.eventCache = m.eventCache)
    (fun _ _ _ => delRoute_cache _ _ _)
    (fun _ _ _ hm => (addRoute_cache _ _ _ _).trans hm) rfl gwAddrV4 gwAddrV6

theorem Free.setUpstream (h : m.Free kind) (d : Devices)
    {gwAddrV4 : Prefix} (gwAddrV6 : Prefix)
    (hkind : ¬ kind .wanUpstreamRouteAdd (devName name) gwAddrV4) :
    (m.setUpstream d (some name) gwAddrV4 gwAddrV6).2.Free kind := by
  rw [Manager.setUpstream]
  dsimp only
  split
  · exact h
  · split
    · exact h.cacheEvent (fun _ => hkind) _
    · exact h.congr (by simp)

theorem clearUpstream_cache (gwAddrV4 gwAddrV6 : Prefix) (m : Manager) :
    (m.clearUpstream gwAddrV4 gwAddrV6).2.eventCache =
      if m.defaultGwIndex = invalidIface ∧
          ∃ i, pendingUpstream (m.eventCache i) = true then
        fun _ => .cleared
      else m.eventCache := by
  rw [clearUpstream]
  by_cases hgw : m.defaultGwIndex = invalidIface
  · by_cases hpending : ∃ i, pendingUpstream (m.eventCache i) = true
    · rw [if_pos hgw, if_pos hpending, if_pos ⟨hgw, hpending⟩]
    · rw [if_pos hgw, if_neg hpending, if_neg fun hand => hpending hand.2]
  · rw [if_neg hgw, if_neg (fun hand => hgw hand.1 : ¬ (_ ∧ _))]
    dsimp only
    split <;> split <;> simp

theorem Free.clearUpstream (h : m.Free kind) (gwAddrV4 gwAddrV6 : Prefix) :
    (m.clearUpstream gwAddrV4 gwAddrV6).2.Free kind := by
  have hcache := clearUpstream_cache gwAddrV4 gwAddrV6 m
  split at hcache
  · exact free_cleared fun i => congrFun hcache i
  · exact h.congr hcache

theorem Free.replayEntry (h : m.Free kind) (d : Devices) (name : IfName)
    (i : CacheIndex) : (m.replayEntry d name i).Free kind := by
  rw [Manager.replayEntry]
  dsimp only
  split
  · next hentry =>
      obtain ⟨hvalid, hname⟩ := hentry
      have hnot := h i hvalid
      rw [hname] at hnot
      refine Free.setEntry ?_ (fun hinvalid => by simp at hinvalid) i
      split
      · next hevent =>
          rw [hevent] at hnot
          exact h.addDownstream d hnot
      · next hevent =>
          rw [hevent] at hnot
          exact h.setUpstream d _ hnot
      · exact h
  · exact h

theorem Free.searchFramworkCache (h : m.Free kind) (d : CacheIndex → Devices)
    (name : IfName) : (m.searchFramworkCache d name).Free kind :=
  foldl_invariant (Free kind) (fun _ => True)
    (fun _ i hm _ => hm.replayEntry (d i) name i) h _ fun _ _ => trivial

theorem Free.step (h : m.Free kind) {call : Call} (hcall : ¬ call.asks kind) :
    (m.step call).Free kind := by
  cases call with
  | addDownstream d name pfx => exact h.addDownstream d hcall
  | removeDownstream d name pfx => exact h.congr (removeDownstream_cache d name pfx m)
  | setUpstream d name gwAddrV4 gwAddrV6 =>
    cases name with
    | none => exact h.clearUpstream gwAddrV4 gwAddrV6
    | some name => exact h.setUpstream d gwAddrV6 hcall
  | stopAllOffload d => exact free_cleared fun _ => rfl
  | searchFramworkCache d name => exact h.searchFramworkCache d name

theorem Free.steps (h : m.Free kind) {calls : List Call}
    (hcalls : ∀ call ∈ calls, ¬ call.asks kind) :
    (calls.foldl Manager.step m).Free kind :=
  foldl_invariant (Free kind) (fun call => ¬ call.asks kind)
    (fun _ _ hm hcall => hm.step hcall) h calls hcalls

/-! ## The events of a replay -/

theorem Posts.refl (m : Manager) : Posts P m m := ⟨[], by simp, nofun⟩

theorem Posts.of_eq (h : m'.posted = m.posted) : Posts P m m' :=
  ⟨[], by simp [h], nofun⟩

theorem Posts.trans (h : Posts P m m') (h' : Posts P m' m'') : Posts P m m'' := by
  obtain ⟨new, hnew, hP⟩ := h
  obtain ⟨new', hnew', hP'⟩ := h'
  refine ⟨new ++ new', by rw [hnew', hnew, List.append_assoc], ?_⟩
  intro evt hevt
  obtain hevt | hevt := List.mem_append.mp hevt
  · exact hP evt hevt
  · exact hP' evt hevt

theorem Posts.post {evt : Evt} (h : P evt) : Posts P m (m.post evt) :=
  ⟨[evt], rfl, by simpa using h⟩

theorem cacheEvent_posted (fill : FrameworkEventCache → FrameworkEventCache)
    (n : Nat) (m : Manager) : (m.cacheEvent fill n).2.posted = m.posted := by
  induction n generalizing m with
  | zero => rfl
  | succ n ih =>
    rw [cacheEvent]
    split
    · rfl
    · exact ih _

theorem addDownstream_posts (d : Devices) {pfx : Prefix}
    (h : ∀ ix, P (.downstreamAdd ix pfx)) (m : Manager) :
    Posts P m (m.addDownstream d name pfx).2 := by
  rw [addDownstream]
  split
  · exact .refl m
  · have hlisted : Posts P m (if name ∈ m.validIfaces then m
        else { m with validIfaces := m.validIfaces ++ [name] }) := by
      split
      · exact .refl m
      · exact .of_eq rfl
    dsimp only
    split
    · exact hlisted.trans (.of_eq (cacheEvent_posted _ _ _))
    · exact hlisted.trans (.post (h _))

theorem delRoute_posts (h : ∀ evt, routeEvt evt → P evt) (ipType : IpType)
    (gwAddr : Prefix) (m : Manager) : Posts P m (m.delRoute ipType gwAddr) := by
  rw [delRoute]
  split
  · exact .post (h _ trivial)
  · exact .refl m

theorem addRoute_posts (h : ∀ evt, routeEvt evt → P evt) (ipType : IpType)
    (ix : Int) (gwAddr : Prefix) (m : Manager) :
    Posts P m (m.addRoute ipType ix gwAddr) := by
  rw [addRoute]
  split
  · split
    · exact .refl m
    · exact .post (h _ trivial)
  · exact .refl m

theorem switchUpstream_posts (h : ∀ evt, routeEvt evt → P evt) (index : Nat)
    (gwAddrV4 gwAddrV6 : Prefix) (m : Manager) :
    Posts P m (m.switchUpstream index gwAddrV4 gwAddrV6) := by
  rw [switchUpstream]
  split
  · exact (delRoute_posts h _ _ m).trans (delRoute_posts h _ _ _)
  · exact .refl m

theorem announce_posts (h : ∀ evt, routeEvt evt → P evt) (index : Nat)
    (gwAddrV4 gwAddrV6 : Prefix) (m : Manager) :
    Posts P m (m.announce index gwAddrV4 gwAddrV6).2 :=
  announce_keeps (fun _ _ _ => delRoute_posts h _ _ m)
    (fun _ _ _ hm => hm.trans (addRoute_posts h _ _ _ _)) (.refl m) gwAddrV4 gwAddrV6

theorem setUpstream_posts (h : ∀ evt, routeEvt evt → P evt) (d : Devices)
    (gwAddrV4 gwAddrV6 : Prefix) (m : Manager) :
    Posts P m (m.setUpstream d (some name) gwAddrV4 gwAddrV6).2 := by
  rw [setUpstream]
  dsimp only
  split
  · exact .refl m
  · split
    · exact .of_eq (cacheEvent_posted _ _ _)
    · exact (switchUpstream_posts h _ _ _ m).trans (announce_posts h _ _ _ _)

theorem replayEntry_posts (h : m.Free kind)
    (hdown : ∀ pfx, ¬ kind .downstreamAdd (devName name) pfx →
      ∀ ix, P (.downstreamAdd ix pfx))
    (hup : ∀ pfx, ¬ kind .wanUpstreamRouteAdd (devName name) pfx →
      ∀ evt, routeEvt evt → P evt) (d : Devices) (i : CacheIndex) :
    Posts P m (m.replayEntry d name i) := by
  rw [replayEntry]
  dsimp only
  split
  · next hentry =>
      obtain ⟨hvalid, hname⟩ := hentry
      have hnot := h i hvalid
      rw [hname] at hnot
      refine Posts.trans ?_ (.of_eq rfl)
      split
      · next hevent =>
          rw [hevent] at hnot
          exact addDownstream_posts d (hdown _ hnot) m
      · next hevent =>
          rw [hevent] at hnot
          exact setUpstream_posts (hup _ hnot) d _ _ m
      · exact .refl m
  · exact .refl m

theorem searchFramworkCache_posts (h : m.Free kind)
    (hdown : ∀ pfx, ¬ kind .downstreamAdd (devName name) pfx →
      ∀ ix, P (.downstreamAdd ix pfx))
    (hup : ∀ pfx, ¬ kind .wanUpstreamRouteAdd (devName name) pfx →
      ∀ evt, routeEvt evt → P evt) (d : CacheIndex → Devices) :
    Posts P m (m.searchFramworkCache d name) := by
  refine (foldl_invariant (fun m' => m'.Free kind ∧ Posts P m m')
    (fun _ => True) ?_ ⟨h, .refl m⟩ _ fun _ _ => trivial).2
  intro m' i hm' _
  exact ⟨hm'.1.replayEntry (d i) name i,
    hm'.2.trans (replayEntry_posts hm'.1 hdown hup (d i) i)⟩

end Manager

end Axon7.Offload

/-!
# Removing a downstream

A downstream added before IPACM had configured its interface waits in the
cache. Removing it posts that it has gone, if the interface is there, and does
not look at the cache: what waits is posted when the interface appears, after
the removal.
-/

namespace Axon7.Offload

namespace Manager

/-- The event adds a downstream with the prefix. -/
def isAddOf (pfx : Prefix) : Evt → Bool
  | .downstreamAdd _ pfx' => pfx' = pfx
  | _ => false

/-- The call adds the downstream. -/
def Call.adds (name : IfName) (pfx : Prefix) : Call → Prop
  | .addDownstream _ name' pfx' => devName name' = devName name ∧ pfx' = pfx
  | _ => False

/-- From here on the downstream stays removed: until it is added again, no
replay for the interface adds it. -/
def StaysRemoved (name : IfName) (pfx : Prefix) (m : Manager) : Prop :=
  ∀ later : List Call, (∀ call ∈ later, ¬ call.adds name pfx) →
    ∀ d name', devName name' = devName name →
      Posts (fun evt => isAddOf pfx evt = false) (later.foldl step m)
        ((later.foldl step m).searchFramworkCache d name')

/-- The kind of the downstream's entries. -/
def downstreamOf (name : IfName) (pfx : Prefix) : Kind := fun event dev pfx' =>
  event = .downstreamAdd ∧ dev = devName name ∧ pfx' = pfx

variable {m : Manager} {name : IfName} {pfx : Prefix}

theorem not_asks_downstreamOf {call : Call} (h : ¬ call.adds name pfx) :
    ¬ call.asks (downstreamOf name pfx) := by
  intro hasks
  cases call with
  | addDownstream d name' pfx' => exact h hasks.2
  | removeDownstream d name' pfx' => exact hasks
  | setUpstream d name' gwAddrV4 gwAddrV6 =>
    cases name' with
    | none => exact hasks
    | some name' => exact absurd hasks.1 nofun
  | stopAllOffload d => exact hasks
  | searchFramworkCache d name' => exact hasks

theorem Free.staysRemoved (h : m.Free (downstreamOf name pfx)) :
    m.StaysRemoved name pfx := by
  intro later hlater d name' hname
  refine searchFramworkCache_posts
    (h.steps fun call hcall => not_asks_downstreamOf (hlater call hcall))
    (fun pfx' hkind ix => ?_) (fun _ _ evt hevt => ?_) d
  · rw [isAddOf, decide_eq_false_iff_not]
    exact fun heq => hkind ⟨rfl, hname, heq⟩
  · cases evt with
    | downstreamAdd ifIndex pfx' => exact absurd hevt id
    | downstreamDel ifIndex pfx' => rfl
    | routeAdd ipType ifIndex gw => rfl
    | routeDel ipType ifIndex gw => rfl

/-! ## Replays with everything configured -/

/-- All interfaces are there, and configured. -/
def ready : Devices where
  ifIndex _ := some 0
  checkNatIfaces _ _ := true

@[simp] theorem ready_ifIndex (name : IfName) : ready.ifIndex name = some 0 := rfl

@[simp] theorem cacheNeed_ready (name : IfName) (famV4 famV6 : IpFam) :
    cacheNeed ready name famV4 famV6 = false := by
  simp [cacheNeed, ready]

theorem addDownstream_ready (name : IfName) (pfx : Prefix) (m : Manager) :
    (m.addDownstream ready name pfx).2.eventCache = m.eventCache ∧
      (m.addDownstream ready name pfx).2.posted =
        m.posted ++ [.downstreamAdd 0 pfx] := by
  rw [addDownstream]
  simp only [ready_ifIndex, cacheNeed_ready, Bool.false_eq_true, if_false]
  by_cases hlisted : name ∈ m.validIfaces
  · rw [if_pos hlisted]
    exact ⟨rfl, rfl⟩
  · rw [if_neg hlisted]
    exact ⟨rfl, rfl⟩

theorem setUpstream_ready_cache (name : IfName) (gwAddrV4 gwAddrV6 : Prefix)
    (m : Manager) :
    (m.setUpstream ready (some name) gwAddrV4 gwAddrV6).2.eventCache =
      m.eventCache := by
  simp [setUpstream]

theorem replayEntry_ready_of_ne (name : IfName) {i j : CacheIndex} (hji : j ≠ i)
    (m : Manager) : (m.replayEntry ready name i).eventCache j =
      m.eventCache j := by
  rw [replayEntry]
  dsimp only
  split
  · show Function.update _ i _ j = _
    rw [Function.update_of_ne hji]
    split
    · rw [(addDownstream_ready _ _ m).1]
    · rw [setUpstream_ready_cache]
    · rfl
  · rfl

theorem replayEntry_ready_posted {i : CacheIndex}
    (hvalid : (m.eventCache i).valid = true)
    (hkind : downstreamOf name pfx (m.eventCache i).event
      (m.eventCache i).devName (m.eventCache i).prefixCache) :
    (m.replayEntry ready name i).posted = m.posted ++ [.downstreamAdd 0 pfx] := by
  obtain ⟨hevent, hname, hpfx⟩ := hkind
  rw [replayEntry]
  dsimp only
  rw [if_pos ⟨hvalid, hname⟩, hevent, hpfx]
  exact (addDownstream_ready name pfx m).2

theorem foldl_replayEntry_ready_of_notMem (name : IfName) {j : CacheIndex} :
    ∀ (turns : List CacheIndex) (m : Manager), j ∉ turns →
      (turns.foldl (fun m i => m.replayEntry ready name i) m).eventCache j =
        m.eventCache j := by
  intro turns
  induction turns with
  | nil => exact fun _ _ => rfl
  | cons i turns ih =>
    intro m hj
    rw [List.mem_cons, not_or] at hj
    rw [List.foldl_cons, ih _ hj.2]
    exact replayEntry_ready_of_ne name hj.1 m

theorem foldl_replayEntry_grows (d : Devices) (name : IfName) :
    ∀ (turns : List CacheIndex) (m : Manager),
      m.posted <+: (turns.foldl (fun m i => m.replayEntry d name i) m).posted := by
  intro turns
  induction turns with
  | nil => exact fun _ => List.prefix_rfl
  | cons i turns ih =>
    intro m
    obtain ⟨new, hnew, -⟩ := @replayEntry_posts m (fun _ _ _ => False)
      (fun _ => True) name (fun _ _ => id) (fun _ _ _ => trivial)
      (fun _ _ _ _ => trivial) d i
    refine List.IsPrefix.trans ?_ (ih (m.replayEntry d name i))
    rw [hnew]
    exact List.prefix_append _ _

theorem not_staysRemoved {i : CacheIndex}
    (hvalid : (m.eventCache i).valid = true)
    (hkind : downstreamOf name pfx (m.eventCache i).event
      (m.eventCache i).devName (m.eventCache i).prefixCache) :
    ¬ m.StaysRemoved name pfx := by
  intro h
  obtain ⟨new, hnew, hP⟩ := h [] nofun (fun _ => ready) name rfl
  rw [List.foldl_nil, searchFramworkCache] at hnew
  obtain ⟨before, after, hturns⟩ := List.append_of_mem (List.mem_finRange i)
  have hnodup := List.nodup_finRange maxEventCache
  rw [hturns] at hnew hnodup
  have hi : i ∉ before := fun hi =>
    (List.nodup_append.mp hnodup).2.2 i hi i List.mem_cons_self rfl
  rw [List.foldl_append, List.foldl_cons] at hnew
  have hkept := foldl_replayEntry_ready_of_notMem name before m hi
  obtain ⟨first, hfirst⟩ := foldl_replayEntry_grows ready name before m
  generalize before.foldl (fun m i => m.replayEntry ready name i) m = m' at *
  rw [← hkept] at hvalid hkind
  have hturn := replayEntry_ready_posted hvalid hkind
  obtain ⟨rest, hrest⟩ := foldl_replayEntry_grows ready name after
    (m'.replayEntry ready name i)
  rw [← hrest, hturn, ← hfirst, List.append_assoc, List.append_assoc,
    List.append_cancel_left_eq] at hnew
  have hbad := hP (.downstreamAdd 0 pfx) (by simp [← hnew])
  simp [isAddOf] at hbad

/-- Every downstream that a run removes stays removed, iff none of them is
cached when it is removed. -/
theorem run_staysRemoved_iff (calls : List Call) :
    (∀ pre d name pfx, pre ++ [.removeDownstream d name pfx] <+: calls →
      ((run pre).removeDownstream d name pfx).1 = .success →
      (run (pre ++ [.removeDownstream d name pfx])).StaysRemoved name pfx) ↔
    ∀ pre d name pfx, pre ++ [.removeDownstream d name pfx] <+: calls →
      ((run pre).removeDownstream d name pfx).1 = .success →
      (run pre).Free (downstreamOf name pfx) := by
  refine forall_congr' fun pre => forall_congr' fun d => forall_congr' fun name =>
    forall_congr' fun pfx => imp_congr_right fun _ => imp_congr_right fun _ => ?_
  have hcache : (run (pre ++ [.removeDownstream d name pfx])).eventCache =
      (run pre).eventCache := by
    rw [run, List.foldl_append]
    exact removeDownstream_cache d name pfx _
  constructor
  · intro h i hvalid hkind
    rw [← hcache] at hvalid hkind
    exact not_staysRemoved hvalid hkind h
  · exact fun h => (h.congr hcache).staysRemoved

/-- `wlan0` is added before it is configured, and removed; then it is
configured. -/
theorem addedTooEarly_returns :
    let early : Devices := ⟨fun _ => some 4, fun _ _ => false⟩
    let calls : List Call := [.addDownstream early "wlan0".toList (.blank .v4)]
    ((run calls).removeDownstream early "wlan0".toList (.blank .v4)).1 =
        .success ∧
      ¬ ((run calls).removeDownstream early "wlan0".toList
        (.blank .v4)).2.StaysRemoved "wlan0".toList (.blank .v4) := by
  refine ⟨by decide, ?_⟩
  exact @not_staysRemoved _ _ _ 0 (by decide) ⟨by decide, by decide, by decide⟩

end Manager

end Axon7.Offload
