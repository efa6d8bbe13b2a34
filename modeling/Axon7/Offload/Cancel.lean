import Axon7.Offload.Cache

/-!
# Removing the default route

An upstream that was asked for before IPACM had configured its interface waits
in the cache, next to the downstreams that wait there. Removing the default
route should take the waiting upstreams out of the cache, so that no replay
brings one back, and leave the downstreams. But a cache with an upstream in it
is cleared whole, and it is not looked at while there is a default gateway.
-/

namespace Axon7.Offload

namespace Manager

/-- A downstream is cached. -/
def pendingDownstream (entry : FrameworkEventCache) : Bool :=
  entry.valid && entry.event = .downstreamAdd

/-- The event announces a route. -/
def isRouteAdd : Evt → Bool
  | .routeAdd _ _ _ => true
  | _ => false

/-- The call gives the upstream of that name. -/
def Call.namesUpstream (name : IfName) : Call → Prop
  | .setUpstream _ (some name') _ _ => devName name' = devName name
  | _ => False

/-- `m'` is `m` with the upstreams cancelled, and nothing else: none is cached,
none is announced by a replay before it is named again, and the downstreams
cached are those that were. -/
structure Cancels (m m' : Manager) : Prop where
  upstreams : ∀ i, pendingUpstream (m'.eventCache i) = false
  quiet : ∀ (name : IfName) (later : List Call),
    (∀ call ∈ later, ¬ call.namesUpstream name) →
    ∀ d, Posts (fun evt => isRouteAdd evt = false) (later.foldl step m')
      ((later.foldl step m').searchFramworkCache d name)
  downstreams : ∀ i, pendingDownstream (m.eventCache i) = true →
    m'.eventCache i = m.eventCache i

/-- Either there is a gateway and no upstream waits, or there is none and
upstreams and downstreams do not wait together. -/
def Separate (m : Manager) : Prop :=
  if m.defaultGwIndex = invalidIface then
    (∃ i, pendingUpstream (m.eventCache i) = true) →
      ∀ i, pendingDownstream (m.eventCache i) = false
  else ∀ i, pendingUpstream (m.eventCache i) = false

variable {m m' : Manager} {name : IfName} {gwAddrV4 gwAddrV6 : Prefix}

/-- The kind of the upstreams of a name. -/
def upstreamOf (name : IfName) : Kind := fun event dev _ =>
  event = .wanUpstreamRouteAdd ∧ dev = devName name

theorem not_asks_upstreamOf {call : Call} (h : ¬ call.namesUpstream name) :
    ¬ call.asks (upstreamOf name) := by
  intro hasks
  cases call with
  | addDownstream d name' pfx => exact absurd hasks.1 nofun
  | removeDownstream d name' pfx => exact hasks
  | setUpstream d name' gwAddrV4 gwAddrV6 =>
    cases name' with
    | none => exact hasks
    | some name' => exact h hasks.2
  | stopAllOffload d => exact hasks
  | searchFramworkCache d name' => exact hasks

theorem quiet_of_upstreams
    (h : ∀ i, pendingUpstream (m.eventCache i) = false) {later : List Call}
    (hlater : ∀ call ∈ later, ¬ call.namesUpstream name)
    (d : CacheIndex → Devices) :
    Posts (fun evt => isRouteAdd evt = false) (later.foldl step m)
      ((later.foldl step m).searchFramworkCache d name) := by
  have hfree : m.Free (upstreamOf name) := by
    intro i hvalid hkind
    have hi := h i
    rw [pendingUpstream, hvalid, hkind.1] at hi
    exact absurd hi nofun
  exact searchFramworkCache_posts
    (hfree.steps fun call hcall => not_asks_upstreamOf (hlater call hcall))
    (fun _ _ _ => rfl) (fun _ hkind => absurd ⟨rfl, rfl⟩ hkind) d

theorem clearUpstream_cancels_iff (gwAddrV4 gwAddrV6 : Prefix) (m : Manager) :
    Cancels m (m.clearUpstream gwAddrV4 gwAddrV6).2 ↔ m.Separate := by
  have hcache := clearUpstream_cache gwAddrV4 gwAddrV6 m
  rw [Separate]
  by_cases hgw : m.defaultGwIndex = invalidIface
  · rw [if_pos hgw]
    by_cases hpending : ∃ i, pendingUpstream (m.eventCache i) = true
    · rw [if_pos ⟨hgw, hpending⟩] at hcache
      have hcleared : ∀ i, (m.clearUpstream gwAddrV4 gwAddrV6).2.eventCache i =
          .cleared := fun i => congrFun hcache i
      have hnone : ∀ i, pendingUpstream
          ((m.clearUpstream gwAddrV4 gwAddrV6).2.eventCache i) = false := by
        intro i
        rw [hcleared]
        rfl
      constructor
      · intro h _ i
        rw [Bool.eq_false_iff]
        intro hdown
        have hsame := h.downstreams i hdown
        rw [hcleared] at hsame
        rw [← hsame] at hdown
        exact absurd hdown nofun
      · intro h
        refine ⟨hnone, fun _ _ hlater d => quiet_of_upstreams hnone hlater d,
          fun i hdown => ?_⟩
        rw [h hpending i] at hdown
        exact absurd hdown nofun
    · rw [if_neg fun hand => hpending hand.2] at hcache
      have hnone : ∀ i, pendingUpstream (m.eventCache i) = false := fun i =>
        Bool.eq_false_iff.mpr fun hi => hpending ⟨i, hi⟩
      rw [← hcache] at hnone
      exact ⟨fun _ hex => absurd hex hpending, fun _ => ⟨hnone,
        fun _ _ hlater d => quiet_of_upstreams hnone hlater d,
        fun i _ => congrFun hcache i⟩⟩
  · rw [if_neg hgw]
    rw [if_neg fun hand => hgw hand.1] at hcache
    constructor
    · intro h
      rw [← hcache]
      exact h.upstreams
    · intro hnone
      rw [← hcache] at hnone
      exact ⟨hnone, fun _ _ hlater d => quiet_of_upstreams hnone hlater d,
        fun i _ => congrFun hcache i⟩

/-- Every removal of the default route in a run cancels what it should, iff
each finds the cache as it needs it. -/
theorem run_cancels_iff (calls : List Call) :
    (∀ pre d gwAddrV4 gwAddrV6, gwAddrV4.fam = .v4 → gwAddrV6.fam = .v6 →
      pre ++ [.setUpstream d none gwAddrV4 gwAddrV6] <+: calls →
      Cancels (run pre) (run (pre ++ [.setUpstream d none gwAddrV4 gwAddrV6]))) ↔
    ∀ pre d gwAddrV4 gwAddrV6, gwAddrV4.fam = .v4 → gwAddrV6.fam = .v6 →
      pre ++ [.setUpstream d none gwAddrV4 gwAddrV6] <+: calls →
      (run pre).Separate := by
  have hstep : ∀ pre d gwAddrV4 gwAddrV6,
      run (pre ++ [.setUpstream d none gwAddrV4 gwAddrV6]) =
        ((run pre).clearUpstream gwAddrV4 gwAddrV6).2 := by
    intro pre d gwAddrV4 gwAddrV6
    rw [run, List.foldl_append]
    rfl
  refine forall_congr' fun pre => forall_congr' fun d => forall_congr' fun gwAddrV4 =>
    forall_congr' fun gwAddrV6 => imp_congr_right fun _ => imp_congr_right fun _ =>
      imp_congr_right fun _ => ?_
  rw [hstep]
  exact clearUpstream_cancels_iff gwAddrV4 gwAddrV6 (run pre)

/-- `wlan0` waits as a downstream and `rmnet0` as the upstream, and the default
route is removed: `wlan0` is forgotten. With a gateway there already, `rmnet0`
is remembered. -/
theorem waiting_not_cancelled :
    let absent : Devices := ⟨fun _ => some 4, fun _ _ => false⟩
    let ready : Devices := ⟨fun _ => some 7, fun _ _ => true⟩
    let add : Call := .addDownstream absent "wlan0".toList (.blank .v4)
    let wait : Call :=
      .setUpstream absent (some "rmnet0".toList) (.blank .v4) (.blank .invalid)
    let route : Call :=
      .setUpstream ready (some "eth0".toList) (.blank .v4) (.blank .invalid)
    ¬ Cancels (run [add, wait])
        ((run [add, wait]).clearUpstream (.blank .v4) (.blank .v6)).2 ∧
      ¬ Cancels (run [route, wait])
        ((run [route, wait]).clearUpstream (.blank .v4) (.blank .v6)).2 := by
  refine ⟨fun h => ?_, fun h => ?_⟩
  · have hkept := h.downstreams 0 (by decide)
    exact absurd hkept (by decide)
  · exact absurd (h.upstreams 0) (by decide)

end Manager

end Axon7.Offload
