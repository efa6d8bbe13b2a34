import Axon7.Lib.LinkedList

/-!
# Events

`ipa_cm_event_id`, in the order of the source, which decides the queue an event is posted to.
The build has no `FEATURE_L2TP`.
-/

namespace Axon7.Dispatch

/-- `ipa_cm_event_id`. -/
inductive IpaCmEventId
  | cfgChange
  | privateSubnetChange
  | firewallChange
  | linkUp
  | linkDown
  | usbLinkUp
  | bridgeLinkUp
  | wanEmbmsLinkUp
  | addrAdd
  | addrDel
  | routeAdd
  | routeDel
  | wanUpstreamRouteAdd
  | wanUpstreamRouteDel
  | wlanApLinkUp
  | wlanStaLinkUp
  | wlanLinkDown
  | wlanClientAdd
  | wlanClientAddEx
  | wlanClientDel
  | wlanClientPowerSave
  | wlanClientRecover
  | newNeigh
  | delNeigh
  | neighClientIpAddrAdd
  | neighClientIpAddrDel
  | swRoutingEnable
  | swRoutingDisable
  | processCtMessage
  | processCtMessageV6
  | lanToLanNewConnection
  | lanToLanDelConnection
  | wlanSwitchToScc
  | wlanSwitchToMcc
  | cradleWanModeSwitch
  | wanXlatConnect
  | tetheringStatsUpdate
  | networkStatsUpdate
  | downstreamAdd
  | downstreamDel
  | externalEventMax
  | handleWanUp
  | handleWanDown
  | handleWanUpV6
  | handleWanDownV6
  | handleWanUpTether
  | handleWanDownTether
  | handleWanUpV6Tether
  | handleWanDownV6Tether
  | handleWlanUp
  | handleLanUp
  | ethBridgeIfaceUp
  | ethBridgeIfaceDown
  | ethBridgeClientAdd
  | ethBridgeClientDel
  | ethBridgeWlanSccMccSwitch
  | ssrNotice
  | lanDeleteSelf
  deriving DecidableEq

end Axon7.Dispatch

/-!
# The event dispatcher

`IPACM_EvtDispatcher` keeps who is to be told of an event in a list of cells, one for each
event a listener registers for. `registr` appends a cell and `deregistr` takes out and frees
all cells of a listener, wherever they are.
-/

namespace Axon7.Dispatch

open Lib

/-- `cmd_evts`, of listeners of a type. -/
structure CmdEvts (L : Type) where
  event : IpaCmEventId
  obj : L
  deriving DecidableEq

/-- `IPACM_EvtDispatcher`: its `head`, and the cells there are. -/
structure EvtDispatcher (L : Type) where
  heap : Heap (CmdEvts L) := ∅
  head : Option Nat := none

/-- The loop of `registr`, to the last cell. -/
def lastCell {α : Type} (heap : Heap α) : Nat → Nat → Except Fault Nat
  | 0, _ => .error .endless
  | fuel + 1, tmp => do
    let cell ← heap.read tmp
    match cell.next with
    | some next => lastCell heap fuel next
    | none => .ok tmp

namespace EvtDispatcher

variable {L : Type} [DecidableEq L]

/-- `registr`, with what `malloc` gives. -/
def registr (s : EvtDispatcher L) (nw : Option Nat) (event : IpaCmEventId) (obj : L) :
    Except Fault (EvtDispatcher L × Bool) :=
  match nw with
  | none => .ok (s, false)
  | some nw =>
    let heap : Heap (CmdEvts L) := s.heap.insert nw ⟨⟨event, obj⟩, none⟩
    match s.head with
    | none => .ok ({ heap, head := some nw }, true)
    | some head => do
      let last ← lastCell heap heap.size head
      let heap ← heap.setNext last (some nw)
      .ok ({ s with heap }, true)

/-- What `deregistr` does with a cell of the listener before it frees it. -/
def unlink (s : EvtDispatcher L) (tmp prev : Nat) (next : Option Nat) :
    Except Fault (EvtDispatcher L) :=
  if s.head = some tmp then .ok { s with head := next }
  else if next = none then do
    let heap ← s.heap.setNext prev none
    .ok { s with heap }
  else do
    let heap ← s.heap.setNext prev next
    .ok { s with heap }

/-- The loop of `deregistr`. -/
def deregistrLoop (param : L) :
    Nat → EvtDispatcher L → Option Nat → Nat → Except Fault (EvtDispatcher L)
  | _, s, none, _ => .ok s
  | 0, _, some _, _ => .error .endless
  | fuel + 1, s, some tmp, prev => do
    let cell ← s.heap.read tmp
    if cell.val.obj = param then
      let s ← s.unlink tmp prev cell.next
      deregistrLoop param fuel { s with heap := s.heap.erase tmp } cell.next prev
    else deregistrLoop param fuel s cell.next tmp

/-- `deregistr`. -/
def deregistr (s : EvtDispatcher L) (param : L) : Except Fault (EvtDispatcher L) :=
  match s.head with
  | none => .ok s
  | some head => deregistrLoop param s.heap.size s (some head) head

/-- The registrations there are, in order. -/
def Lists (s : EvtDispatcher L) (l : List (CmdEvts L)) : Prop :=
  ∃ cells, Chain s.heap s.head cells ∧ cells.map Prod.snd = l

end EvtDispatcher

/-! ## Appending -/

theorem lastCell_eq {α : Type} {heap : Heap α} {cells : List (Nat × α)} {p a fuel : Nat} {x : α}
    (hpath : Path heap (some p) (cells ++ [(a, x)]) none) (hfuel : cells.length < fuel) :
    lastCell heap fuel p = .ok a := by
  obtain ⟨fuel, rfl⟩ := Nat.exists_eq_succ_of_ne_zero (Nat.ne_zero_of_lt hfuel)
  induction cells generalizing p fuel with
  | nil =>
    obtain ⟨hp, next, hlookup, rfl⟩ := hpath
    obtain rfl : p = a := Option.some_inj.1 hp
    rw [lastCell, Heap.read_eq hlookup]
    rfl
  | cons cell cells ih =>
    obtain ⟨hp, next, hlookup, hrest⟩ := hpath
    obtain rfl : p = cell.1 := Option.some_inj.1 hp
    obtain ⟨b, rfl⟩ : ∃ b, next = some b := by
      rw [hrest.start]
      cases cells with
      | nil => exact ⟨a, rfl⟩
      | cons cell' cells => exact ⟨cell'.1, rfl⟩
    rw [List.length_cons] at hfuel
    obtain ⟨fuel, rfl⟩ := Nat.exists_eq_succ_of_ne_zero (show fuel ≠ 0 by omega)
    rw [lastCell, Heap.read_eq hlookup]
    exact ih hrest fuel (by omega)

namespace EvtDispatcher

variable {L : Type} {s : EvtDispatcher L} {cells : List (Nat × CmdEvts L)}

theorem registr_chain (hchain : Chain s.heap s.head cells) {nw : Nat}
    (hfresh : s.heap.lookup nw = none) (event : IpaCmEventId) (obj : L) :
    ∃ s', s.registr (some nw) event obj = .ok (s', true) ∧
      Chain s'.heap s'.head (cells ++ [(nw, ⟨event, obj⟩)]) := by
  have hnotMem := hchain.notMem_of_fresh hfresh
  have hnodup : ((cells ++ [(nw, (⟨event, obj⟩ : CmdEvts L))]).map Prod.fst).Nodup := by
    rw [List.map_append]
    exact hchain.nodup.append (List.nodup_singleton _) (by simpa using hnotMem)
  set cell : Cell (CmdEvts L) := ⟨⟨event, obj⟩, none⟩ with hcell
  have hlookup : (s.heap.insert nw cell).lookup nw = some cell := AList.lookup_insert _
  have hkept := hchain.path.insert_of_notMem hnotMem cell
  rcases List.eq_nil_or_concat' cells with rfl | ⟨older, ⟨a, x⟩, rfl⟩
  · have hhead : s.head = none := hchain.path
    rw [registr, hhead]
    exact ⟨_, rfl, ⟨rfl, none, hlookup, rfl⟩, hnodup⟩
  · obtain ⟨head, hhead⟩ : ∃ head, s.head = some head := by
      rw [hchain.path.start]
      cases older with
      | nil => exact ⟨a, rfl⟩
      | cons cell' older => exact ⟨cell'.1, rfl⟩
    have hlength := hchain.length_le
    rw [List.length_append, List.length_singleton] at hlength
    have hsize := Heap.size_insert hfresh cell
    have hlast : lastCell (s.heap.insert nw cell) (Heap.size (s.heap.insert nw cell)) head =
        .ok a := lastCell_eq (hhead ▸ hkept) (by omega)
    have hnext : Heap.setNext (s.heap.insert nw cell) a (some nw) =
        .ok ((s.heap.insert nw cell).insert a ⟨x, some nw⟩) :=
      Heap.setNext_eq hkept.lookup_last _
    have holder : a ∉ older.map Prod.fst := by
      have := hchain.nodup
      rw [List.map_append, List.nodup_append] at this
      exact fun hmem => this.2.2 a hmem a (by simp) rfl
    have hnw : nw ≠ a := by
      intro h
      exact hnotMem (by simp [h])
    refine ⟨{ s with heap := (s.heap.insert nw cell).insert a ⟨x, some nw⟩ }, ?_, ?_, hnodup⟩
    · rw [registr, hhead]
      dsimp only
      rw [hlast]
      change (Heap.setNext _ _ _).bind _ = _
      rw [hnext]
      rfl
    · refine (hkept.relink holder (some nw)).append ⟨rfl, none, ?_, rfl⟩
      rw [AList.lookup_insert_ne hnw, hlookup]

/-! ## Taking out -/

variable {kept rest : List (Nat × CmdEvts L)} {a prev : Nat} {x : CmdEvts L} {next : Option Nat}

theorem unlink_path (hkept : Path s.heap s.head kept (some a))
    (hrest : Path s.heap next rest none)
    (hnodup : ((kept ++ (a, x) :: rest).map Prod.fst).Nodup)
    (hprev : ∀ older b y, kept = older ++ [(b, y)] → prev = b) :
    ∃ s', s.unlink a prev next = .ok s' ∧ Path s'.heap s'.head kept next ∧
      Path s'.heap next rest none ∧
      ∀ b, s.heap.lookup b = none → s'.heap.lookup b = none := by
  rw [List.map_append, List.map_cons, List.nodup_append] at hnodup
  obtain ⟨hkeptNodup, -, hdisjoint⟩ := hnodup
  rcases List.eq_nil_or_concat' kept with rfl | ⟨older, ⟨b, y⟩, rfl⟩
  · have hhead : s.head = some a := hkept
    refine ⟨{ s with head := next }, ?_, rfl, hrest, fun _ hb => hb⟩
    rw [unlink, if_pos hhead]
  · have hne : ∀ c ∈ (older ++ [(b, y)]).map Prod.fst, c ≠ a := fun c hc =>
      hdisjoint c hc a List.mem_cons_self
    have hhead : s.head ≠ some a := by
      cases older with
      | nil =>
        rw [hkept.1]
        exact fun h => hne b (by simp) (Option.some_inj.1 h)
      | cons cell older =>
        rw [hkept.1]
        exact fun h => hne cell.1 (by simp) (Option.some_inj.1 h)
    have hlookup := hkept.lookup_last
    have holder : b ∉ older.map Prod.fst := by
      rw [List.map_append, List.nodup_append] at hkeptNodup
      exact fun hmem => hkeptNodup.2.2 b hmem b (by simp) rfl
    have hb : b ∉ rest.map Prod.fst := fun hmem =>
      hdisjoint b (by simp) b (List.mem_cons_of_mem _ hmem) rfl
    obtain rfl := hprev older b y rfl
    refine ⟨{ s with heap := s.heap.insert prev ⟨y, next⟩ }, ?_, hkept.relink holder next,
      hrest.insert_of_notMem hb _, ?_⟩
    · rw [unlink, if_neg hhead]
      cases next with
      | none => rw [if_pos rfl, Heap.setNext_eq hlookup]; rfl
      | some next => rw [if_neg (by simp), Heap.setNext_eq hlookup]; rfl
    · intro c hc
      rw [AList.lookup_insert_ne, hc]
      rintro rfl
      rw [hlookup] at hc
      exact absurd hc (by simp)

variable [DecidableEq L]

theorem deregistrLoop_chain (param : L) (prev : Nat) {tmp : Option Nat} {fuel : Nat}
    (hkept : Path s.heap s.head kept tmp) (hrest : Path s.heap tmp rest none)
    (hnodup : ((kept ++ rest).map Prod.fst).Nodup)
    (hprev : ∀ older b y, kept = older ++ [(b, y)] → prev = b) (hfuel : rest.length ≤ fuel) :
    ∃ s', deregistrLoop param fuel s tmp prev = .ok s' ∧
      Chain s'.heap s'.head (kept ++ rest.filter (·.2.obj ≠ param)) ∧
      (∀ cell ∈ rest, cell.2.obj = param → s'.heap.lookup cell.1 = none) ∧
      ∀ b, s.heap.lookup b = none → s'.heap.lookup b = none := by
  induction rest generalizing s kept tmp prev fuel with
  | nil =>
    obtain rfl : tmp = none := hrest
    rw [List.append_nil] at hnodup
    refine ⟨s, by rw [deregistrLoop], ?_, by simp, fun _ hb => hb⟩
    rw [List.filter_nil, List.append_nil]
    exact ⟨hkept, hnodup⟩
  | cons cell rest ih =>
    obtain ⟨rfl, next, hlookup, hrest⟩ := hrest
    rw [List.length_cons] at hfuel
    obtain ⟨fuel, rfl⟩ := Nat.exists_eq_succ_of_ne_zero (show fuel ≠ 0 by omega)
    rw [deregistrLoop, Heap.read_eq hlookup]
    by_cases hobj : cell.2.obj = param
    · obtain ⟨s₁, hunlink, hkept₁, hrest₁, hfreed₁⟩ := unlink_path hkept hrest hnodup hprev
      have hnodup' := hnodup
      rw [List.map_append, List.map_cons, List.nodup_append, List.nodup_cons] at hnodup'
      obtain ⟨hkeptNodup, ⟨hnotRest, hrestNodup⟩, hdisjoint⟩ := hnodup'
      have hnotKept : cell.1 ∉ kept.map Prod.fst := fun hmem =>
        hdisjoint _ hmem _ List.mem_cons_self rfl
      have hnodup₂ : ((kept ++ rest).map Prod.fst).Nodup := by
        rw [List.map_append, List.nodup_append]
        exact ⟨hkeptNodup, hrestNodup,
          fun b hb c hc => hdisjoint b hb c (List.mem_cons_of_mem _ hc)⟩
      obtain ⟨s', hloop, hchain, hgone, hfreed⟩ :=
        ih (s := { s₁ with heap := s₁.heap.erase cell.1 }) prev
          (hkept₁.erase_of_notMem hnotKept) (hrest₁.erase_of_notMem hnotRest) hnodup₂ hprev
          (show rest.length ≤ fuel by omega)
      have hcell : s'.heap.lookup cell.1 = none := hfreed _ (AList.lookup_erase _ _)
      refine ⟨s', ?_, ?_, ?_, ?_⟩
      · change (if cell.2.obj = param then (s.unlink cell.1 prev next).bind _ else _) = _
        rw [if_pos hobj, hunlink]
        exact hloop
      · rwa [List.filter_cons_of_neg (by simpa using hobj)]
      · exact List.forall_mem_cons.2 ⟨fun _ => hcell, hgone⟩
      · intro b hb
        refine hfreed b ?_
        by_cases hbcell : b = cell.1
        · rw [hbcell]
          exact AList.lookup_erase _ _
        · exact (AList.lookup_erase_ne hbcell).trans (hfreed₁ b hb)
    · have hkept' : Path s.heap s.head (kept ++ [cell]) next :=
        hkept.append ⟨rfl, next, hlookup, rfl⟩
      have hprev' : ∀ older b y, kept ++ [cell] = older ++ [(b, y)] → cell.1 = b := by
        intro older b y h
        have hcell : cell = (b, y) := by simpa using (List.append_inj' h rfl).2
        rw [hcell]
      obtain ⟨s', hloop, hchain, hgone, hfreed⟩ := ih cell.1 hkept' hrest
        (by rwa [List.append_assoc]) hprev' (show rest.length ≤ fuel by omega)
      refine ⟨s', ?_, ?_, ?_, hfreed⟩
      · change (if cell.2.obj = param then _ else _) = _
        rw [if_neg hobj]
        exact hloop
      · rwa [List.filter_cons_of_pos (by simpa using hobj), List.append_cons]
      · exact List.forall_mem_cons.2 ⟨fun h => absurd h hobj, hgone⟩

theorem deregistr_chain (hchain : Chain s.heap s.head cells) (param : L) :
    ∃ s', s.deregistr param = .ok s' ∧
      Chain s'.heap s'.head (cells.filter (·.2.obj ≠ param)) ∧
      (∀ cell ∈ cells, cell.2.obj = param → s'.heap.lookup cell.1 = none) ∧
      ∀ b, s.heap.lookup b = none → s'.heap.lookup b = none := by
  cases cells with
  | nil =>
    have hhead : s.head = none := hchain.path
    refine ⟨s, ?_, hchain, by simp, fun _ hb => hb⟩
    rw [deregistr, hhead]
  | cons cell cells =>
    have hhead : s.head = some cell.1 := hchain.path.1
    have hnone : Path s.heap s.head ([] : List (Nat × CmdEvts L)) s.head := rfl
    obtain ⟨s', hloop, hchain', hgone⟩ := deregistrLoop_chain param cell.1 hnone hchain.path
      hchain.nodup (by simp) hchain.length_le
    refine ⟨s', ?_, hchain', hgone⟩
    rw [deregistr, hhead]
    dsimp only
    rwa [hhead] at hloop

/-! ## The registrations -/

omit [DecidableEq L] in
theorem Lists.registr {l : List (CmdEvts L)} (h : s.Lists l) {nw : Nat}
    (hfresh : s.heap.lookup nw = none) (event : IpaCmEventId) (obj : L) :
    ∃ s', s.registr (some nw) event obj = .ok (s', true) ∧ s'.Lists (l ++ [⟨event, obj⟩]) := by
  obtain ⟨cells, hchain, rfl⟩ := h
  obtain ⟨s', hregistr, hchain'⟩ := registr_chain hchain hfresh event obj
  exact ⟨s', hregistr, _, hchain', by rw [List.map_append]; rfl⟩

theorem Lists.deregistr {l : List (CmdEvts L)} (h : s.Lists l) (param : L) :
    ∃ s', s.deregistr param = .ok s' ∧ s'.Lists (l.filter (·.obj ≠ param)) := by
  obtain ⟨cells, hchain, rfl⟩ := h
  obtain ⟨s', hderegistr, hchain', -⟩ := deregistr_chain hchain param
  exact ⟨s', hderegistr, _, hchain', by rw [List.filter_map]; rfl⟩

end EvtDispatcher

end Axon7.Dispatch
