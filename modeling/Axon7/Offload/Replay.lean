import Axon7.Offload.Waiting

/-!
# Replaying the cache

What waits in the cache and what has been posted are counted together: an event that is
replayed should be posted, once for each family it gives, or be put back. But the loop of
`search_framwork_cache` gives up the slot whatever has become of the call. With the cache
full there is no slot to put the event back into, and what the call posts nothing for is
gone as well.
-/

namespace Axon7.Offload

open Axon7.Lib

namespace Manager

/-- A replay for the interface loses nothing: of what waited, some has been `posted`, each
once for each family, and is for that interface, which no check keeps waiting; all else
waits, and nothing besides. -/
def LosesNothing (d : Devices) (name : IfName) (m m' : Manager) : Prop :=
  ∃ posted : Multiset Waiting,
    m.waiting = m'.waiting + posted ∧
      (∀ w ∈ posted, w.dev = devName name ∧ w.held d name = false) ∧
      m'.announced = m.announced + posted.bind Waiting.postings

/-! ## When a replay loses nothing -/

/-- What the loop finds for the interface in these slots, in their order. -/
def due (name : IfName) (m : Manager) (slots : List CacheIndex) : List Waiting :=
  slots.filterMap fun i => (m.eventCache i).waiting?.filter (·.dev = devName name)

/-- The upstreams can, one after the other. Each leaves up the families it gives. -/
def Announces : (IpType → Bool) → List Waiting → Prop
  | _, [] => True
  | up, w :: ws =>
    CanAnnounceAll up w ∧ Announces (fun ipType => (w.gateway? ipType).isSome) ws

/-- The upstreams among them that the check lets pass. -/
def upstreams (d : Devices) (name : IfName) (ws : List Waiting) : List Waiting :=
  ws.filter fun w => w matches .upstream .. && !w.held d name

/-- What is due in the slots is posted or put back: the interface is there; with the
cache full, the first event is not one to put back; and each upstream that is not put
back announces all its families. -/
structure Replayable (d : Devices) (name : IfName) (m : Manager)
    (slots : List CacheIndex) : Prop where
  device : m.due name slots ≠ [] → (d.ifIndex name).isSome = true
  room : m.Full → ∀ w ∈ (m.due name slots).head?, w.held d name = false
  routes : ∀ index ∈ d.ifIndex name,
    Announces (m.upFor index) (upstreams d name (m.due name slots))

variable {m m' m'' : Manager} {d : Devices} {name : IfName} {w : Waiting}
  {i : CacheIndex} {slots : List CacheIndex} {index : Nat} {dev : IfName}
  {gwAddrV4 gwAddrV6 : Prefix}

theorem LosesNothing.refl (m : Manager) : LosesNothing d name m m :=
  ⟨0, by simp, by simp, by simp⟩

theorem LosesNothing.trans (h : LosesNothing d name m m')
    (h' : LosesNothing d name m' m'') : LosesNothing d name m m'' := by
  obtain ⟨posted, hwaiting, hposted, hannounced⟩ := h
  obtain ⟨posted', hwaiting', hposted', hannounced'⟩ := h'
  refine ⟨posted' + posted, ?_, ?_, ?_⟩
  · rw [hwaiting, hwaiting', add_assoc]
  · intro w hw
    obtain hw | hw := Multiset.mem_add.mp hw
    · exact hposted' w hw
    · exact hposted w hw
  · rw [hannounced', hannounced, Multiset.add_bind, add_assoc,
      add_comm (posted'.bind _)]

theorem LosesNothing.total (h : LosesNothing d name m m') : m'.total = m.total := by
  obtain ⟨posted, hwaiting, -, hannounced⟩ := h
  rw [Manager.total, Manager.total, hwaiting, hannounced, Multiset.add_bind]
  abel

/-! ## The entries -/

/-- The valid entries are as the calls fill them, and there is something to post. -/
def Genuine (m : Manager) : Prop :=
  ∀ i, (m.eventCache i).valid = true →
    ∃ w, (m.eventCache i).waiting? = some w ∧ w.postings ≠ 0

theorem Waiting.route_eq_zero_iff {ipType : IpType} :
    w.route ipType = 0 ↔ (w.gateway? ipType).isSome = false := by
  rw [Waiting.route]
  cases w.gateway? ipType with
  | none => exact ⟨fun _ => rfl, fun _ => rfl⟩
  | some gw => exact ⟨fun h => absurd h (Multiset.singleton_ne_zero _), (by rintro ⟨⟩)⟩

theorem gives_of_postings (hw : w = .upstream dev gwAddrV4 gwAddrV6) (h : w.postings ≠ 0) :
    w.Gives := by
  by_contra hgives
  have hnone : ∀ ipType, w.route ipType = 0 := fun ipType =>
    Waiting.route_eq_zero_iff.mpr (Bool.eq_false_iff.mpr fun hsome => hgives ⟨ipType, hsome⟩)
  have hpostings : w.postings = w.route .v4 + w.route .v6 := by rw [hw]; rfl
  rw [hpostings, hnone .v4, hnone .v6] at h
  exact h (add_zero 0)

theorem postings_ne_zero_of_held (hheld : w.held d name = true) : w.postings ≠ 0 := by
  cases w with
  | downstream dev pfx => exact Multiset.singleton_ne_zero _
  | upstream dev gwAddrV4 gwAddrV6 =>
    intro hzero
    have h4 := Multiset.le_zero.mp ((Multiset.le_add_right _ _).trans hzero.le)
    have h6 := Multiset.le_zero.mp ((Multiset.le_add_left _ _).trans hzero.le)
    rw [Waiting.route_eq_zero_iff] at h4 h6
    have hneed : cacheNeed d name gwAddrV4.fam gwAddrV6.fam = true := hheld
    simp [cacheNeed] at hneed
    obtain ⟨hfam, -⟩ | ⟨hfam, -⟩ := hneed
    · simp [Waiting.gateway?, hfam] at h4
    · simp [Waiting.gateway?, hfam] at h6

theorem redo_cache (hdev : w.dev = devName name) :
    (m.redo d name w).eventCache = m.eventCache ∨
      w.held d name = true ∧ ∃ j entry, (m.eventCache j).valid = false ∧
        entry.valid = true ∧ entry.waiting? = some w ∧
        (m.redo d name w).eventCache = Function.update m.eventCache j entry := by
  cases hindex : d.ifIndex name with
  | none =>
    rw [redo_absent hindex]
    exact .inl rfl
  | some index =>
    cases hheld : w.held d name with
    | true =>
      obtain ⟨-, ⟨-, hcache⟩ | hput⟩ := redo_held (m := m) hdev hindex hheld
      · exact .inl hcache
      · exact .inr ⟨rfl, hput⟩
    | false => exact .inl (redo_cache_of_not_held hindex hheld)

theorem Genuine.congr (h : m.Genuine) (hcache : m'.eventCache = m.eventCache) :
    m'.Genuine := by
  rw [Genuine, hcache]
  exact h

theorem Genuine.update (h : m.Genuine) {entry : FrameworkEventCache}
    (hcache : m'.eventCache = Function.update m.eventCache i entry)
    (hentry : entry.valid = true → ∃ w, entry.waiting? = some w ∧ w.postings ≠ 0) :
    m'.Genuine := by
  intro j
  rw [hcache]
  by_cases hji : j = i
  · rw [hji, Function.update_self]
    exact hentry
  · rw [Function.update_of_ne hji]
    exact h j

theorem Genuine.redo (h : m.Genuine) (hdev : w.dev = devName name) :
    (m.redo d name w).Genuine := by
  obtain hcache | ⟨hheld, j, entry, -, -, hentry, hcache⟩ := redo_cache hdev
  · exact h.congr hcache
  · exact h.update hcache fun _ => ⟨w, hentry, postings_ne_zero_of_held hheld⟩

theorem replayEntry_of_not_due (hm : m.Genuine)
    (hdue : ∀ w, (m.eventCache i).waiting? = some w → w.dev ≠ devName name) :
    m.replayEntry d name i = m := by
  rw [replayEntry]
  dsimp only
  refine if_neg ?_
  rintro ⟨hvalid, hdev⟩
  obtain ⟨w, hw, -⟩ := hm i hvalid
  refine hdue w hw ?_
  rw [FrameworkEventCache.waiting?, if_pos hvalid] at hw
  rw [← hdev]
  cases hevent : (m.eventCache i).event with
  | other =>
    rw [hevent] at hw
    cases hw
  | downstreamAdd =>
    rw [hevent] at hw
    exact Option.some.inj hw ▸ rfl
  | wanUpstreamRouteAdd =>
    rw [hevent] at hw
    exact Option.some.inj hw ▸ rfl

theorem Genuine.replayEntry (h : m.Genuine) (i : CacheIndex) :
    (m.replayEntry d name i).Genuine := by
  by_cases hdue : ∃ w, (m.eventCache i).waiting? = some w ∧ w.dev = devName name
  · obtain ⟨w, hw, hdev⟩ := hdue
    rw [replayEntry_of_due hw hdev]
    exact (h.redo hdev).update rfl fun hvalid => absurd hvalid nofun
  · rw [replayEntry_of_not_due h fun w hw hdev => hdue ⟨w, hw, hdev⟩]
    exact h

theorem Genuine.step (h : m.Genuine) (call : Call) : (m.step call).Genuine := by
  cases call with
  | addDownstream d name pfx =>
    exact h.redo (w := .downstream (devName name) pfx) rfl
  | removeDownstream d name pfx => exact h.congr (removeDownstream_cache d name pfx m)
  | setUpstream d name gwAddrV4 gwAddrV6 =>
    cases name with
    | none =>
      have hcache := clearUpstream_cache gwAddrV4 gwAddrV6 m
      split at hcache
      · intro i hvalid
        change ((m.clearUpstream gwAddrV4 gwAddrV6).2.eventCache i).valid = true at hvalid
        rw [hcache] at hvalid
        exact absurd hvalid Bool.false_ne_true
      · exact h.congr hcache
    | some name => exact h.redo (w := .upstream (devName name) gwAddrV4 gwAddrV6) rfl
  | stopAllOffload d => exact fun _ hvalid => absurd hvalid Bool.false_ne_true
  | searchFramworkCache d name =>
    exact foldl_invariant Genuine (fun _ => True)
      (fun _ i hm _ => hm.replayEntry i) h _ fun _ _ => trivial

theorem genuine_run (calls : List Call) : (run calls).Genuine :=
  foldl_invariant Genuine (fun _ => True) (fun _ call hm _ => hm.step call)
    (fun _ hvalid => absurd hvalid Bool.false_ne_true) calls fun _ _ => trivial

/-! ## One turn of the loop -/

theorem due_cons (hw : (m.eventCache i).waiting? = some w) (hdev : w.dev = devName name) :
    m.due name (i :: slots) = w :: m.due name slots := by
  rw [due, List.filterMap_cons_some (b := w)]
  · rfl
  · rw [hw]
    simpa using hdev

theorem due_cons_of_not_due
    (hdue : ∀ w, (m.eventCache i).waiting? = some w → w.dev ≠ devName name) :
    m.due name (i :: slots) = m.due name slots := by
  rw [due, List.filterMap_cons_none]
  · rfl
  · rw [Option.filter_eq_none_iff]
    intro w hw
    simpa using hdue w hw

theorem due_congr (h : ∀ j ∈ slots, m'.eventCache j = m.eventCache j) :
    m'.due name slots = m.due name slots :=
  List.filterMap_congr fun j hj => by rw [h j hj]

theorem upstreams_due_congr {j : CacheIndex} {entry : FrameworkEventCache}
    (hfree : (m.eventCache j).valid = false) (hentry : entry.waiting? = some w)
    (hheld : w.held d name = true)
    (h : ∀ k ∈ slots, m'.eventCache k = Function.update m.eventCache j entry k) :
    upstreams d name (m'.due name slots) = upstreams d name (m.due name slots) := by
  rw [upstreams, upstreams, due, due, List.filter_filterMap, List.filter_filterMap]
  refine List.filterMap_congr fun k hk => ?_
  rw [h k hk]
  by_cases hkj : k = j
  · have hnone : (m.eventCache j).waiting? = none := by
      rw [FrameworkEventCache.waiting?, hfree]
      rfl
    rw [hkj, Function.update_self, hentry, hnone]
    by_cases hdev : w.dev = devName name <;> simp [Option.filter, hdev, hheld]
  · rw [Function.update_of_ne hkj]

theorem replayable_cons_iff (hw : (m.eventCache i).waiting? = some w)
    (hdev : w.dev = devName name) (hindex : d.ifIndex name = some index) :
    Replayable d name m (i :: slots) ↔ (m.Full → w.held d name = false) ∧
      Announces (m.upFor index) (upstreams d name (w :: m.due name slots)) := by
  constructor
  · intro h
    have hroom := h.room
    have hroutes := h.routes index hindex
    rw [due_cons hw hdev] at hroom hroutes
    exact ⟨fun hfull => hroom hfull w rfl, hroutes⟩
  · rintro ⟨hroom, hroutes⟩
    refine ⟨fun _ => by rw [hindex]; rfl, ?_, ?_⟩
    · intro hfull w' hw'
      rw [due_cons hw hdev] at hw'
      exact Option.some.inj hw' ▸ hroom hfull
    · intro index' hindex'
      rw [hindex] at hindex'
      rw [due_cons hw hdev]
      exact Option.some.inj hindex' ▸ hroutes

theorem replayable_of_free (hfree : (m.eventCache i).valid = false)
    (hindex : d.ifIndex name = some index) :
    Replayable d name m slots ↔
      Announces (m.upFor index) (upstreams d name (m.due name slots)) := by
  constructor
  · exact fun h => h.routes index hindex
  · intro hroutes
    refine ⟨fun _ => by rw [hindex]; rfl, fun hfull => ?_, ?_⟩
    · have hi := hfull i
      rw [hfree] at hi
      exact absurd hi Bool.false_ne_true
    · intro index' hindex'
      rw [hindex] at hindex'
      exact Option.some.inj hindex' ▸ hroutes

theorem giveUp_eventCache (m : Manager) (i : CacheIndex) :
    (m.giveUp i).eventCache =
      Function.update m.eventCache i { m.eventCache i with valid := false } := rfl

theorem waiting_giveUp (m : Manager) (i : CacheIndex) :
    (m.giveUp i).waiting + (m.eventCache i).waits = m.waiting :=
  (waiting_update (giveUp_eventCache m i)).trans (add_zero _)

theorem giveUp_lost (hw : (m.eventCache i).waiting? = some w)
    (hcache : m'.eventCache = m.eventCache)
    (hannounced : m'.announced < m.announced + w.postings) :
    (m'.giveUp i).total < m.total := by
  have hwaiting := waiting_giveUp m' i
  have hsame : m'.waiting = m.waiting := by rw [waiting, waiting, hcache]
  rw [hcache, waits_of_waiting? hw, hsame] at hwaiting
  rw [total, total, ← hwaiting, Multiset.add_bind, Multiset.singleton_bind, add_assoc,
    add_comm w.postings]
  exact add_lt_add_right hannounced _

theorem giveUp_posted (hw : (m.eventCache i).waiting? = some w) (hdev : w.dev = devName name)
    (hheld : w.held d name = false) (hcache : m'.eventCache = m.eventCache)
    (hannounced : m'.announced = m.announced + w.postings) :
    LosesNothing d name m (m'.giveUp i) := by
  have hwaiting := waiting_giveUp m' i
  have hsame : m'.waiting = m.waiting := by rw [waiting, waiting, hcache]
  rw [hcache, waits_of_waiting? hw, hsame] at hwaiting
  refine ⟨{w}, hwaiting.symm, ?_, ?_⟩
  · intro w' hw'
    obtain rfl := Multiset.mem_singleton.mp hw'
    exact ⟨hdev, hheld⟩
  · rw [Multiset.singleton_bind]
    exact hannounced

theorem giveUp_putBack {j : CacheIndex} {entry : FrameworkEventCache}
    (hw : (m.eventCache i).waiting? = some w) (hfree : (m.eventCache j).valid = false)
    (hentry : entry.waiting? = some w)
    (hcache : m'.eventCache = Function.update m.eventCache j entry)
    (hannounced : m'.announced = m.announced) :
    LosesNothing d name m (m'.giveUp i) := by
  have hij : i ≠ j := by
    rintro rfl
    rw [valid_of_waiting? hw] at hfree
    exact absurd hfree.symm Bool.false_ne_true
  have hput := waiting_update hcache
  rw [waits_of_not_valid hfree, waits_of_waiting? hentry, add_zero] at hput
  have hwaiting := waiting_giveUp m' i
  rw [hcache, Function.update_of_ne hij, waits_of_waiting? hw, hput] at hwaiting
  refine ⟨0, ?_, fun _ h => absurd h (Multiset.notMem_zero _), ?_⟩
  · rw [add_zero]
    exact (Multiset.add_left_inj.mp hwaiting).symm
  · rw [Multiset.zero_bind, add_zero]
    exact hannounced

/-- A turn of the loop, with the slots still to come: something is lost, and they were
not replayable; or nothing is, and they are as replayable as before. -/
def TurnOk (d : Devices) (name : IfName) (i : CacheIndex) (slots : List CacheIndex)
    (m m' : Manager) : Prop :=
  m'.total < m.total ∧ ¬ Replayable d name m (i :: slots) ∨
    LosesNothing d name m m' ∧
      (Replayable d name m (i :: slots) ↔ Replayable d name m' slots)

theorem replayEntry_absent (hw : (m.eventCache i).waiting? = some w)
    (hdev : w.dev = devName name) (hpostings : w.postings ≠ 0)
    (hindex : d.ifIndex name = none) : TurnOk d name i slots m (m.replayEntry d name i) := by
  rw [replayEntry_of_due hw hdev, redo_absent hindex]
  refine .inl ⟨giveUp_lost hw rfl (lt_add_of_pos_right _ hpostings.bot_lt), fun h => ?_⟩
  have hdevice := h.device (by rw [due_cons hw hdev]; exact List.cons_ne_nil _ _)
  rw [hindex] at hdevice
  exact absurd hdevice Bool.false_ne_true

theorem giveUp_free (m : Manager) (i : CacheIndex) :
    ((m.giveUp i).eventCache i).valid = false := by
  rw [giveUp_eventCache, Function.update_self]

theorem giveUp_other {j : CacheIndex} (m : Manager) (h : j ≠ i) :
    (m.giveUp i).eventCache j = m.eventCache j := by
  rw [giveUp_eventCache, Function.update_of_ne h]

theorem replayEntry_held (hi : i ∉ slots) (hw : (m.eventCache i).waiting? = some w)
    (hdev : w.dev = devName name) (hindex : d.ifIndex name = some index)
    (hheld : w.held d name = true) : TurnOk d name i slots m (m.replayEntry d name i) := by
  rw [replayEntry_of_due hw hdev]
  obtain ⟨halike, ⟨hfull, hcache⟩ | ⟨j, entry, hfree, -, hentry, hcache⟩⟩ :=
    redo_held (m := m) hdev hindex hheld
  · refine .inl ⟨giveUp_lost hw hcache ?_, ?_⟩
    · rw [halike.announced]
      exact lt_add_of_pos_right _ (postings_ne_zero_of_held hheld).bot_lt
    · intro h
      have hroom := ((replayable_cons_iff hw hdev hindex).mp h).1 hfull
      rw [hheld] at hroom
      exact absurd hroom.symm Bool.false_ne_true
  · refine .inr ⟨giveUp_putBack hw hfree hentry hcache halike.announced, ?_⟩
    have hkept : upstreams d name (((m.redo d name w).giveUp i).due name slots) =
        upstreams d name (m.due name slots) := by
      refine upstreams_due_congr hfree hentry hheld fun k hk => ?_
      rw [giveUp_other _ fun hki : k = i => hi (hki ▸ hk), hcache]
    have hskip : upstreams d name (w :: m.due name slots) =
        upstreams d name (m.due name slots) := by
      rw [upstreams, List.filter_cons_of_neg]
      · rfl
      · simp [hheld]
    have hup : ((m.redo d name w).giveUp i).upFor index = m.upFor index := halike.upFor index
    rw [replayable_cons_iff hw hdev hindex,
      replayable_of_free (giveUp_free _ i) hindex, hkept, hskip, hup]
    refine ⟨And.right, fun hroutes => ⟨fun hfull => ?_, hroutes⟩⟩
    have hj := hfull j
    rw [hfree] at hj
    exact absurd hj Bool.false_ne_true

theorem due_of_not_held (hi : i ∉ slots) (hindex : d.ifIndex name = some index)
    (hheld : w.held d name = false) :
    ((m.redo d name w).giveUp i).due name slots = m.due name slots := by
  refine due_congr fun k hk => ?_
  rw [giveUp_other _ fun hki : k = i => hi (hki ▸ hk), redo_cache_of_not_held hindex hheld]

theorem replayEntry_posted (hi : i ∉ slots) (hw : (m.eventCache i).waiting? = some w)
    (hdev : w.dev = devName name) (hpostings : w.postings ≠ 0)
    (hindex : d.ifIndex name = some index) (hheld : w.held d name = false) :
    TurnOk d name i slots m (m.replayEntry d name i) := by
  have hcache := redo_cache_of_not_held (m := m) hindex hheld
  have hdue := due_of_not_held (m := m) hi hindex hheld
  rw [replayEntry_of_due hw hdev, TurnOk, replayable_cons_iff hw hdev hindex,
    replayable_of_free (giveUp_free _ i) hindex, hdue]
  cases hkind : w with
  | downstream dev pfx =>
    rw [← hkind]
    obtain ⟨hannounced, hup⟩ : (m.redo d name w).announced = m.announced + w.postings ∧
        (m.redo d name w).upFor index = m.upFor index := by
      rw [hkind] at hheld ⊢
      exact redo_downstream hindex hheld
    have hskip : upstreams d name (w :: m.due name slots) =
        upstreams d name (m.due name slots) := by
      rw [upstreams, List.filter_cons_of_neg]
      · rfl
      · simp [hkind]
    have hup' : ((m.redo d name w).giveUp i).upFor index = m.upFor index := hup
    refine .inr ⟨giveUp_posted hw hdev hheld hcache hannounced, ?_⟩
    rw [hskip, hup']
    exact ⟨And.right, fun hroutes => ⟨fun _ => hheld, hroutes⟩⟩
  | upstream dev gwAddrV4 gwAddrV6 =>
    rw [← hkind]
    obtain ⟨hcan, hcannot⟩ :=
      redo_upstream (m := m) hindex hkind (gives_of_postings hkind hpostings) hheld
    have htake : upstreams d name (w :: m.due name slots) =
        w :: upstreams d name (m.due name slots) := by
      rw [upstreams, List.filter_cons_of_pos]
      · rfl
      · simp [hkind] at hheld ⊢
        exact hheld
    rw [htake, Announces]
    by_cases hall : CanAnnounceAll (m.upFor index) w
    · obtain ⟨hannounced, hup⟩ := hcan hall
      have hup' : ((m.redo d name w).giveUp i).upFor index =
          fun ipType => (w.gateway? ipType).isSome := hup
      refine .inr ⟨giveUp_posted hw hdev hheld hcache hannounced, ?_⟩
      rw [hup']
      exact ⟨fun h => h.2.2, fun hroutes => ⟨fun _ => hheld, hall, hroutes⟩⟩
    · exact .inl ⟨giveUp_lost hw hcache (hcannot hall), fun h => hall h.2.1⟩

theorem replayEntry_turnOk (hm : m.Genuine) (hi : i ∉ slots) :
    TurnOk d name i slots m (m.replayEntry d name i) := by
  by_cases hdue : ∃ w, (m.eventCache i).waiting? = some w ∧ w.dev = devName name
  · obtain ⟨w, hw, hdev⟩ := hdue
    have hpostings : w.postings ≠ 0 := by
      obtain ⟨w', hw', hpostings⟩ := hm i (valid_of_waiting? hw)
      exact Option.some.inj (hw'.symm.trans hw) ▸ hpostings
    cases hindex : d.ifIndex name with
    | none => exact replayEntry_absent hw hdev hpostings hindex
    | some index =>
      cases hheld : w.held d name with
      | true => exact replayEntry_held hi hw hdev hindex hheld
      | false => exact replayEntry_posted hi hw hdev hpostings hindex hheld
  · have hnot : ∀ w, (m.eventCache i).waiting? = some w → w.dev ≠ devName name :=
      fun w hw hdev => hdue ⟨w, hw, hdev⟩
    rw [replayEntry_of_not_due hm hnot]
    refine .inr ⟨.refl m, ?_⟩
    constructor
    · intro h
      have hdevice := h.device
      have hroom := h.room
      have hroutes := h.routes
      rw [due_cons_of_not_due hnot] at hdevice hroom hroutes
      exact ⟨hdevice, hroom, hroutes⟩
    · intro h
      have hdue' : m.due name (i :: slots) = m.due name slots := due_cons_of_not_due hnot
      exact ⟨hdue' ▸ h.device, hdue' ▸ h.room, hdue' ▸ h.routes⟩

/-! ## The whole loop -/

/-- The turns for some slots. -/
def replaySlots (d : Devices) (name : IfName) (m : Manager) (slots : List CacheIndex) :
    Manager :=
  slots.foldl (fun m i => m.replayEntry d name i) m

theorem replaySlots_spec (d : Devices) (name : IfName) (hslots : slots.Nodup)
    (hm : m.Genuine) :
    (m.replaySlots d name slots).total ≤ m.total ∧
      ((m.replaySlots d name slots).total = m.total → Replayable d name m slots) ∧
      (Replayable d name m slots → LosesNothing d name m (m.replaySlots d name slots)) := by
  induction slots generalizing m with
  | nil =>
    exact ⟨le_rfl, fun _ => ⟨fun h => absurd rfl h, fun _ _ h => absurd h nofun,
      fun _ _ => trivial⟩, fun _ => .refl m⟩
  | cons i slots ih =>
    obtain ⟨hi, hslots⟩ := List.nodup_cons.mp hslots
    have hnext : (m.replayEntry d name i).Genuine := hm.replayEntry i
    obtain ⟨hle, htotal, hloses⟩ := ih hslots hnext
    have hcons : m.replaySlots d name (i :: slots) =
        (m.replayEntry d name i).replaySlots d name slots := rfl
    rw [hcons]
    have hok : TurnOk d name i slots m (m.replayEntry d name i) := replayEntry_turnOk hm hi
    obtain ⟨hlt, hnot⟩ | ⟨hturn, hiff⟩ := hok
    · exact ⟨hle.trans hlt.le, fun h => absurd h (hle.trans_lt hlt).ne,
        fun h => absurd h hnot⟩
    · rw [hturn.total] at hle htotal
      exact ⟨hle, fun h => hiff.mpr (htotal h), fun h => hturn.trans (hloses (hiff.mp h))⟩

theorem searchFramworkCache_losesNothing_iff (hm : m.Genuine) :
    LosesNothing d name m (m.searchFramworkCache (fun _ => d) name) ↔
      Replayable d name m (List.finRange maxEventCache) := by
  obtain ⟨-, htotal, hloses⟩ :=
    replaySlots_spec d name (List.nodup_finRange maxEventCache) hm
  exact ⟨fun h => htotal h.total, hloses⟩

/-- After every run of calls, a replay of the cache for an interface loses nothing iff
what is due is replayable. -/
theorem run_losesNothing_iff (calls : List Call) (d : Devices) (name : IfName) :
    LosesNothing d name (run calls) ((run calls).searchFramworkCache (fun _ => d) name) ↔
      Replayable d name (run calls) (List.finRange maxEventCache) :=
  searchFramworkCache_losesNothing_iff (genuine_run calls)

/-- Ten subnets of `wlan0` wait, and a replay comes while its check still holds: the
first one is lost. -/
theorem fullCache_not_losesNothing :
    let absent : Devices := ⟨fun _ => some 4, fun _ _ => false⟩
    let calls := List.replicate 10 (Call.addDownstream absent "wlan0".toList (.blank .v4))
    ¬ LosesNothing absent "wlan0".toList (run calls)
      ((run calls).searchFramworkCache (fun _ => absent) "wlan0".toList) := by
  intro absent calls h
  have hroom := ((searchFramworkCache_losesNothing_iff (genuine_run calls)).mp h).room
    (by decide) (.downstream "wlan0".toList (.blank .v4)) (by decide)
  exact absurd hroom (by decide)

end Manager

end Axon7.Offload
