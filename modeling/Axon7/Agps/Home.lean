import Axon7.Agps.Handle

/-!
# Where a handle is

A handle is at a machine that has it in its list, and at the machine a queued
request of it is for. It is at one machine at most as long as no step runs into
one of the gaps between the machines: a data call that is finally refused
leaves the denied subscriber with the DS machine while it is handed on to the
SUPL machine; a release that finds the DS machine released takes nobody out; a
request that is still in the adapter's queue comes after the release; and a
denial hands on also those who wait for a close.
-/

namespace Axon7.Agps

namespace AgpsManager

/-- How often a machine's list has the handle. -/
def countAt (m : AgpsManager) (nif : Nif) (handle : Int) : Nat :=
  (m.machine nif).elim 0 (·.count handle)

/-- How often the lists of all machines have the handle. -/
def held (m : AgpsManager) (handle : Int) : Nat :=
  m.countAt .agnss handle + m.countAt .internet handle + m.countAt .ds handle

end AgpsManager

/-- The machine a posted request is for. -/
def postedTo (agpsType : AGpsExtType) : Nif :=
  if agpsType = AGpsExtType.suplEs then .ds else .agnss

/-- The operation is a request or a release of the handle. -/
def Op.Names (handle : Int) : Op → Prop
  | .call (.requestATL h _) => h = handle
  | .call (.releaseATL h) => h = handle
  | _ => False

instance (handle : Int) (op : Op) : Decidable (op.Names handle) := by
  unfold Op.Names
  split <;> infer_instance

namespace System

/-- The step does not run into a gap: its data call is not finally refused; the modem
requests no handle in use, and releases none while a request for it is queued or the DS
machine is released; a DS machine is denied its call only while all its subscribers are
active with no retry queued; and a retry is processed under the configuration that sends
it there. -/
def Clean (s : System) (o : Env × Op) : Prop :=
  ¬(s.manager.mDsNif.getD .newDs).FallsBack o.1 ∧
  match o.2 with
  | .call (.requestATL handle _) =>
    s.manager.held handle = 0 ∧ ∀ p ∈ s.queue, p.1 ≠ handle
  | .call (.releaseATL handle) =>
    (∀ p ∈ s.queue, p.1 ≠ handle) ∧ ∀ sm ∈ s.manager.mDsNif,
      sm.mState = .released → sm.count handle = 0
  | .call msg =>
    msg.event? o.1 = some (.ds, .released) ∨
      msg.event? o.1 = some (.ds, .denied) →
    ∀ sm ∈ s.manager.mDsNif, sm.mState = .pending →
      ∀ x ∈ sm.mSubscriberList, x.mIsInactive = false ∧
        (x.mConnHandle, AGpsExtType.suplEs) ∉ s.queue
  | .retryCallback => True
  | .procMsg => ∀ p ∈ s.queue.head?, p.2 = AGpsExtType.suplEs →
      o.1.emergencyPdn = true

instance (s : System) (o : Env × Op) : Decidable (s.Clean o) := by
  unfold Clean
  refine @instDecidableAnd _ _ _ ?_
  split <;> infer_instance

/-- Every step of the run is clean. -/
def CleanRun (s : System) : List (Env × Op) → Prop
  | [] => True
  | o :: os => s.Clean o ∧ (s.step o).CleanRun os

instance decidableCleanRun :
    (s : System) → (os : List (Env × Op)) → Decidable (s.CleanRun os)
  | _, [] => .isTrue trivial
  | s, o :: os => @instDecidableAnd _ _ _ (decidableCleanRun (s.step o) os)

theorem cleanRun_append {s : System} {os os' : List (Env × Op)} :
    s.CleanRun (os ++ os') ↔
      s.CleanRun os ∧ (os.foldl step s).CleanRun os' := by
  induction os generalizing s with
  | nil => simp [CleanRun]
  | cons o os ih => rw [List.cons_append, CleanRun, CleanRun, ih, and_assoc,
      List.foldl_cons]

end System

/-! ## Counting -/

namespace AgpsManager

variable {m m' : AgpsManager} {nif : Nif} {sm sm' : AgpsStateMachine}
  {made : List Out} {handle : Int}

theorem countAt_of_machine (h : m.machine nif = some sm) (handle : Int) :
    m.countAt nif handle = sm.count handle := by
  rw [countAt, h]
  rfl

theorem countAt_setMachine (m : AgpsManager) (nif n : Nif)
    (sm : AgpsStateMachine) (handle : Int) :
    (m.setMachine nif sm).countAt n handle =
      if n = nif then sm.count handle else m.countAt n handle := by
  rw [countAt, setMachine_machine]
  split <;> rfl

theorem countAt_created (hmade : Created m (m', made)) (nif : Nif)
    (handle : Int) : m'.countAt nif handle = m.countAt nif handle := by
  unfold countAt
  obtain heq | ⟨hnone, heq⟩ := hmade.machine nif
  · rw [heq]
  · rw [hnone, heq]
    cases nif <;> rfl

theorem held_created (hmade : Created m (m', made)) (handle : Int) :
    m'.held handle = m.held handle := by
  unfold held
  rw [countAt_created hmade, countAt_created hmade, countAt_created hmade]

theorem held_setMachine (hsm : m.machine nif = some sm)
    (sm' : AgpsStateMachine) (handle : Int) :
    (m.setMachine nif sm').held handle + sm.count handle =
      m.held handle + sm'.count handle := by
  have hcount := countAt_of_machine hsm handle
  unfold held
  simp only [countAt_setMachine]
  cases nif <;> simp at hcount ⊢ <;> omega

theorem countAt_le_held (m : AgpsManager) (nif : Nif) (handle : Int) :
    m.countAt nif handle ≤ m.held handle := by
  unfold held
  cases nif <;> omega

end AgpsManager

/-! ## What a call moves -/

namespace AgpsStateMachine

variable {sm : AgpsStateMachine} {env : Env} {cur : AgpsSubscriber}
  {event : AgpsEvent} {handle : Int} {r : AgpsStateMachine × List Out}

theorem count_pos_iff : 0 < sm.count handle ↔
    ∃ s ∈ sm.mSubscriberList, s.mConnHandle = handle := by
  unfold count
  rw [List.countP_pos_iff]
  simp

theorem Subscribed.count_pos (hr : Subscribed sm env cur r)
    (h : 0 < r.1.count handle) :
    0 < sm.count handle ∨ cur.mConnHandle = handle := by
  obtain ⟨s, hs, heq⟩ := count_pos_iff.mp h
  rw [hr.list] at hs
  obtain hs | rfl := mem_addSubscriber hs
  · exact .inl (count_pos_iff.mpr ⟨s, hs, heq⟩)
  · exact .inr heq

theorem count_left : List.countP (·.mConnHandle = handle) (sm.left cur) ≤
    sm.count handle := by
  unfold left count
  split
  · exact Nat.le_of_eq (countP_setInactive _ _ _)
  · exact List.filter_sublist.countP_le

theorem Unsubscribed.count_le (hr : Unsubscribed sm env cur r) :
    r.1.count handle ≤ sm.count handle := by
  unfold count
  rw [hr.list]
  split
  · exact Nat.le_refl _
  · exact count_left

theorem Reported.count_le (hr : Reported sm env event r) :
    r.1.count handle ≤ sm.count handle := by
  obtain ⟨p, hp⟩ := hr.list
  unfold count
  rw [hp]
  exact List.filter_sublist.countP_le

theorem posts_retryCallback {p : Int × AGpsExtType}
    (hp : p ∈ posts sm.retryCallback) : ∃ s ∈ sm.mSubscriberList,
      s.mIsInactive = false ∧ p = (s.mConnHandle, AGpsExtType.suplEs) := by
  unfold retryCallback at hp
  split at hp
  · cases hp
  · next s hs =>
      refine ⟨s, List.mem_of_find?_eq_some hs, ?_, List.mem_singleton.mp hp⟩
      simpa using List.find?_some hs

end AgpsStateMachine

namespace Call

variable {m : AgpsManager} {env : Env} {msg : Msg}
  {r : AgpsManager × List Out}

theorem count_pos (h : Call env m msg r) {nif : Nif} {handle : Int}
    (hpos : 0 < r.1.countAt nif handle) : 0 < m.countAt nif handle ∨
      ∃ type, msg = .requestATL handle type ∧ nif = nifOf env type := by
  cases h with
  | created _ hmade =>
    exact .inl (AgpsManager.countAt_created hmade nif handle ▸ hpos)
  | openRefused hmade =>
    exact .inl (AgpsManager.countAt_created hmade nif handle ▸ hpos)
  | closeRefused => exact .inl hpos
  | subscribe hmade hsm =>
    have hcreated := AgpsManager.countAt_created hmade nif handle
    simp only [AgpsManager.countAt_setMachine] at hpos
    split at hpos
    · next heq =>
        subst heq
        rw [← hcreated, AgpsManager.countAt_of_machine hsm]
        obtain hpos | rfl :=
          (AgpsStateMachine.subscribed _ env _).count_pos hpos
        · exact .inl hpos
        · exact .inr ⟨_, rfl, rfl⟩
    · exact .inl (hcreated ▸ hpos)
  | unsubscribe hfind =>
    have hsm := (AgpsManager.findSubscriber_eq_some hfind).1
    simp only [AgpsManager.countAt_setMachine] at hpos
    split at hpos
    · next heq =>
        subst heq
        rw [AgpsManager.countAt_of_machine hsm]
        exact .inl (Nat.lt_of_lt_of_le hpos
          (AgpsStateMachine.unsubscribed _ env _).count_le)
    · exact .inl hpos
  | report bearer apn _ hmade hsm =>
    have hcreated := AgpsManager.countAt_created hmade nif handle
    simp only [AgpsManager.countAt_setMachine] at hpos
    split at hpos
    · next heq =>
        subst heq
        rw [← hcreated, AgpsManager.countAt_of_machine hsm]
        exact .inl (Nat.lt_of_lt_of_le hpos
          (AgpsStateMachine.reported _ env _).count_le)
    · exact .inl (hcreated ▸ hpos)
  | restart =>
    unfold AgpsManager.countAt at hpos
    rw [AgpsManager.handleModemSSR_machine] at hpos
    cases hm : m.machine nif with
    | none => simp [hm] at hpos
    | some sm => simp [hm, AgpsStateMachine.dropAllSubscribers,
        AgpsStateMachine.count] at hpos

theorem posts_made {m' : AgpsManager} {made : List Out}
    (hmade : Created m (m', made)) : posts made = [] :=
  List.filterMap_eq_nil_iff.mpr fun o ho => by rw [hmade.said o ho]; rfl

theorem not_fallsBack (hsound : m.All Sound)
    (hfall : ¬(m.mDsNif.getD .newDs).FallsBack env) {m' : AgpsManager}
    {made : List Out} (hmade : Created m (m', made)) {nif : Nif}
    {sm : AgpsStateMachine} (hsm : m'.machine nif = some sm)
    (hkind : sm.kind = .ds) : ¬sm.FallsBack env := by
  have hsound' := hsound.created .new hmade nif sm hsm
  cases nif with
  | agnss => cases hsound'.kind.symm.trans hkind
  | internet => cases hsound'.kind.symm.trans hkind
  | ds =>
    have hds : m.mDsNif.getD .newDs = sm := by
      obtain heq | ⟨hnone, heq⟩ := hmade.machine .ds
      · have hm : m.mDsNif = some sm := heq.symm.trans hsm
        rw [hm]
        rfl
      · have hm : m.mDsNif = none := hnone
        rw [hm]
        exact Option.some.inj (heq.symm.trans hsm)
    rw [hds] at hfall
    exact hfall

theorem posts_cases (h : Call env m msg r) (hsound : m.All Sound)
    (hfall : ¬(m.mDsNif.getD .newDs).FallsBack env) :
    posts r.2 = [] ∨ ∃ sm, m.mDsNif = some sm ∧ sm.mState = .pending ∧
      (msg.event? env = some (.ds, .released) ∨
        msg.event? env = some (.ds, .denied)) ∧
      posts r.2 =
        (sm.mSubscriberList.map fun s => (s.mConnHandle, AGpsExtType.supl)) ∧
      ∀ handle, r.1.countAt .ds handle = 0 := by
  cases h with
  | created _ hmade => exact .inl (posts_made hmade)
  | openRefused hmade =>
    left
    rw [posts_append, posts_made hmade]
    rfl
  | closeRefused => exact .inl rfl
  | subscribe hmade hsm =>
    left
    rw [posts_append, posts_made hmade,
      (AgpsStateMachine.subscribed _ env _).posts_nil]
    · rfl
    · exact not_fallsBack hsound hfall hmade hsm
  | unsubscribe =>
    exact .inl (AgpsStateMachine.unsubscribed _ env _).posts_nil
  | @report _ m' made nif event sm bearer apn hmsg hmade hsm =>
    have hnot := not_fallsBack hsound hfall hmade hsm
    obtain hnil | ⟨hkind, hstate, hevent, hposts, hlist⟩ :=
      (AgpsStateMachine.reported { sm with mBearer := bearer, mAPN := apn }
        env event).posts_cases hnot
    · left
      rw [posts_append, posts_made hmade, hnil]
      rfl
    · right
      have hsound' := hsound.created .new hmade nif sm hsm
      have hds : nif = .ds := by
        cases nif with
        | agnss => cases hsound'.kind.symm.trans hkind
        | internet => cases hsound'.kind.symm.trans hkind
        | ds => rfl
      subst hds
      -- The machine waits for its call, so it has not been created just now.
      have hold : m.mDsNif = some sm := by
        obtain heq | ⟨-, heq⟩ := hmade.machine .ds
        · exact heq.symm.trans hsm
        · obtain rfl := Option.some.inj (heq.symm.trans hsm)
          cases hstate
      refine ⟨sm, hold, hstate, ?_, ?_, fun handle => ?_⟩
      · obtain rfl | rfl := hevent
        · exact .inl hmsg
        · exact .inr hmsg
      · rw [posts_append, posts_made hmade, hposts]
        rfl
      · simp [AgpsManager.countAt_setMachine, AgpsStateMachine.count, hlist]
  | restart houts =>
    left
    refine List.filterMap_eq_nil_iff.mpr fun o ho => ?_
    have ho := houts o ho
    simp only [List.mem_cons, List.not_mem_nil, or_false] at ho
    obtain rfl | rfl | rfl | rfl := ho <;> rfl

end Call

/-! ## One home -/

namespace System

/-- The handle is in the machine's list, or a request of it for the machine is
queued. -/
def At (s : System) (handle : Int) (nif : Nif) : Prop :=
  0 < s.manager.countAt nif handle ∨
    ∃ type, (handle, type) ∈ s.queue ∧ postedTo type = nif

/-- A handle is at one machine at most, and only SUPL and emergency requests are
queued. -/
structure OneHome (s : System) : Prop where
  home : ∀ handle nif nif', s.At handle nif → s.At handle nif' → nif = nif'
  types : ∀ p ∈ s.queue, p.2 = AGpsExtType.supl ∨ p.2 = AGpsExtType.suplEs

theorem OneHome.mono {s s' : System} (h : s.OneHome)
    (hat : ∀ handle nif, s'.At handle nif → s.At handle nif)
    (htypes : ∀ p ∈ s'.queue,
      p.2 = AGpsExtType.supl ∨ p.2 = AGpsExtType.suplEs) : s'.OneHome :=
  ⟨fun handle nif nif' hnif hnif' =>
    h.home handle nif nif' (hat _ _ hnif) (hat _ _ hnif'), htypes⟩

theorem OneHome.add {s s' : System} (h : s.OneHome) {handle : Int} {nif : Nif}
    (hnew : ∀ n, s.At handle n → n = nif)
    (hat : ∀ x n, s'.At x n → s.At x n ∨ x = handle ∧ n = nif)
    (htypes : ∀ p ∈ s'.queue,
      p.2 = AGpsExtType.supl ∨ p.2 = AGpsExtType.suplEs) : s'.OneHome := by
  refine ⟨fun x n n' hn hn' => ?_, htypes⟩
  have hhome : ∀ n, s'.At handle n → n = nif := by
    intro n hn
    obtain hn | ⟨-, rfl⟩ := hat handle n hn
    · exact hnew n hn
    · rfl
  by_cases hx : x = handle
  · subst hx
    rw [hhome n hn, hhome n' hn']
  · have hold : ∀ n, s'.At x n → s.At x n := fun n hn =>
      (hat x n hn).resolve_right fun hor => hx hor.1
    exact h.home x n n' (hold n hn) (hold n' hn')

theorem OneHome.request {s : System} {env : Env} {handle : Int}
    {type : AGpsExtType} {r : AgpsManager × List Out} (h : s.OneHome)
    (hcall : Call env s.manager (.requestATL handle type) r)
    (hsound : s.manager.All Sound)
    (hfall : ¬(s.manager.mDsNif.getD .newDs).FallsBack env)
    (hnew : ∀ n, s.At handle n → n = nifOf env type)
    {queue : List (Int × AGpsExtType)} (hqueue : ∀ p ∈ queue, p ∈ s.queue)
    {s' : System} (hmanager : s'.manager = r.1)
    (hs' : s'.queue = queue ++ posts r.2) : s'.OneHome := by
  have hposts : posts r.2 = [] := by
    obtain hnil | ⟨sm, -, -, hevent, -⟩ := hcall.posts_cases hsound hfall
    · exact hnil
    · obtain hevent | hevent := hevent <;> cases hevent
  rw [hposts, List.append_nil] at hs'
  refine h.add hnew (fun x n hat => ?_) fun p hp =>
    h.types p (hqueue p (hs' ▸ hp))
  unfold At at hat ⊢
  rw [hmanager, hs'] at hat
  obtain hpos | ⟨t, hmem, hto⟩ := hat
  · obtain hpos | ⟨t, heq, hn⟩ := hcall.count_pos hpos
    · exact .inl (.inl hpos)
    · cases heq
      exact .inr ⟨rfl, hn⟩
  · exact .inl (.inr ⟨t, hqueue _ hmem, hto⟩)

theorem OneHome.call {s : System} {env : Env} {msg : Msg}
    {r : AgpsManager × List Out} (h : s.OneHome)
    (hcall : Call env s.manager msg r) (hsound : s.manager.All Sound)
    (hfall : ¬(s.manager.mDsNif.getD .newDs).FallsBack env)
    (hmsg : ∀ handle type, msg ≠ .requestATL handle type)
    (hdenied : msg.event? env = some (.ds, .released) ∨
        msg.event? env = some (.ds, .denied) →
      ∀ sm ∈ s.manager.mDsNif, sm.mState = .pending →
        ∀ x ∈ sm.mSubscriberList, x.mIsInactive = false ∧
          (x.mConnHandle, AGpsExtType.suplEs) ∉ s.queue) :
    (s.absorb r).OneHome := by
  have hcount : ∀ x n, 0 < r.1.countAt n x → s.At x n := fun x n hpos =>
    .inl ((hcall.count_pos hpos).resolve_right fun ⟨t, heq, _⟩ => hmsg x t heq)
  obtain hnil | ⟨sm, hsm, hstate, hevent, hposts, hempty⟩ :=
    hcall.posts_cases hsound hfall
  · have hqueue : (s.absorb r).queue = s.queue := by
      show s.queue ++ posts r.2 = s.queue
      rw [hnil, List.append_nil]
    refine h.mono (fun x n hat => ?_) (hqueue ▸ h.types)
    obtain hpos | hmem := hat
    · exact hcount x n hpos
    · rw [hqueue] at hmem
      exact .inr hmem
  · have hqueue : ∀ p ∈ (s.absorb r).queue, p ∈ s.queue ∨
        ∃ y ∈ sm.mSubscriberList, p = (y.mConnHandle, AGpsExtType.supl) := by
      intro p hp
      obtain hp | hp := List.mem_append.mp hp
      · exact .inl hp
      · rw [← posts, hposts] at hp
        obtain ⟨y, hy, rfl⟩ := List.mem_map.mp hp
        exact .inr ⟨y, hy, rfl⟩
    -- A denied subscriber was at the DS machine alone, and is now at AGNSS.
    have hds : ∀ y ∈ sm.mSubscriberList, ∀ n, s.At y.mConnHandle n → n = .ds := by
      intro y hy n hat
      refine h.home _ _ _ hat (.inl ?_)
      rw [AgpsManager.countAt_of_machine (show s.manager.machine .ds = _ from hsm)]
      exact AgpsStateMachine.count_pos_iff.mpr ⟨y, hy, rfl⟩
    have hmoved : ∀ y ∈ sm.mSubscriberList, ∀ n,
        (s.absorb r).At y.mConnHandle n → n = .agnss := by
      intro y hy n hat
      obtain hpos | ⟨t, hmem, hto⟩ := hat
      · obtain rfl := hds y hy n (hcount _ _ hpos)
        rw [show (s.absorb r).manager = r.1 from rfl, hempty] at hpos
        exact absurd hpos (Nat.lt_irrefl 0)
      · obtain hmem | ⟨z, -, heq⟩ := hqueue _ hmem
        · obtain rfl := hds y hy n (.inr ⟨t, hmem, hto⟩)
          obtain rfl | rfl := h.types _ hmem
          · cases hto
          · exact absurd hmem (hdenied hevent sm hsm hstate y hy).2
        · obtain ⟨-, rfl⟩ := Prod.mk.inj heq
          exact hto.symm
    refine ⟨fun x n n' hn hn' => ?_, fun p hp => ?_⟩
    · by_cases hx : ∃ y ∈ sm.mSubscriberList, y.mConnHandle = x
      · obtain ⟨y, hy, rfl⟩ := hx
        rw [hmoved y hy n hn, hmoved y hy n' hn']
      · have hold : ∀ n, (s.absorb r).At x n → s.At x n := by
          intro n hat
          obtain hpos | ⟨t, hmem, hto⟩ := hat
          · exact hcount x n hpos
          · obtain hmem | ⟨y, hy, heq⟩ := hqueue _ hmem
            · exact .inr ⟨t, hmem, hto⟩
            · cases heq
              exact absurd ⟨y, hy, rfl⟩ hx
        exact h.home x n n' (hold n hn) (hold n' hn')
    · obtain hp | ⟨y, -, rfl⟩ := hqueue p hp
      · exact h.types p hp
      · exact .inl rfl

theorem Clean.denied {s : System} {env : Env} {msg : Msg}
    (h : s.Clean (env, .call msg))
    (hevent : msg.event? env = some (.ds, .released) ∨
      msg.event? env = some (.ds, .denied)) :
    ∀ sm ∈ s.manager.mDsNif, sm.mState = .pending →
      ∀ x ∈ sm.mSubscriberList, x.mIsInactive = false ∧
        (x.mConnHandle, AGpsExtType.suplEs) ∉ s.queue := by
  have h := h.2
  cases msg <;> first
    | exact h hevent
    | (exfalso; simp [Msg.event?] at hevent)

theorem nifOf_posted {env : Env} {type : AGpsExtType}
    (htype : type = AGpsExtType.supl ∨ type = AGpsExtType.suplEs)
    (henv : type = AGpsExtType.suplEs → env.emergencyPdn = true) :
    nifOf env type = postedTo type := by
  obtain rfl | rfl := htype
  · rfl
  · simp [nifOf, postedTo, henv rfl, AGpsExtType.suplEs, AGpsExtType.invalid,
      AGpsExtType.supl]

theorem OneHome.step {s : System} {o : Env × Op} (h : s.OneHome)
    (hsound : s.manager.All Sound) (hclean : s.Clean o) :
    (s.step o).OneHome := by
  obtain ⟨env, op⟩ := o
  cases op with
  | call msg =>
    show (s.absorb (s.manager.proc env msg)).OneHome
    have hcall := s.manager.proc_call env msg
    by_cases hmsg : ∃ handle type, msg = .requestATL handle type
    · obtain ⟨handle, type, rfl⟩ := hmsg
      obtain ⟨hheld, hqueue⟩ := hclean.2
      refine h.request hcall hsound hclean.1 (fun n hat => ?_)
        (fun p hp => hp) rfl rfl
      obtain hpos | ⟨t, hmem, -⟩ := hat
      · have hle := s.manager.countAt_le_held n handle
        omega
      · exact absurd rfl (hqueue _ hmem)
    · exact h.call hcall hsound hclean.1
        (fun handle type heq => hmsg ⟨handle, type, heq⟩) hclean.denied
  | retryCallback =>
    unfold System.step
    dsimp only
    split
    · next timers sm _ hsm =>
        have hposted : ∀ p ∈ posts sm.retryCallback,
            p.2 = AGpsExtType.suplEs ∧
              0 < s.manager.countAt .ds p.1 := by
          intro p hp
          obtain ⟨y, hy, -, rfl⟩ := AgpsStateMachine.posts_retryCallback hp
          rw [AgpsManager.countAt_of_machine
            (show s.manager.machine .ds = _ from hsm)]
          exact ⟨rfl, AgpsStateMachine.count_pos_iff.mpr ⟨y, hy, rfl⟩⟩
        refine h.mono (fun x n hat => ?_) fun p hp => ?_
        · obtain hpos | ⟨t, hmem, hto⟩ := hat
          · exact .inl hpos
          · obtain hmem | hmem := List.mem_append.mp hmem
            · exact .inr ⟨t, hmem, hto⟩
            · obtain ⟨rfl, hpos⟩ := hposted (x, t) hmem
              exact .inl (hto ▸ hpos)
        · obtain hp | hp := List.mem_append.mp hp
          · exact h.types p hp
          · exact .inr (hposted p hp).1
    · exact h
  | procMsg =>
    unfold System.step
    dsimp only
    split
    · exact h
    · next handle type rest hqueue =>
        have hhead : (handle, type) ∈ s.queue := by rw [hqueue]; simp
        have hto : nifOf env type = postedTo type :=
          nifOf_posted (h.types _ hhead)
            (hclean.2 (handle, type) (by rw [hqueue]; rfl))
        refine h.request (s.manager.requestATL_call env handle type) hsound
          hclean.1 (fun n hat => ?_) (fun p hp => ?_) rfl rfl
        · exact h.home _ _ _ hat (.inr ⟨type, hhead, hto.symm⟩)
        · rw [hqueue]
          exact List.mem_cons_of_mem _ hp

end System

end Axon7.Agps
