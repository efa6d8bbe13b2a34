import Axon7.Agps.Home
import Axon7.Agps.Restart

/-!
# A released handle

A request for the emergency call waits in the list, inactive, until the call is
closed, and is answered then. Apart from this a released handle is gone: no
machine serves it, nothing is posted for it, and it is answered once.
-/

namespace Axon7.Agps

/-! ## What a call says of a handle -/

/-- `AgpsStateMachine.Quiet` for all machines together. -/
structure AgpsManager.Quiet (handle : Int) (bound : Nat)
    (r : AgpsManager × List Out) : Prop where
  inactive : r.1.All fun _ sm => ¬sm.Active handle
  answered : answers handle r.2 + r.1.held handle ≤ bound
  ungranted : ∀ o ∈ r.2, o.granted? ≠ some handle

theorem answers_eq_zero {handle : Int} {outs : List Out}
    (h : ∀ o ∈ outs, o.answered? ≠ some handle) : answers handle outs = 0 := by
  unfold answers
  rw [List.countP_eq_zero]
  simpa using h

namespace AgpsManager.Quiet

variable {m m' : AgpsManager} {made outs : List Out} {handle : Int}
  {bound : Nat}

theorem prepend (h : Quiet handle bound (m, outs))
    (hmade : ∀ o ∈ made, o.answered? ≠ some handle) :
    Quiet handle bound (m, made ++ outs) := by
  refine ⟨h.inactive, ?_, fun o ho hgranted => ?_⟩
  · show answers handle (made ++ outs) + _ ≤ _
    rw [answers_append, answers_eq_zero hmade, Nat.zero_add]
    exact h.answered
  · obtain ho | ho := List.mem_append.mp ho
    · exact hmade o ho (answered_of_granted hgranted)
    · exact h.ungranted o ho hgranted

theorem created (h : Quiet handle bound (m', outs))
    (hmade : ∀ o ∈ made, o = .dsInit false) :
    Quiet handle bound (m', made ++ outs) :=
  h.prepend fun o ho => by rw [hmade o ho]; simp [Out.answered?]

theorem said (h : m.All fun _ sm => ¬sm.Active handle)
    (houts : ∀ o ∈ outs, o.answered? ≠ some handle) :
    Quiet handle (m.held handle) (m, outs) := by
  have hnil : Quiet handle (m.held handle) (m, []) :=
    ⟨h, by simp [answers], by simp⟩
  have hq := hnil.prepend houts
  rw [List.append_nil] at hq
  exact hq

theorem mono {r : AgpsManager × List Out} (h : Quiet handle bound r)
    {bound' : Nat} (hle : bound ≤ bound') : Quiet handle bound' r :=
  ⟨h.inactive, Nat.le_trans h.answered hle, h.ungranted⟩

theorem event {nif : Nif} {sm : AgpsStateMachine}
    {r : AgpsStateMachine × List Out} {b : Nat}
    (hm : m.All fun n sm' => n ≠ nif → ¬sm'.Active handle)
    (hsm : m.machine nif = some sm)
    (h : AgpsStateMachine.Quiet handle b r)
    (hbound : m.held handle + b ≤ bound + sm.count handle) :
    Quiet handle bound (m.setMachine nif r.1, r.2) := by
  refine ⟨fun n sm' hsm' => ?_, ?_, h.ungranted⟩
  · rw [setMachine_machine] at hsm'
    split at hsm'
    · obtain rfl := Option.some.inj hsm'
      exact h.inactive
    · next hne => exact hm n sm' hsm' hne
  · have hheld := held_setMachine hsm r.1 handle
    have hanswered := h.answered
    show answers handle r.2 + (m.setMachine nif r.1).held handle ≤ bound
    omega

end AgpsManager.Quiet

theorem not_active_new (nif : Nif) (handle : Int) : ¬nif.new.Active handle := by
  rintro ⟨s, hs, -⟩
  cases nif <;> cases hs

theorem Call.quiet {m : AgpsManager} {env : Env} {msg : Msg}
    {r : AgpsManager × List Out} {handle : Int} (h : Call env m msg r)
    (hnames : ¬(Op.call msg).Names handle)
    (hinactive : m.All fun _ sm => ¬sm.Active handle) :
    AgpsManager.Quiet handle (m.held handle) r := by
  have hall : ∀ {m' made}, Created m (m', made) →
      m'.All fun _ sm => ¬sm.Active handle := fun hmade =>
    hinactive.created (not_active_new · handle) hmade
  cases h with
  | created _ hmade =>
    rw [← AgpsManager.held_created hmade]
    refine .said (hall hmade) fun o ho => ?_
    rw [hmade.said o ho]
    simp [Out.answered?]
  | openRefused hmade =>
    rw [← AgpsManager.held_created hmade]
    refine (AgpsManager.Quiet.said (hall hmade) ?_).created hmade.said
    simpa [Out.answered?, Op.Names] using hnames
  | closeRefused =>
    refine .said hinactive ?_
    simpa [Out.answered?, Op.Names] using hnames
  | subscribe hmade hsm =>
    rw [← AgpsManager.held_created hmade]
    exact AgpsManager.Quiet.created
      (.event (fun n sm' hsm' _ => hall hmade n sm' hsm') hsm
        ((AgpsStateMachine.subscribed _ env _).quiet (hall hmade _ _ hsm)
          hnames) (Nat.le_refl _)) hmade.said
  | unsubscribe hfind =>
    obtain ⟨hsm, -, hhandle⟩ := AgpsManager.findSubscriber_eq_some hfind
    exact .event (fun n sm' hsm' _ => hinactive n sm' hsm') hsm
      ((AgpsStateMachine.unsubscribed _ env _).quiet (hinactive _ _ hsm)
        (hhandle.trans_ne hnames)) (Nat.le_refl _)
  | @report _ m' made nif event sm bearer apn _ hmade hsm =>
    rw [← AgpsManager.held_created hmade]
    have hquiet := (AgpsStateMachine.reported
      { sm with mBearer := bearer, mAPN := apn } env event).quiet
        (hall hmade nif sm hsm)
    exact AgpsManager.Quiet.created
      (.event (fun n sm' hsm' _ => hall hmade n sm' hsm') hsm hquiet
        (Nat.le_refl _)) hmade.said
  | restart houts =>
    have hdropped : (m.handleModemSSR env).1.All
        fun _ sm => sm.mSubscriberList = [] := by
      intro nif sm hsm
      rw [AgpsManager.handleModemSSR_machine] at hsm
      obtain ⟨old, -, rfl⟩ := Option.map_eq_some_iff.mp hsm
      rfl
    have hzero : ∀ nif, (m.handleModemSSR env).1.countAt nif handle = 0 := by
      intro nif
      rw [AgpsManager.countAt, AgpsManager.handleModemSSR_machine]
      cases m.machine nif <;> rfl
    refine AgpsManager.Quiet.mono (.said (fun nif sm hsm => ?_)
      fun o ho => ?_) ?_
    · rintro ⟨s, hs, -⟩
      rw [hdropped nif sm hsm] at hs
      cases hs
    · have ho := houts o ho
      simp only [List.mem_cons, List.not_mem_nil, or_false] at ho
      obtain rfl | rfl | rfl | rfl := ho <;> simp [Out.answered?]
    · simp [AgpsManager.held, hzero]

/-! ## After the release -/

/-- The handle has been answered and may still be answered as often as the
bounds say, and is granted nothing and asked nothing for. -/
structure Settles (handle : Int) (bound left : Nat) (outs : List Out) :
    Prop where
  answered : answers handle outs + left ≤ bound
  ungranted : ∀ o ∈ outs, o.granted? ≠ some handle
  unposted : ∀ type, (handle, type) ∉ posts outs

theorem Settles.trans {handle : Int} {bound mid left : Nat}
    {outs outs' : List Out} (h : Settles handle bound mid outs)
    (h' : Settles handle mid left outs') :
    Settles handle bound left (outs ++ outs') where
  answered := by
    have h₁ := h.answered
    have h₂ := h'.answered
    rw [answers_append]
    omega
  ungranted := by
    intro o ho
    obtain ho | ho := List.mem_append.mp ho
    · exact h.ungranted o ho
    · exact h'.ungranted o ho
  unposted := by
    intro type hmem
    rw [posts_append] at hmem
    obtain hmem | hmem := List.mem_append.mp hmem
    · exact h.unposted type hmem
    · exact h'.unposted type hmem

namespace System

/-- No machine serves the handle, and no request for it is queued. -/
structure Gone (handle : Int) (s : System) : Prop where
  inactive : s.manager.All fun _ sm => ¬sm.Active handle
  unposted : ∀ type, (handle, type) ∉ s.queue

/-- The run has gone on from one system to the other without the handle. -/
def Without (handle : Int) (bound : Nat) (s s' : System) : Prop :=
  Gone handle s' ∧ ∃ outs, s'.log = s.log ++ outs ∧
    Settles handle bound (s'.manager.held handle) outs

variable {s : System} {handle : Int}

theorem without_absorb {r : AgpsManager × List Out} {bound : Nat}
    (hquiet : AgpsManager.Quiet handle bound r)
    (hqueue : ∀ type, (handle, type) ∉ s.queue)
    (hposts : ∀ type, (handle, type) ∉ posts r.2) :
    Without handle bound s (s.absorb r) := by
  refine ⟨⟨hquiet.inactive, fun type hmem => ?_⟩, r.2, rfl,
    hquiet.answered, hquiet.ungranted, hposts⟩
  obtain hmem | hmem := List.mem_append.mp hmem
  · exact hqueue type hmem
  · exact hposts type hmem

theorem unposted_call {env : Env} {msg : Msg} {r : AgpsManager × List Out}
    (hcall : Call env s.manager msg r) (hsound : s.manager.All Sound)
    (hfall : ¬(s.manager.mDsNif.getD .newDs).FallsBack env)
    (hdenied : msg.event? env = some (.ds, .released) ∨
        msg.event? env = some (.ds, .denied) →
      ∀ sm ∈ s.manager.mDsNif, sm.mState = .pending →
        ∀ x ∈ sm.mSubscriberList, x.mIsInactive = false ∧
          (x.mConnHandle, AGpsExtType.suplEs) ∉ s.queue)
    (hinactive : s.manager.All fun _ sm => ¬sm.Active handle) :
    ∀ type, (handle, type) ∉ posts r.2 := by
  intro type hmem
  obtain hnil | ⟨sm, hsm, hstate, hevent, hposts, -⟩ :=
    hcall.posts_cases hsound hfall
  · rw [hnil] at hmem
    cases hmem
  · rw [hposts] at hmem
    obtain ⟨x, hx, heq⟩ := List.mem_map.mp hmem
    obtain ⟨rfl, -⟩ := Prod.mk.inj heq
    exact hinactive .ds sm hsm
      ⟨x, hx, rfl, (hdenied hevent sm hsm hstate x hx).1⟩

theorem Gone.step {o : Env × Op} (h : Gone handle s)
    (hsound : s.manager.All Sound) (hclean : s.Clean o)
    (hnames : ¬o.2.Names handle) :
    Without handle (s.manager.held handle) s (s.step o) := by
  have hnone : Without handle (s.manager.held handle) s s :=
    ⟨h, [], by simp, by simp [answers], by simp, by simp [posts]⟩
  obtain ⟨env, op⟩ := o
  cases op with
  | call msg =>
    have hcall := s.manager.proc_call env msg
    exact without_absorb (hcall.quiet hnames h.inactive) h.unposted
      (unposted_call hcall hsound hclean.1 hclean.denied h.inactive)
  | retryCallback =>
    unfold System.step
    dsimp only
    split
    · next timers sm _ hsm =>
        have hposts : ∀ type, (handle, type) ∉ posts sm.retryCallback := by
          intro type hmem
          obtain ⟨x, hx, hactive, heq⟩ :=
            AgpsStateMachine.posts_retryCallback hmem
          obtain ⟨rfl, -⟩ := Prod.mk.inj heq
          exact h.inactive .ds sm hsm ⟨x, hx, rfl, hactive⟩
        have hsaid : AgpsManager.Quiet handle (s.manager.held handle)
            (s.manager, sm.retryCallback) := by
          refine .said h.inactive fun o ho => ?_
          unfold AgpsStateMachine.retryCallback at ho
          split at ho
          · cases ho
          · obtain rfl := List.mem_singleton.mp ho
            simp [Out.answered?]
        exact without_absorb hsaid h.unposted hposts
    · exact hnone
  | procMsg =>
    unfold System.step
    dsimp only
    split
    · exact hnone
    · next x type rest hqueue =>
        have hcall := s.manager.requestATL_call env x type
        have hx : x ≠ handle := by
          rintro rfl
          exact h.unposted type (by rw [hqueue]; simp)
        have hquiet := hcall.quiet hx h.inactive
        have hposts := unposted_call hcall hsound hclean.1
          (by simp [Msg.event?]) h.inactive
        have hrest : ∀ t, (handle, t) ∉ rest := fun t hmem =>
          h.unposted t (by rw [hqueue]; exact List.mem_cons_of_mem _ hmem)
        exact without_absorb (s := { s with queue := rest }) hquiet hrest
          hposts

theorem OneHome.held_eq (h : s.OneHome) {nif : Nif}
    (hpos : 0 < s.manager.countAt nif handle) :
    s.manager.held handle = s.manager.countAt nif handle := by
  have hother : ∀ n, n ≠ nif → s.manager.countAt n handle = 0 := by
    intro n hne
    by_contra hcount
    exact hne (h.home handle n nif (.inl (by omega)) (.inl hpos))
  unfold AgpsManager.held
  cases nif with
  | agnss =>
    rw [hother .internet (by decide), hother .ds (by decide)]
    rfl
  | internet =>
    rw [hother .agnss (by decide), hother .ds (by decide)]
    omega
  | ds =>
    rw [hother .agnss (by decide), hother .internet (by decide)]
    omega

theorem OneHome.release (h : s.OneHome) (hsound : s.manager.All Sound)
    {env : Env} (hclean : s.Clean (env, .call (.releaseATL handle))) :
    Without handle 1 s (s.step (env, .call (.releaseATL handle))) := by
  obtain ⟨hqueue, hreleased⟩ := hclean.2
  have hunposted : ∀ type, (handle, type) ∉ s.queue := fun type hmem =>
    hqueue _ hmem rfl
  show Without handle 1 s (s.absorb (s.manager.releaseATL env handle))
  unfold AgpsManager.releaseATL
  split
  · next hnone =>
      have hnot : s.manager.All fun _ sm => ¬sm.Active handle := by
        rintro nif sm hsm ⟨x, hx, heq, -⟩
        exact AgpsManager.findSubscriber_eq_none hnone hsm x hx heq
      have hzero : ∀ nif, s.manager.countAt nif handle = 0 := by
        intro nif
        cases hm : s.manager.machine nif with
        | none => simp [AgpsManager.countAt, hm]
        | some sm =>
          rw [AgpsManager.countAt_of_machine hm, AgpsStateMachine.count,
            List.countP_eq_zero]
          simpa using AgpsManager.findSubscriber_eq_none hnone hm
      refine without_absorb ⟨hnot, ?_, ?_⟩ hunposted ?_
      · simp [AgpsManager.held, hzero, answers, Out.answered?]
      · simp [Out.granted?]
      · simp [posts, Out.posted?]
  · next nif sm cur hfind =>
      obtain ⟨hsm, hcur, hhandle⟩ := AgpsManager.findSubscriber_eq_some hfind
      have hcount : s.manager.countAt nif handle = sm.count handle :=
        AgpsManager.countAt_of_machine hsm handle
      have hpos : 0 < sm.count handle :=
        AgpsStateMachine.count_pos_iff.mpr ⟨cur, hcur, hhandle⟩
      have hheld := h.held_eq (hcount ▸ hpos)
      -- A released machine of the base class has nobody to release.
      have hstate : sm.mState ≠ .released := by
        intro hstate
        by_cases hds : nif = .ds
        · subst hds
          have hnone := hreleased sm hsm hstate
          omega
        · rw [(hsound nif sm hsm).idle hds hstate] at hcur
          cases hcur
      have hothers : s.manager.All fun n sm' => n ≠ nif →
          ¬sm'.Active handle := by
        rintro n sm' hsm' hne ⟨x, hx, heq, -⟩
        refine hne (h.home handle n nif (.inl ?_) (.inl (hcount ▸ hpos)))
        rw [AgpsManager.countAt_of_machine hsm']
        exact AgpsStateMachine.count_pos_iff.mpr ⟨x, hx, heq⟩
      have hr := sm.unsubscribed env cur
      refine without_absorb (.event hothers hsm
        (hr.quiet_self (hsound nif sm hsm).distinct hstate hhandle)
        (by omega)) hunposted ?_
      show ∀ type, (handle, type) ∉
        posts (sm.processAgpsEventUnsubscribe env cur).2
      rw [hr.posts_nil]
      simp

/-! ## Runs -/

theorem Without.trans {s s' s'' : System} {bound : Nat}
    (h : Without handle bound s s')
    (h' : Without handle (s'.manager.held handle) s' s'') :
    Without handle bound s s'' := by
  obtain ⟨-, outs, hlog, hsettles⟩ := h
  obtain ⟨hgone, outs', hlog', hsettles'⟩ := h'
  exact ⟨hgone, outs ++ outs', by rw [hlog', hlog, List.append_assoc],
    hsettles.trans hsettles'⟩

theorem run_oneHome {os : List (Env × Op)} (hclean : init.CleanRun os) :
    (run os).OneHome := by
  induction os using List.reverseRecOn with
  | nil =>
    refine ⟨fun x n n' hn hn' => ?_, nofun⟩
    obtain hpos | ⟨t, hmem, -⟩ := hn
    · cases n <;> cases hpos
    · cases hmem
  | append_singleton os o ih =>
    obtain ⟨hos, ho, -⟩ := cleanRun_append.mp hclean
    rw [run_snoc]
    exact (ih hos).step (run_sound os) ho

theorem run_without {os : List (Env × Op)} {env : Env}
    {post : List (Env × Op)}
    (hclean : init.CleanRun
      (os ++ (env, .call (.releaseATL handle)) :: post))
    (hpost : ∀ o ∈ post, ¬o.2.Names handle) :
    Without handle 1 (run os)
      (run (os ++ (env, .call (.releaseATL handle)) :: post)) := by
  induction post using List.reverseRecOn with
  | nil =>
    obtain ⟨hos, ho, -⟩ := cleanRun_append.mp hclean
    rw [run_snoc]
    exact (run_oneHome hos).release (run_sound os) ho
  | append_singleton post o ih =>
    rw [← List.cons_append, ← List.append_assoc] at hclean ⊢
    obtain ⟨hbefore, ho, -⟩ := cleanRun_append.mp hclean
    have ih := ih hbefore fun o' ho' => hpost o' (List.mem_append_left _ ho')
    rw [run_snoc]
    exact ih.trans (ih.1.step (run_sound _) ho (hpost o (by simp)))

/-- In a clean run one machine at most has a handle. Once it is released, and until the
modem names it again, no machine serves it and no request for it is queued; the modem gets
no grant and one answer at most; what connection is asked for has another subscriber. -/
theorem run_released (os : List (Env × Op)) (hclean : init.CleanRun os) :
    (∀ handle nif nif', 0 < (run os).manager.countAt nif handle →
      0 < (run os).manager.countAt nif' handle → nif = nif') ∧
    ∀ pre env handle post,
      os = pre ++ (env, .call (.releaseATL handle)) :: post →
      (∀ o ∈ post, ¬o.2.Names handle) →
      Without handle 1 (run pre) (run os) ∧
      ∀ pre' o outs nif, os = pre' ++ [o] →
        (run os).log = (run pre').log ++ outs → nif.connRequest ∈ outs →
        ∃ sm, (run os).manager.machine nif = some sm ∧
          ∃ s ∈ sm.mSubscriberList, s.mIsInactive = false ∧
            s.mConnHandle ≠ handle := by
  refine ⟨fun handle nif nif' h h' =>
    (run_oneHome hclean).home handle nif nif' (.inl h) (.inl h'), ?_⟩
  rintro pre env handle post rfl hpost
  have hwithout := run_without hclean hpost
  refine ⟨hwithout, fun pre' o outs nif heq hlog hmem => ?_⟩
  rw [heq] at hwithout hlog ⊢
  obtain ⟨sm, hsm, hany⟩ := step_opens pre' o hlog hmem
  obtain ⟨s, hs, hactive⟩ := List.any_eq_true.mp hany
  have hactive : s.mIsInactive = false := by simpa using hactive
  exact ⟨sm, hsm, s, hs, hactive, fun hhandle =>
    hwithout.1.inactive nif sm hsm ⟨s, hs, hhandle, hactive⟩⟩

/-- Data calls start. -/
def starts : Env := ⟨true, true, some 0, some errSuccess, true, true⟩

/-- Data calls are put off, and retried. -/
def busy : Env :=
  { starts with mDSClientOpenAndStartDataCallFn := some errEngineBusy }

/-- Data calls are refused. -/
def refused : Env :=
  { starts with mDSClientOpenAndStartDataCallFn := some errUnsupported }

theorem run_released_emergency :
    Without 1 1
      (run [(starts, .call (.requestATL 1 AGpsExtType.suplEs)),
        (starts, .call .reportDataCallOpened)])
      (run [(starts, .call (.requestATL 1 AGpsExtType.suplEs)),
        (starts, .call .reportDataCallOpened),
        (starts, .call (.releaseATL 1)),
        (starts, .call .reportDataCallClosed)]) :=
  ((run_released [(starts, .call (.requestATL 1 AGpsExtType.suplEs)),
      (starts, .call .reportDataCallOpened),
      (starts, .call (.releaseATL 1)),
      (starts, .call .reportDataCallClosed)] (by decide)).2
    [(starts, .call (.requestATL 1 AGpsExtType.suplEs)),
      (starts, .call .reportDataCallOpened)] starts 1
    [(starts, .call .reportDataCallClosed)] rfl (by decide)).1

/-- A handle released in an emergency call waits for its close by design. In the other runs
it is requested for two types, handed on or denied while it waits, or retried late. -/
theorem released_held :
    (∃ s, s = run [(starts, .call (.requestATL 1 AGpsExtType.suplEs)),
        (starts, .call .reportDataCallOpened),
        (starts, .call (.releaseATL 1))] ∧
      s.manager.countAt .ds 1 = 1 ∧ answers 1 s.log = 1 ∧
      answers 1 (s.step (starts, .call .reportDataCallClosed)).log = 2) ∧
    (∃ s, s = run [(starts, .call (.requestATL 1 AGpsExtType.suplEs)),
        (starts, .call (.requestATL 1 AGpsExtType.supl))] ∧
      s.manager.countAt .agnss 1 = 1 ∧ s.manager.countAt .ds 1 = 1) ∧
    (∃ s, s = run [(refused, .call (.requestATL 1 AGpsExtType.suplEs)),
        (refused, .procMsg)] ∧
      s.manager.countAt .agnss 1 = 1 ∧ s.manager.countAt .ds 1 = 1) ∧
    (∃ s, s = run [(busy, .call (.requestATL 1 AGpsExtType.suplEs)),
        (starts, .call (.releaseATL 1)), (starts, .retryCallback),
        (starts, .procMsg), (starts, .call .reportDataCallOpened)] ∧
      s.manager.countAt .ds 1 = 1 ∧ answers 1 s.log = 2) ∧
    (∃ s, s = run [(starts, .call (.requestATL 1 AGpsExtType.suplEs)),
        (starts, .call .reportDataCallClosed),
        (starts, .call (.releaseATL 1)), (starts, .procMsg)] ∧
      s.manager.countAt .agnss 1 = 1) ∧
    (∃ s, s = run [(starts, .call (.requestATL 1 AGpsExtType.suplEs)),
        (starts, .call (.requestATL 2 AGpsExtType.suplEs)),
        (starts, .call (.releaseATL 1)),
        (starts, .call .reportDataCallClosed), (starts, .procMsg)] ∧
      s.manager.countAt .agnss 1 = 1) ∧
    (∃ s, s = run [(busy, .call (.requestATL 1 AGpsExtType.suplEs)),
        (starts, .retryCallback),
        (starts, .call (.requestATL 2 AGpsExtType.suplEs)),
        (starts, .call .reportDataCallClosed), (starts, .procMsg),
        (starts, .procMsg)] ∧
      s.manager.countAt .agnss 1 = 1 ∧ s.manager.countAt .ds 1 = 1) ∧
    ∃ s, s = run [(busy, .call (.requestATL 1 AGpsExtType.suplEs)),
        (starts, .retryCallback),
        ({ starts with emergencyPdn := false }, .procMsg)] ∧
      s.manager.countAt .agnss 1 = 1 ∧ s.manager.countAt .ds 1 = 1 := by
  refine ⟨⟨_, rfl, ?_⟩, ⟨_, rfl, ?_⟩, ⟨_, rfl, ?_⟩, ⟨_, rfl, ?_⟩, ⟨_, rfl, ?_⟩,
    ⟨_, rfl, ?_⟩, ⟨_, rfl, ?_⟩, ⟨_, rfl, ?_⟩⟩
  all_goals decide

end System

end Axon7.Agps
