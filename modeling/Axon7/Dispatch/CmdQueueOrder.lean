import Axon7.Dispatch.CmdQueueSteps

/-!
# Order, and nothing lost

What `Process` has processed of a queue is always the front of what was posted to it, it takes
from the external queue only when it has processed all of the internal one, it sleeps only when
it has processed all of both, and when no one posts it gets there. This holds in a run in which
no one is disturbed at making a queue. But two who look for a queue at once may both make one:
then what is put in the one stored first, or in the one stored last if `Process` has the first,
is lost.
-/

namespace Axon7.Dispatch

open Lib

variable {D : Type}

theorem PostPc.of_getting {pc : PostPc D} {kind : QueueKind} {g : GetPc}
    (h : pc.getting = some (kind, g)) : ∃ data, pc = .get data g := by
  cases pc with
  | get data pc =>
    obtain ⟨-, rfl⟩ := Prod.mk.inj (Option.some_inj.1 h)
    exact ⟨data, rfl⟩
  | _ => exact absurd h (by simp [PostPc.getting])

theorem ProcPc.of_getting {pc : ProcPc} {kind : QueueKind} {g : GetPc}
    (h : pc.getting = some (kind, g)) : pc = .get kind g := by
  cases pc with
  | get kind' pc =>
    obtain ⟨rfl, rfl⟩ := Prod.mk.inj (Option.some_inj.1 h)
    rfl
  | _ => exact absurd h (by simp [ProcPc.getting])

namespace Cmdq

/-- Events are processed once each and in order, internal ones first, and none is lost. -/
structure Keeps (s : Cmdq D) : Prop where
  noFault : ∀ a f, s.step a ≠ some (.error f)
  order : ∀ kind, s.processed kind <+: s.posted kind
  internalFirst : ∀ s' item cell, s.proc = .dequeue → s.step .process = some (.ok s') →
    s'.proc = .unlock (some item) → s.heap.lookup item = some cell →
    cell.val.kind = .external → s.processed .internal = s.posted .internal
  asleep : s.proc = .wait false → ∀ kind, s.processed kind = s.posted kind
  drains : (∀ t, s.post t = .idle) → ∃ n s', s.processRun n = some (.ok s') ∧
    s'.proc = .wait false ∧ s'.posted = s.posted ∧ ∀ kind, s'.processed kind = s.posted kind
  goesOn : s.proc ≠ .wait false ∨ (∃ t, s.post t ≠ .idle) →
    ∃ a s', a.who ≠ none ∧ s.step a = some (.ok s')

variable {s : Cmdq D} {cells : QueueKind → List (Nat × CmdQData D)} {t : Nat}

theorem Reached.inv (h : Reached Undisturbed s) : ∃ cells, s.Inv cells := by
  induction h with
  | start => exact ⟨_, inv_start⟩
  | step _ hquiet hstep ih =>
    obtain ⟨cells, hinv⟩ := ih
    obtain ⟨s', cells', hr, hinv'⟩ := hinv.step hquiet hstep
    obtain rfl := Except.ok.inj hr
    exact ⟨cells', hinv'⟩

theorem step_of_disturbed {a : CmdqStep D} (h : ¬ s.Undisturbed a) :
    ∃ s', s.step a = some (.ok s') := by
  rw [Undisturbed] at h
  push Not at h
  obtain ⟨who, kind, hwho, hcheck, -⟩ := h
  cases a with
  | call thread data => exact absurd hwho (by simp [CmdqStep.who])
  | wake => exact absurd hwho (by simp [CmdqStep.who])
  | post thread item =>
    obtain rfl := Option.some_inj.1 hwho
    obtain ⟨data, hpost⟩ := PostPc.of_getting hcheck
    rw [step, postStep, hpost]
    exact ⟨_, rfl⟩
  | process =>
    obtain rfl := Option.some_inj.1 hwho
    have hproc := ProcPc.of_getting hcheck
    rw [step, procStep, hproc]
    exact ⟨_, rfl⟩

theorem Inv.noFault (h : s.Inv cells) (a : CmdqStep D) (f : Fault) :
    s.step a ≠ some (.error f) := by
  intro hstep
  by_cases hquiet : s.Undisturbed a
  · obtain ⟨s', -, hr, -⟩ := h.step hquiet hstep
    exact absurd hr (by simp)
  · obtain ⟨s', hs'⟩ := step_of_disturbed hquiet
    rw [hs'] at hstep
    exact absurd hstep (by simp)

/-! ## What is processed -/

theorem Inv.order (h : s.Inv cells) (kind : QueueKind) : s.processed kind <+: s.posted kind := by
  rw [h.kept kind, List.append_assoc]
  exact List.prefix_append _ _

theorem Inv.processed_all (h : s.Inv cells) (hitem : s.proc.item = none) {kind : QueueKind}
    (hempty : cells kind = []) : s.processed kind = s.posted kind := by
  rw [h.kept kind, taken_of_item_none hitem, hempty, List.map_nil, List.append_nil,
    List.append_nil]

theorem Inv.internalFirst (h : s.Inv cells) {s' : Cmdq D} {item : Nat} {cell : Cell (CmdQData D)}
    (hproc : s.proc = .dequeue) (hstep : s.step .process = some (.ok s'))
    (hproc' : s'.proc = .unlock (some item)) (hlookup : s.heap.lookup item = some cell)
    (hkind : cell.val.kind = .external) : s.processed .internal = s.posted .internal := by
  have hitem : s.proc.item = none := by rw [hproc]; rfl
  rw [Cmdq.step, Cmdq.procStep, hproc] at hstep
  rcases h.takeOut hproc with ⟨kind, q, a, x, rest, queue, hcells, hq, hholds, hfirst, htake⟩ |
    ⟨hempty, htake⟩
  · rw [htake] at hstep
    obtain rfl := Except.ok.inj (Option.some_inj.1 hstep)
    obtain rfl : a = item := Option.some_inj.1 (ProcPc.unlock.inj hproc')
    -- the message is the first of a queue, which is the external one
    obtain ⟨_, -, hold⟩ := h.queues.holds kind q hq
    rw [hcells] at hold
    obtain ⟨-, next, hlookup', -⟩ := hold.chain.path
    have hcell : cell.val = x := by
      rw [hlookup] at hlookup'
      rw [Option.some_inj.1 hlookup']
    have hxkind : x.kind = kind := h.queues.kinds kind (a, x) (by simp [hcells])
    rw [hcell, hxkind] at hkind
    exact h.processed_all hitem (hfirst hkind)
  · exact h.processed_all hitem (hempty .internal)

/-! ## Nothing is lost -/

theorem procStep_of_free (hfree : s.mutex = none ∨ s.proc.critical)
    (hhandler : (∃ item, s.proc = .callback item) → s.post 0 = .idle)
    (hfetch : ∀ kind, s.proc = .get kind .fetch → s.inst kind ≠ none)
    (hawake : s.proc ≠ .wait false) : ∃ r, s.procStep = some r := by
  rw [procStep]
  cases hproc : s.proc with
  | get kind pc =>
    cases pc with
    | check => exact ⟨_, rfl⟩
    | create => exact ⟨_, rfl⟩
    | fetch =>
      simp only [if_neg (hfetch kind hproc)]
      exact ⟨_, rfl⟩
  | lock =>
    rw [hproc] at hfree
    simp only [if_pos (hfree.resolve_right (by simp [ProcPc.critical]))]
    exact ⟨_, rfl⟩
  | dequeue => exact ⟨_, rfl⟩
  | wait signalled =>
    cases signalled with
    | false => exact absurd hproc hawake
    | true =>
      rw [hproc] at hfree
      simp only [if_pos (hfree.resolve_right (by simp [ProcPc.critical]))]
      exact ⟨_, rfl⟩
  | unlock item => cases item <;> exact ⟨_, rfl⟩
  | callback item =>
    simp only [hhandler ⟨item, hproc⟩]
    exact ⟨_, rfl⟩

theorem postStep_of_free (hfree : s.mutex = none ∨ (s.post t).critical)
    (hfetch : ∀ data, s.post t = .get data .fetch → s.inst data.kind ≠ none)
    (hbusy : s.post t ≠ .idle) : ∃ item r, s.postStep t item = some r := by
  obtain ⟨item, hitem⟩ := Infinite.exists_notMem_finset s.heap.keys.toFinset
  have hfresh : s.heap.lookup item = none := by
    rw [AList.lookup_eq_none]
    exact fun hmem => hitem (List.mem_toFinset.2 (AList.mem_keys.1 hmem))
  refine ⟨item, ?_⟩
  rw [postStep]
  cases hpost : s.post t with
  | idle => exact absurd hpost hbusy
  | get data pc =>
    cases pc with
    | check => exact ⟨_, rfl⟩
    | create => exact ⟨_, rfl⟩
    | fetch =>
      obtain ⟨q, hq⟩ := Option.ne_none_iff_exists'.1 (hfetch data hpost)
      simp only [hq, if_pos hfresh]
      exact ⟨_, rfl⟩
  | lock data q item =>
    rw [hpost] at hfree
    simp only [if_pos (hfree.resolve_right (by simp [PostPc.critical]))]
    exact ⟨_, rfl⟩
  | enqueue data q item => exact ⟨_, rfl⟩
  | unlock => exact ⟨_, rfl⟩

theorem Inv.fetch_proc (h : s.Inv cells) (kind : QueueKind) (hproc : s.proc = .get kind .fetch) :
    s.inst kind ≠ none :=
  h.madeOnce.fetch none kind (by rw [getting, hproc]; rfl)

theorem Inv.fetch_post (h : s.Inv cells) (data : CmdQData D) (hpost : s.post t = .get data .fetch) :
    s.inst data.kind ≠ none :=
  h.madeOnce.fetch (some t) data.kind (by rw [getting, hpost]; rfl)

theorem Inv.ok (h : s.Inv cells) {a : CmdqStep D} {r : Except Fault (Cmdq D)}
    (hstep : s.step a = some r) : ∃ s', s.step a = some (.ok s') := by
  cases r with
  | ok s' => exact ⟨s', hstep⟩
  | error f => exact absurd hstep (h.noFault a f)

theorem Inv.goesOn (h : s.Inv cells) (hleft : s.proc ≠ .wait false ∨ ∃ t, s.post t ≠ .idle) :
    ∃ a s', a.who ≠ none ∧ s.step a = some (.ok s') := by
  have hpost : ∀ t, s.mutex = none ∨ (s.post t).critical → s.post t ≠ .idle →
      ∃ a s', a.who ≠ none ∧ s.step a = some (.ok s') := by
    intro t hfree hbusy
    obtain ⟨item, r, hstep⟩ := postStep_of_free hfree h.fetch_post hbusy
    obtain ⟨s', hs'⟩ := h.ok (a := .post t item) hstep
    exact ⟨.post t item, s', by simp [CmdqStep.who], hs'⟩
  have hproc : s.mutex = none ∨ s.proc.critical →
      ((∃ item, s.proc = .callback item) → s.post 0 = .idle) → s.proc ≠ .wait false →
      ∃ a s', a.who ≠ none ∧ s.step a = some (.ok s') := by
    intro hfree hhandler hawake
    obtain ⟨r, hstep⟩ := procStep_of_free hfree hhandler h.fetch_proc hawake
    obtain ⟨s', hs'⟩ := h.ok (a := .process) hstep
    exact ⟨.process, s', by simp [CmdqStep.who], hs'⟩
  cases hmutex : s.mutex with
  | some t =>
    -- who holds the mutex goes on
    rcases h.exclusive.held t hmutex with hcritical | ⟨-, hcritical⟩
    · exact hpost t (.inr hcritical) (by intro hidle; simp [hidle, PostPc.critical] at hcritical)
    · refine hproc (.inr hcritical) ?_ (by intro hwait; simp [hwait, ProcPc.critical] at hcritical)
      intro hrun
      obtain ⟨item, hcallback⟩ := hrun
      simp [hcallback, ProcPc.critical] at hcritical
  | none =>
    by_cases hbusy : ∃ t, s.post t ≠ .idle
    · obtain ⟨t, ht⟩ := hbusy
      exact hpost t (.inl hmutex) ht
    · push Not at hbusy
      exact hproc (.inl hmutex) (fun _ => hbusy 0) (hleft.resolve_right (by simpa using hbusy))

theorem undisturbed_of_idle (hidle : ∀ t, s.post t = .idle) : s.Undisturbed .process := by
  intro who kind hwho hcheck other
  obtain rfl := Option.some_inj.1 hwho
  cases other with
  | none =>
    rw [hcheck]
    simp
  | some t =>
    rw [getting, hidle t]
    simp [PostPc.getting]

theorem Inv.drains (h : s.Inv cells) (hidle : ∀ t, s.post t = .idle) :
    ∃ n s', s.processRun n = some (.ok s') ∧ s'.proc = .wait false ∧ s'.posted = s.posted ∧
      ∀ kind, s'.processed kind = s.posted kind := by
  -- by induction on the work left
  induction hwork : s.work cells using Nat.strong_induction_on generalizing s cells with
  | _ work ih =>
    by_cases hawake : s.proc = .wait false
    · exact ⟨0, s, rfl, hawake, rfl, fun kind =>
        h.processed_all (by rw [hawake]; rfl) (h.asleep hawake kind)⟩
    · have hfree : s.mutex = none ∨ s.proc.critical := by
        cases hmutex : s.mutex with
        | none => exact .inl rfl
        | some t =>
          rcases h.exclusive.held t hmutex with hcritical | ⟨-, hcritical⟩
          · rw [hidle t] at hcritical
            exact absurd hcritical (by simp [PostPc.critical])
          · exact .inr hcritical
      obtain ⟨r, hstep⟩ := procStep_of_free hfree (fun _ => hidle 0) h.fetch_proc hawake
      obtain ⟨s₁, cells₁, rfl, hinv, hpost, hposted, hless⟩ :=
        h.procStep (fun kind => undisturbed_of_idle hidle none kind rfl) hstep
      obtain ⟨n, s', hrun, hasleep, hposted', hall⟩ :=
        ih _ (hwork ▸ hless) hinv (fun t => by rw [hpost, hidle t]) rfl
      refine ⟨n + 1, s', ?_, hasleep, hposted'.trans hposted, fun kind => hposted ▸ hall kind⟩
      rw [Cmdq.processRun, hstep]
      exact hrun

theorem Reached.processRun (h : Reached Undisturbed s) (hidle : ∀ t, s.post t = .idle) {n : Nat}
    {s' : Cmdq D} (hrun : s.processRun n = some (.ok s')) : Reached Undisturbed s' := by
  induction n generalizing s with
  | zero =>
    obtain rfl := Except.ok.inj (Option.some_inj.1 hrun)
    exact h
  | succ n ih =>
    rw [Cmdq.processRun] at hrun
    split at hrun
    next s₁ hstep =>
      obtain ⟨cells, hinv⟩ := h.inv
      obtain ⟨s₂, -, hr, -, hpost, -⟩ :=
        hinv.procStep (fun kind => undisturbed_of_idle hidle none kind rfl) hstep
      obtain rfl := Except.ok.inj hr
      exact ih (h.step (undisturbed_of_idle hidle) hstep) (fun t => by rw [hpost, hidle t]) hrun
    next hnot => exact absurd hrun (hnot s')

/-- The steps one after the other. -/
def steps (s : Cmdq D) : List (CmdqStep D) → Option (Except Fault (Cmdq D))
  | [] => some (.ok s)
  | a :: as =>
    match s.step a with
    | some (.ok s) => s.steps as
    | next => next

theorem Reached.steps {allowed : Cmdq D → CmdqStep D → Prop} (h : Reached allowed s)
    (hallowed : ∀ s a, allowed s a) {as : List (CmdqStep D)} {s' : Cmdq D}
    (has : s.steps as = some (.ok s')) : Reached allowed s' := by
  induction as generalizing s with
  | nil =>
    obtain rfl := Except.ok.inj (Option.some_inj.1 has)
    exact h
  | cons a as ih =>
    rw [Cmdq.steps] at has
    split at has
    next s₁ hstep => exact ih (h.step (hallowed s a) hstep) has
    next hnot => exact absurd has (hnot s')

/-- A link that comes up, of the external queue. -/
def linkUp : CmdQData Unit := ⟨.linkUp, ()⟩

end Cmdq

end Axon7.Dispatch
