import Axon7.Agps.Event

/-!
# The state agrees with the list

A machine of the base class is released only while it has no subscribers,
waits for a connection or holds one only for an active subscriber, and waits
for the close of one only for some subscriber.
-/

namespace Axon7.Agps

namespace AgpsStateMachine

variable {sm : AgpsStateMachine} {env : Env} {cur : AgpsSubscriber}
  {event : AgpsEvent} {r : AgpsStateMachine × List Out}

def handles (l : List AgpsSubscriber) : List Int := l.map (·.mConnHandle)

/-- No handle is in the list twice. -/
def Distinct (sm : AgpsStateMachine) : Prop := (handles sm.mSubscriberList).Nodup

/-- A released machine has no subscribers. -/
def Idle (sm : AgpsStateMachine) : Prop :=
  sm.mState = .released → sm.mSubscriberList = []

/-- The state agrees with the list. -/
structure Agrees (sm : AgpsStateMachine) : Prop where
  distinct : sm.Distinct
  released : sm.Idle
  up : sm.Up → ∃ s ∈ sm.mSubscriberList, s.mIsInactive = false
  releasing : sm.mState = .releasing → sm.mSubscriberList ≠ []

/-! ## Handles -/

theorem handles_setInactive (handle : Int) (l : List AgpsSubscriber) :
    handles (setInactive handle l) = handles l := by
  induction l with
  | nil => rfl
  | cons s l ih =>
    rw [setInactive]
    split
    · rfl
    · show s.mConnHandle :: handles (setInactive handle l) = _
      rw [ih]
      rfl

theorem distinct_of_eq {sm' : AgpsStateMachine} (h : sm.Distinct)
    (heq : sm'.mSubscriberList = sm.mSubscriberList) : sm'.Distinct := by
  unfold Distinct
  rw [heq]
  exact h

theorem distinct_filter {sm' : AgpsStateMachine} (h : sm.Distinct)
    {p : AgpsSubscriber → Bool}
    (heq : sm'.mSubscriberList = sm.mSubscriberList.filter p) :
    sm'.Distinct := by
  unfold Distinct
  rw [heq]
  exact h.sublist (List.filter_sublist.map _)

theorem distinct_add (h : sm.Distinct) : (sm.addSubscriber cur).Distinct := by
  unfold addSubscriber
  split
  · exact h
  · next hnew =>
      have hnot : cur.mConnHandle ∉ handles sm.mSubscriberList := by
        simpa [handles] using hnew
      show (handles (sm.mSubscriberList ++ [cur])).Nodup
      rw [handles, List.map_append]
      exact List.nodup_append.mpr ⟨h, by simp, by
        intro a ha b hb heq
        simp only [List.map_cons, List.map_nil, List.mem_singleton] at hb
        exact hnot (hb ▸ heq ▸ ha)⟩

theorem distinct_left (h : sm.Distinct) : (handles (sm.left cur)).Nodup := by
  unfold left
  split
  · rw [handles_setInactive]
    exact h
  · exact h.sublist (List.filter_sublist.map _)

theorem Subscribed.distinct (hr : Subscribed sm env cur r) (h : sm.Distinct) :
    r.1.Distinct :=
  distinct_of_eq (distinct_add h) hr.list

theorem Unsubscribed.distinct (hr : Unsubscribed sm env cur r)
    (h : sm.Distinct) : r.1.Distinct := by
  unfold Distinct
  rw [hr.list]
  split
  · exact h
  · exact distinct_left h

theorem Reported.distinct (hr : Reported sm env event r) (h : sm.Distinct) :
    r.1.Distinct := by
  obtain ⟨p, hp⟩ := hr.list
  exact distinct_filter h hp

/-! ## Released means empty -/

theorem Subscribed.not_released (hr : Subscribed sm env cur r)
    (hkind : sm.kind = .nif) : r.1.mState ≠ .released := by
  cases hr with
  | asks newState hstate hnew =>
    obtain rfl | ⟨-, hds⟩ := hnew
    · simp
    · rw [hkind] at hds
      cases hds
  | granted hstate => simp [hstate]
  | waits hstate => obtain h | h := hstate <;> simp [h]

theorem Unsubscribed.idle (hr : Unsubscribed sm env cur r) (h : sm.Idle) :
    r.1.Idle := by
  intro hreleased
  rw [hr.list]
  cases hr with
  | refused hstate => simp [hstate, h hstate]
  | stays newState hstate hnew =>
    rw [if_neg hstate]
    obtain ⟨rfl, -, -⟩ | ⟨-, hnil⟩ := hnew
    · exact absurd hreleased hstate
    · exact hnil
  | closes newState hup hnone hnew =>
    rw [if_neg hup.not_released]
    obtain ⟨rfl, -⟩ | ⟨-, hnil⟩ := hnew
    · simp [moveAndAsk] at hreleased
    · exact hnil

theorem Reported.idle (hr : Reported sm env event r) (h : sm.Idle) :
    r.1.Idle := by
  intro hreleased
  cases hr with
  | nothing => exact h hreleased
  | granted => simp at hreleased
  | forced => simp [AgpsNotificationType.meant]
  | denied => simp [AgpsNotificationType.meant]
  | reopened => simp [moveAndAsk] at hreleased
  | closed hstate hnone =>
    simpa [AgpsNotificationType.meant, anyActiveSubscribers] using hnone

/-! ## The state agrees with the list -/

theorem mem_add {s : AgpsSubscriber} (h : s ∈ sm.mSubscriberList) :
    s ∈ (sm.addSubscriber cur).mSubscriberList := by
  unfold addSubscriber
  split
  · exact h
  · exact List.mem_append_left _ h

theorem add_ne_nil : (sm.addSubscriber cur).mSubscriberList ≠ [] := by
  unfold addSubscriber
  split
  · next h =>
      intro hnil
      simp [hnil] at h
  · simp

theorem Agrees.subscribe (h : sm.Agrees) (hr : Subscribed sm env cur r)
    (hkind : sm.kind = .nif) (hactive : cur.mIsInactive = false) :
    r.1.Agrees where
  distinct := hr.distinct h.distinct
  released hreleased := absurd hreleased (hr.not_released hkind)
  up hup := by
    rw [hr.list]
    cases hr with
    | asks newState hstate =>
      -- The list was empty, so the subscriber has been added.
      exact ⟨cur, by simp [addSubscriber, h.released hstate], hactive⟩
    | granted hstate =>
      obtain ⟨s, hs, hact⟩ := h.up (.inr hstate)
      exact ⟨s, mem_add hs, hact⟩
    | waits hstate =>
      unfold Up at hup
      rw [addSubscriber_state] at hup
      obtain ⟨s, hs, hact⟩ := h.up hup
      exact ⟨s, mem_add hs, hact⟩
  releasing _ := by
    rw [hr.list]
    exact add_ne_nil

theorem Agrees.unsubscribe (h : sm.Agrees) (hr : Unsubscribed sm env cur r) :
    r.1.Agrees where
  distinct := hr.distinct h.distinct
  released := hr.idle h.released
  up hup := by
    rw [hr.list]
    cases hr with
    | refused hstate => simp [Up, hstate] at hup
    | stays newState hstate hnew =>
      rw [if_neg hstate]
      obtain ⟨rfl, -, hany⟩ | ⟨rfl, -⟩ := hnew
      · exact hany hup
      · simp [Up] at hup
    | closes newState hup' hnone hnew =>
      obtain ⟨rfl, -⟩ | ⟨rfl, -⟩ := hnew <;> simp [Up, moveAndAsk] at hup
  releasing hreleasing := by
    rw [hr.list]
    cases hr with
    | refused hstate => simp [hstate] at hreleasing
    | stays newState hstate hnew =>
      rw [if_neg hstate]
      obtain ⟨-, hne, -⟩ | ⟨rfl, -⟩ := hnew
      · exact hne
      · simp at hreleasing
    | closes newState hup hnone hnew =>
      rw [if_neg hup.not_released]
      obtain ⟨-, hne⟩ | ⟨rfl, -⟩ := hnew
      · exact hne
      · simp [moveAndAsk] at hreleasing

theorem agrees_of_nil (hnil : sm.mSubscriberList = [])
    (hstate : sm.mState = .released) : sm.Agrees where
  distinct := by simp [Distinct, hnil, handles]
  released := fun _ => hnil
  up := by simp [Up, hstate]
  releasing := by simp [hstate]

theorem Agrees.report (h : sm.Agrees) (hr : Reported sm env event r) :
    r.1.Agrees := by
  have hdistinct := hr.distinct h.distinct
  have hidle := hr.idle h.released
  cases hr with
  | nothing => exact h
  | granted hstate =>
    refine ⟨hdistinct, hidle, fun _ => ?_, by simp⟩
    simpa using h.up (.inl hstate)
  | forced => exact agrees_of_nil (by simp [AgpsNotificationType.meant]) (by simp)
  | denied => exact agrees_of_nil (by simp [AgpsNotificationType.meant]) (by simp)
  | reopened hstate hany =>
    refine ⟨hdistinct, hidle, fun _ => ?_, by simp [moveAndAsk]⟩
    simpa [moveAndAsk, AgpsNotificationType.meant, anyActiveSubscribers]
      using hany
  | closed => exact ⟨hdistinct, hidle, by simp [Up], by simp⟩

end AgpsStateMachine

/-! ## All machines of a manager -/

/-- The machine is what the pointer is for, without a handle twice; one of the
base class has no subscribers while it is released. -/
structure Sound (nif : Nif) (sm : AgpsStateMachine) : Prop where
  kind : sm.kind = nif.new.kind
  type : sm.mAgpsType = nif.new.mAgpsType
  distinct : sm.Distinct
  idle : nif ≠ .ds → sm.Idle

/-- `P` holds of every machine there is. -/
def AgpsManager.All (P : Nif → AgpsStateMachine → Prop) (m : AgpsManager) :
    Prop :=
  ∀ nif sm, m.machine nif = some sm → P nif sm

namespace AgpsManager.All

open AgpsStateMachine

variable {P : Nif → AgpsStateMachine → Prop} {m m' : AgpsManager}
  {made : List Out}

theorem created (hnew : ∀ nif, P nif nif.new) (h : m.All P)
    (hmade : Created m (m', made)) : m'.All P := by
  intro nif sm hsm
  obtain heq | ⟨-, heq⟩ := hmade.machine nif
  · exact h nif sm (heq.symm.trans hsm)
  · obtain rfl := Option.some.inj (heq.symm.trans hsm)
    exact hnew nif

theorem set (h : m.All P) {nif : Nif} {sm : AgpsStateMachine} (hsm : P nif sm) :
    (m.setMachine nif sm).All P := by
  intro n sm' hsm'
  rw [setMachine_machine] at hsm'
  split at hsm'
  · next heq =>
      obtain rfl := Option.some.inj hsm'
      exact heq ▸ hsm
  · exact h n sm' hsm'

theorem call {env : Env} {msg : Msg} {r : AgpsManager × List Out}
    (hnew : ∀ nif, P nif nif.new)
    (hsubscribe : ∀ nif sm cur r, Subscribed sm env cur r →
      cur.mIsInactive = false → P nif sm → P nif r.1)
    (hunsubscribe : ∀ nif sm cur r, Unsubscribed sm env cur r → P nif sm →
      P nif r.1)
    (hreport : ∀ nif sm bearer apn event r,
      Reported { sm with mBearer := bearer, mAPN := apn } env event r →
      P nif sm → P nif r.1)
    (hdrop : msg = .handleModemSSR → ∀ nif sm, P nif sm →
      P nif sm.dropAllSubscribers)
    (h : m.All P) (hcall : Call env m msg r) : r.1.All P := by
  cases hcall with
  | created _ hmade => exact h.created hnew hmade
  | openRefused hmade => exact h.created hnew hmade
  | closeRefused => exact h
  | subscribe hmade hsm =>
    have h' := h.created hnew hmade
    exact h'.set (hsubscribe _ _ _ _ (subscribed _ _ _) rfl (h' _ _ hsm))
  | unsubscribe hfind =>
    have hsm := (findSubscriber_eq_some hfind).1
    exact h.set (hunsubscribe _ _ _ _ (unsubscribed _ _ _) (h _ _ hsm))
  | report bearer apn _ hmade hsm =>
    have h' := h.created hnew hmade
    exact h'.set (hreport _ _ bearer apn _ _ (reported _ _ _) (h' _ _ hsm))
  | restart =>
    intro nif sm hsm
    rw [handleModemSSR_machine] at hsm
    obtain ⟨old, hmachine, rfl⟩ := Option.map_eq_some_iff.mp hsm
    exact hdrop rfl nif old (h nif old hmachine)

end AgpsManager.All

namespace Sound

variable {nif : Nif} {sm : AgpsStateMachine} {env : Env} {cur : AgpsSubscriber}

theorem new (nif : Nif) : Sound nif nif.new := by
  refine ⟨rfl, rfl, ?_, ?_⟩
  · cases nif <;> exact List.nodup_nil
  · cases nif <;> exact fun _ _ => rfl

theorem nif_kind (h : Sound nif sm) (hnif : nif ≠ .ds) : sm.kind = .nif := by
  rw [h.kind]
  cases nif
  · rfl
  · rfl
  · contradiction

theorem of_same (h : Sound nif sm) {sm' : AgpsStateMachine}
    (hsame : sm.Same sm') (hdistinct : sm'.Distinct)
    (hidle : nif ≠ .ds → sm'.Idle) : Sound nif sm' :=
  ⟨hsame.1.trans h.kind, hsame.2.trans h.type, hdistinct, hidle⟩

end Sound

namespace System

open AgpsStateMachine

theorem run_sound (os : List (Env × Op)) : (run os).manager.All Sound := by
  induction os using List.reverseRecOn with
  | nil => exact fun nif sm hsm => by cases nif <;> cases hsm
  | append_singleton os o ih =>
    rw [run_snoc]
    obtain ⟨msg, r, hcall, -, hr, -⟩ | ⟨hsame, -⟩ := (run os).step_cases o
    · rw [hr]
      refine ih.call .new ?_ ?_ ?_ ?_ hcall
      · intro nif sm cur r hr _ h
        exact h.of_same hr.same (hr.distinct h.distinct) fun hne hreleased =>
          absurd hreleased (hr.not_released (h.nif_kind hne))
      · intro nif sm cur r hr h
        exact h.of_same hr.same (hr.distinct h.distinct) fun hne =>
          hr.idle (h.idle hne)
      · intro nif sm bearer apn event r hr h
        exact h.of_same hr.same (hr.distinct h.distinct) fun hne =>
          hr.idle (h.idle hne)
      · intro _ nif sm h
        exact ⟨h.kind, h.type, List.nodup_nil, fun _ _ => rfl⟩
    · rw [hsame]
      exact ih

theorem run_all_agrees {os : List (Env × Op)}
    (hos : ∀ o ∈ os, o.2 ≠ .call .handleModemSSR) :
    (run os).manager.All fun nif sm =>
      nif ≠ .ds → sm.kind = .nif ∧ sm.Agrees := by
  induction os using List.reverseRecOn with
  | nil => exact fun nif sm hsm => by cases nif <;> cases hsm
  | append_singleton os o ih =>
    have ih := ih fun o' ho' => hos o' (List.mem_append_left _ ho')
    rw [run_snoc]
    obtain ⟨msg, r, hcall, hmsg, hr, -⟩ | ⟨hsame, -⟩ := (run os).step_cases o
    · rw [hr]
      refine ih.call ?_ ?_ ?_ ?_ ?_ hcall
      · intro nif hne
        exact ⟨(Sound.new nif).nif_kind hne,
          agrees_of_nil (by cases nif <;> rfl) (by cases nif <;> rfl)⟩
      · intro nif sm cur r hr hactive h hne
        obtain ⟨hkind, hagrees⟩ := h hne
        exact ⟨hr.same.1.trans hkind, hagrees.subscribe hr hkind hactive⟩
      · intro nif sm cur r hr h hne
        obtain ⟨hkind, hagrees⟩ := h hne
        exact ⟨hr.same.1.trans hkind, hagrees.unsubscribe hr⟩
      · intro nif sm bearer apn event r hr h hne
        obtain ⟨hkind, hagrees⟩ := h hne
        -- The state and the list do not see the bearer and the name.
        have hagrees : Agrees { sm with mBearer := bearer, mAPN := apn } :=
          ⟨hagrees.distinct, hagrees.released, hagrees.up, hagrees.releasing⟩
        exact ⟨hr.same.1.trans hkind, hagrees.report hr⟩
      · intro hrestart
        exact absurd (hmsg hrestart) (hos o (by simp))
    · rw [hsame]
      exact ih

end System

end Axon7.Agps
