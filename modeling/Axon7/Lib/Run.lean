import Mathlib

/-!
# Runs as folds

A run is a fold of a step function over a list of operations. An invariant of
the steps holds at the end of every run; a property held *along* a run holds
after each of its prefixes, the empty one and the whole run included. Along a
concatenation a property is checked on the two halves, so a long sequence of
small writes is checked piece by piece.
-/

namespace Axon7.Lib

variable {σ ω : Type*} {step : σ → ω → σ}

theorem foldl_invariant (I : σ → Prop) (valid : ω → Prop)
    (hstep : ∀ s o, I s → valid o → I (step s o)) {s : σ} (hs : I s) :
    ∀ os : List ω, (∀ o ∈ os, valid o) → I (os.foldl step s) := by
  intro os
  induction os generalizing s with
  | nil => exact fun _ => hs
  | cons o os ih =>
    intro hv
    exact ih (hstep s o hs (hv o List.mem_cons_self))
      fun o' ho' => hv o' (List.mem_cons_of_mem _ ho')

theorem foldl_update_cases {κ ν α : Type*} [DecidableEq κ] (key : α → κ) (val : α → ν)
    (l : List α) (d : κ → ν) (x : κ) :
    (∀ a ∈ l, key a ≠ x) ∧ l.foldl (fun d a => Function.update d (key a) (val a)) d x = d x ∨
      ∃ a ∈ l, key a = x ∧
        l.foldl (fun d a => Function.update d (key a) (val a)) d x = val a := by
  induction l using List.reverseRecOn with
  | nil => exact .inl ⟨fun a ha => absurd ha List.not_mem_nil, rfl⟩
  | append_singleton l a ih =>
    rw [List.foldl_concat]
    rcases eq_or_ne (key a) x with rfl | hne
    · exact .inr ⟨a, List.mem_concat_self, rfl, Function.update_self ..⟩
    · rw [Function.update_of_ne hne.symm]
      obtain ⟨hkeys, heq⟩ | ⟨a', ha', hkey, heq⟩ := ih
      · refine .inl ⟨fun a' ha' => ?_, heq⟩
        obtain ha' | ha' := List.mem_append.mp ha'
        · exact hkeys a' ha'
        · rw [List.mem_singleton.mp ha']
          exact hne
      · exact .inr ⟨a', List.mem_append_left _ ha', hkey, heq⟩

/-- `P` holds after every prefix of the run. -/
def Along (step : σ → ω → σ) (P : σ → Prop) (s : σ) (os : List ω) : Prop :=
  ∀ pre, pre <+: os → P (pre.foldl step s)

namespace Along

variable {P Q : σ → Prop} {s : σ}

theorem nil_iff : Along step P s [] ↔ P s := by
  constructor
  · exact fun h => h [] (List.prefix_rfl)
  · intro h pre hpre
    rw [List.prefix_nil.mp hpre]
    exact h

theorem cons_iff {o : ω} {os : List ω} :
    Along step P s (o :: os) ↔ P s ∧ Along step P (step s o) os := by
  constructor
  · intro h
    exact ⟨h [] (List.nil_prefix), fun pre hpre =>
      h (o :: pre) (List.cons_prefix_cons.mpr ⟨rfl, hpre⟩)⟩
  · rintro ⟨hs, h⟩ pre hpre
    cases pre with
    | nil => exact hs
    | cons o' pre =>
      obtain ⟨rfl, htl⟩ := List.cons_prefix_cons.mp hpre
      exact h pre htl

theorem append_iff {os os' : List ω} :
    Along step P s (os ++ os') ↔
      Along step P s os ∧ Along step P (os.foldl step s) os' := by
  induction os generalizing s with
  | nil =>
    rw [List.nil_append, nil_iff, List.foldl_nil]
    exact ⟨fun h => ⟨h [] List.nil_prefix, h⟩, And.right⟩
  | cons o os ih =>
    rw [List.cons_append, cons_iff, cons_iff, ih, List.foldl_cons, and_assoc]

theorem mono {os : List ω} (h : Along step P s os) (hPQ : ∀ s, P s → Q s) :
    Along step Q s os :=
  fun pre hpre => hPQ _ (h pre hpre)

end Along

theorem forall_prefix_iff {P : List ω → Prop} {C : List ω → ω → Prop}
    {os : List ω} (hnil : P [])
    (hsnoc : ∀ pre o, pre ++ [o] <+: os → P pre →
      (P (pre ++ [o]) ↔ C pre o)) :
    (∀ pre, pre <+: os → P pre) ↔ ∀ pre o, pre ++ [o] <+: os → C pre o := by
  induction os using List.reverseRecOn with
  | nil =>
    constructor
    · intro _ pre o hpre
      exact absurd (List.prefix_nil.mp hpre) (by simp)
    · intro _ pre hpre
      obtain rfl := List.prefix_nil.mp hpre
      exact hnil
  | append_singleton os o ih =>
    have hpart : os <+: os ++ [o] := List.prefix_append _ _
    have ih := ih fun pre o' hpre => hsnoc pre o' (hpre.trans hpart)
    have hlast := hsnoc os o List.prefix_rfl
    constructor
    · intro hall pre o' hprefix
      have hos : ∀ pre, pre <+: os → P pre := fun pre hp =>
        hall pre (hp.trans hpart)
      obtain heq | hprefix := List.prefix_concat_iff.mp hprefix
      · obtain ⟨rfl, ho⟩ := List.append_inj' heq rfl
        obtain rfl : o' = o := List.singleton_inj.mp ho
        exact (hlast (hos pre List.prefix_rfl)).mp (hall _ List.prefix_rfl)
      · exact ih.mp hos pre o' hprefix
    · intro hcond pre hprefix
      have hos : ∀ pre, pre <+: os → P pre :=
        ih.mpr fun pre o' hp => hcond pre o' (hp.trans hpart)
      obtain rfl | hprefix := List.prefix_concat_iff.mp hprefix
      · exact (hlast (hos os List.prefix_rfl)).mpr
          (hcond os o List.prefix_rfl)
      · exact hos pre hprefix

theorem forall_concat_iff {I : List ω → Prop} {R C : List ω → ω → Prop}
    {os : List ω} (hnil : I [])
    (hstep : ∀ pre o, pre ++ [o] <+: os → I pre → R pre o → I (pre ++ [o]))
    (hiff : ∀ pre o, pre ++ [o] <+: os → I pre → (R pre o ↔ C pre o)) :
    (∀ pre o, pre ++ [o] <+: os → R pre o) ↔
      ∀ pre o, pre ++ [o] <+: os → C pre o := by
  have hI : (∀ pre o, pre ++ [o] <+: os → I pre → R pre o) →
      ∀ pre, pre <+: os → I pre := by
    intro hR pre
    induction pre using List.reverseRecOn with
    | nil => exact fun _ => hnil
    | append_singleton pre o ih =>
      intro hpre
      have hinv := ih ((List.prefix_append pre [o]).trans hpre)
      exact hstep pre o hpre hinv (hR pre o hpre hinv)
  constructor
  · intro hR pre o hpre
    have hinv := hI (fun pre o hpre _ => hR pre o hpre) pre
      ((List.prefix_append pre [o]).trans hpre)
    exact (hiff pre o hpre hinv).mp (hR pre o hpre)
  · intro hC pre o hpre
    have hR : ∀ pre o, pre ++ [o] <+: os → I pre → R pre o := fun pre o hpre hinv =>
      (hiff pre o hpre hinv).mpr (hC pre o hpre)
    exact hR pre o hpre (hI hR pre ((List.prefix_append pre [o]).trans hpre))

theorem forall_prefix_iff_of_invariant {I P : List ω → Prop} {C : List ω → ω → Prop}
    {os : List ω} (hnil : I []) (hP : ∀ pre, I pre → P pre)
    (hkeep : ∀ pre o, pre ++ [o] <+: os → I pre → C pre o → I (pre ++ [o]))
    (hneed : ∀ pre o, pre ++ [o] <+: os → I pre → P (pre ++ [o]) → C pre o) :
    (∀ pre, pre <+: os → P pre) ↔ ∀ pre o, pre ++ [o] <+: os → C pre o := by
  constructor
  · intro hall
    have hI : ∀ pre, pre <+: os → I pre := by
      intro pre
      induction pre using List.reverseRecOn with
      | nil => exact fun _ => hnil
      | append_singleton pre o ih =>
        intro hpre
        have hinv := ih ((List.prefix_append pre [o]).trans hpre)
        exact hkeep pre o hpre hinv (hneed pre o hpre hinv (hall _ hpre))
    exact fun pre o hpre =>
      hneed pre o hpre (hI pre ((List.prefix_append pre [o]).trans hpre)) (hall _ hpre)
  · intro hcond pre hpre
    refine hP pre ?_
    induction pre using List.reverseRecOn with
    | nil => exact hnil
    | append_singleton pre o ih =>
      exact hkeep pre o hpre (ih ((List.prefix_append pre [o]).trans hpre)) (hcond pre o hpre)

theorem forall_concat_of_take {C : List ω → ω → Prop} {os : List ω}
    (h : ∀ (k : ℕ) (hk : k < os.length), C (os.take k) os[k]) :
    ∀ pre o, pre ++ [o] <+: os → C pre o := by
  rintro pre o ⟨rest, rfl⟩
  have hplace := h pre.length (by simp)
  simpa using hplace

end Axon7.Lib

/-!
# What is there since

Some events of a history put a thing in, some take it out. It is there when an
event has put it in and none since has taken it out. Only the last event counts
beside what was there before.
-/

namespace Axon7.Lib

variable {ω : Type*} {adds removes : ω → Prop} {os : List ω} {o : ω}

/-- An event puts it in and none after it takes it out. -/
def Since (adds removes : ω → Prop) (os : List ω) : Prop :=
  ∃ pre o post, os = pre ++ o :: post ∧ adds o ∧ ∀ o' ∈ post, ¬ removes o'

theorem not_since_nil : ¬ Since adds removes [] := by
  intro ⟨pre, o, post, h, _⟩
  exact absurd h.symm (List.append_ne_nil_of_right_ne_nil _ (List.cons_ne_nil _ _))

theorem since_concat :
    Since adds removes (os ++ [o]) ↔ adds o ∨ Since adds removes os ∧ ¬ removes o := by
  constructor
  · intro ⟨pre, o', post, hos, hadds, hpost⟩
    obtain rfl | ⟨post, last, rfl⟩ := post.eq_nil_or_concat'
    · obtain rfl := List.singleton_inj.mp (List.append_inj_right' hos rfl)
      exact .inl hadds
    · rw [← List.cons_append, ← List.append_assoc] at hos
      obtain ⟨rfl, hlast⟩ := List.append_inj' hos rfl
      obtain rfl := List.singleton_inj.mp hlast
      refine .inr ⟨⟨pre, o', post, rfl, hadds, fun o'' ho => ?_⟩, ?_⟩
      · exact hpost o'' (List.mem_append_left _ ho)
      · exact hpost o (List.mem_append_right _ List.mem_cons_self)
  · intro h
    obtain hadds | ⟨⟨pre, o', post, rfl, hadds, hpost⟩, hremoves⟩ := h
    · exact ⟨os, o, [], rfl, hadds, fun _ ho => absurd ho List.not_mem_nil⟩
    · refine ⟨pre, o', post ++ [o], by simp, hadds, fun o'' ho => ?_⟩
      obtain ho | ho := List.mem_append.mp ho
      · exact hpost o'' ho
      · rw [List.mem_singleton.mp ho]
        exact hremoves

end Axon7.Lib
