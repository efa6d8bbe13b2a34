import Mathlib

/-!
# Set operations on ranges

The set algorithms of a standard library walk two ranges side by side and
compare their heads. On ranges in increasing order the walk computes the
difference and the intersection. On other ranges it still ends, and what it
gives is described here as far as it goes: every element of the first range
is in the difference or has an equal in the second, and nothing comes out that
was not in the first range.
-/

namespace Axon7.Lib

variable {α : Type*} [LinearOrder α]

/-- `set_difference`: what is smaller in the second range is passed over. -/
def setDifference : List α → List α → List α
  | [], _ => []
  | a :: l, r =>
    match r.dropWhile (· < a) with
    | [] => a :: l
    | b :: r =>
      if a < b then a :: setDifference l (b :: r) else setDifference l r

/-- `set_intersection`. -/
def setIntersection : List α → List α → List α
  | [], _ => []
  | a :: l, r =>
    match r.dropWhile (· < a) with
    | [] => []
    | b :: r =>
      if a < b then setIntersection l (b :: r)
      else a :: setIntersection l r

/-- `merge`: what is smaller in the second range comes first. -/
def mergeRange : List α → List α → List α
  | [], r => r
  | a :: l, r =>
    r.takeWhile (· < a) ++ a :: mergeRange l (r.dropWhile (· < a))

theorem mem_mergeRange {x : α} {l r : List α} :
    x ∈ mergeRange l r ↔ x ∈ l ∨ x ∈ r := by
  induction l generalizing r with
  | nil => simp [mergeRange]
  | cons a l ih =>
    have hsplit : x ∈ r ↔
        x ∈ r.takeWhile (· < a) ∨ x ∈ r.dropWhile (· < a) := by
      rw [← List.mem_append, List.takeWhile_append_dropWhile]
    rw [mergeRange, List.mem_append, List.mem_cons, ih, List.mem_cons,
      hsplit]
    tauto

section Any

variable {l r : List α}

theorem setDifference_sublist (l r : List α) :
    (setDifference l r).Sublist l := by
  induction l generalizing r with
  | nil => exact List.nil_sublist _
  | cons a l ih =>
    rw [setDifference]
    split
    · exact List.Sublist.refl _
    · split
      · exact (ih _).cons_cons a
      · exact (ih _).cons a

theorem setIntersection_sublist (l r : List α) :
    (setIntersection l r).Sublist l := by
  induction l generalizing r with
  | nil => exact List.nil_sublist _
  | cons a l ih =>
    rw [setIntersection]
    split
    · exact List.nil_sublist _
    · split
      · exact (ih _).cons a
      · exact (ih _).cons_cons a

theorem setIntersection_nil_right (l : List α) : setIntersection l [] = [] := by
  cases l <;> rfl

theorem mem_of_dropWhile {a b : α} {r t : List α}
    (h : r.dropWhile (· < a) = b :: t) : ∀ x ∈ b :: t, x ∈ r := by
  intro x hx
  rw [← h] at hx
  exact (List.dropWhile_sublist _).subset hx

theorem le_of_dropWhile {a b : α} {r t : List α}
    (h : r.dropWhile (· < a) = b :: t) : a ≤ b := by
  have hhead := List.head_dropWhile_not (p := (· < a)) (l := r) (by rw [h]; simp)
  simpa [h] using hhead

theorem mem_setDifference_or {x : α} (hx : x ∈ l) :
    x ∈ setDifference l r ∨ x ∈ r := by
  induction l generalizing r with
  | nil => cases hx
  | cons a l ih =>
    rw [setDifference]
    split
    · exact .inl hx
    · next b t hdrop =>
        have hmem := mem_of_dropWhile hdrop
        split
        · obtain rfl | hx := List.mem_cons.mp hx
          · exact .inl List.mem_cons_self
          · exact (ih hx).imp (List.mem_cons_of_mem a) (hmem x)
        · next hlt =>
            obtain rfl | hx := List.mem_cons.mp hx
            · have heq := le_antisymm (le_of_dropWhile hdrop) (not_lt.mp hlt)
              exact .inr (hmem x (heq ▸ List.mem_cons_self))
            · exact (ih hx).imp id fun ht =>
                hmem x (List.mem_cons_of_mem b ht)

theorem mem_right_of_mem_setIntersection {x : α}
    (hx : x ∈ setIntersection l r) : x ∈ r := by
  induction l generalizing r with
  | nil => cases hx
  | cons a l ih =>
    rw [setIntersection] at hx
    split at hx
    · cases hx
    · next b t hdrop =>
        have hmem := mem_of_dropWhile hdrop
        split at hx
        · exact hmem x (ih hx)
        · next hlt =>
            obtain rfl | hx := List.mem_cons.mp hx
            · have heq := le_antisymm (le_of_dropWhile hdrop) (not_lt.mp hlt)
              exact hmem x (heq ▸ List.mem_cons_self)
            · exact hmem x (List.mem_cons_of_mem b (ih hx))

/-! ## Where the walk finds an element -/

/-- The element is the first of the range that is not smaller. -/
def Finds (r : List α) (a : α) : Prop := (r.dropWhile (· < a)).head? = some a

instance (r : List α) (a : α) : Decidable (Finds r a) := inferInstanceAs (Decidable (_ = _))

/-- What is left of the range after the element was looked for: what is smaller is gone, and
the element itself. -/
def pass (r : List α) (a : α) : List α :=
  if Finds r a then (r.dropWhile (· < a)).tail else r.dropWhile (· < a)

/-- Each element of the first range that has the property is found in the second, where the
elements before it have left the walk. -/
def FindsEach (P : α → Prop) (l r : List α) : Prop :=
  ∀ before a after, l = before ++ a :: after → P a → Finds (before.foldl pass r) a

theorem findsEach_nil (P : α → Prop) (r : List α) : FindsEach P [] r := by
  intro before a after h
  simp at h

theorem findsEach_cons {P : α → Prop} {a : α} {l r : List α} :
    FindsEach P (a :: l) r ↔ (P a → Finds r a) ∧ FindsEach P l (pass r a) := by
  constructor
  · intro h
    refine ⟨h [] a l rfl, fun before b after hl => ?_⟩
    exact h (a :: before) b after (by rw [hl]; rfl)
  · intro hparts before b after hl
    obtain ⟨hhead, htail⟩ := hparts
    cases before with
    | nil =>
      obtain ⟨rfl, -⟩ := List.cons.inj hl
      exact hhead
    | cons c before =>
      obtain ⟨rfl, hrest⟩ := List.cons.inj hl
      exact htail before b after hrest

theorem setDifference_nil_right (l : List α) : setDifference l [] = l := by
  cases l <;> rfl

theorem setDifference_cons (a : α) (l r : List α) :
    setDifference (a :: l) r =
      if Finds r a then setDifference l (pass r a) else a :: setDifference l (pass r a) := by
  rw [setDifference]
  cases hdrop : r.dropWhile (· < a) with
  | nil =>
    have hnot : ¬ Finds r a := by simp [Finds, hdrop]
    rw [if_neg hnot, pass, if_neg hnot, hdrop, setDifference_nil_right]
  | cons b t =>
    have hab := le_of_dropWhile hdrop
    by_cases hlt : a < b
    · have hnot : ¬ Finds r a := by simp [Finds, hdrop, hlt.ne']
      simp only [if_pos hlt, if_neg hnot, pass, hdrop]
    · obtain rfl : a = b := le_antisymm hab (not_lt.mp hlt)
      have hfind : Finds r a := by simp [Finds, hdrop]
      simp only [if_neg hlt, if_pos hfind, pass, hdrop, List.tail_cons]

theorem setIntersection_cons (a : α) (l r : List α) :
    setIntersection (a :: l) r =
      if Finds r a then a :: setIntersection l (pass r a) else setIntersection l (pass r a) := by
  rw [setIntersection]
  cases hdrop : r.dropWhile (· < a) with
  | nil =>
    have hnot : ¬ Finds r a := by simp [Finds, hdrop]
    rw [if_neg hnot, pass, if_neg hnot, hdrop, setIntersection_nil_right]
  | cons b t =>
    have hab := le_of_dropWhile hdrop
    by_cases hlt : a < b
    · have hnot : ¬ Finds r a := by simp [Finds, hdrop, hlt.ne']
      simp only [if_pos hlt, if_neg hnot, pass, hdrop]
    · obtain rfl : a = b := le_antisymm hab (not_lt.mp hlt)
      have hfind : Finds r a := by simp [Finds, hdrop]
      simp only [if_neg hlt, if_pos hfind, pass, hdrop, List.tail_cons]

theorem findsEach_iff_setDifference {P : α → Prop} {l r : List α} :
    FindsEach P l r ↔ ∀ a ∈ setDifference l r, ¬ P a := by
  induction l generalizing r with
  | nil => simp [findsEach_nil, setDifference]
  | cons a l ih =>
    rw [findsEach_cons, ih, setDifference_cons]
    split
    · next hfind => simp [hfind]
    · next hnot => simp [hnot]

theorem mem_of_finds {a : α} (h : Finds r a) : a ∈ r :=
  (List.dropWhile_sublist _).subset (List.mem_of_mem_head? h)

theorem pass_subset (r : List α) (a : α) : pass r a ⊆ r := by
  intro x hx
  rw [pass] at hx
  split at hx
  · exact (List.dropWhile_sublist _).subset (List.mem_of_mem_tail hx)
  · exact (List.dropWhile_sublist _).subset hx

theorem setDifference_eq_filter {P : α → Prop} [DecidablePred P] (h : FindsEach P l r)
    (hr : ∀ a ∈ r, P a) : setDifference l r = l.filter (¬ P ·) := by
  induction l generalizing r with
  | nil => rfl
  | cons a l ih =>
    rw [findsEach_cons] at h
    rw [setDifference_cons, ih h.2 fun b hb => hr b (pass_subset r a hb)]
    by_cases ha : P a
    · rw [if_pos (h.1 ha), List.filter_cons_of_neg (by simpa using ha)]
    · have hnot : ¬ Finds r a := fun hfind => ha (hr a (mem_of_finds hfind))
      rw [if_neg hnot, List.filter_cons_of_pos (by simpa using ha)]

theorem count_setIntersection_le (l r : List α) (a : α) :
    (setIntersection l r).count a ≤ l.count a :=
  (setIntersection_sublist l r).count_le a

theorem findsEach_iff_setIntersection {P : α → Prop} {l r : List α} :
    FindsEach P l r ↔ ∀ a, P a → (setIntersection l r).count a = l.count a := by
  induction l generalizing r with
  | nil => simp [findsEach_nil, setIntersection]
  | cons b l ih =>
    rw [findsEach_cons, ih, setIntersection_cons]
    have hle := count_setIntersection_le l (pass r b)
    split
    · next hfind =>
        simp only [hfind, implies_true, true_and, List.count_cons, Nat.add_right_cancel_iff]
    · next hnot =>
        simp only [hnot, imp_false, List.count_cons]
        constructor
        · intro hcount a ha
          obtain ⟨hb, hall⟩ := hcount
          have hne : b ≠ a := fun heq => hb (heq ▸ ha)
          simpa [hne] using hall a ha
        · intro hall
          have hb : ¬ P b := by
            intro hb
            have hcount := hall b hb
            have := hle b
            simp at hcount
            omega
          refine ⟨hb, fun a ha => ?_⟩
          have hne : b ≠ a := fun heq => hb (heq ▸ ha)
          simpa [hne] using hall a ha

theorem mergeRange_perm (l r : List α) : (mergeRange l r).Perm (l ++ r) := by
  induction l generalizing r with
  | nil => exact List.Perm.refl _
  | cons a l ih =>
    have hrest := ((ih (r.dropWhile (· < a))).cons a).append_left (r.takeWhile (· < a))
    refine hrest.trans (List.perm_middle.trans ?_)
    refine List.Perm.cons a ?_
    rw [← List.append_assoc]
    refine (List.perm_append_comm.append_right _).trans ?_
    rw [List.append_assoc, List.takeWhile_append_dropWhile]
    exact List.Perm.refl _

end Any

/-! ## Ranges in increasing order -/

theorem mem_dropWhile_iff {a x : α} (hax : a ≤ x) {r : List α} :
    x ∈ r.dropWhile (· < a) ↔ x ∈ r := by
  constructor
  · exact fun hx => (List.dropWhile_sublist _).subset hx
  · intro hx
    rw [← List.takeWhile_append_dropWhile (p := (· < a)) (l := r),
      List.mem_append] at hx
    obtain hx | hx := hx
    · have hlt := List.mem_takeWhile_imp hx
      exact absurd (of_decide_eq_true hlt) (not_lt.mpr hax)
    · exact hx

/-! ## Sorted ranges with repetitions -/

theorem finds_iff_mem {a : α} {r : List α} (hr : r.Pairwise (· ≤ ·)) : Finds r a ↔ a ∈ r := by
  refine ⟨mem_of_finds, fun ha => ?_⟩
  rw [← mem_dropWhile_iff le_rfl] at ha
  rw [Finds]
  cases hdrop : r.dropWhile (· < a) with
  | nil =>
    rw [hdrop] at ha
    cases ha
  | cons b t =>
    rw [hdrop] at ha
    have hbt := hr.sublist (List.dropWhile_sublist (· < a))
    rw [hdrop, List.pairwise_cons] at hbt
    have hba : b ≤ a := by
      obtain rfl | hat := List.mem_cons.mp ha
      · exact le_rfl
      · exact hbt.1 a hat
    rw [List.head?_cons, le_antisymm hba (le_of_dropWhile hdrop)]

theorem count_takeWhile_lt {a x : α} (hax : a ≤ x) (r : List α) :
    (r.takeWhile (· < a)).count x = 0 := by
  rw [List.count_eq_zero]
  intro hx
  have hlt := List.mem_takeWhile_imp hx
  exact absurd (of_decide_eq_true hlt) (not_lt.mpr hax)

theorem count_pass {a x : α} (hax : a ≤ x) (r : List α) :
    r.count x = (pass r a).count x + if Finds r a ∧ a = x then 1 else 0 := by
  have hsplit : r.count x = (r.dropWhile (· < a)).count x := by
    conv_lhs => rw [← List.takeWhile_append_dropWhile (p := (· < a)) (l := r)]
    rw [List.count_append, count_takeWhile_lt hax, Nat.zero_add]
  rw [hsplit, pass]
  by_cases hfind : Finds r a
  · obtain ⟨t, ht⟩ := List.head?_eq_some_iff.mp hfind
    rw [if_pos hfind, ht, List.tail_cons, List.count_cons]
    simp [hfind]
  · simp [hfind]

theorem pairwise_pass {r : List α} (hr : r.Pairwise (· ≤ ·)) (a : α) :
    (pass r a).Pairwise (· ≤ ·) := by
  have hdrop := hr.sublist (List.dropWhile_sublist (· < a))
  rw [pass]
  split
  · exact hdrop.sublist (List.tail_sublist _)
  · exact hdrop

theorem count_setIntersection {l r : List α} (hl : l.Pairwise (· ≤ ·))
    (hr : r.Pairwise (· ≤ ·)) (x : α) :
    (setIntersection l r).count x = min (l.count x) (r.count x) := by
  induction l generalizing r with
  | nil => simp [setIntersection]
  | cons a l ih =>
    obtain ⟨hla, hl⟩ := List.pairwise_cons.mp hl
    have ih := ih hl (pairwise_pass hr a)
    rw [setIntersection_cons]
    rcases lt_or_ge x a with hxa | hax
    · have hl0 : l.count x = 0 :=
        List.count_eq_zero.mpr fun hx => absurd (hla x hx) (not_le.mpr hxa)
      have hset : (setIntersection l (pass r a)).count x = 0 := by
        rw [ih, hl0, Nat.zero_min]
      split <;> simp [hl0, hset, hxa.ne']
    · have hcount := count_pass hax r
      by_cases hfind : Finds r a
      · simp only [hfind, true_and] at hcount
        rw [if_pos hfind, List.count_cons, List.count_cons, ih, hcount]
        simp only [beq_iff_eq]
        split <;> omega
      · rw [if_neg hfind, ih, List.count_cons]
        simp only [hfind, false_and, if_false, Nat.add_zero] at hcount
        rw [hcount]
        by_cases heq : a = x
        · subst heq
          have hnone : (pass r a).count a = 0 := by
            rw [← hcount, List.count_eq_zero]
            exact fun ha => hfind ((finds_iff_mem hr).mpr ha)
          simp [hnone]
        · simp [heq]

end Axon7.Lib
