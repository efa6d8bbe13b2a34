import Mathlib

/-!
# Compacting one of two parallel arrays

A loop keeps the elements that pass a test, moved together, and hands them on
with a second array that was not compacted. An element then meets the value at
its new place. It meets its own iff the values of the elements kept are the
first ones of the second array, which can be checked place by place.
-/

namespace Axon7.Lib

variable {α β γ : Type*}

theorem zip_map_eq_map_iff (f : α → β) (g : α → γ) (kept : List α)
    (values : List γ) :
    (kept.map f).zip values = kept.map (fun a => (f a, g a)) ↔
      kept.map g <+: values := by
  induction kept generalizing values with
  | nil => simp
  | cons a kept ih =>
    cases values with
    | nil => simp
    | cons v values =>
      rw [List.map_cons, List.zip_cons_cons, List.map_cons, List.map_cons,
        List.cons.injEq, List.cons_prefix_cons, ih, Prod.mk.injEq]
      simp only [true_and, eq_comm]

theorem map_filter_prefix_iff (keeps : α → Bool) (g : α → γ) (as : List α)
    (values : List γ) :
    (as.filter keeps).map g <+: values ↔
      ∀ i a, as[i]? = some a → keeps a = true →
        values[(as.take i).countP keeps]? = some (g a) := by
  induction as generalizing values with
  | nil => simp
  | cons a as ih =>
    by_cases ha : keeps a = true
    · rw [List.filter_cons_of_pos ha, List.map_cons]
      cases values with
      | nil =>
        refine iff_of_false (by simp) fun h => ?_
        exact absurd (h 0 a rfl ha) (by simp)
      | cons v values =>
        rw [List.cons_prefix_cons, ih]
        constructor
        · intro ⟨hv, h⟩ i a' hi ha'
          cases i with
          | zero =>
            obtain rfl := Option.some.inj hi
            simp [hv]
          | succ i =>
            rw [List.take_succ_cons, List.countP_cons_of_pos ha]
            exact h i a' hi ha'
        · intro h
          refine ⟨?_, fun i a' hi ha' => ?_⟩
          · have hfirst := h 0 a rfl ha
            simpa [eq_comm] using hfirst
          · have hnext := h (i + 1) a' hi ha'
            rwa [List.take_succ_cons, List.countP_cons_of_pos ha] at hnext
    · rw [List.filter_cons_of_neg ha, ih]
      constructor
      · intro h i a' hi ha'
        cases i with
        | zero =>
          obtain rfl := Option.some.inj hi
          exact absurd ha' ha
        | succ i =>
          rw [List.take_succ_cons, List.countP_cons_of_neg ha]
          exact h i a' hi ha'
      · intro h i a' hi ha'
        have hnext := h (i + 1) a' hi ha'
        rwa [List.take_succ_cons, List.countP_cons_of_neg ha] at hnext

end Axon7.Lib

/-!
# Deletion by shifting

An array has its elements in the first places, and one of them goes: each of those
behind it is moved one place down, in turn. How much of an element a move takes along,
and what it leaves behind, is a parameter.
-/

namespace Axon7.Lib

variable {α β : Type*} {move : α → α → α × α} {x y b : α} {l : List α} {f : α → β}
  {i k n : ℕ}

/-! ## The first element of a kind -/

section First

variable {p : α → Bool} {pre post : List α}

theorem exists_first (h : ∃ z ∈ l, p z = true) :
    ∃ pre x post, l = pre ++ x :: post ∧ p x = true ∧ ∀ y ∈ pre, p y = false := by
  obtain ⟨z, hz, hp⟩ := h
  obtain ⟨x, pre, post, hpre, hx, hl, -⟩ := List.exists_of_eraseP hz hp
  exact ⟨pre, x, post, hl, hx, fun y hy => Bool.eq_false_iff.mpr (hpre y hy)⟩

theorem findIdx?_first (hpre : ∀ y ∈ pre, p y = false) (hx : p x = true) :
    (pre ++ x :: post).findIdx? p = some pre.length := by
  rw [List.findIdx?_append, List.findIdx?_eq_none_iff.mpr hpre, List.findIdx?_cons, hx]
  simp

theorem eraseP_first (hpre : ∀ y ∈ pre, p y = false) (hx : p x = true) :
    (pre ++ x :: post).eraseP p = pre ++ post := by
  rw [List.eraseP_append_right _ fun y hy => Bool.eq_false_iff.mp (hpre y hy),
    List.eraseP_cons_of_pos hx]

end First

/-! ## Shifting -/

/-- The first place gets what is moved out of the second, and so on, `k` times. Of the
two elements a move makes two. -/
def shiftDown (move : α → α → α × α) : ℕ → List α → List α
  | k + 1, x :: y :: l => (move x y).1 :: shiftDown move k ((move x y).2 :: l)
  | _, l => l

theorem shiftDown_succ :
    shiftDown move (k + 1) (x :: y :: l) =
      (move x y).1 :: shiftDown move k ((move x y).2 :: l) :=
  rfl

@[simp] theorem length_shiftDown (k : ℕ) (l : List α) :
    (shiftDown move k l).length = l.length := by
  fun_induction shiftDown move k l with
  | case1 k x y l ih =>
    rw [List.length_cons, ih]
    rfl
  | case2 => rfl

theorem map_take_shiftDown (hf : ∀ x y, f (move x y).1 = f y) (hk : k ≤ l.length) :
    ((shiftDown move k (x :: l)).take k).map f = (l.take k).map f := by
  induction k generalizing x l with
  | zero => rfl
  | succ k ih =>
    cases l with
    | nil => exact absurd hk (Nat.not_succ_le_zero k)
    | cons y l =>
      rw [shiftDown_succ, List.take_succ_cons, List.map_cons, hf,
        ih (Nat.le_of_succ_le_succ hk), List.take_succ_cons, List.map_cons]

theorem map_shiftDown (hleft : ∀ x y, f (move x y).1 = f x)
    (hright : ∀ x y, f (move x y).2 = f y) (k : ℕ) (l : List α) :
    (shiftDown move k l).map f = l.map f := by
  fun_induction shiftDown move k l with
  | case1 k x y l ih =>
    rw [List.map_cons, ih, List.map_cons, List.map_cons, List.map_cons, hleft, hright]
  | case2 => rfl

theorem shiftDown_blank (hk : k ≤ l.length) :
    shiftDown (fun _ y => (y, b)) k (b :: l) = l.take k ++ b :: l.drop k := by
  induction k generalizing l with
  | zero => rfl
  | succ k ih =>
    cases l with
    | nil => exact absurd hk (Nat.not_succ_le_zero k)
    | cons y l =>
      rw [shiftDown_succ, ih (Nat.le_of_succ_le_succ hk)]
      rfl

/-- The element in place `i` of the first `n` goes. -/
def closeGap (move : α → α → α × α) (i n : ℕ) (l : List α) : List α :=
  l.take i ++ shiftDown move (n - 1 - i) (l.drop i)

@[simp] theorem length_closeGap : (closeGap move i n l).length = l.length := by
  rw [closeGap, List.length_append, length_shiftDown, ← List.length_append,
    List.take_append_drop]

theorem rest_of_gap (hi : i < n) (hn : n ≤ l.length) :
    n - 1 - i ≤ (l.drop (i + 1)).length ∧
      (l.take n).drop (i + 1) = (l.drop (i + 1)).take (n - 1 - i) := by
  constructor
  · rw [List.length_drop]
    omega
  · rw [List.drop_take]
    congr 1
    omega

theorem map_take_closeGap (hf : ∀ x y, f (move x y).1 = f y) (hi : i < n)
    (hn : n ≤ l.length) :
    ((closeGap move i n l).take (n - 1)).map f = ((l.take n).eraseIdx i).map f := by
  have hlen : (l.take i).length = i := List.length_take_of_le (by omega)
  have hdrop : l.drop i = l[i] :: l.drop (i + 1) := List.drop_eq_getElem_cons (by omega)
  obtain ⟨hfit, hrest⟩ := rest_of_gap hi hn
  rw [closeGap, List.take_append, hlen, List.take_of_length_le (by omega), List.map_append,
    hdrop, map_take_shiftDown hf hfit, List.eraseIdx_eq_take_drop_succ, List.map_append, hrest,
    List.take_take, Nat.min_eq_left (Nat.le_of_lt hi)]

theorem map_closeGap (hleft : ∀ x y, f (move x y).1 = f x)
    (hright : ∀ x y, f (move x y).2 = f y) : (closeGap move i n l).map f = l.map f := by
  rw [closeGap, List.map_append, map_shiftDown hleft hright, ← List.map_append,
    List.take_append_drop]

theorem closeGap_blank (hi : i < n) (hn : n ≤ l.length) :
    closeGap (fun _ y => (y, b)) i n (l.set i b) =
      (l.take n).eraseIdx i ++ b :: l.drop n := by
  have hset : (l.set i b).drop i = b :: l.drop (i + 1) := by
    rw [List.drop_set, if_neg (Nat.lt_irrefl i), Nat.sub_self,
      List.drop_eq_getElem_cons (show i < l.length by omega), List.set_cons_zero]
  obtain ⟨hfit, hrest⟩ := rest_of_gap hi hn
  rw [closeGap, hset, shiftDown_blank hfit, List.take_set_of_le (Nat.le_refl i),
    List.eraseIdx_eq_take_drop_succ, hrest, List.take_take,
    Nat.min_eq_left (Nat.le_of_lt hi), List.append_assoc, List.drop_drop]
  congr 4
  omega

/-! ## An element that is there once -/

section Once

variable {a : α} {as : List α} [DecidableEq α]

theorem index_unique_of_count {j : ℕ} (hcount : as.count a = 1) (hi : as[i]? = some a)
    (hj : as[j]? = some a) : i = j := by
  by_contra hne
  obtain ⟨hlti, hgeti⟩ := List.getElem?_eq_some_iff.mp hi
  obtain ⟨hltj, hgetj⟩ := List.getElem?_eq_some_iff.mp hj
  have htwice : List.Duplicate a as := by
    rw [List.duplicate_iff_exists_distinct_get]
    obtain hlt | hgt := Nat.lt_or_gt_of_ne hne
    · exact ⟨⟨i, hlti⟩, ⟨j, hltj⟩, hlt, hgeti.symm, hgetj.symm⟩
    · exact ⟨⟨j, hltj⟩, ⟨i, hlti⟩, hgt, hgetj.symm, hgeti.symm⟩
  have htwo := List.duplicate_iff_two_le_count.mp htwice
  omega

theorem eraseIdx_eq_filter_ne (hcount : as.count a = 1) (hi : as[i]? = some a) :
    as.eraseIdx i = as.filter (· ≠ a) := by
  induction as generalizing i with
  | nil => exact absurd hi nofun
  | cons x as ih =>
    cases i with
    | zero =>
      obtain rfl := Option.some.inj hi
      rw [List.count_cons_self, Nat.add_eq_right, List.count_eq_zero] at hcount
      rw [List.eraseIdx_cons_zero, List.filter_cons_of_neg (by simp)]
      refine (List.filter_eq_self.mpr fun b hb => ?_).symm
      exact decide_eq_true fun heq => hcount (heq ▸ hb)
    | succ i =>
      rw [List.getElem?_cons_succ] at hi
      have hmem : 0 < as.count a := List.count_pos_iff.mpr (List.mem_of_getElem? hi)
      have hne : x ≠ a := by
        intro heq
        rw [heq, List.count_cons_self] at hcount
        omega
      rw [List.count_cons_of_ne hne] at hcount
      rw [List.eraseIdx_cons_succ, List.filter_cons_of_pos (by simpa using hne),
        ih hcount hi]

theorem length_filter_ne (a : α) (as : List α) :
    (as.filter (· ≠ a)).length + as.count a = as.length := by
  induction as with
  | nil => rfl
  | cons x as ih =>
    by_cases hx : x = a
    · rw [hx, List.filter_cons_of_neg (by simp), List.count_cons_self, List.length_cons]
      omega
    · rw [List.filter_cons_of_pos (by simpa using hx), List.count_cons_of_ne hx,
        List.length_cons, List.length_cons]
      omega

end Once

end Axon7.Lib
