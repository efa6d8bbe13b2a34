import Mathlib

/-!
# Slots filled from the front

The elements of a set stand at the front of an array of slots, each once, and the
slots after them are free. An element goes into the first slot that is free unless
it is found before; one that is taken out leaves its slot to the last, so that no
slot between is free.
-/

namespace Axon7.Lib

variable {α : Type*} {n : ℕ} {as pre post : List α} {a : α}

/-- The elements, and free slots after them. -/
def packed (n : ℕ) (as : List α) : List (Option α) :=
  as.map some ++ List.replicate (n - as.length) none

theorem takeWhile_map_some (as : List α) {rest : List (Option α)}
    (hrest : rest.head?.join = none) :
    (as.map some ++ rest).takeWhile Option.isSome = as.map some := by
  rw [List.takeWhile_append_of_pos]
  · cases rest with
    | nil => simp
    | cons slot rest =>
      obtain rfl : slot = none := hrest
      simp
  · intro slot hslot
    obtain ⟨a, -, rfl⟩ := List.mem_map.mp hslot
    rfl

theorem head?_replicate_none (α : Type*) (k : ℕ) :
    (List.replicate k (none : Option α)).head?.join = none := by
  cases k <;> rfl

theorem takeWhile_packed (n : ℕ) (as : List α) :
    (packed n as).takeWhile Option.isSome = as.map some :=
  takeWhile_map_some as (head?_replicate_none _ _)

theorem set_length_append {β : Type*} (l : List β) (x y : β) (r : List β) :
    (l ++ x :: r).set l.length y = l ++ y :: r := by
  simp

theorem drop_length_append {β : Type*} (l : List β) (x : β) (r : List β) :
    (l ++ x :: r).drop (l.length + 1) = r := by
  simp

variable [DecidableEq α]

/-! ## Putting an element in -/

/-- The loop over the slots that stops at the element or writes it to the first
free slot. -/
def putFirst (a : α) : List (Option α) → Option (List (Option α))
  | [] => none
  | none :: slots => some (some a :: slots)
  | some b :: slots => if b = a then none else (putFirst a slots).map (some b :: ·)

theorem putFirst_of_mem (ha : a ∈ as) (rest : List (Option α)) :
    putFirst a (as.map some ++ rest) = none := by
  induction as with
  | nil => exact absurd ha List.not_mem_nil
  | cons b as ih =>
    rw [List.map_cons, List.cons_append, putFirst]
    split
    · rfl
    · next hne =>
        rw [ih ((List.mem_cons.mp ha).resolve_left fun heq => hne heq.symm)]
        rfl

theorem putFirst_of_notMem (ha : a ∉ as) (rest : List (Option α)) :
    putFirst a (as.map some ++ none :: rest) = some (as.map some ++ some a :: rest) := by
  induction as with
  | nil => rfl
  | cons b as ih =>
    rw [List.mem_cons, not_or] at ha
    rw [List.map_cons, List.cons_append, putFirst, if_neg (Ne.symm ha.1), ih ha.2]
    rfl

theorem putFirst_packed (ha : a ∉ as) (hroom : as.length < n) :
    putFirst a (packed n as) = some (packed n (as ++ [a])) := by
  obtain ⟨k, hk⟩ : ∃ k, n - as.length = k + 1 := ⟨n - as.length - 1, by omega⟩
  have hrest : n - (as ++ [a]).length = k := by
    rw [List.length_append, List.length_singleton]
    omega
  rw [packed, hk, List.replicate_succ, putFirst_of_notMem ha, packed, hrest]
  simp

/-! ## Taking an element out -/

/-- The loop over the slots in use that stops at the element, looks for the first
free slot after it and moves what stands before that one into its place. With the
slot that is free then. -/
def swapOut (a : α) (slots : List (Option α)) : Option (ℕ × List (Option α)) :=
  match (slots.takeWhile Option.isSome).findIdx? (· = some a) with
  | none => none
  | some j =>
    let slots := slots.set j none
    let i := j + 1 + ((slots.drop (j + 1)).takeWhile Option.isSome).length - 1
    some (i, (slots.set j (slots.getD i none)).set i none)

theorem swapOut_of_notMem (ha : a ∉ as) : swapOut a (packed n as) = none := by
  have hnone : (as.map some).findIdx? (fun slot => decide (slot = some a)) = none := by
    rw [List.findIdx?_eq_none_iff]
    intro slot hslot
    obtain ⟨b, hb, rfl⟩ := List.mem_map.mp hslot
    rw [decide_eq_false_iff_not, Option.some.injEq]
    exact fun heq => ha (heq ▸ hb)
  rw [swapOut, takeWhile_packed, hnone]

theorem findIdx?_append_some (ha : a ∉ pre) (rest : List (Option α)) :
    (pre.map some ++ some a :: rest).findIdx? (fun slot => decide (slot = some a)) =
      some pre.length := by
  induction pre with
  | nil =>
    rw [List.map_nil, List.nil_append, List.findIdx?_cons, if_pos (decide_eq_true rfl)]
    rfl
  | cons b pre ih =>
    rw [List.mem_cons, not_or] at ha
    rw [List.map_cons, List.cons_append, List.findIdx?_cons, if_neg, ih ha.2]
    · rfl
    · rw [decide_eq_true_eq, Option.some.injEq]
      exact Ne.symm ha.1

theorem swapOut_found (ha : a ∉ pre) (post : List α) {rest : List (Option α)}
    (hrest : rest.head?.join = none) :
    swapOut a (pre.map some ++ some a :: (post.map some ++ rest)) =
      let slots := pre.map some ++ none :: (post.map some ++ rest)
      some (pre.length + post.length,
        (slots.set pre.length (slots.getD (pre.length + post.length) none)).set
          (pre.length + post.length) none) := by
  have huse : (pre.map some ++ some a :: (post.map some ++ rest)).takeWhile
      Option.isSome = pre.map some ++ some a :: post.map some := by
    have htake := takeWhile_map_some (pre ++ a :: post) hrest
    simpa using htake
  have hset := set_length_append (pre.map some) (some a) none (post.map some ++ rest)
  have hdrop := drop_length_append (pre.map some) (none : Option α)
    (post.map some ++ rest)
  rw [List.length_map] at hset hdrop
  have hlast : pre.length + 1 + post.length - 1 = pre.length + post.length := by
    omega
  rw [swapOut, huse, findIdx?_append_some ha]
  dsimp only
  rw [hset, hdrop, takeWhile_map_some post hrest, List.length_map, hlast]

theorem swapOut_last (ha : a ∉ pre) {rest : List (Option α)}
    (hrest : rest.head?.join = none) :
    swapOut a (pre.map some ++ some a :: rest) =
      some (pre.length, pre.map some ++ none :: rest) := by
  have hfound := swapOut_found ha [] hrest
  simpa using hfound

theorem swapOut_mid (ha : a ∉ pre) (mid : List α) (z : α) {rest : List (Option α)}
    (hrest : rest.head?.join = none) :
    swapOut a (pre.map some ++ some a :: (mid.map some ++ some z :: rest)) =
      some (pre.length + (mid.length + 1),
        pre.map some ++ some z :: (mid.map some ++ none :: rest)) := by
  have hfound := swapOut_found ha (mid ++ [z]) hrest
  have hmoved : ∀ x : Option α,
      pre.map some ++ x :: ((mid ++ [z]).map some ++ rest) =
        (pre.map some ++ x :: mid.map some) ++ some z :: rest := fun x => by simp
  have hlength : ∀ x : Option α, (pre.map some ++ x :: mid.map some).length =
      pre.length + (mid ++ [z]).length := fun x => by simp
  have hget : (pre.map some ++ none :: ((mid ++ [z]).map some ++ rest)).getD
      (pre.length + (mid ++ [z]).length) none = some z := by
    rw [hmoved, ← hlength none]
    simp
  have hset := set_length_append (pre.map some) none (some z)
    ((mid ++ [z]).map some ++ rest)
  have hlast := set_length_append (pre.map some ++ some z :: mid.map some) (some z)
    none rest
  rw [List.length_map] at hset
  rw [hlength, ← hmoved] at hlast
  dsimp only at hfound
  rw [hget, hset, hlast] at hfound
  simpa using hfound

theorem swapOut_packed (ha : a ∈ as) (hnodup : as.Nodup) (hn : as.length ≤ n) :
    ∃ left : List α, left.Perm (as.erase a) ∧
      swapOut a (packed n as) = some (left.length, packed n left) := by
  obtain ⟨pre, post, rfl⟩ := List.append_of_mem ha
  have hpre : a ∉ pre := fun hmem => by
    have hdisjoint := (List.nodup_append.mp hnodup).2.2 a hmem a List.mem_cons_self
    exact hdisjoint rfl
  have herase : (pre ++ a :: post).erase a = pre ++ post := by
    rw [List.erase_append_right _ hpre, List.erase_cons_head]
  have hlength : (pre ++ a :: post).length = (pre ++ post).length + 1 := by
    simp only [List.length_append, List.length_cons]
    omega
  have hfree : n - (pre ++ post).length = n - (pre ++ a :: post).length + 1 := by
    omega
  have hrest := head?_replicate_none α (n - (pre ++ a :: post).length)
  have hslots : packed n (pre ++ a :: post) = pre.map some ++ some a ::
      (post.map some ++ List.replicate (n - (pre ++ a :: post).length) none) := by
    rw [packed, List.map_append, List.map_cons, List.append_assoc, List.cons_append]
  rw [hslots, herase]
  obtain rfl | ⟨mid, z, rfl⟩ := post.eq_nil_or_concat'
  · refine ⟨pre, by rw [List.append_nil], ?_⟩
    rw [List.append_nil] at hfree
    rw [packed, hfree, List.replicate_succ]
    exact swapOut_last hpre hrest
  · refine ⟨pre ++ z :: mid, ?_, ?_⟩
    · exact (List.perm_append_singleton z mid).symm.append_left pre
    · have hsame : (pre ++ z :: mid).length = (pre ++ (mid ++ [z])).length := by
        simp
      have hmid := swapOut_mid hpre mid z hrest
      rw [packed, hsame, hfree, List.replicate_succ]
      simpa using hmid

end Axon7.Lib
