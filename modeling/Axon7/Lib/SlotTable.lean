import Mathlib

/-!
# A store that hands out handles

What a component that keeps values behind handles is for: a finite map from
handles to values that an add extends by one fresh handle and a delete
shrinks by the one it names. The store decides whether an add succeeds and
which handle it gets, so its observable behaviour is a list of events, and
the map accepts or rejects each of them. `replay` is that acceptance: a
history is legal when it replays, and then the map it ends in is determined.
-/

namespace Axon7.Lib

/-- What happens at the interface of a store. -/
inductive StoreEvent (κ ν : Type*)
  | added (k : κ) (v : ν)
  | addFailed (v : ν)
  | deleted (k : κ)
  | delRefused (k : κ)
deriving DecidableEq

variable {κ ν : Type*}

/-- The values behind the handles. -/
abbrev HandleMap (κ ν : Type*) := κ → Option ν

section Replay

variable [DecidableEq κ]

/-- The map after an event it accepts: an add takes a handle nobody holds, a
delete takes one that is held, and only one that is not held is refused. -/
def HandleMap.next (m : HandleMap κ ν) : StoreEvent κ ν → Option (HandleMap κ ν)
  | .added k v => if m k = none then some (Function.update m k (some v)) else none
  | .addFailed _ => some m
  | .deleted k => if m k = none then none else some (Function.update m k none)
  | .delRefused k => if m k = none then some m else none

/-- The map after a history. -/
def HandleMap.replay (m : HandleMap κ ν) :
    List (StoreEvent κ ν) → Option (HandleMap κ ν)
  | [] => some m
  | ev :: evs => (m.next ev).bind fun m => m.replay evs

end Replay

/-- Every handle that was given out was given back later. -/
def AllReturned : List (StoreEvent κ ν) → Prop
  | [] => True
  | .added k _ :: evs => .deleted k ∈ evs ∧ AllReturned evs
  | _ :: evs => AllReturned evs

theorem AllReturned.of_append {pre post : List (StoreEvent κ ν)} {k : κ}
    {v : ν} (h : AllReturned (pre ++ .added k v :: post)) :
    .deleted k ∈ post := by
  induction pre with
  | nil => exact h.1
  | cons ev pre ih =>
    cases ev with
    | added k' v' => exact ih h.2
    | addFailed v' => exact ih h
    | deleted k' => exact ih h
    | delRefused k' => exact ih h

namespace HandleMap

variable [DecidableEq κ] {m m' : HandleMap κ ν}

theorem next_held {ev : StoreEvent κ ν} (h : m.next ev = some m') {k : κ}
    {v : ν} (hk : m' k = some v) :
    ev ≠ .deleted k ∧ (m k = some v ∨ ev = .added k v) := by
  cases ev with
  | added k' v' =>
    refine ⟨nofun, ?_⟩
    simp only [next] at h
    split at h
    · cases h
      rcases eq_or_ne k k' with rfl | hkk
      · rw [Function.update_self] at hk
        cases hk
        exact .inr rfl
      · rw [Function.update_of_ne hkk] at hk
        exact .inl hk
    · cases h
  | addFailed v' =>
    cases h
    exact ⟨nofun, .inl hk⟩
  | deleted k' =>
    simp only [next] at h
    split at h
    · cases h
    · cases h
      rcases eq_or_ne k k' with rfl | hkk
      · rw [Function.update_self] at hk
        cases hk
      · rw [Function.update_of_ne hkk] at hk
        exact ⟨fun heq => hkk (StoreEvent.deleted.inj heq).symm, .inl hk⟩
  | delRefused k' =>
    simp only [next] at h
    split at h
    · cases h
      exact ⟨nofun, .inl hk⟩
    · cases h

theorem replay_held {evs : List (StoreEvent κ ν)} (h : m.replay evs = some m')
    {k : κ} {v : ν} (hk : m' k = some v) :
    (m k = some v ∧ .deleted k ∉ evs) ∨
      ∃ pre post, evs = pre ++ .added k v :: post ∧ .deleted k ∉ post := by
  induction evs generalizing m with
  | nil =>
    cases h
    exact .inl ⟨hk, List.not_mem_nil⟩
  | cons ev evs ih =>
    obtain ⟨m₁, hnext, hrest⟩ := Option.bind_eq_some_iff.mp h
    rcases ih hrest with ⟨hk₁, hno⟩ | ⟨pre, post, rfl, hno⟩
    · obtain ⟨hne, hm | rfl⟩ := next_held hnext hk₁
      · exact .inl ⟨hm, by simpa [hno] using hne.symm⟩
      · exact .inr ⟨[], evs, rfl, hno⟩
    · exact .inr ⟨ev :: pre, post, rfl, hno⟩

theorem replay_returned {evs : List (StoreEvent κ ν)}
    (h : replay (fun _ => none) evs = some m') (hret : AllReturned evs) (k : κ) :
    m' k = none := by
  by_contra hne
  obtain ⟨v, hv⟩ := Option.ne_none_iff_exists'.mp hne
  rcases replay_held h hv with ⟨hk, -⟩ | ⟨pre, post, heq, hno⟩
  · cases hk
  · rw [heq] at hret
    exact hno hret.of_append

end HandleMap

end Axon7.Lib

/-!
# A table of slots over a store of handles

A component keeps its entries in an array of slots. A slot may have a key, which
no other slot has, and may hold a value in a store under a handle. The table
mirrors the store if it holds just what is in the store, each value in one slot.
Writing one slot keeps that, if what the slot held is released before what it
holds then is taken.
-/

namespace Axon7.Lib

variable {S K η ρ : Type*}

/-- How a slot is read: its key and what it holds. -/
structure SlotView (S K η ρ : Type*) where
  key : S → Option K
  hold : S → Option (η × ρ)

namespace HandleMap

variable [DecidableEq η]

/-- The map without what a slot holds. -/
def release (m : HandleMap η ρ) : Option (η × ρ) → HandleMap η ρ
  | none => m
  | some (h, _) => Function.update m h none

/-- The map with what a slot holds. -/
def take (m : HandleMap η ρ) : Option (η × ρ) → HandleMap η ρ
  | none => m
  | some (h, r) => Function.update m h (some r)

end HandleMap

/-- The table mirrors the store. -/
structure Mirrors (view : SlotView S K η ρ) (slots : List S)
    (m : HandleMap η ρ) : Prop where
  distinct : ∀ (i j : ℕ) (s t : S) (k : K), slots[i]? = some s →
    slots[j]? = some t → view.key s = some k → view.key t = some k → i = j
  live : ∀ s ∈ slots, ∀ h r, view.hold s = some (h, r) → m h = some r
  owner : ∀ h r, m h = some r → ∃ s ∈ slots, view.hold s = some (h, r)
  single : ∀ (i j : ℕ) (s t : S) (h : η) (r r' : ρ), slots[i]? = some s →
    slots[j]? = some t → view.hold s = some (h, r) → view.hold t = some (h, r') →
      i = j

namespace Mirrors

variable {view : SlotView S K η ρ} {slots : List S} {m : HandleMap η ρ}

theorem blank (hkey : ∀ s ∈ slots, view.key s = none)
    (hhold : ∀ s ∈ slots, view.hold s = none) :
    Mirrors view slots fun _ => none where
  distinct _ _ s _ _ hs _ hk _ :=
    absurd ((hkey s (List.mem_of_getElem? hs)).symm.trans hk) nofun
  live s hs _ _ hh := absurd ((hhold s hs).symm.trans hh) nofun
  owner _ _ hm := absurd hm nofun
  single _ _ s _ _ _ _ hs _ hh _ :=
    absurd ((hhold s (List.mem_of_getElem? hs)).symm.trans hh) nofun

theorem emptied (h : Mirrors view slots m) {f : S → S}
    (hkey : ∀ s, view.key (f s) = view.key s)
    (hhold : ∀ s, view.hold (f s) = none) :
    Mirrors view (slots.map f) fun _ => none where
  distinct i j s t k hs ht hk hk' := by
    rw [List.getElem?_map] at hs ht
    obtain ⟨s', hs', rfl⟩ := Option.map_eq_some_iff.mp hs
    obtain ⟨t', ht', rfl⟩ := Option.map_eq_some_iff.mp ht
    rw [hkey] at hk hk'
    exact h.distinct i j s' t' k hs' ht' hk hk'
  live s hs x r hh := by
    obtain ⟨s, -, rfl⟩ := List.mem_map.mp hs
    exact absurd ((hhold s).symm.trans hh) nofun
  owner _ _ hm := absurd hm nofun
  single i j s t x r r' hs _ hh _ := by
    rw [List.getElem?_map] at hs
    obtain ⟨s, -, rfl⟩ := Option.map_eq_some_iff.mp hs
    exact absurd ((hhold s).symm.trans hh) nofun

theorem existsUnique (h : Mirrors view slots m) {x : η} {r : ρ}
    (hm : m x = some r) :
    ∃! i : ℕ, ∃ s : S, slots[i]? = some s ∧ view.hold s = some (x, r) := by
  obtain ⟨s, hs, hhold⟩ := h.owner x r hm
  obtain ⟨i, hi⟩ := List.mem_iff_getElem?.mp hs
  refine ⟨i, ⟨s, hi, hhold⟩, ?_⟩
  rintro j ⟨t, ht, hhold'⟩
  exact h.single j i t s x r r ht hi hhold' hhold

variable [DecidableEq η] {s s' : S} {i : ℕ}

theorem release_eq_some (h : Mirrors view slots m) (hs : slots[i]? = some s)
    {x : η} {r : ρ} : m.release (view.hold s) x = some r ↔
      ∃ j t, j ≠ i ∧ slots[j]? = some t ∧ view.hold t = some (x, r) := by
  constructor
  · intro hx
    have hm : m x = some r ∧ ∀ r', view.hold s ≠ some (x, r') := by
      cases hhold : view.hold s with
      | none =>
        rw [hhold] at hx
        exact ⟨hx, nofun⟩
      | some held =>
        obtain ⟨y, r'⟩ := held
        rw [hhold, HandleMap.release] at hx
        by_cases hxy : x = y
        · rw [hxy, Function.update_self] at hx
          exact absurd hx nofun
        · rw [Function.update_of_ne hxy] at hx
          refine ⟨hx, fun r'' heq => hxy ?_⟩
          exact (congrArg Prod.fst (Option.some.inj heq)).symm
    obtain ⟨t, ht, hhold⟩ := h.owner x r hm.1
    obtain ⟨j, hj⟩ := List.mem_iff_getElem?.mp ht
    refine ⟨j, t, ?_, hj, hhold⟩
    rintro rfl
    obtain rfl : s = t := Option.some.inj (hs.symm.trans hj)
    exact hm.2 r hhold
  · rintro ⟨j, t, hne, ht, hhold⟩
    have hm := h.live t (List.mem_of_getElem? ht) x r hhold
    cases hhold' : view.hold s with
    | none => exact hm
    | some held =>
      obtain ⟨y, r'⟩ := held
      rw [HandleMap.release, Function.update_of_ne]
      · exact hm
      · rintro rfl
        exact hne (h.single j i t s x r r' ht hs hhold hhold')

theorem set (h : Mirrors view slots m) (hs : slots[i]? = some s)
    (hkey : ∀ k, view.key s' = some k →
      view.key s = some k ∨ ∀ t ∈ slots, view.key t ≠ some k)
    (hfree : ∀ x r, view.hold s' = some (x, r) →
      m.release (view.hold s) x = none) :
    Mirrors view (slots.set i s')
      ((m.release (view.hold s)).take (view.hold s')) := by
  have hlt : i < slots.length := (List.getElem?_eq_some_iff.mp hs).1
  have hself : (slots.set i s')[i]? = some s' := List.getElem?_set_self hlt
  have hother : ∀ {j}, j ≠ i → (slots.set i s')[j]? = slots[j]? :=
    fun hj => List.getElem?_set_ne (Ne.symm hj)
  -- what the other slots hold is what is left, and has other handles
  have hleft := fun {x r} => h.release_eq_some (x := x) (r := r) hs
  have htake : ∀ {x r}, (m.release (view.hold s)).take (view.hold s') x =
      some r ↔ view.hold s' = some (x, r) ∨ m.release (view.hold s) x = some r := by
    intro x r
    cases hhold : view.hold s' with
    | none => exact ⟨.inr, fun hor => hor.resolve_left nofun⟩
    | some held =>
      obtain ⟨y, r'⟩ := held
      rw [HandleMap.take]
      by_cases hxy : x = y
      · subst hxy
        rw [Function.update_self, hfree x r' hhold]
        simp
      · rw [Function.update_of_ne hxy]
        refine ⟨.inr, fun hor => hor.resolve_left fun heq => hxy ?_⟩
        exact (congrArg Prod.fst (Option.some.inj heq)).symm
  have hunheld : ∀ {j t x r r'}, j ≠ i → slots[j]? = some t →
      view.hold t = some (x, r) → view.hold s' ≠ some (x, r') := by
    intro j t x r r' hj ht hhold heq
    have hsome := hleft.mpr ⟨j, t, hj, ht, hhold⟩
    exact absurd ((hfree x r' heq).symm.trans hsome) nofun
  refine ⟨?_, ?_, ?_, ?_⟩
  · have hnew : ∀ {j t k}, j ≠ i → slots[j]? = some t → view.key t = some k →
        view.key s' ≠ some k := by
      intro j t k hj ht hk heq
      obtain hsame | hnone := hkey k heq
      · exact hj (h.distinct j i t s k ht hs hk hsame)
      · exact hnone t (List.mem_of_getElem? ht) hk
    intro j l t t' k ht ht' hk hk'
    by_cases hj : j = i
    · by_cases hl : l = i
      · rw [hj, hl]
      · subst hj
        rw [hself] at ht
        rw [hother hl] at ht'
        rw [← Option.some.inj ht] at hk
        exact absurd hk (hnew hl ht' hk')
    · rw [hother hj] at ht
      by_cases hl : l = i
      · subst hl
        rw [hself] at ht'
        rw [← Option.some.inj ht'] at hk'
        exact absurd hk' (hnew hj ht hk)
      · rw [hother hl] at ht'
        exact h.distinct j l t t' k ht ht' hk hk'
  · intro t ht x r hhold
    obtain ⟨j, hj⟩ := List.mem_iff_getElem?.mp ht
    rw [htake]
    by_cases hji : j = i
    · subst hji
      rw [hself] at hj
      rw [← Option.some.inj hj] at hhold
      exact .inl hhold
    · rw [hother hji] at hj
      exact .inr (hleft.mpr ⟨j, t, hji, hj, hhold⟩)
  · intro x r hx
    obtain hhold | hx := htake.mp hx
    · exact ⟨s', List.mem_of_getElem? hself, hhold⟩
    · obtain ⟨j, t, hj, ht, hhold⟩ := hleft.mp hx
      exact ⟨t, List.mem_of_getElem? ((hother hj).trans ht), hhold⟩
  · intro j l t t' x r r' ht ht' hhold hhold'
    by_cases hj : j = i
    · by_cases hl : l = i
      · rw [hj, hl]
      · subst hj
        rw [hself] at ht
        rw [hother hl] at ht'
        rw [← Option.some.inj ht] at hhold
        exact absurd hhold (hunheld hl ht' hhold')
    · rw [hother hj] at ht
      by_cases hl : l = i
      · subst hl
        rw [hself] at ht'
        rw [← Option.some.inj ht'] at hhold'
        exact absurd hhold' (hunheld hj ht hhold)
      · rw [hother hl] at ht'
        exact h.single j l t t' x r r' ht ht' hhold hhold'

end Mirrors

end Axon7.Lib
