import Axon7.Gnss.Tracking

/-!
# The tracking multiplexer

Whether the engine runs and at which interval. The engine runs for the least
of the intervals of the sessions, and each message keeps it so because the
decision to restart is made on just the two intervals that can be least: that
of the session in question and the least of the others. The case lemmas say
once what the three multiplexed requests can do; the invariants follow from
them.
-/

namespace Axon7.Gnss

open Std (TreeMap)

variable {C : Type*}

theorem foldl_smaller (counts : LocationSessionKey C → Bool)
    (entries : List (LocationSessionKey C × LocationOptions))
    (hsized : ∀ e ∈ entries, e.2.size ≠ 0) (start : LocationOptions)
    (hstart : start.size ≠ 0 ∨ ∃ e ∈ entries, counts e.1 = true) :
    let smallest := entries.foldl
      (fun smallest e => smallerOptions counts smallest e.1 e.2) start
    smallest.size ≠ 0 ∧
      (smallest = start ∨ ∃ e ∈ entries, counts e.1 = true ∧ e.2 = smallest) ∧
      (start.size ≠ 0 → smallest.minInterval ≤ start.minInterval) ∧
      ∀ e ∈ entries, counts e.1 = true →
        smallest.minInterval ≤ e.2.minInterval := by
  induction entries generalizing start with
  | nil => simpa using hstart
  | cons e entries ih =>
    have hsized' : ∀ e ∈ entries, e.2.size ≠ 0 :=
      fun e' he' => hsized e' (List.mem_cons_of_mem e he')
    rw [List.foldl_cons]
    by_cases htake : counts e.1 ∧
        (start.size = 0 ∨ e.2.minInterval < start.minInterval)
    · have hset := hsized e List.mem_cons_self
      rw [smallerOptions, if_pos htake]
      obtain ⟨hsize, hfrom, hle, hall⟩ := ih hsized' e.2 (.inl hset)
      refine ⟨hsize, .inr ?_, fun hset' => ?_, fun e' he' hcounts => ?_⟩
      · obtain h | ⟨e', he', h⟩ := hfrom
        · exact ⟨e, List.mem_cons_self, htake.1, h.symm⟩
        · exact ⟨e', List.mem_cons_of_mem e he', h⟩
      · exact (hle hset).trans (htake.2.resolve_left hset').le
      · obtain rfl | he' := List.mem_cons.mp he'
        · exact hle hset
        · exact hall e' he' hcounts
    · rw [smallerOptions, if_neg htake]
      have hstart' : start.size ≠ 0 ∨ ∃ e ∈ entries, counts e.1 = true := by
        obtain h | ⟨e', he', hcounts⟩ := hstart
        · exact .inl h
        · obtain rfl | he' := List.mem_cons.mp he'
          · exact .inl fun hset => htake ⟨hcounts, .inl hset⟩
          · exact .inr ⟨e', he', hcounts⟩
      obtain ⟨hsize, hfrom, hle, hall⟩ := ih hsized' start hstart'
      refine ⟨hsize, ?_, hle, fun e' he' hcounts => ?_⟩
      · obtain h | ⟨e', he', h⟩ := hfrom
        · exact .inl h
        · exact .inr ⟨e', List.mem_cons_of_mem e he', h⟩
      · obtain rfl | he' := List.mem_cons.mp he'
        · -- passed over, so what there was is not larger
          have hset : start.size ≠ 0 := fun hset =>
            htake ⟨hcounts, .inl hset⟩
          have hge : ¬ e'.2.minInterval < start.minInterval := fun hlt =>
            htake ⟨hcounts, .inr hlt⟩
          exact (hle hset).trans (not_lt.mp hge)
        · exact hall e' he' hcounts

variable [LinearOrder C]

/-! ## Intervals of the sessions -/

/-- The intervals of the sessions that count. -/
def intervals (m : LocationSessionMap C) (counts : LocationSessionKey C → Bool) :
    Set ℕ :=
  {n | ∃ key options, counts key = true ∧ m[key]? = some options ∧
    options.minInterval = n}

/-- All options of sessions have been set. -/
def Sized (m : LocationSessionMap C) : Prop :=
  ∀ (key : LocationSessionKey C) (options : LocationOptions),
    m[key]? = some options → options.size ≠ 0

variable {m : LocationSessionMap C} {key : LocationSessionKey C}
  {options old : LocationOptions}

theorem insert_get (m : LocationSessionMap C) (key k : LocationSessionKey C)
    (options : LocationOptions) : (m.insert key options)[k]? =
      if k = key then some options else m[k]? := by
  rw [TreeMap.getElem?_insert]
  simp only [compare_eq_iff_eq, eq_comm (a := key)]

theorem erase_get (m : LocationSessionMap C) (key k : LocationSessionKey C) :
    (m.erase key)[k]? = if k = key then none else m[k]? := by
  rw [TreeMap.getElem?_erase]
  simp only [compare_eq_iff_eq, eq_comm (a := key)]

theorem Sized.insert (h : Sized m)
    (hsize : options.size ≠ 0) : Sized (m.insert key options) := by
  intro k o hk
  rw [insert_get] at hk
  split at hk
  · exact Option.some.inj hk ▸ hsize
  · exact h k o hk

theorem Sized.erase (h : Sized m) :
    Sized (m.erase key) := by
  intro k o hk
  rw [erase_get] at hk
  split at hk
  · cases hk
  · exact h k o hk

theorem mem_others {n : ℕ} : n ∈ intervals m (fun k => k ≠ key) ↔
    ∃ k options, k ≠ key ∧ m[k]? = some options ∧
      options.minInterval = n := by
  simp only [intervals, Set.mem_ofPred_eq, decide_eq_true_eq]

theorem mem_all {n : ℕ} : n ∈ intervals m (fun _ => true) ↔
    ∃ (k : LocationSessionKey C) (options : LocationOptions),
      m[k]? = some options ∧ options.minInterval = n := by
  simp only [intervals, Set.mem_ofPred_eq, true_and]

theorem intervals_insert : intervals (m.insert key options) (fun _ => true) =
    insert options.minInterval (intervals m fun k => k ≠ key) := by
  ext n
  rw [mem_all, Set.mem_insert_iff, mem_others]
  simp only [insert_get]
  constructor
  · intro ⟨k, o, hk, hn⟩
    split at hk
    · exact .inl (by rw [← hn, ← Option.some.inj hk])
    · next hne => exact .inr ⟨k, o, hne, hk, hn⟩
  · intro h
    obtain rfl | ⟨k, o, hne, hk, hn⟩ := h
    · exact ⟨key, options, by simp⟩
    · exact ⟨k, o, by rw [if_neg hne]; exact hk, hn⟩

theorem intervals_erase : intervals (m.erase key) (fun _ => true) =
    intervals m fun k => k ≠ key := by
  ext n
  rw [mem_all, mem_others]
  simp only [erase_get]
  constructor
  · intro ⟨k, o, hk, hn⟩
    split at hk
    · cases hk
    · next hne => exact ⟨k, o, hne, hk, hn⟩
  · intro ⟨k, o, hne, hk, hn⟩
    exact ⟨k, o, by rw [if_neg hne]; exact hk, hn⟩

theorem intervals_live (hkey : m[key]? = some old) :
    intervals m (fun _ => true) =
      insert old.minInterval (intervals m fun k => k ≠ key) := by
  ext n
  rw [mem_all, Set.mem_insert_iff, mem_others]
  constructor
  · intro ⟨k, o, hk, hn⟩
    by_cases heq : k = key
    · subst heq
      rw [hkey] at hk
      exact .inl (by rw [← hn, ← Option.some.inj hk])
    · exact .inr ⟨k, o, heq, hk, hn⟩
  · intro h
    obtain rfl | ⟨k, o, -, hk, hn⟩ := h
    · exact ⟨key, old, hkey, rfl⟩
    · exact ⟨k, o, hk, hn⟩

theorem intervals_fresh (hkey : m[key]? = none) :
    intervals m (fun k => k ≠ key) = intervals m fun _ => true := by
  ext n
  rw [mem_all, mem_others]
  constructor
  · intro ⟨k, o, _, hk, hn⟩
    exact ⟨k, o, hk, hn⟩
  · intro ⟨k, o, hk, hn⟩
    refine ⟨k, o, fun heq => ?_, hk, hn⟩
    rw [heq, hkey] at hk
    cases hk

theorem intervals_eq_empty :
    intervals m (fun _ => true) = ∅ ↔ m.isEmpty = true := by
  rw [TreeMap.isEmpty_iff_forall_not_mem, Set.eq_empty_iff_forall_notMem]
  constructor
  · intro hnone key hmem
    rw [TreeMap.mem_iff_isSome_getElem?, Option.isSome_iff_exists] at hmem
    obtain ⟨options, hkey⟩ := hmem
    exact hnone _ (mem_all.mpr ⟨key, options, hkey, rfl⟩)
  · intro hnone n hn
    obtain ⟨key, options, hkey, -⟩ := mem_all.mp hn
    refine hnone key ?_
    rw [TreeMap.mem_iff_isSome_getElem?, hkey]
    rfl

theorem others_eq_empty (hkey : m[key]? = some old) :
    intervals m (fun k => k ≠ key) = ∅ ↔ m.size = 1 := by
  have hmem : m.contains key = true := by
    rw [TreeMap.contains_eq_isSome_getElem?, hkey]
    rfl
  have hpos : m.size ≠ 0 := by
    have hne := TreeMap.isEmpty_eq_false_of_contains hmem
    rw [TreeMap.isEmpty_eq_size_eq_zero] at hne
    simpa using hne
  rw [← intervals_erase, intervals_eq_empty, TreeMap.isEmpty_eq_size_eq_zero,
    beq_iff_eq, TreeMap.size_erase, if_pos hmem]
  omega

theorem smallest_spec (hsized : Sized m) {counts : LocationSessionKey C → Bool}
    (hne : (intervals m counts).Nonempty) :
    ∃ k, counts k = true ∧ m[k]? = some (smallestIntervalOptions m counts) ∧
      IsLeast (intervals m counts)
        (smallestIntervalOptions m counts).minInterval := by
  obtain ⟨-, key, options, hcounts, hkey, -⟩ := hne
  have hmem : ∀ k o, (k, o) ∈ m.toList ↔ m[k]? = some o :=
    fun k o => TreeMap.mem_toList_iff_getElem?_eq_some
  obtain ⟨hsize, hfrom, -, hall⟩ := foldl_smaller counts m.toList
    (fun e he => hsized e.1 e.2 ((hmem e.1 e.2).mp he)) {}
    (.inr ⟨(key, options), (hmem key options).mpr hkey, hcounts⟩)
  rw [← TreeMap.foldl_eq_foldl_toList] at hsize hfrom hall
  obtain h | ⟨⟨k, o⟩, he, hcounts', heq⟩ := hfrom
  · exact absurd (by rw [h]) hsize
  · have hk : m[k]? = some (smallestIntervalOptions m counts) := by
      rw [smallestIntervalOptions, ← heq]
      exact (hmem k o).mp he
    refine ⟨k, hcounts', hk, ⟨k, _, hcounts', hk, rfl⟩, fun n hn => ?_⟩
    obtain ⟨k', o', hc', hk', rfl⟩ := hn
    exact hall (k', o') ((hmem k' o').mpr hk') hc'

/-! ## What a request can do -/

namespace GnssAdapter

variable {a : GnssAdapter C}

/-- The intervals of all sessions. -/
abbrev all (a : GnssAdapter C) : Set ℕ :=
  intervals a.mTrackingSessions fun _ => true

/-- The intervals of all sessions but one. -/
abbrev others (a : GnssAdapter C) (key : LocationSessionKey C) : Set ℕ :=
  intervals a.mTrackingSessions fun k => k ≠ key

theorem startTracking_cases (a : GnssAdapter C) (ok : Bool)
    (options : LocationOptions) :
    a.startTracking ok options = (a, .generalFailure) ∨
      a.startTracking ok options =
        ({ a with engine := some (convertOptions options) }, .success) := by
  cases ok with
  | false => exact .inl rfl
  | true => exact .inr rfl

theorem stopTrackingMultiplex_sessions (a : GnssAdapter C) (ok : Bool)
    (key : LocationSessionKey C) :
    (a.stopTrackingMultiplex ok key).1.mTrackingSessions =
      a.mTrackingSessions := by
  simp only [stopTrackingMultiplex, stopTracking, startTracking]
  repeat' split
  all_goals rfl

theorem startTrackingMultiplex_cases (h : Sized a.mTrackingSessions)
    (ok : Bool) (options : LocationOptions) :
    a.startTrackingMultiplex ok options = (a, .generalFailure) ∨
      (∀ n ∈ a.all, options.minInterval < n) ∧
        a.startTrackingMultiplex ok options =
          ({ a with engine := some (convertOptions options) }, .success) ∨
      (∃ n, IsLeast a.all n ∧ n ≤ options.minInterval) ∧
        a.startTrackingMultiplex ok options = (a, .success) := by
  rw [startTrackingMultiplex]
  split
  · next hempty =>
      rw [← intervals_eq_empty] at hempty
      obtain hfail | hstart := startTracking_cases a ok options
      · exact .inl hfail
      · refine .inr (.inl ⟨fun n hn => ?_, hstart⟩)
        rw [all, hempty] at hn
        cases hn
  · next hne =>
      rw [← intervals_eq_empty] at hne
      obtain ⟨-, -, -, hleast⟩ :=
        smallest_spec h (Set.nonempty_iff_ne_empty.mpr hne)
      dsimp only
      split
      · next hlt =>
          obtain hfail | hstart := startTracking_cases a ok options
          · exact .inl hfail
          · exact .inr (.inl ⟨fun n hn => hlt.trans_le (hleast.2 hn), hstart⟩)
      · next hge => exact .inr (.inr ⟨⟨_, hleast, not_lt.mp hge⟩, rfl⟩)

theorem updateTrackingMultiplex_cases (h : Sized a.mTrackingSessions)
    (ok : Bool) {key : LocationSessionKey C} {old : LocationOptions}
    (hkey : a.mTrackingSessions[key]? = some old) (options : LocationOptions) :
    (∀ n ∈ a.others key, options.minInterval < n ∨ old.minInterval < n) ∧
        a.updateTrackingMultiplex ok key options = (a, .generalFailure) ∨
      (∀ n ∈ a.others key, options.minInterval < n) ∧
        a.updateTrackingMultiplex ok key options =
          ({ a with engine := some (convertOptions options) }, .success) ∨
      (∃ k next, k ≠ key ∧ a.mTrackingSessions[k]? = some next ∧
        IsLeast (a.others key) next.minInterval ∧
        next.minInterval ≤ options.minInterval ∧
        old.minInterval < next.minInterval ∧
        a.updateTrackingMultiplex ok key options =
          ({ a with engine := some (convertOptions next) }, .success)) ∨
      (∃ n, IsLeast (a.others key) n ∧ n ≤ options.minInterval ∧
          n ≤ old.minInterval) ∧
        a.updateTrackingMultiplex ok key options = (a, .success) := by
  rw [updateTrackingMultiplex]
  split
  · next hempty =>
      rw [← others_eq_empty hkey] at hempty
      have hnone : ∀ n, n ∉ a.others key := by
        intro n hn
        rw [others, hempty] at hn
        cases hn
      obtain hfail | hstart := startTracking_cases a ok options
      · exact .inl ⟨fun n hn => absurd hn (hnone n), hfail⟩
      · exact .inr (.inl ⟨fun n hn => absurd hn (hnone n), hstart⟩)
  · next hne =>
      rw [← others_eq_empty hkey] at hne
      obtain ⟨k, hk, hnext, hleast⟩ :=
        smallest_spec h (Set.nonempty_iff_ne_empty.mpr hne)
      rw [hkey]
      dsimp only
      split
      · next hlt =>
          have hbelow : ∀ n ∈ a.others key, options.minInterval < n :=
            fun n hn => hlt.trans_le (hleast.2 hn)
          obtain hfail | hstart := startTracking_cases a ok options
          · exact .inl ⟨fun n hn => .inl (hbelow n hn), hfail⟩
          · exact .inr (.inl ⟨hbelow, hstart⟩)
      · next hge =>
          split
          · next hlt =>
              obtain hfail | hstart := startTracking_cases a ok
                (smallestIntervalOptions a.mTrackingSessions fun k => k ≠ key)
              · exact .inl
                  ⟨fun n hn => .inr (hlt.trans_le (hleast.2 hn)), hfail⟩
              · exact .inr (.inr (.inl ⟨k, _, of_decide_eq_true hk, hnext,
                  hleast, not_lt.mp hge, hlt, hstart⟩))
          · next hge' =>
              exact .inr (.inr (.inr
                ⟨⟨_, hleast, not_lt.mp hge, not_lt.mp hge'⟩, rfl⟩))

theorem stopTrackingMultiplex_cases (h : Sized a.mTrackingSessions)
    (ok : Bool) {key : LocationSessionKey C} {old : LocationOptions}
    (hkey : a.mTrackingSessions[key]? = some old) :
    (∀ n ∈ a.others key, old.minInterval < n) ∧
        a.stopTrackingMultiplex ok key = (a, .generalFailure) ∨
      a.others key = ∅ ∧
        a.stopTrackingMultiplex ok key = ({ a with engine := none }, .success) ∨
      (∃ k next, k ≠ key ∧ a.mTrackingSessions[k]? = some next ∧
        IsLeast (a.others key) next.minInterval ∧
        old.minInterval < next.minInterval ∧
        a.stopTrackingMultiplex ok key =
          ({ a with engine := some (convertOptions next) }, .success)) ∨
      (∃ n, IsLeast (a.others key) n ∧ n ≤ old.minInterval) ∧
        a.stopTrackingMultiplex ok key = (a, .success) := by
  rw [stopTrackingMultiplex]
  split
  · next hempty =>
      rw [← others_eq_empty hkey] at hempty
      cases ok with
      | false =>
        refine .inl ⟨fun n hn => ?_, rfl⟩
        rw [others, hempty] at hn
        cases hn
      | true => exact .inr (.inl ⟨hempty, rfl⟩)
  · next hne =>
      rw [← others_eq_empty hkey] at hne
      obtain ⟨k, hk, hnext, hleast⟩ :=
        smallest_spec h (Set.nonempty_iff_ne_empty.mpr hne)
      rw [hkey]
      dsimp only
      split
      · next hlt =>
          obtain hfail | hstart := startTracking_cases a ok
            (smallestIntervalOptions a.mTrackingSessions fun k => k ≠ key)
          · exact .inl ⟨fun n hn => hlt.trans_le (hleast.2 hn), hfail⟩
          · exact .inr (.inr (.inl ⟨k, _, of_decide_eq_true hk, hnext, hleast,
              hlt, hstart⟩))
      · next hge =>
          exact .inr (.inr (.inr ⟨⟨_, hleast, not_lt.mp hge⟩, rfl⟩))

theorem stopSession_cases (h : Sized a.mTrackingSessions) (ok : Bool)
    {key : LocationSessionKey C} {old : LocationOptions}
    (hkey : a.mTrackingSessions[key]? = some old) :
    (∀ n ∈ a.others key, old.minInterval < n) ∧
        a.stopSession ok key = (a, .generalFailure) ∨
      a.others key = ∅ ∧ a.stopSession ok key =
        ({ a with
          mTrackingSessions := a.mTrackingSessions.erase key
          engine := none }, .success) ∨
      (∃ k next, k ≠ key ∧ a.mTrackingSessions[k]? = some next ∧
        IsLeast (a.others key) next.minInterval ∧
        old.minInterval < next.minInterval ∧
        a.stopSession ok key =
          ({ a with
            mTrackingSessions := a.mTrackingSessions.erase key
            engine := some (convertOptions next) }, .success)) ∨
      (∃ n, IsLeast (a.others key) n ∧ n ≤ old.minInterval) ∧
        a.stopSession ok key = (a.eraseTrackingSession key, .success) := by
  rw [stopSession]
  obtain ⟨hlt, heq⟩ | ⟨hempty, heq⟩ | ⟨k, next, hne, hk, hleast, hlt, heq⟩ |
      ⟨hleast, heq⟩ :=
    stopTrackingMultiplex_cases h ok hkey
  · rw [heq]
    exact .inl ⟨hlt, rfl⟩
  · rw [heq]
    exact .inr (.inl ⟨hempty, rfl⟩)
  · rw [heq]
    exact .inr (.inr (.inl ⟨k, next, hne, hk, hleast, hlt, rfl⟩))
  · rw [heq]
    exact .inr (.inr (.inr ⟨hleast, rfl⟩))

end GnssAdapter

end Axon7.Gnss
