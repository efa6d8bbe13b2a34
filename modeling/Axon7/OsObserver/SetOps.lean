import Axon7.OsObserver.Observer

/-!
# What the index helpers compute

The helpers of the two indices are meant as set operations, and are written with algorithms
for sorted ranges on lists that keep the order of arrival. What comes out is the set
operation as long as the walk finds, in the one list, what is to be found of the other, and
the lists do not repeat themselves. Each helper has its own condition of this kind, and
only the cache of requests needs none.
-/

namespace Axon7.OsObserver

open Axon7.Lib
open Std (TreeMap)

/-! ## Runs of equal elements -/

section Unique

variable {α : Type*} [LinearOrder α]

@[simp] theorem unique_nil : unique ([] : List α) = [] := rfl

@[simp] theorem unique_singleton (a : α) : unique [a] = [a] := rfl

theorem unique_cons_self (a : α) (l : List α) : unique (a :: a :: l) = unique (a :: l) := by
  rw [unique, unique, List.destutter_cons', List.destutter_cons', List.destutter'_cons_neg]
  simp

theorem unique_cons_of_ne {a b : α} (h : a ≠ b) (l : List α) :
    unique (a :: b :: l) = a :: unique (b :: l) := by
  rw [unique, unique, List.destutter_cons', List.destutter_cons', List.destutter'_cons_pos _ h]

theorem exists_unique_cons (a : α) (l : List α) : ∃ rest, unique (a :: l) = a :: rest := by
  induction l with
  | nil => exact ⟨[], rfl⟩
  | cons b l ih =>
    by_cases h : a = b
    · subst h
      rw [unique_cons_self]
      exact ih
    · exact ⟨_, unique_cons_of_ne h l⟩

theorem unique_append {l m : List α} (h : ∀ x ∈ l.getLast?, ∀ y ∈ m.head?, x ≠ y) :
    unique (l ++ m) = unique l ++ unique m := by
  induction l with
  | nil => rfl
  | cons a l ih =>
    cases l with
    | nil =>
      cases m with
      | nil => rfl
      | cons y m =>
        have hne : a ≠ y := h a rfl y rfl
        rw [List.singleton_append, unique_cons_of_ne hne]
        rfl
    | cons b l =>
      have hrest := ih (by simpa using h)
      by_cases hab : a = b
      · subst hab
        rw [unique_cons_self, List.cons_append, List.cons_append, unique_cons_self]
        exact hrest
      · rw [unique_cons_of_ne hab, List.cons_append, List.cons_append, unique_cons_of_ne hab,
          ← List.cons_append, hrest, List.cons_append]

theorem unique_cons_of_head {a : α} {l : List α} (h : ∀ y ∈ l.head?, a ≠ y) :
    unique (a :: l) = a :: unique l := by
  cases l with
  | nil => rfl
  | cons b l => exact unique_cons_of_ne (h b rfl) l

/-- Equal elements stand together: nothing else comes between two of them. -/
def Together (l : List α) : Prop := ∀ a b, [a, b, a].Sublist l → b = a

theorem nodup_unique_iff {l : List α} : (unique l).Nodup ↔ Together l := by
  induction l with
  | nil => simp [Together]
  | cons a l ih =>
    cases l with
    | nil => simp [Together]
    | cons b l =>
      by_cases hab : a = b
      · subst hab
        rw [unique_cons_self, ih]
        refine ⟨fun h c x hsub => ?_, fun h c x hsub => h c x (hsub.cons a)⟩
        by_contra hne
        -- one of the two `a` in front is enough for such a triple
        rcases List.sublist_cons_iff.1 hsub with hsub | ⟨rest, hrest, hsub⟩
        · exact hne (h c x hsub)
        · obtain ⟨rfl, rfl⟩ := List.cons.inj hrest
          rcases List.sublist_cons_iff.1 hsub with hsub | ⟨rest, hrest, -⟩
          · exact hne (h c x (hsub.cons_cons c))
          · exact hne (List.cons.inj hrest).1
      · rw [unique_cons_of_ne hab, List.nodup_cons, mem_unique, ih]
        constructor
        · intro hhead c x hsub
          obtain ⟨ha, h⟩ := hhead
          rcases List.sublist_cons_iff.1 hsub with hsub | ⟨rest, hrest, hsub⟩
          · exact h c x hsub
          · obtain ⟨rfl, rfl⟩ := List.cons.inj hrest
            exact absurd (hsub.subset (by simp)) ha
        · intro h
          refine ⟨fun ha => ?_, fun c x hsub => h c x (hsub.cons a)⟩
          have hal := (List.mem_cons.1 ha).resolve_left hab
          have hsub : [a, b, a].Sublist (a :: b :: l) :=
            ((List.singleton_sublist.2 hal).cons_cons b).cons_cons a
          exact hab (h a b hsub).symm

theorem isChain_lt {l : List α} (hle : l.IsChain (· ≤ ·)) (hne : l.IsChain (· ≠ ·)) :
    l.IsChain (· < ·) := by
  induction l with
  | nil => exact List.IsChain.nil
  | cons a l ih =>
    cases l with
    | nil => exact List.IsChain.singleton a
    | cons b l =>
      rw [List.isChain_cons_cons] at hle hne ⊢
      exact ⟨lt_of_le_of_ne hle.1 hne.1, ih hle.2 hne.2⟩

theorem nodup_unique_of_pairwise {l : List α} (h : l.Pairwise (· ≤ ·)) : (unique l).Nodup := by
  have hlt := isChain_lt (h.sublist (List.destutter_sublist _ _)).isChain
    (List.isChain_destutter (· ≠ ·) l)
  exact (List.isChain_iff_pairwise.1 hlt).imp fun h => h.ne

theorem unique_split (d : List α) (a : α) :
    (unique d).takeWhile (· < a) = unique (d.takeWhile (· < a)) ∧
      (unique d).dropWhile (· < a) = unique (d.dropWhile (· < a)) := by
  have htake : ∀ x ∈ unique (d.takeWhile (· < a)), decide (x < a) = true := by
    intro x hx
    have hlt := List.mem_takeWhile_imp (mem_unique.1 hx)
    exact hlt
  have hdrop : ∀ y ∈ (unique (d.dropWhile (· < a))).head?, ¬ decide (y < a) = true := by
    intro y hy
    cases hcons : d.dropWhile (· < a) with
    | nil =>
      rw [hcons] at hy
      cases hy
    | cons b t =>
      obtain ⟨rest, hrest⟩ := exists_unique_cons b t
      rw [hcons, hrest] at hy
      obtain rfl : b = y := Option.some.inj hy
      simpa using not_lt.2 (le_of_dropWhile hcons)
  have hsplit : unique d = unique (d.takeWhile (· < a)) ++ unique (d.dropWhile (· < a)) := by
    conv_lhs => rw [← List.takeWhile_append_dropWhile (p := fun x => decide (x < a)) (l := d)]
    refine unique_append fun x hx y hy => ?_
    have hxa := List.mem_takeWhile_imp (List.mem_of_getLast? hx)
    cases hcons : d.dropWhile (· < a) with
    | nil =>
      rw [hcons] at hy
      cases hy
    | cons b t =>
      rw [hcons] at hy
      obtain rfl : b = y := Option.some.inj hy
      exact ((of_decide_eq_true hxa).trans_le (le_of_dropWhile hcons)).ne
  rw [hsplit]
  constructor
  · rw [List.takeWhile_append_of_pos htake]
    cases hnil : unique (d.dropWhile (· < a)) with
    | nil => simp
    | cons y rest =>
      have hy := hdrop y (by rw [hnil]; rfl)
      simp only [List.takeWhile_cons, if_neg hy, List.append_nil]
  · rw [List.dropWhile_append_of_pos htake]
    cases hnil : unique (d.dropWhile (· < a)) with
    | nil => simp
    | cons y rest =>
      have hy := hdrop y (by rw [hnil]; rfl)
      simp only [List.dropWhile_cons, if_neg hy]

theorem head_mergeRange {b y : α} {l d : List α} (h : y ∈ (mergeRange (b :: l) d).head?) :
    y = b ∨ y ∈ d := by
  rw [mergeRange] at h
  cases htake : d.takeWhile (· < b) with
  | nil =>
    rw [htake] at h
    exact .inl (Option.some.inj h).symm
  | cons c t =>
    rw [htake] at h
    obtain rfl : c = y := Option.some.inj h
    exact .inr ((List.takeWhile_sublist _).subset (htake ▸ List.mem_cons_self))

theorem unique_mergeRange {cur d : List α} (hdisj : ∀ x ∈ cur, x ∉ d) :
    unique (mergeRange cur d) = mergeRange (unique cur) (unique d) := by
  induction cur generalizing d with
  | nil => rfl
  | cons a l ih =>
    have hda : a ∉ d := hdisj a List.mem_cons_self
    have hsub := List.dropWhile_sublist (l := d) (· < a)
    have hdisjD : ∀ x ∈ l, x ∉ d.dropWhile (· < a) := fun x hx hin =>
      hdisj x (List.mem_cons_of_mem a hx) (hsub.subset hin)
    obtain ⟨hT, hU⟩ := unique_split d a
    have hfront : unique (mergeRange (a :: l) d) = unique (d.takeWhile (· < a)) ++
        unique (a :: mergeRange l (d.dropWhile (· < a))) := by
      rw [mergeRange]
      refine unique_append fun x hx y hy => ?_
      obtain rfl : a = y := Option.some.inj hy
      have hxd := (List.takeWhile_sublist _).subset (List.mem_of_getLast? hx)
      exact fun heq => hda (heq ▸ hxd)
    rw [hfront]
    cases l with
    | nil =>
      rw [unique_singleton, mergeRange, mergeRange, mergeRange, hT, hU, unique_cons_of_head]
      rintro y hy rfl
      exact hda (hsub.subset (List.mem_of_mem_head? hy))
    | cons b l =>
      have ih := ih hdisjD
      by_cases hab : a = b
      · subst hab
        have hnone : (d.dropWhile (· < a)).takeWhile (· < a) = [] := by
          cases hcons : d.dropWhile (· < a) with
          | nil => rfl
          | cons c t =>
            rw [List.takeWhile_cons_of_neg]
            simpa using le_of_dropWhile hcons
        have hsame : (d.dropWhile (· < a)).dropWhile (· < a) = d.dropWhile (· < a) := by
          have := List.takeWhile_append_dropWhile (p := fun x => decide (x < a))
            (l := d.dropWhile (· < a))
          rwa [hnone, List.nil_append] at this
        obtain ⟨rest, hrest⟩ := exists_unique_cons a l
        have hhead : mergeRange (a :: l) (d.dropWhile (· < a)) =
            a :: mergeRange l ((d.dropWhile (· < a)).dropWhile (· < a)) := by
          rw [mergeRange, hnone, List.nil_append]
        rw [hhead, unique_cons_self, ← hhead, ih, unique_cons_self, hrest, mergeRange, mergeRange,
          hT, hU, (unique_split _ a).1, (unique_split _ a).2, hnone, unique_nil,
          List.nil_append, hsame]
      · have hhead : ∀ y ∈ (mergeRange (b :: l) (d.dropWhile (· < a))).head?, a ≠ y := by
          intro y hy heq
          obtain hy | hy := head_mergeRange hy
          · exact hab (heq.trans hy)
          · exact hda (hsub.subset (heq ▸ hy))
        rw [unique_cons_of_head hhead, ih, unique_cons_of_ne hab, mergeRange, hT, hU]

theorem nodup_unique_mergeRange {cur d : List α} (hd : d.Pairwise (· ≤ ·))
    (hdisj : ∀ x ∈ cur, x ∉ d) :
    (unique (mergeRange cur d)).Nodup ↔ (unique cur).Nodup := by
  rw [unique_mergeRange hdisj, (mergeRange_perm _ _).nodup_iff, List.nodup_append]
  refine ⟨fun h => h.1, fun h => ⟨h, nodup_unique_of_pairwise hd, fun x hx y hy heq => ?_⟩⟩
  exact hdisj x (mem_unique.1 hx) (heq ▸ mem_unique.1 hy)

end Unique

/-! ## The helpers -/

section Ops

variable {CT DIT : Type*} [LinearOrder CT] [LinearOrder DIT]

/-- What the keyed `remove` of either index reports. -/
def removeKeyedOut {κ ν : Type*} [LinearOrder κ] [LinearOrder ν] (m : TreeMap κ (List ν))
    (k : κ) (r : List ν) : List ν :=
  match m[k]? with
  | none => []
  | some cur => setIntersection cur r

/-- `ClientIndex::remove` of a list of items from every entry. -/
def ClientIndex.removeItems (m : ClientIndex CT DIT) (r : List DIT) :
    ClientIndex CT DIT × List CT :=
  DataItemIndex.removeClients m r

/-- The keyed `DataItemIndex::add`: as that of the client index, but without `unique`. -/
def DataItemIndex.addKeyed (m : DataItemIndex CT DIT) (id : DIT) (l : List CT) :
    DataItemIndex CT DIT × List CT :=
  match m[id]? with
  | some cur =>
    let difference := setDifference l cur
    if difference = [] then (m, [])
    else
      (m.insert id (mergeRange cur (difference.insertionSort (· ≤ ·))),
        difference.insertionSort (· ≤ ·))
  | none => (m.insert id l, l)

/-- `cacheObserverRequest`. -/
def cacheObserverRequest (reqCache : ClientIndex CT DIT) (l : List DIT) (client : CT) :
    ClientIndex CT DIT :=
  match reqCache[client]? with
  | some cur => reqCache.insert client (addTo cur l)
  | none => reqCache.insert client l

/-! ## What they are meant to compute -/

section Meant

variable {κ ν : Type*} [LinearOrder κ]

/-- The key has the elements it had and those given, each once, and the new ones are
reported. -/
def Adds (m : TreeMap κ (List ν)) (k : κ) (l : List ν) (m' : TreeMap κ (List ν))
    (out : List ν) : Prop :=
  (getList m' k).Nodup ∧ (∀ x, x ∈ getList m' k ↔ x ∈ getList m k ∨ x ∈ l) ∧
    ∀ x, x ∈ out ↔ x ∈ l ∧ x ∉ getList m k

/-- The key has the elements it had but for those given, and what it lost is reported. -/
def Removes (m : TreeMap κ (List ν)) (k : κ) (r : List ν) (m' : TreeMap κ (List ν))
    (out : List ν) : Prop :=
  (∀ x, x ∈ getList m' k ↔ x ∈ getList m k ∧ x ∉ r) ∧
    ∀ x, x ∈ out ↔ x ∈ getList m k ∧ x ∈ r

/-- Every key has the elements it had but for those given, and the keys left with none are
reported. -/
def RemovesEverywhere (m : TreeMap κ (List ν)) (r : List ν) (m' : TreeMap κ (List ν))
    (out : List κ) : Prop :=
  (∀ k x, x ∈ getList m' k ↔ x ∈ getList m k ∧ x ∉ r) ∧
    ∀ k, k ∈ out ↔ k ∈ m ∧ ∀ x ∈ getList m k, x ∈ r

end Meant

theorem getList_of_some {κ ν : Type*} [LinearOrder κ] {m : TreeMap κ (List ν)} {k : κ}
    {cur : List ν} (h : m[k]? = some cur) : getList m k = cur := by
  rw [getList, h, Option.getD_some]

theorem getList_of_none {κ ν : Type*} [LinearOrder κ] {m : TreeMap κ (List ν)} {k : κ}
    (h : m[k]? = none) : getList m k = [] := by
  rw [getList, h, Option.getD_none]

/-! ## When the keyed adds are right -/

section Add

variable {α : Type*} [LinearOrder α] {cur l : List α}

theorem mem_setDifference_iff_findsEach :
    (∀ x, x ∈ setDifference l cur ↔ x ∈ l ∧ x ∉ cur) ↔ FindsEach (· ∈ cur) l cur := by
  constructor
  · exact fun h => findsEach_iff_setDifference.2 fun x hx => ((h x).1 hx).2
  · intro h x
    rw [setDifference_eq_filter h fun _ hx => hx]
    simp

theorem setDifference_eq_nil_iff (h : FindsEach (· ∈ cur) l cur) :
    setDifference l cur = [] ↔ ∀ x ∈ l, x ∈ cur := by
  rw [setDifference_eq_filter h fun _ hx => hx, List.filter_eq_nil_iff]
  simp

theorem disjoint_setDifference (h : FindsEach (· ∈ cur) l cur) :
    ∀ x ∈ cur, x ∉ (setDifference l cur).insertionSort (· ≤ ·) := by
  intro x hx hin
  rw [List.mem_insertionSort] at hin
  exact findsEach_iff_setDifference.1 h x hin hx

theorem nodup_addTo_iff (h : FindsEach (· ∈ cur) l cur) :
    (addTo cur l).Nodup ↔ if ∀ x ∈ l, x ∈ cur then cur.Nodup else (unique cur).Nodup := by
  rw [addTo]
  by_cases hall : ∀ x ∈ l, x ∈ cur
  · rw [if_pos ((setDifference_eq_nil_iff h).2 hall), if_pos hall]
  · rw [if_neg fun hnil => hall ((setDifference_eq_nil_iff h).1 hnil), if_neg hall]
    exact nodup_unique_mergeRange (List.pairwise_insertionSort _ _) (disjoint_setDifference h)

theorem nodup_mergeRange_iff (h : FindsEach (· ∈ cur) l cur) :
    (mergeRange cur ((setDifference l cur).insertionSort (· ≤ ·))).Nodup ↔
      cur.Nodup ∧ (l.filter (· ∉ cur)).Nodup := by
  have hsort := List.perm_insertionSort (· ≤ ·) (setDifference l cur)
  rw [(mergeRange_perm _ _).nodup_iff, List.nodup_append, hsort.nodup_iff,
    setDifference_eq_filter h fun _ hx => hx]
  refine ⟨fun hnd => ⟨hnd.1, hnd.2.1⟩, fun hnd => ⟨hnd.1, hnd.2, fun x hx y hy heq => ?_⟩⟩
  rw [List.mem_insertionSort, List.mem_filter] at hy
  have hnot : y ∉ cur := by simpa using hy.2
  exact hnot (heq ▸ hx)

end Add

variable {m : ClientIndex CT DIT}

local instance lawfulBEq_ordered {α : Type*} [LinearOrder α] : LawfulBEq α := instLawfulBEq

/-- When the walk of `ClientIndex::add` comes out right: a new client names no item twice;
else each item the client has is found, and its items stand there once, or in runs if
there is something new to merge. -/
def ClientIndex.AddFinds (m : ClientIndex CT DIT) (client : CT) (l : List DIT) : Prop :=
  match m[client]? with
  | none => l.Nodup
  | some cur => FindsEach (· ∈ cur) l cur ∧
      if ∀ x ∈ l, x ∈ cur then cur.Nodup else (unique cur).Nodup

/-- The same for the keyed `DataItemIndex::add`, which has no `unique`. -/
def DataItemIndex.AddFinds (m : DataItemIndex CT DIT) (id : DIT) (l : List CT) : Prop :=
  match m[id]? with
  | none => l.Nodup
  | some cur => FindsEach (· ∈ cur) l cur ∧ cur.Nodup ∧ (l.filter (· ∉ cur)).Nodup

theorem ClientIndex.adds_iff (m : ClientIndex CT DIT) (client : CT) (l : List DIT) :
    Adds m client l (m.add client l) (m.addOut client l) ↔ m.AddFinds client l := by
  have hmem : ∀ x, x ∈ getList (m.add client l) client ↔ x ∈ getList m client ∨ x ∈ l := by
    intro x
    rw [ClientIndex.mem_getList_add]
    simp
  rw [Adds, ClientIndex.AddFinds]
  cases hk : m[client]? with
  | none =>
    have hstored : getList (m.add client l) client = l := by
      rw [ClientIndex.add, hk]
      exact (getList_insert ..).trans (if_pos rfl)
    have hout : m.addOut client l = l := by rw [ClientIndex.addOut, hk]
    rw [hstored, hout, getList_of_none hk]
    simp
  | some cur =>
    have hstored : getList (m.add client l) client = addTo cur l := by
      rw [ClientIndex.add, hk]
      exact (getList_insert ..).trans (if_pos rfl)
    have hout : m.addOut client l = (setDifference l cur).insertionSort (· ≤ ·) := by
      rw [ClientIndex.addOut, hk]
    rw [hout]
    simp only [List.mem_insertionSort]
    rw [getList_of_some hk, mem_setDifference_iff_findsEach, hstored]
    constructor
    · intro hadds
      obtain ⟨hnd, -, hfinds⟩ := hadds
      exact ⟨hfinds, (nodup_addTo_iff hfinds).1 hnd⟩
    · intro hnew
      obtain ⟨hfinds, hnd⟩ := hnew
      exact ⟨(nodup_addTo_iff hfinds).2 hnd, fun x => mem_addTo, hfinds⟩

theorem DataItemIndex.adds_iff (m : DataItemIndex CT DIT) (id : DIT) (l : List CT) :
    Adds m id l (m.addKeyed id l).1 (m.addKeyed id l).2 ↔ m.AddFinds id l := by
  rw [Adds, DataItemIndex.AddFinds, DataItemIndex.addKeyed]
  cases hk : m[id]? with
  | none =>
    have hstored : getList (m.insert id l) id = l := (getList_insert ..).trans (if_pos rfl)
    rw [getList_of_none hk]
    simp [hstored]
  | some cur =>
    dsimp only
    rw [getList_of_some hk]
    by_cases hnil : setDifference l cur = []
    · have hall : ∀ x ∈ l, x ∈ cur := by
        intro x hx
        have := mem_setDifference_or (r := cur) hx
        rw [hnil] at this
        exact this.resolve_left List.not_mem_nil
      have hfinds : FindsEach (· ∈ cur) l cur := by
        rw [findsEach_iff_setDifference, hnil]
        simp
      have hnew : l.filter (· ∉ cur) = [] := by
        rw [List.filter_eq_nil_iff]
        simpa using hall
      rw [if_pos hnil, getList_of_some hk, hnew]
      constructor
      · exact fun h => ⟨hfinds, h.1, List.nodup_nil⟩
      · refine fun h =>
          ⟨h.2.1, fun x => ⟨.inl, fun hx => hx.elim (fun h => h) (hall x)⟩, fun x => ?_⟩
        exact ⟨fun hx => (List.not_mem_nil hx).elim, fun hx => (hx.2 (hall x hx.1)).elim⟩
    · rw [if_neg hnil]
      dsimp only
      rw [getList_insert, if_pos rfl]
      simp only [List.mem_insertionSort]
      rw [mem_setDifference_iff_findsEach]
      constructor
      · intro hadds
        obtain ⟨hnd, -, hfinds⟩ := hadds
        exact ⟨hfinds, (nodup_mergeRange_iff hfinds).1 hnd⟩
      · intro hnew
        obtain ⟨hfinds, hnd⟩ := hnew
        refine ⟨(nodup_mergeRange_iff hfinds).2 hnd, fun x => ?_, hfinds⟩
        have hor : x ∈ l → x ∈ setDifference l cur ∨ x ∈ cur := mem_setDifference_or
        have hsub := (setDifference_sublist l cur).subset (a := x)
        rw [mem_mergeRange, List.mem_insertionSort]
        tauto

/-! ## When the removes are right -/

theorem removes_iff {κ ν : Type*} [LinearOrder κ] [LinearOrder ν] (m : TreeMap κ (List ν))
    (k : κ) (r : List ν) :
    Removes m k r (removeKeyed m k r) (removeKeyedOut m k r) ↔
      FindsEach (· ∈ r) (getList m k) r := by
  have hout : removeKeyedOut m k r = setIntersection (getList m k) r := by
    rw [removeKeyedOut]
    cases hk : m[k]? with
    | none => rw [getList_of_none hk]; rfl
    | some cur => rw [getList_of_some hk]
  rw [Removes, hout, getList_removeKeyed, if_pos rfl, findsEach_iff_setIntersection]
  constructor
  · intro hremoves x hx
    obtain ⟨hstored, -⟩ := hremoves
    have hgone : x ∉ removeFrom (getList m k) r := fun hin => ((hstored x).1 hin).2 hx
    rw [mem_removeFrom_iff, not_not, FindsAll] at hgone
    have := count_setIntersection_le (getList m k) r x
    omega
  · intro hall
    refine ⟨fun x => ?_, fun x => ?_⟩
    · by_cases hx : x ∈ r
      · simp [mem_removeFrom_iff, FindsAll, hall x hx, hx]
      · rw [mem_removeFrom_of_not_mem hx]
        simp [hx]
    · constructor
      · exact fun hx => ⟨(setIntersection_sublist _ _).subset hx,
          mem_right_of_mem_setIntersection hx⟩
      · intro hboth
        obtain ⟨hx, hr⟩ := hboth
        rw [← List.count_pos_iff, hall x hr, List.count_pos_iff]
        exact hx

theorem mem_diff_iff_count {α : Type*} [LinearOrder α] {cur r : List α} {x : α} :
    x ∈ cur.diff r ↔ r.count x < cur.count x := by
  rw [← List.count_pos_iff, List.count_diff]
  omega

theorem removesEverywhere_iff (m : DataItemIndex CT DIT) (r : List CT) :
    RemovesEverywhere m r (m.removeClients r).1 (m.removeClients r).2 ↔
      ∀ id, ∀ c ∈ r, (getList m id).count c ≤ r.count c := by
  have hout : ∀ id, id ∈ (m.removeClients r).2 ↔ id ∈ m ∧ (getList m id).diff r = [] := by
    intro id
    simp only [DataItemIndex.removeClients, List.mem_map, List.mem_filter, Prod.exists,
      exists_and_right, exists_eq_right, decide_eq_true_eq, TreeMap.mem_toList_iff_getElem?_eq_some]
    constructor
    · intro hemptied
      obtain ⟨clients, hsome, hnil⟩ := hemptied
      rw [getList_of_some hsome]
      exact ⟨TreeMap.mem_iff_isSome_getElem?.2 (by simp [hsome]), hnil⟩
    · intro hemptied
      obtain ⟨hmem, hnil⟩ := hemptied
      obtain ⟨clients, hsome⟩ := Option.isSome_iff_exists.1 (TreeMap.mem_iff_isSome_getElem?.1 hmem)
      rw [getList_of_some hsome] at hnil
      exact ⟨clients, hsome, hnil⟩
  rw [RemovesEverywhere]
  simp only [DataItemIndex.getList_removeClients, mem_diff_iff_count, hout]
  constructor
  · intro hremoves id c hc
    obtain ⟨hstored, -⟩ := hremoves
    by_contra hlt
    exact ((hstored id c).1 (by omega)).2 hc
  · intro hcount
    have hstored : ∀ id c, c ∈ (getList m id).diff r ↔ c ∈ getList m id ∧ c ∉ r := by
      intro id c
      rw [mem_diff_iff_count]
      by_cases hc : c ∈ r
      · have := hcount id c hc
        simp only [hc, not_true_eq_false, and_false, iff_false]
        omega
      · rw [List.count_eq_zero_of_not_mem hc, List.count_pos_iff]
        simp [hc]
    refine ⟨fun id c => by rw [← mem_diff_iff_count, hstored],
      fun id => and_congr_right fun _ => ?_⟩
    rw [List.eq_nil_iff_forall_not_mem]
    simp only [hstored, not_and, not_not]

theorem mem_cacheObserverRequest (reqCache : ClientIndex CT DIT) (l : List DIT) (client : CT)
    (id : DIT) :
    id ∈ getList (cacheObserverRequest reqCache l client) client ↔
      id ∈ getList reqCache client ∨ id ∈ l := by
  rw [cacheObserverRequest]
  cases hk : reqCache[client]? with
  | none =>
    dsimp only
    rw [getList_insert, if_pos rfl, getList_of_none hk]
    simp
  | some cur =>
    dsimp only
    rw [getList_insert, if_pos rfl, getList_of_some hk, mem_addTo]

/-- Each helper of the two indices computes its set operation exactly under its own condition
on what is stored and what is asked; the cache of requests always does. -/
theorem indexHelpers_iff :
    (∀ (m : ClientIndex CT DIT) client l,
      Adds m client l (m.add client l) (m.addOut client l) ↔ m.AddFinds client l) ∧
    (∀ (m : DataItemIndex CT DIT) id l,
      Adds m id l (m.addKeyed id l).1 (m.addKeyed id l).2 ↔ m.AddFinds id l) ∧
    (∀ (m : ClientIndex CT DIT) client r,
      Removes m client r (removeKeyed m client r) (removeKeyedOut m client r) ↔
        FindsEach (· ∈ r) (getList m client) r) ∧
    (∀ (m : DataItemIndex CT DIT) id r,
      Removes m id r (removeKeyed m id r) (removeKeyedOut m id r) ↔
        FindsEach (· ∈ r) (getList m id) r) ∧
    (∀ (m : ClientIndex CT DIT) r,
      RemovesEverywhere m r (m.removeItems r).1 (m.removeItems r).2 ↔
        ∀ client, ∀ id ∈ r, (getList m client).count id ≤ r.count id) ∧
    (∀ (m : DataItemIndex CT DIT) r,
      RemovesEverywhere m r (m.removeClients r).1 (m.removeClients r).2 ↔
        ∀ id, ∀ client ∈ r, (getList m id).count client ≤ r.count client) ∧
    (∀ (reqCache : ClientIndex CT DIT) l client id,
      id ∈ getList (cacheObserverRequest reqCache l client) client ↔
        id ∈ getList reqCache client ∨ id ∈ l) :=
  ⟨ClientIndex.adds_iff, DataItemIndex.adds_iff, removes_iff, removes_iff,
    fun m r => removesEverywhere_iff m r, removesEverywhere_iff, mem_cacheObserverRequest⟩

/-- A client that came with the items 2 and 1 is told that 1 is new to it. -/
theorem ClientIndex.add_reports_present :
    ¬ ∀ (m : ClientIndex Nat Nat) (client : Nat) (l : List Nat),
      Adds m client l (m.add client l) (m.addOut client l) := by
  intro h
  have hadds := h ((∅ : ClientIndex Nat Nat).insert 0 [2, 1]) 0 [1]
  rw [ClientIndex.adds_iff, ClientIndex.AddFinds, TreeMap.getElem?_insert_self] at hadds
  have hfind := hadds.1 [] 1 [] rfl (by decide)
  exact absurd hfind (by decide)

end Ops

end Axon7.OsObserver
