import Axon7.Lib.Text
import Axon7.Nmea.Gsv
import Axon7.Nmea.EachSatellite

/-!
# Which satellites the GSA sentences list

A mask has a bit for each satellite 1 to 32, and the sentence lists the first twelve of the
bits that are set. A satellite of another number, as those of QZSS and BeiDou are, shifts the
bit out of an `int`: what that gives is undefined, but it is not the satellite.
-/

namespace Axon7.Nmea

open Lib

/-! ## The statement -/

/-- The satellites of the constellation that are used in the fix. -/
def usedIds (svs : List MarkedSv) (t : GnssSvType) : Finset ℕ :=
  ((svs.filter fun sv =>
    sv.type = t ∧ sv.gnssSvOptionsMask &&& usedInFixBit = usedInFixBit).map
      (·.svId.toNat)).toFinset

/-- The number a satellite has in the sentences. -/
def nmeaId (t : GnssSvType) (id : ℕ) : ℕ := if t = .glonass then id + 64 else id

/-- The satellites a GSA sentence lists: the fourth to the fifteenth of its fields, less the
blank ones. -/
def gsaIds (sentence : List Char) : List ℕ :=
  ((((sentence.splitOn ',').drop 3).take 12).filter (· ≠ [])).map (Nat.ofDigitChars 10 · 0)

/-- The sentence of the constellation lists the first twelve of the satellites. There is none if
there are no satellites, but for GPS, whose sentence then lists nothing. -/
def ListsUsed (ids : Finset ℕ) (t : GnssSvType) (sentences : List (List Char)) : Prop :=
  sentences.map gsaIds =
    if ids = ∅ ∧ t ≠ .gps then [] else [(ids.sort.map (nmeaId t)).take 12]

/-! ## The masks -/

variable {undefined : ℤ → BitVec 32} {t : GnssSvType}

theorem UsedMasks.mark_of (ht : t ∈ constellations) (masks : UsedMasks) (sv : MarkedSv) :
    (masks.mark undefined sv).of t =
      if sv.type = t ∧ sv.gnssSvOptionsMask &&& usedInFixBit = usedInFixBit then
        masks.of t ||| shiftOne undefined (sv.svId.toNat - 1)
      else masks.of t := by
  rw [UsedMasks.mark]
  by_cases hused : sv.gnssSvOptionsMask &&& usedInFixBit = usedInFixBit
  · rw [if_pos hused]
    simp only [hused, and_true]
    cases t <;> first | exact absurd ht (by decide) | (cases sv.type <;> rfl)
  · rw [if_neg hused, if_neg fun h => hused h.2]

theorem mem_usedIds {svs : List MarkedSv} {id : ℕ} :
    id ∈ usedIds svs t ↔ ∃ sv ∈ svs, (sv.type = t ∧
      sv.gnssSvOptionsMask &&& usedInFixBit = usedInFixBit) ∧ sv.svId.toNat = id := by
  simp only [usedIds, List.mem_toFinset, List.mem_map, List.mem_filter, decide_eq_true_eq,
    and_assoc]

theorem getLsbD_cacheSvs (ht : t ∈ constellations) (svs : List MarkedSv) (i : ℕ) :
    ((cacheSvs undefined svs).masks.of t).getLsbD i = true ↔
      ∃ id ∈ usedIds svs t, (shiftOne undefined ((id : ℤ) - 1)).getLsbD i = true := by
  suffices h : ∀ cache : SvCache, ((svs.foldl (fun cache sv => (SvCache.mk
      (cache.counts.count sv.toGnssSv) (cache.masks.mark undefined sv))) cache).masks.of
        t).getLsbD i = true ↔ (cache.masks.of t).getLsbD i = true ∨
      ∃ id ∈ usedIds svs t, (shiftOne undefined ((id : ℤ) - 1)).getLsbD i = true by
    have hnothing : (UsedMasks.of {} t).getLsbD i = false := by
      cases t <;> exact BitVec.getLsbD_zero
    rw [cacheSvs, h, hnothing]
    simp
  induction svs with
  | nil => simp [usedIds]
  | cons sv svs ih =>
    intro cache
    rw [List.foldl_cons, ih, UsedMasks.mark_of ht]
    simp only [mem_usedIds, List.exists_mem_cons_iff]
    split
    next hsv =>
      simp only [BitVec.getLsbD_or, Bool.or_eq_true, hsv, true_and]
      constructor
      · rintro ((h | h) | ⟨id, h, hbit⟩)
        · exact Or.inl h
        · exact Or.inr ⟨_, Or.inl rfl, h⟩
        · exact Or.inr ⟨id, Or.inr h, hbit⟩
      · rintro (h | ⟨id, rfl | h, hbit⟩)
        · exact Or.inl (Or.inl h)
        · exact Or.inl (Or.inr hbit)
        · exact Or.inr ⟨id, h, hbit⟩
    next hsv => simp only [hsv, false_and, false_or]

/-! ## The sentence -/

/-- What `loc_nmea_sv_meta_init` gives, as far as the sentence depends on it. -/
structure GsaMeta.Plain (gsaMeta : GsaMeta) : Prop where
  talker : gsaMeta.talker.length = 2 ∧ ',' ∉ gsaMeta.talker
  svIdOffset : gsaMeta.svIdOffset ≤ 64
  systemId : gsaMeta.systemId < 10

theorem gsaMetaInit_spec (ht : t ∈ constellations) (cache : SvCache) (needCombine : Bool) :
    ∃ gsaMeta, gsaMetaInit cache t needCombine = some gsaMeta ∧ gsaMeta.svType = t ∧
      gsaMeta.mask = cache.masks.of t ∧ (∀ id, id + gsaMeta.svIdOffset = nmeaId t id) ∧
      gsaMeta.Plain := by
  have htalker : ∀ (p : Prop) [Decidable p] (talker : List Char),
      talker.length = 2 ∧ ',' ∉ talker →
      (if p then ['G', 'N'] else talker).length = 2 ∧
        ',' ∉ (if p then ['G', 'N'] else talker) := by
    intro p _ talker h
    split
    · decide
    · exact h
  cases t <;> first
    | exact absurd ht (by decide)
    | exact ⟨_, rfl, rfl, rfl, fun _ => rfl, htalker _ _ (by simp), by simp, by simp⟩

/-- What is written at a place, but for the comma. -/
def placeText (id : Option ℕ) : List Char := id.elim [] fun id => printInt 2 id

theorem gsaPlace_eq (id : Option ℕ) : gsaPlace id = placeText id ++ [','] := by
  cases id <;> rfl

theorem comma_notMem_placeText (id : Option ℕ) : ',' ∉ placeText id := by
  cases id with
  | none => exact List.not_mem_nil
  | some id =>
    intro h
    exact absurd (isDigit_of_mem_printInt h) (by decide)

/-- The sentence before its checksum. -/
def gsaBody (gsaMeta : GsaMeta) (ids : List ℕ) (dop : Option Dop) : List Char :=
  gsaHeader gsaMeta.talker (fixType ids.length) ++
    (List.range 12).flatMap (fun i => gsaPlace ids[i]?) ++ gsaDop dop ++
    printInt 0 gsaMeta.systemId

variable {gsaMeta : GsaMeta} {ids : List ℕ} {dop : Option Dop}

theorem length_gsaPlace (hids : ∀ id ∈ ids, id < 100) (i : ℕ) :
    (gsaPlace ids[i]?).length ≤ 3 := by
  rw [gsaPlace_eq, List.length_append, List.length_singleton]
  rcases h : ids[i]? with _ | id
  · exact Nat.le_of_lt_succ (by decide)
  · have := length_printInt_nat 2 le_rfl (hids id (List.mem_of_getElem? h))
    rw [placeText, Option.elim_some]
    omega

theorem length_gsaDop (dop : Option Dop) : (gsaDop dop).length ≤ 129 := by
  have htenths : ∀ x : ℚ, |x| < 2 ^ 128 → (printTenths x).length ≤ 42 := fun x hx =>
    length_printTenths_le (k := 39) (by decide) (hx.trans (by norm_num))
  cases dop with
  | none => decide
  | some dop =>
    obtain ⟨hp, hh, hv⟩ := dop.fits
    have hp := htenths _ hp
    have hh := htenths _ hh
    have hv := htenths _ hv
    simp only [gsaDop, List.length_append, List.length_cons, List.length_nil]
    omega

theorem gsaSentence_eq (hplain : gsaMeta.Plain) (hids : ∀ id ∈ ids, id < 100) :
    gsaSentence sentenceMaxLength gsaMeta ids dop =
      some (gsaBody gsaMeta ids dop ++ checksumText (gsaBody gsaMeta ids dop)) := by
  have hheader : (gsaHeader gsaMeta.talker (fixType ids.length)).length = 11 := by
    simp [gsaHeader, hplain.talker.1]
  have hplace : ∀ i ∈ List.range 12, (gsaPlace ids[i]?).length ≤ 3 := fun i _ =>
    length_gsaPlace hids i
  have hplaces := length_flatMap_le hplace
  rw [List.length_range] at hplaces
  have hdop := length_gsaDop dop
  have hsystem : (printInt 0 gsaMeta.systemId).length ≤ 1 :=
    length_printInt_le (by decide) (by decide) (by omega) (by have := hplain.systemId; omega)
  have hchecksum := length_checksumText (gsaBody gsaMeta ids dop)
  have hmax : sentenceMaxLength = 200 := rfl
  have hlen : (gsaBody gsaMeta ids dop).length ≤ 177 := by
    simp only [gsaBody, List.length_append]
    omega
  rw [gsaSentence, snprintf?_of_room (by rw [List.length_nil]; omega), List.nil_append]
  change ((List.range 12).foldlM (fun sentence i => snprintf? sentenceMaxLength sentence
    (gsaPlace ids[i]?)) _).bind _ = _
  rw [foldlM_snprintf?_of_room _ hplace (by simp only [List.length_range]; omega),
    Option.bind_some]
  dsimp only
  have hdopRoom := snprintf_of_room
    (show (gsaHeader gsaMeta.talker (fixType ids.length) ++
        (List.range 12).flatMap fun i => gsaPlace ids[i]?).length + (gsaDop dop).length <
      sentenceMaxLength by rw [List.length_append]; omega)
  rw [hdopRoom, snprintf_of_room (by simp only [List.length_append]; omega), ← gsaBody,
    putChecksum, snprintf_of_room (by omega)]

/-- The fields of the sentence up to the satellites. -/
def gsaFields (gsaMeta : GsaMeta) (ids : List ℕ) : List (List Char) :=
  ['$' :: gsaMeta.talker ++ ['G', 'S', 'A'], ['A'], [fixType ids.length]] ++
    (List.range 12).map fun i => placeText ids[i]?

theorem comma_notMem_gsaFields (hplain : gsaMeta.Plain) :
    ∀ f ∈ gsaFields gsaMeta ids, ',' ∉ f := by
  intro f hf
  rcases List.mem_append.1 hf with hf | hf
  · have hfix : fixType ids.length ≠ ',' := by
      rw [fixType]
      split_ifs <;> decide
    simp only [List.mem_cons, List.not_mem_nil, or_false] at hf
    rcases hf with rfl | rfl | rfl
    · simp [hplain.talker.2]
    · decide
    · simpa using hfix.symm
  · obtain ⟨i, -, rfl⟩ := List.mem_map.1 hf
    exact comma_notMem_placeText _

theorem placeText_read (place : Option ℕ) :
    (if placeText place ≠ [] then some (Nat.ofDigitChars 10 (placeText place) 0) else none) =
      place := by
  cases place with
  | none => rfl
  | some id =>
    rw [if_pos (show placeText (some id) ≠ [] from printInt_ne_nil 2 id), placeText,
      Option.elim_some, ofDigitChars_printInt]

theorem filterMap_getElem?_range {α : Type*} (ids : List α) (n : ℕ) :
    (List.range n).filterMap (fun i => ids[i]?) = ids.take n := by
  induction n with
  | zero => rfl
  | succ n ih =>
    rw [List.range_succ, List.filterMap_append, ih, List.take_add_one, List.filterMap_cons,
      List.filterMap_nil]
    rcases ids[n]? with _ | id <;> rfl

theorem gsaIds_gsaBody (hplain : gsaMeta.Plain) (rest : List Char) :
    gsaIds (gsaBody gsaMeta ids dop ++ rest) = ids.take 12 := by
  have hbody : gsaBody gsaMeta ids dop ++ rest = (gsaFields gsaMeta ids).flatMap (· ++ [',']) ++
      (gsaDop dop ++ printInt 0 gsaMeta.systemId ++ rest) := by
    simp [gsaFields, gsaBody, gsaHeader, List.flatMap_map, gsaPlace_eq]
  have hplaces : ((gsaFields gsaMeta ids ++ (gsaDop dop ++ printInt 0 gsaMeta.systemId ++
      rest).splitOn ',').drop 3).take 12 = (List.range 12).map fun i => placeText ids[i]? := by
    change (((List.range 12).map (fun i => placeText ids[i]?)) ++ _).take 12 = _
    rw [List.take_append_of_le_length (by simp), List.take_of_length_le (by simp)]
  rw [gsaIds, hbody, splitOn_fields (comma_notMem_gsaFields hplain), hplaces, List.filter_map,
    List.map_map, ← List.filterMap_eq_map, List.filterMap_filter, ← filterMap_getElem?_range]
  refine List.filterMap_congr fun i _ => ?_
  rw [← placeText_read ids[i]?]
  simp

theorem svUsedList_eq : svUsedList gsaMeta =
    (setBits gsaMeta.mask).map fun i => i + 1 + gsaMeta.svIdOffset := by
  rw [svUsedList, scanBits_succ, scanBits_eq_setBits, List.map_map]
  rfl

theorem gsaOf_ids (ht : t ∈ constellations) (cache : SvCache) :
    (gsaOf cache dop t).map gsaIds =
      if setBits (cache.masks.of t) = [] ∧ t ≠ .gps then []
      else [((setBits (cache.masks.of t)).map fun i => nmeaId t (i + 1)).take 12] := by
  obtain ⟨gsaMeta, hinit, htype, hmask, hoffset, hplain⟩ :=
    gsaMetaInit_spec ht cache (t ≠ .qzss ∧ t ≠ .beidou)
  have hused : svUsedList gsaMeta =
      (setBits (cache.masks.of t)).map fun i => nmeaId t (i + 1) := by
    rw [svUsedList_eq, hmask]
    simp only [hoffset]
  have hids : ∀ id ∈ svUsedList gsaMeta, id < 100 := by
    intro id hid
    rw [svUsedList_eq] at hid
    obtain ⟨i, hi, rfl⟩ := List.mem_map.1 hid
    have hi32 := BitVec.lt_of_getLsbD (mem_setBits.1 hi)
    have hoff := hplain.svIdOffset
    omega
  have hnil : (svUsedList gsaMeta).length = 0 ↔ setBits (cache.masks.of t) = [] := by
    rw [hused, List.length_map, List.length_eq_zero_iff]
  rw [gsaOf, hinit, generateGSA]
  simp only [htype, hnil, show sentenceMaxLength ≠ 0 by decide, false_or]
  split
  · rfl
  · rw [gsaSentence_eq hplain hids]
    dsimp only
    rw [List.map_singleton, gsaIds_gsaBody hplain, hused]

/-! ## The satellites a mask holds -/

theorem sortedLT_bits (mask : BitVec 32) : ((setBits mask).map (· + 1)).SortedLT :=
  (sortedLT_setBits.pairwise.map _ fun _ _ h => Nat.succ_lt_succ h).sortedLT

theorem setBits_cacheSvs (undefined : ℤ → BitVec 32) (ht : t ∈ constellations) {svs : List MarkedSv}
    (hids : ∀ id ∈ usedIds svs t, 1 ≤ id ∧ id ≤ 32) :
    (setBits ((cacheSvs undefined svs).masks.of t)).map (· + 1) = (usedIds svs t).sort := by
  refine (sortedLT_bits _).eq_of_mem_iff (Finset.sortedLT_sort _) fun n => ?_
  rw [Finset.mem_sort, List.mem_map]
  constructor
  · intro h
    obtain ⟨i, hi, rfl⟩ := h
    obtain ⟨id, hid, hbit⟩ := (getLsbD_cacheSvs ht svs i).1 (mem_setBits.1 hi)
    obtain ⟨hpos, hle⟩ := hids id hid
    rw [show (id : ℤ) - 1 = (id - 1 : ℕ) by omega, getLsbD_shiftOne undefined (by omega),
      decide_eq_true_eq] at hbit
    rwa [← hbit, Nat.sub_add_cancel hpos]
  · intro h
    obtain ⟨hpos, hle⟩ := hids n h
    refine ⟨n - 1, mem_setBits.2 ((getLsbD_cacheSvs ht svs _).2 ⟨n, h, ?_⟩),
      Nat.sub_add_cancel hpos⟩
    rw [show (n : ℤ) - 1 = (n - 1 : ℕ) by omega, getLsbD_shiftOne undefined (by omega),
      decide_eq_true_eq]

theorem mem_setBits_cacheSvs (ht : t ∈ constellations) {svs : List MarkedSv} {n : ℕ}
    (hn : n < 32) (h : n + 1 ∈ usedIds svs t) :
    n ∈ setBits ((cacheSvs undefined svs).masks.of t) := by
  refine mem_setBits.2 ((getLsbD_cacheSvs ht svs n).2 ⟨n + 1, h, ?_⟩)
  rw [show ((n + 1 : ℕ) : ℤ) - 1 = n by omega, getLsbD_shiftOne undefined hn, decide_eq_true_eq]

theorem nmeaId_injective (t : GnssSvType) : Function.Injective (nmeaId t) := by
  intro a b h
  simp only [nmeaId] at h
  split at h <;> omega

theorem listsUsed_iff (ht : t ∈ constellations) (cache : SvCache) (ids : Finset ℕ) :
    ListsUsed ids t (gsaOf cache dop t) ↔ (setBits (cache.masks.of t) = [] ↔ ids = ∅) ∧
      ((setBits (cache.masks.of t)).map (· + 1)).take 12 = ids.sort.take 12 := by
  have hsort : ids.sort = [] ↔ ids = ∅ := by
    rw [← List.length_eq_zero_iff, Finset.length_sort, Finset.card_eq_zero]
  have hids : ((setBits (cache.masks.of t)).map (fun i => nmeaId t (i + 1))).take 12 =
      (((setBits (cache.masks.of t)).map (· + 1)).take 12).map (nmeaId t) := by
    rw [List.map_take, List.map_map]
    rfl
  have hexpected : (ids.sort.map (nmeaId t)).take 12 = (ids.sort.take 12).map (nmeaId t) :=
    List.map_take.symm
  rw [ListsUsed, gsaOf_ids ht, hids, hexpected]
  constructor
  · intro h
    have heq : ((setBits (cache.masks.of t)).map (· + 1)).take 12 = ids.sort.take 12 := by
      split_ifs at h with hbit hid hid
      · rw [hbit.1, hsort.2 hid.1, List.map_nil]
      · exact (nmeaId_injective t).list_map (List.singleton_inj.1 h)
    refine ⟨?_, heq⟩
    rw [← hsort]
    constructor
    · intro hnone
      rw [hnone, List.map_nil, List.take_nil] at heq
      simpa using heq.symm
    · intro hnone
      rw [hnone, List.take_nil] at heq
      simpa using heq
  · intro h
    obtain ⟨hnil, heq⟩ := h
    simp only [hnil, heq]

/-! ## When the sentences are right -/

section

variable {svs : List MarkedSv} {dop : Option Dop}

theorem mem_bits_of_lists (ht : t ∈ constellations)
    (h : ListsUsed (usedIds svs t) t (gsaOf (cacheSvs undefined svs) dop t)) {id : ℕ}
    (hid : id ∈ (usedIds svs t).sort.take 12) :
    1 ≤ id ∧ id ≤ 32 := by
  obtain ⟨-, htake⟩ := (listsUsed_iff ht _ _).1 h
  rw [← htake] at hid
  obtain ⟨i, hi, rfl⟩ := List.mem_map.1 (List.mem_of_mem_take hid)
  have := BitVec.lt_of_getLsbD (mem_setBits.1 hi)
  omega

theorem mem_used_of_lists (ht : t ∈ constellations)
    (h : ∀ undefined, ListsUsed (usedIds svs t) t (gsaOf (cacheSvs undefined svs) dop t))
    {id : ℕ} (hid : id ∈ usedIds svs t) (hout : 32 < id) {n : ℕ} (hpos : 1 ≤ n) (hle : n ≤ 12) :
    n ∈ usedIds svs t := by
  let undefined : ℤ → BitVec 32 := fun _ => BitVec.twoPow 32 (n - 1)
  obtain ⟨-, htake⟩ := (listsUsed_iff ht _ _).1 (h undefined)
  have hbit : n - 1 ∈ setBits ((cacheSvs undefined svs).masks.of t) := by
    refine mem_setBits.2 ((getLsbD_cacheSvs ht svs _).2 ⟨id, hid, ?_⟩)
    rw [shiftOne, if_neg (by omega), BitVec.getLsbD_twoPow]
    simp only [decide_true, Bool.and_true, decide_eq_true_eq]
    omega
  have hmem : n ∈ ((setBits ((cacheSvs undefined svs).masks.of t)).map (· + 1)).take 12 :=
    mem_take_of_lt_add (sortedLT_bits _) (a := 1)
      (fun m hm => by obtain ⟨i, -, rfl⟩ := List.mem_map.1 hm; omega)
      (List.mem_map.2 ⟨n - 1, hbit, Nat.sub_add_cancel hpos⟩) (by omega)
  rw [htake] at hmem
  exact (Finset.mem_sort _).1 (List.mem_of_mem_take hmem)

theorem lists_of_first (ht : t ∈ constellations) (hzero : 0 ∉ usedIds svs t)
    (hfirst : ∀ id, 1 ≤ id → id ≤ 12 → id ∈ usedIds svs t) :
    ListsUsed (usedIds svs t) t (gsaOf (cacheSvs undefined svs) dop t) := by
  let bits := (setBits ((cacheSvs undefined svs).masks.of t)).map (· + 1)
  have hbits : ∀ m, 1 ≤ m → m < 1 + 12 → m ∈ bits := fun m hm hlt =>
    List.mem_map.2 ⟨m - 1, mem_setBits_cacheSvs ht (by omega)
      (by rw [Nat.sub_add_cancel hm]; exact hfirst m hm (by omega)), Nat.sub_add_cancel hm⟩
  have hbitsPos : ∀ m ∈ bits, 1 ≤ m := by
    intro m hm
    obtain ⟨i, -, rfl⟩ := List.mem_map.1 hm
    omega
  have hids : ∀ m, 1 ≤ m → m < 1 + 12 → m ∈ (usedIds svs t).sort := fun m hm hlt =>
    (Finset.mem_sort _).2 (hfirst m hm (by omega))
  have hidsPos : ∀ m ∈ (usedIds svs t).sort, 1 ≤ m := by
    intro m hm
    rcases Nat.eq_zero_or_pos m with rfl | hpos
    · exact absurd ((Finset.mem_sort _).1 hm) hzero
    · exact hpos
  refine (listsUsed_iff ht _ _).2 ⟨⟨fun hnone => ?_, fun hnone => ?_⟩, ?_⟩
  · have hone := hbits 1 le_rfl (by omega)
    rw [show bits = [] from congrArg (List.map (· + 1)) hnone] at hone
    exact absurd hone List.not_mem_nil
  · exact absurd (hfirst 1 le_rfl (by omega)) (hnone ▸ Finset.notMem_empty 1)
  · rw [take_eq_range' (Finset.sortedLT_sort _) hidsPos hids]
    exact take_eq_range' (sortedLT_bits _) hbitsPos hbits

end

theorem lists_used_first_iff (svs : List MarkedSv) (dop : Option Dop) :
    (∀ undefined, ∀ t ∈ constellations,
      ListsUsed (usedIds svs t) t (gsaOf (cacheSvs undefined svs) dop t)) ↔
    ∀ t ∈ constellations, (∀ id ∈ usedIds svs t, 1 ≤ id ∧ id ≤ 32) ∨
      0 ∉ usedIds svs t ∧ ∀ id, 1 ≤ id → id ≤ 12 → id ∈ usedIds svs t := by
  constructor
  · intro h t ht
    have hzero : 0 ∉ usedIds svs t := by
      intro hmem
      have hfirst := mem_take_of_lt (Finset.sortedLT_sort _) ((Finset.mem_sort _).2 hmem)
        (show 0 < 12 by omega)
      have := mem_bits_of_lists ht (h (fun _ => 0) t ht) hfirst
      omega
    by_cases hin : ∀ id ∈ usedIds svs t, id ≤ 32
    · refine Or.inl fun id hid => ⟨Nat.one_le_iff_ne_zero.2 fun h0 => hzero (h0 ▸ hid), hin id hid⟩
    · push Not at hin
      obtain ⟨id, hid, hout⟩ := hin
      exact Or.inr ⟨hzero, fun n hpos hle =>
        mem_used_of_lists ht (fun undefined => h undefined t ht) hid hout hpos hle⟩
  · intro h undefined t ht
    rcases h t ht with hids | ⟨hzero, hfirst⟩
    · refine (listsUsed_iff ht _ _).2 ?_
      have hbits := setBits_cacheSvs undefined ht hids
      rw [hbits, ← List.map_eq_nil_iff (f := (· + 1)), hbits, ← List.length_eq_zero_iff,
        Finset.length_sort, Finset.card_eq_zero]
      exact ⟨Iff.rfl, rfl⟩
    · exact lists_of_first ht hzero hfirst

theorem masks_cacheAfter {svs : List MarkedSv} {reports : List (Option Dop)} (h : reports ≠ []) :
    (cacheAfter undefined svs reports).masks = {} := by
  obtain ⟨reports, dop, rfl⟩ := (List.eq_nil_or_concat' reports).resolve_left h
  rw [cacheAfter, List.foldl_concat]
  rfl

/-- The sentences of any later report list the satellites used exactly if those of each
constellation are 1 to 32, or the first twelve are and fill the sentence; and for a
report after the first, if there are none. -/
theorem lists_used_iff (svs : List MarkedSv) (earlier : List (Option Dop)) (dop : Option Dop) :
    (∀ undefined, ∀ t ∈ constellations,
      ListsUsed (usedIds svs t) t (gsaOf (cacheAfter undefined svs earlier) dop t)) ↔
    ∀ t ∈ constellations, (earlier = [] ∨ usedIds svs t = ∅) ∧
      ((∀ id ∈ usedIds svs t, 1 ≤ id ∧ id ≤ 32) ∨
        0 ∉ usedIds svs t ∧ ∀ id, 1 ≤ id → id ≤ 12 → id ∈ usedIds svs t) := by
  by_cases hfirst : earlier = []
  · subst hfirst
    simp only [true_or, true_and]
    exact lists_used_first_iff svs dop
  · have hnothing : ∀ t, (UsedMasks.of {} t) = 0 := fun t => by cases t <;> rfl
    have hlater : ∀ undefined, ∀ t ∈ constellations,
        (ListsUsed (usedIds svs t) t (gsaOf (cacheAfter undefined svs earlier) dop t) ↔
          usedIds svs t = ∅) := by
      intro undefined t ht
      rw [listsUsed_iff ht, masks_cacheAfter hfirst, hnothing]
      constructor
      · intro h
        exact h.1.1 (by decide)
      · intro h
        rw [h, Finset.sort_empty]
        exact ⟨by decide, rfl⟩
    simp only [hfirst, false_or]
    constructor
    · intro h t ht
      have hnone := (hlater (fun _ => 0) t ht).1 (h (fun _ => 0) t ht)
      refine ⟨hnone, Or.inl fun id hid => ?_⟩
      rw [hnone] at hid
      exact absurd hid (Finset.notMem_empty id)
    · intro h undefined t ht
      exact (hlater undefined t ht).2 (h t ht).1

/-- QZSS 193, used in the fix. -/
def quasiZenith : MarkedSv where
  svId := 193
  type := .qzss
  cN0Dbhz := 40
  elevation := 60
  azimuth := 90
  gnssSvOptionsMask := usedInFixBit

/-- It is not listed, whatever the shift gives. -/
theorem not_lists_quasiZenith : ¬ ∃ undefined, ∀ t ∈ constellations,
    ListsUsed (usedIds [quasiZenith] t) t
      (gsaOf (cacheAfter undefined [quasiZenith] []) none t) := by
  intro h
  obtain ⟨undefined, h⟩ := h
  have hused : usedIds [quasiZenith] .qzss = {193} := by decide
  have hfirst : 193 ∈ (usedIds [quasiZenith] .qzss).sort.take 12 := by
    rw [hused, Finset.sort_singleton]
    decide
  have := mem_bits_of_lists (by decide) (h .qzss (by decide)) hfirst
  omega

end Axon7.Nmea
