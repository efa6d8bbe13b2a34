import Axon7.Nmea.Gsv

/-!
# Each satellite is told once

The satellites of a constellation, in the order of the list, are cut in groups of four; each
group is a sentence, which has its number, the number of sentences and the number of the
satellites. With the usual values a sentence has less than a hundred characters, so the buffer
never ends it early.
-/

namespace Axon7.Nmea

open Lib

/-- Values as they usually are: an angle above or below the horizon, an angle all around, and
a strength of two digits. -/
structure GnssSv.Usual (sv : GnssSv) : Prop where
  elevation : -90 ≤ sv.elevation ∧ sv.elevation ≤ 90
  azimuth : 0 ≤ sv.azimuth ∧ sv.azimuth ≤ 360
  cN0Dbhz : 0 ≤ sv.cN0Dbhz ∧ sv.cN0Dbhz ≤ 99

/-- What a sentence has of a satellite. -/
def gsvEntry (svMeta : SvMeta) (sv : GnssSv) : List Char :=
  gsvPlace svMeta sv ++ if 0 < sv.cN0Dbhz then gsvStrength sv else []

/-- A sentence before its checksum. -/
def gsvBody (svMeta : SvMeta) (sentenceCount sentenceNumber : Nat) (svs : List GnssSv) :
    List Char :=
  gsvHeader svMeta sentenceCount sentenceNumber ++ svs.flatMap (gsvEntry svMeta) ++
    if svMeta.svType = .qzss ∨ svMeta.svType = .beidou then gsvSystem svMeta else []

/-- The sentence of a group of satellites. -/
def gsvText (svMeta : SvMeta) (sentenceCount sentenceNumber : Nat) (svs : List GnssSv) :
    List Char :=
  let body := gsvBody svMeta sentenceCount sentenceNumber svs
  body ++ checksumText body

/-- The sentences tell each of the satellites once, in order and at most four in a sentence,
and are numbered from 1 to as many as it takes. -/
def TellEach (svMeta : SvMeta) (svs : List GnssSv) (sentences : List (List Char)) : Prop :=
  ∃ groups : List (List GnssSv),
    groups.flatten = svs ∧ (∀ group ∈ groups, group ≠ [] ∧ group.length ≤ 4) ∧
    groups.length = ⌈(svs.length : ℚ) / 4⌉ ∧
    sentences = groups.mapIdx fun j group => gsvText svMeta groups.length (j + 1) group

/-! ## No sentence is too long -/

/-- What `loc_nmea_sv_meta_init` gives, as far as lengths depend on it. -/
structure SvMeta.Short (svMeta : SvMeta) : Prop where
  talker : svMeta.talker.length = 2
  svIdOffset : svMeta.svIdOffset ≤ 64
  systemId : svMeta.systemId < 10
  svCount : svMeta.svCount ≤ gnssSvMax

section

variable {svMeta : SvMeta} {sv : GnssSv} {svs : List GnssSv}

theorem length_gsvPlace (hshort : svMeta.Short) (h : sv.Usual) :
    (gsvPlace svMeta sv).length ≤ 15 := by
  obtain ⟨helev, helev'⟩ := h.elevation
  obtain ⟨hazim, hazim'⟩ := h.azimuth
  have hid : (printInt 2 (sv.svId.toNat + svMeta.svIdOffset)).length ≤ 5 := by
    have := sv.svId.toNat_lt
    have := hshort.svIdOffset
    exact length_printInt_le (by decide) (by decide) (by omega) (by omega)
  have hE := truncate_bounds (x := 1 / 2 + sv.elevation) (a := -90) (b := 90) (by decide)
    (by decide) (by push_cast; linarith) (by push_cast; linarith)
  have hA := truncate_bounds (x := 1 / 2 + sv.azimuth) (a := 0) (b := 360) (by decide)
    (by decide) (by push_cast; linarith) (by push_cast; linarith)
  have hE' : (printInt 2 (truncate (1 / 2 + sv.elevation))).length ≤ 3 :=
    length_printInt_le (by decide) (by decide) (by omega) (by omega)
  have hA' : (printInt 3 (truncate (1 / 2 + sv.azimuth))).length ≤ 3 :=
    length_printInt_le (by decide) (by decide) (by omega) (by omega)
  simp only [gsvPlace, List.length_append, List.length_cons, List.length_nil]
  omega

theorem length_gsvStrength (h : sv.Usual) : (gsvStrength sv).length ≤ 2 := by
  obtain ⟨hpos, hle⟩ := h.cN0Dbhz
  have := truncate_bounds (x := 1 / 2 + sv.cN0Dbhz) (a := 0) (b := 99) (by decide)
    (by decide) (by push_cast; linarith) (by push_cast; linarith)
  exact length_printInt_le (by decide) (by decide) (by omega) (by omega)

theorem length_gsvEntry (hshort : svMeta.Short) (h : sv.Usual) :
    (gsvEntry svMeta sv).length ≤ 17 := by
  have hplace := length_gsvPlace hshort h
  have hstrength := length_gsvStrength h
  rw [gsvEntry, List.length_append]
  split
  · omega
  · rw [List.length_nil]
    omega

theorem length_entries (hshort : svMeta.Short) (h : ∀ sv ∈ svs, sv.Usual) :
    (svs.flatMap (gsvEntry svMeta)).length ≤ 17 * svs.length :=
  length_flatMap_le fun sv hsv => length_gsvEntry hshort (h sv hsv)

theorem length_printInt_nat {n : Nat} (width : Nat) (hwidth : width ≤ 2) (h : n < 100) :
    (printInt width n).length ≤ 2 :=
  length_printInt_le hwidth (by decide) (by omega) (by omega)

theorem length_gsvHeader (hshort : svMeta.Short) {sentenceCount sentenceNumber : Nat}
    (hcount : sentenceCount < 100) (hnumber : sentenceNumber < 100) :
    (gsvHeader svMeta sentenceCount sentenceNumber).length ≤ 15 := by
  have hsvs : svMeta.svCount < 100 := lt_of_le_of_lt hshort.svCount (by decide)
  have h1 := length_printInt_nat 0 (by decide) hcount
  have h2 := length_printInt_nat 0 (by decide) hnumber
  have h3 := length_printInt_nat 2 (by decide) hsvs
  simp only [gsvHeader, List.length_append, List.length_cons, List.length_nil, hshort.talker]
  omega

theorem length_gsvSystem (hshort : svMeta.Short) : (gsvSystem svMeta).length ≤ 4 := by
  have hid : (printInt 0 svMeta.systemId).length ≤ 1 :=
    length_printInt_le (by decide) (by decide) (by omega) (by have := hshort.systemId; omega)
  have hsignal : (printInt 0 0).length = 1 := by decide
  simp only [gsvSystem, List.length_append, List.length_cons]
  omega

theorem length_gsvBody (hshort : svMeta.Short) (h : ∀ sv ∈ svs, sv.Usual)
    (hfour : svs.length ≤ 4) {sentenceCount sentenceNumber : Nat} (hcount : sentenceCount < 100)
    (hnumber : sentenceNumber < 100) :
    (gsvBody svMeta sentenceCount sentenceNumber svs).length ≤ 87 := by
  have hheader := length_gsvHeader hshort hcount hnumber
  have hentries := length_entries hshort h
  have hsystem := length_gsvSystem hshort
  rw [gsvBody, List.length_append, List.length_append]
  split
  · omega
  · rw [List.length_nil]
    omega

theorem length_checksumText (sentence : List Char) : (checksumText sentence).length ≤ 5 := by
  have hdigits : ∀ sum : UInt8, (Nat.toDigits 16 sum.toNat).length ≤ 2 := fun sum =>
    (Nat.length_toDigits_le_iff (by decide) (by decide)).2 sum.toNat_lt
  have := hdigits ((sentence.drop 1).foldl (fun sum c => sum ^^^ UInt8.ofNat c.toNat) 0)
  simp only [checksumText, printHex, List.length_append, List.length_cons, List.length_nil,
    length_zeroFilled, List.length_map]
  omega

/-! ## The loops -/

theorem putSv_eq {sentence : List Char} (hshort : svMeta.Short) (h : sv.Usual)
    (hroom : sentence.length + 17 < sentenceMaxLength) :
    putSv sentenceMaxLength svMeta sentence sv = some (sentence ++ gsvEntry svMeta sv) := by
  have hplace := length_gsvPlace hshort h
  have hstrength := length_gsvStrength h
  rw [putSv, snprintf?_of_room (by omega), gsvEntry]
  change (if _ then _ else _) = _
  split
  · rw [snprintf?_of_room (by rw [List.length_append]; omega), List.append_assoc]
  · rw [List.append_nil]

theorem putSvs_spec (hshort : svMeta.Short) (h : ∀ sv ∈ svs, sv.Usual) {i : Nat} (hi : i ≤ 4)
    {sentence : List Char}
    (hroom : sentence.length + 17 * (4 - i) < sentenceMaxLength) :
    ∃ rest, rest <:+ svs ∧
      rest.filter (svMeta.svType = ·.type) =
        (svs.filter (svMeta.svType = ·.type)).drop (4 - i) ∧
      putSvs sentenceMaxLength svMeta i svs sentence =
        some (sentence ++ ((svs.filter (svMeta.svType = ·.type)).take (4 - i)).flatMap
          (gsvEntry svMeta), rest) := by
  induction svs generalizing i sentence with
  | nil => exact ⟨[], List.suffix_rfl, by simp, by simp [putSvs]⟩
  | cons sv svs ih =>
    obtain ⟨hsv, hsvs⟩ := List.forall_mem_cons.1 h
    rw [putSvs]
    by_cases hfull : i < 4
    · rw [if_pos hfull]
      by_cases htype : svMeta.svType = sv.type
      · have hentry := length_gsvEntry hshort hsv
        have hroom' : (sentence ++ gsvEntry svMeta sv).length + 17 * (4 - (i + 1)) <
            sentenceMaxLength := by
          rw [List.length_append]
          omega
        obtain ⟨rest, hsuffix, hdrop, hput⟩ := ih hsvs hfull hroom'
        have hleft : 4 - i = (4 - (i + 1)) + 1 := by omega
        refine ⟨rest, hsuffix.trans (List.suffix_cons _ _), ?_, ?_⟩
        · rw [List.filter_cons_of_pos (by simpa using htype), hleft, List.drop_succ_cons, hdrop]
        · rw [if_pos htype, putSv_eq hshort hsv (by omega)]
          change putSvs _ _ _ _ _ = _
          rw [hput, List.filter_cons_of_pos (by simpa using htype), hleft, List.take_succ_cons,
            List.flatMap_cons, List.append_assoc]
      · obtain ⟨rest, hsuffix, hdrop, hput⟩ := ih hsvs hi hroom
        refine ⟨rest, hsuffix.trans (List.suffix_cons _ _), ?_, ?_⟩
        · rw [hdrop, List.filter_cons_of_neg (by simpa using htype)]
        · rw [if_neg htype, hput, List.filter_cons_of_neg (by simpa using htype)]
    · have hnone : 4 - i = 0 := by omega
      refine ⟨sv :: svs, List.suffix_rfl, by rw [hnone, List.drop_zero], ?_⟩
      rw [if_neg hfull, hnone, List.take_zero, List.flatMap_nil, List.append_nil]

theorem gsvSentence_spec {sentenceCount sentenceNumber : Nat} (hshort : svMeta.Short)
    (h : ∀ sv ∈ svs, sv.Usual) (hcount : sentenceCount < 100) (hnumber : sentenceNumber < 100) :
    ∃ rest, rest <:+ svs ∧
      rest.filter (svMeta.svType = ·.type) = (svs.filter (svMeta.svType = ·.type)).drop 4 ∧
      gsvSentence sentenceMaxLength svMeta sentenceCount sentenceNumber svs =
        some (gsvText svMeta sentenceCount sentenceNumber
          ((svs.filter (svMeta.svType = ·.type)).take 4), rest) := by
  have hheader := length_gsvHeader hshort hcount hnumber
  have hmax : sentenceMaxLength = 200 := rfl
  obtain ⟨rest, hsuffix, hdrop, hput⟩ :=
    putSvs_spec hshort h (i := 0) (by decide)
      (lt_of_le_of_lt (add_le_add_left hheader _) (by decide))
  rw [Nat.sub_zero] at hdrop hput
  refine ⟨rest, hsuffix, hdrop, ?_⟩
  set next := (svs.filter (svMeta.svType = ·.type)).take 4
  have husual : ∀ sv ∈ next, sv.Usual := fun sv hsv =>
    h sv (List.mem_of_mem_filter (List.mem_of_mem_take hsv))
  have hlength := length_gsvBody hshort husual (List.length_take_le 4 _) hcount hnumber
  have hbody : (if svMeta.svType = .qzss ∨ svMeta.svType = .beidou then
        snprintf sentenceMaxLength (gsvHeader svMeta sentenceCount sentenceNumber ++
          next.flatMap (gsvEntry svMeta)) (gsvSystem svMeta)
      else gsvHeader svMeta sentenceCount sentenceNumber ++ next.flatMap (gsvEntry svMeta)) =
      gsvBody svMeta sentenceCount sentenceNumber next := by
    rw [gsvBody] at hlength ⊢
    split at hlength
    next hsystem =>
      rw [if_pos hsystem, if_pos hsystem]
      exact snprintf_of_room (by rw [← List.length_append]; omega)
    next hsystem => rw [if_neg hsystem, if_neg hsystem, List.append_nil]
  rw [gsvSentence, snprintf?_of_room (by rw [List.length_nil]; omega), List.nil_append]
  change (putSvs _ _ _ _ _).bind _ = _
  rw [hput, Option.bind_some]
  dsimp only
  rw [hbody, putChecksum, gsvText]
  have := length_checksumText (gsvBody svMeta sentenceCount sentenceNumber next)
  rw [snprintf_of_room (by omega)]

theorem gsvSentences_spec (hshort : svMeta.Short) (h : ∀ sv ∈ svs, sv.Usual)
    {sentenceCount left : Nat} (hcount : sentenceCount < 100) (sentenceNumber : Nat)
    (hnumber : sentenceNumber + left ≤ 100)
    (hleft : (svs.filter (svMeta.svType = ·.type)).length ≤ 4 * left)
    (hleft' : 4 * left < (svs.filter (svMeta.svType = ·.type)).length + 4) :
    ∃ groups : List (List GnssSv),
      groups.flatten = svs.filter (svMeta.svType = ·.type) ∧
      (∀ group ∈ groups, group ≠ [] ∧ group.length ≤ 4) ∧ groups.length = left ∧
      gsvSentences sentenceMaxLength svMeta sentenceCount left sentenceNumber svs =
        groups.mapIdx fun j group =>
          gsvText svMeta sentenceCount (sentenceNumber + j) group := by
  induction left generalizing sentenceNumber svs with
  | zero =>
    have hnone : svs.filter (svMeta.svType = ·.type) = [] := List.length_eq_zero_iff.1 (by omega)
    exact ⟨[], by rw [hnone, List.flatten_nil], by simp, rfl, rfl⟩
  | succ left ih =>
    obtain ⟨rest, hsuffix, hdrop, hsentence⟩ :=
      gsvSentence_spec hshort h hcount (show sentenceNumber < 100 by omega)
    have hlength := congrArg List.length hdrop
    rw [List.length_drop] at hlength
    have hrestUsual : ∀ sv ∈ rest, sv.Usual := fun sv hsv => h sv (hsuffix.subset hsv)
    obtain ⟨groups, hflat, hgroups, hlen, hrest⟩ :=
      ih hrestUsual (sentenceNumber + 1) (by omega) (by omega) (by omega)
    refine ⟨(svs.filter (svMeta.svType = ·.type)).take 4 :: groups, ?_, ?_, ?_, ?_⟩
    · rw [List.flatten_cons, hflat, hdrop, List.take_append_drop]
    · refine List.forall_mem_cons.2 ⟨⟨?_, List.length_take_le _ _⟩, hgroups⟩
      rw [← List.length_pos_iff, List.length_take]
      omega
    · rw [List.length_cons, hlen]
    · rw [gsvSentences, hsentence]
      dsimp only
      rw [hrest, List.mapIdx_cons]
      simp only [Nat.add_zero, Nat.add_assoc, Nat.add_comm 1]

end

/-! ## The counters -/

/-- The counter of a constellation. -/
def SvCacheInfo.of (info : SvCacheInfo) : GnssSvType → Nat
  | .gps => info.gpsCount
  | .glonass => info.gloCount
  | .galileo => info.galCount
  | .qzss => info.qzssCount
  | .beidou => info.bdsCount
  | _ => 0

variable {t : GnssSvType} {info : SvCacheInfo}

theorem SvCacheInfo.count_of (ht : t ∈ constellations) (info : SvCacheInfo) (sv : GnssSv) :
    (info.count sv).of t = info.of t + if t = sv.type then 1 else 0 := by
  obtain ⟨svId, type, cN0Dbhz, elevation, azimuth⟩ := sv
  cases t <;> first | exact absurd ht (by decide) | (cases type <;> rfl)

theorem SvCacheInfo.foldl_count_of (ht : t ∈ constellations) (info : SvCacheInfo)
    (svs : List GnssSv) :
    (svs.foldl SvCacheInfo.count info).of t =
      info.of t + (svs.filter (t = ·.type)).length := by
  induction svs generalizing info with
  | nil => rfl
  | cons sv svs ih =>
    rw [List.foldl_cons, ih, SvCacheInfo.count_of ht, List.filter_cons]
    by_cases htype : t = sv.type
    · simp only [htype, if_true, decide_true, List.length_cons]
      omega
    · simp only [htype, if_false, decide_false, Bool.false_eq_true, Nat.add_zero]

theorem svMetaInit_spec (ht : t ∈ constellations) (hmax : info.of t ≤ gnssSvMax) :
    ∃ svMeta, svMetaInit info t = some svMeta ∧ svMeta.svType = t ∧
      svMeta.svCount = info.of t ∧ svMeta.Short := by
  cases t <;> first
    | exact absurd ht (by decide)
    | exact ⟨_, rfl, rfl, rfl, rfl, by simp, by simp, hmax⟩

/-! ## The notification -/

theorem fours_eq_ceil {k n : Nat} (hle : k ≤ 4 * n) (hlt : 4 * n < k + 4) :
    (n : Int) = ⌈(k : ℚ) / 4⌉ := by
  symm
  rw [Int.ceil_eq_iff, lt_div_iff₀ (by norm_num), div_le_iff₀ (by norm_num), sub_mul,
    sub_lt_iff_lt_add]
  constructor
  · exact_mod_cast (by omega : n * 4 < k + 1 * 4)
  · exact_mod_cast (by omega : k ≤ n * 4)

theorem generateGSV_tells_each {svMeta : SvMeta} (svNotify : GnssSvNotification)
    (hshort : svMeta.Short) (h : ∀ sv ∈ svNotify.gnssSvs, sv.Usual)
    (hcount : svMeta.svCount = (svNotify.gnssSvs.filter (svMeta.svType = ·.type)).length)
    (hne : svNotify.gnssSvs.filter (svMeta.svType = ·.type) ≠ []) :
    TellEach svMeta (svNotify.gnssSvs.filter (svMeta.svType = ·.type))
      (generateGSV sentenceMaxLength svMeta svNotify) := by
  have hmax : svMeta.svCount ≤ 64 := hshort.svCount
  have hpos := List.length_pos_iff.2 hne
  rw [generateGSV, if_neg (by decide), if_neg (by omega)]
  dsimp only
  set sentenceCount := svMeta.svCount / 4 + if svMeta.svCount % 4 ≠ 0 then 1 else 0 with hfours
  have hle : svMeta.svCount ≤ 4 * sentenceCount := by
    rw [hfours]
    split <;> omega
  have hlt : 4 * sentenceCount < svMeta.svCount + 4 := by
    rw [hfours]
    split <;> omega
  obtain ⟨groups, hflat, hgroups, hlen, hsentences⟩ := gsvSentences_spec hshort h
    (show sentenceCount < 100 by omega) 1 (by omega) (hcount ▸ hle) (hcount ▸ hlt)
  refine ⟨groups, hflat, hgroups, ?_, ?_⟩
  · rw [hlen, ← hcount]
    exact fours_eq_ceil hle hlt
  · rw [hsentences, hlen]
    simp only [Nat.add_comm 1]

/-- Of each constellation the list has satellites of, `loc_nmea_generate_sv` writes sentences
that tell each of them once; of the others it writes that there are none. -/
theorem generateSv_tells_each (svNotify : GnssSvNotification)
    (h : ∀ sv ∈ svNotify.gnssSvs, sv.Usual) (nmeaArraystr : List (List Char)) :
    ∃ told : GnssSvType → List (List Char),
      generateSv svNotify nmeaArraystr = nmeaArraystr ++ constellations.flatMap told ∧
      ∀ t ∈ constellations, ∃ svMeta,
        svMetaInit (svNotify.gnssSvs.foldl SvCacheInfo.count {}) t = some svMeta ∧
        svMeta.svCount = (svNotify.gnssSvs.filter (t = ·.type)).length ∧
        if svNotify.gnssSvs.filter (t = ·.type) = [] then
          told t = [blankGsv sentenceMaxLength svMeta]
        else TellEach svMeta (svNotify.gnssSvs.filter (t = ·.type)) (told t) := by
  let info := svNotify.gnssSvs.foldl SvCacheInfo.count {}
  refine ⟨fun t => (svMetaInit info t).elim []
    fun svMeta => generateGSV sentenceMaxLength svMeta svNotify, rfl, ?_⟩
  intro t ht
  have hof : info.of t = (svNotify.gnssSvs.filter (t = ·.type)).length := by
    rw [SvCacheInfo.foldl_count_of ht]
    cases t <;> exact Nat.zero_add _
  have hmax : info.of t ≤ gnssSvMax :=
    hof.le.trans ((List.length_filter_le _ _).trans svNotify.count_le)
  obtain ⟨svMeta, hinit, htype, hcount, hshort⟩ := svMetaInit_spec ht hmax
  refine ⟨svMeta, hinit, hcount.trans hof, ?_⟩
  dsimp only
  rw [hinit, Option.elim_some]
  subst htype
  split
  next hnone =>
    rw [generateGSV, if_neg (by decide), if_pos (by rw [hcount, hof, hnone]; rfl)]
  next hne => exact generateGSV_tells_each svNotify hshort h (hcount.trans hof) hne

/-- Five satellites of GPS, with one of GLONASS and one of QZSS between them. -/
def mixedSky : GnssSvNotification where
  gnssSvs := [⟨3, .gps, 63 / 2, 40, 7⟩, ⟨1, .glonass, 20, -1 / 3, 359⟩, ⟨5, .gps, 0, 10, 90⟩,
    ⟨7, .gps, 41, 90, 0⟩, ⟨193, .qzss, 30, 55, 180⟩, ⟨9, .gps, 25, 33, 271⟩,
    ⟨11, .gps, 38, 12, 45⟩]
  count_le := by decide

theorem generateSv_tells_each_of_mixedSky :
    ∃ told : GnssSvType → List (List Char),
      generateSv mixedSky [] = [] ++ constellations.flatMap told ∧
      ∀ t ∈ constellations, ∃ svMeta,
        svMetaInit (mixedSky.gnssSvs.foldl SvCacheInfo.count {}) t = some svMeta ∧
        svMeta.svCount = (mixedSky.gnssSvs.filter (t = ·.type)).length ∧
        if mixedSky.gnssSvs.filter (t = ·.type) = [] then
          told t = [blankGsv sentenceMaxLength svMeta]
        else TellEach svMeta (mixedSky.gnssSvs.filter (t = ·.type)) (told t) :=
  generateSv_tells_each mixedSky (by
    simp only [mixedSky, List.forall_mem_cons, List.not_mem_nil, false_implies, implies_true,
      and_true]
    refine ⟨?_, ?_, ?_, ?_, ?_, ?_, ?_⟩ <;> constructor <;> norm_num) []

end Axon7.Nmea
