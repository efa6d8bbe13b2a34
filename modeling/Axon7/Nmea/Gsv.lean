import Axon7.Lib.Text
import Axon7.Lib.Bits

/-!
# Satellites in view

`loc_nmea_generate_sv` writes the satellites a notification reports as GSV sentences, one
constellation after the other. The list is mixed: `loc_nmea_generate_GSV` goes over it with
one cursor, puts up to four satellites of its constellation in a sentence and goes on in the
next sentence where it stopped.

The masks of the satellites used in the fix, which the sentences of a position report read,
are left out.
-/

namespace Axon7.Nmea

open Lib

/-- `GnssSvType`. -/
inductive GnssSvType
  | unknown
  | gps
  | sbas
  | glonass
  | qzss
  | beidou
  | galileo
  deriving DecidableEq

/-- `GnssSv`. The floats are the numbers they stand for. -/
structure GnssSv where
  svId : UInt16
  type : GnssSvType
  cN0Dbhz : ℚ
  elevation : ℚ
  azimuth : ℚ

/-- `GNSS_SV_MAX`. -/
def gnssSvMax : Nat := 64

/-- `GnssSvNotification`. -/
structure GnssSvNotification where
  gnssSvs : List GnssSv
  count_le : gnssSvs.length ≤ gnssSvMax

/-- `NMEA_SENTENCE_MAX_LENGTH`. -/
def sentenceMaxLength : Nat := 200

/-! ## What is told of a constellation -/

/-- The counters of `loc_sv_cache_info`. -/
structure SvCacheInfo where
  gpsCount : Nat := 0
  gloCount : Nat := 0
  galCount : Nat := 0
  qzssCount : Nat := 0
  bdsCount : Nat := 0

/-- The loop of `loc_nmea_generate_sv` for one satellite. -/
def SvCacheInfo.count (info : SvCacheInfo) (sv : GnssSv) : SvCacheInfo :=
  match sv.type with
  | .gps => { info with gpsCount := info.gpsCount + 1 }
  | .glonass => { info with gloCount := info.gloCount + 1 }
  | .galileo => { info with galCount := info.galCount + 1 }
  | .qzss => { info with qzssCount := info.qzssCount + 1 }
  | .beidou => { info with bdsCount := info.bdsCount + 1 }
  | _ => info

/-- `loc_nmea_sv_meta`. -/
structure SvMeta where
  talker : List Char
  svType : GnssSvType
  svCount : Nat
  svIdOffset : Nat := 0
  systemId : Nat

/-- `loc_nmea_sv_meta_init` with nothing to combine. -/
def svMetaInit (info : SvCacheInfo) (svType : GnssSvType) : Option SvMeta :=
  match svType with
  | .gps => some {
      talker := ['G', 'P'], svType, svCount := info.gpsCount, systemId := 1 }
  | .glonass => some {
      talker := ['G', 'L'], svType, svCount := info.gloCount, svIdOffset := 64, systemId := 2 }
  | .galileo => some {
      talker := ['G', 'A'], svType, svCount := info.galCount, systemId := 3 }
  | .qzss => some {
      talker := ['P', 'Q'], svType, svCount := info.qzssCount, systemId := 5 }
  | .beidou => some {
      talker := ['P', 'Q'], svType, svCount := info.bdsCount, systemId := 4 }
  | _ => none

/-! ## The parts of a sentence -/

/-- `"$%sGSV,%d,%d,%02d"`. -/
def gsvHeader (svMeta : SvMeta) (sentenceCount sentenceNumber : Nat) : List Char :=
  '$' :: svMeta.talker ++ ['G', 'S', 'V', ','] ++ printInt 0 sentenceCount ++
    ',' :: printInt 0 sentenceNumber ++ ',' :: printInt 2 svMeta.svCount

/-- `",%02d,%02d,%03d,"`. -/
def gsvPlace (svMeta : SvMeta) (sv : GnssSv) : List Char :=
  ',' :: printInt 2 (sv.svId.toNat + svMeta.svIdOffset) ++
    ',' :: printInt 2 (truncate (1 / 2 + sv.elevation)) ++
    ',' :: printInt 3 (truncate (1 / 2 + sv.azimuth)) ++ [',']

/-- `"%02d"` of the signal strength. -/
def gsvStrength (sv : GnssSv) : List Char :=
  printInt 2 (truncate (1 / 2 + sv.cN0Dbhz))

/-- `",%d,%d"`: the signal, which is always zero, and the system. -/
def gsvSystem (svMeta : SvMeta) : List Char :=
  ',' :: printInt 0 0 ++ ',' :: printInt 0 svMeta.systemId

/-- `"*%02X\r\n"` of the characters after the `$`. -/
def checksumText (sentence : List Char) : List Char :=
  let checksum := (sentence.drop 1).foldl (fun sum c => sum ^^^ UInt8.ofNat c.toNat) 0
  '*' :: printHex 2 checksum.toNat ++ ['\r', '\n']

/-- `loc_nmea_put_checksum`. -/
def putChecksum (sentence : List Char) (maxSize : Nat) : List Char :=
  snprintf maxSize sentence (checksumText sentence)

/-! ## The sentences of a constellation -/

section

variable (bufSize : Nat) (svMeta : SvMeta)

/-- What the inner loop of `loc_nmea_generate_GSV` writes of one satellite. -/
def putSv (sentence : List Char) (sv : GnssSv) : Option (List Char) := do
  let sentence ← snprintf? bufSize sentence (gsvPlace svMeta sv)
  if 0 < sv.cN0Dbhz then snprintf? bufSize sentence (gsvStrength sv) else some sentence

/-- The inner loop: the sentence, and the satellites the cursor has not passed. -/
def putSvs : Nat → List GnssSv → List Char → Option (List Char × List GnssSv)
  | _, [], sentence => some (sentence, [])
  | i, sv :: svs, sentence =>
    if i < 4 then
      if svMeta.svType = sv.type then do
        let sentence ← putSv bufSize svMeta sentence sv
        putSvs (i + 1) svs sentence
      else putSvs i svs sentence
    else some (sentence, sv :: svs)

/-- One turn of the outer loop. -/
def gsvSentence (sentenceCount sentenceNumber : Nat) (svs : List GnssSv) :
    Option (List Char × List GnssSv) := do
  let sentence ← snprintf? bufSize [] (gsvHeader svMeta sentenceCount sentenceNumber)
  let (sentence, rest) ← putSvs bufSize svMeta 0 svs sentence
  let sentence :=
    if svMeta.svType = .qzss ∨ svMeta.svType = .beidou then
      snprintf bufSize sentence (gsvSystem svMeta)
    else sentence
  some (putChecksum sentence bufSize, rest)

/-- The outer loop, with the sentences left to write. -/
def gsvSentences (sentenceCount : Nat) : Nat → Nat → List GnssSv → List (List Char)
  | 0, _, _ => []
  | left + 1, sentenceNumber, svs =>
    match gsvSentence bufSize svMeta sentenceCount sentenceNumber svs with
    | some (sentence, rest) =>
      sentence :: gsvSentences sentenceCount left (sentenceNumber + 1) rest
    | none => []

/-- `"$%sGSV,1,1,0,"`, which tells that no satellite is in view. -/
def blankGsv : List Char :=
  let text := '$' :: svMeta.talker ++ ['G', 'S', 'V', ',', '1', ',', '1', ',', '0', ',']
  putChecksum (snprintf bufSize [] text) bufSize

/-- `loc_nmea_generate_GSV`: what it adds to the sentences. -/
def generateGSV (svNotify : GnssSvNotification) : List (List Char) :=
  if bufSize = 0 then []
  else if svMeta.svCount = 0 then [blankGsv bufSize svMeta]
  else
    let sentenceCount := svMeta.svCount / 4 + if svMeta.svCount % 4 ≠ 0 then 1 else 0
    gsvSentences bufSize svMeta sentenceCount sentenceCount 1 svNotify.gnssSvs

end

/-- The constellations, in the order they are written. -/
def constellations : List GnssSvType := [.gps, .glonass, .galileo, .qzss, .beidou]

/-- `loc_nmea_generate_sv`. -/
def generateSv (svNotify : GnssSvNotification) (nmeaArraystr : List (List Char)) :
    List (List Char) :=
  let info := svNotify.gnssSvs.foldl SvCacheInfo.count {}
  nmeaArraystr ++ (constellations.filterMap (svMetaInit info)).flatMap fun svMeta =>
    generateGSV sentenceMaxLength svMeta svNotify

end Axon7.Nmea

/-!
# Satellites used in the fix

`loc_nmea_generate_sv` keeps a mask of the satellites used in the fix for each constellation;
the position report that follows writes a GSA sentence of each, which lists them.

The other sentences of a position report, and the blank ones of a report without a fix, are
left out.
-/

namespace Axon7.Nmea

open Lib

/-- `GnssSv`, with `gnssSvOptionsMask`. -/
structure MarkedSv extends GnssSv where
  gnssSvOptionsMask : BitVec 16

/-- `GNSS_SV_OPTIONS_USED_IN_FIX_BIT`. -/
def usedInFixBit : BitVec 16 := 1 <<< 2

/-! ## The masks -/

/-- The masks of `loc_sv_cache_info`. -/
structure UsedMasks where
  gpsUsedMask : BitVec 32 := 0
  gloUsedMask : BitVec 32 := 0
  galUsedMask : BitVec 32 := 0
  qzssUsedMask : BitVec 32 := 0
  bdsUsedMask : BitVec 32 := 0

/-- `loc_sv_cache_info`. -/
structure SvCache where
  counts : SvCacheInfo := {}
  masks : UsedMasks := {}

/-- The mask of a satellite that is used is put in that of its constellation. -/
def UsedMasks.mark (undefined : ℤ → BitVec 32) (masks : UsedMasks) (sv : MarkedSv) : UsedMasks :=
  if sv.gnssSvOptionsMask &&& usedInFixBit = usedInFixBit then
    let bit := shiftOne undefined (sv.svId.toNat - 1)
    match sv.type with
    | .gps => { masks with gpsUsedMask := masks.gpsUsedMask ||| bit }
    | .glonass => { masks with gloUsedMask := masks.gloUsedMask ||| bit }
    | .galileo => { masks with galUsedMask := masks.galUsedMask ||| bit }
    | .qzss => { masks with qzssUsedMask := masks.qzssUsedMask ||| bit }
    | .beidou => { masks with bdsUsedMask := masks.bdsUsedMask ||| bit }
    | _ => masks
  else masks

/-- The loop of `loc_nmea_generate_sv`, which begins with nothing. -/
def cacheSvs (undefined : ℤ → BitVec 32) (gnssSvs : List MarkedSv) : SvCache :=
  gnssSvs.foldl (fun cache sv =>
    { counts := cache.counts.count sv.toGnssSv, masks := cache.masks.mark undefined sv }) {}

/-- The mask of a constellation. -/
def UsedMasks.of (masks : UsedMasks) : GnssSvType → BitVec 32
  | .gps => masks.gpsUsedMask
  | .glonass => masks.gloUsedMask
  | .galileo => masks.galUsedMask
  | .qzss => masks.qzssUsedMask
  | .beidou => masks.bdsUsedMask
  | _ => 0

/-- `loc_nmea_sv_meta`, with the mask. -/
structure GsaMeta extends SvMeta where
  mask : BitVec 32

/-- `loc_nmea_sv_meta_init`. Satellites of several constellations are told by `GN`. -/
def gsaMetaInit (cache : SvCache) (svType : GnssSvType) (needCombine : Bool) : Option GsaMeta := do
  let svMeta ← svMetaInit cache.counts svType
  let combined := constellations.countP fun t => cache.masks.of t ≠ 0
  some {
    svMeta with
    talker := if needCombine ∧ 1 < combined then ['G', 'N'] else svMeta.talker
    mask := cache.masks.of svType }

/-! ## The sentence -/

/-- `pdop`, `hdop` and `vdop` of `GpsLocationExtended`. -/
structure Dop where
  pdop : ℚ
  hdop : ℚ
  vdop : ℚ
  fits : |pdop| < 2 ^ 128 ∧ |hdop| < 2 ^ 128 ∧ |vdop| < 2 ^ 128

/-- `"$%sGSA,A,%c,"`. -/
def gsaHeader (talker : List Char) (fixType : Char) : List Char :=
  '$' :: talker ++ ['G', 'S', 'A', ',', 'A', ',', fixType, ',']

/-- `"%02d,"`, or `","` at a place with no satellite. -/
def gsaPlace : Option ℕ → List Char
  | some id => printInt 2 id ++ [',']
  | none => [',']

/-- `"%.1f,%.1f,%.1f,"`, or `",,,"` without them. -/
def gsaDop : Option Dop → List Char
  | some dop =>
    printTenths dop.pdop ++ ',' :: printTenths dop.hdop ++ ',' :: printTenths dop.vdop ++ [',']
  | none => [',', ',', ',']

/-- `svUsedList`. -/
def svUsedList (gsaMeta : GsaMeta) : List ℕ :=
  (scanBits 32 1 gsaMeta.mask).map (· + gsaMeta.svIdOffset)

/-- `1` without a satellite, `2` with up to three, else `3`. -/
def fixType (svUsedCount : ℕ) : Char :=
  if svUsedCount = 0 then '1' else if svUsedCount ≤ 3 then '2' else '3'

/-- The sentence, with the first twelve satellites. -/
def gsaSentence (bufSize : ℕ) (gsaMeta : GsaMeta) (svUsedList : List ℕ) (dop : Option Dop) :
    Option (List Char) := do
  let sentence ← snprintf? bufSize [] (gsaHeader gsaMeta.talker (fixType svUsedList.length))
  let sentence ← (List.range 12).foldlM
    (fun sentence i => snprintf? bufSize sentence (gsaPlace svUsedList[i]?)) sentence
  let sentence := snprintf bufSize sentence (gsaDop dop)
  let sentence := snprintf bufSize sentence (printInt 0 gsaMeta.systemId)
  some (putChecksum sentence bufSize)

/-- `loc_nmea_generate_GSA`: the number of satellites used, and what it adds to the sentences. -/
def generateGSA (bufSize : ℕ) (gsaMeta : Option GsaMeta) (dop : Option Dop) :
    ℕ × List (List Char) :=
  match gsaMeta with
  | none => (0, [])
  | some gsaMeta =>
    let svUsedList := svUsedList gsaMeta
    if bufSize = 0 ∨ svUsedList.length = 0 ∧ gsaMeta.svType ≠ .gps then (0, [])
    else
      match gsaSentence bufSize gsaMeta svUsedList dop with
      | some sentence => (svUsedList.length, [sentence])
      | none => (0, [])

/-- What `loc_nmea_generate_pos` writes of a constellation. -/
def gsaOf (cache : SvCache) (dop : Option Dop) (svType : GnssSvType) : List (List Char) :=
  let needCombine := svType ≠ .qzss ∧ svType ≠ .beidou
  (generateGSA sentenceMaxLength (gsaMetaInit cache svType needCombine) dop).2

/-- `loc_nmea_generate_pos`, of which the GSA sentences are kept. The masks are cleared so that
they are not used again. -/
def generatePos (cache : SvCache) (dop : Option Dop) (nmeaArraystr : List (List Char)) :
    SvCache × List (List Char) :=
  ({ cache with masks := {} }, nmeaArraystr ++ constellations.flatMap (gsaOf cache dop))

/-- The cache when reports have followed the list. -/
def cacheAfter (undefined : ℤ → BitVec 32) (svs : List MarkedSv) (reports : List (Option Dop)) :
    SvCache :=
  reports.foldl (fun cache dop => (generatePos cache dop []).1) (cacheSvs undefined svs)

end Axon7.Nmea
