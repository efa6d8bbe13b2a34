import Axon7.Status.History
import Axon7.Status.Masks

/-!
# Sentences with too few fields

A parser that finds too few fields says so to no one: the record it leaves is taken into a
report as any other, so that a malformed sentence is told as a change of state. The report
lists are spared by the checks made before, on the size and the talker, or if the last
report happens to be the same.
-/

namespace Axon7.Status

/-! ## Reports -/

/-- `SystemStatusXoState`. -/
structure XoState where
  xoState : UInt8
deriving DecidableEq

/-- `SystemStatusRfAndParams`. -/
structure RfAndParams (p : Platform) where
  pgaGain : Int32
  gpsBpAmpI : UInt32
  gpsBpAmpQ : UInt32
  adcI : UInt32
  adcQ : UInt32
  jammerGps : UInt32
  jammerGlo : UInt32
  jammerBds : UInt32
  jammerGal : UInt32
  agcGps : p.Double
  agcGlo : p.Double
  agcBds : p.Double
  agcGal : p.Double

/-- `SystemStatusBestPosition`. -/
structure BestPosition (p : Platform) where
  valid : Bool
  position : PQWP2 p

section Reports

variable {p : Platform}

/-- `SystemStatusXoState(nmea)`. -/
def xoState (nmea : PQWM1 p) : XoState := ⟨nmea.xoState⟩

/-- `SystemStatusRfAndParams::equals`. -/
def RfAndParams.equals (a b : RfAndParams p) : Bool :=
  a.pgaGain == b.pgaGain && a.gpsBpAmpI == b.gpsBpAmpI && a.gpsBpAmpQ == b.gpsBpAmpQ &&
    a.adcI == b.adcI && a.adcQ == b.adcQ && a.jammerGps == b.jammerGps &&
    a.jammerGlo == b.jammerGlo && a.jammerBds == b.jammerBds && a.jammerGal == b.jammerGal &&
    p.eqDouble a.agcGps b.agcGps && p.eqDouble a.agcGlo b.agcGlo &&
    p.eqDouble a.agcBds b.agcBds && p.eqDouble a.agcGal b.agcGal

/-- `SystemStatusInjectedPosition::equals`. -/
def PQWP1.equals (a b : PQWP1 p) : Bool :=
  a.epiValidity == b.epiValidity && p.eqFloat a.epiLat b.epiLat && p.eqFloat a.epiLon b.epiLon &&
    p.eqFloat a.epiAlt b.epiAlt && p.eqFloat a.epiHepe b.epiHepe &&
    p.eqFloat a.epiAltUnc b.epiAltUnc && a.epiSrc == b.epiSrc

/-- `SystemStatusBestPosition::equals`, which does not look at `mValid`. -/
def BestPosition.equals (a b : BestPosition p) : Bool :=
  p.eqFloat a.position.bestLat b.position.bestLat &&
    p.eqFloat a.position.bestLon b.position.bestLon &&
    p.eqFloat a.position.bestAlt b.position.bestAlt &&
    p.eqFloat a.position.bestHepe b.position.bestHepe &&
    p.eqFloat a.position.bestAltUnc b.position.bestAltUnc

end Reports

/-! ## The call -/

/-- The sentences `setNmeaString` knows. -/
inductive Kind where
  | m1 | p1 | p2 | p3 | p4 | p5 | p6 | p7 | s1
deriving DecidableEq

/-- The last characters of the tag. -/
def Kind.tag : Kind → List Char
  | .m1 => ['M', '1']
  | .p1 => ['P', '1']
  | .p2 => ['P', '2']
  | .p3 => ['P', '3']
  | .p4 => ['P', '4']
  | .p5 => ['P', '5']
  | .p6 => ['P', '6']
  | .p7 => ['P', '7']
  | .s1 => ['S', '1']

/-- The fields the parser asks for. -/
def Kind.size : Kind → Nat
  | .m1 => 23
  | .p1 => 9
  | .p2 => 7
  | .p3 => 13
  | .p4 => 7
  | .p5 => 17
  | .p6 => 3
  | .p7 => 2 + svAllNum * 3
  | .s1 => 4

section Call

variable {p : Platform}

end Call

end Axon7.Status
