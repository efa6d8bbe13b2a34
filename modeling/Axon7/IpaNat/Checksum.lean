import Axon7.IpaNat.Tables
import Axon7.Lib.Bits

/-!
# The checksum differences

The driver stores with a rule by how much the checksums of a packet change when
its private address, and its private port, are replaced by the public ones. It
adds up the halves of the public address and the complements of those of the
private one, with the carry folded after each addition: a one's complement sum.
-/

namespace Axon7.IpaNat

open Axon7.Lib

/-! ## Halves and complements -/

/-- The two halves of an address, as the words of a packet. -/
def halves (ip : UInt32) : List Nat := [ip.toNat / 2 ^ 16, ip.toNat % 2 ^ 16]

theorem halves_lt {ip : UInt32} : ∀ x ∈ halves ip, x < 2 ^ 16 := by
  have := ip.toNat_lt
  simp only [halves, List.forall_mem_cons, List.not_mem_nil, false_implies, implies_true,
    and_true]
  omega

theorem toNat_lsb (x : UInt32) : (x &&& 0xFFFF).toNat = x.toNat % 2 ^ 16 := by
  rw [UInt32.toNat_and]
  exact Nat.and_two_pow_sub_one_eq_mod x.toNat 16

theorem toNat_msb (x : UInt32) : (x >>> 16).toNat = x.toNat / 2 ^ 16 := by
  rw [UInt32.toNat_shiftRight]
  exact Nat.shiftRight_eq_div_pow x.toNat 16

theorem toNat_lsb_not (x : UInt32) :
    (~~~x &&& 0xFFFF).toNat = 2 ^ 16 - 1 - x.toNat % 2 ^ 16 := by
  have := x.toNat_lt
  rw [toNat_lsb, UInt32.toNat_not]
  simp only [UInt32.size]
  omega

theorem toNat_msb_not (x : UInt32) :
    (~~~x >>> 16).toNat = 2 ^ 16 - 1 - x.toNat / 2 ^ 16 := by
  have := x.toNat_lt
  rw [toNat_msb, UInt32.toNat_not]
  simp only [UInt32.size]
  omega

theorem toNat_not_port (x : UInt16) : (~~~x).toUInt32.toNat = 2 ^ 16 - 1 - x.toNat := by
  rw [UInt16.toNat_toUInt32, UInt16.toNat_not]
  simp only [UInt16.size]
  omega

/-! ## The additions -/

theorem toNat_cksumAdd {cksum x : UInt32} (hc : cksum.toNat < 2 ^ 16)
    (hx : x.toNat < 2 ^ 16) :
    (cksumAdd cksum x).toNat = onesAdd 16 cksum.toNat x.toNat := by
  have hsum : (cksum + x).toNat = cksum.toNat + x.toNat := by
    rw [UInt32.toNat_add, Nat.mod_eq_of_lt (by omega)]
  have hcarry : (cksum + x) >>> 16 ≠ 0 ↔ 2 ^ 16 ≤ cksum.toNat + x.toNat := by
    rw [Ne, ← UInt32.toNat_inj, toNat_msb, hsum]
    show ¬(cksum.toNat + x.toNat) / 2 ^ 16 = 0 ↔ _
    omega
  unfold cksumAdd onesAdd
  by_cases h : 2 ^ 16 ≤ cksum.toNat + x.toNat
  · rw [if_pos h]
    simp only [if_pos (hcarry.mpr h)]
    rw [UInt32.toNat_add, toNat_lsb, hsum]
    show ((cksum.toNat + x.toNat) % 2 ^ 16 + 1) % 2 ^ 32 = _
    omega
  · rw [if_neg h]
    simp only [if_neg (mt hcarry.mp h)]
    exact hsum

theorem toNat_foldl_cksumAdd {xs : List UInt32} (hxs : ∀ x ∈ xs.map (·.toNat), x < 2 ^ 16)
    {cksum : UInt32} (hc : cksum.toNat < 2 ^ 16) :
    (xs.foldl cksumAdd cksum).toNat =
      (xs.map (·.toNat)).foldl (onesAdd 16) cksum.toNat := by
  induction xs generalizing cksum with
  | nil => rfl
  | cons x xs ih =>
    rw [List.map_cons, List.forall_mem_cons] at hxs
    have hadd := toNat_cksumAdd hc hxs.1
    rw [List.foldl_cons, List.map_cons, List.foldl_cons, ← hadd]
    exact ih hxs.2 (hadd ▸ onesAdd_lt hc hxs.1)

theorem toNat_foldl_toUInt16 {x : UInt32} {xs : List UInt32}
    (h : ∀ y ∈ (x :: xs).map (·.toNat), y < 2 ^ 16) :
    (xs.foldl cksumAdd x).toUInt16.toNat = onesSum 16 ((x :: xs).map (·.toNat)) := by
  have hlt := onesSum_lt h
  rw [List.map_cons] at h hlt ⊢
  rw [List.forall_mem_cons] at h
  rw [onesSum_cons h.1, ← toNat_foldl_cksumAdd h.2 h.1] at hlt ⊢
  rw [UInt32.toNat_toUInt16, Nat.mod_eq_of_lt hlt]

/-- What the difference of the IP checksums is the sum of. -/
def ipCksumWords (pubIpAddr privIpAddr : UInt32) : List Nat :=
  [pubIpAddr.toNat % 2 ^ 16, pubIpAddr.toNat / 2 ^ 16,
    2 ^ 16 - 1 - privIpAddr.toNat % 2 ^ 16, 2 ^ 16 - 1 - privIpAddr.toNat / 2 ^ 16]

/-- And that of the TCP and UDP checksums. -/
def tcpUdpCksumWords (pubIpAddr : UInt32) (pubPort : UInt16) (privIpAddr : UInt32)
    (privPort : UInt16) : List Nat :=
  [pubIpAddr.toNat % 2 ^ 16, pubIpAddr.toNat / 2 ^ 16, pubPort.toNat,
    2 ^ 16 - 1 - privIpAddr.toNat % 2 ^ 16, 2 ^ 16 - 1 - privIpAddr.toNat / 2 ^ 16,
    2 ^ 16 - 1 - privPort.toNat]

section Words

variable {pubIpAddr privIpAddr : UInt32} {pubPort privPort : UInt16}

theorem ipCksumWords_lt : ∀ x ∈ ipCksumWords pubIpAddr privIpAddr, x < 2 ^ 16 := by
  have := pubIpAddr.toNat_lt
  simp only [ipCksumWords, List.forall_mem_cons, List.not_mem_nil, false_implies,
    implies_true, and_true]
  omega

theorem tcpUdpCksumWords_lt :
    ∀ x ∈ tcpUdpCksumWords pubIpAddr pubPort privIpAddr privPort, x < 2 ^ 16 := by
  have := pubIpAddr.toNat_lt
  have := pubPort.toNat_lt
  simp only [tcpUdpCksumWords, List.forall_mem_cons, List.not_mem_nil, false_implies,
    implies_true, and_true]
  omega

theorem toNat_ipaNatiCalcIpCksum :
    (ipaNatiCalcIpCksum pubIpAddr privIpAddr).toNat =
      onesSum 16 (ipCksumWords pubIpAddr privIpAddr) := by
  have hmap : [pubIpAddr &&& 0xFFFF, pubIpAddr >>> 16, ~~~privIpAddr &&& 0xFFFF,
      ~~~privIpAddr >>> 16].map (·.toNat) = ipCksumWords pubIpAddr privIpAddr := by
    simp only [List.map_cons, List.map_nil]
    rw [toNat_lsb_not, toNat_msb_not, toNat_lsb, toNat_msb, ipCksumWords]
  have hlt := hmap ▸ ipCksumWords_lt
  rw [← hmap, ipaNatiCalcIpCksum, ← toNat_foldl_toUInt16 hlt]
  rfl

theorem toNat_ipaNatiCalcTcpUdpCksum :
    (ipaNatiCalcTcpUdpCksum pubIpAddr pubPort privIpAddr privPort).toNat =
      onesSum 16 (tcpUdpCksumWords pubIpAddr pubPort privIpAddr privPort) := by
  have hmap : [pubIpAddr &&& 0xFFFF, pubIpAddr >>> 16, pubPort.toUInt32,
      ~~~privIpAddr &&& 0xFFFF, ~~~privIpAddr >>> 16, (~~~privPort).toUInt32].map (·.toNat) =
        tcpUdpCksumWords pubIpAddr pubPort privIpAddr privPort := by
    simp only [List.map_cons, List.map_nil]
    rw [toNat_lsb_not, toNat_msb_not, toNat_lsb, toNat_msb, toNat_not_port,
      UInt16.toNat_toUInt32, tcpUdpCksumWords]
  have hlt := hmap ▸ tcpUdpCksumWords_lt
  rw [← hmap, ipaNatiCalcTcpUdpCksum, ← toNat_foldl_toUInt16 hlt]
  rfl

end Words

/-! ## What they are -/

variable (pubIpAddr privIpAddr : UInt32) (pubPort privPort : UInt16)

theorem ipaNatiCalcIpCksum_modEq :
    ((ipaNatiCalcIpCksum pubIpAddr privIpAddr).toNat : Int) ≡
      (halves pubIpAddr).sum - (halves privIpAddr).sum [ZMOD 2 ^ 16 - 1] := by
  have := privIpAddr.toNat_lt
  rw [toNat_ipaNatiCalcIpCksum]
  refine (onesSum_modEq ipCksumWords_lt).trans (Int.modEq_iff_dvd.mpr ⟨-2, ?_⟩)
  simp only [ipCksumWords, halves, List.sum_cons, List.sum_nil]
  omega

theorem ipaNatiCalcTcpUdpCksum_modEq :
    ((ipaNatiCalcTcpUdpCksum pubIpAddr pubPort privIpAddr privPort).toNat : Int) ≡
      ((halves pubIpAddr).sum + pubPort.toNat) -
        ((halves privIpAddr).sum + privPort.toNat) [ZMOD 2 ^ 16 - 1] := by
  have := privIpAddr.toNat_lt
  have := privPort.toNat_lt
  rw [toNat_ipaNatiCalcTcpUdpCksum]
  refine (onesSum_modEq tcpUdpCksumWords_lt).trans (Int.modEq_iff_dvd.mpr ⟨-3, ?_⟩)
  simp only [tcpUdpCksumWords, halves, List.sum_cons, List.sum_nil]
  omega

/-! ## What they do to a packet -/

/-- The words that a checksum is the sum of, but for the source address and port:
those of a header, with the version in it, or those of a pseudo header, with the
protocol in it, and of what follows. The checksum itself counts as 0. -/
structure Summed where
  before : List UInt16
  between : List UInt16
  after : List UInt16
  nonzero : ∃ x ∈ before ++ between ++ after, x ≠ 0

namespace Summed

/-- The words with an address in their midst. -/
def ipWords (p : Summed) (ip : UInt32) : List Nat :=
  p.before.map (·.toNat) ++ halves ip ++ (p.between ++ p.after).map (·.toNat)

/-- The words with an address and a port in their midst. -/
def tcpUdpWords (p : Summed) (ip : UInt32) (port : UInt16) : List Nat :=
  p.before.map (·.toNat) ++ halves ip ++ p.between.map (·.toNat) ++
    port.toNat :: p.after.map (·.toNat)

variable (p : Summed) (ip : UInt32) (port : UInt16)

theorem map_toNat_lt (l : List UInt16) : ∀ x ∈ l.map (·.toNat), x < 2 ^ 16 := by
  intro x hx
  obtain ⟨y, -, rfl⟩ := List.mem_map.mp hx
  exact y.toNat_lt

theorem ipWords_lt : ∀ x ∈ p.ipWords ip, x < 2 ^ 16 := by
  simp only [ipWords, List.forall_mem_append]
  exact ⟨⟨map_toNat_lt _, halves_lt⟩, map_toNat_lt _⟩

theorem tcpUdpWords_lt : ∀ x ∈ p.tcpUdpWords ip port, x < 2 ^ 16 := by
  simp only [tcpUdpWords, List.forall_mem_append, List.forall_mem_cons]
  exact ⟨⟨⟨map_toNat_lt _, halves_lt⟩, map_toNat_lt _⟩, port.toNat_lt, map_toNat_lt _⟩

theorem ipWords_nonzero : ∃ x ∈ p.ipWords ip, x ≠ 0 := by
  obtain ⟨x, hx, hne⟩ := p.nonzero
  refine ⟨x.toNat, ?_, fun h => hne (UInt16.toNat_inj.mp h)⟩
  have hmem := List.mem_map_of_mem (f := (·.toNat)) hx
  simp only [List.map_append, List.mem_append] at hmem
  simp only [ipWords, List.map_append, List.mem_append]
  rcases hmem with (hmem | hmem) | hmem
  · exact .inl (.inl hmem)
  · exact .inr (.inl hmem)
  · exact .inr (.inr hmem)

theorem tcpUdpWords_nonzero : ∃ x ∈ p.tcpUdpWords ip port, x ≠ 0 := by
  obtain ⟨x, hx, hne⟩ := p.nonzero
  refine ⟨x.toNat, ?_, fun h => hne (UInt16.toNat_inj.mp h)⟩
  have hmem := List.mem_map_of_mem (f := (·.toNat)) hx
  simp only [List.map_append, List.mem_append] at hmem
  simp only [tcpUdpWords, List.mem_append]
  rcases hmem with (hmem | hmem) | hmem
  · exact .inl (.inl (.inl hmem))
  · exact .inl (.inr hmem)
  · exact .inr (List.mem_cons_of_mem _ hmem)

end Summed

/-- The differences of the checksums are right: they are the public address, and port,
less the private ones, and added to what a packet sums up to with the private ones
they give what it sums up to with the public ones. -/
theorem cksum_right :
    ((ipaNatiCalcIpCksum pubIpAddr privIpAddr).toNat : Int) ≡
        (halves pubIpAddr).sum - (halves privIpAddr).sum [ZMOD 65535] ∧
      ((ipaNatiCalcTcpUdpCksum pubIpAddr pubPort privIpAddr privPort).toNat : Int) ≡
        ((halves pubIpAddr).sum + pubPort.toNat) -
          ((halves privIpAddr).sum + privPort.toNat) [ZMOD 65535] ∧
      ∀ p : Summed,
        onesAdd 16 (onesSum 16 (p.ipWords privIpAddr))
            (ipaNatiCalcIpCksum pubIpAddr privIpAddr).toNat =
          onesSum 16 (p.ipWords pubIpAddr) ∧
        onesAdd 16 (onesSum 16 (p.tcpUdpWords privIpAddr privPort))
            (ipaNatiCalcTcpUdpCksum pubIpAddr pubPort privIpAddr privPort).toNat =
          onesSum 16 (p.tcpUdpWords pubIpAddr pubPort) := by
  refine ⟨ipaNatiCalcIpCksum_modEq .., ipaNatiCalcTcpUdpCksum_modEq .., fun p => ⟨?_, ?_⟩⟩
  · have hdiff : ((p.ipWords pubIpAddr).sum - (p.ipWords privIpAddr).sum : Int) =
        (halves pubIpAddr).sum - (halves privIpAddr).sum := by
      simp only [Summed.ipWords, List.sum_append]
      push_cast
      ring
    exact onesAdd_onesSum (p.ipWords_lt _) (p.ipWords_lt _) (UInt16.toNat_lt _)
      (hdiff ▸ ipaNatiCalcIpCksum_modEq ..) (p.ipWords_nonzero _) (p.ipWords_nonzero _)
  · have hdiff : ((p.tcpUdpWords pubIpAddr pubPort).sum -
          (p.tcpUdpWords privIpAddr privPort).sum : Int) =
        ((halves pubIpAddr).sum + pubPort.toNat) -
          ((halves privIpAddr).sum + privPort.toNat) := by
      simp only [Summed.tcpUdpWords, List.sum_append, List.sum_cons]
      push_cast
      ring
    exact onesAdd_onesSum (p.tcpUdpWords_lt _ _) (p.tcpUdpWords_lt _ _) (UInt16.toNat_lt _)
      (hdiff ▸ ipaNatiCalcTcpUdpCksum_modEq ..) (p.tcpUdpWords_nonzero _ _)
      (p.tcpUdpWords_nonzero _ _)

end Axon7.IpaNat
