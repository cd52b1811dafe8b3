import Mathlib.Data.List.Basic

/-! # Addresses

IP and socket addresses of the standard library and the relay's own `Address`.
Ports, flow labels and scope ids are `u16`s and `u32`s that nothing computes with.
-/

namespace Shadowsocks.Net

inductive IpAddr where
  | v4 (ip : BitVec 32)
  | v6 (ip : BitVec 128)
deriving DecidableEq, Repr

/-- `Ipv4Addr::to_ipv6_mapped`. -/
def toIpv6Mapped (ip : BitVec 32) : BitVec 128 :=
  0xffff00000000#128 ||| ip.setWidth 128

/-- `Ipv6Addr::to_ipv4_mapped`. -/
def toIpv4Mapped (ip : BitVec 128) : Option (BitVec 32) :=
  if ip >>> 32 = 0xffff#128 then some (ip.setWidth 32) else none

theorem toIpv4Mapped_toIpv6Mapped (ip : BitVec 32) :
    toIpv4Mapped (toIpv6Mapped ip) = some ip := by
  have hhigh : toIpv6Mapped ip >>> 32 = 0xffff#128 := by
    unfold toIpv6Mapped
    rw [BitVec.ushiftRight_or_distrib]
    have hlow : ip.setWidth 128 >>> 32 = 0#128 := by
      apply BitVec.eq_of_toNat_eq
      have := ip.isLt
      simp [Nat.shiftRight_eq_div_pow]
      omega
    rw [hlow]
    decide
  have hlow : (toIpv6Mapped ip).setWidth 32 = ip := by
    unfold toIpv6Mapped
    rw [BitVec.setWidth_or, BitVec.setWidth_setWidth_of_le _ (by decide), BitVec.setWidth_eq]
    have hzero : (0xffff00000000#128).setWidth 32 = 0#32 := by decide
    rw [hzero, BitVec.zero_or]
  simp only [toIpv4Mapped, hhigh, hlow, if_true]

inductive AddrFamily where
  | ipv4
  | ipv6
deriving DecidableEq, Repr

/-- The other family. -/
def AddrFamily.other : AddrFamily → AddrFamily
  | .ipv4 => .ipv6
  | .ipv6 => .ipv4

inductive SocketAddr where
  | v4 (ip : BitVec 32) (port : Nat)
  | v6 (ip : BitVec 128) (port flowinfo scopeId : Nat)
deriving DecidableEq, Repr

namespace SocketAddr

def ip : SocketAddr → IpAddr
  | v4 ip _ => .v4 ip
  | v6 ip _ _ _ => .v6 ip

def isV4 : SocketAddr → Bool
  | v4 _ _ => true
  | v6 _ _ _ _ => false

end SocketAddr

/-- `Address`: where a request is to go. -/
inductive Address where
  | socketAddress (addr : SocketAddr)
  | domainNameAddress (host : String) (port : Nat)
deriving DecidableEq, Repr

end Shadowsocks.Net
