import Shadowsocks.Local.SocksServer
import Shadowsocks.Net.Socks5RoundTrip

/-! # SOCKS4 requests

A SOCKS4 request names its destination by an IPv4 address; SOCKS4a sends the address 0.0.0.x, with
x not zero, and a host name behind the user id.  A request for one of these addresses is therefore
read as one for a host name, and every other request is read back as it was written
(`round_trip_iff`).
-/

namespace Shadowsocks.Local.Socks4

open Shadowsocks.Lib Shadowsocks.Net

def Command.asU8 : Command → UInt8
  | connect => 1
  | bind => 2

/-- The addresses of SOCKS4. -/
inductive Destination where
  | socketAddress (ip : BitVec 32) (port : Nat)
  | domainNameAddress (host : String) (port : Nat)
deriving DecidableEq, Repr

namespace Destination

def port : Destination → Nat
  | socketAddress _ port => port
  | domainNameAddress _ port => port

/-- `From<Address> for socks5::Address`. -/
def toSocks5 : Destination → Address
  | socketAddress ip port => .socketAddress (.v4 ip port)
  | domainNameAddress host port => .domainNameAddress host port

end Destination

/-- `PLACEHOLDER`: 0.0.0.x, with x not zero. -/
def placeholder : Bytes := [0, 0, 0, 0xff]

def writeToBuf (cd : Command) (dst : Destination) (userId : Bytes) : Bytes :=
  socks4Version :: cd.asU8 ::
    match dst with
    | .socketAddress ip port => bigEndian 2 port ++ (bigEndian 4 ip.toNat ++ (userId ++ [0]))
    | .domainNameAddress host port =>
      bigEndian 2 port ++ (placeholder ++ (userId ++ ([0] ++
        (host.toUTF8.data.toList ++ [0]))))

def serializedLen (dst : Destination) (userId : Bytes) : Nat :=
  1 + 1 + 2 + 4 + userId.length + 1 +
    match dst with
    | .socketAddress _ _ => 0
    | .domainNameAddress host _ => host.toUTF8.data.toList.length + 1

/-! ### Reading back -/

theorem fromU8_asU8 (cd : Command) : Command.fromU8 cd.asU8 = some cd := by
  cases cd <;> rfl

theorem readUntil_append {ε : Type} {bs : Bytes} (h : 0 ∉ bs) (rest : Bytes) :
    (readUntil 0 : PollM Bytes ε Bytes) (bs ++ ([0] ++ rest)) = (.ready (bs ++ [0]), rest) := by
  have hbs : ∀ b ∈ bs, decide (b ≠ 0) = true := fun b hb =>
    decide_eq_true fun hzero => h (hzero ▸ hb)
  have htake : (bs ++ ([0] ++ rest)).takeWhile (· ≠ 0) = bs := by
    rw [List.takeWhile_append_of_pos hbs, List.singleton_append,
      List.takeWhile_cons_of_neg (by decide), List.append_nil]
  have hlength : (bs ++ [0]).length = bs.length + 1 := by simp
  rw [readUntil, htake, ← List.append_assoc, List.take_left' hlength, List.drop_left' hlength]

theorem readName_append {bs : Bytes} (h : 0 ∉ bs) (rest : Bytes) :
    readName (bs ++ ([0] ++ rest)) = (.ready bs, rest) := by
  have hname : ¬(bs ++ [0] = [] ∨ (bs ++ [0]).getLast? ≠ some 0) := by simp
  rw [readName, PollM.bind_ready (readUntil_append h rest), if_neg hname, List.dropLast_concat]
  rfl

theorem readName_bind {α : Type} {bs : Bytes} (h : 0 ∉ bs) (rest : Bytes)
    (f : Bytes → PollM Bytes Error α) :
    (readName >>= f) (bs ++ ([0] ++ rest)) = f bs rest :=
  PollM.bind_ready (readName_append h rest) f

/-- What is read of the address and what follows the user id. -/
def readDst (cd : Command) (ip : Bytes) (port : Nat) (userId : Bytes) :
    PollM Bytes Error HandshakeRequest :=
  if ip.take 3 = [0, 0, 0] ∧ ip.getD 3 0 ≠ 0 then
    readName >>= fun host =>
      match fromUtf8 host with
      | some host => pure { cd, dst := .domainNameAddress host port, userId }
      | none => PollM.fail .addressHostInvalidEncoding
  else pure { cd, dst := .socketAddress (.v4 (BitVec.ofNat 32 (fromBigEndian ip)) port), userId }

/-- What is read of a request's first eight bytes and its user id. -/
theorem readFrom_head (cd : Command) {port : Nat} (hport : port < 2 ^ 16) {ip : Bytes}
    (hip : ip.length = 4) {userId : Bytes} (hid : 0 ∉ userId) (rest : Bytes) :
    HandshakeRequest.readFrom (socks4Version :: cd.asU8 ::
        (bigEndian 2 port ++ (ip ++ (userId ++ ([0] ++ rest))))) =
      readDst cd ip port userId rest := by
  have hbuf : (socks4Version :: cd.asU8 :: (bigEndian 2 port ++ ip)).length = 8 := by simp [hip]
  have hsplit : socks4Version :: cd.asU8 ::
      (bigEndian 2 port ++ (ip ++ (userId ++ ([0] ++ rest)))) =
        (socks4Version :: cd.asU8 :: (bigEndian 2 port ++ ip)) ++
          (userId ++ ([0] ++ rest)) := by simp
  have hport' : fromBigEndian (bigEndian 2 port) = port := fromBigEndian_bigEndian_of_lt hport
  have hversion : ¬socks4Version ≠ socks4Version := not_not.2 rfl
  rw [hsplit, HandshakeRequest.readFrom, readExact_bind hbuf]
  simp only [List.getD_cons_zero, List.getD_cons_succ, if_neg hversion, fromU8_asU8,
    List.drop_succ_cons, List.drop_zero, List.take_left' (bigEndian_length 2 port),
    List.drop_left' (bigEndian_length 2 port), hport']
  exact readName_bind hid rest _

/-! ### Round trip -/

/-- The destination's text has no zero byte in it. -/
def NulFree : Destination → Prop
  | .socketAddress _ _ => True
  | .domainNameAddress host _ => 0 ∉ host.toUTF8.data.toList

/-- The destination is one of the addresses that stand for a host name: 0.0.0.x, x not zero. -/
def IsMarked : Destination → Prop
  | .socketAddress ip _ => ip ≠ 0#32 ∧ ip.toNat < 256
  | .domainNameAddress _ _ => False

theorem ofNat_eq_zero_iff (n : Nat) : UInt8.ofNat n = 0 ↔ n % 256 = 0 := by
  rw [← UInt8.toNat_inj, UInt8.toNat_ofNat']
  rfl

theorem marked_iff (ip : BitVec 32) :
    ((bigEndian 4 ip.toNat).take 3 = [0, 0, 0] ∧ (bigEndian 4 ip.toNat).getD 3 0 ≠ 0) ↔
      ip ≠ 0#32 ∧ ip.toNat < 256 := by
  have hlt : ip.toNat < 2 ^ 32 := ip.isLt
  have hzero : ip ≠ 0#32 ↔ ip.toNat ≠ 0 := not_congr BitVec.toNat_inj.symm
  have hbytes : bigEndian 4 ip.toNat = [UInt8.ofNat (ip.toNat / 256 ^ 3),
      UInt8.ofNat (ip.toNat / 256 ^ 2), UInt8.ofNat (ip.toNat / 256 ^ 1),
      UInt8.ofNat (ip.toNat / 256 ^ 0)] := rfl
  rw [hbytes, hzero]
  simp only [List.take_succ_cons, List.take_zero, List.getD_cons_succ, List.getD_cons_zero,
    List.cons.injEq, and_true, ne_eq, ofNat_eq_zero_iff]
  omega

theorem serializedLen_eq (cd : Command) (dst : Destination) (userId : Bytes) :
    serializedLen dst userId = (writeToBuf cd dst userId).length := by
  cases dst with
  | socketAddress ip port =>
    simp only [serializedLen, writeToBuf, List.length_cons, List.length_append, bigEndian_length,
      List.length_nil]
    omega
  | domainNameAddress host port =>
    simp only [serializedLen, writeToBuf, List.length_cons, List.length_append, bigEndian_length,
      List.length_nil, placeholder]
    omega

theorem readDst_marked {cd : Command} {ip : Bytes} {port : Nat} {userId bs rest : Bytes}
    {req : HandshakeRequest} (hip : ip.take 3 = [0, 0, 0] ∧ ip.getD 3 0 ≠ 0)
    (h : readDst cd ip port userId bs = (.ready req, rest)) :
    ∃ host, req.dst = .domainNameAddress host port := by
  rw [readDst, if_pos hip] at h
  obtain ⟨field, bs', -, h⟩ := PollM.bind_eq_ready h
  cases hhost : fromUtf8 field with
  | some host =>
    rw [hhost] at h
    cases h
    exact ⟨host, rfl⟩
  | none =>
    rw [hhost] at h
    cases h

/-- **SOCKS4 requests.** A request is read back as it was written, up to its end and no further,
    unless it is for one of the addresses that stand for a host name; its length is exact. -/
theorem round_trip_iff (cd : Command) (dst : Destination) (userId : Bytes)
    (hport : dst.port < 2 ^ 16) (hid : 0 ∉ userId) (hdst : NulFree dst) (rest : Bytes) :
    (HandshakeRequest.readFrom (writeToBuf cd dst userId ++ rest) =
        (.ready { cd, dst := dst.toSocks5, userId }, rest) ↔ ¬IsMarked dst) ∧
      serializedLen dst userId = (writeToBuf cd dst userId).length := by
  refine ⟨?_, serializedLen_eq cd dst userId⟩
  cases dst with
  | socketAddress ip port =>
    have hport : port < 2 ^ 16 := hport
    have hwrite : writeToBuf cd (.socketAddress ip port) userId ++ rest =
        socks4Version :: cd.asU8 ::
          (bigEndian 2 port ++ (bigEndian 4 ip.toNat ++ (userId ++ ([0] ++ rest)))) := by
      simp [writeToBuf]
    rw [hwrite, readFrom_head cd hport (bigEndian_length 4 _) hid rest]
    constructor
    · intro h hmarked
      obtain ⟨host, hhost⟩ := readDst_marked ((marked_iff ip).2 hmarked) h
      cases hhost
    · intro hmarked
      have hip : BitVec.ofNat 32 (fromBigEndian (bigEndian 4 ip.toNat)) = ip := by
        rw [fromBigEndian_bigEndian_of_lt ip.isLt, BitVec.ofNat_toNat, BitVec.setWidth_eq]
      rw [readDst, if_neg (fun h => hmarked ((marked_iff ip).1 h)), hip]
      rfl
  | domainNameAddress host port =>
    have hport : port < 2 ^ 16 := hport
    have hwrite : writeToBuf cd (.domainNameAddress host port) userId ++ rest =
        socks4Version :: cd.asU8 :: (bigEndian 2 port ++ (placeholder ++
          (userId ++ ([0] ++ (host.toUTF8.data.toList ++ ([0] ++ rest)))))) := by
      simp [writeToBuf]
    -- the placeholder is the mark that a name follows
    have hplaceholder : placeholder.take 3 = [0, 0, 0] ∧ placeholder.getD 3 0 ≠ 0 := by decide
    rw [hwrite, readFrom_head cd hport rfl hid, readDst, if_pos hplaceholder, readName_bind hdst,
      Address.fromUtf8_toUTF8]
    exact ⟨fun _ hmarked => hmarked, fun _ => rfl⟩

theorem round_trip_iff_sample :
    (HandshakeRequest.readFrom
        (writeToBuf .connect (.domainNameAddress "example.com" 80) [109, 101] ++ [1, 2]) =
          (.ready
            { cd := .connect, dst := Destination.toSocks5 (.domainNameAddress "example.com" 80),
              userId := [109, 101] }, [1, 2]) ↔
      ¬IsMarked (.domainNameAddress "example.com" 80)) ∧
      serializedLen (.domainNameAddress "example.com" 80) [109, 101] =
        (writeToBuf .connect (.domainNameAddress "example.com" 80) [109, 101]).length := by
  have hdst : NulFree (.domainNameAddress "example.com" 80) := by
    have hnul : (0 : UInt8) ∉ "example.com".toUTF8.data.toList := by decide +kernel
    exact hnul
  exact round_trip_iff .connect (.domainNameAddress "example.com" 80) [109, 101] (by decide)
    (by decide) hdst [1, 2]

/-- A request for 0.0.0.1 is taken for one for a host name, which does not follow. -/
theorem marked_not_read_back :
    HandshakeRequest.readFrom (writeToBuf .connect (.socketAddress 1 80) []) ≠
      (.ready { cd := .connect, dst := Destination.toSocks5 (.socketAddress 1 80), userId := [] },
        []) := by
  decide +kernel

end Shadowsocks.Local.Socks4
