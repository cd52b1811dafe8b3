import Shadowsocks.Local.Http.Uri
import Shadowsocks.Local.Socks4

/-! # Targets of the local front ends

The addresses that a local server takes from its clients, and whether they can be sent to a remote
server.  A domain name on the wire has one byte for its length.  SOCKS5 clients send it in the same
form, so their names always fit; SOCKS4a and HTTP clients name hosts of any length, and nothing
looks at it before the address is written (`target_written_iff`).
-/

namespace Shadowsocks.Local

open Shadowsocks.Lib Shadowsocks.Net

/-! ## Names that fit -/

/-- The bytes of a text in UTF-8. -/
def byteLen (s : String) : Nat := s.toUTF8.data.toList.length

theorem writeToBuf_name_iff (host : String) (port : Nat) :
    (Address.writeToBuf (.domainNameAddress host port)).isSome = true ↔ byteLen host ≤ 255 := by
  rw [Address.writeToBuf]
  by_cases h : byteLen host ≤ 255
  · simp only [if_pos (show host.toUTF8.data.toList.length ≤ 255 from h), Option.isSome_some, h]
  · simp only [if_neg (show ¬host.toUTF8.data.toList.length ≤ 255 from h), Option.isSome_none, h,
      Bool.false_eq_true]

theorem writeToBuf_socketAddress (saddr : SocketAddr) :
    (Address.writeToBuf (.socketAddress saddr)).isSome = true := by
  cases saddr <;> rfl

theorem toUTF8_of_fromUtf8 {bs : Bytes} {host : String} (h : fromUtf8 bs = some host) :
    host.toUTF8.data.toList = bs := by
  unfold fromUtf8 String.fromUTF8? at h
  split at h
  · cases h
    rfl
  · cases h

/-! ### SOCKS5 -/

/-- A name that is read has as many bytes as one byte can say. -/
theorem readFrom_written {bs rest : Bytes} {addr : Address}
    (h : Address.readFrom bs = (.ready addr, rest)) : addr.writeToBuf.isSome = true := by
  obtain ⟨addrType, _, haddrType, h⟩ := PollM.bind_eq_ready h
  dsimp only at h
  split at h
  · obtain ⟨buf, _, -, h⟩ := PollM.bind_eq_ready h
    cases h
    rfl
  · split at h
    · obtain ⟨buf, _, -, h⟩ := PollM.bind_eq_ready h
      cases h
      rfl
    · split at h
      · obtain ⟨lengthBuf, _, hlength, h⟩ := PollM.bind_eq_ready h
        obtain ⟨-, hone⟩ := Socks5.readBuf_eq_ready hlength
        obtain ⟨rawAddr, _, hraw, h⟩ := PollM.bind_eq_ready h
        cases hhost : fromUtf8 (rawAddr.take (fromBigEndian lengthBuf)) with
        | none =>
          rw [hhost] at h
          cases h
        | some host =>
          rw [hhost] at h
          cases h
          have hlt : fromBigEndian lengthBuf < 256 ^ lengthBuf.length := fromBigEndian_lt lengthBuf
          rw [hone] at hlt
          rw [writeToBuf_name_iff, byteLen, toUTF8_of_fromUtf8 hhost, List.length_take]
          omega
      · cases h

/-! ### SOCKS4 -/

namespace Socks4

/-- A name that is read ends at the first zero byte. -/
theorem readName_eq_ready {bs name rest : Bytes} (h : readName bs = (.ready name, rest)) :
    bs = name ++ ([0] ++ rest) ∧ 0 ∉ name := by
  by_cases hmem : (0 : UInt8) ∈ bs
  · obtain ⟨name', rest', rfl, hname'⟩ := List.eq_append_cons_of_mem hmem
    have hread := readName_append hname' rest'
    rw [List.singleton_append, h] at hread
    cases hread
    exact ⟨rfl, hname'⟩
  · -- no zero byte is read, so none can be the last
    exfalso
    obtain ⟨field, _, hfield, hended⟩ := PollM.bind_eq_ready h
    cases hfield
    split at hended
    · cases hended
    · next hlast =>
      rw [not_or, not_not] at hlast
      exact hmem ((List.take_subset _ bs) (List.mem_of_getLast? hlast.2))

/-- The request has the address of a SOCKS4a request. -/
def isSocks4a (bs : Bytes) : Bool := (bs.drop 4).take 3 = [0, 0, 0] ∧ bs.getD 7 0 ≠ 0

/-- What stands between the zero byte behind the user id and the next one. -/
def hostField (bs : Bytes) : Bytes :=
  (((bs.drop 8).dropWhile (· ≠ 0)).drop 1).takeWhile (· ≠ 0)

theorem hostField_eq {head userId host rest : Bytes} (hhead : head.length = 8)
    (huserId : 0 ∉ userId) (hhost : 0 ∉ host) :
    hostField (head ++ (userId ++ ([0] ++ (host ++ ([0] ++ rest))))) = host := by
  have hall : ∀ {bs : Bytes}, 0 ∉ bs → ∀ b ∈ bs, decide (b ≠ 0) = true := fun hbs b hb =>
    decide_eq_true fun hzero => hbs (hzero ▸ hb)
  rw [hostField, List.drop_left' hhead, List.dropWhile_append_of_pos (hall huserId),
    List.singleton_append, List.dropWhile_cons_of_neg (by decide), List.drop_one, List.tail_cons,
    List.takeWhile_append_of_pos (hall hhost), List.singleton_append,
    List.takeWhile_cons_of_neg (by decide), List.append_nil]

/-- What is read of a SOCKS4 request as its destination: an IPv4 address, or the host name of a
    SOCKS4a request. -/
theorem readFrom_dst {bs rest : Bytes} {req : HandshakeRequest}
    (h : HandshakeRequest.readFrom bs = (.ready req, rest)) :
    (isSocks4a bs = false ∧ ∃ saddr, req.dst = .socketAddress saddr) ∨
      (isSocks4a bs = true ∧ ∃ host port, req.dst = .domainNameAddress host port ∧
        host.toUTF8.data.toList = hostField bs) := by
  obtain ⟨buf, behind, hbuf, hversioned⟩ := PollM.bind_eq_ready h
  obtain ⟨rfl, hlength⟩ := readExact_eq_ready (PollM.mapErr_eq_ready hbuf)
  -- whether a name follows is decided within the first eight bytes
  have hmarked : isSocks4a (buf ++ behind) =
      decide ((buf.drop 4).take 3 = [0, 0, 0] ∧ (buf.drop 4).getD 3 0 ≠ 0) := by
    have haddress : ((buf ++ behind).drop 4).take 3 = (buf.drop 4).take 3 := by
      rw [List.drop_append_of_le_length (by omega),
        List.take_append_of_le_length (by rw [List.length_drop]; omega)]
    have hlast : (buf ++ behind).getD 7 0 = (buf.drop 4).getD 3 0 := by
      rw [List.getD_eq_getElem?_getD, List.getD_eq_getElem?_getD, List.getElem?_drop,
        List.getElem?_append_left (by omega)]
    rw [isSocks4a, haddress, hlast]
  dsimp only at hversioned
  split at hversioned
  · cases hversioned
  · cases hcommand : Command.fromU8 (buf.getD 1 0) with
    | none =>
      rw [hcommand] at hversioned
      cases hversioned
    | some command =>
      rw [hcommand] at hversioned
      obtain ⟨userId, behind', huserId, hnamed⟩ := PollM.bind_eq_ready hversioned
      obtain ⟨rfl, hid⟩ := readName_eq_ready huserId
      split at hnamed
      · next hsocks4a =>
        obtain ⟨field, rest', hfield, hend⟩ := PollM.bind_eq_ready hnamed
        obtain ⟨rfl, hname⟩ := readName_eq_ready hfield
        cases hhost : fromUtf8 field with
        | none =>
          rw [hhost] at hend
          cases hend
        | some host =>
          rw [hhost] at hend
          cases hend
          refine .inr ⟨hmarked.trans (decide_eq_true hsocks4a), host, _, rfl, ?_⟩
          rw [hostField_eq hlength hid hname]
          exact toUTF8_of_fromUtf8 hhost
      · next hother =>
        cases hnamed
        exact .inl ⟨hmarked.trans (decide_eq_false hother), _, rfl⟩

end Socks4

/-! ## Front ends -/

/-- What a client sends to one of the local servers. -/
inductive ClientInput where
  | socks5Request (bs : Bytes)
  | udpPacket (bs : Bytes)
  | socks4Request (bs : Bytes)
  | httpRequest (req : Http.Request)

/-- The address in what a reader has understood, if the server relays to it. -/
def readTarget {ε α : Type} (read : PollM Bytes ε α) (relays : α → Bool) (address : α → Address)
    (bs : Bytes) : Option Address :=
  match (read bs).1 with
  | .ready header => if relays header then some (address header) else none
  | _ => none

theorem readTarget_eq_some {ε α : Type} {read : PollM Bytes ε α} {relays : α → Bool}
    {address : α → Address} {bs : Bytes} {target : Address}
    (h : readTarget read relays address bs = some target) :
    ∃ header rest, read bs = (.ready header, rest) ∧ address header = target := by
  unfold readTarget at h
  split at h
  · next header hready =>
    split at h
    · exact ⟨header, (read bs).2, Prod.ext hready rfl, Option.some.inj h⟩
    · cases h
  · cases h

namespace ClientInput

theorem socks5_written {bs : Bytes} {header : Socks5.TcpRequestHeader} {rest : Bytes}
    (h : Socks5.TcpRequestHeader.readFrom bs = (.ready header, rest)) :
    header.address.writeToBuf.isSome = true := by
  obtain ⟨buf, _, -, hversioned⟩ := PollM.bind_eq_ready h
  dsimp only at hversioned
  split at hversioned
  · cases hversioned
  · cases hcommand : Socks5.Command.fromU8 (buf.getD 1 0) with
    | none =>
      rw [hcommand] at hversioned
      cases hversioned
    | some command =>
      rw [hcommand] at hversioned
      obtain ⟨address, _, haddress, hend⟩ := PollM.bind_eq_ready hversioned
      cases hend
      exact readFrom_written haddress

theorem udp_written {bs : Bytes} {header : Socks5.UdpAssociateHeader} {rest : Bytes}
    (h : Socks5.UdpAssociateHeader.readFrom bs = (.ready header, rest)) :
    header.address.writeToBuf.isSome = true := by
  obtain ⟨buf, _, -, hfront⟩ := PollM.bind_eq_ready h
  obtain ⟨address, _, haddress, hend⟩ := PollM.bind_eq_ready hfront
  cases hend
  exact readFrom_written haddress

theorem socks4_written_iff {bs : Bytes} {req : Socks4.HandshakeRequest} {rest : Bytes}
    (h : Socks4.HandshakeRequest.readFrom bs = (.ready req, rest)) :
    req.dst.writeToBuf.isSome = true ↔
      (Socks4.isSocks4a bs = true → (Socks4.hostField bs).length ≤ 255) := by
  obtain ⟨hmark, saddr, hdst⟩ | ⟨hmark, host, port, hdst, hfield⟩ := Socks4.readFrom_dst h
  · rw [hdst, hmark]
    exact iff_of_true (writeToBuf_socketAddress saddr) fun h => nomatch h
  · rw [hdst, hmark, writeToBuf_name_iff, byteLen, hfield]
    exact ⟨fun hfits _ => hfits, fun hfits => hfits rfl⟩

theorem authority_written_iff {schemeStr : Option String} {authority : Http.Authority}
    {target : Address} (h : Http.authorityAddr schemeStr authority = some target) :
    target.writeToBuf.isSome = true ↔ (authority.isBracketed = false →
      parseIpv4 authority.host.toList = none → byteLen authority.host ≤ 255) := by
  unfold Http.authorityAddr at h
  split at h
  · cases h
  · dsimp only at h
    split at h
    · next hbracketed =>
      obtain ⟨ip, -, rfl⟩ := Option.map_eq_some_iff.1 h
      rw [hbracketed]
      exact iff_of_true rfl fun h => nomatch h
    · next hbare =>
      rw [Bool.not_eq_true] at hbare
      rw [forall_prop_of_true hbare]
      cases hip : parseIpv4 authority.host.toList with
      | some ip =>
        rw [hip] at h
        cases h
        exact iff_of_true rfl fun h => nomatch h
      | none =>
        rw [hip] at h
        cases h
        rw [writeToBuf_name_iff, forall_prop_of_true rfl]

variable [Http.AuthorityParser]

/-- The target that the server goes on with. BIND is not supported, a UDP association has no
    target, and fragments are dropped. -/
def target : ClientInput → Option Address
  | socks5Request bs =>
    readTarget Socks5.TcpRequestHeader.readFrom (·.command = .tcpConnect) (·.address) bs
  | udpPacket bs => readTarget Socks5.UdpAssociateHeader.readFrom (·.frag = 0) (·.address) bs
  | socks4Request bs => readTarget Socks4.HandshakeRequest.readFrom (·.cd = .connect) (·.dst) bs
  | httpRequest req => (Http.serveConnection req).map Prod.fst

/-- No host is named in more than 255 bytes. -/
def NameFits : ClientInput → Prop
  | socks5Request _ | udpPacket _ => True
  | socks4Request bs => Socks4.isSocks4a bs = true → (Socks4.hostField bs).length ≤ 255
  | httpRequest req => ∀ authority, req.namedBy = some authority → authority.isBracketed = false →
      parseIpv4 authority.host.toList = none → byteLen authority.host ≤ 255

/-- **Targets.** The address that a front end takes from its client can be written exactly if no
    name in a SOCKS4a request or in the authority of an HTTP request is longer than 255 bytes. -/
theorem target_written_iff (input : ClientInput) {target : Address}
    (h : input.target = some target) : target.writeToBuf.isSome = true ↔ input.NameFits := by
  cases input with
  | socks5Request bs =>
    obtain ⟨header, rest, hread, rfl⟩ := readTarget_eq_some h
    exact iff_of_true (socks5_written hread) trivial
  | udpPacket bs =>
    obtain ⟨header, rest, hread, rfl⟩ := readTarget_eq_some h
    exact iff_of_true (udp_written hread) trivial
  | socks4Request bs =>
    obtain ⟨req, rest, hread, rfl⟩ := readTarget_eq_some h
    exact socks4_written_iff hread
  | httpRequest req =>
    obtain ⟨⟨host, uri⟩, hserve, rfl⟩ := Option.map_eq_some_iff.1 h
    obtain ⟨authority, hnamed, haddr⟩ := Http.serveConnection_namedBy hserve
    refine (authority_written_iff haddr).trans ⟨fun hfits authority' hnamed' => ?_, fun hfits => ?_⟩
    · obtain rfl := Option.some.inj (hnamed.symm.trans hnamed')
      exact hfits
    · exact hfits authority hnamed

end ClientInput

/-- Parses no `Host` header. -/
@[reducible] def noHeaders : Http.AuthorityParser where
  fromStr _ := none

/-- A request for port 80 of a host. -/
def requestFor (host : String) : Http.Request where
  uri := { schemeStr := none, authority := some { host := host, portU16 := some 80 } }
  hostHeader := none

theorem target_written_iff_example :
    (Address.domainNameAddress "example.org" 80).writeToBuf.isSome = true ↔
      @ClientInput.NameFits noHeaders (.httpRequest (requestFor "example.org")) :=
  @ClientInput.target_written_iff noHeaders (.httpRequest (requestFor "example.org")) _
    (by decide +kernel)

/-- A name of 256 bytes. -/
def longName : String := String.ofList (List.replicate 256 'a')

/-- A SOCKS4a request for port 80 of it. -/
def longRequest : Bytes := [4, 1, 0, 80, 0, 0, 0, 1, 0] ++ (List.replicate 256 97 ++ [0])

/-- SOCKS4a and HTTP clients can ask for a target whose name cannot be written. -/
theorem long_name_not_written :
    (Address.domainNameAddress longName 80).writeToBuf = none ∧
      @ClientInput.target noHeaders (.socks4Request longRequest) =
        some (.domainNameAddress longName 80) ∧
      @ClientInput.target noHeaders (.httpRequest (requestFor longName)) =
        some (.domainNameAddress longName 80) :=
  ⟨by decide +kernel, by decide +kernel, by decide +kernel⟩

end Shadowsocks.Local
