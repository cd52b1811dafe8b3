import Shadowsocks.Acl.Spelling
import Shadowsocks.Lib.Transport
import Shadowsocks.Net.ServerAddr

/-! # DNS messages

Names, records and messages as the `hickory` crate has them.  What the crate makes of names and
messages is a `Hickory`.
-/

namespace Shadowsocks.Local.Dns

open Shadowsocks.Lib Shadowsocks.Net

/-! ## Names -/

abbrev Label := Bytes

/-- A name, by its labels from the first one to the one next to the root. -/
structure DnsName where
  isFqdn : Bool
  labels : List Label
deriving DecidableEq, Repr

/-- `u8::to_ascii_lowercase`. -/
def lowerByte (b : UInt8) : UInt8 := if 65 ≤ b ∧ b ≤ 90 then b + 32 else b

def lowerLabel (label : Label) : Label := label.map lowerByte

namespace DnsName

/-- `eq`, which does not tell capital from small letters. -/
def Same (n n' : DnsName) : Prop :=
  n.isFqdn = n'.isFqdn ∧ n.labels.map lowerLabel = n'.labels.map lowerLabel

instance (n n' : DnsName) : Decidable (Same n n') := inferInstanceAs (Decidable (_ ∧ _))

@[simp] theorem Same.refl (n : DnsName) : Same n n := ⟨rfl, rfl⟩

end DnsName

/-- `example.org.` -/
def exampleOrg : DnsName := ⟨true, [[101, 120, 97, 109, 112, 108, 101], [111, 114, 103]]⟩

/-! ## Records -/

inductive DnsClass where
  | internet
  | other (code : Nat)
deriving DecidableEq, Repr

inductive RecordType where
  | a
  | aaaa
  | any
  | cname
  | mx
  | ns
  | ptr
  | other (code : Nat)
deriving DecidableEq, Repr

inductive RData where
  | a (ip : BitVec 32)
  | aaaa (ip : BitVec 128)
  | cname (name : DnsName)
  | mx (preference : Nat) (exchange : DnsName)
  | ns (name : DnsName)
  | ptr (name : DnsName)
  | other (code : Nat) (data : Bytes)
deriving DecidableEq, Repr

def RData.recordType : RData → RecordType
  | a _ => .a
  | aaaa _ => .aaaa
  | cname _ => .cname
  | mx _ _ => .mx
  | ns _ => .ns
  | ptr _ => .ptr
  | other code _ => .other code

/-- A record; a record without data still has a type. -/
structure Record where
  name : DnsName
  recordType : RecordType
  dnsClass : DnsClass
  ttl : Nat
  data : Option RData
  typed : ∀ rdata, data = some rdata → rdata.recordType = recordType
deriving DecidableEq

/-- `Record::from_rdata`, in the class of the internet. -/
def Record.fromRdata (name : DnsName) (ttl : Nat) (rdata : RData) : Record where
  name := name
  recordType := rdata.recordType
  dnsClass := .internet
  ttl := ttl
  data := some rdata
  typed := fun _ h => congrArg RData.recordType (Option.some.inj h).symm

/-! ## Messages -/

structure Query where
  name : DnsName
  queryType : RecordType
  queryClass : DnsClass
deriving DecidableEq, Repr

inductive MessageType where
  | query
  | response
deriving DecidableEq, Repr

inductive OpCode where
  | query
  | other (code : Nat)
deriving DecidableEq, Repr

inductive ResponseCode where
  | noError
  | servFail
  | notImp
  | other (code : Nat)
deriving DecidableEq, Repr

structure Message where
  id : BitVec 16
  messageType : MessageType
  opCode : OpCode
  recursionDesired : Bool
  recursionAvailable : Bool
  responseCode : ResponseCode
  queries : List Query
  answers : List Record
  additionals : List Record
deriving DecidableEq

/-- `Message::new`. -/
def Message.new : Message where
  id := 0
  messageType := .query
  opCode := .query
  recursionDesired := false
  recursionAvailable := false
  responseCode := .noError
  queries := []
  answers := []
  additionals := []

/-- The message that asks for something, up to its id. -/
def Message.asking (query : Query) : Message :=
  { Message.new with recursionDesired := true, queries := [query] }

/-- What the `hickory` crate makes of names and messages. -/
class Hickory where
  /-- `Name::to_ascii`. -/
  toAscii : DnsName → String
  /-- `Name::from_str`. -/
  nameFromStr : Text → Option DnsName
  /-- `Name::from_utf8`. -/
  nameFromUtf8 : Text → Except IoError DnsName
  /-- `Message::to_vec`. -/
  toVec : Message → Except IoError Bytes
  /-- `Message::from_vec`. -/
  fromVec : Bytes → Except IoError Message

/-- What access control lists see of a name. -/
def DnsName.seen [Hickory] (name : DnsName) : Name := ⟨name.isFqdn, Hickory.toAscii name⟩

/-- Reads and writes names of ASCII letters. -/
@[reducible] def asciiHickory : Hickory where
  toAscii name := String.ofList (name.labels.flatMap fun label =>
    label.map (fun b => Char.ofNat b.toNat) ++ ['.'])
  nameFromStr s := some ⟨true, (s.splitOn '.').map utf8⟩
  nameFromUtf8 s := .ok ⟨true, (s.splitOn '.').map utf8⟩
  toVec _ := .ok []
  fromVec _ := .error (.other "unexpected end of input")

end Shadowsocks.Local.Dns
