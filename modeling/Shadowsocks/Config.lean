import Mathlib.Data.List.Nodup
import Shadowsocks.Crypto
import Shadowsocks.Lib.Text

/-! # Modes and server users

What a server relays, and the users of a multi-user server.  A user's identity hash is always the
one of its key, so it is computed here and not stored.
-/

namespace Shadowsocks

open Shadowsocks.Lib

/-- The `Mode` of `shadowsocks::config`. -/
inductive Config.Mode where
  | tcpOnly
  | tcpAndUdp
  | udpOnly
deriving DecidableEq, Repr

namespace Config.Mode

def enableUdp : Mode → Bool
  | tcpOnly => false
  | tcpAndUdp => true
  | udpOnly => true

def enableTcp : Mode → Bool
  | tcpOnly => true
  | tcpAndUdp => true
  | udpOnly => false

/-- `fmt`. -/
def text : Mode → Text
  | tcpOnly => "tcp_only".toList
  | tcpAndUdp => "tcp_and_udp".toList
  | udpOnly => "udp_only".toList

/-- `from_str`. -/
def parse (s : Text) : Option Mode :=
  if s = "tcp_only".toList then some tcpOnly
  else if s = "tcp_and_udp".toList then some tcpAndUdp
  else if s = "udp_only".toList then some udpOnly
  else none

@[simp] theorem parse_text (mode : Mode) : parse mode.text = some mode := by
  cases mode <;> decide

end Config.Mode

variable {K : Type}

structure ServerUser where
  name : String
  key : Bytes
deriving DecidableEq, Repr

/-- The first 16 bytes of the key's hash. -/
def ServerUser.identityHash (crypto : CryptoSuite K) (user : ServerUser) : Bytes :=
  (crypto.hash user.key).take 16

/-- The users by identity hash. -/
structure ServerUserManager (crypto : CryptoSuite K) where
  users : List ServerUser
  nodup : (users.map (ServerUser.identityHash crypto)).Nodup

namespace ServerUserManager

variable {crypto : CryptoSuite K}

def new : ServerUserManager crypto :=
  { users := [], nodup := List.nodup_nil }

/-- `add_user`: a user takes the place of one with the same identity hash. -/
def addUser (m : ServerUserManager crypto) (user : ServerUser) : ServerUserManager crypto :=
  { users := user :: m.users.filter fun u => u.identityHash crypto ≠ user.identityHash crypto
    nodup := by
      rw [List.map_cons, List.nodup_cons]
      exact ⟨by simp, m.nodup.sublist (List.filter_sublist.map _)⟩ }

def getUserByHash (m : ServerUserManager crypto) (userHash : Bytes) : Option ServerUser :=
  m.users.find? fun u => u.identityHash crypto = userHash

/-- A user is found under its own identity hash. -/
theorem getUserByHash_of_mem {m : ServerUserManager crypto} {user : ServerUser}
    (h : user ∈ m.users) : m.getUserByHash (user.identityHash crypto) = some user := by
  obtain ⟨u, hu⟩ : ∃ u, m.getUserByHash (user.identityHash crypto) = some u :=
    Option.isSome_iff_exists.1 (List.find?_isSome.2 ⟨user, h, by simp⟩)
  have hmem := List.mem_of_find?_eq_some hu
  have hhash : u.identityHash crypto = user.identityHash crypto := by
    simpa using List.find?_some hu
  rw [hu, List.inj_on_of_nodup_map m.nodup hmem h hhash]

end ServerUserManager

end Shadowsocks
