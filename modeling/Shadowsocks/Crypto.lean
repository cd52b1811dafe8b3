import Shadowsocks.Lib.Aead

/-! # Cipher methods and the cryptographic primitives

The methods of the `shadowsocks-crypto` crate as the relay code tells them
apart, and the primitives it takes from that crate, from `blake3` and from
`aes`.  None of those crates is part of the repository, so a `CryptoSuite` is a
parameter of everything below.
-/

namespace Shadowsocks

open Shadowsocks.Lib

/-- A cipher method.  The relay code never tells two stream ciphers or two v1
    AEAD ciphers apart, so these carry only a number. -/
inductive CipherKind where
  | none
  | stream (id : Nat)
  | aead (id : Nat)
  | aead2022Blake3Aes128Gcm
  | aead2022Blake3Aes256Gcm
  | aead2022Blake3Chacha20Poly1305
  | aead2022Blake3Chacha8Poly1305
deriving DecidableEq, Repr

inductive CipherCategory where
  | none
  | stream
  | aead
  | aead2022
deriving DecidableEq, Repr

namespace CipherKind

def category : CipherKind → CipherCategory
  | .none => .none
  | .stream _ => .stream
  | .aead _ => .aead
  | .aead2022Blake3Aes128Gcm => .aead2022
  | .aead2022Blake3Aes256Gcm => .aead2022
  | .aead2022Blake3Chacha20Poly1305 => .aead2022
  | .aead2022Blake3Chacha8Poly1305 => .aead2022

def isAead2022 (method : CipherKind) : Bool :=
  method.category = .aead2022

end CipherKind

/-- `method_support_eih`: the methods with extensible identity headers. -/
def methodSupportEih : CipherKind → Bool
  | .aead2022Blake3Aes128Gcm => true
  | .aead2022Blake3Aes256Gcm => true
  | _ => false

/-- The primitives, with their sizes.  `sessionKey` is the key schedule of
    `Cipher::new` and `TcpCipher::new`, `udpKey` the one of `UdpCipher::new`,
    `deriveKey` is `blake3::derive_key` in the identity header's context, and the
    block functions are AES in the key size of their first argument. -/
structure CryptoSuite (K : Type) where
  saltLen : CipherKind → Nat
  nonceLen : CipherKind → Nat
  scheme : CipherKind → AeadScheme K
  sessionKey : CipherKind → (key salt : Bytes) → K
  udpScheme : CipherKind → AeadScheme K
  udpKey : CipherKind → (key : Bytes) → (sessionId : Nat) → K
  deriveKey : Bytes → Bytes
  hash : Bytes → Bytes
  encryptBlock : (key block : Bytes) → Bytes
  decryptBlock : (key block : Bytes) → Bytes
  udpScheme_tagLen : ∀ method, (udpScheme method).tagLen = (scheme method).tagLen
  /-- The ChaCha ciphers use the key directly. -/
  udpKey_chacha20 : ∀ key sessionId sessionId',
    udpKey .aead2022Blake3Chacha20Poly1305 key sessionId =
      udpKey .aead2022Blake3Chacha20Poly1305 key sessionId'
  udpKey_chacha8 : ∀ key sessionId sessionId',
    udpKey .aead2022Blake3Chacha8Poly1305 key sessionId =
      udpKey .aead2022Blake3Chacha8Poly1305 key sessionId'
  hash_length : ∀ bs, (hash bs).length = 32
  encryptBlock_length : ∀ key block, (encryptBlock key block).length = 16
  decryptBlock_length : ∀ key block, block.length = 16 → (decryptBlock key block).length = 16

namespace CryptoSuite

variable {K : Type}

def tagLen (crypto : CryptoSuite K) (method : CipherKind) : Nat :=
  (crypto.scheme method).tagLen

/-- A fresh session cipher, before its first packet. -/
def cipher (crypto : CryptoSuite K) (method : CipherKind) (key salt : Bytes) : Cipher K :=
  { key := crypto.sessionKey method key salt, nonce := 0 }

/-- AES decryption inverts AES encryption. -/
def BlockCorrect (crypto : CryptoSuite K) : Prop :=
  ∀ key block, block.length = 16 → crypto.decryptBlock key (crypto.encryptBlock key block) = block

/-- A suite without secrecy, in the sizes of the AES-128 methods. -/
def transparent : CryptoSuite (Bytes × Bytes) where
  saltLen _ := 16
  nonceLen _ := 24
  scheme _ := .transparent (fun k n => (UInt8.ofNat n :: k.1 ++ List.replicate 16 0).take 16) 16
    (by decide) (by simp)
  sessionKey _ key salt := (key, salt)
  udpScheme _ := .transparent (fun k n => (UInt8.ofNat n :: k.1 ++ List.replicate 16 0).take 16) 16
    (by decide) (by simp)
  udpKey method key sessionId :=
    match method with
    | .aead2022Blake3Aes128Gcm => (key, bigEndian 8 sessionId)
    | .aead2022Blake3Aes256Gcm => (key, bigEndian 8 sessionId)
    | _ => (key, [])
  deriveKey material := (material ++ List.replicate 32 0).take 32
  hash bs := (bs ++ List.replicate 32 0).take 32
  encryptBlock _ block := (block ++ List.replicate 16 0).take 16
  decryptBlock _ block := block
  udpScheme_tagLen _ := rfl
  udpKey_chacha20 _ _ _ := rfl
  udpKey_chacha8 _ _ _ := rfl
  hash_length bs := by simp
  encryptBlock_length key block := by simp
  decryptBlock_length _ _ h := h

theorem transparent_correct (method : CipherKind) : (transparent.scheme method).Correct :=
  AeadScheme.transparent_correct _ (by simp)

theorem transparent_udpCorrect (method : CipherKind) : (transparent.udpScheme method).Correct :=
  AeadScheme.transparent_correct _ (by simp)

theorem transparent_blockCorrect : transparent.BlockCorrect := by
  intro key block h
  simp [transparent, ← h]

end CryptoSuite

end Shadowsocks
