import Shadowsocks.Config
import Shadowsocks.Lib.Base64
import Shadowsocks.Net.ServerAddr
import Shadowsocks.Net.Url

/-! # Server configurations

`ServerConfig` and its setters.  The key of a configuration is always the one that its password
stands for, so a configuration carries the password it was given.

A panic is `none` here and below: `ServerConfig::new` panics when a password of an AEAD-2022 method
is not the base64 text of a key of the method's size.
-/

namespace Shadowsocks

open Shadowsocks.Lib Shadowsocks.Net

/-- The symbols of the base64 texts of keys. -/
def isKeySymbol (c : Char) : Bool := c.isAlphanum || c == '+' || c == '/' || c == '='

/-- What is relied on of the texts and key sizes of the `shadowsocks-crypto` crate. -/
structure CipherCrate where
  name : CipherKind → Text
  parse : Text → Option CipherKind
  keyLen : CipherKind → Nat
  opensslBytesToKey : Bytes → (len : Nat) → Bytes
  parse_name : ∀ method, parse (name method) = some method
  name_chars : ∀ method, ∀ c ∈ name method, isHostChar c = true
  name_ne_nil : ∀ method, name method ≠ []
  keyLen_pos : ∀ method, method.isAead2022 = true → 0 < keyLen method
  keyLen_none : keyLen .none = 0
  opensslBytesToKey_length : ∀ password len, (opensslBytesToKey password len).length = len

namespace CipherCrate

/-- Names for all methods, those of the AEAD-2022 ones as the crate has them. -/
def namedText : CipherKind → Text
  | .none => "none".toList
  | .stream id => "stream-".toList ++ digits 10 id
  | .aead id => "aead-".toList ++ digits 10 id
  | .aead2022Blake3Aes128Gcm => "2022-blake3-aes-128-gcm".toList
  | .aead2022Blake3Aes256Gcm => "2022-blake3-aes-256-gcm".toList
  | .aead2022Blake3Chacha20Poly1305 => "2022-blake3-chacha20-poly1305".toList
  | .aead2022Blake3Chacha8Poly1305 => "2022-blake3-chacha8-poly1305".toList

def parseNamed (s : Text) : Option CipherKind :=
  match s with
  | 'n' :: _ => if s = "none".toList then some .none else none
  | 's' :: _ => some (.stream (digitsValue 10 (s.drop 7)))
  | 'a' :: _ => some (.aead (digitsValue 10 (s.drop 5)))
  | _ =>
    if s = "2022-blake3-aes-128-gcm".toList then some .aead2022Blake3Aes128Gcm
    else if s = "2022-blake3-aes-256-gcm".toList then some .aead2022Blake3Aes256Gcm
    else if s = "2022-blake3-chacha20-poly1305".toList then some .aead2022Blake3Chacha20Poly1305
    else if s = "2022-blake3-chacha8-poly1305".toList then some .aead2022Blake3Chacha8Poly1305
    else none

theorem parseNamed_text (method : CipherKind) : parseNamed (namedText method) = some method := by
  have hvalue : ∀ id, digitsValue 10 (digits 10 id) = id :=
    digitsValue_digits (by decide) (by decide)
  cases method with
  | stream id => exact congrArg (some ∘ CipherKind.stream) (hvalue id)
  | aead id => exact congrArg (some ∘ CipherKind.aead) (hvalue id)
  | _ => decide

theorem namedText_chars (method : CipherKind) : ∀ c ∈ namedText method, isHostChar c = true := by
  have hstream : "stream-".toList.all isHostChar = true := by decide
  have haead : "aead-".toList.all isHostChar = true := by decide
  have hdigits : ∀ id, ∀ c ∈ digits 10 id, isHostChar c = true := by
    intro id c hc
    have hdigit := isDigit_of_mem_digits (by decide) (by decide) id c hc
    unfold isHostChar
    rw [isAlphanum_of_isDigit hdigit]
    rfl
  cases method with
  | stream id =>
    intro c hc
    obtain hc | hc := List.mem_append.1 hc
    · exact List.all_eq_true.1 hstream c hc
    · exact hdigits id c hc
  | aead id =>
    intro c hc
    obtain hc | hc := List.mem_append.1 hc
    · exact List.all_eq_true.1 haead c hc
    · exact hdigits id c hc
  | _ => exact List.all_eq_true.1 (by decide)

def named : CipherCrate where
  name := namedText
  parse := parseNamed
  keyLen
    | .none => 0
    | .aead2022Blake3Aes128Gcm => 16
    | _ => 32
  opensslBytesToKey password len := (password ++ List.replicate len 0).take len
  parse_name := parseNamed_text
  name_chars := namedText_chars
  name_ne_nil method := by
    cases method with
    | stream id => exact List.append_ne_nil_of_left_ne_nil (by decide) _
    | aead id => exact List.append_ne_nil_of_left_ne_nil (by decide) _
    | _ => decide
  keyLen_pos method h := by cases method <;> first | decide | cases h
  keyLen_none := rfl
  opensslBytesToKey_length password len := by
    rw [List.length_take, List.length_append, List.length_replicate]
    omega

end CipherCrate

/-- The crates that texts of configurations go through. -/
structure Crates (ε : Type) where
  cipher : CipherCrate
  keyBase64 : Base64Engine isKeySymbol
  urlBase64 : Base64Engine isHostChar
  percent : PercentCodec
  url : UrlParser ε percent

namespace Crates

def reference : Crates Unit where
  cipher := .named
  keyBase64 := Base64Alphabet.standard.engine true (List.all_eq_true.1 (by decide +kernel)) (by decide)
  urlBase64 := Base64Alphabet.urlSafe.engine false (List.all_eq_true.1 (by decide +kernel))
    (fun h => nomatch h)
  percent := percentCodec
  url := standardParser percentCodec

variable {ε : Type} (crates : Crates ε)

/-- `make_derived_key`. -/
def makeDerivedKey (method : CipherKind) (password : Text) : Option Bytes :=
  if method.isAead2022 then
    (crates.keyBase64.decode password).filter fun key => key.length = crates.cipher.keyLen method
  else some (crates.cipher.opensslBytesToKey (utf8 password) (crates.cipher.keyLen method))

/-- `password_to_keys`: the password, the key and the identity keys. -/
def passwordToKeys (method : CipherKind) (password : Text) : Option (Text × Bytes × List Bytes) :=
  if methodSupportEih method then
    -- iPSK1:iPSK2:iPSK3:...:uPSK
    match (password.splitOn ':').reverse with
    | upsk :: ipsks =>
      (crates.makeDerivedKey method upsk).bind fun encKey =>
        (ipsks.mapM crates.keyBase64.decode).map fun identityKeys =>
          (upsk, encKey, identityKeys.reverse)
    | [] => none
  else (crates.makeDerivedKey method password).map fun encKey => (password, encKey, [])

/-- The password that is kept stands for the key alone. -/
theorem passwordToKeys_kept {method : CipherKind} {given password : Text} {encKey : Bytes}
    {identityKeys : List Bytes}
    (h : crates.passwordToKeys method given = some (password, encKey, identityKeys)) :
    crates.passwordToKeys method password = some (password, encKey, []) := by
  unfold passwordToKeys at h ⊢
  by_cases heih : methodSupportEih method = true
  · rw [if_pos heih] at h ⊢
    split at h
    · next upsk ipsks hpieces =>
      obtain ⟨key, hkey, hkeys⟩ := Option.bind_eq_some_iff.1 h
      obtain ⟨keys, -, heq⟩ := Option.map_eq_some_iff.1 hkeys
      have hupsk : upsk = password := congrArg Prod.fst heq
      have hencKey : key = encKey := congrArg (·.2.1) heq
      -- a piece has no separator in it
      have hcolon : ':' ∉ upsk := by
        have hmem : upsk ∈ given.splitOn ':' :=
          List.mem_reverse.1 (hpieces ▸ List.mem_cons_self)
        exact notMem_of_mem_splitOn hmem
      rw [← hupsk, List.splitOn_eq_singleton hcolon, List.reverse_singleton]
      dsimp only
      rw [hkey, hencKey]
      rfl
    · cases h
  · rw [if_neg heih] at h ⊢
    obtain ⟨key, hkey, heq⟩ := Option.map_eq_some_iff.1 h
    have hpassword : given = password := congrArg Prod.fst heq
    have hencKey : key = encKey := congrArg (·.2.1) heq
    rw [← hpassword, hkey, hencKey]
    rfl

/-- Without encryption the key is empty, whatever the password is. -/
theorem passwordToKeys_none (password : Text) :
    crates.passwordToKeys .none password = some (password, [], []) := by
  have heih : ¬methodSupportEih .none = true := by decide
  have hmethod : ¬CipherKind.none.isAead2022 = true := by decide
  have hkey : crates.cipher.opensslBytesToKey (utf8 password) 0 = [] :=
    List.length_eq_zero_iff.1 (crates.cipher.opensslBytesToKey_length _ _)
  rw [passwordToKeys, if_neg heih, makeDerivedKey, if_neg hmethod, crates.cipher.keyLen_none, hkey]
  rfl

/-- A password of an AEAD-2022 method is not empty. -/
theorem password_ne_nil {method : CipherKind} {password : Text} {encKey : Bytes}
    {identityKeys : List Bytes}
    (h : crates.passwordToKeys method password = some (password, encKey, identityKeys))
    (hmethod : method.isAead2022 = true) : password ≠ [] := by
  rintro rfl
  have hkey : crates.makeDerivedKey method [] = none := by
    rw [makeDerivedKey, if_pos hmethod, crates.keyBase64.decode_nil, Option.filter_some, if_neg]
    have hpos := crates.cipher.keyLen_pos method hmethod
    simp only [List.length_nil, decide_eq_true_eq]
    omega
  unfold passwordToKeys at h
  split at h
  · rw [List.splitOn_nil, List.reverse_singleton] at h
    dsimp only at h
    rw [hkey] at h
    cases h
  · rw [hkey] at h
    cases h

end Crates

/-- `PluginConfig`. -/
structure PluginConfig where
  plugin : Text
  pluginOpts : Option Text
  pluginArgs : List Text
  pluginMode : Config.Mode
deriving DecidableEq, Repr

/-- `ServerWeight`: an `f32` is the number it stands for. -/
structure ServerWeight where
  tcpWeight : Rat
  udpWeight : Rat
  tcp_range : 0 ≤ tcpWeight ∧ tcpWeight ≤ 1
  udp_range : 0 ≤ udpWeight ∧ udpWeight ≤ 1
deriving DecidableEq

def ServerWeight.new : ServerWeight :=
  { tcpWeight := 1, udpWeight := 1, tcp_range := by decide +kernel, udp_range := by decide +kernel }

/-- `Duration`, in nanoseconds. -/
structure Duration where
  nanos : Nat
deriving DecidableEq, Repr

def Duration.fromSecs (secs : Nat) : Duration := ⟨secs * 10 ^ 9⟩

def Duration.asSecs (d : Duration) : Nat := d.nanos / 10 ^ 9

structure ServerConfig {K ε : Type} (crypto : CryptoSuite K) (crates : Crates ε) where
  addr : ServerAddr
  password : Text
  method : CipherKind
  encKey : Bytes
  identityKeys : List Bytes
  userManager : Option (ServerUserManager crypto)
  timeout : Option Duration
  plugin : Option PluginConfig
  pluginAddr : Option ServerAddr
  remarks : Option Text
  id : Option Text
  mode : Config.Mode
  weight : ServerWeight
  keyed : ∃ given, crates.passwordToKeys method given = some (password, encKey, identityKeys)

namespace ServerConfig

variable {K ε : Type} {crypto : CryptoSuite K} {crates : Crates ε}

def new (addr : ServerAddr) (password : Text) (method : CipherKind) :
    Option (ServerConfig crypto crates) :=
  match h : crates.passwordToKeys method password with
  | none => none
  | some (password', encKey, identityKeys) =>
    some
      { addr, password := password', method, encKey, identityKeys, userManager := none,
        timeout := none, plugin := none, pluginAddr := none, remarks := none, id := none,
        mode := .tcpAndUdp, weight := .new, keyed := ⟨password, h⟩ }

def setPlugin (cfg : ServerConfig crypto crates) (p : PluginConfig) : ServerConfig crypto crates :=
  { cfg with plugin := some p }

def setUserManager (cfg : ServerConfig crypto crates) (userManager : ServerUserManager crypto) :
    ServerConfig crypto crates :=
  { cfg with userManager := some userManager }

def setPluginAddr (cfg : ServerConfig crypto crates) (a : ServerAddr) : ServerConfig crypto crates :=
  { cfg with pluginAddr := some a }

def setTimeout (cfg : ServerConfig crypto crates) (timeout : Duration) :
    ServerConfig crypto crates :=
  { cfg with timeout := some timeout }

def setRemarks (cfg : ServerConfig crypto crates) (remarks : Text) : ServerConfig crypto crates :=
  { cfg with remarks := some remarks }

def setId (cfg : ServerConfig crypto crates) (id : Text) : ServerConfig crypto crates :=
  { cfg with id := some id }

def setMode (cfg : ServerConfig crypto crates) (mode : Config.Mode) : ServerConfig crypto crates :=
  { cfg with mode := mode }

def setWeight (cfg : ServerConfig crypto crates) (weight : ServerWeight) :
    ServerConfig crypto crates :=
  { cfg with weight := weight }

def isBasic (cfg : ServerConfig crypto crates) : Bool := cfg.remarks.isNone && cfg.id.isNone

/-- A new configuration, from what its password stands for. -/
theorem new_eq {addr : ServerAddr} {given password : Text} {method : CipherKind} {encKey : Bytes}
    {identityKeys : List Bytes}
    (h : crates.passwordToKeys method given = some (password, encKey, identityKeys)) :
    (new addr given method : Option (ServerConfig crypto crates)) = some
      { addr, password, method, encKey, identityKeys, userManager := none,
        timeout := none, plugin := none, pluginAddr := none, remarks := none, id := none,
        mode := .tcpAndUdp, weight := .new, keyed := ⟨given, h⟩ } := by
  unfold new
  split
  · next hnone =>
    rw [h] at hnone
    cases hnone
  · next hsome =>
    rw [h] at hsome
    cases hsome
    rfl

theorem new_inv {addr : ServerAddr} {given : Text} {method : CipherKind}
    {cfg : ServerConfig crypto crates} (h : new addr given method = some cfg) :
    ∃ password encKey identityKeys,
      ∃ hkeys : crates.passwordToKeys method given = some (password, encKey, identityKeys),
        cfg =
          { addr, password, method, encKey, identityKeys, userManager := none,
            timeout := none, plugin := none, pluginAddr := none, remarks := none, id := none,
            mode := .tcpAndUdp, weight := .new, keyed := ⟨given, hkeys⟩ } := by
  unfold new at h
  split at h
  · cases h
  · next password encKey identityKeys hkeys =>
    exact ⟨password, encKey, identityKeys, hkeys, (Option.some.inj h).symm⟩

theorem passwordToKeys_password (cfg : ServerConfig crypto crates) :
    crates.passwordToKeys cfg.method cfg.password = some (cfg.password, cfg.encKey, []) := by
  obtain ⟨given, h⟩ := cfg.keyed
  exact crates.passwordToKeys_kept h

/-- The password of the servers that the samples configure. -/
theorem sample_keyed : ∃ given, Crates.reference.passwordToKeys .aead2022Blake3Aes128Gcm given =
    some ("AAECAwQFBgcICQoLDA0ODw==".toList, [0, 1, 2, 3, 4, 5, 6, 7, 8, 9, 10, 11, 12, 13, 14, 15],
      []) :=
  ⟨"AAECAwQFBgcICQoLDA0ODw==".toList, by decide +kernel⟩

end ServerConfig

end Shadowsocks
