import Shadowsocks.Config.ServerConfig

/-! # Passwords and keys

`PasswordFits` says from which passwords `password_to_keys` makes the keys of a method.  It panics
over all others, and so does `ServerConfig::new`.
-/

namespace Shadowsocks

open Shadowsocks.Lib Shadowsocks.Net

variable {K ε : Type} {crypto : CryptoSuite K} {crates : Crates ε}

/-- The base64 text of a key of the method's length. -/
def IsKeyText (crates : Crates ε) (method : CipherKind) (text : Text) : Prop :=
  ∃ key, crates.keyBase64.decode text = some key ∧ key.length = crates.cipher.keyLen method

/-- A password from which the keys of a method can be made: any password, or the text of a key, which
    may come behind the texts of identity keys. -/
def PasswordFits (crates : Crates ε) (method : CipherKind) (password : Text) : Prop :=
  method.isAead2022 = true →
    if methodSupportEih method then
      ∃ ipsks upsk, password.splitOn ':' = ipsks ++ [upsk] ∧ IsKeyText crates method upsk ∧
        ∀ ipsk ∈ ipsks, ∃ key, crates.keyBase64.decode ipsk = some key
    else IsKeyText crates method password

theorem makeDerivedKey_iff {method : CipherKind} (h2022 : method.isAead2022 = true) {text : Text} :
    (∃ key, crates.makeDerivedKey method text = some key) ↔ IsKeyText crates method text := by
  rw [Crates.makeDerivedKey, if_pos h2022]
  refine exists_congr fun key => ?_
  rw [Option.filter_eq_some_iff, decide_eq_true_eq]

/-- `password_to_keys` does not panic. -/
theorem passwordToKeys_iff {method : CipherKind} {password : Text} :
    (∃ keys, crates.passwordToKeys method password = some keys) ↔
      PasswordFits crates method password := by
  unfold PasswordFits Crates.passwordToKeys
  by_cases h2022 : method.isAead2022 = true
  · rw [forall_prop_of_true h2022]
    by_cases heih : methodSupportEih method = true
    · rw [if_pos heih, if_pos heih]
      -- the last piece is the user's own key
      obtain ⟨ipsks, upsk, hpieces⟩ : ∃ ipsks upsk, password.splitOn ':' = ipsks ++ [upsk] :=
        ⟨_, _, (List.dropLast_append_getLast (List.splitOn_ne_nil ':' password)).symm⟩
      rw [hpieces, List.reverse_append, List.reverse_singleton, List.singleton_append]
      dsimp only
      constructor
      · rintro ⟨keys, h⟩
        obtain ⟨key, hkey, h⟩ := Option.bind_eq_some_iff.1 h
        obtain ⟨identityKeys, hids, -⟩ := Option.map_eq_some_iff.1 h
        have hall := exists_forall₂_iff.1 ⟨identityKeys, mapM_eq_some_iff.1 hids⟩
        exact ⟨ipsks, upsk, rfl, (makeDerivedKey_iff h2022).1 ⟨key, hkey⟩,
          fun ipsk hmem => hall ipsk (List.mem_reverse.2 hmem)⟩
      · rintro ⟨ipsks', upsk', heq, hupsk, hall⟩
        obtain ⟨rfl, hlast⟩ := List.append_inj' heq rfl
        obtain rfl := List.singleton_inj.1 hlast
        obtain ⟨key, hkey⟩ := (makeDerivedKey_iff h2022).2 hupsk
        obtain ⟨identityKeys, hids⟩ :=
          exists_forall₂_iff.2 fun ipsk hmem => hall ipsk (List.mem_reverse.1 hmem)
        rw [hkey, mapM_eq_some_iff.2 hids]
        exact ⟨_, rfl⟩
    · rw [if_neg heih, if_neg heih, ← makeDerivedKey_iff h2022]
      constructor
      · rintro ⟨keys, h⟩
        obtain ⟨key, hkey, -⟩ := Option.map_eq_some_iff.1 h
        exact ⟨key, hkey⟩
      · rintro ⟨key, hkey⟩
        exact ⟨_, Option.map_eq_some_iff.2 ⟨key, hkey, rfl⟩⟩
  · have heih : ¬methodSupportEih method = true := by
      intro heih
      cases method <;> first | exact h2022 rfl | cases heih
    rw [if_neg heih, Crates.makeDerivedKey, if_neg h2022]
    exact ⟨fun _ h => absurd h h2022, fun _ => ⟨_, rfl⟩⟩

/-- `ServerConfig::new` does not panic. -/
theorem ServerConfig.new_iff {addr : ServerAddr} {password : Text} {method : CipherKind} :
    (∃ cfg : ServerConfig crypto crates, ServerConfig.new addr password method = some cfg) ↔
      PasswordFits crates method password := by
  rw [← passwordToKeys_iff]
  constructor
  · rintro ⟨cfg, hcfg⟩
    obtain ⟨password, encKey, identityKeys, hkeys, -⟩ := ServerConfig.new_inv hcfg
    exact ⟨_, hkeys⟩
  · rintro ⟨⟨password, encKey, identityKeys⟩, hkeys⟩
    exact ⟨_, ServerConfig.new_eq hkeys⟩

theorem ServerConfig.new_eq_none_iff {addr : ServerAddr} {password : Text} {method : CipherKind} :
    (ServerConfig.new addr password method : Option (ServerConfig crypto crates)) = none ↔
      ¬PasswordFits crates method password := by
  rw [← @ServerConfig.new_iff _ _ crypto crates addr, Option.eq_none_iff_forall_ne_some, not_exists]

end Shadowsocks
