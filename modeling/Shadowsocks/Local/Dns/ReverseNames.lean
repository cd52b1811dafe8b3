import Shadowsocks.Acl.Target
import Shadowsocks.Lib.Letters
import Shadowsocks.Local.Dns.Server

/-! # Reverse names

A query for a pointer record is routed like the address that its name spells, whatever the case of
its letters; names of no address take the default (`ptr_name_routed`).
-/

namespace Shadowsocks.Local.Dns

open Shadowsocks.Lib Shadowsocks.Net

/-- `a.b.c.d` as `d.c.b.a.in-addr.arpa`, and the 32 digits of an IPv6 address from the last one
    under `ip6.arpa`, in small letters. -/
def reverseName : IpAddr → List Label
  | .v4 ip => ((octets ip).reverse.map fun octet => utf8 (digits 10 octet)) ++
      [utf8 "in-addr".toList, utf8 "arpa".toList]
  | .v6 ip => ((groups 16 32 ip.toNat).reverse.map fun nibble => utf8 [nibble.digitChar]) ++
      [utf8 "ip6".toList, utf8 "arpa".toList]

/-- The name lies under `in-addr.arpa` or under `ip6.arpa`. -/
def UnderReverse (name : DnsName) : Prop :=
  [utf8 "in-addr".toList, utf8 "arpa".toList] <:+ name.labels.map lowerLabel ∨
    [utf8 "ip6".toList, utf8 "arpa".toList] <:+ name.labels.map lowerLabel

/-! ## Texts of labels -/

theorem ascii_lowerByte {n : Nat} (h : n < 128) :
    UInt8.ofNat (Char.ofNat n).toLower.toNat = lowerByte (UInt8.ofNat n) := by
  have hall : ∀ n < 128, UInt8.ofNat (Char.ofNat n).toLower.toNat = lowerByte (UInt8.ofNat n) := by
    decide
  exact hall n h

theorem codes_of_isAscii {t : Text} (h : isAscii t = true) : ∀ c ∈ t, c.toNat < 128 :=
  fun c hc => of_decide_eq_true (List.all_eq_true.1 h c hc)

theorem lowerLabel_utf8 {t : Text} (h : isAscii t = true) : lowerLabel (utf8 t) = utf8 (lower t) := by
  rw [utf8_ascii (codes_of_isAscii h), utf8_ascii (codes_of_isAscii ((isAscii_lower t).trans h)),
    lowerLabel, lower, List.map_map, List.map_map]
  refine List.map_congr_left fun c hc => ?_
  have hbyte := ascii_lowerByte (codes_of_isAscii h c hc)
  rw [Char.ofNat_toNat] at hbyte
  exact hbyte.symm

/-- Bytes below 128 are a text. -/
theorem exists_text_of_ascii {label : Label} (h : ∀ b ∈ label, b.toNat < 128) :
    ∃ t, isAscii t = true ∧ utf8 t = label := by
  have hcode : ∀ b ∈ label, (Char.ofNat b.toNat).toNat = b.toNat := fun b hb => by
    rw [Char.toNat_ofNat, if_pos (.inl (Nat.lt_trans (h b hb) (by decide)))]
  have hascii : ∀ c ∈ label.map fun b => Char.ofNat b.toNat, c.toNat < 128 := by
    intro c hc
    obtain ⟨b, hb, rfl⟩ := List.mem_map.1 hc
    rw [hcode b hb]
    exact h b hb
  refine ⟨label.map fun b => Char.ofNat b.toNat,
    List.all_eq_true.2 fun c hc => decide_eq_true (hascii c hc), ?_⟩
  rw [utf8_ascii hascii, List.map_map]
  refine (List.map_congr_left fun b hb => ?_).trans (List.map_id _)
  rw [Function.comp_apply, hcode b hb]
  exact UInt8.ofNat_toNat

theorem lt_of_lowerByte_lt {b : UInt8} (h : (lowerByte b).toNat < 128) : b.toNat < 128 := by
  unfold lowerByte at h
  split at h
  · next hupper => exact Nat.lt_of_le_of_lt (UInt8.le_iff_toNat_le.1 hupper.2) (by decide)
  · exact h

/-- The text of a label is an ASCII text in small letters exactly if the label is. -/
theorem lowerLabel_eq_iff {label : Label} {s : Text} (hs : isAscii s = true) :
    lowerLabel label = utf8 s ↔ ∃ t, decodeUtf8 label = some t ∧ lower t = s := by
  constructor
  · intro h
    have hbytes : ∀ b ∈ label, b.toNat < 128 := by
      intro b hb
      apply lt_of_lowerByte_lt
      have hmem : lowerByte b ∈ utf8 s := h ▸ List.mem_map_of_mem hb
      rw [utf8_ascii (codes_of_isAscii hs)] at hmem
      obtain ⟨c, hc, heq⟩ := List.mem_map.1 hmem
      have hlt := codes_of_isAscii hs c hc
      rw [← heq, UInt8.toNat_ofNat']
      omega
    obtain ⟨t, ht, rfl⟩ := exists_text_of_ascii hbytes
    refine ⟨t, decodeUtf8_utf8 t, ?_⟩
    rwa [lowerLabel_utf8 ht, utf8_inj] at h
  · rintro ⟨t, ht, rfl⟩
    rw [← utf8_of_decodeUtf8 ht]
    exact lowerLabel_utf8 ((isAscii_lower t).symm.trans hs)

/-- The next label reads as a text in small letters, which is not what stands for missing and
    malformed labels. -/
theorem lower_nextLabel_iff {s : Text} (hs : isAscii s = true) (hzero : s ≠ "0".toList)
    (hstar : s ≠ "*".toList) (labels : List Label) :
    lower (nextLabel labels).1 = s ↔ ∃ label rest, labels = label :: rest ∧
      lowerLabel label = utf8 s := by
  cases labels with
  | nil => exact ⟨fun h => absurd h.symm hzero, fun ⟨_, _, heq, _⟩ => (nomatch heq)⟩
  | cons label rest =>
    have hlabel : lower (nextLabel (label :: rest)).1 = s ↔
        ∃ t, decodeUtf8 label = some t ∧ lower t = s := by
      rw [nextLabel]
      cases decodeUtf8 label with
      | none => exact ⟨fun h => absurd h.symm hstar, fun ⟨_, heq, _⟩ => (nomatch heq)⟩
      | some t => simp
    rw [hlabel, ← lowerLabel_eq_iff hs]
    exact ⟨fun h => ⟨label, rest, rfl, h⟩, fun ⟨_, _, heq, h⟩ => (List.cons.inj heq).1 ▸ h⟩

/-- A label of digits in either case reads as these digits. -/
theorem nextLabel_of_lowerLabel {label : Label} {s : Text} (hs : isAscii s = true)
    (h : lowerLabel label = utf8 s) (rest : List Label) :
    ∃ t, nextLabel (label :: rest) = (t, rest) ∧ lower t = s := by
  obtain ⟨t, ht, hlower⟩ := (lowerLabel_eq_iff hs).1 h
  refine ⟨t, ?_, hlower⟩
  rw [nextLabel, ht]
  rfl

/-! ## Numbers -/

theorem fromStrRadix_lower (radix bound : Nat) (s : Text) :
    fromStrRadix radix bound (lower s) = fromStrRadix radix bound s := by
  have hds : (if (lower s).head? = some '+' then (lower s).tail else lower s) =
      lower (if s.head? = some '+' then s.tail else s) := by
    rw [lower_tail]
    simp only [lower_head?_iff (show '+'.isAlpha = false from rfl)]
    split <;> rfl
  have hall : ∀ ds : Text, (lower ds).all (isDigit radix) = ds.all (isDigit radix) := by
    intro ds
    unfold lower
    rw [List.all_map]
    exact List.all_congr rfl fun c => isDigit_toLower radix c
  unfold fromStrRadix
  dsimp only
  simp only [hds, lower_ne_nil, hall, digitsValue_lower]

theorem fromStrRadix_digits {radix bound : Nat} {ds : Text} (hne : ds ≠ [])
    (hall : ∀ c ∈ ds, isDigit radix c = true) (hlt : digitsValue radix ds < bound) :
    fromStrRadix radix bound ds = some (digitsValue radix ds) := by
  have hplus : ds.head? ≠ some '+' := by
    intro heq
    have hdigit := hall '+' (List.mem_of_mem_head? heq)
    cases hdigit
  unfold fromStrRadix
  dsimp only
  rw [if_neg hplus, if_pos ⟨hne, List.all_eq_true.2 hall, hlt⟩]

theorem isAscii_of_digits {radix : Nat} {ds : Text} (h : ∀ c ∈ ds, isDigit radix c = true) :
    isAscii ds = true := by
  exact List.all_eq_true.2 fun c hc =>
    decide_eq_true (ascii_of_isAlphanum (isAlphanum_of_isDigit (h c hc)))

/-! ## Octets and segments -/

theorem readOctetLabels_of {os : List Nat} (hos : ∀ o ∈ os, o < 256) {labels rest : List Label}
    (h : labels.map lowerLabel = os.map (fun o => utf8 (digits 10 o)) ++ rest) :
    readOctetLabels os.length labels = some os := by
  induction os generalizing labels with
  | nil => rfl
  | cons o os ih =>
    obtain ⟨label, labels, rfl, hlabel, hrest⟩ := List.map_eq_cons_iff.1 h
    have hdigits : ∀ c ∈ digits 10 o, isDigit 10 c = true :=
      isDigit_of_mem_digits (by decide) (by decide) o
    have hvalue : digitsValue 10 (digits 10 o) = o := digitsValue_digits (by decide) (by decide) o
    obtain ⟨t, hnext, hlower⟩ := nextLabel_of_lowerLabel (isAscii_of_digits hdigits) hlabel labels
    have hread : fromStrRadix 10 256 t = some o := by
      rw [← fromStrRadix_lower, hlower, fromStrRadix_digits (digits_ne_nil 10 o) hdigits, hvalue]
      rw [hvalue]
      exact hos o List.mem_cons_self
    have hrest := ih (fun o ho => hos o (List.mem_cons_of_mem _ ho)) hrest
    rw [List.length_cons, readOctetLabels, hnext]
    dsimp only
    rw [hread, hrest]
    rfl

/-- The number of digits, most significant first. -/
theorem foldl_digitChars {ns : List Nat} (hns : ∀ n ∈ ns, n < 16) (m : Nat) :
    (ns.map Nat.digitChar).foldl (fun n c => n * 16 + (digitOf 16 c).getD 0) m =
      ns.foldl (fun n g => n * 16 + g) m := by
  induction ns generalizing m with
  | nil => rfl
  | cons n ns ih =>
    rw [List.map_cons, List.foldl_cons, List.foldl_cons,
      digitOf_digitChar (by decide) (hns n List.mem_cons_self), Option.getD_some,
      ih fun k hk => hns k (List.mem_cons_of_mem _ hk)]

theorem digitsValue_digitChars {ns : List Nat} (hns : ∀ n ∈ ns, n < 16) :
    digitsValue 16 (ns.map Nat.digitChar) = ofGroups 16 ns :=
  foldl_digitChars hns 0

/-- Four labels of one digit each are read as a segment. -/
theorem readSegment_of {t₁ t₂ t₃ t₄ : Text} {g : Nat} (hg : g < 65536)
    (h : lower (t₁ ++ (t₂ ++ (t₃ ++ t₄))) = (groups 16 4 g).map Nat.digitChar) :
    fromStrRadix 16 65536 (t₁ ++ (t₂ ++ (t₃ ++ t₄))) = some g := by
  have hlt : ∀ n ∈ groups 16 4 g, n < 16 := fun n hn => lt_of_mem_groups (by decide) hn
  have hvalue : digitsValue 16 ((groups 16 4 g).map Nat.digitChar) = g := by
    rw [digitsValue_digitChars hlt, ofGroups_groups]
    exact Nat.mod_eq_of_lt hg
  have hdigits : ∀ c ∈ (groups 16 4 g).map Nat.digitChar, isDigit 16 c = true := by
    intro c hc
    obtain ⟨n, hn, rfl⟩ := List.mem_map.1 hc
    rw [isDigit, digitOf_digitChar (by decide) (hlt n hn)]
    rfl
  rw [← fromStrRadix_lower, h, fromStrRadix_digits (by simp [groups]) hdigits, hvalue]
  rw [hvalue]
  exact hg

theorem groups_append (base v w n : Nat) :
    groups base (v + w) n = groups base v (n / base ^ w) ++ groups base w n := by
  induction v with
  | zero => simp [groups]
  | succ v ih =>
    rw [Nat.succ_add, groups, groups, ih, List.cons_append, Nat.div_div_eq_div_mul, ← Nat.pow_add,
      Nat.add_comm w v]

/-- Only the low digits count. -/
theorem groups_mod {v w : Nat} (hvw : v ≤ w) (base n : Nat) :
    groups base v (n % base ^ w) = groups base v n := by
  induction v with
  | zero => rfl
  | succ v ih =>
    have hsplit : base ^ w = base ^ v * base ^ (w - v) := by
      rw [← Nat.pow_add]
      congr 1
      omega
    have hdvd : base ∣ base ^ (w - v) := dvd_pow_self base (by omega)
    rw [groups, groups, ih (by omega), hsplit, Nat.mod_mul_right_div_self, Nat.mod_mod_of_dvd _ hdvd]

/-- The digits of a number in a base, from its digits in a power of the base. -/
theorem flatMap_groups (base a w n : Nat) :
    (groups (base ^ a) w n).flatMap (groups base a) = groups base (w * a) n := by
  induction w with
  | zero => simp [groups]
  | succ w ih =>
    rw [groups, List.flatMap_cons, ih, groups_mod le_rfl, ← Nat.pow_mul, Nat.mul_comm a w,
      Nat.succ_mul, Nat.add_comm, groups_append]

theorem readSegmentLabels_of {gs : List Nat} (hgs : ∀ g ∈ gs, g < 65536)
    {labels rest : List Label}
    (h : labels.map lowerLabel =
      gs.flatMap (fun g => (groups 16 4 g).map fun n => utf8 [n.digitChar]) ++ rest) :
    readSegmentLabels gs.length labels = some gs := by
  induction gs generalizing labels with
  | nil => rfl
  | cons g gs ih =>
    -- a group is four labels of one digit each
    obtain ⟨n₁, n₂, n₃, n₄, hnibbles⟩ : ∃ n₁ n₂ n₃ n₄, groups 16 4 g = [n₁, n₂, n₃, n₄] :=
      ⟨_, _, _, _, rfl⟩
    have hdigit : ∀ n ∈ [n₁, n₂, n₃, n₄], isAscii [n.digitChar] = true := by
      intro n hn
      have hlt : n < 16 := lt_of_mem_groups (by decide) (hnibbles ▸ hn)
      have hhex : ∀ c ∈ [n.digitChar], isDigit 16 c = true := by
        intro c hc
        rw [List.mem_singleton.1 hc, isDigit, digitOf_digitChar (by decide) hlt]
        rfl
      exact isAscii_of_digits hhex
    rw [List.flatMap_cons, hnibbles] at h
    obtain ⟨l₁, labels, rfl, h₁, h⟩ := List.map_eq_cons_iff.1 h
    obtain ⟨l₂, labels, rfl, h₂, h⟩ := List.map_eq_cons_iff.1 h
    obtain ⟨l₃, labels, rfl, h₃, h⟩ := List.map_eq_cons_iff.1 h
    obtain ⟨l₄, labels, rfl, h₄, h⟩ := List.map_eq_cons_iff.1 h
    obtain ⟨t₁, hnext₁, hlower₁⟩ := nextLabel_of_lowerLabel (hdigit n₁ (by simp)) h₁ _
    obtain ⟨t₂, hnext₂, hlower₂⟩ := nextLabel_of_lowerLabel (hdigit n₂ (by simp)) h₂ _
    obtain ⟨t₃, hnext₃, hlower₃⟩ := nextLabel_of_lowerLabel (hdigit n₃ (by simp)) h₃ _
    obtain ⟨t₄, hnext₄, hlower₄⟩ := nextLabel_of_lowerLabel (hdigit n₄ (by simp)) h₄ labels
    have hread : fromStrRadix 16 65536 (t₁ ++ (t₂ ++ (t₃ ++ t₄))) = some g := by
      refine readSegment_of (hgs g List.mem_cons_self) ?_
      rw [hnibbles, lower_append, lower_append, lower_append, hlower₁, hlower₂, hlower₃, hlower₄]
      rfl
    have hrest := ih (fun g hg => hgs g (List.mem_cons_of_mem _ hg)) h
    rw [List.length_cons, readSegmentLabels, hnext₁]
    dsimp only
    rw [hnext₂]
    dsimp only
    rw [hnext₃]
    dsimp only
    rw [hnext₄]
    dsimp only
    rw [hread, hrest]
    rfl

/-! ## Routing -/

/-- The two labels next to the root. -/
theorem under_of_reverse {name : DnsName} {root family : Label} {rest : List Label}
    (h : name.labels.reverse = root :: family :: rest) :
    [lowerLabel family, lowerLabel root] <:+ name.labels.map lowerLabel := by
  refine ⟨rest.reverse.map lowerLabel, ?_⟩
  rw [← List.reverse_reverse name.labels, h]
  simp

theorem ptr_name_default {acl : AccessControl} {name : DnsName} (h : ¬UnderReverse name) :
    shouldForwardByPtrName acl name = acl.isDefaultInProxyList := by
  unfold shouldForwardByPtrName
  dsimp only
  by_cases hroot : lower (nextLabel name.labels.reverse).1 = "arpa".toList
  swap
  · rw [if_pos hroot]
  obtain ⟨root, labels, hlabels, hroot'⟩ :=
    (lower_nextLabel_iff (by decide) (by decide) (by decide) _).1 hroot
  have hfamily : ∀ s : Text, isAscii s = true → s ≠ "0".toList → s ≠ "*".toList →
      lower (nextLabel labels).1 = s → [utf8 s, utf8 "arpa".toList] <:+ name.labels.map lowerLabel := by
    intro s hs hzero hstar hlower
    obtain ⟨family, rest, rfl, hfamily⟩ := (lower_nextLabel_iff hs hzero hstar labels).1 hlower
    rw [← hroot', ← hfamily]
    exact under_of_reverse hlabels
  have hnext : (nextLabel name.labels.reverse).2 = labels := by
    rw [hlabels]
    rfl
  have hv4 : lower (nextLabel labels).1 ≠ "in-addr".toList := fun heq =>
    h (.inl (hfamily _ (by decide) (by decide) (by decide) heq))
  have hv6 : lower (nextLabel labels).1 ≠ "ip6".toList := fun heq =>
    h (.inr (hfamily _ (by decide) (by decide) (by decide) heq))
  rw [if_neg (not_not.2 hroot), hnext, if_neg hv4, if_neg hv6]

/-- The labels after those of the family. -/
theorem read_family {name : DnsName} {s : Text} {below : List Label} (hs : isAscii s = true)
    (h : name.labels.map lowerLabel = below.reverse ++ [utf8 s, utf8 "arpa".toList]) :
    ∃ root family labels labels', nextLabel name.labels.reverse = (root, labels) ∧
      lower root = "arpa".toList ∧ nextLabel labels = (family, labels') ∧ lower family = s ∧
      labels'.map lowerLabel = below := by
  have hreverse : name.labels.reverse.map lowerLabel = utf8 "arpa".toList :: utf8 s :: below := by
    rw [List.map_reverse, h]
    simp
  obtain ⟨root, labels, heq, hroot, hreverse⟩ := List.map_eq_cons_iff.1 hreverse
  obtain ⟨family, labels', rfl, hfamily, hbelow⟩ := List.map_eq_cons_iff.1 hreverse
  obtain ⟨t, ht, hlower⟩ := nextLabel_of_lowerLabel (by decide) hroot (family :: labels')
  obtain ⟨t', ht', hlower'⟩ := nextLabel_of_lowerLabel hs hfamily labels'
  exact ⟨t, t', _, labels', heq ▸ ht, hlower, ht', hlower', hbelow⟩

theorem ptr_name_v4 {acl : AccessControl} {name : DnsName} {ip : BitVec 32}
    (h : name.labels.map lowerLabel = reverseName (.v4 ip)) :
    shouldForwardByPtrName acl name = acl.checkIpInProxyList (.v4 ip) := by
  rw [reverseName, List.map_reverse] at h
  obtain ⟨root, family, labels, labels', hroot, harpa, hnext, hfamily, hbelow⟩ :=
    read_family (by decide) h
  have hread : readOctetLabels 4 labels' = some (octets ip) := by
    have hlt : ∀ o ∈ octets ip, o < 256 := fun o ho => lt_of_mem_groups (by decide) ho
    have h := readOctetLabels_of hlt (hbelow.trans (List.append_nil _).symm)
    rwa [octets, groups_length] at h
  unfold shouldForwardByPtrName
  rw [hroot]
  dsimp only
  rw [if_neg (not_not.2 harpa), hnext]
  dsimp only
  rw [if_pos hfamily, hread]
  dsimp only
  rw [ofGroups_octets]

theorem ptr_name_v6 {acl : AccessControl} {name : DnsName} {ip : BitVec 128}
    (h : name.labels.map lowerLabel = reverseName (.v6 ip)) :
    shouldForwardByPtrName acl name = acl.checkIpInProxyList (.v6 ip) := by
  rw [reverseName, List.map_reverse] at h
  obtain ⟨root, family, labels, labels', hroot, harpa, hnext, hfamily, hbelow⟩ :=
    read_family (by decide) h
  have hread : readSegmentLabels 8 labels' = some (segments ip) := by
    have hlt : ∀ g ∈ segments ip, g < 65536 := fun g hg => lt_of_mem_groups (by decide) hg
    have hnibbles : groups 16 32 ip.toNat = (segments ip).flatMap (groups 16 4) :=
      (flatMap_groups 16 4 8 ip.toNat).symm
    rw [hnibbles, List.map_flatMap] at hbelow
    have h := readSegmentLabels_of hlt (hbelow.trans (List.append_nil _).symm)
    rwa [segments, groups_length] at h
  have hother : lower family ≠ "in-addr".toList := by
    rw [hfamily]
    decide
  unfold shouldForwardByPtrName
  rw [hroot]
  dsimp only
  rw [if_neg (not_not.2 harpa), hnext]
  dsimp only
  rw [if_neg hother, if_pos hfamily, hread]
  dsimp only
  rw [ofGroups_segments]

theorem ptr_name_routed (acl : AccessControl) (name : DnsName) :
    (∀ ip, name.labels.map lowerLabel = reverseName ip →
      shouldForwardByPtrName acl name = acl.checkIpInProxyList ip) ∧
    (¬UnderReverse name → shouldForwardByPtrName acl name = acl.isDefaultInProxyList) := by
  refine ⟨fun ip h => ?_, ptr_name_default⟩
  cases ip with
  | v4 ip => exact ptr_name_v4 h
  | v6 ip => exact ptr_name_v6 h

/-- `1.0.0.10.IN-ADDR.ARPA`. -/
def upperReverse : DnsName where
  isFqdn := true
  labels := [[49], [48], [48], [49, 48], [73, 78, 45, 65, 68, 68, 82], [65, 82, 80, 65]]

theorem ptr_name_routed_upper :
    (upperReverse.labels.map lowerLabel = reverseName (.v4 0x0a000001) ∧
      shouldForwardByPtrName .privateOnly upperReverse =
        AccessControl.privateOnly.checkIpInProxyList (.v4 0x0a000001)) ∧
    ¬UnderReverse exampleOrg ∧
      shouldForwardByPtrName .privateOnly exampleOrg =
        AccessControl.privateOnly.isDefaultInProxyList := by
  have hname : upperReverse.labels.map lowerLabel = reverseName (.v4 0x0a000001) := by decide
  have hother : ¬UnderReverse exampleOrg := by
    rintro (h | h)
    all_goals exact absurd h (by decide)
  exact ⟨⟨hname, (ptr_name_routed .privateOnly upperReverse).1 _ hname⟩, hother,
    (ptr_name_routed .privateOnly exampleOrg).2 hother⟩

end Shadowsocks.Local.Dns
