import Shadowsocks.Tcp.Aead2022

/-! # Replayed requests

A server reads request headers at arbitrary times and checks each against the
salts it remembers.  What the salt check finds depends on the salt's own history
only (`checkNonceReplay_known`), so a run is decided salt by salt: no salt is
accepted twice exactly if every two consecutive requests in range that carry it
are at most the cache's expiry apart (`acceptedSalts_nodup_iff`).
-/

namespace Shadowsocks.Tcp.Aead2022

open Shadowsocks.Lib

variable {K B : Type} [BloomFilter B]

/-! ## Requests -/

/-- A request: when its header is read, and what that read finds. -/
structure Arrival where
  now : Time
  source : Source

variable {crypto : CryptoSuite K} (cfg : ReaderConfig crypto) (key : Bytes)

/-- A new reader reads the header of a request: the salt if it is accepted. -/
def acceptRequest (context : Context B) (a : Arrival) : Option Bytes × Context B :=
  match pollReadHeader cfg a.now key
    { reader := DecryptedReader.new crypto cfg.method key, context := context
      source := a.source } with
  | (.ready (some _), w) => (w.reader.rest.salt, w.context)
  | (.ready none, w) => (none, w.context)
  | (.pending, w) => (none, w.context)
  | (.failed _, w) => (none, w.context)
  | (.panicked, w) => (none, w.context)

/-- The salts of the requests that are accepted, in order. -/
def acceptedSalts (context : Context B) : List Arrival → List Bytes
  | [] => []
  | a :: as =>
    match acceptRequest cfg key context a with
    | (some salt, context) => salt :: acceptedSalts context as
    | (none, context) => acceptedSalts context as

/-! ## Requests in range -/

/-- The plaintext of a header that opens, behind its salt. -/
def openHeader? (salt chunk : Bytes) : Option Bytes :=
  let opened (key chunk : Bytes) :=
    let r := (crypto.cipher cfg.method key salt).decryptPacket (crypto.scheme cfg.method) chunk
    if r.1 then some r.2.1 else none
  if cfg.requireEih then
    match cfg.userManager, eihKey? cfg.method (crypto.deriveKey (key ++ salt)) with
    | some users, some eihKey =>
      if chunk.length < 16 then none
      else
        match users.getUserByHash (crypto.decryptBlock eihKey (chunk.take 16)) with
        | some user => opened user.key (chunk.drop 16)
        | none => none
    | _, _ => none
  else opened key chunk

/-- The stream type and the timestamp of an opened header are right. -/
def InRange (now : Time) (plain : Bytes) : Prop :=
  fromBigEndian (plain.take 1) = cfg.expectedStreamTy ∧
    absDiff now.unixSecs (fromBigEndian ((plain.drop 1).take 8)) ≤ serverStreamTimestampMaxDiff

instance (now : Time) (plain : Bytes) : Decidable (InRange cfg now plain) :=
  inferInstanceAs (Decidable (_ ∧ _))

/-- The salt of a request in range: its header arrives in one read and opens, and
    its stream type and its timestamp are right. -/
def inRange? (a : Arrival) : Option Bytes :=
  match (a.source.read cfg.headerLen).1 with
  | .ready header =>
    if header.length ≠ cfg.headerLen then none
    else
      let salt := header.take (crypto.saltLen cfg.method)
      (openHeader? cfg key salt (header.drop (crypto.saltLen cfg.method))).bind fun plain =>
        if InRange cfg a.now plain then some salt else none
  | _ => none

/-! ## One request -/

/-- What reading a header does when the request's salt in range is `inRange`. -/
def requestPost (now : Time) (context : Context B) (inRange : Option Bytes) :
    Post (ReadState K B) ProtocolError (Option Expect) :=
  let check salt := context.checkNonceReplay now cfg.method salt
  { ready := fun e w => match inRange with
      | some salt => e.isSome ∧ (check salt).1 = .ok () ∧ w.context = (check salt).2 ∧
          w.reader.rest.salt = some salt
      | none => e = none ∧ w.context = context
    pending := fun w => inRange = none ∧ w.context = context
    failed := fun _ w => match inRange with
      | some salt => (check salt).1 ≠ .ok () ∧ w.context = (check salt).2
      | none => w.context = context
    panicked := fun w => inRange = none ∧ w.context = context }

omit [BloomFilter B] in
/-- The cipher that `selectCipher` picks decides whether the header opens. -/
theorem selectCipher_spec (salt chunk : Bytes) (context : Context B) :
    Triple (fun w : ReadState K B => w.context = context) (selectCipher cfg key salt chunk)
      { ready := fun r w => w.context = context ∧
          openHeader? cfg key salt chunk =
            if (r.1.decryptPacket (crypto.scheme cfg.method) r.2).1 then
              some (r.1.decryptPacket (crypto.scheme cfg.method) r.2).2.1
            else none
        pending := fun _ => False
        failed := fun _ w => w.context = context ∧ openHeader? cfg key salt chunk = none
        panicked := fun w => w.context = context ∧ openHeader? cfg key salt chunk = none } := by
  unfold selectCipher openHeader?
  split
  · cases cfg.userManager with
    | none => exact Triple.crash fun w hw => ⟨hw, rfl⟩
    | some users =>
      cases eihKey? cfg.method (crypto.deriveKey (key ++ salt)) with
      | none => exact Triple.crash fun w hw => ⟨hw, rfl⟩
      | some eihKey =>
        dsimp only
        split
        · exact Triple.fail fun w hw => ⟨hw, rfl⟩
        · cases users.getUserByHash (crypto.decryptBlock eihKey (chunk.take 16)) with
          | none => exact Triple.fail fun w hw => ⟨hw, rfl⟩
          | some user => exact fun w hw => ⟨hw, rfl⟩
  · exact Triple.pure fun w hw => ⟨hw, rfl⟩

/-- The checks of an opened header on a server. -/
theorem parseHeader_spec (hserver : cfg.streamTy = .server) (now : Time) (salt plain : Bytes)
    (cipher : Cipher K) (context : Context B) :
    Triple (fun w : ReadState K B => w.context = context) (parseHeader cfg now salt plain cipher)
      (requestPost cfg now context (if InRange cfg now plain then some salt else none)) := by
  unfold parseHeader
  split
  · next hty => exact Triple.fail fun w hw => by rw [if_neg fun h => hty h.1]; exact hw
  · next hty =>
    split
    · next hts =>
      refine Triple.fail fun w hw => ?_
      rw [if_neg fun h => absurd h.2 (Nat.not_le.2 hts)]
      exact hw
    · next hts =>
      rw [if_pos ⟨not_not.1 hty, Nat.not_lt.1 hts⟩]
      refine Triple.update (M := fun w => w.context = context) (fun w hw => ?_)
        (Triple.get fun w hw => ?_)
      · unfold noteRequestSalt
        split <;> exact hw
      · have hcheck : checkSalt cfg now salt w.context =
            context.checkNonceReplay now cfg.method salt := by
          simp only [checkSalt, hserver, hw]
        simp only [hcheck]
        cases hr : (context.checkNonceReplay now cfg.method salt).1 with
        | error e => exact ⟨by rw [hr]; nofun, rfl⟩
        | ok _ => exact ⟨rfl, hr, rfl, rfl⟩

omit [BloomFilter B] in
/-- What the header's read does. -/
theorem readHeaderBytes_spec (w : ReadState K B) :
    Triple (fun w' => w' = w) (readHeaderBytes cfg)
      { ready := fun header w' => (w.source.read cfg.headerLen).1 = .ready header ∧
          w'.context = w.context
        pending := fun w' => (∀ header, (w.source.read cfg.headerLen).1 ≠ .ready header) ∧
          w'.context = w.context
        failed := fun _ w' => (∀ header, (w.source.read cfg.headerLen).1 ≠ .ready header) ∧
          w'.context = w.context
        panicked := fun w' => (∀ header, (w.source.read cfg.headerLen).1 ≠ .ready header) ∧
          w'.context = w.context } := by
  intro w' hw
  subst hw
  unfold readHeaderBytes
  cases hr : w'.source.read cfg.headerLen with
  | mk r s => cases r <;> exact ⟨by simp, rfl⟩

theorem inRange?_of_not_ready {a : Arrival}
    (h : ∀ header, (a.source.read cfg.headerLen).1 ≠ .ready header) : inRange? cfg key a = none := by
  unfold inRange?
  split
  · next header hr => exact absurd hr (h header)
  · rfl

/-- What reading the header of a request does. -/
theorem pollReadHeader_spec (hserver : cfg.streamTy = .server) (context : Context B) (a : Arrival) :
    Triple (fun w : ReadState K B => w.source = a.source ∧ w.context = context)
      (pollReadHeader cfg a.now key) (requestPost cfg a.now context (inRange? cfg key a)) := by
  refine Triple.of_state fun w ⟨hsource, hcontext⟩ => ?_
  refine Triple.seq (readHeaderBytes_spec cfg w) (fun header => ?_) ?_ ?_ ?_
  · refine Triple.of_state fun w₁ ⟨hread, hw₁⟩ => ?_
    rw [hsource] at hread
    -- the end of the file, a short read, or a whole header
    by_cases hnil : header = []
    · subst hnil
      refine Triple.pure fun w₂ hw₂ => ?_
      have hlen : cfg.headerLen ≠ 0 := by
        unfold ReaderConfig.headerLen
        omega
      have hnone : inRange? cfg key a = none := by simp [inRange?, hread, hlen.symm]
      rw [hnone]
      exact ⟨rfl, hw₂ ▸ hw₁.trans hcontext⟩
    · rw [if_neg hnil]
      by_cases hlen : header.length ≠ cfg.headerLen
      · rw [if_pos hlen]
        refine Triple.fail fun w₂ hw₂ => ?_
        have hnone : inRange? cfg key a = none := by simp [inRange?, hread, hlen]
        rw [hnone]
        exact hw₂ ▸ hw₁.trans hcontext
      · rw [if_neg hlen]
        have hinRange : inRange? cfg key a =
            (openHeader? cfg key (header.take (crypto.saltLen cfg.method))
              (header.drop (crypto.saltLen cfg.method))).bind fun plain =>
                if InRange cfg a.now plain then some (header.take (crypto.saltLen cfg.method))
                else none := by
          rw [inRange?, hread]
          exact if_neg hlen
        rw [hinRange]
        have hselect := selectCipher_spec cfg key (header.take (crypto.saltLen cfg.method))
          (header.drop (crypto.saltLen cfg.method)) context
        -- the cipher is the user's or the server's own, and it may not open the header
        refine Triple.weaken (Triple.seq hselect (fun r => ?_) ?_ ?_ ?_) fun w₂ hw₂ =>
          hw₂ ▸ hw₁.trans hcontext
        · refine Triple.of_state fun w₂ ⟨hw₂, hopen⟩ => ?_
          rw [hopen]
          dsimp only
          split
          · exact (parseHeader_spec cfg hserver a.now _ _ _ context).weaken fun _ h => h ▸ hw₂
          · exact Triple.fail fun _ h => h ▸ hw₂
        · exact fun _ h => h.elim
        · rintro _ w₂ ⟨hw₂, hnone⟩
          rw [hnone]
          exact hw₂
        · rintro w₂ ⟨hw₂, hnone⟩
          rw [hnone]
          exact ⟨rfl, hw₂⟩
  · rintro w₁ ⟨hread, hw₁⟩
    rw [hsource] at hread
    exact ⟨inRange?_of_not_ready cfg key hread, hw₁.trans hcontext⟩
  · rintro _ w₁ ⟨hread, hw₁⟩
    rw [hsource] at hread
    rw [inRange?_of_not_ready cfg key hread]
    exact hw₁.trans hcontext
  · rintro w₁ ⟨hread, hw₁⟩
    rw [hsource] at hread
    exact ⟨inRange?_of_not_ready cfg key hread, hw₁.trans hcontext⟩

/-- **One request.** Its salt is accepted if it is in range and the replay check
    lets it pass, and only a request in range touches the replay protector. -/
theorem acceptRequest_eq (hserver : cfg.streamTy = .server) (context : Context B) (a : Arrival) :
    acceptRequest cfg key context a = match inRange? cfg key a with
      | some salt => ((if (context.checkNonceReplay a.now cfg.method salt).1.isOk then some salt
          else none), (context.checkNonceReplay a.now cfg.method salt).2)
      | none => (none, context) := by
  have h := pollReadHeader_spec cfg key hserver context a
    { reader := DecryptedReader.new crypto cfg.method key, context := context, source := a.source }
    ⟨rfl, rfl⟩
  unfold acceptRequest
  rcases hp : pollReadHeader cfg a.now key
    { reader := DecryptedReader.new crypto cfg.method key, context := context
      source := a.source } with ⟨r, w⟩
  rw [hp] at h
  cases hin : inRange? cfg key a with
  | none =>
    rw [hin] at h
    cases r with
    | ready e =>
      obtain ⟨rfl, hw⟩ := h
      simp [hw]
    | pending => simp [h.2]
    | failed e => simp [show w.context = context from h]
    | panicked => simp [h.2]
  | some salt =>
    rw [hin] at h
    cases r with
    | ready e =>
      obtain ⟨he, hok, hw, hsalt⟩ := h
      obtain ⟨e, rfl⟩ := Option.isSome_iff_exists.1 he
      simp [hok, hw, hsalt, Except.isOk, Except.toBool]
    | pending => cases h.1
    | failed e =>
      obtain ⟨hne, hw⟩ := h
      cases hr : (context.checkNonceReplay a.now cfg.method salt).1 with
      | ok _ => exact absurd hr hne
      | error _ => simp [hw, hr, Except.isOk, Except.toBool]
    | panicked => cases h.1

theorem inRange?_ne_nil (hpos : 0 < crypto.saltLen cfg.method) {a : Arrival} {salt : Bytes}
    (h : inRange? cfg key a = some salt) : salt ≠ [] := by
  unfold inRange? at h
  split at h
  · next header _ =>
    split at h
    · cases h
    · next hlen =>
      obtain ⟨plain, _, hsome⟩ := Option.bind_eq_some_iff.1 h
      split at hsome
      · obtain rfl := Option.some.inj hsome
        refine List.length_pos_iff.1 ?_
        rw [List.length_take]
        have : cfg.headerLen ≥ crypto.saltLen cfg.method := by
          unfold ReaderConfig.headerLen
          omega
        omega
      · cases hsome
  · cases h

/-- Exact copies of a request are in range for less than a second longer than the
    expiry: the timestamp is compared in whole seconds, with 30 to either side. -/
theorem inRange?_copy {source : Source} {t t' : Time} {salt salt' : Bytes}
    (h : inRange? cfg key { now := t, source := source } = some salt)
    (h' : inRange? cfg key { now := t', source := source } = some salt') :
    t' < t + Context.nonceExpiry + Time.second := by
  unfold inRange? at h h'
  split at h
  · next header hread =>
    rw [hread] at h'
    dsimp only at h h'
    split at h
    · cases h
    · next hlen =>
      rw [if_neg hlen] at h'
      obtain ⟨plain, hopen, hsome⟩ := Option.bind_eq_some_iff.1 h
      rw [hopen, Option.bind_some] at h'
      split at hsome
      · next hin =>
        split at h'
        · next hin' =>
          have hearly := (absDiff_le.1 hin.2).2
          have hlate := (absDiff_le.1 hin'.2).1
          refine Time.lt_of_unixSecs_le (n := serverStreamTimestampMaxDiff * 2) ?_
          omega
        · cases h'
      · cases hsome
  · cases h

/-! ## One salt -/

/-- When the requests in range that carry the salt are read. -/
def seenAt (salt : Bytes) (arrivals : List Arrival) : List Time :=
  arrivals.filterMap fun a => if inRange? cfg key a = some salt then some a.now else none

/-- The times at which a salt is taken for new, if it was last seen at `last`. -/
def freshTimes : (last : Option Time) → List Time → List Time
  | _, [] => []
  | last, t :: ts =>
    if last.any (t ≤ · + Context.nonceExpiry) then freshTimes (some t) ts
    else t :: freshTimes (some t) ts

/-- Two times between which a salt is not forgotten. -/
def Remembered (s t : Time) : Prop := t ≤ s + Context.nonceExpiry

theorem freshTimes_eq_nil_iff (s : Time) (ts : List Time) :
    freshTimes (some s) ts = [] ↔ (s :: ts).IsChain Remembered := by
  induction ts generalizing s with
  | nil => simp [freshTimes]
  | cons t ts ih =>
    rw [freshTimes, List.isChain_cons_cons, ← ih]
    by_cases h : t ≤ s + Context.nonceExpiry <;> simp [h, Remembered]

/-- A salt is taken for new at most once exactly if it is never forgotten between
    two requests that follow each other. -/
theorem freshTimes_length_le_one_iff (ts : List Time) :
    (freshTimes none ts).length ≤ 1 ↔ ts.IsChain Remembered := by
  cases ts with
  | nil => simp [freshTimes]
  | cons t ts =>
    rw [← freshTimes_eq_nil_iff]
    simp [freshTimes, List.length_eq_zero_iff]

/-! ## Runs -/

section Runs

variable (h2022 : cfg.method.isAead2022 = true) (hserver : cfg.streamTy = .server)
  (hpos : 0 < crypto.saltLen cfg.method)
include h2022 hserver hpos

/-- What a context remembers of a salt that was last seen at `last`. -/
def Recalls (context : Context B) (since : Time) (salt : Bytes) (last : Option Time) : Prop :=
  ∀ t, since ≤ t → context.remembers t salt = last.any (t ≤ · + Context.nonceExpiry)

/-- How often a salt is accepted is decided by when it is seen. -/
theorem count_acceptedSalts (salt : Bytes) :
    ∀ (arrivals : List Arrival) (context : Context B) (last : Option Time) (since : Time),
      context.KeepsNonces → Recalls context since salt last →
      (∀ a ∈ arrivals, since ≤ a.now) → arrivals.Pairwise (·.now ≤ ·.now) →
      (acceptedSalts cfg key context arrivals).count salt =
        (freshTimes last (seenAt cfg key salt arrivals)).length
  | [], _, _, _, _, _, _, _ => rfl
  | a :: as, context, last, since, hkeeps, hrecalls, hsince, hsorted => by
    obtain ⟨hfirst, hsorted⟩ := List.pairwise_cons.1 hsorted
    have hle := hsince a (List.mem_cons_self ..)
    rw [acceptedSalts, acceptRequest_eq cfg key hserver]
    -- what is out of range never comes to the replay check
    cases hin : inRange? cfg key a with
    | none =>
      have hseen : seenAt cfg key salt (a :: as) = seenAt cfg key salt as := by
        simp [seenAt, hin]
      rw [hseen]
      exact count_acceptedSalts salt as context last since hkeeps hrecalls
        (fun b hb => hsince b (List.mem_cons_of_mem _ hb)) hsorted
    | some other =>
      have hne := inRange?_ne_nil cfg key hpos hin
      have hok := Context.checkNonceReplay_isOk h2022 hne context a.now
      have hkeeps' := Context.checkNonceReplay_keepsNonces h2022 hne hkeeps a.now
      have hremembers := fun t (ht : a.now ≤ t) =>
        Context.checkNonceReplay_remembers h2022 hne hkeeps ht salt
      have ih := fun last hrecalls' => count_acceptedSalts salt as
        (context.checkNonceReplay a.now cfg.method other).2 last a.now hkeeps' hrecalls' hfirst hsorted
      -- the check of another salt changes nothing for this one
      by_cases hsalt : salt = other
      · subst hsalt
        have hseen : seenAt cfg key salt (a :: as) = a.now :: seenAt cfg key salt as := by
          simp [seenAt, hin]
        have hrest := ih (some a.now) fun t ht => by
          rw [hremembers t ht, if_pos rfl, Option.any_some]
        rw [hseen, freshTimes, ← hrecalls a.now hle]
        cases hknown : context.remembers a.now salt with
        | true => simp [hok, hknown, hrest]
        | false => simp [hok, hknown, hrest]
      · have hseen : seenAt cfg key salt (a :: as) = seenAt cfg key salt as := by
          simp [seenAt, hin, Ne.symm hsalt]
        have hrest := ih last fun t ht => by
          rw [hremembers t ht, if_neg hsalt, hrecalls t (hle.trans ht)]
        rw [hseen]
        cases hknown : context.remembers a.now other with
        | true => simp [hok, hknown, hrest]
        | false => simp [hok, hknown, hrest, Ne.symm hsalt]

/-- **No salt is accepted twice** in a run exactly if every two requests in range
    that follow each other with the same salt are at most the expiry apart. -/
theorem acceptedSalts_nodup_iff (detect : Bool) (ty : ServerType) (policy : ReplayAttackPolicy)
    {arrivals : List Arrival} (monotonic : arrivals.Pairwise (·.now ≤ ·.now)) :
    (acceptedSalts cfg key (Context.new (B := B) detect ty policy) arrivals).Nodup ↔
      ∀ salt, (seenAt cfg key salt arrivals).IsChain Remembered := by
  rw [List.nodup_iff_count_le_one]
  refine forall_congr' fun salt => ?_
  rw [count_acceptedSalts cfg key h2022 hserver hpos salt arrivals _ none 0
    (Context.keepsNonces_new detect ty policy) (fun _ _ => rfl) (fun _ _ => Nat.zero_le _) monotonic]
  exact freshTimes_length_le_one_iff _

end Runs

/-! ### A sample run -/

def replayServer : ReaderConfig .transparent :=
  { streamTy := .server, method := .aead2022Blake3Aes128Gcm, userManager := none }

def replaySalt : Bytes := List.replicate 16 1

/-- The header of a client whose clock shows 130 seconds. -/
def replayHeader : Bytes :=
  replaySalt ++ ((CryptoSuite.transparent.cipher replayServer.method [] replaySalt).encryptPacket
    (CryptoSuite.transparent.scheme replayServer.method) (headerPlain .client 130 none 3)).1

/-- That header, read again and again. -/
def replayedAt (times : List Time) : List Arrival :=
  times.map fun now => { now := now, source := Source.unread replayHeader [] }

theorem acceptedSalts_nodup_iff_sample :
    (acceptedSalts replayServer [] (Context.new (B := ExactFilter) true .server .default)
        (replayedAt [100 * Time.second, 150 * Time.second])).Nodup ↔
      ∀ salt, (seenAt replayServer [] salt
        (replayedAt [100 * Time.second, 150 * Time.second])).IsChain Remembered :=
  acceptedSalts_nodup_iff replayServer [] rfl rfl (by decide) true .server .default (by decide)

/-- A header that is replayed 60.5 seconds after it was accepted: it has been
    forgotten, and its timestamp is still in range. -/
theorem acceptedSalts_replayed :
    (replayedAt [100 * Time.second, 160 * Time.second + 500000000]).Pairwise (·.now ≤ ·.now) ∧
      acceptedSalts replayServer [] (Context.new (B := ExactFilter) true .server .default)
        (replayedAt [100 * Time.second, 160 * Time.second + 500000000]) = [replaySalt, replaySalt] :=
  ⟨by decide, by decide +kernel⟩

end Shadowsocks.Tcp.Aead2022
