import Shadowsocks.Lib.Loop
import Shadowsocks.Lib.Text

/-! # Header fields of the HTTP proxy

What the proxy takes off the fields of a message before it passes it on, and how it reads them for
whether the connection is to be kept.  Hop-by-hop fields are removed exactly
(`clearHopHeaders_values`).
-/

namespace Shadowsocks.Local.Http

open Shadowsocks.Lib

/-- What is relied on of the `http` crate. -/
class HttpCrate where
  HeaderName : Type
  decEq : DecidableEq HeaderName
  /-- `HeaderName::from_bytes`, the same for all spellings of a name. -/
  headerName : Text → Option HeaderName
  connection : HeaderName
  headerName_connection : headerName "Connection".toList = some connection
  /-- `HeaderValue::to_str`. -/
  toStr : Bytes → Option Text
  toStr_visible : ∀ t : Text, (t.all fun c => 0x20 ≤ c.toNat && c.toNat < 0x7f) = true →
    toStr (utf8 t) = some t
  /-- `HeaderMap`. -/
  Headers : Type
  /-- `get_all`: the values of a field in their order. -/
  values : Headers → HeaderName → List Bytes
  /-- `HeaderMap::new`. -/
  noHeaders : Headers
  /-- `insert`, in place of the values that there are. -/
  insertHeader : Headers → HeaderName → Bytes → Headers
  /-- The map that `remove` leaves, without any of the values. -/
  removeHeader : Headers → HeaderName → Headers
  values_noHeaders : ∀ name, values noHeaders name = []
  values_insertHeader : ∀ headers name value other, values (insertHeader headers name value) other =
    if other = name then [value] else values headers other
  values_removeHeader : ∀ headers name other, values (removeHeader headers name) other =
    if other = name then [] else values headers other

open HttpCrate

instance [HttpCrate] : DecidableEq HeaderName := decEq

/-- The characters of names. -/
def isTokenChar (c : Char) : Bool :=
  c.isAlphanum || c.toNat ∈
    [0x21, 0x23, 0x24, 0x25, 0x26, 0x27, 0x2a, 0x2b, 0x2d, 0x2e, 0x5e, 0x5f, 0x60, 0x7c, 0x7e]

/-- Names of token characters, in lower case, values of visible ones, and functions for maps. -/
@[reducible] def tokenHttp : HttpCrate where
  HeaderName := Text
  decEq := inferInstance
  headerName t := if t ≠ [] ∧ t.all isTokenChar then some (lower t) else none
  connection := "connection".toList
  headerName_connection := by decide
  toStr value :=
    if value.all fun b => b = 0x09 || (0x20 ≤ b && b < 0x7f) then decodeUtf8 value else none
  toStr_visible := by
    intro t ht
    have hcodes : ∀ c ∈ t, 0x20 ≤ c.toNat ∧ c.toNat < 0x7f := by
      intro c hc
      obtain ⟨hlow, hhigh⟩ := Bool.and_eq_true_iff.1 (List.all_eq_true.1 ht c hc)
      exact ⟨of_decide_eq_true hlow, of_decide_eq_true hhigh⟩
    have hascii : ∀ c ∈ t, c.toNat < 128 := fun c hc => by
      have := (hcodes c hc).2
      omega
    have hvisible : (utf8 t).all (fun b => b = 0x09 || (0x20 ≤ b && b < 0x7f)) = true := by
      rw [utf8_ascii hascii, List.all_map, List.all_eq_true]
      intro c hc
      obtain ⟨hlow, hhigh⟩ := hcodes c hc
      have hcode : (UInt8.ofNat c.toNat).toNat = c.toNat := by
        rw [UInt8.toNat_ofNat']
        omega
      have hbyte : 0x20 ≤ UInt8.ofNat c.toNat ∧ UInt8.ofNat c.toNat < 0x7f := by
        rw [UInt8.le_iff_toNat_le, UInt8.lt_iff_toNat_lt, hcode]
        exact ⟨hlow, hhigh⟩
      change (decide _ || (decide _ && decide _)) = true
      rw [decide_eq_true hbyte.1, decide_eq_true hbyte.2, Bool.and_true, Bool.or_true]
    rw [if_pos hvisible, decodeUtf8_utf8]
  Headers := Text → List Bytes
  values headers name := headers name
  noHeaders _ := []
  insertHeader headers name value other := if other = name then [value] else headers other
  removeHeader headers name other := if other = name then [] else headers other
  values_noHeaders _ := rfl
  values_insertHeader _ _ _ _ := rfl
  values_removeHeader _ _ _ := rfl

inductive Version where
  | http09
  | http10
  | http11
  | http2
  | http3
deriving DecidableEq, Repr

/-- `eq_ignore_ascii_case`. -/
def eqIgnoreAsciiCase (s t : Text) : Bool := lower s = lower t

theorem eqIgnoreAsciiCase_iff {s t : Text} : eqIgnoreAsciiCase s t = true ↔ lower s = lower t :=
  decide_eq_true_iff

variable [HttpCrate]

/-! ## Header maps -/

def HeaderMap : Type := Headers

namespace HeaderMap

def values (headers : HeaderMap) (name : HeaderName) : List Bytes := HttpCrate.values headers name

def new : HeaderMap := noHeaders

def getAll (headers : HeaderMap) (key : Text) : List Bytes :=
  match headerName key with
  | none => []
  | some name => headers.values name

/-- `insert`, with a name. -/
def insert (headers : HeaderMap) (name : HeaderName) (value : Bytes) : HeaderMap :=
  insertHeader headers name value

/-- `remove`: the first value, and the map without any of them. -/
def remove (headers : HeaderMap) (key : Text) : Option Bytes × HeaderMap :=
  match headerName key with
  | none => (none, headers)
  | some name => ((headers.values name).head?, removeHeader headers name)

section Values

variable {headers : HeaderMap} {key : Text} {name : HeaderName}

@[simp] theorem new_values : new.values name = [] := values_noHeaders name

@[simp] theorem insert_values (value : Bytes) (other : HeaderName) :
    (headers.insert name value).values other =
      if other = name then [value] else headers.values other :=
  values_insertHeader headers name value other

theorem getAll_of_name (h : headerName key = some name) : headers.getAll key = headers.values name := by
  unfold getAll
  rw [h]

theorem remove_of_invalid (h : headerName key = none) : headers.remove key = (none, headers) := by
  unfold remove
  rw [h]

theorem remove_fst (h : headerName key = some name) :
    (headers.remove key).1 = (headers.values name).head? := by
  unfold remove
  rw [h]

theorem remove_values (h : headerName key = some name) (other : HeaderName) :
    (headers.remove key).2.values other = if other = name then [] else headers.values other := by
  unfold remove
  rw [h]
  exact values_removeHeader headers name other

end Values

/-- `while headers.remove(key).is_some() {}`. -/
def removeAll (key : Text) : Loop HeaderMap HeaderMap where
  body headers :=
    match headers.remove key with
    | (some _, headers) => .again headers
    | (none, headers) => .leave headers
  measure headers := (headers.getAll key).length
  decreases := by
    intro headers headers' h
    cases hname : headerName key with
    | none =>
      rw [remove_of_invalid hname] at h
      cases h
    | some name =>
      have hfst : (headers.remove key).1 = (headers.values name).head? := remove_fst hname
      have hvalues : (headers.remove key).2.values name = [] := by
        rw [remove_values hname, if_pos rfl]
      rcases hremove : headers.remove key with ⟨value, removed⟩
      rw [hremove] at h hfst hvalues
      rw [getAll_of_name hname, getAll_of_name hname]
      cases value with
      | none => cases h
      | some value =>
        cases h
        obtain ⟨values, hsome⟩ := List.head?_eq_some_iff.1 hfst.symm
        rw [hvalues, hsome]
        exact Nat.succ_pos _

end HeaderMap

/-! ## Hop-by-hop fields -/

def connectionKey : Text := "Connection".toList
def proxyConnectionKey : Text := "Proxy-Connection".toList

theorem getAll_connectionKey (headers : HeaderMap) :
    headers.getAll connectionKey = headers.values connection :=
  HeaderMap.getAll_of_name headerName_connection

/-- The fields that one value names. -/
def valueHeaders (connection : Bytes) : List Text :=
  match toStr connection with
  | none => []
  | some conn =>
    -- close is a command instead of a header
    if eqIgnoreAsciiCase conn "close".toList then []
    else (conn.splitOn ',').map trim

/-- `get_extra_headers`. -/
def getExtraHeaders (values : List Bytes) : List Text := values.flatMap valueHeaders

def hopByHopHeaders : List Text :=
  ["Keep-Alive".toList, "Transfer-Encoding".toList, "TE".toList, connectionKey, "Trailer".toList,
    "Upgrade".toList, "Proxy-Authorization".toList, "Proxy-Authenticate".toList, proxyConnectionKey]

/-- `clear_hop_headers`. -/
def clearHopHeaders (headers : HeaderMap) : HeaderMap :=
  let extraHeaders := getExtraHeaders (headers.getAll connectionKey) ++
    getExtraHeaders (headers.getAll proxyConnectionKey)
  let headers := extraHeaders.foldl (fun headers header => (HeaderMap.removeAll header).run headers)
    headers
  hopByHopHeaders.foldl (fun headers header => (HeaderMap.removeAll header).run headers) headers

/-! ## Keeping connections -/

/-- What one value says about the connection. -/
def valueKeepAlive (value : Bytes) : Option Bool :=
  match toStr value with
  | none => none
  | some value =>
    if eqIgnoreAsciiCase value "close".toList then some false
    else if (value.splitOn ',').any fun part => eqIgnoreAsciiCase (trim part) "keep-alive".toList then
      some true
    else none

/-- `get_keep_alive_val`. -/
def getKeepAliveVal (values : List Bytes) : Option Bool :=
  values.foldl (fun connKeepAlive value => (valueKeepAlive value).or connKeepAlive) none

/-- `check_keep_alive`. -/
def checkKeepAlive (version : Version) (headers : HeaderMap) (checkProxy : Bool) : Bool :=
  let connKeepAlive := !(version = .http09 ∨ version = .http10 : Bool)
  let connKeepAlive :=
    if checkProxy then (getKeepAliveVal (headers.getAll proxyConnectionKey)).getD connKeepAlive
    else connKeepAlive
  (getKeepAliveVal (headers.getAll connectionKey)).getD connKeepAlive

/-- Without a `Connection` field the version decides. -/
theorem checkKeepAlive_of_nil {headers : HeaderMap} (h : headers.getAll connectionKey = [])
    (version : Version) :
    checkKeepAlive version headers false = !(decide (version = .http09 ∨ version = .http10)) := by
  unfold checkKeepAlive
  rw [h]
  rfl

/-- `set_conn_keep_alive`. -/
def setConnKeepAlive (version : Version) (headers : HeaderMap) (keepAlive : Bool) : HeaderMap :=
  match version with
  | .http09 | .http10 =>
    if keepAlive then headers.insert connection (utf8 "keep-alive".toList) else headers
  | .http11 | .http2 | .http3 =>
    if keepAlive then headers else headers.insert connection (utf8 "close".toList)

/-! ## Removing fields -/

namespace HeaderMap

variable {headers : HeaderMap} {key : Text}

/-- Once nothing is left of the field the loop ends. -/
theorem removeAll_of_empty (h : (headers.remove key).1 = none) :
    (removeAll key).run headers = (headers.remove key).2 := by
  apply Loop.run_leave
  change (match headers.remove key with | (some _, headers) => _ | (none, headers) => _) = _
  rcases hremove : headers.remove key with ⟨value, removed⟩
  rw [hremove] at h
  cases h
  rfl

theorem removeAll_of_some {value : Bytes} (h : (headers.remove key).1 = some value) :
    (removeAll key).run headers = (removeAll key).run (headers.remove key).2 := by
  apply Loop.run_again
  change (match headers.remove key with | (some _, headers) => _ | (none, headers) => _) = _
  rcases hremove : headers.remove key with ⟨value, removed⟩
  rw [hremove] at h
  cases h
  rfl

theorem removeAll_values (name : HeaderName) :
    ((removeAll key).run headers).values name =
      if headerName key = some name then [] else headers.values name := by
  cases hkey : headerName key with
  | none =>
    have hnone : headers.remove key = (none, headers) := remove_of_invalid hkey
    rw [removeAll_of_empty (by rw [hnone]), hnone, if_neg (nofun)]
  | some other =>
    have heq : (if name = other then [] else headers.values name) =
        if some other = some name then [] else headers.values name :=
      if_congr ⟨fun h => congrArg some h.symm, fun h => (Option.some.inj h).symm⟩ rfl rfl
    rw [← heq, ← remove_values hkey name]
    cases hvalue : (headers.remove key).1 with
    | none => rw [removeAll_of_empty hvalue]
    | some value =>
      -- what is removed leaves no value, and the loop ends with the next round
      have hgone : ((headers.remove key).2.remove key).1 = none := by
        rw [remove_fst hkey, remove_values hkey, if_pos rfl]
        rfl
      rw [removeAll_of_some hvalue, removeAll_of_empty hgone]
      by_cases heq : name = other
      · rw [remove_values hkey, remove_values hkey, if_pos heq, if_pos heq]
      · rw [remove_values hkey, if_neg heq]

/-- Several keys remove what any of them names. -/
theorem foldl_removeAll_values (keys : List Text) (name : HeaderName) :
    (keys.foldl (fun headers key => (removeAll key).run headers) headers).values name =
      if ∃ key ∈ keys, headerName key = some name then [] else headers.values name := by
  induction keys generalizing headers with
  | nil => rw [if_neg (by simp)]; rfl
  | cons key keys ih =>
    rw [List.foldl_cons, ih, removeAll_values]
    by_cases hkey : headerName key = some name
    · rw [if_pos hkey, ite_self, if_pos ⟨key, List.mem_cons_self, hkey⟩]
    · rw [if_neg hkey]
      apply if_congr _ rfl rfl
      constructor
      · rintro ⟨other, hmem, hother⟩
        exact ⟨other, List.mem_cons_of_mem _ hmem, hother⟩
      · rintro ⟨other, hmem, hother⟩
        rcases List.mem_cons.1 hmem with rfl | hmem
        · exact absurd hother hkey
        · exact ⟨other, hmem, hother⟩

end HeaderMap

/-! ## Hop-by-hop fields are removed exactly -/

section HopByHop

variable {headers : HeaderMap} {name : HeaderName}

/-- The fields that are never passed on. -/
def HopByHop (name : HeaderName) : Prop := ∃ key ∈ hopByHopHeaders, headerName key = some name

/-- A token of a value of the field names the header; a lone `close` names none. -/
def NamedBy (headers : HeaderMap) (field : Text) (name : HeaderName) : Prop :=
  ∃ value ∈ headers.getAll field, ∃ text, toStr value = some text ∧ lower text ≠ "close".toList ∧
    ∃ token ∈ text.splitOn ',', headerName (trim token) = some name

theorem mem_valueHeaders_iff {value : Bytes} {key : Text} :
    key ∈ valueHeaders value ↔
      ∃ text, toStr value = some text ∧ lower text ≠ "close".toList ∧
        ∃ token ∈ text.splitOn ',', trim token = key := by
  have hlower : lower "close".toList = "close".toList := by decide
  unfold valueHeaders
  cases htext : toStr value with
  | none => simp
  | some text =>
    dsimp only
    by_cases hclose : lower text = "close".toList
    · have hlone : eqIgnoreAsciiCase text "close".toList = true :=
        eqIgnoreAsciiCase_iff.2 (hclose.trans hlower.symm)
      rw [if_pos hlone]
      constructor
      · exact fun h => absurd h List.not_mem_nil
      · rintro ⟨_, heq, hne, _⟩
        cases heq
        exact absurd hclose hne
    · have hlone : ¬eqIgnoreAsciiCase text "close".toList = true := fun h =>
        hclose ((eqIgnoreAsciiCase_iff.1 h).trans hlower)
      rw [if_neg hlone, List.mem_map]
      constructor
      · exact fun h => ⟨text, rfl, hclose, h⟩
      · rintro ⟨_, heq, _, h⟩
        cases heq
        exact h

/-- The extra headers are those that a value names. -/
theorem getExtraHeaders_iff {field : Text} :
    (∃ key ∈ getExtraHeaders (headers.getAll field), headerName key = some name) ↔
      NamedBy headers field name := by
  unfold getExtraHeaders NamedBy
  constructor
  · rintro ⟨key, hmem, hkey⟩
    obtain ⟨value, hvalue, hnamed⟩ := List.mem_flatMap.1 hmem
    obtain ⟨text, htext, hclose, token, htoken, rfl⟩ := mem_valueHeaders_iff.1 hnamed
    exact ⟨value, hvalue, text, htext, hclose, token, htoken, hkey⟩
  · rintro ⟨value, hvalue, text, htext, hclose, token, htoken, hkey⟩
    have hnamed : trim token ∈ valueHeaders value :=
      mem_valueHeaders_iff.2 ⟨text, htext, hclose, token, htoken, rfl⟩
    exact ⟨trim token, List.mem_flatMap.2 ⟨value, hvalue, hnamed⟩, hkey⟩

/-- **Hop-by-hop fields are removed exactly.**  Nothing is left of a field that is never passed on or
    that a value of `Connection` or `Proxy-Connection` names; every other field keeps its values. -/
theorem clearHopHeaders_values (headers : HeaderMap) (name : HeaderName) :
    (HopByHop name ∨ NamedBy headers connectionKey name ∨ NamedBy headers proxyConnectionKey name →
      (clearHopHeaders headers).values name = []) ∧
    (¬(HopByHop name ∨ NamedBy headers connectionKey name ∨
        NamedBy headers proxyConnectionKey name) →
      (clearHopHeaders headers).values name = headers.values name) := by
  have hextra : (∃ key ∈ getExtraHeaders (headers.getAll connectionKey) ++
      getExtraHeaders (headers.getAll proxyConnectionKey), headerName key = some name) ↔
      NamedBy headers connectionKey name ∨ NamedBy headers proxyConnectionKey name := by
    rw [← getExtraHeaders_iff, ← getExtraHeaders_iff]
    constructor
    · rintro ⟨key, hmem, hkey⟩
      exact (List.mem_append.1 hmem).imp (fun h => ⟨key, h, hkey⟩) fun h => ⟨key, h, hkey⟩
    · rintro (⟨key, hmem, hkey⟩ | ⟨key, hmem, hkey⟩)
      · exact ⟨key, List.mem_append_left _ hmem, hkey⟩
      · exact ⟨key, List.mem_append_right _ hmem, hkey⟩
  unfold clearHopHeaders
  rw [HeaderMap.foldl_removeAll_values, HeaderMap.foldl_removeAll_values]
  constructor
  · rintro (hfixed | hnamed)
    · exact if_pos hfixed
    · rw [if_pos (hextra.2 hnamed), ite_self]
  · intro h
    obtain ⟨hother, hnamed⟩ := not_or.1 h
    have hfixed : ¬∃ key ∈ hopByHopHeaders, headerName key = some name := hother
    rw [if_neg hfixed, if_neg fun h => hnamed (hextra.1 h)]

end HopByHop

end Shadowsocks.Local.Http
