import Shadowsocks.Local.Http.HttpClient

/-! # Connections that are to be closed

A message asks for its connection to be closed with the token `close` in a `Connection` field.  The
proxy reads it only where it is all of a value, and takes it back where a later value asks to keep the
connection (`keepAlive_close_iff`).
-/

namespace Shadowsocks.Local.Http

open Shadowsocks.Lib HttpCrate

/-- Of the values that say something the last one counts. -/
theorem foldl_or_eq {α β : Type} (f : α → Option β) (l : List α) (init : Option β) :
    l.foldl (fun acc a => (f a).or acc) init = (l.reverse.findSome? f).or init := by
  induction l generalizing init with
  | nil => rfl
  | cons a l ih =>
    rw [List.foldl_cons, ih, List.reverse_cons, List.findSome?_append, Option.or_assoc]
    cases hfa : f a <;> simp [hfa]

section

variable [HttpCrate]

/-! ## What the proxy passes on -/

/-- The response to a request as the client gets it. -/
def forwardedResponse (version : Version) (headers : HeaderMap) (res : Response) : Response :=
  let resKeepAlive :=
    checkKeepAlive version headers true && checkKeepAlive res.version res.headers false
  { version := version
    headers := setConnKeepAlive version (clearHopHeaders res.headers) resKeepAlive }

/-! ## What is asked of a closing message -/

/-- The token, in whatever letters, in a list of tokens with blanks and tabs between them. -/
def HasToken (token : Text) (value : Bytes) : Prop :=
  ∃ piece ∈ value.splitOn 0x2c, ∃ (before after : Bytes) (text : Text),
    piece = before ++ utf8 text ++ after ∧ (∀ b ∈ before ++ after, b = 0x20 ∨ b = 0x09) ∧
      lower text = token

/-- Some `Connection` field has the token `close`. -/
def AsksClose (headers : HeaderMap) : Prop :=
  ∃ value ∈ headers.getAll connectionKey, HasToken "close".toList value

/-- The value is `close` and nothing else. -/
def LoneClose (value : Bytes) : Prop :=
  ∃ text, toStr value = some text ∧ lower text = "close".toList

/-- The value has the token `keep-alive`. -/
def AsksKeepAlive (value : Bytes) : Prop :=
  ∃ text, toStr value = some text ∧ ∃ part ∈ text.splitOn ',', lower (trim part) = "keep-alive".toList

/-- The last of the values that is a lone `close` or asks to keep the connection is a lone `close`. -/
def EndsInClose (values : List Bytes) : Prop :=
  ∃ before value after, values = before ++ value :: after ∧ LoneClose value ∧
    ∀ later ∈ after, ¬LoneClose later ∧ ¬AsksKeepAlive later

/-- No value is a lone `close` or asks to keep the connection. -/
def Silent (values : List Bytes) : Prop :=
  ∀ value ∈ values, ¬LoneClose value ∧ ¬AsksKeepAlive value

/-- The `Connection` fields end in `close`; or they are silent, and the `Proxy-Connection` fields end
    in `close`, where these count, or are silent too and the version closes connections. -/
def Closes (version : Version) (headers : HeaderMap) (checkProxy : Bool) : Prop :=
  EndsInClose (headers.getAll connectionKey) ∨
    Silent (headers.getAll connectionKey) ∧
      (checkProxy = true ∧ EndsInClose (headers.getAll proxyConnectionKey) ∨
        (checkProxy = true → Silent (headers.getAll proxyConnectionKey)) ∧
          (version = .http09 ∨ version = .http10))

/-! ## What a value says -/

section Values

variable {value : Bytes} {values : List Bytes}

theorem valueKeepAlive_close_iff : valueKeepAlive value = some false ↔ LoneClose value := by
  have hlower : lower "close".toList = "close".toList := by decide
  unfold valueKeepAlive LoneClose
  cases toStr value with
  | none => simp
  | some text =>
    dsimp only
    by_cases hclose : eqIgnoreAsciiCase text "close".toList = true
    · rw [if_pos hclose]
      exact iff_of_true rfl ⟨text, rfl, (eqIgnoreAsciiCase_iff.1 hclose).trans hlower⟩
    · rw [if_neg hclose]
      have hother : ¬∃ t, some text = some t ∧ lower t = "close".toList := by
        rintro ⟨_, heq, h⟩
        cases heq
        exact hclose (eqIgnoreAsciiCase_iff.2 (h.trans hlower.symm))
      refine iff_of_false (fun h => ?_) hother
      split at h <;> cases h

/-- A value says nothing about the connection. -/
theorem valueKeepAlive_none_iff :
    valueKeepAlive value = none ↔ ¬LoneClose value ∧ ¬AsksKeepAlive value := by
  have hlower : lower "keep-alive".toList = "keep-alive".toList := by decide
  rw [← valueKeepAlive_close_iff]
  unfold valueKeepAlive AsksKeepAlive
  cases toStr value with
  | none => simp
  | some text =>
    dsimp only
    have hparts : ((text.splitOn ',').any fun part =>
        eqIgnoreAsciiCase (trim part) "keep-alive".toList) = true ↔
        ∃ t, some text = some t ∧
          ∃ part ∈ t.splitOn ',', lower (trim part) = "keep-alive".toList := by
      rw [List.any_eq_true]
      constructor
      · rintro ⟨part, hmem, hpart⟩
        exact ⟨text, rfl, part, hmem, (eqIgnoreAsciiCase_iff.1 hpart).trans hlower⟩
      · rintro ⟨_, heq, part, hmem, hpart⟩
        cases heq
        exact ⟨part, hmem, eqIgnoreAsciiCase_iff.2 (hpart.trans hlower.symm)⟩
    rw [← hparts]
    split
    · simp
    · split <;> simp_all

theorem getKeepAliveVal_eq : getKeepAliveVal values = values.reverse.findSome? valueKeepAlive := by
  unfold getKeepAliveVal
  rw [foldl_or_eq, Option.or_none]

theorem getKeepAliveVal_none_iff : getKeepAliveVal values = none ↔ Silent values := by
  rw [getKeepAliveVal_eq, List.findSome?_eq_none_iff]
  unfold Silent
  simp only [List.mem_reverse, valueKeepAlive_none_iff]

theorem getKeepAliveVal_close_iff : getKeepAliveVal values = some false ↔ EndsInClose values := by
  rw [getKeepAliveVal_eq, List.findSome?_eq_some_iff]
  unfold EndsInClose
  constructor
  · rintro ⟨after, value, before, hvalues, hclose, hafter⟩
    refine ⟨before.reverse, value, after.reverse, ?_, valueKeepAlive_close_iff.1 hclose, ?_⟩
    · rw [← List.reverse_reverse values, hvalues]
      simp
    · intro later hlater
      exact valueKeepAlive_none_iff.1 (hafter later (List.mem_reverse.1 hlater))
  · rintro ⟨before, value, after, rfl, hclose, hafter⟩
    refine ⟨after.reverse, value, before.reverse, by simp, valueKeepAlive_close_iff.2 hclose, ?_⟩
    intro later hlater
    exact valueKeepAlive_none_iff.2 (hafter later (List.mem_reverse.1 hlater))

end Values

/-! ## Closing messages -/

/-- The fields that make the check fail. -/
theorem checkKeepAlive_false_iff {version : Version} {headers : HeaderMap} {checkProxy : Bool} :
    checkKeepAlive version headers checkProxy = false ↔ Closes version headers checkProxy := by
  have hversion : (!(decide (version = .http09 ∨ version = .http10))) = false ↔
      version = .http09 ∨ version = .http10 := by
    rw [Bool.not_eq_false', decide_eq_true_iff]
  have hgetD : ∀ (val : Option Bool) (default : Bool),
      val.getD default = false ↔ val = some false ∨ val = none ∧ default = false := by
    intro val default
    cases val <;> simp
  unfold checkKeepAlive Closes
  dsimp only
  rw [hgetD, getKeepAliveVal_close_iff, getKeepAliveVal_none_iff]
  apply or_congr_right
  apply and_congr_right
  intro _
  cases checkProxy with
  | false => simpa using hversion
  | true =>
    rw [if_pos rfl, hgetD, getKeepAliveVal_close_iff, getKeepAliveVal_none_iff, hversion]
    simp

/-- Nothing says anything about the connection once the hop-by-hop fields are gone. -/
theorem clearHopHeaders_connection (headers : HeaderMap) :
    (clearHopHeaders headers).values connection = [] := by
  have hhop : HopByHop connection := by
    refine ⟨connectionKey, ?_, headerName_connection⟩
    decide
  exact (clearHopHeaders_values headers connection).1 (.inl hhop)

/-- What is set on a message without `Connection` fields is what is read of it. -/
theorem checkKeepAlive_setConnKeepAlive {version : Version} {headers : HeaderMap}
    (h : headers.values connection = []) (keepAlive : Bool) :
    checkKeepAlive version (setConnKeepAlive version headers keepAlive) false = keepAlive := by
  have hclose : valueKeepAlive (utf8 "close".toList) = some false := by
    unfold valueKeepAlive
    rw [toStr_visible _ (by decide)]
    decide
  have hkeep : valueKeepAlive (utf8 "keep-alive".toList) = some true := by
    unfold valueKeepAlive
    rw [toStr_visible _ (by decide)]
    decide
  have hset : ∀ (value : Bytes) (version : Version), checkKeepAlive version
      (headers.insert connection value) false = (valueKeepAlive value).getD
        (!(decide (version = .http09 ∨ version = .http10))) := by
    intro value version
    have hval : getKeepAliveVal ((headers.insert connection value).getAll connectionKey) =
        valueKeepAlive value := by
      rw [getAll_connectionKey, HeaderMap.insert_values, if_pos rfl]
      exact Option.or_none
    rw [← hval]
    rfl
  have hunset : ∀ version : Version, checkKeepAlive version headers false =
      !(decide (version = .http09 ∨ version = .http10)) :=
    checkKeepAlive_of_nil (by rw [getAll_connectionKey, h])
  cases keepAlive with
  | true =>
    cases version with
    | http09 | http10 => exact (hset _ _).trans (by rw [hkeep]; rfl)
    | http11 | http2 | http3 => exact hunset _
  | false =>
    cases version with
    | http09 | http10 => exact hunset _
    | http11 | http2 | http3 => exact (hset _ _).trans (by rw [hclose]; rfl)

/-- The client is told to keep the connection if both messages ask for it. -/
theorem forwardedResponse_keepAlive (version : Version) (headers : HeaderMap) (res : Response) :
    checkKeepAlive (forwardedResponse version headers res).version
        (forwardedResponse version headers res).headers false =
      (checkKeepAlive version headers true && checkKeepAlive res.version res.headers false) :=
  checkKeepAlive_setConnKeepAlive (clearHopHeaders_connection _) _

/-- A connection that is not to be kept does not go into the cache. -/
theorem receiveResponse_close {version : Version} {headers : HeaderMap}
    (h : checkKeepAlive version headers false = false) (now : Time) (host : Net.Address)
    (c : HttpConnection) (client : HttpClient) :
    (receiveResponse { now := now, response := .ok ⟨version, headers⟩ } host c client).2 = client := by
  unfold receiveResponse
  dsimp only
  rw [h]
  rfl

/-- **When `close` is honoured.**  A message that asks for its connection to be closed is understood
    exactly if what the proxy looks at in its fields ends in a lone `close`, or, where that is silent,
    if the version closes connections.  Where it is understood neither connection is kept. -/
theorem keepAlive_close_iff (version : Version) (headers : HeaderMap) (checkProxy : Bool) :
    ((AsksClose headers → checkKeepAlive version headers checkProxy = false) ↔
      (AsksClose headers → Closes version headers checkProxy)) ∧
    (checkKeepAlive version headers true = false → ∀ res : Response,
      checkKeepAlive (forwardedResponse version headers res).version
        (forwardedResponse version headers res).headers false = false) ∧
    (checkKeepAlive version headers false = false →
      (∀ (reqVersion : Version) (reqHeaders : HeaderMap),
        checkKeepAlive (forwardedResponse reqVersion reqHeaders ⟨version, headers⟩).version
          (forwardedResponse reqVersion reqHeaders ⟨version, headers⟩).headers false = false) ∧
      ∀ (now : Time) (host : Net.Address) (c : HttpConnection) (client : HttpClient),
        (receiveResponse { now := now, response := .ok ⟨version, headers⟩ } host c client).2 =
          client) := by
  refine ⟨by rw [checkKeepAlive_false_iff], fun h res => ?_, fun h => ⟨fun reqVersion reqHeaders => ?_,
    receiveResponse_close h⟩⟩
  · rw [forwardedResponse_keepAlive, h, Bool.false_and]
  · rw [forwardedResponse_keepAlive, h, Bool.and_false]

end

/-- A message with the field `Connection: TE, close`. -/
def closingHeaders : @HeaderMap tokenHttp :=
  @HeaderMap.insert tokenHttp (@HeaderMap.new tokenHttp) "connection".toList
    (utf8 "TE, close".toList)

/-- It asks for the connection to be closed, and the connection is kept. -/
theorem keepAlive_of_close :
    @AsksClose tokenHttp closingHeaders ∧
      @checkKeepAlive tokenHttp .http11 closingHeaders false = true := by
  have hvalues : @HeaderMap.getAll tokenHttp closingHeaders connectionKey =
      [utf8 "TE, close".toList] := by
    decide
  have hpieces : (utf8 "TE, close".toList).splitOn 0x2c =
      [utf8 "TE".toList, utf8 " close".toList] := by
    decide
  refine ⟨⟨utf8 "TE, close".toList, ?_, utf8 " close".toList, ?_, [0x20], [], "close".toList,
    by decide, ?_, by decide⟩, by decide⟩
  · rw [hvalues]
    exact List.mem_singleton.2 rfl
  · rw [hpieces]
    exact List.mem_cons_of_mem _ (List.mem_singleton.2 rfl)
  · exact fun b hb => .inl (List.mem_singleton.1 hb)

end Shadowsocks.Local.Http
