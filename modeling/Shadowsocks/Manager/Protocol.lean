import Mathlib.Data.Finmap
import Shadowsocks.Manager.Server

/-! # The manager's protocol

Each type of request has a decoder of its own, and `ManagerRequest` has one for all of them.  They
agree on the requests with a parameter.  A `list` or `ping` is written with a line feed behind it,
which the decoder for all requests trims; the type's own decoder compares the bytes as they are, so it
rejects what its own encoder writes (`protocol_iff`).
-/

namespace Shadowsocks.Protocol

open Shadowsocks.Lib

/-! ### Requests -/

/-- The configuration of a server, all of an `add` request. -/
structure ServerConfig extends AddRequest where
  noDelay : Option Bool
  serverPort_lt : toAddRequest.serverPort < 2 ^ 16
deriving DecidableEq

structure RemoveRequest where
  serverPort : UInt16
deriving DecidableEq

structure ListRequest where
deriving DecidableEq

structure PingRequest where
deriving DecidableEq

/-- What was transferred, by the ports of servers. -/
structure StatRequest where
  stat : Finmap fun _ : UInt16 => UInt64

inductive ManagerRequest where
  | add (req : ServerConfig)
  | remove (req : RemoveRequest)
  | list (req : ListRequest)
  | ping (req : PingRequest)
  | stat (req : StatRequest)

inductive Error where
  | jsonError (e : Text)
  | fromUtf8Error
  | missingParameter
  | redundantParameter
  | unrecognizedCommand (cmd : Text)
deriving DecidableEq, Repr

/-- `serde_json` for one type. -/
structure JsonCodec (α : Type) where
  toVec : α → Bytes
  fromSlice : Bytes → Except Text α

/-- What is written of a value is read back, with a blank before it and a line feed behind. -/
def JsonCodec.RoundTrips {α : Type} (codec : JsonCodec α) (a : α) : Prop :=
  codec.fromSlice (0x20 :: (codec.toVec a ++ [0x0a])) = .ok a

structure SerdeJson where
  add : JsonCodec ServerConfig
  remove : JsonCodec RemoveRequest
  stat : JsonCodec StatRequest

/-! ### Encoders and decoders -/

/-- `splitn(2, b':')`. -/
def splitColon (buf : Bytes) : Bytes × Option Bytes :=
  match buf.dropWhile (· != 0x3a) with
  | [] => (buf, none)
  | _ :: rest => (buf.takeWhile (· != 0x3a), some rest)

/-- The command of a request and its parameter, if it has one. -/
def readCommand (buf : Bytes) : Except Error (Text × Option Bytes) :=
  let (cmd, param) := splitColon buf
  match decodeUtf8 cmd with
  | none => .error .fromUtf8Error
  | some cmd => .ok (trim cmd, param)

section Parameter

variable {α : Type} (codec : JsonCodec α)

/-- `serde_json::from_slice`, of a parameter that has to be there. -/
def readParameter (param : Option Bytes) : Except Error α :=
  match param with
  | none => .error .missingParameter
  | some param => (codec.fromSlice param).mapError .jsonError

/-- A parameter that may not be there. -/
def noParameter (param : Option Bytes) (req : α) : Except Error α :=
  if param.isSome then .error .redundantParameter else .ok req

/-- `from_bytes` of a request with a parameter. -/
def fromParameter (command : Text) (buf : Bytes) : Except Error α := do
  let (cmd, param) ← readCommand buf
  if cmd ≠ command then throw (.unrecognizedCommand cmd)
  readParameter codec param

/-- `to_bytes` of a request with a parameter. -/
def toParameter (command : Text) (a : α) : Bytes :=
  utf8 command ++ 0x3a :: 0x20 :: (codec.toVec a ++ [0x0a])

end Parameter

/-- `from_bytes` of a request without parameters. -/
def fromWhole {α : Type} (command : Text) (req : α) (buf : Bytes) : Except Error α :=
  match decodeUtf8 buf with
  | none => .error .fromUtf8Error
  | some cmd => if cmd ≠ command then .error (.unrecognizedCommand cmd) else .ok req

/-- `to_bytes` of a request without parameters. -/
def toWhole (command : Text) : Bytes := utf8 command ++ [0x0a]

def addCommand : Text := "add".toList
def removeCommand : Text := "remove".toList
def listCommand : Text := "list".toList
def pingCommand : Text := "ping".toList
def statCommand : Text := "stat".toList

namespace ServerConfig

def fromBytes (json : SerdeJson) : Bytes → Except Error ServerConfig :=
  fromParameter json.add addCommand

def toBytes (json : SerdeJson) : ServerConfig → Bytes := toParameter json.add addCommand

end ServerConfig

namespace RemoveRequest

def fromBytes (json : SerdeJson) : Bytes → Except Error RemoveRequest :=
  fromParameter json.remove removeCommand

def toBytes (json : SerdeJson) : RemoveRequest → Bytes := toParameter json.remove removeCommand

end RemoveRequest

namespace ListRequest

def fromBytes : Bytes → Except Error ListRequest := fromWhole listCommand {}

def toBytes (_ : ListRequest) : Bytes := toWhole listCommand

end ListRequest

namespace PingRequest

def fromBytes : Bytes → Except Error PingRequest := fromWhole pingCommand {}

def toBytes (_ : PingRequest) : Bytes := toWhole pingCommand

end PingRequest

namespace StatRequest

def fromBytes (json : SerdeJson) : Bytes → Except Error StatRequest :=
  fromParameter json.stat statCommand

def toBytes (json : SerdeJson) : StatRequest → Bytes := toParameter json.stat statCommand

end StatRequest

namespace ManagerRequest

variable (json : SerdeJson)

def toBytes : ManagerRequest → Bytes
  | add req => req.toBytes json
  | remove req => req.toBytes json
  | list req => req.toBytes
  | ping req => req.toBytes
  | stat req => req.toBytes json

def fromBytes (buf : Bytes) : Except Error ManagerRequest := do
  let (cmd, param) ← readCommand buf
  if cmd = addCommand then add <$> readParameter json.add param
  else if cmd = removeCommand then remove <$> readParameter json.remove param
  else if cmd = listCommand then list <$> noParameter param {}
  else if cmd = pingCommand then ping <$> noParameter param {}
  else if cmd = statCommand then stat <$> readParameter json.stat param
  else throw (.unrecognizedCommand cmd)

/-- `serde_json` round-trips what it writes of the request. -/
def JsonRoundTrips : ManagerRequest → Prop
  | add req => json.add.RoundTrips req
  | remove req => json.remove.RoundTrips req
  | list _ => True
  | ping _ => True
  | stat req => json.stat.RoundTrips req

end ManagerRequest

/-! ### Commands -/

theorem splitColon_append {cmd : Bytes} (h : 0x3a ∉ cmd) (rest : Bytes) :
    splitColon (cmd ++ 0x3a :: rest) = (cmd, some rest) := by
  have hall : ∀ b ∈ cmd, (b != 0x3a) = true := fun b hb => bne_iff_ne.2 fun heq => h (heq ▸ hb)
  have hcolon : ¬((0x3a : UInt8) != 0x3a) = true := by decide
  have hdrop : (cmd ++ 0x3a :: rest).dropWhile (· != 0x3a) = 0x3a :: rest := by
    rw [List.dropWhile_append_of_pos hall]
    exact List.dropWhile_cons_of_neg hcolon
  have htake : (cmd ++ 0x3a :: rest).takeWhile (· != 0x3a) = cmd := by
    have hnone : (0x3a :: rest).takeWhile (· != 0x3a) = [] := List.takeWhile_cons_of_neg hcolon
    rw [List.takeWhile_append_of_pos hall, hnone, List.append_nil]
  rw [splitColon, hdrop, htake]

theorem splitColon_whole {buf : Bytes} (h : 0x3a ∉ buf) : splitColon buf = (buf, none) := by
  have hdrop : buf.dropWhile (· != 0x3a) = [] :=
    List.dropWhile_eq_nil_iff.2 fun b hb => bne_iff_ne.2 fun heq => h (heq ▸ hb)
  rw [splitColon, hdrop]

/-- There is no parameter only where there is no colon. -/
theorem splitColon_none {buf cmd : Bytes} (h : splitColon buf = (cmd, none)) :
    cmd = buf ∧ 0x3a ∉ buf := by
  unfold splitColon at h
  split at h
  · next hdrop =>
    cases h
    refine ⟨rfl, fun hmem => ?_⟩
    exact absurd (List.dropWhile_eq_nil_iff.1 hdrop _ hmem) (by decide)
  · cases h

theorem readCommand_append {command : Text} (hcolon : 0x3a ∉ utf8 command) (rest : Bytes) :
    readCommand (utf8 command ++ 0x3a :: rest) = .ok (trim command, some rest) := by
  rw [readCommand, splitColon_append hcolon]
  dsimp only
  rw [decodeUtf8_utf8]

/-- A command without a parameter is all that there is, up to blanks. -/
theorem readCommand_none_iff {buf : Bytes} {command : Text} :
    readCommand buf = .ok (command, none) ↔
      0x3a ∉ buf ∧ ∃ text, decodeUtf8 buf = some text ∧ trim text = command := by
  constructor
  · intro h
    unfold readCommand at h
    cases hsplit : splitColon buf with
    | mk cmd param =>
      rw [hsplit] at h
      dsimp only at h
      split at h
      · cases h
      · next text htext =>
        cases h
        obtain ⟨rfl, hcolon⟩ := splitColon_none hsplit
        exact ⟨hcolon, text, htext, rfl⟩
  · rintro ⟨hcolon, text, htext, rfl⟩
    rw [readCommand, splitColon_whole hcolon]
    dsimp only
    rw [htext]

/-! ### Kinds of requests -/

inductive RequestKind where
  | add
  | remove
  | list
  | ping
  | stat
deriving DecidableEq, Repr

namespace RequestKind

/-- The type of the kind. -/
def Value : RequestKind → Type
  | add => ServerConfig
  | remove => RemoveRequest
  | list => ListRequest
  | ping => PingRequest
  | stat => StatRequest

/-- `ManagerRequest::command`. -/
def command : RequestKind → Text
  | add => addCommand
  | remove => removeCommand
  | list => listCommand
  | ping => pingCommand
  | stat => statCommand

/-- The variant of the kind. -/
def request : (kind : RequestKind) → kind.Value → ManagerRequest
  | add => .add
  | remove => .remove
  | list => .list
  | ping => .ping
  | stat => .stat

variable (json : SerdeJson)

def fromBytes : (kind : RequestKind) → Bytes → Except Error kind.Value
  | add => ServerConfig.fromBytes json
  | remove => RemoveRequest.fromBytes json
  | list => ListRequest.fromBytes
  | ping => PingRequest.fromBytes
  | stat => StatRequest.fromBytes json

def toBytes : (kind : RequestKind) → kind.Value → Bytes
  | add => ServerConfig.toBytes json
  | remove => RemoveRequest.toBytes json
  | list => ListRequest.toBytes
  | ping => PingRequest.toBytes
  | stat => StatRequest.toBytes json

/-- What the decoder for all requests makes of the parameter of a kind. -/
def readParam : (kind : RequestKind) → Option Bytes → Except Error kind.Value
  | add, param => readParameter json.add param
  | remove, param => readParameter json.remove param
  | list, param => noParameter param ({} : ListRequest)
  | ping, param => noParameter param ({} : PingRequest)
  | stat, param => readParameter json.stat param

/-- The kinds without parameters. -/
def IsBare (kind : RequestKind) : Prop := kind = list ∨ kind = ping

theorem request_injective {kind kind' : RequestKind} {a : kind.Value} {a' : kind'.Value}
    (h : kind.request a = kind'.request a') : ∃ heq : kind = kind', heq ▸ a = a' := by
  cases kind <;> cases kind' <;> cases h <;> exact ⟨rfl, rfl⟩

theorem trim_command (kind : RequestKind) : trim kind.command = kind.command := by
  cases kind <;> decide

theorem notMem_command (kind : RequestKind) : 0x3a ∉ utf8 kind.command := by
  cases kind <;> decide

end RequestKind

/-! ### The decoder for all requests -/

section Decoding

variable {json : SerdeJson} {buf : Bytes}

theorem fromBytes_command {kind : RequestKind} {param : Option Bytes}
    (h : readCommand buf = .ok (kind.command, param)) :
    ManagerRequest.fromBytes json buf = kind.request <$> kind.readParam json param := by
  rw [ManagerRequest.fromBytes, h]
  cases kind <;> rfl

theorem map_eq_ok_iff {ε α β : Type} {f : α → β} {x : Except ε α} {b : β} :
    f <$> x = .ok b ↔ ∃ a, x = .ok a ∧ f a = b := by
  cases x with
  | error e => exact ⟨fun h => (nomatch h), fun ⟨_, h, _⟩ => (nomatch h)⟩
  | ok a => exact ⟨fun h => ⟨a, rfl, Except.ok.inj h⟩, fun ⟨_, heq, h⟩ => by cases heq; exact congrArg _ h⟩

/-- A request is decoded of its command and what is made of the parameter. -/
theorem fromBytes_request_iff {kind : RequestKind} {t : kind.Value} :
    ManagerRequest.fromBytes json buf = .ok (kind.request t) ↔
      ∃ param, readCommand buf = .ok (kind.command, param) ∧ kind.readParam json param = .ok t := by
  constructor
  · intro h
    cases hread : readCommand buf with
    | error e =>
      rw [ManagerRequest.fromBytes, hread] at h
      cases h
    | ok read =>
      obtain ⟨cmd, param⟩ := read
      by_cases hknown : ∃ kind' : RequestKind, cmd = kind'.command
      · obtain ⟨kind', rfl⟩ := hknown
        rw [fromBytes_command hread] at h
        obtain ⟨t', ht', heq⟩ := map_eq_ok_iff.1 h
        obtain ⟨rfl, rfl⟩ := RequestKind.request_injective heq
        exact ⟨param, rfl, ht'⟩
      · have hne : ∀ kind' : RequestKind, cmd ≠ kind'.command := fun kind' heq => hknown ⟨kind', heq⟩
        rw [ManagerRequest.fromBytes, hread] at h
        change (if cmd = addCommand then _ else _) = _ at h
        have hadd : cmd ≠ addCommand := hne .add
        have hremove : cmd ≠ removeCommand := hne .remove
        have hlist : cmd ≠ listCommand := hne .list
        have hping : cmd ≠ pingCommand := hne .ping
        have hstat : cmd ≠ statCommand := hne .stat
        rw [if_neg hadd, if_neg hremove, if_neg hlist, if_neg hping, if_neg hstat] at h
        cases h
  · rintro ⟨param, hread, ht⟩
    rw [fromBytes_command hread, ht]
    rfl

theorem fromParameter_iff {α : Type} {codec : JsonCodec α} {command : Text} {a : α} :
    fromParameter codec command buf = .ok a ↔
      ∃ param, readCommand buf = .ok (command, param) ∧ readParameter codec param = .ok a := by
  unfold fromParameter
  cases readCommand buf with
  | error e => exact ⟨fun h => (nomatch h), fun ⟨_, h, _⟩ => (nomatch h)⟩
  | ok read =>
    obtain ⟨cmd, param⟩ := read
    by_cases hcmd : cmd = command
    · subst hcmd
      have hread : (do
          let (cmd', param') ← (.ok (cmd, param) : Except Error (Text × Option Bytes))
          if cmd' ≠ cmd then throw (.unrecognizedCommand cmd')
          readParameter codec param') = readParameter codec param := by
        change (if cmd ≠ cmd then _ else _) = _
        rw [if_neg (not_not.2 rfl)]
      rw [hread]
      exact ⟨fun h => ⟨param, rfl, h⟩, fun ⟨_, heq, h⟩ => by cases heq; exact h⟩
    · constructor
      · intro h
        change (if cmd ≠ command then _ else _) = _ at h
        rw [if_pos hcmd] at h
        cases h
      · rintro ⟨_, heq, _⟩
        cases heq
        exact absurd rfl hcmd

theorem fromWhole_iff {α : Type} {command : Text} {req a : α} :
    fromWhole command req buf = .ok a ↔ decodeUtf8 buf = some command ∧ req = a := by
  unfold fromWhole
  cases decodeUtf8 buf with
  | none => exact ⟨fun h => (nomatch h), fun ⟨h, _⟩ => (nomatch h)⟩
  | some cmd =>
    by_cases hcmd : cmd = command
    · subst hcmd
      dsimp only
      rw [if_neg (not_not.2 rfl)]
      exact ⟨fun h => ⟨rfl, Except.ok.inj h⟩, fun ⟨_, h⟩ => congrArg _ h⟩
    · dsimp only
      rw [if_pos hcmd]
      exact ⟨fun h => (nomatch h), fun ⟨h, _⟩ => absurd (Option.some.inj h) hcmd⟩

theorem noParameter_iff {α : Type} {param : Option Bytes} {req a : α} :
    noParameter param req = .ok a ↔ param = none ∧ req = a := by
  unfold noParameter
  cases param with
  | none => exact ⟨fun h => ⟨rfl, Except.ok.inj h⟩, fun ⟨_, h⟩ => congrArg Except.ok h⟩
  | some param => exact ⟨fun h => (nomatch h), fun ⟨h, _⟩ => (nomatch h)⟩

end Decoding

/-! ### Round trips -/

theorem readCommand_toParameter {α : Type} (codec : JsonCodec α) (kind : RequestKind) (a : α) :
    readCommand (toParameter codec kind.command a) =
      .ok (kind.command, some (0x20 :: (codec.toVec a ++ [0x0a]))) := by
  rw [toParameter, readCommand_append kind.notMem_command, kind.trim_command]

theorem readCommand_toWhole {kind : RequestKind} (h : kind.IsBare) :
    readCommand (toWhole kind.command) = .ok (kind.command, none) := by
  rcases h with rfl | rfl <;> decide

theorem readParameter_roundTrips {α : Type} {codec : JsonCodec α} {a : α}
    (h : codec.RoundTrips a) :
    readParameter codec (some (0x20 :: (codec.toVec a ++ [0x0a]))) = .ok a := by
  rw [readParameter, h]
  rfl

/-- The line feed that is written behind the command is taken for a part of it. -/
theorem fromWhole_toWhole {α : Type} {kind : RequestKind} (h : kind.IsBare) (req a : α) :
    fromWhole kind.command req (toWhole kind.command) ≠ .ok a := by
  intro hok
  have hdecode := (fromWhole_iff.1 hok).1
  rcases h with rfl | rfl <;> revert hdecode <;> decide

variable {json : SerdeJson}

theorem readCommand_toParameter_param {α : Type} {codec : JsonCodec α} {a : α}
    (h : codec.RoundTrips a) (kind : RequestKind) :
    ∃ param, readCommand (toParameter codec kind.command a) = .ok (kind.command, param) ∧
      readParameter codec param = .ok a :=
  ⟨_, readCommand_toParameter codec kind a, readParameter_roundTrips h⟩

/-- What is read of a request as it is written. -/
theorem readCommand_toBytes (kind : RequestKind) (t : kind.Value)
    (h : (kind.request t).JsonRoundTrips json) :
    ∃ param, readCommand ((kind.request t).toBytes json) = .ok (kind.command, param) ∧
      kind.readParam json param = .ok t := by
  cases kind with
  | add => exact @readCommand_toParameter_param ServerConfig json.add t h .add
  | remove => exact @readCommand_toParameter_param RemoveRequest json.remove t h .remove
  | list => exact ⟨none, @readCommand_toWhole .list (.inl rfl), rfl⟩
  | ping => exact ⟨none, @readCommand_toWhole .ping (.inr rfl), rfl⟩
  | stat => exact @readCommand_toParameter_param StatRequest json.stat t h .stat

theorem request_surjective (r : ManagerRequest) :
    ∃ (kind : RequestKind) (t : kind.Value), kind.request t = r := by
  cases r with
  | add req => exact ⟨.add, req, rfl⟩
  | remove req => exact ⟨.remove, req, rfl⟩
  | list req => exact ⟨.list, req, rfl⟩
  | ping req => exact ⟨.ping, req, rfl⟩
  | stat req => exact ⟨.stat, req, rfl⟩

theorem ManagerRequest.fromBytes_toBytes (r : ManagerRequest) (h : r.JsonRoundTrips json) :
    ManagerRequest.fromBytes json (r.toBytes json) = .ok r := by
  obtain ⟨kind, t, rfl⟩ := request_surjective r
  exact fromBytes_request_iff.2 (readCommand_toBytes kind t h)

/-- A type's own decoder reads what its encoder writes, but for those without a parameter. -/
theorem RequestKind.fromBytes_toBytes_iff (kind : RequestKind) (t : kind.Value)
    (h : (kind.request t).JsonRoundTrips json) :
    kind.fromBytes json (kind.toBytes json t) = .ok t ↔ ¬kind.IsBare := by
  have hbare : kind.IsBare ↔ kind = .list ∨ kind = .ping := Iff.rfl
  cases kind with
  | add => exact iff_of_true (fromParameter_iff.2 (readCommand_toBytes .add t h)) (by rw [hbare]; decide)
  | remove =>
    exact iff_of_true (fromParameter_iff.2 (readCommand_toBytes .remove t h)) (by rw [hbare]; decide)
  | list => exact iff_of_false (@fromWhole_toWhole ListRequest .list (.inl rfl) {} t) (not_not.2 (.inl rfl))
  | ping => exact iff_of_false (@fromWhole_toWhole PingRequest .ping (.inr rfl) {} t) (not_not.2 (.inr rfl))
  | stat => exact iff_of_true (fromParameter_iff.2 (readCommand_toBytes .stat t h)) (by rw [hbare]; decide)

/-! ### Agreement -/

/-- The command of a kind without parameters stands alone, whatever blanks are around it. -/
def RequestKind.Blank (kind : RequestKind) (buf : Bytes) : Prop :=
  0x3a ∉ buf ∧ ∃ text, decodeUtf8 buf = some text ∧ trim text = kind.command

theorem fromBytes_bare_iff {buf : Bytes} {kind : RequestKind} (hbare : kind.IsBare)
    {t : kind.Value} :
    ManagerRequest.fromBytes json buf = .ok (kind.request t) ↔ kind.Blank buf := by
  have hparam : ∀ param, kind.readParam json param = .ok t ↔ param = none := by
    intro param
    rcases hbare with rfl | rfl
    · exact noParameter_iff.trans (and_iff_left rfl)
    · exact noParameter_iff.trans (and_iff_left rfl)
  rw [fromBytes_request_iff, RequestKind.Blank, ← readCommand_none_iff]
  constructor
  · rintro ⟨param, hread, hok⟩
    rwa [(hparam param).1 hok] at hread
  · exact fun hread => ⟨none, hread, (hparam none).2 rfl⟩

theorem RequestKind.fromBytes_bare_iff {buf : Bytes} {kind : RequestKind} (hbare : kind.IsBare)
    {t : kind.Value} :
    kind.fromBytes json buf = .ok t ↔ decodeUtf8 buf = some kind.command := by
  rcases hbare with rfl | rfl
  · exact fromWhole_iff.trans (and_iff_left rfl)
  · exact fromWhole_iff.trans (and_iff_left rfl)

/-- The decoders of the types with a parameter agree with the one for all requests. -/
theorem RequestKind.fromBytes_iff {buf : Bytes} {kind : RequestKind} (hbare : ¬kind.IsBare)
    {t : kind.Value} :
    kind.fromBytes json buf = .ok t ↔ ManagerRequest.fromBytes json buf = .ok (kind.request t) := by
  rw [fromBytes_request_iff]
  cases kind with
  | add => exact fromParameter_iff
  | remove => exact fromParameter_iff
  | list => exact absurd (.inl rfl) hbare
  | ping => exact absurd (.inr rfl) hbare
  | stat => exact fromParameter_iff

/-- Bytes that are read as a command that stands alone have no colon. -/
theorem RequestKind.blank_of_decode {buf : Bytes} {kind : RequestKind}
    (h : decodeUtf8 buf = some kind.command) : kind.Blank buf := by
  refine ⟨?_, kind.command, h, kind.trim_command⟩
  rw [← utf8_of_decodeUtf8 h]
  exact kind.notMem_command

/-- The value of a kind without parameters. -/
theorem RequestKind.IsBare.exists_value {kind : RequestKind} (h : kind.IsBare) :
    Nonempty kind.Value := by
  rcases h with rfl | rfl
  · exact ⟨({} : ListRequest)⟩
  · exact ⟨({} : PingRequest)⟩

/-- **What the protocol's decoders agree on.**  The decoder for all requests reads what is written of
    any; the decoder of one type does so exactly if the type has a parameter; and the two agree on the
    bytes unless these are a command without parameters with blanks around it. -/
theorem protocol_iff (json : SerdeJson) :
    (∀ r : ManagerRequest, r.JsonRoundTrips json →
      ManagerRequest.fromBytes json (r.toBytes json) = .ok r) ∧
    (∀ (kind : RequestKind) (t : kind.Value), (kind.request t).JsonRoundTrips json →
      (kind.fromBytes json (kind.toBytes json t) = .ok t ↔ ¬kind.IsBare)) ∧
    ∀ (kind : RequestKind) (buf : Bytes),
      (∀ t : kind.Value, kind.fromBytes json buf = .ok t ↔
        ManagerRequest.fromBytes json buf = .ok (kind.request t)) ↔
      (kind.IsBare → kind.Blank buf → decodeUtf8 buf = some kind.command) := by
  refine ⟨ManagerRequest.fromBytes_toBytes, RequestKind.fromBytes_toBytes_iff, fun kind buf => ?_⟩
  by_cases hbare : kind.IsBare
  · obtain ⟨t⟩ := hbare.exists_value
    constructor
    · intro hagree _ hblank
      exact (RequestKind.fromBytes_bare_iff hbare).1
        ((hagree t).2 ((fromBytes_bare_iff hbare).2 hblank))
    · intro hexact t
      rw [RequestKind.fromBytes_bare_iff hbare, fromBytes_bare_iff hbare]
      exact ⟨RequestKind.blank_of_decode, hexact hbare⟩
  · exact iff_of_true (fun t => RequestKind.fromBytes_iff hbare) fun h => absurd h hbare

/-- A `serde_json` that knows the removal of one server. -/
def removalJson : SerdeJson where
  add := ⟨fun _ => [], fun _ => .error []⟩
  remove := ⟨fun req => utf8 ("\x7b\"server_port\":".toList ++ req.serverPort.toNat.repr.toList ++ ['\x7d']),
    fun bs => if bs = utf8 " \x7b\"server_port\":8388\x7d\n".toList then .ok ⟨8388⟩ else .error []⟩
  stat := ⟨fun _ => [], fun _ => .error []⟩

theorem protocol_iff_removal :
    RemoveRequest.fromBytes removalJson (RemoveRequest.toBytes removalJson ⟨8388⟩) = .ok ⟨8388⟩ :=
  ((protocol_iff removalJson).2.1 .remove ⟨8388⟩ (by
    change JsonCodec.RoundTrips removalJson.remove ⟨8388⟩
    rfl)).2 (by
      rintro (h | h) <;> cases h)

/-- `list` is not read back by its own type. -/
theorem list_not_read_back :
    ListRequest.fromBytes (ListRequest.toBytes {}) =
      .error (.unrecognizedCommand (listCommand ++ "\n".toList)) := by
  decide

end Shadowsocks.Protocol
