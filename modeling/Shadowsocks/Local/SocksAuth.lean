import Shadowsocks.Local.SocksServer

/-! # What a SOCKS client gets without a password

A listener with users lets a SOCKS5 client have nothing before it has presented the name and the
password of one of them, whatever else it sends (`grants_only_authenticated`).  SOCKS4 clients and
HTTP clients, which the same listener takes, are not asked for any (`socks4_unauthenticated`).
-/

namespace Shadowsocks.Local

open Shadowsocks.Lib Shadowsocks.Net

/-- Whether a client has got what only a user may have: a connection to its target, or a success
    reply to its request. -/
def Effect.grants : Effect → Bool
  | .connects _ => true
  | .relays _ => true
  | .sent (.response resp) => resp.reply = .succeeded
  | .sent (.socks4 cd) => cd = .requestGranted
  | .sent (.handshake _) => false
  | .sent (.passwdAuth _) => false

/-- The client has sent a handshake and then the name and the password of a user. -/
def Presented (auth : Socks5AuthConfig) (read : Bytes) : Prop :=
  ∃ (handshake : Socks5.HandshakeRequest) (req : Socks5.PasswdAuthRequest)
    (userName password : String) (rest : Bytes),
    (userName, password) ∈ auth.passwd.passwd ∧ fromUtf8 req.uname = some userName ∧
      fromUtf8 req.passwd = some password ∧
      read = handshake.writeToBuf ++ (req.writeToBuf ++ rest)

theorem Presented.append {auth : Socks5AuthConfig} {read : Bytes} (h : Presented auth read)
    (more : Bytes) : Presented auth (read ++ more) := by
  obtain ⟨handshake, req, userName, password, rest, huser, huname, hpasswd, rfl⟩ := h
  exact ⟨handshake, req, userName, password, rest ++ more, huser, huname, hpasswd, by simp⟩

/-- All that was granted was granted to a user; `J` is what has been read so far. -/
structure Guarded (auth : Socks5AuthConfig) (J : Bytes → Prop) (s : Conversation) : Prop where
  granted : ∀ e ∈ s.log, e.effect.grants = true → Presented auth e.read
  read : J s.read

/-- Anything may have been read. -/
def anyRead : Bytes → Prop := fun _ => True

section Conversations

variable {auth : Socks5AuthConfig} {J : Bytes → Prop}

theorem Guarded.weaken {s : Conversation} (h : Guarded auth J s) : Guarded auth anyRead s :=
  ⟨h.granted, trivial⟩

/-- What is granted after `J` has been read is granted to a user. -/
theorem Guarded.record {s : Conversation} (h : Guarded auth J s) {effect : Effect}
    (hgrants : effect.grants = true → Presented auth s.read) :
    Guarded auth J (s.record effect) := by
  refine ⟨fun e he hgranted => ?_, h.read⟩
  obtain hold | hnew := List.mem_append.1 he
  · exact h.granted e hold hgranted
  · obtain rfl := List.mem_singleton.1 hnew
    exact hgrants hgranted

theorem send_guarded {message : Message}
    (hgrants : (Effect.sent message).grants = true → ∀ read, J read → Presented auth read) :
    Triple (Guarded auth J) (send message) (Post.always (Guarded auth J)) := by
  intro s hs
  have hsent := hs.record fun hgranted => hgrants hgranted s.read hs.read
  unfold send
  cases message.writeToBuf with
  | none => exact hs
  | some _ =>
    dsimp only
    split
    · exact hsent
    · exact ⟨hsent.granted, hsent.read⟩
    · exact ⟨hsent.granted, hsent.read⟩

theorem ignore_guarded {ε ε' : Type} {x : PollM Conversation ε Unit}
    (hx : Triple (Guarded auth J) x (Post.always (Guarded auth J))) :
    Triple (Guarded auth J) (ignore x : PollM Conversation ε' Unit)
      (Post.always (Guarded auth J)) :=
  Triple.handle hx fun _ => Triple.pure fun _ hs => hs

/-- A reader that goes on from `J` and is ready with a value has read the bytes of the value. -/
theorem receive_guarded {ε α : Type} {x : PollM Bytes ε α} {bytes : α → Bytes}
    (hx : ∀ {bs rest : Bytes} {a : α}, x bs = (.ready a, rest) → bs = bytes a ++ rest)
    (before : Bytes) :
    Triple (Guarded auth (· = before)) (receive x)
      { ready := fun a => Guarded auth (· = before ++ bytes a), pending := Guarded auth anyRead
        failed := fun _ => Guarded auth anyRead, panicked := Guarded auth anyRead } := by
  intro s hs
  apply Post.holds_on
  rcases hres : x s.unread with ⟨res, rest⟩
  cases res with
  | ready a =>
    have hunread := hx hres
    have hread : s.read = before := hs.read
    refine ⟨hs.granted, ?_⟩
    dsimp only
    rw [hread, hunread, List.length_append, Nat.add_sub_cancel, List.take_left]
  | pending => exact ⟨hs.granted, trivial⟩
  | failed e => exact ⟨hs.granted, trivial⟩
  | panicked => exact ⟨hs.granted, trivial⟩

/-- A user stays one, whatever else is read. -/
theorem receive_presented {ε α : Type} (x : PollM Bytes ε α) :
    Triple (Guarded auth (Presented auth)) (receive x)
      (Post.always (Guarded auth (Presented auth))) := by
  intro s hs
  apply Post.holds_on
  exact Post.holds_always.2 ⟨hs.granted, hs.read.append _⟩

end Conversations

namespace SocksTcpHandler

variable (handler : SocksTcpHandler)

/-- What holds all the time once the client has been let in. -/
def Member (s : Conversation) : Prop :=
  Guarded handler.socks5Auth (Presented handler.socks5Auth) s

variable {handler}

/-! ## After the authentication -/

theorem send_member (message : Message) :
    Triple handler.Member (send message) (Post.always handler.Member) :=
  send_guarded fun _ _ h => h

theorem connectTarget_member (target : Address) :
    Triple handler.Member (handler.connectTarget target) (Post.always handler.Member) := by
  apply Triple.update (M := handler.Member)
  · intro s hs
    exact hs.record fun _ => hs.read
  · exact Triple.pure fun _ hs => hs

theorem establishTcpTunnel_member (target : Address) :
    Triple handler.Member (establishTcpTunnel target) (Post.always handler.Member) :=
  fun _ hs => hs.record fun _ => hs.read

theorem handleTcpConnect_member (target : Address) :
    Triple handler.Member (handler.handleTcpConnect target) (Post.always handler.Member) := by
  unfold handleTcpConnect
  split
  · exact send_member _
  · apply Triple.always_bind (connectTarget_member target)
    intro remote
    split
    · exact Triple.always_bind (send_member _) fun _ => establishTcpTunnel_member target
    · exact Triple.fail fun _ hs => hs
    · exact Triple.always_bind (send_member _) fun _ => Triple.fail fun _ hs => hs

theorem handleUdpAssociate_member (clientAddr : Address) :
    Triple handler.Member (handler.handleUdpAssociate clientAddr) (Post.always handler.Member) := by
  unfold handleUdpAssociate
  split
  · exact send_member _
  · exact send_member _

/-- Whatever request a user makes. -/
theorem handleRequest_member :
    Triple handler.Member handler.handleRequest (Post.always handler.Member) := by
  unfold handleRequest
  apply Triple.always_bind
  · apply Triple.handle (receive_presented _)
    intro err
    exact Triple.always_bind (send_member _) fun _ => Triple.fail fun _ hs => hs
  · intro header
    cases header.command with
    | tcpConnect => exact handleTcpConnect_member header.address
    | udpAssociate => exact handleUdpAssociate_member header.address
    | tcpBind => exact send_member _

/-! ## The authentication -/

/-- Where the authentication ends: with a user, or with nothing granted that is not allowed. -/
def admission (handler : SocksTcpHandler) : Post Conversation Failure Unit :=
  { ready := fun _ => handler.Member
    pending := Guarded handler.socks5Auth anyRead
    failed := fun _ => Guarded handler.socks5Auth anyRead
    panicked := Guarded handler.socks5Auth anyRead }

/-- An answer that refuses the client grants nothing. -/
theorem reject_guarded {J : Bytes → Prop} {x : PollM Conversation Failure Unit} (failure : Failure)
    (hx : Triple (Guarded handler.socks5Auth J) x (Post.always (Guarded handler.socks5Auth J))) :
    Triple (Guarded handler.socks5Auth J) (x >>= fun _ => PollM.fail failure)
      handler.admission := by
  apply Triple.seq hx
  · exact fun _ => Triple.fail fun _ hs => hs.weaken
  · exact fun _ hs => hs.weaken
  · exact fun _ _ hs => hs.weaken
  · exact fun _ hs => hs.weaken

/-- The subnegotiation behind a handshake. -/
theorem checkAuthPassword_guarded (handshake : Socks5.HandshakeRequest) :
    Triple (Guarded handler.socks5Auth (· = handshake.writeToBuf)) handler.checkAuthPassword
      handler.admission := by
  unfold checkAuthPassword
  apply Triple.bind (M := fun req => Guarded handler.socks5Auth
    (· = handshake.writeToBuf ++ Socks5.PasswdAuthRequest.writeToBuf req))
  · apply Triple.handle (receive_guarded Socks5.PasswdAuthRequest.readFrom_eq handshake.writeToBuf)
    intro err
    apply Triple.seq (ignore_guarded (send_guarded nofun))
    · exact fun _ => Triple.fail fun _ hs => hs
    · exact fun _ hs => hs
    · exact fun _ _ hs => hs
    · exact fun _ hs => hs
  · intro req
    cases huname : fromUtf8 req.uname with
    | none => exact reject_guarded _ (ignore_guarded (send_guarded nofun))
    | some userName =>
      cases hpasswd : fromUtf8 req.passwd with
      | none => exact reject_guarded _ (ignore_guarded (send_guarded nofun))
      | some password =>
        dsimp only
        split
        · next hchecked =>
          have huser := Socks5AuthPasswdConfig.mem_of_checkUser hchecked
          have hpresented : ∀ s, Guarded handler.socks5Auth
              (· = handshake.writeToBuf ++ req.writeToBuf) s → handler.Member s := by
            intro s hs
            have hread : s.read = handshake.writeToBuf ++ (req.writeToBuf ++ []) := by
              rw [List.append_nil]
              exact hs.read
            exact ⟨hs.granted, handshake, req, userName, password, [], huser, huname, hpasswd,
              hread⟩
          refine Triple.weaken (Triple.strengthen (send_member _) ?_) hpresented
          exact ⟨fun _ _ hs => hs, fun _ hs => hs.weaken, fun _ _ hs => hs.weaken,
            fun _ hs => hs.weaken⟩
        · exact reject_guarded _ (send_guarded nofun)

/-- A listener with users lets nobody in without a password, whichever methods are offered. -/
theorem checkAuth_guarded (hrequired : handler.socks5Auth.authRequired = true)
    (handshake : Socks5.HandshakeRequest) (methods : List UInt8) :
    Triple (Guarded handler.socks5Auth (· = handshake.writeToBuf)) (handler.checkAuth methods)
      handler.admission := by
  induction methods with
  | nil => exact reject_guarded _ (send_guarded nofun)
  | cons method methods ih =>
    unfold checkAuth
    split
    · apply Triple.seq (send_guarded nofun)
      · exact fun _ => checkAuthPassword_guarded handshake
      · exact fun _ hs => hs.weaken
      · exact fun _ _ hs => hs.weaken
      · exact fun _ hs => hs.weaken
    · split
      · exact ih
      · exact ih

/-- The state after the client's methods are read, if they could be. -/
def AfterMethods (auth : Socks5AuthConfig) :
    Option Socks5.HandshakeRequest → Conversation → Prop
  | none => Guarded auth anyRead
  | some req => Guarded auth (· = req.writeToBuf)

/-- A SOCKS5 conversation from its beginning. -/
theorem handleSocks5Client_guarded (hrequired : handler.socks5Auth.authRequired = true) :
    Triple (Guarded handler.socks5Auth (· = [])) handler.handleSocks5Client
      (Post.always (Guarded handler.socks5Auth anyRead)) := by
  unfold handleSocks5Client
  apply Triple.bind (M := AfterMethods handler.socks5Auth)
  · apply Triple.handle (M := fun _ => Guarded handler.socks5Auth anyRead)
    · apply Triple.bind (receive_guarded Socks5.HandshakeRequest.readFrom_eq [])
      exact fun req => Triple.pure fun _ hs => hs
    · intro err
      split
      · exact Triple.pure fun _ hs => hs
      · exact Triple.fail fun _ hs => hs
  · intro req
    cases req with
    | none => exact Triple.pure fun _ hs => hs
    | some req =>
      apply Triple.seq (checkAuth_guarded hrequired req req.methods)
      · intro _
        refine Triple.strengthen handleRequest_member ?_
        exact ⟨fun _ _ hs => hs.weaken, fun _ hs => hs.weaken, fun _ _ hs => hs.weaken,
          fun _ hs => hs.weaken⟩
      · exact fun _ hs => hs
      · exact fun _ _ hs => hs
      · exact fun _ hs => hs

/-! ## The listener -/

/-- A client that has just connected and is going to send `stream`. -/
def newClient (stream : Bytes) (writes : List (Option IoError)) : Conversation :=
  { read := [], unread := stream, writes := writes, log := [] }

/-- The client speaks another protocol that the listener takes. -/
def OtherProtocol (handler : SocksTcpHandler) (stream : Bytes) : Prop :=
  ∃ first rest, stream = first :: rest ∧
    (handler.localSocks4 = true ∧ first = 0x04 ∨ handler.localHttp = true ∧ first ∈ httpLetters)

/-- **SOCKS5 is authenticated.** On a listener with users, whatever a client sends that does not
    begin as SOCKS4 or HTTP, it is granted nothing before it has presented a user's name and
    password. -/
theorem grants_only_authenticated (hrequired : handler.socks5Auth.authRequired = true)
    {stream : Bytes} (hsocks5 : ¬handler.OtherProtocol stream) (writes : List (Option IoError)) :
    ∀ e ∈ (handler.handleTcpClient (newClient stream writes)).2.log,
      e.effect.grants = true → Presented handler.socks5Auth e.read := by
  have hstart : Guarded handler.socks5Auth (· = []) (newClient stream writes) :=
    ⟨fun _ he => (List.not_mem_nil he).elim, rfl⟩
  have hclient := handleSocks5Client_guarded hrequired _ hstart
  have hguarded : Guarded handler.socks5Auth anyRead
      (handler.handleTcpClient (newClient stream writes)).2 := by
    apply Post.holds_always.1
    unfold handleTcpClient
    split
    · exact hclient
    · -- the first byte is looked at, and is that of neither other protocol
      cases stream with
      | nil => exact hstart.weaken
      | cons first rest =>
        have hpeek : peek (newClient (first :: rest) writes) =
          (.ready first, newClient (first :: rest) writes) := rfl
        rw [PollM.bind_ready hpeek]
        split
        · next hfirst =>
          obtain ⟨hbuilt, hfirst⟩ := Bool.and_eq_true_iff.1 hfirst
          exact absurd ⟨first, rest, rfl, .inl ⟨hbuilt, of_decide_eq_true hfirst⟩⟩ hsocks5
        · split
          · exact hclient
          · split
            · next hfirst =>
              obtain ⟨hbuilt, hfirst⟩ := Bool.and_eq_true_iff.1 hfirst
              exact absurd ⟨first, rest, rfl, .inr ⟨hbuilt, of_decide_eq_true hfirst⟩⟩ hsocks5
            · exact hstart.weaken
  exact hguarded.granted

/-! ### A listener with one user -/

def sampleAuth : Socks5AuthConfig := { passwd := Socks5AuthPasswdConfig.new.addUser "u" "p" }

/-- Everything is built in, and every target can be connected to. -/
def sampleListener : SocksTcpHandler :=
  { udpBindAddr := .socketAddress (.v4 0x7f000001 1080), balancerIsEmpty := true
    mode := .tcpOnly, socks5Auth := sampleAuth, peerAddr := .v4 0x7f000001 40000
    connect := fun _ => .error .connectionRefused
    connectBypassed := fun _ => .ok (.ok (.v4 0x7f000001 50000))
    httpHandler := pure (), localSocks4 := true, localHttp := true }

/-- A handshake, the user's password and a request to connect. -/
def sampleStream : Bytes :=
  [5, 2, 0, 2] ++ [1, 1, 0x75, 1, 0x70] ++ [5, 1, 0, 1, 127, 0, 0, 1, 0, 80]

/-- The user is granted a connection. -/
theorem grants_only_authenticated_sample :
    ∃ e ∈ (sampleListener.handleTcpClient (newClient sampleStream [])).2.log,
      e.effect.grants = true ∧ Presented sampleAuth e.read := by
  let event : Event :=
    { effect := .relays (.socketAddress (.v4 0x7f000001 80)), read := sampleStream }
  have hmem : event ∈ (sampleListener.handleTcpClient (newClient sampleStream [])).2.log := by
    decide +kernel
  have hsocks5 : ¬sampleListener.OtherProtocol sampleStream := by
    rintro ⟨first, rest, hstream, hother⟩
    obtain ⟨rfl, -⟩ := List.cons.inj hstream
    revert hother
    decide
  exact ⟨event, hmem, rfl, grants_only_authenticated (by decide) hsocks5 [] event hmem rfl⟩

/-- **SOCKS4 is not.** A SOCKS4 request is granted to a client without a password. -/
theorem socks4_unauthenticated :
    sampleAuth.authRequired = true ∧
      ∃ e ∈ (sampleListener.handleTcpClient (newClient [4, 1, 0, 80, 127, 0, 0, 1, 0] [])).2.log,
        e.effect = .sent (.socks4 .requestGranted) ∧ ¬Presented sampleAuth e.read := by
  refine ⟨by decide, { effect := .sent (.socks4 .requestGranted)
                       read := [4, 1, 0, 80, 127, 0, 0, 1, 0] }, by decide +kernel, rfl, ?_⟩
  rintro ⟨handshake, req, userName, password, rest, -, -, -, hread⟩
  exact absurd (List.cons.inj hread).1 (by decide)

end SocksTcpHandler

end Shadowsocks.Local
