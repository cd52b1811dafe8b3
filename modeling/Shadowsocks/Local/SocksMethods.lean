import Mathlib.Data.List.Find
import Shadowsocks.Local.SocksServer

/-! # Which method a SOCKS5 client gets

A SOCKS5 client offers methods of authentication, and the server takes the first of them that it can
do.  A password is one of these also for a server without users, which then asks for a password that
nobody has (`checkAuthPassword_locked`): of a client that offers both methods such a server makes what
the order of the offer says (`negotiation_iff`).
-/

namespace Shadowsocks.Local

open Shadowsocks.Lib Shadowsocks.Net

/-- The answer to a handshake. -/
def answer (method : UInt8) : PollM Conversation Failure Unit :=
  send (.handshake { chosenMethod := method })

/-- An answer is the first thing that is seen of what begins with it. -/
theorem answer_injective {method method' : UInt8} {α : Type}
    {rest rest' : Unit → PollM Conversation Failure α}
    (h : (answer method >>= rest) = answer method' >>= rest') : method = method' := by
  -- a client that is gone by the time of the answer sees nothing of the rest
  let gone : Conversation := { read := [], unread := [], writes := [some .unexpectedEof], log := [] }
  have hlog := congrArg (fun r => r.2.log) (congrFun h gone)
  change [(⟨.sent (.handshake ⟨method⟩), []⟩ : Event)] =
    [(⟨.sent (.handshake ⟨method'⟩), []⟩ : Event)] at hlog
  injection hlog with hevent
  injection hevent with heffect
  injection heffect with hmessage
  injection hmessage with hresp
  exact Socks5.HandshakeResponse.mk.inj hresp

namespace SocksTcpHandler

variable (handler : SocksTcpHandler) (methods : List UInt8)

/-! ## What is asked of the negotiation -/

/-- The server answers with the method, whatever it goes on with. -/
def Selects (method : UInt8) : Prop :=
  ∃ rest, handler.checkAuth methods = answer method >>= rest

/-- The client is let in without a password. -/
def LetsIn : Prop :=
  handler.checkAuth methods = answer Socks5.authMethodNone

def AsksPassword : Prop :=
  handler.checkAuth methods = answer Socks5.authMethodPassword >>= fun _ => handler.checkAuthPassword

/-- The negotiation with a client that offers these methods, in whatever order. -/
structure Negotiates : Prop where
  order : ∀ methods', methods.Perm methods' →
    ∀ method, handler.Selects methods method ↔ handler.Selects methods' method
  unauthenticated : handler.socks5Auth.authRequired = false →
    Socks5.authMethodNone ∈ methods → handler.LetsIn methods
  authenticated : handler.socks5Auth.authRequired = true →
    Socks5.authMethodPassword ∈ methods → handler.AsksPassword methods
  nothingElse : handler.socks5Auth.authRequired = true → ∀ method,
    handler.Selects methods method →
      method = Socks5.authMethodPassword ∨ method = Socks5.authMethodNotAcceptable

/-! ## The method that is selected -/

/-- The methods that the server can do. -/
def supports (method : UInt8) : Bool :=
  method = Socks5.authMethodPassword ||
    method = Socks5.authMethodNone && !handler.socks5Auth.authRequired

def chosenMethod : UInt8 :=
  (methods.find? handler.supports).getD Socks5.authMethodNotAcceptable

/-- What comes after the answer. -/
def afterAnswer (method : UInt8) : PollM Conversation Failure Unit :=
  if method = Socks5.authMethodPassword then handler.checkAuthPassword
  else if method = Socks5.authMethodNone then pure ()
  else PollM.fail (.io (.other "currently shadowsocks-rust does not support authentication"))

variable {handler methods}

theorem chosenMethod_cons {method : UInt8} (h : handler.supports method = true) :
    handler.chosenMethod (method :: methods) = method := by
  unfold chosenMethod
  rw [List.find?_cons_of_pos h]
  rfl

theorem chosenMethod_skip {method : UInt8} (h : handler.supports method = false) :
    handler.chosenMethod (method :: methods) = handler.chosenMethod methods := by
  unfold chosenMethod
  rw [List.find?_cons_of_neg (by rw [h]; decide)]

/-- The negotiation is the answer with the chosen method and what comes after it. -/
theorem checkAuth_eq :
    handler.checkAuth methods =
      answer (handler.chosenMethod methods) >>= fun _ =>
        handler.afterAnswer (handler.chosenMethod methods) := by
  induction methods with
  | nil => rfl
  | cons method methods ih =>
    unfold checkAuth
    by_cases hpassword : method = Socks5.authMethodPassword
    · have hsupports : handler.supports method = true := by
        rw [supports, decide_eq_true hpassword, Bool.true_or]
      rw [if_pos hpassword, chosenMethod_cons hsupports, hpassword]
      rfl
    · rw [if_neg hpassword]
      by_cases hnone : method = Socks5.authMethodNone
      · rw [if_pos hnone]
        cases hrequired : handler.socks5Auth.authRequired with
        | true =>
          have hsupports : handler.supports method = false := by
            rw [supports, hrequired, decide_eq_false hpassword, Bool.false_or, Bool.not_true,
              Bool.and_false]
          rw [chosenMethod_skip hsupports]
          exact ih
        | false =>
          have hsupports : handler.supports method = true := by
            rw [supports, hrequired, decide_eq_true hnone, Bool.not_false, Bool.and_true,
              Bool.or_true]
          rw [chosenMethod_cons hsupports, hnone]
          exact (PollM.bind_pure _).symm
      · have hsupports : handler.supports method = false := by
          rw [supports, decide_eq_false hpassword, decide_eq_false hnone]
          rfl
        rw [if_neg hnone, chosenMethod_skip hsupports]
        exact ih

/-- The client gets the chosen method and no other. -/
theorem selects_iff {method : UInt8} :
    handler.Selects methods method ↔ method = handler.chosenMethod methods := by
  constructor
  · rintro ⟨rest, hrest⟩
    rw [checkAuth_eq] at hrest
    exact (answer_injective hrest).symm
  · rintro rfl
    exact ⟨_, checkAuth_eq⟩

theorem chosenMethod_eq_of_mem {method : UInt8} (hmem : method ∈ methods)
    (hsupports : handler.supports method = true)
    (honly : ∀ other ∈ methods, handler.supports other = true → other = method) :
    handler.chosenMethod methods = method := by
  unfold chosenMethod
  cases hfound : methods.find? handler.supports with
  | none => exact absurd hsupports (List.find?_eq_none.1 hfound method hmem)
  | some other => exact honly other (List.mem_of_find?_eq_some hfound) (List.find?_some hfound)

/-! ## With and without users -/

/-- A server with users can do nothing but ask for a password. -/
theorem supports_required {method : UInt8} (h : handler.socks5Auth.authRequired = true) :
    handler.supports method = true ↔ method = Socks5.authMethodPassword := by
  rw [supports, h, Bool.not_true, Bool.and_false, Bool.or_false, decide_eq_true_iff]

theorem supports_unrequired {method : UInt8} (h : handler.socks5Auth.authRequired = false) :
    handler.supports method = true ↔
      method = Socks5.authMethodPassword ∨ method = Socks5.authMethodNone := by
  rw [supports, h, Bool.not_false, Bool.and_true, Bool.or_eq_true, decide_eq_true_iff,
    decide_eq_true_iff]

/-- What is selected is not always a method that was offered. -/
theorem chosenMethod_cases :
    handler.supports (handler.chosenMethod methods) = true ∨
      handler.chosenMethod methods = Socks5.authMethodNotAcceptable := by
  unfold chosenMethod
  cases hfound : methods.find? handler.supports with
  | none => exact .inr rfl
  | some method => exact .inl (List.find?_some hfound)

/-- Without users the password is asked for in vain. -/
theorem checkAuthPassword_locked (h : handler.socks5Auth.authRequired = false) (s : Conversation) :
    (handler.checkAuthPassword s).1 ≠ .ready () := by
  have hnobody : ∀ userName password,
      handler.socks5Auth.passwd.checkUser userName password = false := by
    intro userName password
    have hempty : handler.socks5Auth.passwd.passwd = [] := by
      have hzero : ¬handler.socks5Auth.passwd.totalUsers > 0 := of_decide_eq_false h
      exact List.eq_nil_of_length_eq_zero (Nat.eq_zero_of_not_pos hzero)
    rw [Socks5AuthPasswdConfig.checkUser, hempty]
    rfl
  have hfails : ∀ {α : Type} (x : PollM Conversation Failure α) (e : Failure),
      Triple (fun _ => True) (x >>= fun _ => (PollM.fail e : PollM Conversation Failure Unit))
        (Post.ifReady fun _ _ => False) := by
    intro α x e
    exact Triple.bind_ifReady fun _ => Triple.fail fun _ _ => trivial
  have hnever : Triple (fun _ => True) handler.checkAuthPassword
      (Post.ifReady fun _ _ => False) := by
    unfold checkAuthPassword
    apply Triple.bind_ifReady
    intro req
    split
    · exact hfails _ _
    · split
      · exact hfails _ _
      · rw [hnobody]
        exact hfails _ _
  intro hready
  have hpost := hnever s trivial
  rcases hres : handler.checkAuthPassword s with ⟨res, t⟩
  rw [hres] at hpost hready
  cases hready
  exact hpost

/-! ## Orders -/

/-- Every method that the server can do is the same one. -/
theorem supports_unique
    (h : handler.socks5Auth.authRequired = true ∨ Socks5.authMethodNone ∉ methods ∨
      Socks5.authMethodPassword ∉ methods) :
    {method ∈ methods | handler.supports method = true}.Subsingleton := by
  rintro method ⟨hmem, hsupports⟩ other ⟨hother, hsupports'⟩
  cases hrequired : handler.socks5Auth.authRequired with
  | true =>
    rw [(supports_required hrequired).1 hsupports, (supports_required hrequired).1 hsupports']
  | false =>
    rw [hrequired] at h
    rcases (supports_unrequired hrequired).1 hsupports with rfl | rfl <;>
      rcases (supports_unrequired hrequired).1 hsupports' with rfl | rfl
    · rfl
    · exact absurd h (by simp [hmem, hother])
    · exact absurd h (by simp [hmem, hother])
    · rfl

/-- **Which method a client gets.**  The negotiation does not depend on the order of the methods and
    lets everyone in whom it should exactly if the server has users or the client does not offer both
    methods. -/
theorem negotiation_iff (handler : SocksTcpHandler) (methods : List UInt8) :
    handler.Negotiates methods ↔
      handler.socks5Auth.authRequired = true ∨ Socks5.authMethodNone ∉ methods ∨
        Socks5.authMethodPassword ∉ methods := by
  constructor
  · intro h
    by_contra hboth
    obtain ⟨hrequired, hoffers⟩ := not_or.1 hboth
    obtain ⟨hnone, hpassword⟩ := not_or.1 hoffers
    have hrequired : handler.socks5Auth.authRequired = false := Bool.eq_false_iff.2 hrequired
    have hnone : Socks5.authMethodNone ∈ methods := not_not.1 hnone
    have hpassword : Socks5.authMethodPassword ∈ methods := not_not.1 hpassword
    -- with the password first, the client is asked for one
    let swapped := Socks5.authMethodPassword :: methods.erase Socks5.authMethodPassword
    have hsupports : handler.supports Socks5.authMethodPassword = true :=
      (supports_unrequired hrequired).2 (.inl rfl)
    have hfirst : handler.Selects swapped Socks5.authMethodPassword :=
      selects_iff.2 (chosenMethod_cons hsupports).symm
    have hselects : handler.Selects methods Socks5.authMethodPassword :=
      (h.order swapped (List.perm_cons_erase hpassword) _).2 hfirst
    have hletsIn : handler.Selects methods Socks5.authMethodNone :=
      ⟨pure, (h.unauthenticated hrequired hnone).trans (PollM.bind_pure _).symm⟩
    exact absurd ((selects_iff.1 hselects).trans (selects_iff.1 hletsIn).symm) (by decide)
  · intro h
    refine ⟨fun methods' hperm method => ?_, fun hrequired hnone => ?_, fun hrequired hpassword => ?_,
      fun hrequired method hselects => ?_⟩
    · rw [selects_iff, selects_iff, chosenMethod, chosenMethod,
        List.find?_eq_find?_of_perm hperm (supports_unique h)]
    · have hsupports : handler.supports Socks5.authMethodNone = true :=
        (supports_unrequired hrequired).2 (.inr rfl)
      have hchosen := chosenMethod_eq_of_mem hnone hsupports fun other hother hsupports' =>
        supports_unique h ⟨hother, hsupports'⟩ ⟨hnone, hsupports⟩
      unfold LetsIn
      rw [checkAuth_eq, hchosen]
      exact PollM.bind_pure _
    · have hsupports : handler.supports Socks5.authMethodPassword = true :=
        (supports_required hrequired).2 rfl
      have hchosen := chosenMethod_eq_of_mem hpassword hsupports fun other hother hsupports' =>
        supports_unique h ⟨hother, hsupports'⟩ ⟨hpassword, hsupports⟩
      unfold AsksPassword
      rw [checkAuth_eq, hchosen]
      rfl
    · rw [selects_iff.1 hselects]
      exact chosenMethod_cases.imp_left (supports_required hrequired).1

/-- A server without users. -/
def openListener : SocksTcpHandler :=
  { udpBindAddr := .socketAddress (.v4 0x7f000001 1080), balancerIsEmpty := true
    mode := .tcpOnly, socks5Auth := { passwd := Socks5AuthPasswdConfig.new }
    peerAddr := .v4 0x7f000001 40000, connect := fun _ => .error .connectionRefused
    connectBypassed := fun _ => .ok (.ok (.v4 0x7f000001 50000))
    httpHandler := pure (), localSocks4 := true, localHttp := true }

/-- It asks a client for a password that offers to give none, and lets in one that offers the same
    the other way round. -/
theorem negotiation_passwordFirst :
    openListener.socks5Auth.authRequired = false ∧
      openListener.Selects [Socks5.authMethodPassword, Socks5.authMethodNone]
        Socks5.authMethodPassword ∧
      openListener.Selects [Socks5.authMethodNone, Socks5.authMethodPassword]
        Socks5.authMethodNone ∧
      ¬openListener.Negotiates [Socks5.authMethodPassword, Socks5.authMethodNone] := by
  refine ⟨by decide, selects_iff.2 (by decide), selects_iff.2 (by decide), fun h => ?_⟩
  have hselects : openListener.Selects [Socks5.authMethodPassword, Socks5.authMethodNone]
      Socks5.authMethodNone :=
    ⟨pure, (h.unauthenticated (by decide) (by decide)).trans (PollM.bind_pure _).symm⟩
  exact absurd (selects_iff.1 hselects) (by decide)

end SocksTcpHandler

end Shadowsocks.Local
