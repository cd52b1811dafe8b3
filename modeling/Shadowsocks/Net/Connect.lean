import Mathlib.Logic.Function.Basic
import Shadowsocks.Net.Resolve

/-! # Connecting to a name

`lookup_then_connect!`: the addresses of each family are tried in turn, and where a
name has addresses of both families the two loops race each other, one of them with a
head start.  How the race goes is not the relay's: a schedule says whose wait ends next,
and an oracle says what each attempt comes to.
-/

namespace Shadowsocks.Net

open Shadowsocks.Lib

/-- What a connection attempt meets: the resolver's answers, what becomes of the attempts
    (nothing, for one that does not end before the timeout does), and whose wait ends
    next where two are waiting.  `tried` logs the addresses that a connection is
    attempted to. -/
structure Dialer where
  answers : List Answer
  connectOutcome : Nat → SocketAddr → Option (Except IoError Unit)
  schedule : List AddrFamily
  tried : List SocketAddr

/-- `SysTcpStream::connect`, up to where it waits. -/
def startConnect (addr : SocketAddr) : PollM Dialer IoError Unit :=
  PollM.update fun d => { d with tried := d.tried ++ [addr] }

/-- The rest of `SysTcpStream::connect`. -/
def finishConnect (addr : SocketAddr) : PollM Dialer IoError Unit := fun d =>
  match d.connectOutcome d.tried.length addr with
  | some (.ok ()) => (.ready (), d)
  | some (.error e) => (.failed e, d)
  | none => (.pending, d)

def connect (addr : SocketAddr) : PollM Dialer IoError Unit :=
  startConnect addr >>= fun _ => finishConnect addr

/-- A future that tries the addresses of one family: it sleeps for `FIXED_DELAY` first,
    or it is connecting to the first one. -/
inductive ConnectFuture where
  | sleeping (addr : SocketAddr) (addrs : List SocketAddr)
  | connecting (addr : SocketAddr) (addrs : List SocketAddr)

namespace ConnectFuture

/-- The addresses that the future may still connect to. -/
def addrs : ConnectFuture → List SocketAddr
  | sleeping addr addrs => addr :: addrs
  | connecting addr addrs => addr :: addrs

/-- Awaits the future. -/
def await : ConnectFuture → PollM Dialer IoError SocketAddr
  | sleeping addr addrs => tryEach connect (addr :: addrs)
  | connecting addr [] => finishConnect addr >>= fun _ => pure addr
  | connecting addr addrs =>
    orElse (finishConnect addr >>= fun _ => pure addr) (tryEach connect addrs)

/-- Polls the future when its wait has ended: it has connected, or it waits again. -/
def resume : ConnectFuture → PollM Dialer IoError (SocketAddr ⊕ ConnectFuture)
  | sleeping addr addrs => startConnect addr >>= fun _ => pure (.inr (connecting addr addrs))
  | connecting addr [] => finishConnect addr >>= fun _ => pure (.inl addr)
  | connecting addr (next :: addrs) =>
    orElse (finishConnect addr >>= fun _ => pure (.inl addr))
      (startConnect next >>= fun _ => pure (.inr (connecting next addrs)))

end ConnectFuture

/-- `future::select` with what follows it: the first future to connect wins, and where the
    first to end has failed the other one is awaited. -/
def race (futures : AddrFamily → ConnectFuture) :
    List AddrFamily → PollM Dialer IoError SocketAddr
  | [] => fun d => (.pending, d)
  | family :: schedule => fun d =>
    match (futures family).resume d with
    | (.ready (.inl addr), d) => (.ready addr, d)
    | (.ready (.inr waiting), d) => race (Function.update futures family waiting) schedule d
    | (.failed _, d) => (futures family.other).await d
    | (.pending, d) => (.pending, d)
    | (.panicked, d) => (.panicked, d)

/-- The race with the family that starts at once. -/
def raceFrom (first : AddrFamily) (addr : SocketAddr) (addrs : List SocketAddr)
    (later : SocketAddr) (laters : List SocketAddr) : PollM Dialer IoError SocketAddr :=
  startConnect addr >>= fun _ => PollM.get >>= fun d =>
    race (fun family =>
      if family = first then .connecting addr addrs else .sleeping later laters) d.schedule

/-- `lookup_then_connect!`, once the name has been resolved to `addrs`. -/
def lookupThenConnect (ipv6First : Bool) (addrs : List SocketAddr) :
    PollM Dialer IoError SocketAddr :=
  match addrs.filter (·.isV4), addrs.filter (!·.isV4) with
  -- the assertion that something was resolved
  | [], [] => PollM.crash
  | v4 :: v4Addrs, [] => tryEach connect (v4 :: v4Addrs)
  | [], v6 :: v6Addrs => tryEach connect (v6 :: v6Addrs)
  | v4 :: v4Addrs, v6 :: v6Addrs =>
    if ipv6First then raceFrom .ipv6 v6 v6Addrs v4 v4Addrs
    else raceFrom .ipv4 v4 v4Addrs v6 v6Addrs

/-- `TcpStream::connect_remote_with_opts`. -/
def connectRemote (ipv6First : Bool) : Address → PollM Dialer IoError SocketAddr
  | .socketAddress addr => connect addr >>= fun _ => pure addr
  | .domainNameAddress _ _ => fun d =>
    let (answer, answers) := dnsResolve d.answers
    match answer with
    | .ok addrs => lookupThenConnect ipv6First addrs { d with answers := answers }
    | .error e => (.failed e, { d with answers := answers })

/-! ## What is tried -/

section Tried

variable {P : SocketAddr → Prop}

/-- Every address tried so far satisfies `P`. -/
def OnlyTried (P : SocketAddr → Prop) (d : Dialer) : Prop := ∀ addr ∈ d.tried, P addr

theorem startConnect_keeping {addr : SocketAddr} (h : P addr) :
    Triple (OnlyTried P) (startConnect addr) (keeping (OnlyTried P)) := by
  intro d hd other hother
  rcases List.mem_append.1 hother with hother | hother
  · exact hd other hother
  · rw [List.mem_singleton.1 hother]
    exact h

theorem finishConnect_keeping (addr : SocketAddr) :
    Triple (OnlyTried P) (finishConnect addr) (keeping (OnlyTried P)) := by
  intro d hd
  unfold finishConnect
  split <;> exact hd

theorem connect_keeping {addr : SocketAddr} (h : P addr) :
    Triple (OnlyTried P) (connect addr) (keeping (OnlyTried P)) :=
  Triple.bind (startConnect_keeping h) fun _ => finishConnect_keeping addr

namespace ConnectFuture

theorem await_keeping {future : ConnectFuture} (h : ∀ addr ∈ future.addrs, P addr) :
    Triple (OnlyTried P) future.await (keeping (OnlyTried P)) := by
  have hfinish : ∀ addr, Triple (OnlyTried P) (finishConnect addr >>= fun _ => pure addr)
      (keeping (OnlyTried P)) := fun addr =>
    Triple.bind (finishConnect_keeping addr) fun _ => Triple.pure fun _ hd => hd
  cases future with
  | sleeping addr addrs => exact tryEach_keeping fun a ha => connect_keeping (h a ha)
  | connecting addr addrs =>
    cases addrs with
    | nil => exact hfinish addr
    | cons next addrs =>
      exact Triple.orElse (hfinish addr)
        (tryEach_keeping fun a ha => connect_keeping (h a (List.mem_cons_of_mem _ ha)))

/-- A future that is resumed only tries its own addresses, then and later. -/
theorem resume_keeping {future : ConnectFuture} (h : ∀ addr ∈ future.addrs, P addr) :
    Triple (OnlyTried P) future.resume
      { ready := fun r d => OnlyTried P d ∧
          ∀ waiting, r = .inr waiting → ∀ addr ∈ waiting.addrs, P addr
        pending := OnlyTried P, failed := fun _ => OnlyTried P, panicked := OnlyTried P } := by
  cases future with
  | sleeping addr addrs =>
    apply Triple.bind (startConnect_keeping (h addr (List.mem_cons_self ..)))
    intro _
    exact Triple.pure fun _ hd => ⟨hd, fun waiting heq => by cases heq; exact h⟩
  | connecting addr addrs =>
    cases addrs with
    | nil =>
      apply Triple.bind (finishConnect_keeping addr)
      intro _
      exact Triple.pure fun _ hd => ⟨hd, fun waiting heq => by cases heq⟩
    | cons next addrs =>
      apply Triple.orElse (M := OnlyTried P)
      · apply Triple.bind (finishConnect_keeping addr)
        intro _
        exact Triple.pure fun _ hd => ⟨hd, fun waiting heq => by cases heq⟩
      · apply Triple.bind (startConnect_keeping
          (h next (List.mem_cons_of_mem _ (List.mem_cons_self ..))))
        intro _
        refine Triple.pure fun _ hd => ⟨hd, fun waiting heq => ?_⟩
        cases heq
        exact fun a ha => h a (List.mem_cons_of_mem _ ha)

end ConnectFuture

theorem race_keeping : ∀ (schedule : List AddrFamily) (futures : AddrFamily → ConnectFuture),
    (∀ family, ∀ addr ∈ (futures family).addrs, P addr) →
    Triple (OnlyTried P) (race futures schedule) (keeping (OnlyTried P))
  | [], _, _ => fun _ hd => hd
  | family :: schedule, futures, h => by
    intro d hd
    have hresume := ConnectFuture.resume_keeping (h family) d hd
    unfold race
    rcases hr : (futures family).resume d with ⟨r, d'⟩
    rw [hr] at hresume
    cases r with
    | ready r =>
      cases r with
      | inl addr => exact hresume.1
      | inr waiting =>
        apply race_keeping schedule _ _ d' hresume.1
        intro other addr haddr
        by_cases heq : other = family
        · subst heq
          rw [Function.update_self] at haddr
          exact hresume.2 waiting rfl addr haddr
        · rw [Function.update_of_ne heq] at haddr
          exact h other addr haddr
    | failed e => exact ConnectFuture.await_keeping (h family.other) d' hresume
    | pending => exact hresume
    | panicked => exact hresume

theorem raceFrom_keeping (first : AddrFamily) {addr later : SocketAddr}
    {addrs laters : List SocketAddr} (h : ∀ a ∈ addr :: addrs, P a)
    (hlater : ∀ a ∈ later :: laters, P a) :
    Triple (OnlyTried P) (raceFrom first addr addrs later laters) (keeping (OnlyTried P)) := by
  apply Triple.bind (startConnect_keeping (h addr (List.mem_cons_self ..)))
  intro _
  apply Triple.get
  intro d hd
  apply race_keeping _ _ _ d hd
  intro family a ha
  by_cases heq : family = first
  · rw [if_pos heq] at ha
    exact h a ha
  · rw [if_neg heq] at ha
    exact hlater a ha

/-- Nothing is tried but addresses of the answer. -/
theorem lookupThenConnect_keeping (ipv6First : Bool) {addrs : List SocketAddr}
    (h : ∀ addr ∈ addrs, P addr) :
    Triple (OnlyTried P) (lookupThenConnect ipv6First addrs) (keeping (OnlyTried P)) := by
  have h4 : ∀ a ∈ addrs.filter (·.isV4), P a := fun a ha => h a (List.mem_of_mem_filter ha)
  have h6 : ∀ a ∈ addrs.filter (!·.isV4), P a := fun a ha => h a (List.mem_of_mem_filter ha)
  unfold lookupThenConnect
  cases hv4 : addrs.filter (·.isV4) with
  | nil =>
    cases hv6 : addrs.filter (!·.isV4) with
    | nil => exact Triple.crash fun _ hd => hd
    | cons v6 v6Addrs => exact tryEach_keeping fun a ha => connect_keeping (h6 a (hv6 ▸ ha))
  | cons v4 v4Addrs =>
    cases hv6 : addrs.filter (!·.isV4) with
    | nil => exact tryEach_keeping fun a ha => connect_keeping (h4 a (hv4 ▸ ha))
    | cons v6 v6Addrs =>
      rw [hv4] at h4
      rw [hv6] at h6
      dsimp only
      split
      · exact raceFrom_keeping .ipv6 h6 h4
      · exact raceFrom_keeping .ipv4 h4 h6

end Tried

/-! ## Where only one address works -/

section OnlyTarget

variable (target : SocketAddr)

/-- Every attempt fails but the one to the target. -/
def onlyTo (_ : Nat) (addr : SocketAddr) : Option (Except IoError Unit) :=
  some (if addr = target then .ok () else .error (.other "connection refused"))

def Seeks (d : Dialer) : Prop := d.connectOutcome = onlyTo target

def HasTried (d : Dialer) : Prop := target ∈ d.tried

variable {target}

theorem finishConnect_target {d : Dialer} (h : Seeks target d) :
    finishConnect target d = (.ready (), d) := by
  simp [finishConnect, show d.connectOutcome = onlyTo target from h, onlyTo]

theorem finishConnect_other {d : Dialer} (h : Seeks target d) {addr : SocketAddr}
    (hne : addr ≠ target) :
    finishConnect addr d = (.failed (.other "connection refused"), d) := by
  simp [finishConnect, show d.connectOutcome = onlyTo target from h, onlyTo, hne]

theorem connect_other {addr : SocketAddr} (hne : addr ≠ target) :
    Triple (Seeks target) (connect addr) (failing (Seeks target)) := by
  refine Triple.bind (M := fun _ => Seeks target) (fun d hd => hd) ?_
  intro _ d hd
  rw [finishConnect_other hd hne]
  exact hd

theorem connect_target :
    Triple (Seeks target) (connect target) (reaching (HasTried target)) := by
  refine Triple.bind (M := fun _ d => Seeks target d ∧ HasTried target d)
    (fun d hd => ⟨hd, List.mem_append_right _ (List.mem_singleton_self _)⟩) ?_
  intro _ d hd
  rw [finishConnect_target hd.1]
  exact hd.2

theorem tryEach_target {addrs : List SocketAddr} (hmem : target ∈ addrs) :
    Triple (Seeks target) (tryEach connect addrs) (reaching (HasTried target)) :=
  tryEach_reaching (fun _ hne => connect_other hne) connect_target hmem

/-- The family that starts at once is polled until it ends; then it is the other one's
    turn, if it still has one. -/
theorem race_target (first : AddrFamily) {later : SocketAddr} {laters : List SocketAddr} :
    ∀ (addrs : List SocketAddr) (addr : SocketAddr) (n : Nat)
      (futures : AddrFamily → ConnectFuture),
      futures first = .connecting addr addrs → futures first.other = .sleeping later laters →
      addrs.length < n → target ∈ addr :: addrs ∨ target ∈ later :: laters →
      Triple (fun d => Seeks target d ∧ addr ∈ d.tried) (race futures (List.replicate n first))
        (reaching (HasTried target))
  | addrs, addr, 0, _, _, _, hn, _ => absurd hn (Nat.not_lt_zero _)
  | addrs, addr, n + 1, futures, hfirst, hother, hn, hmem => by
    intro d ⟨hseeks, htried⟩
    rw [List.replicate_succ, race, hfirst]
    by_cases heq : addr = target
    · subst heq
      cases addrs with
      | nil =>
        simp only [ConnectFuture.resume, PollM.bind_ready (finishConnect_target hseeks)]
        exact htried
      | cons next addrs =>
        simp only [ConnectFuture.resume, orElse,
          PollM.bind_ready (finishConnect_target hseeks)]
        exact htried
    · have hfails := finishConnect_other hseeks heq
      cases addrs with
      | nil =>
        -- the first family is through, and the target must be of the other one
        have hlater : target ∈ later :: laters := by
          rcases hmem with hmem | hmem
          · exact absurd (List.mem_singleton.1 hmem).symm heq
          · exact hmem
        simp only [ConnectFuture.resume, PollM.bind_failed hfails, hother]
        exact tryEach_target hlater d hseeks
      | cons next addrs =>
        simp only [ConnectFuture.resume, orElse, PollM.bind_failed hfails]
        have hne : first.other ≠ first := by cases first <;> decide
        refine race_target first addrs next n _ (Function.update_self ..)
          ((Function.update_of_ne hne ..).trans hother) (Nat.lt_of_succ_lt_succ hn) ?_ _
          ⟨hseeks, List.mem_append_right _ (List.mem_singleton_self _)⟩
        exact hmem.imp_left fun h => (List.mem_cons.1 h).resolve_left fun h => heq h.symm

theorem raceFrom_target (first : AddrFamily) {addr later : SocketAddr}
    {addrs laters : List SocketAddr}
    (hmem : target ∈ addr :: addrs ∨ target ∈ later :: laters) :
    Triple (fun d => Seeks target d ∧ d.schedule = List.replicate (addrs.length + 1) first)
      (raceFrom first addr addrs later laters) (reaching (HasTried target)) := by
  intro d ⟨hseeks, hschedule⟩
  have hother : first.other ≠ first := by cases first <;> decide
  have hrace := race_target first addrs addr (addrs.length + 1)
    (fun family => if family = first then .connecting addr addrs else .sleeping later laters)
    (if_pos rfl) (if_neg hother) (Nat.lt_succ_self _) hmem
  have := hrace { d with tried := d.tried ++ [addr] }
    ⟨hseeks, List.mem_append_right _ (List.mem_singleton_self _)⟩
  rw [← hschedule] at this
  exact this

/-- A schedule that lets the family tried first try all its addresses. -/
def patientSchedule (ipv6First : Bool) (addrs : List SocketAddr) : List AddrFamily :=
  if ipv6First then List.replicate (addrs.filter (!·.isV4)).length .ipv6
  else List.replicate (addrs.filter (·.isV4)).length .ipv4

/-- Where only the target can be connected to, it is tried. -/
theorem lookupThenConnect_target (ipv6First : Bool) {addrs : List SocketAddr}
    (hmem : target ∈ addrs) :
    Triple (fun d => Seeks target d ∧ d.schedule = patientSchedule ipv6First addrs)
      (lookupThenConnect ipv6First addrs) (reaching (HasTried target)) := by
  have hfilter : ∀ p : SocketAddr → Bool, p target = true → target ∈ addrs.filter p :=
    fun p hp => List.mem_filter.2 ⟨hmem, hp⟩
  have heither : target ∈ addrs.filter (·.isV4) ∨ target ∈ addrs.filter (!·.isV4) := by
    cases hv : target.isV4 with
    | true => exact .inl (hfilter _ hv)
    | false => exact .inr (hfilter _ (by simp [hv]))
  unfold lookupThenConnect patientSchedule
  -- one family alone is tried in turn, and two race
  cases hv4 : addrs.filter (·.isV4) with
  | nil =>
    rw [hv4] at heither
    have h6 := heither.resolve_left List.not_mem_nil
    cases hv6 : addrs.filter (!·.isV4) with
    | nil =>
      rw [hv6] at h6
      cases h6
    | cons v6 v6Addrs => exact (tryEach_target (hv6 ▸ h6)).weaken fun _ hd => hd.1
  | cons v4 v4Addrs =>
    cases hv6 : addrs.filter (!·.isV4) with
    | nil =>
      rw [hv6] at heither
      have h4 := heither.resolve_right List.not_mem_nil
      exact (tryEach_target (hv4 ▸ h4)).weaken fun _ hd => hd.1
    | cons v6 v6Addrs =>
      rw [hv4, hv6] at heither
      cases ipv6First with
      | true => exact raceFrom_target .ipv6 heither.symm
      | false => exact raceFrom_target .ipv4 heither

end OnlyTarget

end Shadowsocks.Net
