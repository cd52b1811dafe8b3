import Shadowsocks.Net.Connect

/-! # Happy Eyeballs

Where every attempt to connect ends some time, `lookup_then_connect!` connects exactly if an
address can be connected to, whatever the order in which the attempts of the two families end
(`happy_eyeballs`).  While the families race each other, each of them goes through its addresses
in order, and what has been tried has failed but for the two attempts under way (`Searching`).
-/

namespace Shadowsocks.Net

open Shadowsocks.Lib

def AddrFamily.has : AddrFamily → SocketAddr → Bool
  | .ipv4, addr => addr.isV4
  | .ipv6, addr => !addr.isV4

theorem AddrFamily.eq_of_has {family family' : AddrFamily} {addr : SocketAddr}
    (h : family.has addr = true) (h' : family'.has addr = true) : family' = family := by
  cases family <;> cases family' <;> cases addr <;> simp_all [AddrFamily.has, SocketAddr.isV4]

theorem AddrFamily.eq_other {family family' : AddrFamily} (h : family' ≠ family) :
    family' = family.other := by
  cases family <;> cases family'
  exacts [absurd rfl h, rfl, rfl, absurd rfl h]

theorem AddrFamily.other_ne (family : AddrFamily) : family.other ≠ family := by
  cases family <;> decide

namespace ConnectFuture

/-- The addresses that have not been tried. -/
def untried : ConnectFuture → List SocketAddr
  | sleeping addr addrs => addr :: addrs
  | connecting _ addrs => addrs

/-- The address that is being connected to. -/
def flying : ConnectFuture → Option SocketAddr
  | sleeping _ _ => none
  | connecting addr _ => some addr

/-- How often the future waits, at most. -/
def waits : ConnectFuture → Nat
  | sleeping _ addrs => addrs.length + 2
  | connecting _ addrs => addrs.length + 1

end ConnectFuture

section

variable (outcome : SocketAddr → Except IoError Unit) (addrs : List SocketAddr)

/-- The addresses that no family has tried yet and those that are being connected to. -/
structure Searching (untried : AddrFamily → List SocketAddr)
    (flying : AddrFamily → Option SocketAddr) (d : Dialer) : Prop where
  outcomes : d.connectOutcome = fun _ addr => some (outcome addr)
  inOrder : ∀ family : AddrFamily, d.tried.filter family.has ++ untried family = addrs.filter family.has
  failed : ∀ addr ∈ d.tried, outcome addr = .ok () → ∃ family, flying family = some addr
  tried : ∀ family addr, flying family = some addr → addr ∈ d.tried

/-- An address that was connected to. -/
structure Found (addr : SocketAddr) (d : Dialer) : Prop where
  connected : outcome addr = .ok ()
  tried : addr ∈ d.tried
  inOrder : ∀ family : AddrFamily, d.tried.filter family.has <+: addrs.filter family.has

/-- An address is found, or all attempts end in failures. -/
def finding (untried : AddrFamily → List SocketAddr) (flying : AddrFamily → Option SocketAddr) :
    Post Dialer IoError SocketAddr :=
  { ready := Found outcome addrs, pending := fun _ => False
    failed := fun _ => Searching outcome addrs untried flying }

end

section

variable {outcome : SocketAddr → Except IoError Unit} {addrs : List SocketAddr}
  {untried : AddrFamily → List SocketAddr} {flying : AddrFamily → Option SocketAddr}
  {family : AddrFamily} {addr : SocketAddr} {rest : List SocketAddr}

theorem Searching.start {d : Dialer} (h : Searching outcome addrs untried flying d)
    (huntried : untried family = addr :: rest) (hflying : flying family = none) :
    Searching outcome addrs (Function.update untried family rest)
      (Function.update flying family (some addr)) { d with tried := d.tried ++ [addr] } where
  outcomes := h.outcomes
  inOrder := by
    have hhas : family.has addr = true := by
      have hmem : addr ∈ addrs.filter family.has := by
        rw [← h.inOrder family, huntried]
        simp
      exact (List.mem_filter.1 hmem).2
    intro family'
    rw [List.filter_append]
    -- the address goes from what is untried of its family to what was tried
    by_cases heq : family' = family
    · subst heq
      rw [List.filter_cons_of_pos hhas, List.filter_nil, Function.update_self, List.append_assoc,
        ← h.inOrder family', huntried]
      rfl
    · have hnot : ¬family'.has addr = true := fun hhas' => heq (AddrFamily.eq_of_has hhas hhas')
      rw [List.filter_cons_of_neg hnot, List.filter_nil, List.append_nil,
        Function.update_of_ne heq]
      exact h.inOrder family'
  failed := by
    intro tried hmem hok
    rcases List.mem_append.1 hmem with hmem | hmem
    · obtain ⟨family', hfamily'⟩ := h.failed tried hmem hok
      have hne : family' ≠ family := by
        rintro rfl
        rw [hflying] at hfamily'
        cases hfamily'
      exact ⟨family', by rw [Function.update_of_ne hne, hfamily']⟩
    · rw [List.mem_singleton.1 hmem]
      exact ⟨family, Function.update_self ..⟩
  tried := by
    intro family' tried htried
    rw [Function.update_apply] at htried
    split at htried
    · obtain rfl := Option.some.inj htried
      exact List.mem_append_right _ (List.mem_singleton_self _)
    · exact List.mem_append_left _ (h.tried family' tried htried)

/-- An attempt ends in a failure. -/
theorem Searching.refused {d : Dialer} (h : Searching outcome addrs untried flying d)
    (hflying : flying family = some addr) {e : IoError} (herror : outcome addr = .error e) :
    Searching outcome addrs untried (Function.update flying family none) d where
  outcomes := h.outcomes
  inOrder := h.inOrder
  failed := by
    intro tried hmem hok
    obtain ⟨family', hfamily'⟩ := h.failed tried hmem hok
    have hne : family' ≠ family := by
      rintro rfl
      rw [hflying] at hfamily'
      obtain rfl := Option.some.inj hfamily'
      rw [herror] at hok
      cases hok
    exact ⟨family', by rw [Function.update_of_ne hne, hfamily']⟩
  tried := by
    intro family' tried htried
    rw [Function.update_apply] at htried
    split at htried
    · cases htried
    · exact h.tried family' tried htried

theorem Searching.found {d : Dialer} (h : Searching outcome addrs untried flying d)
    (hflying : flying family = some addr) (hok : outcome addr = .ok ()) :
    Found outcome addrs addr d :=
  ⟨hok, h.tried family addr hflying, fun family' => ⟨_, h.inOrder family'⟩⟩

/-! ## Attempts -/

theorem finishConnect_searching {d : Dialer} (h : Searching outcome addrs untried flying d)
    (addr : SocketAddr) : finishConnect addr d = match outcome addr with
      | .ok () => (.ready (), d)
      | .error e => (.failed e, d) := by
  unfold finishConnect
  rw [h.outcomes]
  dsimp only
  cases outcome addr with
  | ok _ => rfl
  | error e => rfl

theorem finish_finds (hflying : flying family = some addr) :
    Triple (Searching outcome addrs untried flying) (finishConnect addr >>= fun _ => pure addr)
      (finding outcome addrs untried (Function.update flying family none)) := by
  intro d hd
  have hfinish := finishConnect_searching hd addr
  cases houtcome : outcome addr with
  | ok _ =>
    rw [houtcome] at hfinish
    rw [PollM.bind_ready hfinish]
    exact hd.found hflying houtcome
  | error e =>
    rw [houtcome] at hfinish
    rw [PollM.bind_failed hfinish]
    exact hd.refused hflying houtcome

theorem connect_finds (huntried : untried family = addr :: rest) (hflying : flying family = none) :
    Triple (Searching outcome addrs untried flying) (connect addr >>= fun _ => pure addr)
      (finding outcome addrs (Function.update untried family rest) flying) := by
  intro d hd
  have hfinds := finish_finds (Function.update_self ..) _ (hd.start huntried hflying)
  rw [Function.update_idem, ← hflying, Function.update_eq_self] at hfinds
  exact hfinds

theorem tryEach_finds (hne : untried family ≠ []) (hflying : flying family = none) :
    Triple (Searching outcome addrs untried flying) (tryEach connect (untried family))
      (finding outcome addrs (Function.update untried family []) flying) := by
  generalize hlist : untried family = list at hne ⊢
  induction list generalizing untried with
  | nil => exact absurd rfl hne
  | cons addr rest ih =>
    cases rest with
    | nil => exact connect_finds hlist hflying
    | cons next rest =>
      refine Triple.orElse (connect_finds hlist hflying) ?_
      have huntried : Function.update untried family (next :: rest) family = next :: rest :=
        Function.update_self ..
      have hrest := ih huntried (List.cons_ne_nil next rest)
      rwa [Function.update_idem] at hrest

/-! ## The race -/

theorem await_finds {future : ConnectFuture} (huntried : untried family = future.untried)
    (hflying : flying family = future.flying) :
    Triple (Searching outcome addrs untried flying) future.await
      (finding outcome addrs (Function.update untried family [])
        (Function.update flying family none)) := by
  cases future with
  | sleeping addr rest =>
    have hlist : untried family = addr :: rest := huntried
    have hnone : flying family = none := hflying
    have hfinds : Triple (Searching outcome addrs untried flying) (tryEach connect (untried family))
        (finding outcome addrs (Function.update untried family []) flying) :=
      tryEach_finds (hlist ▸ List.cons_ne_nil addr rest) hnone
    rw [hlist] at hfinds
    have hupdate : Function.update flying family none = flying :=
      Function.update_eq_self_iff.2 hnone.symm
    rw [hupdate]
    exact hfinds
  | connecting addr rest =>
    have hlist : untried family = rest := huntried
    have hfinish : Triple (Searching outcome addrs untried flying)
        (finishConnect addr >>= fun _ => pure addr)
        (finding outcome addrs untried (Function.update flying family none)) :=
      finish_finds hflying
    cases rest with
    | nil =>
      rw [Function.update_eq_self_iff.2 hlist.symm]
      exact hfinish
    | cons next rest =>
      refine Triple.orElse hfinish ?_
      rw [← hlist]
      exact tryEach_finds (hlist ▸ List.cons_ne_nil next rest) (Function.update_self ..)

/-- What the future does when its wait has ended. -/
theorem resume_finds {future : ConnectFuture} (huntried : untried family = future.untried)
    (hflying : flying family = future.flying) :
    Triple (Searching outcome addrs untried flying) future.resume
      { ready := fun r d => match r with
          | .inl addr => Found outcome addrs addr d
          | .inr waiting =>
            Searching outcome addrs (Function.update untried family waiting.untried)
              (Function.update flying family waiting.flying) d ∧ waiting.waits < future.waits
        pending := fun _ => False
        failed := fun _ => Searching outcome addrs (Function.update untried family [])
          (Function.update flying family none) } := by
  cases future with
  | sleeping addr rest => exact fun d hd => ⟨hd.start huntried hflying, Nat.lt_succ_self _⟩
  | connecting addr rest =>
    intro d hd
    have hfinish := finishConnect_searching hd addr
    -- an address that fails makes room for the next one
    cases houtcome : outcome addr with
    | ok _ =>
      rw [houtcome] at hfinish
      have hfound := hd.found hflying houtcome
      cases rest with
      | nil =>
        rw [ConnectFuture.resume, PollM.bind_ready hfinish]
        exact hfound
      | cons next rest =>
        rw [ConnectFuture.resume, orElse, PollM.bind_ready hfinish]
        exact hfound
    | error e =>
      rw [houtcome] at hfinish
      have hrefused := hd.refused hflying houtcome
      cases rest with
      | nil =>
        have hlist : untried family = [] := huntried
        rw [ConnectFuture.resume, PollM.bind_failed hfinish,
          Function.update_eq_self_iff.2 hlist.symm]
        exact hrefused
      | cons next rest =>
        rw [ConnectFuture.resume, orElse, PollM.bind_failed hfinish]
        have hstart := hrefused.start huntried (Function.update_self ..)
        rw [Function.update_idem] at hstart
        exact ⟨hstart, Nat.lt_succ_self _⟩

theorem race_finds {schedule : List AddrFamily} {futures : AddrFamily → ConnectFuture}
    (h : (futures .ipv4).waits + (futures .ipv6).waits ≤ schedule.length + 1) :
    Triple
      (Searching outcome addrs (fun family => (futures family).untried)
        (fun family => (futures family).flying))
      (race futures schedule) (finding outcome addrs (fun _ => []) (fun _ => none)) := by
  induction schedule generalizing futures with
  | nil =>
    have hpos : ∀ future : ConnectFuture, 0 < future.waits := fun future => by
      cases future <;> exact Nat.succ_pos _
    have h4 := hpos (futures .ipv4)
    have h6 := hpos (futures .ipv6)
    rw [List.length_nil] at h
    omega
  | cons family schedule ih =>
    intro d hd
    have hresume := @resume_finds outcome addrs (fun family => (futures family).untried)
      (fun family => (futures family).flying) family (futures family) rfl rfl d hd
    unfold race
    rcases hr : (futures family).resume d with ⟨r, d'⟩
    rw [hr] at hresume
    cases r with
    | ready r =>
      cases r with
      | inl addr => exact hresume
      | inr waiting =>
        obtain ⟨hsearching, hwaits⟩ := hresume
        have hless : (Function.update futures family waiting .ipv4).waits +
            (Function.update futures family waiting .ipv6).waits ≤ schedule.length + 1 := by
          rw [List.length_cons] at h
          cases family <;> simp [Function.update] <;> omega
        refine ih hless d' ?_
        have huntried : (fun other => (Function.update futures family waiting other).untried) =
            Function.update (fun other => (futures other).untried) family waiting.untried :=
          funext fun other => Function.apply_update (fun _ => ConnectFuture.untried) ..
        have hflying : (fun other => (Function.update futures family waiting other).flying) =
            Function.update (fun other => (futures other).flying) family waiting.flying :=
          funext fun other => Function.apply_update (fun _ => ConnectFuture.flying) ..
        rwa [huntried, hflying]
    | failed e =>
      -- the other future is awaited where it is
      have hother := @await_finds outcome addrs _ _ family.other (futures family.other)
        (Function.update_of_ne family.other_ne ..) (Function.update_of_ne family.other_ne ..)
        d' hresume
      have hnil : Function.update
          (Function.update (fun other => (futures other).untried) family []) family.other [] =
            fun _ => [] := by
        funext other
        cases family <;> cases other <;> rfl
      have hnone : Function.update
          (Function.update (fun other => (futures other).flying) family none) family.other none =
            fun _ => none := by
        funext other
        cases family <;> cases other <;> rfl
      rwa [hnil, hnone] at hother
    | pending => exact hresume
    | panicked => exact hresume

end

/-! ## Connecting to a name -/

/-- What the attempts come to, in whatever order they end. -/
structure Dials (outcome : SocketAddr → Except IoError Unit) (addrs : List SocketAddr)
    (d : Dialer) : Prop where
  outcomes : d.connectOutcome = fun _ addr => some (outcome addr)
  tried : d.tried = []
  /-- Everybody who waits is served in the end. -/
  schedule : addrs.length ≤ d.schedule.length

def Connects (r : Polled IoError SocketAddr × Dialer) : Prop := ∃ addr, r.1 = .ready addr

def Fails (r : Polled IoError SocketAddr × Dialer) : Prop := ∃ e, r.1 = .failed e

/-- A connection is made exactly if an address can be connected to. -/
structure Complete (outcome : SocketAddr → Except IoError Unit) (addrs : List SocketAddr)
    (r : Polled IoError SocketAddr × Dialer) : Prop where
  ends : Connects r ∨ Fails r
  connects : Connects r ↔ ∃ addr ∈ addrs, outcome addr = .ok ()
  connected : ∀ addr, r.1 = .ready addr → outcome addr = .ok () ∧ addr ∈ r.2.tried
  inOrder : ∀ family : AddrFamily, r.2.tried.filter family.has <+: addrs.filter family.has
  once : ∀ addr, r.2.tried.count addr ≤ addrs.count addr
  exhausted : Fails r → ∀ addr ∈ addrs, addr ∈ r.2.tried ∧ outcome addr ≠ .ok ()

section

variable {outcome : SocketAddr → Except IoError Unit} {addrs : List SocketAddr}

theorem not_connects_of_fails {r : Polled IoError SocketAddr × Dialer} (h : Fails r) :
    ¬Connects r := by
  rintro ⟨addr, hready⟩
  obtain ⟨e, hfailed⟩ := h
  rw [hready] at hfailed
  cases hfailed

theorem Complete.fails_iff {r : Polled IoError SocketAddr × Dialer}
    (h : Complete outcome addrs r) : Fails r ↔ ¬∃ addr ∈ addrs, outcome addr = .ok () := by
  rw [← h.connects]
  exact ⟨not_connects_of_fails, fun hnot => h.ends.resolve_left hnot⟩

theorem AddrFamily.exists_has (addr : SocketAddr) : ∃ family : AddrFamily, family.has addr = true := by
  cases addr with
  | v4 ip port => exact ⟨.ipv4, rfl⟩
  | v6 ip port flowinfo scopeId => exact ⟨.ipv6, rfl⟩

theorem mem_of_inOrder {tried : List SocketAddr}
    (h : ∀ family : AddrFamily, tried.filter family.has <+: addrs.filter family.has)
    {addr : SocketAddr} (hmem : addr ∈ tried) : addr ∈ addrs := by
  obtain ⟨family, hfamily⟩ := AddrFamily.exists_has addr
  have hfilter := (h family).subset (List.mem_filter.2 ⟨hmem, hfamily⟩)
  exact (List.mem_filter.1 hfilter).1

theorem count_le_of_inOrder {tried : List SocketAddr}
    (h : ∀ family : AddrFamily, tried.filter family.has <+: addrs.filter family.has)
    (addr : SocketAddr) : tried.count addr ≤ addrs.count addr := by
  obtain ⟨family, hfamily⟩ := AddrFamily.exists_has addr
  rw [← List.count_filter hfamily, ← List.count_filter (l := addrs) hfamily]
  exact (h family).sublist.count_le addr

theorem complete_of_finding {r : Polled IoError SocketAddr × Dialer}
    (h : (finding outcome addrs (fun _ => []) fun _ => none).holds r) :
    Complete outcome addrs r := by
  obtain ⟨res, d⟩ := r
  cases res with
  | ready addr =>
    have hfound : Found outcome addrs addr d := h
    exact {
      ends := .inl ⟨addr, rfl⟩
      connects := ⟨fun _ => ⟨addr, mem_of_inOrder hfound.inOrder hfound.tried, hfound.connected⟩,
        fun _ => ⟨addr, rfl⟩⟩
      connected := fun _ heq => by
        cases heq
        exact ⟨hfound.connected, hfound.tried⟩
      inOrder := hfound.inOrder
      once := count_le_of_inOrder hfound.inOrder
      exhausted := fun ⟨_, heq⟩ => (nomatch heq) }
  | failed e =>
    have hfailed : Searching outcome addrs (fun _ => []) (fun _ => none) d := h
    -- a failure leaves nothing of either family untried
    have hall : ∀ family : AddrFamily, d.tried.filter family.has = addrs.filter family.has :=
      fun family => (List.append_nil _).symm.trans (hfailed.inOrder family)
    have hrefused : ∀ addr ∈ addrs, addr ∈ d.tried ∧ outcome addr ≠ .ok () := by
      intro addr hmem
      obtain ⟨family, hfamily⟩ := AddrFamily.exists_has addr
      have htried : addr ∈ d.tried := by
        have hfilter : addr ∈ d.tried.filter family.has := by
          rw [hall family]
          exact List.mem_filter.2 ⟨hmem, hfamily⟩
        exact (List.mem_filter.1 hfilter).1
      refine ⟨htried, fun hok => ?_⟩
      obtain ⟨_, hnone⟩ := hfailed.failed addr htried hok
      cases hnone
    have hinOrder : ∀ family : AddrFamily,
        d.tried.filter family.has <+: addrs.filter family.has := fun family => ⟨[], hfailed.inOrder family⟩
    exact {
      ends := .inr ⟨e, rfl⟩
      connects := ⟨fun ⟨_, heq⟩ => (nomatch heq),
        fun ⟨addr, hmem, hok⟩ => absurd hok (hrefused addr hmem).2⟩
      connected := fun _ heq => (nomatch heq)
      inOrder := hinOrder
      once := count_le_of_inOrder hinOrder
      exhausted := fun _ => hrefused }
  | pending => exact h.elim
  | panicked => exact h.elim

theorem Dials.searching {d : Dialer} (h : Dials outcome addrs d) :
    Searching outcome addrs (fun family => addrs.filter family.has) (fun _ => none) d where
  outcomes := h.outcomes
  inOrder := fun family => by rw [h.tried, List.filter_nil, List.nil_append]
  failed := fun addr hmem => by
    rw [h.tried] at hmem
    cases hmem
  tried := fun _ _ hnone => (nomatch hnone)

theorem update_families {α : Type} (f : AddrFamily → α) (family : AddrFamily) (x y : α) :
    Function.update (Function.update f family x) family.other y =
      fun other => if other = family then x else y := by
  funext other
  cases family <;> cases other <;> rfl

theorem length_families (addrs : List SocketAddr) (family : AddrFamily) :
    (addrs.filter family.has).length + (addrs.filter family.other.has).length = addrs.length := by
  rw [addrs.length_eq_length_filter_add (·.isV4)]
  cases family with
  | ipv4 => rfl
  | ipv6 => exact Nat.add_comm ..

/-- Where one family has no addresses, the other one has some. -/
theorem other_ne_nil (hne : addrs ≠ []) {family : AddrFamily}
    (h : addrs.filter family.has = []) : addrs.filter family.other.has ≠ [] := by
  intro hother
  have hlength := length_families addrs family
  rw [h, hother] at hlength
  exact hne (List.length_eq_zero_iff.1 hlength.symm)

/-- Where only one family has addresses, they are tried in turn. -/
theorem tryEach_completes (family : AddrFamily) (hne : addrs.filter family.has ≠ [])
    (hother : addrs.filter family.other.has = []) {d : Dialer} (h : Dials outcome addrs d) :
    Complete outcome addrs (tryEach connect (addrs.filter family.has) d) := by
  have hfinds := @tryEach_finds outcome addrs (fun family => addrs.filter family.has)
    (fun _ => none) family hne rfl d h.searching
  have hnil : Function.update (fun family : AddrFamily => addrs.filter family.has) family [] =
      fun _ => [] := by
    funext other
    cases family <;> cases other
    exacts [rfl, hother, hother, rfl]
  rw [hnil] at hfinds
  exact complete_of_finding hfinds

/-- One family is tried after the other. -/
theorem orElse_completes (family : AddrFamily) (hne : addrs.filter family.has ≠ [])
    (hother : addrs.filter family.other.has ≠ []) {d : Dialer} (h : Dials outcome addrs d) :
    Complete outcome addrs (orElse (tryEach connect (addrs.filter family.has))
      (tryEach connect (addrs.filter family.other.has)) d) := by
  have hfirst := @tryEach_finds outcome addrs (fun family => addrs.filter family.has)
    (fun _ => none) family hne rfl
  have huntried : Function.update (fun family : AddrFamily => addrs.filter family.has) family []
      family.other = addrs.filter family.other.has := Function.update_of_ne family.other_ne ..
  have hsecond := @tryEach_finds outcome addrs _ (fun _ => none) family.other
    (huntried ▸ hother) rfl
  rw [huntried, update_families] at hsecond
  simp only [ite_self] at hsecond
  exact complete_of_finding (Triple.orElse hfirst hsecond d h.searching)

theorem raceFrom_completes (first : AddrFamily) {addr later : SocketAddr}
    {rest laters : List SocketAddr} (hfirst : addrs.filter first.has = addr :: rest)
    (hlater : addrs.filter first.other.has = later :: laters) {d : Dialer}
    (h : Dials outcome addrs d) :
    Complete outcome addrs (raceFrom first addr rest later laters d) := by
  let futures : AddrFamily → ConnectFuture := fun family =>
    if family = first then .connecting addr rest else .sleeping later laters
  have hstart := h.searching.start hfirst rfl
  have huntried : Function.update (fun family : AddrFamily => addrs.filter family.has) first rest =
      fun family => (futures family).untried := by
    funext family
    by_cases heq : family = first
    · simp [futures, heq, ConnectFuture.untried]
    · rw [Function.update_of_ne heq, AddrFamily.eq_other heq, hlater]
      simp [futures, AddrFamily.other_ne, ConnectFuture.untried]
  have hflying : Function.update (fun _ : AddrFamily => none) first (some addr) =
      fun family => (futures family).flying := by
    funext family
    by_cases heq : family = first
    · simp [futures, heq, ConnectFuture.flying]
    · simp [futures, heq, ConnectFuture.flying]
  have hwaits : (futures .ipv4).waits + (futures .ipv6).waits ≤ d.schedule.length + 1 := by
    have hlength := length_families addrs first
    have hschedule := h.schedule
    rw [hfirst, hlater, List.length_cons, List.length_cons] at hlength
    cases first <;> simp [futures, ConnectFuture.waits] <;> omega
  rw [huntried, hflying] at hstart
  exact complete_of_finding (race_finds hwaits _ hstart)

theorem lookupThenConnect_completes (ipv6First : Bool) (hne : addrs ≠ []) {d : Dialer}
    (h : Dials outcome addrs d) : Complete outcome addrs (lookupThenConnect ipv6First addrs d) := by
  have hfour : addrs.filter (·.isV4) = addrs.filter AddrFamily.ipv4.has := rfl
  have hsix : addrs.filter (!·.isV4) = addrs.filter AddrFamily.ipv6.has := rfl
  unfold lookupThenConnect
  rw [hfour, hsix]
  cases hv4 : addrs.filter AddrFamily.ipv4.has with
  | nil =>
    cases hv6 : addrs.filter AddrFamily.ipv6.has with
    | nil => exact absurd hv6 (other_ne_nil hne hv4)
    | cons v6 v6Addrs =>
      have hne6 : addrs.filter AddrFamily.ipv6.has ≠ [] := by
        rw [hv6]
        exact List.cons_ne_nil v6 v6Addrs
      have hcompletes := tryEach_completes .ipv6 hne6 hv4 h
      rwa [hv6] at hcompletes
  | cons v4 v4Addrs =>
    cases hv6 : addrs.filter AddrFamily.ipv6.has with
    | nil =>
      have hne4 : addrs.filter AddrFamily.ipv4.has ≠ [] := by
        rw [hv4]
        exact List.cons_ne_nil v4 v4Addrs
      have hcompletes := tryEach_completes .ipv4 hne4 hv6 h
      rwa [hv4] at hcompletes
    | cons v6 v6Addrs =>
      cases ipv6First with
      | true => exact raceFrom_completes .ipv6 hv6 hv4 h
      | false => exact raceFrom_completes .ipv4 hv4 hv6 h

theorem lookupThen_completes (ipv6First : Bool) (hne : addrs ≠ []) {d : Dialer}
    (h : Dials outcome addrs d) :
    Complete outcome addrs (lookupThen ipv6First addrs connect d) := by
  change Complete outcome addrs ((
    if addrs.filter AddrFamily.ipv4.has = [] ∧ addrs.filter AddrFamily.ipv6.has = [] then
      PollM.crash
    else if addrs.filter AddrFamily.ipv4.has = [] then
      tryEach connect (addrs.filter AddrFamily.ipv6.has)
    else if addrs.filter AddrFamily.ipv6.has = [] then
      tryEach connect (addrs.filter AddrFamily.ipv4.has)
    else if ipv6First then
      orElse (tryEach connect (addrs.filter AddrFamily.ipv6.has))
        (tryEach connect (addrs.filter AddrFamily.ipv4.has))
    else
      orElse (tryEach connect (addrs.filter AddrFamily.ipv4.has))
        (tryEach connect (addrs.filter AddrFamily.ipv6.has))) d)
  rw [if_neg fun hnil => other_ne_nil hne hnil.1 hnil.2]
  by_cases hv4 : addrs.filter AddrFamily.ipv4.has = []
  · rw [if_pos hv4]
    exact tryEach_completes .ipv6 (other_ne_nil hne hv4) hv4 h
  · by_cases hv6 : addrs.filter AddrFamily.ipv6.has = []
    · rw [if_neg hv4, if_pos hv6]
      exact tryEach_completes .ipv4 hv4 hv6 h
    · rw [if_neg hv4, if_neg hv6]
      cases ipv6First with
      | true => exact orElse_completes .ipv6 hv6 hv4 h
      | false => exact orElse_completes .ipv4 hv4 hv6 h

/-- **Happy Eyeballs.** In whatever order the attempts end, `lookup_then_connect!` succeeds exactly
    if an address can be connected to, and so exactly if `lookup_then!` does.  An address that the
    resolver repeats is an entry of its own each time. -/
theorem happy_eyeballs (outcome : SocketAddr → Except IoError Unit) (ipv6First : Bool)
    {addrs : List SocketAddr} (hne : addrs ≠ []) {d : Dialer} (h : Dials outcome addrs d) :
    Complete outcome addrs (lookupThenConnect ipv6First addrs d) ∧
      (Connects (lookupThenConnect ipv6First addrs d) ↔
        Connects (lookupThen ipv6First addrs connect d)) ∧
      (Fails (lookupThenConnect ipv6First addrs d) ↔
        Fails (lookupThen ipv6First addrs connect d)) := by
  have hconnect := lookupThenConnect_completes ipv6First hne h
  have hthen := lookupThen_completes ipv6First hne h
  refine ⟨hconnect, hconnect.connects.trans hthen.connects.symm, ?_⟩
  rw [hconnect.fails_iff, hthen.fails_iff]

end

/-- Only the IPv6 address can be connected to. -/
def onlyIpv6 (addr : SocketAddr) : Except IoError Unit :=
  if addr.isV4 then .error (.other "connection refused") else .ok ()

/-- Two addresses of one family and one of the other. -/
def threeAddrs : List SocketAddr := [.v4 0x0a000001#32 80, .v6 1#128 80 0 0, .v4 0x0a000002#32 80]

/-- The sleep ends before the first attempt does. -/
def threeWaits : Dialer where
  answers := []
  connectOutcome := fun _ addr => some (onlyIpv6 addr)
  schedule := [.ipv6, .ipv4, .ipv6]
  tried := []

theorem happy_eyeballs_three :
    (lookupThenConnect false threeAddrs threeWaits).1 = .ready (.v6 1#128 80 0 0) ∧
      Complete onlyIpv6 threeAddrs (lookupThenConnect false threeAddrs threeWaits) := by
  have hdials : Dials onlyIpv6 threeAddrs threeWaits := ⟨rfl, rfl, Nat.le_refl 3⟩
  exact ⟨rfl, (happy_eyeballs onlyIpv6 false (List.cons_ne_nil _ _) hdials).1⟩

end Shadowsocks.Net
