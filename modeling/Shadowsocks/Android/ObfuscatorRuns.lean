import Mathlib.Data.List.Nodup
import Shadowsocks.Android.Obfuscator

/-! # Runs of the Android module -/

namespace Shadowsocks.Android

open Shadowsocks.Lib

variable {H : Type}

namespace Obfuscator

/-! ## What a step can do -/

/-- No process is in the cache whose identifier can be read. -/
def Free (s : Obfuscator H) : Prop :=
  ∀ process, s.cache.process = some process → ∃ message, process.pidField = .inr message

/-- A start before it launches its process. -/
def prepared (handler : H) (s : Obfuscator H) : Obfuscator H :=
  { s with
    calls := s.calls + 1
    cache := { s.cache with processListeningOnCompletableDeferred := some s.deferreds }
    deferreds := s.deferreds + 1
    startProcessOutputHandler := { obfuscatorProcessEventHandler := some handler } }

/-- The next process. -/
def nextProcess (s : Obfuscator H) (commands : List String) (pidField : Nat ⊕ String) : Process :=
  { number := s.launched.length, commands := commands, pidField := pidField }

/-- A start that has launched its process and waits. -/
def launchedWith (handler : H) (process : Process) (s : Obfuscator H) : Obfuscator H :=
  { s.prepared handler with
    cache := { process := some process, processListeningOnCompletableDeferred := some s.deferreds }
    launched := process :: s.launched
    running := process :: s.running
    readers := s.readers ++ [{ process := process, state := .reading none }]
    waiting := { call := s.calls, deferred := s.deferreds, process := process } :: s.waiting }

/-- A stop that has killed the processes with an identifier. -/
def killed (pid : Nat) (s : Obfuscator H) : Obfuscator H :=
  { s with
    running := s.running.filter fun process => process.pidField ≠ .inl pid
    cache := .clear }

/-- What an event makes of a state. -/
inductive Steps (s : Obfuscator H) : Event H → Obfuscator H → Prop where
  | refused {commandLineParams handler launch process pid}
      (hcached : s.cache.process = some process) (hpid : process.pidField = .inl pid) :
      Steps s (.start commandLineParams handler launch)
        (s.newCall.answer (.failed s.calls { code := .processRunningAlready, error := none }))
  | unlaunched {commandLineParams handler launch error} (hfree : s.Free)
      (hlaunch : ∀ executablePath pidField, launch ≠ .started executablePath pidField) :
      Steps s (.start commandLineParams handler launch)
        ({ s.prepared handler with cache := .clear }.answer (.failed s.calls error))
  | launched {commandLineParams handler executablePath pidField} (hfree : s.Free) :
      Steps s (.start commandLineParams handler (.started executablePath pidField))
        (s.launchedWith handler (s.nextProcess (executablePath :: commandLineParams) pidField))
  | stopped {process pid} (hcached : s.cache.process = some process)
      (hpid : process.pidField = .inl pid) :
      Steps s (.stop (.ok ()))
        ((s.newCall.killed pid).answer (.stopped s.calls))
  | unstopped {kill error} : Steps s (.stop kill) (s.newCall.answer (.failed s.calls error))
  | resumed {start} (hwaiting : start ∈ s.waiting) (hcompleted : s.isCompleted start.deferred) :
      Steps s (.resume start) ((s.wake start).answer (.started start))
  | timedOut {start} (hwaiting : start ∈ s.waiting) : Steps s (.timeOut start) (s.timeOut start)
  | reads {e i reader state} (hreader : s.readers[i]? = some reader)
      (hactive : reader.state ≠ .ended) : Steps s e (s.setReader i reader state)
  | listens {i reader line deferred} (hreader : s.readers[i]? = some reader)
      (hactive : reader.state ≠ .ended)
      (hdeferred : s.cache.processListeningOnCompletableDeferred = some deferred) :
      Steps s (.report i)
        ({ s with completed := (deferred, reader.process) :: s.completed }.setReader i reader
          (.checking line))
  | notifies {i reader line handler} (hreader : s.readers[i]? = some reader)
      (hactive : reader.state ≠ .ended)
      (hhandler : s.processOutputHandler.obfuscatorProcessEventHandler = some handler) :
      Steps s (.report i)
        ({ s with notified := handler :: s.notified }.setReader i reader (.checking line))
  | exited {process} :
      Steps s (.exits process) { s with running := s.running.erase process }

theorem start_cached {s : Obfuscator H} {process : Process} {pid : Nat}
    (hcached : s.cache.process = some process) (hpid : process.pidField = .inl pid)
    (commandLineParams : List String) (handler : H) (launch : Launch) :
    s.start commandLineParams handler launch =
      s.newCall.answer (.failed s.calls { code := .processRunningAlready, error := none }) := by
  rcases s with ⟨⟨cached, deferred⟩, _, _, _, _, _, _, _, _, _, _, _⟩
  rcases process with ⟨number, commands, pidField⟩
  obtain rfl : cached = _ := hcached
  obtain rfl : pidField = _ := hpid
  rfl

theorem steps_start (s : Obfuscator H) (commandLineParams : List String) (handler : H)
    (launch : Launch) : Steps s (.start commandLineParams handler launch)
      (s.start commandLineParams handler launch) := by
  rcases s with ⟨⟨cached, deferred⟩, _, _, _, _, _, _, _, _, _, _, _⟩
  cases cached with
  | none =>
    have hfree : ∀ process, (none : Option Process) = some process →
        ∃ message, process.pidField = .inr message := fun _ h => by cases h
    cases launch with
    | executablePathMissing => exact .unlaunched hfree fun _ _ h => by cases h
    | threw message => exact .unlaunched hfree fun _ _ h => by cases h
    | started executablePath pidField => exact .launched hfree
  | some process =>
    rcases process with ⟨number, commands, pid | message⟩
    · exact .refused rfl rfl
    · have hfree : ∀ process, some (Process.mk number commands (.inr message)) = some process →
          ∃ message, process.pidField = .inr message := by
        intro _ h
        obtain rfl := Option.some.inj h
        exact ⟨message, rfl⟩
      cases launch with
      | executablePathMissing => exact .unlaunched hfree fun _ _ h => by cases h
      | threw message => exact .unlaunched hfree fun _ _ h => by cases h
      | started executablePath pidField => exact .launched hfree

theorem stop_cached {s : Obfuscator H} {process : Process} {pid : Nat}
    (hcached : s.cache.process = some process) (hpid : process.pidField = .inl pid) :
    s.stop (.ok ()) =
      (s.newCall.killed pid).answer (.stopped s.calls) := by
  rcases s with ⟨⟨cached, deferred⟩, _, _, _, _, _, _, _, _, _, _, _⟩
  rcases process with ⟨number, commands, pidField⟩
  obtain rfl : cached = _ := hcached
  obtain rfl : pidField = _ := hpid
  rfl

theorem steps_stop (s : Obfuscator H) (kill : Except (Option String) Unit) :
    Steps s (.stop kill) (s.stop kill) := by
  cases kill with
  | ok _ =>
    cases hcached : s.cache.process with
    | none =>
      rcases s with ⟨⟨cached, deferred⟩, _, _, _, _, _, _, _, _, _, _, _⟩
      obtain rfl : cached = _ := hcached
      exact .unstopped
    | some process =>
      cases hpid : process.pidField with
      | inl pid =>
        rw [stop_cached hcached hpid]
        exact .stopped hcached hpid
      | inr message =>
        rcases s with ⟨⟨cached, deferred⟩, _, _, _, _, _, _, _, _, _, _, _⟩
        rcases process with ⟨number, commands, pidField⟩
        obtain rfl : cached = _ := hcached
        obtain rfl : pidField = _ := hpid
        exact .unstopped
  | error message =>
    rcases s with ⟨⟨cached, deferred⟩, _, _, _, _, _, _, _, _, _, _, _⟩
    rcases cached with _ | ⟨number, commands, pid | text⟩ <;> exact .unstopped

/-- What `output` makes of a line. -/
theorem steps_reportLine {s : Obfuscator H} {i : Nat} {reader : Reader} {line : Option String}
    (hreader : s.readers[i]? = some reader) (hstate : reader.state = .reporting line) :
    Steps s (.report i) (s.reportLine i reader line) := by
  have hactive : reader.state ≠ .ended := by simp [hstate]
  rcases line with _ | line
  · exact .reads hreader hactive
  · rw [reportLine, output, Option.bind_some]
    by_cases herror : contains line "error"
    · rw [if_pos herror]
      cases hhandler : s.processOutputHandler.obfuscatorProcessEventHandler with
      | none => exact .reads hreader hactive
      | some handler => exact .notifies hreader hactive hhandler
    · rw [if_neg herror]
      by_cases hlistening : contains line "listening on"
      · rw [if_pos hlistening]
        cases hdeferred : s.cache.processListeningOnCompletableDeferred with
        | none =>
          simp only [handleProcessSuccessOutput, hdeferred]
          exact .reads hreader hactive
        | some deferred =>
          simp only [handleProcessSuccessOutput, hdeferred]
          exact .listens hreader hactive hdeferred
      · rw [if_neg hlistening]
        exact .reads hreader hactive

theorem step_report_listening {s : Obfuscator H} {i : Nat} {reader : Reader} {line : String}
    {deferred : Nat} (hreader : s.readers[i]? = some reader)
    (hstate : reader.state = .reporting (some line)) (herror : ¬ contains line "error")
    (hlistening : contains line "listening on")
    (hdeferred : s.cache.processListeningOnCompletableDeferred = some deferred) :
    s.step (.report i) =
      some ({ s with completed := (deferred, reader.process) :: s.completed }.setReader i reader
        (.checking (some line))) := by
  simp only [step, hreader, hstate]
  rw [reportLine, output, Option.bind_some, if_neg herror, if_pos hlistening,
    handleProcessSuccessOutput, hdeferred]

theorem steps_of_step {s t : Obfuscator H} {e : Event H} (h : s.step e = some t) :
    Steps s e t := by
  cases e with
  | start commandLineParams handler launch =>
    obtain rfl := Option.some.inj h
    exact s.steps_start commandLineParams handler launch
  | stop kill =>
    obtain rfl := Option.some.inj h
    exact s.steps_stop kill
  | resume start =>
    simp only [step, Option.ite_none_right_eq_some] at h
    obtain ⟨⟨hwaiting, hcompleted⟩, h⟩ := h
    obtain rfl := Option.some.inj h
    exact .resumed hwaiting hcompleted
  | timeOut start =>
    simp only [step, Option.ite_none_right_eq_some] at h
    obtain ⟨hwaiting, h⟩ := h
    obtain rfl := Option.some.inj h
    exact .timedOut hwaiting
  | readLine i line =>
    cases hreader : s.readers[i]? with
    | none => simp [step, hreader] at h
    | some reader =>
      cases hstate : reader.state with
      | reading lastKnownLine =>
        simp only [step, hreader, hstate] at h
        obtain rfl := Option.some.inj h
        exact .reads hreader (by simp [hstate])
      | _ => simp [step, hreader, hstate] at h
  | readFails i =>
    cases hreader : s.readers[i]? with
    | none => simp [step, hreader] at h
    | some reader =>
      cases hstate : reader.state with
      | reading lastKnownLine =>
        simp only [step, hreader, hstate] at h
        obtain rfl := Option.some.inj h
        exact .reads hreader (by simp [hstate])
      | _ => simp [step, hreader, hstate] at h
  | report i =>
    cases hreader : s.readers[i]? with
    | none => simp [step, hreader] at h
    | some reader =>
      cases hstate : reader.state with
      | reporting line =>
        simp only [step, hreader, hstate] at h
        obtain rfl := Option.some.inj h
        exact steps_reportLine hreader hstate
      | _ => simp [step, hreader, hstate] at h
  | check i =>
    cases hreader : s.readers[i]? with
    | none => simp [step, hreader] at h
    | some reader =>
      cases hstate : reader.state with
      | checking line =>
        simp only [step, hreader, hstate] at h
        obtain rfl := Option.some.inj h
        exact .reads hreader (by simp [hstate])
      | _ => simp [step, hreader, hstate] at h
  | exits process =>
    simp only [step, Option.ite_none_right_eq_some] at h
    obtain ⟨_, h⟩ := h
    obtain rfl := Option.some.inj h
    exact .exited

/-! ## Calls -/

/-- The calls that are answered, or that wait. -/
def taken (s : Obfuscator H) : List Nat := s.answers.map Answer.call ++ s.waiting.map Waiting.call

theorem Steps.taken {s t : Obfuscator H} {e : Event H} (h : Steps s e t)
    (hs : s.taken.Perm (List.range s.calls)) : t.taken.Perm (List.range t.calls) := by
  have hnext : (s.calls :: s.taken).Perm (List.range (s.calls + 1)) := by
    rw [List.range_succ]
    exact ((hs.cons s.calls).trans (List.perm_append_singleton _ _).symm)
  -- The call of a start that goes on moves from those that wait to those that are answered.
  have hmoves : ∀ {start : Waiting}, start ∈ s.waiting →
      (start.call :: (s.answers.map Answer.call ++ (s.waiting.erase start).map Waiting.call)).Perm
        s.taken := by
    intro start hwaiting
    have hperm := (List.perm_cons_erase hwaiting).map Waiting.call
    exact (List.perm_middle.symm.trans (hperm.symm.append_left _))
  cases h with
  | refused | unlaunched | stopped | unstopped => exact hnext
  | launched => exact List.perm_middle.trans hnext
  | resumed hwaiting | timedOut hwaiting => exact (hmoves hwaiting).trans hs
  | reads | listens | notifies | exited => exact hs

/-- In every run, every call is answered once or waits once, whatever happens in between. -/
theorem calls_answered_once {s : Obfuscator H} (h : Reachable step anyStep build s) :
    s.taken.Perm (List.range s.calls) :=
  h.invariant (fun s => s.taken.Perm (List.range s.calls)) (List.Perm.refl _)
    fun hs _ hstep => (steps_of_step hstep).taken hs

def launch (handler : Nat) : Event Nat :=
  .start ["-c", "config"] handler (.started "sslocal" (.inl 100))

/-- A start whose process prints a line. -/
def launchAndPrint (line : String) : List (Event Nat) := [launch 7, .readLine 0 (some line)]

/-- A start that succeeds, one that is refused, since there is a process already, a stop, and a start
    that waits. -/
def startAgain : List (Event Nat) :=
  launchAndPrint "listening on 127.0.0.1:1080" ++
    [.report 0, .resume
      { call := 0, deferred := 0
        process := { number := 0, commands := ["sslocal", "-c", "config"], pidField := .inl 100 } },
      launch 8, .stop (.ok ()), launch 9]

/-- Three calls are answered, and one waits. -/
theorem calls_answered_once_of_start : ∃ s : Obfuscator Nat,
    startAgain.foldlM step build = some s ∧ s.calls = 4 ∧
      (s.answers.map Answer.call, s.waiting.map Waiting.call) = ([2, 1, 0], [3]) ∧
      s.taken.Perm (List.range s.calls) := by
  obtain ⟨s, hrun, hcalls⟩ : ∃ s : Obfuscator Nat, startAgain.foldlM step build = some s ∧
      (s.calls, s.answers.map Answer.call, s.waiting.map Waiting.call) = (4, [2, 1, 0], [3]) :=
    Option.map_eq_some_iff.1 (by decide +kernel)
  exact ⟨s, hrun, congrArg Prod.fst hcalls, congrArg Prod.snd hcalls,
    calls_answered_once (.of_run hrun)⟩

/-! ## Notifications -/

/-- The object that handles the lines has no handler to notify, and notified none. -/
def Unheard (s : Obfuscator H) : Prop :=
  s.processOutputHandler.obfuscatorProcessEventHandler = none ∧ s.notified = []

theorem Steps.unheard {s t : Obfuscator H} {e : Event H} (h : Steps s e t) (hs : s.Unheard) :
    t.Unheard := by
  cases h with
  | notifies _ _ hhandler => cases hs.1.symm.trans hhandler
  | _ => exact hs

/-- No run notifies a client that its process stopped. The handler that a start is given is kept
    in another object than the one that reads it: the line that was to notify it ends the reader
    of the process instead, and changes nothing else. -/
theorem never_notified {s : Obfuscator H} (h : Reachable step anyStep build s) :
    s.notified = [] ∧
      ∀ i reader line, s.readers[i]? = some reader → reader.state = .reporting (some line) →
        contains line "error" → s.step (.report i) = some (s.setReader i reader .ended) := by
  have hs : s.Unheard :=
    h.invariant Unheard ⟨rfl, rfl⟩ fun hs _ hstep => (steps_of_step hstep).unheard hs
  refine ⟨hs.2, ?_⟩
  intro i reader line hreader hstate herror
  simp only [step, hreader, hstate]
  rw [reportLine, output, Option.bind_some, if_pos herror, hs.1]
  rfl

theorem never_notified_of_error : ∃ s : Obfuscator Nat,
    (launchAndPrint "An ERROR occurred").foldlM step build = some s ∧ s.notified = [] ∧
      ∃ reader, s.step (.report 0) = some (s.setReader 0 reader .ended) := by
  have hrun : (launchAndPrint "An ERROR occurred").foldlM step build = some _ := rfl
  obtain ⟨hnone, hends⟩ := never_notified (.of_run hrun)
  exact ⟨_, hrun, hnone, _, hends 0 _ _ rfl rfl (by decide +kernel)⟩

/-! ## Starts -/

/-- No reader of an earlier process is left when a process is launched. -/
def readersEnded (s : Obfuscator H) : Event H → Prop
  | .start _ _ (.started _ _) => ∀ reader ∈ s.readers, reader.state = .ended
  | _ => True

/-- A start that waits, or that has succeeded. -/
def Begun (s : Obfuscator H) (start : Waiting) : Prop :=
  start ∈ s.waiting ∨ .started start ∈ s.answers

/-- Whose lines complete which deferred: the readers that go on read the process launched last,
    and the deferred that is cached is the one of its start. -/
structure Own (s : Obfuscator H) : Prop where
  readers : ∀ reader ∈ s.readers, reader.state ≠ .ended → s.launched.head? = some reader.process
  cached : ∀ deferred, s.cache.processListeningOnCompletableDeferred = some deferred →
    deferred < s.deferreds ∧
      ∀ start, s.Begun start → start.deferred = deferred → s.launched.head? = some start.process
  begun : ∀ start, s.Begun start → start.deferred < s.deferreds
  completed : ∀ done ∈ s.completed, done.1 < s.deferreds ∧
    ∀ start, s.Begun start → start.deferred = done.1 → done.2 = start.process
  started : ∀ start, .started start ∈ s.answers → s.isCompleted start.deferred

variable {s t : Obfuscator H}

/-- A reader that was active goes on with the same process. -/
theorem readers_set {readers : List Reader} {i : Nat} {reader : Reader} {last : Option Process}
    (state : ReaderState)
    (hall : ∀ reader ∈ readers, reader.state ≠ .ended → last = some reader.process)
    (hreader : readers[i]? = some reader) (hactive : reader.state ≠ .ended) :
    ∀ other ∈ readers.set i { reader with state := state }, other.state ≠ .ended →
      last = some other.process := by
  intro other hother hactive'
  rcases List.mem_or_eq_of_mem_set hother with hmem | rfl
  · exact hall other hmem hactive'
  · exact hall reader (List.mem_of_getElem? hreader) hactive

theorem Own.build : Own (build : Obfuscator H) where
  readers _ h := by cases h
  cached _ h := by cases h
  begun _ h := by rcases h with h | h <;> cases h
  completed _ h := by cases h
  started _ h := by cases h

/-- What depends on the starts that have begun, in a state where no other start has. -/
theorem Own.of_begun (hs : s.Own) (hbegun : ∀ start, t.Begun start → s.Begun start)
    (hreaders : t.readers = s.readers) (hlaunched : t.launched = s.launched)
    (hcached : t.cache.processListeningOnCompletableDeferred = none ∨ t.cache = s.cache)
    (hdeferreds : s.deferreds ≤ t.deferreds) (hcompleted : t.completed = s.completed)
    (hstarted : ∀ start, .started start ∈ t.answers → s.isCompleted start.deferred) : t.Own where
  readers := by
    rw [hreaders, hlaunched]
    exact hs.readers
  cached deferred hdeferred := by
    rcases hcached with hnone | hsame
    · cases hnone.symm.trans hdeferred
    · rw [hsame] at hdeferred
      obtain ⟨hlt, hown⟩ := hs.cached deferred hdeferred
      rw [hlaunched]
      exact ⟨hlt.trans_le hdeferreds, fun start h => hown start (hbegun start h)⟩
  begun start h := (hs.begun start (hbegun start h)).trans_le hdeferreds
  completed done hdone := by
    rw [hcompleted] at hdone
    obtain ⟨hlt, hown⟩ := hs.completed done hdone
    exact ⟨hlt.trans_le hdeferreds, fun start h => hown start (hbegun start h)⟩
  started start h := by
    rw [isCompleted, hcompleted]
    exact hstarted start h

/-- An answer that is no success. -/
theorem begun_of_answer {answer : Answer} (hanswer : ∀ start, answer ≠ .started start)
    {start : Waiting} (h : (s.answer answer).Begun start) : s.Begun start :=
  h.imp_right fun h => (List.mem_cons.1 h).resolve_left fun heq => hanswer start heq.symm

theorem Own.launchedWith (hs : s.Own) (hended : ∀ reader ∈ s.readers, reader.state = .ended)
    (handler : H) (process : Process) : (s.launchedWith handler process).Own := by
  have hbegun : ∀ {start}, (s.launchedWith handler process).Begun start →
      start = { call := s.calls, deferred := s.deferreds, process := process } ∨ s.Begun start := by
    rintro start (hwaiting | hstarted)
    · exact (List.mem_cons.1 hwaiting).imp_right .inl
    · exact .inr (.inr hstarted)
  constructor
  case readers =>
    intro reader hreader hactive
    rcases List.mem_append.1 hreader with hold | hnew
    · exact absurd (hended reader hold) hactive
    · obtain rfl := List.mem_singleton.1 hnew
      rfl
  case cached =>
    intro deferred hdeferred
    obtain rfl := Option.some.inj hdeferred
    refine ⟨Nat.lt_succ_self _, fun start hstart heq => ?_⟩
    rcases hbegun hstart with rfl | hold
    · rfl
    · exact absurd heq (hs.begun start hold).ne
  case begun =>
    intro start hstart
    rcases hbegun hstart with rfl | hold
    · exact Nat.lt_succ_self _
    · exact Nat.lt_succ_of_lt (hs.begun start hold)
  case completed =>
    intro done hdone
    obtain ⟨hlt, hown⟩ := hs.completed done hdone
    refine ⟨Nat.lt_succ_of_lt hlt, fun start hstart heq => ?_⟩
    rcases hbegun hstart with rfl | hold
    · exact absurd heq hlt.ne'
    · exact hown start hold heq
  case started => exact hs.started

theorem Own.listens {i : Nat} {reader : Reader} {deferred : Nat} (hs : s.Own)
    (hreader : s.readers[i]? = some reader) (hactive : reader.state ≠ .ended)
    (hdeferred : s.cache.processListeningOnCompletableDeferred = some deferred)
    (line : Option String) :
    ({ s with completed := (deferred, reader.process) :: s.completed }.setReader i reader
      (.checking line)).Own where
  readers := readers_set _ hs.readers hreader hactive
  cached := hs.cached
  begun := hs.begun
  completed done hdone := by
    rcases List.mem_cons.1 hdone with rfl | hold
    · obtain ⟨hlt, hown⟩ := hs.cached _ hdeferred
      refine ⟨hlt, fun start hstart heq => ?_⟩
      have hlast := hs.readers _ (List.mem_of_getElem? hreader) hactive
      exact Option.some.inj (hlast.symm.trans (hown start hstart heq))
    · exact hs.completed done hold
  started start h := Bool.or_eq_true_iff.2 (.inr (hs.started start h))

theorem Steps.own {e : Event H} (h : Steps s e t) (hended : s.readersEnded e) (hs : s.Own) :
    t.Own := by
  cases h with
  | refused | unstopped =>
    exact hs.of_begun (fun start => begun_of_answer (by simp)) rfl rfl (.inr rfl) le_rfl rfl
      fun start h => hs.started start ((List.mem_cons.1 h).resolve_left (by simp))
  | unlaunched =>
    exact hs.of_begun (fun start => begun_of_answer (by simp)) rfl rfl (.inl rfl)
      (Nat.le_succ _) rfl fun start h =>
        hs.started start ((List.mem_cons.1 h).resolve_left (by simp))
  | launched => exact hs.launchedWith hended _ _
  | stopped =>
    exact hs.of_begun (fun start => begun_of_answer (by simp)) rfl rfl (.inl rfl) le_rfl rfl
      fun start h => hs.started start ((List.mem_cons.1 h).resolve_left (by simp))
  | resumed hwaiting hcompleted =>
    refine hs.of_begun ?_ rfl rfl (.inr rfl) le_rfl rfl ?_
    · rintro start (hwaits | hstarted)
      · exact .inl (List.mem_of_mem_erase hwaits)
      · rcases List.mem_cons.1 hstarted with heq | hold
        · obtain rfl := Answer.started.inj heq
          exact .inl hwaiting
        · exact .inr hold
    · intro start h
      rcases List.mem_cons.1 h with heq | hold
      · obtain rfl := Answer.started.inj heq
        exact hcompleted
      · exact hs.started start hold
  | timedOut hwaiting =>
    refine hs.of_begun ?_ rfl rfl (.inl rfl) le_rfl rfl fun start h =>
      hs.started start ((List.mem_cons.1 h).resolve_left (by simp))
    rintro start (hwaits | hstarted)
    · exact .inl (List.mem_of_mem_erase hwaits)
    · exact .inr ((List.mem_cons.1 hstarted).resolve_left (by simp))
  | reads hreader hactive =>
    exact { hs with readers := readers_set _ hs.readers hreader hactive }
  | listens hreader hactive hdeferred => exact hs.listens hreader hactive hdeferred _
  | notifies hreader hactive =>
    exact { hs with readers := readers_set _ hs.readers hreader hactive }
  | exited => exact { hs with }

/-- In a run where every process is launched after the readers of the earlier ones have ended, a
    start succeeds on lines of its own process, and of no other. -/
theorem started_by_own_process (h : Reachable step readersEnded build s) {start : Waiting}
    (hstarted : .started start ∈ s.answers) :
    s.isCompleted start.deferred ∧
      ∀ process, (start.deferred, process) ∈ s.completed → process = start.process := by
  have hs : s.Own :=
    h.invariant Own .build fun hs hended hstep => (steps_of_step hstep).own hended hs
  refine ⟨hs.started start hstarted, fun process hdone => ?_⟩
  exact (hs.completed _ hdone).2 start (.inr hstarted) rfl

/-- The start of the process that `launchAndPrint` launches. -/
def firstStart : Waiting :=
  { call := 0
    deferred := 0
    process := { number := 0, commands := ["sslocal", "-c", "config"], pidField := .inl 100 } }

theorem started_by_own_process_of_first : ∃ s : Obfuscator Nat,
    .started firstStart ∈ s.answers ∧ s.isCompleted firstStart.deferred ∧
      ∀ process, (firstStart.deferred, process) ∈ s.completed → process = firstStart.process := by
  have hlaunched : Reachable step readersEnded (build : Obfuscator Nat) _ :=
    .step .refl (show readersEnded _ (launch 7) from List.forall_mem_nil _) rfl
  have hprinted := hlaunched.step
    (show readersEnded _ (.readLine 0 (some "listening on 1080")) from trivial) rfl
  have hreported := hprinted.step (show readersEnded _ (.report 0) from trivial)
    (step_report_listening rfl rfl (by decide +kernel) (by decide +kernel) rfl)
  have hresumed := hreported.step (show readersEnded _ (.resume firstStart) from trivial) rfl
  exact ⟨_, List.mem_cons_self, started_by_own_process hresumed List.mem_cons_self⟩

/-! ## Processes that are left behind -/

/-- The identifier of every process can be read. -/
def pidsReadable (_ : Obfuscator H) : Event H → Prop
  | .start _ _ (.started _ (.inr _)) => False
  | _ => True

/-- Whether a start was told that it took too long. -/
def timedOut : Answer → Bool
  | .failed _ error => error.code = .processDeferrableTimedOut
  | .started _ | .stopped _ => false

/-- The processes that run without being in the cache. -/
def leftBehind (s : Obfuscator H) : Nat :=
  s.running.countP fun process => s.cache.process ≠ some process

/-- Every process that runs was launched, and only a time-out leaves one behind. -/
structure Kept (s : Obfuscator H) : Prop where
  readable : ∀ process, s.cache.process = some process → ∃ pid, process.pidField = .inl pid
  numbered : ∀ process ∈ s.running, process.number < s.launched.length
  nodup : s.running.Nodup
  leftBehind : s.leftBehind ≤ s.answers.countP timedOut

theorem Kept.build : Kept (build : Obfuscator H) where
  readable _ h := by cases h
  numbered _ h := by cases h
  nodup := List.nodup_nil
  leftBehind := le_rfl

/-- At most one process is in the cache. -/
theorem Kept.running_length (hs : s.Kept) : s.running.length ≤ s.leftBehind + 1 := by
  rw [Obfuscator.leftBehind, List.length_eq_countP_add_countP fun process =>
    decide (s.cache.process ≠ some process)]
  refine Nat.add_le_add_left ?_ _
  cases hcached : s.cache.process with
  | none => simp
  | some process =>
    refine le_trans (List.countP_mono_left ?_) (List.nodup_iff_count_le_one.1 hs.nodup process)
    intro other _ h
    have heq : some process = some other := by
      by_contra hne
      exact of_decide_eq_true h (decide_eq_true hne)
    exact beq_iff_eq.2 (Option.some.inj heq).symm

theorem Kept.uncached (hs : s.Kept) (hfree : s.Free) : s.cache.process = none := by
  cases hcached : s.cache.process with
  | none => rfl
  | some process =>
    obtain ⟨pid, hpid⟩ := hs.readable process hcached
    obtain ⟨message, hmessage⟩ := hfree process hcached
    cases hpid.symm.trans hmessage

theorem Kept.answered (hs : s.Kept) (answer : Answer) : (s.answer answer).Kept :=
  { hs with leftBehind := hs.leftBehind.trans (List.sublist_cons_self ..).countP_le }

theorem Kept.launchedWith (hs : s.Kept) (hfree : s.Free) (handler : H) (commands : List String)
    (pid : Nat) : (s.launchedWith handler (s.nextProcess commands (.inl pid))).Kept where
  readable process h := by
    obtain rfl := Option.some.inj h
    exact ⟨pid, rfl⟩
  numbered process h := by
    rcases List.mem_cons.1 h with rfl | hold
    · exact Nat.lt_succ_self _
    · exact Nat.lt_succ_of_lt (hs.numbered process hold)
  nodup := by
    refine List.nodup_cons.2 ⟨fun h => ?_, hs.nodup⟩
    exact (hs.numbered _ h).false
  leftBehind := by
    have hall : s.leftBehind = s.running.length := by
      simp [Obfuscator.leftBehind, hs.uncached hfree]
    have hold := hs.leftBehind
    rw [hall] at hold
    refine le_trans ?_ hold
    simp only [Obfuscator.leftBehind, Obfuscator.launchedWith]
    rw [List.countP_cons_of_neg (by simp)]
    exact List.countP_le_length

theorem Kept.unlaunched (hs : s.Kept) (hfree : s.Free) (handler : H) :
    Kept { s.prepared handler with cache := .clear } where
  readable _ h := by cases h
  numbered := hs.numbered
  nodup := hs.nodup
  leftBehind := by
    have hsame := hs.leftBehind
    rwa [Obfuscator.leftBehind, hs.uncached hfree] at hsame

theorem Kept.killed (hs : s.Kept) {process : Process} {pid : Nat}
    (hcached : s.cache.process = some process) (hpid : process.pidField = .inl pid) :
    (s.newCall.killed pid).Kept where
  readable _ h := by cases h
  numbered process h := hs.numbered process (List.mem_of_mem_filter h)
  nodup := hs.nodup.filter _
  leftBehind := by
    refine le_trans ?_ hs.leftBehind
    simp only [Obfuscator.leftBehind, Obfuscator.killed, newCall, List.countP_filter]
    refine List.countP_mono_left fun other _ h => ?_
    simp only [Bool.and_eq_true, decide_eq_true_eq] at h ⊢
    intro hother
    obtain rfl := Option.some.inj (hcached.symm.trans hother)
    exact h.2 hpid

theorem Kept.timedOut (hs : s.Kept) (start : Waiting) : (s.timeOut start).Kept where
  readable _ h := by cases h
  numbered := hs.numbered
  nodup := hs.nodup
  leftBehind := by
    have hanswers : (s.timeOut start).answers.countP Obfuscator.timedOut =
        s.answers.countP Obfuscator.timedOut + 1 := List.countP_cons_of_pos rfl
    rw [hanswers]
    calc
      (s.timeOut start).leftBehind ≤ s.running.length := List.countP_le_length
      _ ≤ s.leftBehind + 1 := hs.running_length
      _ ≤ s.answers.countP Obfuscator.timedOut + 1 := Nat.add_le_add_right hs.leftBehind 1

theorem Steps.kept {e : Event H} (h : Steps s e t) (hreadable : s.pidsReadable e) (hs : s.Kept) :
    t.Kept := by
  cases h with
  | refused | unstopped =>
    have hcall : s.newCall.Kept := { hs with }
    exact hcall.answered _
  | @unlaunched _ handler _ _ hfree =>
    exact (hs.unlaunched hfree handler).answered _
  | @launched _ _ _ pidField hfree =>
    cases pidField with
    | inl pid => exact hs.launchedWith hfree _ _ pid
    | inr message => exact hreadable.elim
  | stopped hcached hpid => exact (hs.killed hcached hpid).answered _
  | @resumed start =>
    have hwoken : (s.wake start).Kept := { hs with }
    exact hwoken.answered _
  | timedOut => exact hs.timedOut _
  | reads | listens | notifies => exact { hs with }
  | exited =>
    exact
      { hs with
        numbered := fun process h => hs.numbered process (List.mem_of_mem_erase h)
        nodup := hs.nodup.erase _
        leftBehind := (List.erase_sublist.countP_le ..).trans hs.leftBehind }

/-- In a run whose processes have identifiers that can be read, as many processes run outside the
    cache as starts timed out, at most: a process is left behind by a time-out only, and at most
    one process runs in a run without time-outs. -/
theorem left_behind_by_time_outs (h : Reachable step pidsReadable build s) :
    s.leftBehind ≤ s.answers.countP timedOut ∧
      s.running.length ≤ s.answers.countP timedOut + 1 := by
  have hs : s.Kept := by
    refine h.invariant Kept .build ?_
    intro s t e hs hreadable hstep
    exact (steps_of_step hstep).kept hreadable hs
  exact ⟨hs.leftBehind, hs.running_length.trans (Nat.add_le_add_right hs.leftBehind 1)⟩

theorem left_behind_by_time_outs_of_one : ∃ s : Obfuscator Nat,
    s.leftBehind = 1 ∧ s.answers.countP timedOut = 1 ∧
      s.running.length ≤ s.answers.countP timedOut + 1 := by
  have hlaunched : Reachable step pidsReadable (build : Obfuscator Nat) _ :=
    .step .refl (show pidsReadable _ (launch 7) from trivial) rfl
  have htimedOut := hlaunched.step (show pidsReadable _ (.timeOut firstStart) from trivial) rfl
  exact ⟨_, rfl, rfl, (left_behind_by_time_outs htimedOut).2⟩

/-! ## A process in the cache -/

/-- Neither a stop that kills nor a time-out. -/
def keepsCache (_ : Obfuscator H) : Event H → Prop
  | .stop (.ok ()) | .timeOut _ => False
  | _ => True

theorem Steps.keeps {e : Event H} (h : Steps s e t) (hkeeps : s.keepsCache e) {process : Process}
    {pid : Nat} (hcached : s.cache.process = some process) (hpid : process.pidField = .inl pid) :
    t.cache = s.cache ∧ t.launched = s.launched := by
  have hcontra : ¬ s.Free := fun hfree => by
    obtain ⟨message, hmessage⟩ := hfree process hcached
    cases hpid.symm.trans hmessage
  cases h with
  | unlaunched hfree => exact absurd hfree hcontra
  | launched hfree => exact absurd hfree hcontra
  | stopped => exact hkeeps.elim
  | timedOut => exact hkeeps.elim
  | refused | unstopped | resumed | reads | listens | notifies | exited => exact ⟨rfl, rfl⟩

/-- A process in the cache stays there, also when it has exited, until a stop kills it or a start
    times out; all that time no start launches a process, and each is told that one runs
    already. -/
theorem starts_refused_while_cached {process : Process} {pid : Nat}
    (hcached : s.cache.process = some process) (hpid : process.pidField = .inl pid)
    (h : Reachable step keepsCache s t) :
    t.cache = s.cache ∧ t.launched = s.launched ∧
      ∀ commandLineParams handler launch, t.step (.start commandLineParams handler launch) =
        some (t.newCall.answer
          (.failed t.calls { code := .processRunningAlready, error := none })) := by
  have hkept : t.cache = s.cache ∧ t.launched = s.launched := by
    refine h.invariant (fun t => t.cache = s.cache ∧ t.launched = s.launched) ⟨rfl, rfl⟩ ?_
    rintro u v e ⟨hcache, hlaunched⟩ hkeeps hstep
    obtain ⟨hcache', hlaunched'⟩ :=
      (steps_of_step hstep).keeps hkeeps ((congrArg Cache.process hcache).trans hcached) hpid
    exact ⟨hcache'.trans hcache, hlaunched'.trans hlaunched⟩
  refine ⟨hkept.1, hkept.2, fun commandLineParams handler launch => ?_⟩
  exact congrArg some
    (start_cached ((congrArg Cache.process hkept.1).trans hcached) hpid commandLineParams handler
      launch)

theorem starts_refused_while_cached_of_exit : ∃ s : Obfuscator Nat,
    s.running = [] ∧ s.launched.length = 1 ∧ s.step (.start [] 8 .executablePathMissing) =
      some (s.newCall.answer
        (.failed s.calls { code := .processRunningAlready, error := none })) := by
  have hexited : Reachable step keepsCache
      ((build : Obfuscator Nat).start ["-c", "config"] 7 (.started "sslocal" (.inl 100))) _ :=
    .step .refl (show keepsCache _ (.exits firstStart.process) from trivial) rfl
  obtain ⟨-, hone, hrefused⟩ := starts_refused_while_cached rfl rfl hexited
  exact ⟨_, rfl, congrArg List.length hone, hrefused [] 8 .executablePathMissing⟩

end Obfuscator

end Shadowsocks.Android
