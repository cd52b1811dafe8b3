import Mathlib.Data.List.Infix
import Shadowsocks.Lib.Reachable

/-! # The module that runs the client on Android

`com.kape.obfuscator`: a start launches the client as a process, reads what it prints and waits
until it listens; a stop kills it.  All coroutines of the module run on one thread, so what one of
them does between two suspension points is a step of its own.  A start suspends where it waits, and
the reader of a process's output before every line and on the way to the module's thread.

The exceptions that clients throw and the logging are left out.
-/

namespace Shadowsocks.Android

open Shadowsocks.Lib

inductive ObfuscatorErrorCode where
  | invalidPid
  | processUnknown
  | processNotRunning
  | processDeferrableNotReady
  | processDeferrableTimedOut
  | processCouldNotStart
  | processCouldNotStop
  | processRunningAlready
deriving DecidableEq, Repr

structure ObfuscatorError where
  code : ObfuscatorErrorCode
  error : Option String
deriving DecidableEq, Repr

/-! ## Processes -/

/-- A process, with the number of its launch. Its identifier is a private field that reflection
    reads, or does not, with a message. -/
structure Process where
  number : Nat
  commands : List String
  pidField : Nat ⊕ String
deriving DecidableEq, Repr

/-- `Process.pid`. -/
def Process.pid (process : Process) : Except ObfuscatorError Nat :=
  match process.pidField with
  | .inl pid => .ok pid
  | .inr message => .error { code := .invalidPid, error := some message }

/-- `Process.isRunning`. What it finds below `/proc` is the value of a lambda of type `Unit`, and
    is dropped. -/
def Process.isRunning (fileExists : Nat → Bool) (process : Process) :
    Except ObfuscatorError Unit :=
  process.pid.map fun pid =>
    let _ : Except ObfuscatorError Unit :=
      if fileExists pid then .ok () else .error { code := .processNotRunning, error := none }
    ()

/-- What comes of `ShadowsocksProcess.start` on the system. -/
inductive Launch where
  | executablePathMissing
  | threw (message : Option String)
  | started (executablePath : String) (pidField : Nat ⊕ String)
deriving DecidableEq, Repr

/-! ## State -/

/-- `CacheImpl`; a deferred is known by its number. -/
structure Cache where
  process : Option Process
  processListeningOnCompletableDeferred : Option Nat
deriving DecidableEq, Repr

def Cache.clear : Cache :=
  { process := none, processListeningOnCompletableDeferred := none }

/-- `StartProcessOutputHandlerImpl`, with its late-initialised property. -/
structure StartProcessOutputHandlerImpl (H : Type) where
  obfuscatorProcessEventHandler : Option H
deriving DecidableEq, Repr

/-- Where the loop of `readLines` stands; a line is missing at the end of the output. -/
inductive ReaderState where
  | reading (lastKnownLine : Option String)
  | reporting (line : Option String)
  | checking (line : Option String)
  | ended
deriving DecidableEq, Repr

structure Reader where
  process : Process
  state : ReaderState
deriving DecidableEq, Repr

/-- A start that waits for its process to listen. -/
structure Waiting where
  call : Nat
  deferred : Nat
  process : Process
deriving DecidableEq, Repr

/-- What a callback is given. -/
inductive Answer where
  | started (start : Waiting)
  | stopped (call : Nat)
  | failed (call : Nat) (error : ObfuscatorError)
deriving DecidableEq, Repr

/-- The call that is answered. -/
def Answer.call : Answer → Nat
  | .started start => start.call
  | .stopped call => call
  | .failed call _ => call

/-- The module with what surrounds it: the processes that run, what was launched, which lines
    completed which deferred, and what clients were told. -/
structure Obfuscator (H : Type) where
  cache : Cache
  startProcessOutputHandler : StartProcessOutputHandlerImpl H
  processOutputHandler : StartProcessOutputHandlerImpl H
  deferreds : Nat
  completed : List (Nat × Process)
  readers : List Reader
  waiting : List Waiting
  launched : List Process
  running : List Process
  calls : Nat
  answers : List Answer
  notified : List H

variable {H : Type}

/-- `ObfuscatorBuilder.build`. The two roles of `StartProcessOutputHandlerImpl` get an object
    each. -/
def Obfuscator.build : Obfuscator H where
  cache := .clear
  startProcessOutputHandler := { obfuscatorProcessEventHandler := none }
  processOutputHandler := { obfuscatorProcessEventHandler := none }
  deferreds := 0
  completed := []
  readers := []
  waiting := []
  launched := []
  running := []
  calls := 0
  answers := []
  notified := []

namespace Obfuscator

/-- What runs on the module's thread. -/
abbrev ModuleM (H α : Type) := ExceptT ObfuscatorError (StateM (Obfuscator H)) α

/-- Whether there is a directory for the identifier below `/proc`. -/
def fileExists (s : Obfuscator H) (pid : Nat) : Bool :=
  s.running.any fun process => process.pidField = .inl pid

/-- `ClearCacheImpl`. -/
def clearCache : ModuleM H Unit := modify fun s => { s with cache := .clear }

/-- `getOrFail`, with the failure action of `StartProcessControllerImpl`. -/
def getOrFail {α : Type} (x : ModuleM H α) : ModuleM H α :=
  tryCatch x fun error => do
    clearCache
    throw error

/-! ## Use cases -/

/-- `CacheImpl.getProcess`. -/
def getProcess : ModuleM H Process := do
  match (← get).cache.process with
  | some process => pure process
  | none => throw { code := .processUnknown, error := none }

/-- `CacheImpl.getProcessListeningOnDeferrable`. -/
def getProcessListeningOnDeferrable : ModuleM H Nat := do
  match (← get).cache.processListeningOnCompletableDeferred with
  | some deferred => pure deferred
  | none => throw { code := .processDeferrableNotReady, error := none }

/-- `IsProcessStoppedImpl`. -/
def isProcessStopped : ModuleM H Unit := do
  let s ← get
  match s.cache.process with
  | some process =>
    match process.isRunning s.fileExists with
    | .ok () => throw { code := .processRunningAlready, error := none }
    | .error _ => pure ()
  | none => pure ()

/-- `IsProcessRunningImpl`. The result inside is dropped once more. -/
def isProcessRunning : ModuleM H Unit := do
  let process ← getProcess
  let s ← get
  let _ : Except ObfuscatorError Unit := process.isRunning s.fileExists
  pure ()

/-- `CreateProcessListeningOnDeferrableImpl`. -/
def createProcessListeningOnDeferrable : ModuleM H Unit := modify fun s =>
  { s with
    cache := { s.cache with processListeningOnCompletableDeferred := some s.deferreds }
    deferreds := s.deferreds + 1 }

/-- `StartProcessOutputHandlerImpl.invoke`, of the object that has this role. -/
def setEventHandler (handler : H) : ModuleM H Unit := modify fun s =>
  { s with startProcessOutputHandler := { obfuscatorProcessEventHandler := some handler } }

/-- `ShadowsocksProcessImpl.start`. -/
def launchProcess (commandLineParams : List String) : Launch → ModuleM H Process
  | .executablePathMissing =>
    throw { code := .processCouldNotStart, error := some "Executable path missing." }
  | .threw message => throw { code := .processCouldNotStart, error := message }
  | .started executablePath pidField => do
    let s ← get
    let process : Process :=
      { number := s.launched.length
        commands := executablePath :: commandLineParams
        pidField := pidField }
    set { s with launched := process :: s.launched, running := process :: s.running }
    pure process

/-- `StartProcessImpl`. -/
def startProcess (commandLineParams : List String) (launch : Launch) : ModuleM H Unit := do
  let process ← launchProcess commandLineParams launch
  modify fun s => { s with cache := { s.cache with process := some process } }

/-- `StartProcessOutputReaderImpl`. -/
def startProcessOutputReader : ModuleM H Process := do
  let process ← getProcess
  modify fun s =>
    { s with readers := s.readers ++ [{ process := process, state := .reading none }] }
  pure process

/-- `ShadowsocksProcessImpl.stop`; what `killProcess` throws is a message. -/
def killProcess (kill : Except (Option String) Unit) (pid : Nat) : ModuleM H Unit :=
  match kill with
  | .ok () => modify fun s =>
    { s with running := s.running.filter fun process => process.pidField ≠ .inl pid }
  | .error message => throw { code := .processCouldNotStop, error := message }

/-- `StopProcessImpl`. -/
def stopProcess (kill : Except (Option String) Unit) : ModuleM H Unit := do
  let process ← getProcess
  match process.pid with
  | .ok pid => killProcess kill pid
  | .error error => throw error

/-! ## Controllers -/

/-- `StartProcessControllerImpl`, up to where it waits for the deferred. -/
def startProcessController (commandLineParams : List String) (handler : H) (launch : Launch) :
    ModuleM H (Nat × Process) := do
  isProcessStopped
  getOrFail createProcessListeningOnDeferrable
  getOrFail (setEventHandler handler)
  getOrFail (startProcess commandLineParams launch)
  let process ← getOrFail startProcessOutputReader
  let deferred ← getOrFail getProcessListeningOnDeferrable
  pure (deferred, process)

/-- `StopProcessControllerImpl`. -/
def stopProcessController (kill : Except (Option String) Unit) : ModuleM H Unit := do
  isProcessRunning
  stopProcess kill
  clearCache

/-! ## The output of a process -/

/-- The line contains a text, upper and lower case being the same. -/
def contains (line text : String) : Prop := text.toList <:+: line.toLower.toList

instance (line text : String) : Decidable (contains line text) :=
  inferInstanceAs (Decidable (_ <:+: _))

/-- `HandleProcessSuccessOutputImpl`, of a line that the process printed. -/
def handleProcessSuccessOutput (process : Process) (s : Obfuscator H) : Obfuscator H :=
  match s.cache.processListeningOnCompletableDeferred with
  | some deferred => { s with completed := (deferred, process) :: s.completed }
  | none => s

/-- `HandleProcessErrorOutputImpl`. -/
def handleProcessErrorOutput (handler : H) (s : Obfuscator H) : Obfuscator H :=
  { s with notified := handler :: s.notified }

/-- `ProcessOutputHandler.output`; nothing, where it throws: for a line that is missing, and for a
    handler that was not initialised. -/
def output (process : Process) (line : Option String) (s : Obfuscator H) :
    Option (Obfuscator H) :=
  line.bind fun line =>
    if contains line "error" then
      s.processOutputHandler.obfuscatorProcessEventHandler.map (handleProcessErrorOutput · s)
    else if contains line "listening on" then some (handleProcessSuccessOutput process s)
    else some s

/-! ## Steps -/

/-- What happens next. A call comes with what the system makes of it; readers are known by their
    places. -/
inductive Event (H : Type) where
  | start (commandLineParams : List String) (handler : H) (launch : Launch)
  | stop (kill : Except (Option String) Unit)
  | resume (start : Waiting)
  | timeOut (start : Waiting)
  | readLine (reader : Nat) (line : Option String)
  | readFails (reader : Nat)
  | report (reader : Nat)
  | check (reader : Nat)
  | exits (process : Process)

/-- A call is answered. -/
def answer (answer : Answer) (s : Obfuscator H) : Obfuscator H :=
  { s with answers := answer :: s.answers }

/-- A call is taken on. -/
def newCall (s : Obfuscator H) : Obfuscator H := { s with calls := s.calls + 1 }

def await (start : Waiting) (s : Obfuscator H) : Obfuscator H :=
  { s with waiting := start :: s.waiting }

/-- A start goes on. -/
def wake (start : Waiting) (s : Obfuscator H) : Obfuscator H :=
  { s with waiting := s.waiting.erase start }

def setReader (i : Nat) (reader : Reader) (state : ReaderState) (s : Obfuscator H) :
    Obfuscator H :=
  { s with readers := s.readers.set i { reader with state := state } }

/-- `Obfuscator.start`, up to the suspension of its coroutine. -/
def start (commandLineParams : List String) (handler : H) (launch : Launch) (s : Obfuscator H) :
    Obfuscator H :=
  match startProcessController commandLineParams handler launch s.newCall with
  | (.ok (deferred, process), t) =>
    t.await { call := s.calls, deferred := deferred, process := process }
  | (.error error, t) => t.answer (.failed s.calls error)

/-- `Obfuscator.stop`. -/
def stop (kill : Except (Option String) Unit) (s : Obfuscator H) : Obfuscator H :=
  match stopProcessController kill s.newCall with
  | (.ok (), t) => t.answer (.stopped s.calls)
  | (.error error, t) => t.answer (.failed s.calls error)

/-- The deferred has been completed. -/
def isCompleted (s : Obfuscator H) (deferred : Nat) : Bool :=
  s.completed.any (·.1 = deferred)

/-- The wait of a start, and `getOrFail` around it, when the time is over. -/
def timeOut (start : Waiting) (s : Obfuscator H) : Obfuscator H :=
  { s.wake start with cache := .clear }.answer
    (.failed start.call { code := .processDeferrableTimedOut, error := none })

/-- The loop of `readLines` reports a line unless it is the last known one. -/
def afterLine (lastKnownLine line : Option String) : ReaderState :=
  if line ≠ lastKnownLine then .reporting line else .checking line

/-- A reader's time on the module's thread. What `output` throws ends the reader. -/
def reportLine (i : Nat) (reader : Reader) (line : Option String) (s : Obfuscator H) :
    Obfuscator H :=
  match output reader.process line s with
  | some t => t.setReader i reader (.checking line)
  | none => s.setReader i reader .ended

/-- The loop goes on as long as the cache holds a process, whichever it is. -/
def checkProcess (i : Nat) (reader : Reader) (line : Option String) (s : Obfuscator H) :
    Obfuscator H :=
  s.setReader i reader (if s.cache.process.isSome then .reading line else .ended)

def step (s : Obfuscator H) : Event H → Option (Obfuscator H)
  | .start commandLineParams handler launch => some (s.start commandLineParams handler launch)
  | .stop kill => some (s.stop kill)
  | .resume start =>
    if start ∈ s.waiting ∧ s.isCompleted start.deferred then
      some ((s.wake start).answer (.started start))
    else none
  | .timeOut start => if start ∈ s.waiting then some (s.timeOut start) else none
  | .readLine i line =>
    match s.readers[i]? with
    | some reader =>
      match reader.state with
      | .reading lastKnownLine => some (s.setReader i reader (afterLine lastKnownLine line))
      | .reporting _ | .checking _ | .ended => none
    | none => none
  | .readFails i =>
    match s.readers[i]? with
    | some reader =>
      match reader.state with
      | .reading _ => some (s.setReader i reader .ended)
      | .reporting _ | .checking _ | .ended => none
    | none => none
  | .report i =>
    match s.readers[i]? with
    | some reader =>
      match reader.state with
      | .reporting line => some (s.reportLine i reader line)
      | .reading _ | .checking _ | .ended => none
    | none => none
  | .check i =>
    match s.readers[i]? with
    | some reader =>
      match reader.state with
      | .checking line => some (s.checkProcess i reader line)
      | .reading _ | .reporting _ | .ended => none
    | none => none
  | .exits process =>
    if process ∈ s.running then some { s with running := s.running.erase process } else none

end Obfuscator

end Shadowsocks.Android
