import ServiceDirectory.Rehearsal.Perform

/-!
# The stand-ins

A stand-in that is called records the call, takes the steps of its script while it has
calls left, and panics at the end if its script says so, or earlier if a step panics.
Since a step may call the same stand-in again, hosts are built in layers: the steps of a
script are performed with the host of the layer below, and the lowest layer does nothing
but note that it was reached.
-/

namespace ServiceDirectory.Rehearsal

/-- Takes the steps of a script one by one and records what they come to, up to the first
that panics. -/
def takeSteps (inner : Host Stage) (recorded : Answer → Record) :
    List Step → Play (Option Payload)
  | [] => return none
  | step :: rest => do
    match ← perform inner step with
    | .panicked payload => return some payload
    | answer =>
      record (recorded answer)
      takeSteps inner recorded rest

/-- Plays a script that has `remaining` calls left. -/
def Script.play (inner : Host Stage) (script : Script) : Play (Option Payload) := do
  let steps := if 0 < script.times then script.actions else []
  match ← takeSteps inner (.acted script.name) steps with
  | some payload => return some payload
  | none => return script.panic

/-- The script with one call less to go. -/
def Script.used (script : Script) : Script := { script with times := script.times - 1 }

def hearEvent (inner : Host Stage) (id : Ref .listener) (event : Event) :
    Play (Option Payload) := do
  let double := (← get).client.listeners.getD id default
  record (.heard double.script.name event)
  onStage fun s =>
    { s with listeners := s.listeners.insert id { double with script := double.script.used } }
  double.script.play inner

def receiveUrls (inner : Host Stage) (delivery : Delivery) : Play (Option Payload) := do
  let script := (← get).client.sinks.getD delivery.sink default
  record (.received script.name delivery.urls)
  onStage fun s => { s with sinks := s.sinks.insert delivery.sink script.used }
  script.play inner

def backendDouble (id : Ref .backend) : Play BackendDouble := do
  return (← get).client.backends.getD id default

def setBackend (id : Ref .backend) (change : BackendDouble → BackendDouble) : Play Unit :=
  onStage fun s =>
    { s with backends := s.backends.insert id (change (s.backends.getD id default)) }

/-- The failure of a call of a backend, if it is to fail; `service` is empty where the call
concerns none. -/
def BackendDouble.failure (b : BackendDouble) (call service : String) : Option Failure :=
  if b.fail.contains call || b.fail.contains (call ++ ":" ++ service) then
    some (.collaborator (call ++ " failed"))
  else none

def BackendDouble.get (b : BackendDouble) (service : String) : List Instance :=
  b.instances.getD service []

/-- Goes on unless the call of a backend is to fail. -/
def unlessFailing {α : Type} (id : Ref .backend) (call service : String) (play : Play α) :
    Play (Except Failure α) := do
  match (← backendDouble id).failure call service with
  | some cause => return .error cause
  | none => return .ok (← play)

/-- Changes the instances of a service and reports that to its watches, in the order in
which they were accepted. -/
def changeInstances (inner : Host Stage) (id : Ref .backend) (service : String)
    (change : BackendDouble → BackendDouble) : Play Unit := do
  setBackend id change
  let hooks := (← backendDouble id).hooks.getD service []
  hooks.forM fun hook => hook.fire inner service

def obeyCommand (inner : Host Stage) (id : Ref .backend) :
    BackendCommand → Play (Except Failure Unit)
  | .register x => unlessFailing id "register" x.service <|
      changeInstances inner id x.service fun b => { b with
        instances := b.instances.insert x.service (b.get x.service ++ [x])
        known := insertName b.known x.service }
  | .update x => unlessFailing id "update" x.service <|
      changeInstances inner id x.service fun b =>
        match replaceFirst (b.get x.service) x with
        | none => b
        | some replaced => { b with instances := b.instances.insert x.service replaced }
  | .unregister x => unlessFailing id "unregister" x.service <|
      changeInstances inner id x.service fun b => { b with
        instances :=
          b.instances.insert x.service ((b.get x.service).filter fun y => !y.same x) }
  | .start => startOrStop "start"
  | .stop => startOrStop "stop"
where
  startOrStop (call : String) : Play (Except Failure Unit) := do
    if (← backendDouble id).plain then return .ok () else unlessFailing id call "" (return)

/-- A request for a watch: the steps for it come first, then the failure, if any. -/
def acceptWatch (inner : Host Stage) (id : Ref .backend) (service : String)
    (hook : WatchHook) : Play (Except Stop Unit) := do
  match ← takeSteps inner (.watching service) (← backendDouble id).onWatch with
  | some payload => return .error (.panicked payload)
  | none =>
    let accepted ← unlessFailing id "watch" service <|
      setBackend id fun b =>
        { b with hooks := b.hooks.insert service (b.hooks.getD service [] ++ [hook]) }
    return accepted.mapError Stop.failed

def lookUpValue (id : Ref .configuration) (key group : String) :
    Play (Except Failure (Option String)) := do
  let double := (← get).client.configurations.getD id default
  if double.fail.contains key then return .error (.collaborator "config center unreachable")
  else return .ok (double.contents.get key group)

/-- Holds what a lease names, if it is still in use. -/
def enterLease (lease : Lease) : Play Bool := do
  let w ← get
  let used := isInUse w lease
  if used then onStage fun s => { s with held := leasedObject lease :: s.held }
  return used

/-- Holds what was entered last no longer. -/
def leaveLease : Play Unit := onStage fun s => { s with held := s.held.tail }

/-- Notes that a bound was too small, which no rehearsal is meant to see. -/
def noteOverrun : Play Unit := onStage fun s => { s with overrun := true }

/-- The lowest layer, which is not meant to be reached. -/
def silent : Host Stage where
  onEvent _ _ := do
    noteOverrun
    return none
  deliver _ := do
    noteOverrun
    return none
  handOff _ _ := noteOverrun
  command _ _ := do
    noteOverrun
    return .ok ()
  services _ := do
    noteOverrun
    return .ok []
  instances _ _ := do
    noteOverrun
    return .ok []
  watch _ _ _ := do
    noteOverrun
    return .ok ()
  lookup _ _ _ := do
    noteOverrun
    return .ok none
  enter _ := do
    noteOverrun
    return false
  leave _ := noteOverrun

/-- One more layer above `inner`, which is not built before it is needed. -/
def scripted (inner : Unit → Host Stage) : Host Stage where
  onEvent id event := do hearEvent (inner ()) id event
  deliver delivery := do receiveUrls (inner ()) delivery
  handOff executor task := submit executor (.task task)
  command id c := do obeyCommand (inner ()) id c
  services id := do
    unlessFailing id "names" "" do return (← backendDouble id).known
  instances id service := do
    unlessFailing id "query" service do return (← backendDouble id).get service
  watch id service hook := do acceptWatch (inner ()) id service hook
  lookup := lookUpValue
  enter := enterLease
  leave _ := leaveLease

/-- The host that allows calls to be nested to a depth. -/
def layered : Nat → Host Stage
  | 0 => silent
  | depth + 1 => scripted fun _ => layered depth

end ServiceDirectory.Rehearsal
