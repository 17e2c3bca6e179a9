import VibeShield.Api.Commands
import VibeShield.Lib.Machine
import VibeShield.Lib.PyDict
import VibeShield.Lib.Trace

/-!
# Routing commands

The router keeps a log of all commands, and passes each on to the handler that is registered
for its type (`CommandRouter.route`). A handler returns a value or raises an exception; what it
works on is a state of its own, the world `σ`. The router as a whole is a machine
(`CommandRouter.router`), whose inputs are registrations and commands.

`router_confines` says that the exceptions of handlers end at the router: none is propagated,
and of an exception only its class can be told from the responses. The log has all commands in
their order, each from before its handler is called.
-/

namespace VibeShield

/-- The status of a response. -/
inductive CommandStatus
  | ok
  | denied
  | timeout
  | unknown
deriving DecidableEq, Repr

/-- The response to a command. -/
structure CommandResponse where
  status : CommandStatus
  commandType : CommandType
  agentId : String
  data : PyVal := .dict []
  message : String := ""
  timestamp : PyFloat

/-- A handler: a function of the command and the world it finds, to which it may do anything. -/
structure Handler (σ : Type) where
  /-- `bool(handler)`. -/
  truthy : Bool := true
  call : AgentCommand → σ → Except PyErr PyVal × σ

/-- The handler raises nothing but `Exception`s. -/
def Handler.Tame {σ : Type} (handler : Handler σ) : Prop :=
  ∀ command world err, (handler.call command world).1 = .error err → err.isException = true

/-- What the classes of exceptions inherit from. -/
structure RouterLib where
  /-- `issubclass(cls, PermissionError)`. -/
  isPermissionError : ExcClass → Bool
  /-- `issubclass(cls, TimeoutError)`. -/
  isTimeoutError : ExcClass → Bool

namespace CommandRouter

/-- An entry of the log. -/
structure LogEntry where
  command : String
  agentId : String
  taskId : PyVal
  timestamp : PyFloat

/-- The entry for a command. -/
def entryOf (command : AgentCommand) : LogEntry where
  command := command.commandType.value
  agentId := command.agentId
  taskId := command.taskId
  timestamp := command.timestamp

/-- What routing does, for the order in which it is done. -/
inductive Effect
  | logged (entry : LogEntry)
  | called (command : AgentCommand)

/-- A router and the world of its handlers. -/
structure RouterState (σ : Type) where
  handlers : PyDict CommandType (Handler σ)
  commandLog : List LogEntry
  world : σ
  /-- What has been done so far; the program does not keep it. -/
  effects : List Effect

variable {σ : Type}

/-- The router after its construction. -/
def newRouter (world : σ) : RouterState σ := ⟨PyDict.empty, [], world, []⟩

/-- Registering a handler for a command type. -/
def registerHandler (s : RouterState σ) (commandType : CommandType) (handler : Handler σ) :
    RouterState σ :=
  { s with handlers := s.handlers.set commandType handler }

/-- Logging a command. -/
def logCommand (command : AgentCommand) : EStateM PyErr (RouterState σ) Unit :=
  modify fun s => { s with
    commandLog := s.commandLog ++ [entryOf command]
    effects := s.effects ++ [.logged (entryOf command)] }

/-- The call `handler(command)`. -/
def callHandler (handler : Handler σ) (command : AgentCommand) :
    EStateM PyErr (RouterState σ) PyVal := fun s =>
  let s' := { s with
    world := (handler.call command s.world).2
    effects := s.effects ++ [.called command] }
  match (handler.call command s.world).1 with
  | .ok value => .ok value s'
  | .error err => .error err s'

variable (lib : RouterLib) (now : PyFloat) (command : AgentCommand)

/-- A response to the command. -/
def respond (status : CommandStatus) (message : String) (data : PyVal := .dict []) :
    CommandResponse where
  status := status
  commandType := command.commandType
  agentId := command.agentId
  data := data
  message := message
  timestamp := now

/-- The `except` clauses, in their order. -/
def onException (err : PyErr) : Except PyErr CommandResponse :=
  if lib.isPermissionError err.cls then return respond now command .denied "Permission denied"
  else if lib.isTimeoutError err.cls then return respond now command .timeout "Operation timed out"
  else if err.isException then return respond now command .denied "Internal error"
  else throw err

/-- The response to what a handler has returned. -/
def executed (result : PyVal) : CommandResponse :=
  respond now command .ok "Command executed successfully" result

/-- Executing a handler. -/
def execute (handler : Handler σ) : EStateM PyErr (RouterState σ) CommandResponse :=
  tryCatch (do
    let result ← callHandler handler command
    return executed now command result) (fun err => ofExcept (onException lib now command err))

/-- The response if there is no handler. -/
def unknown : CommandResponse :=
  respond now command .unknown s!"Unknown command: {command.commandType.value}"

/-- `route`; `now` is the time at its end. -/
def route : EStateM PyErr (RouterState σ) CommandResponse := do
  logCommand command
  match ((← get).handlers.get? command.commandType).filter Handler.truthy with
  | some handler => execute lib now command handler
  | none => return unknown now command

/-- What is asked of a router. -/
inductive RouterOp (σ : Type)
  | register (commandType : CommandType) (handler : Handler σ)
  | route (command : AgentCommand) (now : PyFloat)

/-- The router when a command has been routed, and the response or the exception. -/
def ending : EStateM.Result PyErr (RouterState σ) CommandResponse →
    RouterState σ × Option (Except PyErr CommandResponse)
  | .ok response s => (s, some (.ok response))
  | .error err s => (s, some (.error err))

/-- The router as a machine; commands are answered, registrations are not. -/
def router : Machine (RouterState σ) (RouterOp σ) (Option (Except PyErr CommandResponse)) where
  step s
    | .register commandType handler => (registerHandler s commandType handler, none)
    | .route command now => ending (route lib now command s)

/-! ## Routing a command -/

/-- The response is to the command. -/
def RespondsTo (command : AgentCommand) (r : CommandResponse) : Prop :=
  r.commandType = command.commandType ∧ r.agentId = command.agentId

variable {lib now command}

/-- A router that has logged the command. -/
def RouterState.logging (s : RouterState σ) (command : AgentCommand) : RouterState σ :=
  { s with
    commandLog := s.commandLog ++ [entryOf command]
    effects := s.effects ++ [.logged (entryOf command)] }

/-- A router that has called the handler. -/
def RouterState.calling (s : RouterState σ) (handler : Handler σ) (command : AgentCommand) :
    RouterState σ :=
  { s with
    world := (handler.call command s.world).2
    effects := s.effects ++ [.called command] }

theorem respondsTo_respond (status : CommandStatus) (message : String) (data : PyVal) :
    RespondsTo command (respond now command status message data) :=
  ⟨rfl, rfl⟩

/-- What is answered when a handler has returned a value or raised an exception. -/
def answer (lib : RouterLib) (now : PyFloat) (command : AgentCommand) :
    Except PyErr PyVal → Except PyErr CommandResponse
  | .ok value => .ok (executed now command value)
  | .error err => onException lib now command err

theorem onException_eq_ok (lib : RouterLib) (now : PyFloat) (command : AgentCommand)
    {err : PyErr} (herr : err.isException = true) :
    ∃ r, onException lib now command err = .ok r ∧ RespondsTo command r := by
  rw [onException]
  by_cases hdenied : lib.isPermissionError err.cls = true
  · rw [if_pos hdenied]
    exact ⟨_, rfl, respondsTo_respond _ _ _⟩
  by_cases htimeout : lib.isTimeoutError err.cls = true
  · rw [if_neg hdenied, if_pos htimeout]
    exact ⟨_, rfl, respondsTo_respond _ _ _⟩
  · rw [if_neg hdenied, if_neg htimeout, if_pos herr]
    exact ⟨_, rfl, respondsTo_respond _ _ _⟩

theorem answer_eq_ok (lib : RouterLib) (now : PyFloat) (command : AgentCommand)
    {result : Except PyErr PyVal} (h : ∀ err, result = .error err → err.isException = true) :
    ∃ r, answer lib now command result = .ok r ∧ RespondsTo command r := by
  cases result with
  | ok value => exact ⟨_, rfl, respondsTo_respond _ _ _⟩
  | error err => exact onException_eq_ok lib now command (h err rfl)

/-- Executing a handler calls it, and answers what it returns or raises. -/
theorem ending_execute (handler : Handler σ) (s : RouterState σ) :
    ending (execute lib now command handler s) =
      (s.calling handler command,
        some (answer lib now command (handler.call command s.world).1)) := by
  change ending (EStateM.tryCatch (EStateM.bind (callHandler handler command) _) _ s) = _
  rw [EStateM.tryCatch, EStateM.bind, callHandler]
  cases (handler.call command s.world).1 with
  | ok value => rfl
  | error err =>
    change ending ((ofExcept (onException lib now command err) :
      EStateM PyErr (RouterState σ) CommandResponse) (s.calling handler command)) =
        (_, some (onException lib now command err))
    cases onException lib now command err <;> rfl

theorem route_eq (s : RouterState σ) : route lib now command s =
    match (s.handlers.get? command.commandType).filter Handler.truthy with
    | some handler => execute lib now command handler (s.logging command)
    | none => .ok (unknown now command) (s.logging command) := by
  have hlog : logCommand command s = .ok ⟨⟩ (s.logging command) := rfl
  refine (bind_of_ok hlog).trans ?_
  change (match (s.handlers.get? command.commandType).filter Handler.truthy with
    | some handler => execute lib now command handler
    | none => pure _ : EStateM PyErr (RouterState σ) CommandResponse) (s.logging command) = _
  cases (s.handlers.get? command.commandType).filter Handler.truthy with
  | some handler => rfl
  | none => rfl

/-- A step of the router on a command: it is logged, and its handler is called. -/
theorem step_route_of_some {s : RouterState σ} {command : AgentCommand} {handler : Handler σ}
    (h : (s.handlers.get? command.commandType).filter Handler.truthy = some handler)
    (now : PyFloat) : (router lib).step s (.route command now) =
      ((s.logging command).calling handler command,
        some (answer lib now command (handler.call command s.world).1)) := by
  change ending (route lib now command s) = _
  rw [route_eq, h]
  exact ending_execute handler _

/-- A step on a command for which there is no handler. -/
theorem step_route_of_none {s : RouterState σ} {command : AgentCommand}
    (h : (s.handlers.get? command.commandType).filter Handler.truthy = none) (now : PyFloat) :
    (router lib).step s (.route command now) =
      (s.logging command, some (.ok (unknown now command))) := by
  change ending (route lib now command s) = _
  rw [route_eq, h]
  rfl

/-- What a step on a command does if handlers raise only `Exception`s. -/
theorem step_route_spec (lib : RouterLib) {s : RouterState σ} (command : AgentCommand)
    (now : PyFloat) (htame : ∀ t handler, s.handlers.get? t = some handler → handler.Tame) :
    ∃ r s', (router lib).step s (.route command now) = (s', some (.ok r)) ∧
      RespondsTo command r ∧ s'.handlers = s.handlers ∧
      s'.commandLog = s.commandLog ++ [entryOf command] ∧
      (s'.effects = s.effects ++ [.logged (entryOf command)] ∨
        s'.effects = s.effects ++ [.logged (entryOf command), .called command]) := by
  cases hhandler : (s.handlers.get? command.commandType).filter Handler.truthy with
  | none =>
    exact ⟨_, _, step_route_of_none hhandler now, respondsTo_respond _ _ _, rfl, rfl, .inl rfl⟩
  | some handler =>
    have hexc : ∀ err, (handler.call command s.world).1 = .error err → err.isException = true :=
      htame _ handler (Option.filter_eq_some_iff.1 hhandler).1 command s.world
    obtain ⟨r, hr, hresponds⟩ := answer_eq_ok lib now command hexc
    have hstep : (router lib).step s (.route command now) = _ := step_route_of_some hhandler now
    rw [hr] at hstep
    exact ⟨r, _, hstep, hresponds, rfl, rfl, .inr (List.append_assoc _ _ _)⟩

/-! ## What is logged -/

/-- The commands that are routed. -/
def routed (ops : List (RouterOp σ)) : List AgentCommand :=
  ops.filterMap fun
    | .route command _ => some command
    | .register _ _ => none

/-- What happens when the commands are routed: each is logged, and then its handler is called,
    if it has one. -/
inductive LoggedFirst : List AgentCommand → List Effect → Prop
  | nil : LoggedFirst [] []
  | logged (command : AgentCommand) {commands : List AgentCommand} {effects : List Effect} :
    LoggedFirst commands effects →
      LoggedFirst (commands ++ [command]) (effects ++ [.logged (entryOf command)])
  | called (command : AgentCommand) {commands : List AgentCommand} {effects : List Effect} :
    LoggedFirst commands effects → LoggedFirst (commands ++ [command])
      (effects ++ [.logged (entryOf command), .called command])

/-- Only handlers that raise nothing but `Exception`s are registered. -/
def AllTame (ops : List (RouterOp σ)) : Prop :=
  ∀ t handler, RouterOp.register t handler ∈ ops → handler.Tame

/-- After the commands have been routed, they have been logged. -/
structure HasLogged (commands : List AgentCommand) (s : RouterState σ) : Prop where
  tame : ∀ t handler, s.handlers.get? t = some handler → handler.Tame
  log : s.commandLog = commands.map entryOf
  effects : LoggedFirst commands s.effects

theorem routed_concat_register (ops : List (RouterOp σ)) (t : CommandType) (handler : Handler σ) :
    routed (ops ++ [.register t handler]) = routed ops := by
  rw [routed, List.filterMap_append]
  exact List.append_nil _

theorem routed_concat_route (ops : List (RouterOp σ)) (command : AgentCommand) (now : PyFloat) :
    routed (ops ++ [.route command now]) = routed ops ++ [command] := by
  rw [routed, List.filterMap_append]
  rfl

/-- One step: what is routed is logged, and answered. -/
theorem HasLogged.step {commands : List AgentCommand} {s : RouterState σ}
    (hs : HasLogged commands s) (command : AgentCommand) (now : PyFloat) :
    HasLogged (commands ++ [command]) ((router lib).step s (.route command now)).1 ∧
      ∃ r, ((router lib).step s (.route command now)).2 = some (.ok r) ∧
        RespondsTo command r := by
  obtain ⟨r, s', hstep, hresponds, hhandlers, hlog, heffects⟩ :=
    step_route_spec lib command now hs.tame
  rw [hstep]
  refine ⟨⟨?_, ?_, ?_⟩, r, rfl, hresponds⟩
  · rw [hhandlers]
    exact hs.tame
  · rw [hlog, hs.log, List.map_append]
    rfl
  · rcases heffects with h | h
    · rw [h]
      exact hs.effects.logged command
    · rw [h]
      exact hs.effects.called command

theorem HasLogged.register {commands : List AgentCommand} {s : RouterState σ}
    (hs : HasLogged commands s) (t : CommandType) {handler : Handler σ} (h : handler.Tame) :
    HasLogged commands ((router lib).step s (.register t handler)).1 := by
  refine ⟨fun t' handler' hget => ?_, hs.log, hs.effects⟩
  change (s.handlers.set t handler).get? t' = some handler' at hget
  rw [PyDict.get?_set] at hget
  by_cases ht : t' = t
  · rw [if_pos ht] at hget
    exact Option.some.inj hget ▸ h
  · rw [if_neg ht] at hget
    exact hs.tame t' handler' hget

/-- A run: what is routed has been logged. -/
theorem hasLogged_run (world : σ) {ops : List (RouterOp σ)} (hops : AllTame ops) :
    HasLogged (routed ops) ((router lib).run (newRouter world) ops) := by
  induction ops using List.reverseRecOn with
  | nil => exact ⟨nofun, rfl, .nil⟩
  | append_singleton ops op ih =>
    have hs := ih fun t handler h => hops t handler (List.mem_append_left _ h)
    rw [Machine.run_concat]
    cases op with
    | register t handler =>
      rw [routed_concat_register]
      exact hs.register t (hops t handler (List.mem_append_right ops List.mem_cons_self))
    | route command now =>
      rw [routed_concat_route]
      exact (hs.step command now).1

/-! ## What is told of an exception -/

/-- Two calls return the same value, or raise exceptions of the same class. -/
inductive SameResult : Except PyErr PyVal → Except PyErr PyVal → Prop
  | ok (value : PyVal) : SameResult (.ok value) (.ok value)
  | error {err err' : PyErr} : err.cls = err'.cls → SameResult (.error err) (.error err')

/-- The two handlers differ at most in the texts of the exceptions that they raise. -/
structure SameButTexts (handler handler' : Handler σ) : Prop where
  truthy : handler.truthy = handler'.truthy
  result : ∀ command world,
    SameResult (handler.call command world).1 (handler'.call command world).1
  world : ∀ command world, (handler.call command world).2 = (handler'.call command world).2

/-- The same is asked of two routers, up to the time and such handlers. -/
inductive SameOp : RouterOp σ → RouterOp σ → Prop
  | register (commandType : CommandType) {handler handler' : Handler σ} :
    SameButTexts handler handler' →
      SameOp (.register commandType handler) (.register commandType handler')
  | route (command : AgentCommand) (now now' : PyFloat) :
    SameOp (.route command now) (.route command now')

/-- The responses differ at most in their time. -/
def UpToTimestamp (r r' : CommandResponse) : Prop := r' = { r with timestamp := r'.timestamp }

/-- The same is answered, up to the time, or an exception of the same class is propagated. -/
inductive SameAnswer :
    Option (Except PyErr CommandResponse) → Option (Except PyErr CommandResponse) → Prop
  | registered : SameAnswer none none
  | response {r r' : CommandResponse} : UpToTimestamp r r' →
    SameAnswer (some (.ok r)) (some (.ok r'))
  | propagated {err err' : PyErr} : err.cls = err'.cls →
    SameAnswer (some (.error err)) (some (.error err'))

/-- The routers have such handlers and the same world. -/
structure SameState (s s' : RouterState σ) : Prop where
  handlers : ∀ t, Option.Rel SameButTexts (s.handlers.get? t) (s'.handlers.get? t)
  world : s.world = s'.world

theorem onException_same (lib : RouterLib) (command : AgentCommand) {err err' : PyErr}
    (hcls : err.cls = err'.cls) (now now' : PyFloat) :
    SameAnswer (some (onException lib now command err))
      (some (onException lib now' command err')) := by
  have hexc : err.isException = err'.isException := by
    rw [PyErr.isException, PyErr.isException, hcls]
  rw [onException, onException, hcls, hexc]
  by_cases hdenied : lib.isPermissionError err'.cls = true
  · rw [if_pos hdenied, if_pos hdenied]
    exact .response rfl
  by_cases htimeout : lib.isTimeoutError err'.cls = true
  · rw [if_neg hdenied, if_neg hdenied, if_pos htimeout, if_pos htimeout]
    exact .response rfl
  rw [if_neg hdenied, if_neg hdenied, if_neg htimeout, if_neg htimeout]
  by_cases hexc' : err'.isException = true
  · rw [if_pos hexc', if_pos hexc']
    exact .response rfl
  · rw [if_neg hexc', if_neg hexc']
    exact .propagated hcls

theorem answer_same (lib : RouterLib) (command : AgentCommand)
    {result result' : Except PyErr PyVal} (h : SameResult result result') (now now' : PyFloat) :
    SameAnswer (some (answer lib now command result)) (some (answer lib now' command result')) := by
  cases h with
  | ok value => exact .response rfl
  | error hcls => exact onException_same lib command hcls now now'

theorem rel_filter_truthy {handler handler' : Option (Handler σ)}
    (h : Option.Rel SameButTexts handler handler') :
    Option.Rel SameButTexts (handler.filter Handler.truthy) (handler'.filter Handler.truthy) := by
  cases h with
  | none => exact .none
  | some h =>
    rw [Option.filter_some, Option.filter_some, h.truthy]
    split
    · exact .some h
    · exact .none

/-- One step of the two routers, on a command. -/
theorem SameState.step_route {s s' : RouterState σ} (hs : SameState s s') (command : AgentCommand)
    (now now' : PyFloat) :
    SameAnswer ((router lib).step s (.route command now)).2
        ((router lib).step s' (.route command now')).2 ∧
      SameState ((router lib).step s (.route command now)).1
        ((router lib).step s' (.route command now')).1 := by
  have hhandler := rel_filter_truthy (hs.handlers command.commandType)
  generalize hget : (s.handlers.get? command.commandType).filter Handler.truthy = found at hhandler
  generalize hget' : (s'.handlers.get? command.commandType).filter Handler.truthy = found'
    at hhandler
  cases hhandler with
  | none =>
    rw [step_route_of_none hget, step_route_of_none hget']
    exact ⟨.response rfl, hs.handlers, hs.world⟩
  | @some handler handler' hsame =>
    rw [step_route_of_some hget, step_route_of_some hget', ← hs.world]
    refine ⟨answer_same lib command (hsame.result command s.world) now now', hs.handlers, ?_⟩
    change (handler.call command s.world).2 = (handler'.call command s'.world).2
    rw [hsame.world, hs.world]

/-- One step of the two routers. -/
theorem SameState.step {s s' : RouterState σ} (hs : SameState s s') {op op' : RouterOp σ}
    (hop : SameOp op op') :
    SameAnswer ((router lib).step s op).2 ((router lib).step s' op').2 ∧
      SameState ((router lib).step s op).1 ((router lib).step s' op').1 := by
  cases hop with
  | route command now now' => exact hs.step_route command now now'
  | register t h =>
    refine ⟨.registered, fun t' => ?_, hs.world⟩
    change Option.Rel _ ((s.handlers.set t _).get? t') ((s'.handlers.set t _).get? t')
    rw [PyDict.get?_set, PyDict.get?_set]
    by_cases ht : t' = t
    · rw [if_pos ht, if_pos ht]
      exact .some h
    · rw [if_neg ht, if_neg ht]
      exact hs.handlers t'

theorem sameState_newRouter (world : σ) : SameState (newRouter world) (newRouter world) :=
  ⟨fun _ => .none, rfl⟩

end CommandRouter

open CommandRouter

/-- If handlers raise only `Exception`s, every command is answered, to the agent that sent it;
    the log has all commands, each from before its handler is called; and routers whose handlers
    differ only in the texts of their exceptions answer alike. -/
theorem router_confines {σ : Type} (lib : RouterLib) (world : σ) (ops : List (RouterOp σ))
    (hops : AllTame ops) :
    (∀ ev ∈ (router lib).events (newRouter world) ops, ∀ command now,
      ev.input = .route command now → ∃ r, ev.output = some (.ok r) ∧ RespondsTo command r) ∧
    ((router lib).run (newRouter world) ops).commandLog = (routed ops).map entryOf ∧
    LoggedFirst (routed ops) ((router lib).run (newRouter world) ops).effects ∧
    ∀ ops', List.Forall₂ SameOp ops ops' →
      List.Forall₂ SameAnswer ((router lib).outputs (newRouter world) ops)
        ((router lib).outputs (newRouter world) ops') := by
  have hlogged : HasLogged (routed ops) ((router lib).run (newRouter world) ops) :=
    hasLogged_run world hops
  refine ⟨?_, hlogged.log, hlogged.effects, fun ops' hsame => ?_⟩
  · rintro ev hev command now hinput
    obtain ⟨before, op, later, rfl, rfl⟩ := Machine.exists_prefix_of_mem_events hev
    obtain rfl : op = .route command now := hinput
    have hbefore : AllTame before := fun t handler h => hops t handler (List.mem_append_left _ h)
    exact ((hasLogged_run world hbefore).step command now).2
  · -- From related states, related operations are answered alike.
    exact Machine.forall₂_outputs (fun _ _ _ _ hs hop => hs.step hop) (sameState_newRouter world)
      hsame

namespace Sample

/-- The classes of Python for which there are clauses. -/
def routerLib : RouterLib where
  isPermissionError cls := cls = .otherException "PermissionError"
  isTimeoutError cls := cls = .otherException "TimeoutError"

/-- A handler that counts its calls, and fails with a secret in the text of its exception. -/
def failing (secret : String) : Handler ℕ where
  call _ n := (.error ⟨.otherException "PermissionError", secret⟩, n + 1)

/-- Such a handler is registered, and two commands are routed. -/
def routerRun (secret : String) : List (RouterOp ℕ) :=
  [.register .heartbeat (failing secret), .route heartbeatCommand (.fin 1),
    .route { heartbeatCommand with commandType := .webSearch } (.fin 2)]

theorem allTame_routerRun (secret : String) : AllTame (routerRun secret) := by
  intro t handler h
  rcases List.mem_cons.1 h with h | h
  · obtain ⟨-, rfl⟩ := RouterOp.register.inj h
    rintro command world err ⟨⟩
    rfl
  · rcases List.mem_pair.1 h with h | h
    · cases h
    · cases h

/-- Both commands are logged, and the answers do not depend on the secret. -/
theorem secret_confined :
    ((router routerLib).run (newRouter 0) (routerRun "s3cret")).commandLog =
        (routed (routerRun "s3cret")).map entryOf ∧
      List.Forall₂ SameAnswer ((router routerLib).outputs (newRouter 0) (routerRun "s3cret"))
        ((router routerLib).outputs (newRouter 0) (routerRun "other")) := by
  obtain ⟨-, hlog, -, hsame⟩ := router_confines routerLib 0 _ (allTame_routerRun "s3cret")
  have hhandlers : SameButTexts (failing "s3cret") (failing "other") :=
    ⟨rfl, fun _ _ => .error rfl, fun _ _ => rfl⟩
  refine ⟨hlog, hsame _ ?_⟩
  exact .cons (.register _ hhandlers) (.cons (.route _ _ _) (.cons (.route _ _ _) .nil))

end Sample

end VibeShield
