import VibeShield.Api.Router

/-!
# Services behind a router

A service is what handles the commands of one type, on a world of its own. A router with a
service for every type (`CommandRouter.services`) is as good as a router for each: whatever is
registered and routed, every service gives the answers that it would give if it were the only one,
and ends in the same world (`services_isolated`). This holds whether handlers return values or
raise exceptions, and also if they are replaced on the way.
-/

namespace VibeShield

namespace CommandRouter

variable {σ : Type} {lib : RouterLib}

/-! ## Services -/

/-- A handler that works on the part of the world that belongs to a type. -/
def onPart (t : CommandType) (handler : Handler σ) : Handler (CommandType → σ) where
  truthy := handler.truthy
  call command world :=
    let result := handler.call command (world t)
    (result.1, Function.update world t result.2)

/-- The type of the commands that it is about. -/
def RouterOp.commandType : RouterOp σ → CommandType
  | .register t _ => t
  | .route command _ => command.commandType

/-- The same, where handlers work on the part of the world for their type. -/
def RouterOp.onParts : RouterOp σ → RouterOp (CommandType → σ)
  | .register t handler => .register t (onPart t handler)
  | .route command now => .route command now

/-- A router with a service for every type of commands. -/
def services (lib : RouterLib) : Machine (RouterState (CommandType → σ)) (RouterOp σ)
    (Option (Except PyErr CommandResponse)) where
  step s op := (router lib).step s op.onParts

/-- The service for a type is in the same state in a router with all services as in one of its
    own. -/
structure SameService (t : CommandType) (s : RouterState (CommandType → σ)) (s' : RouterState σ) :
    Prop where
  handler : s.handlers.get? t = (s'.handlers.get? t).map (onPart t)
  /-- The handlers of the other services do not touch this one. -/
  others : ∀ u handler, s.handlers.get? u = some handler → ∃ handler', handler = onPart u handler'
  world : s.world t = s'.world
  log : s.commandLog.filter (fun entry => entry.command = t.value) = s'.commandLog

theorem value_eq_value_iff {c t : CommandType} : c.value = t.value ↔ c = t := by
  refine ⟨fun h => Option.some.inj ?_, congrArg _⟩
  rw [← CommandType.ofValue?_value c, h, CommandType.ofValue?_value]

namespace SameService

variable {t : CommandType} {s : RouterState (CommandType → σ)} {s' : RouterState σ}

theorem new (t : CommandType) (world : CommandType → σ) :
    SameService t (newRouter world) (newRouter (world t)) :=
  ⟨rfl, nofun, rfl, rfl⟩

theorem others_register (h : SameService t s s') (u : CommandType) (handler : Handler σ)
    {v : CommandType} {found : Handler (CommandType → σ)}
    (hfound : (s.handlers.set u (onPart u handler)).get? v = some found) :
    ∃ handler', found = onPart v handler' := by
  rw [PyDict.get?_set] at hfound
  by_cases hv : v = u
  · rw [if_pos hv] at hfound
    exact ⟨handler, hv ▸ (Option.some.inj hfound).symm⟩
  · rw [if_neg hv] at hfound
    exact h.others v found hfound

theorem register_at (h : SameService t s s') (handler : Handler σ) :
    SameService t (registerHandler s t (onPart t handler)) (registerHandler s' t handler) := by
  refine ⟨?_, fun _ _ => h.others_register t handler, h.world, h.log⟩
  change (s.handlers.set t (onPart t handler)).get? t = ((s'.handlers.set t handler).get? t).map _
  rw [PyDict.get?_set, PyDict.get?_set, if_pos rfl, if_pos rfl, Option.map_some]

theorem logging_at {command : AgentCommand} (h : SameService command.commandType s s') :
    SameService command.commandType (s.logging command) (s'.logging command) := by
  refine ⟨h.handler, h.others, h.world, ?_⟩
  change (s.commandLog ++ [entryOf command]).filter _ = s'.commandLog ++ [entryOf command]
  rw [List.filter_append, h.log, List.filter_cons_of_pos (by exact decide_eq_true rfl),
    List.filter_nil]

theorem calling_at (h : SameService t s s') (handler : Handler σ) (command : AgentCommand) :
    SameService t (s.calling (onPart t handler) command) (s'.calling handler command) := by
  refine ⟨h.handler, h.others, ?_, h.log⟩
  refine (Function.update_self t _ s.world).trans ?_
  rw [h.world]
  rfl

/-- A command of the type is answered alike. -/
theorem route_at {command : AgentCommand} (h : SameService command.commandType s s')
    (now : PyFloat) :
    ((router lib).step s (.route command now)).2 = ((router lib).step s' (.route command now)).2 ∧
      SameService command.commandType ((router lib).step s (.route command now)).1
        ((router lib).step s' (.route command now)).1 := by
  have hhandler : (s.handlers.get? command.commandType).filter Handler.truthy =
      ((s'.handlers.get? command.commandType).filter Handler.truthy).map
        (onPart command.commandType) := by
    rw [h.handler, Option.filter_map]
    rfl
  cases hget : (s'.handlers.get? command.commandType).filter Handler.truthy with
  | none =>
    rw [hget, Option.map_none] at hhandler
    rw [step_route_of_none hget, step_route_of_none hhandler]
    exact ⟨rfl, h.logging_at⟩
  | some handler =>
    rw [hget, Option.map_some] at hhandler
    rw [step_route_of_some hget, step_route_of_some hhandler]
    refine ⟨?_, h.logging_at.calling_at handler command⟩
    exact congrArg (fun w => some (answer lib now command (handler.call command w).1)) h.world

/-- What is about another type does not touch the service. -/
theorem register_other (h : SameService t s s') {u : CommandType} (hu : u ≠ t)
    (handler : Handler σ) : SameService t (registerHandler s u (onPart u handler)) s' := by
  refine ⟨?_, fun _ _ => h.others_register u handler, h.world, h.log⟩
  change (s.handlers.set u (onPart u handler)).get? t = _
  rw [PyDict.get?_set, if_neg hu.symm, h.handler]

theorem logging_other {command : AgentCommand} (h : SameService t s s')
    (hcommand : command.commandType ≠ t) : SameService t (s.logging command) s' := by
  refine ⟨h.handler, h.others, h.world, ?_⟩
  change (s.commandLog ++ [entryOf command]).filter _ = _
  rw [List.filter_append, h.log, List.filter_cons_of_neg, List.filter_nil, List.append_nil]
  exact Bool.not_eq_true _ ▸ decide_eq_false fun heq => hcommand (value_eq_value_iff.1 heq)

theorem calling_other (h : SameService t s s') {u : CommandType} (hu : u ≠ t)
    (handler : Handler σ) (command : AgentCommand) :
    SameService t (s.calling (onPart u handler) command) s' :=
  ⟨h.handler, h.others, (Function.update_of_ne hu.symm _ s.world).trans h.world, h.log⟩

theorem route_other (h : SameService t s s') {command : AgentCommand}
    (hcommand : command.commandType ≠ t) (now : PyFloat) :
    SameService t ((router lib).step s (.route command now)).1 s' := by
  cases hget : (s.handlers.get? command.commandType).filter Handler.truthy with
  | none =>
    rw [step_route_of_none hget]
    exact h.logging_other hcommand
  | some handler =>
    obtain ⟨handler, rfl⟩ := h.others _ handler (Option.filter_eq_some_iff.1 hget).1
    rw [step_route_of_some hget]
    exact (h.logging_other hcommand).calling_other hcommand handler command

/-- One step: what is about the type is done and answered alike. -/
theorem step_at (h : SameService t s s') (op : RouterOp σ) (hop : op.commandType = t) :
    ((services lib).step s op).2 = ((router lib).step s' op).2 ∧
      SameService t ((services lib).step s op).1 ((router lib).step s' op).1 := by
  subst hop
  cases op with
  | register t handler => exact ⟨rfl, h.register_at handler⟩
  | route command now => exact h.route_at now

/-- One step: what is about another type leaves the service as it is. -/
theorem step_other (h : SameService t s s') (op : RouterOp σ) (hop : op.commandType ≠ t) :
    SameService t ((services lib).step s op).1 s' := by
  cases op with
  | register u handler => exact h.register_other hop handler
  | route command now => exact h.route_other hop now

end SameService

end CommandRouter

open CommandRouter

/-- Whatever is registered and routed, the service for a type gives the answers that it would give
    if it were the only one, ends in the same world, and leaves the same log. -/
theorem services_isolated {σ : Type} (lib : RouterLib) (world : CommandType → σ)
    (ops : List (RouterOp σ)) (t : CommandType) :
    let own := ops.filter fun op => op.commandType = t
    let s := (services lib).run (newRouter world) ops
    let s' := (router lib).run (newRouter (world t)) own
    (services lib).outputsAt RouterOp.commandType t (newRouter world) ops =
        (router lib).outputs (newRouter (world t)) own ∧
      s.world t = s'.world ∧
      s.commandLog.filter (fun entry => entry.command = t.value) = s'.commandLog := by
  have hat (s : RouterState (CommandType → σ)) (s' : RouterState σ) (op : RouterOp σ)
      (hop : op.commandType = t) (h : SameService t s s') :
      ((services lib).step s op).2 = ((router lib).step s' op).2 ∧
        SameService t ((services lib).step s op).1 ((router lib).step s' op).1 := h.step_at op hop
  obtain ⟨houtputs, hs⟩ := Machine.simulates_at hat (fun _ _ op hop h => h.step_other op hop)
    (SameService.new t world) ops
  exact ⟨houtputs, hs.world, hs.log⟩

end VibeShield
