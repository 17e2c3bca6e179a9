import VibeShield.Api.Commands

/-!
# Parsing what an agent sends

Parsing is to give `None` or a command for every text (`ParsesWell`), as it comes from an agent
that is not trusted. Not caught are the exceptions of a JSON text that is no object, and of a
command in it that is no string; and the payload is taken as it is. `parse_total_iff` says for
which texts parsing does what it is to do.
-/

namespace VibeShield

/-- A value that stands for a command is the value of that command. -/
theorem CommandType.value_of_ofValue? {v : String} {c : CommandType}
    (h : CommandType.ofValue? v = some c) : c.value = v := by
  simpa using List.find?_some h

/-- The empty string, which stands for a missing command, is the value of none. -/
theorem CommandLib.UppersAscii.upper_empty {lib : CommandLib} (h : lib.UppersAscii) :
    lib.upper "" = "" :=
  h "" fun _ hc => absurd hc List.not_mem_nil

namespace CommandRouter

variable (lib : CommandLib) (raw agentId : String) (now : PyFloat)

/-- The text is not a command, or it is parsed into the one that it names, for the given agent
    and with a dictionary as its payload. -/
def ParsesWell : Prop :=
  parse lib raw agentId now = .ok none ∨ ∃ c, parse lib raw agentId now = .ok (some c) ∧
    c.agentId = agentId ∧ (∃ payload, c.payload = .dict payload) ∧
    ∃ items command, lib.loads raw = .ok (.dict items) ∧
      PyVal.dictGet? items "command" = some (.str command) ∧
      lib.upper command = c.commandType.value

/-- A dictionary whose command is a string, and whose payload is a dictionary if the command
    is one. Both may be missing. -/
structure WellTyped (items : List (PyVal × PyVal)) : Prop where
  command : ∀ v, PyVal.dictGet? items "command" = some v → ∃ command, v = .str command
  payload : ∀ command, PyVal.dictGet? items "command" = some (.str command) →
    (CommandType.ofValue? (lib.upper command)).isSome = true →
    ∀ v, PyVal.dictGet? items "payload" = some v → ∃ payload, v = .dict payload

/-- What `json.loads` may return or raise. -/
def Manageable : Except PyErr PyVal → Prop
  | .error err => err.isValueError = true ∨ err.cls = .otherException "KeyError"
  | .ok v => ∃ items, v = .dict items ∧ WellTyped lib items

variable {lib raw agentId now}

/-- What comes of a dictionary. -/
theorem parse_of_dict {items : List (PyVal × PyVal)} (h : lib.loads raw = .ok (.dict items)) :
    parse lib raw agentId now =
      match (PyVal.dictGet? items "command").getD (.str "") with
      | .str command => .ok ((CommandType.ofValue? (lib.upper command)).map fun commandType => {
          commandType := commandType
          agentId := agentId
          taskId := (PyVal.dictGet? items "task_id").getD .none
          payload := (PyVal.dictGet? items "payload").getD (.dict [])
          timestamp := now })
      | _ => .error ⟨.attributeError, "object has no attribute 'upper'"⟩ := by
  rw [parse, parseCommand, h]
  dsimp only
  rw [readCommand]
  cases (PyVal.dictGet? items "command").getD (.str "") with
  | str command =>
    dsimp only
    cases CommandType.ofValue? (lib.upper command) with
    | some commandType => rfl
    | none => exact if_pos (.inl rfl)
  | _ => exact if_neg (by decide)

/-- A dictionary is parsed well exactly if it is well typed. -/
theorem parsesWell_iff_wellTyped (hupper : lib.UppersAscii) {items : List (PyVal × PyVal)}
    (h : lib.loads raw = .ok (.dict items)) :
    ParsesWell lib raw agentId now ↔ WellTyped lib items := by
  have hparse : parse lib raw agentId now = _ := parse_of_dict h
  rw [ParsesWell, hparse, h]
  cases hcommand : PyVal.dictGet? items "command" with
  | none =>
    rw [Option.getD_none]
    dsimp only
    rw [hupper.upper_empty]
    refine iff_of_true (.inl rfl) ⟨fun v hv => ?_, fun command hv => ?_⟩
    · cases hcommand.symm.trans hv
    · cases hcommand.symm.trans hv
  | some v =>
    rw [Option.getD_some]
    cases v with
    | str command =>
      have hstr : ∀ v, PyVal.dictGet? items "command" = some v → ∃ command, v = .str command :=
        fun v hv => ⟨command, Option.some.inj (hv.symm.trans hcommand)⟩
      dsimp only
      cases hvalue : CommandType.ofValue? (lib.upper command) with
      | none =>
        refine iff_of_true (.inl rfl) ⟨hstr, fun command' hv hsome => ?_⟩
        cases hcommand.symm.trans hv
        rw [hvalue] at hsome
        cases hsome
      | some commandType =>
        constructor
        · rintro (hnone | ⟨c, hc, -, ⟨payload, hpayload⟩, -⟩)
          · cases hnone
          · refine ⟨hstr, fun _ _ _ v hv => ?_⟩
            rw [← Option.some.inj (Except.ok.inj hc), hv] at hpayload
            exact ⟨payload, hpayload⟩
        · intro htyped
          refine .inr ⟨_, rfl, rfl, ?_, items, command, rfl, hcommand,
            (CommandType.value_of_ofValue? hvalue).symm⟩
          cases hpayload : PyVal.dictGet? items "payload" with
          | none => exact ⟨[], rfl⟩
          | some v => exact htyped.payload command hcommand (by rw [hvalue]; rfl) v hpayload
    | _ =>
      refine iff_of_false ?_ fun htyped => ?_
      · rintro (h | ⟨c, h, -⟩)
        · cases h
        · cases h
      · obtain ⟨command, hstr⟩ := htyped.command _ hcommand
        cases hstr

/-- An exception of the JSON library is caught if it is a `ValueError` or a `KeyError`. -/
theorem parsesWell_iff_of_error {err : PyErr} (h : lib.loads raw = .error err) :
    ParsesWell lib raw agentId now ↔
      err.isValueError = true ∨ err.cls = .otherException "KeyError" := by
  have hparse : parse lib raw agentId now =
      if err.isValueError ∨ err.cls = .otherException "KeyError" then .ok none else .error err := by
    rw [parse, parseCommand, h]
  rw [ParsesWell, hparse]
  by_cases hcaught : err.isValueError = true ∨ err.cls = .otherException "KeyError"
  · rw [if_pos hcaught]
    exact iff_of_true (.inl rfl) hcaught
  · rw [if_neg hcaught]
    refine iff_of_false ?_ hcaught
    rintro (h | ⟨c, h, -⟩)
    · cases h
    · cases h

/-- No other JSON value has the method `get`. -/
theorem not_parsesWell_of_not_isDict {v : PyVal} (h : lib.loads raw = .ok v)
    (hv : ∀ items, v ≠ .dict items) : ¬ParsesWell lib raw agentId now := by
  have hparse : parse lib raw agentId now =
      .error ⟨.attributeError, "object has no attribute 'get'"⟩ := by
    rw [parse, parseCommand, h]
    cases v with
    | dict items => exact absurd rfl (hv items)
    | _ => exact if_neg (by decide)
  rw [ParsesWell, hparse]
  rintro (h | ⟨c, h, -⟩)
  · cases h
  · cases h

end CommandRouter

/-- A text is parsed as it is to be, if and only if the JSON library rejects it or makes a
    well-typed dictionary of it. -/
theorem parse_total_iff (lib : CommandLib) (hupper : lib.UppersAscii) (raw agentId : String)
    (now : PyFloat) : CommandRouter.ParsesWell lib raw agentId now ↔
      CommandRouter.Manageable lib (lib.loads raw) := by
  cases h : lib.loads raw with
  | error err => exact CommandRouter.parsesWell_iff_of_error h
  | ok v =>
    by_cases hv : ∃ items, v = .dict items
    · obtain ⟨items, rfl⟩ := hv
      refine (CommandRouter.parsesWell_iff_wellTyped hupper h).trans ?_
      exact ⟨fun htyped => ⟨items, rfl, htyped⟩, fun ⟨_, hitems, htyped⟩ => by
        cases hitems
        exact htyped⟩
    · refine iff_of_false (CommandRouter.not_parsesWell_of_not_isDict h fun items hitems =>
        hv ⟨items, hitems⟩) ?_
      rintro ⟨items, hitems, -⟩
      exact hv ⟨items, hitems⟩

namespace Sample

/-- The text of a heartbeat in lower case. -/
def lowercaseText : String :=
  "\x7b\"command\": \"heartbeat\", \"task_id\": \"t1\", \"payload\": \x7b\"n\": 1\x7d\x7d"

/-- What is in it. -/
def lowercaseItems : List (PyVal × PyVal) :=
  [(.str "command", .str "heartbeat"), (.str "task_id", .str "t1"),
    (.str "payload", .dict [(.str "n", .int 1)])]

/-- A library that parses these texts: an empty array, a command whose payload is a number, and
    one whose payload is a dictionary. -/
def oddLib : CommandLib :=
  { commandLib with
    loads := parseLine [.list [],
      .dict [(.str "command", .str "HEARTBEAT"), (.str "payload", .int 1)],
      .dict lowercaseItems] }

/-- An empty array raises an exception, and a number becomes the payload of a command. -/
theorem odd_texts_parsed :
    ¬CommandRouter.ParsesWell oddLib "[]" "a1" (.fin 2) ∧
    ¬CommandRouter.ParsesWell oddLib "\x7b\"command\": \"HEARTBEAT\", \"payload\": 1\x7d" "a1"
      (.fin 2) := by
  constructor
  · exact CommandRouter.not_parsesWell_of_not_isDict (v := .list []) (by rfl) nofun
  · have hloads : oddLib.loads "\x7b\"command\": \"HEARTBEAT\", \"payload\": 1\x7d" =
        .ok (.dict [(.str "command", .str "HEARTBEAT"), (.str "payload", .int 1)]) := by rfl
    rw [CommandRouter.parsesWell_iff_wellTyped (fun _ _ => rfl) hloads]
    intro h
    obtain ⟨payload, hpayload⟩ := h.payload "HEARTBEAT" (by rfl) (by decide) (.int 1) (by rfl)
    cases hpayload

/-- The command is parsed into the one that it names. -/
theorem lowercase_parsed : CommandRouter.ParsesWell oddLib lowercaseText "a1" (.fin 2) := by
  rw [parse_total_iff oddLib (fun _ _ => rfl)]
  have hloads : oddLib.loads lowercaseText = .ok (.dict lowercaseItems) := by rfl
  rw [hloads]
  refine ⟨lowercaseItems, rfl, ?_, ?_⟩
  · intro v hv
    exact ⟨"heartbeat", (Option.some.inj hv).symm⟩
  · intro command hcommand hsome v hv
    exact ⟨[(.str "n", .int 1)], (Option.some.inj hv).symm⟩

end Sample

end VibeShield
