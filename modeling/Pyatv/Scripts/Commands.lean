import Pyatv.Scripts.Arguments
import Pyatv.Support.ModelField
import Pyatv.Support.Stringify
import Pyatv.Facade.AppleTV

namespace Pyatv.Scripts

open Pyatv.Support

/-- What `_exec_command` passes to a method: a parsed argument, or `sys.stdin.buffer`. -/
inductive ExecArg where
  | arg (a : CmdArg)
  | stdinBuffer
  deriving DecidableEq, Repr

inductive CmdLog where
  /-- `print(text)`, or the prompt `_read_input` writes. -/
  | text (s : String)
  /-- `_pretty_print(value)` of a value other than `None`. -/
  | printed (value : PyObj)
  | error (msg : String)
  /-- `_LOGGER.exception(msg)`, which adds the traceback of the exception being handled. -/
  | exception (msg : String)
  | debug (msg : String)
  /-- `atv.close()` is called. -/
  | closed
  deriving Repr

/-- How a piece of the command loop ends: the settings, what was written, and the result. -/
structure Outcome where
  settings : PyObj
  logs : List CmdLog
  result : Except PyError PyObj

/-- What `getattr(obj, command)` finds: a method, a property's value, or nothing. -/
inductive Attr where
  | method (call : List ExecArg → PyObj → PyObj × Except PyError PyObj)
  | property (value : PyObj)
  | missing (msg : String)

/-! ### `_exec_command` -/

def prettyPrint : PyObj → List CmdLog
  | .pyNone => []
  | value => [.printed value]

def execArgs (command : String) (args : List CmdArg) : Except PyError (List ExecArg) :=
  if command = "stream_file" then
    match args with
    | [] => .error (.indexError "tuple index out of range")
    | a :: rest => .ok ((if a = .str "-" then .stdinBuffer else .arg a) :: rest.map .arg)
  else .ok (args.map .arg)

/-- The body of `_exec_command`'s `try` up to `value`. -/
def invokeAttr (attr : Attr) (command : String) (args : List CmdArg) (settings : PyObj) :
    PyObj × Except PyError PyObj :=
  match attr with
  | .method call =>
    match execArgs command args with
    | .ok xs => call xs settings
    | .error e => (settings, .error e)
  | .property value => (settings, .ok value)
  | .missing msg => (settings, .error (.attributeError msg))

/-- The rest of `_exec_command`, from the value or the exception of `invokeAttr`. -/
def execResult (classes : Hierarchy) (command : String) (printResult : Bool) :
    Except PyError PyObj → List CmdLog × Except PyError PyObj
  | .ok value => if printResult then (prettyPrint value, .ok (.int 0)) else ([], .ok value)
  | .error e =>
    if classes.isSubclass e.cls "NotImplementedError" then
      ([.exception s!"Command '{command}' is not supported by device"], .ok (.int 1))
    else if classes.isSubclass e.cls "AuthenticationError" then
      ([.exception s!"Authentication error: {e.msg}"], .ok (.int 1))
    else ([], .error e)

def execCommand (classes : Hierarchy) (attr : Attr) (command : String) (printResult : Bool)
    (args : List CmdArg) (settings : PyObj) : Outcome :=
  let r := invokeAttr attr command args settings
  let h := execResult classes command printResult r.2
  ⟨r.1, h.1, h.2⟩

def Caught (classes : Hierarchy) (e : PyError) : Prop :=
  classes.isSubclass e.cls "NotImplementedError" = true ∨
    classes.isSubclass e.cls "AuthenticationError" = true

theorem execResult_not_caught {classes : Hierarchy} {e : PyError} (hc : ¬ Caught classes e)
    (command : String) (printResult : Bool) :
    execResult classes command printResult (.error e) = ([], .error e) := by
  simp only [Caught, not_or, Bool.not_eq_true] at hc
  simp [execResult, hc.1, hc.2]

theorem not_caught_of_updateError (classes : Hierarchy) {e : PyError} (he : UpdateError e) :
    ¬ Caught classes e := by
  have hmro : ∃ mro, builtinMro e.cls = some mro ∧ "NotImplementedError" ∉ mro ∧
      "AuthenticationError" ∉ mro := by
    cases e <;> first | exact (he : False).elim | skip
    all_goals first
      | exact ⟨_, rfl, by decide, by decide⟩
      | (obtain rfl : _ = "TypeError" := he; exact ⟨_, rfl, by decide, by decide⟩)
  obtain ⟨mro, hm, h1, h2⟩ := hmro
  simp only [Caught, classes.builtin _ _ hm, decide_eq_true_eq, h1, h2, or_self,
    not_false_eq_true]

/-! ### `SettingsCommands` -/

def settingsCommands : List String :=
  ["print_settings", "remove_settings", "change_setting", "unset_setting"]

def settingsParams : String → Option (List String)
  | "print_settings" => some []
  | "remove_settings" => some []
  | "change_setting" => some ["setting", "value"]
  | "unset_setting" => some ["setting"]
  | _ => none

def arityError (name : String) (params : List String) (given : Nat) : PyError :=
  .raised "TypeError" <|
    match params.drop given with
    | [] =>
      let s := if params.length = 0 then "" else "s"
      s!"SettingsCommands.{name}() takes {params.length + 1} positional argument{s} " ++
        s!"but {given + 1} were given"
    | [p] => s!"SettingsCommands.{name}() missing 1 required positional argument: '{p}'"
    | p :: q :: _ =>
      s!"SettingsCommands.{name}() missing 2 required positional arguments: '{p}' and '{q}'"

def ExecArg.toPyObj : ExecArg → PyObj
  | .arg (.int i) => .int i
  | .arg (.str s) => .str s
  | .arg (.converted cls _) => .other cls
  | .stdinBuffer => .other "stdin"

variable (rt : Runtime)

/-- `update_model_field(self.atv.settings, setting, value)`, then `return 0`. -/
def updateSetting (setting : ExecArg) (value : PyObj) (settings : PyObj) :
    PyObj × Except PyError PyObj :=
  match setting with
  | .arg (.str field) =>
    let r := updateModelField rt settings field value
    (r.1, r.2.map fun _ => .int 0)
  | .arg (.int _) => (settings, .error (.attributeError "'int' object has no attribute 'split'"))
  | _ => (settings, .error (.attributeError "object has no attribute 'split'"))

def settingsBody (name : String) (args : List ExecArg) (settings : PyObj) :
    PyObj × Except PyError PyObj :=
  match name, args with
  | "change_setting", [setting, value] => updateSetting rt setting value.toPyObj settings
  | "unset_setting", [setting] => updateSetting rt setting .pyNone settings
  | _, _ => (settings, .ok (.int 0))

def settingsAttr (name : String) : Attr :=
  match settingsParams name with
  | none => .missing s!"'SettingsCommands' object has no attribute '{name}'"
  | some params =>
    .method fun args settings =>
      if args.length = params.length then settingsBody rt name args settings
      else (settings, .error (arityError name params args.length))

theorem updateSetting_cases (a : CmdArg) (value settings : PyObj) :
    (updateSetting rt (.arg a) value settings).1 = settings ∨ ∃ field, a = .str field ∧
      (updateSetting rt (.arg a) value settings).1 =
        (updateModelField rt settings field value).1 := by
  cases a with
  | str field => exact .inr ⟨field, rfl, rfl⟩
  | _ => exact .inl rfl

theorem settingsAttr_cases (name : String) (args : List CmdArg) (settings : PyObj) :
    (invokeAttr (settingsAttr rt name) name args settings).1 = settings ∨
      ∃ field rest value, (name = "change_setting" ∨ name = "unset_setting") ∧
        args = .str field :: rest ∧
        (invokeAttr (settingsAttr rt name) name args settings).1 =
          (updateModelField rt settings field value).1 := by
  unfold settingsAttr
  cases hp : settingsParams name with
  | none => exact .inl rfl
  | some params =>
    have hs : name ≠ "stream_file" := by rintro rfl; cases hp
    simp only [invokeAttr, execArgs, if_neg hs]
    split_ifs
    · unfold settingsBody
      split
      next heq =>
        obtain ⟨a, rest, rfl, rfl, -⟩ := List.map_eq_cons_iff.mp heq
        rcases updateSetting_cases rt a _ settings with h | ⟨field, rfl, h⟩
        · exact .inl h
        · exact .inr ⟨field, rest, _, .inl rfl, rfl, h⟩
      next heq =>
        obtain ⟨a, rest, rfl, rfl, -⟩ := List.map_eq_cons_iff.mp heq
        rcases updateSetting_cases rt a _ settings with h | ⟨field, rfl, h⟩
        · exact .inl h
        · exact .inr ⟨field, rest, _, .inr rfl, rfl, h⟩
      next => exact .inl rfl
    · exact .inl rfl

/-! ### `_handle_device_command` -/

inductive Target where
  | device
  | settings
  | audio
  | ctrl
  | metadata
  | power
  | playing
  | stream
  | keyboard
  | deviceInfo
  | apps
  | userAccounts
  | touch
  deriving DecidableEq, Repr

/-- The order of `_handle_device_command`'s checks: `Audio` before `RemoteControl`. -/
def Target.order : List Target :=
  [.device, .settings, .audio, .ctrl, .metadata, .power, .playing, .stream, .keyboard,
    .deviceInfo, .apps, .userAccounts, .touch]

def Target.printResult : Target → Bool
  | .device | .settings => false
  | _ => true

/-- What `_handle_device_command` finds outside the model. -/
structure DeviceEnv where
  commands : Target → List String
  obj : Target → Except PyError (String → Attr)

def DeviceEnv.commandsOf (env : DeviceEnv) : Target → List String
  | .settings => settingsCommands
  | t => env.commands t

def DeviceEnv.runOn (env : DeviceEnv) (t : Target) (name : String) (args : List CmdArg)
    (settings : PyObj) : Outcome :=
  match t with
  | .settings => execCommand rt.exceptions (settingsAttr rt name) name false args settings
  | t =>
    match env.obj t with
    | .ok obj => execCommand rt.exceptions (obj name) name t.printResult args settings
    | .error e => ⟨settings, [], .error e⟩

def handleDeviceCommand (env : DeviceEnv) (convert : String → CmdArg → Except PyError CmdArg)
    (cmd : String) (settings : PyObj) : Outcome :=
  match extractCommandWithArgs convert cmd with
  | .error e => ⟨settings, [], .error e⟩
  | .ok (name, args) =>
    match Target.order.find? fun t => name ∈ env.commandsOf t with
    | some t => env.runOn rt t name args settings
    | none => ⟨settings, [.error s!"Unknown command: {name}"], .ok (.int 1)⟩

section Dispatch

variable (env : DeviceEnv) (convert : String → CmdArg → Except PyError CmdArg)

theorem handleDeviceCommand_unknown {cmd name : String} {args : List CmdArg}
    (h : extractCommandWithArgs convert cmd = .ok (name, args))
    (hu : ∀ t, name ∉ env.commandsOf t) (settings : PyObj) :
    handleDeviceCommand rt env convert cmd settings =
      ⟨settings, [.error s!"Unknown command: {name}"], .ok (.int 1)⟩ := by
  have hnone : Target.order.find? (fun t => name ∈ env.commandsOf t) = none :=
    List.find?_eq_none.mpr fun t _ => by simpa using hu t
  rw [handleDeviceCommand, h]
  simp only [hnone]

def twoFields : Runtime where
  classOf _ := { fields := [("a", { validate := .ok, default := some (.int 0) }),
    ("b", { validate := .ok, default := some (.int 0) })] }
  builtinHasAttr _ _ := false

end Dispatch

/-! ### `_handle_commands` -/

/-- `ret != 0`: `False` equals `0`, and a value of another type never does. -/
def neZero : PyObj → Bool
  | .int i => i != 0
  | .bool b => b
  | _ => true

def Outcome.stops (r : Outcome) : Bool :=
  match r.result with
  | .ok ret => neZero ret
  | .error _ => true

def runCommands (handle : String → PyObj → Outcome) : List String → PyObj → Outcome
  | [], settings => ⟨settings, [], .ok (.int 0)⟩
  | cmd :: rest, settings =>
    let r := handle cmd settings
    if r.stops then r
    else
      let r' := runCommands handle rest r.settings
      ⟨r'.settings, r.logs ++ r'.logs, r'.result⟩

/-- `_handle_commands` from its `try`: the loop, then its `finally`. -/
def handleCommands (handle : String → PyObj → Outcome) (closed : Except PyError (Option Nat))
    (wait : Except PyError Unit) (commands : List String) (settings : PyObj) : Outcome :=
  let r := runCommands handle commands settings
  let fin : List CmdLog × Except PyError Unit :=
    match closed with
    | .error e => ([.closed], .error e)
    | .ok none => ([.closed], .error (.raised "TypeError" "object of type 'NoneType' has no len()"))
    | .ok (some n) => ([.closed, .debug s!"Waiting for {n} remaining tasks"], wait)
  ⟨r.settings, r.logs ++ fin.1,
    match fin.2 with
    | .ok () => r.result
    | .error e => .error e⟩

section Loop

variable (handle : String → PyObj → Outcome)

@[simp] theorem runCommands_nil (settings : PyObj) :
    runCommands handle [] settings = ⟨settings, [], .ok (.int 0)⟩ := rfl

theorem runCommands_cons (cmd : String) (rest : List String) (settings : PyObj) :
    runCommands handle (cmd :: rest) settings =
      if (handle cmd settings).stops then handle cmd settings
      else
        let r' := runCommands handle rest (handle cmd settings).settings
        ⟨r'.settings, (handle cmd settings).logs ++ r'.logs, r'.result⟩ := rfl

theorem runCommands_append (l₁ l₂ : List String) (settings : PyObj) :
    runCommands handle (l₁ ++ l₂) settings =
      let r := runCommands handle l₁ settings
      if r.stops then r
      else
        let r' := runCommands handle l₂ r.settings
        ⟨r'.settings, r.logs ++ r'.logs, r'.result⟩ := by
  induction l₁ generalizing settings with
  | nil => rfl
  | cons cmd rest ih =>
    rw [List.cons_append, runCommands_cons, runCommands_cons]
    by_cases hc : (handle cmd settings).stops
    · simp only [hc, if_true]
    · simp only [hc, Bool.false_eq_true, if_false, ih]
      generalize runCommands handle rest (handle cmd settings).settings = r
      obtain ⟨s, l, _ | ret⟩ := r
      · rfl
      · simp only [Outcome.stops]
        cases neZero ret <;> simp [List.append_assoc]

theorem Outcome.stops_of_result_zero {r : Outcome} (h : r.result = .ok (.int 0)) :
    r.stops = false := by
  rw [Outcome.stops, h]; rfl

theorem runCommands_stops_eq_false_iff (cmds : List String) (settings : PyObj) :
    (runCommands handle cmds settings).stops = false ↔
      (runCommands handle cmds settings).result = .ok (.int 0) := by
  induction cmds generalizing settings with
  | nil => exact ⟨fun _ => rfl, fun _ => rfl⟩
  | cons cmd rest ih =>
    rw [runCommands_cons]
    by_cases hc : (handle cmd settings).stops
    · simp only [hc, if_true]
      exact ⟨fun h => absurd h (by simp),
        fun h => absurd (Outcome.stops_of_result_zero h) (by simp [hc])⟩
    · simp only [hc, Bool.false_eq_true, if_false]
      exact ih _

/-- `_handle_commands` stops at the first command that raises or returns other than `0`. -/
theorem run_commands_stops_at_first (pre : List String) (cmd : String) (post : List String)
    (settings : PyObj) (hpre : (runCommands handle pre settings).result = .ok (.int 0))
    (hcmd : (handle cmd (runCommands handle pre settings).settings).stops = true) :
    runCommands handle (pre ++ cmd :: post) settings =
      ⟨(handle cmd (runCommands handle pre settings).settings).settings,
        (runCommands handle pre settings).logs ++
          (handle cmd (runCommands handle pre settings).settings).logs,
        (handle cmd (runCommands handle pre settings).settings).result⟩ := by
  have hs : (runCommands handle pre settings).stops = false :=
    (runCommands_stops_eq_false_iff handle pre settings).mpr hpre
  simp only [runCommands_append, runCommands_cons, hs, hcmd, Bool.false_eq_true, if_false,
    if_true]

def echoUntilStop (cmd : String) (settings : PyObj) : Outcome :=
  ⟨settings, [.text cmd], .ok (if cmd = "stop" then .int 2 else .int 0)⟩

theorem run_commands_stops_at_first_echo :
    (runCommands echoUntilStop ["a"] .pyNone).result = .ok (.int 0) ∧
    (echoUntilStop "stop" (runCommands echoUntilStop ["a"] .pyNone).settings).stops = true ∧
    runCommands echoUntilStop (["a"] ++ "stop" :: ["b"]) .pyNone =
      ⟨(echoUntilStop "stop" (runCommands echoUntilStop ["a"] .pyNone).settings).settings,
        (runCommands echoUntilStop ["a"] .pyNone).logs ++
          (echoUntilStop "stop" (runCommands echoUntilStop ["a"] .pyNone).settings).logs,
        (echoUntilStop "stop" (runCommands echoUntilStop ["a"] .pyNone).settings).result⟩ :=
  ⟨rfl, rfl, run_commands_stops_at_first echoUntilStop ["a"] "stop" ["b"] .pyNone rfl rfl⟩

/-- A whole run keeps any property of the settings that every command keeps. -/
theorem runCommands_invariant (P : PyObj → Prop) (cmds : List String)
    (hstep : ∀ cmd ∈ cmds, ∀ s, P s → P (handle cmd s).settings) :
    ∀ settings, P settings → P (runCommands handle cmds settings).settings := by
  induction cmds with
  | nil => exact fun _ h => h
  | cons cmd rest ih =>
    intro settings h
    have h1 := hstep cmd (List.mem_cons_self _ _) settings h
    rw [runCommands_cons]
    split_ifs
    · exact h1
    · exact ih (fun c hc => hstep c (List.mem_cons_of_mem _ hc)) _ h1

end Loop

/-- What `atv.close()` gives `_handle_commands` when the device is a `FacadeAppleTV`. -/
def facadeClosed {F R I S : Type} (run : R → Except PyError Unit)
    (atv : Facade.FacadeAppleTV F R I S) : Except PyError (Option Nat) :=
  (Facade.close run atv).2.map fun _ => none

theorem execResult_updateError (classes : Hierarchy) {e : PyError} (he : UpdateError e)
    (command : String) : execResult classes command false (.error e) = ([], .error e) :=
  execResult_not_caught (not_caught_of_updateError classes he) command false

theorem handleDeviceCommand_change_setting {env : DeviceEnv}
    (hdev : "change_setting" ∉ env.commands .device)
    {convert : String → CmdArg → Except PyError CmdArg} {cmd field : String} {a : CmdArg}
    (hcmd : extractCommandWithArgs convert cmd = .ok ("change_setting", [.str field, a]))
    (settings : PyObj) :
    handleDeviceCommand rt env convert cmd settings =
      let r := updateModelField rt settings field (ExecArg.arg a).toPyObj
      ⟨r.1, [], r.2.map fun _ => .int 0⟩ := by
  have hfind :
      Target.order.find? (fun t => "change_setting" ∈ env.commandsOf t) = some .settings := by
    simp [Target.order, DeviceEnv.commandsOf, hdev, settingsCommands]
  have hcall : invokeAttr (settingsAttr rt "change_setting") "change_setting" [.str field, a]
      settings = updateSetting rt (.arg (.str field)) (ExecArg.arg a).toPyObj settings := rfl
  have hu := updateModelField_error rt settings field (ExecArg.arg a).toPyObj
  rw [handleDeviceCommand, hcmd]
  simp only [hfind, DeviceEnv.runOn, execCommand, hcall, updateSetting]
  cases h : (updateModelField rt settings field (ExecArg.arg a).toPyObj).2 with
  | ok u => rfl
  | error e => simp only [Except.map, execResult_updateError rt.exceptions (hu e h).2]

/-! ### The settings over a run -/

/-- The dotted path a command line names for `change_setting` or `unset_setting`. -/
def settingPath (convert : String → CmdArg → Except PyError CmdArg) (cmd : String) :
    Option String :=
  match extractCommandWithArgs convert cmd with
  | .ok (name, .str field :: _) =>
    if name = "change_setting" ∨ name = "unset_setting" then some field else none
  | _ => none

/-- The command sets other than `SettingsCommands` leave `atv.settings` alone. -/
def DeviceEnv.KeepsSettings (env : DeviceEnv) : Prop :=
  ∀ t obj, env.obj t = .ok obj → ∀ name call, obj name = .method call → ∀ xs s, (call xs s).1 = s

theorem invokeAttr_keeps {attr : Attr} (h : ∀ call, attr = .method call → ∀ xs s, (call xs s).1 = s)
    (command : String) (args : List CmdArg) (settings : PyObj) :
    (invokeAttr attr command args settings).1 = settings := by
  unfold invokeAttr
  split
  · split
    · exact h _ rfl _ _
    · rfl
  all_goals rfl

section Settings

variable {env : DeviceEnv} (hkeep : env.KeepsSettings)
include hkeep

theorem runOn_settings_cases (t : Target) (name : String) (args : List CmdArg)
    (settings : PyObj) :
    (env.runOn rt t name args settings).settings = settings ∨
      ∃ field rest value, (name = "change_setting" ∨ name = "unset_setting") ∧
        args = .str field :: rest ∧
        (env.runOn rt t name args settings).settings =
          (updateModelField rt settings field value).1 := by
  unfold DeviceEnv.runOn
  split
  · exact settingsAttr_cases rt name args settings
  · split
    next obj hobj =>
      exact .inl (invokeAttr_keeps (fun call hc => hkeep _ obj hobj name call hc) _ _ _)
    next => exact .inl rfl

/-- The step lemma: a command changes the settings only at the path it names. -/
theorem handleDeviceCommand_settings_cases (convert : String → CmdArg → Except PyError CmdArg)
    (cmd : String) (settings : PyObj) :
    (handleDeviceCommand rt env convert cmd settings).settings = settings ∨
      ∃ field value, settingPath convert cmd = some field ∧
        (handleDeviceCommand rt env convert cmd settings).settings =
          (updateModelField rt settings field value).1 := by
  unfold handleDeviceCommand
  cases hx : extractCommandWithArgs convert cmd with
  | error e => exact .inl rfl
  | ok p =>
    obtain ⟨name, args⟩ := p
    dsimp only
    split
    · rcases runOn_settings_cases rt hkeep _ name args settings with
        h | ⟨field, rest, value, hname, rfl, h⟩
      · exact .inl h
      · exact .inr ⟨field, value, by simp [settingPath, hx, hname], h⟩
    · exact .inl rfl

/-- A run of `_handle_commands` changes the settings only at the paths its commands name. -/
theorem handle_commands_changes_only_named_settings (hroot : rt.NoRootValidators)
    (convert : String → CmdArg → Except PyError CmdArg) (closed : Except PyError (Option Nat))
    (wait : Except PyError Unit) (commands : List String) (settings : PyObj) (q : List String)
    (_hwalk : ∀ cmd ∈ commands, ∀ field, settingPath convert cmd = some field →
      rt.FieldsOnly (splitPath field))
    (hq : ∀ cmd ∈ commands, ∀ field, settingPath convert cmd = some field →
      ¬ q <+: splitPath field ∧ ¬ splitPath field <+: q) :
    (handleCommands (handleDeviceCommand rt env convert) closed wait commands
      settings).settings.fieldAt q = settings.fieldAt q := by
  refine runCommands_invariant _ (fun s => s.fieldAt q = settings.fieldAt q) commands
    (fun cmd hc s hs => ?_) settings rfl
  rcases handleDeviceCommand_settings_cases rt hkeep convert cmd s with h | ⟨field, value, hp, h⟩
  · rw [h, hs]
  · obtain ⟨h1, h2⟩ := hq cmd hc field hp
    rw [h, updateModelField_fieldAt_of_disjoint rt hroot s field value h1 h2, hs]

end Settings

def noCommands : DeviceEnv := ⟨fun _ => [], fun _ => .ok fun _ => .property .pyNone⟩

theorem noCommands_keepsSettings : noCommands.KeepsSettings := by
  rintro t obj ⟨⟩ name call ⟨⟩

theorem handle_commands_changes_only_named_settings_change_a :
    noCommands.KeepsSettings ∧ twoFields.NoRootValidators ∧
    (∀ cmd ∈ ["change_setting=a,1"], ∀ field, settingPath (fun _ a => .ok a) cmd = some field →
      twoFields.FieldsOnly (splitPath field)) ∧
    (∀ cmd ∈ ["change_setting=a,1"], ∀ field, settingPath (fun _ a => .ok a) cmd = some field →
      ¬ ["b"] <+: splitPath field ∧ ¬ splitPath field <+: ["b"]) ∧
    (handleCommands (handleDeviceCommand twoFields noCommands (fun _ a => .ok a)) (.ok none)
      (.ok ()) ["change_setting=a,1"]
      (.model "Settings" [("a", .int 0), ("b", .int 0)])).settings.fieldAt ["b"] =
        (PyObj.model "Settings" [("a", .int 0), ("b", .int 0)]).fieldAt ["b"] := by
  have hpath : ∀ cmd ∈ ["change_setting=a,1"], ∀ field,
      settingPath (fun _ a => .ok a) cmd = some field → field = "a" := by
    intro cmd hc field hp
    rw [List.mem_singleton.mp hc] at hp
    exact (Option.some.inj ((show settingPath (fun _ a => .ok a) "change_setting=a,1" = some "a"
      from rfl).symm.trans hp)).symm
  have hroot : twoFields.NoRootValidators := fun _ => ⟨rfl, rfl⟩
  have hwalk : ∀ cmd ∈ ["change_setting=a,1"], ∀ field,
      settingPath (fun _ a => .ok a) cmd = some field → twoFields.FieldsOnly (splitPath field) := by
    intro cmd hc field hp
    rw [hpath cmd hc field hp]
    exact fun _ h => nomatch h
  have hq : ∀ cmd ∈ ["change_setting=a,1"], ∀ field,
      settingPath (fun _ a => .ok a) cmd = some field →
        ¬ ["b"] <+: splitPath field ∧ ¬ splitPath field <+: ["b"] := by
    intro cmd hc field hp
    rw [hpath cmd hc field hp]
    decide
  exact ⟨noCommands_keepsSettings, hroot, hwalk, hq, handle_commands_changes_only_named_settings
    twoFields noCommands_keepsSettings hroot _ _ _ _ _ _ hwalk hq⟩

/-- The run sets `a`. -/
example : (handleCommands (handleDeviceCommand twoFields noCommands (fun _ a => .ok a)) (.ok none)
    (.ok ()) ["change_setting=a,1"] (.model "Settings" [("a", .int 0), ("b", .int 0)])).settings =
    .model "Settings" [("a", .int 1), ("b", .int 0)] := by
  have hx : extractCommandWithArgs (fun _ a => .ok a) "change_setting=a,1" =
      .ok ("change_setting", [.str "a", .int 1]) := rfl
  have h := @handleDeviceCommand_change_setting twoFields noCommands (List.not_mem_nil _) _ _ _ _
    hx (.model "Settings" [("a", .int 0), ("b", .int 0)])
  rw [updateModelField_eq_updatePath] at h
  simp only [handleCommands, runCommands_cons, h]
  rfl

/-! ### `change_setting` under a name that `print_settings` lists -/

/-- `change_setting` under a name that `print_settings` lists assigns the field that line shows. -/
theorem change_setting_reaches_printed_field {env : DeviceEnv}
    (hdev : "change_setting" ∉ env.commands .device) (ti : TypeInfo) {cls : String}
    {fields : List (String × PyObj)} (hwf : (PyObj.model cls fields).plainFields = true)
    {p : List Step × PyObj} (hp : p ∈ leavesOfFields cls fields) {names : List String}
    (hn : fieldNames p.1 = some names) (hcomma : ',' ∉ (pathText p.1).toList)
    (convert : String → CmdArg → Except PyError CmdArg) {a : CmdArg} (ha : a.Typed) :
    printedLine ti p.1 p.2 ∈ stringifyModel ti (.model cls fields) ∧
      ∃ pre name parentCls parentFields, names = pre ++ [name] ∧
        (PyObj.model cls fields).fieldAt pre = some (.model parentCls parentFields) ∧
        parentFields.lookup name = some p.2 ∧
        handleDeviceCommand rt env convert (commandLine "change_setting" [.str (pathText p.1), a])
            (.model cls fields) =
          let r := assignField rt (.model parentCls parentFields) name (ExecArg.arg a).toPyObj
          ⟨(PyObj.model cls fields).setAt pre r.1, [], r.2.map fun _ => .int 0⟩ := by
  have hcmd := @extractCommandWithArgs_commandLine convert "change_setting"
    [.str (pathText p.1), a] (by decide) (by decide) (List.cons_ne_nil _ _)
    (List.forall_mem_cons.mpr ⟨hcomma, List.forall_mem_singleton.mpr ha⟩)
  obtain ⟨hsplit, hat⟩ := splitPath_of_mem_leavesOfFields hwf hp hn
  obtain ⟨pre, name, pc, pf, hs, hpre, hl, hupd⟩ :=
    (addressesField_of_fieldAt rt (hsplit ▸ hat)).reaches
  refine ⟨?_, pre, name, pc, pf, hsplit.symm.trans hs, hpre, hl, ?_⟩
  · rw [stringifyModel, recurse_model, recurseFields_eq]
    exact List.mem_map_of_mem _ hp
  · rw [handleDeviceCommand_change_setting rt hdev hcmd, hupd]

def infoName : List Step × PyObj :=
  ([.field "Settings" "info", .field "InfoSettings" "name"], .str "pyatv")

def sampleRuntime : Runtime where
  classOf cls :=
    { fields := (match cls with
        | "Settings" => ["info", "protocols", "extra"]
        | "InfoSettings" => ["name", "model"]
        | "ProtocolSettings" => ["airplay"]
        | "AirPlaySettings" => ["password", "identifier"]
        | _ => []).map fun n => (n, { validate := .ok, default := some .pyNone }) }
  builtinHasAttr _ _ := false

theorem change_setting_reaches_printed_field_info_name :
    ("change_setting" ∉ noCommands.commands .device ∧
      (PyObj.model "Settings" sampleFields).plainFields = true ∧
      infoName ∈ leavesOfFields "Settings" sampleFields ∧
      fieldNames infoName.1 = some ["info", "name"] ∧ ',' ∉ (pathText infoName.1).toList ∧
      (CmdArg.str "atv").Typed) ∧
    (printedLine sampleTypes infoName.1 infoName.2 ∈
        stringifyModel sampleTypes (.model "Settings" sampleFields) ∧
      ∃ pre name parentCls parentFields, ["info", "name"] = pre ++ [name] ∧
        (PyObj.model "Settings" sampleFields).fieldAt pre =
          some (.model parentCls parentFields) ∧
        parentFields.lookup name = some infoName.2 ∧
        handleDeviceCommand sampleRuntime noCommands (fun _ a => .ok a)
            (commandLine "change_setting" [.str (pathText infoName.1), .str "atv"])
            (.model "Settings" sampleFields) =
          let r := assignField sampleRuntime (.model parentCls parentFields) name
            (ExecArg.arg (.str "atv")).toPyObj
          ⟨(PyObj.model "Settings" sampleFields).setAt pre r.1, [], r.2.map fun _ => .int 0⟩) :=
  have hdev : "change_setting" ∉ noCommands.commands .device := List.not_mem_nil _
  have hwf : (PyObj.model "Settings" sampleFields).plainFields = true := by decide
  have hp : infoName ∈ leavesOfFields "Settings" sampleFields := List.Mem.head _
  have hn : fieldNames infoName.1 = some ["info", "name"] := rfl
  have hcomma : ',' ∉ (pathText infoName.1).toList := by decide
  have ha : (CmdArg.str "atv").Typed := by decide
  ⟨⟨hdev, hwf, hp, hn, hcomma, ha⟩,
    change_setting_reaches_printed_field sampleRuntime hdev sampleTypes hwf hp hn hcomma _ ha⟩

/-- The last step on the sample's `info`: it returns, with `name` holding the new value. -/
example :
    assignField sampleRuntime (.model "InfoSettings" [("name", .str "pyatv"), ("model", .pyNone)])
      "name" (.str "atv") =
    (.model "InfoSettings" [("name", .str "atv"), ("model", .pyNone)], .ok ()) := rfl

/-! ### `DeviceCommands.cli` -/

/-- The loop of `DeviceCommands.cli` after its greeting; `fuel` bounds the lines read. -/
def cliLoop (handle : String → PyObj → Outcome) : Nat → List String → PyObj → Option Outcome
  | 0, _, _ => none
  | fuel + 1, lines, settings =>
    let command := String.mk (pyStrip (lines.headD "").toList)
    let prompt := CmdLog.text "pyatv> "
    if command.toList.map Char.toLower = "exit".toList then some ⟨settings, [prompt], .ok .pyNone⟩
    else if command = "cli" then
      (cliLoop handle fuel lines.tail settings).map fun r =>
        { r with logs := prompt :: .text "Command not available here" :: r.logs }
    else
      let r := handle command settings
      match r.result with
      | .error e => some ⟨r.settings, prompt :: r.logs, .error e⟩
      | .ok _ =>
        (cliLoop handle fuel lines.tail r.settings).map fun r' =>
          { r' with logs := prompt :: r.logs ++ r'.logs }

def cli (env : DeviceEnv) (convert : String → CmdArg → Except PyError CmdArg) (fuel : Nat)
    (lines : List String) (settings : PyObj) : Option Outcome :=
  let greeting :=
    [CmdLog.text "Enter commands and press enter", .text "Type help for help and exit to quit"]
  (cliLoop (handleDeviceCommand rt env convert) fuel lines settings).map fun r =>
    { r with logs := greeting ++ r.logs }

theorem cliLoop_end_of_input (handle : String → PyObj → Outcome)
    (h : ∀ s, ∃ v, (handle "" s).result = .ok v) :
    ∀ fuel settings, cliLoop handle fuel [] settings = none := by
  intro fuel
  induction fuel with
  | zero => exact fun _ => rfl
  | succ fuel ih =>
    intro settings
    obtain ⟨v, hv⟩ := h settings
    have hs : String.mk (pyStrip ("" : String).toList) = "" := rfl
    have he : ("" : String).toList.map Char.toLower ≠ "exit".toList := by decide
    have hc : ("" : String) ≠ "cli" := by decide
    simp only [cliLoop, List.headD_nil, hs, he, hc, if_false, hv, List.tail_nil, ih,
      Option.map_none']

/-- What the loop does with the lines before an `exit`. -/
def cliUntilExit (handle : String → PyObj → Outcome) : List String → PyObj → Outcome
  | [], settings => ⟨settings, [.text "pyatv> "], .ok .pyNone⟩
  | line :: rest, settings =>
    let command := String.mk (pyStrip line.toList)
    let prompt := CmdLog.text "pyatv> "
    if command = "cli" then
      let r := cliUntilExit handle rest settings
      { r with logs := prompt :: .text "Command not available here" :: r.logs }
    else
      let r := handle command settings
      match r.result with
      | .error e => ⟨r.settings, prompt :: r.logs, .error e⟩
      | .ok _ =>
        let r' := cliUntilExit handle rest r.settings
        { r' with logs := prompt :: r.logs ++ r'.logs }

theorem cliLoop_exit (handle : String → PyObj → Outcome) (exitLine : String) (post : List String)
    (hexit : (pyStrip exitLine.toList).map Char.toLower = "exit".toList) :
    ∀ pre, (∀ l ∈ pre, (pyStrip l.toList).map Char.toLower ≠ "exit".toList) →
      ∀ fuel settings, pre.length < fuel →
        cliLoop handle fuel (pre ++ exitLine :: post) settings =
          some (cliUntilExit handle pre settings)
  | [], _, fuel + 1, settings, _ => by
    simp only [cliLoop, List.nil_append, List.headD_cons, string_toList_mk, hexit, if_true]
    rfl
  | line :: pre, hpre, fuel + 1, settings, hf => by
    have hl := hpre line (List.mem_cons_self _ _)
    have ih := cliLoop_exit handle exitLine post hexit pre
      (fun l hm => hpre l (List.mem_cons_of_mem _ hm)) fuel
    simp only [cliLoop, cliUntilExit, List.cons_append, List.headD_cons, List.tail_cons,
      string_toList_mk, hl, if_false]
    split
    · rw [ih _ (Nat.lt_of_succ_lt_succ hf)]; rfl
    split
    · rfl
    · rw [ih _ (Nat.lt_of_succ_lt_succ hf)]; rfl

theorem handleDeviceCommand_empty (env : DeviceEnv)
    (convert : String → CmdArg → Except PyError CmdArg) (h : ∀ t, "" ∉ env.commands t)
    (settings : PyObj) :
    handleDeviceCommand rt env convert "" settings =
      ⟨settings, [.error "Unknown command: "], .ok (.int 1)⟩ :=
  @handleDeviceCommand_unknown rt env convert "" "" [] rfl
    (fun t => by cases t <;> first | exact h _ | exact (by decide : "" ∉ settingsCommands)) settings

/-- `DeviceCommands.cli` returns at the first `exit`, and never at the end of input. -/
theorem cli_returns_only_at_exit (env : DeviceEnv)
    (convert : String → CmdArg → Except PyError CmdArg) (h : ∀ t, "" ∉ env.commands t)
    (settings : PyObj) :
    (∀ fuel, cli rt env convert fuel [] settings = none) ∧
    ∀ pre exitLine post fuel, (pyStrip exitLine.toList).map Char.toLower = "exit".toList →
      (∀ l ∈ pre, (pyStrip l.toList).map Char.toLower ≠ "exit".toList) → pre.length < fuel →
      cli rt env convert fuel (pre ++ exitLine :: post) settings =
        some (let r := cliUntilExit (handleDeviceCommand rt env convert) pre settings
          { r with logs := [.text "Enter commands and press enter",
            .text "Type help for help and exit to quit"] ++ r.logs }) := by
  refine ⟨fun fuel => ?_, fun pre exitLine post fuel hexit hpre hf => ?_⟩
  · have hempty s : ∃ v, (handleDeviceCommand rt env convert "" s).result = .ok v :=
      ⟨_, by rw [handleDeviceCommand_empty rt env convert h]⟩
    rw [cli, cliLoop_end_of_input _ hempty]
    rfl
  · rw [cli, cliLoop_exit _ exitLine post hexit pre hpre fuel settings hf]
    rfl

theorem cli_returns_only_at_exit_no_commands :
    (∀ t, "" ∉ noCommands.commands t) ∧
    (∀ fuel, cli twoFields noCommands (fun _ a => .ok a) fuel [] .pyNone = none) ∧
    ∀ pre exitLine post fuel, (pyStrip exitLine.toList).map Char.toLower = "exit".toList →
      (∀ l ∈ pre, (pyStrip l.toList).map Char.toLower ≠ "exit".toList) → pre.length < fuel →
      cli twoFields noCommands (fun _ a => .ok a) fuel (pre ++ exitLine :: post) .pyNone =
        some (let handle := handleDeviceCommand twoFields noCommands (fun _ a => .ok a)
          let r := cliUntilExit handle pre .pyNone
          { r with logs := [.text "Enter commands and press enter",
            .text "Type help for help and exit to quit"] ++ r.logs }) :=
  have h : ∀ t, "" ∉ noCommands.commands t := fun _ => List.not_mem_nil _
  ⟨h, cli_returns_only_at_exit twoFields noCommands _ h .pyNone⟩

end Pyatv.Scripts
