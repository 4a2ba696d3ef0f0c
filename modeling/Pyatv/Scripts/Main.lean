import Pyatv.Scripts.Atvremote
import Pyatv.Scripts.Commands
import Pyatv.Scripts.Wizard
import Pyatv.Support.Helpers

namespace Pyatv.Scripts

open Pyatv.Support

/-- The arguments `cli_handler` and the functions it calls read. -/
structure CliArgs (Hosts Protocols : Type) where
  command : List String
  id : Option String
  idIsList : Bool
  name : Option String
  address : Option String
  protocol : Option Protocol
  port : Nat
  scanTimeout : Nat
  scanHosts : Option Hosts
  scanProtocols : Option Protocols
  manual : Bool
  serviceProperties : String
  /-- `args.<protocol>_credentials`, by protocol. -/
  credentials : Protocol → Option String
  /-- `args.<protocol>_password`, by protocol; the parser declares it for AirPlay and RAOP. -/
  password : Protocol → Option String
  verbose : Bool
  debug : Bool
  remoteName : String
  pairingGuid : Option String
  /-- `args.pin_code`, which `_in_range(0, 9999, allow_none=True)` checked -/
  pinCode : Option Int

variable {Hosts Protocols : Type}

def CliArgs.toAutodiscover (args : CliArgs Hosts Protocols) :
    AutodiscoverArgs String Hosts Protocols where
  scan := ⟨args.name, args.id, args.scanHosts⟩
  scanTimeout := args.scanTimeout
  scanProtocols := args.scanProtocols
  credentials := args.credentials
  password := args.password

def CliArgs.toManual (args : CliArgs Hosts Protocols) (address : String) (protocol : Protocol) :
    ManualArgs where
  address := address
  name := args.name
  id := args.id
  protocol := protocol
  port := args.port
  serviceProperties := args.serviceProperties
  credentials := args.credentials
  airplayPassword := args.password .AirPlay
  raopPassword := args.password .RAOP

def CliArgs.manualTarget (args : CliArgs Hosts Protocols) : Option (String × Protocol) :=
  if args.port = 0 then none
  else
    match args.address, args.protocol with
    | some address, some protocol => some (address, protocol)
    | _, _ => none

def infoLevel : Nat := 20

def warningLevel : Nat := 30

def logLevel (args : CliArgs Hosts Protocols) : Nat :=
  let level := warningLevel
  let level := if args.verbose then infoLevel else level
  if args.debug then debugLevel else level

inductive DeviceConf where
  | found (d : FoundDevice)
  | manual (c : AppleTVConf)

structure Connected where
  env : DeviceEnv
  settings : PyObj
  /-- `atv.features.in_state(FeatureState.Available, FeatureName.PushUpdates)` -/
  pushUpdates : Except PyError Bool
  /-- what `atv.close()` gives: how many tasks, `none` for `None`, or what it raised -/
  closed : Except PyError (Option Nat)
  /-- how `asyncio.wait_for` of those tasks ends -/
  wait : Except PyError Unit

/-- What `cli_handler` calls outside the model. -/
structure MainEnv (Hosts Protocols : Type) where
  rt : Runtime
  convert : String → CmdArg → Except PyError CmdArg
  /-- `parser.parse_args()`: the arguments, or `SystemExit` for a usage error, `--help` or
  `--version` -/
  parse : Except PyError (CliArgs Hosts Protocols)
  load : Except PyError Unit
  save : Except PyError Unit
  scan : ScanOptions String Hosts Protocols → List FoundDevice
  connect : DeviceConf → Except PyError Connected
  /-- a method of `GlobalCommands` called with no argument: what it writes, and its value or what
  it raised -/
  runGlobal : String → List GlobalLog × Except PyError PyObj

inductive MainLog where
  /-- `parser.error(msg)`: the usage and the message on standard error. -/
  | usageError (msg : String)
  /-- `logging.basicConfig(level=...)` -/
  | logging (level : Nat)
  /-- the call `await storage.load()` -/
  | load
  | global (l : GlobalLog)
  | scan (l : ScanLog FoundDevice)
  | out (s : String)
  | error (msg : String)
  | command (l : CmdLog)
  /-- the call `await storage.save()` -/
  | save
  /-- `traceback.print_exc(file=sys.stderr)` and the line after it -/
  | traceback

/-- What `parser.error` raises: `SystemExit(2)`. -/
def usageExit : PyError := .raised "SystemExit" "2"

def globalCommands : List String := ["commands", "help", "scan", "pair", "wizard"]

/-- `_handle_commands`: connect, note when push updates are not supported, then the loop. -/
def handleCommandsRun (env : MainEnv Hosts Protocols) (commands : List String)
    (conf : DeviceConf) : List MainLog × Except PyError PyObj :=
  match env.connect conf with
  | .error e => ([], .error e)
  | .ok atv =>
    match atv.pushUpdates with
    | .error e => ([], .error e)
    | .ok push =>
      let note := if push then []
        else [MainLog.out "NOTE: Push updates are not supported in this configuration"]
      let r := handleCommands (handleDeviceCommand env.rt atv.env env.convert) atv.closed atv.wait
        commands atv.settings
      (note ++ r.logs.map .command, r.result)

/-- The `try` block of `cli_handler`. -/
def cliCommands (env : MainEnv Hosts Protocols) (args : CliArgs Hosts Protocols) :
    List MainLog × Except PyError PyObj :=
  match args.command with
  | [] => ([], .error (.indexError "list index out of range"))
  | first :: _ =>
    if first ∈ globalCommands then
      let r := env.runGlobal first
      let h := execResult env.rt.exceptions first false r.2
      (r.1.map .global ++ h.1.map .command, h.2)
    else if !args.manual then
      let d := autodiscoverDevice env.scan args.toAutodiscover
      match d.2 with
      | .error e => (d.1.map .scan, .error e)
      | .ok none => (d.1.map .scan, .ok (.int 1))
      | .ok (some conf) =>
        let h := handleCommandsRun env args.command (.found conf)
        (d.1.map .scan ++ h.1, h.2)
    else
      match args.manualTarget with
      | none => ([.error "You must specify address, port and protocol in manual mode"], .ok (.int 1))
      | some (address, protocol) =>
        match manualDevice (args.toManual address protocol) with
        | .error e => ([], .error e)
        | .ok conf => handleCommandsRun env args.command (.manual conf)

/-- `cli_handler` from `parser.parse_args()` on. -/
def cliHandler (env : MainEnv Hosts Protocols) : List MainLog × Except PyError PyObj :=
  match env.parse with
  | .error e => ([], .error e)
  | .ok args =>
    if args.manual && args.idIsList then
      ([.usageError "--manual only supports one identifier to --id"], .error usageExit)
    else if !args.manual && args.serviceProperties != "" then
      ([.usageError "--service-properties only allowed with --manual"], .error usageExit)
    else
      let loading := [MainLog.logging (logLevel args), .load]
      match env.load with
      | .error e => (loading, .error e)
      | .ok () =>
        let r := cliCommands env args
        (loading ++ r.1 ++ [.save],
          match env.save with
          | .error e => .error e
          | .ok () => r.2)

def runApplication (classes : Hierarchy) (r : List MainLog × Except PyError PyObj) :
    List MainLog × Except PyError PyObj :=
  match r.2 with
  | .ok v => (r.1, .ok v)
  | .error e =>
    if classes.isSubclass e.cls "KeyboardInterrupt" || classes.isSubclass e.cls "SystemExit" then
      (r.1, .ok (.int 1))
    else if e.isException classes then (r.1 ++ [.traceback], .ok (.int 1))
    else (r.1, .error e)

/-- `appstart`, whose value `main` gives `sys.exit`. -/
def appstart (env : MainEnv Hosts Protocols) : List MainLog × Except PyError PyObj :=
  runApplication env.rt.exceptions (cliHandler env)

/-- An exception that none of `_run_application`'s handlers catches. -/
def Escapes (classes : Hierarchy) (e : PyError) : Prop :=
  classes.isSubclass e.cls "KeyboardInterrupt" = false ∧
    classes.isSubclass e.cls "SystemExit" = false ∧ e.isException classes = false

theorem runApplication_ok (classes : Hierarchy) {r : List MainLog × Except PyError PyObj}
    {v : PyObj} (h : r.2 = .ok v) : (runApplication classes r).2 = .ok v := by
  rw [runApplication, h]

theorem runApplication_error (classes : Hierarchy) {r : List MainLog × Except PyError PyObj}
    {e : PyError} (h : r.2 = .error e) :
    (runApplication classes r).2 = .ok (.int 1) ∨
      ((runApplication classes r).2 = .error e ∧ Escapes classes e) := by
  rw [runApplication, h]
  dsimp only
  split_ifs with h1 h2
  · exact .inl rfl
  · exact .inl rfl
  · simp only [Bool.or_eq_true, not_or, Bool.not_eq_true] at h1
    exact .inr ⟨rfl, h1.1, h1.2, Bool.eq_false_iff.mpr h2⟩

/-! ### The exit status of a run -/

/-- The devices `connect` gives are `FacadeAppleTV`s of `facade.py`. -/
def MainEnv.ConnectsFacades (env : MainEnv Hosts Protocols) : Prop :=
  ∀ conf atv, env.connect conf = .ok atv →
    ∃ (F R I S : Type) (run : R → Except PyError Unit) (a : Facade.FacadeAppleTV F R I S),
      atv.closed = facadeClosed run a

def OneOrRaises (r : Except PyError PyObj) : Prop :=
  r = .ok (.int 1) ∨ ∃ e, r = .error e

theorem handleCommands_facadeClosed_raises {F R I S : Type} (handle : String → PyObj → Outcome)
    (run : R → Except PyError Unit) (a : Facade.FacadeAppleTV F R I S)
    (wait : Except PyError Unit) (commands : List String) (settings : PyObj) :
    ∃ e, (handleCommands handle (facadeClosed run a) wait commands settings).result = .error e := by
  unfold handleCommands facadeClosed
  cases (Facade.close run a).2 <;> exact ⟨_, rfl⟩

theorem execResult_error_one_or_raises (classes : Hierarchy) (command : String) (e : PyError) :
    OneOrRaises (execResult classes command false (.error e)).2 := by
  simp only [execResult]
  split_ifs
  exacts [.inl rfl, .inl rfl, .inr ⟨e, rfl⟩]

section Facades

variable {env : MainEnv Hosts Protocols} (hf : env.ConnectsFacades)
include hf

/-- On a `FacadeAppleTV`, `_handle_commands` always raises. -/
theorem handleCommandsRun_raises (commands : List String) (conf : DeviceConf) :
    ∃ e, (handleCommandsRun env commands conf).2 = .error e := by
  unfold handleCommandsRun
  cases hc : env.connect conf with
  | error e => exact ⟨e, rfl⟩
  | ok atv =>
    obtain ⟨F, R, I, S, run, a, hclosed⟩ := hf conf atv hc
    dsimp only
    cases atv.pushUpdates with
    | error e => exact ⟨e, rfl⟩
    | ok push =>
      dsimp only
      rw [hclosed]
      exact handleCommands_facadeClosed_raises _ run a _ _ _

theorem cliCommands_one_or_raises (args : CliArgs Hosts Protocols)
    (hg : ∀ first rest, args.command = first :: rest → first ∉ globalCommands) :
    OneOrRaises (cliCommands env args).2 := by
  unfold cliCommands
  split
  next => exact .inr ⟨_, rfl⟩
  next first rest hcmd =>
  rw [if_neg (hg first rest hcmd)]
  split
  · dsimp only
    split
    next e _ => exact .inr ⟨e, rfl⟩
    next => exact .inl rfl
    next conf _ => exact .inr (handleCommandsRun_raises hf _ _)
  · split
    next => exact .inl rfl
    next =>
      split
      next e _ => exact .inr ⟨e, rfl⟩
      next conf _ => exact .inr (handleCommandsRun_raises hf _ _)

theorem cliHandler_result :
    OneOrRaises (cliHandler env).2 ∨
      ∃ args first rest v, env.parse = .ok args ∧ args.command = first :: rest ∧
        first ∈ globalCommands ∧ (env.runGlobal first).2 = .ok v ∧ env.save = .ok () ∧
        (cliHandler env).2 = .ok v := by
  unfold cliHandler
  cases hp : env.parse with
  | error e => exact .inl (.inr ⟨e, rfl⟩)
  | ok args =>
  dsimp only
  split_ifs
  · exact .inl (.inr ⟨_, rfl⟩)
  · exact .inl (.inr ⟨_, rfl⟩)
  cases env.load with
  | error e => exact .inl (.inr ⟨e, rfl⟩)
  | ok u =>
  dsimp only
  cases hs : env.save with
  | error e => exact .inl (.inr ⟨e, rfl⟩)
  | ok u =>
  dsimp only
  by_cases hg : ∃ first rest, args.command = first :: rest ∧ first ∈ globalCommands
  · obtain ⟨first, rest, hc, hmem⟩ := hg
    have hcmd : (cliCommands env args).2 =
        (execResult env.rt.exceptions first false (env.runGlobal first).2).2 := by
      unfold cliCommands
      rw [hc]
      exact congrArg Prod.snd (if_pos hmem)
    rw [hcmd]
    cases hr : (env.runGlobal first).2 with
    | ok v => exact .inr ⟨args, first, rest, v, rfl, hc, hmem, hr, rfl, rfl⟩
    | error e => exact .inl (execResult_error_one_or_raises _ first e)
  · exact .inl (cliCommands_one_or_raises hf args fun first rest hc hmem => hg ⟨first, rest, hc, hmem⟩)

end Facades

/-- Against `FacadeAppleTV`s, `atvremote` exits with `1` unless a global command ran. -/
theorem atvremote_exit_status (env : MainEnv Hosts Protocols) (hf : env.ConnectsFacades) :
    (appstart env).2 = .ok (.int 1) ∨
      (∃ e, (appstart env).2 = .error e ∧ Escapes env.rt.exceptions e) ∨
      ∃ args first rest v, env.parse = .ok args ∧ args.command = first :: rest ∧
        first ∈ globalCommands ∧ (env.runGlobal first).2 = .ok v ∧ env.save = .ok () ∧
        (appstart env).2 = .ok v := by
  rcases cliHandler_result hf with (h | ⟨e, h⟩) | ⟨args, first, rest, v, hp, hc, hg, hr, hs, h⟩
  · exact .inl (runApplication_ok _ h)
  · rcases runApplication_error _ h with h' | h'
    exacts [.inl h', .inr (.inl ⟨e, h'⟩)]
  · exact .inr (.inr ⟨args, first, rest, v, hp, hc, hg, hr, hs, runApplication_ok _ h⟩)

def emptyFacade : Facade.FacadeAppleTV Unit Unit Unit Unit := ⟨fun _ => none, PyDict.empty, PyDict.empty⟩

def playArgs : CliArgs Unit Unit :=
  { command := ["play"], id := none, idIsList := false, name := some "Living Room",
    address := none, protocol := none, port := 0, scanTimeout := 3, scanHosts := none,
    scanProtocols := none, manual := false, serviceProperties := "",
    credentials := fun _ => none, password := fun _ => none, verbose := false, debug := false,
    remoteName := "pyatv", pairingGuid := none, pinCode := some 1234 }

def playRun : MainEnv Unit Unit where
  rt := twoFields
  convert _ a := .ok a
  parse := .ok playArgs
  load := .ok ()
  save := .ok ()
  scan _ := [⟨"Living Room", "10.0.0.2", PyDict.empty⟩]
  connect _ := .ok ⟨noCommands, .pyNone, .ok true, facadeClosed (fun _ => .ok ()) emptyFacade, .ok ()⟩
  runGlobal _ := ([], .ok (.int 0))

theorem atvremote_exit_status_play :
    playRun.ConnectsFacades ∧ (appstart playRun).2 = .ok (.int 1) ∧
    ((appstart playRun).2 = .ok (.int 1) ∨
      (∃ e, (appstart playRun).2 = .error e ∧ Escapes playRun.rt.exceptions e) ∨
      ∃ args first rest v, playRun.parse = .ok args ∧ args.command = first :: rest ∧
        first ∈ globalCommands ∧ (playRun.runGlobal first).2 = .ok v ∧ playRun.save = .ok () ∧
        (appstart playRun).2 = .ok v) :=
  have hf : playRun.ConnectsFacades := by
    rintro conf atv ⟨⟩
    exact ⟨Unit, Unit, Unit, Unit, fun _ => .ok (), emptyFacade, rfl⟩
  ⟨hf, rfl, atvremote_exit_status playRun hf⟩

/-! ### The storage -/

def pyStrOpt : Option String → String
  | some s => s
  | none => "None"

def performPairing (remoteName : String) (pinCode : Option Int) (run : PairingRun)
    (lines : List String) : List GlobalLog × Except PyError Unit :=
  match run.begin with
  | .error e => ([], .error e)
  | .ok providesPin =>
    let asked : List GlobalLog × Pin :=
      if providesPin then ([.out "Enter PIN on screen: "], .text (readInput lines).1)
      else
        ([.out (match pinCode with
          | none => s!"Use any pin to pair with \"{remoteName}\" (press ENTER to stop)"
          | some pin => s!"Use pin {pin} to pair with \"{remoteName}\" (press ENTER to stop)")],
          .code pinCode)
    match run.finish asked.2 with
    | .error e => (asked.1, .error e)
    | .ok (paired, credentials) =>
      if paired then
        (asked.1 ++ [.out "Pairing seems to have succeeded, yey!",
          .out s!"You may now use these credentials: {pyStrOpt credentials}"], .ok ())
      else (asked.1 ++ [.out "Pairing failed!"], .ok ())

/-- `_manual_device(args)` as `pair` calls it: `IPv4Address(None)` reads `str(None)`. -/
def manualConf (args : CliArgs Hosts Protocols) (protocol : Protocol) :
    Except PyError AppleTVConf :=
  manualDevice (args.toManual (pyStrOpt args.address) protocol)

def pairOptions (args : CliArgs Hosts Protocols) (protocol : Protocol) :
    List (String × Option String) :=
  ("name", some args.remoteName) ::
    if protocol = .DMAP then [("pairing_guid", args.pairingGuid)] else []

structure PairEnv (Hosts Protocols : Type) where
  scan : ScanOptions String Hosts Protocols → List FoundDevice
  pair : DeviceConf → List (Protocol × Option String) → Protocol → List (String × Option String) →
    Except PyError (PairingRun × Except PyError Unit)
  exceptions : Hierarchy := .byName

def pairConf (env : PairEnv Hosts Protocols) (args : CliArgs Hosts Protocols) (protocol : Protocol) :
    List MainLog × Except PyError (Option DeviceConf) :=
  if args.manual then ([], (manualConf args protocol).map fun c => some (.manual c))
  else
    let r := scanForDevice env.scan FoundDevice.name args.toAutodiscover.scan args.scanTimeout none
    (r.1.map .scan, r.2.map fun d => d.map .found)

def globalPair (env : PairEnv Hosts Protocols) (args : CliArgs Hosts Protocols)
    (lines : List String) : List MainLog × Except PyError PyObj :=
  match args.protocol with
  | none => ([.error "No protocol specified"], .ok (.int 1))
  | some protocol =>
    let found := pairConf env args protocol
    match found.2 with
    | .error e => (found.1, .error e)
    | .ok none => (found.1, .ok (.int 2))
    | .ok (some conf) =>
      match env.pair conf (Protocol.all.map fun p => (p, args.credentials p)) protocol
          (pairOptions args protocol) with
      | .error e => (found.1, .error e)
      | .ok (run, close) =>
        let p := performPairing args.remoteName args.pinCode run lines
        let tried : List MainLog × Except PyError PyObj :=
          match p.2 with
          | .ok () => (p.1.map .global, .ok (.int 0))
          | .error e =>
            if e.isException env.exceptions then
              (p.1.map .global ++ [.global (.exception "Pairing failed")], .ok (.int 3))
            else (p.1.map .global, .error e)
        (found.1 ++ tried.1,
          match close with
          | .error e => .error e
          | .ok () => tried.2)

theorem performPairing_ok_iff (remoteName : String) (pinCode : Option Int) (run : PairingRun)
    (lines : List String) :
    (performPairing remoteName pinCode run lines).2 = .ok () ↔
      ∃ providesPin, run.begin = .ok providesPin ∧ ∃ paired credentials,
        run.finish (if providesPin then .text (readInput lines).1 else .code pinCode) =
          .ok (paired, credentials) := by
  unfold performPairing
  cases hb : run.begin with
  | error e => exact ⟨(fun h => nomatch h), fun ⟨_, h, _⟩ => nomatch h⟩
  | ok providesPin =>
  dsimp only
  have hpin : ∀ {α : Type} (a b : α) (x y : Pin), (if providesPin then (a, x) else (b, y)).2 =
      if providesPin then x else y := fun _ _ _ _ => by split <;> rfl
  rw [hpin]
  cases hf : run.finish (if providesPin then .text (readInput lines).1 else .code pinCode) with
  | error e =>
    refine ⟨(fun h => nomatch h), fun ⟨_, hb', _, _, h⟩ => ?_⟩
    cases hb'
    rw [hf] at h
    cases h
  | ok r =>
    refine ⟨fun _ => ⟨providesPin, rfl, r.1, r.2, hf⟩, fun _ => ?_⟩
    dsimp only
    split_ifs <;> rfl

/-- The inversion lemma of `pair`: the outcome of each of its steps. -/
theorem globalPair_cases (env : PairEnv Hosts Protocols) (args : CliArgs Hosts Protocols)
    (lines : List String) :
    (args.protocol = none ∧ (globalPair env args lines).2 = .ok (.int 1)) ∨
    (∃ protocol, args.protocol = some protocol ∧ (pairConf env args protocol).2 = .ok none ∧
      (globalPair env args lines).2 = .ok (.int 2)) ∨
    (∃ e, (globalPair env args lines).2 = .error e) ∨
    ∃ protocol conf run, args.protocol = some protocol ∧
      (pairConf env args protocol).2 = .ok (some conf) ∧
      env.pair conf (Protocol.all.map fun p => (p, args.credentials p)) protocol
        (pairOptions args protocol) = .ok (run, .ok ()) ∧
      (((performPairing args.remoteName args.pinCode run lines).2 = .ok () ∧
          (globalPair env args lines).2 = .ok (.int 0)) ∨
        ((∃ e, (performPairing args.remoteName args.pinCode run lines).2 = .error e) ∧
          (globalPair env args lines).2 = .ok (.int 3))) := by
  unfold globalPair
  cases hp : args.protocol with
  | none => exact .inl ⟨rfl, rfl⟩
  | some protocol =>
  dsimp only
  cases hc : (pairConf env args protocol).2 with
  | error e => exact .inr (.inr (.inl ⟨e, rfl⟩))
  | ok oc =>
  cases oc with
  | none => exact .inr (.inl ⟨protocol, rfl, hc, rfl⟩)
  | some conf =>
  dsimp only
  cases hq : env.pair conf (Protocol.all.map fun p => (p, args.credentials p)) protocol
      (pairOptions args protocol) with
  | error e => exact .inr (.inr (.inl ⟨e, rfl⟩))
  | ok q =>
  obtain ⟨run, close⟩ := q
  cases close with
  | error e => exact .inr (.inr (.inl ⟨e, rfl⟩))
  | ok u =>
  dsimp only
  cases hr : (performPairing args.remoteName args.pinCode run lines).2 with
  | ok u' => exact .inr (.inr (.inr ⟨protocol, conf, run, rfl, hc, hq, .inl ⟨hr, rfl⟩⟩))
  | error e =>
    dsimp only
    split_ifs
    · exact .inr (.inr (.inr ⟨protocol, conf, run, rfl, hc, hq, .inr ⟨⟨e, hr⟩, rfl⟩⟩))
    · exact .inr (.inr (.inl ⟨e, rfl⟩))

/-- `atvremote pair` gives `0` to `3` or raises, and `0` also when the device did not pair. -/
theorem pair_exit_status (env : PairEnv Hosts Protocols) (args : CliArgs Hosts Protocols)
    (lines : List String) :
    (∀ v, (globalPair env args lines).2 = .ok v →
      v = .int 0 ∨ v = .int 1 ∨ v = .int 2 ∨ v = .int 3) ∧
    ((globalPair env args lines).2 = .ok (.int 0) ↔
      ∃ protocol conf run, args.protocol = some protocol ∧
        (pairConf env args protocol).2 = .ok (some conf) ∧
        env.pair conf (Protocol.all.map fun p => (p, args.credentials p)) protocol
          (pairOptions args protocol) = .ok (run, .ok ()) ∧
        (performPairing args.remoteName args.pinCode run lines).2 = .ok ()) ∧
    ∀ run, (performPairing args.remoteName args.pinCode run lines).2 = .ok () ↔
      ∃ providesPin, run.begin = .ok providesPin ∧ ∃ paired credentials,
        run.finish (if providesPin then .text (readInput lines).1 else .code args.pinCode) =
          .ok (paired, credentials) := by
  refine ⟨fun v h => ?_, ⟨fun h => ?_, fun h => ?_⟩, fun run => performPairing_ok_iff _ _ run lines⟩
  · rcases globalPair_cases env args lines with ⟨-, h'⟩ | ⟨-, -, -, h'⟩ | ⟨e, h'⟩ |
      ⟨-, -, -, -, -, -, ⟨-, h'⟩ | ⟨-, h'⟩⟩ <;> rw [h'] at h <;> cases h
    exacts [.inr (.inl rfl), .inr (.inr (.inl rfl)), .inl rfl, .inr (.inr (.inr rfl))]
  · rcases globalPair_cases env args lines with ⟨-, h'⟩ | ⟨-, -, -, h'⟩ | ⟨e, h'⟩ |
      ⟨protocol, conf, run, hp, hc, hq, ⟨hr, -⟩ | ⟨-, h'⟩⟩
    all_goals first
      | exact ⟨protocol, conf, run, hp, hc, hq, hr⟩
      | (rw [h'] at h; cases h)
  · obtain ⟨protocol, conf, run, hp, hc, hq, hr⟩ := h
    unfold globalPair
    simp only [hp, hc, hq, hr]

def unpairedRun : PairEnv Unit Unit where
  scan _ := [⟨"Living Room", "10.0.0.2", PyDict.empty⟩]
  pair _ _ _ _ := .ok (⟨.ok false, fun _ => .ok (false, none)⟩, .ok ())

example : globalPair unpairedRun { playArgs with command := ["pair"], protocol := some .MRP } [] =
    ([.global (.out "Use pin 1234 to pair with \"pyatv\" (press ENTER to stop)"),
      .global (.out "Pairing failed!")], .ok (.int 0)) := rfl

end Pyatv.Scripts
