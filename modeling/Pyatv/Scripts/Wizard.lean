import Pyatv.Basic
import Mathlib.Data.List.Forall2
import Mathlib.Data.List.Infix

namespace Pyatv

def Protocol.pyStr (p : Protocol) : String := s!"Protocol.{p.name}"

namespace Scripts

inductive GlobalLog where
  | out (s : String)
  | err (s : String)
  | table (rows : List (List String))
  | exception (msg : String)
  deriving DecidableEq, Repr

def stripLine (line : String) : String := String.mk (pyStrip line.toList)

/-- `_read_input(loop, prompt)` after its prompt; at the end of input `readline` gives `""`. -/
def readInput (lines : List String) : String × List String :=
  (stripLine (lines.headD ""), lines.tail)

/-! ### The device prompt of `wizard` -/

def devicePrompt : GlobalLog := .out "Enter index of device to set up (q to quit): "

/-- What the device prompt makes of a line: quit, a device, or a refusal. -/
def deviceChoice (count : Nat) (line : String) : Option (Option Nat) :=
  if line = "q" then some none
  else
    match pyInt line with
    | .ok i => if 0 ≤ i - 1 ∧ i - 1 < count then some (some (i - 1).toNat) else none
    | .error _ => none

/-- The loop of `wizard` that reads lines until one decides. -/
def chooseDevice (count : Nat) : Nat → List String →
    Option (List GlobalLog × Option Nat × List String)
  | 0, _ => none
  | fuel + 1, lines =>
    let r := readInput lines
    match deviceChoice count r.1 with
    | some c => some ([devicePrompt], c, r.2)
    | none => (chooseDevice count fuel r.2).map fun c =>
        (devicePrompt :: .err s!"Not a valid device: {r.1}" :: c.1, c.2)

def refusals (pre : List String) : List GlobalLog :=
  pre.flatMap fun l => [devicePrompt, .err s!"Not a valid device: {stripLine l}"]

theorem deviceChoice_empty (count : Nat) : deviceChoice count "" = none := rfl

theorem deviceChoice_lt {count : Nat} {line : String} {i : Nat}
    (h : deviceChoice count line = some (some i)) : i < count := by
  unfold deviceChoice at h
  split_ifs at h
  · cases h
  split at h
  · split_ifs at h with hi
    cases h
    omega
  · cases h

theorem deviceChoice_toString {count k : Nat} (hk : k < count) :
    deviceChoice count (toString (k + 1)) = some (some k) := by
  have hint : pyInt (toString (k + 1)) = .ok ((k + 1 : Nat) : Int) :=
    pyInt_toString ((k + 1 : Nat) : Int)
  have hq : toString (k + 1) ≠ "q" := fun h => by
    rw [h] at hint
    cases hint
  have hr : 0 ≤ ((k + 1 : Nat) : Int) - 1 ∧ ((k + 1 : Nat) : Int) - 1 < count := by omega
  simp only [deviceChoice, if_neg hq, hint, if_pos hr]
  congr
  omega

theorem chooseDevice_cons (count fuel : Nat) (l : String) (ls : List String) :
    chooseDevice count (fuel + 1) (l :: ls) =
      match deviceChoice count (stripLine l) with
      | some c => some ([devicePrompt], c, ls)
      | none => (chooseDevice count fuel ls).map fun c =>
          (devicePrompt :: .err s!"Not a valid device: {stripLine l}" :: c.1, c.2) := rfl

theorem chooseDevice_eq_some {count : Nat} :
    ∀ {fuel : Nat} {lines : List String} {r : List GlobalLog × Option Nat × List String},
      chooseDevice count fuel lines = some r →
      ∃ pre line, lines = pre ++ line :: r.2.2 ∧
        (∀ l ∈ pre, deviceChoice count (stripLine l) = none) ∧
        deviceChoice count (stripLine line) = some r.2.1 ∧ r.1 = refusals pre ++ [devicePrompt]
  | 0, _, _, h => by cases h
  | fuel + 1, [], r, h => by
    obtain ⟨c, hc, -⟩ := Option.map_eq_some'.mp h
    obtain ⟨pre, line, he, -⟩ := chooseDevice_eq_some hc
    exact absurd he.symm (List.append_ne_nil_of_right_ne_nil _ (List.cons_ne_nil _ _))
  | fuel + 1, l :: ls, r, h => by
    rw [chooseDevice_cons] at h
    cases hl : deviceChoice count (stripLine l) with
    | some c =>
      rw [hl] at h
      cases h
      exact ⟨[], l, rfl, by simp, hl, rfl⟩
    | none =>
      rw [hl] at h
      obtain ⟨c, hc, rfl⟩ := Option.map_eq_some'.mp h
      obtain ⟨pre, line, rfl, hpre, hline, hlogs⟩ := chooseDevice_eq_some hc
      refine ⟨l :: pre, line, rfl, ?_, hline, ?_⟩
      · rintro l' (_ | ⟨_, hl'⟩)
        exacts [hl, hpre l' hl']
      · simp [hlogs, refusals]

theorem chooseDevice_of_first {count : Nat} {line : String} {c : Option Nat} (post : List String)
    (hline : deviceChoice count (stripLine line) = some c) :
    ∀ {pre : List String}, (∀ l ∈ pre, deviceChoice count (stripLine l) = none) →
      ∀ {fuel}, pre.length < fuel →
        chooseDevice count fuel (pre ++ line :: post) =
          some (refusals pre ++ [devicePrompt], c, post)
  | [], _, fuel + 1, _ => by rw [List.nil_append, chooseDevice_cons, hline]; rfl
  | l :: pre, hpre, fuel + 1, hf => by
    have hl := hpre l (List.mem_cons_self _ _)
    rw [List.cons_append, chooseDevice_cons, hl, chooseDevice_of_first post hline
      (fun l' hl' => hpre l' (List.mem_cons_of_mem _ hl')) (Nat.lt_of_succ_lt_succ hf)]
    rfl

/-- The device prompt of `wizard` returns at the first line that is `q` or a listed number. -/
theorem wizard_device_prompt (count : Nat) (lines : List String) :
    (∀ fuel r, chooseDevice count fuel lines = some r →
      ∃ pre line, lines = pre ++ line :: r.2.2 ∧
        (∀ l ∈ pre, deviceChoice count (stripLine l) = none) ∧
        deviceChoice count (stripLine line) = some r.2.1 ∧ (∀ i, r.2.1 = some i → i < count)) ∧
    (∀ pre line post c, lines = pre ++ line :: post →
      (∀ l ∈ pre, deviceChoice count (stripLine l) = none) →
      deviceChoice count (stripLine line) = some c → ∀ fuel, pre.length < fuel →
        chooseDevice count fuel lines = some (refusals pre ++ [devicePrompt], c, post)) ∧
    ∀ k < count, deviceChoice count (toString (k + 1)) = some (some k) := by
  refine ⟨fun fuel r h => ?_, fun pre line post c hl hpre hline fuel hf => ?_,
    fun k hk => deviceChoice_toString hk⟩
  · obtain ⟨pre, line, hl, hpre, hline, -⟩ := chooseDevice_eq_some h
    exact ⟨pre, line, hl, hpre, hline, fun i hi => deviceChoice_lt (hi ▸ hline)⟩
  · exact hl ▸ chooseDevice_of_first post hline hpre hf

theorem wizard_device_prompt_third_line :
    [("x" : String), "0"].length < 3 ∧
    chooseDevice 2 3 ["x", "0", " 2 ", "q"] =
      some (refusals ["x", "0"] ++ [devicePrompt], some 1, ["q"]) :=
  ⟨by decide, (wizard_device_prompt 2 ["x", "0", " 2 ", "q"]).2.1 ["x", "0"] " 2 " ["q"] (some 1)
    rfl (by decide) rfl 3 (by decide)⟩

/-! ### Setting up the services of the chosen device -/

inductive PairingRequirement where
  | Unsupported
  | Disabled
  | NotNeeded
  | Optional
  | Mandatory
  deriving DecidableEq, Repr

structure WizardService where
  protocol : Protocol
  pairing : PairingRequirement
  requiresPassword : Bool
  credentials : Option String
  password : Option String
  deriving DecidableEq, Repr

def strTruthy : Option String → Bool
  | some s => s != ""
  | none => false

inductive Pin where
  | text (s : String)
  | code (n : Option Int)
  deriving DecidableEq, Repr

/-- What `pair(conf, protocol, ...)` and its pairing handler do, outside the model. -/
structure PairingRun where
  begin : Except PyError Bool
  finish : Pin → Except PyError (Bool × Option String)

def wizardPassword (s : WizardService) (lines : List String) :
    List GlobalLog × WizardService × List String :=
  if !s.requiresPassword then ([], { s with password := none }, lines)
  else
    let r := readInput lines
    ([.out s!"Please enter password for {s.protocol.pyStr}: "], { s with password := some r.1 },
      r.2)

def disabledMessage (p : Protocol) : String :=
  s!"\n\"Protocol {p.name} is disabled, please see this page for help:\n\n" ++
    "https://pyatv.dev/support/troubleshooting/#pairing-disabled\n\n" ++
    "This protocol will be ignored for now, but you can just re-run the wizard again\n" ++
    "later to pair it.\n\nPress ENTER to continue\n"

def askPin (remoteName : String) (providesPin : Bool) (lines : List String) :
    List GlobalLog × Pin × List String :=
  if providesPin then
    let r := readInput lines
    ([.out "Enter PIN on screen: "], .text r.1, r.2)
  else
    ([.out s!"Use pin 1234 to pair with \"{remoteName}\" (press ENTER when you are done)"],
      .code (some 1234), lines.tail)

def wizardPair (remoteName : String) (run : PairingRun) (s : WizardService)
    (lines : List String) : List GlobalLog × Except PyError (WizardService × List String) :=
  match s.pairing with
  | .Unsupported => ([.out s!"Ignoring {s.protocol.name} as it is not supported"], .ok (s, lines))
  | .Disabled =>
    ([.out (disabledMessage s.protocol)], .ok ({ s with credentials := none }, lines.tail))
  | .NotNeeded =>
    ([.out s!"Ignoring {s.protocol.name} since pairing is not needed"],
      .ok ({ s with credentials := none }, lines))
  | _ =>
    if strTruthy s.credentials then
      ([.out s!"Credentials already exists for {s.protocol.name} => pairing not needed"],
        .ok (s, lines))
    else
      let start := GlobalLog.out s!"Starting to pair {s.protocol.pyStr}"
      match run.begin with
      | .error e => ([start], .error e)
      | .ok providesPin =>
        let asked := askPin remoteName providesPin lines
        match run.finish asked.2.1 with
        | .error e => (start :: asked.1, .error e)
        | .ok (paired, credentials) =>
          if paired then
            (start :: asked.1 ++ [.out s!"Successfully paired {s.protocol.pyStr}, moving on..."],
              .ok ({ s with credentials }, asked.2.2))
          else
            (start :: asked.1 ++ [.out "Pairing did not succeed. Press ENTER to continue."],
              .ok ({ s with credentials }, asked.2.2.tail))

/-- One turn of `wizard`'s loop over the services: `_wizard_password`, then `_wizard_pair`. -/
def wizardService (remoteName : String) (run : PairingRun) (s : WizardService)
    (lines : List String) : List GlobalLog × Except PyError (WizardService × List String) :=
  let p := wizardPassword s lines
  let q := wizardPair remoteName run p.2.1 p.2.2
  (p.1 ++ q.1, q.2)

def wizardServices (remoteName : String) (pairing : Protocol → PairingRun) :
    List WizardService → List String →
      List GlobalLog × Except PyError (List WizardService × List String)
  | [], lines => ([], .ok ([], lines))
  | s :: rest, lines =>
    let r := wizardService remoteName (pairing s.protocol) s lines
    match r.2 with
    | .error e => (r.1, .error e)
    | .ok (s', lines') =>
      let r' := wizardServices remoteName pairing rest lines'
      (r.1 ++ r'.1, r'.2.map fun p => (s' :: p.1, p.2))

/-- What `wizard` leaves on a service it set up from `s`. -/
structure SetUp (s s' : WizardService) : Prop where
  protocol : s'.protocol = s.protocol
  pairing : s'.pairing = s.pairing
  requiresPassword : s'.requiresPassword = s.requiresPassword
  password : s'.password = none ↔ s.requiresPassword = false
  cleared : s.pairing = .Disabled ∨ s.pairing = .NotNeeded → s'.credentials = none
  kept : s.pairing = .Unsupported ∨
    (s.pairing ≠ .Disabled ∧ s.pairing ≠ .NotNeeded ∧ strTruthy s.credentials = true) →
    s'.credentials = s.credentials

section Services

variable {remoteName : String} {run : PairingRun} {s s' : WizardService}
  {lines rest : List String}

theorem wizardPassword_spec (s : WizardService) (lines : List String) :
    (wizardPassword s lines).2.1 =
        { s with password := if s.requiresPassword then some (readInput lines).1 else none } ∧
      (wizardPassword s lines).2.2 <:+ lines := by
  unfold wizardPassword
  cases s.requiresPassword
  · exact ⟨rfl, List.suffix_refl _⟩
  · exact ⟨rfl, List.tail_suffix _⟩

theorem askPin_suffix (remoteName : String) (providesPin : Bool) (lines : List String) :
    (askPin remoteName providesPin lines).2.2 <:+ lines := by
  unfold askPin
  split <;> exact List.tail_suffix _

theorem wizardPair_cases (h : (wizardPair remoteName run s lines).2 = .ok (s', rest)) :
    rest <:+ lines ∧
      ((s' = s ∧ (s.pairing = .Unsupported ∨ (s.pairing ≠ .Disabled ∧ s.pairing ≠ .NotNeeded ∧
          strTruthy s.credentials = true))) ∨
        (s' = { s with credentials := none } ∧
          (s.pairing = .Disabled ∨ s.pairing = .NotNeeded)) ∨
        (∃ c, s' = { s with credentials := c } ∧ s.pairing ≠ .Unsupported ∧
          s.pairing ≠ .Disabled ∧ s.pairing ≠ .NotNeeded ∧ strTruthy s.credentials = false)) := by
  unfold wizardPair at h
  split at h
  next hp => cases h; exact ⟨List.suffix_refl _, .inl ⟨rfl, .inl hp⟩⟩
  next hp => cases h; exact ⟨List.tail_suffix _, .inr (.inl ⟨rfl, .inl hp⟩)⟩
  next hp => cases h; exact ⟨List.suffix_refl _, .inr (.inl ⟨rfl, .inr hp⟩)⟩
  next hu hd hn =>
  split_ifs at h with ht
  · cases h; exact ⟨List.suffix_refl _, .inl ⟨rfl, .inr ⟨hd, hn, ht⟩⟩⟩
  dsimp only at h
  split at h
  · cases h
  split at h
  · cases h
  have hc := Bool.eq_false_iff.mpr ht
  split_ifs at h <;> cases h
  · exact ⟨askPin_suffix _ _ _, .inr (.inr ⟨_, rfl, hu, hd, hn, hc⟩)⟩
  · exact ⟨(List.tail_suffix _).trans (askPin_suffix _ _ _), .inr (.inr ⟨_, rfl, hu, hd, hn, hc⟩)⟩

/-- The step lemma: one turn of the loop sets up its service and reads lines off the front. -/
theorem wizardService_setUp (h : (wizardService remoteName run s lines).2 = .ok (s', rest)) :
    SetUp s s' ∧ rest <:+ lines := by
  obtain ⟨hp, hsuf⟩ := wizardPassword_spec s lines
  obtain ⟨hrest, hcases⟩ := wizardPair_cases h
  rw [hp] at hcases
  refine ⟨?_, hrest.trans hsuf⟩
  have hpw : ((if s.requiresPassword then some (readInput lines).1 else none) : Option String) =
      none ↔ s.requiresPassword = false := by
    cases s.requiresPassword <;> simp
  rcases hcases with ⟨rfl, hk⟩ | ⟨rfl, hk⟩ | ⟨c, rfl, hu, hd, hn, hc⟩
  · refine ⟨rfl, rfl, rfl, hpw, fun hdn => ?_, fun _ => rfl⟩
    rcases hk with hk | ⟨hd, hn, -⟩
    · rcases hdn with h' | h' <;> rw [hk] at h' <;> cases h'
    · exact (hdn.elim hd hn).elim
  · refine ⟨rfl, rfl, rfl, hpw, fun _ => rfl, fun hk' => ?_⟩
    rcases hk' with hk' | ⟨hd, hn, -⟩
    · rcases hk with h' | h' <;> rw [hk'] at h' <;> cases h'
    · exact (hk.elim hd hn).elim
  · refine ⟨rfl, rfl, rfl, hpw, fun hdn => (hdn.elim hd hn).elim, fun hk' => ?_⟩
    rcases hk' with hk' | ⟨-, -, ht⟩
    exacts [(hu hk').elim, absurd (hc.symm.trans ht) Bool.false_ne_true]

theorem wizardPair_error {e : PyError} (h : (wizardPair remoteName run s lines).2 = .error e) :
    run.begin = .error e ∨ ∃ pin, run.finish pin = .error e := by
  unfold wizardPair at h
  split at h
  any_goals cases h
  split_ifs at h
  dsimp only at h
  split at h
  next e' he => cases h; exact .inl he
  split at h
  next e' he => cases h; exact .inr ⟨_, he⟩
  split_ifs at h

variable {pairing : Protocol → PairingRun}

/-- The run lemma: the loop sets up every service in turn and reads lines off the front. -/
theorem wizardServices_setUp :
    ∀ {services lines services' rest},
      (wizardServices remoteName pairing services lines).2 = .ok (services', rest) →
      List.Forall₂ SetUp services services' ∧ rest <:+ lines
  | [], _, _, _, h => by cases h; exact ⟨.nil, List.suffix_refl _⟩
  | s :: ss, lines, services', rest, h => by
    simp only [wizardServices] at h
    split at h
    · cases h
    next s₁ lines₁ hs =>
      cases hr : (wizardServices remoteName pairing ss lines₁).2 with
      | error e => rw [hr] at h; cases h
      | ok p =>
        rw [hr] at h
        cases h
        obtain ⟨hset, hsuf⟩ := wizardService_setUp hs
        obtain ⟨hall, hsuf'⟩ := wizardServices_setUp hr
        exact ⟨.cons hset hall, hsuf'.trans hsuf⟩

theorem wizardServices_error :
    ∀ {services lines} {e : PyError}, (wizardServices remoteName pairing services lines).2 = .error e →
      ∃ s ∈ services, (pairing s.protocol).begin = .error e ∨
        ∃ pin, (pairing s.protocol).finish pin = .error e
  | [], _, _, h => by cases h
  | s :: ss, lines, e, h => by
    simp only [wizardServices] at h
    split at h
    next e' hs => cases h; exact ⟨s, List.mem_cons_self _ _, wizardPair_error hs⟩
    next s₁ lines₁ hs =>
      cases hr : (wizardServices remoteName pairing ss lines₁).2 with
      | ok p => rw [hr] at h; cases h
      | error e' =>
        rw [hr] at h
        cases h
        obtain ⟨s', hs', he⟩ := wizardServices_error hr
        exact ⟨s', List.mem_cons_of_mem _ hs', he⟩

end Services

/-- The loop of `wizard` sets up each service as `SetUp` says, reading lines off the front. -/
theorem wizard_sets_up_services (remoteName : String) (pairing : Protocol → PairingRun)
    (services : List WizardService) (lines : List String) :
    (∀ services' rest,
      (wizardServices remoteName pairing services lines).2 = .ok (services', rest) →
        List.Forall₂ SetUp services services' ∧ rest <:+ lines) ∧
    ∀ e, (wizardServices remoteName pairing services lines).2 = .error e →
      ∃ s ∈ services, (pairing s.protocol).begin = .error e ∨
        ∃ pin, (pairing s.protocol).finish pin = .error e :=
  ⟨fun _ _ h => wizardServices_setUp h, fun _ h => wizardServices_error h⟩

/-! ### `wizard` -/

structure WizardDevice where
  name : String
  /-- `device_info.model_str` -/
  model : String
  address : String
  services : List WizardService

structure WizardEnv where
  /-- `args.remote_name` -/
  remoteName : String
  /-- the awaited `scan(...)`, or what it raised -/
  scan : Except PyError (List WizardDevice)
  /-- what pairing a protocol of the chosen device does -/
  pairing : WizardDevice → Protocol → PairingRun
  /-- `connect(conf, ...)` of the set-up device: what `print(await atv.metadata.playing())`
  prints, or what it raises, and how `atv.close()` ends; or what connecting raised -/
  connect : WizardDevice → Except PyError (Except PyError String × Except PyError Unit)
  /-- the exception classes, for `except Exception` -/
  exceptions : Hierarchy := .byName

def deviceRows (atvs : List WizardDevice) : List (List String) :=
  atvs.enum.map fun p => [toString (p.1 + 1), p.2.name, p.2.model, p.2.address]

/-- `wizard` from `conf = atvs[index]` on. -/
def setUpDevice (env : WizardEnv) (atvs : List WizardDevice) (index : Nat) (lines : List String) :
    List GlobalLog × Except PyError Int :=
  match atvs[index]? with
  | none => ([], .error (.indexError "list index out of range"))
  | some conf =>
    let start := GlobalLog.out s!"Starting to set up {conf.name}"
    let r := wizardServices env.remoteName (env.pairing conf) conf.services lines
    match r.2 with
    | .error e => (start :: r.1, .error e)
    | .ok (services, _) =>
      let logs := start :: r.1 ++
        [.out "Pairing finished, trying to connect and get some metadata..."]
      match env.connect { conf with services } with
      | .error e =>
        if e.isException env.exceptions then
          (logs ++ [.exception "Connect failed",
            .out "Something failed when connecting, error is printed above."], .ok 1)
        else (logs, .error e)
      | .ok (playing, close) =>
        match playing with
        | .error e => (logs ++ [.out "Currently playing:"], .error e)
        | .ok text =>
          let logs := logs ++ [.out "Currently playing:", .out text]
          match close with
          | .error e => (logs, .error e)
          | .ok () => (logs ++ [.out "Device is now set up!"], .ok 0)

def wizard (env : WizardEnv) (fuel : Nat) (lines : List String) :
    Option (List GlobalLog × Except PyError Int) :=
  let looking := GlobalLog.out "Looking for devices..."
  match env.scan with
  | .error e => some ([looking], .error e)
  | .ok [] => some ([looking, .out "No devices found!"], .ok 1)
  | .ok atvs =>
    let listed := [looking, .out "Found the following devices:", .table (deviceRows atvs)]
    (chooseDevice atvs.length fuel lines).map fun c =>
      match c.2.1 with
      | none => (listed ++ c.1, .ok 0)
      | some index =>
        let r := setUpDevice env atvs index c.2.2
        (listed ++ c.1 ++ r.1, r.2)

/-- The exceptions `wizard` lets through, each raised by a call outside the model. -/
def WizardEnv.Raises (env : WizardEnv) (e : PyError) : Prop :=
  env.scan = .error e ∨
    (∃ atvs, env.scan = .ok atvs ∧ ∃ d ∈ atvs, ∃ s ∈ d.services,
      (env.pairing d s.protocol).begin = .error e ∨
        ∃ pin, (env.pairing d s.protocol).finish pin = .error e) ∨
    (∃ d, env.connect d = .error e ∧ e.isException env.exceptions = false) ∨
    (∃ d close, env.connect d = .ok (.error e, close)) ∨
    ∃ d text, env.connect d = .ok (.ok text, .error e)

theorem setUpDevice_result (env : WizardEnv) {atvs : List WizardDevice} (hscan : env.scan = .ok atvs)
    {index : Nat} (hi : index < atvs.length) (lines : List String) :
    (setUpDevice env atvs index lines).2 = .ok 0 ∨ (setUpDevice env atvs index lines).2 = .ok 1 ∨
      ∃ e, (setUpDevice env atvs index lines).2 = .error e ∧ env.Raises e := by
  unfold setUpDevice
  rw [List.getElem?_eq_getElem hi]
  have hmem := List.getElem?_mem (List.getElem?_eq_getElem hi)
  dsimp only
  cases hr : (wizardServices env.remoteName (env.pairing atvs[index]) atvs[index].services
    lines).2 with
  | error e =>
    obtain ⟨s, hs, he⟩ := wizardServices_error hr
    exact .inr (.inr ⟨e, rfl, .inr (.inl ⟨atvs, hscan, _, hmem, s, hs, he⟩)⟩)
  | ok p =>
  dsimp only
  cases hc : env.connect { atvs[index] with services := p.1 } with
  | error e =>
    dsimp only
    split_ifs with he
    · exact .inr (.inl rfl)
    · exact .inr (.inr ⟨e, rfl, .inr (.inr (.inl ⟨_, hc, Bool.eq_false_iff.mpr he⟩))⟩)
  | ok q =>
  obtain ⟨playing, close⟩ := q
  cases playing with
  | error e => exact .inr (.inr ⟨e, rfl, .inr (.inr (.inr (.inl ⟨_, _, hc⟩)))⟩)
  | ok text =>
  cases close with
  | error e => exact .inr (.inr ⟨e, rfl, .inr (.inr (.inr (.inr ⟨_, _, hc⟩)))⟩)
  | ok u => exact .inl rfl

/-- `GlobalCommands.wizard` gives `0` or `1`, and raises only what a call outside it raises. -/
theorem wizard_raises_only_external (env : WizardEnv) (fuel : Nat) (lines : List String)
    {r : List GlobalLog × Except PyError Int} (h : wizard env fuel lines = some r) :
    r.2 = .ok 0 ∨ r.2 = .ok 1 ∨ ∃ e, r.2 = .error e ∧ env.Raises e := by
  unfold wizard at h
  split at h
  next e he => cases h; exact .inr (.inr ⟨e, rfl, .inl he⟩)
  next => cases h; exact .inr (.inl rfl)
  next atvs _ hscan =>
  obtain ⟨c, hc, rfl⟩ := Option.map_eq_some'.mp h
  dsimp only
  split
  · exact .inl rfl
  next index hindex =>
  obtain ⟨pre, line, -, -, hline, -⟩ := chooseDevice_eq_some hc
  exact setUpDevice_result env hscan (deviceChoice_lt (hindex ▸ hline)) _

def oneDevice : WizardEnv where
  remoteName := "pyatv"
  scan := .ok [⟨"Living Room", "Apple TV 4K", "10.0.0.2",
    [⟨.AirPlay, .NotNeeded, false, some "old", some "secret"⟩]⟩]
  pairing _ _ := ⟨.ok false, fun _ => .ok (true, none)⟩
  connect _ := .ok (.ok "Media type: Unknown", .ok ())

theorem wizard_raises_only_external_one_device :
    ∃ r, wizard oneDevice 2 ["0", "1"] = some r ∧
      (r.2 = .ok 0 ∨ r.2 = .ok 1 ∨ ∃ e, r.2 = .error e ∧ oneDevice.Raises e) :=
  ⟨_, rfl, wizard_raises_only_external oneDevice 2 ["0", "1"] rfl⟩

end Scripts

end Pyatv
