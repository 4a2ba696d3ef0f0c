import Pyatv.Basic
import Mathlib.Data.List.Basic

namespace Pyatv.Scripts

structure ScanArgs (Ident Hosts : Type) where
  name : Option String
  id : Option Ident
  scanHosts : Option Hosts

/-- The keyword arguments `_scan_for_device` passes to `scan`; an absent key is `none`. -/
structure ScanOptions (Ident Hosts Protocols : Type) where
  timeout : Nat
  protocol : Option Protocols
  identifier : Option (Option Ident)
  hosts : Option Hosts

inductive ScanLog (D : Type) where
  | error (msg : String)
  | info (msg : String)
  /-- `_print_found_apple_tvs(devices, sys.stderr)`. -/
  | printFound (devices : List D)

variable {D Ident Hosts Protocols : Type}

/-- `if args.name:`, Python's truth value of the optional string. -/
def ScanArgs.nameGiven (args : ScanArgs Ident Hosts) : Bool :=
  match args.name with
  | some name => name != ""
  | none => false

def scanOptions (args : ScanArgs Ident Hosts) (timeout : Nat) (protocol : Option Protocols) :
    ScanOptions Ident Hosts Protocols :=
  { timeout, protocol,
    identifier := if args.nameGiven then none else some args.id,
    hosts := args.scanHosts }

/-- `_scan_for_device`; `scan` is the awaited `pyatv.scan`. -/
def scanForDevice (scan : ScanOptions Ident Hosts Protocols → List D) (name : D → String)
    (args : ScanArgs Ident Hosts) (timeout : Nat) (protocol : Option Protocols) :
    List (ScanLog D) × Except PyError (Option D) :=
  let atvs := scan (scanOptions args timeout protocol)
  let devices := if args.nameGiven then atvs.filter (fun atv => some (name atv) == args.name)
    else atvs
  if atvs.isEmpty then ([.error "Could not find any Apple TV on current network"], .ok none)
  else if devices.length > 1 then
    ([.error "Found more than one Apple TV; specify one using --id", .printFound devices],
      .ok none)
  else
    match devices with
    | device :: _ => ([], .ok (some device))
    | [] => ([], .error (.indexError "list index out of range"))

/-- `_scan_for_device` raises only when a non-empty scan has no device of the given name. -/
theorem scan_for_device_spec (scan : ScanOptions Ident Hosts Protocols → List D)
    (name : D → String) (args : ScanArgs Ident Hosts) (timeout : Nat)
    (protocol : Option Protocols) :
    (∀ e, (scanForDevice scan name args timeout protocol).2 = .error e →
      e = .indexError "list index out of range" ∧ args.nameGiven = true ∧
      scan (scanOptions args timeout protocol) ≠ [] ∧
      ∀ atv ∈ scan (scanOptions args timeout protocol), some (name atv) ≠ args.name) ∧
    ∀ d, (scanForDevice scan name args timeout protocol).2 = .ok (some d) →
      d ∈ scan (scanOptions args timeout protocol) ∧
      (args.nameGiven = true → some (name d) = args.name) := by
  simp only [scanForDevice]
  generalize scan (scanOptions args timeout protocol) = atvs
  generalize hdev : (if args.nameGiven then atvs.filter fun atv => some (name atv) == args.name
    else atvs) = devices
  have hmem : ∀ d ∈ devices, d ∈ atvs ∧ (args.nameGiven = true → some (name d) = args.name) := by
    subst hdev
    split_ifs with hn
    · simp only [List.mem_filter, beq_iff_eq]
      exact fun d hd => ⟨hd.1, fun _ => hd.2⟩
    · exact fun d hd => ⟨hd, fun h => absurd h hn⟩
  have hnil : atvs ≠ [] → devices = [] →
      args.nameGiven = true ∧ ∀ atv ∈ atvs, some (name atv) ≠ args.name := by
    subst hdev
    split_ifs with hn
    · exact fun _ hf => ⟨hn, fun atv hm heq => by
        simpa [heq] using List.filter_eq_nil_iff.mp hf atv hm⟩
    · exact fun hne hf => absurd hf hne
  have hne : ¬ atvs.isEmpty = true → atvs ≠ [] := fun h he => h (by simp [he])
  refine ⟨fun e h => ?_, fun d h => ?_⟩
  · split_ifs at h with h1 h2
    cases devices with
    | nil => cases h; obtain ⟨hn, hall⟩ := hnil (hne h1) rfl; exact ⟨rfl, hn, hne h1, hall⟩
    | cons _ _ => cases h
  · split_ifs at h with h1 h2
    · cases h
    · cases h
    cases devices with
    | nil => cases h
    | cons _ _ => cases h; exact hmem _ (List.mem_cons_self _ _)

/-- `--name Kitchen` against a scan of `Living Room` alone: `devices[0]` raises. -/
theorem scan_for_device_raises_on_unmatched_name :
    scanForDevice (fun (_ : ScanOptions String String Protocol) => ["Living Room"]) id
        (⟨some "Kitchen", none, none⟩ : ScanArgs String String) 3 none =
      ([], .error (.indexError "list index out of range")) :=
  rfl

structure ServiceSecrets where
  credentials : Option String
  password : Option String
  deriving DecidableEq, Repr

structure FoundDevice where
  name : String
  /-- `str(apple_tv.address)` -/
  address : String
  services : PyDict Protocol ServiceSecrets

structure AutodiscoverArgs (Ident Hosts Protocols : Type) where
  scan : ScanArgs Ident Hosts
  scanTimeout : Nat
  scanProtocols : Option Protocols
  /-- `args.<protocol>_credentials`, by protocol. -/
  credentials : Protocol → Option String
  /-- `args.<protocol>_password`, by protocol; the parser declares it for AirPlay and RAOP. -/
  password : Protocol → Option String

/-- What `_set_credentials` and `_set_password` store: `arg_value or service.<field>`, or `None`. -/
def secretValue (argValue current : Option String) : Option String :=
  if argValue = some "" then none
  else match argValue with
    | some v => some v
    | none => current

/-- The body `_set_credentials` and `_set_password` share. -/
def setServiceField (get : ServiceSecrets → Option String)
    (set : ServiceSecrets → Option String → ServiceSecrets) (argValue : Option String)
    (protocol : Protocol) (services : PyDict Protocol ServiceSecrets) :
    PyDict Protocol ServiceSecrets :=
  match services.get? protocol with
  | some service => services.set protocol (set service (secretValue argValue (get service)))
  | none => services

def setCredentials (args : AutodiscoverArgs Ident Hosts Protocols) (protocol : Protocol) :
    PyDict Protocol ServiceSecrets → PyDict Protocol ServiceSecrets :=
  setServiceField ServiceSecrets.credentials (fun s v => { s with credentials := v })
    (args.credentials protocol) protocol

def setPassword (args : AutodiscoverArgs Ident Hosts Protocols) (protocol : Protocol) :
    PyDict Protocol ServiceSecrets → PyDict Protocol ServiceSecrets :=
  setServiceField ServiceSecrets.password (fun s v => { s with password := v })
    (args.password protocol) protocol

def autodiscoverDevice (scan : ScanOptions Ident Hosts Protocols → List FoundDevice)
    (args : AutodiscoverArgs Ident Hosts Protocols) :
    List (ScanLog FoundDevice) × Except PyError (Option FoundDevice) :=
  let r := scanForDevice scan FoundDevice.name args.scan args.scanTimeout args.scanProtocols
  match r.2 with
  | .ok (some appleTv) =>
    let services := Protocol.all.foldl (fun s proto => setCredentials args proto s)
      appleTv.services
    let services := [Protocol.RAOP, .AirPlay].foldl (fun s proto => setPassword args proto s)
      services
    (r.1 ++ [.info s!"Auto-discovered {appleTv.name} at {appleTv.address}"],
      .ok (some { appleTv with services }))
  | .ok none => (r.1, .ok none)
  | .error e => (r.1, .error e)

section SetServiceField

variable (get : ServiceSecrets → Option String)
  (set : ServiceSecrets → Option String → ServiceSecrets)

theorem get?_setServiceField (argValue : Option String) (p q : Protocol)
    (services : PyDict Protocol ServiceSecrets) :
    (setServiceField get set argValue p services).get? q =
      if q = p then (services.get? p).map fun s => set s (secretValue argValue (get s))
      else services.get? q := by
  unfold setServiceField
  cases h : services.get? p with
  | none => by_cases hq : q = p <;> simp [hq, h]
  | some s => by_cases hq : q = p <;> simp [hq]

theorem keys_setServiceField (argValue : Option String) (p : Protocol)
    (services : PyDict Protocol ServiceSecrets) :
    (setServiceField get set argValue p services).keys = services.keys := by
  unfold setServiceField
  cases h : services.get? p with
  | none => rfl
  | some s =>
    rw [PyDict.keys_set, if_pos (PyDict.mem_keys_of_get? h)]

theorem get?_foldl_setServiceField (argOf : Protocol → Option String) (ps : List Protocol)
    (hps : ps.Nodup) (services : PyDict Protocol ServiceSecrets) (q : Protocol) :
    (ps.foldl (fun s p => setServiceField get set (argOf p) p s) services).get? q =
      if q ∈ ps then (services.get? q).map fun s => set s (secretValue (argOf q) (get s))
      else services.get? q := by
  induction ps generalizing services with
  | nil => simp
  | cons p ps ih =>
    obtain ⟨hp, hps⟩ := List.nodup_cons.mp hps
    rw [List.foldl_cons, ih hps, get?_setServiceField]
    by_cases hq : q = p
    · subst hq; simp [hp]
    · simp [hq]

theorem keys_foldl_setServiceField (argOf : Protocol → Option String) (ps : List Protocol)
    (services : PyDict Protocol ServiceSecrets) :
    (ps.foldl (fun s p => setServiceField get set (argOf p) p s) services).keys =
      services.keys := by
  induction ps generalizing services with
  | nil => rfl
  | cons p ps ih => rw [List.foldl_cons, ih, keys_setServiceField]

end SetServiceField

/-- The secrets a service of `protocol` ends with. -/
def secretsAfter (args : AutodiscoverArgs Ident Hosts Protocols) (protocol : Protocol)
    (s : ServiceSecrets) : ServiceSecrets where
  credentials := secretValue (args.credentials protocol) s.credentials
  password := if protocol ∈ [Protocol.RAOP, .AirPlay] then
    secretValue (args.password protocol) s.password else s.password

/-- `_autodiscover_device` returns the scanned device with the secrets the arguments give. -/
theorem autodiscover_device_sets_secrets
    (scan : ScanOptions Ident Hosts Protocols → List FoundDevice)
    (args : AutodiscoverArgs Ident Hosts Protocols) :
    let r := scanForDevice scan FoundDevice.name args.scan args.scanTimeout args.scanProtocols
    (∀ e, r.2 = .error e → autodiscoverDevice scan args = (r.1, .error e)) ∧
    (r.2 = .ok none → autodiscoverDevice scan args = (r.1, .ok none)) ∧
    ∀ d, r.2 = .ok (some d) → ∃ atv,
      autodiscoverDevice scan args =
        (r.1 ++ [.info s!"Auto-discovered {d.name} at {d.address}"], .ok (some atv)) ∧
      atv.name = d.name ∧ atv.address = d.address ∧ atv.services.keys = d.services.keys ∧
      ∀ p, atv.services.get? p = (d.services.get? p).map (secretsAfter args p) := by
  intro r
  simp only [r, autodiscoverDevice]
  generalize scanForDevice scan FoundDevice.name args.scan args.scanTimeout args.scanProtocols = r
  obtain ⟨logs, _ | _ | d⟩ := r
  · exact ⟨fun e h => by cases h; rfl, fun h => (by cases h), fun d h => (by cases h)⟩
  · exact ⟨fun e h => (by cases h), fun _ => rfl, fun d h => (by cases h)⟩
  refine ⟨fun e h => (by cases h), fun h => (by cases h), fun d' hd => ?_⟩
  cases hd
  refine ⟨_, rfl, rfl, rfl, ?_, fun p => ?_⟩
  · simp only [setPassword, setCredentials, keys_setServiceField, keys_foldl_setServiceField]
  · simp only [setPassword, setCredentials]
    rw [get?_foldl_setServiceField _ _ _ _ (by decide), get?_foldl_setServiceField _ _ _ _
      (by decide), if_pos (Protocol.mem_all p), Option.map_map]
    split_ifs with hp
    · congr 1; funext s; simp only [secretsAfter, if_pos hp, Function.comp_apply]
    · congr 1; funext s; simp only [secretsAfter, if_neg hp]

/-- `dict(pairs)`: each element must have length two. -/
def dictFromSequence (d : PyDict String String) (i : Nat) :
    List (List String) → Except PyError (PyDict String String)
  | [] => .ok d
  | [key, value] :: rest => dictFromSequence (d.set key value) (i + 1) rest
  | element :: _ =>
    .error (.valueError
      s!"dictionary update sequence element #{i} has length {element.length}; 2 is required")

/-- The parsing of `--service-properties` in `_manual_device`. -/
def parseServiceProperties (serviceProperties : String) : Except PyError (PyDict String String) :=
  match serviceProperties.toList with
  | [] => .ok PyDict.empty
  | splitChar :: rest =>
    dictFromSequence PyDict.empty 0 ((pySplit splitChar (String.mk rest)).map (pySplitOnce '='))

structure ManualArgs where
  address : String
  name : Option String
  id : Option String
  protocol : Protocol
  port : Nat
  serviceProperties : String
  /-- `args.<protocol>_credentials`, by protocol. -/
  credentials : Protocol → Option String
  airplayPassword : Option String
  raopPassword : Option String

structure ManualService where
  identifier : Option String
  protocol : Protocol
  port : Nat
  properties : PyDict String String
  credentials : Option String
  password : Option String

structure AppleTVConf where
  address : String
  name : Option String
  services : List ManualService

/-- `IPv4Address._parse_octet`: one to three ASCII digits, without a leading zero, at most 255. -/
def parseOctet (octet : String) : Except String Nat :=
  let value := digitsValue 0 octet.toList
  if octet.toList = [] then .error "Empty octet not permitted"
  else if !octet.toList.all Char.isDigit then
    .error ("Only decimal digits permitted in " ++ pyReprStr octet)
  else if octet.toList.length > 3 then
    .error ("At most 3 characters permitted in " ++ pyReprStr octet)
  else if octet ≠ "0" ∧ octet.toList.head? = some '0' then
    .error ("Leading zeros are not permitted in " ++ pyReprStr octet)
  else if value > 255 then .error s!"Octet {value} (> 255) not permitted"
  else .ok value

/-- `str(IPv4Address(address))` for the text `address`. -/
def ipv4Address (address : String) : Except PyError String :=
  let fail := fun msg => Except.error (PyError.raised "AddressValueError" msg)
  if address.toList.contains '/' then fail ("Unexpected \x27/\x27 in " ++ pyReprStr address)
  else if address.toList = [] then fail "Address cannot be empty"
  else
    let octets := pySplit '.' address
    if octets.length ≠ 4 then fail ("Expected 4 octets in " ++ pyReprStr address)
    else match octets.mapM parseOctet with
      | .error msg => fail (msg ++ " in " ++ pyReprStr address)
      | .ok values => .ok (".".intercalate (values.map toString))

example : ipv4Address "10.0.0.2" = .ok "10.0.0.2" := rfl

example : ipv4Address "10.0.0.256" = .error (.raised "AddressValueError"
    "Octet 256 (> 255) not permitted in \x2710.0.0.256\x27") := rfl

def manualDevice (args : ManualArgs) : Except PyError AppleTVConf := do
  let properties ← parseServiceProperties args.serviceProperties
  let address ← ipv4Address args.address
  let service : ManualService :=
    { identifier := args.id, protocol := args.protocol, port := args.port, properties,
      credentials := args.credentials args.protocol,
      password := if args.protocol = .AirPlay then args.airplayPassword
        else if args.protocol = .RAOP then args.raopPassword else none }
  return { address, name := args.name, services := [service] }

theorem pySplitOnce_assignment (k v : String) (hk : '=' ∉ k.toList) :
    pySplitOnce '=' (String.mk (k.toList ++ '=' :: v.toList)) = [k, v] := by
  have ht : ∀ c ∈ k.toList, (c != '=') = true := fun c hc => by
    simpa using fun h : c = '=' => hk (h ▸ hc)
  have hs : (String.mk (k.toList ++ '=' :: v.toList)).toList = k.toList ++ '=' :: v.toList := rfl
  rw [pySplitOnce, List.span_eq_take_drop, hs, List.takeWhile_append_of_pos ht,
    List.dropWhile_append_of_pos ht]
  simp

theorem dictFromSequence_pairs (d : PyDict String String) (i : Nat)
    (pairs : List (String × String)) (hfresh : ∀ p ∈ pairs, p.1 ∉ d.keys)
    (hd : (pairs.map Prod.fst).Nodup) :
    (dictFromSequence d i (pairs.map fun p => [p.1, p.2])).map PyDict.items =
      .ok (d.items ++ pairs) := by
  induction pairs generalizing d i with
  | nil => simp [dictFromSequence, Except.map]
  | cons p rest ih =>
    obtain ⟨hp, hrest⟩ := List.nodup_cons.mp hd
    have hset : (d.set p.1 p.2).items = d.items ++ [p] := by
      simp [PyDict.set, PyDict.setItem_of_not_mem _ _ (hfresh p (by simp))]
    have hfresh' : ∀ q ∈ rest, q.1 ∉ (d.set p.1 p.2).keys := fun q hq hm => by
      rw [PyDict.keys_set, if_neg (hfresh p (by simp))] at hm
      rcases List.mem_append.mp hm with hm | hm
      · exact hfresh q (by simp [hq]) hm
      · exact hp (List.mem_singleton.mp hm ▸ List.mem_map_of_mem _ hq)
    simp only [List.map_cons, dictFromSequence]
    rw [ih _ _ hfresh' hrest, hset, List.append_assoc, List.singleton_append]

/-- `X + X.join(k + "=" + v ...)` parses back to the pairs when `X` is not `=`. -/
theorem parse_service_properties_join (x : Char) (pairs : List (String × String))
    (hne : pairs ≠ []) (hx : x ≠ '=') (hsep : ∀ p ∈ pairs, x ∉ p.1.toList ∧ x ∉ p.2.toList)
    (hkey : ∀ p ∈ pairs, '=' ∉ p.1.toList) (hd : (pairs.map Prod.fst).Nodup) :
    (parseServiceProperties
        (String.mk (x :: [x].intercalate (pairs.map fun p => p.1.toList ++ '=' :: p.2.toList)))).map
      PyDict.items = .ok pairs := by
  have hsegs : ∀ seg ∈ pairs.map (fun p => p.1.toList ++ '=' :: p.2.toList), x ∉ seg := by
    simp only [List.mem_map]
    rintro _ ⟨p, hp, rfl⟩ hm
    simp only [List.mem_append, List.mem_cons] at hm
    rcases hm with hm | hm | hm
    · exact (hsep p hp).1 hm
    · exact hx hm
    · exact (hsep p hp).2 hm
  have hsplit : pySplit x (String.mk ([x].intercalate
      (pairs.map fun p => p.1.toList ++ '=' :: p.2.toList))) =
      pairs.map fun p => String.mk (p.1.toList ++ '=' :: p.2.toList) := by
    rw [pySplit, show ∀ l : List Char, (String.mk l).toList = l from fun _ => rfl,
      List.splitOn_intercalate _ _ hsegs (by simpa using hne), List.map_map]
    rfl
  have hassign : (pairs.map fun p => String.mk (p.1.toList ++ '=' :: p.2.toList)).map
      (pySplitOnce '=') = pairs.map fun p => [p.1, p.2] := by
    rw [List.map_map]
    exact List.map_congr_left fun p hp => pySplitOnce_assignment p.1 p.2 (hkey p hp)
  simp only [parseServiceProperties]
  rw [show ∀ l : List Char, (String.mk l).toList = l from fun _ => rfl]
  dsimp only
  rw [hsplit, hassign, dictFromSequence_pairs _ _ _ (by simp [PyDict.keys, PyDict.empty]) hd]
  rfl

theorem parse_service_properties_join_colon :
    [("name", "test"), ("type", "something")] ≠ [] ∧ ':' ≠ '=' ∧
    (∀ p ∈ [("name", "test"), ("type", "something")], ':' ∉ p.1.toList ∧ ':' ∉ p.2.toList) ∧
    (∀ p ∈ [("name", "test"), ("type", "something")], '=' ∉ p.1.toList) ∧
    ([("name", "test"), ("type", "something")].map Prod.fst).Nodup ∧
    (parseServiceProperties (String.mk (':' :: [':'].intercalate
        ([("name", "test"), ("type", "something")].map
          fun p => p.1.toList ++ '=' :: p.2.toList)))).map PyDict.items =
      .ok [("name", "test"), ("type", "something")] :=
  ⟨by decide, by decide, by decide, by decide, by decide,
    parse_service_properties_join ':' _ (by decide) (by decide) (by decide) (by decide)
      (by decide)⟩

/-- With `=` as the separator, `"=a=b"` makes `dict` raise. -/
theorem parse_service_properties_equals_separator :
    ('=' ∉ "a".toList ∧ '=' ∉ "b".toList) ∧
    parseServiceProperties "=a=b" = .error
      (.valueError "dictionary update sequence element #0 has length 1; 2 is required") :=
  ⟨by decide, rfl⟩

end Pyatv.Scripts
