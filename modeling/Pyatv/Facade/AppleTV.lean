import Pyatv.Facade.Features

namespace Pyatv.Facade

structure SetupData (F R : Type) where
  connect : R
  close : R
  features : List F
  deriving DecidableEq, Repr

/-- The state of `FacadeAppleTV` that `add_protocol`, `connect`, `close` and `service` use. -/
structure FacadeAppleTV (F R I S : Type) where
  /-- `self._config.get_service`. -/
  config : Protocol → Option S
  protocolHandlers : PyDict Protocol (SetupData F R)
  /-- `self._features._feature_map`. -/
  featureMap : FeatureMap F I

variable {F R I S : Type}

def FacadeAppleTV.init (config : Protocol → Option S) : FacadeAppleTV F R I S :=
  ⟨config, PyDict.empty, PyDict.empty⟩

/-- What a call of `close` or `connect` does, in order. -/
inductive Effect (R : Type) where
  /-- `asyncio.ensure_future(self._session_manager.close())`. -/
  | scheduleSessionClose
  /-- A protocol's routine is called. -/
  | call (protocol : Protocol) (routine : R)
  deriving DecidableEq, Repr

/-- The loop of `connect` and `close` over `_protocol_handlers`, up to the first exception. -/
def invokeEach (run : R → Except PyError Unit) (routine : SetupData F R → R) :
    List (Protocol × SetupData F R) → List (Effect R) × Except PyError Unit
  | [] => ([], .ok ())
  | (protocol, setupData) :: rest =>
    match run (routine setupData) with
    | .error e => ([.call protocol (routine setupData)], .error e)
    | .ok () =>
      let r := invokeEach run routine rest
      (.call protocol (routine setupData) :: r.1, r.2)

def connect (run : R → Except PyError Unit) (atv : FacadeAppleTV F R I S) :
    List (Effect R) × Except PyError Unit :=
  invokeEach run SetupData.connect atv.protocolHandlers.items

def close (run : R → Except PyError Unit) (atv : FacadeAppleTV F R I S) :
    List (Effect R) × Except PyError Unit :=
  let r := invokeEach run SetupData.close atv.protocolHandlers.items
  (.scheduleSessionClose :: r.1, r.2)

def findService (getService : Protocol → Option S) : List Protocol → Except PyError S
  | [] => .error (.runtimeError "no service (bug)")
  | protocol :: rest =>
    match getService protocol with
    | some service => .ok service
    | none => findService getService rest

def service (atv : FacadeAppleTV F R I S) : Except PyError S :=
  findService atv.config defaultPriorities

/-- How a loop that stops at the first exception ran over `routines`. -/
def StopsAtFirstRaise (run : R → Except PyError Unit) (routines : List (Protocol × R))
    (result : List (Effect R) × Except PyError Unit) : Prop :=
  (result.2 = .ok () ∧ result.1 = routines.map (fun x => .call x.1 x.2) ∧
      ∀ x ∈ routines, run x.2 = .ok ()) ∨
    ∃ pre x post e, routines = pre ++ x :: post ∧ (∀ y ∈ pre, run y.2 = .ok ()) ∧
      run x.2 = .error e ∧ result.1 = (pre ++ [x]).map (fun y => .call y.1 y.2) ∧
      result.2 = .error e

section InvokeEach

variable (run : R → Except PyError Unit) (routine : SetupData F R → R) {p : Protocol}
  {d : SetupData F R} {rest : List (Protocol × SetupData F R)}

theorem invokeEach_cons_error {e : PyError} (h : run (routine d) = .error e) :
    invokeEach run routine ((p, d) :: rest) = ([.call p (routine d)], .error e) := by
  simp only [invokeEach, h]

theorem invokeEach_cons_ok (h : run (routine d) = .ok ()) :
    invokeEach run routine ((p, d) :: rest) =
      (.call p (routine d) :: (invokeEach run routine rest).1,
        (invokeEach run routine rest).2) := by
  simp only [invokeEach, h]

theorem invokeEach_spec (items : List (Protocol × SetupData F R)) :
    StopsAtFirstRaise run (items.map fun x => (x.1, routine x.2))
      (invokeEach run routine items) := by
  induction items with
  | nil => exact .inl ⟨rfl, rfl, List.forall_mem_nil _⟩
  | cons item rest ih =>
    obtain ⟨p, d⟩ := item
    cases h : run (routine d) with
    | error e =>
      rw [invokeEach_cons_error run routine h]
      exact .inr ⟨[], (p, routine d), _, e, rfl, List.forall_mem_nil _, h, rfl, rfl⟩
    | ok u =>
      obtain ⟨⟩ := u
      rw [invokeEach_cons_ok run routine h]
      rcases ih with ⟨hok, htr, hall⟩ | ⟨pre, x, post, e, hs, hpre, hx, htr, herr⟩
      · exact .inl ⟨hok, by rw [htr]; rfl, List.forall_mem_cons.mpr ⟨h, hall⟩⟩
      · exact .inr ⟨(p, routine d) :: pre, x, post, e, by rw [List.map_cons, hs]; rfl,
          List.forall_mem_cons.mpr ⟨h, hpre⟩, hx, by rw [htr]; rfl, herr⟩

end InvokeEach

theorem findService_eq_ok (getService : Protocol → Option S) (ps : List Protocol) (s : S) :
    findService getService ps = .ok s ↔
      ∃ pre p post, ps = pre ++ p :: post ∧ (∀ q ∈ pre, getService q = none) ∧
        getService p = some s := by
  induction ps with
  | nil => exact ⟨(nomatch ·), fun ⟨pre, _, _, heq, _⟩ => absurd heq.symm (by simp)⟩
  | cons p rest ih =>
    cases h : getService p with
    | none =>
      rw [findService, h, ih]
      constructor
      · rintro ⟨pre, q, post, rfl, hpre, hq⟩
        exact ⟨p :: pre, q, post, rfl, List.forall_mem_cons.mpr ⟨h, hpre⟩, hq⟩
      · rintro ⟨_ | ⟨p', pre⟩, q, post, heq, hpre, hq⟩
        · cases heq; rw [h] at hq; cases hq
        · cases heq; exact ⟨pre, q, post, rfl, fun q' hm => hpre q' (by simp [hm]), hq⟩
    | some s' =>
      simp only [findService, h, Except.ok.injEq]
      constructor
      · rintro rfl; exact ⟨[], p, rest, rfl, by simp, h⟩
      · rintro ⟨_ | ⟨p', pre⟩, q, post, heq, hpre, hq⟩
        · cases heq; rw [h] at hq; exact Option.some.inj hq
        · cases heq; exact absurd (hpre p (by simp)) (by simp [h])

theorem findService_eq_error (getService : Protocol → Option S) (ps : List Protocol)
    (h : ∀ p ∈ ps, getService p = none) :
    findService getService ps = .error (.runtimeError "no service (bug)") := by
  induction ps with
  | nil => rfl
  | cons p rest ih => simp [findService, h p (by simp), ih fun q hq => h q (by simp [hq])]

theorem findService_ok_of_mem (getService : Protocol → Option S) {ps : List Protocol}
    {p : Protocol} (hp : p ∈ ps) (hs : (getService p).isSome) :
    ∃ s, findService getService ps = .ok s := by
  induction ps with
  | nil => cases hp
  | cons q rest ih =>
    cases hq : getService q with
    | some s => exact ⟨s, by simp [findService, hq]⟩
    | none =>
      rcases List.mem_cons.mp hp with rfl | hm
      · rw [hq] at hs; cases hs
      · simpa [findService, hq] using ih hm

/-- The Features relayer, which `Relayer.register` keeps to `DEFAULT_PRIORITIES`. -/
structure FeaturesRelayer (I : Type) where
  get : Protocol → Option I
  listed : ∀ p i, get p = some i → p ∈ defaultPriorities

def FeaturesRelayer.const (i : I) : FeaturesRelayer I :=
  ⟨fun p => if p ∈ defaultPriorities then some i else none, fun p _ h => by
    by_contra hp
    simp [hp] at h⟩

def FeaturesRelayer.empty : FeaturesRelayer I := ⟨fun _ => none, fun _ _ h => nomatch h⟩

/-- One `add_protocol(protocol, setup_data)` call, with the Features relayer as it was then. -/
structure ProtocolCall (F R I : Type) where
  relayer : FeaturesRelayer I
  protocol : Protocol
  setupData : SetupData F R

def ProtocolCall.toMappingCall (c : ProtocolCall F R I) : MappingCall F I :=
  ⟨c.relayer.get, c.protocol, c.setupData.features⟩

theorem mappingCalls_listed {calls : List (ProtocolCall F R I)}
    (hl : ∀ c ∈ calls, c.protocol ∈ defaultPriorities) :
    ∀ c ∈ calls.map ProtocolCall.toMappingCall, c.protocol ∈ defaultPriorities := by
  intro _ hc
  obtain ⟨c, hm, rfl⟩ := List.mem_map.mp hc
  exact hl c hm

variable [DecidableEq F]

def addProtocol (relayer : FeaturesRelayer I) (protocol : Protocol) (setupData : SetupData F R)
    (atv : FacadeAppleTV F R I S) : FacadeAppleTV F R I S × Except PyError Unit :=
  let r := addMapping relayer.get protocol setupData.features atv.featureMap
  (⟨atv.config, atv.protocolHandlers.set protocol setupData, r.1⟩, r.2)

def runProtocols (calls : List (ProtocolCall F R I)) (atv : FacadeAppleTV F R I S) :
    FacadeAppleTV F R I S :=
  calls.foldl (fun atv c => (addProtocol c.relayer c.protocol c.setupData atv).1) atv

theorem config_runProtocols (calls : List (ProtocolCall F R I)) (atv : FacadeAppleTV F R I S) :
    (runProtocols calls atv).config = atv.config := by
  induction calls generalizing atv with
  | nil => rfl
  | cons c cs ih => exact ih _

theorem protocolHandlers_runProtocols (calls : List (ProtocolCall F R I))
    (atv : FacadeAppleTV F R I S) :
    (runProtocols calls atv).protocolHandlers =
      (calls.map fun c => (c.protocol, c.setupData)).foldl (fun d kv => d.set kv.1 kv.2)
        atv.protocolHandlers := by
  induction calls generalizing atv with
  | nil => rfl
  | cons c cs ih => exact ih _

theorem featureMap_runProtocols (calls : List (ProtocolCall F R I)) (atv : FacadeAppleTV F R I S) :
    (runProtocols calls atv).featureMap =
      runMappings (calls.map ProtocolCall.toMappingCall) atv.featureMap := by
  induction calls generalizing atv with
  | nil => rfl
  | cons c cs ih => exact ih _

def registered (calls : List (ProtocolCall F R I)) : List (Protocol × SetupData F R) :=
  (calls.map (·.protocol)).eraseDups.filterMap fun p =>
    ((calls.map fun c => (c.protocol, c.setupData)).reverse.lookup p).map (p, ·)

theorem protocolHandlers_items_runProtocols (calls : List (ProtocolCall F R I))
    (config : Protocol → Option S) :
    (runProtocols calls (.init config : FacadeAppleTV F R I S)).protocolHandlers.items =
      registered calls := by
  have h : (runProtocols calls (.init config : FacadeAppleTV F R I S)).protocolHandlers =
      PyDict.ofList (calls.map fun c => (c.protocol, c.setupData)) :=
    protocolHandlers_runProtocols calls _
  rw [h, PyDict.items_eq_filterMap, PyDict.keys_ofList, List.map_map]
  simp only [PyDict.get?_ofList]
  rfl

theorem registered_nodup (calls : List (ProtocolCall F R I)) :
    ((registered calls).map Prod.fst).Nodup :=
  protocolHandlers_items_runProtocols calls (fun _ => (none : Option Unit)) ▸
    (runProtocols calls (.init fun _ => (none : Option Unit))).protocolHandlers.nodup

/-- Re-registering a protocol replaces its record, but none of the features it mapped before. -/
theorem add_protocol_features_accumulate (calls : List (ProtocolCall F R I))
    (config : Protocol → Option S) (hl : ∀ c ∈ calls, c.protocol ∈ defaultPriorities)
    (feature : F) :
    (∀ p, (runProtocols calls (.init config)).protocolHandlers.get? p =
      (calls.map fun c => (c.protocol, c.setupData)).reverse.lookup p) ∧
    (((∀ info, getFeature info (runProtocols calls (.init config)).featureMap feature =
          { state := .Unsupported }) ∧ ∀ c ∈ calls, ¬ c.toMappingCall.Declares feature) ∨
      ∃ c inst, Serves (calls.map ProtocolCall.toMappingCall) feature c ∧
        c.relayer c.protocol = some inst ∧
        ∀ info, getFeature info (runProtocols calls (.init config)).featureMap feature =
          info inst feature) := by
  refine ⟨fun p => by rw [protocolHandlers_runProtocols]; exact PyDict.get?_ofList _ p, ?_⟩
  rw [featureMap_runProtocols]
  rcases (resolves_runMappings _ (mappingCalls_listed hl)).getFeature feature with
    ⟨hu, hall⟩ | h
  · exact .inl ⟨hu, fun c hc => hall _ (List.mem_map_of_mem _ hc)⟩
  · exact .inr h

def mrpReregistered : List (ProtocolCall String String Nat) :=
  [⟨.const 1, .MRP, ⟨"mrp-connect", "mrp-close", ["PushUpdates"]⟩⟩,
    ⟨.const 2, .MRP, ⟨"mrp-connect-2", "mrp-close-2", []⟩⟩]

theorem add_protocol_features_accumulate_mrp_reregistered :
    (∀ c ∈ mrpReregistered, c.protocol ∈ defaultPriorities) ∧
    ((∀ p, (runProtocols mrpReregistered
        (.init fun _ => (none : Option String))).protocolHandlers.get? p =
      (mrpReregistered.map fun c => (c.protocol, c.setupData)).reverse.lookup p) ∧
    (((∀ info, getFeature info (runProtocols mrpReregistered
          (.init fun _ => (none : Option String))).featureMap "PushUpdates" =
          { state := .Unsupported }) ∧
        ∀ c ∈ mrpReregistered, ¬ c.toMappingCall.Declares "PushUpdates") ∨
      ∃ c inst, Serves (mrpReregistered.map ProtocolCall.toMappingCall) "PushUpdates" c ∧
        c.relayer c.protocol = some inst ∧
        ∀ info, getFeature info (runProtocols mrpReregistered
          (.init fun _ => (none : Option String))).featureMap "PushUpdates" =
          info inst "PushUpdates")) :=
  ⟨by decide, add_protocol_features_accumulate mrpReregistered _ (by decide) "PushUpdates"⟩

/-- The replaced MRP record declares no feature, yet `get_feature` delegates to it. -/
theorem add_protocol_keeps_replaced_record_in_effect :
    ((runProtocols mrpReregistered (.init fun _ => (none : Option String))).protocolHandlers.get?
        .MRP).map SetupData.features = some [] ∧
    getFeature (fun i _ => { state := if i = 1 then .Available else .Unknown })
        (runProtocols mrpReregistered (.init fun _ => (none : Option String))).featureMap
        "PushUpdates" = { state := .Available } := by
  decide

theorem addMapping_relayer_spec (relayer : FeaturesRelayer I) (protocol : Protocol)
    (features : List F) {fm : FeatureMap F I} (hl : HoldersListed fm) :
    (addMapping relayer.get protocol features fm).2 = .ok () ∧
      HoldersListed (addMapping relayer.get protocol features fm).1 := by
  unfold addMapping
  cases h : relayer.get protocol with
  | none => exact ⟨rfl, hl⟩
  | some inst =>
    obtain ⟨hok, hl', -⟩ := addFeatures_spec inst (relayer.listed protocol inst h) features hl
    exact ⟨hok, hl'⟩

theorem holdersListed_runProtocols (calls : List (ProtocolCall F R I))
    {atv : FacadeAppleTV F R I S} (hl : HoldersListed atv.featureMap) :
    HoldersListed (runProtocols calls atv).featureMap := by
  induction calls generalizing atv with
  | nil => exact hl
  | cons c cs ih => exact ih (addMapping_relayer_spec c.relayer c.protocol _ hl).2

/-- `add_protocol` returns normally from every reachable state, for every protocol. -/
theorem add_protocol_returns_normally (relayer : FeaturesRelayer I) (protocol : Protocol)
    (setupData : SetupData F R) (calls : List (ProtocolCall F R I))
    (config : Protocol → Option S) :
    (addProtocol relayer protocol setupData (runProtocols calls (.init config))).2 = .ok () :=
  (addMapping_relayer_spec relayer protocol setupData.features
    (holdersListed_runProtocols calls holdersListed_empty)).1

/-- `close` calls the close routines in order of first registration, up to the first that raises. -/
theorem close_stops_at_first_raise (run : R → Except PyError Unit)
    (calls : List (ProtocolCall F R I)) (config : Protocol → Option S) :
    ((registered calls).map Prod.fst).Nodup ∧
    (close run (runProtocols calls (.init config))).1.head? = some .scheduleSessionClose ∧
    StopsAtFirstRaise run ((registered calls).map fun x => (x.1, x.2.close))
      ((close run (runProtocols calls (.init config))).1.tail,
        (close run (runProtocols calls (.init config))).2) := by
  refine ⟨registered_nodup calls, rfl, ?_⟩
  rw [← protocolHandlers_items_runProtocols calls config]
  exact invokeEach_spec run SetupData.close _

/-- MRP's close routine raises, so DMAP's is never called. -/
theorem close_skips_routines_after_raise :
    close (fun r => if r = "mrp-close" then .error (.raised "OSError" "boom") else .ok ())
      (runProtocols ([⟨.empty, .MRP, ⟨"mrp-connect", "mrp-close", []⟩⟩,
        ⟨.empty, .DMAP, ⟨"dmap-connect", "dmap-close", []⟩⟩] :
          List (ProtocolCall String String Nat)) (.init fun _ => (none : Option String))) =
      ([.scheduleSessionClose, .call .MRP "mrp-close"], .error (.raised "OSError" "boom")) :=
  rfl

/-- `connect` calls the connect routines in order of registration, up to the first that raises. -/
theorem connect_in_first_registration_order (run : R → Except PyError Unit)
    (calls : List (ProtocolCall F R I)) (config : Protocol → Option S) :
    ((registered calls).map Prod.fst).Nodup ∧
    StopsAtFirstRaise run ((registered calls).map fun x => (x.1, x.2.connect))
      (connect run (runProtocols calls (.init config))) := by
  refine ⟨registered_nodup calls, ?_⟩
  rw [← protocolHandlers_items_runProtocols calls config]
  exact invokeEach_spec run SetupData.connect _

/-- `service` answers the config's service of the first listed protocol it has one for. -/
theorem service_is_first_configured (calls : List (ProtocolCall F R I))
    (config : Protocol → Option S) :
    (∀ s, service (runProtocols calls (.init config)) = .ok s ↔
      ∃ pre p post, defaultPriorities = pre ++ p :: post ∧ (∀ q ∈ pre, config q = none) ∧
        config p = some s) ∧
    ((∀ p ∈ defaultPriorities, config p = none) →
      service (runProtocols calls (.init config)) = .error (.runtimeError "no service (bug)")) ∧
    ((∃ c ∈ calls, c.protocol ∈ defaultPriorities ∧ (config c.protocol).isSome) →
      ∃ s, service (runProtocols calls (.init config)) = .ok s) := by
  have hc : (runProtocols calls (.init config)).config = config := config_runProtocols calls _
  refine ⟨fun s => by rw [service, hc, findService_eq_ok],
    fun h => by rw [service, hc, findService_eq_error _ _ h], ?_⟩
  rintro ⟨c, -, hp, hs⟩
  rw [service, hc]
  exact findService_ok_of_mem config hp hs

/-- `service` answers whatever the registered protocols are. -/
theorem service_ignores_registered_protocols :
    service (runProtocols ([⟨.empty, .RAOP, ⟨"raop-connect", "raop-close", []⟩⟩] :
        List (ProtocolCall String String Nat))
      (.init fun p => if p = .RAOP then some "raop-service" else none)) =
      .error (.runtimeError "no service (bug)") ∧
    service (runProtocols ([⟨.empty, .DMAP, ⟨"dmap-connect", "dmap-close", []⟩⟩] :
        List (ProtocolCall String String Nat))
      (.init fun p => if p = .DMAP then some "dmap-service"
        else if p = .MRP then some "mrp-service" else none)) = .ok "mrp-service" :=
  ⟨rfl, rfl⟩

end Pyatv.Facade
