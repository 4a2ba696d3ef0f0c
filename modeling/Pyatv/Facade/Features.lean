import Pyatv.Basic

namespace Pyatv.Facade

def defaultPriorities : List Protocol := [.MRP, .DMAP, .Companion, .AirPlay]

/-- `DEFAULT_PRIORITIES.index(protocol)`, which raises `ValueError` outside the list. -/
def priorityIndex (protocol : Protocol) : Except PyError Nat :=
  if protocol ∈ defaultPriorities then .ok (defaultPriorities.indexOf protocol)
  else .error (.valueError s!"{protocol.pyRepr} is not in list")

def hasHigherPriority (first second : Protocol) : Except PyError Bool := do
  let i ← priorityIndex first
  let j ← priorityIndex second
  return i < j

def rank (p : Protocol) : Nat := defaultPriorities.indexOf p

theorem priorityIndex_of_mem {p : Protocol} (h : p ∈ defaultPriorities) :
    priorityIndex p = .ok (rank p) := if_pos h

theorem hasHigherPriority_of_mem {p q : Protocol} (hp : p ∈ defaultPriorities)
    (hq : q ∈ defaultPriorities) : hasHigherPriority p q = .ok (decide (rank p < rank q)) := by
  simp [hasHigherPriority, priorityIndex_of_mem hp, priorityIndex_of_mem hq, bind, Except.bind,
    pure, Except.pure]

theorem rank_inj {p q : Protocol} (hp : p ∈ defaultPriorities) (hq : q ∈ defaultPriorities)
    (h : rank p = rank q) : p = q :=
  (List.indexOf_inj hp hq).mp h

inductive FeatureState where
  | Unknown
  | Unsupported
  | Unavailable
  | Available
  deriving DecidableEq, Repr

structure FeatureInfo where
  state : FeatureState
  options : List (String × String) := []
  deriving DecidableEq, Repr

abbrev FeatureMap (F I : Type) := PyDict F (Protocol × I)

variable {F I : Type}

/-- One `add_mapping` call, with the instances the Features relayer held then. -/
structure MappingCall (F I : Type) where
  relayer : Protocol → Option I
  protocol : Protocol
  features : List F

/-- The call counts for `feature`: the relayer held an instance and the call declared it. -/
def MappingCall.Declares (c : MappingCall F I) (feature : F) : Prop :=
  (c.relayer c.protocol).isSome ∧ feature ∈ c.features

/-- `c` serves `feature`: the earliest counting call of the highest-priority declarer. -/
def Serves (calls : List (MappingCall F I)) (feature : F) (c : MappingCall F I) : Prop :=
  ∃ pre post, calls = pre ++ c :: post ∧ c.Declares feature ∧
    (∀ c' ∈ pre, c'.Declares feature → rank c.protocol < rank c'.protocol) ∧
    (∀ c' ∈ post, c'.Declares feature → rank c.protocol ≤ rank c'.protocol)

section Serves

variable {calls : List (MappingCall F I)} {feature : F} {c c' : MappingCall F I}

theorem Serves.mem (h : Serves calls feature c) : c ∈ calls := by
  obtain ⟨pre, post, rfl, -⟩ := h
  simp

theorem Serves.declares (h : Serves calls feature c) : c.Declares feature := by
  obtain ⟨pre, post, -, hd, -⟩ := h
  exact hd

theorem Serves.rank_le (h : Serves calls feature c) (hc' : c' ∈ calls)
    (hd : c'.Declares feature) : rank c.protocol ≤ rank c'.protocol := by
  obtain ⟨pre, post, rfl, -, hpre, hpost⟩ := h
  rcases List.mem_append.mp hc' with hm | hm
  · exact (hpre c' hm hd).le
  · rcases List.mem_cons.mp hm with rfl | hm
    · exact le_rfl
    · exact hpost c' hm hd

theorem Serves.append (h : Serves calls feature c)
    (hle : c'.Declares feature → rank c.protocol ≤ rank c'.protocol) :
    Serves (calls ++ [c']) feature c := by
  obtain ⟨pre, post, rfl, hd, hpre, hpost⟩ := h
  refine ⟨pre, post ++ [c'], by simp, hd, hpre, fun c'' hm => ?_⟩
  rcases List.mem_append.mp hm with hm | hm
  · exact hpost c'' hm
  · rw [List.mem_singleton.mp hm]; exact hle

theorem serves_append_last (hd : c.Declares feature)
    (hlt : ∀ c' ∈ calls, c'.Declares feature → rank c.protocol < rank c'.protocol) :
    Serves (calls ++ [c]) feature c :=
  ⟨calls, [], rfl, hd, hlt, by simp⟩

end Serves

variable [DecidableEq F]

/-- The loop of `add_mapping` over the features. -/
def addFeatures (protocol : Protocol) (inst : I) :
    List F → FeatureMap F I → FeatureMap F I × Except PyError Unit
  | [], fm => (fm, .ok ())
  | feature :: rest, fm =>
    match fm.get? feature with
    | none => addFeatures protocol inst rest (fm.set feature (protocol, inst))
    | some (holder, _) =>
      match hasHigherPriority protocol holder with
      | .error e => (fm, .error e)
      | .ok true => addFeatures protocol inst rest (fm.set feature (protocol, inst))
      | .ok false => addFeatures protocol inst rest fm

/-- `FacadeFeatures.add_mapping`; `relayer` is `self.get`. -/
def addMapping (relayer : Protocol → Option I) (protocol : Protocol) (features : List F)
    (fm : FeatureMap F I) : FeatureMap F I × Except PyError Unit :=
  match relayer protocol with
  | some inst => addFeatures protocol inst features fm
  | none => (fm, .ok ())

def getFeature (info : I → F → FeatureInfo) (fm : FeatureMap F I) (featureName : F) :
    FeatureInfo :=
  match fm.get? featureName with
  | some (_, inst) => info inst featureName
  | none => { state := .Unsupported }

/-- Every protocol holding an entry is in `DEFAULT_PRIORITIES`. -/
def HoldersListed (fm : FeatureMap F I) : Prop :=
  ∀ f e, fm.get? f = some e → e.1 ∈ defaultPriorities

def claim (p : Protocol) (inst : I) : Option (Protocol × I) → Option (Protocol × I)
  | some (holder, i) => if rank p < rank holder then some (p, inst) else some (holder, i)
  | none => some (p, inst)

theorem claim_claim (p : Protocol) (inst : I) (e : Option (Protocol × I)) :
    claim p inst (claim p inst e) = claim p inst e := by
  rcases e with _ | ⟨h, i⟩
  · simp [claim]
  · by_cases hr : rank p < rank h <;> simp [claim, hr]

theorem HoldersListed.set {fm : FeatureMap F I} (hl : HoldersListed fm) {p : Protocol}
    (hp : p ∈ defaultPriorities) (f : F) (inst : I) : HoldersListed (fm.set f (p, inst)) := by
  intro g e he
  rw [PyDict.get?_set] at he
  split_ifs at he
  · cases he; exact hp
  · exact hl g e he

theorem holdersListed_empty : HoldersListed (PyDict.empty : FeatureMap F I) := by
  intro f e he; cases he

variable {p : Protocol}

theorem addFeatures_cons (inst : I) (hp : p ∈ defaultPriorities) {fm : FeatureMap F I}
    (hl : HoldersListed fm) (f : F) (rest : List F) :
    ∃ fm', addFeatures p inst (f :: rest) fm = addFeatures p inst rest fm' ∧
      HoldersListed fm' ∧
        ∀ g, fm'.get? g = if g = f then claim p inst (fm.get? f) else fm.get? g := by
  cases hf : fm.get? f with
  | none =>
    refine ⟨fm.set f (p, inst), by simp [addFeatures, hf], hl.set hp f inst, fun g => ?_⟩
    by_cases hg : g = f <;> simp [hg, claim]
  | some e =>
    obtain ⟨h, i⟩ := e
    by_cases hr : rank p < rank h
    · refine ⟨fm.set f (p, inst), ?_, hl.set hp f inst, fun g => ?_⟩
      · simp [addFeatures, hf, hasHigherPriority_of_mem hp (hl f _ hf), hr]
      · by_cases hg : g = f <;> simp [hg, claim, hr]
    · refine ⟨fm, ?_, hl, fun g => ?_⟩
      · simp [addFeatures, hf, hasHigherPriority_of_mem hp (hl f _ hf), hr]
      · by_cases hg : g = f
        · subst hg; simp [hf, claim, hr]
        · simp [hg]

theorem addFeatures_spec (inst : I) (hp : p ∈ defaultPriorities) (fs : List F)
    {fm : FeatureMap F I}
    (hl : HoldersListed fm) :
    (addFeatures p inst fs fm).2 = .ok () ∧ HoldersListed (addFeatures p inst fs fm).1 ∧
      ∀ g, (addFeatures p inst fs fm).1.get? g =
        if g ∈ fs then claim p inst (fm.get? g) else fm.get? g := by
  induction fs generalizing fm with
  | nil => exact ⟨rfl, hl, fun g => by simp [addFeatures]⟩
  | cons f rest ih =>
    obtain ⟨fm', heq, hl', hget⟩ := addFeatures_cons inst hp hl f rest
    obtain ⟨hok, hlf, hrest⟩ := ih hl'
    refine ⟨heq ▸ hok, heq ▸ hlf, fun g => ?_⟩
    rw [heq, hrest, hget]
    by_cases hg : g = f
    · subst hg; by_cases hm : g ∈ rest <;> simp [hm, claim_claim]
    · simp [hg]

theorem addMapping_ok (relayer : Protocol → Option I) (hp : p ∈ defaultPriorities)
    (features : List F) {fm : FeatureMap F I} (hl : HoldersListed fm) :
    (addMapping relayer p features fm).2 = .ok () := by
  unfold addMapping
  split
  · exact (addFeatures_spec _ hp features hl).1
  · rfl

/-- A sequence of `add_mapping` calls. -/
def runMappings (calls : List (MappingCall F I)) (fm : FeatureMap F I) : FeatureMap F I :=
  calls.foldl (fun fm c => (addMapping c.relayer c.protocol c.features fm).1) fm

theorem runMappings_append_singleton (calls : List (MappingCall F I)) (c : MappingCall F I)
    (fm : FeatureMap F I) :
    runMappings (calls ++ [c]) fm =
      (addMapping c.relayer c.protocol c.features (runMappings calls fm)).1 := by
  simp [runMappings, List.foldl_append]

/-- The map agrees with the calls made so far, feature by feature. -/
def Resolves (calls : List (MappingCall F I)) (fm : FeatureMap F I) : Prop :=
  ∀ feature, (fm.get? feature = none ∧ ∀ c ∈ calls, ¬ c.Declares feature) ∨
    ∃ c inst, Serves calls feature c ∧ c.relayer c.protocol = some inst ∧
      fm.get? feature = some (c.protocol, inst)

variable {calls : List (MappingCall F I)} {feature : F} {c c' : MappingCall F I}

theorem Resolves.holdersListed {fm : FeatureMap F I} (h : Resolves calls fm)
    (hl : ∀ c ∈ calls, c.protocol ∈ defaultPriorities) : HoldersListed fm := by
  intro f e he
  rcases h f with ⟨hn, -⟩ | ⟨c, inst, hs, -, hget⟩
  · rw [hn] at he; cases he
  · rw [hget] at he; cases he; exact hl c hs.mem

theorem Resolves.append_of_not_declares {fm fm' : FeatureMap F I} (h : Resolves calls fm)
    (hnd : ¬ c.Declares feature) (hget : fm'.get? feature = fm.get? feature) :
    (fm'.get? feature = none ∧ ∀ c' ∈ calls ++ [c], ¬ c'.Declares feature) ∨
      ∃ c₀ inst, Serves (calls ++ [c]) feature c₀ ∧ c₀.relayer c₀.protocol = some inst ∧
        fm'.get? feature = some (c₀.protocol, inst) := by
  rw [hget]
  rcases h feature with ⟨hn, hall⟩ | ⟨c₀, inst, hs, hr, hg⟩
  · left; refine ⟨hn, fun c' hm => ?_⟩
    rcases List.mem_append.mp hm with hm | hm
    · exact hall c' hm
    · rw [List.mem_singleton.mp hm]; exact hnd
  · exact .inr ⟨c₀, inst, hs.append fun hd => absurd hd hnd, hr, hg⟩

/-- The step lemma: a call of a listed protocol keeps the map resolving the calls. -/
theorem Resolves.append {fm : FeatureMap F I} (h : Resolves calls fm)
    (hl : ∀ c ∈ calls, c.protocol ∈ defaultPriorities) (hc : c.protocol ∈ defaultPriorities) :
    Resolves (calls ++ [c]) (addMapping c.relayer c.protocol c.features fm).1 := by
  intro g
  cases hr : c.relayer c.protocol with
  | none =>
    exact h.append_of_not_declares (by simp [MappingCall.Declares, hr]) (by simp [addMapping, hr])
  | some inst =>
    obtain ⟨-, -, hget⟩ := addFeatures_spec inst hc c.features (h.holdersListed hl)
    simp only [addMapping, hr]
    by_cases hm : g ∈ c.features
    · have hd : c.Declares g := ⟨by simp [hr], hm⟩
      rw [hget, if_pos hm]
      rcases h g with ⟨hn, hall⟩ | ⟨c₀, inst₀, hs, hr₀, hg⟩
      · exact .inr ⟨c, inst, serves_append_last hd fun c' hm' hd' => absurd hd' (hall c' hm'),
          hr, by simp [hn, claim]⟩
      · rw [hg]
        by_cases hlt : rank c.protocol < rank c₀.protocol
        · exact .inr ⟨c, inst, serves_append_last hd fun c' hm' hd' =>
            lt_of_lt_of_le hlt (hs.rank_le hm' hd'), hr, by simp [claim, hlt]⟩
        · exact .inr ⟨c₀, inst₀, hs.append fun _ => not_lt.mp hlt, hr₀, by simp [claim, hlt]⟩
    · exact h.append_of_not_declares (fun hd => hm hd.2) (by rw [hget, if_neg hm])

/-- The run lemma: after any calls of listed protocols the map resolves them. -/
theorem resolves_runMappings (calls : List (MappingCall F I))
    (hl : ∀ c ∈ calls, c.protocol ∈ defaultPriorities) :
    Resolves calls (runMappings calls PyDict.empty) := by
  induction calls using List.reverseRecOn with
  | nil => exact fun _ => .inl ⟨rfl, by simp⟩
  | append_singleton calls c ih =>
    have hl' : ∀ c ∈ calls, c.protocol ∈ defaultPriorities := fun c hm => hl c (by simp [hm])
    rw [runMappings_append_singleton]
    exact (ih hl').append hl' (hl c (by simp))

theorem Resolves.getFeature {fm : FeatureMap F I} (h : Resolves calls fm) (feature : F) :
    ((∀ info, getFeature info fm feature = { state := .Unsupported }) ∧
        ∀ c ∈ calls, ¬ c.Declares feature) ∨
      ∃ c inst, Serves calls feature c ∧ c.relayer c.protocol = some inst ∧
        ∀ info, getFeature info fm feature = info inst feature := by
  rcases h feature with ⟨hn, hall⟩ | ⟨c, inst, hs, hr, hg⟩
  · exact .inl ⟨fun info => by simp [Facade.getFeature, hn], hall⟩
  · exact .inr ⟨c, inst, hs, hr, fun info => by simp [Facade.getFeature, hg]⟩

theorem Resolves.protocol_eq_of_perm {calls' : List (MappingCall F I)} {fm fm' : FeatureMap F I}
    (h : Resolves calls fm) (h' : Resolves calls' fm') (hp : calls'.Perm calls)
    (hl : ∀ c ∈ calls, c.protocol ∈ defaultPriorities) (feature : F) :
    (fm'.get? feature).map Prod.fst = (fm.get? feature).map Prod.fst := by
  rcases h feature with ⟨hn, hall⟩ | ⟨c, inst, hs, -, hg⟩ <;>
    rcases h' feature with ⟨hn', hall'⟩ | ⟨c', inst', hs', -, hg'⟩
  · rw [hn, hn']
  · exact absurd hs'.declares (hall c' (hp.mem_iff.mp hs'.mem))
  · exact absurd hs.declares (hall' c (hp.mem_iff.mpr hs.mem))
  · have hc := hs.mem
    have hc' := hp.mem_iff.mp hs'.mem
    have heq := rank_inj (hl c' hc') (hl c hc)
      (le_antisymm (hs'.rank_le (hp.mem_iff.mpr hc) hs.declares) (hs.rank_le hc' hs'.declares))
    simp [hg, hg', heq]

/-- Whatever the order of the calls, `get_feature` delegates to the call that serves the feature. -/
theorem add_mapping_serves_highest_priority (calls : List (MappingCall F I))
    (hl : ∀ c ∈ calls, c.protocol ∈ defaultPriorities) (feature : F) :
    (((∀ info, getFeature info (runMappings calls PyDict.empty) feature =
          { state := .Unsupported }) ∧ ∀ c ∈ calls, ¬ c.Declares feature) ∨
      ∃ c inst, Serves calls feature c ∧ c.relayer c.protocol = some inst ∧
        ∀ info, getFeature info (runMappings calls PyDict.empty) feature = info inst feature) ∧
    ∀ calls', calls'.Perm calls →
      ((runMappings calls' PyDict.empty).get? feature).map Prod.fst =
        ((runMappings calls PyDict.empty).get? feature).map Prod.fst := by
  have h := resolves_runMappings calls hl
  exact ⟨h.getFeature feature, fun calls' hp => h.protocol_eq_of_perm
    (resolves_runMappings calls' fun c hm => hl c (hp.mem_iff.mp hm)) hp hl feature⟩

def dmapThenMrp : List (MappingCall String Nat) :=
  [⟨fun _ => some 1, .DMAP, ["PushUpdates"]⟩, ⟨fun _ => some 2, .MRP, ["PushUpdates"]⟩]

theorem add_mapping_serves_highest_priority_dmap_then_mrp :
    (∀ c ∈ dmapThenMrp, c.protocol ∈ defaultPriorities) ∧
    ((((∀ info, getFeature info (runMappings dmapThenMrp PyDict.empty) "PushUpdates" =
          { state := .Unsupported }) ∧ ∀ c ∈ dmapThenMrp, ¬ c.Declares "PushUpdates") ∨
      ∃ c inst, Serves dmapThenMrp "PushUpdates" c ∧ c.relayer c.protocol = some inst ∧
        ∀ info, getFeature info (runMappings dmapThenMrp PyDict.empty) "PushUpdates" =
          info inst "PushUpdates") ∧
    ∀ calls', calls'.Perm dmapThenMrp →
      ((runMappings calls' PyDict.empty).get? "PushUpdates").map Prod.fst =
        ((runMappings dmapThenMrp PyDict.empty).get? "PushUpdates").map Prod.fst) :=
  ⟨by decide, add_mapping_serves_highest_priority dmapThenMrp (by decide) "PushUpdates"⟩

end Pyatv.Facade
