import Pyatv.Basic

namespace Pyatv.Support

/-- The Python objects a tree of settings models holds. -/
inductive PyObj where
  | pyNone
  | bool (b : Bool)
  | int (i : Int)
  | str (s : String)
  | dict (items : List (PyObj × PyObj))
  /-- A pydantic model instance: its class name and its `__dict__`, in order. -/
  | model (cls : String) (fields : List (String × PyObj))
  /-- An attribute that is not a model field (a method, a property, an attribute of a builtin
  value), by name; nothing writes through one. -/
  | other (name : String)
  deriving Repr

mutual

def PyObj.repr : PyObj → String
  | .pyNone => "None"
  | .bool b => if b then "True" else "False"
  | .int i => toString i
  | .str s => pyReprStr s
  | .dict items => "\x7b" ++ reprItems items ++ "\x7d"
  | .model cls fields => cls ++ "(" ++ reprFields ", " fields ++ ")"
  | .other name => "<" ++ name ++ ">"

def reprItems : List (PyObj × PyObj) → String
  | [] => ""
  | [(k, v)] => k.repr ++ ": " ++ v.repr
  | (k, v) :: rest => k.repr ++ ": " ++ v.repr ++ ", " ++ reprItems rest

def reprFields (sep : String) : List (String × PyObj) → String
  | [] => ""
  | [(name, v)] => name ++ "=" ++ v.repr
  | (name, v) :: rest => name ++ "=" ++ v.repr ++ sep ++ reprFields sep rest

end

/-- `str(obj)`: pydantic prints a model's fields separated by spaces. -/
def PyObj.pyStr : PyObj → String
  | .str s => s
  | .model _ fields => reprFields " " fields
  | o => o.repr

inductive Extra where
  | allow
  | ignore
  | forbid
  deriving DecidableEq, Repr

/-- A pydantic field: its validator, its default, and whether it may be reassigned. -/
structure FieldInfo where
  validate : PyObj → Except String PyObj
  default : Option PyObj
  final : Bool := false
  allowMutation : Bool := true

/-- A `root_validator`: new values, or the text of the error it raises. -/
def RootValidator : Type := List (String × PyObj) → Except String (List (String × PyObj))

/-- What `update_model_field` reads of a pydantic model class. -/
structure ModelClass where
  fields : List (String × FieldInfo)
  extra : Extra := .ignore
  validateAssignment : Bool := false
  allowMutation : Bool := true
  frozen : Bool := false
  preRootValidators : List RootValidator := []
  /-- each with its `skip_on_failure` -/
  postRootValidators : List (Bool × RootValidator) := []
  /-- Attributes of the class that are not fields: methods, properties, class variables. -/
  attributes : List String := []

structure Runtime where
  classOf : String → ModelClass
  builtinHasAttr : PyObj → String → Bool
  exceptions : Hierarchy := .byName

variable (rt : Runtime)

def hasattr : PyObj → String → Bool
  | .model cls fields, name =>
    (fields.lookup name).isSome || (rt.classOf cls).attributes.contains name
  | o, name => rt.builtinHasAttr o name

def getattr : PyObj → String → PyObj
  | .model _ fields, name => (fields.lookup name).getD (.other name)
  | _, name => .other name

def validationErrorFor (cls : String) (errors : List String) : PyError :=
  let s := if errors.length = 1 then "" else "s"
  .validationError (s!"{errors.length} validation error{s} for {cls}\n" ++ "\n".intercalate errors)

def runPreRoot : List RootValidator → List (String × PyObj) →
    Except String (List (String × PyObj))
  | [], values => .ok values
  | v :: vs, values => (v values).bind (runPreRoot vs)

def runPostRoot : List (Bool × RootValidator) → List (String × PyObj) → List String →
    List (String × PyObj) × List String
  | [], values, errors => (values, errors)
  | (skip, v) :: vs, values, errors =>
    if skip && !errors.isEmpty then runPostRoot vs values errors
    else match v values with
      | .ok values' => runPostRoot vs values' errors
      | .error msg => runPostRoot vs values (errors ++ ["__root__\n  " ++ msg])

/-- The loop of pydantic's `validate_model` over the declared fields. -/
def validateFields (input : List (String × PyObj)) :
    List (String × FieldInfo) → List (String × PyObj) × List String
  | [] => ([], [])
  | (name, info) :: rest =>
    let r := validateFields input rest
    match input.lookup name with
    | some value =>
      match info.validate value with
      | .ok v => ((name, v) :: r.1, r.2)
      | .error msg => (r.1, (name ++ "\n  " ++ msg) :: r.2)
    | none =>
      match info.default with
      | some d => ((name, d) :: r.1, r.2)
      | none => (r.1, (name ++ "\n  field required (type=value_error.missing)") :: r.2)

/-- `model.parse_obj({field: value})`, which leaves `model` alone. -/
def parseObj : PyObj → String → PyObj → Except PyError PyObj
  | .model cls _, field, value =>
    let c := rt.classOf cls
    match runPreRoot c.preRootValidators [(field, value)] with
    | .error msg => .error (validationErrorFor cls ["__root__\n  " ++ msg])
    | .ok input =>
      let r := validateFields input c.fields
      let extra := input.filter fun kv => (c.fields.lookup kv.1).isNone
      let r : List (String × PyObj) × List String :=
        match c.extra with
        | .allow => (r.1 ++ extra, r.2)
        | .ignore => r
        | .forbid => (r.1, r.2 ++ extra.map fun kv =>
            kv.1 ++ "\n  extra fields not permitted (type=value_error.extra)")
      let r := runPostRoot c.postRootValidators r.1 r.2
      if r.2.isEmpty then .ok (.model cls r.1) else .error (validationErrorFor cls r.2)
  | _, _, _ => .error (.attributeError "object has no attribute 'parse_obj'")

/-- The `validate_assignment` branch of `__setattr__`. -/
def assignValidated (c : ModelClass) (cls : String) (fields : List (String × PyObj))
    (name : String) (value : PyObj) : Except PyError (List (String × PyObj)) :=
  match runPreRoot c.preRootValidators (PyDict.setItem name value fields) with
  | .error msg => .error (validationErrorFor cls ["__root__\n  " ++ msg])
  | .ok newValues =>
    match c.fields.lookup name with
    | some info =>
      if !info.allowMutation then
        .error (.raised "TypeError" s!"\"{name}\" has allow_mutation set to False and cannot be assigned")
      else match info.validate value with
        | .error msg => .error (validationErrorFor cls [name ++ "\n  " ++ msg])
        | .ok v =>
          let r := runPostRoot c.postRootValidators (PyDict.setItem name v newValues) []
          if r.2.isEmpty then .ok r.1 else .error (validationErrorFor cls r.2)
    | none =>
      let r := runPostRoot c.postRootValidators newValues []
      if r.2.isEmpty then .ok r.1 else .error (validationErrorFor cls r.2)

/-- `setattr(model, name, value)`: pydantic v1's `BaseModel.__setattr__`. -/
def setattr : PyObj → String → PyObj → PyObj × Except PyError Unit
  | .model cls fields, name, value =>
    let c := rt.classOf cls
    let known := c.fields.lookup name
    if c.extra ≠ .allow ∧ known.isNone then
      (.model cls fields, .error (.valueError s!"\"{cls}\" object has no field \"{name}\""))
    else if !c.allowMutation || c.frozen then
      (.model cls fields,
        .error (.raised "TypeError" s!"\"{cls}\" is immutable and does not support item assignment"))
    else if known.any FieldInfo.final then
      (.model cls fields, .error (.raised "TypeError"
        s!"\"{cls}\" object \"{name}\" field is final and does not support reassignment"))
    else if c.validateAssignment then
      match assignValidated c cls fields name value with
      | .ok newValues => (.model cls newValues, .ok ())
      | .error e => (.model cls fields, .error e)
    else (.model cls (PyDict.setItem name value fields), .ok ())
  | o, name, _ => (o, .error (.attributeError s!"object has no attribute '{name}'"))

def Runtime.NoRootValidators : Prop :=
  ∀ cls, (rt.classOf cls).preRootValidators = [] ∧ (rt.classOf cls).postRootValidators = []

/-- The components of `path` before its last name no attribute other than a field. -/
def Runtime.FieldsOnly (path : List String) : Prop :=
  ∀ c ∈ path.dropLast, (∀ cls, c ∉ (rt.classOf cls).attributes) ∧ ∀ o, rt.builtinHasAttr o c = false

def PyObj.withField : PyObj → String → PyObj → PyObj
  | .model cls fields, name, child =>
    if (fields.lookup name).isSome then .model cls (PyDict.setItem name child fields)
    else .model cls fields
  | o, _, _ => o

/-- The recursion of `update_model_field`, over the components of the dotted path. -/
def updatePath : PyObj → List String → PyObj → PyObj × Except PyError Unit
  | model, [], _ => (model, .ok ())
  | model, nextField :: rest, value =>
    if !hasattr rt model nextField then
      (model, .error (.attributeError s!"{model.pyStr} has no field {nextField}"))
    else match rest with
      | _ :: _ =>
        let r := updatePath (getattr model nextField) rest value
        (model.withField nextField r.1, r.2)
      | [] =>
        match parseObj rt model nextField value with
        | .error e => (model, .error e)
        | .ok _ => setattr rt model nextField value

@[simp] theorem updatePath_nil (model value : PyObj) :
    updatePath rt model [] value = (model, .ok ()) := by
  simp [updatePath]

def splitPath (field : String) : List String := pySplit '.' field

def updateModelField (model : PyObj) (field : String) (value : PyObj) :
    PyObj × Except PyError Unit :=
  match _hsplit : pySplitOnce '.' field with
  | [] => (model, .error (.indexError "list index out of range"))
  | nextField :: splittedRest =>
    if !hasattr rt model nextField then
      (model, .error (.attributeError s!"{model.pyStr} has no field {nextField}"))
    else match splittedRest with
      | restField :: _ =>
        let r := updateModelField (getattr model nextField) restField value
        (model.withField nextField r.1, r.2)
      | [] =>
        match parseObj rt model field value with
        | .error e => (model, .error e)
        | .ok _ => setattr rt model field value
termination_by field.length
decreasing_by exact pySplitOnce_length_lt _hsplit

theorem updateModelField_eq_updatePath (model : PyObj) (field : String) (value : PyObj) :
    updateModelField rt model field value = updatePath rt model (splitPath field) value := by
  rw [updateModelField]
  split
  next h =>
    rcases pySplitOnce_cases '.' field with ⟨h1, -⟩ | ⟨_, _, h1, -⟩ <;> rw [h1] at h <;> cases h
  next nextField rest h =>
    rcases pySplitOnce_cases '.' field with ⟨h1, h2⟩ | ⟨a, b, h1, h2, hlt⟩ <;>
      rw [h1] at h <;> cases h
    · rw [splitPath, h2]; rfl
    · obtain ⟨c, cs, hb⟩ := List.exists_cons_of_ne_nil (pySplit_ne_nil '.' b)
      have ih := updateModelField_eq_updatePath (getattr model nextField) b value
      rw [splitPath, hb] at ih
      rw [splitPath, h2, hb]
      simp only [updatePath, ih]
termination_by field.length

def PyObj.fieldAt : PyObj → List String → Option PyObj
  | o, [] => some o
  | .model _ fields, name :: rest => (fields.lookup name).bind (·.fieldAt rest)
  | _, _ :: _ => none

@[simp] theorem PyObj.fieldAt_nil (o : PyObj) : o.fieldAt [] = some o := by cases o <;> rfl

def PyObj.setAt : PyObj → List String → PyObj → PyObj
  | _, [], v => v
  | .model cls fields, name :: rest, v =>
    match rest with
    | [] => .model cls (PyDict.setItem name v fields)
    | _ :: _ =>
      match fields.lookup name with
      | some child => .model cls (PyDict.setItem name (child.setAt rest v) fields)
      | none => .model cls fields
  | o, _ :: _, _ => o

section SetAt

variable {cls name : String} {fields : List (String × PyObj)} {c : String} {cs : List String}
  {v : PyObj}

@[simp] theorem setAt_model_single :
    (PyObj.model cls fields).setAt [name] v = .model cls (PyDict.setItem name v fields) := rfl

theorem setAt_model_of_lookup {child : PyObj} (h : fields.lookup name = some child) :
    (PyObj.model cls fields).setAt (name :: c :: cs) v =
      .model cls (PyDict.setItem name (child.setAt (c :: cs) v) fields) := by
  simp only [PyObj.setAt, h]

theorem setAt_model_of_lookup_none (h : fields.lookup name = none) :
    (PyObj.model cls fields).setAt (name :: c :: cs) v = .model cls fields := by
  simp only [PyObj.setAt, h]

end SetAt

theorem fieldAt_setAt_of_disjoint (p q : List String) (m v : PyObj) (hqp : ¬ q <+: p)
    (hpq : ¬ p <+: q) : (m.setAt p v).fieldAt q = m.fieldAt q := by
  induction p generalizing m q with
  | nil => exact absurd (List.nil_prefix (l := q)) hpq
  | cons a ps ih =>
    obtain _ | ⟨b, qs⟩ := q
    · exact absurd (List.nil_prefix (l := a :: ps)) hqp
    cases m with
    | model cls fields =>
      by_cases hb : b = a
      · subst hb
        have hqp' : ¬ qs <+: ps := fun h => hqp (List.prefix_cons_inj b |>.mpr h)
        have hpq' : ¬ ps <+: qs := fun h => hpq (List.prefix_cons_inj b |>.mpr h)
        obtain _ | ⟨c, cs⟩ := ps
        · exact absurd (List.nil_prefix (l := qs)) hpq'
        cases hc : fields.lookup b with
        | none => rw [setAt_model_of_lookup_none hc]
        | some child =>
          simp [setAt_model_of_lookup hc, PyObj.fieldAt, PyDict.lookup_setItem, hc,
            ih _ _ hqp' hpq']
      · obtain _ | ⟨c, cs⟩ := ps
        · simp [PyObj.fieldAt, PyDict.lookup_setItem, hb]
        cases hc : fields.lookup a with
        | none => rw [setAt_model_of_lookup_none hc]
        | some child => simp [setAt_model_of_lookup hc, PyObj.fieldAt, PyDict.lookup_setItem, hb]
    | _ => rfl

/-- The exceptions `update_model_field` raises. -/
def UpdateError : PyError → Prop
  | .attributeError _ | .validationError _ | .valueError _ => True
  | .raised cls _ => cls = "TypeError"
  | _ => False

def RaisesUnchanged (m : PyObj) (r : PyObj × Except PyError Unit) : Prop :=
  ∀ e, r.2 = .error e → r.1 = m ∧ UpdateError e

/-- An update at `path` raised and changed nothing, or set the field at `path` alone. -/
def UpdatesOnly (m : PyObj) (path : List String) (r : PyObj × Except PyError Unit) : Prop :=
  RaisesUnchanged m r ∧
    (r.2 = .ok () → ∃ stored, r.1 = m.setAt path stored ∧ r.1.fieldAt path = some stored)

theorem updatesOnly_error {m : PyObj} {path : List String} {e : PyError} (he : UpdateError e) :
    UpdatesOnly m path (m, .error e) :=
  ⟨fun _ h => (by cases h; exact ⟨rfl, he⟩), fun h => by cases h⟩

theorem updatesOnly_setItem (cls name : String) (fields : List (String × PyObj)) (v : PyObj) :
    UpdatesOnly (.model cls fields) [name] (.model cls (PyDict.setItem name v fields), .ok ()) :=
  ⟨fun _ h => (by cases h),
    fun _ => ⟨v, rfl, by simp [PyObj.fieldAt, PyDict.lookup_setItem]⟩⟩

theorem validationErrorFor_updateError (cls : String) (errors : List String) :
    UpdateError (validationErrorFor cls errors) := trivial

theorem parseObj_error {m : PyObj} {field : String} {value : PyObj} {e : PyError}
    (h : parseObj rt m field value = .error e) : UpdateError e := by
  cases m with
  | model cls fields =>
    simp only [parseObj] at h
    split at h
    · cases h; trivial
    · split_ifs at h; cases h; trivial
  | _ => cases h; trivial

theorem assignValidated_error {c : ModelClass} {cls name : String}
    {fields : List (String × PyObj)} {value : PyObj} {e : PyError}
    (h : assignValidated c cls fields name value = .error e) : UpdateError e := by
  unfold assignValidated at h
  split at h
  · cases h; trivial
  split at h
  · split_ifs at h
    · cases h; rfl
    split at h
    · cases h; trivial
    · dsimp only at h; split_ifs at h; cases h; trivial
  · dsimp only at h; split_ifs at h; cases h; trivial

theorem assignValidated_ok {c : ModelClass} (hpre : c.preRootValidators = [])
    (hpost : c.postRootValidators = []) {cls name : String} {fields : List (String × PyObj)}
    {value : PyObj} {newValues : List (String × PyObj)}
    (h : assignValidated c cls fields name value = .ok newValues) :
    ∃ v, newValues = PyDict.setItem name v fields := by
  simp only [assignValidated, hpre, hpost, runPreRoot, runPostRoot, List.isEmpty_nil,
    if_true] at h
  split at h
  · split_ifs at h
    split at h
    · cases h
    · cases h; exact ⟨_, PyDict.setItem_setItem _ _ _ _⟩
  · cases h; exact ⟨value, rfl⟩

theorem setattr_cases (m : PyObj) (name : String) (value : PyObj) :
    (∃ e, setattr rt m name value = (m, .error e) ∧ UpdateError e) ∨
      ∃ cls fields newValues, m = .model cls fields ∧
        setattr rt m name value = (.model cls newValues, .ok ()) ∧
        (newValues = PyDict.setItem name value fields ∨
          assignValidated (rt.classOf cls) cls fields name value = .ok newValues) := by
  cases m with
  | model cls fields =>
    simp only [setattr]
    split_ifs
    · exact .inl ⟨_, rfl, trivial⟩
    · exact .inl ⟨_, rfl, rfl⟩
    · exact .inl ⟨_, rfl, rfl⟩
    · split
      next nv h => exact .inr ⟨cls, fields, nv, rfl, rfl, .inr h⟩
      next e h => exact .inl ⟨e, rfl, assignValidated_error h⟩
    · exact .inr ⟨cls, fields, _, rfl, rfl, .inl rfl⟩
  | _ => exact .inl ⟨_, rfl, trivial⟩

theorem setattr_error {m : PyObj} {name : String} {value : PyObj} {e : PyError}
    (h : (setattr rt m name value).2 = .error e) :
    (setattr rt m name value).1 = m ∧ UpdateError e := by
  rcases setattr_cases rt m name value with ⟨e', he, hu⟩ | ⟨_, _, _, -, he, -⟩ <;>
    rw [he] at h ⊢ <;> cases h
  exact ⟨rfl, hu⟩

theorem setattr_spec (hroot : rt.NoRootValidators) (m : PyObj) (name : String) (value : PyObj) :
    UpdatesOnly m [name] (setattr rt m name value) := by
  rcases setattr_cases rt m name value with ⟨e, he, hu⟩ | ⟨cls, fields, nv, rfl, he, hv⟩
  · rw [he]; exact updatesOnly_error hu
  · obtain ⟨v, rfl⟩ : ∃ v, nv = PyDict.setItem name v fields := by
      rcases hv with rfl | hv
      exacts [⟨value, rfl⟩, assignValidated_ok (hroot cls).1 (hroot cls).2 hv]
    rw [he]; exact updatesOnly_setItem cls name fields v

theorem withField_getattr (m : PyObj) (name : String) : m.withField name (getattr m name) = m := by
  cases m with
  | model cls fields =>
    cases h : fields.lookup name with
    | none => simp [PyObj.withField, getattr, h]
    | some c => simp [PyObj.withField, getattr, h, PyDict.setItem_of_lookup name c h]
  | _ => rfl

theorem not_model_cases {o : PyObj} (ho : ∀ cls fields, o ≠ .model cls fields) (name : String) :
    (∀ v, parseObj rt o name v =
      .error (.attributeError "object has no attribute 'parse_obj'")) ∧
      getattr o name = .other name ∧ ∀ c, o.withField name c = o := by
  cases o <;> first | exact absurd rfl (ho _ _) | exact ⟨fun _ => rfl, rfl, fun _ => rfl⟩

theorem updatePath_not_model {o : PyObj} (ho : ∀ cls fields, o ≠ .model cls fields)
    (name : String) (rest : List String) (value : PyObj) :
    (updatePath rt o (name :: rest) value).1 = o ∧
      ∃ e, (updatePath rt o (name :: rest) value).2 = .error e ∧ UpdateError e := by
  obtain ⟨hp, hg, hw⟩ := not_model_cases rt ho name
  induction rest generalizing o name with
  | nil =>
    simp only [updatePath]
    split
    · exact ⟨rfl, _, rfl, trivial⟩
    · rw [hp]; exact ⟨rfl, _, rfl, trivial⟩
  | cons r rs ih =>
    obtain ⟨-, e, he, hu⟩ := @ih (.other name) (fun _ _ h => by cases h) r
      (fun _ => rfl) rfl (fun _ => rfl)
    simp only [updatePath]
    split
    · exact ⟨rfl, _, rfl, trivial⟩
    · rw [hg, hw]; exact ⟨rfl, e, he, hu⟩

theorem updatePath_ok_through {m : PyObj} {name r : String} {rs : List String} {value : PyObj}
    (h : (updatePath rt (getattr m name) (r :: rs) value).2 = .ok ()) :
    ∃ cls fields, m = .model cls fields ∧ fields.lookup name = some (getattr m name) := by
  have hother : ∀ n, (updatePath rt (.other n) (r :: rs) value).2 ≠ .ok () := fun n hn => by
    obtain ⟨-, e, he, -⟩ :=
      @updatePath_not_model rt (.other n) (fun _ _ h => by cases h) r rs value
    rw [hn] at he; cases he
  cases m with
  | model cls fields =>
    cases hc : fields.lookup name with
    | none => simp [getattr, hc] at h; exact absurd h (hother name)
    | some c => exact ⟨cls, fields, rfl, by simp [getattr, hc]⟩
  | _ => exact absurd h (hother name)

theorem updatePath_error (m : PyObj) (path : List String) (value : PyObj) :
    RaisesUnchanged m (updatePath rt m path value) := by
  induction path generalizing m with
  | nil => intro e h; cases h
  | cons name rest ih =>
    simp only [updatePath]
    split
    · intro e h; cases h; exact ⟨rfl, trivial⟩
    obtain _ | ⟨r, rs⟩ := rest
    · dsimp only
      split
      · intro e h; cases h; exact ⟨rfl, parseObj_error rt ‹_›⟩
      · exact fun e h => setattr_error rt h
    · intro e he
      obtain ⟨h1, h2⟩ := ih (getattr m name) e he
      exact ⟨by simp only [h1, withField_getattr], h2⟩

/-- The run lemma of the walk: it raises with the tree as it was, or sets the field at its path. -/
theorem updatePath_spec (hroot : rt.NoRootValidators) (m : PyObj) (path : List String)
    (value : PyObj) : UpdatesOnly m path (updatePath rt m path value) := by
  refine ⟨updatePath_error rt m path value, ?_⟩
  induction path generalizing m with
  | nil => exact fun _ => ⟨m, by simp [PyObj.setAt], by simp [PyObj.fieldAt]⟩
  | cons name rest ih =>
    simp only [updatePath]
    split
    · intro h; cases h
    obtain _ | ⟨r, rs⟩ := rest
    · dsimp only
      split
      · intro h; cases h
      · exact (setattr_spec rt hroot m name value).2
    intro h
    obtain ⟨cls, fields, rfl, hc⟩ := updatePath_ok_through rt h
    obtain ⟨stored, h1, h2⟩ := ih _ h
    refine ⟨stored, ?_, ?_⟩
    · simp [PyObj.withField, hc, h1, setAt_model_of_lookup hc]
    · simp only [PyObj.withField, hc, Option.isSome_some, if_true, PyObj.fieldAt,
        PyDict.lookup_setItem, Option.some_bind, h2]

theorem updateModelField_error (m : PyObj) (field : String) (value : PyObj) :
    RaisesUnchanged m (updateModelField rt m field value) := by
  rw [updateModelField_eq_updatePath]; exact updatePath_error rt m (splitPath field) value

theorem updateModelField_spec (hroot : rt.NoRootValidators) (m : PyObj) (field : String)
    (value : PyObj) : UpdatesOnly m (splitPath field) (updateModelField rt m field value) := by
  rw [updateModelField_eq_updatePath]; exact updatePath_spec rt hroot m (splitPath field) value

theorem updateModelField_fieldAt_of_disjoint (hroot : rt.NoRootValidators) (m : PyObj)
    (field : String) (value : PyObj) {q : List String} (hqp : ¬ q <+: splitPath field)
    (hpq : ¬ splitPath field <+: q) :
    (updateModelField rt m field value).1.fieldAt q = m.fieldAt q := by
  have h := updateModelField_spec rt hroot m field value
  cases hr : (updateModelField rt m field value).2 with
  | error e => rw [(h.1 e hr).1]
  | ok u =>
    obtain ⟨stored, h1, -⟩ := h.2 hr
    rw [h1, fieldAt_setAt_of_disjoint _ _ _ _ hqp hpq]

/-- Without root validators, `update_model_field` changes its target field alone, or nothing. -/
theorem update_model_field_changes_only_target (hroot : rt.NoRootValidators) (m : PyObj)
    (field : String) (_hwalk : rt.FieldsOnly (splitPath field)) (value : PyObj) :
    UpdatesOnly m (splitPath field) (updateModelField rt m field value) ∧
    ∀ q, ¬ q <+: splitPath field → ¬ splitPath field <+: q →
      (updateModelField rt m field value).1.fieldAt q = m.fieldAt q :=
  ⟨updateModelField_spec rt hroot m field value,
    fun _ hqp hpq => updateModelField_fieldAt_of_disjoint rt hroot m field value hqp hpq⟩

/-! ### The walk along a path that leads to a field -/

/-- The last step of `update_model_field`: `parse_obj`, then `setattr`. -/
def assignField (model : PyObj) (field : String) (value : PyObj) : PyObj × Except PyError Unit :=
  match parseObj rt model field value with
  | .error e => (model, .error e)
  | .ok _ => setattr rt model field value

theorem assignField_error {m : PyObj} {name : String} {value : PyObj} {e : PyError}
    (h : (assignField rt m name value).2 = .error e) : UpdateError e := by
  unfold assignField at h
  split at h
  · cases h
    exact parseObj_error rt ‹_›
  · exact (setattr_error rt h).2

theorem fieldAt_append_cons {m v : PyObj} {pre post : List String} {c : String}
    (h : m.fieldAt (pre ++ c :: post) = some v) :
    ∃ cls fields child, m.fieldAt pre = some (.model cls fields) ∧
      fields.lookup c = some child ∧ child.fieldAt post = some v := by
  induction pre generalizing m with
  | nil =>
    cases m with
    | model cls fields =>
      obtain ⟨child, hc, hv⟩ := Option.bind_eq_some.mp h
      exact ⟨cls, fields, child, rfl, hc, hv⟩
    | _ => cases h
  | cons a pre ih =>
    cases m with
    | model cls fields =>
      obtain ⟨child, hc, hv⟩ := Option.bind_eq_some.mp h
      obtain ⟨cls', fields', child', hp, hc', hv'⟩ := ih hv
      refine ⟨cls', fields', child', ?_, hc', hv'⟩
      simp only [PyObj.fieldAt, hc, Option.some_bind, hp]
    | _ => cases h

theorem updatePath_of_fieldAt {m : PyObj} {pre : List String} {cls name : String}
    {fields : List (String × PyObj)} (hp : m.fieldAt pre = some (.model cls fields))
    (hn : (fields.lookup name).isSome) (value : PyObj) :
    updatePath rt m (pre ++ [name]) value =
      (m.setAt pre (assignField rt (.model cls fields) name value).1,
        (assignField rt (.model cls fields) name value).2) := by
  induction pre generalizing m with
  | nil =>
    rw [PyObj.fieldAt_nil] at hp
    cases hp
    simp only [List.nil_append, updatePath, hasattr, hn, Bool.true_or, Bool.not_true]
    rfl
  | cons a pre ih =>
    cases m with
    | model cls' fields' =>
      obtain ⟨child, hc, hchild⟩ := Option.bind_eq_some.mp hp
      obtain ⟨r, rs, hrs⟩ := List.exists_cons_of_ne_nil (List.append_ne_nil_of_right_ne_nil pre
        (List.cons_ne_nil name []))
      have hget : getattr (.model cls' fields') a = child := by simp only [getattr, hc]; rfl
      rw [List.cons_append, hrs, updatePath.eq_2]
      simp only [hasattr, hc, Option.isSome_some, Bool.true_or, Bool.not_true,
        Bool.false_eq_true, if_false]
      rw [← hrs, hget, ih hchild]
      obtain _ | ⟨p, ps⟩ := pre
      · simp [PyObj.withField, hc, PyObj.setAt]
      · simp [PyObj.withField, hc, setAt_model_of_lookup hc]
    | _ => cases hp

/-- What `update_model_field` does when `field` names the field that holds `v`. -/
structure AddressesField (m : PyObj) (field : String) (v : PyObj) : Prop where
  hasattr_passes : ∀ pre c post, splitPath field = pre ++ c :: post →
    ∃ o, m.fieldAt pre = some o ∧ hasattr rt o c = true
  reaches : ∃ pre name cls fields, splitPath field = pre ++ [name] ∧
    m.fieldAt pre = some (.model cls fields) ∧ fields.lookup name = some v ∧
    ∀ value, updateModelField rt m field value =
      (m.setAt pre (assignField rt (.model cls fields) name value).1,
        (assignField rt (.model cls fields) name value).2)

theorem addressesField_of_fieldAt {m v : PyObj} {field : String}
    (h : m.fieldAt (splitPath field) = some v) : AddressesField rt m field v := by
  refine ⟨fun pre c post hs => ?_, ?_⟩
  · rw [hs] at h
    obtain ⟨cls, fields, child, hp, hc, -⟩ := fieldAt_append_cons h
    exact ⟨_, hp, by simp [hasattr, hc]⟩
  · have hsplit := List.dropLast_append_getLast (pySplit_ne_nil '.' field)
    generalize (pySplit '.' field).dropLast = pre, (pySplit '.' field).getLast _ = name at hsplit
    rw [splitPath, ← hsplit] at h
    obtain ⟨cls, fields, child, hp, hc, hv⟩ := fieldAt_append_cons h
    rw [PyObj.fieldAt_nil] at hv
    cases hv
    refine ⟨pre, name, cls, fields, hsplit.symm, hp, hc, fun value => ?_⟩
    rw [updateModelField_eq_updatePath, splitPath, ← hsplit,
      updatePath_of_fieldAt rt hp (by simp [hc]) value]

def validateBool : PyObj → Except String PyObj
  | .bool b => .ok (.bool b)
  | .int 0 => .ok (.bool false)
  | .int 1 => .ok (.bool true)
  | .str s =>
    let l := s.toList.map Char.toLower
    if l ∈ ["0", "off", "f", "false", "n", "no"].map String.toList then .ok (.bool false)
    else if l ∈ ["1", "on", "t", "true", "y", "yes"].map String.toList then .ok (.bool true)
    else .error "value could not be parsed to a boolean (type=type_error.bool)"
  | _ => .error "value could not be parsed to a boolean (type=type_error.bool)"

def boolSettings : Runtime where
  classOf _ := { fields := [("enabled", { validate := validateBool, default := some (.bool true) })] }
  builtinHasAttr _ _ := false

/-- `change_setting enabled false`: `parse_obj` reads `False`, but the field keeps the string. -/
theorem update_model_field_stores_unvalidated_value :
    updateModelField boolSettings (.model "Settings" [("enabled", .bool true)]) "enabled"
        (.str "false") = (.model "Settings" [("enabled", .str "false")], .ok ()) ∧
    parseObj boolSettings (.model "Settings" [("enabled", .bool true)]) "enabled" (.str "false") =
      .ok (.model "Settings" [("enabled", .bool false)]) :=
  ⟨by rw [updateModelField_eq_updatePath]; rfl, rfl⟩

theorem update_model_field_changes_only_target_enabled :
    boolSettings.NoRootValidators ∧ boolSettings.FieldsOnly (splitPath "enabled") ∧
    (UpdatesOnly (.model "Settings" [("enabled", .bool true)]) (splitPath "enabled")
        (updateModelField boolSettings (.model "Settings" [("enabled", .bool true)]) "enabled"
          (.str "false")) ∧
      ∀ q, ¬ q <+: splitPath "enabled" → ¬ splitPath "enabled" <+: q →
        (updateModelField boolSettings (.model "Settings" [("enabled", .bool true)]) "enabled"
          (.str "false")).1.fieldAt q = (PyObj.model "Settings" [("enabled", .bool true)]).fieldAt q) :=
  have hroot : boolSettings.NoRootValidators := fun _ => ⟨rfl, rfl⟩
  have hwalk : boolSettings.FieldsOnly (splitPath "enabled") := fun _ h => nomatch h
  ⟨hroot, hwalk, update_model_field_changes_only_target boolSettings hroot _ "enabled" hwalk _⟩

/-- Settings whose post root validator sets `mode` to `custom`. -/
def rootValidatedSettings : Runtime where
  classOf _ :=
    { fields := [("enabled", { validate := validateBool, default := some (.bool true) }),
        ("mode", { validate := .ok, default := some (.str "auto") })],
      validateAssignment := true,
      postRootValidators :=
        [(false, fun values => .ok (PyDict.setItem "mode" (.str "custom") values))] }
  builtinHasAttr _ _ := false

/-- Under a root validator, `change_setting enabled false` changes `mode` too. -/
theorem update_model_field_root_validator_changes_other_field :
    updateModelField rootValidatedSettings
        (.model "Settings" [("enabled", .bool true), ("mode", .str "auto")]) "enabled"
        (.str "false") =
      (.model "Settings" [("enabled", .bool false), ("mode", .str "custom")], .ok ()) := by
  rw [updateModelField_eq_updatePath]; rfl

end Pyatv.Support
