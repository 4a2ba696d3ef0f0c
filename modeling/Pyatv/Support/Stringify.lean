import Pyatv.Support.ModelField

namespace Pyatv.Support

/-! ### `stringify_model` -/

/-- A field's annotation as `lookup_type` tells them apart. -/
inductive Annotation where
  | union (args : List (Option String))
  | other (name : String)
  deriving DecidableEq, Repr

/-- The `__annotations__` of each model class, and `type(obj).__name__` of other objects. -/
structure TypeInfo where
  annotations : String → String → Option Annotation
  otherType : String → String

def typeName (ti : TypeInfo) : PyObj → String
  | .pyNone => "NoneType"
  | .bool _ => "bool"
  | .int _ => "int"
  | .str _ => "str"
  | .dict _ => "dict"
  | .model cls _ => cls
  | .other name => ti.otherType name

def lookupType ( annotation : Annotation) (value : PyObj) : String :=
  match annotation with
  | .union args =>
    let types := args.filterMap fun arg =>
      match arg, value with
      | some name, _ => some name
      | none, .pyNone => some "None"
      | none, _ => none
    match types with
    | [t] => t
    | _ => ", ".intercalate (args.map fun arg => arg.getD "None")
  | .other name => name

/-- `annotations.get(field_name, type(field_value))`. -/
def annotationOf (ti : TypeInfo) (cls name : String) (value : PyObj) : Annotation :=
  (ti.annotations cls name).getD (.other (typeName ti value))

def PyObj.isModel : PyObj → Bool
  | .model _ _ => true
  | _ => false

mutual

def recurse (ti : TypeInfo) : PyObj → String → List String
  | .model cls fields, pre => recurseFields ti cls fields pre
  | obj, pre => [pre ++ " = " ++ obj.repr ++ " (" ++ typeName ti obj ++ ")"]

def recurseFields (ti : TypeInfo) (cls : String) : List (String × PyObj) → String → List String
  | [], _ => []
  | (fieldName, fieldValue) :: rest, pre =>
    let fullFieldName := pre ++ fieldName
    let lines :=
      if fieldValue.isModel then recurse ti fieldValue (fullFieldName ++ ".")
      else match fieldValue with
        | .dict d => processDict ti d fullFieldName
        | _ =>
          let typeStr := lookupType (annotationOf ti cls fieldName fieldValue) fieldValue
          [fullFieldName ++ " = " ++ fieldValue.pyStr ++ " (" ++ typeStr ++ ")"]
    lines ++ recurseFields ti cls rest pre

/-- `process_dict(d, prefix)`; the source's tests for a dict and a model exclude each other. -/
def processDict (ti : TypeInfo) : List (PyObj × PyObj) → String → List String
  | [], _ => []
  | (key, value) :: rest, pre =>
    let fullFieldName := pre ++ "[" ++ key.repr ++ "]"
    let lines :=
      if value.isModel then recurse ti value (fullFieldName ++ ".")
      else match value with
        | .dict d => processDict ti d fullFieldName
        | _ => [fullFieldName ++ " = " ++ value.repr ++ " (" ++ typeName ti value ++ ")"]
    lines ++ processDict ti rest pre

end

def stringifyModel (ti : TypeInfo) (model : PyObj) : List String := recurse ti model ""

/-! ### What the printer prints: one line per leaf -/

/-- A step into a tree: the field `name` of a model of class `cls`, or the key `k` of a dict. -/
inductive Step where
  | field (cls name : String)
  | key (k : PyObj)

def Step.text : Step → String
  | .field _ name => "." ++ name
  | .key k => "[" ++ k.repr ++ "]"

def stepsText : List Step → String
  | [] => ""
  | st :: rest => st.text ++ stepsText rest

/-- The name `stringify_model` prints for the value at the end of `steps`. -/
def pathText : List Step → String
  | .field _ name :: rest => name ++ stepsText rest
  | steps => stepsText steps

def shownValue (ti : TypeInfo) (steps : List Step) (v : PyObj) : String :=
  match steps.getLast? with
  | some (.field cls name) =>
    v.pyStr ++ " (" ++ lookupType (annotationOf ti cls name v) v ++ ")"
  | _ => v.repr ++ " (" ++ typeName ti v ++ ")"

def printedLine (ti : TypeInfo) (steps : List Step) (v : PyObj) : String :=
  pathText steps ++ " = " ++ shownValue ti steps v

mutual

/-- The values `stringify_model` prints below a node, each with the steps to it. -/
def leavesBelow : PyObj → List (List Step × PyObj)
  | .model cls fields => leavesOfFields cls fields
  | .dict items => leavesOfItems items
  | o => [([], o)]

def leavesOfFields (cls : String) : List (String × PyObj) → List (List Step × PyObj)
  | [] => []
  | (name, v) :: rest =>
    (leavesBelow v).map (fun p => (.field cls name :: p.1, p.2)) ++ leavesOfFields cls rest

def leavesOfItems : List (PyObj × PyObj) → List (List Step × PyObj)
  | [] => []
  | (k, v) :: rest => (leavesBelow v).map (fun p => (.key k :: p.1, p.2)) ++ leavesOfItems rest

end

section Unfold

variable (ti : TypeInfo) (cls : String) (fields : List (String × PyObj))
  (items : List (PyObj × PyObj)) (pre : String)

@[simp] theorem recurse_model :
    recurse ti (.model cls fields) pre = recurseFields ti cls fields pre := rfl

@[simp] theorem leavesBelow_model :
    leavesBelow (.model cls fields) = leavesOfFields cls fields := rfl

@[simp] theorem leavesBelow_dict : leavesBelow (.dict items) = leavesOfItems items := rfl

end Unfold

theorem mem_leavesOfFields {cls : String} {fields : List (String × PyObj)}
    {p : List Step × PyObj} (h : p ∈ leavesOfFields cls fields) :
    ∃ name rest, p.1 = .field cls name :: rest := by
  induction fields with
  | nil => cases h
  | cons f fields ih =>
    rw [leavesOfFields, List.mem_append, List.mem_map] at h
    rcases h with ⟨q, -, rfl⟩ | h
    · exact ⟨_, _, rfl⟩
    · exact ih h

theorem mem_leavesOfItems {items : List (PyObj × PyObj)} {p : List Step × PyObj}
    (h : p ∈ leavesOfItems items) : ∃ k rest, p.1 = .key k :: rest := by
  induction items with
  | nil => cases h
  | cons i items ih =>
    rw [leavesOfItems, List.mem_append, List.mem_map] at h
    rcases h with ⟨q, -, rfl⟩ | h
    · exact ⟨_, _, rfl⟩
    · exact ih h

theorem shownValue_cons (ti : TypeInfo) (st st' : Step) (rest : List Step) (v : PyObj) :
    shownValue ti (st :: st' :: rest) v = shownValue ti (st' :: rest) v := by
  simp only [shownValue, List.getLast?_cons_cons]

section PrintedLine

variable (ti : TypeInfo) (c c' n n' : String) (k k' : PyObj) (r : List Step) (v : PyObj)

/-! Printing a leaf one step further down puts that step's text in front of its name. -/

theorem printedLine_field_field : printedLine ti (.field c n :: .field c' n' :: r) v =
    n ++ "." ++ printedLine ti (.field c' n' :: r) v := by
  simp only [printedLine, pathText, stepsText, Step.text, shownValue_cons, String.append_assoc]

theorem printedLine_field_key : printedLine ti (.field c n :: .key k :: r) v =
    n ++ printedLine ti (.key k :: r) v := by
  simp only [printedLine, pathText, stepsText, Step.text, shownValue_cons, String.append_assoc]

theorem printedLine_key_field : printedLine ti (.key k :: .field c' n' :: r) v =
    "[" ++ k.repr ++ "]" ++ "." ++ printedLine ti (.field c' n' :: r) v := by
  simp only [printedLine, pathText, stepsText, Step.text, shownValue_cons, String.append_assoc]

theorem printedLine_key_key : printedLine ti (.key k :: .key k' :: r) v =
    "[" ++ k.repr ++ "]" ++ printedLine ti (.key k' :: r) v := by
  simp only [printedLine, pathText, stepsText, Step.text, shownValue_cons, String.append_assoc]

end PrintedLine

section Leaf

variable {v : PyObj} (hm : v.isModel = false) (hd : ∀ d, v ≠ .dict d)
include hm hd

/-! A value that is neither a model nor a dict is a leaf: it is printed on a line of its own. -/

theorem leavesBelow_leaf : leavesBelow v = [([], v)] := by
  cases v <;> first | rfl | exact absurd rfl (hd _) | cases hm

theorem recurseFields_leaf (ti : TypeInfo) (cls name : String) (rest : List (String × PyObj))
    (pre : String) : recurseFields ti cls ((name, v) :: rest) pre =
      (pre ++ printedLine ti [.field cls name] v) :: recurseFields ti cls rest pre := by
  rw [recurseFields.eq_3 _ _ _ _ _ _ fun d h => hd d h, hm]
  simp only [Bool.false_eq_true, if_false, printedLine, pathText, stepsText, shownValue,
    List.getLast?_singleton, String.append_assoc, String.append_empty, List.singleton_append]

theorem processDict_leaf (ti : TypeInfo) (k : PyObj) (rest : List (PyObj × PyObj))
    (pre : String) : processDict ti ((k, v) :: rest) pre =
      (pre ++ printedLine ti [.key k] v) :: processDict ti rest pre := by
  rw [processDict.eq_3 _ _ _ _ _ fun d h => hd d h, hm]
  simp only [Bool.false_eq_true, if_false, printedLine, pathText, stepsText, Step.text,
    shownValue, List.getLast?_singleton, String.append_assoc, String.append_empty,
    List.singleton_append]

end Leaf

mutual

theorem recurseFields_eq (ti : TypeInfo) (cls : String) :
    ∀ (fields : List (String × PyObj)) (pre : String),
      recurseFields ti cls fields pre =
        (leavesOfFields cls fields).map fun p => pre ++ printedLine ti p.1 p.2
  | [], _ => rfl
  | (name, v) :: rest, pre => by
    rw [leavesOfFields, List.map_append, ← recurseFields_eq ti cls rest pre, List.map_map]
    match v with
    | .model cls' fs =>
      rw [recurseFields.eq_3 _ _ _ _ _ _ fun _ h => by cases h]
      simp only [PyObj.isModel, if_true, recurse_model, leavesBelow_model,
        recurseFields_eq ti cls' fs]
      congr 1
      refine List.map_congr_left fun p hp => ?_
      obtain ⟨n, r, hp1⟩ := mem_leavesOfFields hp
      simp only [Function.comp, hp1, printedLine_field_field, String.append_assoc]
    | .dict d =>
      rw [recurseFields.eq_2]
      simp only [PyObj.isModel, Bool.false_eq_true, if_false, leavesBelow_dict,
        processDict_eq ti d]
      congr 1
      refine List.map_congr_left fun p hp => ?_
      obtain ⟨k, r, hp1⟩ := mem_leavesOfItems hp
      simp only [Function.comp, hp1, printedLine_field_key, String.append_assoc]
    | .pyNone | .bool _ | .int _ | .str _ | .other _ =>
      rw [recurseFields_leaf, leavesBelow_leaf] <;> first | rfl | (intro _ h; cases h)
termination_by fields => sizeOf fields
decreasing_by all_goals simp_wf <;> omega

theorem processDict_eq (ti : TypeInfo) :
    ∀ (items : List (PyObj × PyObj)) (pre : String),
      processDict ti items pre =
        (leavesOfItems items).map fun p => pre ++ printedLine ti p.1 p.2
  | [], _ => rfl
  | (k, v) :: rest, pre => by
    rw [leavesOfItems, List.map_append, ← processDict_eq ti rest pre, List.map_map]
    match v with
    | .model cls' fs =>
      rw [processDict.eq_3 _ _ _ _ _ fun _ h => by cases h]
      simp only [PyObj.isModel, if_true, recurse_model, leavesBelow_model,
        recurseFields_eq ti cls' fs]
      congr 1
      refine List.map_congr_left fun p hp => ?_
      obtain ⟨n, r, hp1⟩ := mem_leavesOfFields hp
      simp only [Function.comp, hp1, printedLine_key_field, String.append_assoc]
    | .dict d =>
      rw [processDict.eq_2]
      simp only [PyObj.isModel, Bool.false_eq_true, if_false, leavesBelow_dict,
        processDict_eq ti d]
      congr 1
      refine List.map_congr_left fun p hp => ?_
      obtain ⟨k', r, hp1⟩ := mem_leavesOfItems hp
      simp only [Function.comp, hp1, printedLine_key_key, String.append_assoc]
    | .pyNone | .bool _ | .int _ | .str _ | .other _ =>
      rw [processDict_leaf, leavesBelow_leaf] <;> first | rfl | (intro _ h; cases h)
termination_by items => sizeOf items
decreasing_by all_goals simp_wf <;> omega

end

/-! ### The printed name of a field addresses it -/

mutual

/-- Every model reached through fields has distinct field names without a dot. -/
def PyObj.plainFields : PyObj → Bool
  | .model _ fields => decide (fields.map Prod.fst).Nodup && plainFieldList fields
  | _ => true

def plainFieldList : List (String × PyObj) → Bool
  | [] => true
  | (name, v) :: rest => !decide ('.' ∈ name.toList) && v.plainFields && plainFieldList rest

end

theorem plainFields_model_cons {cls name : String} {v : PyObj} {rest : List (String × PyObj)} :
    (PyObj.model cls ((name, v) :: rest)).plainFields = true ↔
      name ∉ rest.map Prod.fst ∧ '.' ∉ name.toList ∧ v.plainFields = true ∧
        (PyObj.model cls rest).plainFields = true := by
  simp only [PyObj.plainFields, plainFieldList, List.map_cons, List.nodup_cons, Bool.and_eq_true,
    decide_eq_true_eq, Bool.not_eq_true', decide_eq_false_iff_not]
  tauto

/-- The names of a path of model fields, or `none` for a path with a dict subscript. -/
def fieldNames : List Step → Option (List String)
  | [] => some []
  | .field _ name :: rest => (fieldNames rest).map (name :: ·)
  | .key _ :: _ => none

theorem mem_keys_of_lookup {l : List (String × PyObj)} {k : String} {v : PyObj}
    (h : l.lookup k = some v) : k ∈ l.map Prod.fst := by
  induction l with
  | nil => cases h
  | cons kv l ih =>
    rw [PyDict.lookup_cons_ite] at h
    split_ifs at h with hk
    · exact hk ▸ List.mem_cons_self _ _
    · exact List.mem_cons_of_mem _ (ih h)

theorem fieldAt_of_mem_leavesOfFields {cls : String} :
    ∀ {fields : List (String × PyObj)}, (PyObj.model cls fields).plainFields = true →
      ∀ {p : List Step × PyObj} {names : List String}, p ∈ leavesOfFields cls fields →
        fieldNames p.1 = some names →
        (PyObj.model cls fields).fieldAt names = some p.2 ∧ ∀ n ∈ names, '.' ∉ n.toList
  | [], _, _, _, hp, _ => by cases hp
  | (name, v) :: rest, hwf, p, names, hp, hn => by
    obtain ⟨hnodup, hdot, hv, hrest⟩ := plainFields_model_cons.mp hwf
    rw [leavesOfFields, List.mem_append, List.mem_map] at hp
    rcases hp with ⟨q, hq, rfl⟩ | hp
    · obtain ⟨ns, hns, rfl⟩ := Option.map_eq_some'.mp hn
      have hhead : (PyObj.model cls ((name, v) :: rest)).fieldAt (name :: ns) = v.fieldAt ns := by
        simp [PyObj.fieldAt]
      rw [hhead, List.forall_mem_cons]
      cases v with
      | model cls' fs =>
        obtain ⟨h1, h2⟩ := fieldAt_of_mem_leavesOfFields hv hq hns
        exact ⟨h1, hdot, h2⟩
      | dict d =>
        obtain ⟨k, r, hq1⟩ := mem_leavesOfItems hq
        rw [hq1] at hns
        cases hns
      | _ =>
        obtain rfl := List.mem_singleton.mp hq
        cases hns
        exact ⟨PyObj.fieldAt_nil _, hdot, fun _ h => nomatch h⟩
    · obtain ⟨n, r, hp1⟩ := mem_leavesOfFields hp
      obtain ⟨ns, -, rfl⟩ :=
        Option.map_eq_some'.mp (hp1 ▸ hn : fieldNames (.field cls n :: r) = _)
      obtain ⟨h1, h2⟩ := fieldAt_of_mem_leavesOfFields hrest hp hn
      obtain ⟨c, hc, -⟩ := Option.bind_eq_some.mp h1
      have hne : n ≠ name := fun h => hnodup (h ▸ mem_keys_of_lookup hc)
      exact ⟨by simpa [PyObj.fieldAt, hne] using h1, h2⟩
termination_by fields => sizeOf fields
decreasing_by all_goals subst_vars; simp_wf <;> omega

theorem pathText_field_field (c c' n n' : String) (r : List Step) :
    pathText (.field c n :: .field c' n' :: r) = n ++ ("." ++ pathText (.field c' n' :: r)) := by
  simp only [pathText, stepsText, Step.text, String.append_assoc]

theorem splitPath_pathText {c n : String} :
    ∀ {r : List Step} {names : List String}, fieldNames (.field c n :: r) = some names →
      (∀ m ∈ names, '.' ∉ m.toList) → splitPath (pathText (.field c n :: r)) = names
  | [], names, h, hdot => by
    cases h
    show pySplit '.' (n ++ "") = [n]
    rw [String.append_empty]
    exact pySplit_of_not_mem (hdot n (List.mem_singleton_self n))
  | .field c' n' :: r, names, h, hdot => by
    obtain ⟨ns, hns, rfl⟩ := Option.map_eq_some'.mp h
    rw [List.forall_mem_cons] at hdot
    rw [splitPath, pathText_field_field, show "." = String.mk ['.'] from rfl,
      pySplit_append_sep hdot.1, ← splitPath, splitPath_pathText hns hdot.2]
  | .key _ :: _, _, h, _ => by cases h

theorem splitPath_of_mem_leavesOfFields {cls : String} {fields : List (String × PyObj)}
    (hwf : (PyObj.model cls fields).plainFields = true) {p : List Step × PyObj}
    (hp : p ∈ leavesOfFields cls fields) {names : List String} (hn : fieldNames p.1 = some names) :
    splitPath (pathText p.1) = names ∧ (PyObj.model cls fields).fieldAt names = some p.2 := by
  obtain ⟨n, r, hp1⟩ := mem_leavesOfFields hp
  obtain ⟨hat, hdot⟩ := fieldAt_of_mem_leavesOfFields hwf hp hn
  rw [hp1] at hn ⊢
  exact ⟨splitPath_pathText hn hdot, hat⟩

/-- Every name `stringify_model` prints without a subscript addresses the field it shows. -/
theorem printed_field_names_address_fields (rt : Runtime) (ti : TypeInfo) (cls : String)
    (fields : List (String × PyObj)) (hwf : (PyObj.model cls fields).plainFields = true) :
    stringifyModel ti (.model cls fields) =
        (leavesOfFields cls fields).map (fun p => printedLine ti p.1 p.2) ∧
      ∀ p ∈ leavesOfFields cls fields, ∀ names, fieldNames p.1 = some names →
        splitPath (pathText p.1) = names ∧
          AddressesField rt (.model cls fields) (pathText p.1) p.2 := by
  refine ⟨by simp only [stringifyModel, recurse_model, recurseFields_eq, String.empty_append],
    fun p hp names hn => ?_⟩
  obtain ⟨hsplit, hat⟩ := splitPath_of_mem_leavesOfFields hwf hp hn
  exact ⟨hsplit, addressesField_of_fieldAt rt (hsplit ▸ hat)⟩

def sampleFields : List (String × PyObj) :=
  [("info", .model "InfoSettings" [("name", .str "pyatv"), ("model", .pyNone)]),
    ("protocols", .model "ProtocolSettings"
      [("airplay", .model "AirPlaySettings" [("password", .pyNone), ("identifier", .str "aa")])]),
    ("extra", .dict [(.str "k", .int 1)])]

def sampleTypes : TypeInfo where
  annotations cls name :=
    if cls = "AirPlaySettings" ∧ name = "password" then
      some (.union [some "str", some "NoneType"])
    else none
  otherType _ := "object"

example : stringifyModel sampleTypes (.model "Settings" sampleFields) =
    ["info.name = pyatv (str)", "info.model = None (NoneType)",
      "protocols.airplay.password = None (str, NoneType)",
      "protocols.airplay.identifier = aa (str)", "extra['k'] = 1 (int)"] := by decide

theorem printed_field_names_address_fields_settings :
    (PyObj.model "Settings" sampleFields).plainFields = true ∧
      (stringifyModel sampleTypes (.model "Settings" sampleFields) =
          (leavesOfFields "Settings" sampleFields).map
            (fun p => printedLine sampleTypes p.1 p.2) ∧
        ∀ p ∈ leavesOfFields "Settings" sampleFields, ∀ names, fieldNames p.1 = some names →
          splitPath (pathText p.1) = names ∧
            AddressesField boolSettings (.model "Settings" sampleFields) (pathText p.1) p.2) :=
  have h : (PyObj.model "Settings" sampleFields).plainFields = true := by decide
  ⟨h, printed_field_names_address_fields boolSettings sampleTypes "Settings" sampleFields h⟩

def extraSettings : Runtime where
  classOf _ := { fields := [], extra := .allow }
  builtinHasAttr _ _ := false

/-- An extra key with a dot is listed, but `update_model_field` cannot address it. -/
theorem dotted_extra_key_not_addressable :
    stringifyModel sampleTypes (.model "Settings" [("a.b", .int 1)]) = ["a.b = 1 (int)"] ∧
    updateModelField extraSettings (.model "Settings" [("a.b", .int 1)]) "a.b" (.int 2) =
      (.model "Settings" [("a.b", .int 1)], .error (.attributeError "a.b=1 has no field a")) :=
  ⟨by decide, by rw [updateModelField_eq_updatePath]; rfl⟩

end Pyatv.Support
