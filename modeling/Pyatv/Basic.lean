import Mathlib.Data.List.Nodup
import Mathlib.Data.Nat.Digits

namespace Pyatv

/-- Exceptions raised by the modelled code, by Python class. -/
inductive PyError where
  | valueError (msg : String)
  | runtimeError (msg : String)
  | attributeError (msg : String)
  | indexError (msg : String)
  | validationError (msg : String)
  /-- An exception of any other class, raised by code outside the model (a backend routine). -/
  | raised (cls msg : String)
  deriving DecidableEq, Repr

def PyError.cls : PyError → String
  | .valueError _ => "ValueError"
  | .runtimeError _ => "RuntimeError"
  | .attributeError _ => "AttributeError"
  | .indexError _ => "IndexError"
  | .validationError _ => "ValidationError"
  | .raised cls _ => cls

def PyError.msg : PyError → String
  | .valueError m | .runtimeError m | .attributeError m | .indexError m | .validationError m => m
  | .raised _ m => m

/-- The `__mro__` of the built-in exception classes the model raises, by class name. -/
def builtinMro : String → Option (List String)
  | "ValueError" => some ["ValueError", "Exception", "BaseException", "object"]
  | "ValidationError" =>
    some ["ValidationError", "Representation", "ValueError", "Exception", "BaseException", "object"]
  | "AddressValueError" =>
    some ["AddressValueError", "ValueError", "Exception", "BaseException", "object"]
  | "AttributeError" => some ["AttributeError", "Exception", "BaseException", "object"]
  | "TypeError" => some ["TypeError", "Exception", "BaseException", "object"]
  | "IndexError" => some ["IndexError", "LookupError", "Exception", "BaseException", "object"]
  | "RuntimeError" => some ["RuntimeError", "Exception", "BaseException", "object"]
  | "KeyboardInterrupt" => some ["KeyboardInterrupt", "BaseException", "object"]
  | "SystemExit" => some ["SystemExit", "BaseException", "object"]
  | _ => none

theorem mem_builtinMro {c : String} {mro : List String} (h : builtinMro c = some mro) : c ∈ mro := by
  unfold builtinMro at h
  split at h <;> first | (cases h; decide) | cases h

/-- `issubclass` on exception classes, by name, as `builtinMro` has it for the built-ins. -/
structure Hierarchy where
  isSubclass : String → String → Bool
  refl : ∀ c, isSubclass c c = true
  builtin : ∀ c mro, builtinMro c = some mro → ∀ base, isSubclass c base = decide (base ∈ mro)

/-- Classes outside `Exception` besides the built-ins; `CancelledError` is asyncio's. -/
def baseExceptionOnly : List String := ["BaseExceptionGroup", "GeneratorExit", "CancelledError"]

/-- Built-ins by their `__mro__`; any other class derives from `Exception` or `BaseException`. -/
def Hierarchy.byName : Hierarchy where
  isSubclass c base :=
    match builtinMro c with
    | some mro => decide (base ∈ mro)
    | none => c == base || base == "BaseException" || base == "object" ||
        (base == "Exception" && !baseExceptionOnly.contains c)
  refl c := by
    cases h : builtinMro c with
    | some mro => simpa [h] using mem_builtinMro h
    | none => simp [h]
  builtin c mro h base := by simp only [h]

/-- What `except Exception` catches. -/
def PyError.isException (classes : Hierarchy) (e : PyError) : Bool :=
  classes.isSubclass e.cls "Exception"

inductive Protocol where
  | DMAP
  | MRP
  | AirPlay
  | Companion
  | RAOP
  deriving DecidableEq, Repr

def Protocol.value : Protocol → Nat
  | .DMAP => 1
  | .MRP => 2
  | .AirPlay => 3
  | .Companion => 4
  | .RAOP => 5

def Protocol.name : Protocol → String
  | .DMAP => "DMAP"
  | .MRP => "MRP"
  | .AirPlay => "AirPlay"
  | .Companion => "Companion"
  | .RAOP => "RAOP"

/-- The members in definition order, as `for proto in Protocol` visits them. -/
def Protocol.all : List Protocol := [.DMAP, .MRP, .AirPlay, .Companion, .RAOP]

theorem Protocol.mem_all (p : Protocol) : p ∈ Protocol.all := by
  cases p <;> decide

def Protocol.pyRepr (p : Protocol) : String := s!"<Protocol.{p.name}: {p.value}>"

@[simp] theorem string_toList_mk (l : List Char) : (String.mk l).toList = l := rfl

/-- `s.split(sep)` for a one-character separator. -/
def pySplit (sep : Char) (s : String) : List String := (s.toList.splitOn sep).map String.mk

/-- `s.split(sep, maxsplit=1)` for a one-character separator. -/
def pySplitOnce (sep : Char) (s : String) : List String :=
  match s.toList.span (· != sep) with
  | (pre, []) => [String.mk pre]
  | (pre, _ :: post) => [String.mk pre, String.mk post]

theorem pySplit_ne_nil (sep : Char) (s : String) : pySplit sep s ≠ [] := by
  simp [pySplit, List.splitOn, List.splitOnP_ne_nil]

theorem pySplitOnce_cases (sep : Char) (s : String) :
    (pySplitOnce sep s = [s] ∧ pySplit sep s = [s]) ∨
      ∃ a b, pySplitOnce sep s = [a, b] ∧ pySplit sep s = a :: pySplit sep b ∧
        b.length < s.length := by
  obtain ⟨l⟩ := s
  have hl := List.takeWhile_append_dropWhile (· != sep) l
  have hne : ∀ c ∈ l.takeWhile (· != sep), ¬ (c == sep) = true := fun c hc => by
    simpa using List.mem_takeWhile_imp hc
  simp only [pySplitOnce, pySplit, List.span_eq_take_drop, String.length, string_toList_mk]
  cases hd : l.dropWhile (· != sep) with
  | nil =>
    have ht : l.takeWhile (· != sep) = l :=
      List.takeWhile_eq_self_iff.mpr (List.dropWhile_eq_nil_iff.mp hd)
    rw [ht] at hne
    left
    simp only [ht, List.splitOn, List.splitOnP_eq_single _ _ hne, List.map_cons, List.map_nil]
    exact ⟨trivial, trivial⟩
  | cons c post =>
    have hc : c = sep := by
      simpa [hd] using List.head_dropWhile_not (· != sep) l (by simp [hd])
    rw [hd, hc] at hl
    right
    refine ⟨_, _, rfl, ?_, ?_⟩
    · conv_lhs => rw [← hl]
      simp only [List.splitOn, List.splitOnP_first _ _ hne sep (beq_self_eq_true sep),
        List.map_cons]
      rfl
    · show post.length < l.length
      rw [← hl, List.length_append, List.length_cons]
      omega

theorem pySplitOnce_length_lt {sep : Char} {s a b : String} {t : List String}
    (h : pySplitOnce sep s = a :: b :: t) : b.length < s.length := by
  rcases pySplitOnce_cases sep s with ⟨h1, -⟩ | ⟨_, _, h1, -, hlt⟩ <;> rw [h1] at h <;>
    cases h
  exact hlt

theorem pySplit_of_not_mem {sep : Char} {s : String} (h : sep ∉ s.toList) :
    pySplit sep s = [s] := by
  have hne : ∀ c ∈ s.toList, ¬ (c == sep) = true := fun c hc hs => h (beq_iff_eq.mp hs ▸ hc)
  simp only [pySplit, List.splitOn, List.splitOnP_eq_single _ _ hne, List.map_cons, List.map_nil]
  rfl

theorem pySplit_append_sep {sep : Char} {a : String} (h : sep ∉ a.toList) (b : String) :
    pySplit sep (a ++ (String.mk [sep] ++ b)) = a :: pySplit sep b := by
  have hne : ∀ c ∈ a.toList, ¬ (c == sep) = true := fun c hc hs => h (beq_iff_eq.mp hs ▸ hc)
  show ((a.toList ++ sep :: b.toList).splitOn sep).map String.mk = _
  simp only [List.splitOn, List.splitOnP_first _ _ hne sep (beq_self_eq_true sep), List.map_cons]
  rfl

def isPySpace (c : Char) : Bool :=
  (9 ≤ c.toNat && c.toNat ≤ 13) || (28 ≤ c.toNat && c.toNat ≤ 32) || c.toNat = 0x85 ||
    c.toNat = 0xa0 || c.toNat = 0x1680 || (0x2000 ≤ c.toNat && c.toNat ≤ 0x200a) ||
    c.toNat = 0x2028 || c.toNat = 0x2029 || c.toNat = 0x202f || c.toNat = 0x205f ||
    c.toNat = 0x3000

def pyStrip (l : List Char) : List Char :=
  ((l.dropWhile isPySpace).reverse.dropWhile isPySpace).reverse

def digitValue (c : Char) : Nat := c.toNat - '0'.toNat

def readDigits (acc : Nat) : List Char → Option Nat
  | [] => some acc
  | '_' :: d :: rest => if d.isDigit then readDigits (10 * acc + digitValue d) rest else none
  | d :: rest => if d.isDigit then readDigits (10 * acc + digitValue d) rest else none

def readDecimal : List Char → Option Nat
  | d :: rest => if d.isDigit then readDigits (digitValue d) rest else none
  | [] => none

def hex2 (n : Nat) : List Char := [Nat.digitChar (n / 16 % 16), Nat.digitChar (n % 16)]

/-- `repr(s)` of a `str`; characters beyond ASCII are kept as they are. -/
def pyReprStr (s : String) : String :=
  let q : Char := if s.toList.contains '\x27' && !s.toList.contains '\x22' then '\x22' else '\x27'
  let esc : Char → List Char := fun c =>
    if c = q ∨ c = '\\' then ['\\', c]
    else if c = '\t' then ['\\', 't']
    else if c = '\n' then ['\\', 'n']
    else if c = '\r' then ['\\', 'r']
    else if c.toNat < 0x20 ∨ c.toNat = 0x7f then '\\' :: 'x' :: hex2 c.toNat
    else [c]
  String.mk (q :: (s.toList.flatMap esc ++ [q]))

def pyInt (s : String) : Except PyError Int :=
  let n : Option Int :=
    match pyStrip s.toList with
    | '-' :: ds => (readDecimal ds).map fun m => -(m : Int)
    | '+' :: ds => (readDecimal ds).map fun m => (m : Int)
    | ds => (readDecimal ds).map fun m => (m : Int)
  match n with
  | some n => .ok n
  | none => .error (.valueError s!"invalid literal for int() with base 10: {pyReprStr s}")

def digitsValue (acc : Nat) (l : List Char) : Nat :=
  l.foldl (fun a c => 10 * a + digitValue c) acc

theorem digitsValue_append (acc : Nat) (l l' : List Char) :
    digitsValue acc (l ++ l') = digitsValue (digitsValue acc l) l' :=
  List.foldl_append _ _ _ _

theorem readDigits_of_digits (acc : Nat) {l : List Char} (hd : ∀ c ∈ l, c.isDigit) :
    readDigits acc l = some (digitsValue acc l) := by
  induction l generalizing acc with
  | nil => rfl
  | cons c rest ih =>
    have hc : c.isDigit = true := hd c (List.mem_cons_self c rest)
    have hu : c ≠ '_' := by rintro rfl; exact absurd hc (by decide)
    rw [readDigits.eq_3 acc c rest fun _ _ h _ => hu h, if_pos hc]
    exact ih _ fun c h => hd c (List.mem_cons_of_mem _ h)

theorem toDigitsCore_append (f n : Nat) (ds : List Char) :
    Nat.toDigitsCore 10 f n ds = Nat.toDigitsCore 10 f n [] ++ ds := by
  induction f generalizing n ds with
  | zero => rfl
  | succ f ih =>
    simp only [Nat.toDigitsCore]
    split
    · rfl
    · rw [ih _ (_ :: ds), ih _ [_]]; simp

theorem digitChar_isDigit : ∀ d < 10, (Nat.digitChar d).isDigit = true := by decide

theorem digitValue_digitChar : ∀ d < 10, digitValue (Nat.digitChar d) = d := by decide

theorem toDigitsCore_isDigit (f n : Nat) : ∀ c ∈ Nat.toDigitsCore 10 f n [], c.isDigit := by
  induction f generalizing n with
  | zero => simp [Nat.toDigitsCore]
  | succ f ih =>
    simp only [Nat.toDigitsCore]
    split
    · simpa using digitChar_isDigit _ (Nat.mod_lt n (by decide))
    · rw [toDigitsCore_append]
      intro c hc
      rcases List.mem_append.mp hc with hc | hc
      · exact ih _ c hc
      · rw [List.mem_singleton.mp hc]; exact digitChar_isDigit _ (Nat.mod_lt n (by decide))

theorem digitsValue_toDigitsCore (f n : Nat) (hf : n < f) :
    digitsValue 0 (Nat.toDigitsCore 10 f n []) = n := by
  induction f generalizing n with
  | zero => omega
  | succ f ih =>
    simp only [Nat.toDigitsCore]
    split
    · simp [digitsValue, digitValue_digitChar _ (Nat.mod_lt n (by decide))]; omega
    · rw [toDigitsCore_append, digitsValue_append, ih _ (by omega)]
      simp [digitsValue, digitValue_digitChar _ (Nat.mod_lt n (by decide))]
      omega

theorem isPySpace_of_isDigit {c : Char} (h : c.isDigit) : isPySpace c = false := by
  simp only [Char.isDigit, Bool.and_eq_true, decide_eq_true_eq] at h
  have h1 : 48 ≤ c.toNat := h.1
  have h2 : c.toNat ≤ 57 := h.2
  simp only [isPySpace, Bool.or_eq_false_iff, Bool.and_eq_false_iff, decide_eq_false_iff_not]
  omega

theorem dropWhile_isPySpace {l : List Char} (h : ∀ c ∈ l, isPySpace c = false) :
    l.dropWhile isPySpace = l := by
  cases l with
  | nil => rfl
  | cons c rest => simp [List.dropWhile_cons, h c (List.mem_cons_self c rest)]

theorem pyStrip_of_not_space {l : List Char} (h : ∀ c ∈ l, isPySpace c = false) :
    pyStrip l = l := by
  rw [pyStrip, dropWhile_isPySpace h, dropWhile_isPySpace (by simpa using h), List.reverse_reverse]

theorem readDecimal_of_digits {l : List Char} (hne : l ≠ []) (hd : ∀ c ∈ l, c.isDigit) :
    readDecimal l = some (digitsValue 0 l) := by
  obtain ⟨d, rest, rfl⟩ := List.exists_cons_of_ne_nil hne
  simp [readDecimal, hd d (List.mem_cons_self d rest),
    readDigits_of_digits _ fun c hc => hd c (List.mem_cons_of_mem d hc), digitsValue]

theorem pyInt_of_digits {l : List Char} (hne : l ≠ []) (hd : ∀ c ∈ l, c.isDigit) :
    pyInt (String.mk l) = .ok (digitsValue 0 l) ∧
      pyInt (String.mk ('-' :: l)) = .ok (-(digitsValue 0 l : Int)) := by
  have hs : ∀ c ∈ l, isPySpace c = false := fun c hc => isPySpace_of_isDigit (hd c hc)
  obtain ⟨d, rest, rfl⟩ := List.exists_cons_of_ne_nil hne
  have hd1 : d ≠ '-' := by rintro rfl; exact absurd (hd _ (List.mem_cons_self _ _)) (by decide)
  have hd2 : d ≠ '+' := by rintro rfl; exact absurd (hd _ (List.mem_cons_self _ _)) (by decide)
  have hs' : ∀ c ∈ '-' :: d :: rest, isPySpace c = false := by
    intro c hc
    rcases List.mem_cons.mp hc with rfl | hc
    · decide
    · exact hs c hc
  constructor
  · simp only [pyInt, string_toList_mk, pyStrip_of_not_space hs, List.cons.injEq, hd1, hd2,
      false_and, imp_self, implies_true, readDecimal_of_digits hne hd, Option.pure_def,
      Option.bind_eq_bind, Option.some_bind, Option.map_some']
  · simp only [pyInt, string_toList_mk, pyStrip_of_not_space hs', readDecimal_of_digits hne hd,
      Option.pure_def, Option.bind_eq_bind, Option.some_bind, Option.map_some']

theorem toDigits_ne_nil (n : Nat) : Nat.toDigits 10 n ≠ [] := by
  simp only [Nat.toDigits, Nat.toDigitsCore]
  split
  · exact List.cons_ne_nil _ _
  · rw [toDigitsCore_append]; exact List.append_ne_nil_of_right_ne_nil _ (List.cons_ne_nil _ _)

theorem pyInt_toString (i : Int) : pyInt (toString i) = .ok i := by
  have hd := toDigitsCore_isDigit
  cases i with
  | ofNat m =>
    have h := (pyInt_of_digits (toDigits_ne_nil m) (hd _ m)).1
    rw [Nat.toDigits, digitsValue_toDigitsCore _ _ (Nat.lt_succ_self m)] at h
    exact h
  | negSucc m =>
    have h := (pyInt_of_digits (toDigits_ne_nil (m + 1)) (hd _ (m + 1))).2
    rw [Nat.toDigits, digitsValue_toDigitsCore _ _ (Nat.lt_succ_self (m + 1))] at h
    exact h

/-- A Python `dict`: its items in insertion order, each key once. -/
structure PyDict (K V : Type) where
  items : List (K × V)
  nodup : (items.map Prod.fst).Nodup

namespace PyDict

variable {K V : Type} [DecidableEq K]

/-- `d[key] = value` on the items: a key keeps the position of its first insertion. -/
def setItem (key : K) (value : V) : List (K × V) → List (K × V)
  | [] => [(key, value)]
  | kv :: rest => if kv.1 = key then (key, value) :: rest else kv :: setItem key value rest

theorem keys_setItem (key : K) (value : V) (l : List (K × V)) :
    (setItem key value l).map Prod.fst =
      if key ∈ l.map Prod.fst then l.map Prod.fst else l.map Prod.fst ++ [key] := by
  induction l with
  | nil => rfl
  | cons kv rest ih =>
    by_cases h : kv.1 = key
    · rw [setItem, if_pos h, List.map_cons, List.map_cons,
        if_pos (List.mem_cons.mpr (.inl h.symm)), h]
    · rw [setItem, if_neg h, List.map_cons, List.map_cons, ih]
      simp only [List.mem_cons, Ne.symm h, false_or]
      split_ifs <;> rfl

@[simp] theorem lookup_cons_ite (k : K) (kv : K × V) (l : List (K × V)) :
    (kv :: l).lookup k = if k = kv.1 then some kv.2 else l.lookup k := by
  obtain ⟨k', v⟩ := kv
  by_cases h : k = k'
  · simp [List.lookup_cons, h]
  · simp [List.lookup_cons, h, beq_eq_false_iff_ne.mpr h]

theorem lookup_setItem (key k : K) (value : V) (l : List (K × V)) :
    (setItem key value l).lookup k = if k = key then some value else l.lookup k := by
  induction l with
  | nil => by_cases hk : k = key <;> simp [setItem, hk]
  | cons kv rest ih =>
    by_cases h : kv.1 = key
    · by_cases hk : k = key <;> simp [setItem, h, hk]
    · by_cases hk : k = kv.1 <;> simp [setItem, h, hk, ih, Ne.symm h]

@[simp] theorem setItem_setItem (key : K) (v w : V) (l : List (K × V)) :
    setItem key v (setItem key w l) = setItem key v l := by
  induction l with
  | nil => simp [setItem]
  | cons kv rest ih =>
    by_cases h : kv.1 = key
    · simp [setItem, h]
    · simp [setItem, h, ih]

theorem setItem_of_lookup (key : K) (value : V) {l : List (K × V)}
    (h : l.lookup key = some value) : setItem key value l = l := by
  induction l with
  | nil => cases h
  | cons kv rest ih =>
    by_cases hk : kv.1 = key
    · obtain ⟨k, v⟩ := kv
      simp only at hk; subst hk
      simp only [lookup_cons_ite, ite_true, Option.some.injEq] at h
      simp [setItem, h]
    · rw [lookup_cons_ite, if_neg (Ne.symm hk)] at h
      simp [setItem, hk, ih h]

theorem setItem_of_not_mem (key : K) (value : V) {l : List (K × V)}
    (h : key ∉ l.map Prod.fst) : setItem key value l = l ++ [(key, value)] := by
  induction l with
  | nil => rfl
  | cons kv rest ih =>
    rw [List.map_cons, List.mem_cons, not_or] at h
    rw [setItem, if_neg (Ne.symm h.1), ih h.2, List.cons_append]

theorem nodup_setItem (key : K) (value : V) {l : List (K × V)} (h : (l.map Prod.fst).Nodup) :
    ((setItem key value l).map Prod.fst).Nodup := by
  rw [keys_setItem]
  split_ifs with hk
  · exact h
  · exact h.append (List.nodup_singleton key) (List.disjoint_singleton.mpr hk)

def empty : PyDict K V := ⟨[], List.nodup_nil⟩

def set (d : PyDict K V) (key : K) (value : V) : PyDict K V :=
  ⟨setItem key value d.items, nodup_setItem key value d.nodup⟩

def get? (d : PyDict K V) (key : K) : Option V := d.items.lookup key

def keys (d : PyDict K V) : List K := d.items.map Prod.fst

@[simp] theorem get?_empty (k : K) : (empty : PyDict K V).get? k = none := rfl

@[simp] theorem get?_set (d : PyDict K V) (key k : K) (value : V) :
    (d.set key value).get? k = if k = key then some value else d.get? k :=
  lookup_setItem key k value d.items

theorem keys_set (d : PyDict K V) (key : K) (value : V) :
    (d.set key value).keys = if key ∈ d.keys then d.keys else d.keys ++ [key] :=
  keys_setItem key value d.items

theorem mem_keys_of_get? {d : PyDict K V} {k : K} {v : V} (h : d.get? k = some v) :
    k ∈ d.keys := by
  revert h
  unfold get? keys
  induction d.items with
  | nil => intro h; cases h
  | cons kv rest ih =>
    intro h
    rw [lookup_cons_ite] at h
    split_ifs at h with hk
    · exact hk ▸ List.mem_cons_self _ _
    · exact List.mem_cons_of_mem _ (ih h)

theorem items_eq_filterMap (d : PyDict K V) :
    d.items = d.keys.filterMap fun k => (d.get? k).map (k, ·) := by
  obtain ⟨l, hl⟩ := d
  simp only [keys, get?]
  induction l with
  | nil => rfl
  | cons kv rest ih =>
    obtain ⟨hk, hrest⟩ := List.nodup_cons.mp hl
    have hfr : (rest.map Prod.fst).filterMap (fun k => ((kv :: rest).lookup k).map (k, ·)) =
        (rest.map Prod.fst).filterMap (fun k => (rest.lookup k).map (k, ·)) :=
      List.filterMap_congr fun k hm => by rw [lookup_cons_ite, if_neg (by rintro rfl; exact hk hm)]
    rw [List.map_cons, List.filterMap_cons, hfr, ← ih hrest]
    simp

def ofList (l : List (K × V)) : PyDict K V := l.foldl (fun d kv => d.set kv.1 kv.2) empty

theorem ofList_append_singleton (l : List (K × V)) (kv : K × V) :
    ofList (l ++ [kv]) = (ofList l).set kv.1 kv.2 := by
  simp [ofList, List.foldl_append]

theorem mem_eraseDups_loop (k : K) (l bs : List K) :
    k ∈ List.eraseDups.loop l bs ↔ k ∈ l ∨ k ∈ bs := by
  induction l generalizing bs with
  | nil => simp [List.eraseDups.loop]
  | cons a l ih =>
    by_cases ha : a ∈ bs
    · by_cases hk : k = a
      · subst hk; simp [List.eraseDups.loop, List.elem_eq_mem, ha, ih]
      · simp [List.eraseDups.loop, List.elem_eq_mem, ha, ih, hk]
    · simp only [List.eraseDups.loop, List.elem_eq_mem, ha, decide_False, ih, List.mem_cons]
      exact or_left_comm.trans or_assoc.symm

theorem eraseDups_loop_append_singleton (l bs : List K) (k : K) :
    List.eraseDups.loop (l ++ [k]) bs =
      if k ∈ l ∨ k ∈ bs then List.eraseDups.loop l bs
      else List.eraseDups.loop l bs ++ [k] := by
  induction l generalizing bs with
  | nil => by_cases h : k ∈ bs <;> simp [List.eraseDups.loop, List.elem_eq_mem, h]
  | cons a l ih =>
    by_cases hk : k = a
    · subst hk
      by_cases ha : k ∈ bs <;> simp [List.eraseDups.loop, List.elem_eq_mem, ha, ih]
    · by_cases ha : a ∈ bs <;> simp [List.eraseDups.loop, List.elem_eq_mem, ha, ih, hk]

theorem keys_ofList (l : List (K × V)) : (ofList l).keys = (l.map Prod.fst).eraseDups := by
  induction l using List.reverseRecOn with
  | nil => rfl
  | append_singleton l kv ih =>
    rw [ofList_append_singleton, keys_set, ih]
    simp only [List.eraseDups, List.map_append, List.map_cons, List.map_nil,
      eraseDups_loop_append_singleton, mem_eraseDups_loop]

theorem get?_ofList (l : List (K × V)) (k : K) : (ofList l).get? k = l.reverse.lookup k := by
  induction l using List.reverseRecOn with
  | nil => rfl
  | append_singleton l kv ih => simp [ofList_append_singleton, ih]

end PyDict

end Pyatv
