import Pyatv.Basic
import Mathlib.Data.String.Basic

namespace Pyatv.Support

/-! ### `_shorten` and the log helpers -/

/-- `l[:stop]`: the first `stop` elements, where a negative `stop` counts from the end. -/
def sliceTo {α : Type} (l : List α) (stop : Int) : List α :=
  if 0 ≤ stop then l.take stop.toNat else l.take (l.length - stop.natAbs)

def shorten (text : String) (length : Int) : String :=
  if (text.length : Int) < length then text
  else String.mk (sliceTo text.toList (length - 3) ++ "...".toList)

theorem length_sliceTo {α : Type} (l : List α) (stop : Int) :
    ((sliceTo l stop).length : Int) = if 0 ≤ stop then min stop l.length
      else max (l.length + stop) 0 := by
  unfold sliceTo
  split_ifs with h
  · rw [List.length_take, Nat.cast_min, Int.toNat_of_nonneg h]
  · have hs : (stop.natAbs : Int) = -stop := Int.ofNat_natAbs_of_nonpos (by omega)
    rw [List.length_take]
    omega

theorem length_shorten (text : String) (length : Int) :
    ((shorten text length).length : Int) =
      if (text.length : Int) < length then (text.length : Int)
      else (if 0 ≤ length - 3 then min (length - 3) text.length
        else max (text.length + (length - 3)) 0) + 3 := by
  have ht : text.toList.length = text.length := rfl
  have h3 : ("...".toList.length : Int) = 3 := rfl
  unfold shorten
  by_cases h : (text.length : Int) < length
  · rw [if_pos h, if_pos h]
  · rw [if_neg h, if_neg h]
    show ((sliceTo text.toList (length - 3) ++ "...".toList).length : Int) = _
    rw [List.length_append, Nat.cast_add, length_sliceTo, ht, h3]

/-- `_shorten` keeps to a limit of at least 3, and lengthens texts under a limit of 1 or 2. -/
theorem shorten_length (text : String) (length : Int) :
    (3 ≤ length → ((shorten text length).length : Int) ≤ length ∧
      ((text.length : Int) < length → shorten text length = text)) ∧
    (0 < length → length < 3 → 3 ≤ text.length →
      text.length < (shorten text length).length) := by
  have h := length_shorten text length
  refine ⟨fun h3 => ⟨by split_ifs at h <;> omega, fun ht => if_pos ht⟩, fun h0 h3 ht => ?_⟩
  split_ifs at h <;> omega

/-! ### `_shorten` of `bytes`, and `prettydataclass` -/

def bytesQuote (b : List UInt8) : UInt8 :=
  if b.contains 0x27 && !b.contains 0x22 then 0x22 else 0x27

def bytesEscape (q c : UInt8) : List Char :=
  if c = q ∨ c = 0x5c then ['\\', Char.ofNat c.toNat]
  else if c = 0x09 then ['\\', 't']
  else if c = 0x0a then ['\\', 'n']
  else if c = 0x0d then ['\\', 'r']
  else if c < 0x20 ∨ 0x7f ≤ c then '\\' :: 'x' :: hex2 c.toNat
  else [Char.ofNat c.toNat]

def pyReprBytes (b : List UInt8) : String :=
  let q := Char.ofNat (bytesQuote b).toNat
  String.mk ('b' :: q :: (b.flatMap (bytesEscape (bytesQuote b)) ++ [q]))

/-- `_shorten(text, length)` of a `bytes` value: `str()` of the cut value. -/
def shortenBytes (text : List UInt8) (length : Int) : String :=
  pyReprBytes (if (text.length : Int) < length then text else sliceTo text (length - 3) ++ [46, 46, 46])

inductive ReprValue where
  | str (s : String)
  | bytes (b : List UInt8)
  | other (text : String)
  deriving DecidableEq, Repr

def formatValue (maxLength : Int) : ReprValue → String
  | .str s => shorten s maxLength
  | .bytes b => shortenBytes b maxLength
  | .other text => text

/-- The `__repr__` that `prettydataclass(max_length)` installs. -/
def prettyRepr (maxLength : Int) (cls : String) (fields : List (String × ReprValue)) : String :=
  cls ++ "(" ++ ", ".intercalate (fields.map fun f => f.1 ++ "=" ++ formatValue maxLength f.2) ++ ")"

theorem length_le_length_flatMap {α β : Type} (f : α → List β) (hf : ∀ a, 1 ≤ (f a).length) :
    ∀ l : List α, l.length ≤ (l.flatMap f).length
  | [] => le_refl 0
  | a :: l => by
    rw [List.flatMap_cons, List.length_append, List.length_cons]
    have := length_le_length_flatMap f hf l
    have := hf a
    omega

theorem one_le_length_bytesEscape (q c : UInt8) : 1 ≤ (bytesEscape q c).length := by
  unfold bytesEscape
  split_ifs <;> simp

theorem length_pyReprBytes (b : List UInt8) : b.length + 3 ≤ (pyReprBytes b).length := by
  have h := length_le_length_flatMap _ (one_le_length_bytesEscape (bytesQuote b)) b
  let q := Char.ofNat (bytesQuote b).toNat
  show b.length + 3 ≤ ('b' :: q :: (b.flatMap (bytesEscape (bytesQuote b)) ++ [q])).length
  rw [List.length_cons, List.length_cons, List.length_append, List.length_singleton]
  omega

/-- `prettydataclass` keeps a `str` field to the limit, but shows a long `bytes` field longer. -/
theorem prettydataclass_shortens_str_not_bytes (maxLength : Int) (h3 : 3 ≤ maxLength) :
    (∀ s, ((formatValue maxLength (.str s)).length : Int) ≤ maxLength) ∧
    ∀ b : List UInt8, maxLength ≤ b.length →
      maxLength + 3 ≤ ((formatValue maxLength (.bytes b)).length : Int) := by
  refine ⟨fun s => ?_, fun b hb => ?_⟩
  · have h := length_shorten s maxLength
    simp only [formatValue]
    split_ifs at h <;> omega
  · have hl := length_sliceTo b (maxLength - 3)
    have hr := length_pyReprBytes (sliceTo b (maxLength - 3) ++ [46, 46, 46])
    rw [if_pos (by omega)] at hl
    simp only [List.length_append, List.length_cons, List.length_nil] at hr
    simp only [formatValue, shortenBytes, if_neg (show ¬ (b.length : Int) < maxLength by omega)]
    omega

example : prettyRepr 5 "Msg" [("data", .bytes [0, 1, 2, 3, 4, 5]), ("text", .str "abcdefgh"),
    ("quote", .bytes [105, 116, 39, 115])] =
      "Msg(data=b\x27\\x00\\x01...\x27, text=ab..., quote=b\"it\x27s\")" := rfl

theorem prettydataclass_shortens_str_not_bytes_default :
    (3 : Int) ≤ 150 ∧
    ((∀ s, ((formatValue 150 (.str s)).length : Int) ≤ 150) ∧
      ∀ b : List UInt8, (150 : Int) ≤ b.length →
        150 + 3 ≤ ((formatValue 150 (.bytes b)).length : Int)) :=
  ⟨by decide, prettydataclass_shortens_str_not_bytes 150 (by decide)⟩

def debugLevel : Nat := 10

def binaryLineLength : Int := 512

def protobufLineLength : Int := 150

/-- `int(environ.get(variable, 0)) or default`, `override` being the variable's value. -/
def lineLength (override : Option String) (default : Int) : Except PyError Int := do
  let overrideLength ← match override with
    | none => pure 0
    | some value => pyInt value
  return if overrideLength = 0 then default else overrideLength

inductive LogValue where
  | none
  | bytes (data : List UInt8)
  | other (str : String)
  deriving DecidableEq, Repr

def logValue : LogValue → String
  | .none => ""
  | .bytes data => String.mk (data.flatMap fun b => hex2 b.toNat)
  | .other str => str

def binaryItems (lineLength : Int) (kwargs : List (String × LogValue)) : List String :=
  (kwargs.mergeSort fun a b => a.1 ≤ b.1).map fun kv => kv.1 ++ "=" ++ shorten (logValue kv.2) lineLength

/-- `log_binary(logger, message, level, **kwargs)`: the line `logger.debug` emits, if any. -/
def logBinary (enabledFor : Nat → Bool) (override : Option String) (message : String)
    (level : Nat) (kwargs : List (String × LogValue)) : Except PyError (Option String) :=
  if enabledFor level then do
    let length ← lineLength override binaryLineLength
    let line := message ++ " (" ++ ", ".intercalate (binaryItems length kwargs) ++ ")"
    return if enabledFor debugLevel then some line else none
  else .ok none

/-- `log_protobuf(logger, text, message)`: the lines `logger.debug` emits, if any. -/
def logProtobuf (enabledFor : Nat → Bool) (override : Option String) (text : String)
    (lines : List String) : Except PyError (Option String) :=
  if enabledFor debugLevel then do
    let length ← lineLength override protobufLineLength
    return some (text ++ ": " ++ "\n".intercalate (lines.map fun x => shorten x length))
  else .ok none

/-! ### `error_handler` -/

/-- `error_handler(func, fallback, *args, **kwargs)`, `result` being what awaiting `func` gives. -/
def errorHandler {α : Type} (classes : Hierarchy) (fallback : String)
    (result : Except PyError α) : Except PyError α :=
  match result with
  | .ok value => .ok value
  | .error ex =>
    if classes.isSubclass ex.cls "OSError" || classes.isSubclass ex.cls "asyncio.TimeoutError" then
      .error (.raised "ConnectionFailedError" ex.msg)
    else if classes.isSubclass ex.cls "BackOffError" ||
        classes.isSubclass ex.cls "NoCredentialsError" then
      .error ex
    else if ex.isException classes then .error (.raised fallback ex.msg)
    else .error ex

/-! ### `shift_hex_identifier` -/

def hexDigitValue? (c : Char) : Option Nat :=
  if c.isDigit then some (c.toNat - '0'.toNat)
  else if 'a' ≤ c ∧ c ≤ 'f' then some (c.toNat - 'a'.toNat + 10)
  else if 'A' ≤ c ∧ c ≤ 'F' then some (c.toNat - 'A'.toNat + 10)
  else none

def readHexDigits (acc : Nat) : List Char → Option Nat
  | [] => some acc
  | '_' :: d :: rest => (hexDigitValue? d).bind fun v => readHexDigits (16 * acc + v) rest
  | d :: rest => (hexDigitValue? d).bind fun v => readHexDigits (16 * acc + v) rest

def readHex : List Char → Option Nat
  | '0' :: x :: rest =>
    if x = 'x' ∨ x = 'X' then (if rest = [] then none else readHexDigits 0 rest)
    else readHexDigits 0 ('0' :: x :: rest)
  | d :: rest => (hexDigitValue? d).bind fun v => readHexDigits v rest
  | [] => none

def pyIntHex (s : String) : Except PyError Int :=
  let n : Option Int :=
    match pyStrip s.toList with
    | '-' :: ds => (readHex ds).map fun m => -(m : Int)
    | '+' :: ds => (readHex ds).map fun m => (m : Int)
    | ds => (readHex ds).map fun m => (m : Int)
  match n with
  | some n => .ok n
  | none => .error (.valueError s!"invalid literal for int() with base 16: {pyReprStr s}")

/-- `str.isupper()`, for ASCII letters: some uppercase letter and no lowercase one. -/
def isUpper (s : String) : Bool := s.toList.any Char.isUpper && !s.toList.any Char.isLower

def shiftHexIdentifier (identifier : String) : Except PyError String :=
  if identifier.length < 2 then .error (.raised "AssertionError" "")
  else
    match pyIntHex (String.mk (identifier.toList.take 2)) with
    | .error e => .error e
    | .ok first =>
      let shifted := hex2 ((first + 1) % 256).toNat
      let shifted := if isUpper identifier then shifted.map Char.toUpper else shifted
      .ok (String.mk (shifted ++ identifier.toList.drop 2))

theorem readHexDigits_cons {c : Char} (hc : c ≠ '_') (acc : Nat) (rest : List Char) :
    readHexDigits acc (c :: rest) =
      (hexDigitValue? c).bind fun v => readHexDigits (16 * acc + v) rest :=
  readHexDigits.eq_3 acc c rest fun _ _ h _ => hc h

theorem ne_underscore_of_hexDigitValue? {c : Char} {v : Nat} (h : hexDigitValue? c = some v) :
    c ≠ '_' := by
  rintro rfl; cases h

theorem readHex_two {c d : Char} {a b : Nat} (hc : hexDigitValue? c = some a)
    (hd : hexDigitValue? d = some b) (hx : ¬ (d = 'x' ∨ d = 'X')) :
    readHex [c, d] = some (16 * a + b) := by
  have hd' := ne_underscore_of_hexDigitValue? hd
  by_cases h0 : c = '0'
  · subst h0
    obtain rfl : a = 0 := by cases hc; rfl
    rw [readHex.eq_1, if_neg hx, readHexDigits_cons (by decide)]
    simp only [show hexDigitValue? '0' = some 0 from rfl, Option.some_bind, readHexDigits_cons hd', hd]
    rfl
  · rw [readHex.eq_2 c [d] fun _ _ h _ => h0 h, hc, Option.some_bind, readHexDigits_cons hd', hd,
      Option.some_bind]
    rfl

theorem pyIntHex_two {c d : Char} {a b : Nat} (hc : hexDigitValue? c = some a)
    (hd : hexDigitValue? d = some b) (hcs : isPySpace c = false) (hds : isPySpace d = false)
    (h1 : c ≠ '-') (h2 : c ≠ '+') (hx : ¬ (d = 'x' ∨ d = 'X')) :
    pyIntHex (String.mk [c, d]) = .ok (16 * a + b : Nat) := by
  have hs : ∀ e ∈ [c, d], isPySpace e = false := by simp [hcs, hds]
  simp only [pyIntHex, string_toList_mk, pyStrip_of_not_space hs, List.cons.injEq, h1, h2,
    false_and, imp_self, implies_true, readHex_two hc hd hx, Option.pure_def, Option.bind_eq_bind,
    Option.some_bind, Option.map_some']

theorem hexChar_facts (up : Bool) : ∀ d < 16,
    hexDigitValue? (if up then (Nat.digitChar d).toUpper else Nat.digitChar d) = some d ∧
    isPySpace (if up then (Nat.digitChar d).toUpper else Nat.digitChar d) = false ∧
    (if up then (Nat.digitChar d).toUpper else Nat.digitChar d) ≠ '-' ∧
    (if up then (Nat.digitChar d).toUpper else Nat.digitChar d) ≠ '+' ∧
    ¬ ((if up then (Nat.digitChar d).toUpper else Nat.digitChar d) = 'x' ∨
      (if up then (Nat.digitChar d).toUpper else Nat.digitChar d) = 'X') := by
  cases up <;> decide

theorem pyIntHex_hex2 (n : Nat) (hn : n < 256) (up : Bool) :
    pyIntHex (String.mk (if up then (hex2 n).map Char.toUpper else hex2 n)) = .ok n := by
  obtain ⟨hv1, hs1, h1, h2, -⟩ := hexChar_facts up (n / 16 % 16) (Nat.mod_lt _ (by decide))
  obtain ⟨hv2, hs2, -, -, hx⟩ := hexChar_facts up (n % 16) (Nat.mod_lt _ (by decide))
  have hl : (if up then (hex2 n).map Char.toUpper else hex2 n) =
      [if up then (Nat.digitChar (n / 16 % 16)).toUpper else Nat.digitChar (n / 16 % 16),
        if up then (Nat.digitChar (n % 16)).toUpper else Nat.digitChar (n % 16)] := by
    cases up <;> rfl
  rw [hl, pyIntHex_two hv1 hv2 hs1 hs2 h1 h2 hx]
  congr 2
  omega

/-- `shift_hex_identifier` changes the first two characters only, and always changes them. -/
theorem shift_hex_identifier_changes_prefix_only {identifier result : String}
    (h : shiftHexIdentifier identifier = .ok result) :
    result.length = identifier.length ∧ result.toList.drop 2 = identifier.toList.drop 2 ∧
      result ≠ identifier := by
  by_cases hl : identifier.length < 2
  · rw [shiftHexIdentifier, if_pos hl] at h; cases h
  rw [shiftHexIdentifier, if_neg hl] at h
  split at h
  · cases h
  next first hfirst =>
    dsimp only at h
    cases h
    have hshift := pyIntHex_hex2 ((first + 1) % 256).toNat (by omega) (isUpper identifier)
    have h2 : (if isUpper identifier then (hex2 ((first + 1) % 256).toNat).map Char.toUpper
        else hex2 ((first + 1) % 256).toNat).length = 2 := by
      split <;> rfl
    generalize (if isUpper identifier then (hex2 ((first + 1) % 256).toNat).map Char.toUpper
        else hex2 ((first + 1) % 256).toNat) = shifted at hshift h2 ⊢
    have hlen : identifier.toList.length = identifier.length := rfl
    refine ⟨?_, List.drop_left' h2, fun heq => ?_⟩
    · show List.length (shifted ++ _) = _
      rw [List.length_append, h2, List.length_drop, hlen]
      omega
    · have htake : shifted = identifier.toList.take 2 := by
        rw [← List.take_left' h2]
        exact congrArg (fun s : String => s.toList.take 2) heq
      rw [← htake, hshift] at hfirst
      have := Except.ok.inj hfirst
      omega

theorem shift_hex_identifier_changes_prefix_only_mac :
    shiftHexIdentifier "AA:BB:CC:DD:EE:FF" = .ok "AB:BB:CC:DD:EE:FF" ∧
      ("AB:BB:CC:DD:EE:FF".length = "AA:BB:CC:DD:EE:FF".length ∧
        "AB:BB:CC:DD:EE:FF".toList.drop 2 = "AA:BB:CC:DD:EE:FF".toList.drop 2 ∧
        "AB:BB:CC:DD:EE:FF" ≠ "AA:BB:CC:DD:EE:FF") :=
  have h : shiftHexIdentifier "AA:BB:CC:DD:EE:FF" = .ok "AB:BB:CC:DD:EE:FF" := rfl
  ⟨h, shift_hex_identifier_changes_prefix_only h⟩

end Pyatv.Support
