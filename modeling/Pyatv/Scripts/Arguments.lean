import Pyatv.Basic

namespace Pyatv.Scripts

/-- `_in_range(lower, upper, allow_none)`, the checker argparse applies to an option's text. -/
def inRange (lower upper : Int) (allowNone : Bool) (value : String) :
    Except PyError (Option Int) :=
  if allowNone && value.toList.map Char.toLower == "none".toList then .ok none
  else match pyInt value with
    | .error e => .error e
    | .ok n =>
      if n ≥ lower ∧ n < upper then .ok (some n)
      else .error (.raised "ArgumentTypeError" s!"Must be greater >= {lower} and < {upper}")

/-- An option of `cli_handler` typed by an `_in_range` checker. -/
structure RangeOption where
  dest : String
  lower : Int
  upper : Int
  allowNone : Bool
  default : Int

def rangeOptions : List RangeOption :=
  [⟨"port", 0, 65535, false, 0⟩, ⟨"scan_timeout", 1, 100, false, 3⟩,
    ⟨"pin_code", 0, 9999, true, 1234⟩]

theorem toString_chars (i : Int) : ∀ c ∈ (toString i).toList, c.isDigit ∨ c = '-' := by
  have hd := toDigitsCore_isDigit
  cases i with
  | ofNat m => exact fun c hc => .inl (hd _ m c hc)
  | negSucc m =>
    intro c hc
    rcases List.mem_cons.mp hc with rfl | hc
    · exact .inr rfl
    · exact .inl (hd _ (m + 1) c hc)

theorem toLower_of_isDigit {c : Char} (h : c.isDigit ∨ c = '-') : c.toLower = c := by
  unfold Char.toLower
  rw [if_neg]
  rcases h with h | rfl
  · simp only [Char.isDigit, Bool.and_eq_true, decide_eq_true_eq] at h
    have : c.toNat ≤ 57 := h.2
    omega
  · decide

theorem toLower_toString_ne_none (i : Int) :
    ((toString i).toList.map Char.toLower == "none".toList) = false := by
  rw [beq_eq_false_iff_ne]
  intro heq
  rw [List.map_congr_left fun c hc => toLower_of_isDigit (toString_chars i c hc), List.map_id']
    at heq
  have hn : 'n' ∈ (toString i).toList := heq ▸ (by decide : 'n' ∈ "none".toList)
  rcases toString_chars i 'n' hn with h | h <;> exact absurd h (by decide)

theorem inRange_toString (lower upper : Int) (allowNone : Bool) (n : Int) :
    inRange lower upper allowNone (toString n) =
      if lower ≤ n ∧ n < upper then .ok (some n)
      else .error (.raised "ArgumentTypeError" s!"Must be greater >= {lower} and < {upper}") := by
  rw [inRange, toLower_toString_ne_none, Bool.and_false, if_neg Bool.false_ne_true,
    pyInt_toString]

/-- Every default of an option that `_in_range` checks passes its own check. -/
theorem rangeOptions_default_valid :
    ∀ o ∈ rangeOptions,
      inRange o.lower o.upper o.allowNone (toString o.default) = .ok (some o.default) := by
  intro o ho
  rw [inRange_toString, if_pos]
  simp only [rangeOptions, List.mem_cons, List.mem_singleton, List.not_mem_nil, or_false] at ho
  rcases ho with rfl | rfl | rfl <;> decide

/-- `_in_range` accepts exactly the values in `[lower, upper)`, and `None` where allowed. -/
theorem in_range_accepts_only_in_range (lower upper : Int) (allowNone : Bool) (value : String) :
    (∀ r, inRange lower upper allowNone value = .ok r →
      (r = none ∧ allowNone = true) ∨
        ∃ n, r = some n ∧ pyInt value = .ok n ∧ lower ≤ n ∧ n < upper) ∧
    ∀ n : Int, inRange lower upper allowNone (toString n) =
      if lower ≤ n ∧ n < upper then .ok (some n)
      else .error (.raised "ArgumentTypeError" s!"Must be greater >= {lower} and < {upper}") := by
  refine ⟨fun r h => ?_, inRange_toString lower upper allowNone⟩
  unfold inRange at h
  split_ifs at h with hn
  · cases h; exact .inl ⟨rfl, by simpa using (Bool.and_eq_true _ _).mp hn |>.1⟩
  · split at h
    · cases h
    · rename_i n hp
      split_ifs at h with hr
      · cases h; exact .inr ⟨n, rfl, hp, hr⟩

inductive CmdArg where
  | int (i : Int)
  | str (s : String)
  /-- What a class outside the model (an enumeration of `pyatv.const`, or `float`) built from an
  argument. -/
  | converted (cls : String) (arg : CmdArg)
  deriving DecidableEq, Repr

def typeparse (value : String) : CmdArg :=
  if value.toList.head? = some '\x22' ∧ value.toList.getLast? = some '\x22' then
    .str (String.mk (value.toList.drop 1).dropLast)
  else match pyInt value with
    | .ok n => .int n
    | .error _ => .str value

def argAt (args : List CmdArg) (i : Nat) : Except PyError CmdArg :=
  match args.get? i with
  | some a => .ok a
  | none => .error (.indexError "list index out of range")

def inputActionCommands : List String :=
  ["up", "down", "left", "right", "select", "menu", "home", "click"]

/-- `_parse_args`; `convert cls arg` stands for `cls(arg)`, which may raise. -/
def parseArgs (convert : String → CmdArg → Except PyError CmdArg) (cmd : String)
    (args : List String) : Except PyError (List CmdArg) :=
  let args := args.map typeparse
  if cmd = "set_shuffle" then do return [← convert "ShuffleState" (← argAt args 0)]
  else if cmd = "set_repeat" then do return [← convert "RepeatState" (← argAt args 0)]
  else if cmd ∈ inputActionCommands then do return [← convert "InputAction" (← argAt args 0)]
  else if cmd = "set_volume" then do return [← convert "float" (← argAt args 0)]
  else if cmd = "action" then do
    return [← argAt args 0, ← argAt args 1, ← convert "TouchAction" (← argAt args 2)]
  else .ok args

def extractCommandWithArgs (convert : String → CmdArg → Except PyError CmdArg) (cmd : String) :
    Except PyError (String × List CmdArg) :=
  match cmd.toList.span (· != '=') with
  | (_, []) => .ok (cmd, [])
  | (command, _ :: rest) => do
    let args := pySplit ',' (String.mk rest)
    return (String.mk command, ← parseArgs convert (String.mk command) args)

theorem typeparse_toString (i : Int) : typeparse (toString i) = .int i := by
  have hq : '\x22' ∉ (toString i).toList := fun h => by
    rcases toString_chars i _ h with h | h <;> exact absurd h (by decide)
  rw [typeparse, if_neg fun h => hq (List.mem_of_mem_head? h.1), pyInt_toString]

theorem typeparse_quoted (l : List Char) (h : ('\x22' :: l).getLast? = some '\x22') :
    typeparse (String.mk ('\x22' :: l)) = .str (String.mk l.dropLast) := by
  rw [typeparse, if_pos ⟨rfl, h⟩]
  rfl

/-- A lone double quote both opens and closes: it is the empty string. -/
example : typeparse "\x22" = .str "" := by decide

def convertingCommands : List String :=
  ["set_shuffle", "set_repeat"] ++ inputActionCommands ++ ["set_volume", "action"]

theorem parseArgs_of_not_converting (convert : String → CmdArg → Except PyError CmdArg)
    {cmd : String} (h : cmd ∉ convertingCommands) (args : List String) :
    parseArgs convert cmd args = .ok (args.map typeparse) := by
  simp only [convertingCommands, List.mem_append, List.mem_cons, List.not_mem_nil, or_false,
    not_or] at h
  simp [parseArgs, h]

theorem extractCommandWithArgs_assignment (convert : String → CmdArg → Except PyError CmdArg)
    (name text : List Char) (hname : '=' ∉ name) :
    extractCommandWithArgs convert (String.mk (name ++ '=' :: text)) =
      (fun args => (String.mk name, args)) <$>
        parseArgs convert (String.mk name) (pySplit ',' (String.mk text)) := by
  have ht : ∀ c ∈ name, (c != '=') = true := fun c hc => by
    simpa using fun h : c = '=' => hname (h ▸ hc)
  simp [extractCommandWithArgs, List.span_eq_take_drop, List.takeWhile_append_of_pos ht,
    List.dropWhile_append_of_pos ht]

/-- How an argument is typed: an `int` in decimal, a string in double quotes. -/
def CmdArg.render : CmdArg → List Char
  | .int i => (toString i).toList
  | .str s => '\x22' :: s.toList ++ ['\x22']
  | .converted _ a => a.render

/-- An argument a user can type: an `int`, or a string without a comma. -/
def CmdArg.Typed : CmdArg → Prop
  | .int _ => True
  | .str s => ',' ∉ s.toList
  | .converted _ _ => False

instance : DecidablePred CmdArg.Typed := fun a =>
  match a with
  | .int _ => isTrue trivial
  | .str s => inferInstanceAs (Decidable (',' ∉ s.toList))
  | .converted _ _ => isFalse id

theorem CmdArg.typeparse_render {a : CmdArg} (h : a.Typed) :
    typeparse (String.mk a.render) = a := by
  cases a with
  | int i => exact typeparse_toString i
  | str s =>
    have h := typeparse_quoted (s.toList ++ ['\x22'])
      (by rw [← List.cons_append]; exact List.getLast?_concat _)
    rwa [List.dropLast_concat] at h
  | converted => exact absurd h id

theorem CmdArg.comma_not_mem_render {a : CmdArg} (h : a.Typed) : ',' ∉ a.render := by
  cases a with
  | int i =>
    exact fun hc => by rcases toString_chars i _ hc with h | h <;> exact absurd h (by decide)
  | str s => simpa [CmdArg.render] using h
  | converted => exact absurd h id

/-- The command line `name=arg1,arg2,...` with each argument as it is typed. -/
def commandLine (name : String) (args : List CmdArg) : String :=
  String.mk (name.toList ++ '=' :: [','].intercalate (args.map CmdArg.render))

theorem extractCommandWithArgs_commandLine (convert : String → CmdArg → Except PyError CmdArg)
    {name : String} {args : List CmdArg} (hname : '=' ∉ name.toList)
    (hcmd : name ∉ convertingCommands) (hne : args ≠ []) (htyped : ∀ a ∈ args, a.Typed) :
    extractCommandWithArgs convert (commandLine name args) = .ok (name, args) := by
  have hsplit : pySplit ',' (String.mk ([','].intercalate (args.map CmdArg.render))) =
      args.map fun a => String.mk a.render := by
    have hsep : ∀ l ∈ args.map CmdArg.render, ',' ∉ l := by
      simpa using fun a ha => CmdArg.comma_not_mem_render (htyped a ha)
    rw [pySplit, string_toList_mk, List.splitOn_intercalate _ _ hsep (by simpa using hne),
      List.map_map]
    rfl
  rw [commandLine, extractCommandWithArgs_assignment _ _ _ hname, hsplit,
    show String.mk name.toList = name from rfl, parseArgs_of_not_converting _ hcmd,
    List.map_map, Function.comp_def,
    List.map_congr_left fun a ha => CmdArg.typeparse_render (htyped a ha), List.map_id']
  rfl

/-- Typed arguments of a command that converts none come back from `_extract_command_with_args`. -/
theorem extract_command_with_args_round_trip (convert : String → CmdArg → Except PyError CmdArg)
    (name : String) (args : List CmdArg) (hname : '=' ∉ name.toList)
    (hcmd : name ∉ convertingCommands) (hne : args ≠ []) (htyped : ∀ a ∈ args, a.Typed) :
    extractCommandWithArgs convert
        (String.mk (name.toList ++ '=' :: [','].intercalate (args.map CmdArg.render))) =
      .ok (name, args) :=
  extractCommandWithArgs_commandLine convert hname hcmd hne htyped

theorem extract_command_with_args_round_trip_set_position :
    '=' ∉ "set_position".toList ∧ "set_position" ∉ convertingCommands ∧ [CmdArg.int 30] ≠ [] ∧
      (∀ a ∈ [CmdArg.int 30], a.Typed) ∧
      extractCommandWithArgs (fun _ a => .ok a)
          (String.mk ("set_position".toList ++
            '=' :: [','].intercalate ([CmdArg.int 30].map CmdArg.render))) =
        .ok ("set_position", [.int 30]) :=
  ⟨by decide, by decide, by decide, by decide,
    extract_command_with_args_round_trip _ _ _ (by decide) (by decide) (by decide) (by decide)⟩

end Pyatv.Scripts
