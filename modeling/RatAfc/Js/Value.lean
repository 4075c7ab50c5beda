import Mathlib.Algebra.Order.Ring.Unbundled.Rat

/-!
# JavaScript values as the page reads them

The AFC server's answer reaches `RatAfcApi.ts` and `RatAfc.tsx` as untyped JSON, and the page
reads it field by field.  A read from `undefined` or `null` throws a `TypeError`; a read of a
missing field gives `undefined`; `==`, `>`, `<=`, `>=` and `+` with a string convert their
operands first, through `ToPrimitive`, which throws a `TypeError` on an object with a
`toString` field of its own (a JSON value is never callable).  Strings are sequences of UTF-16
code units.  This file fixes those rules once:

* `JsString`, `utf16`, `utf16_injective`   strings as code units, and the units of a text;
* `JVal`   a value: `undefined`, `null`, booleans, numbers (exact rationals), strings, arrays
  and objects (a list of fields, the first of a name wins);
* `JVal.get`, `JVal.getOpt`, `JVal.idx`   `v.name`, `v?.name` and `v[i]`;
* `JVal.toStr`, `JVal.toNumber`   `ToString` and `ToNumber`, each of which may throw;
* `JVal.looseEqNum`, `JVal.looseEqStr`, `JVal.gtNum`, `JVal.leNum`, `JVal.geNum`   `v == n`,
  `v == "t"`, `v > n`, `v <= n` and `v >= n`;
* `JVal.spread`, `JVal.setField`, `JVal.findIndex`   `{ ...v }`, an assignment to a field, and
  `Array.prototype.findIndex` with a callback that may throw;
* `JVal.validChild`   what React accepts as a child.

Property names are Lean strings: a name with a lone surrogate, which no name the page reads
has, is outside the model.  The engine's conversions between strings and numbers are a
parameter (`Coerce`).
-/

set_option linter.unusedVariables false

namespace RatAfc

abbrev JsString := List UInt16

/-- the UTF-16 code units of a character: one below `U+10000`, a surrogate pair above -/
def charUnits (c : Char) : JsString :=
  if c.toNat < 0x10000 then [c.toNat.toUInt16]
  else [(0xD800 + (c.toNat - 0x10000) / 0x400).toUInt16,
    (0xDC00 + (c.toNat - 0x10000) % 0x400).toUInt16]

/-- the JavaScript string of a text -/
def utf16 (s : String) : JsString := s.toList.flatMap charUnits

def decodeUnits : JsString → List Char
  | [] => []
  | [u] => [Char.ofNat u.toNat]
  | u :: l :: us =>
    if 0xD800 ≤ u.toNat ∧ u.toNat < 0xDC00 then
      Char.ofNat (0x10000 + (u.toNat - 0xD800) * 0x400 + (l.toNat - 0xDC00)) :: decodeUnits us
    else Char.ofNat u.toNat :: decodeUnits (l :: us)

theorem toNat_toUInt16 {n : Nat} (h : n < 0x10000) : n.toUInt16.toNat = n :=
  UInt16.toNat_ofNat_of_lt h

theorem decodeUnits_charUnits (c : Char) (us : JsString) :
    decodeUnits (charUnits c ++ us) = c :: decodeUnits us := by
  have hv : c.toNat.isValidChar := c.valid
  unfold charUnits
  split
  next h =>
    have hs : ¬ (0xD800 ≤ c.toNat ∧ c.toNat < 0xDC00) := by omega
    cases us <;> simp [decodeUnits, toNat_toUInt16 h, hs]
  next h =>
    have h₁ : 0xD800 + (c.toNat - 0x10000) / 0x400 < 0x10000 := by omega
    have h₂ : 0xDC00 + (c.toNat - 0x10000) % 0x400 < 0x10000 := by omega
    have hn : 0x10000 + (0xD800 + (c.toNat - 0x10000) / 0x400 - 0xD800) * 0x400 +
        (0xDC00 + (c.toNat - 0x10000) % 0x400 - 0xDC00) = c.toNat := by omega
    simp only [List.cons_append, List.nil_append, decodeUnits, toNat_toUInt16 h₁,
      toNat_toUInt16 h₂, hn, Char.ofNat_toNat]
    rw [if_pos (by omega)]
    rfl

theorem decodeUnits_utf16 (s : String) : decodeUnits (utf16 s) = s.toList := by
  unfold utf16
  induction s.toList with
  | nil => rfl
  | cons c cs ih => rw [List.flatMap_cons, decodeUnits_charUnits, ih]

/-- distinct texts have distinct code units -/
theorem utf16_injective {s t : String} (h : utf16 s = utf16 t) : s = t := by
  have h' := congrArg decodeUnits h
  rw [decodeUnits_utf16, decodeUnits_utf16] at h'
  exact String.ext h'

/-- the exceptions a handler or a render of the page can throw -/
inductive Fault where
  | typeError
  | syntaxError
  | invalidCharacter
  | network
  /-- React's "Objects are not valid as a React child" -/
  | objectChild
  deriving DecidableEq, Repr, Inhabited

/-- a JavaScript value as `JSON.parse` and the page build them -/
inductive JVal where
  | undefined
  | null
  | bool (b : Bool)
  | num (x : ℚ)
  | str (s : JsString)
  | arr (xs : List JVal)
  | obj (fields : List (String × JVal))
  deriving Inhabited

/-- the engine's conversions: `StringToNumber` (`none` is `NaN`) and `Number::toString` -/
structure Coerce where
  stringToNumber : JsString → Option ℚ
  numberToString : ℚ → String
  deriving Inhabited

@[simp] theorem except_pure {ε α : Type} (a : α) : (pure a : Except ε α) = .ok a := rfl
@[simp] theorem except_ok_bind {ε α β : Type} (a : α) (f : α → Except ε β) :
    (Except.ok a >>= f) = f a := rfl
@[simp] theorem except_error_bind {ε α β : Type} (e : ε) (f : α → Except ε β) :
    ((Except.error e : Except ε α) >>= f) = Except.error e := rfl

namespace JVal

def text (s : String) : JVal := str (utf16 s)

def truthy : JVal → Bool
  | undefined => false
  | null => false
  | bool b => b
  | num x => x != 0
  | str s => !s.isEmpty
  | arr _ => true
  | obj _ => true

def nullish : JVal → Bool
  | undefined => true
  | null => true
  | _ => false

/-- `v.name` for a name that is not an array index (`length` of arrays and strings) -/
def get (v : JVal) (name : String) : Except Fault JVal :=
  match v with
  | undefined => .error .typeError
  | null => .error .typeError
  | arr xs => .ok (if name = "length" then num xs.length else undefined)
  | str s => .ok (if name = "length" then num s.length else undefined)
  | obj fs => .ok ((fs.lookup name).getD undefined)
  | _ => .ok undefined

def getOpt (v : JVal) (name : String) : JVal :=
  match v.get name with
  | .ok r => r
  | .error _ => undefined

/-- `v[i]`: an element of an array, a code unit of a string, the field `"i"` of an object -/
def idx (v : JVal) (i : Nat) : Except Fault JVal :=
  match v with
  | undefined => .error .typeError
  | null => .error .typeError
  | arr xs => .ok (xs.getD i undefined)
  | str s => .ok (s[i]?.elim undefined fun u => str [u])
  | obj fs => .ok ((fs.lookup (toString i)).getD undefined)
  | _ => .ok undefined

def spread : JVal → JVal
  | obj fs => obj fs
  | arr xs => obj (xs.enum.map fun p => (toString p.1, p.2))
  | str s => obj (s.enum.map fun p => (toString p.1, str [p.2]))
  | _ => obj []

def setField (v : JVal) (name : String) (x : JVal) : JVal :=
  match v with
  | obj fs => obj (if (fs.lookup name).isSome then
      fs.map (fun p => if p.1 = name then (name, x) else p) else fs ++ [(name, x)])
  | _ => v

theorem lookup_map_set {fs : List (String × JVal)} {name : String} (x : JVal)
    (h : (fs.lookup name).isSome) :
    (fs.map fun p => if p.1 = name then (name, x) else p).lookup name = some x := by
  induction fs with
  | nil => simp at h
  | cons p fs ih =>
    obtain ⟨k, b⟩ := p
    by_cases hk : k = name
    · subst hk
      rw [List.map_cons, if_pos rfl, List.lookup_cons_self]
    · have hne : (name == k) = false := beq_false_of_ne (Ne.symm hk)
      rw [List.lookup_cons, hne] at h
      rw [List.map_cons, if_neg hk, List.lookup_cons, hne]
      exact ih h

theorem lookup_append_new {fs : List (String × JVal)} {name : String} (x : JVal)
    (h : fs.lookup name = none) : (fs ++ [(name, x)]).lookup name = some x := by
  induction fs with
  | nil => rw [List.nil_append, List.lookup_cons_self]
  | cons p fs ih =>
    obtain ⟨k, b⟩ := p
    by_cases hk : k = name
    · subst hk
      rw [List.lookup_cons_self] at h
      cases h
    · have hne : (name == k) = false := beq_false_of_ne (Ne.symm hk)
      rw [List.lookup_cons, hne] at h
      rw [List.cons_append, List.lookup_cons, hne]
      exact ih h

@[simp] theorem get_setField_obj (fs : List (String × JVal)) (name : String) (x : JVal) :
    ((obj fs).setField name x).get name = .ok x := by
  dsimp only [setField]
  by_cases h : (fs.lookup name).isSome = true
  · rw [if_pos h]
    simp only [get, lookup_map_set x h, Option.getD_some]
  · rw [if_neg h]
    simp only [get, lookup_append_new x (Option.not_isSome_iff_eq_none.mp h), Option.getD_some]

/-! ## conversions -/

section
variable (K : Coerce)

mutual
/-- `ToString(ToPrimitive(v))`: arrays join their elements with `,`, writing `undefined` and
`null` as `""`; an object with a `toString` field of its own has no callable `toString` and
throws, any other object is `"[object Object]"` -/
def toStr : JVal → Except Fault JsString
  | undefined => pure (utf16 "undefined")
  | null => pure (utf16 "null")
  | bool b => pure (utf16 (if b then "true" else "false"))
  | num x => pure (utf16 (K.numberToString x))
  | str s => pure s
  | arr xs => joinStr xs
  | obj fs => if fs.any (·.1 == "toString") then throw .typeError
    else pure (utf16 "[object Object]")

def joinStr : List JVal → Except Fault JsString
  | [] => pure []
  | x :: xs => do
    let h ← if x.nullish then pure [] else toStr x
    if xs.isEmpty then pure h else return h ++ utf16 "," ++ (← joinStr xs)
end

/-- `ToNumber(ToPrimitive(v))` (`none` is `NaN`) -/
def toNumber (v : JVal) : Except Fault (Option ℚ) :=
  match v with
  | undefined => pure none
  | null => pure (some 0)
  | bool b => pure (some (if b then 1 else 0))
  | num x => pure (some x)
  | str s => pure (K.stringToNumber s)
  | _ => return K.stringToNumber (← v.toStr K)

/-- `v == n`: `null` and `undefined` equal no number, the rest convert -/
def looseEqNum (v : JVal) (n : ℚ) : Except Fault Bool :=
  if v.nullish then pure false else return (← v.toNumber K) == some n

def strictEqNum (v : JVal) (n : ℚ) : Bool :=
  match v with
  | num x => x == n
  | _ => false

def looseEqStr (v : JVal) (t : String) : Except Fault Bool :=
  match v with
  | undefined => pure false
  | null => pure false
  | str s => pure (s == utf16 t)
  | num x => pure (K.stringToNumber (utf16 t) == some x)
  | bool b => pure (K.stringToNumber (utf16 t) == some (if b then 1 else 0))
  | _ => return (← v.toStr K) == utf16 t

def gtNum (v : JVal) (n : ℚ) : Except Fault Bool :=
  return match ← v.toNumber K with
    | some x => decide (n < x)
    | none => false

def leNum (v : JVal) (n : ℚ) : Except Fault Bool :=
  return match ← v.toNumber K with
    | some x => decide (x ≤ n)
    | none => false

def geNum (v : JVal) (n : ℚ) : Except Fault Bool :=
  return match ← v.toNumber K with
    | some x => decide (n ≤ x)
    | none => false

end

/-- `xs.findIndex(p)` over the elements of an array (`none` is `-1`); the callback may throw,
and a value that is not an array has no `findIndex` to call -/
def findIndex (v : JVal) (p : JVal → Except Fault Bool) : Except Fault (Option Nat) :=
  match v with
  | arr xs => go xs 0
  | _ => .error .typeError
where
  go : List JVal → Nat → Except Fault (Option Nat)
    | [], _ => .ok none
    | x :: xs, i => do
      if ← p x then return some i else go xs (i + 1)

mutual
/-- a React child: anything but an object, and arrays of children -/
def validChild : JVal → Bool
  | obj _ => false
  | arr xs => validChildren xs
  | _ => true

def validChildren : List JVal → Bool
  | [] => true
  | x :: xs => validChild x && validChildren xs
end

end JVal
end RatAfc
