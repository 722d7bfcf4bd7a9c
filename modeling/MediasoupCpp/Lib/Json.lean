import Mathlib.Data.Rat.Defs

/-!
# JSON values

JSON values as two programs in different languages see them.  A number keeps whether it was
written as an integer, which typed libraries look at and JavaScript does not.
-/

inductive Json
  | null
  | bool (b : Bool)
  /-- A number without a fraction or an exponent. -/
  | int (i : ℤ)
  | float (q : ℚ)
  | str (s : String)
  | arr (items : List Json)
  | obj (fields : List (String × Json))

namespace Json

mutual

def decEq : (a b : Json) → Decidable (a = b)
  | .null, b =>
    match b with
    | .null => .isTrue rfl
    | .bool _ | .int _ | .float _ | .str _ | .arr _ | .obj _ => .isFalse nofun
  | .bool x, b =>
    match b with
    | .bool y => decidable_of_iff (x = y) (Json.bool.injEq x y ▸ Iff.rfl)
    | .null | .int _ | .float _ | .str _ | .arr _ | .obj _ => .isFalse nofun
  | .int x, b =>
    match b with
    | .int y => decidable_of_iff (x = y) (Json.int.injEq x y ▸ Iff.rfl)
    | .null | .bool _ | .float _ | .str _ | .arr _ | .obj _ => .isFalse nofun
  | .float x, b =>
    match b with
    | .float y => decidable_of_iff (x = y) (Json.float.injEq x y ▸ Iff.rfl)
    | .null | .bool _ | .int _ | .str _ | .arr _ | .obj _ => .isFalse nofun
  | .str x, b =>
    match b with
    | .str y => decidable_of_iff (x = y) (Json.str.injEq x y ▸ Iff.rfl)
    | .null | .bool _ | .int _ | .float _ | .arr _ | .obj _ => .isFalse nofun
  | .arr x, b =>
    match b with
    | .arr y =>
      have := decEqItems x y
      decidable_of_iff (x = y) (Json.arr.injEq x y ▸ Iff.rfl)
    | .null | .bool _ | .int _ | .float _ | .str _ | .obj _ => .isFalse nofun
  | .obj x, b =>
    match b with
    | .obj y =>
      have := decEqFields x y
      decidable_of_iff (x = y) (Json.obj.injEq x y ▸ Iff.rfl)
    | .null | .bool _ | .int _ | .float _ | .str _ | .arr _ => .isFalse nofun

def decEqItems : (a b : List Json) → Decidable (a = b)
  | [], [] => .isTrue rfl
  | [], _ :: _ => .isFalse nofun
  | _ :: _, [] => .isFalse nofun
  | x :: xs, y :: ys =>
    have := decEq x y
    have := decEqItems xs ys
    decidable_of_iff (x = y ∧ xs = ys) (List.cons.injEq x xs y ys ▸ Iff.rfl)

def decEqFields : (a b : List (String × Json)) → Decidable (a = b)
  | [], [] => .isTrue rfl
  | [], _ :: _ => .isFalse nofun
  | _ :: _, [] => .isFalse nofun
  | (k, x) :: xs, (l, y) :: ys =>
    have := decEq x y
    have := decEqFields xs ys
    decidable_of_iff (k = l ∧ x = y ∧ xs = ys) (by simp [and_assoc])

end

instance : DecidableEq Json := decEq

def number : Json → Option ℚ
  | .int i => some i
  | .float q => some q
  | .null | .bool _ | .str _ | .arr _ | .obj _ => none

inductive TypeError
  /-- The value is not of the type it is read as. -/
  | wrongType
  /-- A field, or a default for it, is asked for in what is not an object. -/
  | notAnObject
  /-- A field is set in what is neither an object nor null. -/
  | notAssignable
  deriving DecidableEq

/-- A number as a signed integer of 32 bits.  A fraction is cut off, and a boolean is a
number. -/
def toInt32 : Json → Except TypeError ℤ
  | .int i => .ok (i.bmod 4294967296)
  | .float q => .ok ((q.num.tdiv q.den).bmod 4294967296)
  | .bool b => .ok (if b then 1 else 0)
  | .null | .str _ | .arr _ | .obj _ => .error .wrongType

def toText : Json → Except TypeError String
  | .str s => .ok s
  | .null | .bool _ | .int _ | .float _ | .arr _ | .obj _ => .error .wrongType

def field? : Json → String → Option Json
  | .obj fields, key => fields.lookup key
  | .null, _ | .bool _, _ | .int _, _ | .float _, _ | .str _, _ | .arr _, _ => none

def valueInt (j : Json) (key : String) (default : ℤ) : Except TypeError ℤ :=
  match j with
  | .obj fields =>
    match fields.lookup key with
    | some v => v.toInt32
    | none => .ok default
  | .null | .bool _ | .int _ | .float _ | .str _ | .arr _ => .error .notAnObject

def items : Json → List (String × Json)
  | .null => []
  | .obj fields => fields
  | .arr values => values.zipIdx.map fun (v, i) => (toString i, v)
  | .bool b => [("", .bool b)]
  | .int i => [("", .int i)]
  | .float q => [("", .float q)]
  | .str s => [("", .str s)]

def setField (key : String) (v : Json) : List (String × Json) → List (String × Json)
  | [] => [(key, v)]
  | (key', v') :: fields =>
    if key' = key then (key, v) :: fields else (key', v') :: setField key v fields

def set (j : Json) (key : String) (v : Json) : Except TypeError Json :=
  match j with
  | .null => .ok (.obj [(key, v)])
  | .obj fields => .ok (.obj (setField key v fields))
  | .bool _ | .int _ | .float _ | .str _ | .arr _ => .error .notAssignable

def ensure {ε : Type} (p : Prop) [Decidable p] (error : ε) : Except ε Unit :=
  if p then .ok () else .error error

variable {ε α β : Type}

@[simp] theorem ok_bind (a : α) (f : α → Except ε β) : (Except.ok a >>= f) = f a := rfl

@[simp] theorem ensure_of_pos {p : Prop} [Decidable p] (h : p) (error : ε) :
    ensure p error = .ok () :=
  if_pos h

theorem ensure_eq_ok {p : Prop} [Decidable p] {error : ε} {u : Unit} :
    ensure p error = .ok u ↔ p := by
  unfold ensure
  split <;> simp_all

end Json
