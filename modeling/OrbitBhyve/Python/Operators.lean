import OrbitBhyve.Python.Case
import OrbitBhyve.Python.Errors
import OrbitBhyve.Python.IntLiteral
import OrbitBhyve.Python.Value

/-!
# Operators on values

Truth, equality, iteration and `int` of what a JSON body may hold. Two numbers
are equal whatever their types, and a `bool` is a number.
-/

namespace OrbitBhyve.Python

/-- `d.get(k)`; a missing key is `None`. -/
def Dict.lookup (d : Dict Value) (k : String) : Value := (d.get k).getD .none

namespace Value

/-- `bool(v)`. -/
def truthy : Value → Bool
  | none => false
  | bool b => b
  | int n => n != 0
  | float q => q != 0
  | str s => s != ""
  | list xs => !xs.isEmpty
  | dict items => !items.isEmpty

def or (v w : Value) : Value := if v.truthy then v else w

def number? : Value → Option ℚ
  | bool b => some (if b then 1 else 0)
  | int n => some n
  | float q => some q
  | _ => Option.none

mutual

/-- `v == w`. -/
def eq : Value → Value → Bool
  | none, none => true
  | str s, str t => s == t
  | list xs, list ys => eqList xs ys
  | dict a, dict b => a.length == b.length && eqItems a b
  | bool b, w => w.number? == some (if b then 1 else 0)
  | int n, w => w.number? == some (n : ℚ)
  | float q, w => w.number? == some q
  | _, _ => false

def eqList : List Value → List Value → Bool
  | [], [] => true
  | x :: xs, y :: ys => eq x y && eqList xs ys
  | _, _ => false

/-- Every item of the one dictionary is an item of the other. -/
def eqItems : List (String × Value) → List (String × Value) → Bool
  | [], _ => true
  | (k, v) :: items, b =>
    (match Dict.get b k with
      | Option.none => false
      | some w => eq v w) && eqItems items b

end

/-- What a `for` takes from a value; a number or `None` is no iterable. -/
def iterate : Value → Except PyErr (List Value)
  | list xs => .ok xs
  | dict items => .ok (items.map fun item => str item.1)
  | str s => .ok (s.toList.map fun c => str (String.singleton c))
  | _ => .error .typeError

end Value

/-- `int(text)`; `none` is a `ValueError`. -/
def intOfText (text : String) : Option ℤ :=
  match (strip text.toList).map asciiDecimal with
  | '-' :: cs => (decimalLiteral cs).map fun n : ℕ => -(n : ℤ)
  | '+' :: cs => (decimalLiteral cs).map fun n : ℕ => (n : ℤ)
  | cs => (decimalLiteral cs).map fun n : ℕ => (n : ℤ)

/-- `int(v)`; a float goes towards zero. -/
def Value.toInt : Value → Except PyErr ℤ
  | bool b => .ok (if b then 1 else 0)
  | int n => .ok n
  | float q => .ok (q.num.tdiv q.den)
  | str s =>
    match intOfText s with
    | some n => .ok n
    | Option.none => .error .valueError
  | _ => .error .typeError

/-- `f"{n:04d}"`. -/
def fourDigits (n : ℤ) : String :=
  let sign := if n < 0 then "-" else ""
  let digits := toString n.natAbs
  sign ++ String.ofList (List.replicate (4 - sign.length - digits.length) '0') ++ digits

example : fourDigits 85 = "0085" ∧ fourDigits (-5) = "-005" ∧ intOfText " 1_0 " = some 10 := by
  decide +kernel

end OrbitBhyve.Python
