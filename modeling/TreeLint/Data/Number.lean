/-
  TreeLint/Data/Number.lean
  =========================
  **Numbers with a point.**  A number that is written with a point or an exponent is held as the nearest
  binary number of 53 digits, as most programs that exchange documents hold it; one that is too great is
  infinite.  What a number is worth is compared exactly, with whole numbers of any size too.

  A number is written with the fewest decimal digits that are nearer to it than to any other such
  number, and of those the nearest.
-/

namespace TreeLint

/-- The whole number nearest to `n / d`; a half goes to the even neighbour. -/
def roundDiv (n d : Nat) : Nat :=
  let q := n / d
  let r := 2 * (n % d)
  if r < d then q else if d < r then q + 1 else if q % 2 = 0 then q else q + 1

namespace Data

/-- The number `± mantissa · 2 ^ exponent`, an infinity, or the result of an operation that has none. -/
inductive Number where
  | finite (negative : Bool) (mantissa : Nat) (exponent : Int)
  | infinite (negative : Bool)
  | undefined
  deriving DecidableEq, Repr, Inhabited

namespace Number

/-! ### The nearest binary number -/

def precision : Nat := 53

def leastExponent : Int := -1074

def greatestExponent : Int := 971

def power (base : Nat) (n : Int) : Nat × Nat :=
  if 0 ≤ n then (base.pow n.toNat, 1) else (1, base.pow n.natAbs)

/-- The greatest `k` with `2 ^ k ≤ n / d`. -/
def binaryOrder (n d : Nat) : Int :=
  let k : Int := (Nat.log2 n : Int) - Nat.log2 d
  let (up, down) := power 2 k
  if up * d ≤ n * down then k else k - 1

/-- The number nearest to `± n / d`, of two equally near ones the one with an even mantissa. -/
def nearest (negative : Bool) (n d : Nat) : Number :=
  if n = 0 then .finite negative 0 0
  else
    let exponent := max leastExponent (binaryOrder n d - (precision - 1 : Nat))
    let (up, down) := power 2 exponent
    let mantissa := roundDiv (n * down) (d * up)
    let (mantissa, exponent) :=
      if mantissa = Nat.pow 2 precision then (Nat.pow 2 (precision - 1), exponent + 1)
      else (mantissa, exponent)
    if greatestExponent < exponent then .infinite negative else .finite negative mantissa exponent

def digitCount (n : Nat) : Nat := (Nat.toDigits 10 n).length

/-- The number nearest to `± digits · 10 ^ scale`.  Where the size alone tells that the result is
infinite or zero, the power is not worked out. -/
def ofDigits (negative : Bool) (digits : Nat) (scale : Int) : Number :=
  if digits = 0 ∨ scale + digitCount digits < -330 then .finite negative 0 0
  else if 330 < scale + digitCount digits then .infinite negative
  else
    let (up, down) := power 10 scale
    nearest negative (digits * up) down

def ofInt (n : Int) : Number := .finite (decide (n < 0)) n.natAbs 0

/-! ### Worth -/

def signed (negative : Bool) (mantissa : Nat) : Int :=
  if negative then -(mantissa : Int) else mantissa

/-- The order of two finite numbers, whose mantissas are brought to the same exponent. -/
def orderFinite (m : Int) (e : Int) (n : Int) (f : Int) : Ordering :=
  let least := min e f
  compare (m * Int.pow 2 (e - least).toNat) (n * Int.pow 2 (f - least).toNat)

/-- The order of two numbers; an undefined one has none. -/
def order? : Number → Number → Option Ordering
  | .undefined, _ | _, .undefined => none
  | .infinite a, .infinite b => some (if a = b then .eq else if a then .lt else .gt)
  | .infinite a, .finite .. => some (if a then .lt else .gt)
  | .finite .., .infinite b => some (if b then .gt else .lt)
  | .finite a m e, .finite b n f => some (orderFinite (signed a m) e (signed b n) f)

def equals (x y : Number) : Bool := order? x y == some .eq

/-- The whole number that a number is worth, if it is finite and has no fractional part. -/
def whole? : Number → Option Int
  | .finite negative mantissa exponent =>
    let (up, down) := power 2 exponent
    if mantissa * up % down = 0 then some (signed negative (mantissa * up / down)) else none
  | _ => none

def isFinite : Number → Bool
  | .finite .. => true
  | _ => false

/-! ### Shortest decimal form -/

/-- The greatest `k` with `10 ^ k ≤ n / d`. -/
def decimalOrder (n d : Nat) : Int :=
  if d ≤ n then (digitCount (n / d) : Int) - 1 else -(digitCount ((d - 1) / n) : Int)

/-- A decimal `digits · 10 ^ scale`. -/
structure Decimal where
  digits : Nat
  scale : Int
  deriving DecidableEq, Repr

/-- The decimals with a number of digits next to `n / d` that are nearest to the same binary number, the
nearer one first. -/
def decimalsOf (n d count : Nat) : List Decimal :=
  let scale := decimalOrder n d - (count - 1 : Nat)
  let (up, down) := power 10 scale
  let lower := n * down / (d * up)
  let near := roundDiv (n * down) (d * up)
  let far := if near = lower then lower + 1 else lower
  ([near, far].map fun digits => Decimal.mk digits scale).filter fun decimal =>
    ofDigits false decimal.digits decimal.scale == nearest false n d

/-- The shortest decimal that is nearest to the binary number `n / d`. -/
def shortest (n d : Nat) : Decimal :=
  (((List.range 17).flatMap fun i => decimalsOf n d (i + 1)).head?).getD ⟨0, 0⟩

/-- The digits of a decimal without trailing zeros, and the power of ten of the first of them. -/
def Decimal.leading (decimal : Decimal) : List Char × Int :=
  let digits := Nat.toDigits 10 decimal.digits
  let bare := (digits.reverse.dropWhile (· == '0')).reverse
  (if bare.isEmpty then ['0'] else bare, decimal.scale + digits.length - 1)

/-- Digits with a point after the first `whole` of them, and at least one digit on either side. -/
def pointed (whole : Nat) (digits : List Char) : List Char :=
  let after := digits.drop whole
  digits.take whole ++ List.replicate (whole - digits.length) '0'
    ++ '.' :: (if after.isEmpty then ['0'] else after)

/-- An exponent with its sign and at least two digits. -/
def exponentText (n : Int) : List Char :=
  let digits := Nat.toDigits 10 n.natAbs
  (if n < 0 then '-' else '+') :: (List.replicate (2 - digits.length) '0' ++ digits)

/-- The written form of digits of which the first counts `10 ^ order`: positional where the order is
from -4 to 15, with an exponent elsewhere. -/
def decimalText (digits : List Char) (order : Int) : List Char :=
  if 0 ≤ order ∧ order < 16 then pointed (order.toNat + 1) digits
  else if -4 ≤ order ∧ order < 0 then
    '0' :: '.' :: (List.replicate (order.natAbs - 1) '0' ++ digits)
  else
    (match digits with
      | [only] => [only]
      | first :: rest => first :: '.' :: rest
      | [] => []) ++ 'e' :: exponentText order

def finiteText (negative : Bool) (mantissa : Nat) (exponent : Int) : String :=
  let (digits, order) :=
    if mantissa = 0 then (['0'], 0)
    else
      let (up, down) := power 2 exponent
      (shortest (mantissa * up) down).leading
  (if negative then "-" else "") ++ String.ofList (decimalText digits order)

/-- The written form of a number, with the given names of infinity and of an undefined number. -/
def write (infinity unknown : String) : Number → String
  | .finite negative mantissa exponent => finiteText negative mantissa exponent
  | .infinite negative => (if negative then "-" else "") ++ infinity
  | .undefined => unknown

def render (x : Number) : String := write "inf" "nan" x

end Number

end Data

end TreeLint
