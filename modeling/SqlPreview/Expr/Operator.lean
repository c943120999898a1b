import SqlPreview.Expr.Basic
import SqlPreview.Expr.Error
import SqlPreview.Value.Equality

/-!
# Operators on values

Equality and order compare numbers by value, also with numbers that a string writes. Arithmetic on
integers is exact and widens its result; any other number makes it floating.
-/

namespace SqlPreview

open Number (Floating)

namespace Operator

def mismatch (op : BinaryOp) (left right : Value) : EvalError :=
  .typeMismatch op.symbol left.typeName right.typeName

/-! ## Comparison -/

/-- The number that a value is compared as: a blank string is zero, a character its code point. -/
def numericView? : Value → Option Floating
  | .string s =>
    let text := Text.trim s.toList
    if text.isEmpty then some (.zero .double false) else Floating.read? .double text
  | .character c => some (.ofInt .double c.toNat)
  | v => if v.isNumeric then v.double? else none

def isString : Value → Bool
  | .string _ => true
  | _ => false

/-- Strings, characters and constants, which are equal when their texts are. -/
def isName : Value → Bool
  | .string _ | .character _ | .constant _ _ => true
  | _ => false

/-- Equality of optional floating numbers, both missing being equal. -/
def sameDouble : Option Floating → Option Floating → Bool
  | some x, some y => x.same y
  | none, none => true
  | _, _ => false

/-- Equality of two numbers. -/
def numbersEqual (a b : Value) : Bool :=
  match a.integer?, b.integer? with
  | some m, some n => m == n
  | _, _ => sameDouble a.double? b.double?

/-- Equality of a number and a value that is none. -/
def numberEqualsOther (a b : Value) : Bool :=
  (isString a || isString b) &&
    match numericView? a, numericView? b with
    | some x, some y => x.same y
    | _, _ => false

mutual

/-- Equality as tests see it. -/
def looselyEqual (a b : Value) : Bool :=
  match a, b with
  | .null, .null => true
  | .sequence _ as, .sequence _ bs => looselyEqualItems as bs
  | .map as, .map bs => as.length == bs.length && looselyEqualFields as bs
  | a, b =>
    if a.isNull || b.isNull then false
    else if a.isNumeric && b.isNumeric then numbersEqual a b
    else if a.isNumeric || b.isNumeric then numberEqualsOther a b
    else if isName a && isName b then a.text == b.text
    else Value.same a b

def looselyEqualItems : List Value → List Value → Bool
  | [], [] => true
  | a :: as, b :: bs => looselyEqual a b && looselyEqualItems as bs
  | _, _ => false

/-- Every entry of the first map has an equal one in the second. -/
def looselyEqualFields : List (String × Value) → List (String × Value) → Bool
  | [], _ => true
  | (name, a) :: rest, others =>
    (match others.lookup name with
      | some b => looselyEqual a b
      | none => false) && looselyEqualFields rest others

end

/-- The order of two values, for those that have one. -/
def compare? (a b : Value) : Option Ordering :=
  if a.isNumeric && b.isNumeric then
    match a.integer?, b.integer? with
    | some m, some n => some (compare m n)
    | _, _ =>
      match a.double?, b.double? with
      | some x, some y => x.compare? y
      | _, _ => none
  else if a.isNumeric || b.isNumeric then
    match numericView? a, numericView? b with
    | some x, some y => x.compare? y
    | _, _ => none
  else if a.isTextual && b.isTextual then some (compare a.text b.text)
  else
    match a, b with
    | .boolean a, .boolean b => some (compare a.toNat b.toNat)
    | .date a, .date b => some (a.compare b)
    | .localDate a, .localDate b => some (a.compare b)
    | .localDateTime a, .localDateTime b => some (a.compare b)
    | .localTime a, .localTime b => some (a.compare b)
    | _, _ => none

/-- The answer of a relational operator to an order. -/
def holds (op : BinaryOp) (order : Ordering) : Bool :=
  match op with
  | .lt => order == .lt
  | .gt => order == .gt
  | .le => order != .gt
  | _ => order != .lt

/-- Whether a value is in a sequence, or its text is a name of a map. -/
def member? (value : Value) : Value → Option Bool
  | .map fields => some (Dict.has fields value.text)
  | .sequence _ items => some (items.any fun item => looselyEqual value item)
  | _ => none

/-! ## Arithmetic -/

/-- How wide an integer result is. -/
inductive Width where
  | int
  | long
  | big
deriving DecidableEq, Repr

namespace Width

def of : Value → Width
  | .byte _ | .short _ | .int _ => .int
  | .long _ | .number _ => .long
  | _ => .big

def max : Width → Width → Width
  | .big, _ | _, .big => .big
  | .long, _ | _, .long => .long
  | .int, .int => .int

/-- The integer at this width, or wider where it does not fit. -/
def fit (width : Width) (n : Int) : Value :=
  match width with
  | .int =>
    if -0x80000000 ≤ n && n < 0x80000000 then .int (Int32.ofInt n)
    else .bigInteger n
  | .long =>
    if -0x8000000000000000 ≤ n && n < 0x8000000000000000 then .long (Int64.ofInt n)
    else .bigInteger n
  | .big => .bigInteger n

end Width

/-- The exact result of an operator on integers, division toward zero. -/
def exact (op : BinaryOp) (a b : Int) : Int :=
  match op with
  | .add => a + b
  | .sub => a - b
  | .mul => a * b
  | .div => a.tdiv b
  | _ => a.tmod b

/-- An operator on integers. The remainder of the least integer by minus one counts as too wide,
as the quotient is. -/
def integers (op : BinaryOp) (width : Width) (a b : Int) : Except EvalError Value :=
  let divides := op == .div || op == .rem
  if divides && b == 0 then .error .divisionByZero
  else
    -- The remainder would be zero, but it is computed along with a quotient that does not fit.
    let overflows := op == .rem && a == Value.minBig && b == -1
    match if overflows then none else Value.big? (exact op a b) with
    | some n => .ok (width.fit n)
    | none => .error (.typeMismatch op.symbol "overflowing integer" "overflowing integer")

/-- An operator on floating numbers. -/
def floatings (op : BinaryOp) (x y : Floating) : Floating :=
  match op with
  | .add => x.add .double y
  | .sub => x.sub .double y
  | .mul => x.mul .double y
  | .div => x.div .double y
  | _ => x.rem .double y

/-- Two numbers of 32 bits, whose result has 32 bits too. -/
def bothSingle : Value → Value → Bool
  | .float _, .float _ => true
  | _, _ => false

/-- An arithmetic operator. -/
def arithmetic (op : BinaryOp) (a b : Value) : Except EvalError Value :=
  if !(a.isNumeric && b.isNumeric) then .error (mismatch op a b)
  else
    match a.integer?, b.integer? with
    | some m, some n => integers op ((Width.of a).max (Width.of b)) m n
    | _, _ =>
      match a.double?, b.double? with
      | some x, some y =>
        let result := floatings op x y
        .ok (if bothSingle a b then .float (result.convert .single) else .double result)
      | _, _ => .error (mismatch op a b)

/-- The negation of an integer of a word's width, unless it leaves the width. -/
def negateWithin (low : Int) (n : Int) (make : Int → Value) : Option Value :=
  if n = low then none else some (make (-n))

/-- The negation of a number. -/
def negate? : Value → Option Value
  | .byte n => negateWithin (-0x80) n.toInt fun n => .byte (Int8.ofInt n)
  | .short n => negateWithin (-0x8000) n.toInt fun n => .short (Int16.ofInt n)
  | .int n => negateWithin (-0x80000000) n.toInt fun n => .int (Int32.ofInt n)
  | .long n => negateWithin (-0x8000000000000000) n.toInt fun n => .long (Int64.ofInt n)
  | .bigInteger n => negateWithin Value.minBig n .bigInteger
  | .float x => some (.float x.neg)
  | .double x => some (.double x.neg)
  | .decimal text =>
    match text.toList with
    | '-' :: positive => some (.decimal (String.ofList positive))
    | digits => some (.decimal (String.ofList ('-' :: digits)))
  | .number (.integer n) => some (.bigInteger (-n))
  | .number (.floating x) => some (.double x.neg)
  | _ => none

/-- A prefix operator. -/
def unary (op : UnaryOp) (v : Value) : Except EvalError Value :=
  match op with
  | .not => .ok (.boolean (!v.truthy))
  | .negate =>
    match negate? v with
    | some negated => .ok negated
    | none => .error (.typeMismatch "-" v.typeName v.typeName)

/-- A binary operator on two values. -/
def binary (op : BinaryOp) (a b : Value) : Except EvalError Value :=
  match op with
  | .or => .ok (.boolean (a.truthy || b.truthy))
  | .and => .ok (.boolean (a.truthy && b.truthy))
  | .eq => .ok (.boolean (looselyEqual a b))
  | .ne => .ok (.boolean (!looselyEqual a b))
  | .lt | .gt | .le | .ge =>
    match compare? a b with
    | some order => .ok (.boolean (holds op order))
    | none => .error (mismatch op a b)
  | .isIn | .notIn =>
    match member? a b with
    | some found => .ok (.boolean (found == (op == .isIn)))
    | none => .error (mismatch op a b)
  | .add =>
    if a.isTextual || b.isTextual then .ok (.string (a.text ++ b.text)) else arithmetic op a b
  | .sub | .mul | .div | .rem => arithmetic op a b

end Operator

end SqlPreview
