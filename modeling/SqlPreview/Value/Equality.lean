import SqlPreview.Value.Text

/-!
# When values are the same

`Value.same` tells values of different type apart, takes floating numbers as numbers, and ignores
the order of map entries. Sets keep one of values that are the same.
-/

namespace SqlPreview.Value

mutual

/-- Equality of values, type and content. -/
def same : Value → Value → Bool
  | .null, .null => true
  | .boolean a, .boolean b => a == b
  | .character a, .character b => a == b
  | .byte a, .byte b => a == b
  | .short a, .short b => a == b
  | .int a, .int b => a == b
  | .long a, .long b => a == b
  | .float a, .float b => a.same b
  | .double a, .double b => a.same b
  | .bigInteger a, .bigInteger b => a == b
  | .decimal a, .decimal b => a == b
  | .number a, .number b => a.same b
  | .string a, .string b => a == b
  | .date a, .date b => a == b
  | .localDate a, .localDate b => a == b
  | .localDateTime a, .localDateTime b => a == b
  | .localTime a, .localTime b => a == b
  | .uuid a, .uuid b => a == b
  | .constant type a, .constant type' b => type == type' && a == b
  | .sequence kind a, .sequence kind' b => kind == kind' && sameItems a b
  | .map a, .map b => a.length == b.length && sameFields a b
  | _, _ => false

def sameItems : List Value → List Value → Bool
  | [], [] => true
  | a :: as, b :: bs => same a b && sameItems as bs
  | _, _ => false

/-- Every entry of the first map is in the second. -/
def sameFields : List (String × Value) → List (String × Value) → Bool
  | [], _ => true
  | (name, a) :: rest, others =>
    (match others.lookup name with
      | some b => same a b
      | none => false) && sameFields rest others

end

/-- The values in order, each only where no earlier one is the same. -/
def distinct (values : List Value) : List Value :=
  (values.foldl (fun kept v => if kept.any (same · v) then kept else v :: kept) []).reverse

end SqlPreview.Value
