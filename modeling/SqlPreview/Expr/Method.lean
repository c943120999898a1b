import SqlPreview.Expr.Operator
import SqlPreview.Text.Case

/-!
# Properties, elements and methods

What can be asked of a value: its properties, its elements, and the methods of strings, sequences,
maps and constants. Positions in strings count code points.
-/

namespace SqlPreview

namespace Method

/-- The property of a value. A map answers with the entry of that name. -/
def property (target : Value) (name : String) : Except EvalError Value :=
  match target with
  | .null => .error (.nullTarget name)
  | .map fields => .ok ((Dict.get? fields name).getD .null)
  | .sequence _ items =>
    match name with
    | "size" | "length" => .ok (.count items.length)
    | "empty" | "isEmpty" => .ok (.boolean items.isEmpty)
    | _ => .error (.unknownProperty name "List")
  | .string s =>
    if name == "empty" then .ok (.boolean s.isEmpty)
    else .error (.unknownProperty name target.typeName)
  | .constant _ constant =>
    if name == "name" then .ok (.string constant)
    else .error (.unknownProperty name target.typeName)
  | _ => .error (.unknownProperty name target.typeName)

/-- The element of a value: a map's entry by the text of the index, a sequence's by position. -/
def element (target index : Value) : Except EvalError Value :=
  match target with
  | .null => .error (.nullTarget ("[" ++ index.text ++ "]"))
  | .map fields => .ok ((Dict.get? fields index.text).getD .null)
  | .sequence _ items =>
    match index.integer? with
    | none => .error (.typeMismatch "[]" "List" index.typeName)
    | some position =>
      match if position < 0 then none else items[position.toNat]? with
      | some item => .ok item
      | none => .error (.indexOutOfBounds position items.length)
  | _ => .error (.typeMismatch "[]" target.typeName index.typeName)

/-! ## Arguments -/

def noArgument (method : String) (args : List Value) : Except EvalError Unit :=
  if args.isEmpty then .ok () else .error (.badArguments method (.count 0 args.length))

def oneArgument (method : String) (args : List Value) : Except EvalError Value :=
  match args with
  | [arg] => .ok arg
  | _ => .error (.badArguments method (.count 1 args.length))

/-- The text of a single argument, which has to be something. -/
def textArgument (method : String) (args : List Value) : Except EvalError (List Char) := do
  let arg ← oneArgument method args
  match arg with
  | .null => .error (.badArguments method (.null 1))
  | arg => .ok arg.chars

/-- An argument that is a position. -/
def indexArgument (method : String) (place : Nat) (arg : Value) : Except EvalError Nat :=
  match arg.integer? with
  | some n =>
    if 0 ≤ n && n < 0x10000000000000000 then .ok n.toNat else .error (.badArguments method (.notIndex place))
  | none => .error (.badArguments method (.notIndex place))

/-! ## Methods by kind of value -/

/-- The characters from `start` up to `stop`. -/
def substring (text : List Char) (start stop : Nat) : Except EvalError (List Char) :=
  if stop < start || text.length < stop then
    .error (.indexOutOfBounds (max stop start : Nat) text.length)
  else .ok ((text.take stop).drop start)

/-- The part of a string that one or two positions cut out. -/
def substringMethod (text : List Char) (args : List Value) : Except EvalError Value :=
  let method := "substring"
  match args with
  | [start] => do
    let start ← indexArgument method 1 start
    let part ← substring text start text.length
    pure (.string (String.ofList part))
  | [start, stop] => do
    let start ← indexArgument method 1 start
    let stop ← indexArgument method 2 stop
    let part ← substring text start stop
    pure (.string (String.ofList part))
  | _ => .error (.badArguments method (.count 2 args.length))

/-- Equality of a text and the text of a value up to case. -/
def equalsIgnoreCase (text : List Char) : Value → Bool
  | .null => false
  | other => Text.lower text == Text.lower other.chars

/-- Where a text first occurs in another, or minus one. -/
def position (needle text : List Char) : Value :=
  match Text.indexOf? needle text with
  | some at_ => .count at_
  | none => .int (-1)

/-- A method of a string; nothing if strings have no such method. -/
def ofString (text : List Char) (method : String) (args : List Value) :
    Option (Except EvalError Value) :=
  let none_ (value : Value) : Option (Except EvalError Value) :=
    some ((noArgument method args).map fun _ => value)
  let textual (f : List Char → Value) : Option (Except EvalError Value) :=
    some ((textArgument method args).map f)
  match method with
  | "length" => none_ (.count text.length)
  | "isEmpty" => none_ (.boolean text.isEmpty)
  | "trim" => none_ (.string (String.ofList (Text.trim text)))
  | "toUpperCase" => none_ (.string (String.ofList (Text.upper text)))
  | "toLowerCase" => none_ (.string (String.ofList (Text.lower text)))
  | "contains" => textual fun needle => .boolean (Text.indexOf? needle text).isSome
  | "startsWith" => textual fun start => .boolean (start.isPrefixOf text)
  | "endsWith" => textual fun stop => .boolean (stop.isSuffixOf text)
  | "equalsIgnoreCase" =>
    some ((oneArgument method args).map fun other => .boolean (equalsIgnoreCase text other))
  | "indexOf" => textual fun needle => position needle text
  | "substring" => some (substringMethod text args)
  | _ => none

/-- A method of a sequence; nothing if sequences have no such method. -/
def ofSequence (target : Value) (items : List Value) (method : String) (args : List Value) :
    Option (Except EvalError Value) :=
  match method with
  | "size" | "length" => some ((noArgument method args).map fun _ => .count items.length)
  | "isEmpty" => some ((noArgument method args).map fun _ => .boolean items.isEmpty)
  | "contains" =>
    some ((oneArgument method args).map fun arg =>
      .boolean (items.any fun item => Operator.looselyEqual item arg))
  | "get" => some (oneArgument method args >>= element target)
  | "indexOf" =>
    some ((oneArgument method args).map fun arg =>
      match items.findIdx? fun item => Operator.looselyEqual item arg with
      | some at_ => .count at_
      | none => .int (-1))
  | _ => none

/-- A method of a map; nothing if maps have no such method. -/
def ofMap (fields : Dict Value) (method : String) (args : List Value) :
    Option (Except EvalError Value) :=
  match method with
  | "size" => some ((noArgument method args).map fun _ => .count fields.length)
  | "isEmpty" => some ((noArgument method args).map fun _ => .boolean fields.isEmpty)
  | "containsKey" =>
    some ((oneArgument method args).map fun arg => .boolean (fields.has arg.text))
  | "containsValue" =>
    some ((oneArgument method args).map fun arg =>
      .boolean (fields.any fun field => Operator.looselyEqual field.2 arg))
  | "get" =>
    some ((oneArgument method args).map fun arg => (fields.get? arg.text).getD .null)
  | _ => none

/-- A method of one kind of value; nothing if that kind has no such method. -/
def ofKind (target : Value) (method : String) (args : List Value) :
    Option (Except EvalError Value) :=
  match target with
  | .string s => ofString s.toList method args
  | .sequence _ items => ofSequence target items method args
  | .map fields => ofMap fields method args
  | .constant _ name =>
    if method == "name" then some ((noArgument method args).map fun _ => .string name) else none
  | _ => none

/-- The answer of a method. Every value has a text and can be compared. -/
def call (target : Value) (method : String) (args : List Value) : Except EvalError Value :=
  if target.isNull then .error (.nullTarget (method ++ "()"))
  else
    match method with
    | "toString" => (noArgument method args).map fun _ => .string target.text
    | "equals" =>
      (oneArgument method args).map fun arg => .boolean (Operator.looselyEqual target arg)
    | _ => (ofKind target method args).getD (.error (.unknownMethod method target.typeName))

end Method

end SqlPreview
