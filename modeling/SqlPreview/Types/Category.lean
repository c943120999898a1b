import SqlPreview.Types.ClassTable

/-!
# Categories of types

What a type is good for when values are read: a scalar of some kind, a sequence, a map, or a
composite whose fields the class table lists.
-/

namespace SqlPreview

inductive ScalarKind where
  | boolean
  | byte
  | short
  | int
  | long
  | float
  | double
  | character
  | string
  | bigDecimal
  | bigInteger
  | date
  | localDate
  | localDateTime
  | localTime
  | uuid
  | enumeration
  | object
deriving DecidableEq, Repr

inductive Category where
  | scalar (kind : ScalarKind)
  | array
  | list
  | set
  | map
  | composite
deriving DecidableEq, Repr

namespace Category

def isScalar : Category → Bool
  | .scalar _ => true
  | _ => false

def isSequence : Category → Bool
  | .array | .list | .set => true
  | _ => false

end Category

/-- The scalar types, by qualified and by simple name. -/
def scalarTypes : List (String × ScalarKind) :=
  [("boolean", .boolean), ("java.lang.Boolean", .boolean), ("Boolean", .boolean),
   ("byte", .byte), ("java.lang.Byte", .byte), ("Byte", .byte),
   ("short", .short), ("java.lang.Short", .short), ("Short", .short),
   ("int", .int), ("java.lang.Integer", .int), ("Integer", .int),
   ("long", .long), ("java.lang.Long", .long), ("Long", .long),
   ("float", .float), ("java.lang.Float", .float), ("Float", .float),
   ("double", .double), ("java.lang.Double", .double), ("Double", .double),
   ("char", .character), ("java.lang.Character", .character), ("Character", .character),
   ("java.lang.String", .string), ("String", .string),
   ("java.lang.CharSequence", .string), ("CharSequence", .string),
   ("java.math.BigDecimal", .bigDecimal), ("BigDecimal", .bigDecimal),
   ("java.math.BigInteger", .bigInteger), ("BigInteger", .bigInteger),
   ("java.util.Date", .date),
   ("java.sql.Timestamp", .date), ("Timestamp", .date),
   ("java.time.Instant", .date), ("Instant", .date),
   ("java.time.OffsetDateTime", .date), ("OffsetDateTime", .date),
   ("java.time.ZonedDateTime", .date), ("ZonedDateTime", .date),
   ("java.time.LocalDate", .localDate), ("LocalDate", .localDate), ("java.sql.Date", .localDate),
   ("java.time.LocalDateTime", .localDateTime), ("LocalDateTime", .localDateTime),
   ("java.time.LocalTime", .localTime), ("LocalTime", .localTime), ("java.sql.Time", .localTime),
   ("java.util.UUID", .uuid), ("UUID", .uuid),
   ("java.lang.Object", .object), ("Object", .object),
   ("java.lang.Number", .object), ("Number", .object)]

/-- The container types, by the name they have inside the package of collections. -/
def containerTypes : List (String × Category) :=
  [("List", .list), ("ArrayList", .list), ("LinkedList", .list), ("Collection", .list),
   ("Queue", .list), ("Deque", .list), ("ArrayDeque", .list), ("Vector", .list),
   ("java.lang.Iterable", .list), ("Iterable", .list),
   ("Set", .set), ("HashSet", .set), ("LinkedHashSet", .set), ("TreeSet", .set),
   ("SortedSet", .set), ("NavigableSet", .set),
   ("Map", .map), ("HashMap", .map), ("LinkedHashMap", .map), ("TreeMap", .map),
   ("SortedMap", .map), ("NavigableMap", .map), ("Hashtable", .map), ("Properties", .map),
   ("concurrent.ConcurrentHashMap", .map)]

def scalarKind? (name : String) : Option ScalarKind := scalarTypes.lookup name

/-- The category of a container, whose package may be left out. -/
def containerCategory? (name : String) : Option Category :=
  let inPackage := (Text.dropStart? "java.util.".toList name.toList).map String.ofList
  containerTypes.lookup (inPackage.getD name)

namespace TypeRef

/-- The category of a type: an array, a well-known scalar or container, an enumeration of the class
table, or else a composite. -/
def category (table : ClassTable) (type : TypeRef) : Category :=
  if type.isArray then .array
  else
    -- Well-known names keep their meaning even when a class of the table has one of them.
    match scalarKind? type.name, containerCategory? type.name with
    | some kind, _ => .scalar kind
    | none, some container => container
    | none, none =>
      match table.find? type.name with
      | some info => if info.isEnum then .scalar .enumeration else .composite
      | none => .composite

/-- A map type, whatever is known about classes. -/
def isMapLike (type : TypeRef) : Bool :=
  !type.isArray && containerCategory? type.name == some .map

end TypeRef

end SqlPreview
