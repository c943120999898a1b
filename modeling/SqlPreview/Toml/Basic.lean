import SqlPreview.Dict

/-!
# TOML tables

The values that a TOML document gives to keys, and how lines with dotted keys and headers build up
its tables. A table may be filled in several places only as far as each place may still add to it.
-/

namespace SqlPreview

/-- How a table came to be, which decides what may add to it. -/
inductive TableOrigin where
  /-- By its own header, or as the document itself. -/
  | header
  /-- By the header of a table inside it. -/
  | implied
  /-- By a dotted key. -/
  | dotted
  /-- As a value in braces. -/
  | inline
deriving DecidableEq, Repr

inductive Toml where
  | string (s : String)
  | integer (n : Int)
  | boolean (b : Bool)
  /-- A floating number, a date or a time. -/
  | other
  | array (items : List Toml)
  | table (origin : TableOrigin) (entries : List (String × Toml))
  /-- Tables that headers with doubled brackets list one by one. -/
  | tables (items : List Toml)

instance : Inhabited Toml := ⟨.other⟩

namespace Toml

/-- The table of a document in which nothing is defined. -/
def empty : Toml := .table .header []

/-- Whether keys, dotted ones or those of headers, may go through a table. -/
def isPassable (dotted : Bool) : TableOrigin → Bool
  | .inline => false
  | .header => !dotted
  | .implied | .dotted => true

/-- Changes what a path of keys leads to. Tables that are missing on the way are made, and among
listed tables the way goes through the last. -/
def changeAt (dotted : Bool) (change : Toml → Option Toml) : List String → Toml → Option Toml
  | [], target => change target
  | key :: path, .table origin entries => do
    let child ←
      match Dict.get? entries key with
      | none => changeAt dotted change path (.table (if dotted then .dotted else .implied) [])
      | some (.table inner known) =>
        if isPassable dotted inner then changeAt dotted change path (.table inner known) else none
      | some (.tables items) => do
        let last ← items.getLast?
        let changed ← changeAt dotted change path last
        some (.tables (items.dropLast ++ [changed]))
      | some _ => none
    some (.table origin (Dict.put entries key child))
  | _ :: _, _ => none

/-- Gives a new key of a table its value. A dotted key ends in a table that dotted keys made, a
plain one in any other. -/
def addEntry (plain : Bool) (key : String) (value : Toml) : Toml → Option Toml
  | .table origin entries =>
    if (origin == .dotted) == plain || Dict.has entries key then none
    else some (.table origin (Dict.put entries key value))
  | _ => none

/-- A key with what leads to it. -/
structure KeyPath where
  path : List String
  key : String
deriving DecidableEq, Repr

/-- A table with one more value. -/
def define (table : Toml) (entry : KeyPath × Toml) : Option Toml :=
  let (⟨path, key⟩, value) := entry
  changeAt true (addEntry path.isEmpty key value) path table

/-- A table with more values, one after another. -/
def defineAll (table : Toml) (entries : List (KeyPath × Toml)) : Option Toml :=
  entries.foldlM define table

/-- Opens the table of a header, which may have been implied before, and fills it. -/
def openTable (entries : List (KeyPath × Toml)) (key : String) : Toml → Option Toml
  | .table origin known => do
    let opened ←
      match Dict.get? known key with
      | none => some (.table .header [])
      | some (.table .implied inner) => some (.table .header inner)
      | some _ => none
    let filled ← defineAll opened entries
    some (.table origin (Dict.put known key filled))
  | _ => none

/-- Adds one more table to those that headers list under a key, and fills it. -/
def appendTable (entries : List (KeyPath × Toml)) (key : String) : Toml → Option Toml
  | .table origin known => do
    let items ←
      match Dict.get? known key with
      | none => some []
      | some (.tables items) => some items
      | some _ => none
    let filled ← defineAll (.table .header []) entries
    some (.table origin (Dict.put known key (.tables (items ++ [filled]))))
  | _ => none

/-- A header with the entries below it. -/
structure Section where
  listed : Bool
  header : KeyPath
  entries : List (KeyPath × Toml)

/-- A document with one more section. -/
def addSection (document : Toml) (part : Section) : Option Toml :=
  let fill := if part.listed then appendTable else openTable
  changeAt false (fill part.entries part.header.key) part.header.path document

/-- The document with these entries before its sections. -/
def document (entries : List (KeyPath × Toml)) (sections : List Section) : Option Toml := do
  let top ← defineAll empty entries
  sections.foldlM addSection top

/-- The table in braces with these entries. -/
def inlineTable (entries : List (KeyPath × Toml)) : Option Toml :=
  defineAll (.table .inline []) entries

end Toml

end SqlPreview
