import ScoringRules.Toml.Scalar
import ScoringRules.Toml.Tree

/-!
# Items and tables

An item is a value or a table of items. How a table came about decides what may still be added to
it: a table that only stands above a defined one may yet be defined, one that is opened by dotted
keys takes more dotted keys, and one that was written in line is complete.

- `Table.insert?` adds a value under a dotted key
- `Table.define?` and `Table.append?` add the table that a header defines
- `Item.ofTrees?` and `Assignment.ofTrees?` read values and assignments
-/

namespace ScoringRules.Toml

/-- How a table came about. -/
inductive Origin where
  /-- It stands above a table with a header. -/
  | above
  /-- It stands above the value of a dotted key. -/
  | dotted
  /-- It has a header. -/
  | header
  /-- It is written in line. -/
  | inLine
deriving DecidableEq, Repr

/-- A value or a table. -/
inductive Item where
  | scalar (value : Scalar)
  | array (items : List Item)
  | table (origin : Origin) (members : List (String × Item))
  /-- The tables with one header for arrays of tables, the last one first. -/
  | tables (reversed : List (List (String × Item)))

/-- The members of a table. -/
abbrev Table : Type := List (String × Item)

/-! ## JSON values -/

mutual

/-- The JSON value of an item, unless a number in it cannot be represented. -/
def Item.toJson? : Item → Option Json
  | .scalar value => value.toJson?
  | .array items => do return .array (← itemsToJson? items)
  | .table _ members => do return .object (← membersToJson? members)
  | .tables reversed => do return .array (← tablesToJson? reversed).reverse

/-- The JSON values of items. -/
def itemsToJson? : List Item → Option (List Json)
  | [] => some []
  | item :: later => do return (← item.toJson?) :: (← itemsToJson? later)

/-- The members of a table as JSON values. -/
def membersToJson? : List (String × Item) → Option (List (String × Json))
  | [] => some []
  | (name, item) :: later => do return (name, ← item.toJson?) :: (← membersToJson? later)

/-- The JSON values of tables. -/
def tablesToJson? : List (List (String × Item)) → Option (List Json)
  | [] => some []
  | members :: later => do return .object (← membersToJson? members) :: (← tablesToJson? later)

end

/-- The item with the elements beyond a number left out, if it is an array. -/
def Item.take (count : Nat) : Item → Item
  | .array items => .array (items.take count)
  | item => item

/-! ## Adding to tables -/

/-- A dotted key: the names of the tables on the way, and the name in the last of them. -/
structure Key where
  above : List String
  name : String
deriving DecidableEq, Repr

namespace Table

/-- Changes the item of a name, where the change is told what the name has so far. -/
def alter? (name : String) (change : Option Item → Option Item) : Table → Option Table
  | [] => do return [(name, ← change none)]
  | (other, item) :: later =>
      if other = name then do return (other, ← change (some item)) :: later
      else do return (other, item) :: (← alter? name change later)

/-- Changes the table at the end of a path, where the change is told how that table came about.
Tables that are missing on the way come about as `opened`, and of arrays of tables the last one is
meant. Dotted keys do not lead through a table that has a header, and nothing leads into a table
written in line. -/
def descend? (opened : Origin) (change : Origin → Table → Option Table) :
    List String → Origin → Table → Option Table
  | [], origin, members => change origin members
  | name :: later, _, members =>
      members.alter? name fun
        | none => .table opened <$> descend? opened change later opened []
        | some (.table origin inner) =>
            if origin = .inLine ∨ (opened = .dotted ∧ origin = .header) then none
            else .table origin <$> descend? opened change later origin inner
        | some (.tables (last :: earlier)) =>
            (.tables <| · :: earlier) <$> descend? opened change later .header last
        | some (.tables []) | some (.scalar _) | some (.array _) => none

/-- Adds an item under a dotted key. The name must be new, and the last table on the way one that
dotted keys have opened. -/
def insert? (table : Table) (key : Key) (item : Item) : Option Table :=
  descend? .dotted
    (fun origin members =>
      if key.above ≠ [] ∧ origin ≠ .dotted then none
      else members.alter? key.name fun
        | none => some item
        | some _ => none)
    key.above .header table

/-- Adds the table that a header defines, with a body to fill it. The table must be new, or so far
only stand above others. -/
def define? (table : Table) (key : Key) (body : Table → Option Table) : Option Table :=
  descend? .above
    (fun _ members =>
      members.alter? key.name fun
        | none => .table .header <$> body []
        | some (.table .above inner) => .table .header <$> body inner
        | some _ => none)
    key.above .header table

/-- Adds a table to the array of tables that a header names, with a body to fill it. -/
def append? (table : Table) (key : Key) (body : Table → Option Table) : Option Table :=
  descend? .above
    (fun _ members =>
      members.alter? key.name fun
        | none => (.tables [·]) <$> body []
        | some (.tables earlier) => (.tables <| · :: earlier) <$> body []
        | some _ => none)
    key.above .header table

end Table

/-! ## Reading -/

/-- How deeply values may nest, and how many names a key may have. -/
def maxDepth : Nat := 80

namespace Key

/-- The name that a tree is in a key. A block is no name. -/
def nameOf? : Tree → Option String
  | .atom (.word name) => if name.toList.all fun c => Text.IsPlainChar c then some name else none
  | .atom (.quoted name false) => some name
  | .atom _ | .group .. => none

/-- The key of trees in which names and full stops take turns. -/
def ofParts? : List Tree → Option Key
  | [part] => do return ⟨[], ← nameOf? part⟩
  | part :: .atom .stop :: later => do
      let key ← ofParts? later
      return ⟨(← nameOf? part) :: key.above, key.name⟩
  | _ => none

/-- Reads a key. Blank space may surround each of its parts. -/
def ofTrees? (trees : List Tree) : Option Key := do
  let key ← ofParts? (trees.filter fun tree => !tree.isBlank)
  if key.above.length < maxDepth then some key else none

end Key

/-- A value for a key. -/
structure Assignment where
  key : Key
  item : Item

/-- Reads an assignment, given how its value is read. In tables that are written in line, layout may
surround the key and the value. -/
def Assignment.ofTrees? (value? : List Tree → Option Item) (trees : List Tree) :
    Option Assignment :=
  match cutTrees (Tree.isAtom .equals) trees with
  | (_, none) => none
  | (key, some value) => do
      return ⟨← Key.ofTrees? (trim Tree.isLayout key), ← value? (trim Tree.isLayout value)⟩

/-- A table with assignments added to it. -/
def Table.assign? (table : Table) (assignments : List Assignment) : Option Table :=
  assignments.foldlM (fun table assignment => table.insert? assignment.key assignment.item) table

/-- The characters of a tree in an unquoted value, which may have blank space inside. -/
def Tree.unquoted? : Tree → Option (List Char)
  | .atom (.word text) => some text.toList
  | .atom .stop => some ['.']
  | .atom (.blank char) => some [char]
  | .atom _ | .group .. => none

/-- Reads a value in which groups nest at most to the given depth. -/
def Item.ofTrees? : Nat → List Tree → Option Item
  | depth + 1, [.group .square inner] => do
      return .array (← (← elements? inner).mapM (ofTrees? depth))
  | depth + 1, [.group .curly inner] => do
      let assignments ← (← elements? inner).mapM (Assignment.ofTrees? (ofTrees? depth))
      return .table .inLine (← Table.assign? [] assignments)
  | _, [.atom (.quoted text _)] => some (.scalar (.string text))
  | _, trees => do return .scalar (← Scalar.ofText? (← trees.mapM Tree.unquoted?).flatten)

end ScoringRules.Toml
