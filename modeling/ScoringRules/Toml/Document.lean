import ScoringRules.Toml.Item

/-!
# TOML documents

A document is a sequence of lines. Assignments before the first header belong to the document's own
table, later ones to the table of the last header before them.

- `sections` groups statements by their headers
- `parse?` reads a document, or finds that it is none
-/

namespace ScoringRules.Toml

/-- A line that names the table to which the assignments after it belong. -/
inductive Header where
  | table (key : Key)
  /-- A new table in an array of tables. -/
  | arrayElement (key : Key)
deriving DecidableEq, Repr

/-- What a line says. -/
inductive Statement where
  | header (header : Header)
  | assignment (assignment : Assignment)

/-- Reads a line with something on it. -/
def Statement.ofLine? : List Tree → Option Statement
  | [.group .square [.group .square key]] => do
      return .header (.arrayElement (← Key.ofTrees? key))
  | [.group .square key] => do return .header (.table (← Key.ofTrees? key))
  | line => .assignment <$> Assignment.ofTrees? (Item.ofTrees? maxDepth) line

/-- The assignments before the first header, and each header with the assignments after it. -/
def sections (statements : List Statement) : List Assignment × List (Header × List Assignment) :=
  statements.foldr
    (fun statement (own, later) =>
      match statement with
      | .assignment assignment => (assignment :: own, later)
      | .header header => ([], (header, own) :: later))
    ([], [])

/-- Adds a section to the table of the document. -/
def addSection? (document : Table) : Header × List Assignment → Option Table
  | (.table key, assignments) => document.define? key (·.assign? assignments)
  | (.arrayElement key, assignments) => document.append? key (·.assign? assignments)

/-- The table that a document describes, if it is a document. -/
def parse? (text : String) : Option Table := do
  let trees ← group? (← tokenize? text)
  let statements ← ((lines trees).filter fun line => !line.isEmpty).mapM Statement.ofLine?
  let (own, later) := sections statements
  later.foldlM addSection? (← Table.assign? [] own)

end ScoringRules.Toml
