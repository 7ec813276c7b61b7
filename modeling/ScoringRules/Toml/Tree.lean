import ScoringRules.Toml.Token

/-!
# Bracketed token trees

Brackets group the tokens between them, so that a statement or an element can be told from its
surroundings without looking inside groups. Grouping is a fold with a stack of the groups that are
still open.

- `group?` turns tokens into trees, unless brackets do not match
- `separate` and `cutTrees` take trees apart at separating atoms
- `lines` and `elements?` are the parts of a document and of a group
-/

namespace ScoringRules.Toml

/-- An atom, or the trees inside a pair of brackets. -/
inductive Tree where
  | atom (atom : Atom)
  | group (bracket : Bracket) (inner : List Tree)

/-- The trees read so far, each level with its last tree first: those at the current level, and for
each open group its bracket with the trees before it, the innermost group first. -/
structure Grouping where
  current : List Tree := []
  outer : List (Bracket × List Tree) := []

namespace Grouping

/-- Reads a token. -/
def feed (grouping : Grouping) : Token → Option Grouping
  | .atom atom => some { grouping with current := .atom atom :: grouping.current }
  | .opening bracket =>
      some { current := [], outer := (bracket, grouping.current) :: grouping.outer }
  | .closing bracket =>
      match grouping.outer with
      | [] => none
      | (opened, before) :: outer =>
          if opened = bracket then
            some { current := .group bracket grouping.current.reverse :: before, outer }
          else none

/-- The trees of a document that ends here, unless a group is still open. -/
def finish (grouping : Grouping) : Option (List Tree) :=
  match grouping.outer with
  | [] => some grouping.current.reverse
  | _ :: _ => none

end Grouping

def group? (tokens : List Token) : Option (List Tree) := do
  (← tokens.foldlM Grouping.feed {}).finish

namespace Tree

def isAtom (expected : Atom) : Tree → Bool
  | atom found => found = expected
  | group .. => false

def isBlank : Tree → Bool
  | atom (.blank _) => true
  | atom _ | group .. => false

def isLayout (tree : Tree) : Bool := tree.isBlank || tree.isAtom .newline

end Tree

def separate (separates : Tree → Bool) (trees : List Tree) : List Tree × List (List Tree) :=
  trees.foldr
    (fun tree (part, later) =>
      if separates tree then ([], part :: later) else (tree :: part, later))
    ([], [])

/-- The trees before the first one that separates, and those after it when there is one. -/
def cutTrees (separates : Tree → Bool) (trees : List Tree) : List Tree × Option (List Tree) :=
  (trees.takeWhile fun tree => !separates tree,
    match trees.dropWhile fun tree => !separates tree with
    | [] => none
    | _ :: after => some after)

/-- The trees without those at either end that are dropped. -/
def trim (dropped : Tree → Bool) (trees : List Tree) : List Tree :=
  ((trees.dropWhile dropped).reverse.dropWhile dropped).reverse

def lines (trees : List Tree) : List (List Tree) :=
  let (first, later) := separate (Tree.isAtom .newline) trees
  (first :: later).map (trim Tree.isBlank)

/-- The elements of a group, which commas separate. A comma may follow the last element, and layout
may surround each. -/
def elements? (inner : List Tree) : Option (List (List Tree)) :=
  let (first, later) := separate (Tree.isAtom .comma) inner
  let parts := (first :: later).map (trim Tree.isLayout)
  let parts := if (parts.getLast?.getD []).isEmpty then parts.dropLast else parts
  if parts.any List.isEmpty then none else some parts

end ScoringRules.Toml
