import ScoringRules.Json
import ScoringRules.Resource.Basic
import ScoringRules.Text

/-!
# Reading addresses

An address is a sequence of words set apart by `/`, which pair up as steps of a collection keyword
and a word for its slot. The steps are read from the left, each extending the resource addressed so
far; the first step that does not fit is the fault that is reported.

- `Progress.extend` says which step may follow which
- `Resource.parse` reads a whole text

In a document an address is a string: its canonical text is written, and any text that parses is
read.
-/

namespace ScoringRules

/-- How far an address has been read. -/
inductive Progress (S : Type) where
  /-- No step yet. -/
  | nothing
  /-- The steps so far address `resource`, and `located` tells whether a location was among them. -/
  | upTo (resource : Resource S) (located : Bool)
deriving DecidableEq

section Reading

variable {S : Type} [Slot S]

def readSlot (word : String) : Except Fault S := (Slot.read word).mapError Fault.token

/-- Reads the word of a slot with an optional revision, the slot first. -/
def readRevised (word : String) : Except Fault (S × Option S) :=
  match Text.cut revisionMark word with
  | (identifier, none) => do return (← readSlot identifier, none)
  | (identifier, some revision) => do return (← readSlot identifier, some (← readSlot revision))

namespace Progress

/-- Reads one step with a known keyword. A location may follow the project directly, and once; an
artifact may follow anything but an artifact; otherwise each collection has its one place. -/
def extend : Progress S → Collection → String → Except Fault (Progress S)
  | nothing, .projects, word => do return upTo { node := .project (← readSlot word) } false
  | upTo ⟨.project p, none⟩ false, .locations, word =>
      if word = globalLocation then .ok (upTo { node := .project p } true)
      else .error (.unsupportedLocation word)
  | upTo ⟨.project p, none⟩ located, .apis, word => do
      return upTo { node := .api p (← readSlot word) } located
  | upTo ⟨.api p a, none⟩ located, .versions, word => do
      return upTo { node := .version p a (← readSlot word) } located
  | upTo ⟨.api p a, none⟩ located, .deployments, word => do
      let (deployment, revision) ← readRevised word
      return upTo { node := .deployment p a deployment revision } located
  | upTo ⟨.version p a v, none⟩ located, .specs, word => do
      let (spec, revision) ← readRevised word
      return upTo { node := .spec p a v spec revision } located
  | upTo ⟨node, none⟩ located, .artifacts, word => do
      return upTo { node, artifact? := some (← readSlot word) } located
  | _, collection, _ => .error (.unexpectedCollection collection.keyword)

def advance (progress : Progress S) (step : String × String) : Except Fault (Progress S) :=
  match Collection.ofKeyword? step.1 with
  | some collection => progress.extend collection step.2
  | none => .error (.unexpectedCollection step.1)

/-- The resource that has been addressed. An address of no steps names no collection at all. -/
def finish : Progress S → Except Fault (Resource S)
  | nothing => .error (.unexpectedCollection "")
  | upTo resource _ => .ok resource

end Progress

/-- The steps that a sequence of words pairs up to, if it does. -/
def pairUp : List String → Option (List (String × String))
  | [] => some []
  | [_] => none
  | collection :: word :: later => (pairUp later).map ((collection, word) :: ·)

namespace Resource

/-- Reads the words of an address. -/
def readWords (words : List String) : Except Fault (Resource S) :=
  match pairUp words with
  | none => .error .unpaired
  | some steps => do (← steps.foldlM Progress.advance Progress.nothing).finish

def parse (text : String) : Except ParseError (Resource S) :=
  if text = "" then .error (.empty (Slot.subject S))
  else (readWords (Text.words '/' text)).mapError (.invalid (Slot.subject S) text)

end Resource

end Reading

def Name.parse (text : String) : Except ParseError Name := Resource.parse text

def Pattern.parse (text : String) : Except ParseError Pattern := Resource.parse text

instance {S : Type} [Slot S] : Codec (Resource S) where
  encode resource := .string resource.text
  decode?
    | .string text => (Resource.parse text).toOption
    | _ => none

end ScoringRules
