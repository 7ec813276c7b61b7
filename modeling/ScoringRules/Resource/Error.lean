/-!
# Errors of addresses

A token that fills no slot has an error of its own. A `Fault` is what is wrong with a whole address,
and a `ParseError` records the fault together with the text that was read and what that text was
meant to be. The wording of each is given by its `message`.
-/

namespace ScoringRules

/-- What a text that was read is meant to be. -/
inductive Subject where
  | resourceName
  | resourcePattern
  /-- A pattern that is written relative to a target. -/
  | relativePattern
deriving DecidableEq, Repr

def Subject.label : Subject → String
  | resourceName => "resource name"
  | resourcePattern => "resource pattern"
  | relativePattern => "pattern"

/-- A token that cannot fill a slot. -/
inductive TokenError where
  | invalidIdentifier (value : String)
  | invalidReference (token : String)
deriving DecidableEq, Repr

def TokenError.message : TokenError → String
  | invalidIdentifier value =>
      "invalid identifier \"" ++ value ++ "\": expected ASCII letters, digits, '-' or '_'"
  | invalidReference token =>
      "invalid reference \"" ++ token ++ "\": expected $resource.(api|version|spec|artifact)"

/-- What is wrong with an address. -/
inductive Fault where
  | unpaired
  | unexpectedCollection (collection : String)
  | unsupportedLocation (location : String)
  | token (error : TokenError)
deriving DecidableEq, Repr

def Fault.message : Fault → String
  | unpaired => "expected collection/identifier pairs"
  | unexpectedCollection collection => "unexpected collection \"" ++ collection ++ "\""
  | unsupportedLocation location => "unsupported location \"" ++ location ++ "\""
  | token error => error.message

/-- Why a text is not an address. -/
inductive ParseError where
  | empty (subject : Subject)
  | invalid (subject : Subject) (input : String) (fault : Fault)
deriving DecidableEq, Repr

def ParseError.message : ParseError → String
  | empty subject => subject.label ++ " is empty"
  | invalid subject input fault =>
      "invalid " ++ subject.label ++ " \"" ++ input ++ "\": " ++ fault.message

end ScoringRules
