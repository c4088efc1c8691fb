/-! What is wrong with a document, and where. Each issue has a path of keys and places, a code and a
message. -/

namespace BoxTree.Schema

/-- One step from a value to a part of it. -/
inductive Step where
  | key (name : String)
  | place (index : Int)
deriving DecidableEq

/-- The kinds of values that a document is made of. A record is a mapping with known keys. -/
inductive Kind where
  | text
  | truth
  | whole
  | mapping
  | list
  | tuple
  | record (name : String)
deriving DecidableEq

inductive Cause where
  | missing
  | unexpected
  | wrongKind (wanted : Kind)
  | emptyText
  | undecodable
  | unclearTruth
  | unclearWhole
  | oversizedWhole
  | fractional
  | notFinite
  | below (least : Int)
  | above (most : Int)
  | noOption (names : List String)
  | noLiteral (texts : List String)
  | rejected (reason : String)
deriving DecidableEq

structure Issue where
  path : List Step
  cause : Cause
deriving DecidableEq

namespace Kind

def code : Kind → String
  | text => "string_type"
  | truth => "bool_type"
  | whole => "int_type"
  | mapping => "dict_type"
  | list => "list_type"
  | tuple => "tuple_type"
  | record _ => "model_type"

def phrase : Kind → String
  | text => "string"
  | truth => "boolean"
  | whole => "integer"
  | mapping => "dictionary"
  | list => "list"
  | tuple => "tuple"
  | record name => s!"dictionary or instance of {name}"

end Kind

/-- Alternatives in quotes: `'a', 'b' or 'c'`. -/
def alternatives (names : List String) : String :=
  match (names.map fun name => s!"'{name}'").reverse with
  | [] => ""
  | [only] => only
  | last :: before => ", ".intercalate before.reverse ++ " or " ++ last

namespace Cause

def code : Cause → String
  | missing => "missing"
  | unexpected => "extra_forbidden"
  | wrongKind wanted => wanted.code
  | emptyText => "string_too_short"
  | undecodable => "string_unicode"
  | unclearTruth => "bool_parsing"
  | unclearWhole => "int_parsing"
  | oversizedWhole => "int_parsing_size"
  | fractional => "int_from_float"
  | notFinite => "finite_number"
  | below _ => "greater_than_equal"
  | above _ => "less_than_equal"
  | noOption _ => "enum"
  | noLiteral _ => "literal_error"
  | rejected _ => "value_error"

def message : Cause → String
  | missing => "Field required"
  | unexpected => "Extra inputs are not permitted"
  | wrongKind wanted => s!"Input should be a valid {wanted.phrase}"
  | emptyText => "String should have at least 1 character"
  | undecodable => "Input should be a valid string, unable to parse raw data as a unicode string"
  | unclearTruth => "Input should be a valid boolean, unable to interpret input"
  | unclearWhole => "Input should be a valid integer, unable to parse string as an integer"
  | oversizedWhole => "Unable to parse input string as an integer, exceeded maximum size"
  | fractional => "Input should be a valid integer, got a number with a fractional part"
  | notFinite => "Input should be a finite number"
  | below least => s!"Input should be greater than or equal to {least}"
  | above most => s!"Input should be less than or equal to {most}"
  | noOption names | noLiteral names => "Input should be " ++ alternatives names
  | rejected reason => "Value error, " ++ reason

end Cause

namespace Step

def text : Step → String
  | key name => name
  | place index => toString index

end Step

namespace Issue

def under (step : Step) (issue : Issue) : Issue := ⟨step :: issue.path, issue.cause⟩

def line (issue : Issue) : String :=
  ".".intercalate (issue.path.map Step.text) ++ ": " ++ issue.cause.message

end Issue
end BoxTree.Schema
