import EntityCatalog.Numeric.Reader
import EntityCatalog.Value

namespace EntityCatalog

inductive Misread where
  | notBool
  | unclearBool
  | notText
  | notInteger
  | fraction
  | unclearInteger
  | largeInteger
  | notFinite
  | notReal
  | unclearReal
  | notListed (choices : String)
  | notPath
  | notObject (name : String)
  | lessThan (least : Int)
  | senseless (message : String)
  | missing
  | undeclared
deriving DecidableEq, Repr

namespace Misread

def code : Misread → String
  | notBool => "bool_type"
  | unclearBool => "bool_parsing"
  | notText => "string_type"
  | notInteger => "int_type"
  | fraction => "int_from_float"
  | unclearInteger => "int_parsing"
  | largeInteger => "int_parsing_size"
  | notFinite => "finite_number"
  | notReal => "float_type"
  | unclearReal => "float_parsing"
  | notListed _ => "enum"
  | notPath => "path_type"
  | notObject _ => "model_type"
  | lessThan _ => "greater_than_equal"
  | senseless _ => "value_error"
  | missing => "missing"
  | undeclared => "extra_forbidden"

def message : Misread → String
  | notBool => "Input should be a valid boolean"
  | unclearBool => "Input should be a valid boolean, unable to interpret input"
  | notText => "Input should be a valid string"
  | notInteger => "Input should be a valid integer"
  | fraction => "Input should be a valid integer, got a number with a fractional part"
  | unclearInteger => "Input should be a valid integer, unable to parse string as an integer"
  | largeInteger => "Unable to parse input string as an integer, exceeded maximum size"
  | notFinite => "Input should be a finite number"
  | notReal => "Input should be a valid number"
  | unclearReal => "Input should be a valid number, unable to parse string as a number"
  | notListed choices => "Input should be " ++ choices
  | notPath => "Input is not a valid path for <class 'pathlib.Path'>"
  | notObject name => "Input should be a valid dictionary or instance of " ++ name
  | lessThan least => s!"Input should be greater than or equal to {least}"
  | senseless message => "Value error, " ++ message
  | missing => "Field required"
  | undeclared => "Extra inputs are not permitted"

end Misread

abbrev Reads (α : Type) := Value → Except Misread α

namespace Reads

def truthOfText? (s : String) : Option Bool :=
  if ["1", "on", "t", "true", "y", "yes"].contains s then some true
  else if ["0", "off", "f", "false", "n", "no"].contains s then some false
  else none

def truthOfInt (n : Int) : Except Misread Bool :=
  if n = 0 then .ok false else if n = 1 then .ok true else .error .unclearBool

def bool : Reads Bool
  | .bool b => .ok b
  | .int n => truthOfInt n
  | .real x =>
    match x.toInt? with
    | some n => truthOfInt n
    | none => .error .notBool
  | .text s =>
    match truthOfText? (String.ofList (Numeric.asciiLower s.toList)) with
    | some b => .ok b
    | none => .error .unclearBool
  | _ => .error .notBool

def text : Reads String
  | .text s => .ok s
  | _ => .error .notText

def integer : Reads Int
  | .int n => .ok n
  | .bool b => .ok (if b then 1 else 0)
  | .real x =>
    if !x.isFinite then .error .notFinite
    else
      match x.toInt? with
      | none => .error .fraction
      | some n => if -(Int.pow 2 63) < n ∧ n < Int.pow 2 63 then .ok n else .error .largeInteger
  | .text s =>
    match Numeric.readInteger s.toList with
    | .value n => .ok n
    | .unreadable => .error .unclearInteger
    | .tooLong => .error .largeInteger
  | _ => .error .notInteger

def real : Reads Binary64
  | .real x => .ok x
  | .bool b => .ok (Binary64.ofRatio false (if b then 1 else 0) 1)
  | .int n =>
    match Binary64.ofInt? n with
    | some x => .ok x
    | none => .error .notReal
  | .text s =>
    match Numeric.readReal? s.toList with
    | some x => .ok x
    | none => .error .unclearReal
  | _ => .error .notReal

def orNull {α : Type} (read : Reads α) : Reads (Option α)
  | .null => .ok none
  | v => some <$> read v

end Reads

end EntityCatalog
