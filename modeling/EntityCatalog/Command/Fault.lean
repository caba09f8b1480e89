import EntityCatalog.Text.Quoted

namespace EntityCatalog.Command

inductive Fault where
  | unknownOption (name : String) (similar : List String)
  | unknownCommand (name : String) (similar : List String)
  | noCommand
  | needsValue (option : String)
  | takesNoValue (option : String)
  | missingArgument (name : String)
  | extraArguments (texts : List String)
  | badInteger (option text : String)
  | noFile (option text : String)
  | folder (option text : String)
  | badJson (option message : String)
  | tooManyDigits
  | badField (text : String)
  | noArray (option : String)
  | noFields
  | noPayload
  | twoPayloads
deriving DecidableEq, Repr

namespace Fault

def hint (kind : String) (similar : List String) : String :=
  match similar with
  | [] => ""
  | [name] => s!" Did you mean {name.inQuotes}?"
  | names => s!" (Possible {kind}: " ++ ", ".intercalate (names.map String.inQuotes) ++ ")"

def ofValue (option message : String) : String := s!"Invalid value for {option}: {message}"

def message : Fault → String
  | unknownOption name similar => s!"No such option {name.inQuotes}." ++ hint "options" similar
  | unknownCommand name similar => s!"No such command {name.inQuotes}." ++ hint "commands" similar
  | noCommand => "Missing command."
  | needsValue option => s!"Option {option.inQuotes} requires an argument."
  | takesNoValue option => s!"Option {option.inQuotes} does not take a value."
  | missingArgument name => s!"Missing argument '{name}'."
  | extraArguments [text] => s!"Got unexpected extra argument ({text})"
  | extraArguments texts => "Got unexpected extra arguments (" ++ " ".intercalate texts ++ ")"
  | badInteger option text => ofValue s!"'{option}'" (text.inQuotes ++ " is not a valid integer.")
  | noFile option text => ofValue s!"'{option}'" s!"File {text.inQuotes} does not exist."
  | folder option text => ofValue s!"'{option}'" s!"File {text.inQuotes} is a directory."
  | badJson option message => ofValue option ("Invalid JSON: " ++ message)
  | tooManyDigits => ""
  | badField text =>
    ofValue "--field" ("Expected name:type or a JSON object, got " ++ text.inQuotes)
  | noArray option => ofValue option "Expected a JSON array of fields"
  | noFields => "Provide at least one --field or a --fields-file."
  | noPayload => "Provide the record payload with --data or --data-file."
  | twoPayloads => "Use either --data or --data-file, not both."

def isBare : Fault → Bool
  | needsValue _ | takesNoValue _ => true
  | _ => false

end Fault

end EntityCatalog.Command
