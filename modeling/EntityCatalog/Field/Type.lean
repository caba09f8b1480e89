namespace EntityCatalog

inductive FieldType where
  | string
  | number
  | boolean
  | email
  | date
  | url
deriving DecidableEq, Repr, Inhabited

namespace FieldType

def all : List FieldType := [string, number, boolean, email, date, url]

def token : FieldType → String
  | string => "string"
  | number => "number"
  | boolean => "boolean"
  | email => "email"
  | date => "date"
  | url => "url"

def ofToken? (s : String) : Option FieldType := all.find? (·.token == s)

def isTextual : FieldType → Bool
  | string | email | url => true
  | _ => false

theorem ofToken?_token (t : FieldType) : ofToken? t.token = some t := by
  cases t <;> decide

end FieldType

-- A type as it is declared, known or not; of an unknown one only its text is kept.
inductive DeclaredType where
  | known (type : FieldType)
  | unknown (shown : String)
deriving DecidableEq, Repr, Inhabited

namespace DeclaredType

def text : DeclaredType → String
  | known t => t.token
  | unknown s => s

def ofText (s : String) : DeclaredType :=
  match FieldType.ofToken? s with
  | some t => known t
  | none => unknown s

def isTextual : DeclaredType → Bool
  | known t => t.isTextual
  | unknown _ => false

end DeclaredType

end EntityCatalog
