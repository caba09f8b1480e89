import EntityCatalog.Numeric.Notation
import EntityCatalog.Text.Quoted
import EntityCatalog.Value

namespace EntityCatalog

def Moment.spaced (m : Moment) : List Char :=
  m.text.map fun c => if c = 'T' then ' ' else c

def listed (items : List String) : String := ", ".intercalate items

def Date.fieldsText (d : Date) : String := s!"datetime.date({d.year}, {d.month}, {d.day})"

def Moment.zoneText (offset : Int) : String :=
  if offset = 0 then "datetime.timezone.utc"
  else
    let rest := offset.emod microsPerDay
    let parts := [("days", offset.ediv microsPerDay), ("seconds", rest / 1000000),
      ("microseconds", rest % 1000000)]
    let told := (parts.filter (·.2 ≠ 0)).map fun (name, n) => name ++ "=" ++ toString n
    "datetime.timezone(datetime.timedelta(" ++ listed told ++ "))"

-- A moment by its fields; seconds and microseconds are left out where only zeros follow.
def Moment.fieldsText (m : Moment) : String :=
  let seconds := m.micros / 1000000
  let clock := [m.micros % 1000000, seconds % 60].dropWhile (· == 0)
  let fields := [m.date.year, m.date.month, m.date.day, seconds / 3600, seconds / 60 % 60] ++
    clock.reverse
  let zone := (m.offset.map fun o => "tzinfo=" ++ zoneText o).toList
  "datetime.datetime(" ++ listed (fields.map toString ++ zone) ++ ")"

namespace Value

mutual

def inner : Value → String
  | .null => "None"
  | .bool true => "True"
  | .bool false => "False"
  | .int n => toString n
  | .real x => x.text .plain
  | .text s => s.inQuotes
  | .date d => d.fieldsText
  | .moment m => m.fieldsText
  | .list vs => "[" ++ listed (inners vs) ++ "]"
  | .object ms => "\x7b" ++ listed (innerMembers ms) ++ "\x7d"

def inners : List Value → List String
  | [] => []
  | v :: vs => inner v :: inners vs

def innerMembers : List (String × Value) → List String
  | [] => []
  | (k, v) :: ms => (k.inQuotes ++ ": " ++ inner v) :: innerMembers ms

end

def display : Value → String
  | .text s => s
  | .date d => String.ofList d.text
  | .moment m => String.ofList m.spaced
  | v => inner v

end Value

end EntityCatalog
