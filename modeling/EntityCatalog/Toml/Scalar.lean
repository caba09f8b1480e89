import EntityCatalog.Calendar.Moment
import EntityCatalog.Numeric.Reader
import EntityCatalog.Toml.Fault
import EntityCatalog.Value

namespace EntityCatalog.Toml

def isDigit (c : Char) : Bool := '0' ≤ c && c ≤ '9'

def twoDigits? (most : Nat) : List Char → Option (Nat × List Char)
  | a :: b :: cs =>
    let n := (a.toNat - '0'.toNat) * 10 + (b.toNat - '0'.toNat)
    if isDigit a && isDigit b && n ≤ most then some (n, cs) else none
  | _ => none

def char? (c : Char) : List Char → Option (List Char)
  | d :: cs => if c = d then some cs else none
  | [] => none

def microsOf (digits : List Char) : Nat :=
  let ds := (digits.take 6)
  (ds ++ List.replicate (6 - ds.length) '0').foldl (fun a d => 10 * a + (d.toNat - '0'.toNat)) 0

def clock? (cs : List Char) : Option ((Nat × Nat × Nat × Nat) × List Char) := do
  let (hour, cs) ← twoDigits? 23 cs
  let (minute, cs) ← twoDigits? 59 (← char? ':' cs)
  let (second, cs) ← twoDigits? 59 (← char? ':' cs)
  match cs with
  | '.' :: rest =>
    let digits := rest.takeWhile isDigit
    if digits.isEmpty then some ((hour, minute, second, 0), cs)
    else some ((hour, minute, second, microsOf digits), rest.drop digits.length)
  | _ => some ((hour, minute, second, 0), cs)

def zone? : List Char → Option (Int × List Char)
  | 'Z' :: cs | 'z' :: cs => some (0, cs)
  | s :: cs => do
    if s != '+' && s != '-' then failure
    let (hour, cs) ← twoDigits? 23 cs
    let (minute, cs) ← twoDigits? 59 (← char? ':' cs)
    let n : Int := ((hour * 60 + minute) * 60 * 1000000 : Nat)
    some (if s = '-' then -n else n, cs)
  | [] => none

-- Year, month and day, which need not be those of a day.
def day? (cs : List Char) : Option ((Nat × Nat × Nat) × List Char) := do
  let (century, cs) ← twoDigits? 99 cs
  let (year, cs) ← twoDigits? 99 cs
  let (month, cs) ← twoDigits? 12 (← char? '-' cs)
  let (day, cs) ← twoDigits? 31 (← char? '-' cs)
  if month = 0 ∨ day = 0 then none else some ((100 * century + year, month, day), cs)

def dateTime? (cs : List Char) : Option (Option Value × List Char) := do
  let ((year, month, day), rest) ← day? cs
  let date := Date.ofFields? year month day
  let dateAlone := (date.map Value.date, rest)
  match rest with
  | mark :: more =>
    if mark != 'T' && mark != 't' && mark != ' ' then some dateAlone
    else
      match clock? more with
      | none => some dateAlone
      | some ((h, m, s, us), rest) =>
        let (offset, rest) := match zone? rest with
          | some (o, rest) => (some o, rest)
          | none => (none, rest)
        some (date.bind fun d => (Moment.ofFields? d h m s us offset).map Value.moment, rest)
  | [] => some dateAlone

-- A time of day is a value that nothing takes; it stands as a moment of the first day.
def localTime? (cs : List Char) : Option (Value × List Char) := do
  let ((h, m, s, us), rest) ← clock? cs
  let date ← Date.ofFields? 1 1 1
  let moment ← Moment.ofFields? date h m s us none
  some (.moment moment, rest)

def digitRun (ok : Char → Bool) : List Char → List Char
  | '_' :: d :: cs => if ok d then '_' :: d :: digitRun ok cs else []
  | d :: cs => if ok d then d :: digitRun ok cs else []
  | [] => []

def digits (ok : Char → Bool) (cs : List Char) : List Char :=
  match cs with
  | d :: _ => if ok d then digitRun ok cs else []
  | [] => []

def natOf (base : Nat) (cs : List Char) : Nat :=
  (cs.filterMap hexValue?).foldl (fun a d => base * a + d) 0

def isBinary (c : Char) : Bool := c == '0' || c == '1'

def isOctal (c : Char) : Bool := '0' ≤ c && c ≤ '7'

def isHex (c : Char) : Bool := (hexValue? c).isSome

def basedNumber? : List Char → Option (Value × Nat)
  | '0' :: mark :: cs =>
    let based (base : Nat) (ok : Char → Bool) : Option (Value × Nat) :=
      let ds := digits ok cs
      if ds.isEmpty then none else some (.int (natOf base ds), ds.length + 2)
    if mark = 'x' then based 16 isHex
    else if mark = 'b' then based 2 isBinary
    else if mark = 'o' then based 8 isOctal
    else none
  | _ => none

def signOf : List Char → List Char
  | '+' :: _ => ['+']
  | '-' :: _ => ['-']
  | _ => []

-- A fraction or an exponent after its mark: nothing unless there are digits.
def afterMark (mark : List Char) (cs : List Char) : List Char :=
  let ds := digits isDigit cs
  if ds.isEmpty then [] else mark ++ ds

def fractionOf : List Char → List Char
  | '.' :: cs => afterMark ['.'] cs
  | _ => []

def exponentOf : List Char → List Char
  | e :: cs => if e = 'e' ∨ e = 'E' then afterMark (e :: signOf cs) (cs.drop (signOf cs).length)
    else []
  | [] => []

def decimal? (cs : List Char) : Option (Except Complaint Value × Nat) :=
  let sign := signOf cs
  let rest := cs.drop sign.length
  let whole := match rest with
    | '0' :: _ => ['0']
    | _ => digits isDigit rest
  if whole.isEmpty then none
  else
    let rest := rest.drop whole.length
    let fraction := fractionOf rest
    let exponent := exponentOf (rest.drop fraction.length)
    let text := sign ++ whole ++ fraction ++ exponent
    let bare := text.filter (· ≠ '_')
    if fraction.isEmpty && exponent.isEmpty then
      let n : Int := natOf 10 whole
      let read : Except Complaint Value :=
        if 4300 < (whole.filter (· ≠ '_')).length then .error .tooManyDigits
        else .ok (.int (if sign = ['-'] then -n else n))
      some (read, text.length)
    else some (.ok (.real ((Numeric.readReal? bare).getD .nan)), text.length)

def namedNumber? (cs : List Char) : Option (Value × Nat) :=
  let sign := signOf cs
  let name := String.ofList ((cs.drop sign.length).take 3)
  if name = "inf" then some (.real (.infinite (sign == ['-'])), sign.length + 3)
  else if name = "nan" then some (.real .nan, sign.length + 3)
  else none

def readScalar (c : Cursor) : Except Fault (Value × Cursor) :=
  let after (rest : List Char) : Cursor := c.advance (c.rest.length - rest.length)
  match dateTime? c.rest with
  | some (some v, rest) => .ok (v, after rest)
  | some (none, _) => failAt c .badDate
  | none =>
    match localTime? c.rest with
    | some (v, rest) => .ok (v, after rest)
    | none =>
      match basedNumber? c.rest with
      | some (v, n) => .ok (v, c.advance n)
      | none =>
        match decimal? c.rest with
        | some (.ok v, n) => .ok (v, c.advance n)
        | some (.error e, _) => failAt c e
        | none =>
          match namedNumber? c.rest with
          | some (v, n) => .ok (v, c.advance n)
          | none => failAt c .badValue

end EntityCatalog.Toml
