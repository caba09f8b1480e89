import EntityCatalog.Address.Email
import EntityCatalog.Address.Url
import EntityCatalog.Calendar.Iso
import EntityCatalog.Field.Basic
import EntityCatalog.Numeric.Notation
import EntityCatalog.Pattern.Matcher
import EntityCatalog.Pattern.Parser
import EntityCatalog.Predicate.Compile

namespace EntityCatalog

inductive ValueFault where
  | missing
  | notText
  | notNumber
  | notFinite
  | notTruth
  | notEmail (fault : Address.EmailFault)
  | notUrl
  | notDate
  | tooShort (least : Int)
  | tooLong (most : Int)
  | addressTooShort (least : Int)
  | addressTooLong (most : Int)
  | unlike (pattern : String)
  | tooSmall (least : Binary64)
  | tooLarge (most : Binary64)
deriving Repr

def ValueFault.characters (n : Int) : String := if n = 1 then "character" else "characters"

def ValueFault.message : ValueFault → String
  | missing => "Field required"
  | notText => "Input should be a valid string"
  | notNumber => "Input should be a valid number"
  | notFinite => "Input should be a finite number"
  | notTruth => "Input should be a valid boolean"
  | notEmail f => "value is not a valid email address: " ++ f.message
  | notUrl => "Input should be a valid URL"
  | notDate => "Input should be an ISO 8601 date or datetime"
  | tooShort n => s!"String should have at least {n} {characters n}"
  | tooLong n => s!"String should have at most {n} {characters n}"
  | addressTooShort n => s!"String should have at least {n} characters"
  | addressTooLong n => s!"String should have at most {n} characters"
  | unlike p => s!"String should match pattern '{p}'"
  | tooSmall x => s!"Input should be greater than or equal to {x.text .plain}"
  | tooLarge x => s!"Input should be less than or equal to {x.text .plain}"

structure TextPattern where
  source : String
  program : Pattern.Program

structure TextBounds where
  least : Option Int
  most : Option Int
  pattern : Option TextPattern

inductive ValueRule where
  | text (bounds : TextBounds)
  | number (least most : Option Binary64)
  | truth
  | email (bounds : TextBounds)
  | url (bounds : TextBounds)
  | date

-- A value is taken in its stored form, or refused, or it is a moment outside of the calendar.
inductive Verdict where
  | taken (v : Value)
  | refused (fault : ValueFault)
  | overflow
deriving Repr

namespace TextBounds

def fault? (b : TextBounds) (short long : Int → ValueFault) (s : String) : Option ValueFault :=
  match b.most.filter (· < (s.length : Int)), b.least.filter ((s.length : Int) < ·) with
  | some n, _ => some (long n)
  | none, some n => some (short n)
  | none, none =>
    match b.pattern with
    | some p => if p.program.foundIn s then none else some (.unlike p.source)
    | none => none

def check (b : TextBounds) (short long : Int → ValueFault) (s : String) : Verdict :=
  match b.fault? short long s with
  | some f => .refused f
  | none => .taken (.text s)

end TextBounds

namespace ValueRule

def numberFault? (least most : Option Binary64) (p : Position) : Option ValueFault :=
  match least.filter (fun x => p.lt x.position), most.filter (fun x => x.position.lt p) with
  | some x, _ => some (.tooSmall x)
  | none, some x => some (.tooLarge x)
  | none, none => none

def checkNumber (least most : Option Binary64) (v : Value) : Verdict :=
  let bounded (p : Position) : Verdict :=
    match numberFault? least most p with
    | some f => .refused f
    | none => .taken v
  match v with
  | .int n => bounded (.ofInt n)
  | .real x => if x.isFinite then bounded x.position else .refused .notFinite
  | _ => .refused .notNumber

def beginsDate (cs : List Char) : Bool :=
  let isDigit (c : Char) : Bool := '0' ≤ c && c ≤ '9'
  10 ≤ cs.length && (cs.take 4).all isDigit && (cs.drop 4).head? == some '-' &&
    ((cs.drop 5).take 2).all isDigit && (cs.drop 7).head? == some '-' &&
    ((cs.drop 8).take 2).all isDigit

def momentOf? : Value → Option Moment
  | .moment m => some m
  | .date d => some (.midnight d)
  | .text s => if beginsDate s.toList then Iso.read? s.toList else none
  | _ => none

def checkDate (v : Value) : Verdict :=
  match momentOf? v with
  | none => .refused .notDate
  | some m =>
    match m.canonical? with
    | some cs => .taken (.text (String.ofList cs))
    | none => .overflow

def check (r : ValueRule) (v : Value) : Verdict :=
  match r with
  | text b =>
    match v with
    | .text s => b.check .tooShort .tooLong s
    | _ => .refused .notText
  | number least most => checkNumber least most v
  | truth => if v.isBool then .taken v else .refused .notTruth
  | email b =>
    match v with
    | .text s =>
      match Address.Email.normalize s.toList with
      | .ok cs => b.check .addressTooShort .addressTooLong (String.ofList cs)
      | .error f => .refused (.notEmail f)
    | _ => .refused .notText
  | url b =>
    match v with
    | .text s =>
      if Address.Url.isValid s.toList then b.check .addressTooShort .addressTooLong s
      else .refused .notUrl
    | _ => .refused .notText
  | date => checkDate v

-- Lengths of texts are counted in words of 64 bits.
def lengthLimit : Int := Int.pow 2 64

def fitsLengths : ValueRule → Bool
  | text b =>
    let fits (n : Int) : Bool := 0 ≤ n && n < lengthLimit
    b.least.all fits && b.most.all fits
  | _ => true

end ValueRule

def Field.textPattern (f : Field) : Except Failure (Option TextPattern) :=
  match f.pattern.value with
  | none => .ok none
  | some source =>
    match Pattern.compile source with
    | .ok program => .ok (some ⟨source, program⟩)
    | .error .tooManyRounds => .error .overflow
    | .error _ => .error .brokenPattern

def Field.textBounds (f : Field) : Except Failure TextBounds := do
  let pattern ← f.textPattern
  .ok ⟨f.minLength.value, f.maxLength.value, pattern⟩

def Field.valueRule (f : Field) : Except Failure ValueRule :=
  match f.type with
  | .known .string => .text <$> f.textBounds
  | .known .number => .ok (.number f.minimum.value f.maximum.value)
  | .known .boolean => .ok .truth
  | .known .email => .email <$> f.textBounds
  | .known .url => .url <$> f.textBounds
  | .known .date => .ok .date
  | .unknown shown => .error (.rejected (.unknownType f.name shown))

end EntityCatalog
