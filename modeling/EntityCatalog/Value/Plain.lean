import EntityCatalog.Value

namespace EntityCatalog

def Moment.plainText (m : Moment) : List Char :=
  m.localText ++ match m.offset with
    | some 0 => ['Z']
    | some o => Moment.offsetText o
    | none => []

namespace Value

mutual

def withTexts (ofDate : Date → String) (ofMoment : Moment → String) : Value → Value
  | .date d => .text (ofDate d)
  | .moment m => .text (ofMoment m)
  | .list vs => .list (itemsWithTexts ofDate ofMoment vs)
  | .object ms => .object (membersWithTexts ofDate ofMoment ms)
  | v => v

def itemsWithTexts (ofDate : Date → String) (ofMoment : Moment → String) :
    List Value → List Value
  | [] => []
  | v :: vs => withTexts ofDate ofMoment v :: itemsWithTexts ofDate ofMoment vs

def membersWithTexts (ofDate : Date → String) (ofMoment : Moment → String) :
    List (String × Value) → List (String × Value)
  | [] => []
  | (k, v) :: ms => (k, withTexts ofDate ofMoment v) :: membersWithTexts ofDate ofMoment ms

end

def plain : Value → Value :=
  withTexts (fun d => String.ofList d.text) (fun m => String.ofList m.plainText)

end Value

end EntityCatalog
