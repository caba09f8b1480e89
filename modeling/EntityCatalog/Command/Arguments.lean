import EntityCatalog.Command.Fault
import EntityCatalog.Command.Similar
import EntityCatalog.Command.Usage
import EntityCatalog.Files.Tree
import EntityCatalog.Filter.Shape

namespace EntityCatalog.Command

structure Words where
  options : List (String × String) := []
  arguments : List String := []
deriving Repr

namespace Words

-- The options of one word, and the one among them that needs the next word as its value.
abbrev Taken := List (String × String) × Option (String × String)

def readLetters (u : Usage) : List Char → Except Fault Taken
  | [] => .ok ([], none)
  | c :: cs =>
    let name := String.ofList ['-', c]
    match u.option? name with
    | none => .error (.unknownOption name [])
    | some o =>
      if o.kind?.isSome then
        .ok (if cs.isEmpty then ([], some (name, o.key)) else ([(o.key, String.ofList cs)], none))
      else (readLetters u cs).map fun (options, next) => ((o.key, "") :: options, next)

def longNames (u : Usage) : List String :=
  (u.options.flatMap (·.names)).filter (·.toList.take 2 == ['-', '-'])

def readOption (u : Usage) (word : String) : Except Fault Taken :=
  let (name, value?) := match Text.cutAt '=' word.toList with
    | some (name, value) => (String.ofList name, some (String.ofList value))
    | none => (word, none)
  let known := if (longNames u).contains name then u.option? name else none
  match known with
  | some o =>
    match o.kind?, value? with
    | some _, some value => .ok ([(o.key, value)], none)
    | some _, none => .ok ([], some (name, o.key))
    | none, some _ => .error (.takesNoValue name)
    | none, none => .ok ([(o.key, "")], none)
  | none =>
    match word.toList with
    | '-' :: '-' :: _ => .error (.unknownOption name (Similar.suggest name (longNames u)))
    | _ :: letters => readLetters u letters
    | [] => .error (.unknownOption name [])

def isOption (word : String) : Bool :=
  match word.toList with
  | '-' :: _ :: _ => true
  | _ => false

def read (u : Usage) : List String → Words → Except Fault Words
  | [], w => .ok w
  | word :: rest, w =>
    if word = "--" then .ok { w with arguments := w.arguments ++ rest }
    else if isOption word then
      match readOption u word with
      | .error f => .error f
      | .ok (options, none) => read u rest { w with options := w.options ++ options }
      | .ok (options, some (name, key)) =>
        match rest with
        | [] => .error (.needsValue name)
        | value :: rest => read u rest { w with options := w.options ++ options ++ [(key, value)] }
    else if u.isGroup then .ok { w with arguments := w.arguments ++ word :: rest }
    else read u rest { w with arguments := w.arguments ++ [word] }

def has (w : Words) (key : String) : Bool := w.options.any (·.1 == key)

def value? (w : Words) (key : String) : Option String := w.options.reverse.lookup key

def values (w : Words) (key : String) : List String :=
  (w.options.filter (·.1 == key)).map (·.2)

def page? (u : Usage) (w : Words) : Option Page :=
  w.options.findSome? fun (key, _) => (u.option? key).bind (·.shows?)

def digitsValue? (cs : List Char) : Option Nat :=
  let rec go (afterDigit : Bool) (n : Nat) : List Char → Option Nat
    | [] => if afterDigit then some n else none
    | '_' :: cs => if afterDigit then go false n cs else none
    | c :: cs => (Text.digitValue? c).bind fun d => go true (10 * n + d) cs
  go false 0 cs

-- The integer that a word writes, of at most 4300 digits.
def integer? (word : String) : Option Int :=
  let (negative, body) := match Shape.trimGaps word.toList with
    | '-' :: cs => (true, cs)
    | '+' :: cs => (false, cs)
    | cs => (false, cs)
  if 4300 < (body.filter (· ≠ '_')).length then none
  else (digitsValue? body).map fun n => if negative then -(n : Int) else n

def checkValue (files : FileTree) (o : OptionUse) (value : String) : Except Fault Unit :=
  match o.kind? with
  | some .integer =>
    if (integer? value).isSome then .ok () else .error (.badInteger o.key value)
  | some .file =>
    let p := Path.ofText value
    if value ≠ "" && files.isFile p then .ok ()
    else if value ≠ "" && files.isFolder p then .error (.folder o.key value)
    else .error (.noFile o.key value)
  | _ => .ok ()

def checkArguments (u : Usage) (w : Words) : Except Fault Unit :=
  match u.arguments.drop w.arguments.length, w.arguments.drop u.arguments.length with
  | name :: _, _ => .error (.missingArgument name)
  | [], [] => .ok ()
  | [], extra => .error (.extraArguments extra)

def check (files : FileTree) (u : Usage) (w : Words) : Except Fault Unit := do
  (w.options.map (·.1)).eraseDups.forM fun key =>
    match u.option? key, w.value? key with
    | some o, some value => checkValue files o value
    | _, _ => .ok ()
  if u.isGroup then .ok () else checkArguments u w

end Words

end EntityCatalog.Command
