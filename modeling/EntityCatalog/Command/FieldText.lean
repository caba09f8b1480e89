import EntityCatalog.Command.Fault
import EntityCatalog.Json.Reader
import EntityCatalog.Text.Blank
import EntityCatalog.Text.Split

namespace EntityCatalog.Command

def readJson (option text : String) : Except Fault Value :=
  match Json.read text with
  | .ok v => .ok v
  | .error f =>
    if f.expected = .shorterInteger then .error .tooManyDigits
    else .error (.badJson option (f.message text))

def dropMarks (cs : List Char) : List Char := (cs.reverse.dropWhile (· == '!')).reverse

def readField (typed : String) : Except Fault Value :=
  let text := Text.strip typed.toList
  if text.head? = some '{' then readJson "--field" (String.ofList text)
  else
    match Text.cutAt ':' (dropMarks text) with
    | none => .error (.badField typed)
    | some (name, type) =>
      let name := Text.strip name
      let type := Text.strip type
      if name.isEmpty || type.isEmpty then .error (.badField typed)
      else .ok (.object
        [("name", .text (String.ofList name)), ("type", .text (String.ofList type)),
         ("required", .bool (text.getLast? == some '!'))])

def readFields (file : Option String) (typed : List String) : Except Fault (List Value) := do
  let filed ← match file with
    | none => .ok []
    | some text =>
      match ← readJson "--fields-file" text with
      | .list vs => .ok vs
      | _ => .error (.noArray "--fields-file")
  .ok (filed ++ (← typed.mapM readField))

def readPayload (data file : Option String) : Except Fault Value :=
  match data, file with
  | some _, some _ => .error .twoPayloads
  | none, some text => readJson "--data-file" text
  | some text, none => readJson "--data" text
  | none, none => .error .noPayload

end EntityCatalog.Command
