import EntityCatalog.Text.Cursor
import EntityCatalog.Text.Digit
import EntityCatalog.Value

namespace EntityCatalog.Json

inductive Expectation where
  | value
  | propertyName
  | colon
  | comma
  | endOfText
  | endOfString
  | noControlCharacter
  | escapeLetter
  | escapeDigits
  | noByteOrderMark
  | shorterInteger
deriving DecidableEq, Repr

def Expectation.message : Expectation → String
  | value => "Expecting value"
  | propertyName => "Expecting property name enclosed in double quotes"
  | colon => "Expecting ':' delimiter"
  | comma => "Expecting ',' delimiter"
  | endOfText => "Extra data"
  | endOfString => "Unterminated string starting at"
  | noControlCharacter => "Invalid control character at"
  | escapeLetter => "Invalid \\escape"
  | escapeDigits => "Invalid \\uXXXX escape"
  | noByteOrderMark => "Unexpected UTF-8 BOM (decode using utf-8-sig)"
  | shorterInteger => "Exceeds the limit (4300 digits) for integer string conversion"

structure Fault where
  expected : Expectation
  position : Nat
deriving DecidableEq, Repr

def lineColumn (cs : List Char) (position : Nat) : Nat × Nat :=
  let before := cs.take position
  let column := (before.reverse.takeWhile (· ≠ '\n')).length
  (before.count '\n' + 1, column + 1)

def Fault.message (f : Fault) (text : String) : String :=
  let (line, column) := lineColumn text.toList f.position
  s!"{f.expected.message}: line {line} column {column} (char {f.position})"

def isGap (c : Char) : Bool := c == ' ' || c == '\t' || c == '\n' || c == '\r'

def skipGap (c : Cursor) : Cursor := c.skipWhile isGap

def failAt {α : Type} (c : Cursor) (e : Expectation) : Except Fault α := .error ⟨e, c.position⟩

def readHex4 (cs : List Char) : Option Nat :=
  match cs with
  | a :: b :: c :: d :: _ => do
    let a ← hexValue? a
    let b ← hexValue? b
    let c ← hexValue? c
    let d ← hexValue? d
    some (((a * 16 + b) * 16 + c) * 16 + d)
  | _ => none

def simpleEscape? : Char → Option Char
  | '"' => some '"'
  | '\\' => some '\\'
  | '/' => some '/'
  | 'b' => some '\x08'
  | 'f' => some '\x0c'
  | 'n' => some '\n'
  | 'r' => some '\r'
  | 't' => some '\t'
  | _ => none

-- The character of an escape `\uXXXX`, given the text after the `u`, and how much of it is used;
-- two halves of a code point past the first plane are joined. At least one character must follow
-- the digits; a fault is the place of the `u` in front of wrong digits.
def readUnicodeEscape (cs : List Char) : Except Nat (Char × Nat) :=
  if cs.length ≤ 4 then .error 0
  else
    match readHex4 cs with
    | none => .error 0
    | some hi =>
      if 0xd800 ≤ hi ∧ hi < 0xdc00 then
        match cs.drop 4 with
        | '\\' :: 'u' :: more =>
          if more.length ≤ 4 then .ok ('\ufffd', 4)
          else
            match readHex4 more with
            | none => .error 6
            | some lo =>
              if 0xdc00 ≤ lo ∧ lo < 0xe000 then
                .ok (Char.ofNat (0x10000 + (hi - 0xd800) * 0x400 + (lo - 0xdc00)), 10)
              else .ok ('\ufffd', 4)
        | _ => .ok ('\ufffd', 4)
      else if 0xdc00 ≤ hi ∧ hi < 0xe000 then .ok ('\ufffd', 4)
      else .ok (Char.ofNat hi, 4)

def readStringAux (start : Nat) : Nat → Cursor → List Char → Except Fault (String × Cursor)
  | 0, _, _ => .error ⟨.endOfString, start⟩
  | fuel + 1, c, acc =>
    match c.rest with
    | [] => .error ⟨.endOfString, start⟩
    | '"' :: _ => .ok (String.ofList acc.reverse, c.advance 1)
    | '\\' :: [] => .error ⟨.endOfString, start⟩
    | '\\' :: 'u' :: more =>
      match readUnicodeEscape more with
      | .ok (x, n) => readStringAux start fuel (c.advance (2 + n)) (x :: acc)
      | .error n => failAt (c.advance (1 + n)) .escapeDigits
    | '\\' :: x :: _ =>
      match simpleEscape? x with
      | some y => readStringAux start fuel (c.advance 2) (y :: acc)
      | none => failAt c .escapeLetter
    | x :: _ =>
      if x.toNat < 0x20 then failAt c .noControlCharacter
      else readStringAux start fuel (c.advance 1) (x :: acc)

def readString (c : Cursor) : Except Fault (String × Cursor) :=
  readStringAux (c.position - 1) (c.rest.length + 1) c []

def integerDigits (cs : List Char) : List Char :=
  match cs with
  | '0' :: _ => ['0']
  | _ => cs.takeWhile Text.isAsciiDigit

def fractionDigits (cs : List Char) : List Char :=
  match cs with
  | '.' :: rest => rest.takeWhile Text.isAsciiDigit
  | _ => []

def exponentPart (cs : List Char) : Bool × List Char × Nat :=
  match cs with
  | e :: rest =>
    if e = 'e' ∨ e = 'E' then
      let (negative, signed, rest) := match rest with
        | '-' :: r => (true, 1, r)
        | '+' :: r => (false, 1, r)
        | r => (false, 0, r)
      let ds := rest.takeWhile Text.isAsciiDigit
      if ds.isEmpty then (false, [], 0) else (negative, ds, 1 + signed + ds.length)
    else (false, [], 0)
  | [] => (false, [], 0)

def readNumber (c : Cursor) : Except Fault (Value × Cursor) :=
  let (negative, body) := match c.rest with
    | '-' :: r => (true, r)
    | r => (false, r)
  let whole := integerDigits body
  if whole.isEmpty then failAt c .value
  else
    let rest := body.drop whole.length
    let fraction := fractionDigits rest
    let rest := if fraction.isEmpty then rest else rest.drop (fraction.length + 1)
    let (expNegative, expDigits, expLength) := exponentPart rest
    let length := (if negative then 1 else 0) + whole.length +
      (if fraction.isEmpty then 0 else fraction.length + 1) + expLength
    let c' := c.advance length
    if fraction.isEmpty ∧ expDigits.isEmpty then
      if 4300 < whole.length then failAt c .shorterInteger
      else
        let n : Int := Text.natOfDigits whole
        .ok (.int (if negative then -n else n), c')
    else
      -- An exponent of more than nine digits is far outside of the numbers' range either way.
      let e : Int := Text.natOfDigits (if 9 < (expDigits.dropWhile (· = '0')).length
        then List.replicate 9 '9' else expDigits)
      let digits := Text.natOfDigits (whole ++ fraction)
      let exponent := (if expNegative then -e else e) - fraction.length
      .ok (.real (Binary64.ofDecimal negative digits exponent), c')

def words : List (List Char × Value) :=
  [("null".toList, .null), ("true".toList, .bool true), ("false".toList, .bool false),
   ("NaN".toList, .real .nan), ("Infinity".toList, .real (.infinite false)),
   ("-Infinity".toList, .real (.infinite true))]

mutual

-- A value; `fuel` exceeds twice the number of characters left.
def readValue : Nat → Cursor → Except Fault (Value × Cursor)
  | 0, c => failAt c .value
  | fuel + 1, c =>
    match c.rest with
    | '"' :: _ => do
      let (s, c) ← readString (c.advance 1)
      .ok (.text s, c)
    | '\x7b' :: _ =>
      let c := skipGap (c.advance 1)
      match c.rest with
      | '\x7d' :: _ => .ok (.object [], c.advance 1)
      | _ => do
        let (ms, c) ← readMembers fuel c []
        .ok (.object ms, c)
    | '[' :: _ =>
      let c := skipGap (c.advance 1)
      match c.rest with
      | ']' :: _ => .ok (.list [], c.advance 1)
      | _ => do
        let (xs, c) ← readItems fuel c []
        .ok (.list xs, c)
    | _ =>
      match words.find? fun w => w.1.isPrefixOf c.rest with
      | some (w, v) => .ok (v, c.advance w.length)
      | none => readNumber c

def readMembers : Nat → Cursor → Document → Except Fault (Document × Cursor)
  | 0, c, _ => failAt c .propertyName
  | fuel + 1, c, ms =>
    match c.rest with
    | '"' :: _ => do
      let (k, c) ← readString (c.advance 1)
      let c := skipGap c
      match c.rest with
      | ':' :: _ =>
        let (v, c) ← readValue fuel (skipGap (c.advance 1))
        let c := skipGap c
        let ms := ms.set k v
        match c.rest with
        | '\x7d' :: _ => .ok (ms, c.advance 1)
        | ',' :: _ => readMembers fuel (skipGap (c.advance 1)) ms
        | _ => failAt c .comma
      | _ => failAt c .colon
    | _ => failAt c .propertyName

def readItems : Nat → Cursor → List Value → Except Fault (List Value × Cursor)
  | 0, c, _ => failAt c .value
  | fuel + 1, c, xs => do
    let (v, c) ← readValue fuel c
    let c := skipGap c
    match c.rest with
    | ']' :: _ => .ok ((v :: xs).reverse, c.advance 1)
    | ',' :: _ => readItems fuel (skipGap (c.advance 1)) (v :: xs)
    | _ => failAt c .comma

end

def read (text : String) : Except Fault Value :=
  let cs := text.toList
  if cs.head? = some '\ufeff' then .error ⟨.noByteOrderMark, 0⟩
  else do
    let (v, c) ← readValue (2 * cs.length + 2) (skipGap ⟨cs, 0⟩)
    let c := skipGap c
    if c.rest.isEmpty then .ok v else failAt c .endOfText

end EntityCatalog.Json
