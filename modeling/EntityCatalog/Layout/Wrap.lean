import EntityCatalog.Layout.Width
import EntityCatalog.Text.Blank
import EntityCatalog.Text.Split

namespace EntityCatalog.Layout

inductive Overflow where
  | fold
  | ellipsis
deriving DecidableEq, Repr

def printable (cs : List Char) : List Char :=
  cs.filter fun c => !([7, 8, 11, 12, 13] : List Nat).contains c.toNat

def tabSize : Nat := 8

def expandTabs (column : Nat) : List Char → List Char
  | [] => []
  | '\t' :: cs =>
    let n := tabSize - column % tabSize
    blanks n ++ expandTabs (column + n) cs
  | c :: cs => c :: expandTabs (column + charWidth c) cs

structure Word where
  start : Nat
  text : List Char

-- The words of a line, each with the white space after it; white space may precede the first.
def wordsFrom (start : Nat) (cs : List Char) : List Word :=
  let lead := cs.takeWhile Text.isBlank
  match _h : cs.drop lead.length with
  | [] => []
  | c :: rest =>
    let core := rest.takeWhile (!Text.isBlank ·)
    let after := rest.drop core.length
    let trail := after.takeWhile Text.isBlank
    let word := lead ++ c :: core ++ trail
    ⟨start, word⟩ :: wordsFrom (start + word.length) (after.drop trail.length)
termination_by cs.length
decreasing_by
  have hlen := congrArg List.length _h
  simp only [List.length_drop, List.length_cons] at hlen
  simp only [List.length_drop]
  omega

def pieces (n : Nat) : (used count : Nat) → List Char → List Nat
  | _, count, [] => [count]
  | used, count, c :: cs =>
    if n < used + charWidth c then count :: pieces n (charWidth c) 1 cs
    else pieces n (used + charWidth c) (count + 1) cs

structure Breaks where
  places : List Nat
  used : Nat

def starts (start : Nat) : List Nat → List Nat
  | [] => []
  | n :: ns => start :: starts (start + n) ns

def Breaks.add (overflow : Overflow) (n : Nat) (b : Breaks) (w : Word) : Breaks :=
  let core := width (Text.stripRight w.text)
  let full := width w.text
  let before : List Nat := if w.start = 0 then [] else [w.start]
  if b.used + core ≤ n then { b with used := b.used + full }
  else if n < core then
    match overflow with
    | .ellipsis => ⟨b.places ++ before, full⟩
    | .fold =>
      let lengths := pieces n 0 0 w.text
      let last := w.text.drop (total lengths.dropLast)
      ⟨b.places ++ (starts w.start lengths).filter (· ≠ 0), width last⟩
  else if b.used = 0 then b
  else ⟨b.places ++ before, full⟩

def cutAtPlaces (start : Nat) (cs : List Char) : List Nat → List (List Char)
  | [] => [cs]
  | p :: ps => cs.take (p - start) :: cutAtPlaces p (cs.drop (p - start)) ps

-- A line without as much of the white space at its end as is past the width.
def trimEnd (n : Nat) (cs : List Char) : List Char :=
  let trailing := (cs.reverse.takeWhile Text.isBlank).length
  cs.take (cs.length - min trailing (cs.length - n))

def truncate (overflow : Overflow) (n : Nat) (cs : List Char) : List Char :=
  if width cs ≤ n then cs
  else
    match overflow with
    | .fold => toWidth n cs
    | .ellipsis => toWidth (n - 1) cs ++ ['…']

def wrapLine (overflow : Overflow) (rigid : Bool) (n : Nat) (cs : List Char) : List (List Char) :=
  let cs := if cs.contains '\t' then expandTabs 0 cs else cs
  let places := if rigid then []
    else ((wordsFrom 0 cs).foldl (Breaks.add overflow n) ⟨[], 0⟩).places
  (cutAtPlaces 0 cs places).map (trimEnd n)

def breakText (overflow : Overflow) (rigid : Bool) (n : Nat) (cs : List Char) :
    List (List Char) :=
  (Text.splitOn '\n' cs).flatMap (wrapLine overflow rigid n)

def wrap (overflow : Overflow) (rigid : Bool) (n : Nat) (cs : List Char) : List (List Char) :=
  (breakText overflow rigid n cs).map (truncate overflow n)

end EntityCatalog.Layout
