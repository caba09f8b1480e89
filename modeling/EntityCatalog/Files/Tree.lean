import EntityCatalog.Files.Path
import EntityCatalog.Text.Lines

namespace EntityCatalog

structure FileTree where
  current : Path
  texts : List (Path × String) := []
  folders : List Path := []
deriving Repr

namespace FileTree

def isFolderAt (t : FileTree) (parts : List String) : Bool :=
  parts.isPrefixOf t.current.parts ||
  t.folders.any (parts.isPrefixOf ·.parts) ||
  t.texts.any fun f => parts.isPrefixOf f.1.parts.dropLast && f.1.parts ≠ parts

-- Where a path leads to. Steps are taken one after the other, and only from folders.
def follow? (t : FileTree) (here : List String) : List String → Option (List String)
  | [] => some here
  | p :: ps =>
    if t.isFolderAt here then t.follow? (if p = ".." then here.dropLast else here ++ [p]) ps
    else none

def locate? (t : FileTree) (p : Path) : Option (List String) :=
  t.follow? [] (t.current.join p).parts

def text? (t : FileTree) (p : Path) : Option String := do
  let parts ← t.locate? p
  let f ← t.texts.find? (·.1.parts = parts)
  some (String.ofList (Text.withLineFeeds f.2.toList))

def isFile (t : FileTree) (p : Path) : Bool := (t.text? p).isSome

def isFolder (t : FileTree) (p : Path) : Bool := (t.locate? p).any t.isFolderAt

end FileTree

end EntityCatalog
