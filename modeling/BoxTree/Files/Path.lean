import BoxTree.Text.Case

/-! Paths of files. Empty parts and single dots say nothing and are left out. -/

namespace BoxTree

structure Path where
  /-- What the path begins with if it is absolute. -/
  root : String
  parts : List String
deriving DecidableEq

namespace Path

/-- Two slashes at the start are kept, any other number counts as one. -/
def rootOf (letters : List Char) : String :=
  match (letters.takeWhile (· == '/')).length with
  | 0 => ""
  | 2 => "//"
  | _ => "/"

def ofText (text : String) : Path :=
  let parts := (text.toList.splitOn '/').map String.ofList
  ⟨rootOf text.toList, parts.filter fun part => part != "" && part != "."⟩

def text (path : Path) : String :=
  if path.root.isEmpty && path.parts.isEmpty then "." else path.root ++ "/".intercalate path.parts

def name (path : Path) : String := path.parts.getLast?.getD ""

/-- The last part, cut before its last dot; a dot at either end does not count. -/
def stemAndSuffix (path : Path) : String × String :=
  let letters := path.name.toList
  let after := (letters.reverse.takeWhile (· != '.')).reverse
  let before := letters.take (letters.length - after.length - 1)
  if after.length == letters.length || after.isEmpty || before.isEmpty then (path.name, "")
  else (String.ofList before, String.ofList ('.' :: after))

def suffix (path : Path) : String := path.stemAndSuffix.2

def isJson (path : Path) : Bool := Text.lower path.suffix == ".json"

def withName (path : Path) (name : String) : Path := ⟨path.root, path.parts.dropLast ++ [name]⟩

/-- The parts with every `..` taken together with the part before it. -/
def settled (parts : List String) : List String :=
  (parts.foldl
    (fun done part =>
      match part, done with
      | "..", before :: rest => if before == ".." then ".." :: done else rest
      | part, done => part :: done)
    []).reverse

def withoutLastSlashes (text : String) : String :=
  let letters := (text.toList.reverse.dropWhile (· == '/')).reverse
  if letters.isEmpty then "/" else String.ofList letters

/-- The home directory that the first part of a path stands for, where `home` is the user's own. -/
def homeOf? (home first : String) : Option String :=
  if first == "~" then
    let place := withoutLastSlashes home
    if place.startsWith "~" then none else some place
  else if first == "~root" then some "/root"
  else none

/-- The path with a first part such as `~` replaced by a home directory; nothing if that is not known. -/
def expanded? (home : String) (path : Path) : Option Path :=
  match path.root, path.parts with
  | "", first :: rest =>
    if first.startsWith "~" then
      (homeOf? home first).map fun place => let base := ofText place; ⟨base.root, base.parts ++ rest⟩
    else some path
  | _, _ => some path

end Path
end BoxTree
