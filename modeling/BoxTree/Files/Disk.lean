import BoxTree.Files.Path
import BoxTree.Text.Position
import BoxTree.Text.Quoted

/-! What stands at the places that paths lead to. A path is walked part by part: each but the last has to be a
directory, and two dots lead back only from a directory that is there. -/

namespace BoxTree

inductive Found where
  | file (content : String)
  | directory
  /-- Nothing, but a file can be made there. -/
  | free
  /-- Nothing, and not all directories on the way are there. -/
  | lost
  /-- A file on the way. -/
  | blocked
  | overlong
  | unnamable
deriving DecidableEq

inductive PlaceError where
  | noDirectory (path : Path)
  | blocked (path : Path)
  | isDirectory (path : Path)
  | overlong (path : Path)
  | unnamable

namespace PlaceError

def message : PlaceError → String
  | noDirectory path => s!"[Errno 2] No such file or directory: {Text.quoted path.text}"
  | blocked path => s!"[Errno 20] Not a directory: {Text.quoted path.text}"
  | isDirectory path => s!"[Errno 21] Is a directory: {Text.quoted path.text}"
  | overlong path => s!"[Errno 36] File name too long: {Text.quoted path.text}"
  | unnamable => "embedded null byte"

end PlaceError

structure Disk where
  look : Path → Found
  /-- The files that a pattern may stand for. -/
  known : List Path

namespace Disk

/-- Whether anything stands at a place. A name that is too long is a fault by itself. -/
def holds (disk : Disk) (path : Path) : Except PlaceError Bool :=
  match disk.look path with
  | .file _ | .directory => .ok true
  | .overlong => .error (.overlong path)
  | .free | .lost | .blocked | .unnamable => .ok false

def readRaw? (disk : Disk) (path : Path) : Except PlaceError (Option String) :=
  match disk.look path with
  | .file content => .ok (some content)
  | .directory => .error (.isDirectory path)
  | .overlong => .error (.overlong path)
  | .free | .lost | .blocked | .unnamable => .ok none

def asLines (content : String) : String := String.ofList (Text.unixLines content.toList)

/-- The text of a file with its line ends as line feeds, or nothing if there is none. -/
def read? (disk : Disk) (path : Path) : Except PlaceError (Option String) :=
  (disk.readRaw? path).map fun content => content.map asLines

def checkWritable (disk : Disk) (path : Path) : Except PlaceError Unit :=
  match disk.look path with
  | .file _ | .free => .ok ()
  | .directory => .error (.isDirectory path)
  | .lost => .error (.noDirectory path)
  | .blocked => .error (.blocked path)
  | .overlong => .error (.overlong path)
  | .unnamable => .error .unnamable

end Disk

/-- The files of a working directory with their texts. -/
abbrev Files := List (String × String)

namespace Files

/-- A directory on the way of a path: one of the working directory, or one outside of which the parts from the
root may be known. -/
inductive Spot where
  | inside (parts : List String)
  | outside (parts : Option (List String))

def Spot.up : Spot → Spot
  | inside [] => outside none
  | inside parts => inside parts.dropLast
  | outside parts => outside (parts.map List.dropLast)

def rootDirectories : List String :=
  ["bin", "boot", "dev", "etc", "home", "lib", "lib64", "media", "mnt", "opt", "proc", "root", "run", "sbin", "srv",
    "sys", "tmp", "usr", "var"]

/-- The parts of the path that a file's name stands for. -/
def partsOf (name : String) : List String := Path.settled (Path.ofText name).parts

def isDirectory (files : Files) (parts : List String) : Bool :=
  parts.isEmpty || files.any fun file => parts.isPrefixOf (partsOf file.1) && parts != partsOf file.1

inductive Member where
  | spot (spot : Spot)
  | file (content : String)
  | nothing

def member (files : Files) (name : String) : Spot → Member
  | .inside parts =>
    let here := parts ++ [name]
    if files.isDirectory here then .spot (.inside here)
    else
      match files.find? fun file => partsOf file.1 == here with
      | some file => .file file.2
      | none => .nothing
  | .outside (some []) => if rootDirectories.contains name then .spot (.outside (some [name])) else .nothing
  | .outside (some ["dev"]) => if name == "null" then .file "" else .nothing
  | .outside _ => .nothing

def walk (files : Files) : Spot → List String → Found
  | _, [] => .directory
  | spot, name :: rest =>
    if name == ".." then walk files spot.up rest
    else if 255 < name.utf8ByteSize then .overlong
    else
      match files.member name spot with
      | .spot next => walk files next rest
      | .file content => if rest.isEmpty then .file content else .blocked
      | .nothing => if rest.isEmpty then .free else .lost

def look (files : Files) (path : Path) : Found :=
  if path.text.toList.contains '\x00' then .unnamable
  else if 4095 < path.text.utf8ByteSize then .overlong
  else files.walk (if path.root.isEmpty then .inside [] else .outside (some [])) path.parts

def disk (files : Files) : Disk := ⟨files.look, files.map fun file => .ofText file.1⟩

/-- The files with a text put at a place of the working directory; other places are none of theirs. -/
def write (path : Path) (content : String) (files : Files) : Files :=
  let parts := Path.settled path.parts
  if !path.root.isEmpty || parts.head? == some ".." then files
  else if files.any fun file => partsOf file.1 == parts then
    files.map fun file => if partsOf file.1 == parts then (file.1, content) else file
  else files ++ [("/".intercalate parts, content)]

end Files
end BoxTree
