import PrizeDraw.Text.Parts

namespace PrizeDraw

abbrev Trail := List (List Char)

namespace Trail

def ofPath (path : String) : Trail := Parts.split '/' path.toList

def follow (place : Trail) (name : List Char) : Trail :=
  if name = [] ∨ name = ['.'] then place
  else if name = ['.', '.'] then place.dropLast
  else place ++ [name]

def visited (place : Trail) : List (List Char) → List Trail
  | [] => [place]
  | name :: names => place :: visited (place.follow name) names

end Trail

structure Folder where
  folders : List Trail := []
  files : List (Trail × String) := []
  deriving DecidableEq, Repr, Inhabited

namespace Folder

def maxPathBytes : Nat := 4095

def isFolder (folder : Folder) (place : Trail) : Bool :=
  place.isEmpty || folder.folders.contains place

def write (folder : Folder) (path text : String) : Folder :=
  let names := Trail.ofPath path
  { folders := Trail.visited [] names.dropLast ++ folder.folders
    files := (names.foldl Trail.follow [], text) :: folder.files }

def ofFiles (files : List (String × String)) : Folder :=
  files.foldl (fun folder (path, text) => folder.write path text) {}

def step? (folder : Folder) (place : Trail) (name : List Char) : Option Trail :=
  if folder.isFolder place && !(place.isEmpty && name == ['.', '.']) then
    some (place.follow name)
  else none

def read? (folder : Folder) (path : String) : Option String :=
  if maxPathBytes < path.utf8ByteSize then none
  else
    match Trail.ofPath path with
    | [] :: _ :: _ => none
    | names => (names.foldlM folder.step? []).bind fun place => folder.files.lookup place

end Folder

end PrizeDraw
