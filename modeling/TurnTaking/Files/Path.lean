import TurnTaking.Text.Split

/-!
# Paths

A path leads from the root or from the current folder through named folders; `..` leads to the folder
around one. Empty parts and `.` lead nowhere, but at its end they say that it leads to a folder. Paths
and their parts have a greatest length, in bytes.
-/

namespace TurnTaking

/-- A path, by its parts. -/
structure Path where
  absolute : Bool
  parts : List String
deriving DecidableEq, Repr, Inhabited

namespace Path

def ofText (s : String) : Path where
  absolute := s.startsWith "/"
  parts := (Text.partsBetween '/' s.toList).filterMap fun part =>
    if part = [] || part = ['.'] then none else some (String.ofList part)

/-- The bytes that one part of a path may have. -/
def longestName : Nat := 255

def isTooLong (s : String) : Bool := 4096 ≤ s.utf8ByteSize

def hasZero (s : String) : Bool := s.toList.contains '\x00'

/-- Whether a text leads to a folder, if it leads anywhere. -/
def endsInFolder (s : String) : Bool := s.endsWith "/" || s.endsWith "/."

/-- The folder around the place where a text leads; empty, if that is the current one. -/
def folderOf (s : String) : String :=
  let p := ofText s
  (if p.absolute then "/" else "") ++ String.intercalate "/" p.parts.dropLast

/-- The place where a path leads from a folder if every `..` takes back the part before it. -/
def resolve (current : List String) (p : Path) : List String :=
  p.parts.foldl (fun place part => if part = ".." then place.dropLast else place ++ [part])
    (if p.absolute then [] else current)

/-- The text of a place, given by the names on the way from the root. -/
def textOf (place : List String) : String := "/" ++ String.intercalate "/" place

def within (folder name : String) : String :=
  if folder.isEmpty || folder.endsWith "/" then folder ++ name else folder ++ "/" ++ name

end Path

end TurnTaking
