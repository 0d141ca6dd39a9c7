import Whereto.Keyed

/-!
The files that events are kept in. New lines go to the buffer file. When they would make it too
large it is put aside under a name with a stamp, and of the files put aside only the last few by
name are kept; if there may be just one file, it is emptied instead. A directory under the name
of a file put aside counts as one, but it is never removed.
-/

namespace Whereto

/-- What lies under a name. -/
inductive Entry where
  | file (content : String)
  | directory
  deriving DecidableEq, Repr

namespace Entry

/-- What can be read of it. -/
def content : Entry → String
  | file content => content
  | directory => ""

def isFile : Entry → Bool
  | file _ => true
  | directory => false

end Entry

/-- What lies in a directory, by name. -/
abbrev Archive := List (String × Entry)

/-- How large a file may grow, and how many files there may be. -/
structure Limits where
  maxBytes : Nat
  maxFiles : Nat
  deriving DecidableEq, Repr

namespace Archive

def bufferStem : String := "resolution-events"
def fileSuffix : String := ".jsonl"

/-- The file that lines are added to. -/
def bufferName : String := bufferStem ++ fileSuffix

/-- What the names of the files put aside start with. -/
def asideStem : String := bufferStem ++ "-"

/-- The name under which the buffer file is put aside. -/
def asideName (stamp : String) : String := asideStem ++ stamp ++ fileSuffix

def isAside (name : String) : Bool :=
  asideStem.toList.isPrefixOf name.toList && fileSuffix.toList.isSuffixOf name.toList

/-- The files put aside, by name. -/
def asides (a : Archive) : Archive := a.filter fun f => isAside f.1

/-- The content of the buffer file; a file that does not exist is empty. -/
def buffer (a : Archive) : String := ((Keyed.get? bufferName a).map Entry.content).getD ""

/-- The archive with other content in the buffer file. -/
def withBuffer (a : Archive) (content : String) : Archive :=
  Keyed.put bufferName (.file content) a

/-- Makes sure that there is a buffer file. -/
def opened (a : Archive) : Archive := a.withBuffer a.buffer

/-- Lines, each with its end. -/
def block (lines : List String) : String := String.join (lines.map fun l => l ++ "\n")

def append (a : Archive) (lines : List String) : Archive :=
  a.withBuffer (a.buffer ++ block lines)

/-- Removes a file; a directory stays. -/
def remove (a : Archive) (f : String × Entry) : Archive :=
  if f.2.isFile then Keyed.erase f.1 a else a

/-- Removes the first files put aside until no more than a number are left. -/
def prune (a : Archive) (keep : Nat) : Archive :=
  let aside := a.asides
  (aside.take (aside.length - keep)).foldl remove a

/-- Puts the buffer file aside. -/
def putAside (a : Archive) (stamp : String) : Archive :=
  Keyed.put (asideName stamp) (.file a.buffer) (Keyed.erase bufferName a)

/-- Makes room for as many bytes. An empty buffer file has room for everything. -/
def rotate (a : Archive) (limits : Limits) (stamp : String) (incoming : Nat) : Archive :=
  let size := a.buffer.utf8ByteSize
  if size = 0 ∨ size + incoming ≤ limits.maxBytes then a
  else if limits.maxFiles ≤ 1 then a.withBuffer ""
  else prune (putAside a stamp) (limits.maxFiles - 1)

/-- Adds lines to the archive. -/
def store (a : Archive) (limits : Limits) (stamp : String) (lines : List String) : Archive :=
  append (rotate a limits stamp (block lines).utf8ByteSize) lines

/-- Somebody else writes a file, unless a directory is in its place. -/
def plant (a : Archive) (name content : String) : Archive :=
  if Keyed.get? name a = some .directory then a else Keyed.put name (.file content) a

end Archive

end Whereto
