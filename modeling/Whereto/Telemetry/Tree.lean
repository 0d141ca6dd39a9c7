import Whereto.Telemetry.Recorder

/-!
Files and directories below a root, and the opening of a data directory among them. The
directories on the way to it are made where they do not exist; two dots lead back to the
directory above.
-/

namespace Whereto

/-- Files and directories by their path below the root. A directory that holds something need not
be listed itself. -/
abbrev FileTree := List (List String × Entry)

namespace FileTree

def above : String := ".."

/-- The steps of a path. -/
def path (text : String) : List String :=
  ((Text.cut '/' text.toList).map String.ofList).filter fun s => !s.isEmpty && s ≠ "."

def isFile (t : FileTree) (p : List String) : Bool := t.any fun f => f.1 = p && f.2.isFile

/-- What lies in a directory itself. -/
def entriesIn (t : FileTree) (dir : List String) : Archive :=
  t.foldl (fun a f =>
    match f.1.drop dir.length with
    | [] => a
    | [name] => if dir.isPrefixOf f.1 then Keyed.put name f.2 a else a
    | name :: _ => if dir.isPrefixOf f.1 then Keyed.put name .directory a else a) []

/-- The directory above; nothing is known of what lies above the root. -/
def up (dir : List String) : List String :=
  if dir.getLast?.all (· = above) then dir ++ [above] else dir.dropLast

/-- How many bytes a name may have. -/
def longestName : Nat := 255

/-- Why there cannot be a directory under a name. -/
def nameFault? (name : String) : Option StoreFault :=
  if name.toList.contains '\x00' then some .brokenName
  else if longestName < name.utf8ByteSize then some .longName
  else none

/-- The directory that steps lead to, with the tree in which it exists. -/
def follow (t : FileTree) (dir : List String) :
    List String → Except StoreFault (FileTree × List String)
  | [] => .ok (t, dir)
  | s :: steps =>
    if s = above then follow t (up dir) steps
    else
      let next := dir ++ [s]
      if t.isFile next then .error (if steps.isEmpty then .exists else .notDirectory)
      else
        match nameFault? s with
        | some fault => .error fault
        | none => follow (t ++ [(next, .directory)]) next steps

/-- The tree with a file in it, if there can be one. -/
def plant (t : FileTree) (steps : List String) (content : String) : FileTree :=
  match follow t [] steps.dropLast, steps.getLast? with
  | .ok (t, dir), some name => t ++ [(dir ++ [name], .file content)]
  | _, _ => t

/-- What lies in a data directory, which is made if it does not exist. -/
def enter (t : FileTree) (steps : List String) : Except StoreFault Archive := do
  let (t, dir) ← follow t [] steps
  let archive := t.entriesIn dir
  if Keyed.get? Archive.bufferName archive = some .directory then .error .isDirectory
  else .ok archive

end FileTree

end Whereto
