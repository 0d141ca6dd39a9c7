/-!
Lists of pairs in ascending order of their keys, each key at most once.
-/

namespace Whereto.Keyed

variable {α : Type}

def get? (key : String) : List (String × α) → Option α
  | [] => none
  | (k, a) :: kas => if key = k then some a else get? key kas

/-- Adds a pair in its place; a pair with the same key is replaced. -/
def put (key : String) (a : α) : List (String × α) → List (String × α)
  | [] => [(key, a)]
  | (k, b) :: kbs =>
    if key < k then (key, a) :: (k, b) :: kbs
    else if key = k then (key, a) :: kbs
    else (k, b) :: put key a kbs

def erase (key : String) (kas : List (String × α)) : List (String × α) :=
  kas.filter fun ka => ka.1 ≠ key

def ofList (kas : List (String × α)) : List (String × α) :=
  kas.foldl (fun sorted ka => put ka.1 ka.2 sorted) []

end Whereto.Keyed
