/-!
# Paths

Paths as texts with `/` between their parts. A path is made absolute against a working directory,
and the parts that only stay in place or go back up are resolved away.
-/

namespace MarketingFlow.Path

def isAbsolute (path : String) : Bool :=
  path.toList.head? == some '/'

/-- The parts between slashes, without empty ones and those that stay in place. -/
def parts (path : String) : List String :=
  (path.splitOn "/").filter fun part => part != "" && part != "."

/-- Takes the parts one by one; `..` removes the last one taken. `done` is reversed. -/
def climb (done : List String) : List String → List String
  | [] => done.reverse
  | ".." :: rest => climb done.tail rest
  | part :: rest => climb (part :: done) rest

/-- The parts never go up further than they have come down from a depth. -/
def staysBelow (depth : Nat) : List String → Bool
  | [] => true
  | ".." :: rest => match depth with
    | 0 => false
    | depth + 1 => staysBelow depth rest
  | _ :: rest => staysBelow (depth + 1) rest

/-- The absolute form of a path seen from a working directory. -/
def resolve (directory path : String) : String :=
  if isAbsolute path then "/" ++ "/".intercalate (climb [] (parts path))
  else if staysBelow 0 (parts path) then
    "/".intercalate (directory :: climb [] (parts path))
  else "/" ++ "/".intercalate (climb [] (parts directory ++ parts path))

def name (path : String) : String :=
  (parts path).getLastD ""

def around (path : String) : String :=
  "/".intercalate (path.splitOn "/").dropLast

/-- The tidy form of a path: single slashes and no parts that stay in place. -/
def tidy (path : String) : String :=
  let body := "/".intercalate (parts path)
  if isAbsolute path then "/" ++ body else if body.isEmpty then "." else body

def inside (directory part : String) : String :=
  if directory.isEmpty then tidy part else tidy (directory ++ "/" ++ part)

end MarketingFlow.Path
