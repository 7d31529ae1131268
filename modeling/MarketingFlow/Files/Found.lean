import MarketingFlow.Failure
import MarketingFlow.Files.Path

/-!
# Looking at paths

What a look at a path finds. Some texts are no paths at all: those with a zero character in them, and
those that the encoding of file names does not have.
-/

namespace MarketingFlow.Path

inductive Found where
  | file
  | directory
  | nothing
  /-- On the way there is a name, or the path itself is, longer than any can be. -/
  | nameTooLong
  deriving DecidableEq, Repr

/-- The longest name and the longest path, in bytes. -/
def longestName : Nat := 255

def longestPath : Nat := 4095

/-- The encoding of file names. Bytes that are no text show up as low halves in them. -/
def nameEncoding : Text.Encoding :=
  { Text.Encoding.utf8 with
    holds := fun n => !Text.isHalf n || (0xdc80 ≤ n && n ≤ 0xdcff) }

def check (path : String) : Except Failure Unit := do
  Failure.checkEncoding nameEncoding path
  if path.toList.contains '\x00' then throw (Failure.value "embedded null byte")

def tooLong (path : String) : Failure :=
  { cause := .system .general ("[Errno 36] File name too long: " ++ Text.quote path) }

def Found.isFile (path : String) : Found → Except Failure Bool
  | file => .ok true
  | directory => .ok false
  | nothing => .ok false
  | nameTooLong => .error (tooLong path)

/-- Whether a file can be written at a path, by what is there and what is around it. -/
def Found.checkWritable (path : String) (here around : Found) : Except Failure Unit :=
  let refuse := fun (kind : SystemKind) (text : String) =>
    .error { cause := .system kind (text ++ ": " ++ Text.quote path) }
  match here, around with
  | file, _ => .ok ()
  | directory, _ => refuse .isDirectory "[Errno 21] Is a directory"
  | nameTooLong, _ => .error (tooLong path)
  | nothing, directory => .ok ()
  | nothing, file => refuse .notDirectory "[Errno 20] Not a directory"
  | nothing, _ => refuse .fileNotFound "[Errno 2] No such file or directory"

/-- Looks whether there is a file at the tidy form of a path. Where no path can be, there is none. -/
def findFile.{u} {m : Type → Type u} [Monad m] (look : String → m Found) (path : String) :
    m (Except Failure Bool) :=
  match check path with
  | .error _ => pure (.ok false)
  | .ok () => (Found.isFile (tidy path)) <$> look (tidy path)

end MarketingFlow.Path
