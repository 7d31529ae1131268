import MarketingFlow.Files.Found

/-!
# Trees of files

Files and the directories that they are in, all below one directory. A look at a path goes from part
to part, and all parts but the last have to be directories. What is above the tree is not known.
-/

namespace MarketingFlow.Path

/-- The parts of the path of each file. -/
structure Tree where
  files : List (List String)

/-- How many bytes a name or a path has. A half stands for a byte that is no text. -/
def byteCount (path : String) : Nat :=
  (Text.spell path).utf8ByteSize

namespace Tree

/-- What is at a place in the tree. -/
def kindAt (t : Tree) (place : List String) : Found :=
  if t.files.contains place then .file
  else if place.isEmpty || t.files.any (place.isPrefixOf ·) then .directory
  else .nothing

/-- Goes on from a place. -/
def walk (t : Tree) (place : List String) : List String → Found
  | [] => t.kindAt place
  | part :: rest =>
    if t.kindAt place != .directory then .nothing
    else if part = "" || part = "." then walk t place rest
    else if part = ".." then
      if place.isEmpty then .nothing else walk t place.dropLast rest
    else if longestName < byteCount part then .nameTooLong
    else walk t (place ++ [part]) rest

def look (t : Tree) (path : String) : Found :=
  if path.isEmpty then .nothing
  else if longestPath < byteCount path then .nameTooLong
  else t.walk [] (path.splitOn "/")

theorem walk_nil (t : Tree) (place : List String) : t.walk place [] = t.kindAt place := rfl

theorem walk_of_file {t : Tree} {place : List String} (h : t.kindAt place = .file) (part : String)
    (rest : List String) : t.walk place (part :: rest) = .nothing := by
  simp [walk, h]

end Tree

end MarketingFlow.Path
