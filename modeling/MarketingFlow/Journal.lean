import MarketingFlow.Files.Found
import MarketingFlow.Text.Blank
import MarketingFlow.Text.Search
import MarketingFlow.Text.Utf8

/-!
# The journal

What is kept of the messages of a run. Levels are numbers, of which some have names. A journal keeps
the messages from its level on; it always writes to the terminal and, unless it is told otherwise,
to a file as well.
-/

namespace MarketingFlow

structure Journal where
  level : Int
  file : Option String

namespace Journal

/-- The names that levels go by, and those that messages are marked with. -/
def levelNames : List (String × Int) :=
  [("DEBUG", 10), ("INFO", 20), ("WARN", 30), ("WARNING", 30), ("ERROR", 40), ("CRITICAL", 50),
    ("FATAL", 50), ("NOTSET", 0)]

def marks : List (Int × String) :=
  [(10, "DEBUG"), (20, "INFO"), (30, "WARNING"), (40, "ERROR"), (50, "CRITICAL"), (0, "NOTSET")]

def standardLevel : Int := 20

def standardFile : String := "flowwright.log"

/-- Characters outside of plain text whose capitals are plain letters. -/
def plainCapitals : List (Nat × String) :=
  [(0xdf, "SS"), (0x131, "I"), (0x17f, "S"), (0xfb00, "FF"), (0xfb01, "FI"), (0xfb02, "FL"),
    (0xfb03, "FFI"), (0xfb04, "FFL"), (0xfb05, "ST"), (0xfb06, "ST")]

/-- The capitals of a text, as far as they are plain letters. -/
def capitals (s : String) : String :=
  String.ofList (s.toList.flatMap fun c =>
    match plainCapitals.lookup c.toNat with
    | some t => t.toList
    | none => [c.toUpper])

/-- The format that goes by a name of its own among the levels. -/
def basicFormat : String := "%(levelname)s:%(name)s:%(message)s"

/-- The level that a name stands for, in either case. An unknown name stands for the standard level,
but two names are taken by things that are no levels. -/
def levelOf (name : String) : Except Failure Int :=
  let name := capitals name
  if name = "BASIC_FORMAT" then
    .error (Failure.value ("Unknown level: " ++ Text.quote basicFormat))
  else if name = "_STYLES" then
    .error (Failure.misuse (.badOperand "Level not an integer or a valid string"))
  else .ok ((levelNames.lookup name).getD standardLevel)

def setUp (level : String) (file : Option String) : Except Failure Journal := do
  return ⟨← levelOf level, file.filter (!·.isEmpty)⟩

/-- Whether the journal's file can be written, for one who works in a directory. -/
def checkFile.{u} {m : Type → Type u} [Monad m] (look : String → m Path.Found) (directory : String)
    (j : Journal) : m (Except Failure Unit) := do
  match j.file with
  | none => return .ok ()
  | some file =>
    match Path.check file with
    | .error e => return .error e
    | .ok () =>
      let path := Path.resolve directory file
      return (← look path).checkWritable path (← look (Path.around path))

/-- The least level that is kept. Level zero means that the surroundings decide, and they keep
warnings. -/
def threshold (j : Journal) : Int :=
  if j.level = 0 then 30 else j.level

def keeps (j : Journal) (level : Int) : Bool :=
  j.threshold ≤ level

/-- The kinds of places that the journal writes to. -/
def handlers (j : Journal) : List String :=
  "StreamHandler" :: (match j.file with
    | some _ => ["RotatingFileHandler"]
    | none => [])

/-- A message as the file has it, after the time. -/
def entry (source : String) (level : Int) (text : String) : String :=
  let mark := (marks.lookup level).getD ("Level " ++ toString level)
  "[" ++ mark ++ "] " ++ source ++ ": " ++ text

/-- The lines that the journal's file has of a message. A text that cannot be written is lost. -/
def lines (j : Journal) (source : String) (level : Int) (text : String) : List String :=
  if j.keeps level && (Text.Encoding.utf8.flaw? text).isNone then
    let written := Text.Utf8.oneLineEnd ((entry source level text).toList ++ ['\n'])
    (Text.splitWhere Text.endsLine written.dropLast).map String.ofList
  else []

end Journal

end MarketingFlow
