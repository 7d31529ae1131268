import MarketingFlow.Configuration.Basic
import MarketingFlow.Editor.Operations

/-!
# Sessions

A browser is started for a task in the editor and closed when the task ends, however it ends. The
context takes over a saved session if its file exists; there is never a login.
-/

namespace MarketingFlow.Editor

open Browsing

/-- The saved session to start with: the configured one, unless its file is missing. -/
def savedSession (c : Config) : Browsing Json := do
  match c.storageState with
  | .str path =>
    if path.isEmpty || (← isFile path) then return .str path
    log .warning ("Storage state " ++ path ++ " not found; starting without a session")
    return .null
  | v =>
    if v.given then
      throw (Failure.misuse (.badOperand
        ("expected str, bytes or os.PathLike object, not " ++ v.typeName)))
    return v

def launchOptions (c : Config) : LaunchOptions :=
  { headless := c.headless
    slowMo := c.slowMo
    arguments := ["--no-sandbox", "--disable-blink-features=AutomationControlled"] }

def operatorOf (c : Config) : Operator :=
  { screenshotDir := c.screenshotDir.text }

/-- Runs a task in a browser of its own. -/
def inSession {α : Type} (c : Config) (task : Operator → Browsing α) : Browsing α := do
  let state ← savedSession c
  check (← ask (.launch (launchOptions c)))
  let work : Browsing α := do
    check (← ask (.openContext state 1920 1080))
    check (← ask .openPage)
    check (← ask (.setTimeout c.pageTimeout))
    task (operatorOf c)
  let outcome ← work.result
  check (← ask .close)
  check outcome

end MarketingFlow.Editor
