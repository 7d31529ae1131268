/-!
# Candidates

Where the elements of the visual editor are found. Each element has a list of selectors; they are
tried in order, and the first that shows something is used.
-/

namespace MarketingFlow.Editor

abbrev Candidates := List String

def flowsUrl : String := "https://www.klaviyo.com/flows"

def editUrl (id : String) : String :=
  "https://www.klaviyo.com/flow/" ++ id ++ "/edit"

namespace Candidates

def createFlow : Candidates := ["button:has-text(\"Create flow\")"]

def buildYourOwn : Candidates :=
  ["[data-testid=\"create-flow-from-scratch-button\"]", "button:has-text(\"Build your own\")"]

def flowName : Candidates :=
  ["input[placeholder*=\"Welcome series\"]", "input[placeholder*=\"e.g.\"]"]

def canvas : Candidates := ["[data-testid=\"rf__wrapper\"]"]

def triggerNode : Candidates := ["[data-testid=\"trigger-node-wrapper\"]"]

def endNode : Candidates := [":text(\"End\")"]

def configPanel : Candidates :=
  ["[data-testid=\"config-panel-drawer-DrawerPanelBody-content\"]",
    "[data-testid=\"config-panel-drawer\"]"]

def yourMetrics : Candidates := ["[role=\"tab\"]:has-text(\"Your metrics\")"]

def save : Candidates := ["button:has-text(\"Save\")", "button:has-text(\"Done\")"]

def confirmAndSave : Candidates := ["button:has-text(\"Confirm and save\")"]

/-- The one field for numbers that a panel has. -/
def numberField : Candidates := ["input[type=\"number\"]"]

def unitDropdown : Candidates :=
  ["button:has-text(\"minutes\")", "button:has-text(\"hours\")", "button:has-text(\"days\")",
    "button:has-text(\"weeks\")", "select"]

def messageName : Candidates :=
  ["input[placeholder*=\"name\" i]", "input[aria-label*=\"name\" i]"]

def smartSending : Candidates :=
  ["label:has-text(\"Smart Sending\")", "[role=\"switch\"][aria-label*=\"Smart Sending\" i]"]

def utmTracking : Candidates :=
  ["label:has-text(\"UTM\")", "[role=\"switch\"][aria-label*=\"UTM\" i]"]

def reentrySection : Candidates := [":text(\"Re-entry criteria\")", ":text(\"Flow filters\")"]

def text (label : String) : Candidates :=
  ["text=\"" ++ label ++ "\"", ":text(\"" ++ label ++ "\")"]

def option (label : String) : Candidates :=
  ["[role=\"option\"]:has-text(\"" ++ label ++ "\")", "option:has-text(\"" ++ label ++ "\")"]

def radio (label : String) : Candidates :=
  ["label:has-text(\"" ++ label ++ "\")", "[role=\"radio\"]:has-text(\"" ++ label ++ "\")",
    "[role=\"option\"]:has-text(\"" ++ label ++ "\")"]

end Candidates

/-- The label under which the editor offers a re-entry mode. -/
def reentryLabels : List (String × String) :=
  [("once", "Once"), ("multiple", "Multiple"), ("time-based", "Time-based")]

end MarketingFlow.Editor
