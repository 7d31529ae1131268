/-!
# Modes of a build

A flow is built through the service, in a browser, or through the service with the browser to fall
back on.
-/

namespace MarketingFlow

inductive Mode where
  | api
  | browser
  | hybrid
  deriving DecidableEq, Repr

namespace Mode

def all : List Mode := [api, browser, hybrid]

def name : Mode → String
  | api => "api"
  | browser => "browser"
  | hybrid => "hybrid"

def ofName? (name : String) : Option Mode :=
  all.find? fun m => m.name == name

end Mode

end MarketingFlow
