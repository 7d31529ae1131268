import MarketingFlow.Service.Directory

/-!
# Names of an account

The two directories that triggers refer to, metrics and lists, and the look-ups in them.
-/

namespace MarketingFlow

/-- The directories of an account's metrics and lists with the state of their look-ups. -/
structure Directories where
  metrics : Directory
  lists : Directory

def Directories.empty : Directories := ⟨.empty, .empty⟩

/-- How names of triggers are looked up: a task for each directory and look-up. -/
structure NameService (σ : Type) where
  findMetric : Json → Task σ Json
  findList : Json → Task σ Json
  metricNames : Task σ (List Json)
  listNames : Task σ (List Json)

namespace NameService

variable {σ τ α : Type}

def inMetrics (l : Task (Directory × Unit) α) : Task Directories α :=
  l.within (fun d => (d.metrics, ())) fun d x => { d with metrics := x.1 }

def inLists (l : Task (Directory × Unit) α) : Task Directories α :=
  l.within (fun d => (d.lists, ())) fun d x => { d with lists := x.1 }

/-- Look-ups in directories with the given loaders. -/
def ofLoaders (metrics lists : Task Unit Json) (retry : Option (RetryOptions Number)) :
    NameService Directories :=
  let ofMetrics : Directory.Profile := ⟨"metric", retry⟩
  let ofLists : Directory.Profile := ⟨"list", retry⟩
  { findMetric := fun name => inMetrics (Directory.alone metrics (Directory.find ofMetrics name))
    findList := fun name => inLists (Directory.alone lists (Directory.find ofLists name))
    metricNames := inMetrics (Directory.alone metrics (Directory.names ofMetrics))
    listNames := inLists (Directory.alone lists (Directory.names ofLists)) }

def within (s : NameService σ) (part : τ → σ) (replace : τ → σ → τ) : NameService τ :=
  { findMetric := fun name => (s.findMetric name).within part replace
    findList := fun name => (s.findList name).within part replace
    metricNames := s.metricNames.within part replace
    listNames := s.listNames.within part replace }

end NameService

end MarketingFlow
