import MarketingFlow.Flow.Basic

/-!
# Visiting a flow

The walk takes the next target off a stack, emits the action that it names and puts the action's
links in front, so one branch is finished before the next begins. What the walk may still emit is
kept as a pool: an emitted action leaves it together with all others of the same id, which makes
cycles, meeting branches and repeated ids harmless and bounds the walk: every step shrinks the pool
or the stack. `traverse` appends what is never reached. `reachableIds` spreads from the entry with a
stack of its own and keeps no order.
-/

namespace MarketingFlow

namespace Action

/-- A target names the action; only texts do. -/
def namedBy (target : Json) (a : Action) : Bool :=
  match target with
  | .str id => a.id == id
  | _ => false

end Action

namespace Flow

/-- The actions of other ids. -/
def without (pool : List Action) (a : Action) : List Action :=
  pool.filter fun b => b.id != a.id

theorem length_without_lt {pool : List Action} {a : Action} (h : a ∈ pool) :
    (without pool a).length < pool.length := by
  have hle : (without pool a).length ≤ pool.length := List.length_filter_le ..
  refine Nat.lt_of_le_of_ne hle fun heq => ?_
  have := List.length_filter_eq_length_iff.mp heq a h
  simp at this

/-- The actions emitted from a stack of targets, and those of the pool that were never reached. -/
def walk (pool : List Action) (stack : List Json) :
    Except Failure (List Action × List Action) := do
  match stack with
  | [] => return ([], pool)
  | target :: rest =>
    let key ← target.asKey
    match _h : pool.find? (Action.namedBy key) with
    | none => walk pool rest
    | some a =>
      let (emitted, left) ← walk (without pool a) (a.nextIds ++ rest)
      return (a :: emitted, left)
termination_by (pool.length, stack.length)
decreasing_by
  · exact Prod.Lex.right _ (by simp)
  · exact Prod.Lex.left _ _ (length_without_lt (List.mem_of_find?_eq_some _h))

/-- The first action of every id. -/
def firstOfEach : List Action → List Action
  | [] => []
  | a :: rest => a :: firstOfEach (without rest a)
termination_by pool => pool.length
decreasing_by
  exact Nat.lt_succ_of_le (List.length_filter_le ..)

/-- Every id once: depth first from the entry, then the unreached ones in the order of definition.
Without an entry there is no walk. -/
def traverse (f : Flow) : Except Failure (List Action) := do
  let (emitted, left) ← walk f.actions (if f.entry.given then [f.entry] else [])
  return emitted ++ firstOfEach left

/-- The ids that a stack of targets leads to. Here the order is of no account: the last link of an
action is followed first. -/
def spread (pool : List Action) (stack : List Json) : Except Failure (List String) := do
  match stack with
  | [] => return []
  | target :: rest =>
    let key ← target.asKey
    match _h : pool.find? (Action.namedBy key) with
    | none => spread pool rest
    | some a => return a.id :: (← spread (without pool a) (a.nextIds.reverse ++ rest))
termination_by (pool.length, stack.length)
decreasing_by
  · exact Prod.Lex.right _ (by simp)
  · exact Prod.Lex.left _ _ (length_without_lt (List.mem_of_find?_eq_some _h))

def reachableIds (f : Flow) : Except Failure (List String) :=
  spread f.actions [f.entry]

end Flow

/-- Pairs the actions of one type with the matching resources, in order of position: the service
does not echo ids, so the n-th of the one is taken for the n-th of the other. -/
def correlate {α : Type} (actions : List Action) (resources : List α) (type : String)
    (isMatch : α → Except Failure Bool) : Except Failure (List (Action × α)) := do
  let remote ← resources.filterM isMatch
  return (actions.filter fun a => a.typeName == type).zip remote

end MarketingFlow
