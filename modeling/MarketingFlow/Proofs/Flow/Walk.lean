import MarketingFlow.Flow.Traversal
import MarketingFlow.Proofs.Outcome

/-!
# The walk in steps

The walk over a stack of keys never fails, and a stack can be walked in two parts: what the first
part leaves in the pool is what the second part starts from. This is what makes the stack a
recursion.
-/

namespace MarketingFlow

namespace Json

theorem asKey_of_isKey {v : Json} (h : v.isKey = true) : v.asKey = .ok v := by
  simp [asKey, h]

end Json

namespace Flow

@[simp] theorem walk_nil (pool : List Action) : walk pool [] = .ok ([], pool) := by
  rw [walk]
  rfl

theorem walk_cons_absent {pool : List Action} {target : Json} {rest : List Json}
    (hk : target.isKey = true) (h : pool.find? (Action.namedBy target) = none) :
    walk pool (target :: rest) = walk pool rest := by
  rw [walk, Json.asKey_of_isKey hk, Outcome.ok_bind]
  split
  · rfl
  · simp_all

theorem walk_cons_present {pool : List Action} {target : Json} {rest : List Json} {a : Action}
    (hk : target.isKey = true) (h : pool.find? (Action.namedBy target) = some a) :
    walk pool (target :: rest) = (do
      let (emitted, left) ← walk (without pool a) (a.nextIds ++ rest)
      return (a :: emitted, left)) := by
  rw [walk, Json.asKey_of_isKey hk, Outcome.ok_bind]
  split
  · simp_all
  · rename_i b hb
    obtain rfl : b = a := by simp_all
    rfl

theorem walk_cons_notKey {pool : List Action} {target : Json} {rest : List Json}
    (hk : target.isKey = false) :
    walk pool (target :: rest) = .error (Failure.misuse (.notAKey target.typeName)) := by
  rw [walk, Json.asKey, if_neg (by simp [hk])]
  rfl

/-- A stack is walked in two parts. Both sides stop at the same target that is no key. -/
theorem walk_append (pool : List Action) (xs ys : List Json) :
    walk pool (xs ++ ys) = (do
      let (first, left) ← walk pool xs
      let (second, left) ← walk left ys
      return (first ++ second, left)) := by
  induction pool, xs using walk.induct with
  | case1 pool =>
    rw [List.nil_append, walk_nil]
    change _ = (walk pool ys).bind fun r => .ok ([] ++ r.1, r.2)
    cases walk pool ys <;> rfl
  | case2 pool target rest ihRest ihFound =>
    rw [List.cons_append]
    cases hk : target.isKey with
    | false => rw [walk_cons_notKey hk, walk_cons_notKey hk]; rfl
    | true =>
      cases hf : pool.find? (Action.namedBy target) with
      | none => rw [walk_cons_absent hk hf, walk_cons_absent hk hf, ihRest]
      | some a =>
        rw [walk_cons_present hk hf, walk_cons_present hk hf, ← List.append_assoc,
          ihFound target a hf]
        cases walk (without pool a) (a.nextIds ++ rest) with
        | error e => rfl
        | ok first =>
          change ((walk first.2 ys).bind _).bind _ = (walk first.2 ys).bind _
          cases walk first.2 ys <;> rfl

end Flow

end MarketingFlow
