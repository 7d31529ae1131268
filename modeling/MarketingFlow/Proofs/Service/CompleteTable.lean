import Mathlib.Data.List.Induction
import MarketingFlow.Proofs.Service.Directories
import MarketingFlow.Service.SideBySide

/-!
# What a complete listing answers

The names that count in a listing are those of the entries that have a name and an id; of entries
with one name the first counts. What a directory answers once a listing has been taken in whole is
said here by the listing alone.
-/

namespace MarketingFlow

open Outcome

/-- The name and the id of an entry, if it has both. -/
def Json.named? : Json → Option (String × Json)
  | .obj ms =>
    match Members.value ms "name" with
    | .str name =>
      if name.isEmpty || !(Members.value ms "id").given then none
      else some (name, Members.value ms "id")
    | _ => none
  | _ => none

namespace Directory

abbrev Listing := List (String × Json)

/-- One name contains the other, case aside. -/
def alike (wanted name : String) : Bool :=
  Text.contains (Text.lower name) (Text.lower wanted) ||
    Text.contains (Text.lower wanted) (Text.lower name)

namespace Listing

def ofEntries (entries : List Json) : Listing :=
  entries.filterMap Json.named?

/-- The id of a name: that of the first entry with this very name, or else with one like it. -/
def idOf (l : Listing) (name : String) : Json :=
  match l.find? fun x => x.1 == name with
  | some x => x.2
  | none =>
    if (Text.lower name).isEmpty then .null
    else
      match l.find? fun x => alike name x.1 with
      | some x => x.2
      | none => .null

def answer (l : Listing) : Question → Json
  | .find name => l.idOf name
  | .names => .arr ((l.map Prod.fst).eraseDups.map .str)

/-! ## The table of a listing -/

def add (l : Listing) (x : String × Json) : Listing :=
  if l.any fun y => y.1 == x.1 then l else l ++ [x]

/-- Of entries with the same name, only the first. -/
def firsts (l : Listing) : Listing :=
  l.foldl add []

def table (l : Listing) : NameTable :=
  l.map fun x => (.str x.1, x.2)

theorem find?_add (P : String → Bool) (l : Listing) (x : String × Json) :
    (l.add x).find? (fun y => P y.1) =
      (l.find? fun y => P y.1).or (if P x.1 then some x else none) := by
  rw [add]
  split
  next htaken =>
    obtain ⟨y, hy, hname⟩ := List.any_eq_true.mp htaken
    cases hx : P x.1 with
    | false => simp
    | true =>
      have hfound : (l.find? fun y => P y.1).isSome = true := by
        refine List.find?_isSome.mpr ⟨y, hy, ?_⟩
        rw [beq_iff_eq.mp hname, hx]
      rw [if_pos rfl, Option.or_of_isSome hfound]
  next => rw [List.find?_append, List.find?_singleton]

theorem firsts_concat (l : Listing) (x : String × Json) : firsts (l ++ [x]) = l.firsts.add x :=
  List.foldl_concat ..

/-- What is looked for by its name is found among the first entries just as in the listing. -/
theorem find?_firsts (P : String → Bool) (l : Listing) :
    l.firsts.find? (fun x => P x.1) = l.find? fun x => P x.1 := by
  induction l using List.reverseRecOn with
  | nil => rfl
  | append_singleton l x ih =>
    rw [firsts_concat, find?_add, ih, List.find?_append, List.find?_singleton]

theorem eraseDups_concat (names : List String) (name : String) :
    (names ++ [name]).eraseDups =
      if name ∈ names then names.eraseDups else names.eraseDups ++ [name] := by
  rw [List.eraseDups_append, List.removeAll, List.filter_cons]
  by_cases hname : name ∈ names
  · rw [if_pos hname, List.elem_iff.mpr hname]
    exact List.append_nil _
  · rw [if_neg hname, Bool.eq_false_iff.mpr (hname ∘ List.elem_iff.mp)]
    rfl

theorem map_fst_firsts (l : Listing) : l.firsts.map Prod.fst = (l.map Prod.fst).eraseDups := by
  induction l using List.reverseRecOn with
  | nil => rfl
  | append_singleton l x ih =>
    have htaken : ((firsts l).any fun y => y.1 == x.1) = decide (x.1 ∈ l.map Prod.fst) := by
      rw [Bool.eq_iff_iff, decide_eq_true_iff, ← List.mem_eraseDups, ← ih]
      simp
    rw [firsts_concat, add, htaken, List.map_append, List.map_singleton, eraseDups_concat, ← ih]
    by_cases hx : x.1 ∈ l.map Prod.fst <;> simp [hx]

/-! ## Looking up in the table -/

theorem idOf?_table (l : Listing) (name : String) :
    l.table.idOf? (.str name) = (l.find? fun x => x.1 == name).map Prod.snd := by
  have hsame : (fun entry : Json × Json => entry.1.sameKey (.str name)) ∘
      (fun x : String × Json => (.str x.1, x.2)) = fun x => x.1 == name := by
    funext x
    simp [Json.sameKey, Json.isNaN]
  rw [NameTable.idOf?, table, List.find?_map, Option.map_map, hsame]
  rfl

theorem table_add (l : Listing) (name : String) (id : Json) :
    l.table.add (.str name) id = (l.add (name, id)).table := by
  rw [NameTable.add, add, idOf?_table, Option.isSome_map, List.isSome_find?]
  split
  · rfl
  · simp [table]

theorem fuzzy_table (l : Listing) (name : String) :
    fuzzy (Text.lower name) l.table =
      .ok ((l.find? fun x => alike name x.1).map fun x => (.str x.1, x.2)) := by
  induction l with
  | nil => rfl
  | cons x rest ih =>
    rw [table, List.map_cons, fuzzy, folded, ok_bind, List.find?_cons, alike]
    split
    next h => rw [h]; rfl
    next h => rw [Bool.eq_false_iff.mpr h]; exact ih

/-- An entry is taken into the table if it counts. -/
theorem addEntry_table (l : Listing) {entry : Json} (h : entry.isEntry = true) :
    addEntry l.table entry = .ok (entry.named?.elim l l.add).table := by
  cases entry with
  | obj ms =>
    simp only [addEntry, Json.get, Json.members, ok_bind, pure_eq, Json.named?]
    rw [Json.isEntry] at h
    cases hname : Members.value ms "name" with
    | str name =>
      rw [Json.asKey_str, ok_bind, table_add, Json.given]
      dsimp only
      cases name.isEmpty <;> cases (Members.value ms "id").given <;> rfl
    | _ =>
      -- a name that is no text is none at all
      rw [hname, Bool.or_eq_true, Bool.not_eq_true'] at h
      rcases h with h | ⟨⟨⟩⟩
      rw [h]
      rfl
  | _ => cases h

end Listing

end Directory

end MarketingFlow
