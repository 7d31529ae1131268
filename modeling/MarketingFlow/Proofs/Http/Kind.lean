import MarketingFlow.Http.Url
import MarketingFlow.Proofs.Outcome
import Mathlib

/-!
# Kinds of addresses

All addresses that are seen from one base have the scheme of the base, and where there is a scheme,
nothing else decides whether an address says how to get there.
-/

namespace MarketingFlow.Url

theorem Written.scheme_toUrl {w : Written} {u : Url} (h : w.toUrl = .ok u) :
    u.scheme = w.scheme.map Char.toLower := by
  simp only [Written.toUrl, Outcome.bind_eq_ok_iff] at h
  obtain ⟨_, -, _, -, _, -, _, -, _, -, _, -, _, -, h⟩ := h
  cases h
  rfl

theorem scheme_withParts {u v : Url} {path : List Char} {query : Option (List Char)}
    (h : u.withParts path query = .ok v) : v.scheme = u.scheme.map Char.toLower := by
  rw [withParts] at h
  dsimp only at h
  split at h
  · cases h
  · exact Written.scheme_toUrl h

theorem scheme_withQuery {u v : Url} {pairs : Query.Pairs} (h : u.withQuery pairs = .ok v) :
    v.scheme = u.scheme.map Char.toLower := by
  obtain ⟨query, -, h⟩ := Outcome.bind_eq_ok_iff.mp h
  exact scheme_withParts h

theorem Written.scheme_read_slash (cs : List Char) : (Written.read ('/' :: cs)).scheme = [] := by
  rfl

/-- A text that begins with a slash has no scheme. -/
theorem scheme_read_slash {text : String} {cs : List Char} {u : Url}
    (htext : text.toList = '/' :: cs) (h : read text = .ok u) : u.scheme = [] := by
  rw [read] at h
  simp only [htext] at h
  split at h
  · cases h
  · split at h
    · cases h
    · rw [Written.scheme_toUrl h, Written.scheme_read_slash]
      rfl

theorem scheme_join {base u : Url} {text : String} {cs : List Char}
    (htext : text.toList = '/' :: cs) (h : join base text = .ok u) :
    u.scheme = base.scheme.map Char.toLower := by
  obtain ⟨there, hthere, h⟩ := Outcome.bind_eq_ok_iff.mp h
  have hrelative : there.isAbsolute = false := by
    simp [isAbsolute, scheme_read_slash htext hthere]
  rw [hrelative] at h
  exact scheme_withParts h

/-! ## The kind -/

/-- The text of an address with a scheme, with or without the fragment's sign. -/
theorem textWithoutEnd_of_scheme {u : Url} (h : u.scheme ≠ []) :
    ∃ rest, u.textWithoutEnd = u.scheme ++ ':' :: rest := by
  obtain ⟨rest, htext⟩ : ∃ rest, u.text = u.scheme ++ ':' :: rest := by
    simp [text, h]
  rw [textWithoutEnd, htext]
  split
  · rename_i hlast
    cases rest with
    | nil => simp at hlast
    | cons c rest =>
      refine ⟨(c :: rest).dropLast, ?_⟩
      rw [List.dropLast_append_cons, List.dropLast_cons_of_ne_nil (by simp)]
  · exact ⟨rest, rfl⟩

/-- What is cut off at a stop does not depend on what comes after it. -/
theorem cut_append_stop {stop : Char → Bool} {c : Char} (hc : stop c = true)
    (start rest : List Char) :
    (Text.cut stop (start ++ c :: rest)).1 = (Text.cut stop (start ++ [c])).1 ∧
      (Text.cut stop (start ++ c :: rest)).2.head? = (Text.cut stop (start ++ [c])).2.head? := by
  induction start with
  | nil => simp [Text.cut, hc]
  | cons d start ih =>
    cases hd : stop d with
    | true => simp [Text.cut, hd]
    | false =>
      simp only [Text.cut, List.cons_append, List.takeWhile_cons, List.dropWhile_cons, hd,
        Bool.not_false, if_true] at ih ⊢
      exact ⟨congrArg _ ih.1, ih.2⟩

theorem checkKind_eq_ok_iff {u : Url} {isStop : Char → Bool}
    (hstop : isStop = fun c => c == '/' || c == ':') :
    u.checkKind = .ok () ↔ (Text.cut isStop u.textWithoutEnd).1 ≠ [] ∧
      (Text.cut isStop u.textWithoutEnd).2.head? = some ':' := by
  subst hstop
  rw [checkKind]
  dsimp only
  split
  · rename_i h
    simpa using h
  · rename_i h
    simpa using h

/-- With a scheme, the scheme alone decides about the kind. -/
theorem checkKind_congr {u v : Url} (h : u.scheme = v.scheme) (hv : v.scheme ≠ []) :
    u.checkKind = .ok () ↔ v.checkKind = .ok () := by
  obtain ⟨x, hx⟩ := textWithoutEnd_of_scheme (h ▸ hv)
  obtain ⟨y, hy⟩ := textWithoutEnd_of_scheme hv
  generalize hstop : (fun c : Char => c == '/' || c == ':') = isStop
  have hcolon : isStop ':' = true := by
    rw [← hstop]
    decide
  have hu := cut_append_stop hcolon v.scheme x
  have hv := cut_append_stop hcolon v.scheme y
  rw [checkKind_eq_ok_iff hstop.symm, checkKind_eq_ok_iff hstop.symm, hx, hy, h, hu.1, hu.2, hv.1,
    hv.2]

/-- Of two addresses of paths seen from one base, of which one may have a query of its own. -/
theorem checkKind_of_join {base u v w : Url} {text text' : String} {pairs : Query.Pairs}
    (htext : ∃ cs, text.toList = '/' :: cs) (htext' : ∃ cs, text'.toList = '/' :: cs)
    (hu : join base text = .ok u) (hw : u.withQuery pairs = .ok w) (hv : join base text' = .ok v)
    (hne : v.scheme ≠ []) (hkind : w.checkKind = .ok ()) : v.checkKind = .ok () := by
  obtain ⟨_, htext⟩ := htext
  obtain ⟨_, htext'⟩ := htext'
  have hlower : ∀ s : List Char, (s.map Char.toLower).map Char.toLower = s.map Char.toLower := by
    intro s
    rw [List.map_map]
    exact List.map_congr_left fun c _ => c.toLower_toLower_eq_toLower
  have hscheme : w.scheme = v.scheme := by
    rw [scheme_withQuery hw, scheme_join htext hu, scheme_join htext' hv, hlower]
  exact (checkKind_congr hscheme hne).mp hkind

end MarketingFlow.Url
