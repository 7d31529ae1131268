import Mathlib.Data.List.Basic
import MarketingFlow.Email.Images
import MarketingFlow.Proofs.Outcome

/-!
# The images of a content

Three places look at the images of a content: its sources are gathered, those that are local are
uploaded, and in the end the sources that are hosted give way to their addresses. For a content
whose sections are objects, and whose images have texts for their sources, if any, none of them
fails, and what they come to is said here by the sections alone.
-/

namespace MarketingFlow

namespace Outcome

variable {ε α β : Type}

theorem mapM_eq_ok_map {f : α → Except ε β} {g : α → β} {xs : List α}
    (h : ∀ x ∈ xs, f x = .ok (g x)) : xs.mapM f = .ok (xs.map g) := by
  induction xs with
  | nil => rfl
  | cons x xs ih =>
    obtain ⟨hx, hxs⟩ := List.forall_mem_cons.mp h
    exact mapM_cons_eq_ok_iff.mpr ⟨g x, xs.map g, hx, ih hxs, rfl⟩

end Outcome

open Outcome

namespace Email

/-- The source of an image, where it is a text. -/
def imageSource? (section_ : Members) : Option String :=
  if typeIs section_ "image" then
    match Members.value section_ "src" with
    | .str path => some path
    | _ => none
  else none

/-- A text that names a file. -/
def isLocalPath (source : String) : Bool :=
  !Text.AllBlank source && !isRemoteAddress source

/-- The content is an object with these sections. They are objects as well, and the sources of
images are texts if they are there. -/
inductive Illustrates : Json → List Members → Prop
  | without {ms : Members} (h : (ms.value "sections").given = false) : Illustrates (.obj ms) []
  | given {ms : Members} {sections : List Members}
      (h : ms.value "sections" = .arr (sections.map .obj))
      (hsources : ∀ s ∈ sections, typeIs s "image" = true →
        Members.value s "src" = .null ∨ ∃ path, Members.value s "src" = .str path) :
      Illustrates (.obj ms) sections

/-- The paths of the images that lie in local files, each once, in the order of the sections. -/
def localSources (sections : List Members) : List String :=
  ((sections.filterMap imageSource?).filter isLocalPath).eraseDups

/-- A section with the hosted address of its image in place of the path. -/
def hostImage (hosted : Hosted) (section_ : Members) : Members :=
  match (imageSource? section_).bind hosted.find? with
  | some url => section_.set "src" url
  | none => section_

/-- The content with the hosted addresses of its images, and all else as it is. -/
def hostImages (hosted : Hosted) (content : Json) (sections : List Members) : Json :=
  match content with
  | .obj ms =>
    if sections.isEmpty then .obj ms
    else .obj (Members.set ms "sections" (.arr (sections.map fun s => .obj (hostImage hosted s))))
  | v => v

variable {content : Json} {sections : List Members}

theorem sectionsOf_eq (h : Illustrates content sections) :
    sectionsOf content = .ok (sections.map .obj) := by
  cases h with
  | @without ms h =>
    change Json.iterate ((ms.value "sections").orElse (.arr [])) = _
    rw [Json.orElse, h]
    rfl
  | @given ms sections h =>
    change Json.iterate ((ms.value "sections").orElse (.arr [])) = _
    rw [h]
    cases sections <;> rfl

theorem Illustrates.source (h : Illustrates content sections) {s : Members} (hs : s ∈ sections)
    (himage : typeIs s "image" = true) :
    Members.value s "src" = .null ∨ ∃ path, Members.value s "src" = .str path := by
  cases h with
  | without => cases hs
  | given _ hsources => exact hsources s hs himage

theorem nodup_eraseDups : ∀ texts : List String, texts.eraseDups.Nodup
  | [] => .nil
  | text :: rest => by
    rw [List.eraseDups_cons, List.nodup_cons, List.mem_eraseDups]
    exact ⟨by simp, nodup_eraseDups _⟩
termination_by texts => texts.length
decreasing_by exact Nat.lt_succ_of_le (List.length_filter_le ..)

/-- Of whatever content, no path is gathered twice. -/
theorem nodup_localImages {paths : List String} (h : localImages content = .ok paths) :
    paths.Nodup := by
  obtain ⟨sources, -, h⟩ := bind_eq_ok_iff.mp h
  cases h
  exact nodup_eraseDups _

/-- What is gathered of a section: the source of its image, and whether it is local. -/
def gathered (section_ : Members) : Option (Json × Bool) :=
  if typeIs section_ "image" then
    some ((Members.value section_ "src").orElse (.str ""),
      (imageSource? section_).any isLocalPath)
  else none

theorem isLocalFile_source {s : Members} (himage : typeIs s "image" = true)
    (hsource : Members.value s "src" = .null ∨ ∃ path, Members.value s "src" = .str path) :
    isLocalFile ((Members.value s "src").orElse (.str "")) =
      .ok ((imageSource? s).any isLocalPath) := by
  rw [imageSource?, if_pos himage]
  rcases hsource with hnull | ⟨path, hpath⟩
  · rw [hnull]
    rfl
  · rw [hpath, Json.orElse]
    split
    next => rfl
    next hgiven =>
      obtain rfl : path = "" := by simpa using hgiven
      rfl

theorem imageSources_eq (h : Illustrates content sections) :
    imageSources content = .ok (sections.filterMap gathered) := by
  rw [imageSources, sectionsOf_eq h, ok_bind, List.mapM_map, mapM_eq_ok_map (g := gathered)]
  · simp
  · intro s hs
    rw [gathered]
    cases himage : typeIs s "image" with
    | false =>
      change (if (!typeIs s "image") = true then _ else _) = _
      rw [himage]
      rfl
    | true =>
      have hlocal := isLocalFile_source himage (h.source hs himage)
      change (if (!typeIs s "image") = true then _ else isLocalFile _ >>= _) = _
      rw [himage, hlocal]
      rfl

theorem localImages_eq (h : Illustrates content sections) :
    localImages content = .ok (localSources sections) := by
  rw [localImages, imageSources_eq h, ok_bind, localSources, pure_eq, List.filterMap_filterMap,
    List.filter_filterMap]
  congr 2
  apply List.filterMap_congr
  intro s hs
  rw [gathered, imageSource?]
  cases himage : typeIs s "image" with
  | false => rfl
  | true =>
    rcases h.source hs himage with hnull | ⟨path, hpath⟩
    · rw [hnull]
      rfl
    · have hsource : (if true = true then
          match Json.str path with
          | .str path => some path
          | _ => none
        else none) = some path := rfl
      rw [hpath, hsource, if_pos rfl, Option.any_some, Option.filter_some]
      cases hlocal : isLocalPath path with
      | false => cases (Json.str path).orElse (.str "") <;> rfl
      | true =>
        have hgiven : (Json.str path).given = true := by
          apply Json.given_str.mpr
          rintro rfl
          cases hlocal
        rw [Json.orElse, if_pos hgiven]
        rfl

theorem hostSection_eq {s : Members} (hosted : Hosted) (hsource : typeIs s "image" = true →
    Members.value s "src" = .null ∨ ∃ path, Members.value s "src" = .str path) :
    hostSection hosted (.obj s) = .ok (.obj (hostImage hosted s)) := by
  cases himage : typeIs s "image" with
  | false =>
    rw [hostImage, imageSource?, himage]
    change (if (!typeIs s "image") = true then _ else _) = _
    rw [himage]
    rfl
  | true =>
    change (if (!typeIs s "image") = true then _ else (Members.value s "src").asKey >>= _) = _
    rw [himage, if_neg (by decide)]
    rcases hsource himage with hnull | ⟨path, hpath⟩
    · rw [hostImage, imageSource?, himage, hnull]
      rfl
    · have hsource : imageSource? s = some path := by
        rw [imageSource?, himage, hpath]
        rfl
      have hkey : (Json.str path).asKey = .ok (.str path) := rfl
      rw [hostImage, hsource, hpath, hkey, ok_bind, Option.bind_some]
      dsimp only
      cases hosted.find? path <;> rfl

theorem hostContent_eq (h : Illustrates content sections) (hosted : Hosted) :
    hostContent hosted content = .ok (hostImages hosted content sections) := by
  cases h with
  | @without ms h =>
    change (if (!(ms.value "sections").given) = true then _ else _) = _
    rw [h]
    rfl
  | @given ms sections h hsources =>
    have hhosted : (sections.map Json.obj).mapM (hostSection hosted) =
        .ok (sections.map fun s => .obj (hostImage hosted s)) := by
      rw [List.mapM_map]
      exact mapM_eq_ok_map fun s hs => hostSection_eq hosted (hsources s hs)
    cases sections with
    | nil =>
      change (if (!(ms.value "sections").given) = true then _ else _) = _
      rw [h]
      rfl
    | cons first rest =>
      rw [hostContent]
      change (if (!(ms.value "sections").given) = true then _ else _) = _
      rw [h]
      change ((((first :: rest).map Json.obj).mapM (hostSection hosted)) >>= _) = _
      rw [hhosted]
      rfl

end Email

end MarketingFlow
