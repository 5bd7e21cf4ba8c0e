import Mathlib.Tactic.Common
import Montage.Proofs.Field.Checked
import Montage.Proofs.Graph.Plan
import Montage.Proofs.Json.RoundTrip
import Montage.Proofs.Text.Decimal
import Montage.Proofs.Worker.Storing
import Montage.Studio.RemoteBackend

/-!
# The form of a submission

A timeline is submitted as a form and the worker decodes it.  How the files are cut into pieces on
the way is up to the transport.

* `RawForm.Carries` — **nothing of a submission is lost**.
* `Submission.form`, `Submission.carries_form` — such a form, its files in pieces of the usual size.
* `RawForm.Carries.decode` — what the worker finds in it.
-/

namespace Montage

open Checked

/-! ## Submissions -/

namespace Submission

/-- The contents of the files of a field. -/
def contents (s : Submission) (field : String) : List ByteArray :=
  (s.files.filter fun f => f.field = field).map UploadedFile.content

/-- Files that are made for a field, one for each entity, are found under that field alone. -/
lemma contents_zipWith {α : Type} (file : α → ByteArray → UploadedFile) (own : String)
    (name : ∀ a content, (file a content).field = own)
    (kept : ∀ a content, (file a content).content = content) {as : List α}
    {contents : List ByteArray} (length : contents.length = as.length) (field : String) :
    ((as.zipWith file contents).filter fun f => f.field = field).map UploadedFile.content
      = if own = field then contents else [] := by
  induction as generalizing contents with
  | nil =>
      obtain rfl := List.eq_nil_of_length_eq_zero length
      simp
  | cons a as ih =>
      obtain ⟨content, contents, rfl⟩ := List.exists_cons_of_length_eq_add_one length
      have rest := ih (Nat.succ.inj length)
      by_cases same : own = field
      · rw [if_pos same] at rest ⊢
        simp [name, kept, same, rest]
      · rw [if_neg same] at rest ⊢
        simp [name, same, rest]

variable {t : Timeline} {payloads : Payloads} {s : Submission}

/-- What a submission says of its timeline. -/
lemma exists_text_of_ofTimeline (made : ofTimeline t payloads = .ok s) :
    t.toMetadata.write = .ok s.metadata ∧ IsShort t.canvasWidth ∧ IsShort t.canvasHeight
      ∧ s = { metadata := s.metadata
              canvasWidth := toString t.canvasWidth
              canvasHeight := toString t.canvasHeight
              files := List.zipWith videoFile t.clips payloads.clips
                ++ List.zipWith imageFile t.images payloads.images } := by
  simp only [ofTimeline, bind_eq_ok, pure_eq_ok] at made
  obtain ⟨metadata, written, width, wide, height, high, rfl⟩ := made
  obtain ⟨shortWidth, rfl⟩ := numeral_eq_ok wide
  obtain ⟨shortHeight, rfl⟩ := numeral_eq_ok high
  exact ⟨written, shortWidth, shortHeight, rfl⟩

/-- **The files of each field are the payloads**, in their order. -/
lemma contents_ofTimeline (made : ofTimeline t payloads = .ok s)
    (clips : payloads.clips.length = t.clips.length)
    (images : payloads.images.length = t.images.length) :
    s.contents videosField = payloads.clips ∧ s.contents imagesField = payloads.images := by
  obtain ⟨-, -, -, same⟩ := exists_text_of_ofTimeline made
  have videos := contents_zipWith videoFile videosField (fun _ _ => rfl) (fun _ _ => rfl) clips
  have pictures := contents_zipWith imageFile imagesField (fun _ _ => rfl) (fun _ _ => rfl) images
  have apart : videosField ≠ imagesField := by decide
  rw [same]
  constructor
  · rw [contents, List.filter_append, List.map_append, videos, pictures, if_pos rfl,
      if_neg apart.symm, List.append_nil]
  · rw [contents, List.filter_append, List.map_append, videos, pictures, if_pos rfl,
      if_neg apart, List.nil_append]

end Submission

/-! ## Forms -/

/-- A form with everything that was submitted, its files in the order in which they were sent. -/
structure RawForm.Carries (f : RawForm) (s : Submission) : Prop where
  metadata : f.metadata = some s.metadata
  canvasWidth : f.canvasWidth = some s.canvasWidth
  canvasHeight : f.canvasHeight = some s.canvasHeight
  videos : (f.videos.getD []).map Upload.content = s.contents Submission.videosField
  images : (f.images.getD []).map Upload.content = s.contents Submission.imagesField

/-- The pieces of a content from some position on. -/
lemma joined_piecesFrom (content : ByteArray) (start count : Nat) :
    joined (Upload.piecesFrom content start count)
      = content.extract start (start + count * Upload.pieceLimit) := by
  induction count generalizing start with
  | zero => simp [Upload.piecesFrom, joined]
  | succ count ih =>
      rw [Upload.piecesFrom, Nat.succ_mul]
      split
      · rw [joined, ih, ByteArray.extract_append_extract]
        congr 1 <;> omega
      · rename_i outside
        rw [joined, ByteArray.extract_eq_empty_iff.mpr]
        omega

/-- **A file is the same in pieces.** -/
lemma Upload.content_ofContent (content : ByteArray) :
    (Upload.ofContent content).content = content := by
  have enough : content.size ≤ 0 + (content.size / pieceLimit + 1) * pieceLimit := by
    have := Nat.lt_div_mul_add (a := content.size) (b := pieceLimit) (by decide)
    rw [Nat.succ_mul]
    omega
  have beyond : min (0 + (content.size / pieceLimit + 1) * pieceLimit) content.size
      ≤ content.size := Nat.min_le_right _ _
  rw [Upload.content, Upload.ofContent, joined_piecesFrom,
    ByteArray.extract_eq_extract_append_extract content.size (Nat.zero_le _) enough,
    ByteArray.extract_zero_size, ByteArray.extract_eq_empty_iff.mpr beyond, ByteArray.append_empty]

namespace Submission

/-- The form of a submission. -/
def form (s : Submission) : RawForm where
  videos := some ((s.contents videosField).map .ofContent)
  images := some ((s.contents imagesField).map .ofContent)
  metadata := some s.metadata
  canvasWidth := some s.canvasWidth
  canvasHeight := some s.canvasHeight

lemma carries_form (s : Submission) : s.form.Carries s where
  metadata := rfl
  canvasWidth := rfl
  canvasHeight := rfl
  videos := by simp [form, Function.comp_def, Upload.content_ofContent]
  images := by simp [form, Function.comp_def, Upload.content_ofContent]

end Submission

namespace RawForm

/-! ## Decoding -/

lemma required_of_read {α : Type} {name text : String} {read : String → Checked α} {a : α}
    (nonempty : text ≠ "") (h : read text = ok a) : required name read (some text) = ok a := by
  unfold required
  split
  · contradiction
  · rename_i empty
    exact absurd (Option.some.inj empty) nonempty
  · rename_i shown
    cases shown
    simpa using h

lemma required_whole {name : String} {i : Int} (h : i.natAbs < tenTo Text.Numeral.digitLimit) :
    required name Read.wholeOfText (some (toString i)) = ok i := by
  have read := Read.wholeOfText_toString h
  refine required_of_read (fun empty => ?_) read
  rw [empty] at read
  cases read

lemma requiredFiles_of_ne_nil {name : String} {files : Option (List Upload)}
    (nonempty : files.getD [] ≠ []) : requiredFiles name files = ok (files.getD []) := by
  unfold requiredFiles
  split <;> first | contradiction | rfl

/-- **The worker finds in the form what was submitted.** -/
lemma Carries.decode {f : RawForm} {t : Timeline} {payloads : Payloads} {s : Submission}
    (h : f.Carries s) (made : Submission.ofTimeline t payloads = .ok s)
    (valid : t.validate = .ok ()) (clips : payloads.clips.length = t.clips.length)
    (images : payloads.images.length = t.images.length) :
    f.decode = ok ⟨f.videos.getD [], s.metadata, t.canvasWidth, t.canvasHeight,
      f.images.getD []⟩ := by
  obtain ⟨written, shortWidth, shortHeight, same⟩ := Submission.exists_text_of_ofTimeline made
  have videos : f.videos.getD [] ≠ [] := by
    intro none
    have carried := h.videos
    rw [none, (Submission.contents_ofTimeline made clips images).1] at carried
    rw [← carried] at clips
    rw [Timeline.validate, List.eq_nil_of_length_eq_zero clips.symm] at valid
    cases valid
  have metadata : s.metadata ≠ "" := by
    rw [Json.write, Json.writeWith_eq, ifShort_eq_ok_iff] at written
    rw [← written.2, Timeline.toMetadata, Json.valueWritten]
    simp
  have found : required "metadata" ok (some s.metadata) = ok s.metadata :=
    required_of_read metadata rfl
  rw [RawForm.decode, requiredFiles_of_ne_nil videos, h.metadata, h.canvasWidth, h.canvasHeight,
    found, same, required_whole shortWidth, required_whole shortHeight]
  rfl

/-- The files of the form are the payloads, clips first. -/
lemma Carries.content_uploads {f : RawForm} {t : Timeline} {payloads : Payloads} {s : Submission}
    (h : f.Carries s) (made : Submission.ofTimeline t payloads = .ok s)
    (clips : payloads.clips.length = t.clips.length)
    (images : payloads.images.length = t.images.length) :
    (f.videos.getD [] ++ f.images.getD []).map Upload.content = payloads.files := by
  obtain ⟨videos, pictures⟩ := Submission.contents_ofTimeline made clips images
  rw [List.map_append, h.videos, h.images, videos, pictures, Payloads.files]

end RawForm

end Montage
