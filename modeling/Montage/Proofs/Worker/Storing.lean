import Mathlib.Tactic.Common
import Montage.Proofs.Disk.Slots
import Montage.Proofs.Studio.Files
import Montage.Worker.Rendering

/-!
# The files of a form are stored as they are

An upload comes in pieces, and every piece is appended to a file before the next one is read.  All
uploads together may have so many bytes; each of them leaves less for the others.

* `Upload.content` — what the pieces of an upload make up.
* `Worker.reaches_storePieces` — one upload, **appended piece by piece**.
* **`Worker.reaches_storeAll`** — every upload is found in its slot afterwards, unless they are too
  large together.
-/

namespace Montage

open Scene

/-! ## Uploads -/

/-- What some pieces make up. -/
def joined : List ByteArray → ByteArray
  | [] => ByteArray.empty
  | piece :: rest => piece ++ joined rest

/-- What an upload brings, its pieces put together. -/
def Upload.content (u : Upload) : ByteArray := joined u.pieces

lemma size_joined (pieces : List ByteArray) : (joined pieces).size = totalSize pieces := by
  induction pieces with
  | nil => rfl
  | cons piece rest ih => rw [joined, ByteArray.size_append, ih, totalSize]

lemma totalSize_append (as bs : List ByteArray) :
    totalSize (as ++ bs) = totalSize as + totalSize bs := by
  induction as with
  | nil => rw [List.nil_append, totalSize, Nat.zero_add]
  | cons a as ih => rw [List.cons_append, totalSize, totalSize, ih, Nat.add_assoc]

namespace Worker

variable {h : Host} {s : EngineState} {i : StudioGate → Nat} {capacity : StudioGate → Nat}
variable {path : Path} {place : Place} {d : Disk}

/-! ## One upload -/

/-- The pieces come after what the file holds already. -/
lemma reaches_storePieces (encodable : Studio.pathFault? path = none)
    (room : d.HasRoom h.here path place) {limit : Int} {written : Nat} {pieces : List ByteArray}
    (fits : (written + totalSize pieces : Nat) ≤ limit) (content : ByteArray) :
    Reaches Host.machine capacity
      ⟨h.onDisk (d.put place (.file content)), s, i, storePieces path limit written pieces⟩
      ⟨h.onDisk (d.put place (.file (content ++ joined pieces))), s, i,
        .done (.returned (some (written + totalSize pieces)))⟩ := by
  induction pieces generalizing written content with
  | nil =>
      rw [joined, ByteArray.append_empty]
      exact Studio.reaches_nextPiece.bind .refl
  | cons piece rest ih =>
      rw [totalSize, ← Nat.add_assoc] at fits ⊢
      have short : ¬ limit < ((written + piece.size : Nat) : Int) := by omega
      have appended : Reaches Host.machine capacity
          ⟨h.onDisk (d.put place (.file content)), s, i, Studio.appendFile path piece⟩ _ :=
        Studio.reaches_appendFile encodable (room.holds_put content) piece
      rw [Host.onDisk_onDisk, Host.onDisk_disk, Disk.put_put] at appended
      have later := ih fits (content ++ piece)
      rw [ByteArray.append_assoc] at later
      have routine : storePieces path limit written (piece :: rest)
          = Studio.nextPiece.bind fun _ => (Studio.appendFile path piece).bind fun _ =>
              storePieces path limit (written + piece.size) rest := by
        rw [storePieces]
        simp only [if_neg short]
        rfl
      rw [routine]
      exact Studio.reaches_nextPiece.bind (appended.bind later)

/-! ## All uploads -/

/-- **Every upload is stored in its slot**, as long as all of them are within the limit. -/
lemma reaches_storeAll {slots : List Slot} {uploads : List Upload} {limit : Int}
    (encodable : ∀ slot ∈ slots, Studio.pathFault? slot.path = none)
    (carried : uploads.map Upload.content = slots.map Slot.content)
    (room : h.disk.Open h.here slots)
    (fits : (totalSize (slots.map Slot.content) : Int) ≤ limit) :
    Reaches Host.machine capacity
      ⟨h, s, i, storeAll limit ((slots.map Slot.path).zip uploads)⟩
      ⟨h.onDisk (h.disk.fill slots), s, i, .done (.returned true)⟩ := by
  induction slots generalizing h uploads limit with
  | nil => exact .refl
  | cons slot slots ih =>
      obtain ⟨upload, uploads, rfl⟩ : ∃ u us, uploads = u :: us := by
        cases uploads with
        | nil => cases carried
        | cons u us => exact ⟨u, us, rfl⟩
      obtain ⟨first, others⟩ := List.cons.inj carried
      have size : totalSize upload.pieces = slot.content.size := by
        rw [← first, Upload.content, size_joined]
      rw [List.map_cons, totalSize] at fits
      have created : Reaches Host.machine capacity ⟨h, s, i, Studio.createFile slot.path⟩ _ :=
        Studio.reaches_createFile (encodable slot List.mem_cons_self) room.head
      have fitting : ((0 + totalSize upload.pieces : Nat) : Int) ≤ limit := by omega
      have stored : Reaches Host.machine capacity
          ⟨h.onDisk (h.disk.put slot.place (.file ByteArray.empty)), s, i,
            storePieces slot.path limit 0 upload.pieces⟩ _ :=
        reaches_storePieces (encodable slot List.mem_cons_self) room.head fitting ByteArray.empty
      have content : ByteArray.empty ++ joined upload.pieces = slot.content := by
        rw [ByteArray.empty_append, ← first, Upload.content]
      rw [content] at stored
      have left : (totalSize (slots.map Slot.content) : Int)
          ≤ limit - (0 + totalSize upload.pieces : Nat) := by omega
      have later := ih (h := h.onDisk (h.disk.put slot.place (.file slot.content)))
        (fun r hr => encodable r (List.mem_cons_of_mem _ hr)) others room.tail left
      exact created.bind (stored.bind later)

end Worker

end Montage
