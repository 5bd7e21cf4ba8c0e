import Mathlib.Tactic.Common
import Montage.Proofs.Graph.Label
import Montage.Proofs.Steps

/-!
# Plans of graphs

The compiler walks over clips, images and captions and threads the label of the picture so far
through all three.  A plan keeps the two things apart: what is laid on the picture, as plain lists,
and how lists become nodes.

* `Overlay`, `Lettering` — one layer, its numbers already written.
* `Plan.nodes` — the nodes of a plan: clips and images are **one list of overlays**.
* **`nodes_eq_plan`** — compiling is planning and then writing the nodes down, failures included.
* `plan_eq_ok`, `wiring_of_plan` — which parts a plan consists of and how they are numbered.
-/

namespace Montage

/-! ## The layers of a plan -/

/-- A stream that is scaled and then laid on the picture so far. -/
structure Overlay where
  stream : Nat
  scaled : Mark
  output : Mark
  window : Window
  width : String
  height : String
  left : Int
  top : Int

/-- A caption with its size and corner worked out.  What can fail has not failed once there is one
(`lettering_eq_ok`), so its node needs no failures. -/
structure Lettering where
  text : TextOverlay
  fontSize : String
  left : Int
  top : Int

/-- What is drawn: the size of the canvas, what is laid upon the base from below upwards, and the
captions above all of it. -/
structure Plan where
  width : String
  height : String
  overlays : List Overlay
  letterings : List Lettering

/-! ## From plans to nodes -/

/-- The two nodes of an overlay: one brings it to its size, one lays it upon what is there. -/
def Overlay.nodes (current : Mark) (o : Overlay) : List Node :=
  [scaleNode o.stream o.width o.height o.scaled.label,
    overlayNode current.label o.scaled.label o.window o.left o.top o.output.label]

/-- The nodes of overlays, each on the picture of the one before. -/
def stackNodes (current : Mark) : List Overlay → List Node
  | [] => []
  | o :: rest => o.nodes current ++ stackNodes o.output rest

/-- The picture after all overlays. -/
def topMark (current : Mark) : List Overlay → Mark
  | [] => current
  | o :: rest => topMark o.output rest

/-- The node of a caption. -/
def Lettering.node (current : Mark) (l : Lettering) (output : Mark) : Node :=
  captionNode current.label l.text l.fontSize l.left l.top output.label

/-- The nodes of captions.  The last one makes the terminal label. -/
def letterNodes (current : Mark) (index : Nat) : List Lettering → List Node
  | [] => [copyNode current.label]
  | [l] => [l.node current .terminal]
  | l :: rest => l.node current (.text index) :: letterNodes (.text index) (index + 1) rest

/-- A text with another after it is bound to its own label. -/
lemma letterNodes_cons_cons (current : Mark) (index : Nat) (l m : Lettering)
    (rest : List Lettering) :
    letterNodes current index (l :: m :: rest)
      = l.node current (.text index) :: letterNodes (.text index) (index + 1) (m :: rest) := rfl

/-- The nodes of a plan, the labels being chosen by place. -/
def Plan.nodes (p : Plan) : List Node :=
  baseNode p.width p.height :: stackNodes .base p.overlays
    ++ letterNodes (topMark .base p.overlays) 0 p.letterings

/-! ## From timelines to plans -/

/-- An overlay of a given size with a given centre. -/
def overlayOf (stream : Nat) (scaled output : Mark) (window : Window) (x y width height : Int) :
    Except Failure Overlay := do
  let w ← liftFault (numeral width)
  let h ← liftFault (numeral height)
  let (left, top) ← liftFault (topLeft x y width height)
  return ⟨stream, scaled, output, window, w, h, left, top⟩

/-- The overlay of the clip with a given number. -/
def Clip.overlay (c : Clip) (index : Nat) : Except Failure Overlay :=
  match c.width, c.height with
  | some width, some height =>
    overlayOf index (.scaledClip index) (.clip index) c.window c.x c.y width height
  | _, _ => .error (graphFailure (.overlayWithoutSize index))

/-- The overlay of the image with a given number; its stream comes after `offset` clips. -/
def ImageOverlay.overlay (offset : Nat) (i : ImageOverlay) (index : Nat) : Except Failure Overlay :=
  overlayOf (offset + index) (.scaledImage index) (.image index) i.window i.x i.y i.width i.height

/-- How a caption is drawn, or why it cannot be. -/
def TextOverlay.lettering (t : TextOverlay) : Except Failure Lettering := do
  let (left, top) ← liftFault (topLeft t.x t.y t.width t.height)
  let fontSize ← liftFault (numeral t.fontSize)
  return ⟨t, fontSize, left, top⟩

/-- The plan of a timeline. -/
def Timeline.plan (t : Timeline) : Except Failure Plan :=
  match t.clips with
  | [] => .error (graphFailure .noClips)
  | _ :: overlays => do
    let width ← liftFault (numeral t.canvasWidth)
    let height ← liftFault (numeral t.canvasHeight)
    let clips ← (overlays.zipIdx 1).mapM fun c => c.1.overlay c.2
    let images ← t.images.zipIdx.mapM fun i => i.1.overlay t.clips.length i.2
    let letterings ← t.texts.mapM TextOverlay.lettering
    return ⟨width, height, clips ++ images, letterings⟩

/-- A timeline with a layer of every kind, for runs on a concrete input. -/
def Timeline.sample : Timeline where
  canvasWidth := 640
  canvasHeight := 360
  clips :=
    [⟨"a", ⟨0, .infinite false⟩, "a.mp4", none, none, 0, 0⟩,
     ⟨"b", ⟨0, .infinite false⟩, "b.mp4", some 160, some 90, 80, 45⟩]
  images := [⟨"c", ⟨0, .infinite false⟩, "c.png", 60, 30, 320, 180⟩]
  texts :=
    [⟨"d", ⟨0, 5⟩, "It's", 24, .white, 320, 300, 200, 40⟩,
     ⟨"e", ⟨0, .nan⟩, "100%", 24, .white, 320, 340, 200, 40⟩]

/-! ## Compiling is planning -/

/-- A value is the value of a computation whose faults are told as failures. -/
lemma liftFault_eq_ok {α : Type} {x : Except Fault α} {a : α} :
    liftFault x = .ok a ↔ x = .ok a := mapError_eq_ok

/-- What an overlay of a given size is, if it is one. -/
lemma overlayOf_eq_ok {stream : Nat} {scaled output : Mark} {window : Window}
    {x y width height : Int} {o : Overlay}
    (h : overlayOf stream scaled output window x y width height = .ok o) :
    ∃ w tall left top, numeral width = .ok w ∧ numeral height = .ok tall
      ∧ topLeft x y width height = .ok (left, top)
      ∧ o = ⟨stream, scaled, output, window, w, tall, left, top⟩ := by
  simp only [overlayOf, bind_eq_ok, liftFault_eq_ok, pure_eq_ok] at h
  obtain ⟨w, hw, tall, hh, ⟨left, top⟩, hc, rfl⟩ := h
  exact ⟨w, tall, left, top, hw, hh, hc, rfl⟩

/-- The nodes of a layer are those of the overlay it is placed as. -/
lemma layerNodes_eq (stream : Nat) (current scaled output : Mark) (window : Window)
    (x y width height : Int) :
    layerNodes stream current.label scaled.label output.label window x y width height
      = Overlay.nodes current <$> overlayOf stream scaled output window x y width height := by
  simp only [layerNodes, overlayOf]
  cases liftFault (numeral width) with
  | error e => rfl
  | ok w =>
      cases liftFault (numeral height) with
      | error e => rfl
      | ok h => cases liftFault (topLeft x y width height) <;> rfl

/-- The nodes of overlays with the label of the picture after them. -/
def stacked (current : Mark) (os : List Overlay) : List Node × String :=
  (stackNodes current os, (topMark current os).label)

/-- One overlay and those on top of it, first as nodes, then as a plan. -/
lemma stacked_step (stream : Nat) (scaled output : Mark) (window : Window)
    (x y width height : Int) (current : Mark) (rest : Except Failure (List Overlay)) :
    (do
      let here ← layerNodes stream current.label scaled.label output.label window x y width height
      let (more, last) ← stacked output <$> rest
      return (here ++ more, last))
      = stacked current <$> (do
          let o ← overlayOf stream scaled output window x y width height
          let os ← rest
          return o :: os) := by
  rw [layerNodes_eq]
  cases h : overlayOf stream scaled output window x y width height with
  | error e => rfl
  | ok o =>
      obtain ⟨w, tall, left, top, -, -, -, rfl⟩ := overlayOf_eq_ok h
      cases rest <;> rfl

/-- The nodes of the clips are those of their overlays, stacked in order. -/
lemma clipNodes_eq (clips : List Clip) (current : Mark) (index : Nat) :
    clipNodes current.label index clips
      = stacked current <$> (clips.zipIdx index).mapM fun c => c.1.overlay c.2 := by
  induction clips generalizing current index with
  | nil => rfl
  | cons c rest ih =>
      rw [List.zipIdx_cons, List.mapM_cons]
      have next : clipNodes (Label.clip index) (index + 1) rest = _ := ih (.clip index) (index + 1)
      simp only [clipNodes, Clip.overlay]
      cases c.width with
      | none => rfl
      | some width =>
          cases c.height with
          | none => rfl
          | some height =>
              simp only [next]
              exact stacked_step index (.scaledClip index) (.clip index) c.window c.x c.y width
                height current _

/-- So are the nodes of the images. -/
lemma imageNodes_eq (images : List ImageOverlay) (offset : Nat) (current : Mark) (index : Nat) :
    imageNodes offset current.label index images
      = stacked current <$> (images.zipIdx index).mapM fun i => i.1.overlay offset i.2 := by
  induction images generalizing current index with
  | nil => rfl
  | cons i rest ih =>
      rw [List.zipIdx_cons, List.mapM_cons]
      have next : imageNodes offset (Label.image index) (index + 1) rest = _ :=
        ih (.image index) (index + 1)
      simp only [imageNodes, next]
      exact stacked_step (offset + index) (.scaledImage index) (.image index) i.window i.x i.y
        i.width i.height current _

/-- The node of a text is that of its lettering. -/
lemma captionLayer_eq (current : Mark) (t : TextOverlay) (output : Mark) :
    captionLayer current.label t output.label
      = (fun l => l.node current output) <$> t.lettering := by
  simp only [captionLayer, TextOverlay.lettering]
  cases liftFault (topLeft t.x t.y t.width t.height) with
  | error e => rfl
  | ok corner =>
      cases liftFault (numeral t.fontSize) with
      | error e => rfl
      | ok size => rfl

/-- The last text is bound to the label of the whole … -/
lemma captionNodes_singleton (current : Mark) (index : Nat) (t : TextOverlay) :
    captionNodes current.label index [t] = (do
      let last ← captionLayer current.label t (Mark.label .terminal)
      return [last]) := rfl

/-- … and every other to its own. -/
lemma captionNodes_cons_cons (current : Mark) (index : Nat) (t u : TextOverlay)
    (rest : List TextOverlay) :
    captionNodes current.label index (t :: u :: rest) = (do
      let here ← captionLayer current.label t (Mark.label (.text index))
      let more ← captionNodes (Mark.label (.text index)) (index + 1) (u :: rest)
      return here :: more) := rfl

/-- The nodes of the texts are those of their letterings in order. -/
lemma captionNodes_eq (texts : List TextOverlay) (current : Mark) (index : Nat) :
    captionNodes current.label index texts
      = letterNodes current index <$> texts.mapM TextOverlay.lettering := by
  induction texts generalizing current index with
  | nil => rfl
  | cons t rest ih =>
      cases rest with
      | nil =>
          rw [captionNodes_singleton, captionLayer_eq, List.mapM_cons, List.mapM_nil]
          generalize t.lettering = first
          cases first <;> rfl
      | cons u rest =>
          simp only [captionNodes_cons_cons, captionLayer_eq, ih, List.mapM_cons]
          generalize t.lettering = first
          generalize u.lettering = second
          generalize rest.mapM TextOverlay.lettering = others
          cases first with
          | error e => rfl
          | ok l =>
              cases second with
              | error e => rfl
              | ok m =>
                  cases others with
                  | error e => rfl
                  | ok ls => exact rfl

/-- Two lists of overlays are stacked one on top of the other. -/
lemma stackNodes_append (current : Mark) (os ps : List Overlay) :
    stackNodes current (os ++ ps)
      = stackNodes current os ++ stackNodes (topMark current os) ps := by
  induction os generalizing current with
  | nil => rfl
  | cons o rest ih =>
      rw [List.cons_append, stackNodes, stackNodes, topMark, ih, List.append_assoc]

/-- What is on top of both is on top of the second. -/
lemma topMark_append (current : Mark) (os ps : List Overlay) :
    topMark current (os ++ ps) = topMark (topMark current os) ps := by
  induction os generalizing current with
  | nil => rfl
  | cons o rest ih => exact ih o.output

/-- **Compiling is planning and then writing the nodes down**, failures included. -/
theorem nodes_eq_plan (t : Timeline) : t.nodes = Plan.nodes <$> t.plan := by
  simp only [Timeline.nodes, Timeline.plan]
  cases t.clips with
  | nil => rfl
  | cons base overlays =>
      have clips := clipNodes_eq overlays .base 1
      have images := fun current => imageNodes_eq t.images (base :: overlays).length current 0
      have captions := fun current => captionNodes_eq t.texts current 0
      simp only [Mark.label] at clips
      simp only [clips]
      generalize liftFault (numeral t.canvasWidth) = width
      generalize liftFault (numeral t.canvasHeight) = height
      generalize (overlays.zipIdx 1).mapM (fun c => c.1.overlay c.2) = os
      generalize t.images.zipIdx.mapM (fun i => i.1.overlay (base :: overlays).length i.2) = ps
        at images
      generalize t.texts.mapM TextOverlay.lettering = ls at captions
      cases width with
      | error e => rfl
      | ok w =>
          cases height with
          | error e => rfl
          | ok h =>
              cases os with
              | error e => rfl
              | ok os =>
                  simp only [Functor.map, Except.map, bind, Except.bind, pure, Except.pure, stacked]
                  rw [images (topMark .base os)]
                  cases ps with
                  | error e => rfl
                  | ok ps =>
                      simp only [Functor.map, Except.map, stacked]
                      rw [captions (topMark (topMark .base os) ps)]
                      cases ls with
                      | error e => rfl
                      | ok ls =>
                          simp only [Functor.map, Except.map, Plan.nodes, stackNodes_append,
                            topMark_append, List.cons_append, List.append_assoc]

/-- The plan behind a graph. -/
lemma exists_plan_of_compile {t : Timeline} {g : Graph} (h : t.compile = .ok g) :
    ∃ p, t.plan = .ok p ∧ g = { nodes := p.nodes } := by
  simp only [Timeline.compile, nodes_eq_plan, bind_eq_ok, map_eq_ok, pure_eq_ok] at h
  obtain ⟨_, ⟨p, hp, rfl⟩, _, _, rfl⟩ := h
  exact ⟨p, hp, rfl⟩

/-! ## What a plan consists of -/

/-- What a lettering is made of. -/
lemma lettering_eq_ok {t : TextOverlay} {l : Lettering} (h : t.lettering = .ok l) :
    ∃ fontSize left top, numeral t.fontSize = .ok fontSize
      ∧ topLeft t.x t.y t.width t.height = .ok (left, top) ∧ l = ⟨t, fontSize, left, top⟩ := by
  simp only [TextOverlay.lettering, bind_eq_ok, liftFault_eq_ok, pure_eq_ok] at h
  obtain ⟨⟨left, top⟩, hc, fontSize, hs, rfl⟩ := h
  exact ⟨fontSize, left, top, hs, hc, rfl⟩

/-- What the overlay of a clip is made of: a width, a height and a place. -/
lemma clip_overlay_eq_ok {c : Clip} {index : Nat} {o : Overlay} (h : c.overlay index = .ok o) :
    ∃ width height, c.width = some width ∧ c.height = some height
      ∧ overlayOf index (.scaledClip index) (.clip index) c.window c.x c.y width height
        = .ok o := by
  unfold Clip.overlay at h
  split at h
  · rename_i width height hw hh
    exact ⟨width, height, hw, hh, h⟩
  · cases h

/-- What the parts of a plan are. -/
lemma plan_eq_ok {t : Timeline} {p : Plan} (h : t.plan = .ok p) :
    ∃ base overlays clips images, t.clips = base :: overlays
      ∧ numeral t.canvasWidth = .ok p.width ∧ numeral t.canvasHeight = .ok p.height
      ∧ List.Forall₂ (fun c o => c.1.overlay c.2 = .ok o) (overlays.zipIdx 1) clips
      ∧ List.Forall₂ (fun i o => i.1.overlay t.clips.length i.2 = .ok o) t.images.zipIdx images
      ∧ List.Forall₂ (fun c l => c.lettering = .ok l) t.texts p.letterings
      ∧ p.overlays = clips ++ images := by
  unfold Timeline.plan at h
  split at h
  · cases h
  · rename_i base overlays hcs
    simp only [bind_eq_ok, liftFault_eq_ok, mapM_eq_ok, pure_eq_ok] at h
    obtain ⟨w, hw, tall, hh, clips, hclips, images, himages, letterings, hls, rfl⟩ := h
    exact ⟨base, overlays, clips, images, hcs, hw, hh, hclips, himages, hls, rfl⟩

/-! ## How a plan is numbered -/

/-- The stream that an overlay takes and the two pictures it makes. -/
def Overlay.wiring (o : Overlay) : Nat × Mark × Mark := (o.stream, o.scaled, o.output)

/-- The stream and the labels of an overlay clip. -/
def clipWiring (index : Nat) : Nat × Mark × Mark := (index, .scaledClip index, .clip index)

/-- The stream and the labels of an image; its stream comes after those of all clips. -/
def imageWiring (offset index : Nat) : Nat × Mark × Mark :=
  (offset + index, .scaledImage index, .image index)

/-- An overlay keeps the stream and the labels it was given. -/
lemma wiring_overlayOf {stream : Nat} {scaled output : Mark} {window : Window}
    {x y width height : Int} {o : Overlay}
    (h : overlayOf stream scaled output window x y width height = .ok o) :
    o.wiring = (stream, scaled, output) := by
  obtain ⟨_, _, _, _, -, -, -, rfl⟩ := overlayOf_eq_ok h
  rfl

/-- The overlay clips are numbered from one on, the images from zero on; their streams come after
all clips. -/
lemma wiring_of_plan {t : Timeline} {p : Plan} (h : t.plan = .ok p) :
    p.overlays.map Overlay.wiring
      = (List.range' 1 (t.clips.length - 1)).map clipWiring
        ++ (List.range t.images.length).map (imageWiring t.clips.length) := by
  obtain ⟨base, overlays, clips, images, hcs, -, -, hclips, himages, -, hos⟩ := plan_eq_ok h
  have hc : (overlays.zipIdx 1).map (clipWiring ∘ Prod.snd) = clips.map Overlay.wiring :=
    map_eq_map hclips fun c o ho => by
      obtain ⟨_, _, -, -, ho⟩ := clip_overlay_eq_ok ho
      exact (wiring_overlayOf ho).symm
  have hi : t.images.zipIdx.map (imageWiring t.clips.length ∘ Prod.snd)
      = images.map Overlay.wiring :=
    map_eq_map himages fun i o ho => (wiring_overlayOf ho).symm
  rw [← List.map_map, List.zipIdx_map_snd] at hc hi
  rw [hos, List.map_append, ← hc, ← hi, hcs, List.range_eq_range']
  rfl

end Montage
