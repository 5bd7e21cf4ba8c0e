import Montage.Binary64.Arithmetic

/-!
# Timelines

A timeline is what an editor hands over for one export: video clips, image overlays and text
overlays on a canvas, each shown during a window of time.

* `Window` — from a start on, up to an end.
* `Clip`, `ImageOverlay`, `TextOverlay` — the three kinds of entity; centres and sizes in pixels.
* `Timeline` — the canvas and the entities.  **The first clip is the base**; the others lie on it.
-/

namespace Montage

/-- Seconds from the start of the video: visible from `start` on, no longer at `finish`. -/
structure Window where
  start : Binary64
  finish : Binary64
  deriving DecidableEq

/-- How long a window lasts. -/
def Window.duration (w : Window) : Binary64 := w.finish - w.start

/-- A video clip.  Only an overlay needs a size. -/
structure Clip where
  id : String
  window : Window
  source : String
  width : Option Int
  height : Option Int
  x : Int
  y : Int
  deriving DecidableEq

/-- An image that is shown over the base. -/
structure ImageOverlay where
  id : String
  window : Window
  source : String
  width : Int
  height : Int
  x : Int
  y : Int
  deriving DecidableEq

/-- A colour: six hexadecimal digits, letters in upper case. -/
structure Color where
  digits : String
  deriving DecidableEq

namespace Color

/-- A colour as it is stored. -/
def text (c : Color) : String := "#" ++ c.digits

/-- A colour as a filter argument. -/
def literal (c : Color) : String := "0x" ++ c.digits

/-- The colour of captions that have none of their own. -/
def white : Color := ⟨"FFFFFF"⟩

/-- The colour of six hexadecimal digits, with a leading `#` or without. -/
def ofText? (s : String) : Option Color :=
  let digits := match s.toList with
    | '#' :: rest => rest
    | cs => cs
  let isHex (c : Char) : Bool :=
    ('0' ≤ c && c ≤ '9') || ('a' ≤ c && c ≤ 'f') || ('A' ≤ c && c ≤ 'F')
  if digits.length = 6 && digits.all isHex then some ⟨String.ofList (digits.map Char.toUpper)⟩
  else none

end Color

/-- A caption. -/
structure TextOverlay where
  id : String
  window : Window
  description : String
  fontSize : Int
  color : Color
  x : Int
  y : Int
  width : Int
  height : Int
  deriving DecidableEq

/-- A timeline.  Which of these can be exported is said by `Timeline.validate`. -/
structure Timeline where
  canvasWidth : Int
  canvasHeight : Int
  clips : List Clip
  images : List ImageOverlay
  texts : List TextOverlay
  deriving DecidableEq

namespace Timeline

/-- The clip that everything else is laid upon, if there is one. -/
def baseClip? (t : Timeline) : Option Clip := t.clips.head?

/-- All clips but the base. -/
def overlayClips (t : Timeline) : List Clip := t.clips.drop 1

/-- The number of files an export reads: the videos first, then the images. -/
def inputCount (t : Timeline) : Nat := t.clips.length + t.images.length

/-- Where the files are, in that order. -/
def sources (t : Timeline) : List String :=
  t.clips.map Clip.source ++ t.images.map ImageOverlay.source

/-- When the entities are seen: those of the clips, the images and the captions. -/
def windows (t : Timeline) : List Window :=
  t.clips.map Clip.window ++ t.images.map ImageOverlay.window ++ t.texts.map TextOverlay.window

/-- The first of the latest ends of all entities; an estimate of the duration. -/
def latestFinish (t : Timeline) : Binary64 :=
  match t.windows with
  | [] => 0
  | w :: rest => rest.foldl (fun x w => Binary64.maxFirst x w.finish) w.finish

/-- Whether all times are numbers. -/
def hasNumericTimes (t : Timeline) : Bool :=
  t.windows.all fun w => !w.start.isNan && !w.finish.isNan

/-- Equality as numbers have it: a time that is no number equals nothing, itself included. -/
def agrees (t u : Timeline) : Bool := t = u && t.hasNumericTimes

end Timeline

end Montage
