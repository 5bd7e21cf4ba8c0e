import Montage.Graph.Basic
import Montage.Timeline.Basic

/-!
# The ffmpeg command of a rendering

* `inputNames` — the names of the input files in the order of their streams: **first the clips,
  then the images**.
* `commandArguments` — the arguments that render a graph to an MP4 file.
-/

namespace Montage

/-! ## File names -/

/-- The name of the rendered file. -/
def outputName : String := "output.mp4"

/-- The name of the file of a clip, by its place among all clips. -/
def clipName (index : Int) : String := s!"input{index}.mp4"

/-- The name of the file of an image, by its place among all images. -/
def imageName (index : Int) : String := s!"image{index}.png"

/-- The names for so many clips and so many images, in the order of their streams. -/
def fileNames (clips images : Nat) : List String :=
  (List.range clips).map (fun i : Nat => clipName i)
    ++ (List.range images).map (fun i : Nat => imageName i)

/-- The names of the files of a timeline: first those of all clips, the base among them, then those
of the images. -/
def Timeline.inputNames (t : Timeline) : List String := fileNames t.clips.length t.images.length

/-! ## Arguments -/

/-- How the result is encoded, and whether the program tells how far it is. -/
structure Encoding where
  preset : String := "fast"
  crf : Int := 23
  audioBitrate : String := "128k"
  /-- Whether the progress is written to the standard output. -/
  reportProgress : Bool := false
  deriving DecidableEq

/-- Makes the program tell how far it is, line by line on its output. -/
def progressArguments : List String := ["-progress", "pipe:1", "-nostats"]

/-- One `-i` for every input, in order; the graph refers to inputs by their numbers in this order
(`Label.stream`). -/
def inputArguments (inputs : List String) : List String := inputs.flatMap fun path => ["-i", path]

/-- The arguments that render a graph of these input files to `output`: the inputs, the graph as one
argument, what of it goes into the result, how that is encoded, and where it goes.  Each option
stands before its value, and no value is split or quoted, for there is no shell. -/
def commandArguments (g : Graph) (inputs : List String) (output : String) (e : Encoding) :
    List String :=
  ["-y", "-hide_banner"] ++ (if e.reportProgress then progressArguments else [])
    ++ inputArguments inputs
    ++ ["-filter_complex", g.serialize, "-map", bracketed g.outputLabel, "-map", g.audioMap,
        "-c:v", "libx264", "-preset", e.preset, "-crf", toString e.crf,
        "-c:a", "aac", "-b:a", e.audioBitrate, "-movflags", "+faststart", output]

end Montage
