import Montage.Proofs.Studio.Executions
import Montage.Proofs.Worker.Complaints
import Montage.Proofs.Worker.Refusal
import Montage.Proofs.Worker.Storing

/-!
# How a worker answers

A worker stores the files of a form, makes a graph of its metadata, renders it and answers with the
video.  Each of these steps can go wrong, and the first one that does decides about the answer.

* `Event.Refuses` — a reply that keeps files from being stored; what follows is about all others.
* `Worker.delivers_storeAll` — **uploads are within the limit together**, or they are too large.
* `Worker.Verdict` — every way a request ends; `Worker.Verdict.exists_body` — what is answered can
  be sent.
* `requests_answered` — **a request ends in one of these ways**.
* `unwritten_breaks_request` — no answer comes of a program that ends well without a video.
-/

namespace Montage

open Routine

variable {P : Event Studio → Prop}

/-! ## Storing -/

/-- A reply that keeps the worker from storing files: there is no directory, or none whose files can
be handed over, or a file takes nothing. -/
inductive Event.Refuses : Event Studio → Prop
  | makeDirectories {p : Path} {e : OsError} :
      Refuses (.asked (.act (.makeDirectories p)) (Except.error e))
  | makeTemporary {p : Path} {beginning : String} {e : OsError} :
      Refuses (.asked (.act (.makeTemporary p beginning)) (Except.error e))
  | withheld {p directory : Path} {beginning : String} (held : ¬ directory.Handed) :
      Refuses (.asked (.act (.makeTemporary p beginning)) (Except.ok directory))
  | createFile {p : Path} {e : OsError} :
      Refuses (.asked (.act (.createFile p)) (Except.error e))
  | append {p : Path} {content : ByteArray} {e : OsError} :
      Refuses (.awaited (.wait (.append p content)) (.returned (Except.error e)))

namespace Worker

section Storing

variable (answered : ∀ e, P e → e.Answered) (writable : ∀ e, P e → ¬ e.Refuses)

/-- What comes of storing some pieces: how many bytes are written then, or that they are too
many. -/
def Stored (limit : Int) (written : Nat) (pieces : List ByteArray) : Option Nat → Prop
  | none => limit < written + totalSize pieces
  | some n => n = written + totalSize pieces ∧ (written ≤ limit → n ≤ limit)

include answered writable in
/-- The pieces of an upload are counted, and stored while they are within the limit. -/
lemma delivers_storePieces {path : Path} (plain : Studio.pathFault? path = none) (limit : Int)
    (written : Nat) (pieces : List ByteArray) :
    (storePieces path limit written pieces).Delivers (.hearing P)
      (Exit.Returns (Stored limit written pieces)) := by
  induction pieces generalizing written with
  | nil =>
      refine (delivers_wait answered .piece).andThen fun _ _ => ?_
      exact delivers_done ⟨some written, rfl, rfl, fun within => within⟩
  | cons piece rest ih =>
      refine (delivers_wait answered .piece).andThen fun _ _ => ?_
      have appends : (Studio.appendFile path piece).Delivers (.hearing P)
          (Exit.Returns fun _ => True) := by
        refine Studio.delivers_inTime_plain answered plain fun reply heard => ?_
        change StudioWait.Ans (.append path piece) at reply
        cases reply with
        | ok v => exact ⟨v, rfl, trivial⟩
        | error e => exact absurd .append (writable _ heard)
      dsimp only
      split
      · rename_i exceeds
        refine delivers_done ⟨none, rfl, ?_⟩
        rw [Stored, totalSize]
        omega
      · rename_i within
        refine appends.andThen fun _ _ => (ih (written + piece.size)).mono fun x returns => ?_
        obtain ⟨stored, rfl, counted⟩ := returns
        refine ⟨stored, rfl, ?_⟩
        cases stored <;> rw [Stored] at counted ⊢ <;> rw [totalSize] <;> omega

/-- Whether some uploads are within a limit together. -/
def Within (limit : Int) (uploads : List Upload) : Bool → Prop
  | true => 0 ≤ limit → totalSize (uploads.map Upload.content) ≤ limit
  | false => limit < totalSize (uploads.map Upload.content)

include answered writable in
/-- **Uploads are stored as long as they are within the limit together.** -/
lemma delivers_storeAll (limit : Int) {files : List (Path × Upload)}
    (plain : ∀ file ∈ files, Studio.pathFault? file.1 = none) :
    (storeAll limit files).Delivers (.hearing P)
      (Exit.Returns (Within limit (files.map Prod.snd))) := by
  induction files generalizing limit with
  | nil => exact delivers_done ⟨true, rfl, fun within => within⟩
  | cons file rest ih =>
      rw [List.forall_mem_cons] at plain
      have creates : (Studio.createFile file.1).Delivers (.hearing P)
          (Exit.Returns fun _ => True) := by
        refine Studio.delivers_atOnce plain.1 fun reply heard => ?_
        change StudioAct.Val (.createFile file.1) at reply
        cases reply with
        | ok v => exact ⟨v, rfl, trivial⟩
        | error e => exact absurd .createFile (writable _ heard)
      have whole : totalSize ((file :: rest).map fun file => file.2.content)
          = totalSize file.2.pieces + totalSize (rest.map fun file => file.2.content) := by
        rw [List.map_cons, totalSize, Upload.content, size_joined]
      refine creates.andThen fun _ _ => ?_
      refine (delivers_storePieces answered writable plain.1 limit 0 file.2.pieces).andThen
        fun stored counted => ?_
      cases stored with
      | none =>
          refine delivers_done ⟨false, rfl, ?_⟩
          rw [Stored] at counted
          rw [Within, List.map_map, Function.comp_def, whole]
          omega
      | some n =>
          rw [Stored] at counted
          refine (ih (limit - n) plain.2).mono fun x returns => ?_
          obtain ⟨fits, rfl, rests⟩ := returns
          refine ⟨fits, rfl, ?_⟩
          cases fits <;> rw [Within, List.map_map, Function.comp_def] at rests ⊢ <;> rw [whole]
            <;> omega

end Storing

/-! ## Answers -/

/-- An answer as an end, if its body can be sent. -/
def replying (reply : WorkerReply) : Exit WorkerReply :=
  .ofExcept ((sendable reply).mapError .unexpected)

/-- An end as it is answered. -/
def told : Exit WorkerReply → Exit WorkerReply
  | .failed (.expected e) => replying (.ofFailure e)
  | x => x

/-- The files of a form are within the limit together. -/
def Fits (settings : Settings) (f : Form) : Prop :=
  totalSize (f.uploads.map Upload.content) ≤ settings.workerMaxUploadBytes

/-- What comes of the program that renders a form, as far as it can be heard from its replies. -/
def Rendered (P : Event Studio → Prop) (settings : Settings) (fresh : String) (directory : Path)
    (f : Form) (x : Exit Unit) : Prop :=
  ∃ g, graphOf fresh directory f = .ok g
    ∧ Tool.Ran P settings.ffmpeg (arguments settings directory f g) (some directory) none x

/-- What is heard when the video is read. -/
def Read (P : Event Studio → Prop) (directory : Path) (reply : Except OsError ByteArray) : Prop :=
  P (.awaited (.wait (.read (directory.child outputName))) (.returned reply))

/-- How a request ends, by the form and by what is heard on the way. -/
inductive Verdict (P : Event Studio → Prop) (settings : Settings) (fresh : String)
    (directory : Path) (f : Form) : Exit WorkerReply → Prop
  | tooLarge (large : ¬ Fits settings f) :
      Verdict P settings fresh directory f (.returned (.refusal WorkerReply.tooLarge
        (tooLargeMessage settings.workerMaxUploadBytes)))
  | refused {p : TimelineProblem} (fits : Fits settings f) (refused : Refused fresh directory f p) :
      Verdict P settings fresh directory f (replying (.refusal WorkerReply.badRequest p.message))
  /-- Reading or compiling the metadata has broken. -/
  | unread {fault : Fault} (fits : Fits settings f)
      (graph : graphOf fresh directory f = .error (.unexpected fault)) :
      Verdict P settings fresh directory f (.failed (.unexpected fault))
  | failed {e : ExportFailure} (fits : Fits settings f)
      (ran : Rendered P settings fresh directory f (.failed (.expected e))) :
      Verdict P settings fresh directory f (replying (.refusal WorkerReply.serverError e.message))
  /-- The program could not be started for a reason of its own, or its output not be read. -/
  | broken {fault : Fault} (fits : Fits settings f)
      (ran : Rendered P settings fresh directory f (.failed (.unexpected fault))) :
      Verdict P settings fresh directory f (.failed (.unexpected fault))
  | video {content : ByteArray} (fits : Fits settings f)
      (ran : Rendered P settings fresh directory f (.returned ()))
      (read : Read P directory (.ok content)) :
      Verdict P settings fresh directory f (.returned (.video content))
  /-- The program ended well and there is no video. -/
  | unwritten {e : OsError} (fits : Fits settings f)
      (ran : Rendered P settings fresh directory f (.returned ()))
      (read : Read P directory (.error e)) :
      Verdict P settings fresh directory f (.failed (.unexpected (.os e)))

section Answers

variable {settings : Settings} {fresh : String} {directory : Path} {f : Form}
variable (answered : ∀ e, P e → e.Answered) (writable : ∀ e, P e → ¬ e.Refuses)
  (handed : directory.Handed)

include answered handed in
lemma delivers_render (fits : Fits settings f) :
    (render settings fresh directory f).Delivers ((Regime.hearing P).noting Binary64)
      fun x => Verdict P settings fresh directory f (told x) := by
  unfold render
  cases graph : graphOf fresh directory f with
  | error e =>
      cases e with
      | unexpected fault => exact delivers_done (.unread fits graph)
      | expected e =>
          obtain ⟨p, rfl, refused⟩ := refused_of_graphOf graph
          exact delivers_done (.refused fits refused)
  | ok g =>
      have runs : (Routine.within (E := Studio.noting Binary64) .worker (Tool.run settings.ffmpeg
          (arguments settings directory f g) (some directory) none)).Delivers
          ((Regime.hearing P).noting Binary64) (Rendered P settings fresh directory f) :=
        Delivers.within answered
          ((Tool.delivers_run answered _ _ _ _).mono fun x ran => ⟨g, graph, ran⟩)
      have reads : (Studio.readFile (directory.child outputName)).Delivers (.hearing P)
          fun x => ∃ reply, x = .ofReply reply ∧ Read P directory reply :=
        Studio.delivers_inTime_plain answered (handed.child outputName isPlain_outputName)
          fun reply heard => ⟨reply, rfl, heard⟩
      refine runs.handle fun x ran => ?_
      cases x with
      | cancelled =>
          obtain ⟨_, -, ran⟩ := ran
          exact absurd ran Tool.not_ran_cancelled
      | failed e =>
          cases e with
          | unexpected fault => exact delivers_done (.broken fits ran)
          | expected e =>
              have verdict := Verdict.failed fits ran
              obtain ⟨_, -, ran⟩ := ran
              refine delivers_done ?_
              change Verdict P settings fresh directory f (replying (.ofFailure e))
              rw [WorkerReply.ofFailure, Tool.isRefusal_of_ran ran]
              exact verdict
      | returned u =>
          refine reads.lift.handle fun x read => ?_
          obtain ⟨reply, rfl, heard⟩ := read
          cases reply with
          | ok content => exact delivers_done (.video fits ran heard)
          | error e => exact delivers_done (.unwritten fits ran heard)

/-- The files of a form are stored under names that can be handed over. -/
lemma exists_name_of_mem_paths {path : Path}
    (listed : path ∈ clipPaths directory f ++ imagePaths directory f) :
    ∃ name ∈ fileNames f.videos.length f.images.length, path = directory.child name := by
  rcases List.mem_append.mp listed with listed | listed
  · obtain ⟨i, small, rfl⟩ := List.mem_map.mp listed
    exact ⟨_, List.mem_append_left _ (List.mem_map_of_mem small), rfl⟩
  · obtain ⟨i, small, rfl⟩ := List.mem_map.mp listed
    exact ⟨_, List.mem_append_right _ (List.mem_map_of_mem small), rfl⟩

include answered writable handed in
/-- The files of a form are stored as long as they are within a limit together. -/
lemma delivers_storeForm (limit : Int) :
    (storeAll limit ((clipPaths directory f ++ imagePaths directory f).zip f.uploads)).Delivers
      (.hearing P) (Exit.Returns (Within limit f.uploads)) := by
  have paths : ∀ file ∈ (clipPaths directory f ++ imagePaths directory f).zip f.uploads,
      Studio.pathFault? file.1 = none := by
    intro file listed
    obtain ⟨name, numbered, same⟩ := exists_name_of_mem_paths (List.of_mem_zip listed).1
    rw [same]
    exact handed.child name (isPlain_of_mem_fileNames numbered)
  have uploads : ((clipPaths directory f ++ imagePaths directory f).zip f.uploads).map Prod.snd
      = f.uploads := by
    refine List.map_snd_zip ?_
    simp [clipPaths, imagePaths, Form.uploads]
  have stores := delivers_storeAll answered writable limit paths
  rwa [uploads] at stores

include answered writable handed in
lemma delivers_work (limited : 0 ≤ settings.workerMaxUploadBytes) :
    (work settings fresh directory f).Delivers ((Regime.hearing P).noting Binary64)
      fun x => Verdict P settings fresh directory f (told x) := by
  refine (delivers_storeForm answered writable handed _).lift.andThen fun fits within => ?_
  cases fits with
  | true => exact delivers_render answered handed (within limited)
  | false => exact delivers_done (.tooLarge (Int.not_le.mpr within))

include answered handed in
/-- The directory is removed, or stays. -/
lemma delivers_clear :
    (clear directory f).Delivers (.hearing P) (Exit.Returns fun _ => True) := by
  have pauses : (forEach f.uploads fun _ => Studio.pause).Delivers (.hearing P)
      (Exit.Returns fun _ => True) := by
    induction f.uploads with
    | nil => exact delivers_done ⟨(), rfl, trivial⟩
    | cons u rest ih => exact (delivers_wait answered .pause).andThen fun _ _ => ih
  have removes : (Studio.removeTree directory).Delivers (.hearing P)
      fun x => ∃ reply, x = .ofReply reply :=
    Studio.delivers_inTime_plain answered handed.own fun reply _ => ⟨reply, rfl⟩
  refine pauses.andThen fun _ _ => removes.handle fun x ends => ?_
  obtain ⟨reply, rfl⟩ := ends
  cases reply with
  | ok u => exact delivers_done ⟨u, rfl, trivial⟩
  | error e => exact delivers_done ⟨(), rfl, trivial⟩

end Answers

end Worker

/-! ## Bodies -/

namespace Worker

variable {settings : Settings} {fresh : String} {directory : Path} {f : Form}

/-- A refusal in characters below the halves has a body. -/
lemma exists_body {status : Nat} {message : String} (low : Text.IsLow message.toList) :
    ∃ body, (WorkerReply.refusal status message).body = .ok body :=
  (exists_body_iff status low.isSpelled).mpr low.isWhole

lemma body_of_replying {reply sent : WorkerReply} (same : replying reply = .returned sent) :
    ∃ body, sent.body = .ok body := by
  unfold replying sendable at same
  cases written : reply.body with
  | ok body =>
      rw [written] at same
      cases same
      exact ⟨body, written⟩
  | error p =>
      rw [written] at same
      cases same

/-- **Every answer has a body**; that of a refusal is a JSON object with an error and a message. -/
lemma Verdict.exists_body {reply : WorkerReply}
    (verdict : Verdict P settings fresh directory f (.returned reply)) :
    ∃ body, reply.body = .ok body := by
  generalize same : Exit.returned reply = x at verdict
  cases verdict with
  | tooLarge =>
      cases same
      have low : Text.IsLow (tooLargeMessage settings.workerMaxUploadBytes).toList := by
        rw [show tooLargeMessage settings.workerMaxUploadBytes
          = "upload exceeds " ++ toString settings.workerMaxUploadBytes ++ " bytes" from rfl,
          String.toList_append, String.toList_append]
        exact .append (.append (by decide) (Text.isLow_toString _)) (by decide)
      exact Worker.exists_body low
  | refused => exact body_of_replying same.symm
  | unread => cases same
  | failed => exact body_of_replying same.symm
  | broken => cases same
  | video =>
      cases same
      exact ⟨_, rfl⟩
  | unwritten => cases same

end Worker

/-! ## Requests -/

namespace Worker

variable {root : Path}

/-- The directory above all others is made, or is there. -/
lemma delivers_makeDirectories (writable : ∀ e, P e → ¬ e.Refuses)
    (plain : Studio.pathFault? root = none) :
    (Studio.makeDirectories root).Delivers (.hearing P) (Exit.Returns fun _ => True) := by
  refine Studio.delivers_atOnce plain fun reply heard => ?_
  change StudioAct.Val (.makeDirectories root) at reply
  cases reply with
  | ok u => exact ⟨u, rfl, trivial⟩
  | error e => exact absurd .makeDirectories (writable _ heard)

/-- A request gets a directory of its own. -/
lemma delivers_makeTemporary (writable : ∀ e, P e → ¬ e.Refuses)
    (plain : Studio.pathFault? root = none) :
    (Studio.makeTemporary root directoryBeginning).Delivers (.hearing P)
      (Exit.Returns fun directory => directory.Handed
        ∧ P (.asked (.act (.makeTemporary root directoryBeginning)) (Except.ok directory))) := by
  refine Studio.delivers_atOnce plain fun reply heard => ?_
  change StudioAct.Val (.makeTemporary root directoryBeginning) at reply
  cases reply with
  | error e => exact absurd .makeTemporary (writable _ heard)
  | ok directory =>
      refine ⟨directory, rfl, ?_, heard⟩
      by_contra held
      exact writable _ heard (.withheld held)

end Worker

open Worker in
/-- **How a request ends.** -/
lemma delivers_answerForm {settings : Settings} {fresh : String} {f : Form}
    (answered : ∀ e, P e → e.Answered) (writable : ∀ e, P e → ¬ e.Refuses)
    (limited : 0 ≤ settings.workerMaxUploadBytes)
    (root : Studio.pathFault? (.ofText settings.workerRoot) = none) :
    (answerForm settings fresh f).Delivers ((Regime.hearing P).noting Binary64) fun x =>
      ∃ directory, P (.asked (.act (.makeTemporary (.ofText settings.workerRoot)
          directoryBeginning)) (Except.ok directory))
        ∧ Verdict P settings fresh directory f x := by
  refine (delivers_makeDirectories writable root).lift.andThen fun _ _ =>
    (delivers_makeTemporary writable root).lift.andThen fun directory opened => ?_
  obtain ⟨handed, heard⟩ := opened
  have answers : (answering (work settings fresh directory f)).Delivers
      ((Regime.hearing P).noting Binary64) (Verdict P settings fresh directory f) := by
    refine (delivers_work answered writable handed limited).handle fun x verdict => ?_
    cases x with
    | returned reply => exact delivers_done verdict
    | cancelled => exact delivers_done verdict
    | failed e => cases e <;> exact delivers_done verdict
  refine answers.handle fun x verdict => ?_
  exact (delivers_clear answered handed).lift.andThen fun _ _ =>
    delivers_done ⟨directory, heard, verdict⟩

/-- **Every request ends as documented, or in one of four known faults**: too large uploads are
answered first, then metadata that is no timeline, then a program that fails, and otherwise there is
the video as it was read.  What breaks a request is metadata that breaks its own reading, a program
that breaks, a video that cannot be read, and a message without bytes. -/
theorem requests_answered (settings : Settings) (fresh : String) (f : Form) (h : History Studio)
    (x : Exit (List Binary64 × Exit WorkerReply)) (limited : 0 ≤ settings.workerMaxUploadBytes)
    (root : Studio.pathFault? (.ofText settings.workerRoot) = none) (answered : h.Answered)
    (writable : ∀ e ∈ h, ¬ e.Refuses)
    (plays : (answerForm settings fresh f).gather.Plays h x) :
    ∃ notes y directory, x = .returned (notes, y)
      ∧ Event.asked (E := Studio) (.act (.makeTemporary (.ofText settings.workerRoot)
          Worker.directoryBeginning)) (Except.ok directory) ∈ h
      ∧ Worker.Verdict (· ∈ h) settings fresh directory f y
      ∧ ∀ reply, y = .returned reply → ∃ body, reply.body = .ok body := by
  have delivers : (answerForm settings fresh f).Delivers _ _ :=
    delivers_answerForm answered writable limited root
  obtain ⟨notes, y, same, directory, made, verdict⟩ :=
    Delivers.of_plays (Obeys.gatherFrom delivers []) plays fun _ => id
  refine ⟨notes, y, directory, same, made, verdict, fun reply ends => ?_⟩
  rw [ends] at verdict
  exact verdict.exists_body

/-- Nothing is refused where all goes well. -/
lemma not_refuses_of_gave {listing : Except OsError (List String)}
    {content : Except OsError ByteArray} {e : Event Studio}
    (gave : (oneWorkspace listing content).Gave e) : ¬ e.Refuses := by
  intro refuses
  cases gave with
  | asked q =>
      generalize same : Event.asked q ((oneWorkspace listing content).onRequest q) = e at refuses
      cases refuses <;> cases same
      rename_i held
      exact held (Path.handed_of_isLow (by decide) (by decide) (by decide))
  | awaited s =>
      generalize same : Event.awaited s ((oneWorkspace listing content).onSuspension s) = e
        at refuses
      cases refuses <;> cases same

/-- A form with one clip. -/
def oneForm : Form where
  videos := [⟨oneFile.clips⟩]
  metadata := "\x7b\"videos\": [\x7b\"startTime\": 0, \"endTime\": 1\x7d]\x7d"
  canvasWidth := 2
  canvasHeight := 2
  images := []

/-- Where all goes well the video is the answer. -/
theorem requests_answered_sample :
    ∃ h notes y directory, History.Answered h ∧ (∀ e ∈ h, ¬ e.Refuses)
      ∧ (answerForm {} "" oneForm).gather.Plays h (.returned (notes, y))
      ∧ Worker.Verdict (· ∈ h) {} "" directory oneForm y
      ∧ y = .returned (.video "video".toUTF8) := by
  have ends : ((answerForm {} "" oneForm).gather.play
      (oneWorkspace (.ok []) (.ok "video".toUTF8))).2.map Prod.snd
      = .returned (.returned (.video "video".toUTF8)) := by
    decide +kernel
  obtain ⟨h, notes, plays, gave⟩ := exists_plays_gather ends
  have answered : h.Answered := fun e heard => answered_of_gave (gave e heard)
  have writable : ∀ e ∈ h, ¬ e.Refuses := fun e heard => not_refuses_of_gave (gave e heard)
  obtain ⟨_, _, directory, same, -, verdict, -⟩ := requests_answered {} "" oneForm h _
    (by decide) (by decide +kernel) answered writable plays
  cases same
  exact ⟨h, notes, _, directory, answered, writable, plays, verdict, rfl⟩

/-- **A request is not answered when there is no video**, although the program has ended well. -/
theorem unwritten_breaks_request :
    ∃ h notes, History.Answered h ∧ (∀ e ∈ h, ¬ e.Refuses)
      ∧ (answerForm {} "" oneForm).gather.Plays h
        (.returned (notes, .failed (.unexpected (.os (.notFound "/ws/output.mp4"))))) := by
  have ends : ((answerForm {} "" oneForm).gather.play
      (oneWorkspace (.ok []) (.error (.notFound "/ws/output.mp4")))).2.map Prod.snd
      = .returned (.failed (.unexpected (.os (.notFound "/ws/output.mp4")))) := by
    decide +kernel
  obtain ⟨h, notes, plays, gave⟩ := exists_plays_gather ends
  exact ⟨h, notes, fun e heard => answered_of_gave (gave e heard),
    fun e heard => not_refuses_of_gave (gave e heard), plays⟩

end Montage
