import Montage.Graph.Compile
import Montage.Proofs.Progress.Forward
import Montage.Proofs.Studio.Executions
import Montage.Studio.Classification
import Montage.Studio.RemoteBackend

/-!
# What is reported goes forward

Classifying, rendering on the engine and rendering on a worker each report from several places, and
from loops that count files, lines or bytes.  None of them ever goes back, not even within a loop
whose end is measured against a length or a duration that is wrong.

* `Classification.forward_classify`, `LocalBackend.forward_execute`,
  `RemoteBackend.forward_execute` — the three routines, each loop with its own invariant.
* **`reports_rising`** — the reports of all three, wherever they are broken off.
-/

namespace Montage

open Binary64 ProgressUpdate Routine

variable {sent : Response → Prop} {last : ProgressUpdate} {α : Type}

/-! ## Reports -/

/-- So far within a phase, and not further than a bound. -/
structure ProgressUpdate.Within (phase : Phase) (bound : Binary64) (u : ProgressUpdate) : Prop where
  phase_eq : u.phase = phase
  le_bound : le u.progress bound = true

/-- Somewhere within a phase. -/
abbrev ProgressUpdate.During (phase : Phase) : ProgressUpdate → Prop := Within phase 100

/-- A report in the same phase with at least the same progress may come next. -/
lemma ProgressUpdate.Within.next {phase : Phase} {progress : Binary64} {message : String}
    (within : last.Within phase progress) (upTo : UpTo fullUnits progress) :
    last.Next ⟨phase, progress, message⟩ := ⟨upTo, .inr ⟨within.phase_eq, within.le_bound⟩⟩

/-- A report within bounds is one of its phase. -/
lemma ProgressUpdate.Within.during {phase : Phase} {progress : Binary64}
    (within : last.Within phase progress) (upTo : UpTo fullUnits progress) : last.During phase :=
  ⟨within.phase_eq, le_trans within.le_bound upTo.le_full⟩

/-- A later phase begins anywhere. -/
lemma ProgressUpdate.next_of_rank_lt {phase : Phase} {progress : Binary64} {message : String}
    (later : last.phase.rank < phase.rank) (upTo : UpTo fullUnits progress) :
    last.Next ⟨phase, progress, message⟩ := ⟨upTo, .inl later⟩

namespace LocalBackend

/-- A report stands until the next one. -/
lemma forward_report {phase : Phase} {progress : Binary64} {message : String}
    (next : last.Next ⟨phase, progress, message⟩) :
    (report phase progress message).Forward id sent (fun _ now => now = ⟨phase, progress, message⟩)
      last := Forward.note next

/-- A report is within its own bounds … -/
lemma within_self {phase : Phase} {progress : Binary64} {message : String}
    (upTo : UpTo fullUnits progress) :
    ProgressUpdate.Within phase progress ⟨phase, progress, message⟩ := ⟨rfl, le_self upTo.isNan⟩

/-- … and in its own phase. -/
lemma during_self {phase : Phase} {progress : Binary64} {message : String}
    (upTo : UpTo fullUnits progress) :
    ProgressUpdate.During phase ⟨phase, progress, message⟩ := ⟨rfl, upTo.le_full⟩

/-- The percentage of a part is from zero to a hundred … -/
lemma upTo_partPercent {part whole : Nat} (some : 0 < whole) (h : part ≤ whole) :
    UpTo fullUnits (partPercent part whole) := upTo_percent some h

/-- … and grows with the part. -/
lemma partPercent_mono {m n whole : Nat} (some : 0 < whole) (h : m ≤ n) :
    le (partPercent m whole) (partPercent n whole) = true :=
  le_percent (Int.natCast_pos.mpr some) h

end LocalBackend

/-! ## Classifying -/

namespace Classification

open LocalBackend

/-- Files are counted as they are read: before each one stands the share of those before it. -/
lemma forward_readAll (follow : Bool) {total index : Nat} {sources : List String}
    (room : index + sources.length = total) (during : last.During .classifying)
    (within : sources ≠ [] → last.Within .classifying (partPercent index total)) :
    (readAll follow total index sources).Forward id sent (fun _ => During .classifying) last := by
  induction sources generalizing index last with
  | nil => exact forward_returned during
  | cons source rest ih =>
      rw [List.length_cons] at room
      have upTo : UpTo fullUnits (partPercent index total) := upTo_partPercent (by omega) (by omega)
      refine (forward_report ((within nofun).next upTo)).bind fun _ now same => ?_
      refine (forward_lift _).bind fun content now' same' => ?_
      rw [same', same]
      have later : le (partPercent index total) (partPercent (index + 1) total) = true :=
        partPercent_mono (by omega) (by omega)
      exact (ih (by omega) (during_self upTo) fun _ => ⟨rfl, later⟩).bind fun more now'' holds =>
        forward_returned holds

/-- The reports while files are classified go forward. -/
theorem forward_classify (follow : Bool) (t : Timeline) :
    (classify follow t).Forward id sent (fun _ => During .classifying) ⟨.classifying, 0, ""⟩ := by
  have begins : During .classifying ⟨.classifying, 0, ""⟩ := during_self upTo_zero
  have reads : (readAll follow t.sources.length 0 t.sources).Forward id sent
      (fun _ => During .classifying) ⟨.classifying, 0, ""⟩ :=
    forward_readAll follow (Nat.zero_add t.sources.length) begins fun some =>
      have pos : 0 < t.sources.length := List.length_pos_iff.mpr some
      ⟨rfl, (upTo_partPercent pos (Nat.zero_le _)).zero_le⟩
  refine reads.bind fun files now during => ?_
  refine (forward_report (during.next upTo_hundred)).bind fun _ now' same => ?_
  exact forward_returned (same ▸ during_self upTo_hundred)

end Classification

/-! ## The engine -/

namespace Tool

/-- What is noted is above what was noted before, and not above a hundred. -/
lemma upTo_of_newMaximum? {duration mark percent : Binary64} {line : ByteArray}
    (upTo : UpTo fullUnits mark)
    (found : Report.newMaximum? duration mark line = .ok (some percent)) :
    UpTo fullUnits percent ∧ le mark percent = true := by
  obtain ⟨seconds, -, found⟩ := bind_eq_ok.mp found
  cases seconds with
  | none => cases found
  | some seconds =>
      have above : lt mark (Report.percentOf seconds duration) = true
          ∧ Report.percentOf seconds duration = percent := by
        simpa [pure, Except.pure] using found
      obtain ⟨above, rfl⟩ := above
      have low := le_of_lt above
      have high : le (Report.percentOf seconds duration) 100 = true :=
        minFirst_le upTo_hundred.isNan _
      exact ⟨upTo.of_between upTo_hundred low high, low⟩

/-- Who is cancelled has no value to go on with. -/
lemma forward_guarding {N : Type} {reports : N → ProgressUpdate} {Q : α → ProgressUpdate → Prop}
    {p : ProcessId} {r : NotingRoutine N α} (inside : r.Forward reports sent Q last) :
    (guarding p r).Forward reports sent Q last :=
  inside.handle (fun _ _ => forward_returned) (fun _ _ => forward_ended nofun) fun _ =>
    (forward_lift _).bind fun _ _ _ => forward_ended nofun

section Rendering

variable {reports : Binary64 → ProgressUpdate}
  (stands : ∀ percent, (reports percent).phase = .processing
    ∧ (reports percent).progress = percent)

include stands

/-- Only new maxima are noted, so whatever the lines and the duration, they go forward. -/
lemma forward_followOutput (p : ProcessId) (duration : Option Binary64) {lines : List ByteArray}
    {mark : Binary64} (upTo : UpTo fullUnits mark) (within : last.Within .processing mark) :
    (followOutput p duration mark lines).Forward reports sent (fun _ => During .processing)
      last := by
  induction lines generalizing mark last with
  | nil => exact forward_returned (within.during upTo)
  | cons line rest ih =>
      refine (forward_lift _).bind fun _ now same => ?_
      subst same
      cases duration with
      | none => exact ih upTo within
      | some d =>
          refine (forward_ofFault _).bind fun maximum now' ⟨found, same⟩ => ?_
          subst same
          cases maximum with
          | none => exact ih upTo within
          | some percent =>
              obtain ⟨upTo', above⟩ := upTo_of_newMaximum? upTo found
              obtain ⟨phase, progress⟩ := stands percent
              have next : now'.Next (reports percent) := by
                refine ⟨by rwa [progress], .inr ⟨within.phase_eq.trans phase.symm, ?_⟩⟩
                rw [progress]
                exact le_trans within.le_bound above
              refine (Forward.note next).bind fun _ now same => ?_
              subst same
              refine ih upTo' ⟨phase, ?_⟩
              rw [progress]
              exact le_self upTo'.isNan

/-- So do those of a rendering … -/
lemma forward_run {binary : String} {arguments : List String} {directory : Option Path}
    {duration : Option Binary64} (within : last.Within .processing 0) :
    (run binary arguments directory duration).Forward reports sent (fun _ => During .processing)
      last := by
  refine (forward_lift _).bind fun spawned now same => ?_
  subst same
  cases spawned with
  | error e =>
      cases e with
      | os e =>
          dsimp only
          split
          · exact forward_ended nofun
          · exact forward_ended nofun
      | nullArgument => exact forward_ended nofun
      | unencodable problem => exact forward_ended nofun
  | ok p =>
      refine (forward_lift _).bind fun channels now' same => ?_
      subst same
      have guarded : (guarding p do
          followOutput p (measurable duration) 0 channels.output
          Routine.lift (followErrors p channels.errors)
          Routine.lift (Studio.exitOf p)).Forward reports sent (fun _ => During .processing)
          now' := by
        refine forward_guarding ?_
        refine (forward_followOutput stands p _ upTo_zero within).bind fun _ now during => ?_
        refine (forward_lift _).bind fun _ now' same => ?_
        exact (forward_lift _).mono fun _ _ same' => same' ▸ same ▸ during
      refine guarded.bind fun code now holds => ?_
      split
      · exact forward_ended nofun
      · exact forward_returned holds

end Rendering

end Tool

namespace LocalBackend

/-- Files are counted once they are written. -/
lemma forward_storeFiles (clips : Nat) {total index : Nat} {files : List (String × ByteArray)}
    (room : index + files.length ≤ total) (during : last.During .preparing)
    (within : files ≠ [] → last.Within .preparing (partPercent index total)) :
    (storeFiles clips total index files).Forward id sent (fun _ => During .preparing) last := by
  induction files generalizing index last with
  | nil => exact forward_returned during
  | cons file rest ih =>
      rw [List.length_cons] at room
      refine (forward_lift _).bind fun _ now same => ?_
      subst same
      have upTo : UpTo fullUnits (partPercent (index + 1) total) :=
        upTo_partPercent (by omega) (by omega)
      have earlier : le (partPercent index total) (partPercent (index + 1) total) = true :=
        partPercent_mono (by omega) (by omega)
      have known := within nofun
      have next : now.Next ⟨.preparing, partPercent (index + 1) total, fileMessage clips index⟩ :=
        ProgressUpdate.Within.next ⟨known.phase_eq, le_trans known.le_bound earlier⟩ upTo
      refine (forward_report next).bind fun _ now' same => ?_
      subst same
      exact ih (by omega) (during_self upTo) fun _ => within_self upTo

/-- … and those of preparing, rendering and reading the result. -/
lemma forward_render (settings : Settings) (g : Graph) (t : Timeline) (payloads : Payloads)
    (within : last.Within .preparing 0) :
    (render settings g t payloads).Forward id sent (fun _ => Within .finalizing 0) last := by
  have room : 0 + (t.inputNames.zip payloads.files).length ≤ t.inputNames.length := by
    rw [List.length_zip]
    omega
  have begins : t.inputNames.zip payloads.files ≠ [] →
      last.Within .preparing (partPercent 0 t.inputNames.length) := by
    intro some
    have pos := List.length_pos_iff.mpr some
    exact ⟨within.phase_eq, le_trans within.le_bound
      (upTo_partPercent (by omega) (Nat.zero_le _)).zero_le⟩
  refine (forward_storeFiles _ room (within.during upTo_zero) begins).bind
    fun _ now during => ?_
  refine (forward_lift _).bind fun probed now' same => ?_
  subst same
  have processing : now'.Next ⟨.processing, 0, "Processing video..."⟩ :=
    next_of_rank_lt (by rw [during.phase_eq]; decide) upTo_zero
  refine (forward_report processing).bind fun _ now same => ?_
  subst same
  have renders : ∀ arguments duration, (Routine.relay renderingUpdate
      (Engine.render settings arguments duration)).Forward id sent (fun _ => During .processing)
        ⟨.processing, 0, "Processing video..."⟩ := by
    intro arguments duration
    refine Forward.relay ((forward_lift _).bind fun directory now same => ?_)
    subst same
    exact Tool.forward_run (fun _ => ⟨rfl, rfl⟩) (within_self upTo_zero)
  refine (renders _ _).bind fun _ now rendered => ?_
  have finalizing : now.Next ⟨.finalizing, 0, "Reading output..."⟩ :=
    next_of_rank_lt (by rw [rendered.phase_eq]; decide) upTo_zero
  refine (forward_report finalizing).bind fun _ now' same => ?_
  subst same
  exact (forward_lift _).mono fun _ _ same => same ▸ within_self upTo_zero

/-- Putting an error of the system in words reports nothing. -/
lemma forward_filesExpected {Q : α → ProgressUpdate → Prop} {r : NotingRoutine ProgressUpdate α}
    (inside : r.Forward id sent Q last) : (filesExpected r).Forward id sent Q last := by
  refine inside.handle (fun _ _ => forward_returned) (fun e now => ?_)
    fun _ => forward_ended nofun
  cases e with
  | expected e => exact forward_ended nofun
  | unexpected f => cases f <;> exact forward_ended nofun

/-- **An export on the engine goes forward.** -/
theorem forward_execute (settings : Settings) (g : Graph) (t : Timeline) (payloads : Payloads) :
    (execute settings g t payloads).Forward id sent (fun _ => During .finalizing)
      ⟨.classifying, 0, ""⟩ := by
  unfold execute
  split
  · exact forward_ended nofun
  · refine (forward_report (next_of_rank_lt (by decide) upTo_zero)).bind fun _ now same => ?_
    subst same
    refine (forward_lift _).bind fun _ now same => ?_
    subst same
    have begins : Within .preparing 0 ⟨.preparing, 0, "Loading FFmpeg..."⟩ := within_self upTo_zero
    have renders : (render settings g t payloads).Forward id sent _ _ :=
      forward_render settings g t payloads begins
    refine (forward_filesExpected renders).ensuring.within.bind fun output now within => ?_
    refine (forward_report ((within.during upTo_zero).next upTo_hundred)).bind fun _ now' same => ?_
    exact forward_returned (same ▸ during_self upTo_hundred)

end LocalBackend

/-! ## The worker -/

namespace RemoteBackend

open LocalBackend

/-- Ninety-nine is from zero to a hundred. -/
lemma upTo_ninetyNine : UpTo fullUnits 99 :=
  (UpTo.ofNat (k := 99) (by decide)).mono (Nat.mul_le_mul_right one (by decide))

/-- More has come, and no smaller a share. -/
lemma receivedPercent_mono {m n : Nat} {expected : Int} (pos : 0 < expected) (h : m ≤ n) :
    le (receivedPercent m expected) (receivedPercent n expected) = true :=
  le_minFirst upTo_ninetyNine.isNan (le_percent pos h)

/-- Whatever has come, the share is from 0 to 99. -/
lemma upTo_receivedPercent {received : Nat} {expected : Int} (pos : 0 < expected) :
    UpTo fullUnits (receivedPercent received expected) := by
  obtain ⟨length, rfl⟩ := Int.eq_ofNat_of_zero_le (Int.le_of_lt pos)
  have none : UpTo fullUnits (receivedPercent 0 length) := by
    unfold receivedPercent minFirst
    split
    · exact upTo_percent (by omega) (Nat.zero_le _)
    · exact upTo_ninetyNine
  exact none.of_between upTo_ninetyNine (receivedPercent_mono pos (Nat.zero_le _))
    (minFirst_le upTo_ninetyNine.isNan _)

/-- What is received is counted against the announced length, whatever it has to do with it; nothing
is counted where none is announced. -/
lemma forward_receive {expected : Int} (natural : 0 ≤ expected) {received : Nat}
    {pieces : List (Except Fault ByteArray)} (during : last.During .finalizing)
    (within : expected ≠ 0 → last.Within .finalizing (receivedPercent received expected)) :
    (receive expected received pieces).Forward id sent (fun _ => During .finalizing) last := by
  induction pieces generalizing received last with
  | nil => exact forward_returned during
  | cons piece rest ih =>
      refine (forward_lift _).bind fun _ now same => ?_
      subst same
      refine (forward_ofFault piece).bind fun content now' ⟨_, same⟩ => ?_
      subst same
      have grows : expected ≠ 0 → le (receivedPercent received expected)
          (receivedPercent (received + content.size) expected) = true :=
        fun some => receivedPercent_mono (by omega) (Nat.le_add_right _ _)
      have rests : ∀ now : ProgressUpdate, now.During .finalizing →
          (expected ≠ 0 →
            now.Within .finalizing (receivedPercent (received + content.size) expected)) →
          Forward id sent (fun _ => During .finalizing) now (do
            return content :: (← receive expected (received + content.size) rest)) :=
        fun now during within => (ih during within).bind fun parts _ holds =>
          forward_returned (v := content :: parts) holds
      show Forward _ _ _ _ (if expected ≠ 0 && content.size ≠ 0 then _ else _)
      split
      · rename_i counted
        have some : expected ≠ 0 := by
          simp only [Bool.and_eq_true, decide_eq_true_eq] at counted
          exact counted.1
        have upTo : UpTo fullUnits (receivedPercent (received + content.size) expected) :=
          upTo_receivedPercent (by omega)
        have known := within some
        have next : now'.Next ⟨.finalizing, receivedPercent (received + content.size) expected,
            "Downloading..."⟩ :=
          Within.next ⟨known.phase_eq, le_trans known.le_bound (grows some)⟩ upTo
        refine (forward_report next).bind fun _ now same => ?_
        subst same
        exact rests _ (during_self upTo) fun _ => within_self upTo
      · exact rests now' during fun some =>
          ⟨(within some).phase_eq, le_trans (within some).le_bound (grows some)⟩

/-- Neither does putting an error of the network in words. -/
lemma forward_transportExpected {Q : α → ProgressUpdate → Prop}
    {r : NotingRoutine ProgressUpdate α} (inside : r.Forward id sent Q last) :
    (transportExpected r).Forward id sent Q last := by
  refine inside.handle (fun _ _ => forward_returned) (fun e now => ?_)
    fun _ => forward_ended nofun
  cases e with
  | expected e => exact forward_ended nofun
  | unexpected f =>
      cases f
      case http problem message =>
        dsimp only
        split
        · exact forward_ended nofun
        · split
          · exact forward_ended nofun
          · exact forward_ended nofun
      all_goals exact forward_ended nofun

/-- No length is announced that is below zero. -/
def Natural (r : Response) : Prop := ∀ length, announcedLength r = .ok length → 0 ≤ length

/-- The response to a form is one that was sent. -/
lemma brings_submit (url : String) (parts : List FormPart) :
    (Http.submit url parts).Delivers (.hearing (Event.Brings sent)) (Exit.Carries sent) := by
  have responds : ∀ u request, (Http.exchange u request).Delivers (.hearing (Event.Brings sent))
      (Exit.Carries fun answer => sent answer.1) := by
    intro u request
    have sends : (Studio.send request).Delivers (.hearing (Event.Brings sent))
        (Exit.Carries fun reply => ∀ r, reply = .ok r → sent r) := by
      refine .await trivial fun x _ brings => .done ?_
      rintro v rfl r rfl
      exact brings
    have opened : ∀ reply : Except HttpFault Response, (∀ r, reply = .ok r → sent r) →
        (Http.orBroken reply).Delivers (.hearing (Event.Brings sent)) (Exit.Carries sent) := by
      intro reply brings
      cases reply with
      | error f => exact .done nofun
      | ok r =>
          refine .done fun v same => ?_
          cases same
          exact brings r rfl
    refine sends.carry fun reply brings => (opened reply brings).carry fun r brings => ?_
    have answer : ∀ location : Option Url,
        (.done (.returned (r, location)) : StudioRoutine (Response × Option Url)).Delivers
          (.hearing (Event.Brings sent)) (Exit.Carries fun answer => sent answer.1) := by
      refine fun location => .done fun v same => ?_
      cases same
      exact brings
    refine (delivers_anything _).carry fun _ _ => (delivers_anything _).carry fun _ _ => ?_
    split
    · exact answer none
    · exact (delivers_anything _).carry fun next _ => answer (some next)
  refine (delivers_anything _).carry fun u _ => (delivers_anything _).carry fun _ _ => ?_
  refine (delivers_anything _).carry fun _ _ => (responds _ _).carry fun answer brings => ?_
  refine .done fun r same => ?_
  cases same
  exact brings

/-- A worker's answer is announced as the end of the processing, and then it is received. -/
lemma forward_exchange (settings : Settings) (s : Submission) (within : last.Within .processing 0) :
    (exchange settings s).Forward id Natural (fun _ => During .finalizing) last := by
  refine (Forward.lift (brings_submit settings.remoteUrl s.parts)).bind
    fun r now ⟨natural, same⟩ => ?_
  subst same
  dsimp only
  split
  · refine (forward_lift _).bind fun body _ _ => ?_
    refine (forward_ofFault _).bind fun failure _ _ => ?_
    exact forward_ended nofun
  · refine (forward_report ((within.during upTo_zero).next upTo_hundred)).bind fun _ _ same => ?_
    subst same
    refine (forward_report (next_of_rank_lt (by decide) upTo_zero)).bind fun _ _ same => ?_
    subst same
    refine (forward_ofFault _).bind fun expected _ ⟨announced, same⟩ => ?_
    subst same
    have positive := natural expected announced
    refine (forward_receive positive (during_self upTo_zero) fun some => ?_).bind
      fun parts now during => ?_
    · exact ⟨rfl, (upTo_receivedPercent (by omega)).zero_le⟩
    · refine (forward_lift _).bind fun _ _ same => ?_
      subst same
      exact forward_returned (v := Http.concat parts) during

/-- **An export on the worker goes forward**, if no announced length is below zero. -/
theorem forward_execute (settings : Settings) (t : Timeline) (payloads : Payloads) :
    (execute settings t payloads).Forward id Natural (fun _ => During .finalizing)
      ⟨.classifying, 0, ""⟩ := by
  refine (forward_report (next_of_rank_lt (by decide) upTo_zero)).bind fun _ _ same => ?_
  subst same
  refine (forward_ofFault _).bind fun submission _ ⟨_, same⟩ => ?_
  subst same
  refine (forward_report ((during_self upTo_zero).next upTo_hundred)).bind fun _ _ same => ?_
  subst same
  refine (forward_report (next_of_rank_lt (by decide) upTo_zero)).bind fun _ _ same => ?_
  subst same
  refine (forward_transportExpected (forward_exchange settings _ (within_self upTo_zero))).bind
    fun output now during => ?_
  dsimp only
  split
  · exact forward_ended nofun
  · refine (forward_report (during.next upTo_hundred)).bind fun _ _ same => ?_
    subst same
    exact forward_returned (during_self upTo_hundred)

end RemoteBackend

/-! ## All three -/

/-- **What is reported never goes back, and is always from 0 to 100**, wherever the routine is
broken off and whatever it hears: by the classification, by an export on the engine, and by an
export on a worker that announces no length below zero. -/
theorem reports_rising (follow : Bool) (settings : Settings) (g : Graph) (t : Timeline)
    (payloads : Payloads) (h : History (Studio.noting ProgressUpdate)) :
    (∀ left, (Classification.classify follow t).Leads h left → Rising h.notes)
    ∧ (∀ left, (LocalBackend.execute settings g t payloads).Leads h left → Rising h.notes)
    ∧ ((∀ e ∈ h, e.BringsNoting RemoteBackend.Natural) →
      ∀ left, (RemoteBackend.execute settings t payloads).Leads h left → Rising h.notes) := by
  have anything : ∀ e ∈ h, e.BringsNoting fun _ => True := by
    rintro (⟨q, v⟩ | ⟨s, x⟩) -
    · trivial
    · cases s with
      | wait w =>
          cases w
          case send request => rcases x with (_ | _) | _ | _ <;> trivial
          all_goals trivial
      | enter g => trivial
      | join j t => trivial
      | watch j t => trivial
  refine ⟨fun left leads => ?_, fun left leads => ?_, fun natural left leads => ?_⟩
  · exact (Classification.forward_classify follow t).rising leads anything
  · exact (LocalBackend.forward_execute settings g t payloads).rising leads anything
  · exact (RemoteBackend.forward_execute settings t payloads).rising leads natural

/-- A worker that announces less than it sends. -/
def shortAnnouncement : Response where
  headers := [("Content-Length", "4")]
  chunks := ["vi".toUTF8, "de".toUTF8, "o".toUTF8]

/-- The same surroundings where notes are made, with such a worker. -/
def oneWorker : Replies (Studio.noting ProgressUpdate) where
  onRequest
    | .act (.inl _) => ()
    | .act (.inr a) => (oneWorkspace (.ok []) (.ok "video".toUTF8)).onRequest (.act a)
    | .get => (oneWorkspace (.ok []) (.ok "video".toUTF8)).onRequest .get
    | .set _ => ()
    | .leave _ => ()
    | .start _ => (0 : TaskId)
    | .cancel _ => false
    | .cancelling => false
  onSuspension
    | .wait (.send _) => .returned (Except.ok shortAnnouncement)
    | .wait w => (oneWorkspace (.ok []) (.ok "video".toUTF8)).onSuspension (.wait w)
    | .enter _ => .returned ()
    | .join .loadEngine _ => .returned ()
    | .watch .loadEngine _ => .returned ()

/-- The one worker announces no length below zero. -/
lemma natural_of_gave {e : Event (Studio.noting ProgressUpdate)} (gave : oneWorker.Gave e) :
    e.BringsNoting RemoteBackend.Natural := by
  have four : RemoteBackend.announcedLength shortAnnouncement = .ok 4 := by decide +kernel
  cases gave with
  | asked q => trivial
  | awaited s =>
      cases s with
      | wait w =>
          cases w
          case send request =>
            intro length announced
            rw [four] at announced
            cases announced
            decide
          all_goals trivial
      | enter g => trivial
      | join j t => trivial
      | watch j t => trivial

/-- All three at once, the last one with a worker that announces less than it sends. -/
theorem reports_rising_sample :
    (∃ h left, (Classification.classify true oneClip).Leads h left
      ∧ Rising h.notes ∧ h.notes.length = 2)
    ∧ (∃ h left, (LocalBackend.execute {} oneClipGraph oneClip oneFile).Leads h left
      ∧ Rising h.notes ∧ h.notes.length = 5)
    ∧ ∃ h left, (∀ e ∈ h, e.BringsNoting RemoteBackend.Natural)
      ∧ (RemoteBackend.execute {} oneClip oneFile).Leads h left
      ∧ Rising h.notes
      ∧ h.notes.map ProgressUpdate.progress = [0, 100, 0, 100, 0, 50, 99, 99, 100] := by
  have rising := reports_rising true {} oneClipGraph oneClip oneFile
  refine ⟨⟨_, _, plays_play oneWorker _, ?_, ?_⟩, ⟨_, _, plays_play oneWorker _, ?_, ?_⟩,
    _, _, fun e heard => natural_of_gave (gave_of_mem_play heard), plays_play oneWorker _, ?_, ?_⟩
  · exact (rising _).1 _ (plays_play oneWorker _)
  · decide +kernel
  · exact (rising _).2.1 _ (plays_play oneWorker _)
  · decide +kernel
  · exact (rising _).2.2 (fun e heard => natural_of_gave (gave_of_mem_play heard)) _
      (plays_play oneWorker _)
  · decide +kernel

end Montage
