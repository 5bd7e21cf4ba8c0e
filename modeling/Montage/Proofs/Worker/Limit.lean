import Mathlib.Algebra.GroupWithZero.Nat
import Montage.Proofs.Studio.Spares
import Montage.Proofs.Studio.Histories
import Montage.Proofs.Worker.Verdict

/-!
# The limit of uploads

All files of a form together may have so many bytes.  They come in pieces and are counted while they
are stored: a piece is counted before it is written, and what a whole file has had is taken from
what the others may have.

* `History.handedOver` — how many bytes a history hands over to be written; `Regime.counting` — at
  no time more than so many.
* `Regime.tending` — what is known of the disk, which is shared with others.
* `Worker.StoredFirst` — **all uploads are in files of their own before the metadata is looked at**.
* **`upload_limit_exact`** — uploads are too large exactly when they exceed the limit together.
-/

namespace Montage

open Routine

/-! ## How much is written -/

/-- How many bytes are handed over to be written. -/
def StudioWait.handedOver : StudioWait → Nat
  | .write _ content => content.size
  | .append _ content => content.size
  | _ => 0

/-- The same for a question, whether it is answered or not. -/
def Event.handedOver : Event Studio → Nat
  | .awaited (.wait w) _ => w.handedOver
  | _ => 0

/-- How many bytes a history has handed over to files. -/
def History.handedOver (h : History Studio) : Nat := (h.map Event.handedOver).sum

/-- Nothing is handed over that would be more than the limit with all before it. -/
def Regime.counting (limit : Int) : Regime Studio Nat where
  mayAsk _ _ := True
  asked n _ _ m := m = n
  mayAwait
    | n, .wait w => (n + w.handedOver : Nat) ≤ limit
    | _, _ => True
  awaited
    | n, .wait w, _, m => m = n + w.handedOver
    | n, _, _, m => m = n

section Counting

variable {limit : Int} {α : Type} {r left : StudioRoutine α} {n : Nat}

/-- **Who counts stays within the limit**, wherever a history leads. -/
lemma within_of_counting {post : Nat → Exit α → Prop} {h : History Studio}
    (obeys : r.Obeys (.counting limit) post n) (small : (n : Int) ≤ limit)
    (leads : r.Leads h left) : (n + h.handedOver : Nat) ≤ limit := by
  induction leads generalizing n with
  | refl r => simpa [History.handedOver] using small
  | ask _ ih =>
      have later := ih ((obeys_ask_iff.mp obeys).2 _ _ rfl) small
      simpa [History.handedOver, Event.handedOver] using later
  | @await s k x h left _ ih =>
      obtain ⟨may, rest⟩ := obeys_await_iff.mp obeys
      cases s with
      | wait w =>
          have later := ih (rest x _ rfl) may
          rw [Nat.add_assoc] at later
          simpa [History.handedOver, Event.handedOver] using later
      | enter g => simpa [History.handedOver, Event.handedOver] using ih (rest x _ rfl) small
      | join j t => simpa [History.handedOver, Event.handedOver] using ih (rest x _ rfl) small
      | watch j t => simpa [History.handedOver, Event.handedOver] using ih (rest x _ rfl) small

/-- What hands nothing over is no matter of the count. -/
lemma spares_counting {I : Nat → Prop} (within : ∀ n, I n → (n : Int) ≤ limit) :
    (Regime.counting limit).Spares I (fun _ => True) fun w => w.handedOver = 0 where
  get n known := ⟨trivial, fun _ _ same => same ▸ known⟩
  act _ _ n known := ⟨trivial, fun _ _ same => same ▸ known⟩
  wait w nothing n known := by
    refine ⟨?_, fun _ m same => ?_⟩
    · change ((n + w.handedOver : Nat) : Int) ≤ limit
      rw [nothing]
      exact within n known
    · change m = n + w.handedOver at same
      rw [nothing] at same
      exact same ▸ known

end Counting

namespace Studio

variable {S : Type} {R : Regime Studio S} {I : S → Prop} {acts : StudioAct → Prop}
  {waits : StudioWait → Prop}

lemma maintains_atOnce {α : Type} {path : Path} {a : StudioAct} {same : a.Val = Except OsError α}
    (spares : R.Spares I acts waits) (may : acts a) : (atOnce path a same).Maintains R I := by
  unfold atOnce
  cases pathFault? path with
  | some f => exact maintains_done _
  | none => exact (maintains_perform spares may).bind fun _ => maintains_done _

end Studio

/-! ### The worker counts -/

namespace Worker

variable {limit : Int} {n : Nat} {path : Path}

/-- What is left to a file is left to what is handed over. -/
lemma counting_storePieces {budget : Int} {written : Nat} {pieces : List ByteArray}
    (left : n + (budget - written) ≤ limit) (small : (n : Int) ≤ limit) :
    (storePieces path budget written pieces).Obeys (.counting limit)
      (fun m x => (m : Int) ≤ limit
        ∧ ∀ w : Nat, x = .returned (some w) → m + (budget - w) ≤ limit) n := by
  have spares : ∀ n, (Regime.counting limit).Spares (fun m => m = n ∧ (m : Int) ≤ limit)
      (fun _ => True) fun w => w.handedOver = 0 := fun n => spares_counting fun _ => And.right
  induction pieces generalizing n written with
  | nil =>
      refine (Studio.maintains_wait (spares n) rfl n ⟨rfl, small⟩).bind ?_ ?_ ?_
      · rintro _ _ ⟨rfl, -⟩
        refine .done ⟨small, fun w same => ?_⟩
        cases same
        exact left
      · exact fun _ _ known => ⟨known.2, nofun⟩
      · exact fun _ known => ⟨known.2, nofun⟩
  | cons piece rest ih =>
      refine (Studio.maintains_wait (spares n) rfl n ⟨rfl, small⟩).bind ?_ ?_ ?_
      · rintro _ _ ⟨rfl, -⟩
        dsimp only
        split
        · exact .done ⟨small, nofun⟩
        · rename_i m _ within
          have room : ((m + piece.size : Nat) : Int) ≤ limit := by omega
          have appends : (Studio.appendFile path piece).Obeys (.counting limit)
              (fun k x => (k : Int) ≤ limit ∧ (x = .returned () → k = m + piece.size)) m := by
            refine (Studio.maintains_wait (spares m) rfl m ⟨rfl, small⟩).bind ?_ ?_ ?_
            · rintro _ _ ⟨rfl, -⟩
              dsimp only
              cases Studio.pathFault? path with
              | some f => exact .done ⟨small, nofun⟩
              | none =>
                  refine .await room fun x k same => ?_
                  obtain rfl : k = _ + piece.size := same
                  cases x with
                  | returned v => exact .done ⟨room, fun _ => rfl⟩
                  | failed e => exact .done ⟨room, fun _ => rfl⟩
                  | cancelled => exact .done ⟨room, fun _ => rfl⟩
            · exact fun _ _ known => ⟨known.2, nofun⟩
            · exact fun _ known => ⟨known.2, nofun⟩
          refine appends.bind (fun k u known => ?_) (fun k e known => ⟨known.1, nofun⟩)
            fun k known => ⟨known.1, nofun⟩
          obtain rfl := known.2 rfl
          exact ih (by omega) room
      · exact fun _ _ known => ⟨known.2, nofun⟩
      · exact fun _ known => ⟨known.2, nofun⟩

/-- What a file has had is taken from what the others may have. -/
lemma counting_storeAll {budget : Int} {files : List (Path × Upload)} (left : n + budget ≤ limit)
    (small : (n : Int) ≤ limit) :
    (storeAll budget files).Obeys (.counting limit) (fun m _ => (m : Int) ≤ limit) n := by
  induction files generalizing n budget with
  | nil => exact .done small
  | cons file rest ih =>
      have spares : (Regime.counting limit).Spares (fun m => m = n ∧ (m : Int) ≤ limit)
          (fun _ => True) fun w => w.handedOver = 0 := spares_counting fun _ => And.right
      have creates : (Studio.createFile file.1).Maintains (.counting limit) _ :=
        Studio.maintains_atOnce spares trivial
      refine (creates n ⟨rfl, small⟩).bind ?_ (fun _ _ known => known.2) fun _ known => known.2
      rintro m _ ⟨rfl, -⟩
      have start : (m : Int) + (budget - (0 : Nat)) ≤ limit := by omega
      refine (counting_storePieces start small).bind (fun m stored known => ?_)
        (fun _ _ known => known.1) fun _ known => known.1
      cases stored with
      | none => exact .done known.1
      | some w => exact ih (known.2 w rfl) known.1

variable {settings : Settings} {fresh : String} {directory : Path} {f : Form}

/-- A request hands over as much as its files may have. -/
lemma counting_answerForm (limited : 0 ≤ settings.workerMaxUploadBytes) :
    (answerForm settings fresh f).Obeys
      ((Regime.counting settings.workerMaxUploadBytes).noting Binary64)
      (fun m _ => (m : Int) ≤ settings.workerMaxUploadBytes) 0 := by
  have begins : (Regime.counting settings.workerMaxUploadBytes).Spares
      (fun m => m = 0 ∧ (m : Int) ≤ settings.workerMaxUploadBytes) (fun _ => True)
      fun w => w.handedOver = 0 := spares_counting fun _ => And.right
  have spares : (Regime.counting settings.workerMaxUploadBytes).Spares
      (fun m => (m : Int) ≤ settings.workerMaxUploadBytes) (fun _ => True)
      fun w => w.handedOver = 0 := spares_counting fun _ => id
  have attends : Tool.Attends (fun _ => True) fun w : StudioWait => w.handedOver = 0 :=
    ⟨fun _ => trivial, fun _ => trivial, fun _ => rfl, fun _ => rfl, fun _ => rfl⟩
  have renders : ∀ directory, (render settings fresh directory f).Maintains
      ((Regime.counting settings.workerMaxUploadBytes).noting Binary64)
      fun m => (m : Int) ≤ settings.workerMaxUploadBytes := by
    intro directory
    refine (maintains_done _).bind fun g => Maintains.bind (fun m known => ?_) fun _ =>
      ((Studio.maintains_inTime spares rfl rfl rfl).lift Binary64).bind fun _ => maintains_done _
    refine .await trivial fun x k same => ?_
    obtain rfl : k = m := same
    cases x with
    | failed e => exact .done known
    | cancelled => exact .done known
    | returned u =>
        refine (Tool.obeys_run spares attends (fun _ => rfl) trivial fun _ _ same => ?_).handle
          fun b x known => .ask trivial fun _ c same => ?_
        · exact (show _ = _ from same) ▸ known
        · exact .done ((show c = b from same) ▸ known)
  have clears : ∀ directory, (clear directory f).Maintains
      (Regime.counting settings.workerMaxUploadBytes)
      fun m => (m : Int) ≤ settings.workerMaxUploadBytes := by
    intro directory
    have pauses : (forEach f.uploads fun _ => Studio.pause).Maintains
        (Regime.counting settings.workerMaxUploadBytes)
        fun m => (m : Int) ≤ settings.workerMaxUploadBytes := by
      induction f.uploads with
      | nil => exact maintains_done _
      | cons u rest ih => exact (Studio.maintains_wait spares rfl).bind fun _ => ih
    refine pauses.bind fun _ => (Studio.maintains_inTime spares rfl rfl rfl).handle fun x => ?_
    split
    · exact maintains_done _
    · exact maintains_done _
  have makes : (Studio.makeDirectories (.ofText settings.workerRoot)).Maintains _ _ :=
    Studio.maintains_atOnce begins trivial
  have opens : (Studio.makeTemporary (.ofText settings.workerRoot) directoryBeginning).Maintains
      _ _ := Studio.maintains_atOnce begins trivial
  refine (makes.lift Binary64 0 ⟨rfl, limited⟩).bind (fun _ _ known => ?_)
    (fun _ _ known => known.2) fun _ known => known.2
  refine (opens.lift Binary64 _ known).bind (fun n directory known => ?_)
    (fun _ _ known => known.2) fun _ known => known.2
  have start : (n : Int) + settings.workerMaxUploadBytes ≤ settings.workerMaxUploadBytes := by
    rw [known.1]
    omega
  have works : (work settings fresh directory f).Obeys
      ((Regime.counting settings.workerMaxUploadBytes).noting Binary64)
      (fun m _ => (m : Int) ≤ settings.workerMaxUploadBytes) n := by
    refine ((counting_storeAll start known.2).lift Binary64).bind (fun m fits known => ?_)
      (fun _ _ known => known) fun _ known => known
    cases fits with
    | true => exact renders directory m known
    | false => exact .done known
  refine (works.handle fun m x known => ?_).handle fun m x known =>
    ((clears directory).lift Binary64 m known).bind (fun _ _ known => .done known)
      (fun _ _ known => known) fun _ known => known
  split
  · exact maintains_done _ m known
  · exact .done known

end Worker

/-! ## Files of their own -/

/-- The disk is known, as far as it matters. -/
def Regime.tending (here own : Place) (directory : Path) : Regime Studio Disk where
  mayAsk _ _ := True
  asked d q v d' := ∃ m, (Event.asked q v).Does here d m ∧ Disk.Spares here own directory m d'
  mayAwait _ _ := True
  awaited d s x d' := ∃ m, (Event.awaited s x).Does here d m ∧ Disk.Spares here own directory m d'

section Tending

variable {here own : Place} {directory : Path} {d d' : Disk} {h : History Studio}
  {files : List (String × ByteArray)} {name : String} {α : Type}

lemma Tended.follows (tended : Tended here own directory d h d') :
    Follows (.tending here own directory) d h d' := by
  induction tended with
  | nil => exact .refl _
  | @cons e h d m d' last does others _ ih =>
      cases e with
      | asked q v => exact .asked ⟨m, does, others⟩ ih
      | awaited s x => exact .awaited ⟨m, does, others⟩ ih

variable (isNames : ∀ f ∈ files, Path.IsName f.1) (isName : Path.IsName name)
  (fresh : name ∉ files.map Prod.fst)

include isNames in
/-- What is no matter of files changes nothing in the directory. -/
lemma tending_wait {w : StudioWait} (aside : ∀ x, (Event.awaited (.wait w) x).file? = none)
    (folder : d.Folder here own directory files) :
    (Studio.wait w).Obeys (.tending here own directory)
      (fun d' _ => d'.Folder here own directory files) d := by
  refine .await trivial fun x d' known => .done ?_
  obtain ⟨m, does, others⟩ := known
  obtain rfl := does.eq_of_aside (aside x)
  exact folder.spared isNames others

include isNames isName fresh in
lemma tending_createFile (folder : d.Folder here own directory files) :
    (Studio.createFile (directory.child name)).Obeys (.tending here own directory)
      (fun d' x => x = .returned () →
        d'.Folder here own directory ((name, ByteArray.empty) :: files)) d := by
  unfold Studio.createFile Studio.atOnce
  cases Studio.pathFault? (directory.child name) with
  | some f => exact .done nofun
  | none =>
      refine .ask trivial fun v d' known => ?_
      change Except OsError Unit at v
      obtain ⟨m, does, others⟩ := known
      cases v with
      | error e => exact .done nofun
      | ok u =>
          refine .done fun _ => ?_
          cases does with
          | aside none => cases none
          | created done =>
              exact (folder.write isName fresh done).spared
                (List.forall_mem_cons.mpr ⟨isName, isNames⟩) others

include isNames isName fresh in
lemma tending_appendFile {old content : ByteArray}
    (folder : d.Folder here own directory ((name, old) :: files)) :
    (Studio.appendFile (directory.child name) content).Obeys (.tending here own directory)
      (fun d' x => x = .returned () →
        d'.Folder here own directory ((name, old ++ content) :: files)) d := by
  have names : ∀ f ∈ (name, old) :: files, Path.IsName f.1 :=
    List.forall_mem_cons.mpr ⟨isName, isNames⟩
  refine (tending_wait names (fun _ => rfl) folder).bind (fun b _ folder => ?_)
    (fun _ _ _ => nofun) fun _ _ => nofun
  cases Studio.pathFault? (directory.child name) with
  | some f => exact .done nofun
  | none =>
      refine .await trivial fun x d' known => ?_
      obtain ⟨m, does, others⟩ := known
      cases x with
      | failed e => exact .done nofun
      | cancelled => exact .done nofun
      | returned v =>
          change Except OsError Unit at v
          cases v with
          | error e => exact .done nofun
          | ok u =>
              refine .done fun _ => ?_
              cases does with
              | aside none => cases none
              | appended done =>
                  exact (folder.append fresh done).spared
                    (List.forall_mem_cons.mpr ⟨isName, isNames⟩) others

namespace Worker

include isNames isName fresh in
/-- A file that was stored to its end holds all its pieces. -/
lemma tending_storePieces {limit : Int} {written : Nat} {pieces : List ByteArray} {old : ByteArray}
    (folder : d.Folder here own directory ((name, old) :: files)) :
    (storePieces (directory.child name) limit written pieces).Obeys (.tending here own directory)
      (fun d' x => ∀ w, x = .returned (some w) →
        d'.Folder here own directory ((name, old ++ joined pieces) :: files)) d := by
  have names : ∀ old, ∀ f ∈ (name, old) :: files, Path.IsName f.1 :=
    fun _ => List.forall_mem_cons.mpr ⟨isName, isNames⟩
  induction pieces generalizing d written old with
  | nil =>
      refine (tending_wait (names old) (fun _ => rfl) folder).bind (fun b _ folder => ?_)
        (fun _ _ _ _ => by rintro ⟨⟩) (fun _ _ _ => by rintro ⟨⟩)
      rw [joined, ByteArray.append_empty]
      exact .done fun _ _ => folder
  | cons piece rest ih =>
      refine (tending_wait (names old) (fun _ => rfl) folder).bind (fun b _ folder => ?_)
        (fun _ _ _ _ => by rintro ⟨⟩) (fun _ _ _ => by rintro ⟨⟩)
      dsimp only
      split
      · exact .done (by rintro _ ⟨⟩)
      · refine (tending_appendFile isNames isName fresh folder).bind (fun c u appended => ?_)
          (fun _ _ _ _ => by rintro ⟨⟩) (fun _ _ _ => by rintro ⟨⟩)
        have later := @ih _ (written + piece.size) _ (appended rfl)
        rwa [ByteArray.append_assoc] at later

/-- A file as it is found under its name. -/
def filed (u : String × Upload) : String × ByteArray := (u.1, u.2.content)

include isNames in
/-- **Files that were stored are found as they came**, each under its own name. -/
lemma tending_storeAll {limit : Int} {uploads : List (String × Upload)}
    (isName : ∀ u ∈ uploads, Path.IsName u.1)
    (distinct : (uploads.map Prod.fst ++ files.map Prod.fst).Nodup)
    (folder : d.Folder here own directory files) :
    (storeAll limit (uploads.map fun u => (directory.child u.1, u.2))).Obeys
      (.tending here own directory) (fun d' x => x = .returned true →
        d'.Folder here own directory (uploads.map filed ++ files)) d := by
  induction uploads generalizing d limit files with
  | nil => exact .done fun _ => folder
  | cons u rest ih =>
      obtain ⟨here', others⟩ := List.forall_mem_cons.mp isName
      rw [List.map_cons, List.cons_append, List.nodup_cons, List.mem_append, not_or] at distinct
      obtain ⟨fresh, distinct⟩ := distinct
      change (storeAll limit ((directory.child u.1, u.2) :: rest.map _)).Obeys _ _ _
      rw [storeAll]
      refine (tending_createFile isNames here' fresh.2 folder).bind (fun b _ created => ?_)
        (fun _ _ _ => nofun) fun _ _ => nofun
      refine (tending_storePieces isNames here' fresh.2 (created rfl)).bind
        (fun c stored known => ?_) (fun _ _ _ => nofun) fun _ _ => nofun
      cases stored with
      | none => exact .done nofun
      | some w =>
          have further : c.Folder _ _ _ _ := known w rfl
          rw [ByteArray.empty_append] at further
          have apart : (rest.map Prod.fst ++ (filed u :: files).map Prod.fst).Nodup := by
            rw [List.map_cons, List.nodup_middle]
            exact List.nodup_cons.mpr ⟨by simpa [filed] using fresh, distinct⟩
          have names : ∀ f ∈ filed u :: files, Path.IsName f.1 :=
            List.forall_mem_cons.mpr ⟨here', isNames⟩
          refine (ih names others apart further).mono fun d' x known same => (known same).mono ?_
          intro f among
          simp only [List.map_cons, List.cons_append, List.mem_cons, List.mem_append] at among ⊢
          tauto

end Worker

end Tending

/-! ## Parts of a request -/

namespace Routine

variable {E : Interface} {N α β : Type} {r r' : Routine E α} {h h' : History E}

/-- What is left of a routine with something after it. -/
lemma Leads.handle (leads : r.Leads h r') (f : Exit α → Routine E β) :
    (r.handle f).Leads h (r'.handle f) := by
  induction leads with
  | refl r => exact .refl _
  | ask _ ih => exact .ask ih
  | await _ ih => exact .await ih

/-- Notes are collected from what follows a routine that makes none. -/
lemma gatherFrom_handle_lift (notes : List N) (r : Routine E α)
    (k : Exit α → Routine (E.noting N) β) :
    ((r.lift : Routine (E.noting N) α).handle k).gatherFrom notes
      = r.handle fun x => (k x).gatherFrom notes := by
  induction r with
  | done x => rfl
  | ask q rest ih => cases q <;> exact congrArg (Routine.ask _) (funext ih)
  | await s rest ih => cases s <;> exact congrArg (Routine.await _) (funext ih)

lemma gather_handle_lift (r : Routine E α) (k : Exit α → Routine (E.noting N) β) :
    ((r.lift : Routine (E.noting N) α).handle k).gather = r.handle fun x => (k x).gather :=
  gatherFrom_handle_lift [] r k

lemma gather_bind_lift (r : Routine E α) (f : α → Routine (E.noting N) β) :
    ((r.lift : Routine (E.noting N) α) >>= f).gather
      = r.handle fun x => (stopWith x f : Routine (E.noting N) β).gather :=
  gather_handle_lift r _

/-- A history of such a routine goes on with its value. -/
lemma plays_gather_lift {P : Event E → Prop} {Q : α → Prop} {k : Exit α → Routine (E.noting N) β}
    {y : Exit (List N × Exit β)} (delivers : r.Delivers (.hearing P) (Exit.Returns Q))
    (heard : ∀ e ∈ h, P e)
    (plays : ((r.lift : Routine (E.noting N) α).handle k).gather.Plays h y) :
    ∃ v first rest, h = first ++ rest ∧ r.Plays first (.returned v) ∧ Q v
      ∧ (k (.returned v)).gather.Plays rest y := by
  rw [gather_handle_lift] at plays
  obtain ⟨first, x, rest, rfl, own, further⟩ := plays_handle.mp plays
  obtain ⟨v, rfl, holds⟩ := delivers.of_plays own fun e among =>
    heard e (List.mem_append_left rest among)
  exact ⟨v, first, rest, rfl, own, holds, further⟩

lemma leads_gather_lift {k : Exit α → Routine (E.noting N) β} {x : Exit α}
    {left : Routine E (List N × Exit β)} (plays : r.Plays h x)
    (leads : (k x).gather.Leads h' left) :
    ((r.lift : Routine (E.noting N) α).handle k).gather.Leads (h ++ h') left := by
  rw [gather_handle_lift]
  exact (plays.handle _).trans leads

/-- A history of a routine that goes on with the value of such a one (`plays_gather_lift`). -/
lemma plays_gather_bind {P : Event E → Prop} {Q : α → Prop} {f : α → Routine (E.noting N) β}
    {y : Exit (List N × Exit β)} (delivers : r.Delivers (.hearing P) (Exit.Returns Q))
    (heard : ∀ e ∈ h, P e)
    (plays : ((r.lift : Routine (E.noting N) α) >>= f).gather.Plays h y) :
    ∃ v first rest, h = first ++ rest ∧ r.Plays first (.returned v) ∧ Q v
      ∧ (f v).gather.Plays rest y :=
  plays_gather_lift delivers heard plays

lemma leads_gather_bind {f : α → Routine (E.noting N) β} {v : α}
    {left : Routine E (List N × Exit β)} (plays : r.Plays h (.returned v))
    (leads : (f v).gather.Leads h' left) :
    ((r.lift : Routine (E.noting N) α) >>= f).gather.Leads (h ++ h') left :=
  leads_gather_lift plays leads

end Routine

/-- What comes of a question about a path that can be handed over. -/
lemma Studio.plays_atOnce {α : Type} {path : Path} {a : StudioAct} {same : a.Val = Except OsError α}
    {h : History Studio} {v : α} (plain : pathFault? path = none)
    (plays : (atOnce path a same).Plays h (.returned v)) :
    ∃ reply : a.Val, h = [.asked (.act a) reply] ∧ same ▸ reply = .ok v := by
  unfold atOnce at plays
  rw [plain] at plays
  obtain ⟨reply, rest, rfl, ends⟩ := plays_ask.mp plays
  obtain ⟨rfl, returned⟩ := plays_done.mp ends
  refine ⟨reply, rfl, ?_⟩
  generalize (same ▸ reply : Except OsError α) = outcome at returned
  cases outcome with
  | error e => cases returned
  | ok w =>
      cases returned
      rfl

/-! ## Requests -/

namespace Worker

variable {settings : Settings} {fresh : String} {directory : Path} {f : Form}
  {h : History Studio}

/-- What a request does with a routine that works on it: it answers and clears up. -/
def concluding (directory : Path) (f : Form) (r : NotingRoutine Binary64 WorkerReply) :
    NotingRoutine Binary64 WorkerReply :=
  (answering r).ensuring (Routine.lift (clear directory f))

/-- What a request does once its files are stored. -/
def afterwards (settings : Settings) (fresh : String) (directory : Path) (f : Form) :
    NotingRoutine Binary64 WorkerReply :=
  concluding directory f (render settings fresh directory f)

/-- The names of the files of a form. -/
def names (f : Form) : List String := fileNames f.videos.length f.images.length

/-- How a request begins: with a directory of its own. -/
def opening (settings : Settings) (directory : Path) : History Studio :=
  [.asked (.act (.makeDirectories (.ofText settings.workerRoot))) (Except.ok ()),
    .asked (.act (.makeTemporary (.ofText settings.workerRoot) directoryBeginning))
      (Except.ok directory)]

/-- A history in which all uploads of a request are stored before anything else is done. -/
structure StoredFirst (settings : Settings) (fresh : String) (f : Form) (h : History Studio)
    (x : Exit (List Binary64 × Exit WorkerReply)) (directory : Path)
    (stored rest : History Studio) : Prop where
  parts : h = opening settings directory ++ (stored ++ rest)
  /-- Whatever the metadata is, the request comes to the point where it is looked at. -/
  regardless : ∀ metadata : String, (answerForm settings fresh { f with metadata }).gather.Leads
    (opening settings directory ++ stored)
    (afterwards settings fresh directory { f with metadata }).gather
  further : (afterwards settings fresh directory f).gather.Plays rest x
  distinct : (names f).Nodup
  /-- Every upload is found under its own name in the directory, on any disk that others use only
  besides. -/
  whole : ∀ (here own : Place) (d d' : Disk), d.resolve here directory = .ok own →
    d.node? own = some .directory → Tended here own directory d stored d' →
    List.Forall₂ (fun name upload =>
      d'.Holds here (directory.child name) (own ++ [name]) upload.content) (names f) f.uploads

/-! ### Storing -/

lemma length_names (f : Form) : (names f).length = f.uploads.length := by
  simp [names, fileNames, Form.uploads]

/-- The files of a form with their names. -/
lemma zip_paths (directory : Path) (f : Form) :
    (clipPaths directory f ++ imagePaths directory f).zip f.uploads
      = ((names f).zip f.uploads).map fun u => (directory.child u.1, u.2) := by
  have paths : clipPaths directory f ++ imagePaths directory f
      = (names f).map directory.child := by
    simp [clipPaths, imagePaths, names, fileNames, Function.comp_def]
  rw [paths, List.zip_map_left]
  rfl

/-- The files of a form are found as they came. -/
lemma whole_of_stored {stored : History Studio} {limit : Int}
    (plays : (storeAll limit ((clipPaths directory f ++ imagePaths directory f).zip
      f.uploads)).Plays stored (.returned true))
    {here own : Place} {d d' : Disk} (leads : d.resolve here directory = .ok own)
    (there : d.node? own = some .directory) (tended : Tended here own directory d stored d') :
    List.Forall₂ (fun name upload =>
      d'.Holds here (directory.child name) (own ++ [name]) upload.content) (names f) f.uploads := by
  have isName : ∀ u ∈ (names f).zip f.uploads, Path.IsName u.1 := fun u among =>
    isName_of_mem_fileNames (List.of_mem_zip among).1
  have distinct : (((names f).zip f.uploads).map Prod.fst
      ++ ([] : List (String × ByteArray)).map Prod.fst).Nodup := by
    rw [List.map_fst_zip (Nat.le_of_eq (length_names f)), List.map_nil, List.append_nil]
    exact nodup_fileNames _ _
  have empty : d.Folder here own directory [] := ⟨leads, there, List.forall_mem_nil _⟩
  rw [zip_paths] at plays
  have ends := (tending_storeAll (List.forall_mem_nil _) isName distinct empty).leads plays
    tended.follows
  cases ends with
  | done known =>
      have folder := known rfl
      refine List.forall₂_iff_zip.mpr ⟨length_names f, fun {name upload} among => ?_⟩
      have stays := folder.holds (filed (name, upload))
        (List.mem_append_left _ (List.mem_map_of_mem among))
      exact stays

/-- What follows the files of a form, by whether they are within the limit. -/
lemma concluding_work : concluding directory f (work settings fresh directory f)
    = (Routine.lift (storeAll settings.workerMaxUploadBytes
        ((clipPaths directory f ++ imagePaths directory f).zip f.uploads))).handle fun x =>
      concluding directory f (stopWith x fun fits =>
        if fits then render settings fresh directory f
        else pure (.refusal WorkerReply.tooLarge
          (tooLargeMessage settings.workerMaxUploadBytes))) := by
  unfold concluding answering Routine.ensuring
  rw [← handle_handle, ← handle_handle]
  rfl

/-- **A request whose files fit begins with storing all of them**, whatever follows. -/
lemma storedFirst {x : Exit (List Binary64 × Exit WorkerReply)}
    (root : Studio.pathFault? (.ofText settings.workerRoot) = none) (answered : h.Answered)
    (writable : ∀ e ∈ h, ¬ e.Refuses) (fits : Fits settings f)
    (plays : (answerForm settings fresh f).gather.Plays h x) :
    ∃ directory stored rest, StoredFirst settings fresh f h x directory stored rest := by
  obtain ⟨_, first, after, rfl, makes, -, plays⟩ :=
    plays_gather_bind (delivers_makeDirectories writable root) (fun _ => id) plays
  obtain ⟨directory, second, after, rfl, opens, ⟨handed, -⟩, plays⟩ :=
    plays_gather_bind (delivers_makeTemporary writable root)
      (fun e among => List.mem_append_right first among) plays
  change (concluding directory f (work settings fresh directory f)).gather.Plays after x at plays
  rw [concluding_work] at plays
  obtain ⟨within, stored, rest, rfl, stores, sized, further⟩ :=
    plays_gather_lift (delivers_storeForm answered writable handed _)
      (fun e among => List.mem_append_right first (List.mem_append_right second among)) plays
  cases within with
  | false => exact absurd fits (Int.not_le.mpr sized)
  | true =>
      obtain ⟨made, rfl, good⟩ := Studio.plays_atOnce root makes
      obtain ⟨opened, rfl, good'⟩ := Studio.plays_atOnce root opens
      obtain rfl : made = Except.ok () := good
      obtain rfl : opened = Except.ok directory := good'
      refine ⟨directory, stored, rest, rfl, fun metadata => ?_, further, nodup_fileNames _ _,
        fun _ _ _ _ => whole_of_stored stores⟩
      have works : (concluding directory { f with metadata }
          (work settings fresh directory { f with metadata })).gather.Leads stored
          (afterwards settings fresh directory { f with metadata }).gather := by
        rw [concluding_work, ← List.append_nil stored]
        exact leads_gather_lift stores (.refl _)
      have begins : (answerForm settings fresh { f with metadata }).gather.Leads
          ([.asked _ _] ++ ([.asked _ _] ++ stored)) _ :=
        leads_gather_bind makes (leads_gather_bind opens works)
      exact begins

/-- Only what is too large is answered so. -/
lemma Verdict.tooLarge_iff {P : Event Studio → Prop} {y : Exit WorkerReply}
    (verdict : Verdict P settings fresh directory f y) :
    (∃ reply, y = .returned reply ∧ reply.status = 413) ↔ ¬ Fits settings f := by
  have replied : ∀ {reply sent : WorkerReply}, replying reply = .returned sent → sent = reply := by
    intro reply sent same
    unfold replying sendable at same
    cases written : reply.body with
    | ok body =>
        rw [written] at same
        cases same
        rfl
    | error p =>
        rw [written] at same
        cases same
  constructor
  · rintro ⟨reply, same, status⟩ fits
    cases verdict with
    | tooLarge large => exact large fits
    | refused =>
        rw [replied same] at status
        cases status
    | failed =>
        rw [replied same] at status
        cases status
    | video =>
        cases same
        cases status
    | unread => cases same
    | broken => cases same
    | unwritten => cases same
  · intro large
    cases verdict with
    | tooLarge => exact ⟨_, rfl, rfl⟩
    | refused fits => exact absurd fits large
    | failed fits => exact absurd fits large
    | video fits => exact absurd fits large
    | unread fits => exact absurd fits large
    | broken fits => exact absurd fits large
    | unwritten fits => exact absurd fits large

end Worker

open Worker in
/-- **The limit of uploads is exact, however they are cut into pieces.**  At no time have more bytes
been handed over to be written than the limit says, whatever the surroundings reply.  Where files
can be stored, a request is answered as too large exactly when its files exceed the limit together,
whatever its metadata is; otherwise every file is stored as it came, under a name of its own, before
the metadata is looked at. -/
theorem upload_limit_exact (settings : Settings) (fresh : String) (f : Form)
    (limited : 0 ≤ settings.workerMaxUploadBytes) :
    (∀ h left, (answerForm settings fresh f).gather.Leads h left →
      (h.handedOver : Int) ≤ settings.workerMaxUploadBytes)
    ∧ ∀ (h : History Studio) (x : Exit (List Binary64 × Exit WorkerReply)),
      Studio.pathFault? (.ofText settings.workerRoot) = none → h.Answered →
      (∀ e ∈ h, ¬ e.Refuses) → (answerForm settings fresh f).gather.Plays h x →
      ∃ notes y, x = .returned (notes, y)
        ∧ ((∃ reply, y = .returned reply ∧ reply.status = 413)
          ↔ settings.workerMaxUploadBytes < totalSize (f.uploads.map Upload.content))
        ∧ ((¬ ∃ reply, y = .returned reply ∧ reply.status = 413) →
          ∃ directory stored rest, StoredFirst settings fresh f h x directory stored rest) := by
  constructor
  · intro h left leads
    have counts : (answerForm settings fresh f).gather.Obeys _ _ 0 :=
      (counting_answerForm limited).gatherFrom []
    have within := within_of_counting counts limited leads
    rwa [Nat.zero_add] at within
  · intro h x root answered writable plays
    have delivers : (answerForm settings fresh f).Delivers _ _ :=
      delivers_answerForm answered writable limited root
    obtain ⟨notes, y, same, directory, -, verdict⟩ :=
      Delivers.of_plays (Obeys.gatherFrom delivers []) plays fun _ => id
    refine ⟨notes, y, same, ?_, fun others => ?_⟩
    · rw [verdict.tooLarge_iff, Fits, Int.not_le]
    · rw [verdict.tooLarge_iff, not_not] at others
      exact storedFirst root answered writable others plays

/-- A form with two clips and an image, some of them in several pieces: fifteen bytes together. -/
def severalForm : Form where
  videos := [⟨["cl".toUTF8, "ip".toUTF8]⟩, ⟨["reel".toUTF8]⟩]
  metadata := "\x7b\"videos\": [\x7b\"startTime\": 0, \"endTime\": 1\x7d, "
    ++ "\x7b\"startTime\": 0, \"endTime\": 1, \"width\": 1, \"height\": 1\x7d], "
    ++ "\"images\": [\x7b\"startTime\": 0, \"endTime\": 1, \"width\": 1, \"height\": 1, "
    ++ "\"x\": 0, \"y\": 0\x7d]\x7d"
  canvasWidth := 2
  canvasHeight := 2
  images := [⟨["p".toUTF8, "ict".toUTF8, "ure".toUTF8]⟩]

/-- Files that have as many bytes together as the limit says, and the same with a limit that is one
byte less, which only the last piece of the last file exceeds. -/
theorem upload_limit_exact_sample :
    (∃ h notes directory stored rest,
      Worker.StoredFirst { workerMaxUploadBytes := 15 } "" severalForm h
        (.returned (notes, .returned (.video "video".toUTF8))) directory stored rest)
    ∧ ∃ h notes reply, (answerForm { workerMaxUploadBytes := 14 } "" severalForm).gather.Plays h
        (.returned (notes, .returned reply)) ∧ reply.status = 413 := by
  have size : totalSize (severalForm.uploads.map Upload.content) = 15 := by decide +kernel
  have root : Studio.pathFault? (.ofText ({} : Settings).workerRoot) = none := by decide +kernel
  constructor
  · have ends : ((answerForm { workerMaxUploadBytes := 15 } "" severalForm).gather.play
        (oneWorkspace (.ok []) (.ok "video".toUTF8))).2.map Prod.snd
        = .returned (.returned (.video "video".toUTF8)) := by
      decide +kernel
    obtain ⟨h, notes, plays, gave⟩ := exists_plays_gather ends
    obtain ⟨_, _, same, -, stored⟩ := (upload_limit_exact { workerMaxUploadBytes := 15 } ""
      severalForm (by decide)).2 h _ root (fun e heard => answered_of_gave (gave e heard))
      (fun e heard => not_refuses_of_gave (gave e heard)) plays
    cases same
    refine ⟨h, notes, stored ?_⟩
    rintro ⟨reply, same, status⟩
    cases same
    cases status
  · have ends : ((answerForm { workerMaxUploadBytes := 14 } "" severalForm).gather.play
        (oneWorkspace (.ok []) (.ok "video".toUTF8))).2.map Prod.snd
        = .returned (.returned (.refusal 413 (Worker.tooLargeMessage 14))) := by
      decide +kernel
    obtain ⟨h, notes, plays, gave⟩ := exists_plays_gather ends
    obtain ⟨_, y, same, exact', -⟩ := (upload_limit_exact { workerMaxUploadBytes := 14 } ""
      severalForm (by decide)).2 h _ root (fun e heard => answered_of_gave (gave e heard))
      (fun e heard => not_refuses_of_gave (gave e heard)) plays
    cases same
    obtain ⟨reply, same, status⟩ := exact'.mpr (by rw [size]; decide)
    cases same
    exact ⟨h, notes, _, plays, status⟩

end Montage
