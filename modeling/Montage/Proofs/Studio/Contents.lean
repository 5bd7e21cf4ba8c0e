import Montage.Proofs.Studio.Executions
import Montage.Proofs.Worker.Leaving
import Montage.Studio.Classification

/-!
# The contents of files

All files of a timeline are read in one loop and then told apart by their places.  None is lost, put
in another's place or read ahead of another, and the first one that cannot be read ends it all.

* `Misreads` — steps that fail only with faults that mean that a file cannot be read.
* `Exit.Reads` — the end of a routine that has a value, or fails so; `Event.Plain` — replies that
  break nothing else.
* **`Classification.reads_fetchFile`** — a fetch has a content or fails so.
* `Routine.ComesTo` — how a routine ends, whatever it notes; `comesTo_handle`,
  `comesTo_lift_handle` — its parts.
* `Classification.Reading` — files are read one after the other; **`comesTo_readAll`**.
* `Classification.Fetched`, `Classification.Unfetched` — all files of a list have contents, or one
  has none; **`reading_iff`** — how a reading ends.
* **`contents_in_order`** — what the classification of a timeline comes to.
-/

namespace Montage

open Classification (isUnreadable)
open Routine

section Fetching

variable {α β : Type}

/-! ## Steps -/

/-- Whatever fails means that a file cannot be read, so a failure of it is one of the
classification. -/
def Misreads (x : Except Fault α) : Prop := ∀ f, x = .error f → isUnreadable f = true

namespace Misreads

/-- Nothing fails here, so no fault has to be excused. -/
lemma ok (v : α) : Misreads (.ok v) := fun _ fails => by cases fails

/-- A fault that says that a file cannot be read. -/
lemma error {f : Fault} (unreadable : isUnreadable f = true) :
    Misreads (.error f : Except Fault α) := fun _ fails => by
    cases fails
    exact unreadable

/-- One computation after the other: the first fault counts. -/
lemma bind {x : Except Fault α} {g : α → Except Fault β} (first : Misreads x)
    (rest : ∀ v, Misreads (g v)) : Misreads (x >>= g) := fun f fails => by
  rcases bind_eq_error.mp fails with fails | ⟨v, -, fails⟩
  · exact first f fails
  · exact rest v f fails

/-- Errors of another kind that are all told as such faults. -/
lemma mapError {ε : Type} {g : ε → Fault} (unreadable : ∀ e, isUnreadable (g e) = true)
    (x : Except ε α) : Misreads (x.mapError g) := by
  cases x with
  | ok v => exact ok v
  | error e => exact error (unreadable e)

end Misreads

/-- Whatever is wrong with an address, the file it stands for cannot be read. -/
lemma isUnreadable_urlProblem (p : UrlProblem) : isUnreadable p.fault = true := by
  cases p <;> rfl

/-- A path that has no bytes cannot be read. -/
lemma isUnreadable_of_withheld {path : Path} {f : Fault}
    (withheld : Studio.pathFault? path = some f) : isUnreadable f = true := by
  obtain ⟨p, -, rfl⟩ := Option.map_eq_some_iff.mp withheld
  cases p <;> rfl

/-! ## References -/

namespace Reference

lemma misreads_bracketed (hostPort : List Char) : Misreads (bracketed hostPort) := by
  unfold bracketed
  split
  · dsimp only
    split
    · exact .ok _
    · exact .error rfl
  · exact .ok _

lemma misreads_checkBrackets (authority : List Char) : Misreads (checkBrackets authority) := by
  unfold checkBrackets
  dsimp only
  split
  · exact .error rfl
  split
  · exact .ok _
  refine (misreads_bracketed _).bind fun host => ?_
  split
  · split
    · exact .ok _
    · exact .error rfl
  split
  · exact .error rfl
  split
  · exact .ok _
  · exact .error rfl

lemma misreads_checkAuthority (authority : List Char) : Misreads (checkAuthority authority) := by
  refine (misreads_checkBrackets authority).bind fun _ => ?_
  unfold checkDisguises
  split
  · exact .error rfl
  · exact .ok _

lemma misreads_ofText (text : String) : Misreads (ofText text) :=
  (misreads_checkAuthority _).bind fun _ => .ok _

/-- A reference that is no path is one that cannot be read. -/
lemma misreads_toPath (text : String) : Misreads (toPath text) := by
  refine (misreads_ofText text).bind fun r => ?_
  split
  · exact .ok _
  · exact .ok _

/-- A location that leads nowhere is one that cannot be read. -/
lemma misreads_join (base text : String) : Misreads (join base text) := by
  unfold join
  split
  · exact .ok _
  split
  · exact .ok _
  refine (misreads_ofText base).bind fun b => (misreads_ofText text).bind fun r => ?_
  dsimp only
  generalize (if r.scheme = "" then b.scheme else r.scheme) = scheme
  split
  · exact .ok _
  · exact .ok _

end Reference

/-! ## Addresses -/

namespace Url

lemma misreads_hostCodes (u : Url) : Misreads (u.hostCodes.mapError Fault.badName) :=
  .mapError (fun _ => rfl) _

lemma misreads_checkSite (u : Url) : Misreads u.checkSite := by
  refine u.misreads_hostCodes.bind fun host => ?_
  split
  · exact .ok _
  split
  · exact .error rfl
  · exact .ok _

lemma misreads_ofLocation (location : String) : Misreads (ofLocation location) := by
  unfold ofLocation
  split
  · exact .ok _
  · exact .error rfl
  · exact .error rfl

lemma misreads_hosted (base target : Url) : Misreads (hosted base target) := by
  unfold hosted
  split
  · exact .ok _
  refine target.misreads_hostCodes.bind fun host => ?_
  split
  · exact .ok _
  · exact base.misreads_hostCodes.bind fun host => .mapError isUnreadable_urlProblem _

/-- A redirect to nowhere makes a file unreadable, as a wrong reference does. -/
lemma misreads_target (base : Url) (location : String) : Misreads (base.target location) := by
  let checked (u : Url) : Except Fault Url := u.checkSite >>= fun _ => pure u
  have checks : ∀ u, Misreads (checked u) := fun u => u.misreads_checkSite.bind fun _ => .ok _
  let marked (u : Url) : Except Fault Url :=
    if base.fragmentText.isEmpty || !u.fragmentText.isEmpty then pure u >>= checked
    else (u.withFragment base.fragmentText).mapError UrlProblem.fault >>= checked
  have marks : ∀ u, Misreads (marked u) := fun u => by
    dsimp only [marked]
    split
    · exact checks u
    · exact (Misreads.mapError isUnreadable_urlProblem _).bind checks
  refine (misreads_ofLocation location).bind fun u => (misreads_hosted base u).bind fun u => ?_
  change Misreads (if u.isAbsolute then pure u >>= marked else
    Reference.join base.text u.text >>= fun text =>
      (ofText text).mapError UrlProblem.fault >>= marked)
  split
  · exact marks u
  · exact (Reference.misreads_join _ _).bind fun text =>
      (Misreads.mapError isUnreadable_urlProblem _).bind marks

lemma misreads_checkKind (u : Url) : Misreads u.checkKind := by
  unfold checkKind
  split
  · exact .error rfl
  · exact (Reference.misreads_ofText _).bind fun _ => .ok _

end Url

/-! ## Ends -/

/-- A value of a kind, or a fault that means that a file cannot be read. -/
def Exit.Reads (Q : α → Prop) : Exit α → Prop
  | .returned v => Q v
  | .failed (.unexpected f) => isUnreadable f = true
  | _ => False

/-- A reply that comes, and that breaks an exchange in no other way: not by cookies in conflict or a
body that is read the wrong way. -/
structure Event.Plain (e : Event Studio) : Prop where
  answered : e.Answered
  reply : ∀ request problem,
    e = .awaited (.wait (.send request)) (.returned (Except.error problem)) →
      isUnreadable problem.fault = true
  body : ∀ request (r : Response) problem,
    e = .awaited (.wait (.send request)) (.returned (Except.ok r)) → r.broken = some problem →
      isUnreadable problem.fault = true

namespace Routine

variable {R : Regime Studio Unit} {Q : α → Prop} {Q' : β → Prop} {r : StudioRoutine α}

/-- Reading goes on with a value; a fault that says that a file cannot be read ends it. -/
lemma Delivers.reads {f : α → StudioRoutine β} (first : r.Delivers R (Exit.Reads Q))
    (rest : ∀ v, Q v → (f v).Delivers R (Exit.Reads Q')) :
    (r.bind f).Delivers R (Exit.Reads Q') :=
  Obeys.bind first (fun _ => rest)
    (fun _ e reads => by cases e <;> exact reads) fun _ => False.elim

/-- A step that fails so. -/
lemma delivers_misreads {x : Except Fault α} (misreads : Misreads x) :
    (ofFault x : StudioRoutine α).Delivers R (Exit.Reads fun _ => True) := by
  cases x with
  | ok v => exact delivers_done trivial
  | error f => exact delivers_done (misreads f rfl)

end Routine

/-! ## Exchanges -/

namespace Http

variable {r : Response}

lemma misreads_addressOf (text : String) : Misreads (addressOf text) := by
  refine Misreads.bind (.mapError isUnreadable_urlProblem _) fun u => ?_
  split
  · exact .ok _
  · exact .mapError isUnreadable_urlProblem _

/-- An address comes out, or it says why it cannot be read. -/
lemma reads_address (text : String) :
    (address text).Delivers (.hearing Event.Plain) (Exit.Reads fun _ => True) := by
  rw [address_eq]
  exact delivers_misreads (misreads_addressOf text)

lemma misreads_checkHeaders (r : Response) : Misreads (checkHeaders r) := by
  unfold checkHeaders
  dsimp only
  split
  · exact .error rfl
  · exact .ok _

/-- The body of a response breaks off in no other way. -/
def Tellable (r : Response) : Prop :=
  ∀ problem, r.broken = some problem → isUnreadable problem.fault = true

/-- The pieces of a body come out, or what breaks them off says why. -/
lemma reads_readPieces {pieces : List (Except Fault ByteArray)}
    (among : ∀ piece ∈ pieces, piece ∈ Http.pieces r) :
    (readPieces pieces).Delivers (.hearing Event.Plain) (Exit.Reads fun _ => True) := by
  induction pieces with
  | nil => exact delivers_done trivial
  | cons piece rest ih =>
      rw [List.forall_mem_cons] at among
      refine (delivers_wait (fun _ => Event.Plain.answered) .piece).andThen fun _ _ => ?_
      cases piece with
      | error f =>
          obtain ⟨message, rfl⟩ := exists_of_error_mem_pieces among.1
          exact delivers_done rfl
      | ok content =>
          exact (ih among.2).reads fun parts _ =>
            delivers_done (x := .returned (content :: parts)) trivial

lemma reads_readBody (tellable : Tellable r) :
    (readBody r).Delivers (.hearing Event.Plain) (Exit.Reads fun _ => True) := by
  refine (reads_readPieces fun _ found => found).reads fun parts _ => ?_
  have finishes : (finish r).Delivers (.hearing Event.Plain) (Exit.Reads fun _ => True) := by
    unfold finish
    split
    · rename_i problem broken
      exact delivers_done (tellable problem broken)
    · exact delivers_done trivial
  exact finishes.reads fun _ _ => delivers_done trivial

/-- An exchange comes to a response that can be told, or says why there is none. -/
lemma reads_exchange (u : Url) (request : HttpRequest) :
    (exchange u request).Delivers (.hearing Event.Plain) (Exit.Reads fun x => Tellable x.1) := by
  have sends : (Studio.send request).Delivers (.hearing Event.Plain) (Exit.Returns fun v =>
      Event.Plain (.awaited (.wait (.send request)) (.returned v))) :=
    delivers_wait (fun _ => Event.Plain.answered) _
  refine sends.andThen fun reply plain => ?_
  cases reply with
  | error problem => exact delivers_done (plain.reply request problem rfl)
  | ok r =>
      have tellable : Tellable r := fun problem => plain.body request r problem rfl
      refine (delivers_misreads (misreads_checkHeaders r)).reads fun _ _ =>
        (delivers_misreads u.misreads_checkKind).reads fun _ _ => ?_
      cases location? r with
      | none => exact delivers_done tellable
      | some location =>
          exact (delivers_misreads (u.misreads_target location)).reads fun next _ =>
            delivers_done (x := .returned (r, some next)) tellable

/-- So does a chain of redirects, by induction on how many are left. -/
lemma reads_request (follow : Bool) (left : Nat) (u : Url) :
    (request follow left u).Delivers (.hearing Event.Plain)
      (Exit.Reads fun x => Tellable x.2) := by
  induction left generalizing u with
  | zero => exact delivers_done rfl
  | succ left ih =>
      refine (reads_exchange u (.fetch u.text)).reads fun x tellable => ?_
      obtain ⟨r, next⟩ := x
      cases next with
      | none => exact delivers_done tellable
      | some next =>
          dsimp only
          split
          · exact (reads_readBody tellable).reads fun _ _ => ih next
          · exact delivers_done tellable

/-- So does everything that it takes to fetch a file. -/
lemma reads_fetch (follow : Bool) (text : String) :
    (fetch follow text).Delivers (.hearing Event.Plain) (Exit.Reads fun _ => True) := by
  refine (reads_address text).reads fun u _ =>
    (delivers_misreads u.misreads_checkSite).reads fun _ _ =>
      (reads_request follow requestLimit u).reads fun x tellable => ?_
  obtain ⟨u, r⟩ := x
  refine (reads_readBody tellable).reads fun body _ => ?_
  split
  · exact delivers_done trivial
  · exact delivers_done rfl

end Http

namespace Classification

/-- **A fetch has a content, or it fails with a fault that means that the file cannot be read.** -/
theorem reads_fetchFile (follow : Bool) (source : String) :
    (fetchFile follow source).Delivers (.hearing Event.Plain) (Exit.Reads fun _ => True) := by
  unfold fetchFile
  split
  · exact Http.reads_fetch follow source
  · refine (delivers_misreads (Reference.misreads_toPath source)).reads fun path _ => ?_
    refine Studio.delivers_inTime (fun _ => Event.Plain.answered)
      (fun f => isUnreadable_of_withheld) fun reply _ => ?_
    change Except OsError ByteArray at reply
    cases reply with
    | ok content => trivial
    | error e => rfl

end Classification

end Fetching

lemma map_eq_returned {α β : Type} {f : α → β} {x : Exit α} {v : β} :
    x.map f = .returned v ↔ ∃ w, x = .returned w ∧ f w = v := by
  cases x <;> simp [Exit.map]

/-! ## Ends of routines that make notes -/

namespace Routine

variable {E : Interface} {N α β : Type} {h : History E} {notes : List N} {y : Exit α}

/-- A history leads a routine to an end, whatever it notes. -/
def ComesTo (r : Routine (E.noting N) α) (h : History E) (y : Exit α) : Prop :=
  ∃ notes, r.gather.Plays h (.returned (notes, y))

/-- Earlier notes are no matter. -/
lemma comesTo_of_gatherFrom {r : Routine (E.noting N) α} (earlier : List N)
    (ends : ∃ later, (r.gatherFrom notes).Plays h (.returned (later, y))) :
    ∃ later, (r.gatherFrom earlier).Plays h (.returned (later, y)) := by
  induction r generalizing h notes earlier with
  | done x =>
      obtain ⟨later, plays⟩ := ends
      obtain ⟨rfl, same⟩ := plays_done.mp plays
      cases same
      exact ⟨_, .refl _⟩
  | ask q k ih =>
      obtain ⟨later, plays⟩ := ends
      cases q with
      | act a =>
          cases a with
          | inl n => exact ih () _ ⟨later, plays⟩
          | inr a =>
              obtain ⟨v, rest, rfl, further⟩ := plays_ask.mp plays
              obtain ⟨later, further⟩ := ih v earlier ⟨later, further⟩
              exact ⟨later, .ask further⟩
      | _ =>
          obtain ⟨v, rest, rfl, further⟩ := plays_ask.mp plays
          obtain ⟨later, further⟩ := ih v earlier ⟨later, further⟩
          exact ⟨later, .ask further⟩
  | await s k ih =>
      obtain ⟨later, plays⟩ := ends
      cases s with
      | _ =>
          obtain ⟨v, rest, rfl, further⟩ := plays_await.mp plays
          obtain ⟨later, further⟩ := ih v earlier ⟨later, further⟩
          exact ⟨later, .await further⟩

lemma comesTo_done {x : Exit α} :
    (.done x : Routine (E.noting N) α).ComesTo h y ↔ h = [] ∧ y = x := by
  constructor
  · rintro ⟨_, plays⟩
    obtain ⟨rfl, same⟩ := plays_done.mp plays
    cases same
    exact ⟨rfl, rfl⟩
  · rintro ⟨rfl, rfl⟩
    exact ⟨_, .refl _⟩

/-- Notes are not seen in what a routine comes to. -/
lemma comesTo_note {n : N} {k : Unit → Routine (E.noting N) α} :
    (Routine.ask (E := E.noting N) (.act (.inl n)) k).ComesTo h y ↔ (k ()).ComesTo h y :=
  ⟨fun ends => comesTo_of_gatherFrom (r := k ()) [] ends,
    fun ends => comesTo_of_gatherFrom (r := k ()) [n] ends⟩

/-- What comes after a routine, however that has ended. -/
lemma comesTo_handle {r : Routine (E.noting N) α} {k : Exit α → Routine (E.noting N) β}
    {z : Exit β} : (r.handle k).ComesTo h z ↔
      ∃ first x rest, h = first ++ rest ∧ r.ComesTo first x ∧ (k x).ComesTo rest z := by
  constructor
  · rintro ⟨_, plays⟩
    rw [gather, gatherFrom_handle] at plays
    obtain ⟨first, p, rest, rfl, own, further⟩ := plays_handle.mp plays
    obtain ⟨⟨later, x⟩, rfl⟩ := returned_of_plays_gatherFrom own
    exact ⟨first, x, rest, rfl, ⟨later, own⟩, comesTo_of_gatherFrom [] ⟨_, further⟩⟩
  · rintro ⟨first, x, rest, rfl, ⟨notes, own⟩, further⟩
    obtain ⟨later, further⟩ := comesTo_of_gatherFrom notes.reverse further
    refine ⟨later, ?_⟩
    rw [gather, gatherFrom_handle]
    exact plays_handle.mpr ⟨first, _, rest, rfl, own, further⟩

/-- A routine that makes no notes comes first. -/
lemma comesTo_lift_handle {r : Routine E α} {k : Exit α → Routine (E.noting N) β} {z : Exit β} :
    ((r.lift (N := N)).handle k).ComesTo h z ↔
      ∃ first x rest, h = first ++ rest ∧ r.Plays first x ∧ (k x).ComesTo rest z := by
  unfold ComesTo
  rw [gather_handle_lift]
  constructor
  · rintro ⟨notes, plays⟩
    obtain ⟨first, x, rest, rfl, own, further⟩ := plays_handle.mp plays
    exact ⟨first, x, rest, rfl, own, notes, further⟩
  · rintro ⟨first, x, rest, rfl, own, notes, further⟩
    exact ⟨notes, plays_handle.mpr ⟨first, x, rest, rfl, own, further⟩⟩

/-- Nothing follows a routine that has no value. -/
lemma comesTo_stopWith {x : Exit α} {f : α → Routine (E.noting N) β} (g : α → β)
    (unreturned : ∀ v, x ≠ .returned v) {z : Exit β} :
    (stopWith x f).ComesTo h z ↔ h = [] ∧ z = x.map g := by
  cases x with
  | returned v => exact absurd rfl (unreturned v)
  | failed e => exact comesTo_done
  | cancelled => exact comesTo_done

/-- A last step that is taken at once. -/
lemma comesTo_bind_done {r : Routine (E.noting N) α} {f : α → Routine (E.noting N) β} {g : α → β}
    (last : ∀ v {h z}, (f v).ComesTo h z ↔ h = [] ∧ z = .returned (g v)) {z : Exit β} :
    (r.bind f).ComesTo h z ↔ ∃ x, r.ComesTo h x ∧ z = x.map g := by
  have stops : ∀ (x : Exit α) {h z}, (stopWith x f).ComesTo h z ↔ h = [] ∧ z = x.map g := by
    intro x h z
    cases x with
    | returned v => exact last v
    | failed e => exact comesTo_done
    | cancelled => exact comesTo_done
  rw [Routine.bind, comesTo_handle]
  constructor
  · rintro ⟨first, x, rest, rfl, own, further⟩
    obtain ⟨rfl, rfl⟩ := (stops x).mp further
    exact ⟨x, by rwa [List.append_nil], rfl⟩
  · rintro ⟨x, own, rfl⟩
    exact ⟨h, x, [], (List.append_nil h).symm, own, (stops x).mpr ⟨rfl, rfl⟩⟩

end Routine

namespace Classification

variable {follow : Bool} {source : String} {sources : List String} {h : History Studio}

/-! ## Reading -/

/-- The end of a fetch as its reader hears of it. -/
def told (source : String) : Exit ByteArray → Exit ByteArray
  | .failed (.unexpected f) =>
    .failed (if isUnreadable f then .expected (.classification source f) else .unexpected f)
  | x => x

/-- A failure never becomes a content. -/
lemma told_eq_returned {x : Exit ByteArray} {content : ByteArray} :
    told source x = .returned content ↔ x = .returned content := by
  cases x with
  | returned v => exact Iff.rfl
  | cancelled => exact Iff.rfl
  | failed e =>
      cases e with
      | expected e => exact Iff.rfl
      | unexpected f => exact iff_of_false (fun same => by cases same) fun same => by cases same

/-- Reading a file in the words of the classifier is reading it, its end told differently. -/
lemma plays_readingExpected {r : StudioRoutine ByteArray} {z : Exit ByteArray} :
    (readingExpected source r).Plays h z ↔ ∃ x, r.Plays h x ∧ z = told source x := by
  have tells : readingExpected source r = r.handle fun x => .done (told source x) := by
    refine congrArg r.handle (funext fun x => ?_)
    cases x with
    | returned v => rfl
    | cancelled => rfl
    | failed e =>
        cases e with
        | expected e => rfl
        | unexpected f =>
            dsimp only [told]
            split <;> rfl
  rw [tells, plays_handle]
  constructor
  · rintro ⟨first, x, rest, rfl, own, ends⟩
    obtain ⟨rfl, rfl⟩ := plays_done.mp ends
    exact ⟨x, by rwa [List.append_nil], rfl⟩
  · rintro ⟨x, own, rfl⟩
    exact ⟨h, x, [], (List.append_nil h).symm, own, .refl _⟩

/-- Files are read one after the other, up to the first one that has no content. -/
inductive Reading (follow : Bool) : List String → History Studio → Exit (List ByteArray) → Prop
  | none : Reading follow [] [] (.returned [])
  | next {source : String} {sources : List String} {own rest : History Studio}
      {content : ByteArray} {y : Exit (List ByteArray)}
      (fetched : (fetchFile follow source).Plays own (.returned content))
      (further : Reading follow sources rest y) :
      Reading follow (source :: sources) (own ++ rest) (y.map (content :: ·))
  | broken {source : String} {sources : List String} {own : History Studio} {x : Exit ByteArray}
      (unfetched : (fetchFile follow source).Plays own x)
      (unreturned : ∀ content, x ≠ .returned content) :
      Reading follow (source :: sources) own ((told source x).map fun content => [content])

/-- **So all files of a timeline are read.** -/
lemma comesTo_readAll {total index : Nat} {y : Exit (List ByteArray)} :
    (readAll follow total index sources).ComesTo h y ↔ Reading follow sources h y := by
  induction sources generalizing index h y with
  | nil =>
      refine comesTo_done.trans ⟨?_, ?_⟩
      · rintro ⟨rfl, rfl⟩
        exact .none
      · rintro ⟨⟩
        exact ⟨rfl, rfl⟩
  | cons source rest ih =>
      have appends : ∀ (content : ByteArray) {h y},
          ((readAll follow total (index + 1) rest).bind fun more =>
            .done (.returned (content :: more))).ComesTo h y
          ↔ ∃ z, Reading follow rest h z ∧ y = z.map (content :: ·) := fun content {h y} => by
        rw [comesTo_bind_done fun more => comesTo_done]
        exact exists_congr fun z => and_congr_left fun _ => ih
      refine comesTo_note.trans (comesTo_lift_handle.trans ⟨?_, ?_⟩)
      · rintro ⟨own, z, later, rfl, reads, further⟩
        obtain ⟨x, fetch, rfl⟩ := plays_readingExpected.mp reads
        by_cases returned : ∃ content, x = .returned content
        · obtain ⟨content, rfl⟩ := returned
          obtain ⟨z, reading, rfl⟩ := (appends content).mp further
          exact .next fetch reading
        · have unreturned : ∀ content, x ≠ .returned content := fun content same =>
            returned ⟨content, same⟩
          obtain ⟨rfl, rfl⟩ := (comesTo_stopWith (fun content => [content]) fun content same =>
            unreturned content (told_eq_returned.mp same)).mp further
          rw [List.append_nil]
          exact .broken fetch unreturned
      · intro reading
        cases reading with
        | @next _ _ own later content z fetch reading =>
            exact ⟨own, .returned content, later, rfl,
              plays_readingExpected.mpr ⟨_, fetch, rfl⟩, (appends content).mpr ⟨z, reading, rfl⟩⟩
        | @broken _ _ _ x fetch unreturned =>
            refine ⟨h, told source x, [], (List.append_nil h).symm,
              plays_readingExpected.mpr ⟨x, fetch, rfl⟩, ?_⟩
            exact (comesTo_stopWith (fun content => [content]) fun content same =>
              unreturned content (told_eq_returned.mp same)).mpr ⟨rfl, rfl⟩

/-! ## Contents -/

/-- All files of a list have contents: they are fetched one after the other, each once, and nothing
else is done. -/
inductive Fetched (follow : Bool) : List String → History Studio → List ByteArray → Prop
  | none : Fetched follow [] [] []
  | next {source : String} {sources : List String} {own rest : History Studio}
      {content : ByteArray} {contents : List ByteArray}
      (fetched : (fetchFile follow source).Plays own (.returned content))
      (further : Fetched follow sources rest contents) :
      Fetched follow (source :: sources) (own ++ rest) (content :: contents)

/-- There are as many contents as there are files. -/
lemma Fetched.length_eq {contents : List ByteArray} (fetched : Fetched follow sources h contents) :
    contents.length = sources.length := by
  induction fetched with
  | none => rfl
  | next _ _ ih => rw [List.length_cons, List.length_cons, ih]

/-- What is fetched for two lists is fetched for one and then for the other. -/
lemma fetched_append {others : List String} {contents : List ByteArray} :
    Fetched follow (sources ++ others) h contents ↔
      ∃ first second as bs, h = first ++ second ∧ contents = as ++ bs
        ∧ Fetched follow sources first as ∧ Fetched follow others second bs := by
  induction sources generalizing h contents with
  | nil =>
      constructor
      · exact fun fetched => ⟨[], h, [], contents, rfl, rfl, .none, fetched⟩
      · rintro ⟨_, second, _, bs, rfl, rfl, ⟨⟩, fetched⟩
        exact fetched
  | cons source rest ih =>
      constructor
      · rintro (_ | ⟨fetched, further⟩)
        obtain ⟨first, second, as, bs, rfl, rfl, some, others⟩ := ih.mp further
        exact ⟨_, second, _, bs, (List.append_assoc ..).symm, rfl, .next fetched some, others⟩
      · rintro ⟨_, second, _, bs, rfl, rfl, _ | ⟨fetched, some⟩, others⟩
        rw [List.append_assoc]
        exact .next fetched (ih.mpr ⟨_, second, _, bs, rfl, rfl, some, others⟩)

/-- The end of a list of files that have been read up to one that has no content. -/
structure Unfetched (follow : Bool) (sources : List String) (h : History Studio) (source : String)
    (x : Exit ByteArray) : Prop where
  /-- No file after that one is fetched, and it is fetched once. -/
  exists_parts : ∃ read unread contents first own, sources = read ++ source :: unread
    ∧ h = first ++ own ∧ Fetched follow read first contents ∧ (fetchFile follow source).Plays own x
  unreturned : ∀ content, x ≠ .returned content

/-- An end without a value stays as it is. -/
lemma map_told {x : Exit ByteArray} (unreturned : ∀ content, x ≠ .returned content)
    (f : List ByteArray → List ByteArray) :
    ((told source x).map fun content => [content]).map f
      = (told source x).map fun content => [content] := by
  cases ends : told source x with
  | returned content => exact absurd (told_eq_returned.mp ends) (unreturned content)
  | failed e => rfl
  | cancelled => rfl

/-- **A reading has read all files, or it ends with the first one that has no content.** -/
lemma reading_iff {y : Exit (List ByteArray)} :
    Reading follow sources h y ↔
      (∃ contents, y = .returned contents ∧ Fetched follow sources h contents)
      ∨ ∃ source x, Unfetched follow sources h source x
        ∧ y = (told source x).map fun content => [content] := by
  constructor
  · intro reading
    induction reading with
    | none => exact .inl ⟨[], rfl, .none⟩
    | @next source sources own rest content y fetched _ ih =>
        rcases ih with ⟨contents, rfl, further⟩ | ⟨last, x, unfetched, rfl⟩
        · exact .inl ⟨content :: contents, rfl, .next fetched further⟩
        · obtain ⟨⟨read, unread, contents, first, tried, rfl, rfl, before, fails⟩, unreturned⟩ :=
            unfetched
          refine .inr ⟨last, x, ⟨⟨source :: read, unread, content :: contents, own ++ first, tried,
            rfl, (List.append_assoc ..).symm, .next fetched before, fails⟩, unreturned⟩, ?_⟩
          exact map_told unreturned _
    | @broken source sources own x fails unreturned =>
        exact .inr ⟨source, x, ⟨⟨[], sources, [], [], own, rfl, rfl, .none, fails⟩, unreturned⟩,
          rfl⟩
  · rintro (⟨contents, rfl, fetched⟩ | ⟨source, x, unfetched, rfl⟩)
    · induction fetched with
      | none => exact .none
      | next fetched _ ih => exact .next fetched ih
    · obtain ⟨⟨read, unread, contents, first, own, rfl, rfl, before, fails⟩, unreturned⟩ :=
        unfetched
      induction before with
      | none => exact .broken fails unreturned
      | @next _ _ _ _ content _ fetched _ ih =>
          rw [← map_told unreturned (content :: ·), List.append_assoc]
          exact .next fetched ih

/-! ## Classifying -/

section Statement

variable {t : Timeline} {y : Exit Payloads}

/-- Classifying comes to what reading the sources in order comes to. -/
lemma comesTo_classify :
    (classify follow t).ComesTo h y ↔ ∃ z, Reading follow t.sources h z
      ∧ y = z.map (Payloads.ofFiles t.clips.length) :=
  (comesTo_bind_done fun _ => comesTo_note.trans comesTo_done).trans
    (exists_congr fun _ => and_congr_left fun _ => comesTo_readAll)

/-- Payloads are returned when all files have contents, the clips and then the images. -/
lemma comesTo_returned {payloads : Payloads} :
    (classify follow t).ComesTo h (.returned payloads) ↔ ∃ first second, h = first ++ second
      ∧ Fetched follow (t.clips.map Clip.source) first payloads.clips
      ∧ Fetched follow (t.images.map ImageOverlay.source) second payloads.images := by
  rw [comesTo_classify]
  constructor
  · rintro ⟨z, reading, same⟩
    rcases reading_iff.mp reading with ⟨contents, rfl, fetched⟩ | ⟨source, x, unfetched, rfl⟩
    · obtain ⟨first, second, as, bs, rfl, rfl, clips, images⟩ := fetched_append.mp fetched
      have length : as.length = t.clips.length :=
        clips.length_eq.trans (List.length_map Clip.source)
      cases same
      refine ⟨first, second, rfl, ?_, ?_⟩
      · rwa [Payloads.ofFiles, List.take_left' length]
      · rwa [Payloads.ofFiles, List.drop_left' length]
    · obtain ⟨_, inner, -⟩ := map_eq_returned.mp same.symm
      obtain ⟨content, ends, -⟩ := map_eq_returned.mp inner
      exact absurd (told_eq_returned.mp ends) (unfetched.unreturned content)
  · rintro ⟨first, second, rfl, clips, images⟩
    have length : payloads.clips.length = t.clips.length :=
      clips.length_eq.trans (List.length_map Clip.source)
    have whole : Fetched follow t.sources (first ++ second) (payloads.clips ++ payloads.images) :=
      fetched_append.mpr ⟨first, second, _, _, rfl, rfl, clips, images⟩
    refine ⟨_, reading_iff.mpr (.inl ⟨_, rfl, whole⟩), congrArg Exit.returned ?_⟩
    rw [Payloads.ofFiles, List.take_left' length, List.drop_left' length]

/-- What a fetch without a content comes to where nothing else breaks it. -/
lemma Unfetched.exists_fault {x : Exit ByteArray} (unfetched : Unfetched follow sources h source x)
    (plain : ∀ e ∈ h, e.Plain) : ∃ f, x = .failed (.unexpected f) ∧ isUnreadable f = true := by
  obtain ⟨⟨read, unread, contents, first, own, -, rfl, -, fails⟩, unreturned⟩ := unfetched
  have reads : x.Reads fun _ => True :=
    (reads_fetchFile follow source).of_plays fails fun e among =>
      plain e (List.mem_append_right first among)
  cases x with
  | returned content => exact absurd rfl (unreturned content)
  | cancelled => exact reads.elim
  | failed e =>
      cases e with
      | expected e => exact reads.elim
      | unexpected f => exact ⟨f, rfl, reads⟩

lemma told_unreadable {f : Fault} (unreadable : isUnreadable f = true) :
    told source (.failed (.unexpected f)) = .failed (.expected (.classification source f)) := by
  rw [told, if_pos unreadable]

/-- Where nothing else breaks a fetch, payloads are returned or a file could not be read … -/
lemma comesTo_cases (plain : ∀ e ∈ h, e.Plain) (ends : (classify follow t).ComesTo h y) :
    (∃ payloads, y = .returned payloads)
      ∨ ∃ source f, y = .failed (.expected (.classification source f)) := by
  obtain ⟨z, reading, rfl⟩ := comesTo_classify.mp ends
  rcases reading_iff.mp reading with ⟨contents, rfl, -⟩ | ⟨source, x, unfetched, rfl⟩
  · exact .inl ⟨_, rfl⟩
  · obtain ⟨f, rfl, unreadable⟩ := unfetched.exists_fault plain
    rw [told_unreadable unreadable]
    exact .inr ⟨source, f, rfl⟩

/-- … and this was the first file that could not. -/
lemma comesTo_failed {f : Fault} (plain : ∀ e ∈ h, e.Plain) :
    (classify follow t).ComesTo h (.failed (.expected (.classification source f))) ↔
      Unfetched follow t.sources h source (.failed (.unexpected f)) := by
  rw [comesTo_classify]
  constructor
  · rintro ⟨z, reading, same⟩
    rcases reading_iff.mp reading with ⟨contents, rfl, -⟩ | ⟨last, x, unfetched, rfl⟩
    · cases same
    · obtain ⟨g, rfl, unreadable⟩ := unfetched.exists_fault plain
      rw [told_unreadable unreadable] at same
      cases same
      exact unfetched
  · intro unfetched
    obtain ⟨_, same, unreadable⟩ := unfetched.exists_fault plain
    cases same
    refine ⟨_, reading_iff.mpr (.inr ⟨source, _, unfetched, rfl⟩), ?_⟩
    rw [told_unreadable unreadable]
    rfl

end Statement

end Classification

/-- The summed size is the sum of the sizes, whatever way it is added up. -/
lemma totalSize_eq_sum (files : List ByteArray) :
    totalSize files = (files.map ByteArray.size).sum := by
  induction files with
  | nil => rfl
  | cons file rest ih => rw [totalSize, ih, List.map_cons, List.sum_cons]

open Classification in
/-- **All files have contents, or the first one that has none is to blame.**  When payloads are
returned, each clip and each image is what was fetched for its own reference, all of them one after
the other, and all sizes count, also those of references that stand there twice.  Otherwise the
first file that could not be read is named with what was wrong, and none after it is fetched. -/
theorem contents_in_order (follow : Bool) (t : Timeline) (h : History Studio) :
    (∀ payloads, (classify follow t).ComesTo h (.returned payloads) ↔ ∃ first second,
      h = first ++ second
      ∧ Fetched follow (t.clips.map Clip.source) first payloads.clips
      ∧ Fetched follow (t.images.map ImageOverlay.source) second payloads.images)
    ∧ (∀ payloads, (classify follow t).ComesTo h (.returned payloads) →
      Fetched follow t.sources h payloads.files
      ∧ payloads.totalBytes = (payloads.files.map ByteArray.size).sum)
    ∧ ((∀ e ∈ h, e.Plain) →
      (∀ y, (classify follow t).ComesTo h y → (∃ payloads, y = .returned payloads)
        ∨ ∃ source f, y = .failed (.expected (.classification source f)))
      ∧ ∀ source f, (classify follow t).ComesTo h (.failed (.expected (.classification source f))) ↔
        ∃ read unread contents first own, t.sources = read ++ source :: unread
          ∧ h = first ++ own ∧ Fetched follow read first contents
          ∧ (fetchFile follow source).Plays own (.failed (.unexpected f))) := by
  refine ⟨fun payloads => comesTo_returned, fun payloads returned => ⟨?_, ?_⟩, fun plain =>
    ⟨fun y => comesTo_cases plain, fun source f =>
      (comesTo_failed plain).trans ⟨?_, fun parts => ?_⟩⟩⟩
  · obtain ⟨first, second, rfl, clips, images⟩ := comesTo_returned.mp returned
    exact fetched_append.mpr ⟨first, second, _, _, rfl, rfl, clips, images⟩
  · rw [Payloads.totalBytes, ← totalSize_append, totalSize_eq_sum, Payloads.files]
  · exact fun unfetched => unfetched.exists_parts
  · exact ⟨parts, fun content same => by cases same⟩

/-- A clip that stands on itself as a picture, twice. -/
def thrice : Timeline where
  canvasWidth := 2
  canvasHeight := 2
  clips := [⟨"c", ⟨0, 1⟩, "c.mp4", none, none, 0, 0⟩]
  images := [⟨"i", ⟨0, 1⟩, "c.mp4", 2, 2, 0, 0⟩, ⟨"j", ⟨0, 1⟩, "c.mp4", 2, 2, 0, 0⟩]
  texts := []

/-- Where everything is there, replies are as they should be. -/
lemma plain_of_gave {content : Except OsError ByteArray} {e : Event Studio}
    (gave : (oneWorkspace (.ok []) content).Gave e) : e.Plain where
  answered := answered_of_gave gave
  reply request problem same := by
    subst same
    cases gave
  body request r problem same broken := by
    subst same
    cases gave
    cases broken

/-- One file is fetched three times, or cannot be read the first time. -/
theorem contents_in_order_sample :
    (∃ h payloads, (∀ e ∈ h, e.Plain) ∧ (Classification.classify true thrice).ComesTo h
        (.returned payloads)
      ∧ payloads = ⟨["video".toUTF8], ["video".toUTF8, "video".toUTF8]⟩
      ∧ payloads.totalBytes = 15
      ∧ ∃ first second, h = first ++ second
        ∧ Classification.Fetched true ["c.mp4"] first payloads.clips
        ∧ Classification.Fetched true ["c.mp4", "c.mp4"] second payloads.images)
    ∧ ∃ h, (∀ e ∈ h, e.Plain) ∧ (Classification.classify true thrice).ComesTo h
        (.failed (.expected (.classification "c.mp4" (.os (.notFound "c.mp4")))))
      ∧ ∃ read unread contents first own, thrice.sources = read ++ "c.mp4" :: unread
        ∧ h = first ++ own ∧ Classification.Fetched true read first contents
        ∧ (Classification.fetchFile true "c.mp4").Plays own
          (.failed (.unexpected (.os (.notFound "c.mp4")))) := by
  have ends : ∀ (content : Except OsError ByteArray) y,
      ((Classification.classify true thrice).gather.play (oneWorkspace (.ok []) content)).2.map
        Prod.snd = .returned y →
      ∃ h, (∀ e ∈ h, e.Plain) ∧ (Classification.classify true thrice).ComesTo h y := by
    intro content y same
    obtain ⟨h, notes, plays, gave⟩ := exists_plays_gather same
    exact ⟨h, fun e among => plain_of_gave (gave e among), notes, plays⟩
  constructor
  · obtain ⟨h, plain, returned⟩ := ends (.ok "video".toUTF8)
      (.returned ⟨["video".toUTF8], ["video".toUTF8, "video".toUTF8]⟩) (by decide +kernel)
    obtain ⟨parts, total, -⟩ := contents_in_order true thrice h
    exact ⟨h, _, plain, returned, rfl, (total _ returned).2.trans (by decide +kernel),
      (parts _).mp returned⟩
  · obtain ⟨h, plain, failed⟩ := ends (.error (.notFound "c.mp4"))
      (.failed (.expected (.classification "c.mp4" (.os (.notFound "c.mp4"))))) (by decide +kernel)
    exact ⟨h, plain, failed, (((contents_in_order true thrice h).2.2 plain).2 _ _).mp failed⟩

end Montage
