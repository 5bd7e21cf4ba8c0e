import Montage.Proofs.Studio.Causes
import Montage.Proofs.Timeline.Metadata

/-!
# What breaks an exchange

The form of an export is sent to a worker and a video is received.  What goes wrong on the way is
expected; a form that cannot be sent at all, or a response that makes no sense, is not.

* `Http.Unsendable` — a form that cannot be sent to an address.
* `Http.delivers_submit`, `Http.delivers_readBody` — sending and receiving.
* `Submission.ofTimeline_eq_error_iff` — when no form can be made.
* `RemoteBackend.delivers_execute` — **exports on the worker**.
-/

namespace Montage

open Routine

variable {P : Event Studio → Prop} {C : Fault → Prop} {α : Type} {Q : α → Prop}

/-- Faults, and interruptions of an exchange besides. -/
def Interrupts (C : Fault → Prop) (f : Fault) : Prop :=
  C f ∨ ∃ problem message, f = .http problem message ∧ problem.isTransport = true

namespace Http

/-! ## Sending -/

/-- The address of a text, or what is wrong with it. -/
def addressOf (text : String) : Except Fault Url := do
  let u ← (Url.ofText text).mapError UrlProblem.fault
  if u.isAbsolute then return u else u.rooted.mapError UrlProblem.fault

/-- A form that cannot be sent: the address is none, some text has no bytes, or nothing can be
asked of the address. -/
def Unsendable (text : String) (parts : List FormPart) (f : Fault) : Prop :=
  addressOf text = .error f ∨ checkForm (parts.map masked) = .error f
    ∨ ∃ u, addressOf text = .ok u ∧ (u.checkSite = .error f ∨ u.checkKind = .error f)

lemma address_eq (text : String) : address text = Routine.ofFault (addressOf text) := by
  unfold address addressOf
  cases Url.ofText text with
  | error p => rfl
  | ok u =>
      change (if u.isAbsolute then _ else _) = Routine.ofFault (if u.isAbsolute then _ else _)
      split <;> rfl

/-- An interruption is expected; anything else that breaks an exchange is to blame. -/
lemma interrupts_fault {problem : HttpFault} (other : problem.problem.isTransport = false →
    C problem.fault) : Interrupts C problem.fault := by
  cases transport : problem.problem.isTransport with
  | true => exact .inr ⟨problem.problem, problem.message, rfl, transport⟩
  | false => exact .inl (other transport)

variable (blames : Blames P C)

/-- A response that has been heard. -/
def Heard (P : Event Studio → Prop) (request : HttpRequest) (r : Response) : Prop :=
  P (.awaited (.wait (.send request)) (.returned (Except.ok r)))

include blames in
lemma delivers_exchange {u : Url} {parts : List FormPart}
    (kind : ∀ f, u.checkKind = .error f → C f) :
    (exchange u (.post u.text parts)).Delivers (.hearing P)
      (Exit.Meets (Interrupts C) fun x => Heard P (.post u.text parts) x.1) := by
  have sends : (Studio.send (.post u.text parts)).Delivers (.hearing P)
      (Exit.Returns fun v => P (.awaited (.wait (.send (.post u.text parts))) (.returned v))) :=
    delivers_wait blames.answered _
  refine sends.andThen fun reply heard => ?_
  cases reply with
  | error problem =>
      exact delivers_done (interrupts_fault fun other => blames.causes _ _ heard (.network other))
  | ok r =>
      have breaks : ∀ f, Breaks (.post u.text parts) r f → Interrupts C f :=
        fun f breaks => .inl (blames.causes _ _ heard (.response breaks))
      have headers : Delivers (Regime.hearing P) (Exit.Meets (Interrupts C) fun _ => True)
          (Routine.ofFault (checkHeaders r)) :=
        delivers_ofFault (fun _ _ => trivial) fun f bad => breaks f (.headers bad)
      have kinds : Delivers (Regime.hearing P) (Exit.Meets (Interrupts C) fun _ => True)
          (Routine.ofFault u.checkKind) :=
        delivers_ofFault (fun _ _ => trivial) fun f bad => .inl (kind f bad)
      refine headers.bind fun _ _ => kinds.bind fun _ _ => ?_
      cases leads : location? r with
      | none => exact delivers_done heard
      | some location =>
          have targets : Delivers (Regime.hearing P) (Exit.Meets (Interrupts C) fun _ => True)
              (Routine.ofFault (u.target location)) :=
            delivers_ofFault (fun _ _ => trivial) fun f bad => breaks f (.location rfl leads bad)
          exact targets.bind fun next _ => delivers_done (x := .returned (r, some next)) heard

include blames in
/-- **A form is sent and a response has come**, or the exchange was interrupted, or broken. -/
lemma delivers_submit {text : String} {parts : List FormPart}
    (unsendable : ∀ f, Unsendable text parts f → C f) :
    (submit text parts).Delivers (.hearing P)
      (Exit.Meets (Interrupts C) fun r => ∃ request, Heard P request r) := by
  have addresses : (address text).Delivers (.hearing P)
      (Exit.Meets (Interrupts C) fun u => addressOf text = .ok u) := by
    rw [address_eq]
    exact delivers_ofFault (fun u same => same) fun f bad => .inl (unsendable f (.inl bad))
  refine addresses.bind fun u leads => ?_
  have forms : Delivers (Regime.hearing P) (Exit.Meets (Interrupts C) fun _ => True)
      (Routine.ofFault (checkForm (parts.map masked))) :=
    delivers_ofFault (fun _ _ => trivial) fun f bad => .inl (unsendable f (.inr (.inl bad)))
  have sites : Delivers (Regime.hearing P) (Exit.Meets (Interrupts C) fun _ => True)
      (Routine.ofFault u.checkSite) :=
    delivers_ofFault (fun _ _ => trivial)
      fun f bad => .inl (unsendable f (.inr (.inr ⟨u, leads, .inl bad⟩)))
  refine forms.bind fun _ _ => sites.bind fun _ _ => ?_
  refine (delivers_exchange blames
    fun f bad => unsendable f (.inr (.inr ⟨u, leads, .inr bad⟩))).bind fun x heard => ?_
  exact delivers_done (x := .returned x.1) ⟨_, heard⟩

/-! ## Receiving -/

lemma exists_of_error_mem_pieces {r : Response} {f : Fault} (found : .error f ∈ pieces r) :
    ∃ message, f = .http .decoding message := by
  rcases List.mem_append.mp found with found | found
  · obtain ⟨part, -, same⟩ := List.mem_map.mp found
    cases same
  · obtain ⟨problem, -, same⟩ := List.mem_map.mp found
    cases same
    exact ⟨_, rfl⟩

lemma interrupts_piece {r : Response} {f : Fault} (found : .error f ∈ pieces r) :
    Interrupts C f := by
  obtain ⟨message, rfl⟩ := exists_of_error_mem_pieces found
  exact .inr ⟨_, _, rfl, rfl⟩

include blames in
lemma delivers_finish {request : HttpRequest} {r : Response} (heard : Heard P request r) :
    (finish r).Delivers (.hearing P) (Exit.Meets (Interrupts C) fun _ => True) := by
  unfold finish
  split
  · rename_i problem broken
    exact delivers_done (interrupts_fault fun other =>
      blames.causes _ _ heard (.response (.brokenOff broken other)))
  · exact delivers_done trivial

include blames in
lemma delivers_readPieces {r : Response} {pieces : List (Except Fault ByteArray)}
    (among : ∀ piece ∈ pieces, piece ∈ Http.pieces r) :
    (readPieces pieces).Delivers (.hearing P)
      (Exit.Meets (Interrupts C) fun parts => pieces = parts.map .ok) := by
  induction pieces with
  | nil => exact delivers_done rfl
  | cons piece rest ih =>
      rw [List.forall_mem_cons] at among
      refine (delivers_wait blames.answered .piece).andThen fun _ _ => ?_
      cases piece with
      | error f => exact delivers_done (interrupts_piece among.1)
      | ok content =>
          refine (ih among.2).bind fun parts same => ?_
          exact delivers_done (x := .returned (content :: parts)) (by rw [same]; rfl)

include blames in
/-- **A body has come as a whole**, or it was interrupted, or broken off. -/
lemma delivers_readBody {request : HttpRequest} {r : Response} (heard : Heard P request r) :
    (readBody r).Delivers (.hearing P) (Exit.Meets (Interrupts C) (Holds r)) :=
  (delivers_readPieces blames fun _ found => found).bind fun parts same =>
    (delivers_finish blames heard).bind fun _ _ => delivers_done ⟨parts, same, rfl⟩

end Http

/-! ## The form of an export -/

/-- **A form can be made unless an integer of the timeline is too long**, and nothing else is wrong
with it then. -/
lemma Submission.ofTimeline_eq_error_iff {t : Timeline} {payloads : Payloads} {f : Fault} :
    ofTimeline t payloads = .error f ↔ f = .longNumeral
      ∧ ∃ i ∈ t.integers ++ [t.canvasWidth, t.canvasHeight], ¬ IsShort i := by
  have made : ofTimeline t payloads = ifShort (t.integers ++ ([t.canvasWidth] ++ [t.canvasHeight]))
      { metadata := String.ofList (Json.valueWritten Json.spaced t.toMetadata)
        canvasWidth := toString t.canvasWidth
        canvasHeight := toString t.canvasHeight
        files := List.zipWith videoFile t.clips payloads.clips
          ++ List.zipWith imageFile t.images payloads.images } := by
    rw [ofTimeline, Json.write, Json.writeWith_eq, t.integers_toMetadata, numeral_eq_ifShort,
      numeral_eq_ifShort]
    exact ifShort_bind (ifShort_bind (ifShort_bind_ok rfl))
  rw [made, ifShort_eq_error_iff]
  rfl

namespace RemoteBackend

/-- Why the form of an export cannot be sent: an integer is too long to be written in it, or no form
of these parts can be sent to the worker. -/
def Unsendable (settings : Settings) (t : Timeline) (payloads : Payloads) (f : Fault) : Prop :=
  (f = .longNumeral ∧ ∃ i ∈ t.integers ++ [t.canvasWidth, t.canvasHeight], ¬ IsShort i)
    ∨ ∃ s, Submission.ofTimeline t payloads = .ok s ∧ Http.Unsendable settings.remoteUrl s.parts f

open LocalBackend (report delivers_report)

/-! ## Exports on the worker -/

/-- An interruption is said on as the backend's own failure. -/
lemma delivers_transportExpected {r : NotingRoutine ProgressUpdate α}
    (inside : r.Delivers ((Regime.hearing P).noting ProgressUpdate)
      (Exit.Meets (Interrupts C) Q)) :
    (transportExpected r).Delivers ((Regime.hearing P).noting ProgressUpdate) (Exit.Meets C Q) := by
  refine inside.handle fun x meets => ?_
  cases x with
  | returned v => exact delivers_done meets
  | cancelled => exact meets.elim
  | failed e =>
      cases e with
      | expected e => exact delivers_done trivial
      | unexpected f =>
          cases f
          case http problem message =>
            dsimp only
            split
            · exact delivers_done trivial
            · split
              · exact delivers_done trivial
              · rename_i other
                rcases meets with known | ⟨_, _, same, transport⟩
                · exact delivers_done known
                · cases same
                  exact absurd transport other
          all_goals
            rcases meets with known | ⟨_, _, same, -⟩
            · exact delivers_done known
            · cases same

variable (blames : Blames P C)

include blames in
lemma delivers_receive {r : Response} (expected : Int) (received : Nat)
    {pieces : List (Except Fault ByteArray)} (among : ∀ piece ∈ pieces, piece ∈ Http.pieces r) :
    (receive expected received pieces).Delivers ((Regime.hearing P).noting ProgressUpdate)
      (Exit.Meets (Interrupts C) fun _ => True) := by
  induction pieces generalizing received with
  | nil => exact delivers_done trivial
  | cons piece rest ih =>
      rw [List.forall_mem_cons] at among
      refine (delivers_wait blames.answered .piece).lift.andThen fun _ _ => ?_
      cases piece with
      | error f => exact delivers_done (Http.interrupts_piece among.1)
      | ok content =>
          have rests : Delivers ((Regime.hearing P).noting ProgressUpdate)
              (Exit.Meets (Interrupts C) fun _ => True) (do
                return content :: (← receive expected (received + content.size) rest)) :=
            (ih _ among.2).bind fun parts _ =>
              delivers_done (x := .returned (content :: parts)) trivial
          change Delivers _ _ (if expected ≠ 0 && content.size ≠ 0 then _ else _)
          split
          · exact (delivers_report _ _ _).bind fun _ _ => rests
          · exact rests

include blames in
lemma delivers_exchange (settings : Settings) (s : Submission)
    (unsendable : ∀ f, Http.Unsendable settings.remoteUrl s.parts f → C f) :
    (exchange settings s).Delivers ((Regime.hearing P).noting ProgressUpdate)
      (Exit.Meets (Interrupts C) fun _ => True) := by
  refine (Http.delivers_submit blames unsendable).lift.bind fun r heard => ?_
  obtain ⟨request, heard⟩ := heard
  have breaks : ∀ f, Http.Breaks request r f → Interrupts C f :=
    fun f breaks => .inl (blames.causes _ _ heard (.response breaks))
  dsimp only
  split
  · rename_i failure
    refine (Http.delivers_readBody blames heard).lift.bind fun body holds => ?_
    have tells : Delivers ((Regime.hearing P).noting ProgressUpdate)
        (Exit.Meets (Interrupts C) fun _ => True)
        (Routine.ofFault (failureOfResponse r.status body)) :=
      delivers_ofFault (fun _ _ => trivial)
        fun f bad => breaks f (.report (by simpa using failure) holds bad)
    exact tells.bind fun _ _ => delivers_done trivial
  · rename_i success
    have lengths : Delivers ((Regime.hearing P).noting ProgressUpdate)
        (Exit.Meets (Interrupts C) fun _ => True) (Routine.ofFault (announcedLength r)) :=
      delivers_ofFault (fun _ _ => trivial)
        fun f bad => breaks f (.length (by simpa using success) bad)
    refine (delivers_report _ _ _).bind fun _ _ => (delivers_report _ _ _).bind fun _ _ => ?_
    refine lengths.bind fun expected _ => ?_
    refine (delivers_receive blames expected 0 fun _ found => found).bind fun parts _ => ?_
    exact (Http.delivers_finish blames heard).lift.bind fun _ _ =>
      delivers_done (x := .returned (Http.concat parts)) trivial

include blames in
/-- **An export on the worker returns a video or fails in the backend's own words**, unless its form
cannot be made or sent, or a reply has broken it. -/
theorem delivers_execute (settings : Settings) (t : Timeline) (payloads : Payloads)
    (unsendable : ∀ f, Unsendable settings t payloads f → C f) :
    (execute settings t payloads).Delivers ((Regime.hearing P).noting ProgressUpdate)
      (Exit.Meets C fun _ => True) := by
  have makes : Delivers ((Regime.hearing P).noting ProgressUpdate)
      (Exit.Meets C fun s => Submission.ofTimeline t payloads = .ok s)
      (Routine.ofFault (Submission.ofTimeline t payloads)) :=
    delivers_ofFault (fun _ made => made) fun f bad => unsendable f
      (.inl (Submission.ofTimeline_eq_error_iff.mp bad))
  refine (delivers_report _ _ _).bind fun _ _ => makes.bind fun s made => ?_
  have exchanges := delivers_transportExpected
    (delivers_exchange blames settings s fun f bad => unsendable f (.inr ⟨s, made, bad⟩))
  refine (delivers_report _ _ _).bind fun _ _ => (delivers_report _ _ _).bind fun _ _ =>
    exchanges.bind fun output _ => ?_
  dsimp only
  split
  · exact delivers_done trivial
  · exact (delivers_report _ _ _).bind fun _ _ => delivers_done trivial

end RemoteBackend

end Montage
