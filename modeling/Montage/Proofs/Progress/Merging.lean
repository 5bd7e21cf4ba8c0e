import Mathlib.Tactic.Common
import Montage.Progress.Stream
import Montage.Proofs.Binary64.Monotone

/-!
# Merged progress

Whatever is reported, in whichever order of phases, the stream of events does not go back, and it
ends at 100 once it has been there.

* `upTo_place` — **a place on the bar lies on the bar**, whatever the progress; a not-a-number
  counts as none.
* `Tracker.OnBar` — the invariant of a tracker; `onBar_apply` — a call keeps it.
* `Tracker.events` — the events of calls; `events_increasing`, `events_onBar`, `events_completed`.
* **`Tracker.advancing_events`** — the events of a tracker stay on the bar and do not go back.
* `EventStream.follow_eq` — **a stream is its tracker's, whoever listens**, and the listener has
  been told of each event once.
-/

namespace Montage

open Binary64

/-! ## Numbers that are at least zero -/

/-- The units of 100. -/
def fullUnits : Nat := 100 * one

namespace Binary64

lemma ofNat_eq (k : Nat) : (OfNat.ofNat k : Binary64) = ofInt k := rfl

variable {b : Nat} {x y : Binary64}

/-- Such a number is not negative. -/
lemma UpTo.zero_le (hx : UpTo b x) : le 0 x = true := by
  obtain ⟨s, m, _, rfl, -, sign⟩ := hx
  rw [ofNat_eq, ofInt_natCast (by decide)]
  refine (UpTo.le_iff UpTo.unsigned sign).mpr ?_
  rw [Nat.zero_mul]
  exact Nat.zero_le m

/-- A number up to the full bar is at most 100. -/
lemma UpTo.le_full (hx : UpTo fullUnits x) : le x 100 = true := by
  obtain ⟨s, m, _, rfl, bound, sign⟩ := hx
  have whole : (100 : Binary64) = finite false fullUnits (onGrid_ofNat (by decide)) :=
    ofInt_natCast (k := 100) (by decide)
  rw [whole]
  exact (UpTo.le_iff sign UpTo.unsigned).mpr bound

lemma upTo_hundred : UpTo fullUnits 100 := UpTo.ofNat (k := 100) (by decide)

lemma upTo_zero : UpTo b 0 := (UpTo.ofNat (k := 0) (by decide)).mono (by omega)

/-- The greater of two numbers is not less than the first. -/
lemma le_maxFirst (hx : UpTo b x) (y : Binary64) : le x (maxFirst x y) = true := by
  unfold maxFirst
  split
  · rename_i less
    rw [lt_eq_true] at less
    simp [le, less]
  · obtain ⟨s, m, _, rfl, -, sign⟩ := hx
    exact (UpTo.le_iff sign sign).mpr (Nat.le_refl m)

/-- The larger of two such numbers is one. -/
lemma upTo_maxFirst (hx : UpTo b x) (hy : UpTo b y) : UpTo b (maxFirst x y) := by
  unfold maxFirst
  split
  · exact hy
  · exact hx

/-- Nothing on the bar is beyond its end. -/
lemma maxFirst_hundred (hx : UpTo fullUnits x) : maxFirst 100 x = 100 := by
  rw [maxFirst, lt_eq_false_of_le hx.le_full, if_neg Bool.false_ne_true]

end Binary64

/-! ## Places on the bar -/

namespace Phase

/-- Whatever it was, a clamped progress is from 0 to 100. -/
lemma upTo_clamp (progress : Binary64) : UpTo fullUnits (clamp progress) := by
  unfold clamp minFirst
  split
  · rename_i less
    -- it is less than 100, and not below zero
    unfold maxFirst at less ⊢
    split
    · rename_i positive
      rw [if_pos positive] at less
      rw [lt_eq_true, ofNat_eq, ofInt_natCast (by decide)] at less positive
      cases progress with
      | nan => cases positive
      | infinite s => cases s <;> simp_all [compare?]
      | finite s n grid =>
          rw [compare?, Option.some.injEq, Int.compare_eq_lt] at less positive
          cases s with
          | true =>
              simp only [signedUnits, if_true, Nat.zero_mul] at positive
              exact absurd positive (by simp)
          | false =>
              refine ⟨false, n, grid, rfl, ?_, fun same => absurd same Bool.false_ne_true⟩
              simp only [signedUnits, Bool.false_eq_true, if_false] at less
              exact Nat.le_of_lt (Int.ofNat_lt.mp less)
    · exact upTo_zero
  · exact upTo_hundred

/-- Where the band of a phase starts. -/
def start : Phase → Nat
  | classifying => 0
  | preparing => 10
  | processing => 50
  | finalizing => 90

/-- How long the band of a phase is. -/
def extent : Phase → Nat
  | classifying => 10
  | preparing => 40
  | processing => 40
  | finalizing => 10

variable (phase : Phase) {x y : Binary64}

/-- No band goes beyond the bar. -/
lemma start_add_extent_le : phase.start + phase.extent ≤ 100 := by cases phase <;> decide

/-- The ends of a band are whole numbers. -/
lemma band_eq :
    phase.band = (ofInt phase.start, ofInt (phase.start + phase.extent : Nat)) := by
  cases phase <;> rfl

/-- The place of a progress from 0 to 100. -/
def onBand (x : Binary64) : Binary64 :=
  roundPlaces 2 (ofInt phase.start + ofInt phase.extent * x / ofInt (100 : Nat))

/-- The place on the bar is that of the clamped progress. -/
lemma place_eq (progress : Binary64) : phase.place progress = phase.onBand (clamp progress) := by
  have widths : (10 : Binary64) - 0 = 10 ∧ (50 : Binary64) - 10 = 40 ∧ (90 : Binary64) - 50 = 40
      ∧ (100 : Binary64) - 90 = 10 := by decide +kernel
  obtain ⟨classifying, preparing, processing, finalizing⟩ := widths
  cases phase with
  | classifying =>
      simp only [place, band, classifying]
      rfl
  | preparing =>
      simp only [place, band, preparing]
      rfl
  | processing =>
      simp only [place, band, processing]
      rfl
  | finalizing =>
      simp only [place, band, finalizing]
      rfl

/-! ### The steps of the computation -/

lemma small_of_le {k : Nat} (le : k ≤ 10000) : k < twoTo 53 := Nat.lt_of_le_of_lt le (by decide)

lemma upTo_start : UpTo (phase.start * one) (ofInt phase.start) :=
  UpTo.ofNat (small_of_le (by have := phase.start_add_extent_le; omega))

lemma upTo_extent : UpTo (phase.extent * one) (ofInt phase.extent) :=
  UpTo.ofNat (small_of_le (by have := phase.start_add_extent_le; omega))

/-- The extent times the progress, before it is divided; rounding does not lead out of the bounds,
since they are doubles themselves. -/
lemma upTo_scaled (hx : UpTo fullUnits x) :
    UpTo (phase.extent * 100 * one) (ofInt phase.extent * x) := by
  have room := phase.start_add_extent_le
  refine phase.upTo_extent.mul hx (onGrid_ofNat (small_of_le (by omega))) (Nat.le_of_eq ?_)
  rw [fullUnits, Nat.mul_assoc phase.extent 100 one, Nat.mul_right_comm phase.extent one]

/-- The part of the band that is done is at most the band. -/
lemma upTo_share (hx : UpTo fullUnits x) :
    UpTo (phase.extent * one) (ofInt phase.extent * x / ofInt (100 : Nat)) := by
  have room := phase.start_add_extent_le
  exact (phase.upTo_scaled hx).div_ofNat (by decide) (by decide)
    (onGrid_ofNat (small_of_le (by omega))) (Nat.le_of_eq (Nat.mul_right_comm phase.extent 100 one))

/-- What is done lies within the band. -/
lemma upTo_sum (hx : UpTo fullUnits x) :
    UpTo ((phase.start + phase.extent) * one)
      (ofInt phase.start + ofInt phase.extent * x / ofInt (100 : Nat)) := by
  have room := phase.start_add_extent_le
  have grid : OnGrid (phase.start * one + phase.extent * one) := by
    rw [← Nat.add_mul]
    exact onGrid_ofNat (small_of_le (by omega))
  rw [Nat.add_mul]
  exact phase.upTo_start.add (phase.upTo_share hx) grid

/-- So it does after it was rounded to two places. -/
lemma upTo_onBand (hx : UpTo fullUnits x) :
    UpTo ((phase.start + phase.extent) * one) (phase.onBand x) := by
  have room := phase.start_add_extent_le
  exact (phase.upTo_sum hx).roundPlaces (small_of_le (by omega)) 2

/-- **A place on the bar lies on the bar.** -/
theorem upTo_place (progress : Binary64) : UpTo fullUnits (phase.place progress) := by
  rw [place_eq]
  exact (phase.upTo_onBand (upTo_clamp progress)).mono
    (Nat.mul_le_mul_right one phase.start_add_extent_le)

end Phase

/-! ## Trackers -/

namespace Tracker

/-- The last place lies on the bar; every call keeps it, since an event is a place or the last one
again. -/
def OnBar (t : Tracker) : Prop := UpTo fullUnits t.last

variable {t : Tracker}

lemma onBar_new : OnBar {} := upTo_zero

/-- **One call keeps to the bar, and does not go back.** -/
lemma onBar_event (onBar : t.OnBar) {call : TrackerCall} {e : ProgressEvent}
    (made : t.event? call = some e) : UpTo fullUnits e.progress ∧ le t.last e.progress = true := by
  cases call with
  | bind backend => cases made
  | report u =>
      obtain rfl := Option.some.inj made
      have place := Phase.upTo_place u.phase u.progress
      exact ⟨upTo_maxFirst onBar place, le_maxFirst onBar _⟩
  | complete message =>
      obtain rfl := Option.some.inj made
      exact ⟨upTo_hundred, UpTo.le_full onBar⟩

/-- The highest progress after a call is that of its event, if it has one. -/
lemma last_apply (t : Tracker) (call : TrackerCall) :
    (t.apply call).last = ((t.event? call).map ProgressEvent.progress).getD t.last := by
  cases call <;> rfl

lemma last_complete (t : Tracker) (message : String) : (t.apply (.complete message)).last = 100 :=
  rfl

/-- A tracker stays on the bar, whatever it is called with. -/
lemma onBar_apply (onBar : t.OnBar) (call : TrackerCall) : (t.apply call).OnBar := by
  rw [OnBar, last_apply]
  cases made : t.event? call with
  | none => exact onBar
  | some e => exact (onBar_event onBar made).1

/-- The tracker after some calls. -/
def follow (t : Tracker) (calls : List TrackerCall) : Tracker := calls.foldl apply t

/-- The events of some calls. -/
@[simp]
def events (t : Tracker) : List TrackerCall → List ProgressEvent
  | [] => []
  | call :: rest => (t.event? call).toList ++ (t.apply call).events rest

lemma follow_append (t : Tracker) (first rest : List TrackerCall) :
    t.follow (first ++ rest) = (t.follow first).follow rest := List.foldl_append

/-- The events of calls one after the other. -/
lemma events_append (t : Tracker) (first rest : List TrackerCall) :
    t.events (first ++ rest) = t.events first ++ (t.follow first).events rest := by
  induction first generalizing t with
  | nil => rfl
  | cons call first ih => rw [List.cons_append, events, events, ih, List.append_assoc, follow,
      follow, List.foldl_cons]

/-- All events lie on the bar, and none before the last place. -/
lemma events_onBar (onBar : t.OnBar) (calls : List TrackerCall) :
    ∀ e ∈ t.events calls, UpTo fullUnits e.progress ∧ le t.last e.progress = true := by
  induction calls generalizing t with
  | nil => exact fun _ among => absurd among List.not_mem_nil
  | cons call rest ih =>
      intro e among
      rw [events, List.mem_append, Option.mem_toList] at among
      rcases among with made | later
      · exact onBar_event onBar made
      · have next := onBar_apply onBar call
        obtain ⟨upTo, after⟩ := ih next e later
        refine ⟨upTo, ?_⟩
        rw [last_apply] at after
        cases made : t.event? call with
        | none =>
            rw [made] at after
            exact after
        | some first =>
            rw [made] at after
            have before := (onBar_event onBar made).2
            exact le_trans before after

/-- **The events do not go back.** -/
theorem events_increasing (onBar : t.OnBar) (calls : List TrackerCall) :
    (t.events calls).Pairwise fun a b => le a.progress b.progress = true := by
  induction calls generalizing t with
  | nil => exact .nil
  | cons call rest ih =>
      have next := onBar_apply onBar call
      rw [events]
      cases made : t.event? call with
      | none => exact ih next
      | some first =>
          refine .cons (fun e later => ?_) (ih next)
          have after := (events_onBar next rest e later).2
          rwa [last_apply, made] at after

/-- **Once an export is complete, all further events are at 100.** -/
theorem events_completed (full : t.last = 100) (calls : List TrackerCall) :
    ∀ e ∈ t.events calls, e.progress = 100 := by
  induction calls generalizing t with
  | nil => exact fun _ among => absurd among List.not_mem_nil
  | cons call rest ih =>
      have made : ∀ e, t.event? call = some e → e.progress = 100 := by
        intro e made
        cases call with
        | bind backend => cases made
        | complete message =>
            obtain rfl := Option.some.inj made
            rfl
        | report u =>
            obtain rfl := Option.some.inj made
            change maxFirst t.last _ = 100
            rw [full]
            exact maxFirst_hundred (Phase.upTo_place u.phase u.progress)
      have next : (t.apply call).last = 100 := by
        rw [last_apply]
        cases found : t.event? call with
        | none => exact full
        | some e => exact made e found
      intro e among
      rw [events, List.mem_append, Option.mem_toList] at among
      rcases among with first | later
      · exact made e first
      · exact ih next e later

end Tracker

/-! ## Streams -/

namespace EventStream

variable {σ : Type} {hears : Option (Listener σ)} {s : EventStream σ}

/-- What a call does to a stream, in terms of the tracker and its event: the listener has no part in
it. -/
lemma apply_eq (s : EventStream σ) (call : TrackerCall) :
    s.apply hears call = ⟨s.tracker.apply call, s.history ++ (s.tracker.event? call).toList,
      (s.tracker.event? call).toList.foldl (fun l e => tell hears e l) s.listener⟩ := by
  cases call with
  | bind backend =>
      change _ = EventStream.mk _ (s.history ++ []) _
      rw [List.append_nil]
      rfl
  | report u => rfl
  | complete message => rfl

/-- **A stream is its tracker's, whoever listens**, and the listener is told of each event once. -/
theorem follow_eq (s : EventStream σ) (calls : List TrackerCall) :
    s.follow hears calls = ⟨s.tracker.follow calls, s.history ++ s.tracker.events calls,
      (s.tracker.events calls).foldl (fun l e => tell hears e l) s.listener⟩ := by
  induction calls generalizing s with
  | nil =>
      change s = EventStream.mk s.tracker (s.history ++ []) s.listener
      rw [List.append_nil]
  | cons call rest ih =>
      change (s.apply hears call).follow hears rest = _
      rw [ih, apply_eq, Tracker.events, List.foldl_append, List.append_assoc]
      rfl

/-- A listener is told of an event once, and may make of it what it likes. -/
lemma tell_some (hear : Listener σ) (e : ProgressEvent) (l : σ) :
    tell (some hear) e l = (hear e l).2 := by
  simp only [tell]
  split <;> simp_all

end EventStream

/-! ## Advance -/

/-- Events that lie on the bar and do not go back. -/
structure Advancing (events : List ProgressEvent) : Prop where
  increasing : events.Pairwise fun a b => le a.progress b.progress = true
  onBar : ∀ e ∈ events, le 0 e.progress = true ∧ le e.progress 100 = true

/-- **Whatever is reported, a tracker's events advance.** -/
theorem Tracker.advancing_events (calls : List TrackerCall) :
    Advancing (({} : Tracker).events calls) where
  increasing := events_increasing onBar_new calls
  onBar e among := by
    have upTo := (events_onBar onBar_new calls e among).1
    exact ⟨upTo.zero_le, upTo.le_full⟩

/-- The events of a tracker that was told in the end that the export is complete. -/
lemma Tracker.getLast?_events (t : Tracker) (first : List TrackerCall) (message : String) :
    ∃ e, (t.events (first ++ [.complete message])).getLast? = some e ∧ e.progress = 100 := by
  refine ⟨(t.follow first).complete message, ?_, rfl⟩
  rw [events_append]
  exact List.getLast?_concat

end Montage
