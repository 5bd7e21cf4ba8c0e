import Montage.Proofs.Progress.Forward
import Montage.Proofs.Studio.Running
import Montage.Proofs.Text.Encoding

/-!
# New maxima

A rendering compares each report with the greatest one so far.  What it notes are therefore the
reports that are above zero and above all reports before them.

* `Binary64.maximaAfter`, `Binary64.maxima` — such numbers of a list; `Binary64.Marks` — a number
  that is compared with instead of all before.
* `Report.percent?` — what a line reports; `microseconds?_eq_some` — which lines report something.
* `notes_followOutput` — what is noted of lines, wherever their reading is broken off.
* **`Tool.notes_maxima`** — what is noted of a program, with **`Tool.overlong_unnoted`**: a line
  that is too long ends the reading.
-/

namespace Montage

open Binary64 Routine

/-! ## Routines that note nothing -/

namespace Routine

variable {E : Interface} {N α β : Type}

/-- Nothing is noted, however far it goes. -/
def Noteless (r : Routine (E.noting N) α) : Prop := ∀ h left, r.Leads h left → History.notes h = []

/-- What is noted of two histories one after the other is noted of each in turn. -/
lemma notes_append (a b : History (E.noting N)) :
    History.notes (a ++ b) = History.notes a ++ History.notes b := List.filterMap_append ..

/-- A routine at its end notes nothing more. -/
lemma noteless_done (x : Exit α) : Noteless (.done x : Routine (E.noting N) α) := by
  intro h left leads
  obtain ⟨rfl, -⟩ := leads_done.mp leads
  rfl

/-- Nothing is noted where neither a routine nor what handles its outcome notes anything. -/
lemma Noteless.handle {r : Routine (E.noting N) α} {f : Exit α → Routine (E.noting N) β}
    (first : Noteless r) (rest : ∀ x, Noteless (f x)) : Noteless (r.handle f) := by
  intro h left leads
  rcases leads_handle leads with ⟨own, goes, -, -⟩ | ⟨a, x, b, rfl, own, goes⟩
  · exact first h own goes
  · rw [notes_append, first a _ own, rest x b left goes]
    rfl

/-- Passing a failure or a stop on notes nothing. -/
lemma noteless_stopWith {f : α → Routine (E.noting N) β} (x : Exit α) (rest : ∀ v, Noteless (f v)) :
    Noteless (stopWith x f) := by
  cases x with
  | returned v => exact rest v
  | failed e => exact noteless_done _
  | cancelled => exact noteless_done _

/-- Nothing is noted by two routines in a row that note nothing. -/
lemma Noteless.bind {r : Routine (E.noting N) α} {f : α → Routine (E.noting N) β}
    (first : Noteless r) (rest : ∀ v, Noteless (f v)) : Noteless (r.bind f) :=
  first.handle fun x => noteless_stopWith x rest

/-- A request that is no note leaves it to what follows. -/
lemma noteless_ask {q : Request (E.noting N)} {k : q.Reply → Routine (E.noting N) α}
    (other : ∀ v, Event.note? (.asked q v) = none) (rest : ∀ v, Noteless (k v)) :
    Noteless (.ask q k) := by
  intro h left leads
  cases leads with
  | refl => rfl
  | @ask _ _ v h _ leads => exact (List.filterMap_cons_none (other v)).trans (rest v h left leads)

/-- Waiting notes nothing. -/
lemma noteless_await {s : Suspension (E.noting N)} {k : Exit s.Answer → Routine (E.noting N) α}
    (rest : ∀ x, Noteless (k x)) : Noteless (.await s k) := by
  intro h left leads
  cases leads with
  | refl => rfl
  | @await _ _ x h _ leads => exact (List.filterMap_cons_none rfl).trans (rest x h left leads)

/-- A routine that was written where no notes can be made makes none. -/
lemma noteless_lift (r : Routine E α) : Noteless (r.lift (N := N)) := by
  induction r with
  | done x => exact noteless_done x
  | ask q k ih => cases q <;> exact noteless_ask (fun _ => rfl) ih
  | await s k ih => cases s <;> exact noteless_await ih

/-- A routine without notes and one that follows it, where notes could be made. -/
lemma lift_handle (r : Routine E α) (f : Exit α → Routine E β) :
    (r.handle f).lift (N := N) = r.lift.handle fun x => (f x).lift := by
  induction r with
  | done x => rfl
  | ask q k ih => cases q <;> exact congrArg (Routine.ask _) (funext ih)
  | await s k ih => cases s <;> exact congrArg (Routine.await _) (funext ih)

end Routine

/-! ## Maxima -/

namespace Binary64

/-- The numbers of a list that are above all before them, some others coming first. -/
def maximaAfter (earlier : List Binary64) : List Binary64 → List Binary64
  | [] => []
  | x :: rest =>
    if earlier.all (lt · x) then x :: maximaAfter (earlier ++ [x]) rest
    else maximaAfter (earlier ++ [x]) rest

/-- The numbers of a list that are above zero and above all before them. -/
def maxima (xs : List Binary64) : List Binary64 := maximaAfter [0] xs

/-- Whatever is above a mark is above all earlier numbers, and the other way round. -/
structure Marks (mark : Binary64) (earlier : List Binary64) : Prop where
  number : mark.isNan = false
  above : ∀ x, lt mark x = earlier.all (lt · x)

namespace Marks

variable {mark x : Binary64} {earlier : List Binary64}

/-- Zero stands for the list that has only zero in it. -/
lemma zero : Marks 0 [0] where
  number := isNan_ofInt 0
  above _ := (Bool.and_true _).symm

/-- A number above the mark is the next one … -/
lemma next (marks : Marks mark earlier) (above : lt mark x = true) : Marks x (earlier ++ [x]) where
  number := (not_isNan_of_lt above).2
  above y := by
    rw [List.all_append, ← marks.above y, List.all_cons, List.all_nil, Bool.and_true]
    cases higher : lt x y with
    | false => rw [Bool.and_false]
    | true => rw [lt_of_lt_of_le above (le_of_lt higher), Bool.and_true]

/-- … and any other number leaves it where it is. -/
lemma keep (marks : Marks mark earlier) (number : x.isNan = false) (below : lt mark x = false) :
    Marks mark (earlier ++ [x]) where
  number := marks.number
  above y := by
    rw [List.all_append, ← marks.above y, List.all_cons, List.all_nil, Bool.and_true]
    cases higher : lt mark y with
    | false => rw [Bool.false_and]
    | true =>
        have low : le x mark = true := le_of_lt_eq_false number marks.number below
        rw [lt_of_le_of_lt low higher, Bool.and_true]

end Marks

section Maxima

variable {earlier xs : List Binary64} {x : Binary64}

/-- A new maximum is one of the numbers … -/
lemma mem_of_mem_maximaAfter (among : x ∈ maximaAfter earlier xs) : x ∈ xs := by
  induction xs generalizing earlier with
  | nil => cases among
  | cons y rest ih =>
      rw [maximaAfter] at among
      split at among
      · exact (List.mem_cons.mp among).elim (fun same => same ▸ List.mem_cons_self)
          fun later => List.mem_cons_of_mem y (ih later)
      · exact List.mem_cons_of_mem y (ih among)

/-- … and is above whatever came before the list. -/
lemma lt_of_mem_maximaAfter {y : Binary64} (among : x ∈ maximaAfter earlier xs)
    (before : y ∈ earlier) : lt y x = true := by
  induction xs generalizing earlier with
  | nil => cases among
  | cons z rest ih =>
      rw [maximaAfter] at among
      split at among
      · rename_i above
        rcases List.mem_cons.mp among with rfl | later
        · exact List.all_eq_true.mp above y before
        · exact ih later (List.mem_append_left _ before)
      · exact ih among (List.mem_append_left _ before)

/-- New maxima increase. -/
lemma pairwise_maximaAfter :
    (maximaAfter earlier xs).Pairwise fun x y => lt x y = true := by
  induction xs generalizing earlier with
  | nil => exact .nil
  | cons y rest ih =>
      rw [maximaAfter]
      split
      · exact .cons (fun x later => lt_of_mem_maximaAfter later
          (List.mem_append_right _ List.mem_cons_self)) ih
      · exact ih

end Maxima

end Binary64

/-! ## Lines that report something -/

namespace Report

/-- The percentage that a line reports. -/
def percent? (duration : Binary64) (line : ByteArray) : Option Binary64 :=
  (microseconds? (Text.lossyChars line)).map fun n : ℕ =>
    percentOf (Binary64.ofRatio n 1000000) duration

/-- A report is a number … -/
lemma isNan_percentOf (seconds duration : Binary64) :
    (percentOf seconds duration).isNan = false := by
  unfold percentOf Binary64.minFirst
  split
  · rename_i below
    exact (Binary64.not_isNan_of_lt below).1
  · exact Binary64.isNan_ofInt 100

/-- … of at most a hundred. -/
lemma percentOf_le (seconds duration : Binary64) :
    Binary64.le (percentOf seconds duration) 100 = true :=
  Binary64.minFirst_le (Binary64.isNan_ofInt 100) _

/-- A reported percentage is a number of at most a hundred. -/
lemma of_percent? {duration x : Binary64} {line : ByteArray}
    (reported : percent? duration line = some x) :
    x.isNan = false ∧ Binary64.le x 100 = true := by
  obtain ⟨n, -, rfl⟩ := Option.map_eq_some_iff.mp reported
  exact ⟨isNan_percentOf _ _, percentOf_le _ _⟩

/-- A number that passes the check against infinity is passed on as it is … -/
lemma unlessInfinite_eq_ok {fault : Fault} {x y : Binary64}
    (found : Binary64.unlessInfinite fault x = .ok y) : y = x := by
  unfold Binary64.unlessInfinite at found
  split at found
  · cases found
  · exact (Except.ok.inj found).symm

/-- … and one that does not is not finite. -/
lemma unlessInfinite_eq_error {fault f : Fault} {x : Binary64}
    (found : Binary64.unlessInfinite fault x = .error f) : x.isFinite = false := by
  unfold Binary64.unlessInfinite at found
  split at found
  · rfl
  · cases found

/-- A number that passes the check is finite, unless it was none to begin with. -/
lemma isFinite_of_unlessInfinite {fault : Fault} {x y : Binary64} (number : x.isNan = false)
    (found : Binary64.unlessInfinite fault x = .ok y) : x.isFinite = true := by
  cases x with
  | nan => cases number
  | infinite s => cases found
  | finite s n grid => rfl

section NewMaximum

variable {duration mark : Binary64} {line : ByteArray}

/-- What is compared with a mark … -/
lemma newMaximum?_eq_ok {maximum : Option Binary64}
    (found : newMaximum? duration mark line = .ok maximum) :
    maximum = (percent? duration line).filter (Binary64.lt mark) := by
  obtain ⟨seconds, processed, found⟩ := bind_eq_ok.mp found
  unfold processedSeconds at processed
  unfold percent?
  cases reported : microseconds? (Text.lossyChars line) with
  | none =>
      rw [reported] at processed
      cases processed
      cases found
      rfl
  | some n =>
      rw [reported] at processed
      obtain ⟨x, quotient, rfl⟩ := map_eq_ok.mp processed
      rw [Option.map_some, ← unlessInfinite_eq_ok quotient]
      exact (Except.ok.inj found).symm

/-- … unless the time is beyond all numbers. -/
lemma newMaximum?_eq_error {f : Fault} (found : newMaximum? duration mark line = .error f) :
    ∃ n : ℕ, microseconds? (Text.lossyChars line) = some n
      ∧ (Binary64.ofRatio n 1000000).isFinite = false := by
  rcases bind_eq_error.mp found with processed | ⟨seconds, -, found⟩
  · unfold processedSeconds at processed
    cases reported : microseconds? (Text.lossyChars line) with
    | none =>
        rw [reported] at processed
        cases processed
    | some n =>
        rw [reported] at processed
        cases quotient : Binary64.ofRatio? n 1000000 with
        | error g => exact ⟨n, rfl, unlessInfinite_eq_error quotient⟩
        | ok x =>
            dsimp only at processed
            rw [quotient] at processed
            cases processed
  · cases seconds with
    | none => cases found
    | some x => cases found

/-- A report that is compared with the mark tells a finite time. -/
lemma isFinite_of_newMaximum? {maximum : Option Binary64} {n : ℕ}
    (found : newMaximum? duration mark line = .ok maximum)
    (reported : microseconds? (Text.lossyChars line) = some n) :
    (Binary64.ofRatio n 1000000).isFinite = true := by
  obtain ⟨seconds, processed, -⟩ := bind_eq_ok.mp found
  unfold processedSeconds at processed
  rw [reported] at processed
  obtain ⟨x, quotient, -⟩ := map_eq_ok.mp processed
  exact isFinite_of_unlessInfinite (Binary64.isNan_ofRatio _ _) quotient

end NewMaximum

/-- **The lines that report something**: a key that counts, and an integer of at least zero. -/
lemma microseconds?_eq_some {cs : List Char} {n : ℕ} :
    microseconds? cs = some n ↔ ∃ value,
      (Text.trim cs = "out_time_us=".toList ++ value
        ∨ Text.trim cs = "out_time_ms=".toList ++ value)
      ∧ Text.Numeral.integer? value = some (n : ℤ) := by
  have keyed : ∀ value, (∃ key, keys.contains (String.ofList key) = true
      ∧ Text.cutAt '=' (Text.trim cs) = (key, some value)) ↔
      (Text.trim cs = "out_time_us=".toList ++ value
        ∨ Text.trim cs = "out_time_ms=".toList ++ value) := by
    have us : "out_time_us=".toList = "out_time_us".toList ++ ['='] := by decide
    have ms : "out_time_ms=".toList = "out_time_ms".toList ++ ['='] := by decide
    have absent : '=' ∉ "out_time_us".toList ∧ '=' ∉ "out_time_ms".toList := by decide
    intro value
    rw [us, ms, List.append_assoc, List.append_assoc, List.singleton_append]
    constructor
    · rintro ⟨key, among, cut⟩
      obtain ⟨whole, -⟩ := Text.cutAt_eq_some.mp cut
      have named : String.ofList key = "out_time_us" ∨ String.ofList key = "out_time_ms" := by
        simpa [keys] using among
      rcases named with same | same
      · exact .inl (by rw [whole, ← same, String.toList_ofList])
      · exact .inr (by rw [whole, ← same, String.toList_ofList])
    · rintro (whole | whole)
      · exact ⟨_, by decide, Text.cutAt_eq_some.mpr ⟨whole, absent.1⟩⟩
      · exact ⟨_, by decide, Text.cutAt_eq_some.mpr ⟨whole, absent.2⟩⟩
  unfold microseconds?
  constructor
  · intro found
    split at found
    · rename_i key value cut
      split at found
      · rename_i among
        split at found
        · rename_i m read
          cases found
          exact ⟨value, (keyed value).mp ⟨key, among, cut⟩, read⟩
        · cases found
      · cases found
    · cases found
  · rintro ⟨value, begins, read⟩
    obtain ⟨key, among, cut⟩ := (keyed value).mpr begins
    rw [cut]
    dsimp only
    rw [if_pos among, read]

/-- A line without a key reports nothing. -/
lemma microseconds?_eq_none {cs : List Char} (keyless : 'o' ∉ cs)
    (unmarked : ∀ c ∈ cs, c ≠ Text.mark) :
    microseconds? (Text.lossyChars (String.ofList cs).toUTF8) = none := by
  rw [Text.lossyChars_utf8, Text.spelled_toNat unmarked]
  refine Option.eq_none_iff_forall_ne_some.mpr fun n reported => keyless ?_
  obtain ⟨value, begins, -⟩ := microseconds?_eq_some.mp reported
  have key : 'o' ∈ Text.trim cs := by
    rcases begins with same | same <;>
    · rw [same]
      exact List.mem_append_left value (by decide)
  have inside := (List.dropWhile_suffix Text.isBlank).subset (List.mem_reverse.mp key)
  exact (List.dropWhile_suffix Text.isBlank).subset (List.mem_reverse.mp inside)

end Report

/-! ## Notes of lines -/

namespace Tool

/-- What is done about one line whose progress is measured. -/
lemma followOutput_cons (p : ProcessId) (d mark : Binary64) (line : ByteArray)
    (rest : List ByteArray) :
    followOutput p (some d) mark (line :: rest)
      = .await (E := Studio.noting Binary64) (.wait (.line p)) fun x => stopWith x fun _ =>
        match overrun? line with
        | some f => .done (.failed (.unexpected f))
        | none =>
          match Report.newMaximum? d mark line with
          | .error f => .done (.failed (.unexpected f))
          | .ok none => followOutput p (some d) mark rest
          | .ok (some percent) =>
            .ask (.act (.inl percent)) fun _ => followOutput p (some d) percent rest := by
  rw [followOutput, takeLine]
  cases overrun? line with
  | some f =>
      refine congrArg (Routine.await _) (funext fun x => ?_)
      cases x <;> rfl
  | none =>
      refine congrArg (Routine.await _) (funext fun x => ?_)
      cases x with
      | failed e => rfl
      | cancelled => rfl
      | returned u =>
          change (ofFault (Report.newMaximum? d mark line)).bind _ = _
          cases Report.newMaximum? d mark line with
          | error f => rfl
          | ok maximum => cases maximum <;> rfl

/-- A line that can be read: it is not too long, and it reports no time beyond all numbers. -/
def Readable (line : ByteArray) : Prop :=
  overrun? line = none ∧ ∀ n : ℕ, Report.microseconds? (Text.lossyChars line) = some n →
    (Binary64.ofRatio n 1000000).isFinite = true

instance (line : ByteArray) : Decidable (Readable line) :=
  decidable_of_iff (overrun? line = none
      ∧ (Report.microseconds? (Text.lossyChars line)).all
        (fun n : ℕ => (Binary64.ofRatio n 1000000).isFinite) = true)
    (and_congr_right fun _ => Option.all_eq_true _ _)

/-- A readable line can be compared with the mark. -/
lemma Readable.exists_ok {d mark : Binary64} {line : ByteArray} (readable : Readable line) :
    ∃ maximum, Report.newMaximum? d mark line = .ok maximum := by
  cases found : Report.newMaximum? d mark line with
  | ok maximum => exact ⟨maximum, rfl⟩
  | error f =>
      obtain ⟨n, reported, infinite⟩ := Report.newMaximum?_eq_error found
      rw [readable.2 n reported] at infinite
      cases infinite

/-- A line of so many characters is too long. -/
lemma not_readable_of_length {cs : List Char} (long : lineLimit + 1 < cs.length) :
    ¬ Readable (String.ofList cs).toUTF8 := by
  rintro ⟨fits, -⟩
  have size := Text.length_le_size cs
  unfold overrun? at fits
  dsimp only at fits
  split at fits
  · rw [if_pos (by omega)] at fits
    cases fits
  · rw [if_pos (by omega)] at fits
    cases fits

section Notes

variable {p : ProcessId} {d mark : Binary64} {earlier : List Binary64} {lines : List ByteArray}
  {h : History (Studio.noting Binary64)} {left : NotingRoutine Binary64 Unit}

/-- New maxima of the lines that have been read are what is noted; when the reading has come to its
end, and no line is in the way, all lines have been read. -/
def NotedSo (d : Binary64) (earlier : List Binary64) (lines : List ByteArray)
    (h : History (Studio.noting Binary64)) (left : NotingRoutine Binary64 Unit) : Prop :=
  ∃ read, read <+: lines ∧ (∀ line ∈ read, Readable line)
    ∧ h.notes = maximaAfter earlier (read.filterMap (Report.percent? d))
    ∧ (left.end? ≠ none → h.Answered → (∀ line ∈ lines, Readable line) → read = lines)

namespace NotedSo

/-- Nothing has been noted yet, and there are lines to read or one that cannot be read. -/
lemma nothing (unnoted : h.notes = [])
    (broken : left.end? ≠ none → h.Answered → (∀ line ∈ lines, Readable line) → lines = []) :
    NotedSo d earlier lines h left :=
  ⟨[], List.nil_prefix, fun _ among => absurd among List.not_mem_nil, unnoted,
    fun ended answered readable => (broken ended answered readable).symm⟩

/-- A line has been read, and noted if it was to be. -/
lemma cons {line : ByteArray} {further : List Binary64}
    (front : History (Studio.noting Binary64)) (fits : Readable line)
    (noted : NotedSo d further lines h left)
    (first : ∀ xs, maximaAfter earlier ((Report.percent? d line).toList ++ xs)
      = front.notes ++ maximaAfter further xs) :
    NotedSo d earlier (line :: lines) (front ++ h) left := by
  obtain ⟨read, prefixed, readable, notes, whole⟩ := noted
  have reports : (line :: read).filterMap (Report.percent? d)
      = (Report.percent? d line).toList ++ read.filterMap (Report.percent? d) := by
    rw [List.filterMap_cons]
    cases Report.percent? d line <;> rfl
  refine ⟨line :: read, (List.prefix_cons_inj line).mpr prefixed,
    List.forall_mem_cons.mpr ⟨fits, readable⟩, ?_, ?_⟩
  · rw [reports, first, ← notes]
    exact List.filterMap_append ..
  · intro ended answered readable
    rw [whole ended (fun e among => answered e (List.mem_append_right front among))
      fun other among => readable other (List.mem_cons_of_mem line among)]

/-- What a line reports is compared with the mark, and noted if it is above. -/
lemma compared {line : ByteArray} {maximum : Option Binary64}
    {u : (Suspension.wait (E := Studio.noting Binary64) (.line p)).Answer}
    (marks : Marks mark earlier) (short : overrun? line = none)
    (found : Report.newMaximum? d mark line = .ok maximum)
    (leads : (match maximum with
      | none => followOutput p (some d) mark lines
      | some percent =>
        .ask (.act (.inl percent)) fun _ => followOutput p (some d) percent lines).Leads h left)
    (further : ∀ {mark earlier h}, Marks mark earlier →
      (followOutput p (some d) mark lines).Leads h left → NotedSo d earlier lines h left) :
    NotedSo d earlier (line :: lines) (.awaited (.wait (.line p)) (.returned u) :: h) left := by
  have fits : Readable line := ⟨short, fun _ => Report.isFinite_of_newMaximum? found⟩
  have compared := Report.newMaximum?_eq_ok found
  cases reported : Report.percent? d line with
  | none =>
      rw [reported] at compared
      subst compared
      exact NotedSo.cons [.awaited (.wait (.line p)) (.returned u)] fits (further marks leads)
        fun xs => by
        rw [reported]
        rfl
  | some x =>
      rw [reported, Option.filter_some] at compared
      cases above : lt mark x with
      | false =>
          rw [above, if_neg Bool.false_ne_true] at compared
          subst compared
          have keeps := marks.keep (Report.of_percent? reported).1 above
          exact NotedSo.cons [.awaited (.wait (.line p)) (.returned u)] fits
            (further keeps leads) fun xs => by
            rw [reported, Option.toList_some, List.singleton_append, maximaAfter, ← marks.above x,
              above]
            rfl
      | true =>
          rw [above, if_pos rfl] at compared
          subst compared
          cases leads with
          | refl => exact .nothing rfl fun ended => absurd rfl ended
          | @ask _ _ v h _ leads =>
              exact NotedSo.cons
                [.awaited (.wait (.line p)) (.returned u), .asked (.act (.inl x)) v] fits
                (further (marks.next above) leads) fun xs => by
                rw [reported, Option.toList_some, List.singleton_append, maximaAfter,
                  ← marks.above x, above]
                rfl

end NotedSo

/-- **New maxima are noted**, wherever the reading is broken off. -/
lemma notedSo_followOutput (marks : Marks mark earlier)
    (leads : (followOutput p (some d) mark lines).Leads h left) :
    NotedSo d earlier lines h left := by
  induction lines generalizing mark earlier h with
  | nil =>
      obtain ⟨rfl, -⟩ := leads_done.mp leads
      exact .nothing rfl fun _ _ _ => rfl
  | cons line rest ih =>
      rw [followOutput_cons] at leads
      cases leads with
      | refl => exact .nothing rfl fun ended => absurd rfl ended
      | @await _ _ x h _ leads =>
          have here : line ∈ line :: rest := List.mem_cons_self
          cases x with
          | failed e =>
              obtain ⟨rfl, -⟩ := leads_done.mp leads
              refine .nothing rfl fun _ answered _ => ?_
              obtain ⟨v, same⟩ := answered _ List.mem_cons_self
              cases same
          | cancelled =>
              obtain ⟨rfl, -⟩ := leads_done.mp leads
              refine .nothing rfl fun _ answered _ => ?_
              obtain ⟨v, same⟩ := answered _ List.mem_cons_self
              cases same
          | returned u =>
              dsimp only [stopWith] at leads
              cases long : overrun? line with
              | some f =>
                  rw [long] at leads
                  obtain ⟨rfl, -⟩ := leads_done.mp leads
                  refine .nothing rfl fun _ _ readable => ?_
                  cases long.symm.trans (readable line here).1
              | none =>
                  rw [long] at leads
                  cases found : Report.newMaximum? d mark line with
                  | error f =>
                      rw [found] at leads
                      obtain ⟨rfl, -⟩ := leads_done.mp leads
                      refine .nothing rfl fun _ _ readable => ?_
                      obtain ⟨maximum, fine⟩ := (readable line here).exists_ok
                      cases found.symm.trans fine
                  | ok maximum =>
                      rw [found] at leads
                      refine .compared marks long found ?_ ih
                      cases maximum <;> exact leads

end Notes

/-- Without a duration nothing is noted of the output. -/
lemma noteless_followOutput (p : ProcessId) (mark : Binary64) (lines : List ByteArray) :
    Noteless (followOutput p none mark lines) := by
  induction lines with
  | nil => exact noteless_done _
  | cons line rest ih => exact (noteless_lift _).bind fun _ => ih

/-! ## Notes of a rendering -/

section Rendering

variable {p : ProcessId} {duration : Option Binary64} {h : History (Studio.noting Binary64)}
  {left : NotingRoutine Binary64 Unit}

/-- Who has the channels of a program has been given them. -/
lemma plays_attach {x : Exit Channels} (plays : ((attach p).lift (N := Binary64)).Plays h x) :
    (∃ channels, x = .returned channels
        ∧ h = [.awaited (.wait (.attach p)) (.returned channels)])
      ∨ (∀ channels, x ≠ .returned channels) ∧ ¬ h.Answered := by
  have unanswered : ∀ {y : Exit Channels} {b : History (Studio.noting Binary64)},
      (∀ v, y ≠ .returned v) →
      ¬ History.Answered (.awaited (E := Studio.noting Binary64) (.wait (.attach p)) y :: b) := by
    intro y b other answered
    obtain ⟨v, same⟩ := answered _ List.mem_cons_self
    exact other v same
  rw [attach, lift_handle] at plays
  obtain ⟨_, y, b, rfl, own, further⟩ := plays_handle.mp plays
  obtain ⟨z, _, rfl, ends⟩ := plays_await.mp own
  obtain ⟨rfl, rfl⟩ := plays_done.mp ends
  cases y with
  | returned channels =>
      obtain ⟨rfl, rfl⟩ := plays_done.mp further
      exact .inl ⟨channels, rfl, rfl⟩
  | failed e =>
      obtain ⟨rfl, rfl⟩ := plays_done.mp further
      exact .inr ⟨nofun, unanswered nofun⟩
  | cancelled =>
      refine .inr ⟨?_, unanswered nofun⟩
      rw [Routine.bind, lift_handle] at further
      obtain ⟨_, z, _, -, -, last⟩ := plays_handle.mp further
      cases z with
      | returned u =>
          obtain ⟨-, rfl⟩ := plays_done.mp last
          nofun
      | failed e =>
          obtain ⟨-, rfl⟩ := plays_done.mp last
          nofun
      | cancelled =>
          obtain ⟨-, rfl⟩ := plays_done.mp last
          nofun

/-- What is noted of a program that has started is noted of its output. -/
lemma notes_attend (leads : (attend p duration).Leads h left) :
    (h.notes = [] ∧ (left.end? ≠ none → ¬ h.Answered))
    ∨ ∃ channels b part, .awaited (.wait (.attach p)) (.returned channels) ∈ h
      ∧ (followOutput p (measurable duration) 0 channels.output).Leads b part
      ∧ h.notes = b.notes ∧ (left.end? ≠ none → part.end? ≠ none) ∧ ∀ e ∈ b, e ∈ h := by
  rcases leads_handle leads with ⟨own, goes, rfl, going⟩ | ⟨a, x, b, rfl, own, goes⟩
  · exact .inl ⟨noteless_lift _ h own goes, fun ended => absurd (end?_handle going) ended⟩
  have unnoted : History.notes a = [] := noteless_lift _ a _ own
  rcases plays_attach own with ⟨channels, rfl, attached⟩ | ⟨other, unanswered⟩
  · change ((((followOutput p (measurable duration) 0 channels.output).handle _).handle _).handle
      _).Leads b left at goes
    rw [handle_handle, handle_handle] at goes
    have heard : .awaited (E := Studio.noting Binary64) (.wait (.attach p)) (.returned channels)
        ∈ a ++ b := List.mem_append_left b (attached ▸ List.mem_cons_self)
    rcases leads_handle goes with ⟨part, reads, rfl, going⟩ | ⟨c, y, rest, rfl, reads, goes⟩
    · refine .inr ⟨channels, b, part, heard, reads, ?_, ?_, fun e => List.mem_append_right a⟩
      · rw [notes_append, unnoted, List.nil_append]
      · exact fun ended => absurd (end?_handle going) ended
    · refine .inr ⟨channels, c, .done y, heard, reads, ?_, fun _ => nofun,
        fun e among => List.mem_append_right a (List.mem_append_left rest among)⟩
      have further : History.notes rest = [] := by
        refine Noteless.handle (noteless_stopWith y fun _ => (noteless_lift _).bind fun _ =>
          noteless_lift _) (fun x => Noteless.handle ?_ fun z => ?_) rest left goes
        · cases x with
          | cancelled => exact (noteless_lift _).bind fun _ => noteless_done _
          | returned code => exact noteless_done _
          | failed e => exact noteless_done _
        · refine noteless_stopWith z fun code => ?_
          split
          · exact noteless_done _
          · exact noteless_done _
      rw [notes_append, notes_append, unnoted, further, List.nil_append, List.append_nil]
  · have ended : b = [] := by
      cases x with
      | returned channels => exact absurd rfl (other channels)
      | failed e => exact (leads_done.mp goes).1
      | cancelled => exact (leads_done.mp goes).1
    subst ended
    rw [List.append_nil]
    exact .inl ⟨unnoted, fun _ => unanswered⟩

variable {binary : String} {arguments : List String} {directory : Option Path}

/-- What is noted of a rendering is noted of the output of its program, if it is started. -/
lemma notes_run (leads : (run binary arguments directory duration).Leads h left) :
    (h.notes = [] ∧ ∀ p : ProcessId, .asked (E := Studio.noting Binary64)
        (.act (.inr (.spawn (binary :: arguments) directory))) (Except.ok p) ∈ h →
      left.end? ≠ none → ¬ h.Answered)
    ∨ ∃ p channels b part, .awaited (.wait (.attach p)) (.returned channels) ∈ h
      ∧ (followOutput p (measurable duration) 0 channels.output).Leads b part
      ∧ h.notes = b.notes ∧ (left.end? ≠ none → part.end? ≠ none) ∧ ∀ e ∈ b, e ∈ h := by
  change ((Routine.lift (N := Binary64)
    (Studio.spawn (binary :: arguments) directory)).bind _).Leads h left at leads
  rcases leads_handle leads with ⟨own, goes, rfl, going⟩ | ⟨a, x, b, rfl, own, goes⟩
  · exact .inl ⟨noteless_lift _ h own goes, fun p _ ended => absurd (end?_handle going) ended⟩
  have unnoted : History.notes a = [] := noteless_lift _ a _ own
  obtain ⟨started, _, rfl, ends⟩ := plays_ask.mp own
  obtain ⟨rfl, rfl⟩ := plays_done.mp ends
  cases started with
  | ok p =>
      rcases notes_attend goes with ⟨nothing, unanswered⟩
        | ⟨channels, c, part, heard, reads, same, ended, among⟩
      · refine .inl ⟨?_, fun _ _ ended answered => unanswered ended fun e listed =>
          answered e (List.mem_append_right _ listed)⟩
        rw [notes_append, unnoted, nothing, List.nil_append]
      · refine .inr ⟨p, channels, c, part, List.mem_append_right _ heard, reads, ?_, ended,
          fun e listed => List.mem_append_right _ (among e listed)⟩
        rw [notes_append, unnoted, same, List.nil_append]
  | error problem =>
      have refused : b = [] := by
        cases problem with
        | os e =>
            dsimp only [stopWith] at goes
            split at goes
            · exact (leads_done.mp goes).1
            · exact (leads_done.mp goes).1
        | nullArgument => exact (leads_done.mp goes).1
        | unencodable problem => exact (leads_done.mp goes).1
      subst refused
      rw [List.append_nil]
      refine .inl ⟨unnoted, fun p listed => ?_⟩
      cases List.mem_singleton.mp listed

end Rendering

section Statement

variable {binary : String} {arguments : List String} {directory : Option Path}
  {duration : Option Binary64} {lines : List ByteArray} {h : History (Studio.noting Binary64)}
  {left : NotingRoutine Binary64 Unit}

/-- Without a duration nothing is noted. -/
lemma notes_eq_nil (leads : (run binary arguments directory duration).Leads h left)
    (unmeasured : measurable duration = none) : h.notes = [] := by
  rcases notes_run leads with ⟨nothing, -⟩ | ⟨p, channels, b, part, -, reads, same, -, -⟩
  · exact nothing
  · rw [unmeasured] at reads
    exact same.trans (noteless_followOutput p 0 channels.output b part reads)

/-- With a duration, new maxima of the lines that have been read. -/
lemma notedSo_run {d : Binary64} (leads : (run binary arguments directory duration).Leads h left)
    (measured : measurable duration = some d)
    (writes : ∀ p channels, .awaited (.wait (.attach p)) (.returned channels) ∈ h →
      channels.output = lines) :
    ∃ read, read <+: lines ∧ (∀ line ∈ read, Readable line)
      ∧ h.notes = maxima (read.filterMap (Report.percent? d))
      ∧ ∀ p : ProcessId, .asked (E := Studio.noting Binary64)
          (.act (.inr (.spawn (binary :: arguments) directory))) (Except.ok p) ∈ h →
        left.end? ≠ none → h.Answered → (∀ line ∈ lines, Readable line) → read = lines := by
  rcases notes_run leads with ⟨nothing, unstarted⟩
    | ⟨p, channels, b, part, heard, reads, same, ended, among⟩
  · exact ⟨[], List.nil_prefix, fun _ among => absurd among List.not_mem_nil, nothing,
      fun p started ended answered => absurd answered (unstarted p started ended)⟩
  · rw [measured, writes p channels heard] at reads
    obtain ⟨read, prefixed, fits, notes, whole⟩ := notedSo_followOutput .zero reads
    exact ⟨read, prefixed, fits, same.trans notes, fun _ _ closed answered readable =>
      whole (ended closed) (fun e listed => answered e (among e listed)) readable⟩

/-- **What is noted of a program are the new maxima of what it reports.**  Whatever its lines and
the duration, the notes increase, above zero and up to a hundred; without a duration there are none.
They are the maxima of the lines that have been read, and these are all lines when the rendering has
come to its end, unless it was stopped or a line could not be read. -/
theorem notes_maxima (leads : (run binary arguments directory duration).Leads h left)
    (writes : ∀ p channels, .awaited (.wait (.attach p)) (.returned channels) ∈ h →
      channels.output = lines) :
    (h.notes.Pairwise fun x y => lt x y = true)
    ∧ (∀ x ∈ h.notes, lt 0 x = true ∧ le x 100 = true)
    ∧ ((∀ d, duration = some d → d.isZero = true) → h.notes = [])
    ∧ (∀ d, duration = some d → d.isZero = false →
      (∃ read, read <+: lines ∧ (∀ line ∈ read, Readable line)
        ∧ h.notes = maxima (read.filterMap (Report.percent? d)))
      ∧ ∀ p, .asked (.act (.inr (.spawn (binary :: arguments) directory))) (Except.ok p) ∈ h →
        left.end? ≠ none → h.Answered → (∀ line ∈ lines, Readable line) →
          h.notes = maxima (lines.filterMap (Report.percent? d)))
    ∧ ∀ d line x, Report.percent? d line = some x ↔ ∃ (n : ℕ) (value : List Char),
      (Text.trim (Text.lossyChars line) = "out_time_us=".toList ++ value
        ∨ Text.trim (Text.lossyChars line) = "out_time_ms=".toList ++ value)
      ∧ Text.Numeral.integer? value = some (n : ℤ)
      ∧ x = minFirst 100 (Binary64.ofRatio n 1000000 / d * 100) := by
  have lists : h.notes = [] ∨ ∃ (d : Binary64) (read : List ByteArray),
      h.notes = maxima (read.filterMap (Report.percent? d)) := by
    cases measured : measurable duration with
    | none => exact .inl (notes_eq_nil leads measured)
    | some d =>
        obtain ⟨read, -, -, notes, -⟩ := notedSo_run leads measured writes
        exact .inr ⟨d, read, notes⟩
  refine ⟨?_, ?_, fun zero => notes_eq_nil leads ?_, fun d given nonzero => ?_, ?_⟩
  · rcases lists with nothing | ⟨d, read, notes⟩
    · rw [nothing]
      exact .nil
    · rw [notes]
      exact pairwise_maximaAfter
  · intro x among
    rcases lists with nothing | ⟨d, read, notes⟩
    · rw [nothing] at among
      cases among
    · rw [notes] at among
      obtain ⟨line, -, reported⟩ := List.mem_filterMap.mp (mem_of_mem_maximaAfter among)
      exact ⟨lt_of_mem_maximaAfter among List.mem_cons_self, (Report.of_percent? reported).2⟩
  · cases duration with
    | none => rfl
    | some d => exact if_pos (zero d rfl)
  · have measured : measurable duration = some d := by
      rw [given]
      exact if_neg (Bool.eq_false_iff.mp nonzero)
    obtain ⟨read, prefixed, fits, notes, whole⟩ := notedSo_run leads measured writes
    exact ⟨⟨read, prefixed, fits, notes⟩, fun p started ended answered readable =>
      whole p started ended answered readable ▸ notes⟩
  · intro d line x
    rw [Report.percent?, Option.map_eq_some_iff]
    unfold Report.percentOf
    constructor
    · rintro ⟨n, reported, rfl⟩
      obtain ⟨value, begins, read⟩ := Report.microseconds?_eq_some.mp reported
      exact ⟨n, value, begins, read, rfl⟩
    · rintro ⟨n, value, begins, read, same⟩
      exact ⟨n, Report.microseconds?_eq_some.mpr ⟨value, begins, read⟩, same.symm⟩

end Statement

/-! ## Samples -/

variable {channels : Channels}

/-- In surroundings with one program nothing that is waited for fails. -/
lemma answered_of_noting {e : Event (Studio.noting Binary64)}
    (gave : ((oneProgram channels 0).noting Binary64).Gave e) : e.Answered := by
  cases gave with
  | asked q => trivial
  | awaited s =>
      cases s with
      | wait w => cases w <;> exact ⟨_, rfl⟩
      | enter g => rfl
      | join j t =>
          cases j
          exact nofun
      | watch j t =>
          cases j
          exact nofun

/-- A rendering in such surroundings. -/
lemma exists_leads (channels : Channels) :
    ∃ h left, (run "ffmpeg" [] none (some 5)).Leads h left ∧ left.end? ≠ none ∧ h.Answered
      ∧ (∀ p c, .awaited (.wait (.attach p)) (.returned c) ∈ h → c.output = channels.output)
      ∧ .asked (.act (.inr (.spawn ["ffmpeg"] none))) (Except.ok 0) ∈ h := by
  refine ⟨_, _, plays_play ((oneProgram channels 0).noting Binary64) _, nofun,
    fun e heard => answered_of_noting (gave_of_mem_play heard), ?_, ?_⟩
  · intro p c attached
    cases gave_of_mem_play attached
    rfl
  · exact List.mem_cons_self

/-- A program that goes back, repeats itself and goes beyond the end … -/
def wandering : Channels where
  output := ["out_time_us=2000000\n".toUTF8, "frame=1\n".toUTF8, " out_time_ms=1000000\n".toUTF8,
    "out_time_us=2000000\n".toUTF8, "out_time_us=9000000\n".toUTF8, "out_time_us=-1\n".toUTF8]

/-- … is noted twice. -/
theorem notes_maxima_sample :
    ∃ h left, (run "ffmpeg" [] none (some 5)).Leads h left
      ∧ (∀ p c, .awaited (.wait (.attach p)) (.returned c) ∈ h → c.output = wandering.output)
      ∧ .asked (.act (.inr (.spawn ["ffmpeg"] none))) (Except.ok 0) ∈ h
      ∧ left.end? ≠ none ∧ h.Answered ∧ (∀ line ∈ wandering.output, Readable line)
      ∧ h.notes = [40, 100] := by
  obtain ⟨h, left, leads, ended, answered, writes, started⟩ := exists_leads wandering
  have readable : ∀ line ∈ wandering.output, Readable line := by decide +kernel
  have notes := ((notes_maxima leads writes).2.2.2.1 5 rfl (by decide +kernel)).2 0 started ended
    answered readable
  have maxima : maxima (wandering.output.filterMap (Report.percent? 5)) = [40, 100] := by
    decide +kernel
  exact ⟨h, left, leads, writes, started, ended, answered, readable, notes.trans maxima⟩

/-- A text at great length. -/
def lengthy : List Char := List.replicate 70000 'a' ++ ['\n']

/-- A program that says something at great length before it reports … -/
def overlong : Channels where
  output := [(String.ofList lengthy).toUTF8, "out_time_us=1000000\n".toUTF8]

/-- … is not listened to any more. -/
theorem overlong_unnoted :
    ∃ h left, (run "ffmpeg" [] none (some 5)).Leads h left
      ∧ (∀ p c, .awaited (.wait (.attach p)) (.returned c) ∈ h → c.output = overlong.output)
      ∧ .asked (.act (.inr (.spawn ["ffmpeg"] none))) (Except.ok 0) ∈ h
      ∧ left.end? ≠ none ∧ h.Answered
      ∧ (∀ line ∈ overlong.output, ∀ n : ℕ,
        Report.microseconds? (Text.lossyChars line) = some n →
          (Binary64.ofRatio n 1000000).isFinite = true)
      ∧ maxima (overlong.output.filterMap (Report.percent? 5)) = [20]
      ∧ h.notes = [] := by
  obtain ⟨h, left, leads, ended, answered, writes, started⟩ := exists_leads overlong
  have among : ∀ c ∈ lengthy, c = 'a' ∨ c = '\n' := fun c listed =>
    (List.mem_append.mp listed).imp List.eq_of_mem_replicate List.mem_singleton.mp
  have silent : Report.microseconds? (Text.lossyChars (String.ofList lengthy).toUTF8) = none := by
    refine Report.microseconds?_eq_none (fun listed => ?_) fun c listed => ?_
    · rcases among 'o' listed with same | same <;> cases same
    · rcases among c listed with rfl | rfl <;> decide
  have long : lineLimit + 1 < lengthy.length := by
    rw [lengthy, List.length_append, List.length_replicate]
    decide
  refine ⟨h, left, leads, writes, started, ended, answered, ?_, ?_, ?_⟩
  · refine List.forall_mem_cons.mpr ⟨fun n reported => ?_, ?_⟩
    · rw [silent] at reported
      cases reported
    · have readable : ∀ line ∈ ["out_time_us=1000000\n".toUTF8], Readable line := by
        decide +kernel
      exact fun line listed => (readable line listed).2
  · have first : Report.percent? 5 (String.ofList lengthy).toUTF8 = none := by
      rw [Report.percent?, silent, Option.map_none]
    rw [overlong, List.filterMap_cons_none first]
    decide +kernel
  · obtain ⟨read, prefixed, fits, notes, -⟩ :=
      notedSo_run leads (d := 5) (by decide +kernel) writes
    have unread : read = [] := by
      cases read with
      | nil => rfl
      | cons line rest =>
          obtain ⟨same, -⟩ := List.cons_prefix_cons.mp prefixed
          rw [same] at fits
          exact absurd (fits _ List.mem_cons_self) (not_readable_of_length long)
    rw [notes, unread]
    rfl

end Tool

end Montage
