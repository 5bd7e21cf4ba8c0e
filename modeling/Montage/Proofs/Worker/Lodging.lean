import Mathlib.Tactic.Common
import Montage.Proofs.Routine.Ledger
import Montage.Proofs.Studio.Names
import Montage.Proofs.Worker.Limit

/-!
# A request and its directory

A request gets a directory, works in there, and removes it; it does nothing else with the disk but
make the directory of all requests.

* `Worker.Stay` — how far a request has come with its directory; `Stay.Suits` — what it may do then.
* `Worker.lodging` — the same as a regime; `Worker.obeys_answerForm` — requests keep to it.
* `Worker.stayOf`, `Worker.Lodges` — how far a request has come by its entries, and entries that
  keep to it; **`Worker.lodges_of_logged`** — those that a request leaves in a record do.
-/

namespace Montage

open Routine

/-! ## Moves inside a directory -/

/-- To make a file in a directory, to start a program that writes the video there, or to attend to a
program. -/
def StudioAct.Inside (directory : Path) : StudioAct → Prop
  | .createFile p => ∃ name, Path.IsName name ∧ p = directory.child name
  | .spawn command place =>
    place = some directory ∧ command.getLastD "" = (directory.child outputName).text
  | .isRunning _ | .kill _ => True
  | _ => False

/-- To add to a file of a directory, to read, or to wait for a program or for an upload. -/
def StudioWait.Inside (directory : Path) : StudioWait → Prop
  | .append p _ => ∃ name, Path.IsName name ∧ p = directory.child name
  | .pause | .read _ | .attach _ | .line _ | .exit _ | .collect _ | .piece => True
  | _ => False

namespace Worker

/-- The directory of all requests. -/
def site (settings : Settings) : Path := .ofText settings.workerRoot

/-- How far a request has come with its directory. -/
inductive Stay where
  | without
  | inside (directory : Path)
  /-- The directory could not be removed. -/
  | left (directory : Path)
  | gone

namespace Stay

/-- What comes of asking for a directory. -/
def opened : Except OsError Path → Stay
  | .ok directory => inside directory
  | .error _ => without

/-- What comes of removing it. -/
def removed (directory : Path) : Except OsError Unit → Stay
  | .ok () => gone
  | .error _ => left directory

/-- The directory that is there because of the request. -/
def directory? : Stay → Option Path
  | inside directory | left directory => some directory
  | _ => none

/-- What comes of something that is done at once. -/
def acted (s : Stay) : (a : StudioAct) → a.Val → Stay
  | .makeTemporary _ _, v => opened v
  | _, _ => s

/-- What comes of something that takes time. -/
def waited (s : Stay) : (q : StudioWait) → q.Ans → Stay
  | .removeTree p, v => removed p v
  | _, _ => s

/-- What a request may do. -/
def Suits (settings : Settings) : Stay → Move Studio → Prop
  | without, .act a =>
    a = .makeDirectories (site settings) ∨ a = .makeTemporary (site settings) directoryBeginning
  | inside directory, .act a => a.Inside directory
  | inside directory, .begin q | inside directory, .finish q =>
    q.Inside directory ∨ q = .removeTree directory
  | _, _ => False

end Stay

/-- What a request may ask, and what it learns of its directory. -/
def lodging (settings : Settings) : Regime Studio Stay where
  mayAsk
    | .without, .act a => Stay.without.Suits settings (.act a)
    | .inside directory, .act a => a.Inside directory
    | .inside _, .get => True
    | .inside _, .leave g => g = .worker
    | _, _ => False
  asked
    | .without, .act (.makeTemporary _ _), v, b => b = .opened v
    | a, _, _, b => b = a
  mayAwait
    | .inside directory, .wait q => q.Inside directory ∨ q = .removeTree directory
    | .inside _, .enter g => g = .worker
    | _, _ => False
  awaited
    | .inside _, .wait (.removeTree _), _, b => b = .gone
    | a, _, _, b => b = a

/-! ## Requests -/

section Storing

variable {S : Type} {R : Regime Studio S} {I : S → Prop} {acts : StudioAct → Prop}
  {waits : StudioWait → Prop} (spares : R.Spares I acts waits) (pauses : waits .pause)
  (pieces : waits .piece)

include spares pauses pieces in
lemma maintains_storePieces {path : Path} (appends : ∀ content, waits (.append path content))
    (limit : Int) (written : Nat) (uploaded : List ByteArray) :
    (storePieces path limit written uploaded).Maintains R I := by
  induction uploaded generalizing written with
  | nil => exact (Studio.maintains_wait spares pieces).bind fun _ => maintains_done _
  | cons piece rest ih =>
      refine (Studio.maintains_wait spares pieces).bind fun _ => ?_
      dsimp only
      split
      · exact maintains_done _
      · exact (Studio.maintains_inTime spares rfl pauses (appends piece)).bind fun _ => ih _

include spares pauses pieces in
lemma maintains_storeAll {files : List (Path × Upload)}
    (creates : ∀ f ∈ files, acts (.createFile f.1))
    (appends : ∀ f ∈ files, ∀ content, waits (.append f.1 content)) (limit : Int) :
    (storeAll limit files).Maintains R I := by
  induction files generalizing limit with
  | nil => exact maintains_done _
  | cons f rest ih =>
      obtain ⟨create, creates⟩ := List.forall_mem_cons.mp creates
      obtain ⟨append, appends⟩ := List.forall_mem_cons.mp appends
      refine (Studio.maintains_atOnce spares create).bind fun _ =>
        (maintains_storePieces spares pauses pieces append limit 0 f.2.pieces).bind fun stored => ?_
      cases stored with
      | none => exact maintains_done _
      | some written => exact ih creates appends _

end Storing

variable {settings : Settings} {fresh : String} {directory : Path} {f : Form}

/-- What is done inside the directory leaves it where it is. -/
lemma spares_lodging (settings : Settings) (directory : Path) :
    (lodging settings).Spares (· = .inside directory) (StudioAct.Inside directory)
      (StudioWait.Inside directory) where
  get := by
    rintro _ rfl
    exact ⟨trivial, fun _ _ same => same⟩
  act := by
    rintro a inside _ rfl
    exact ⟨inside, fun _ _ same => same⟩
  wait := by
    rintro q inside _ rfl
    refine ⟨.inl inside, fun _ b same => ?_⟩
    cases q with
    | removeTree p => cases inside
    | _ => exact same

lemma maintains_pause {S : Type} {R : Regime Studio S} {I : S → Prop} {acts : StudioAct → Prop}
    {waits : StudioWait → Prop} (spares : R.Spares I acts waits) (pauses : waits .pause) :
    Studio.pause.Maintains R I := Studio.maintains_wait spares pauses

/-- The last argument of a rendering is its output. -/
lemma getLastD_arguments (g : Graph) :
    (settings.ffmpeg :: arguments settings directory f g).getLastD ""
      = (directory.child outputName).text := by
  rw [List.getLastD_eq_getLast?, arguments, commandArguments]
  simp [List.getLast?_cons]

lemma obeys_render : (render settings fresh directory f).Maintains
    ((lodging settings).noting Binary64) (· = .inside directory) := by
  have spares := spares_lodging settings directory
  have attends : Tool.Attends (StudioAct.Inside directory) (StudioWait.Inside directory) :=
    ⟨fun _ => trivial, fun _ => trivial, fun _ => trivial, fun _ => trivial, fun _ => trivial⟩
  have reads : (Studio.readFile (directory.child outputName)).Maintains (lodging settings)
      (· = .inside directory) :=
    Studio.maintains_inTime (q := .read _) spares rfl trivial trivial
  refine (maintains_done _).bind fun g => Maintains.bind ?_ fun _ =>
    (reads.lift Binary64).bind fun _ =>
      maintains_done _
  rintro _ rfl
  refine .await rfl fun x b same => ?_
  obtain rfl : b = .inside directory := same
  cases x with
  | failed e => exact .done rfl
  | cancelled => exact .done rfl
  | returned u =>
      have may : (lodging settings).mayAsk (.inside directory) (.act (.spawn
          (settings.ffmpeg :: arguments settings directory f g) (some directory))) :=
        ⟨rfl, getLastD_arguments g⟩
      refine (Tool.obeys_run spares attends (fun _ => trivial) may fun _ _ same => same).handle ?_
      rintro _ x rfl
      exact .ask rfl fun _ b same => .done same

/-- **A request keeps to its directory.** -/
lemma obeys_answerForm : (answerForm settings fresh f).Obeys ((lodging settings).noting Binary64)
    (fun _ _ => True) .without := by
  have makes : (Studio.makeDirectories (site settings)).Obeys (lodging settings)
      (fun b _ => b = .without) .without := by
    unfold Studio.makeDirectories Studio.atOnce
    cases Studio.pathFault? (site settings) with
    | some f => exact .done rfl
    | none =>
        refine .ask (.inl rfl) fun v b same => ?_
        obtain rfl : b = .without := same
        change Except OsError Unit at v
        cases v <;> exact .done rfl
  have opens : (Studio.makeTemporary (site settings) directoryBeginning).Obeys (lodging settings)
      (fun b x => ∀ directory, x = .returned directory → b = .inside directory) .without := by
    unfold Studio.makeTemporary Studio.atOnce
    cases Studio.pathFault? (site settings) with
    | some f => exact .done nofun
    | none =>
        refine .ask (.inr rfl) fun v b same => ?_
        obtain rfl : b = .opened v := same
        change Except OsError Path at v
        cases v with
        | error e => exact .done nofun
        | ok directory =>
            refine .done ?_
            rintro _ ⟨⟩
            rfl
  refine (makes.lift Binary64).bind ?_ (fun _ _ _ => trivial) fun _ _ => trivial
  rintro _ _ rfl
  refine (opens.lift Binary64).bind (fun b directory known => ?_) (fun _ _ _ => trivial)
    fun _ _ => trivial
  obtain rfl := known directory rfl
  have spares := spares_lodging settings directory
  have named : ∀ u ∈ (clipPaths directory f ++ imagePaths directory f).zip f.uploads,
      ∃ name, Path.IsName name ∧ u.1 = directory.child name := by
    intro u among
    rw [zip_paths] at among
    obtain ⟨named, listed, rfl⟩ := List.mem_map.mp among
    exact ⟨named.1, isName_of_mem_fileNames (List.of_mem_zip listed).1, rfl⟩
  have works : (work settings fresh directory f).Maintains ((lodging settings).noting Binary64)
      (· = .inside directory) := by
    have stores := maintains_storeAll spares trivial trivial named (fun u among _ => named u among)
      settings.workerMaxUploadBytes
    refine (stores.lift Binary64).bind fun fits => ?_
    cases fits with
    | true => exact obeys_render
    | false => exact maintains_done _
  have answers : (answering (work settings fresh directory f)).Maintains
      ((lodging settings).noting Binary64) (· = .inside directory) :=
    works.handle fun x => by
      split
      · exact maintains_done _
      · exact maintains_done _
  have pauses : (forEach f.uploads fun _ => Studio.pause).Maintains (lodging settings)
      (· = .inside directory) := by
    induction f.uploads with
    | nil => exact maintains_done _
    | cons u rest ih => exact (maintains_pause spares trivial).bind fun _ => ih
  have removes : (Studio.removeTree directory).Obeys (lodging settings) (fun _ _ => True)
      (.inside directory) := by
    refine (maintains_pause spares trivial _ rfl).bind ?_ (fun _ _ _ => trivial)
      fun _ _ => trivial
    rintro _ _ rfl
    cases Studio.pathFault? directory with
    | some f => exact .done trivial
    | none =>
        refine .await (.inr rfl) fun x b _ => ?_
        cases x with
        | failed e => exact .done trivial
        | cancelled => exact .done trivial
        | returned v =>
            change Except OsError Unit at v
            cases v <;> exact .done trivial
  have clears : (clear directory f).Obeys (lodging settings) (fun _ _ => True)
      (.inside directory) := by
    refine (pauses _ rfl).bind ?_ (fun _ _ _ => trivial) fun _ _ => trivial
    rintro _ _ rfl
    refine removes.handle fun b x _ => ?_
    split <;> exact .done trivial
  refine (answers _ rfl).handle ?_
  rintro _ x rfl
  exact (clears.lift Binary64).bind (fun _ _ _ => .done trivial) (fun _ _ _ => trivial)
    fun _ _ => trivial

/-! ## Entries of a request -/

section Entries

variable {M : Machine Studio} {s : Stay} {e : Entry M} {es before : List (Entry M)} {i : TaskId}

/-- How far a request has come after an entry. -/
def Stay.after (s : Stay) (e : Entry M) : Stay :=
  match e.move with
  | .act a => s.acted a (M.act e.task a e.before).1
  | .begin q => (M.wait e.task q e.before).1.elim s (s.waited q)
  | .finish q => s.waited q (M.release e.task q e.before).1

/-- How far a request has come by its entries. -/
def stayOf (es : List (Entry M)) : Stay := es.foldl Stay.after .without

lemma stayOf_concat (es : List (Entry M)) (e : Entry M) :
    stayOf (es ++ [e]) = (stayOf es).after e := by
  rw [stayOf, List.foldl_append]
  rfl

/-- Every entry is one that suits those before it: a request works in its directory after it has
made it, and in no other. -/
def Lodges (settings : Settings) (es : List (Entry M)) : Prop :=
  ∀ first e, first ++ [e] <+: es → (stayOf first).Suits settings e.move

lemma lodges_nil : Lodges settings ([] : List (Entry M)) := by
  intro first e earlier
  exact absurd (List.prefix_nil.mp earlier) (List.concat_ne_nil e first)

lemma Lodges.concat (lodges : Lodges settings es) (suits : (stayOf es).Suits settings e.move) :
    Lodges settings (es ++ [e]) := by
  intro first e' earlier
  rcases List.prefix_concat_iff.mp earlier with same | earlier
  · obtain ⟨rfl, last⟩ := List.append_inj' same rfl
    obtain rfl := List.singleton_inj.mp last
    exact suits
  · exact lodges first e' earlier

/-- What is known to a request, by its entries: once it has asked for the removal it asks for
nothing more. -/
def Bears (a : Stay) (es : List (Entry M)) : Prop := a = stayOf es ∨ a = .gone

/-- What a request asks for at once suits it, and it learns what comes of it. -/
lemma suits_of_mayAsk {a : StudioAct} {b : M.State} (may : (lodging settings).mayAsk s (.act a)) :
    s.Suits settings (.act a)
      ∧ (lodging settings).asked s (.act a) (M.act i a b).1 (s.after ⟨i, .act a, b⟩) := by
  cases s with
  | without =>
      refine ⟨may, ?_⟩
      rcases may with rfl | rfl <;> rfl
  | inside directory =>
      refine ⟨may, ?_⟩
      cases a with
      | makeTemporary p b => cases may
      | _ => rfl
  | left directory => cases may
  | gone => cases may

/-- So does what takes time, also when a request is asked to stop meanwhile. -/
lemma lodges_of_suspension {q : Suspension Studio} {x : Exit q.Answer} (logs : q.Logs i x es)
    (may : (lodging settings).mayAwait (stayOf before) q) (lodges : Lodges settings before) :
    Lodges settings (before ++ es)
      ∧ ∃ b, (lodging settings).awaited (stayOf before) q x b ∧ Bears b (before ++ es) := by
  cases stay : stayOf before with
  | without =>
      rw [stay] at may
      cases may
  | left directory =>
      rw [stay] at may
      cases may
  | gone =>
      rw [stay] at may
      cases may
  | inside directory =>
      rw [stay] at may
      have suits : ∀ w, q = .wait w → (Stay.inside directory).Suits settings (.begin w)
          ∧ (Stay.inside directory).Suits settings (.finish w) := by
        rintro w rfl
        exact ⟨may, may⟩
      -- the removal apart, nothing changes what is known
      have learns : ∀ es : List (Entry M), ((∀ p, q ≠ .wait (.removeTree p)) →
          stayOf (before ++ es) = .inside directory) →
          ∃ b, (lodging settings).awaited (.inside directory) q x b ∧ Bears b (before ++ es) := by
        intro es same
        cases q with
        | wait w =>
            cases w with
            | removeTree p => exact ⟨.gone, rfl, .inr rfl⟩
            | _ => exact ⟨.inside directory, rfl, .inl (same nofun).symm⟩
        | _ => exact ⟨.inside directory, rfl, .inl (same nofun).symm⟩
      have begins : ∀ {w b}, q = .wait w →
          Lodges settings (before ++ [⟨i, .begin w, b⟩]) := fun same =>
        lodges.concat (stay ▸ (suits _ same).1)
      have remains : ∀ {w b}, (∀ p, w ≠ .removeTree p) →
          stayOf (before ++ [(⟨i, .begin w, b⟩ : Entry M)]) = .inside directory := by
        intro w b other
        rw [stayOf_concat, stay]
        change (M.wait i w b).1.elim _ _ = _
        cases (M.wait i w b).1 with
        | none => rfl
        | some v =>
            cases w with
            | removeTree p => exact absurd rfl (other p)
            | _ => rfl
      cases logs with
      | nothing =>
          rw [List.append_nil]
          exact ⟨lodges, by simpa using learns [] fun _ => by rwa [List.append_nil]⟩
      | atOnce =>
          exact ⟨begins rfl, learns _ fun other => remains fun p same => other p (same ▸ rfl)⟩
      | unfinished =>
          exact ⟨begins rfl, learns _ fun other => remains fun p same => other p (same ▸ rfl)⟩
      | @finished w b b' _ held =>
          have stays : stayOf (before ++ [(⟨i, .begin w, b⟩ : Entry M)]) = .inside directory := by
            by_cases other : ∃ p, w = .removeTree p
            · obtain ⟨p, rfl⟩ := other
              rw [stayOf_concat, stay]
              simp only [Stay.after, held, Option.elim_none]
            · exact remains fun p same => other ⟨p, same⟩
          have split : before ++ [⟨i, .begin w, b⟩, ⟨i, .finish w, b'⟩]
              = before ++ [⟨i, .begin w, b⟩] ++ [⟨i, .finish w, b'⟩] := by simp
          constructor
          · rw [split]
            exact (begins rfl).concat (stays ▸ (suits w rfl).2)
          · refine learns _ fun other => ?_
            rw [split, stayOf_concat, stays]
            cases w with
            | removeTree p => exact absurd rfl (other p)
            | _ => rfl

/-- **A request that obeys leaves entries that keep to its directory**, and starts no tasks. -/
lemma lodges_of_logs {α : Type} {r r' : StudioRoutine α} {h : History Studio}
    {post : Stay → Exit α → Prop} {a : Stay} (logs : r.Logs i h es r')
    (obeys : r.Obeys (lodging settings) post a) (bears : Bears a before)
    (lodges : Lodges settings before) :
    Lodges settings (before ++ es) ∧ (∀ j t, .asked (.start j) t ∉ h)
      ∧ ∃ b, r'.Obeys (lodging settings) post b ∧ Bears b (before ++ es) := by
  induction logs generalizing a before with
  | refl r =>
      rw [List.append_nil]
      exact ⟨lodges, nofun, a, obeys, bears⟩
  | @act e k b h es r _ ih =>
      obtain ⟨may, rest⟩ := obeys_ask_iff.mp obeys
      obtain rfl : a = stayOf before := bears.resolve_right <| by
        rintro rfl
        cases may
      obtain ⟨suits, learns⟩ := suits_of_mayAsk (M := M) (i := i) (b := b) may
      obtain ⟨lodges, idle, left⟩ :=
        ih (rest _ _ learns) (.inl (stayOf_concat before _).symm) (lodges.concat suits)
      rw [List.append_assoc] at lodges left
      exact ⟨lodges, fun j t => List.not_mem_cons_of_ne_of_not_mem nofun (idle j t), left⟩
  | @ask q k v h es r apart _ ih =>
      obtain ⟨may, rest⟩ := obeys_ask_iff.mp obeys
      have plain : (lodging settings).asked a q v a ∧ ∀ j, q ≠ .start j := by
        cases a with
        | without =>
            cases q with
            | act e => exact absurd rfl (apart e)
            | _ => cases may
        | inside directory =>
            cases q with
            | act e => exact absurd rfl (apart e)
            | start j => cases may
            | _ => exact ⟨rfl, nofun⟩
        | left directory => cases may
        | gone => cases may
      obtain ⟨lodges, idle, left⟩ := ih (rest v a plain.1) bears lodges
      refine ⟨lodges, fun j t among => ?_, left⟩
      rcases List.mem_cons.mp among with same | later
      · cases same
        exact plain.2 j rfl
      · exact idle j t later
  | @await q k x h es more r told _ ih =>
      obtain ⟨may, rest⟩ := obeys_await_iff.mp obeys
      obtain rfl : a = stayOf before := bears.resolve_right <| by
        rintro rfl
        cases may
      obtain ⟨lodges, b, learns, bears⟩ := lodges_of_suspension told may lodges
      obtain ⟨lodges, idle, left⟩ := ih (rest x b learns) bears lodges
      rw [List.append_assoc] at lodges left
      exact ⟨lodges, fun j t => List.not_mem_cons_of_ne_of_not_mem nofun (idle j t), left⟩

/-- Wherever a request is in its turns, its entries keep to its directory. -/
lemma lodges_of_logged {α : Type} {r : StudioRoutine α} {h : History Studio} {f : Fiber Studio α}
    {post : Stay → Exit α → Prop} (logged : f.Logged i r h es)
    (obeys : r.Obeys (lodging settings) post .without) : Lodges settings es := by
  have waits : ∀ {q : Suspension Studio} {x : Exit q.Answer}
      {k : Exit q.Answer → StudioRoutine α} {h} {es more : List (Entry M)},
      r.Logs i h es (.await q k) → q.Logs i x more → Lodges settings (es ++ more) := by
    intro q x k h es more logs told
    obtain ⟨lodges, -, b, left, bears⟩ := lodges_of_logs logs obeys (.inl rfl) lodges_nil
    rw [List.nil_append] at lodges bears
    have may := (obeys_await_iff.mp left).1
    obtain rfl : b = stayOf es := bears.resolve_right <| by
      rintro rfl
      cases may
    exact (lodges_of_suspension told may lodges).1
  cases logged with
  | fresh => exact lodges_nil
  | unbegun => exact lodges_nil
  | arrives comes =>
      cases comes with
      | waiting logs begun => exact waits logs (begun.logs (x := .cancelled) (.inl rfl))
      | ready logs told => exact waits logs told
      | ended logs =>
          have lodges := (lodges_of_logs logs obeys (.inl rfl) lodges_nil).1
          rwa [List.nil_append] at lodges

end Entries

end Worker

end Montage
