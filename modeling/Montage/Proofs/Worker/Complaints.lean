import Montage.Proofs.Json.RoundTrip
import Montage.Proofs.Steps
import Montage.Studio.RemoteBackend
import Montage.Worker.Rendering

/-!
# Complaints of the worker

A worker that refuses says why in a body of two texts.  The client asks any body whether it says
what went wrong, and takes the response for a failure of the transport if it does not.

* `Complaint` — what the members of a body say went wrong: the message, or else the error.
* `failureOfResponse_of_parse` — what a body means that can be read.
* `failureOfResponse_refusal` — **what the worker writes is what the client reads**.
* **`complaints_understood`** — both together; `half_unsent` — what the worker cannot write.
-/

namespace Montage

/-! ## What a body says -/

/-- What the members of a body say went wrong: the message, or else the error; a value that counts
as absent says nothing. -/
inductive Complaint (members : List (String × Json)) : Json → Prop
  | message {m : Json} (listed : Json.lookup "message" members = some m)
      (present : m.isTruthy = true) : Complaint members m
  | error {e : Json} (silent : ∀ m, Json.lookup "message" members = some m → m.isTruthy = false)
      (listed : Json.lookup "error" members = some e) (present : e.isTruthy = true) :
      Complaint members e

/-- A value that is an object with a message or an error that is present. -/
def Outspoken (value : Option Json) : Prop :=
  ∃ members, value = some (.obj members)
    ∧ ∃ key ∈ ["message", "error"], ∃ j, Json.lookup key members = some j ∧ j.isTruthy = true

lemma reportedProblem?_of_complaint {members : List (String × Json)} {problem : Json}
    (complaint : Complaint members problem) :
    reportedProblem? (.obj members) = some problem := by
  cases complaint with
  | message listed present =>
      rw [reportedProblem?, listed]
      exact if_pos present
  | error silent listed present =>
      have found : (Json.lookup "error" members).filter Json.isTruthy = some problem := by
        rw [listed]
        exact if_pos present
      rw [reportedProblem?]
      split
      · rename_i m said
        rw [silent m said, if_neg Bool.false_ne_true, found]
      · exact found

lemma exists_complaint {members : List (String × Json)} {key : String} {j : Json}
    (among : key ∈ ["message", "error"]) (listed : Json.lookup key members = some j)
    (present : j.isTruthy = true) : ∃ problem, Complaint members problem := by
  by_cases said : ∃ m, Json.lookup "message" members = some m ∧ m.isTruthy = true
  · obtain ⟨m, listed, present⟩ := said
    exact ⟨m, .message listed present⟩
  · have silent : ∀ m, Json.lookup "message" members = some m → m.isTruthy = false :=
      fun m listed => Bool.eq_false_iff.mpr fun present => said ⟨m, listed, present⟩
    rcases List.mem_pair.mp among with rfl | rfl
    · exact absurd ⟨j, listed, present⟩ said
    · exact ⟨j, .error silent listed present⟩

lemma reportedProblem?_eq_none {value : Json} (silent : ¬ Outspoken (some value)) :
    reportedProblem? value = none := by
  unfold reportedProblem?
  split
  · rename_i members
    have absent : ∀ key ∈ ["message", "error"], ∀ j, Json.lookup key members = some j →
        ¬ j.isTruthy = true := fun key among j listed present =>
      silent ⟨members, rfl, key, among, j, listed, present⟩
    have error : (Json.lookup "error" members).filter Json.isTruthy = none :=
      Option.filter_eq_none_iff.mpr (absent "error" (by simp))
    split
    · rename_i m said
      rw [if_neg (absent "message" (by simp) m said), error]
    · exact error
  · rfl

section Readable

variable {body : ByteArray} {value : Option Json}

lemma failureOfResponse_of_parse (status : Int) (parsed : Json.parseBytes body = .ok value) :
    failureOfResponse status body = .ok (match value.bind reportedProblem? with
      | some problem => .execution (.reported problem.plainText (Text.lossyText body))
      | none => .transport (.status status)) := by
  rw [failureOfResponse, parsed]
  rfl

/-- A body that says what went wrong means that the worker failed … -/
lemma failureOfResponse_of_complaint (status : Int) {members : List (String × Json)}
    {problem : Json} (parsed : Json.parseBytes body = .ok (some (.obj members)))
    (complaint : Complaint members problem) :
    failureOfResponse status body
      = .ok (.execution (.reported problem.plainText (Text.lossyText body))) := by
  have said : (some (Json.obj members)).bind reportedProblem? = some problem :=
    reportedProblem?_of_complaint complaint
  rw [failureOfResponse_of_parse status parsed, said]

/-- … and any other body that the transport did. -/
lemma failureOfResponse_of_silent (status : Int) (parsed : Json.parseBytes body = .ok value)
    (silent : ¬ Outspoken value) :
    failureOfResponse status body = .ok (.transport (.status status)) := by
  have unsaid : value.bind reportedProblem? = none := by
    cases value with
    | none => rfl
    | some value => exact reportedProblem?_eq_none silent
  rw [failureOfResponse_of_parse status parsed, unsaid]

/-- **The worker failed exactly if the body says so.** -/
lemma execution_iff_outspoken (status : Int) (parsed : Json.parseBytes body = .ok value) :
    (∃ problem, failureOfResponse status body = .ok (.execution problem)) ↔ Outspoken value := by
  constructor
  · rintro ⟨problem, means⟩
    by_contra silent
    rw [failureOfResponse_of_silent status parsed silent] at means
    cases means
  · rintro ⟨members, rfl, key, among, j, listed, present⟩
    obtain ⟨problem, complaint⟩ := exists_complaint among listed present
    exact ⟨_, failureOfResponse_of_complaint status parsed complaint⟩

end Readable

/-! ## What the worker says -/

section Refusal

variable {message : String} {sent : Nat} {body : ByteArray}

/-- What is said when nothing else is. -/
def heard (message : String) : String := if message = "" then "Export failed" else message

/-- The worker's complaint is heard: its message, or else the words that stand in for it. -/
lemma complaint_heard (message : String) :
    Complaint [("error", .str "Export failed"), ("message", .str message)]
      (.str (heard message)) := by
  unfold heard
  split
  · rename_i empty
    refine .error (fun m listed => ?_) rfl rfl
    have same : Json.str message = m := Option.some.inj listed
    rw [← same, empty]
    rfl
  · rename_i said
    refine .message rfl ?_
    rw [Json.isTruthy]
    exact bne_iff_ne.mpr said

/-- The texts of a complaint. -/
lemma spelled_complaint (spelled : Text.IsSpelled message.toList) :
    ∀ m ∈ [("error", "Export failed"), ("message", message)],
      Text.IsSpelled m.1.toList ∧ Text.IsSpelled m.2.toList := by
  have low : ∀ key ∈ ["error", "Export failed", "message"], Text.IsLow key.toList := by decide
  intro m listed
  rcases List.mem_pair.mp listed with rfl | rfl
  · exact ⟨(low _ (by simp)).isSpelled, (low _ (by simp)).isSpelled⟩
  · exact ⟨(low _ (by simp)).isSpelled, spelled⟩

/-- The texts of a complaint, as they are written. -/
def complaintWritten (message : String) : String :=
  String.ofList (Json.objectWritten [("error", "Export failed"), ("message", message)])

/-- The body of a refusal is the bytes of its complaint, which is always written: there are no
integers in it. -/
lemma body_refusal_eq_ok_iff : (WorkerReply.refusal sent message).body = .ok body ↔
    Text.encodeUtf8 (complaintWritten message) = .ok body := by
  have written : Json.writeWith Json.compact (WorkerReply.complaint message)
      = .ok (complaintWritten message) :=
    Json.writeWith_texts [("error", "Export failed"), ("message", message)]
  simp only [WorkerReply.body, written, bind_eq_ok, Except.ok.injEq, exists_eq_left', mapError_eq_ok]

/-- A refusal has a body unless its message has a half. -/
lemma exists_body_iff (sent : Nat) (spelled : Text.IsSpelled message.toList) :
    (∃ body, (WorkerReply.refusal sent message).body = .ok body) ↔ Text.IsWhole message.toList := by
  have low : Text.IsLow "error".toList ∧ Text.IsLow "Export failed".toList
      ∧ Text.IsLow "message".toList := by decide
  simp only [body_refusal_eq_ok_iff]
  refine (Json.exists_bytes_texts_iff (spelled_complaint spelled)).trans ?_
  rw [List.forall_mem_cons, List.forall_mem_singleton,
    and_iff_right ⟨low.1.isWhole, low.2.1.isWhole⟩, and_iff_right low.2.2.isWhole]

/-- **What the worker writes is what the client reads.** -/
lemma failureOfResponse_refusal (status : Int) (spelled : Text.IsSpelled message.toList)
    (written : (WorkerReply.refusal sent message).body = .ok body) :
    failureOfResponse status body
      = .ok (.execution (.reported (heard message) (complaintWritten message))) := by
  have members := spelled_complaint spelled
  have encoded := body_refusal_eq_ok_iff.mp written
  have parsed := Json.parseBytes_texts (by simp) members encoded
  have listed : Text.IsSpelled (complaintWritten message).toList := by
    rw [complaintWritten, String.toList_ofList]
    exact Json.isSpelled_objectWritten members
  have whole := Text.lossyText_of_encodeUtf8 listed encoded
  rw [failureOfResponse_of_complaint status parsed (complaint_heard message), whole]
  rfl

end Refusal

/-! ## Understanding -/

/-- **The client hears every complaint of the worker, and takes nothing else for one.**  A refusal
has a body unless its message has a half, and the failure that is read from the body has the
message and the text of the body.  Of any body that can be read, the failure is one of the worker
exactly if the body says what went wrong; otherwise it is one of the transport, with the status. -/
theorem complaints_understood (status : Int) :
    (∀ (ns : List ℕ) (message : String) (sent : ℕ), (∀ n ∈ ns, n ≤ Text.markCode) →
      message = String.ofList (Text.spelled ns) →
        ((∃ body, (WorkerReply.refusal sent message).body = .ok body)
          ↔ ∀ n ∈ ns, Text.isHalf n = false)
        ∧ ∀ body, (WorkerReply.refusal sent message).body = .ok body →
          ∃ problem text, failureOfResponse status body = .ok (.execution problem)
            ∧ problem.message
              = "Cloud export failed: " ++ (if message = "" then "Export failed" else message)
            ∧ (ExportFailure.execution problem).diagnostics? = some text
            ∧ Text.encodeUtf8 text = .ok body)
    ∧ ∀ (body : ByteArray) (value : Option Json), Json.parseBytes body = .ok value →
      ((∃ problem, failureOfResponse status body = .ok (.execution problem)) ↔ Outspoken value)
      ∧ (∀ members problem, value = some (.obj members) → Complaint members problem →
        failureOfResponse status body
          = .ok (.execution (.reported problem.plainText (Text.lossyText body))))
      ∧ (¬ Outspoken value →
        failureOfResponse status body = .ok (.transport (.status status))) := by
  constructor
  · rintro ns message sent bounded rfl
    have listed : (String.ofList (Text.spelled ns)).toList = Text.spelled ns := String.toList_ofList
    have spelled : Text.IsSpelled (String.ofList (Text.spelled ns)).toList :=
      listed.symm ▸ Text.IsSpelled.of_codes bounded
    have whole : Text.IsWhole (String.ofList (Text.spelled ns)).toList ↔
        ∀ n ∈ ns, Text.isHalf n = false := by
      rw [listed, Text.IsWhole, Text.codes_spelled bounded]
    refine ⟨(exists_body_iff sent spelled).trans whole, fun body written => ?_⟩
    exact ⟨_, _, failureOfResponse_refusal status spelled written, rfl, rfl,
      body_refusal_eq_ok_iff.mp written⟩
  · intro body value parsed
    refine ⟨execution_iff_outspoken status parsed, ?_, failureOfResponse_of_silent status parsed⟩
    rintro members problem rfl complaint
    exact failureOfResponse_of_complaint status parsed complaint

/-- A refusal whose message has to be escaped, and a body with an error but no message. -/
theorem complaints_understood_sample :
    (∃ body problem, (WorkerReply.refusal WorkerReply.badRequest "\"ß").body = .ok body
      ∧ failureOfResponse 400 body = .ok (.execution problem)
      ∧ problem.message = "Cloud export failed: \"ß")
    ∧ failureOfResponse 400 ⟨#[0x7B, 0x22, 0x65, 0x72, 0x72, 0x6F, 0x72, 0x22, 0x3A, 0x31, 0x7D]⟩
      = .ok (.execution (.reported "1" "\x7b\"error\":1\x7d")) := by
  obtain ⟨refusals, bodies⟩ := complaints_understood 400
  constructor
  · obtain ⟨written, read⟩ := refusals [0x22, 0xDF] "\"ß" WorkerReply.badRequest (by decide) rfl
    obtain ⟨body, sent⟩ := written.mpr (by decide)
    obtain ⟨problem, text, means, message, -⟩ := read body sent
    exact ⟨body, problem, sent, means, message⟩
  · have parsed : Json.parseBytes ⟨#[0x7B, 0x22, 0x65, 0x72, 0x72, 0x6F, 0x72, 0x22, 0x3A, 0x31,
        0x7D]⟩ = .ok (some (.obj [("error", .int 1)])) := by
      rw [Json.parseBytes, Text.toList_eq]
      rfl
    have text : Text.lossyText ⟨#[0x7B, 0x22, 0x65, 0x72, 0x72, 0x6F, 0x72, 0x22, 0x3A, 0x31,
        0x7D]⟩ = "\x7b\"error\":1\x7d" := by
      rw [Text.lossyText, Text.lossyChars, Text.toList_eq]
      decide +kernel
    have means := (bodies _ _ parsed).2.1 _ (.int 1) rfl
      (.error (by rintro _ ⟨⟩) rfl rfl)
    rwa [text] at means

/-- A message with a half has no body. -/
theorem half_unsent : ¬ ∃ body, (WorkerReply.refusal WorkerReply.serverError
    ("FFmpeg not found: " ++ String.ofList (Text.spelled [0xDCFF]))).body = .ok body := by
  have unsent : (WorkerReply.refusal WorkerReply.serverError
      ("FFmpeg not found: " ++ String.ofList (Text.spelled [0xDCFF]))).body.isOk = false := by
    decide +kernel
  rintro ⟨body, sent⟩
  rw [sent] at unsent
  cases unsent

end Montage
