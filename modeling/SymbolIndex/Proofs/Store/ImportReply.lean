-- SUMMARY: What a reply to an import comes to: each line that says something is counted once, however many documents were sent.
import SymbolIndex.Proofs.Store.ImportBody

/-!
# Replies to imports

A server answers an import with a line for each document. The lines are counted as
they come: one that reports success as an import, any other one as a failure with a
message. The number of documents plays no part in that, so the counts come to the
documents exactly if there are as many lines.
-/

namespace SymbolIndex

/-- The outcome of an import of `n` documents says of each of them whether it was
imported, with a message for each one that was not. -/
def ImportSummary.AccountsFor (summary : ImportSummary) (n : Nat) : Prop :=
  summary.imported + summary.failed = n ∧ summary.errors.length = summary.failed

namespace RemoteStore

/-! ## Lines -/

/-- The lines of a reply that say something, without the white space around them. -/
def resultLines (body : String) : List String :=
  ((Text.lines body).map Text.trim).filter (· ≠ "")

/-- The line says that its document was imported. -/
def reportsSuccess (line : String) : Bool :=
  match Json.parse (Utf8.encode line) with
  | .ok value => (value.field? "success").bind Json.boolean? = some true
  | .error _ => false

/-- The message of a line that does not report success. -/
def complaint (line : String) : String :=
  match Json.parse (Utf8.encode line) with
  | .ok value => ((value.field? "error").bind Json.text?).getD "unknown error"
  | .error failure => "unparseable import result: " ++ failure.message

theorem countLine_eq (summary : ImportSummary) (line : String) :
    countLine summary line =
      if reportsSuccess line then { summary with imported := summary.imported + 1 }
      else { summary with
        failed := summary.failed + 1
        errors := summary.errors ++ [complaint line] } := by
  unfold countLine reportsSuccess complaint
  cases Json.parse (Utf8.encode line) with
  | ok value => simp only [decide_eq_true_eq]
  | error failure => rfl

/-- What the lines of a reply add to a summary. -/
theorem foldl_countLine (lines : List String) (summary : ImportSummary) :
    lines.foldl countLine summary =
      { imported := summary.imported + lines.countP reportsSuccess
        failed := summary.failed + lines.countP fun line => !reportsSuccess line
        errors := summary.errors ++
          (lines.filter fun line => !reportsSuccess line).map complaint } := by
  induction lines generalizing summary with
  | nil => simp
  | cons line lines ih =>
      rw [List.foldl_cons, ih, countLine_eq]
      cases hline : reportsSuccess line with
      | true => simp [hline, Nat.add_assoc, Nat.add_comm 1]
      | false => simp [hline, Nat.add_assoc, Nat.add_comm 1]

/-- A reply is summed up by its lines. -/
theorem importSummary_eq (body : String) :
    importSummary body =
      { imported := (resultLines body).countP reportsSuccess
        failed := (resultLines body).countP fun line => !reportsSuccess line
        errors := ((resultLines body).filter fun line => !reportsSuccess line).map complaint } := by
  rw [importSummary, foldl_countLine]
  simp [resultLines]

/-- The counts of a reply come to its lines, with a message for each failure. -/
theorem accountsFor_importSummary (body : String) :
    (importSummary body).AccountsFor (resultLines body).length := by
  rw [importSummary_eq]
  constructor
  · simpa using (List.length_eq_countP_add_countP reportsSuccess (l := resultLines body)).symm
  · simp [List.countP_eq_length_filter]

theorem accountsFor_importSummary_iff {body : String} {n : Nat} :
    (importSummary body).AccountsFor n ↔ (resultLines body).length = n := by
  obtain ⟨htotal, herrors⟩ := accountsFor_importSummary body
  rw [ImportSummary.AccountsFor, htotal, and_iff_left herrors]

/-! ## Calls that get through -/

/-- A call that arrives brings the next reply of the server. -/
theorem send_of_arrives {s : RemoteStore} {call : Call} {x : Exchange} {reply : Reply}
    (h : s.Arrives call x) (hreply : x.replies.head? = some reply)
    (hfinal : reply.isFinal = true) : (s.send call x).1 = .ok reply := by
  obtain ⟨url, hurl, hhost, hkey, htarget, hreaches⟩ := h
  have hgiven : (some reply).filter Reply.isFinal = some reply := by
    rw [Option.filter_some, if_pos hfinal]
  simp [send, Exchange.send, request_of_url call hurl hhost hkey htarget, hreaches, hreply, hgiven]

/-- The server of the store on this machine gives one reply. -/
def replying (reply : Reply) : Exchange := { listening := some 8108, replies := [reply] }

theorem send_importCall_onThisMachine (docs : List IndexDocument) {reply : Reply}
    (hfinal : reply.isFinal = true) :
    (onThisMachine.send (onThisMachine.importCall docs) (replying reply)).1 = .ok reply :=
  send_of_arrives (arrives_onThisMachine docs rfl) rfl hfinal

/-! ## Outcomes -/

/-- The outcome of an import whose reply is a success. It is an error if the body
breaks off. Otherwise it says how many lines of the body report success, how many do
not, and what these complain of. That accounts for the documents exactly if the body
has a line for each of them. -/
theorem importDocuments_reply (s : RemoteStore) {docs : List IndexDocument} (hdocs : docs ≠ [])
    (x : Exchange) {reply : Reply} (hreply : (s.send (s.importCall docs) x).1 = .ok reply)
    (hsuccess : reply.isSuccess = true) :
    (reply.text? = none ∧
      (s.importDocuments docs x).value.1 = .error (s.unavailable
        "failed to read import result: error decoding response body")) ∨
    ∃ (body : String) (summary : ImportSummary),
      reply.text? = some body ∧ (s.importDocuments docs x).value.1 = .ok summary ∧
      summary.imported = (resultLines body).countP reportsSuccess ∧
      summary.failed = (resultLines body).countP (fun line => !reportsSuccess line) ∧
      summary.errors =
        ((resultLines body).filter fun line => !reportsSuccess line).map complaint ∧
      (summary.AccountsFor docs.length ↔ (resultLines body).length = docs.length) := by
  have houtcome : (s.importDocuments docs x).value.1 = s.readImport reply := by
    rw [s.value_importDocuments hdocs, hreply]
    rfl
  have hcheck : check "import" reply = .ok reply := by simp [check, hsuccess]
  cases htext : reply.text? with
  | none =>
      refine .inl ⟨rfl, ?_⟩
      rw [houtcome, readImport, hcheck]
      simp [bind, Except.bind, htext]
  | some body =>
      refine .inr ⟨body, importSummary body, rfl, ?_, ?_, ?_, ?_, accountsFor_importSummary_iff⟩
      · rw [houtcome, readImport, hcheck]
        simp [bind, Except.bind, htext]
      · rw [importSummary_eq]
      · rw [importSummary_eq]
      · rw [importSummary_eq]

/-- Two documents, and a reply with a success, a blank line, and a refusal. -/
theorem importDocuments_reply_twoLines :
    let docs : List IndexDocument := [{ id := "a" }, { id := "b" }]
    let body := "\x7b\"success\":true\x7d\r\n \n\x7b\"error\":\"no\"\x7d"
    ∃ summary,
      (onThisMachine.importDocuments docs
        (replying { status := 200, body := Utf8.encode body })).value.1 = .ok summary ∧
      summary.imported = 1 ∧ summary.errors = ["no"] ∧ summary.AccountsFor 2 := by
  intro docs body
  let reply : Reply := { status := 200, body := Utf8.encode body }
  have hbody : Utf8.decode (Utf8.encode body) = body := Utf8.decode_encode body
  have hsend : (onThisMachine.send (onThisMachine.importCall docs) (replying reply)).1 =
      .ok reply := send_importCall_onThisMachine docs rfl
  rcases onThisMachine.importDocuments_reply (List.cons_ne_nil _ _) _ hsend rfl with
    ⟨hcut, -⟩ | ⟨body', summary, hbody', hrun, himported, -, herrors, haccounts⟩
  · cases hcut
  · obtain rfl : body = body' := hbody.symm.trans (Option.some.inj hbody')
    have hlines : resultLines body =
        ["\x7b\"success\":true\x7d", "\x7b\"error\":\"no\"\x7d"] := by decide +kernel
    refine ⟨summary, hrun, ?_, ?_, ?_⟩
    · rw [himported, hlines]
      decide +kernel
    · rw [herrors, hlines]
      decide +kernel
    · refine haccounts.2 ?_
      rw [hlines]
      rfl

/-- Two documents, and a reply with one line. The second document is neither imported
nor failed. -/
theorem importDocuments_reply_oneLine :
    let docs : List IndexDocument := [{ id := "a" }, { id := "b" }]
    let reply : Reply := { status := 200, body := Utf8.encode "\x7b\"success\":true\x7d\n" }
    reply.isSuccess = true ∧
    (onThisMachine.send (onThisMachine.importCall docs) (replying reply)).1 = .ok reply ∧
    ∃ summary,
      (onThisMachine.importDocuments docs (replying reply)).value.1 = .ok summary ∧
      summary = { imported := 1 } ∧ ¬summary.AccountsFor docs.length := by
  intro docs reply
  have hsend : (onThisMachine.send (onThisMachine.importCall docs) (replying reply)).1 =
      .ok reply := send_importCall_onThisMachine docs rfl
  refine ⟨rfl, hsend, { imported := 1 }, ?_, rfl, ?_⟩
  · rw [value_importDocuments _ (List.cons_ne_nil _ _)]
    dsimp only
    rw [hsend]
    decide +kernel
  · rintro ⟨htotal, -⟩
    cases htotal

end RemoteStore

end SymbolIndex
