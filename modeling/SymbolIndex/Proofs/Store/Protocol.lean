-- SUMMARY: What the operations of the remote store make of each reply, and which requests they send after which reply.
import SymbolIndex.Proofs.Store.ImportReply
import SymbolIndex.Proofs.Web.Address

/-!
# The protocol of the remote store

Five of the six operations make one call and read its reply. The sixth one, which
provides the collection, opens with a call that looks for the collection or drops it,
and the reply to that decides whether a second call creates it. A collection that is
there is neither dropped nor created again unless that is asked for, and no refusal
passes for a success.
-/

namespace SymbolIndex

namespace Reply

/-- A success whose body reads as JSON. -/
def HoldsJson (reply : Reply) : Prop :=
  reply.isSuccess = true ∧
    ∃ text value, reply.text? = some text ∧ Json.parse (Utf8.encode text) = .ok value

/-- The reply to the first call of an operation that provides the collection says that
there is none now. -/
def CallsForCreation (reset : Bool) (reply : Reply) : Prop :=
  reply.status = 404 ∨ reset = true ∧ reply.isSuccess = true

theorem isSuccess_of_status {reply : Reply} (h : 300 ≤ reply.status) :
    reply.isSuccess = false := by
  simp only [isSuccess, Bool.and_eq_false_iff, decide_eq_false_iff_not]
  omega

theorem HoldsJson.not_missing {reply : Reply} (h : reply.HoldsJson) : reply.status ≠ 404 := by
  intro hmissing
  have hrefused : reply.isSuccess = false := isSuccess_of_status (by omega)
  rw [h.1] at hrefused
  cases hrefused

end Reply

/-- Part of the text is the word, in any ASCII case. -/
def Mentions (text word : String) : Prop :=
  ∃ before found after, text.toList = before ++ found ++ after ∧
    found.map Char.toLower = word.toList

namespace RemoteStore

/-! ## Mentions -/

theorem occursIn_iff {part text : List Char} :
    occursIn part text = true ↔ ∃ before after, text = before ++ part ++ after := by
  induction text with
  | nil => simp [occursIn]
  | cons c cs ih =>
      rw [occursIn, Bool.or_eq_true, List.isPrefixOf_iff_prefix, ih]
      constructor
      · rintro (⟨after, hafter⟩ | ⟨before, after, rfl⟩)
        · exact ⟨[], after, hafter.symm⟩
        · exact ⟨c :: before, after, rfl⟩
      · rintro ⟨before, after, heq⟩
        cases before with
        | nil => exact .inl ⟨after, heq.symm⟩
        | cons b before =>
            obtain ⟨-, hcs⟩ := List.cons.inj heq
            exact .inr ⟨before, after, hcs⟩

theorem occursIn_lowerAscii_iff {text word : String} :
    occursIn word.toList (Text.lowerAscii text).toList = true ↔ Mentions text word := by
  rw [occursIn_iff, Text.lowerAscii, String.toList_ofList]
  constructor
  · rintro ⟨before, after, heq⟩
    obtain ⟨front, behind, htext, hfront, -⟩ := List.map_eq_append_iff.1 heq
    obtain ⟨start, found, hstart, -, hfound⟩ := List.map_eq_append_iff.1 hfront
    exact ⟨start, found, behind, by rw [htext, hstart], hfound⟩
  · rintro ⟨before, found, after, htext, hfound⟩
    refine ⟨before.map Char.toLower, after.map Char.toLower, ?_⟩
    rw [htext, List.map_append, List.map_append, hfound]

/-- The refusal of a search tells of the schema if it mentions a field or an index. -/
theorem tellsOfSchema_iff {body : String} :
    tellsOfSchema body = true ↔ Mentions body "field" ∨ Mentions body "index" := by
  rw [tellsOfSchema, Bool.or_eq_true, occursIn_lowerAscii_iff, occursIn_lowerAscii_iff]

/-! ## Calls -/

/-- The call that asks whether the server is up. -/
def healthCall : Call := ⟨.get, "/health", [], none, ""⟩

variable (s : RemoteStore)

/-- The call that looks for the collection. -/
def statsCall : Call := ⟨.get, s.collectionPath, [], none, ""⟩

def dropCall : Call := ⟨.delete, s.collectionPath, [], none, ""⟩

def createCall : Call :=
  ⟨.post, "/collections", [], some "application/json", (collectionSchema s.collection).render⟩

def deleteCall (id : String) : Call :=
  ⟨.delete, s.collectionPath ++ "/documents/" ++ id, [], none, ""⟩

def searchCall (params : List (String × String)) : Call :=
  ⟨.get, s.collectionPath ++ "/documents/search", params, none, ""⟩

/-- The first call of an operation that provides the collection. -/
def openingCall (reset : Bool) : Call := if reset then s.dropCall else s.statsCall

/-- The call brings the reply. -/
def Answers (call : Call) (x : Exchange) (reply : Reply) : Prop := (s.send call x).1 = .ok reply

/-- What the server gets of the call: one request, or none if the address is not one that
can be asked or not the server's. -/
def sent (call : Call) (x : Exchange) : List Request :=
  match s.request call with
  | .error _ => []
  | .ok request => if x.reaches request.url then [request] else []

variable {s}

theorem sent_of_request {call : Call} {x : Exchange} {request : Request}
    (h : s.request call = .ok request) (hreaches : x.reaches request.url = true) :
    s.sent call x = [request] := by
  unfold sent
  rw [h]
  exact if_pos hreaches

theorem method_of_mem_sent {call : Call} {x : Exchange} {request : Request}
    (h : request ∈ s.sent call x) : request.method = call.method := by
  unfold sent at h
  split at h
  case h_1 => cases h
  case h_2 made hmade =>
      split at h
      case isTrue =>
        obtain ⟨-, -, -, -, -, -, hmethod⟩ := exists_url_of_request hmade
        rw [List.mem_singleton.1 h, hmethod]
      case isFalse => cases h

/-- A call arrives once or not at all, and once if it is answered. -/
theorem sent_cases (s : RemoteStore) (call : Call) (x : Exchange) :
    (∃ request, s.request call = .ok request ∧ s.sent call x = [request]) ∨
      s.sent call x = [] ∧ ∀ reply, ¬s.Answers call x reply := by
  unfold sent Answers send
  cases s.request call with
  | error e => exact .inr ⟨rfl, by simp⟩
  | ok request =>
      by_cases hreaches : x.reaches request.url = true
      · exact .inl ⟨request, rfl, by simp [hreaches]⟩
      · exact .inr ⟨by simp [hreaches], by simp [Exchange.send, hreaches]⟩

/-- Where the first call arrives the creation does, unless its address is longer than
those that can be asked. -/
theorem sent_createCall {reset : Bool} {x : Exchange} {request : Request}
    (h : request ∈ s.sent (s.openingCall reset) x) :
    (∃ creation, s.sent s.createCall x = [creation] ∧ creation.method = .post) ∨
      ∃ url, Url.parse? (s.baseUrl ++ "/collections") = some url ∧
        Url.lengthLimit < url.withoutUser.render.utf8ByteSize := by
  have hpath : (s.openingCall reset).path = "/collections/" ++ s.collection := by
    cases reset <;> rfl
  have hfields : (s.openingCall reset).fields = [] := by cases reset <;> rfl
  unfold sent at h
  split at h
  case h_1 => cases h
  case h_2 made hmade =>
    split at h
    case isFalse => cases h
    case isTrue hreaches =>
      obtain ⟨url, hurl, hhost, hkey, htarget, hrequestable, -⟩ := exists_url_of_request hmade
      rw [hpath] at hurl
      rw [hfields, Url.addFields_nil] at htarget
      rw [htarget] at hreaches hrequestable
      have hserver : url.scheme = "http" ∧ Exchange.isLocal url.host = true := by
        have hserver := hreaches
        unfold Exchange.reaches at hserver
        rw [Url.scheme_withoutUser, Url.host_withoutUser] at hserver
        simp only [Bool.and_eq_true, decide_eq_true_eq] at hserver
        exact hserver.1
      obtain ⟨url', hurl', hscheme, hauthority⟩ :=
        Url.exists_parse?_collections hurl hserver.1 hserver.2
      have hscheme' : url'.withoutUser.scheme = url.withoutUser.scheme := hscheme
      have hauthority' := Url.withoutUser_authority_eq hauthority
      by_cases hlength : url'.withoutUser.render.utf8ByteSize ≤ Url.lengthLimit
      · have hrequestable' : url'.withoutUser.isRequestable = true :=
          Url.isRequestable_of_eq hscheme' hauthority' hlength hrequestable
        have hreaches' := (Url.reaches_eq hscheme' hauthority' x).trans hreaches
        have hrequest := request_of_url s.createCall hurl'
          (by rwa [Url.host_eq hauthority]) hkey hrequestable'
        exact .inl ⟨_, sent_of_request hrequest hreaches', rfl⟩
      · exact .inr ⟨url', hurl', Nat.lt_of_not_le hlength⟩

/-- The exchange after a call is the one after its request, if there is one. -/
theorem snd_send (s : RemoteStore) (call : Call) (x : Exchange) :
    (s.send call x).2 =
      match s.request call with
      | .error _ => x
      | .ok request => (x.send request).2 := by
  unfold send
  cases s.request call with
  | error e => rfl
  | ok request =>
      dsimp only
      rcases x.send request with ⟨_ | reply, after⟩ <;> rfl

theorem requests_send_eq (s : RemoteStore) (call : Call) (x : Exchange) :
    (s.send call x).2.requests = x.requests ++ s.sent call x := by
  rw [snd_send, sent]
  cases s.request call with
  | error e => exact (List.append_nil _).symm
  | ok request =>
      by_cases hreaches : x.reaches request.url = true <;> simp [Exchange.send, hreaches]

/-- The server stays where it is. -/
theorem reaches_send (s : RemoteStore) (call : Call) (x : Exchange) (url : Url) :
    (s.send call x).2.reaches url = x.reaches url := by
  rw [snd_send]
  cases s.request call with
  | error e => rfl
  | ok request =>
      dsimp only [Exchange.send]
      split <;> rfl

theorem sent_send (s : RemoteStore) (call before : Call) (x : Exchange) :
    s.sent call (s.send before x).2 = s.sent call x := by
  simp only [sent, reaches_send]

/-- A reply that is read to a value has come. -/
theorem exists_answer_of_ok {call : Call} {x : Exchange} {read : Reply → Result α} {v : α}
    (h : ((s.send call x).1 >>= read) = .ok v) :
    ∃ reply, s.Answers call x reply ∧ read reply = .ok v := by
  cases hsend : (s.send call x).1 with
  | error e =>
      rw [hsend] at h
      cases h
  | ok reply =>
      rw [hsend] at h
      exact ⟨reply, hsend, h⟩

theorem Answers.bind_eq {call : Call} {x : Exchange} {reply : Reply}
    (h : s.Answers call x reply) (read : Reply → Result α) :
    ((s.send call x).1 >>= read) = read reply := by
  rw [show (s.send call x).1 = .ok reply from h]
  rfl

/-! ## Reading replies -/

section Reading

variable {operation : String} {reply : Reply}

theorem check_of_success (operation : String) (h : reply.isSuccess = true) :
    check operation reply = .ok reply := if_pos h

theorem check_of_refusal (operation : String) (h : reply.isSuccess = false) :
    check operation reply = .error (.remoteStatus operation reply.status reply.text) :=
  if_neg (by simp [h])

theorem isSuccess_of_check_eq {reply' : Reply} (h : check operation reply = .ok reply') :
    reply.isSuccess = true := by
  by_contra hrefused
  rw [check_of_refusal operation (Bool.eq_false_iff.2 hrefused)] at h
  cases h

/-- What is read behind a check is read off a success. -/
theorem isSuccess_of_check {read : Reply → Result α} {v : α}
    (h : (check operation reply >>= read) = .ok v) :
    reply.isSuccess = true ∧ read reply = .ok v := by
  cases hcheck : check operation reply with
  | error e =>
      rw [hcheck] at h
      cases h
  | ok checked =>
      have hsuccess := isSuccess_of_check_eq hcheck
      rw [check_of_success operation hsuccess] at h
      exact ⟨hsuccess, h⟩

theorem readHealth_of_refusal (h : reply.isSuccess = false) : readHealth reply = .ok false :=
  if_neg (by simp [h])

theorem readDelete_eq_ok {found : Bool} (h : readDelete reply = .ok found) :
    found = true ∧ reply.isSuccess = true ∨ found = false ∧ reply.status = 404 := by
  unfold readDelete at h
  split at h
  case isTrue hmissing => exact .inr ⟨(Except.ok.inj h).symm, hmissing⟩
  case isFalse =>
      refine .inl ?_
      cases hsuccess : reply.isSuccess with
      | false =>
          rw [check_of_refusal _ hsuccess] at h
          cases h
      | true =>
          rw [check_of_success _ hsuccess] at h
          exact ⟨(Except.ok.inj h).symm, rfl⟩

theorem readStats_of_missing (h : reply.status = 404) : s.readStats reply = .ok none := if_pos h

theorem readStats_eq_ok {stats : Option CollectionStats} (h : s.readStats reply = .ok stats) :
    reply.HoldsJson ∧ stats ≠ none ∨ reply.status = 404 ∧ stats = none := by
  unfold readStats at h
  split at h
  case isTrue hmissing => exact .inr ⟨hmissing, (Except.ok.inj h).symm⟩
  case isFalse =>
      obtain ⟨hsuccess, hread⟩ := isSuccess_of_check h
      refine .inl ?_
      unfold readBody at hread
      cases htext : reply.text? with
      | none =>
          rw [htext] at hread
          cases hread
      | some text =>
          rw [htext] at hread
          cases hparse : Json.parse (Utf8.encode text) with
          | error failure =>
              simp only [hparse] at hread
              cases hread
          | ok value =>
              simp only [hparse] at hread
              refine ⟨⟨hsuccess, text, value, htext, hparse⟩, ?_⟩
              rw [← Except.ok.inj hread]
              exact Option.some_ne_none _

theorem readStats_of_json (h : reply.HoldsJson) :
    ∃ stats, s.readStats reply = .ok (some stats) := by
  have hfound := h.not_missing
  obtain ⟨hsuccess, text, value, htext, hparse⟩ := h
  have hbody : readBody Json.parse reply = .ok value := by
    rw [readBody, htext]
    dsimp only
    rw [hparse]
    rfl
  rw [readStats, if_neg hfound, check_of_success _ hsuccess]
  simp only [bind, Except.bind, hbody, Except.ok.injEq, Option.some.injEq, exists_eq']

theorem readSearch_of_mention (hstatus : reply.status = 400)
    (h : Mentions reply.text "field" ∨ Mentions reply.text "index") :
    readSearch reply = .error (.schemaMismatch reply.text) := by
  rw [readSearch, if_pos hstatus, if_pos (tellsOfSchema_iff.2 h)]

theorem readSearch_of_no_mention (hstatus : reply.status = 400)
    (h : ¬(Mentions reply.text "field" ∨ Mentions reply.text "index")) :
    readSearch reply = .error (.remoteStatus "search" 400 reply.text) := by
  rw [readSearch, if_pos hstatus, if_neg (mt tellsOfSchema_iff.1 h)]

theorem isSuccess_of_readSearch {response : SearchResponse} (h : readSearch reply = .ok response) :
    reply.isSuccess = true := by
  unfold readSearch at h
  split at h
  case isTrue =>
      split at h <;> cases h
  case isFalse => exact (isSuccess_of_check h).1

end Reading

/-! ## Providing the collection -/

/-- Reads the reply to a drop. -/
def readDrop (reply : Reply) : Result Unit :=
  if reply.status = 404 then .ok () else (check "drop collection" reply).map fun _ => ()

theorem readDrop_eq_ok_iff {reply : Reply} :
    readDrop reply = .ok () ↔ reply.status = 404 ∨ reply.isSuccess = true := by
  unfold readDrop
  by_cases hmissing : reply.status = 404
  · simp [hmissing]
  · cases hsuccess : reply.isSuccess with
    | false => simp [hmissing, check_of_refusal _ hsuccess, Except.map]
    | true => simp [hmissing, check_of_success _ hsuccess, Except.map]

theorem value_dropCollection (s : RemoteStore) (x : Exchange) :
    (s.dropCollection x).value =
      ((s.send s.dropCall x).1 >>= readDrop, (s.send s.dropCall x).2) := by
  unfold dropCollection
  rw [← dropCall]
  rcases s.send s.dropCall x with ⟨e | reply, after⟩
  · rfl
  · by_cases hmissing : reply.status = 404
    · simp [readDrop, hmissing, bind, Except.bind]
    · cases hcheck : check "drop collection" reply <;>
        simp [readDrop, hmissing, hcheck, bind, Except.bind, Except.map]

theorem value_createCollection (s : RemoteStore) (x : Exchange) :
    (s.createCollection x).value =
      (((s.send s.createCall x).1 >>= check "create collection").map fun _ => (),
        (s.send s.createCall x).2) := by
  unfold createCollection
  dsimp only
  rw [← createCall]
  cases (s.send s.createCall x).1 >>= check "create collection" with
  | error e => rfl
  | ok reply => rfl

/-- Reads the reply to the first call: whether the collection is to be created. -/
def readOpening (s : RemoteStore) (reset : Bool) (reply : Reply) : Result Bool :=
  if reset then (readDrop reply).map fun _ => true else (s.readStats reply).map Option.isNone

theorem readOpening_eq_true_iff {reset : Bool} {reply : Reply} :
    s.readOpening reset reply = .ok true ↔ reply.CallsForCreation reset := by
  cases reset with
  | true =>
      have hdrop : readDrop reply = .ok () ↔ _ := readDrop_eq_ok_iff
      cases hread : readDrop reply with
      | error e => simpa [readOpening, Reply.CallsForCreation, hread, Except.map] using hdrop
      | ok done => simpa [readOpening, Reply.CallsForCreation, hread, Except.map] using hdrop
  | false =>
      constructor
      · intro h
        cases hread : s.readStats reply with
        | error e => simp [readOpening, hread, Except.map] at h
        | ok stats =>
            rcases readStats_eq_ok hread with ⟨-, hfound⟩ | ⟨hmissing, -⟩
            · simp [readOpening, hread, Except.map, hfound] at h
            · exact .inl hmissing
      · rintro (hmissing | ⟨h, -⟩)
        · simp [readOpening, readStats_of_missing hmissing, Except.map]
        · cases h

theorem readOpening_eq_false_iff {reset : Bool} {reply : Reply} :
    s.readOpening reset reply = .ok false ↔ reset = false ∧ reply.HoldsJson := by
  cases reset with
  | true => cases hread : readDrop reply <;> simp [readOpening, hread, Except.map]
  | false =>
      constructor
      · intro h
        cases hread : s.readStats reply with
        | error e => simp [readOpening, hread, Except.map] at h
        | ok stats =>
            rcases readStats_eq_ok hread with ⟨hjson, -⟩ | ⟨-, rfl⟩
            · exact ⟨rfl, hjson⟩
            · simp [readOpening, hread, Except.map] at h
      · rintro ⟨-, hjson⟩
        obtain ⟨stats, hread⟩ := s.readStats_of_json hjson
        simp [readOpening, hread, Except.map]

/-- The collection is provided by one call, or by two if the reply to the first one says
that there is none. -/
theorem value_ensureCollection (s : RemoteStore) (reset : Bool) (x : Exchange) :
    (s.ensureCollection reset x).value =
      match (s.send (s.openingCall reset) x).1 >>= s.readOpening reset with
      | .error e => (.error e, (s.send (s.openingCall reset) x).2)
      | .ok false => (.ok (), (s.send (s.openingCall reset) x).2)
      | .ok true => (s.createCollection (s.send (s.openingCall reset) x).2).value := by
  cases reset with
  | true =>
      rw [ensureCollection, if_pos rfl, Logged.value_bind, value_dropCollection,
        show s.openingCall true = s.dropCall from rfl]
      rcases s.send s.dropCall x with ⟨e | reply, after⟩
      · rfl
      · cases hread : readDrop reply <;>
          simp [readOpening, hread, bind, Except.bind, Except.map]
  | false =>
      rw [ensureCollection, if_neg (by simp), statsStep,
        show s.openingCall false = s.statsCall from rfl, ← statsCall]
      rcases s.send s.statsCall x with ⟨e | reply, after⟩
      · rfl
      · rcases hread : s.readStats reply with e | (_ | stats) <;>
          simp [readOpening, hread, bind, Except.bind, Except.map]

/-! ## The protocol -/

/-- How the collection is provided: by which requests, and with which outcome. -/
structure ProvidesInOrder (s : RemoteStore) (reset : Bool) (x : Exchange) : Prop where
  /-- A first reply that calls for it is followed by the creation, once. The collection is
  provided if that succeeds. -/
  creates : ∀ reply, s.Answers (s.openingCall reset) x reply → reply.CallsForCreation reset →
    (s.operations.ensureCollection reset x).value.2.requests =
      x.requests ++ s.sent (s.openingCall reset) x ++ s.sent s.createCall x ∧
    ((s.operations.ensureCollection reset x).value.1 = .ok () ↔
      ∃ created, s.Answers s.createCall (s.send (s.openingCall reset) x).2 created ∧
        created.isSuccess = true)
  /-- That one arrives as the first call did, unless its address is longer than those that
  can be asked. -/
  arrives : ∀ request ∈ s.sent (s.openingCall reset) x,
    (∃ creation, s.sent s.createCall x = [creation] ∧ creation.method = .post) ∨
      ∃ url, Url.parse? (s.baseUrl ++ "/collections") = some url ∧
        Url.lengthLimit < url.withoutUser.render.utf8ByteSize
  /-- A collection that is there is provided, and nothing further is sent. -/
  keeps : ∀ reply, s.Answers (s.openingCall reset) x reply → reset = false → reply.HoldsJson →
    (s.operations.ensureCollection reset x).value.1 = .ok () ∧
    (s.operations.ensureCollection reset x).value.2.requests =
      x.requests ++ s.sent (s.openingCall reset) x
  /-- With any other first reply, or without one, it fails, and nothing further is sent. -/
  fails : (∀ reply, s.Answers (s.openingCall reset) x reply →
      ¬reply.CallsForCreation reset ∧ ¬(reset = false ∧ reply.HoldsJson)) →
    (∃ e, (s.operations.ensureCollection reset x).value.1 = .error e) ∧
    (s.operations.ensureCollection reset x).value.2.requests =
      x.requests ++ s.sent (s.openingCall reset) x
  /-- Nothing is dropped unless that is asked for. -/
  spares : reset = false → ∃ further,
    (s.operations.ensureCollection reset x).value.2.requests = x.requests ++ further ∧
    ∀ request ∈ further, request.method ≠ .delete

/-- What the operations make of the replies that they get, and what they send. -/
structure KeepsProtocol (s : RemoteStore) (x : Exchange) : Prop where
  /-- A call arrives once or not at all, and once if it is answered. -/
  sent_once : ∀ call,
    (∃ request, s.request call = .ok request ∧ s.sent call x = [request]) ∨
      s.sent call x = [] ∧ ∀ reply, ¬s.Answers call x reply
  /-- A server is healthy on a success only. -/
  health_ok : ∀ healthy, (s.operations.health x).value.1 = .ok healthy →
    ∃ reply, s.Answers healthCall x reply ∧ (reply.isSuccess = true ∨ healthy = false)
  health_refused : ∀ reply, s.Answers healthCall x reply → reply.isSuccess = false →
    (s.operations.health x).value.1 = .ok false
  stats_ok : ∀ stats, (s.operations.stats x).value.1 = .ok stats →
    ∃ reply, s.Answers s.statsCall x reply ∧
      (reply.isSuccess = true ∧ stats ≠ none ∨ reply.status = 404 ∧ stats = none)
  stats_missing : ∀ reply, s.Answers s.statsCall x reply → reply.status = 404 →
    (s.operations.stats x).value.1 = .ok none
  provides : ∀ reset, s.ProvidesInOrder reset x
  import_ok : ∀ docs summary, docs ≠ [] →
    (s.operations.importDocuments docs x).value.1 = .ok summary →
    ∃ reply, s.Answers (s.importCall docs) x reply ∧ reply.isSuccess = true
  /-- An import of nothing sends nothing. -/
  import_none : (s.operations.importDocuments [] x).value = (.ok {}, x)
  delete_ok : ∀ id found, (s.operations.deleteDocument id x).value.1 = .ok found →
    ∃ reply, s.Answers (s.deleteCall id) x reply ∧
      (found = true ∧ reply.isSuccess = true ∨ found = false ∧ reply.status = 404)
  delete_missing : ∀ id reply, s.Answers (s.deleteCall id) x reply → reply.status = 404 →
    (s.operations.deleteDocument id x).value.1 = .ok false
  search_ok : ∀ params response, (s.operations.search params x).value.1 = .ok response →
    ∃ reply, s.Answers (s.searchCall params) x reply ∧ reply.isSuccess = true
  /-- A bad search is blamed on the schema if the body mentions a field or an index. -/
  search_mismatch : ∀ params reply, s.Answers (s.searchCall params) x reply →
    reply.status = 400 → Mentions reply.text "field" ∨ Mentions reply.text "index" →
    (s.operations.search params x).value.1 = .error (.schemaMismatch reply.text)
  search_refused : ∀ params reply, s.Answers (s.searchCall params) x reply →
    reply.status = 400 → ¬(Mentions reply.text "field" ∨ Mentions reply.text "index") →
    (s.operations.search params x).value.1 = .error (.remoteStatus "search" 400 reply.text)

theorem creates_of_answer {reset : Bool} {x : Exchange} {reply : Reply}
    (hreply : s.Answers (s.openingCall reset) x reply) (hcalls : reply.CallsForCreation reset) :
    (s.ensureCollection reset x).value =
      (s.createCollection (s.send (s.openingCall reset) x).2).value := by
  rw [value_ensureCollection, hreply.bind_eq, readOpening_eq_true_iff.2 hcalls]

theorem requests_createCollection (s : RemoteStore) (reset : Bool) (x : Exchange) :
    (s.createCollection (s.send (s.openingCall reset) x).2).value.2.requests =
      x.requests ++ s.sent (s.openingCall reset) x ++ s.sent s.createCall x := by
  rw [value_createCollection]
  dsimp only
  rw [requests_send_eq, requests_send_eq, sent_send]

theorem createCollection_eq_ok_iff {x : Exchange} :
    (s.createCollection x).value.1 = .ok () ↔
      ∃ created, s.Answers s.createCall x created ∧ created.isSuccess = true := by
  rw [value_createCollection]
  constructor
  · intro h
    cases houtcome : (s.send s.createCall x).1 >>= check "create collection" with
    | error e =>
        rw [houtcome] at h
        cases h
    | ok checked =>
        obtain ⟨created, hcreated, hcheck⟩ := exists_answer_of_ok houtcome
        exact ⟨created, hcreated, isSuccess_of_check_eq hcheck⟩
  · rintro ⟨created, hcreated, hsuccess⟩
    rw [hcreated.bind_eq, check_of_success _ hsuccess]
    rfl

theorem providesInOrder (s : RemoteStore) (reset : Bool) (x : Exchange) :
    s.ProvidesInOrder reset x where
  creates reply hreply hcalls := by
    show (s.ensureCollection reset x).value.2.requests = _ ∧
      ((s.ensureCollection reset x).value.1 = .ok () ↔ _)
    rw [creates_of_answer hreply hcalls]
    exact ⟨s.requests_createCollection reset x, createCollection_eq_ok_iff⟩
  arrives _ h := sent_createCall h
  keeps reply hreply hreset hjson := by
    show (s.ensureCollection reset x).value.1 = _ ∧
      (s.ensureCollection reset x).value.2.requests = _
    rw [value_ensureCollection, hreply.bind_eq, readOpening_eq_false_iff.2 ⟨hreset, hjson⟩]
    exact ⟨rfl, s.requests_send_eq _ x⟩
  fails h := by
    show (∃ e, (s.ensureCollection reset x).value.1 = .error e) ∧
      (s.ensureCollection reset x).value.2.requests = _
    rw [value_ensureCollection]
    cases hread : (s.send (s.openingCall reset) x).1 >>= s.readOpening reset with
    | error e => exact ⟨⟨e, rfl⟩, s.requests_send_eq _ x⟩
    | ok toCreate =>
        obtain ⟨reply, hreply, hopening⟩ := exists_answer_of_ok hread
        obtain ⟨hcalls, hjson⟩ := h reply hreply
        cases toCreate with
        | true => exact absurd (readOpening_eq_true_iff.1 hopening) hcalls
        | false => exact absurd (readOpening_eq_false_iff.1 hopening) hjson
  spares hreset := by
    subst hreset
    show ∃ further, (s.ensureCollection false x).value.2.requests = _ ∧ _
    have hlook : ∀ request ∈ s.sent (s.openingCall false) x, request.method ≠ .delete := by
      intro request hrequest
      rw [method_of_mem_sent hrequest]
      simp [openingCall, statsCall]
    have hcreate : ∀ request ∈ s.sent s.createCall x, request.method ≠ .delete := by
      intro request hrequest
      rw [method_of_mem_sent hrequest]
      simp [createCall]
    rw [value_ensureCollection]
    rcases (s.send (s.openingCall false) x).1 >>= s.readOpening false with e | (_ | _)
    · exact ⟨_, s.requests_send_eq _ x, hlook⟩
    · exact ⟨_, s.requests_send_eq _ x, hlook⟩
    · refine ⟨_, (s.requests_createCollection false x).trans (List.append_assoc ..), ?_⟩
      intro request hrequest
      exact (List.mem_append.1 hrequest).elim (hlook request) (hcreate request)

/-- The operations of the store keep to the protocol, whatever the server replies. -/
theorem keepsProtocol (s : RemoteStore) (x : Exchange) : s.KeepsProtocol x where
  sent_once call := s.sent_cases call x
  health_ok healthy h := by
    obtain ⟨reply, hreply, hread⟩ := exists_answer_of_ok h
    refine ⟨reply, hreply, ?_⟩
    cases hsuccess : reply.isSuccess with
    | true => exact .inl rfl
    | false =>
        rw [readHealth_of_refusal hsuccess] at hread
        exact .inr (Except.ok.inj hread).symm
  health_refused reply hreply hrefused :=
    (hreply.bind_eq readHealth).trans (readHealth_of_refusal hrefused)
  stats_ok stats h := by
    obtain ⟨reply, hreply, hread⟩ := exists_answer_of_ok h
    exact ⟨reply, hreply, (readStats_eq_ok hread).imp_left (And.imp_left And.left)⟩
  stats_missing reply hreply hmissing :=
    (hreply.bind_eq s.readStats).trans (readStats_of_missing hmissing)
  provides reset := s.providesInOrder reset x
  import_ok docs summary hdocs h := by
    have hvalue : ((s.send (s.importCall docs) x).1 >>= s.readImport) = .ok summary := by
      rw [← h]
      exact (congrArg Prod.fst (s.value_importDocuments hdocs x)).symm
    obtain ⟨reply, hreply, hread⟩ := exists_answer_of_ok hvalue
    exact ⟨reply, hreply, (isSuccess_of_check hread).1⟩
  import_none := rfl
  delete_ok id found h := by
    obtain ⟨reply, hreply, hread⟩ := exists_answer_of_ok h
    exact ⟨reply, hreply, readDelete_eq_ok hread⟩
  delete_missing id reply hreply hmissing :=
    (hreply.bind_eq readDelete).trans (if_pos hmissing)
  search_ok params response h := by
    obtain ⟨reply, hreply, hread⟩ := exists_answer_of_ok h
    exact ⟨reply, hreply, isSuccess_of_readSearch hread⟩
  search_mismatch params reply hreply hstatus h :=
    (hreply.bind_eq readSearch).trans (readSearch_of_mention hstatus h)
  search_refused params reply hreply hstatus h :=
    (hreply.bind_eq readSearch).trans (readSearch_of_no_mention hstatus h)

end RemoteStore

end SymbolIndex
