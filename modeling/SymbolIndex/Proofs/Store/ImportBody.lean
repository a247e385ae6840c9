-- SUMMARY: An import that arrives is one request, whose body holds the documents, one on each line.
import Mathlib.Data.List.Forall2
import SymbolIndex.Proofs.File.Spelling
import SymbolIndex.Proofs.Json.RoundTrip
import SymbolIndex.Store.Remote

/-!
# Bodies of imports

The body has a line for each document, and a server that reads a line finds that
document and nothing of its neighbours, whatever characters their texts have. An import
is a request with that body if its address can be asked and is the server's.
-/

namespace SymbolIndex

/-- The numbers are those of a 64-bit and a 32-bit word. -/
structure IndexDocument.FitsWords (d : IndexDocument) : Prop where
  mtime : -0x8000000000000000 ≤ d.mtime ∧ d.mtime < 0x8000000000000000
  priority : -0x80000000 ≤ d.priority ∧ d.priority < 0x80000000

/-- The line is a JSON object that stands for the document. -/
def IndexDocument.IsOnLine (d : IndexDocument) (line : String) : Prop :=
  ∃ members, Json.parse (Utf8.encode line) = .ok (.object members) ∧
    ofJson? (.object members) = some d

/-- Between line feeds the text has a line for each document and nothing behind
the last one. -/
def HoldsLines (body : String) (docs : List IndexDocument) : Prop :=
  ∃ lines, Text.split '\n' body = lines ++ [""] ∧
    List.Forall₂ IndexDocument.IsOnLine docs lines

namespace IndexDocument

theorem isReadable_ofTexts (levels : Nat) (texts : List String) :
    (Json.ofTexts texts).IsReadable (levels + 1) := by
  intro v hv
  obtain ⟨s, -, rfl⟩ := List.mem_map.1 hv
  cases levels <;> trivial

/-- A document is an object whose members are texts, numbers and lists of texts. -/
theorem isReadable_toJson {d : IndexDocument} (h : d.FitsWords) (levels : Nat) :
    d.toJson.IsReadable (levels + 2) := by
  have hmtime : (Json.ofInt d.mtime).IsReadable (levels + 1) := by
    obtain ⟨hlow, hhigh⟩ := h.mtime
    refine ⟨hlow, ?_⟩
    unfold Json.wordLimit
    omega
  have hpriority : (Json.ofInt d.priority).IsReadable (levels + 1) := by
    obtain ⟨hlow, hhigh⟩ := h.priority
    constructor
    · omega
    · unfold Json.wordLimit
      omega
  simp only [toJson, Json.IsReadable, List.forall_mem_cons, isReadable_ofTexts, hmtime, hpriority,
    List.not_mem_nil, false_implies, implies_true, and_self]

/-- A document is on the line that is written for it. -/
theorem isOnLine_render {d : IndexDocument} (h : d.FitsWords) : d.IsOnLine d.toJson.render :=
  ⟨_, Json.parse_render (isReadable_toJson h 125), ofJson?_toJson d⟩

end IndexDocument

namespace RemoteStore

theorem toList_importBody (docs : List IndexDocument) :
    (importBody docs).toList = docs.flatMap fun d => d.toJson.render.toList ++ ['\n'] := by
  rw [importBody, String.toList_join, List.flatMap_map]
  simp only [String.toList_append]
  rfl

theorem split_importBody {docs : List IndexDocument} (h : ∀ d ∈ docs, d.FitsWords) :
    Text.split '\n' (importBody docs) = docs.map (·.toJson.render) ++ [""] := by
  rw [Text.split, toList_importBody]
  induction docs with
  | nil => rfl
  | cons d docs ih =>
      have hline : '\n' ∉ d.toJson.render.toList :=
        Json.newline_notMem_render
          (IndexDocument.isReadable_toJson (h d List.mem_cons_self) 0)
      rw [List.flatMap_cons, List.append_assoc, List.singleton_append,
        Text.splitAt_append_cons _ hline, List.map_cons, String.ofList_toList,
        ih fun d' hd' => h d' (List.mem_cons_of_mem _ hd')]
      rfl

/-- The body of an import has a line for each document. -/
theorem holdsLines_importBody {docs : List IndexDocument} (h : ∀ d ∈ docs, d.FitsWords) :
    HoldsLines (importBody docs) docs := by
  refine ⟨_, split_importBody h, ?_⟩
  rw [List.forall₂_map_right_iff, List.forall₂_same]
  exact fun d hd => IndexDocument.isOnLine_render (h d hd)

/-! ## Requests -/

section Requests

variable {s : RemoteStore} {call : Call} {x : Exchange}

/-- A request is made at the address of its call, which is one that can be asked. -/
theorem exists_url_of_request {request : Request} (h : s.request call = .ok request) :
    ∃ url, Url.parse? (s.baseUrl ++ call.path) = some url ∧ url.host ≠ "" ∧
      isHeaderText s.apiKey = true ∧ request.url = url.withoutUser.addFields call.fields ∧
      request.url.isRequestable = true ∧ request.method = call.method := by
  unfold RemoteStore.request at h
  split at h
  case h_1 => cases h
  case h_2 url hurl =>
    dsimp only at h
    split at h
    case isTrue => cases h
    case isFalse hhost =>
      split at h
      case isTrue => cases h
      case isFalse hkey =>
        split at h
        case isTrue => cases h
        case isFalse htarget =>
          obtain rfl := Except.ok.inj h
          exact ⟨url, hurl, hhost, by simpa using hkey, rfl, by simpa using htarget, rfl⟩

/-- A call is requested at its address, once that is one that can be asked. -/
theorem request_of_url {url : Url} (call : Call)
    (hurl : Url.parse? (s.baseUrl ++ call.path) = some url) (hhost : url.host ≠ "")
    (hkey : isHeaderText s.apiKey = true)
    (htarget : (url.withoutUser.addFields call.fields).isRequestable = true) :
    s.request call = .ok {
      method := call.method
      url := url.withoutUser.addFields call.fields
      apiKey := headerText s.apiKey
      contentType := call.contentType
      body := call.body } := by
  simp [request, hurl, hhost, hkey, htarget]

/-- The address of the call is one that can be asked, and the server listens there. -/
def Arrives (s : RemoteStore) (call : Call) (x : Exchange) : Prop :=
  ∃ url, Url.parse? (s.baseUrl ++ call.path) = some url ∧ url.host ≠ "" ∧
    isHeaderText s.apiKey = true ∧
    (url.withoutUser.addFields call.fields).isRequestable = true ∧
    x.reaches (url.withoutUser.addFields call.fields) = true

/-- A call that arrives is one request. -/
theorem requests_send_of_arrives (h : s.Arrives call x) :
    ∃ request, request.method = call.method ∧ request.contentType = call.contentType ∧
      request.body = call.body ∧ (s.send call x).2.requests = x.requests ++ [request] := by
  obtain ⟨url, hurl, hhost, hkey, htarget, hreaches⟩ := h
  refine ⟨⟨call.method, url.withoutUser.addFields call.fields, headerText s.apiKey,
    call.contentType, call.body⟩, rfl, rfl, rfl, ?_⟩
  rw [send, request_of_url call hurl hhost hkey htarget]
  cases hreply : (some (x.replies.head?.getD Exchange.lastReply)).filter Reply.isFinal <;>
    simp [Exchange.send, hreaches, hreply]

theorem requests_send_of_not_arrives (h : ¬ s.Arrives call x) :
    (s.send call x).2.requests = x.requests := by
  cases hrequest : s.request call with
  | error e => simp [send, hrequest]
  | ok request =>
      obtain ⟨url, hurl, hhost, hkey, htarget, hrequestable, -⟩ := exists_url_of_request hrequest
      have hreaches : x.reaches request.url = false := by
        refine Bool.eq_false_iff.2 fun hreaches => h ⟨url, hurl, hhost, hkey, ?_⟩
        rw [← htarget]
        exact ⟨hrequestable, hreaches⟩
      simp [send, Exchange.send, hrequest, hreaches]

end Requests

/-! ## Imports -/

/-- The call that brings documents to the server. -/
def importCall (s : RemoteStore) (docs : List IndexDocument) : Call :=
  ⟨.post, s.collectionPath ++ "/documents/import", [("action", "upsert")], some "text/plain",
    importBody docs⟩

/-- An import is one call, and its outcome is what the reply reads as. -/
theorem value_importDocuments (s : RemoteStore) {docs : List IndexDocument} (h : docs ≠ [])
    (x : Exchange) :
    (s.importDocuments docs x).value =
      ((s.send (s.importCall docs) x).1 >>= s.readImport, (s.send (s.importCall docs) x).2) := by
  unfold importDocuments
  rw [if_neg (by simpa using h)]
  dsimp only
  split
  · split <;> rfl
  · rfl

/-- The documents of an import arrive as they are: if its address can be asked and is the
server's, the server gets one more request, and reads the documents off the lines of its
body. Otherwise it gets none. -/
theorem importDocuments_holdsLines (s : RemoteStore) {docs : List IndexDocument} (h : docs ≠ [])
    (hwords : ∀ d ∈ docs, d.FitsWords) (x : Exchange) :
    (s.Arrives (s.importCall docs) x →
      ∃ request, request.method = .post ∧ request.contentType = some "text/plain" ∧
        HoldsLines request.body docs ∧
        (s.importDocuments docs x).value.2.requests = x.requests ++ [request]) ∧
    (¬ s.Arrives (s.importCall docs) x →
      (s.importDocuments docs x).value.2.requests = x.requests) := by
  rw [s.value_importDocuments h]
  constructor
  · intro harrives
    obtain ⟨request, hmethod, htype, hbody, hrecorded⟩ := requests_send_of_arrives harrives
    exact ⟨request, hmethod, htype, hbody ▸ holdsLines_importBody hwords, hrecorded⟩
  · exact requests_send_of_not_arrives

/-- A store on this machine. -/
def onThisMachine : RemoteStore := ofUrl "http://localhost:8108" "key" "files"

theorem arrives_onThisMachine (docs : List IndexDocument) {x : Exchange}
    (h : x.listening = some 8108) : onThisMachine.Arrives (onThisMachine.importCall docs) x := by
  have hurl : Url.parse? "http://localhost:8108/collections/files/documents/import" =
      some {
        scheme := "http"
        authority := some { host := "localhost", port := some 8108 }
        path := "/collections/files/documents/import" } := by decide +kernel
  have hwritten : onThisMachine.baseUrl ++ (onThisMachine.importCall docs).path =
      "http://localhost:8108/collections/files/documents/import" := by rfl
  have hfields : (onThisMachine.importCall docs).fields = [("action", "upsert")] := rfl
  unfold Arrives
  rw [hwritten, hfields]
  refine ⟨_, hurl, by decide, by decide +kernel, by decide +kernel, ?_⟩
  rw [Exchange.reaches, h]
  decide +kernel

/-- Two documents with line feeds, quotes, backslashes, a control character and one
beyond the basic plane. The server listens where the store is, or nowhere. -/
theorem importDocuments_holdsLines_twoDocuments :
    let docs : List IndexDocument :=
      [{ id := "a", content := "\"x\\\n", mtime := -1 },
        { id := "b", classNames := ["\x00", "𝄞\r\n", ""], priority := 3 }]
    (∃ request, HoldsLines request.body docs ∧
      (onThisMachine.importDocuments docs { listening := some 8108 }).value.2.requests =
        [request]) ∧
    (onThisMachine.importDocuments docs {}).value.2.requests = [] := by
  intro docs
  have hwords : ∀ d ∈ docs, d.FitsWords := by
    intro d hd
    simp only [docs, List.mem_cons, List.not_mem_nil, or_false] at hd
    rcases hd with rfl | rfl <;> exact ⟨by decide, by decide⟩
  have hdocs : docs ≠ [] := List.cons_ne_nil _ _
  constructor
  · obtain ⟨harrived, -⟩ :=
      onThisMachine.importDocuments_holdsLines hdocs hwords { listening := some 8108 }
    obtain ⟨request, -, -, hbody, hrequests⟩ := harrived (arrives_onThisMachine docs rfl)
    exact ⟨request, hbody, hrequests⟩
  · obtain ⟨-, hlost⟩ := onThisMachine.importDocuments_holdsLines hdocs hwords {}
    refine hlost ?_
    rintro ⟨url, -, -, -, -, hreaches⟩
    simp [Exchange.reaches] at hreaches

end RemoteStore

end SymbolIndex
