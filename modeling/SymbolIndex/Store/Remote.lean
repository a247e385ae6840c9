-- SUMMARY: The document store behind a web address.
import SymbolIndex.Store.Basic
import SymbolIndex.Store.Schema
import SymbolIndex.Text.Space
import SymbolIndex.Web.Exchange

/-! # Remote store

The store answers requests under its base address. A missing collection or
document is an answer; any other refusal is an error with the status and the
body of the reply. -/

namespace SymbolIndex

/-- A collection on a server. -/
structure RemoteStore where
  /-- Without slashes at its end. -/
  baseUrl : String
  apiKey : String
  collection : String
  deriving DecidableEq, Repr

namespace RemoteStore

/-- The store at an address as written. -/
def ofUrl (baseUrl apiKey collection : String) : RemoteStore where
  baseUrl := .ofList (Text.dropTail (· = '/') baseUrl.toList)
  apiKey := apiKey
  collection := collection

def ofConfig (c : StoreConfig) : RemoteStore := ofUrl c.baseUrl c.apiKey c.collection

variable (s : RemoteStore)

def collectionPath : String := "/collections/" ++ s.collection

/-! ## Sending -/

/-- A request, before its address is read. -/
structure Call where
  method : Method
  /-- Behind the base address. -/
  path : String
  fields : List (String × String) := []
  contentType : Option String := none
  body : String := ""
  deriving DecidableEq, Repr

/-- A key that a header can hold. -/
def isHeaderText (key : String) : Bool :=
  key.toList.all fun c => c = '\t' || (32 ≤ c.toNat && c.toNat ≠ 127)

/-- The key as it arrives in a header: white space at its end does not count. -/
def headerText (key : String) : String := Text.trimEnd key

def unavailable (message : String) : Error := .remoteUnavailable s.baseUrl message

/-- The request that a call makes. Its address has to name a host before the key
counts, and to be of the web behind that. -/
def request (call : Call) : Result Request :=
  let refused (url : Url) : Error := s.unavailable ("builder error for url (" ++ url.render ++ ")")
  match Url.parse? (s.baseUrl ++ call.path) with
  | none => .error (s.unavailable "builder error")
  | some url =>
      let target := url.withoutUser.addFields call.fields
      if url.host = "" then .error (refused url)
      else if !isHeaderText s.apiKey then .error (s.unavailable "builder error")
      else if !target.isRequestable then .error (refused target)
      else
        .ok {
          method := call.method
          url := target
          apiKey := headerText s.apiKey
          contentType := call.contentType
          body := call.body }

/-- Sends a call. It fails only if no reply comes. -/
def send (call : Call) (x : Exchange) : Result Reply × Exchange :=
  match s.request call with
  | .error e => (.error e, x)
  | .ok request =>
      match x.send request with
      | (some reply, x) => (.ok reply, x)
      | (none, x) =>
          (.error (s.unavailable
            ("error sending request for url (" ++ request.url.render ++ ")")), x)

/-- Lets only successes through. -/
def check (operation : String) (reply : Reply) : Result Reply :=
  if reply.isSuccess then .ok reply
  else .error (.remoteStatus operation reply.status reply.text)

/-- Reads the body of a reply. -/
def readBody (read : Bytes → Except Json.Failure α) (reply : Reply) : Result α :=
  match reply.text? with
  | none =>
      .error (.remoteUnavailable ""
        "failed to read response body: error decoding response body")
  | some text => (read (Utf8.encode text)).mapError .json

/-! ## Health and statistics -/

def readHealth (reply : Reply) : Result Bool :=
  if reply.isSuccess then do
    let body ← readBody Json.parse reply
    .ok (((body.field? "ok").bind Json.boolean?).getD false)
  else .ok false

def health (x : Exchange) : StoreStep Exchange Bool :=
  let (sent, x) := s.send ⟨.get, "/health", [], none, ""⟩ x
  Logged.quiet (sent >>= readHealth, x)

/-- A reply about the collection; a missing one has no statistics. -/
def readStats (reply : Reply) : Result (Option CollectionStats) :=
  if reply.status = 404 then .ok none
  else do
    let reply ← check "get collection" reply
    let body ← readBody Json.parse reply
    .ok (some {
      name := ((body.field? "name").bind Json.text?).getD s.collection
      numDocuments := ((body.field? "num_documents").bind Json.nat?).getD 0 })

def statsStep (x : Exchange) : Result (Option CollectionStats) × Exchange :=
  let (sent, x) := s.send ⟨.get, s.collectionPath, [], none, ""⟩ x
  (sent >>= s.readStats, x)

/-! ## Collection -/

/-- Drops the collection; a missing one is dropped already. -/
def dropCollection (x : Exchange) : Logged (Result Unit × Exchange) :=
  match s.send ⟨.delete, s.collectionPath, [], none, ""⟩ x with
  | (.error e, x) => Logged.quiet (.error e, x)
  | (.ok reply, x) =>
      if reply.status = 404 then Logged.quiet (.ok (), x)
      else
        match check "drop collection" reply with
        | .error e => Logged.quiet (.error e, x)
        | .ok _ => do
            LogLevel.info.write ("Dropped collection " ++ s.collection)
            Logged.quiet (.ok (), x)

def createCollection (x : Exchange) : Logged (Result Unit × Exchange) :=
  let schema := (collectionSchema s.collection).render
  let (sent, x) := s.send ⟨.post, "/collections", [], some "application/json", schema⟩ x
  match sent >>= check "create collection" with
  | .error e => Logged.quiet (.error e, x)
  | .ok _ => do
      LogLevel.info.write ("Created collection " ++ s.collection)
      Logged.quiet (.ok (), x)

def ensureCollection (reset : Bool) (x : Exchange) : Logged (Result Unit × Exchange) := do
  if reset then
    let (dropped, x) ← s.dropCollection x
    match dropped with
    | .error e => return (.error e, x)
    | .ok () => s.createCollection x
  else
    match s.statsStep x with
    | (.error e, x) => return (.error e, x)
    | (.ok none, x) => s.createCollection x
    | (.ok (some _), x) =>
        LogLevel.debug.write ("Collection " ++ s.collection ++ " already exists")
        return (.ok (), x)

/-! ## Import -/

/-- The documents, one on each line. -/
def importBody (docs : List IndexDocument) : String :=
  String.join (docs.map fun doc => doc.toJson.render ++ "\n")

/-- Counts one line of an import reply. -/
def countLine (summary : ImportSummary) (line : String) : ImportSummary :=
  match Json.parse (Utf8.encode line) with
  | .ok value =>
      if (value.field? "success").bind Json.boolean? = some true then
        { summary with imported := summary.imported + 1 }
      else
        let message := ((value.field? "error").bind Json.text?).getD "unknown error"
        { summary with failed := summary.failed + 1, errors := summary.errors ++ [message] }
  | .error failure =>
      { summary with
        failed := summary.failed + 1
        errors := summary.errors ++ ["unparseable import result: " ++ failure.message] }

/-- The outcome that the body of an import reply reports, one line per
document. -/
def importSummary (body : String) : ImportSummary :=
  (((Text.lines body).map Text.trim).filter (· ≠ "")).foldl countLine {}

def readImport (reply : Reply) : Result ImportSummary := do
  let reply ← check "import" reply
  match reply.text? with
  | none => .error (s.unavailable "failed to read import result: error decoding response body")
  | some text => .ok (importSummary text)

/-- Imports documents in one request; no request is made for none. -/
def importDocuments (docs : List IndexDocument) (x : Exchange) :
    Logged (Result ImportSummary × Exchange) := do
  if docs.isEmpty then return (.ok {}, x)
  let call : Call :=
    ⟨.post, s.collectionPath ++ "/documents/import", [("action", "upsert")], some "text/plain",
      importBody docs⟩
  let (sent, x) := s.send call x
  let outcome := sent >>= s.readImport
  if let .ok summary := outcome then
    if 0 < summary.failed then
      LogLevel.warn.write ("Import: " ++ toString summary.failed ++ " of " ++
        toString docs.length ++ " documents failed (first: " ++ summary.errors.head?.getD "" ++
        ")")
  return (outcome, x)

/-! ## Deleting and searching -/

def readDelete (reply : Reply) : Result Bool :=
  if reply.status = 404 then .ok false else (check "delete" reply).map fun _ => true

def deleteDocument (id : String) (x : Exchange) : StoreStep Exchange Bool :=
  let (sent, x) := s.send ⟨.delete, s.collectionPath ++ "/documents/" ++ id, [], none, ""⟩ x
  Logged.quiet (sent >>= readDelete, x)

/-- The text occurs in another one. -/
def occursIn (part : List Char) : List Char → Bool
  | [] => part.isEmpty
  | c :: cs => part.isPrefixOf (c :: cs) || occursIn part cs

/-- The refusal of a search tells of a field or an index, in any ASCII case. -/
def tellsOfSchema (body : String) : Bool :=
  let lower := (Text.lowerAscii body).toList
  occursIn "field".toList lower || occursIn "index".toList lower

def readSearch (reply : Reply) : Result SearchResponse :=
  if reply.status = 400 then
    if tellsOfSchema reply.text then .error (.schemaMismatch reply.text)
    else .error (.remoteStatus "search" 400 reply.text)
  else do
    let reply ← check "search" reply
    readBody SearchResponse.parse reply

def search (params : List (String × String)) (x : Exchange) : StoreStep Exchange SearchResponse :=
  let (sent, x) := s.send ⟨.get, s.collectionPath ++ "/documents/search", params, none, ""⟩ x
  Logged.quiet (sent >>= readSearch, x)

/-! ## Operations -/

def operations : DocumentStore Exchange where
  health := s.health
  stats x := Logged.quiet (s.statsStep x)
  ensureCollection := s.ensureCollection
  importDocuments := s.importDocuments
  deleteDocument := s.deleteDocument
  search := s.search

end RemoteStore

end SymbolIndex
