-- SUMMARY: Requests to a server and its replies, as a transcript.
import SymbolIndex.Web.Url

/-! # Exchanges

A server on this machine gives its replies in order, and the requests that it
gets are recorded. -/

namespace SymbolIndex

inductive Method where
  | get
  | post
  | delete
  deriving DecidableEq, Repr

def Method.name : Method → String
  | get => "GET"
  | post => "POST"
  | delete => "DELETE"

structure Request where
  method : Method
  url : Url
  apiKey : String
  contentType : Option String := none
  body : String := ""
  deriving DecidableEq, Repr

structure Reply where
  status : Nat
  body : Bytes
  /-- The connection ends before the body does. -/
  isCut : Bool := false
  deriving DecidableEq, Repr

namespace Reply

def isSuccess (r : Reply) : Bool := 200 ≤ r.status && r.status < 300

/-- The reply answers its request. A status has three digits, and one that
starts with 1 only announces the reply, except when it switches protocols. -/
def isFinal (r : Reply) : Bool := r.status = 101 || (200 ≤ r.status && r.status ≤ 999)

/-- The body as text, unless it is cut. Some replies have no body, whatever
they announce. -/
def text? (r : Reply) : Option String :=
  if r.status = 101 ∨ r.status = 204 ∨ r.status = 304 then some ""
  else if r.isCut then none
  else some (Utf8.decode r.body)

/-- The body as text, empty if it is cut. -/
def text (r : Reply) : String := r.text?.getD ""

end Reply

structure Exchange where
  /-- The port that the server listens on, if there is one. -/
  listening : Option Nat := none
  /-- Replies still to be given. -/
  replies : List Reply := []
  /-- In the order of their arrival. -/
  requests : List Request := []
  deriving DecidableEq, Repr

namespace Exchange

/-- The reply of a server that has none left. -/
def lastReply : Reply := { status := 500, body := Utf8.encode "no response left" }

def isLocal (host : String) : Bool := ["127.0.0.1", "localhost"].contains host

/-- The address is the server's, which does not encrypt. -/
def reaches (x : Exchange) (url : Url) : Bool :=
  url.scheme = "http" && isLocal url.host && x.listening.any fun port => url.port? = some port

/-- Sends a request; without a server there is no reply, and one that answers
nothing is lost. -/
def send (request : Request) (x : Exchange) : Option Reply × Exchange :=
  if x.reaches request.url then
    ((some (x.replies.head?.getD lastReply)).filter Reply.isFinal,
      { x with replies := x.replies.drop 1, requests := x.requests ++ [request] })
  else (none, x)

end Exchange

end SymbolIndex
