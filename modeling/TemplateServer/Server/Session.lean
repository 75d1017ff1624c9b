import TemplateServer.Protocol.Unanswered

/-!
A session with a client. A session starts with one successful initialization
and ends with a shutdown; in between requests are answered and notifications
are taken in. Outside of that notifications are ignored. A request that any
server may pass over gets no reply.
-/

namespace TemplateServer

inductive Phase where
  | waiting
  | running
  | stopped
  deriving DecidableEq

structure Session where
  phase : Phase
  server : Server

inductive Reply where
  | nothing
  | capabilities
  | locations (targets : List Target)
  | completions (items : List CompletionItem)
  | item (item : CompletionItem)

inductive ReplyError where
  | notInitialized
  | invalidRequest
  | methodNotFound
  | invalidParams
  | failed (error : ServerError)

namespace ReplyError

def code : ReplyError → Int
  | .notInitialized => -32002
  | .invalidRequest => -32600
  | .methodNotFound => -32601
  | .invalidParams => -32602
  | .failed _ => -32603

def message : ReplyError → String
  | .notInitialized => "Server not initialized"
  | .invalidRequest => "Invalid request"
  | .methodNotFound => "Method not found"
  | .invalidParams => "<invalid params>"
  | .failed error => error.message

end ReplyError

structure Answer where
  session : Session
  messages : List ClientMessage
  /-- The reply, if there is one. -/
  reply : Option (Except ReplyError Reply)

namespace Session

def initial : Session := ⟨.waiting, Server.initial⟩

def withServer (session : Session) (server : Server) : Session := { session with server := server }

def answer (session : Session) (files : FileSystem) : Protocol.Request → Answer
  | .start hints options =>
      let (server, messages) := session.server.start files hints options
      ⟨⟨.running, server⟩, messages, some (.ok .capabilities)⟩
  | .shutdown => ⟨⟨.stopped, session.server.shutdown⟩, [], some (.ok .nothing)⟩
  | .definition uri position =>
      let (server, messages, result) := session.server.gotoDefinition files uri position
      let reply :=
        match result with
        | .error error => .error (.failed error)
        | .ok none => .ok .nothing
        | .ok (some targets) => .ok (.locations targets)
      ⟨session.withServer server, messages, some reply⟩
  | .completion uri =>
      let (server, items) := session.server.completion files uri
      let reply :=
        match items with
        | none => .nothing
        | some items => .completions items
      ⟨session.withServer server, [], some (.ok reply)⟩
  | .resolve item => ⟨session, [], some (.ok (.item item.resolve))⟩

def accept (session : Session) (files : FileSystem) :
    Protocol.Notification → Session × List ClientMessage
  | .initialized => (session, Server.initialized)
  | .didOpen uri text version languageId =>
      (session.withServer (session.server.didOpen uri text version languageId), [])
  | .didChange uri version changes =>
      let (server, messages) := session.server.didChange uri version changes
      (session.withServer server, messages)
  | .didClose uri => (session.withServer (session.server.didClose uri), [])
  | .didChangeConfiguration configuration =>
      let (server, messages) := session.server.didChangeConfiguration files configuration
      (session.withServer server, messages)
  | .didChangeWatchedFiles uris =>
      let (server, messages) := session.server.didChangeWatchedFiles files uris
      (session.withServer server, messages)

/-- Why a method is refused in the present phase, if it is. Only a session that
waits may be initialized, and only one that runs takes other requests. -/
def refusal? (session : Session) (method : String) : Option ReplyError :=
  match session.phase, method == "initialize" with
  | .waiting, true => none
  | .running, false => none
  | .waiting, false => some .notInitialized
  | _, _ => some .invalidRequest

/-- The session after a request that could not be read. A shutdown takes effect
all the same. -/
def afterUnread (session : Session) (method : String) : Session :=
  if method = "shutdown" then { session with phase := .stopped } else session

/-- Why a request that this server has no answer to is refused; none if it is
passed over. A method for notifications is no request. -/
def unansweredError? (session : Session) (method : String) (params : Option Json) :
    Option ReplyError :=
  if method = Protocol.cancelMethod then some .invalidRequest
  else if Protocol.notificationMethods.contains method then
    some ((session.refusal? method).getD .invalidRequest)
  else
    match Protocol.unansweredShape? method with
    | some shape =>
        let outcome : ReplyError :=
          if (params.bind shape.fit?).isSome then .methodNotFound else .invalidParams
        some ((session.refusal? method).getD outcome)
    | none => if Protocol.isIgnorable method then none else some .methodNotFound

def request (session : Session) (files : FileSystem) (method : String) (params : Option Json) :
    Answer :=
  match Protocol.requestReader? method with
  | some read? =>
      match session.refusal? method with
      | some error => ⟨session, [], some (.error error)⟩
      | none =>
          match read? params with
          | some request => session.answer files request
          | none => ⟨session.afterUnread method, [], some (.error .invalidParams)⟩
  | none => ⟨session, [], (session.unansweredError? method params).map .error⟩

/-- A notification by its method and parameters. What is not understood is
ignored, but a shutdown ends the session in this way too. -/
def notify (session : Session) (files : FileSystem) (method : String) (params : Option Json) :
    Session × List ClientMessage :=
  if session.phase = .running then
    if method = "shutdown" then ({ session with phase := .stopped }, [])
    else
      match Protocol.notification? method params with
      | some notification => session.accept files notification
      | none => (session, [])
  else (session, [])

end Session

end TemplateServer
