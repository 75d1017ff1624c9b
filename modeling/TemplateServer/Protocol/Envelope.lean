import TemplateServer.Json.Printer
import TemplateServer.Protocol.Reply

/-!
Messages on the wire: the envelope around requests, notifications and
responses, and the header that tells the length of each.
-/

namespace TemplateServer.Protocol

inductive Incoming where
  | request (id : Json) (method : String) (params : Option Json)
  | notification (method : String) (params : Option Json)

/-- A message of the client; none for one that needs no answer from the server,
such as the response to one of its own requests. -/
def Incoming.ofJson? (json : Json) : Option Incoming :=
  (json.member? "method").bind Json.text? |>.map fun method =>
    match json.member? "id" with
    | some id => .request id method (json.member? "params")
    | none => .notification method (json.member? "params")

def envelope (members : List (String × Json)) : Json :=
  .object (Dictionary.ofList (("jsonrpc", .string "2.0") :: members))

def responseJson (id : Json) (reply : Except ReplyError Reply) : Json :=
  match reply with
  | .ok reply => envelope [("id", id), ("result", replyJson reply)]
  | .error error =>
      let cause : Json :=
        .object
          [("code", .number (.integer error.code)), ("message", .string error.message)]
      envelope [("id", id), ("error", cause)]

/-- A message that the server sends on its own account. The one that asks for
something carries a number. -/
def outgoingJson (message : ClientMessage) : Json :=
  let (method, params) := messageJson message
  let number :=
    match message with
    | .watchFiles _ => [("id", Json.natural 0)]
    | .log _ _ => []
  envelope (number ++ [("method", .string method), ("params", params)])

def framed (json : Json) : String :=
  let body := json.compact
  "Content-Length: " ++ toString body.utf8ByteSize ++ "\r\n\r\n" ++ body

def contentLength? (line : String) : Option Nat :=
  let name := "content-length:"
  let chars := line.toList
  if String.ofList ((chars.take name.length).map Char.toLower) = name then
    let digits := (chars.drop name.length).filter Char.isDigit
    some (digits.foldl (fun sum digit => sum * 10 + Json.digitValue digit) 0)
  else none

def directories (session : Session) (message : Json) : List Path :=
  let named := [["params", "textDocument", "uri"], ["params", "rootUri"]].filterMap fun keys =>
    (textAt? message keys).bind Server.pathOfUri?
  let folders := (listAt message ["params", "workspaceFolders"]).filterMap fun folder =>
    (textAt? folder ["uri"]).bind Server.pathOfUri?
  session.server.root.toList ++ folders ++ named ++ named.filterMap Path.parent?

def handle (session : Session) (files : FileSystem) (message : Json) : Session × List Json :=
  match Incoming.ofJson? message with
  | none => (session, [])
  | some (.request id method params) =>
      let answer := session.request files method params
      let response := answer.reply.toList.map (responseJson id)
      (answer.session, answer.messages.map outgoingJson ++ response)
  | some (.notification method params) =>
      let (next, messages) := session.notify files method params
      (next, messages.map outgoingJson)

end TemplateServer.Protocol
