import TemplateServer.Proofs.Text.Position
import TemplateServer.Server.Basic

/-!
A client and the server keep the same documents. The client has texts of its own
and edits them; it tells the server of every document that it opens or closes
and sends each edit in the coordinates of the text that it had at that moment.
The server only hears the messages. After every one of them its store holds the
open documents of the client, each with the client's text, and nothing else.
-/

namespace TemplateServer.Client

/-- The documents of a client. Each has an address that can be read, and no two
are at the same address. -/
structure Workspace (Doc : Type) where
  uri : Doc → String
  url : Doc → Url
  parsed : ∀ document, Url.parse? (uri document) = some (url document)
  distinct : ∀ first second, (url first).text = (url second).text → first = second

inductive Message (Doc : Type) where
  | opened (document : Doc) (text : String) (version : Int) (languageId : String)
  | changed (document : Doc) (version : Int) (changes : List Text.Change)
  | closed (document : Doc)

namespace Message

variable {Doc : Type}

def subject : Message Doc → Doc
  | .opened document _ _ _ => document
  | .changed document _ _ => document
  | .closed document => document

def version : Message Doc → Option Int
  | .opened _ _ version _ => some version
  | .changed _ version _ => some version
  | .closed _ => none

def languageId : Message Doc → Option String
  | .opened _ _ _ languageId => some languageId
  | _ => none

end Message

variable {Doc : Type}

def Workspace.deliver (workspace : Workspace Doc) (server : Server) : Message Doc → Server
  | .opened document text version languageId =>
      server.didOpen (workspace.uri document) text version languageId
  | .changed document version changes =>
      (server.didChange (workspace.uri document) version changes).1
  | .closed document => server.didClose (workspace.uri document)

def Workspace.serve (workspace : Workspace Doc) (server : Server) (messages : List (Message Doc)) :
    Server :=
  messages.foldl workspace.deliver server

theorem different_address (workspace : Workspace Doc) {document other : Doc}
    (different : other ≠ document) : (workspace.url other).text ≠ (workspace.url document).text :=
  fun same => different (workspace.distinct other document same)

/-- A change of a document that is not open does nothing at all. -/
theorem deliver_unopened {workspace : Workspace Doc} {server : Server} {document : Doc}
    (absent : server.documents.get? (workspace.url document) = none) (version : Int)
    (changes : List Text.Change) :
    workspace.deliver server (.changed document version changes) = server := by
  rw [Workspace.deliver, Server.didChange, workspace.parsed]
  simp only [DocumentStore.change_of_absent absent]

abbrev Texts (Doc : Type) := Doc → Option String

variable [DecidableEq Doc]

def Texts.set (texts : Texts Doc) (document : Doc) (text : Option String) : Texts Doc :=
  fun other => if other = document then text else texts other

/-- What a client can send, and its texts before and after. Changes of an open
document are edits of its text; changes of any other document are arbitrary, and
the client itself has nothing to change. -/
inductive Sends : Texts Doc → Message Doc → Texts Doc → Prop
  | opened (texts : Texts Doc) (document : Doc) (text : String) (version : Int)
      (languageId : String) :
      Sends texts (.opened document text version languageId) (texts.set document (some text))
  | changed (texts : Texts Doc) (document : Doc) (version : Int) (changes : List Text.Change)
      {old new : String} : texts document = some old → Text.Edited old changes new →
      Sends texts (.changed document version changes) (texts.set document (some new))
  | stray (texts : Texts Doc) (document : Doc) (version : Int) (changes : List Text.Change) :
      texts document = none → Sends texts (.changed document version changes) texts
  | closed (texts : Texts Doc) (document : Doc) :
      Sends texts (.closed document) (texts.set document none)

/-- The messages that a client has sent since it had nothing open, in order, and
its texts after the last of them. -/
inductive Run : List (Message Doc) → Texts Doc → Prop
  | start : Run [] fun _ => none
  | next {messages : List (Message Doc)} {texts later : Texts Doc} {message : Message Doc} :
      Run messages texts → Sends texts message later → Run (messages ++ [message]) later

/-- What the last message about a document that gives a field says in it. -/
def lastSent {Field : Type} (field : Message Doc → Option Field) (messages : List (Message Doc))
    (document : Doc) : Option Field :=
  messages.reverse.findSome? fun message =>
    if message.subject = document then field message else none

/-- A store that holds the client's open documents, and nothing else. -/
structure Synchronised (workspace : Workspace Doc) (messages : List (Message Doc))
    (texts : Texts Doc) (store : DocumentStore) : Prop where
  stored : ∀ document, store.get? (workspace.url document) =
    (texts document).map fun text =>
      ⟨text, lastSent Message.version messages document,
        lastSent Message.languageId messages document⟩
  absent : ∀ url : Url, (∀ document, texts document ≠ none →
    (workspace.url document).text ≠ url.text) → store.get? url = none

theorem texts_set_self (texts : Texts Doc) (document : Doc) (text : Option String) :
    texts.set document text document = text := by
  rw [Texts.set, if_pos rfl]

theorem texts_set_other (texts : Texts Doc) {document other : Doc} (text : Option String)
    (different : other ≠ document) : texts.set document text other = texts other := by
  rw [Texts.set, if_neg different]

section History

variable {Field : Type} (field : Message Doc → Option Field) (messages : List (Message Doc))

theorem last_sent_given {message : Message Doc} {value : Field}
    (given : field message = some value) :
    lastSent field (messages ++ [message]) message.subject = some value := by
  rw [lastSent, List.reverse_concat, List.findSome?_cons, if_pos rfl, given]

theorem last_sent_not_given {message : Message Doc} (document : Doc)
    (silent : field message = none) :
    lastSent field (messages ++ [message]) document = lastSent field messages document := by
  rw [lastSent, List.reverse_concat, List.findSome?_cons, silent, ite_self]
  rfl

theorem last_sent_other {message : Message Doc} {document : Doc}
    (different : document ≠ message.subject) :
    lastSent field (messages ++ [message]) document = lastSent field messages document := by
  rw [lastSent, List.reverse_concat, List.findSome?_cons, if_neg (Ne.symm different)]
  rfl

end History

section Store

variable {workspace : Workspace Doc} {messages : List (Message Doc)} {texts : Texts Doc}
variable {store : DocumentStore}

/-- Storing what a message says about its document. -/
theorem synchronised_insert (agreed : Synchronised workspace messages texts store)
    (message : Message Doc) (entry : Document)
    (version : lastSent Message.version (messages ++ [message]) message.subject = entry.version)
    (languageId :
      lastSent Message.languageId (messages ++ [message]) message.subject = entry.languageId) :
    Synchronised workspace (messages ++ [message]) (texts.set message.subject (some entry.text))
      (store.insert (workspace.url message.subject) entry) := by
  constructor
  · intro document
    by_cases same : document = message.subject
    · subst same
      rw [texts_set_self, Option.map_some, version, languageId]
      exact Dictionary.get_insert_self store _ entry
    · rw [texts_set_other texts _ same, last_sent_other _ _ same, last_sent_other _ _ same,
        ← agreed.stored document]
      exact Dictionary.get_insert_of_ne store _ _ entry (different_address workspace same)
  · intro url outside
    have apart := outside message.subject (by rw [texts_set_self]; simp)
    have before : store.get? url = none := by
      apply agreed.absent url
      intro document present
      apply outside document
      by_cases same : document = message.subject
      · rw [same, texts_set_self]
        simp
      · rwa [texts_set_other texts _ same]
    rw [← before]
    exact Dictionary.get_insert_of_ne store _ _ entry (Ne.symm apart)

theorem synchronised_erase (agreed : Synchronised workspace messages texts store)
    (document : Doc) :
    Synchronised workspace (messages ++ [.closed document]) (texts.set document none)
      (store.erase (workspace.url document)) := by
  constructor
  · intro other
    by_cases same : other = document
    · subst same
      rw [texts_set_self, Option.map_none]
      exact Dictionary.get_erase_self store _
    · rw [texts_set_other texts _ same, last_sent_not_given _ _ _ rfl,
        last_sent_not_given _ _ _ rfl, ← agreed.stored other]
      exact Dictionary.get_erase_of_ne store _ _ (different_address workspace same)
  · intro url outside
    by_cases same : url.text = (workspace.url document).text
    · rw [DocumentStore.get?, same]
      exact Dictionary.get_erase_self store _
    · have before : store.get? url = none := by
        apply agreed.absent url
        intro other present
        by_cases closed : other = document
        · rw [closed]
          exact Ne.symm same
        · apply outside other
          rwa [texts_set_other texts _ closed]
      rw [← before]
      exact Dictionary.get_erase_of_ne store _ _ same

end Store

theorem deliver_synchronised {workspace : Workspace Doc} {messages : List (Message Doc)}
    {texts later : Texts Doc} {server : Server} {message : Message Doc}
    (agreed : Synchronised workspace messages texts server.documents)
    (sent : Sends texts message later) :
    Synchronised workspace (messages ++ [message]) later
      (workspace.deliver server message).documents := by
  cases sent with
  | opened document text version languageId =>
      rw [Workspace.deliver, Server.didOpen, workspace.parsed]
      exact synchronised_insert agreed (.opened document text version languageId)
        ⟨text, some version, some languageId⟩ (last_sent_given _ _ rfl) (last_sent_given _ _ rfl)
  | @changed document version changes old new current edited =>
      -- the server applies the changes to the very text that the client made its edits on
      have found := agreed.stored document
      rw [current, Option.map_some] at found
      have stored := DocumentStore.change_of_open found changes (some version)
      rw [Text.apply_changes_of_edited edited] at stored
      rw [Workspace.deliver, Server.didChange, workspace.parsed]
      simp only [stored]
      exact synchronised_insert agreed (.changed document version changes)
        ⟨new, some version, _⟩ (last_sent_given _ _ rfl) (last_sent_not_given _ _ _ rfl)
  | stray document version changes closed =>
      -- the history grows by a version, but only of a document that the store does not hold
      have missing := agreed.stored document
      rw [closed, Option.map_none] at missing
      rw [deliver_unopened missing]
      constructor
      · intro other
        by_cases same : other = document
        · rw [same, closed, Option.map_none]
          exact missing
        · rw [last_sent_other _ _ same, last_sent_other _ _ same]
          exact agreed.stored other
      · exact agreed.absent
  | closed document =>
      rw [Workspace.deliver, Server.didClose, workspace.parsed]
      exact synchronised_erase agreed document

theorem run_synchronised (workspace : Workspace Doc) {server : Server}
    (empty : server.documents = []) {messages : List (Message Doc)} {texts : Texts Doc}
    (run : Run messages texts) :
    Synchronised workspace messages texts (workspace.serve server messages).documents := by
  induction run with
  | start =>
      rw [Workspace.serve, List.foldl_nil, empty]
      exact ⟨fun _ => rfl, fun _ _ => rfl⟩
  | next _ sent induction =>
      rw [Workspace.serve, List.foldl_append, List.foldl_cons, List.foldl_nil]
      exact deliver_synchronised induction sent

/-- After every message that a client can send, the server's store agrees with
the client's texts. A change of a document that is not open changes nothing. -/
theorem documents_converge (workspace : Workspace Doc) (server : Server)
    (empty : server.documents = []) (messages : List (Message Doc)) (texts : Texts Doc)
    (run : Run messages texts) :
    Synchronised workspace messages texts (workspace.serve server messages).documents ∧
      ∀ document version changes, texts document = none →
        workspace.serve server (messages ++ [.changed document version changes]) =
          workspace.serve server messages := by
  have agreed := run_synchronised workspace empty run
  refine ⟨agreed, ?_⟩
  intro document version changes closed
  have missing := agreed.stored document
  rw [closed, Option.map_none] at missing
  rw [Workspace.serve, List.foldl_append, List.foldl_cons, List.foldl_nil]
  exact deliver_unopened missing version changes

def sampleWorkspace : Workspace Bool where
  uri draft := if draft then "untitled:draft" else "file:///page.marko"
  url draft :=
    if draft then ⟨"untitled", none, .plain "draft", none, none⟩
    else ⟨"file", some "", .segments ["page.marko"], none, none⟩
  parsed := by decide +kernel
  distinct := by decide +kernel

/-- The second change starts behind a character of two code units and is in the
coordinates that the first one leaves. -/
def sampleMessages : List (Message Bool) :=
  [.opened false "x\n😀y" 1 "marko", .opened true "" 1 "marko",
    .changed false 2 [⟨some ⟨⟨1, 2⟩, ⟨1, 3⟩⟩, "é\nz"⟩, ⟨some ⟨⟨1, 3⟩, ⟨2, 1⟩⟩, "w"⟩],
    .closed true]

theorem sample_edited :
    Text.Edited "x\n😀y" [⟨some ⟨⟨1, 2⟩, ⟨1, 3⟩⟩, "é\nz"⟩, ⟨some ⟨⟨1, 3⟩, ⟨2, 1⟩⟩, "w"⟩]
      "x\n😀éw" := by
  have first : (Text.Edit.replace 6 7 "é\nz").Fits "x\n😀y" :=
    ⟨by decide, ⟨"x\n😀", "y", by decide, by decide⟩, ⟨"x\n😀y", "", by decide, by decide⟩⟩
  have second : (Text.Edit.replace 8 10 "w").Fits "x\n😀é\nz" :=
    ⟨by decide, ⟨"x\n😀é", "\nz", by decide, by decide⟩,
      ⟨"x\n😀é\nz", "", by decide, by decide⟩⟩
  exact .next (.replace 6 7 "é\nz") first (.next (.replace 8 10 "w") second (.unchanged _))

theorem documents_converge_sample :
    ∃ texts, Run sampleMessages texts ∧
      (sampleWorkspace.serve Server.initial sampleMessages).documents.get?
          (sampleWorkspace.url false) = some ⟨"x\n😀éw", some 2, some "marko"⟩ ∧
      (sampleWorkspace.serve Server.initial sampleMessages).documents.get?
          (sampleWorkspace.url true) = none := by
  have run : Run sampleMessages _ :=
    .next (.next (.next (.next .start (.opened _ false _ 1 "marko")) (.opened _ true _ 1 "marko"))
      (.changed _ false 2 _ rfl sample_edited)) (.closed _ true)
  have agreed := (documents_converge sampleWorkspace Server.initial rfl sampleMessages _ run).1
  exact ⟨_, run, agreed.stored false, agreed.stored true⟩

end TemplateServer.Client
