import TemplateServer.Dictionary
import TemplateServer.Text.Edit
import TemplateServer.Url.Basic

/-!
The documents that a client has open, by address.
-/

namespace TemplateServer

structure Document where
  text : String
  version : Option Int
  languageId : Option String
  deriving DecidableEq

abbrev DocumentStore := Dictionary Document

namespace DocumentStore

def get? (store : DocumentStore) (url : Url) : Option Document := Dictionary.get? store url.text

def insert (store : DocumentStore) (url : Url) (document : Document) : DocumentStore :=
  Dictionary.insert store url.text document

def erase (store : DocumentStore) (url : Url) : DocumentStore := Dictionary.erase store url.text

/-- Replaces text and version of an open document; the language stays. -/
def update? (store : DocumentStore) (url : Url) (text : String) (version : Option Int) :
    Option DocumentStore :=
  (get? store url).map fun document =>
    insert store url { document with text := text, version := version }

def change? (store : DocumentStore) (url : Url) (changes : List Text.Change)
    (version : Option Int) : Option DocumentStore :=
  (get? store url).bind fun document =>
    update? store url (Text.applyChanges document.text changes) version

theorem change_of_open {store : DocumentStore} {url : Url} {document : Document}
    (found : get? store url = some document) (changes : List Text.Change)
    (version : Option Int) :
    change? store url changes version =
      some (insert store url
        { document with text := Text.applyChanges document.text changes, version := version }) := by
  rw [change?, found, Option.bind_some, update?, found, Option.map_some]

theorem change_of_absent {store : DocumentStore} {url : Url} (absent : get? store url = none)
    (changes : List Text.Change) (version : Option Int) :
    change? store url changes version = none := by
  rw [change?, absent, Option.bind_none]

end DocumentStore

end TemplateServer
