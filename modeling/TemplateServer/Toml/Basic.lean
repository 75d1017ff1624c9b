import TemplateServer.Dictionary

/-!
TOML documents and the rules on how their tables may be built up. A table is
defined once: by a header, by dotted keys, or in one line. Headers may still
open tables that other headers only lead through.
-/

namespace TemplateServer

namespace Toml

inductive Origin where
  | header
  | implied
  | dotted
  | inline
  deriving DecidableEq

end Toml

inductive Toml where
  | text (content : String)
  | boolean (value : Bool)
  /-- A number or a date, as it is written. -/
  | scalar (source : String)
  | array (items : List Toml)
  | table (origin : Toml.Origin) (entries : List (String × Toml))
  /-- Tables under one repeated header, the last one first. -/
  | tables (latest : List (String × Toml)) (earlier : List (List (String × Toml)))

namespace Toml

abbrev Entries := List (String × Toml)

/-- Defines a value under a dotted key. The tables that the key leads through
have no header of their own, and the one that gets the value is dotted. -/
def define? (entries : Entries) (value : Toml) : List String → Option Entries
  | [] => none
  | [key] =>
      match Dictionary.get? entries key with
      | some _ => none
      | none => some (Dictionary.insert entries key value)
  | key :: next :: rest =>
      match Dictionary.get? entries key with
      | none => do
          let inner ← define? [] value (next :: rest)
          some (Dictionary.insert entries key (.table .dotted inner))
      | some (.table origin inner) =>
          if origin = .dotted || (origin = .implied && !rest.isEmpty) then do
            let changed ← define? inner value (next :: rest)
            some (Dictionary.insert entries key (.table origin changed))
          else none
      | some _ => none

/-- Changes the entries of the table that a header leads to, where repeated
headers mean their latest table. -/
def changeAt? (change : Entries → Option Entries) (entries : Entries) :
    List String → Option Entries
  | [] => change entries
  | key :: rest =>
      match Dictionary.get? entries key with
      | none => do
          let inner ← changeAt? change [] rest
          some (Dictionary.insert entries key (.table .implied inner))
      | some (.table origin inner) =>
          if origin = .inline then none
          else do
            let changed ← changeAt? change inner rest
            some (Dictionary.insert entries key (.table origin changed))
      | some (.tables latest earlier) => do
          let changed ← changeAt? change latest rest
          some (Dictionary.insert entries key (.tables changed earlier))
      | some _ => none

def openTable? (key : String) (entries : Entries) : Option Entries :=
  match Dictionary.get? entries key with
  | none => some (Dictionary.insert entries key (.table .header []))
  | some (.table .implied inner) => some (Dictionary.insert entries key (.table .header inner))
  | some _ => none

def openNext? (key : String) (entries : Entries) : Option Entries :=
  match Dictionary.get? entries key with
  | none => some (Dictionary.insert entries key (.tables [] []))
  | some (.tables latest earlier) =>
      some (Dictionary.insert entries key (.tables [] (latest :: earlier)))
  | some _ => none

end Toml

end TemplateServer
