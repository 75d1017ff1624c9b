import TemplateServer.Markup.Scan
import TemplateServer.Proofs.Markup.Grammar

/-!
Documents as an author writes them: a list of pieces, each with what makes it
well formed, the text that the pieces give, and the open tags that a scan of
that text has to report.
-/

namespace TemplateServer.Markup

def Consists (member : UInt8 → Bool) (text : String) : Prop :=
  ∀ byte ∈ Text.bytes text, member byte = true

instance (member : UInt8 → Bool) (text : String) : Decidable (Consists member text) :=
  decidable_of_iff ((Text.bytes text).all member = true) List.all_eq_true

def Occurs (pattern text : String) : Prop := Text.bytes pattern <:+: Text.bytes text

/-- A text in which every bracket and every quote has its partner. -/
structure BalancedText where
  text : String
  balanced : GroupBody (Text.bytes text)

inductive QuoteMark where
  | double
  | single
  | backtick

namespace QuoteMark

def text : QuoteMark → String
  | .double => "\""
  | .single => "'"
  | .backtick => "`"

def byte : QuoteMark → UInt8
  | .double => 0x22
  | .single => 0x27
  | .backtick => 0x60

end QuoteMark

inductive WrittenValue where
  | quoted (mark : QuoteMark) (body : String) (closed : StringBody mark.byte (Text.bytes body))
  | unquoted (text : String)
      (starts : ∃ first rest, Text.bytes text = first :: rest ∧ isQuote first = false ∧
        isBlank first = false)
      (body : ExpressionBody (Text.bytes text))

def WrittenValue.render : WrittenValue → String
  | .quoted mark body _ => mark.text ++ body ++ mark.text
  | .unquoted text _ _ => text

structure WrittenAttribute where
  blanks : String
  name : String
  argument : Option BalancedText
  value : Option WrittenValue
  separated : blanks ≠ ""
  blank : Consists isBlank blanks
  named : name ≠ ""
  nameBytes : Consists isAttributeByte name

namespace WrittenAttribute

def argumentText (attr : WrittenAttribute) : String :=
  match attr.argument with
  | none => ""
  | some group => "(" ++ group.text ++ ")"

def valueText (attr : WrittenAttribute) : String :=
  match attr.value with
  | none => ""
  | some value => "=" ++ value.render

def render (attr : WrittenAttribute) : String :=
  attr.blanks ++ attr.name ++ attr.argumentText ++ attr.valueText

/-- What a scan has to report of an attribute whose blanks start at `position`. -/
def reported (attr : WrittenAttribute) (position : Nat) : Attribute :=
  let nameEnd := position + attr.blanks.utf8ByteSize + attr.name.utf8ByteSize
  let argumentEnd := nameEnd + attr.argumentText.utf8ByteSize
  { name := attr.name
    valueSpan := ⟨nameEnd, argumentEnd + attr.valueText.utf8ByteSize⟩
    argument := attr.argument.map fun group => ⟨⟨nameEnd, argumentEnd⟩, group.text⟩ }

end WrittenAttribute

def renderAttributes : List WrittenAttribute → String
  | [] => ""
  | attr :: rest => attr.render ++ renderAttributes rest

def reportedAttributes (position : Nat) : List WrittenAttribute → List Attribute
  | [] => []
  | attr :: rest =>
      attr.reported position :: reportedAttributes (position + attr.render.utf8ByteSize) rest

structure WrittenTag where
  name : String
  attributes : List WrittenAttribute
  /-- What stands in front of the closing mark. -/
  blanks : String
  nameBytes : ∃ first rest, Text.bytes name = first :: rest ∧ isTagStart first = true ∧
    ∀ byte ∈ rest, isTagByte byte = true
  blank : Consists isBlank blanks

namespace WrittenTag

def render (tag : WrittenTag) (close : String) : String :=
  "<" ++ tag.name ++ renderAttributes tag.attributes ++ tag.blanks ++ close

def reported (tag : WrittenTag) (close : String) (position : Nat) : Tag :=
  let nameEnd := position + 1 + tag.name.utf8ByteSize
  { name := tag.name
    span := ⟨position, position + (tag.render close).utf8ByteSize⟩
    nameEnd := nameEnd
    attributes := reportedAttributes nameEnd tag.attributes }

/-- Whether the body of the element is no markup. Letter case does not count. -/
def IsRaw (tag : WrittenTag) : Prop :=
  tag.name.toLower = "script" ∨ tag.name.toLower = "style"

instance (tag : WrittenTag) : Decidable tag.IsRaw :=
  inferInstanceAs (Decidable (tag.name.toLower = "script" ∨ tag.name.toLower = "style"))

end WrittenTag

inductive WrittenPiece where
  | text (content : String)
      (plain : Consists (fun byte => byte != Byte.less && byte != Byte.dollar) content)
  | comment (content : String) (unclosed : ¬ Occurs "-->" content)
  | closingTag (name : String)
      (inside : Consists (fun byte => byte != Byte.less && byte != Byte.greater) name)
  | placeholder (group : BalancedText)
  | openTag (tag : WrittenTag) (ordinary : ¬ tag.IsRaw)
  | selfClosedTag (tag : WrittenTag)
  | rawElement (tag : WrittenTag) (body closingName : String) (raw : tag.IsRaw)
      (unclosed : ¬ Occurs ("</" ++ tag.name.toLower) body.toLower)
      (sameName : closingName.toLower = tag.name.toLower)

namespace WrittenPiece

def render : WrittenPiece → String
  | .text content _ => content
  | .comment content _ => "<!--" ++ content ++ "-->"
  | .closingTag name _ => "</" ++ name ++ ">"
  | .placeholder group => "$\x7b" ++ group.text ++ "\x7d"
  | .openTag tag _ => tag.render ">"
  | .selfClosedTag tag => tag.render "/>"
  | .rawElement tag body closingName _ _ _ => tag.render ">" ++ body ++ ("</" ++ closingName ++ ">")

def reported (position : Nat) : WrittenPiece → List Tag
  | .openTag tag _ => [tag.reported ">" position]
  | .selfClosedTag tag => [tag.reported "/>" position]
  | .rawElement tag _ _ _ _ _ => [tag.reported ">" position]
  | _ => []

end WrittenPiece

def renderDocument : List WrittenPiece → String
  | [] => ""
  | piece :: rest => piece.render ++ renderDocument rest

def reportedTags (position : Nat) : List WrittenPiece → List Tag
  | [] => []
  | piece :: rest =>
      piece.reported position ++ reportedTags (position + piece.render.utf8ByteSize) rest

end TemplateServer.Markup
