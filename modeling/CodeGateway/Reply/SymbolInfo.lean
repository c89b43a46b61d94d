import CodeGateway.Reply.Location
import CodeGateway.Text.Blank
import CodeGateway.Url.Parser

namespace CodeGateway

open Decode

inductive MarkedText where
  | plain (text : String)
  | code (language value : String)
  deriving DecidableEq

inductive HoverContents where
  | one (text : MarkedText)
  | many (texts : List MarkedText)
  | markup (value : String)
  deriving DecidableEq

structure Hover where
  contents : HoverContents
  range : Option Range
  deriving DecidableEq

structure LocationLink where
  origin : Option Range
  targetUri : String
  targetRange : Range
  targetSelection : Range
  deriving DecidableEq

inductive Definition where
  | one (location : Location)
  | many (locations : List Location)
  | links (several : List LocationLink)
  deriving DecidableEq

structure SymbolInfo where
  hover : Option String
  definitions : List Location
  references : List Location
  deriving DecidableEq

def decodeUrl : Json → Except Error String
  | .string s =>
    match Url.parse s with
    | .ok url => .ok url.toString
    | .error error => .error (.badUrl s!"{error.message}: {Text.quoted s}")
  | json => .error (wrongType "a string representing an URL" json)

def Location.decodeWithUrl : Json → Except Error Location :=
  Record.decode "Location"
    ((Record.of Location.mk).take (required "uri" decodeUrl)
      |>.take (required "range" Range.decode))

/-- The first of the readings that succeeds; which one failed how is not told. -/
def firstShape {α : Type} (name : String) (shapes : List (Json → Except Error α)) (json : Json) :
    Except Error α :=
  match shapes.findSome? fun shape => (shape json).toOption with
  | some a => .ok a
  | none => .error (.noShape name)

def MarkedText.decode : Json → Except Error MarkedText :=
  firstShape "MarkedString"
    [fun json => (string json).map .plain,
      Record.decode "LanguageString"
        ((Record.of MarkedText.code).take (required "language" string)
          |>.take (required "value" string))]

/-- The kinds of markup are told apart by nobody here, but no other kind is taken. -/
def markupKind : Choice Unit :=
  ⟨[("plaintext", ()), ("markdown", ())], none⟩

def HoverContents.decode : Json → Except Error HoverContents :=
  firstShape "HoverContents"
    [fun json => (MarkedText.decode json).map .one,
      fun json => (list MarkedText.decode json).map .many,
      Record.decode "MarkupContent"
        ((Record.of fun (_ : Unit) value => HoverContents.markup value).take
            (required "kind" markupKind.decode)
          |>.take (required "value" string))]

def Hover.decode : Json → Except Error Hover :=
  Record.decode "Hover"
    ((Record.of Hover.mk).take (required "contents" HoverContents.decode)
      |>.take (optional "range" Range.decode))

def LocationLink.decode : Json → Except Error LocationLink :=
  Record.decode "LocationLink"
    ((Record.of LocationLink.mk).take (optional "originSelectionRange" Range.decode)
      |>.take (required "targetUri" decodeUrl)
      |>.take (required "targetRange" Range.decode)
      |>.take (required "targetSelectionRange" Range.decode))

def Definition.decode : Json → Except Error Definition :=
  firstShape "GotoDefinitionResponse"
    [fun json => (Location.decodeWithUrl json).map .one,
      fun json => (list Location.decodeWithUrl json).map .many,
      fun json => (list LocationLink.decode json).map .links]

def SymbolInfo.decode : Json → Except Error SymbolInfo :=
  Record.decode "SymbolInfo"
    ((Record.of SymbolInfo.mk).take (omissible "hover" string)
      |>.take (defaulted "definitions" (list Location.decode) [])
      |>.take (defaulted "references" (list Location.decode) []))

def MarkedText.text : MarkedText → String
  | .plain text => text
  | .code language value => s!"```{language}\n{value}\n```"

def HoverContents.text : HoverContents → String
  | .one item => item.text
  | .many items => "\n\n".intercalate (items.map MarkedText.text)
  | .markup value => value

def Hover.text? (hover : Hover) : Option String :=
  let text := Text.trim hover.contents.text
  if text.isEmpty then none else some text

def Definition.locations : Definition → List Location
  | .one location => [location]
  | .many locations => locations
  | .links several => several.map fun link => ⟨link.targetUri, link.targetSelection⟩

def SymbolInfo.assemble (hover : Option Hover) (definition : Option Definition)
    (references : Option (List Location)) : SymbolInfo where
  hover := hover.bind Hover.text?
  definitions := (definition.map Definition.locations).getD []
  references := references.getD []

def SymbolInfo.isEmpty (info : SymbolInfo) : Bool :=
  info.hover.isNone && info.definitions.isEmpty && info.references.isEmpty

def SymbolInfo.encode (info : SymbolInfo) : Json :=
  .object ([("definitions", .ofList Location.encode info.definitions)] ++
    Json.memberIf "hover" .string info.hover ++
    [("references", .ofList Location.encode info.references)])

end CodeGateway
