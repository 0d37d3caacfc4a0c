import Stencil.Document
import Stencil.Json.Token

/-!
Documents in JSON.

Owns `Json.document?`, the document that a text in JSON denotes. The open lists and maps are kept in
a stack beside the value that is being built, so a text may be nested to any depth.
-/

namespace Stencil.Json

/-- A list or a map that is open, with what it holds so far, latest first. A map also keeps the key
whose value is being read. -/
inductive Open where
  | list (items : List Document)
  | map (entries : List (Option String × Document)) (key : Option String)

/-- What may come next. -/
inductive Expectation where
  | value
  /-- The first item of a list, or its end. -/
  | itemOrEnd
  /-- A comma in a list or a map, or its end. -/
  | commaOrEnd
  /-- The first key of a map, or its end. -/
  | keyOrEnd
  | key
  | colon
  /-- Nothing: the document is complete. -/
  | nothing (document : Document)

/-- What has been read: the open lists and maps, innermost first, and what may come next. -/
structure Builder where
  opened : List Open := []
  expectation : Expectation := .value

namespace Builder

/-- Puts a finished value where it belongs. -/
def place (builder : Builder) (document : Document) : Builder :=
  match builder.opened with
  | [] => ⟨[], .nothing document⟩
  | .list items :: outer => ⟨.list (document :: items) :: outer, .commaOrEnd⟩
  | .map entries key :: outer => ⟨.map ((key, document) :: entries) none :: outer, .commaOrEnd⟩

def enter (builder : Builder) (opened : Open) (expectation : Expectation) : Builder :=
  ⟨opened :: builder.opened, expectation⟩

def takeValue (builder : Builder) (token : Token) : Option Builder :=
  match token with
  | .leftBracket => some (builder.enter (.list []) .itemOrEnd)
  | .leftBrace => some (builder.enter (.map [] none) .keyOrEnd)
  | .null => some (builder.place (.scalar {}))
  | .bool value => some (builder.place (.scalar { flag := some value }))
  | .number natural => some (builder.place (.scalar { natural }))
  | .string text => some (builder.place (.scalar { text }))
  | _ => none

def closeList (builder : Builder) : Option Builder :=
  match builder.opened with
  | .list items :: outer =>
    some ({ builder with opened := outer }.place (.list items.reverse))
  | _ => none

def closeMap (builder : Builder) : Option Builder :=
  match builder.opened with
  | .map entries _ :: outer =>
    some ({ builder with opened := outer }.place (.map entries.reverse))
  | _ => none

def takeKey (builder : Builder) (token : Token) : Option Builder :=
  match token, builder.opened with
  | .string text, .map entries _ :: outer => some ⟨.map entries text :: outer, .colon⟩
  | _, _ => none

def afterComma (builder : Builder) : Option Builder :=
  match builder.opened with
  | .list _ :: _ => some { builder with expectation := .value }
  | .map _ _ :: _ => some { builder with expectation := .key }
  | [] => none

def step (builder : Builder) (token : Token) : Option Builder :=
  match builder.expectation with
  | .value => builder.takeValue token
  | .itemOrEnd =>
    if token = .rightBracket then builder.closeList else builder.takeValue token
  | .commaOrEnd =>
    match token with
    | .comma => builder.afterComma
    | .rightBracket => builder.closeList
    | .rightBrace => builder.closeMap
    | _ => none
  | .keyOrEnd => if token = .rightBrace then builder.closeMap else builder.takeKey token
  | .key => builder.takeKey token
  | .colon => if token = .colon then some { builder with expectation := .value } else none
  | .nothing _ => none

end Builder

def document? (text : String) : Option Document := do
  let tokens ← tokens? text.toList
  let builder ← tokens.foldlM Builder.step {}
  match builder.expectation with
  | .nothing document => some document
  | _ => none

end Stencil.Json
