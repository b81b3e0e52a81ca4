import SchemaQuery.Json.Display
import SchemaQuery.Json.Use
import SchemaQuery.Schema

/-!
# Rendering result pages

Every page of a result is shown by its title, and its status if it has one. The title is the first
fragment of the page's title property; the status is the name of the choice in the property
`Status`. A page without properties is untitled.
-/

namespace SchemaQuery

namespace Page

def untitled : Text := "Untitled"

def bullet : Text := "• "

def statusProperty : Text := "Status"

/-- The name of the value that a property has under a type, if it is there. -/
def choiceName? (property : List (Text × Json)) (type : Text) : Option Json :=
  match Json.get type property with
  | .object value =>
    let name := Json.get "name" value
    if name.isAbsent then none else some name
  | _ => none

def status (page : List (Text × Json)) : Except Misuse (Option Json) := do
  let properties ← (Json.get "properties" page).members
  match Json.get statusProperty properties with
  | .object property =>
    return (choiceName? property "select").orElse fun _ => choiceName? property "status"
  | _ => return none

/-- The title of a page, given its members and the property that holds it. -/
def title (titleProperty : Option Text) (page : List (Text × Json)) : Except Misuse Text :=
  match titleProperty.getD [], Json.get "properties" page with
  | [], _ => .ok untitled
  | key, .object properties => do
    match Json.get "title" (← (Json.get key properties).members) with
    | .array (first :: _) =>
      let text := Json.get "plain_text" (← first.members)
      return if text.isAbsent then untitled else text.shown
    | _ => return untitled
  | _, _ => .ok untitled

def line (titleProperty : Option Text) (page : Json) : Except Misuse Text := do
  if ← page.holds "properties" then
    match page with
    | .object entries =>
      let suffix : Text :=
        match ← status entries with
        | some name => " (" ++ name.shown ++ ")"
        | none => []
      return bullet ++ (← title titleProperty entries) ++ suffix
    | _ => throw .notObject
  else return bullet ++ untitled

end Page

def renderPages (schema : DatabaseSchema) (pages : List Json) : Except Misuse Text :=
  Text.join "\n" <$> pages.mapM (Page.line schema.titleProperty?)

end SchemaQuery
