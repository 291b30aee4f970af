-- The JSON forms of permissions and roles.
import Warrant.Json.Record
import Warrant.Roles.Registry

namespace Warrant

def Permission.toJson (p : Permission) : Json :=
  .ofFields [("resource", .text p.resource), ("action", .text p.action)]

def Permission.ofJson? (j : Json) : Option Permission := do
  let fields ← j.fields? ["resource", "action"]
  let resource ← (← fields.lookup "resource").text?
  let action ← (← fields.lookup "action").text?
  return ⟨resource, action⟩

def Role.toJson (r : Role) : Json :=
  .ofFields [("name", .text r.name),
    ("permissions", .array ((KeySet.toList r.permissions).map Permission.toJson))]

def Role.ofJson? (j : Json) : Option Role := do
  let fields ← j.fields? ["name", "permissions"]
  let name ← (← fields.lookup "name").text?
  let permissions ← (← fields.lookup "permissions").list? Permission.ofJson?
  return ⟨name, KeySet.ofList permissions⟩

end Warrant
