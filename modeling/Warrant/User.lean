-- Users, as the application around this library knows them.
import Warrant.Refusal
import Warrant.Value.Json

namespace Warrant

structure User where
  id : UserId
  name : String
  roles : List String
  attributes : Attributes

namespace User

def toJson (u : User) : Json :=
  .ofFields [("id", .int u.id.toNat), ("display_name", .text u.name), ("roles", .texts u.roles),
    ("attrs", Value.attributesJson u.attributes)]

/-- The attributes may be left out. -/
def ofJson? (j : Json) : Option User := do
  let fields ← j.fields? ["id", "display_name", "roles", "attrs"]
  let id ← (← fields.lookup "id").word?
  let name ← (← fields.lookup "display_name").text?
  let roles ← (← fields.lookup "roles").texts?
  let attributes ←
    Json.fieldOr .empty (Value.attributes? (Value.maxLevels - 1)) (fields.lookup "attrs")
  return ⟨id, name, roles, attributes⟩

end User

/-- Finds a user, in a context of the application's choice. -/
abbrev Loader (m : Type → Type) := UserId → m (Except Refusal User)

/-- The user that a loader finds. Without a loader there is none, and a
loader that fails finds none. -/
def loadUser {m : Type → Type} [Monad m] (loader : Option (Loader m)) (id : UserId) :
    m (Option User) :=
  match loader with
  | none => pure none
  | some load => do return (← load id).toOption

end Warrant
