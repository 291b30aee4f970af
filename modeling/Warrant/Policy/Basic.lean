-- Policies, and the requests that they match. A policy matches when its
-- action, its requirements and its conditions all do.
import Warrant.Policy.Condition

namespace Warrant

inductive Effect
  | allow | deny
deriving DecidableEq, Repr

structure Policy where
  id : String
  name : String
  subjects : List Requirement
  resources : List Requirement
  actions : KeySet String
  effect : Effect
  conditions : List Condition
  priority : Int32

namespace Policy

def matchesAction (p : Policy) (action : String) : Bool :=
  p.actions.contains action || p.actions.contains wildcard

/-- The policy matches a request of a subject on a resource. -/
def applies (p : Policy) (subject resource : Attributes) (action : String) : Bool :=
  p.matchesAction action && p.subjects.all (·.met subject) && p.resources.all (·.met resource) &&
    p.conditions.all (·.holds (combine subject resource))

def allows (p : Policy) : Bool := p.effect == .allow

end Policy

end Warrant
