-- The policies in force, in the order of evaluation: by falling priority,
-- and by age among equals. The first one that applies to a request
-- decides it. A request that no policy applies to is denied.
import Warrant.Policy.Basic
import Warrant.Refusal

namespace Warrant

structure PolicyStore where
  policies : List Policy

/-- An answer, and the policy that gave it. -/
structure Decision where
  allowed : Bool
  policy : Option Policy

namespace PolicyStore

def empty : PolicyStore := ⟨[]⟩

/-- Puts a policy before the first one of strictly lower priority. -/
def place (p : Policy) : List Policy → List Policy
  | [] => [p]
  | q :: r => if q.priority.toInt < p.priority.toInt then p :: q :: r else q :: place p r

theorem mem_place {p q : Policy} {l : List Policy} : q ∈ place p l ↔ q = p ∨ q ∈ l := by
  induction l with
  | nil => simp [place]
  | cons a r ih =>
    unfold place
    split
    · simp
    · simp only [List.mem_cons, ih]
      exact or_left_comm

def add (s : PolicyStore) (p : Policy) : PolicyStore := ⟨place p s.policies⟩

/-- Removes all policies with an id. -/
def remove (s : PolicyStore) (id : String) : PolicyStore := ⟨s.policies.filter (·.id != id)⟩

def has (s : PolicyStore) (id : String) : Bool := s.policies.any (·.id == id)

def policy? (s : PolicyStore) (id : String) : Option Policy := s.policies.find? (·.id == id)

/-- The decision on a request. -/
def decide (s : PolicyStore) (subject resource : Attributes) (action : String) : Decision :=
  match s.policies.find? (·.applies subject resource action) with
  | some p => ⟨p.allows, some p⟩
  | none => ⟨false, none⟩

/-- How a refusal names a policy. -/
def label (p : Policy) : String := p.id ++ " (" ++ p.name ++ ")"

/-- The decision on a request, with a denial as a refusal. -/
def check (s : PolicyStore) (subject resource : Attributes) (action : String) :
    Except Refusal Unit :=
  match s.decide subject resource action with
  | ⟨true, _⟩ => .ok ()
  | ⟨false, policy⟩ => .error (.accessDenied (policy.map label))

end PolicyStore

end Warrant
