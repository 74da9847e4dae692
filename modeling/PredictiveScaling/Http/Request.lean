import PredictiveScaling.Http.Target

/-!
# Requests

A method and a target. Methods are words of their own letter case; they need not be among
the registered ones.
-/
namespace PredictiveScaling.Http

structure Request where
  method : String
  target : Target
deriving DecidableEq, Repr

namespace Request

/-- Characters of a method. -/
def isMethodChar (c : Char) : Bool := c.isAlphanum || "!#$%&'*+-.^_\x60|~".toList.contains c

def isMethod (s : String) : Bool := !s.isEmpty && s.toList.all isMethodChar

/-- The request with a method and a target, if they are well formed. -/
def read? (method target : String) : Option Request :=
  if isMethod method then (Target.parse? target).map (⟨method, ·⟩) else none

end Request

end PredictiveScaling.Http
