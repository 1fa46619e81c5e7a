import ClassLink.Value
/-!
# Lexical scopes

The body of a class or function runs inside nested frames, each bound to an object or to the
class under construction. A scope is its innermost frame and the frames around it.
-/

namespace ClassLink

/-- What one frame is bound to. -/
inductive Frame where
  /-- The global object of a domain. -/
  | global (o : ObjectRef)
  /-- An ordinary object. -/
  | object (o : ObjectRef)
  /-- A class. -/
  | «class» (c : ClassRef)
deriving DecidableEq, Repr, Inhabited

/-- The class that a frame is bound to. -/
def Frame.class? : Frame → Option ClassRef
  | .class c => some c
  | _ => none

/-- Nested frames. -/
structure Scope where
  innermost : Frame
  /-- The frames around the innermost one, outwards. -/
  outer : List Frame
deriving DecidableEq, Repr, Inhabited

namespace Scope

/-- The outermost frame of a domain. -/
def global (o : ObjectRef) : Scope := ⟨.global o, []⟩

/-- One more frame inside a scope. -/
def push (s : Scope) (f : Frame) : Scope := ⟨f, s.innermost :: s.outer⟩

/-- All frames, outwards. -/
def frames (s : Scope) : List Frame := s.innermost :: s.outer

/-- The number of frames. -/
def depth (s : Scope) : Nat := s.frames.length

/-- The scope around the innermost frame. -/
def parent? (s : Scope) : Option Scope :=
  match s.outer with
  | [] => none
  | f :: fs => some ⟨f, fs⟩

/-- The innermost class of the scope. -/
def enclosingClass? (s : Scope) : Option ClassRef := s.frames.findSome? Frame.class?

end Scope

end ClassLink
