import TagScript.State

/-!
# Access to members

Whether code may use a member depends on the class that the code belongs to and on the visibility of
the member. There is no inheritance, so a protected member is out of reach for every other class,
and trying to reach it is a fault of its own.
-/

namespace TagScript.ClassDecl

/-- Whether code of a class, or code outside any, may use a member. A member that is not declared is
out of reach for everyone. -/
def isVisible (decl : ClassDecl) (invoker : Option String) (member : String) :
    Except Fault Bool :=
  match decl.visibility? member with
  | none => .ok false
  | some .anyone => .ok true
  | some .owner => .ok (invoker = some decl.name)
  | some .family =>
    if invoker = some decl.name then .ok true
    else .error (.protectedAccess (invoker.getD globalScope) decl.name member)

/-- Fails unless a member may be used. -/
def checkVisible (decl : ClassDecl) (invoker : Option String) (member : String) :
    Except Fault Unit := do
  if ← decl.isVisible invoker member then return else throw (.memberNotVisible member)

end TagScript.ClassDecl
