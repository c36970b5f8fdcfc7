import RenderSource.Code.Statement
import RenderSource.Text.Percent
/-!
Where statements and expressions may stand. Only inside functions is a value given back or handed out,
waiting is for functions of another kind, and one name cannot be bound. The first fault counts in
the order in which a source is gone through; the name of a function comes after its body.
-/
namespace RenderSource

namespace Term

mutual

def parts : Term → List Term
  | negative a => .negative a :: parts a
  | list items => .list items :: partsOfAll items
  | dict entries => .dict entries :: partsOfEntries entries
  | call f args named => .call f args named :: (parts f ++ partsOfAll args ++ partsOfNamed named)
  | item a key => .item a key :: (parts a ++ parts key)
  | attr a n => .attr a n :: parts a
  | sum a b => .sum a b :: (parts a ++ parts b)
  | denial a => .denial a :: parts a
  | tuple items => .tuple items :: partsOfAll items
  | awaited left a => .awaited left a :: parts a
  | yielded left a => .yielded left a :: parts a
  | t => [t]

def partsOfAll : List Term → List Term
  | [] => []
  | t :: ts => parts t ++ partsOfAll ts

def partsOfEntries : List (Term × Term) → List Term
  | [] => []
  | (k, v) :: es => parts k ++ parts v ++ partsOfEntries es

def partsOfNamed : List (Text × Term) → List Term
  | [] => []
  | (_, t) :: ts => parts t ++ partsOfNamed ts

end

def handsOut (t : Term) : Bool := t.parts.any fun
  | .yielded _ _ => true
  | _ => false

end Term

namespace Statement

def term? : Statement → Option Term
  | assign _ t | augment _ t | give t => some t
  | _ => none

end Statement

namespace Placed

/-- The column, in bytes of the row, where so many of its code points are left. -/
def byteColumn (p : Placed) (left : Nat) : Nat :=
  ((p.text.take (p.text.length - left)).flatMap fun c => utf8 c.val).length

def isFixed (n : Text) : Bool := n.normalName = wording "__debug__"

def fixedFault? (p : Placed) (n : Text) : Option SourceFault :=
  if isFixed n then some ⟨.fixedName, p.row, p.column⟩ else none

def termFault? (p : Placed) (t : Term) : Option SourceFault :=
  t.parts.findSome? fun
    | .awaited left _ => some ⟨.awaitOutside (p.level != 0), p.row, p.byteColumn left⟩
    | .yielded left _ => if p.level = 0 then some ⟨.yieldOutside, p.row, p.byteColumn left⟩ else none
    | _ => none

def ownFault? (p : Placed) : Option SourceFault :=
  match p.statement with
  | .define _ parameter => p.fixedFault? parameter
  | .library _ => none
  | .assign n t | .augment n t => (p.termFault? t).or (p.fixedFault? n)
  | .give t => if p.level = 0 then some ⟨.returnOutside, p.row, p.column⟩ else p.termFault? t

def headFault? (p : Placed) : Option SourceFault :=
  match p.statement with
  | .define n _ => p.fixedFault? n
  | _ => none

/-- The first fault behind heads of functions whose bodies are open, the innermost first. -/
def faultIn? : List Placed → List Placed → Option SourceFault
  | opened, [] => opened.findSome? headFault?
  | opened, p :: rest =>
    let (closed, around) := opened.span fun q => decide (p.level ≤ q.level)
    ((closed.findSome? headFault?).or p.ownFault?).or
      (faultIn? (if isDefine p.statement then p :: around else around) rest)

def misplaced? (ps : List Placed) : Option SourceFault := faultIn? [] ps

end Placed

end RenderSource
