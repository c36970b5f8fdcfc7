import RenderSource.Code.Broken
import RenderSource.Code.Term
/-!
What is said of a row that does not read: most often only where, but two mistakes have words of their
own. Parameters in brackets are one. The other is a value that is handed out as all the arguments of a
call, inside other brackets: it reads as two expressions side by side.
-/
namespace RenderSource.Diagnosis

def isParameterList : Nat → Text → Bool
  | 0, _ => false
  | fuel + 1, t => match Term.readName t with
    | .error _ => false
    | .ok (_, r) =>
      Term.nextIs ')' r || (Term.nextIs ',' r &&
        let r := (Term.skipBlanks r).drop 1
        Term.nextIs ')' r || isParameterList fuel r)

def hasBracketedParameters (front rest : Text) : Bool :=
  Text.beginsWith (wording "lambda").reverse (front.reverse.dropWhile fun c => c = .scalar ' ') &&
    Term.nextIs '(' rest &&
    isParameterList rest.length ((Term.skipBlanks rest).drop 1)

/-- The places where the expressions begin that are being read at the end of `t`, one for each bracket
that is open and one outside of all, the innermost first. -/
def begun (column : Nat) (t : Text) (places : List (Option Nat)) : List (Option Nat) :=
  match t with
  | [] => places
  | c :: u =>
    let here : List (Option Nat) := match places with
      | none :: rest => some column :: rest
      | places => places
    if c = .scalar ' ' then begun (column + 1) u places
    else if c = .scalar '"' then
      let n := (Broken.closingInRow? ⟨'"', false⟩ u).getD u.length
      begun (column + 1 + n) (u.drop n) here
    else if (Broken.closingOf? c).isSome then begun (column + 1) u (none :: here)
    else if Broken.isClosing c then begun (column + 1) u (places.drop 1)
    else if c = .scalar ',' || c = .scalar ':' then
      begun (column + 1) u (none :: places.drop 1)
    else begun (column + 1) u here
termination_by t.length
decreasing_by all_goals (simp only [List.length_cons, List.length_drop]; omega)

/-- Words that can stand in front of what is no argument list. -/
def softWords : List String := ["match", "case", "_"]

def formerStatements : List String := ["print", "exec"]

def calledAt? (front : Text) : Option Nat :=
  match front.reverse, begun 0 front [none] with
  | .scalar '(' :: _, none :: some start :: _ :: _ =>
    let called := (front.drop start).dropLast
    if called.isEmpty || softWords.any (fun w => wording w = (Term.spanName called).1) ||
        formerStatements.any (fun w => wording w = called) then none
    else some start
  | _, _ => none

def handsOut (rest : Text) : Bool :=
  (Term.spanName rest).1 = wording "yield" &&
    (Term.readBracketed (Term.depthFor rest) rest).isOk

def ofRow (row : Nat) (t : Text) (left : Nat) : SourceFault :=
  let column := t.length - left
  let front := t.take column
  let rest := t.drop column
  if hasBracketedParameters front rest then ⟨.bracketedParameters, row, column⟩
  else match if handsOut rest then calledAt? front else none with
    | some start => ⟨.missingComma, row, start⟩
    | none => ⟨.invalidSyntax, row, column⟩

end RenderSource.Diagnosis
