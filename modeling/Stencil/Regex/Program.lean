import Stencil.Regex.Expr

/-!
Expressions laid out as programs.

Owns `Inst`, the instructions, and `Expr.code`, which lays out an expression from a given state on
so that it is entered at its first state and left to a given state. The layout needs no patching:
`Expr.codeLength` tells how many states a part takes, so every state is known beforehand.

Preference is in `fork`: the first target is preferred. What repeats is entered again by a fork
after its body, so a body that matches the empty text returns to a state that was already tried at
that place.
-/

namespace Stencil.Regex

/-- An instruction, with the state to go on in. -/
inductive Inst where
  /-- Reads the characters in their order. -/
  | read (text : List Char) (next : Nat)
  | readOneOf (set : CharSet) (next : Nat)
  /-- Goes on where the condition holds. -/
  | check (condition : Look) (next : Nat)
  | mark (slot : Nat) (next : Nat)
  /-- Goes on in either state and prefers the first. -/
  | fork (preferred other : Nat)
  | goto (next : Nat)
  | accept
deriving Repr, Inhabited

/-- The fork at a repetition: into the body or past it, in the order of preference. -/
def Inst.enterOrLeave (greedy : Bool) (body past : Nat) : Inst :=
  if greedy then .fork body past else .fork past body

/-- The mark that notes where a group begins. -/
def groupStart (index : Nat) : Nat := 2 * index

def groupEnd (index : Nat) : Nat := 2 * index + 1

namespace Expr

/-- The number of states that an expression takes. -/
def codeLength : Expr → Nat
  | .empty => 1
  | .literal _ => 1
  | .oneOf _ => 1
  | .look _ => 1
  | .group _ body => body.codeLength + 2
  | .sequence first second => first.codeLength + second.codeLength
  | .choice first second => first.codeLength + second.codeLength + 1
  | .rounds least most _ body =>
    match most with
    | none => if least = 0 then body.codeLength + 2 else least * body.codeLength + 1
    | some bound =>
      if bound = 0 then 1
      else least * body.codeLength + (bound - least) * (body.codeLength + 1)

/-- Copies of a part one after another, the last of which is left to `past`. The part takes a start
and a state to go on in. -/
def copies (part : Nat → Nat → List Inst) (length : Nat) :
    (count start past : Nat) → List Inst
  | 0, _, _ => []
  | 1, start, past => part start past
  | count + 2, start, past =>
    part start (start + length) ++ copies part length (count + 1) (start + length) past

/-- Rounds that may be left out, each entered only after the one before it and each left to
`past`. -/
def optionalRounds (part : Nat → Nat → List Inst) (length : Nat) (greedy : Bool) :
    (count start past : Nat) → List Inst
  | 0, _, _ => []
  | 1, start, past => Inst.enterOrLeave greedy (start + 1) past :: part (start + 1) past
  | count + 2, start, past =>
    Inst.enterOrLeave greedy (start + 1) past ::
      (part (start + 1) (start + 1 + length) ++
        optionalRounds part length greedy (count + 1) (start + 1 + length) past)

/-- The program of an expression from state `start` on, left to state `past`. -/
def code : Expr → (start past : Nat) → List Inst
  | .empty, _, past => [.goto past]
  | .literal text, _, past => [.read text past]
  | .oneOf set, _, past => [.readOneOf set past]
  | .look condition, _, past => [.check condition past]
  | .group index body, start, past =>
    .mark (groupStart index) (start + 1) ::
      (code body (start + 1) (start + 1 + body.codeLength) ++ [.mark (groupEnd index) past])
  | .sequence first second, start, past =>
    code first start (start + first.codeLength) ++
      code second (start + first.codeLength) past
  | .choice first second, start, past =>
    .fork (start + 1) (start + 1 + first.codeLength) ::
      (code first (start + 1) past ++ code second (start + 1 + first.codeLength) past)
  | .rounds least most greedy body, start, past =>
    let length := body.codeLength
    match most with
    | none =>
      match least with
      | 0 =>
        Inst.enterOrLeave greedy (start + 1) past ::
          (code body (start + 1) (start + 1 + length) ++
            [Inst.enterOrLeave greedy (start + 1) past])
      | least + 1 =>
        let last := start + least * length
        copies (code body) length least start last ++
          (code body last (last + length) ++ [Inst.enterOrLeave greedy last past])
    | some bound =>
      if bound = 0 then [.goto past]
      else if bound ≤ least then copies (code body) length least start past
      else
        let optional := start + least * length
        copies (code body) length least start optional ++
          optionalRounds (code body) length greedy (bound - least) optional past

end Expr

/-- A program that searches for an expression. It prefers to start at the place where it stands and
else goes on one character, so of the places where a match starts it finds the first. -/
def searchProgram (expr : Expr) : Array Inst :=
  let start := 2
  ([Inst.fork start 1, Inst.readOneOf CharSet.all 0] ++
    (expr.code start (start + expr.codeLength) ++ [Inst.accept])).toArray

end Stencil.Regex
