/-
# Literals

A literal is a number, a quoted text, a constant, a list of literals in round brackets or with
commas, or a set or a table of literals in curly brackets.  Its tokens are read one after the
other on a stack of open brackets.  Only the kind of a literal is kept, since it decides where
the literal may stand.
-/
import Prepress.Console.LiteralToken
import Prepress.Text.Lines
import Prepress.Text.WordTable

namespace Prepress.Console

/-! ## Kinds -/

/-- The kinds of literals.  A real number may take a sign, and an imaginary number may be added
to a real one that is not huge.  Sets, tables and lists that hold one can change, all other
literals cannot.  The name of sets is a literal only with the empty list after it, which makes it
the empty set. -/
inductive Literal where
  | real (huge : Bool)
  | signedReal (huge : Bool)
  | imaginary
  | quoted (bytes : Bool)
  | emptyList
  | constant
  | changing
  | setName
deriving DecidableEq

/-- The literal with a sign before it. -/
def Literal.signed? : Literal → Option Literal
  | .real huge => some (.signedReal huge)
  | .imaginary => some .constant
  | _ => none

/-- The literal in round brackets of its own: a quoted text cannot be continued, and a list is
no longer empty. -/
def Literal.enclosed : Literal → Literal
  | .quoted _ => .constant
  | .emptyList => .constant
  | literal => literal

/-! ## Open brackets -/

/-- What has been read of a literal. -/
inductive Begun where
  | nothing
  | sign
  | whole (literal : Literal)
  | plus

/-- The literal with another one after it. -/
def Begun.add? : Begun → Literal → Option Begun
  | .nothing, literal => some (.whole literal)
  | .sign, literal => literal.signed?.map .whole
  | .plus, .imaginary => some (.whole .constant)
  | .whole (.quoted left), .quoted right =>
    if left = right then some (.whole (.quoted left)) else none
  | .whole .setName, .emptyList => some (.whole .changing)
  | _, _ => none

/-- The literal with a sign after it. -/
def Begun.sign? : Begun → Option Begun
  | .nothing => some .sign
  | .whole (.real false) => some .plus
  | .whole (.signedReal false) => some .plus
  | _ => none

/-- How the entries of curly brackets look. -/
inductive Entries where
  | unknown
  | elements
  | keyed
deriving DecidableEq

/-- What stands after an open bracket: the entry that is being read, whether its key has been
read, and what is known of the entries before it.  Outside all brackets there is none. -/
structure Group where
  bracket : Option Bracket
  entry : Begun
  keyRead : Bool
  entries : Entries
  listed : Bool
  changes : Bool

/-- The group that a bracket opens. -/
def Group.opened (bracket : Option Bracket) : Group :=
  ⟨bracket, .nothing, false, .unknown, false, false⟩

/-- Whether nothing has been read in a group. -/
def Group.isFresh (g : Group) : Bool :=
  match g.entry with
  | .nothing => !g.listed
  | _ => false

/-- The group with a literal after what it has. -/
def Group.add? (g : Group) (literal : Literal) : Option Group :=
  (g.entry.add? literal).map fun entry => { g with entry }

/-- The group with a key after what it has. -/
def Group.key? (g : Group) : Option Group :=
  match g.entry with
  | .whole literal =>
    if g.bracket = some .curly ∧ !g.keyRead ∧ g.entries ≠ .elements ∧ literal ≠ .changing
        ∧ literal ≠ .setName then
      some { g with entry := .nothing, keyRead := true, entries := .keyed }
    else none
  | _ => none

/-- The group after its entry. -/
def Group.next? (g : Group) : Option Group :=
  match g.entry with
  | .whole literal =>
    let rest := { g with
      entry := .nothing
      keyRead := false
      listed := true
      changes := g.changes || literal == .changing }
    if literal = .setName then none
    else if g.bracket ≠ some .curly ∨ g.keyRead then some rest
    else if g.entries = .keyed ∨ literal = .changing then none
    else some { rest with entries := .elements }
  | _ => none

/-- The list of the entries of a group. -/
def Group.list (g : Group) : Literal :=
  if !g.listed then .emptyList else if g.changes then .changing else .constant

/-- The literal that a group is. -/
def Group.literal? (g : Group) : Option Literal :=
  match g.entry, g.bracket with
  | .nothing, some .curly => if g.keyRead then none else some .changing
  | .nothing, some .round => some g.list
  | .nothing, none => if g.listed then some g.list else none
  | .whole _, some .curly => g.next?.map fun _ => .changing
  | .whole literal, _ => if g.listed then g.next?.map Group.list else some literal.enclosed
  | _, _ => none

/-! ## Reading -/

/-- The open groups, the innermost one first, and whether the last line has ended. -/
structure LiteralState where
  group : Group
  around : List Group
  ended : Bool

/-- The greatest number of brackets that may be open. -/
def deepest : Nat := 200

/-- The state with the innermost group changed. -/
def LiteralState.change? (s : LiteralState) (f : Group → Option Group) : Option LiteralState :=
  (f s.group).map fun group => { s with group }

/-- The state after a bracket has been closed. -/
def LiteralState.close? (s : LiteralState) (bracket : Bracket) : Option LiteralState :=
  match s.around with
  | [] => none
  | outer :: around => do
    if s.group.bracket = some bracket then
      let group ← outer.add? (← s.group.literal?)
      some ⟨group, around, s.ended⟩
    else none

/-- The state after the end of a line, which counts only outside all brackets. -/
def LiteralState.endLine? (s : LiteralState) (goesOn indented : Bool) : Option LiteralState :=
  if !s.around.isEmpty then some s
  else if s.group.isFresh then if indented then none else some s
  else some { s with ended := s.ended || !goesOn }

/-- The state after a token.  After the last line there is none but ends of lines. -/
def LiteralState.step? (s : LiteralState) : LiteralToken → Option LiteralState
  | .lineEnd goesOn indented => s.endLine? goesOn indented
  | token =>
    if s.ended then none
    else
      match token with
      | .number imaginary huge =>
        s.change? (·.add? (if imaginary then .imaginary else .real huge))
      | .quoted bytes => s.change? (·.add? (.quoted bytes))
      | .constant => s.change? (·.add? .constant)
      | .setName => s.change? (·.add? .setName)
      | .opening bracket =>
        if s.around.length < deepest then
          some { s with group := .opened bracket, around := s.group :: s.around }
        else none
      | .closing bracket => s.close? bracket
      | .comma => s.change? Group.next?
      | .colon => s.change? Group.key?
      | .sign => s.change? fun g => g.entry.sign?.map fun entry => { g with entry }
      | .lineEnd .. => none

/-- The state after some tokens. -/
def LiteralState.run? (s : LiteralState) : List LiteralToken → Option LiteralState
  | [] => some s
  | token :: tokens => (s.step? token).bind fun s => s.run? tokens

/-- Reading goes on where it has stopped. -/
theorem LiteralState.run?_append (s : LiteralState) (first rest : List LiteralToken) :
    s.run? (first ++ rest) = (s.run? first).bind fun s => s.run? rest := by
  induction first generalizing s with
  | nil => rfl
  | cons token first ih => cases h : s.step? token <;> simp [LiteralState.run?, h, ih]

/-- Whether a text is a literal; one with a null character is none. -/
def isLiteral (t : Text) : Bool :=
  let tokens := literalTokens? 0 (Text.normalizeNewlines t)
  let last := tokens.bind (LiteralState.mk (.opened none) [] false).run?
  t.all (·.toNat != 0) && last.any fun s =>
    s.around.isEmpty && s.group.literal?.any (· != .setName)

/-! ## Handlers -/

/-- What stands for the arguments of a handler: after a name, what is in round brackets, or
nothing; without a name, all of it. -/
def handlerArguments (t : Text) : Text :=
  match t.dropWhile fun c => Text.isWordChar c || c == '.' with
  | [] => ['(', ')']
  | c :: r =>
    if c = '(' ∧ r.getLast? = some ')' ∧ '\n' ∉ r then c :: r else t

/-- Whether a text is a handler, with literals for its arguments. -/
def isHandler (t : Text) : Bool := isLiteral (handlerArguments (Text.trim t))

end Prepress.Console
