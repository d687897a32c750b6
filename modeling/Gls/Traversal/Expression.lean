/-
# Expressions

Values that are written as they stand, string literals, operations and calls.  A call of a string
method that has a command of its own becomes that command.
-/
import Gls.Text.Quoted
import Gls.Traversal.Value

namespace Gls.Visit

/-- A value that is written as it stands. -/
def literalValue (ctx : Context) (n : NodeId) : Visit (Option Fragment) :=
  return some (verbatim ctx n (ctx.arena.text n))

/-- A string literal, in double quotes. -/
def stringLiteral (ctx : Context) (n : NodeId) : Visit (Option Fragment) :=
  return some (verbatim ctx n (Text.Quoted.requote (ctx.arena.text n)))

/-! ### Operations -/

/-- The words for a binary operator. -/
def operatorAlias? : Kind → Option String
  | .equalsEqualsEqualsToken | .equalsEqualsToken => some "equal to"
  | .exclamationEqualsEqualsToken | .exclamationEqualsToken => some "not equal to"
  | .lessThanToken => some "less than"
  | .lessThanEqualsToken => some "less than or equal to"
  | .greaterThanToken => some "greater than"
  | .greaterThanEqualsToken => some "greater than or equal to"
  | .plusToken => some "plus"
  | .minusToken => some "minus"
  | .asteriskToken => some "times"
  | .slashToken | .slashEqualsToken => some "divide by"
  | .percentToken => some "mod"
  | .ampersandAmpersandToken => some "and"
  | .barBarToken => some "or"
  | .equalsToken => some "equals"
  | .plusEqualsToken => some "increase by"
  | .minusEqualsToken => some "decrease by"
  | .asteriskEqualsToken => some "multiply by"
  | _ => none

/-- The words for a unary operator that changes its operand by one. -/
def stepAlias? : Kind → Option String
  | .plusPlusToken => some "increase by"
  | .minusMinusToken => some "decrease by"
  | _ => none

/-- The arguments of an operation: the words for the operator stand after the first operand. -/
def operationArgs (word : String) : List Argument → List Argument
  | [] => [.text word]
  | left :: rest => left :: .text word :: rest

/-- A binary operation. -/
def binary (ctx : Context) (visit : Visitor) (n : NodeId) : Visit (Option Fragment) := do
  let d ← need ctx n "binary data" (ctx.arena.binary? n)
  match operatorAlias? d.operator with
  | none =>
    let operator := d.operator.tokenText?.getD "?"
    return some (← complaint ctx n ("operator '" ++ operator ++ "' is not supported"))
  | some word =>
    ofOutcome ctx n
      (fun operands =>
        return some (line ctx n ⟨CommandName.operation, operationArgs word operands⟩))
      (← values ctx visit [d.left, d.right])

/-- A unary operation.  Those that do not change their operand are written as they stand. -/
def unary (ctx : Context) (n : NodeId) : Visit (Option Fragment) := do
  let d ← need ctx n "unary data" (ctx.arena.unary? n)
  match stepAlias? d.operator with
  | none => return some (verbatim ctx n (ctx.arena.text n))
  | some word =>
    return some (line ctx n
      ⟨CommandName.operation, [.text (ctx.arena.text d.operand), .text word, .text "1"]⟩)

/-! ### Calls -/

/-- The command for a string method. -/
def stringMethodCommand? (method : String) : Option String :=
  if method == "indexOf" then some CommandName.stringIndexOf
  else if method == "substr" then some CommandName.stringSubstringLength
  else if method == "substring" then some CommandName.stringSubstringIndex
  else if method == "toLowerCase" then some CommandName.stringCaseLower
  else if method == "toUpperCase" then some CommandName.stringCaseUpper
  else if method == "trim" then some CommandName.stringTrim
  else none

/-- The access that a call goes through, when a member is called. -/
def memberAccess? (ctx : Context) (call : Payload.Call) : Option Payload.Access :=
  if ctx.arena.kind? call.expression = some .propertyAccessExpression then
    ctx.arena.access? call.expression
  else none

/-- The call of a string method: its arguments, its receiver and its command. -/
def stringCall? (ctx : Context) (n : NodeId) : Option (Payload.Call × NodeId × String) := do
  let call ← ctx.arena.call? n
  let access ← memberAccess? ctx call
  let command ← stringMethodCommand? (ctx.arena.text access.nameOrArgument)
  if ctx.tree.typeName? access.expression = some (.text "string") then
    return (call, access.expression, command)
  else none

/-- A call of a string method as the command for it; nothing for any other call. -/
def stringMember (ctx : Context) (visit : Visitor) (n : NodeId) : Visit (Option Fragment) :=
  match stringCall? ctx n with
  | none => return none
  | some (call, receiver, command) => do
    ofOutcome ctx n
      (fun args =>
        return some (line ctx n ⟨command, .text (ctx.arena.text receiver) :: args⟩))
      (← values ctx visit call.arguments)

/-- The start of the command for a call. -/
def callHead (ctx : Context) (call : Payload.Call) : Command :=
  match memberAccess? ctx call with
  | some access =>
    ⟨CommandName.memberFunctionCall,
      [.text (ctx.arena.text access.expression), .text (ctx.arena.text access.nameOrArgument)]⟩
  | none => ⟨CommandName.functionCall, [.text (ctx.arena.text call.expression)]⟩

/-- A call of a member or a function. -/
def genericCall (ctx : Context) (visit : Visitor) (n : NodeId) : Visit (Option Fragment) := do
  let call ← need ctx n "call data" (ctx.arena.call? n)
  ofOutcome ctx n
    (fun args => return some (line ctx n ((callHead ctx call).withArgs args)))
    (← values ctx visit call.arguments)

/-- A call. -/
def call (ctx : Context) (visit : Visitor) (n : NodeId) : Visit (Option Fragment) := do
  match ← stringMember ctx visit n with
  | some f => return some f
  | none => genericCall ctx visit n

end Gls.Visit
