/-
# Building a tree together with its text

A builder appends tokens to a source text and nodes to an arena, so that the range of every node
spans real text.  Between two tokens it puts one space, unless a character on either side glues
them together.  A composite node is opened at a mark and closed later; it spans all that was
appended in between.
-/
import Gls.Tree.Arena

namespace Gls

/-- A tree under construction. -/
structure Builder where
  arena : Arena := {}

namespace Builder

/-- A character after which no space is put. -/
def gluesAfter (c : Char) : Bool :=
  Text.isBlank c || c == '(' || c == '[' || c == '.' || c == '!'

/-- A character before which no space is put. -/
def gluesBefore (c : Char) : Bool :=
  c == ')' || c == ']' || c == ',' || c == ';' || c == ':' || c == '.' || c == '(' || c == '['

/-- The source text so far. -/
def source (b : Builder) : String := b.arena.sourceText

/-- The offset at which the next text is appended. -/
def offset (b : Builder) : UInt32 := UInt32.ofNat b.source.utf8ByteSize

/-- Appends text as it is. -/
def append (b : Builder) (text : String) : Builder :=
  { b with arena := { b.arena with sourceText := b.source ++ text } }

/-- Appends the space that separates a token from the one before, where there is one. -/
def separate (b : Builder) (next : Char) : Builder :=
  match b.source.toList.getLast? with
  | some prev => if gluesAfter prev || gluesBefore next then b else b.append " "
  | none => b

/-- Appends a token. -/
def push (b : Builder) (text : String) : Builder × Span :=
  let b := match text.toList.head? with
    | some next => b.separate next
    | none => b
  let b' := b.append text
  (b', ⟨b.offset, b'.offset⟩)

/-- Opens a composite node at the next token. -/
def mark (b : Builder) : Builder × UInt32 :=
  let b := match b.source.toList.getLast? with
    | some prev => if gluesAfter prev then b else b.append " "
    | none => b
  (b, b.offset)

/-- Appends text that is no node. -/
def text (b : Builder) (text : String) : Builder := (b.push text).1

/-- Appends a line break. -/
def newline (b : Builder) : Builder := b.append "\n"

/-- Appends a comment and a line break. -/
def comment (b : Builder) (text : String) : Builder × Span :=
  let (b, span) := b.push text
  (b.newline, span)

/-- Adds a node for text that is there already. -/
def node (b : Builder) (kind : Kind) (span : Span) (payload : Payload) : Builder × NodeId :=
  ({ b with arena := b.arena.add kind span payload }, b.arena.nextId)

/-- Appends a token together with the node that stands for it. -/
def leaf (b : Builder) (kind : Kind) (text : String) (payload : Payload) : Builder × NodeId :=
  let (b, span) := b.push text
  b.node kind span payload

/-- Appends a name. -/
def identifier (b : Builder) (name : String) : Builder × NodeId :=
  b.leaf .identifier name (.identifier name)

/-- Appends a literal as it is written. -/
def literal (b : Builder) (kind : Kind) (text : String) : Builder × NodeId :=
  b.leaf kind text (.literal text)

/-- Appends a number. -/
def number (b : Builder) (text : String) : Builder × NodeId := b.literal .numericLiteral text

/-- Appends a string literal, quotes included. -/
def string (b : Builder) (text : String) : Builder × NodeId := b.literal .stringLiteral text

/-- Appends a token with fixed text. -/
def token (b : Builder) (kind : Kind) : Builder × NodeId :=
  b.leaf kind (kind.tokenText?.getD "") .none

/-- Appends a type that is kept as text. -/
def rawType (b : Builder) (kind : Kind) (text : String) : Builder × NodeId :=
  b.leaf kind text .none

/-- Closes a node that was opened at a mark. -/
def finish (b : Builder) (mark : UInt32) (kind : Kind) (payload : Payload) : Builder × NodeId :=
  b.node kind ⟨mark, b.offset⟩ payload

/-- Closes a node that starts where its first child starts. -/
def finishFrom (b : Builder) (first : NodeId) (kind : Kind) (payload : Payload) :
    Builder × NodeId :=
  b.finish (b.arena.span first).start kind payload

/-- Replaces the modifiers of a node. -/
def setModifiers (b : Builder) (n : NodeId) (modifiers : Modifiers) : Builder :=
  { b with arena := b.arena.setModifiers n modifiers }

end Builder

end Gls
