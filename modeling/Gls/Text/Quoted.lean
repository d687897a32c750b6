/-
# String literals in double quotes

A string literal of the source language is written in single quotes, in double quotes or in
backquotes.  `requote` writes it in double quotes and on one line, element by element.
-/

namespace Gls.Text.Quoted

/-- The three quotes a literal may be written in. -/
def isQuote (c : Char) : Bool := c == '"' || c == '\'' || c == '\x60'

/-- The text between the quotes; a text that is not in equal quotes is taken whole. -/
def stripQuotes (cs : List Char) : List Char :=
  match cs with
  | quote :: rest =>
    if isQuote quote && rest.getLast? == some quote then rest.dropLast else cs
  | [] => cs

/-- What stands between double quotes for what stands between the quotes of a literal.

An escaped single quote needs no escape; an escaped line break stands for nothing; any other escape
is kept.  A bare double quote, line break or tab is escaped, and CR LF counts as one line break.  A
backslash with nothing after it is doubled. -/
def body : List Char → List Char
  | [] => []
  | ['\\'] => ['\\', '\\']
  | '\\' :: '\'' :: cs => '\'' :: body cs
  | '\\' :: '\r' :: '\n' :: cs => body cs
  | '\\' :: '\r' :: cs => body cs
  | '\\' :: '\n' :: cs => body cs
  | '\\' :: '\u2028' :: cs => body cs
  | '\\' :: '\u2029' :: cs => body cs
  | '\\' :: c :: cs => '\\' :: c :: body cs
  | '"' :: cs => '\\' :: '"' :: body cs
  | '\n' :: cs => '\\' :: 'n' :: body cs
  | '\r' :: '\n' :: cs => '\\' :: 'n' :: body cs
  | '\r' :: cs => '\\' :: 'n' :: body cs
  | '\t' :: cs => '\\' :: 't' :: body cs
  | c :: cs => c :: body cs

/-- The literal in double quotes and on one line. -/
def requote (text : String) : String :=
  String.ofList ('"' :: body (stripQuotes text.toList) ++ ['"'])

end Gls.Text.Quoted
