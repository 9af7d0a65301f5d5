import Placement.Text.Blank
import Placement.Text.Pattern

/-!
# Placement.Hover.Fence — code blocks in a hover text

A code block opens with three backticks, a language name and blanks up to the
end of the line, and goes on to the next three backticks. A fence that does not
close opens nothing.
-/

namespace Placement.Hover

/-- The three backticks of a fence. -/
def fence : Text := "```".text

/-- A character of a language name. -/
def isLanguageChar (c : CodePoint) : Bool := Text.isIdent c || c == '+' || c == '-'

/-- A code block: the text between its opening line and its closing fence. -/
def block : Text.Pattern Text := fun _ t =>
  match Text.after? fence t with
  | some r =>
    match (r.dropWhile isLanguageChar).dropWhile fun c => c == .char ' ' || c == .char '\t' with
    | '\n' :: r => Text.cut? fence r
    | _ => none
  | none => none

/-- The bodies of the code blocks in a hover text, trimmed, in order. -/
def codeBlocks (content : Text) : List Text := (block.findAll content).map Text.trim

/-- A text as a code block in a language. -/
def fenced (language body : Text) : Text :=
  fence ++ language ++ .char '\n' :: body ++ .char '\n' :: fence

end Placement.Hover
