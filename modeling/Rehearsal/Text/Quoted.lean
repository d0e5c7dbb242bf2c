import Rehearsal.Text.Unprintable

/-!
# Quoted text in messages

A text between double quotes, on one line, with every character visible: the
form in which messages cite a text that they were not expecting.
-/

namespace Rehearsal.Text

/-- A character inside quotes. Quotes, backslashes and four common controls have
short forms; a character without a visible form is shown by its number. -/
def quotedChar (c : Char) : List Char :=
  match c with
  | '"' => ['\\', '"']
  | '\\' => ['\\', '\\']
  | '\n' => ['\\', 'n']
  | '\r' => ['\\', 'r']
  | '\t' => ['\\', 't']
  | '\x00' => ['\\', '0']
  | c => if isUnprintable c then "\\u\x7b".toList ++ Nat.toDigits 16 c.toNat ++ ['}'] else [c]

/-- A text in quotes. -/
def quoted (s : String) : String :=
  String.ofList ('"' :: s.toList.flatMap quotedChar ++ ['"'])

end Rehearsal.Text
