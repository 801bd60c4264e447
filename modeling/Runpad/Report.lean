/-
  What the program writes when it runs without the editor.

  * `result` ends a text with a line feed, if there is a text and it has none;
  * `error` and `info` are lines with a word in front, in colour or not.
-/
import Runpad.Text.Ranges

namespace Runpad.Report

/-- A text, ended with a line feed unless it is empty or has one. -/
def result (t : Text) : Text :=
  if t = [] ∨ t.getLast? = some '\n' then t else t ++ ['\n']

/-- The sequence that switches a style of the terminal on or off. -/
def style (code : String) : Text :=
  "\x1b[".toList ++ code.toList ++ ['m']

/-- A text in bold red letters. -/
def red (t : Text) : Text :=
  style "1" ++ style "31" ++ t ++ style "39" ++ style "0"

/-- A text in cyan letters. -/
def cyan (t : Text) : Text :=
  style "36" ++ t ++ style "39"

/-- The line that reports a failure. -/
def error (colour : Bool) (t : Text) : Text :=
  let word := "error:".toList
  (if colour then red word else word) ++ ' ' :: t ++ ['\n']

/-- A line with a label. -/
def info (colour : Bool) (label t : Text) : Text :=
  (if colour then cyan label else label) ++ ' ' :: t ++ ['\n']

end Runpad.Report
