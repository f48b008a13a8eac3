/-
**Styled text.**

Reports for a terminal are styled with escape sequences:

* `Style.code` is what a style consists of;
* `paint` styles a text, if styles are wanted at all;
* `wantsStyle` tells whether they are.
-/

import Provision.Settings.Discovery

namespace Provision.Command

/-- How a text is to look. -/
inductive Style where
  | bold
  | dim
  | red
  | green
  | yellow
  | cyan
  /-- Bold and cyan. -/
  | title
  deriving DecidableEq, Repr

/-- The code of a style. -/
def Style.code : Style → String
  | bold => "1"
  | dim => "2"
  | red => "31"
  | green => "32"
  | yellow => "33"
  | cyan => "36"
  | title => "1;36"

/-- The sequence that starts a style. -/
def Style.start (style : Style) : String := "\x1b[" ++ style.code ++ "m"

/-- The sequence that ends all styles. -/
def Style.finish : String := "\x1b[0m"

/-- A text in a style, if styles are wanted. Where the text itself ends all styles, its style starts
again. -/
def paint (styled : Bool) (style : Style) (text : String) : String :=
  if styled then
    style.start ++ text.replace Style.finish (Style.finish ++ style.start) ++ Style.finish
  else text

/-- Whether a variable is set, and not to zero. -/
def isOn (environment : Environment) (name : String) : Bool :=
  (environment.value? name).any (· != "0")

/-- Whether styles are wanted. They can be forced and forbidden, and are used on a terminal
otherwise. -/
def wantsStyle (environment : Environment) (terminal : Bool) : Bool :=
  if isOn environment "CLICOLOR_FORCE" then true
  else if (environment.value? "NO_COLOR").isSome then false
  else terminal && (environment.value? "CLICOLOR").all (· != "0")

end Provision.Command
