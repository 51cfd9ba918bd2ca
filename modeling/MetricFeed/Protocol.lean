import MetricFeed.Text.Ascii
import MetricFeed.Text.Blank

/-!
# Protocols and ports

A destination is reached by TCP or UDP at a port, which is given by number or by the name of a service.
-/

namespace MetricFeed

inductive Protocol where
  | tcp
  | udp
  deriving DecidableEq

namespace Protocol

def name : Protocol → String
  | .tcp => "tcp"
  | .udp => "udp"

/-- The word that is looked up for a text. -/
def word (s : String) : String :=
  Text.lower (Text.trim s)

/-- The protocol of that name, ignoring case and blanks around it. -/
def ofText? (s : String) : Option Protocol :=
  if word s = "tcp" then some .tcp
  else if word s = "udp" then some .udp
  else none

/-- What is said about a text that names no protocol. -/
def unknown (s : String) : String :=
  "unknown protocol '" ++ word s ++ "' (expected tcp or udp)"

end Protocol

/-- Ports by the name of their service; the first entry of a name holds. -/
abbrev Services := List (String × Nat)

namespace Services

def maxPort : Nat := 65535

/-- A decimal number that is a port, with an optional plus sign. -/
def number? (s : String) : Option Nat :=
  let digits := match s.toList with
    | '+' :: cs => cs
    | cs => cs
  if digits.isEmpty || !digits.all Char.isDigit then none
  else
    let n := Nat.ofDigitChars 10 digits 0
    if n ≤ maxPort then some n else none

/-- The port a text stands for: a number, or the name of a service. -/
def port? (services : Services) (s : String) : Option Nat :=
  (number? s).or (services.lookup s)

end Services

end MetricFeed
