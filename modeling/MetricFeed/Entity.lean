import MetricFeed.Name
import MetricFeed.Text.Ascii
import MetricFeed.Text.Utf8

/-!
# Entities

The entity a sample belongs to is a configured name if that is usable, else its host, with `localhost` replaced by
the name of the local machine and, on request, cut to its first label.
-/

namespace MetricFeed

/-- What asking the machine for its name gives. -/
inductive HostAnswer where
  | name (bytes : List UInt8)
  | failed (reason : String)
  deriving DecidableEq

namespace HostAnswer

/-- The most bytes of a name the lookup has room for. -/
def room : Nat := 256

/-- The name of the local machine: the bytes up to the first NUL, read as text. -/
def localName : HostAnswer → Except NameError String
  | .failed reason => .error (.hostname reason)
  | .name bytes =>
    let name := Text.lossy ((bytes.take room).takeWhile (· ≠ 0))
    if name.isEmpty then .error (.hostname "empty hostname") else .ok name

end HostAnswer

namespace Entity

/-- `localhost`, or a name that starts with `localhost.`, in any case. -/
def isLocalhost (host : String) : Bool :=
  Text.eqIgnoreCase host "localhost" || Text.startsIgnoreCase host "localhost."

/-- A configured name is used unless it is empty or holds a space. -/
def usable (name : String) : Bool :=
  !name.isEmpty && !name.toList.contains ' '

/-- The characters before the first dot that is not the first character. -/
def firstLabel : List Char → List Char
  | [] => []
  | c :: cs => c :: cs.takeWhile (· ≠ '.')

def shorten (host : String) : String :=
  String.ofList (firstLabel host.toList)

/-- The entity of a host. -/
def ofHost (answer : HostAnswer) (host : String) (short : Bool) : Except NameError String := do
  let name ← if isLocalhost host then answer.localName else .ok host
  return if short then shorten name else name

/-- The configured name if it is usable, else the entity of the host. -/
def resolve (answer : HostAnswer) (configured : Option String) (host : String) (short : Bool) :
    Except NameError String :=
  match configured.filter usable with
  | some name => .ok name
  | none => ofHost answer host short

theorem resolve_of_usable {answer : HostAnswer} {name host : String} {short : Bool} (h : usable name) :
    resolve answer (some name) host short = .ok name := by
  simp [resolve, Option.filter, h]

theorem firstLabel_no_dot (cs : List Char) : '.' ∉ (firstLabel cs).drop 1 := by
  cases cs with
  | nil => simp [firstLabel]
  | cons c cs =>
    intro h
    have := List.all_eq_true.1 (List.all_takeWhile (l := cs) (p := fun c => c ≠ '.')) '.' h
    simp at this

end Entity

end MetricFeed
