import ContractQuery.Http.Host

/-!
# Addresses on the web

* `Url.join` puts a path under a base address. There is one slash between them, however many the
  base ends with (`Url.base` takes these off) and the path begins with.
* `Url.isUsable` says whether a request can be sent to an address: it names the scheme `http` or
  `https`, a host, and a port only if that is one. Blanks and controls around an address, tabs and
  line ends within it, and the number of slashes after the scheme do not matter.
-/

namespace ContractQuery

namespace Url

/-! ## 1. Bases and paths -/

/-- A text without the slashes it begins with. -/
def dropSlashes (text : List Char) : List Char := text.dropWhile (· = '/')

/-- A base address without the slashes it ends with. -/
def base (url : String) : String := String.ofList (dropSlashes url.toList.reverse).reverse

/-- The address of a path under a base. -/
def join (base path : String) : String :=
  base ++ "/" ++ String.ofList (dropSlashes path.toList)

/-! ## 2. The parts of an address -/

/-- The address without blanks and controls around it, and without tabs and line ends. -/
def clean (url : List Char) : List Char :=
  let isOutside (c : Char) := c.toNat ≤ 0x20
  ((url.dropWhile isOutside).reverse.dropWhile isOutside).reverse.filter fun c =>
    c ≠ '\t' && c ≠ '\n' && c ≠ '\r'

/-- The scheme of an address in lower case, and what follows its colon. -/
def scheme? (url : List Char) : Option (List Char × List Char) :=
  let name := url.takeWhile (· ≠ ':')
  let isSchemeChar (c : Char) := c.isAlphanum || c = '+' || c = '-' || c = '.'
  match name, url.dropWhile (· ≠ ':') with
  | first :: _, _ :: rest =>
    if first.isAlpha && name.all isSchemeChar then some (name.map Char.toLower, rest) else none
  | _, _ => none

/-- The character parts a host from a path. -/
def isSlash (c : Char) : Bool := c = '/' || c = '\\'

/-- What names the host and the port: from after the slashes up to the path, without a user. -/
def authority (rest : List Char) : List Char :=
  let named := (rest.dropWhile isSlash).takeWhile fun c => !isSlash c && c ≠ '?' && c ≠ '#'
  if named.contains '@' then (named.reverse.takeWhile (· ≠ '@')).reverse else named

/-- The host, and the port after a colon that is not in brackets. -/
def hostAndPort (inBrackets : Bool) : List Char → List Char × Option (List Char)
  | [] => ([], none)
  | ':' :: rest =>
    if inBrackets then
      let (host, port) := hostAndPort true rest
      (':' :: host, port)
    else ([], some rest)
  | c :: rest =>
    let (host, port) := hostAndPort (c = '[' || (inBrackets && c ≠ ']')) rest
    (c :: host, port)

/-- The text is the number of a port, or empty. -/
def isPort (text : List Char) : Bool :=
  text.all Char.isDigit && (Host.number? 10 text).any (· ≤ 65535)

/-- A request can be sent to the address. -/
def isUsable (url : String) : Bool :=
  match scheme? (clean url.toList) with
  | some (scheme, rest) =>
    let (host, port) := hostAndPort false (authority rest)
    (scheme = "http".toList || scheme = "https".toList) && Host.isHost host && port.all isPort
  | none => false

end Url

end ContractQuery
