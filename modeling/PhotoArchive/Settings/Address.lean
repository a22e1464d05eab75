import PhotoArchive.Settings
import PhotoArchive.Text.Percent

/-!
# The address of the database

The parts of an address are told apart by the characters between them, wherever these come from: in
`user:password@host:port/name?options` a user, password or host with a colon, a slash, an at sign or a
question mark shifts where the parts end.

## Main definitions

- `Address` — what stands in the place of the port and of the options
- `Address.ofChars` — the parts of an address
- `DatabaseSettings.address` — the parts of the address of the database
-/

namespace PhotoArchive

/-- Options with their values, in the order in which they are given. -/
abbrev Options := List (String × String)

/-- The values of an option. -/
def Options.values (options : Options) (name : String) : List String :=
  options.filterMap fun option => if option.1 = name then some option.2 else none

/-- The options in a text that separates them by ampersands. An option is a name and a value, both in
percent-encoded text with plus signs for blanks. One without a value does not count. -/
def Options.ofChars (cs : List Char) : Options :=
  let decoded (cs : List Char) : String :=
    Text.percentDecoded (cs.map fun c => if c = '+' then ' ' else c)
  (cs.splitOn '&').filterMap fun option =>
    match option.dropWhile (· ≠ '=') with
    | _ :: value =>
      if value.isEmpty then none else some (decoded (option.takeWhile (· ≠ '=')), decoded value)
    | [] => none

/-- What stands in an address in the place of the port, and of the options. -/
structure Address where
  port : Option String
  options : Options
  deriving DecidableEq, Repr

namespace Address

/-- What is behind the last character of a kind, if there is one. -/
def behindLast? (c : Char) (cs : List Char) : Option (List Char) :=
  if cs.contains c then some (cs.reverse.takeWhile (· ≠ c)).reverse else none

/-- A character of a user. -/
def isOfUser (c : Char) : Bool := c != ':' && c != '/'

/-- A character of a place, which is a host and a port. -/
def isOfPlace (c : Char) : Bool := c != '/' && c != '?'

/-- What is behind the user and the password: the first at sign behind the colon that ends the user,
or else the last one in the user. -/
def behindUser (cs : List Char) : List Char :=
  let user := cs.takeWhile isOfUser
  let rest := cs.dropWhile isOfUser
  let behindPassword := if rest.head? = some ':' then rest.dropWhile (· ≠ '@') else []
  match behindPassword with
  | _ :: behind => behind
  | [] =>
    match behindLast? '@' user with
    | some behind => behind ++ rest
    | none => cs

/-- What is behind the host. A host may stand in brackets; then it may have colons. -/
def behindHost (cs : List Char) : List Char :=
  let isOfHost (c : Char) : Bool := isOfPlace c && c != ':'
  match cs with
  | '[' :: first :: rest =>
    let inside := if isOfPlace first then rest.takeWhile isOfPlace else []
    match behindLast? ']' inside with
    | some behind => behind ++ rest.dropWhile isOfPlace
    | none => cs.dropWhile isOfHost
  | _ => cs.dropWhile isOfHost

/-- What is behind the place and the name of the database, from a question mark on. -/
def behindName (cs : List Char) : List Char :=
  match cs with
  | '/' :: rest => rest.dropWhile (· ≠ '?')
  | _ => cs

/-- The parts of an address without its scheme. Options end with their line. -/
def ofChars (cs : List Char) : Address :=
  let place := behindHost (behindUser cs)
  let (port, rest) := match place with
    | ':' :: rest => (some (String.ofList (rest.takeWhile isOfPlace)), rest.dropWhile isOfPlace)
    | _ => (none, place)
  let options := match behindName rest with
    | '?' :: rest => Options.ofChars (rest.takeWhile (· ≠ '\n'))
    | _ => []
  { port, options }

end Address

/-- The parts of the address of the database. -/
def DatabaseSettings.address (s : DatabaseSettings) : Address := .ofChars s.place.toList

example : (Address.ofChars "u:p@h:5432/d".toList).port = some "5432" := by decide
example : (Address.ofChars "u:p@ss:w/rd@h:5432/d".toList).port = some "w" := by decide
example : (Address.ofChars "u:p@[::1]:7/d".toList).port = some "7" := by decide
example : (Address.ofChars "u:p@h:1/d?a=x+y&b=&a=z".toList).options = [("a", "x y"), ("a", "z")] := by
  cbv

end PhotoArchive
