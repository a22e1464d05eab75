import PhotoArchive.Settings.Address
import PhotoArchive.Text.Digit
import PhotoArchive.Text.Quoted

/-!
# What an address of a database may say

The port of an address has to be a number, and some of its options have a meaning: more hosts and
ports, an extension of the driver, and one of its settings. Other options are left to the database.

## Main definitions

- `AddressError` — why an address cannot be used
- `Address.check` — whether it can

## Design notes

Hosts and ports are given in one of two ways: several hosts with their ports behind colons, one by
one, or a list of hosts beside a list of ports. A single host may do both: the port beside it counts.
-/

namespace PhotoArchive

/-- Why the address of a database cannot be used. -/
inductive AddressError where
  /-- Something that is no number stands in the place of the port. -/
  | port
  /-- There is no such extension. -/
  | extension (name : String)
  /-- Every host in a list of hosts has several ports. -/
  | severalPorts
  /-- The hosts and the ports in the options do not fit together. -/
  | hosts
  /-- An option cannot have the value that it has. -/
  | option (name : String)
  /-- An option that has one value is given several ones. -/
  | repeated (name : String)
  deriving DecidableEq, Repr

/-- The error in words. -/
def AddressError.message : AddressError → String
  | port => "the port of the database is no number"
  | extension name => "there is no extension " ++ Text.quoted name ++ " of the database driver"
  | severalPorts => "a host of the database has several ports"
  | hosts => "the hosts and ports of the database do not fit together"
  | option name => "the option " ++ Text.quoted name ++ " of the database has a wrong value"
  | repeated name => "the option " ++ Text.quoted name ++ " of the database is given several times"

namespace Address

/-- The pieces of a text between the characters of a kind. -/
def pieces (c : Char) (s : String) : List String := (s.toList.splitOn c).map String.ofList

/-- A character of a host that may have a port behind a colon. -/
def isOfPlainHost (c : Char) : Bool := c.isAlphanum || c = '-' || c = '.'

/-- The hosts in some options, and the texts in the place of their ports if these stand behind
colons. -/
def hosts (options : Options) : Except AddressError (List String × List String) :=
  match options.values "host" with
  | [] => .ok ([], [])
  | [list] =>
    match (pieces ',' list).map (pieces ':') with
    | [[host, port]] =>
      if host.toList.all isOfPlainHost && port.toList.all Text.isDecimalDigit then
        .ok ([host], [port])
      else .ok ([list], [])
    | _ => .ok (pieces ',' list, [])
  | several =>
    let hosts := several.map (pieces ':')
    if hosts.all (2 < ·.length) then .error .severalPorts
    else .ok (hosts.map (·.headD ""), hosts.map (·.getD 1 ""))

/-- The texts in the place of the ports, given those behind the colons of hosts: several of these
cannot go with ports beside the hosts. -/
def ports (options : Options) (ofHosts : List String) : Except AddressError (List String) :=
  let beside := options.values "port"
  if beside.isEmpty then .ok ofHosts
  else if 1 < ofHosts.length then .error .hosts
  else
    match beside with
    | [list] => .ok (pieces ',' list)
    | _ => .ok beside

/-- The port that a text stands for; the empty text stands for none. -/
def port? (text : String) : Except AddressError (Option Int) :=
  if text.isEmpty then .ok none
  else
    match Text.wholeNumber? text with
    | some n => .ok (some n)
    | none => .error .hosts

/-- Several hosts all need a name and a port of their own. -/
def checkHosts (options : Options) : Except AddressError Unit := do
  let (hosts, ofHosts) ← hosts options
  let ports ← (← ports options ofHosts).mapM port?
  if ports ≠ [] ∧ ports.length ≠ max 1 hosts.length then throw .hosts
  let isComplete := hosts.all (!·.isEmpty) && ports ≠ [] && ports.all fun p => p.any (· ≠ 0)
  if 1 < hosts.length ∧ !isComplete then throw .hosts

/-- How many prepared statements are kept, if that is said, is a number. -/
def checkCacheSize (options : Options) : Except AddressError Unit :=
  let name := "prepared_statement_cache_size"
  match options.values name with
  | [] => .ok ()
  | [value] => if (Text.wholeNumber? value).isSome then .ok () else .error (.option name)
  | _ => .error (.repeated name)

/-- Whether an address can be used. The port is looked at first, then the options. -/
def check (a : Address) : Except AddressError Unit := do
  match a.port with
  | some text => if (Text.wholeNumber? text).isNone then throw .port
  | none => pure ()
  match a.options.values "plugin" with
  | name :: _ => throw (.extension name)
  | [] => checkHosts a.options
  checkCacheSize a.options

end Address

end PhotoArchive
