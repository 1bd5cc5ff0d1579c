import Wayland.Text.Number

/-!
Contract: addresses at which a service listens.

Owns: the division of an address into host and port, which ports there are, and which hosts are
no names or are other machines.

Does not own: whether a host with a name exists.
-/

namespace Wayland.Settings

open Wayland.Text (natOfDigits? splitChars)

/-- Why nothing can listen at an address. -/
inductive AddressProblem where
  | missingPort (address : String)
  | tooManyColons (address : String)
  | unclosedBracket (address : String)
  | strayOpening (address : String)
  | strayClosing (address : String)
  | invalidPort (port : String)
  | unknownPort (port : String)
  /-- A host that is neither a number nor a name. -/
  | noHost (host : String)
  /-- The number of another machine. -/
  | elsewhere (host : String) (port : Nat)
deriving DecidableEq, Repr

def AddressProblem.text : AddressProblem → String
  | .missingPort address => "listen tcp: address " ++ address ++ ": missing port in address"
  | .tooManyColons address => "listen tcp: address " ++ address ++ ": too many colons in address"
  | .unclosedBracket address => "listen tcp: address " ++ address ++ ": missing ']' in address"
  | .strayOpening address => "listen tcp: address " ++ address ++ ": unexpected '[' in address"
  | .strayClosing address => "listen tcp: address " ++ address ++ ": unexpected ']' in address"
  | .invalidPort port => "listen tcp: address " ++ port ++ ": invalid port"
  | .unknownPort port => "listen tcp: lookup tcp/" ++ port ++ ": unknown port"
  | .noHost host => "listen tcp: lookup " ++ host ++ ": no such host"
  | .elsewhere host port =>
      "listen tcp " ++ host ++ ":" ++ toString port ++ ": bind: cannot assign requested address"

def namedPorts : List (String × Nat) :=
  [("domain", 53), ("ftp", 21), ("ftps", 990), ("gopher", 70), ("http", 80), ("https", 443),
   ("imap2", 143), ("imap3", 220), ("imaps", 993), ("pop3", 110), ("pop3s", 995), ("smtp", 25),
   ("submission", 587), ("submissions", 465), ("ssh", 22), ("telnet", 23)]

/-- The number of a port after the digits that gave `value`, in 32 bits.  From `2 ^ 30` on,
and where a digit exceeds 32 bits, what follows no longer counts.  `none` if a character is no
digit. -/
def portNumber?
    (value : Nat) :
    List Char → Option Nat
  | [] => some value
  | char :: rest =>
      if !char.isDigit then none
      else
        let next := value * 10 % Nat.pow 2 32 + (char.toNat - '0'.toNat)
        if Nat.pow 2 30 ≤ value || Nat.pow 2 32 ≤ next then some (Nat.pow 2 32 - 1)
        else portNumber? next rest

/-- The number of a port.  An empty port is 0, which leaves the choice to the machine. -/
def readPort
    (port : List Char) :
    Except AddressProblem Nat :=
  let text := String.ofList port
  let digits := match port with
    | '+' :: rest => rest
    | '-' :: rest => rest
    | _ => port
  match portNumber? 0 digits with
  | none =>
      match namedPorts.lookup (String.ofList (port.map Char.toLower)) with
      | some value => .ok value
      | none => .error (.unknownPort text)
  | some value =>
      if value = 0 then .ok 0
      else if port.head? == some '-' || 65535 < value then .error (.invalidPort text)
      else .ok value

/-- The value of one of the four parts of a host number: at most 255, without leading zeros. -/
def hostPart?
    (part : List Char) :
    Option Nat :=
  if part.isEmpty || !part.all Char.isDigit || 3 < part.length then none
  else if part.head? == some '0' && 1 < part.length then none
  else (natOfDigits? 10 part).filter (· ≤ 255)

/-- The four parts of a host number, if the host is one. -/
def hostNumber?
    (host : List Char) :
    Option (List Nat) :=
  match (splitChars '.' host).map hostPart? with
  | [some first, some second, some third, some fourth] => some [first, second, third, fourth]
  | _ => none

/-- Whether a host number is that of the machine itself, of all its addresses or of a group. -/
def isHere : List Nat → Bool
  | [0, 0, 0, 0] => true
  | first :: rest => first == 127 || (224 ≤ first && first < 240)
      || (first :: rest).all (· == 255)
  | [] => false

def isHostChar
    (char : Char) :
    Bool :=
  char.isAlphanum || char == '_' || char == '-'

/-- Whether characters between dots may be part of the name of a host. -/
def isHostLabel
    (label : List Char) :
    Bool :=
  label.all isHostChar && label.length ≤ 63 && !label.isEmpty
    && label.head? != some '-' && label.getLast? != some '-'

/-- Whether a host has the form of a name: parts between dots, not all of them numbers.  A dot may
stand at its end. -/
def isHostName
    (host : List Char) :
    Bool :=
  let labels := splitChars '.' host
  let parts := if labels.getLast? == some [] then labels.dropLast else labels
  host == ['.']
    || (parts.all isHostLabel && !parts.isEmpty
      && host.any (fun char => isHostChar char && !char.isDigit)
      && (host.length ≤ 253 || (host.length = 254 && host.getLast? == some '.')))

/-- What is wrong with a host.  Hosts with colons are left to the machine. -/
def hostProblem?
    (host : List Char)
    (port : Nat) :
    Option AddressProblem :=
  if host.isEmpty || host.contains ':' then none
  else
    match hostNumber? host with
    | some number => if isHere number then none else some (.elsewhere (String.ofList host) port)
    | none => if isHostName host then none else some (.noHost (String.ofList host))

/-- What is wrong with a host and a port, the port first. -/
def endpointProblem?
    (host port : List Char) :
    Option AddressProblem :=
  match readPort port with
  | .error problem => some problem
  | .ok number => hostProblem? host number

/-- What is wrong with an address whose host stands between brackets; the characters are those after
the opening one. -/
def bracketedProblem?
    (address : String)
    (chars : List Char) :
    Option AddressProblem :=
  let host := chars.takeWhile (· != ']')
  match chars.dropWhile (· != ']') with
  | [] => some (.unclosedBracket address)
  | _ :: ':' :: port =>
      if port.contains ':' then some (.tooManyColons address)
      else if host.contains '[' || port.contains '[' then some (.strayOpening address)
      else if port.contains ']' then some (.strayClosing address)
      else endpointProblem? host port
  | _ => some (.missingPort address)

/-- What is wrong with an address: a host, which may be empty or between brackets, a colon and a
port. -/
def addressProblem?
    (address : String) :
    Option AddressProblem :=
  let chars := address.toList
  if !chars.contains ':' then some (.missingPort address)
  else
    match chars with
    | '[' :: rest => bracketedProblem? address rest
    | _ =>
        let port := (chars.reverse.takeWhile (· != ':')).reverse
        let host := chars.takeWhile (· != ':')
        if 1 < chars.count ':' then some (.tooManyColons address)
        else if chars.contains '[' then some (.strayOpening address)
        else if chars.contains ']' then some (.strayClosing address)
        else endpointProblem? host port

end Wayland.Settings
