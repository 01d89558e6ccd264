import Autostart.Text.Chars
import Autostart.Url.Domain
import Autostart.Url.Fault
import Autostart.Url.Percent

/-!
# Hosts of URLs

A host is an address of version 4 or 6 of the Internet protocol, or a name. Only the empty host and
the host `localhost` matter for the path of a file, but a host that has not the form of any of these
is a fault of the URL.
-/

namespace Autostart.Url

/-- The host of a URL. -/
inductive Host where
  /-- No host. -/
  | empty
  /-- A host with a name. -/
  | named (name : String)
  /-- A host with an address. -/
  | address
deriving DecidableEq, Repr

/-- Whether a character is a hexadecimal digit. -/
def isHex (c : Char) : Bool :=
  (Digits.digit? c).isSome

/-- The number that a part of an IPv4 address writes in base 10, after `0x` in base 16, or after `0`
in base 8. -/
def ipv4Number? : List Char → Option Nat
  | [] => none
  | ['0'] => some 0
  | '0' :: x :: digits =>
    if x = 'x' ∨ x = 'X' then
      if digits.isEmpty then some 0 else Digits.number? 16 digits
    else Digits.number? 8 (x :: digits)
  | digits => Digits.number? 10 digits

/-- The parts of a host between its dots, without an empty last one. -/
def hostParts (cs : List Char) : List (List Char) :=
  let parts := Chars.splitAll '.' cs
  if parts.length ≠ 1 ∧ parts.getLast? = some [] then parts.dropLast else parts

/-- Whether the last part of a host is a number, so that the host must be an IPv4 address. -/
def endsInNumber (cs : List Char) : Bool :=
  match (hostParts cs).getLast? with
  | none | some [] => false
  | some last => last.all Char.isDigit || (ipv4Number? last).isSome

/-- Whether a host is an IPv4 address of up to four numbers. All but the last are bytes, and the
last fills the bytes that are left. -/
def isIpv4 (cs : List Char) : Bool :=
  let parts := hostParts cs
  match (parts.map ipv4Number?).reverse with
  | some last :: before =>
    parts.length ≤ 4 && last < Nat.pow 256 (4 - before.length) &&
      before.all fun n => n.any (· ≤ 255)
  | _ => false

/-- Whether a text is an IPv4 address of four bytes in base 10, as at the end of an IPv6 address. -/
def isDottedQuad (cs : List Char) : Bool :=
  let parts := Chars.splitAll '.' cs
  parts.length = 4 && parts.all fun part =>
    (part.length = 1 || part.head? ≠ some '0') && part.length ≤ 3 &&
      (Digits.number? 10 part).any (· ≤ 255)

/-- Whether a text can follow `pieces` pieces of an IPv6 address, of which the gap may be one. -/
def isIpv6After (pieces : Nat) (gap : Bool) (cs : List Char) : Bool :=
  match cs with
  | [] => gap || pieces == 8
  | ':' :: rest => pieces != 8 && !gap && isIpv6After (pieces + 1) true rest
  | c :: more =>
    let digits := ((c :: more).take 4).takeWhile isHex
    let rest := (c :: more).drop digits.length
    pieces != 8 &&
      if _ : digits.length = 0 then false
      else
        match _ : rest with
        | [] => gap || pieces == 7
        | '.' :: _ => pieces ≤ 6 && isDottedQuad (c :: more) && (gap || pieces == 6)
        | ':' :: after => !after.isEmpty && isIpv6After (pieces + 1) gap after
        | _ => false
termination_by cs.length
decreasing_by
  · simp
  · rename_i hrest
    have h := congrArg List.length hrest
    simp only [rest, List.length_drop, List.length_cons] at h ⊢
    omega

/-- Whether the text between the brackets of a host is an IPv6 address. -/
def isIpv6 : List Char → Bool
  | ':' :: ':' :: rest => isIpv6After 1 true rest
  | ':' :: _ => false
  | [_] => false
  | cs => isIpv6After 0 false cs

/-- The host that stands in brackets. -/
def bracketedHost (cs : List Char) : Except Fault Host :=
  match cs.getLast? with
  | some ']' => if isIpv6 cs.tail.dropLast then .ok .address else .error .invalidIpv6
  | _ => .error .invalidIpv6

/-- The host that a text names under a scheme with rules of its own: an address or a domain name.
Percent escapes are resolved. -/
def Host.ofName (cs : List Char) : Except Fault Host :=
  if cs.head? = some '[' then bracketedHost cs
  else
    match (Utf8.decode? (decodedBytes cs)).bind fun name => Domain.name? name.toList with
    | none => .error .invalidDomain
    | some [] => .error .emptyHost
    | some name =>
      if endsInNumber name then
        if isIpv4 name then .ok .address else .error .invalidIpv4
      else .ok (.named (String.ofList name))

/-- The host that a text names under any other scheme. -/
def Host.ofOther (cs : List Char) : Except Fault Host :=
  if cs.head? = some '[' then bracketedHost cs
  else if cs.any isForbiddenInHost then .error .invalidHostCharacter
  else if cs.isEmpty then .ok .empty
  else .ok (.named (String.ofList cs))

end Autostart.Url
