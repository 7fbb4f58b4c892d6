import UpnpAv.Url.Address
import UpnpAv.Url.Domain

/-!
# Checking absolute locators

A locator is accepted when it has a scheme and, where its scheme asks for one,
a well-formed authority.  The rest of a locator is never a reason to refuse it.
-/

namespace UpnpAv
namespace Url

/-- Why a locator is refused. -/
inductive Error where
  | noScheme
  | emptyHost
  | badPort
  | badAddress4
  | badAddress6
  | badOpaqueHost
  | badDomain
deriving Repr, DecidableEq

/-- The text of a refusal. -/
def Error.message : Error -> String
  | noScheme => "relative URL without a base"
  | emptyHost => "empty host"
  | badPort => "invalid port number"
  | badAddress4 => "invalid IPv4 address"
  | badAddress6 => "invalid IPv6 address"
  | badOpaqueHost => "invalid domain character"
  | badDomain => "invalid international domain name"

/-! # Schemes -/

/-- What a scheme asks of the text after its colon. -/
inductive Kind where
  /-- Slashes, then an authority. -/
  | special
  /-- Perhaps a host, after two slashes. -/
  | file
  /-- Perhaps an opaque authority, after two slashes. -/
  | other
deriving Repr, DecidableEq

/-- The kind of a scheme written in small letters. -/
def Kind.ofScheme (scheme : String) : Kind :=
  if scheme = "file" then file
  else if scheme ∈ ["http", "https", "ws", "wss", "ftp"] then special
  else other

/-- Whether a character may follow the first letter of a scheme. -/
def isSchemeChar (c : Char) : Bool :=
  c.isAlphanum || c = '+' || c = '-' || c = '.'

/-- The scheme of a locator in small letters, and the text after its colon. -/
def scheme? (text : List Char) : Option (String × List Char) :=
  match text with
  | [] => none
  | first :: _ =>
      if !first.isAlpha then none
      else
        match text.dropWhile isSchemeChar with
        | ':' :: rest => some (String.ofList (Text.lowered (text.takeWhile isSchemeChar)), rest)
        | _ => none

/-- Whether a character is a control or a blank, which do not count at the ends of a locator. -/
def isEdge (c : Char) : Bool :=
  c.toNat ≤ 0x20

/-- The characters of a locator that count. -/
def significant (text : List Char) : List Char :=
  let trimmed := ((text.dropWhile isEdge).reverse.dropWhile isEdge).reverse
  trimmed.filter fun c => !(c = '\t' || c = '\n' || c = '\r')

/-! # Hosts -/

/-- The value of a hexadecimal digit. -/
def nibble? (byte : UInt8) : Option UInt8 :=
  let c := Char.ofNat byte.toNat
  if isDigitOf 16 c then some (UInt8.ofNat (digitOf c)) else none

/-- Bytes with the percent escapes replaced by the bytes they stand for. -/
def percentDecoded : List UInt8 -> List UInt8
  | [] => []
  | [a] => [a]
  | [a, b] => [a, b]
  | a :: b :: c :: rest =>
      if a = 0x25 then
        match nibble? b, nibble? c with
        | some high, some low => (high * 16 + low) :: percentDecoded rest
        | _, _ => a :: percentDecoded (b :: c :: rest)
      else a :: percentDecoded (b :: c :: rest)

/-- Whether a character may not stand in a domain. -/
def isForbiddenInDomain (c : Char) : Bool :=
  c.toNat ≤ 0x20 || c.toNat = 0x7F || c ∈ "%#/:<>?@[\\]^|".toList

/-- Whether a character may not stand in an opaque host. -/
def isForbiddenInOpaque (c : Char) : Bool :=
  c.toNat = 0 || c ∈ "\t\n\r #/:<>?@[\\]^|".toList

/-- Check a host between brackets. -/
def checkBracketed (host : List Char) : Except Error Unit :=
  if host.getLast? = some ']' && isAddress6 (host.drop 1).dropLast then .ok ()
  else .error .badAddress6

/-- The domain that a host names after its percent escapes are replaced. -/
def domain? (host : List Char) : Option (List Char) :=
  let bytes := percentDecoded (String.ofList host).toUTF8.toList
  (String.fromUTF8? ⟨bytes.toArray⟩).bind fun text => Domain.resolved? text.toList

/-- Check a host that is a domain or an address. -/
def checkHost (host : List Char) : Except Error Unit :=
  if host.head? = some '[' then checkBracketed host
  else
    match domain? host with
    | none => .error .badDomain
    | some domain =>
        if domain.any isForbiddenInDomain then .error .badDomain
        else if domain.isEmpty then .error .emptyHost
        else if endsInNumber domain && !isAddress4 domain then .error .badAddress4
        else .ok ()

/-- Check a host that is taken as it is. -/
def checkOpaqueHost (host : List Char) : Except Error Unit :=
  if host.head? = some '[' then checkBracketed host
  else if host.any isForbiddenInOpaque then .error .badOpaqueHost
  else .ok ()

/-- The host at the start of a text, up to the colon of a port or the end of the authority. -/
def hostPart (stops : Char -> Bool) : (bracketed : Bool) -> List Char -> List Char × List Char
  | _, [] => ([], [])
  | bracketed, c :: rest =>
      if stops c || (c = ':' && !bracketed) then ([], c :: rest)
      else
        let (host, after) := hostPart stops (c = '[' || (bracketed && c ≠ ']')) rest
        (c :: host, after)

/-- Check the port at the start of a text. -/
def checkPort (text : List Char) : Except Error Unit :=
  let digits := text.takeWhile Char.isDigit
  if 65535 < Text.decimalValue digits then .error .badPort
  else
    match text.drop digits.length with
    | [] => .ok ()
    | c :: _ => if c ∈ "/\\?#".toList then .ok () else .error .badPort

/-! # Authorities -/

/-- The characters that end an authority. -/
def endsAuthority (kind : Kind) (c : Char) : Bool :=
  c = '/' || c = '?' || c = '#' || (c = '\\' && kind = .special)

/-- The credentials before the last at sign of an authority, and what follows the sign. -/
def credentials? (authority : List Char) : Option (List Char × List Char) :=
  match authority.reverse.dropWhile (· ≠ '@') with
  | [] => none
  | _ :: reversed => some (reversed.reverse, (authority.reverse.takeWhile (· ≠ '@')).reverse)

/-- Whether credentials name a user or give a password. -/
def areGiven (credentials : List Char) : Bool :=
  !(credentials.isEmpty || credentials == [':'])

/-- Check host and port, which follow the credentials. -/
def checkHostAndPort (kind : Kind) (given : Bool) (text : List Char) : Except Error Unit := do
  let (host, after) := hostPart (endsAuthority kind) false text
  if host.isEmpty && (kind = .special || after.head? = some ':') then
    throw .emptyHost
  if kind = .special then checkHost host else checkOpaqueHost host
  if after.head? = some ':' then
    checkPort (after.drop 1)
  if host.isEmpty && given then
    throw .emptyHost

/-- Check an authority and what follows it. -/
def checkAuthority (kind : Kind) (text : List Char) : Except Error Unit :=
  let authority := text.takeWhile fun c => !endsAuthority kind c
  let rest := text.dropWhile fun c => !endsAuthority kind c
  match credentials? authority with
  | none => checkHostAndPort kind false text
  | some (credentials, host) =>
      if credentials.isEmpty && host.isEmpty && !rest.isEmpty then .error .emptyHost
      else checkHostAndPort kind (areGiven credentials) (host ++ rest)

/-! # Files -/

/-- Whether a text is the letter of a drive. -/
def isDrive : List Char -> Bool
  | [letter, mark] => letter.isAlpha && (mark = ':' || mark = '|')
  | _ => false

/-- Check the host of a file locator, which stands after two slashes. -/
def checkFile : List Char -> Except Error Unit
  | first :: second :: rest =>
      if (first = '/' || first = '\\') && (second = '/' || second = '\\') then
        let host := rest.takeWhile fun c => !(c ∈ "/\\?#".toList)
        if host.isEmpty || isDrive host then .ok () else checkHost host
      else .ok ()
  | _ => .ok ()

/-! # Locators -/

/-- Check a locator. -/
def check (locator : String) : Except Error Unit :=
  match scheme? (significant locator.toList) with
  | none => .error .noScheme
  | some (scheme, rest) =>
      match Kind.ofScheme scheme with
      | .file => checkFile rest
      | .special => checkAuthority .special (rest.dropWhile fun c => c = '/' || c = '\\')
      | .other =>
          match rest with
          | '/' :: '/' :: authority => checkAuthority .other authority
          | _ => .ok ()

end Url
end UpnpAv
