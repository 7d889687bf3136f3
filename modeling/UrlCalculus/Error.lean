import UrlCalculus.Spec

/-!
# Errors

An evaluation fails for one of five causes. Each cause is a constructor, and its wording is in
`message` alone.

## Long texts

Texts are taken to be shorter than 4 GiB. A URL that grows beyond that, where it is read or where a
part of it is changed, would be refused with `UrlError.overflow`; no function of this library counts
so far, and none of them returns that error.
-/

namespace UrlCalculus

/-- Why a text is not a URL. -/
inductive UrlError where
  | emptyHost
  | idna
  | invalidPort
  | invalidIpv4Address
  | invalidIpv6Address
  | invalidDomainCharacter
  | relativeUrlWithoutBase
  | relativeUrlWithRootlessBase
  | hostOnRootlessUrl
  /-- The URL is too long; see the remark on long texts. -/
  | overflow
deriving DecidableEq

namespace UrlError

def message : UrlError → String
  | .emptyHost => "empty host"
  | .idna => "invalid international domain name"
  | .invalidPort => "invalid port number"
  | .invalidIpv4Address => "invalid IPv4 address"
  | .invalidIpv6Address => "invalid IPv6 address"
  | .invalidDomainCharacter => "invalid domain character"
  | .relativeUrlWithoutBase => "relative URL without a base"
  | .relativeUrlWithRootlessBase => "relative URL with a cannot-be-a-base base"
  | .hostOnRootlessUrl => "a cannot-be-a-base URL doesn’t have a host to set"
  | .overflow => "URLs more than 4 GB are not supported"

end UrlError

/-- An argument that does not have the type of its parameter. -/
structure ArgumentError where
  operation : String
  /-- The parameter, followed by the path to the fault inside its argument. -/
  parameter : String
  expected : String
  found : Kind
deriving DecidableEq

namespace ArgumentError

def message (e : ArgumentError) : String :=
  "invalid argument '" ++ e.parameter ++ "' for " ++ e.operation ++ ": expected " ++ e.expected ++
    ", found " ++ e.found.name

end ArgumentError

inductive Error where
  | argument (error : ArgumentError)
  /-- A set of URL fields names neither a host nor a hostname. -/
  | missingHost
  | url (error : UrlError)
  | invalidExpression (reason : String)
  | depthExceeded (limit : Nat)
deriving DecidableEq

namespace Error

def missingHostMessage : String := "Either host or hostname must be provided"

def message : Error → String
  | .argument e => e.message
  | .missingHost => missingHostMessage
  | .url e => "invalid URL: " ++ e.message
  | .invalidExpression reason => "invalid expression: " ++ reason
  | .depthExceeded limit => "expression nesting exceeds maximum depth " ++ toString limit

/-- The message of the underlying cause, where there is one. -/
def cause? : Error → Option String
  | .argument e => some e.message
  | .missingHost => some missingHostMessage
  | .url e => some e.message
  | .invalidExpression _ => none
  | .depthExceeded _ => none

def isArgumentError : Error → Bool
  | .argument _ => true
  | _ => false

end Error

/-- Check an argument; the error names the parameter and the path below it. -/
def Spec.checkArgument (s : Spec) (operation parameter : String) (value : Option Value) :
    Except ArgumentError Unit :=
  (s.check value).mapError fun m ↦
    { operation
      parameter := m.path.foldl (fun name key ↦ name ++ "." ++ key) parameter
      expected := m.expected.label
      found := m.found }

end UrlCalculus
