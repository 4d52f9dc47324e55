import ServiceProbe.Net.Address

/-!
Server certificates and the check that one of them stands for a given name.
A name that is an address literal is looked for among the certificate's
addresses, every other name among its host names.
-/

namespace ServiceProbe.Tls

open Net

/-- How far a certificate can be trusted apart from the names in it. -/
inductive Standing where
  | trusted
  | selfSigned
  | expired
  deriving DecidableEq, Repr

structure Certificate where
  standing : Standing
  hostNames : List String
  addresses : List IpAddress
  deriving DecidableEq, Repr

inductive CertificateFault where
  | selfSigned
  | hostMismatch
  | addressMismatch
  | expired
  deriving DecidableEq, Repr

def CertificateFault.message : CertificateFault → String
  | selfSigned => "self-signed certificate"
  | hostMismatch => "hostname mismatch"
  | addressMismatch => "IP address mismatch"
  | expired => "certificate has expired"

/-- A name without regard to the case of ASCII letters. -/
def foldCase (s : List Char) : List Char := s.map Char.toLower

/-- What `*` stands for: a label of letters, digits and hyphens, or itself. -/
def isWildcardLabel (label : List Char) : Bool :=
  label == ['*'] || (!label.isEmpty && label.all fun c => c.isAlphanum || c == '-')

/-- Whether a name of a certificate covers a host name. A host name that begins
with a dot is covered by every name that ends in it. -/
def covers (name host : List Char) : Bool :=
  if 1 < host.length ∧ host.head? = some '.' then (foldCase host).isSuffixOf (foldCase name)
  else
    match name with
    | '*' :: suffix =>
      (foldCase suffix).isSuffixOf (foldCase host) &&
        isWildcardLabel (host.take (host.length - suffix.length))
    | _ => foldCase name == foldCase host

/-- The fault that the check of a certificate for a name finds first. -/
def Certificate.fault? (certificate : Certificate) (name : List Char) : Option CertificateFault :=
  if certificate.standing = .selfSigned then some .selfSigned
  else
    match IpAddress.parse? name with
    | some address =>
      if address ∉ certificate.addresses then some .addressMismatch
      else if certificate.standing = .expired then some .expired
      else none
    | none =>
      if !certificate.hostNames.any fun known => covers known.toList name then some .hostMismatch
      else if certificate.standing = .expired then some .expired
      else none

/-- Whether a name can be sent to the server before its certificate is seen:
names that are no address literal have 1 to 255 bytes. -/
def canAnnounce (name : List Char) : Bool :=
  (IpAddress.parse? name).isSome ||
    (0 < (String.ofList name).utf8ByteSize && (String.ofList name).utf8ByteSize ≤ 255)

end ServiceProbe.Tls
