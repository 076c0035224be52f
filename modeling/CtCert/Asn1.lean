import Mathlib.Data.List.Basic
/-!
# What the certificate API reads out of the ASN.1 layer

`ct.crypto.cert` never parses bytes itself: `x509.Certificate.decode` and the
per-extension decoders of `ct.crypto.asn1` do, and they are not part of this
model. This module fixes the values the API reads from them: object
identifiers, general names, the decoded payloads of the nine extensions the
accessors query, one certificate extension, and the errors the module raises.
The decoder chooses the type of an extension's payload from its identifier;
an `Extension` carries that as its field `decoded_fits`.
-/

namespace CtCert

/-- An ASN.1 OBJECT IDENTIFIER, by its arcs. -/
structure ObjectIdentifier where
  arcs : List Nat
deriving DecidableEq, Repr

/-- The octets of an ASN.1 string, or of an encoded value the API passes through unread. -/
abbrev ByteString := List UInt8

/-! ## The identifiers `cert.py` takes from `ct.crypto.asn1.oid` -/

namespace Oid

/-- Modelled from the spec: `oid.ID_CE_SUBJECT_ALT_NAME`, the standard id-ce 17. -/
def idCeSubjectAltName : ObjectIdentifier := ⟨[2, 5, 29, 17]⟩

/-- Modelled from the spec: `oid.ID_CE_BASIC_CONSTRAINTS`, the standard id-ce 19. -/
def idCeBasicConstraints : ObjectIdentifier := ⟨[2, 5, 29, 19]⟩

/-- Modelled from the spec: `oid.ID_CE_KEY_USAGE`, the standard id-ce 15. -/
def idCeKeyUsage : ObjectIdentifier := ⟨[2, 5, 29, 15]⟩

/-- Modelled from the spec: `oid.ID_CE_EXT_KEY_USAGE`, the standard id-ce 37. -/
def idCeExtKeyUsage : ObjectIdentifier := ⟨[2, 5, 29, 37]⟩

/-- Modelled from the spec: `oid.ID_CE_SUBJECT_KEY_IDENTIFIER`, the standard id-ce 14. -/
def idCeSubjectKeyIdentifier : ObjectIdentifier := ⟨[2, 5, 29, 14]⟩

/-- Modelled from the spec: `oid.ID_CE_AUTHORITY_KEY_IDENTIFIER`, the standard id-ce 35. -/
def idCeAuthorityKeyIdentifier : ObjectIdentifier := ⟨[2, 5, 29, 35]⟩

/-- Modelled from the spec: `oid.ID_CE_CERTIFICATE_POLICIES`, the standard id-ce 32. -/
def idCeCertificatePolicies : ObjectIdentifier := ⟨[2, 5, 29, 32]⟩

/-- Modelled from the spec: `oid.ID_CE_CRL_DISTRIBUTION_POINTS`, the standard id-ce 31. -/
def idCeCrlDistributionPoints : ObjectIdentifier := ⟨[2, 5, 29, 31]⟩

/-- Modelled from the spec: `oid.ID_PE_AUTHORITY_INFO_ACCESS`, the standard id-pe 1. -/
def idPeAuthorityInfoAccess : ObjectIdentifier := ⟨[1, 3, 6, 1, 5, 5, 7, 1, 1]⟩

/-- Modelled from the spec: `oid.ID_AD_CA_ISSUERS`, the standard id-ad 2. -/
def idAdCaIssuers : ObjectIdentifier := ⟨[1, 3, 6, 1, 5, 5, 7, 48, 2]⟩

/-- Modelled from the spec: `oid.ID_AD_OCSP`, the standard id-ad 1. -/
def idAdOcsp : ObjectIdentifier := ⟨[1, 3, 6, 1, 5, 5, 7, 48, 1]⟩

end Oid

open Oid

/-! ## General names -/

/-- The alternatives of the `GeneralName` CHOICE, as `component_key()` names them
(`x509_name.OTHER_NAME` .. `x509_name.REGISTERED_ID_NAME`). -/
inductive GeneralNameType
  | otherName
  | rfc822Name
  | dNSName
  | x400Address
  | directoryName
  | ediPartyName
  | uniformResourceIdentifier
  | iPAddress
  | registeredID
deriving DecidableEq, Repr

/-- A decoded `GeneralName`: the chosen alternative and its value. -/
structure GeneralName where
  componentKey : GeneralNameType
  componentValue : ByteString
deriving DecidableEq, Repr

/-! ## Decoded extension payloads -/

/-- `BasicConstraints`: `cA` has a DEFAULT, `pathLenConstraint` is OPTIONAL. -/
structure BasicConstraints where
  cA : Bool
  pathLenConstraint : Option Nat
deriving DecidableEq, Repr

/-- The named bits of `x509_extension.KeyUsage`. -/
inductive KeyUsageBit
  | digitalSignature
  | nonRepudiation
  | keyEncipherment
  | dataEncipherment
  | keyAgreement
  | keyCertSign
  | cRLSign
  | encipherOnly
  | decipherOnly
deriving DecidableEq, Repr

/-- The bit position a named key usage stands for (its `.value`). -/
def KeyUsageBit.value : KeyUsageBit → Nat
  | .digitalSignature => 0
  | .nonRepudiation => 1
  | .keyEncipherment => 2
  | .dataEncipherment => 3
  | .keyAgreement => 4
  | .keyCertSign => 5
  | .cRLSign => 6
  | .encipherOnly => 7
  | .decipherOnly => 8

/-- The named bits in the order the ASN.1 type lists them. -/
def KeyUsageBit.all : List KeyUsageBit :=
  [.digitalSignature, .nonRepudiation, .keyEncipherment, .dataEncipherment, .keyAgreement,
    .keyCertSign, .cRLSign, .encipherOnly, .decipherOnly]

/-- A decoded `KeyUsage` BIT STRING, bit 0 first. -/
structure KeyUsage where
  bits : List Bool
deriving DecidableEq, Repr

/-- Modelled from the spec: `KeyUsage.has_bit_set`; a bit past the end of the string is unset. -/
def KeyUsage.hasBitSet (ku : KeyUsage) (value : Nat) : Bool :=
  ku.bits.getD value false

/-- Modelled from the spec: `KeyUsage.bits_set`, the named usages whose bit is set. -/
def KeyUsage.bitsSet (ku : KeyUsage) : List KeyUsageBit :=
  KeyUsageBit.all.filter fun b => ku.hasBitSet b.value

/-- The components of `AuthorityKeyIdentifier` (`x509_ext.KEY_IDENTIFIER` and the two others). -/
inductive AuthorityKeyIdentifierComponent
  | keyIdentifier
  | authorityCertIssuer
  | authorityCertSerialNumber
deriving DecidableEq, Repr

/-- The value of one `AuthorityKeyIdentifier` component; each component has its own type. -/
inductive AuthorityKeyIdentifierValue
  | keyIdentifier (kid : ByteString)
  | authorityCertIssuer (names : List GeneralName)
  | authorityCertSerialNumber (serial : Int)
deriving DecidableEq, Repr

/-- `AuthorityKeyIdentifier`, its three OPTIONAL components. -/
structure AuthorityKeyIdentifier where
  keyIdentifier : Option ByteString
  authorityCertIssuer : Option (List GeneralName)
  authorityCertSerialNumber : Option Int
deriving DecidableEq, Repr

/-- `akid[identifier_type]`: the component, or `none` when it is absent. -/
def AuthorityKeyIdentifier.get (akid : AuthorityKeyIdentifier) :
    AuthorityKeyIdentifierComponent → Option AuthorityKeyIdentifierValue
  | .keyIdentifier => akid.keyIdentifier.map .keyIdentifier
  | .authorityCertIssuer => akid.authorityCertIssuer.map .authorityCertIssuer
  | .authorityCertSerialNumber => akid.authorityCertSerialNumber.map .authorityCertSerialNumber

/-- One `PolicyInformation` of a `CertificatePolicies` list. -/
structure PolicyInformation where
  policyIdentifier : ObjectIdentifier
  policyQualifiers : Option (List ByteString)
deriving DecidableEq, Repr

/-- One `DistributionPoint`; the API hands these out whole and reads none of their fields. -/
structure DistributionPoint where
  encoded : ByteString
deriving DecidableEq, Repr

/-- One `AccessDescription` of an `AuthorityInfoAccess` list. -/
structure AccessDescription where
  accessMethod : ObjectIdentifier
  accessLocation : GeneralName
deriving DecidableEq, Repr

/-- A `decoded_value`: the payload of one extension as the per-extension decoder returns it.
`other` stands for the decoded payloads of extensions no accessor reads. -/
inductive ExtensionValue
  | generalNames (names : List GeneralName)
  | basicConstraints (bc : BasicConstraints)
  | keyUsage (ku : KeyUsage)
  | extKeyUsage (usages : List ObjectIdentifier)
  | keyIdentifier (kid : ByteString)
  | authorityKeyIdentifier (akid : AuthorityKeyIdentifier)
  | certificatePolicies (policies : List PolicyInformation)
  | crlDistributionPoints (points : List DistributionPoint)
  | authorityInfoAccess (descriptions : List AccessDescription)
  | other
deriving DecidableEq, Repr

/-- The decoder's choice of payload type for the nine identifiers the accessors query. -/
def ExtensionValue.fits (v : ExtensionValue) (extnID : ObjectIdentifier) : Bool :=
  if extnID = idCeSubjectAltName then v matches .generalNames _
  else if extnID = idCeBasicConstraints then v matches .basicConstraints _
  else if extnID = idCeKeyUsage then v matches .keyUsage _
  else if extnID = idCeExtKeyUsage then v matches .extKeyUsage _
  else if extnID = idCeSubjectKeyIdentifier then v matches .keyIdentifier _
  else if extnID = idCeAuthorityKeyIdentifier then v matches .authorityKeyIdentifier _
  else if extnID = idCeCertificatePolicies then v matches .certificatePolicies _
  else if extnID = idCeCrlDistributionPoints then v matches .crlDistributionPoints _
  else if extnID = idPeAuthorityInfoAccess then v matches .authorityInfoAccess _
  else true

/-! The projections an accessor applies to the value it resolved. On a value that
`fits` the accessor's identifier only the first case is reached; the second is
there because a Lean function is total. -/

def ExtensionValue.toGeneralNames : ExtensionValue → List GeneralName
  | .generalNames names => names
  | _ => []

def ExtensionValue.toBasicConstraints : ExtensionValue → BasicConstraints
  | .basicConstraints bc => bc
  | _ => ⟨false, none⟩

def ExtensionValue.toKeyUsage : ExtensionValue → KeyUsage
  | .keyUsage ku => ku
  | _ => ⟨[]⟩

def ExtensionValue.toExtKeyUsage : ExtensionValue → List ObjectIdentifier
  | .extKeyUsage usages => usages
  | _ => []

def ExtensionValue.toKeyIdentifier : ExtensionValue → ByteString
  | .keyIdentifier kid => kid
  | _ => []

def ExtensionValue.toAuthorityKeyIdentifier : ExtensionValue → AuthorityKeyIdentifier
  | .authorityKeyIdentifier akid => akid
  | _ => ⟨none, none, none⟩

def ExtensionValue.toCertificatePolicies : ExtensionValue → List PolicyInformation
  | .certificatePolicies policies => policies
  | _ => []

def ExtensionValue.toCrlDistributionPoints : ExtensionValue → List DistributionPoint
  | .crlDistributionPoints points => points
  | _ => []

def ExtensionValue.toAuthorityInfoAccess : ExtensionValue → List AccessDescription
  | .authorityInfoAccess descriptions => descriptions
  | _ => []

theorem ExtensionValue.eq_generalNames_of_fits {v : ExtensionValue}
    (h : v.fits idCeSubjectAltName) : v = .generalNames v.toGeneralNames := by
  cases v <;> first | rfl | exact absurd h Bool.false_ne_true

/-- One entry of `tbsCertificate.extensions`: its `extnID` and the `decoded_value` of its
`extnValue`, `none` when the payload's type is unrecognised or the payload does not parse.
The `critical` flag is never read. -/
structure Extension where
  extnID : ObjectIdentifier
  decodedValue : Option ExtensionValue
  decoded_fits : decodedValue.all (·.fits extnID) = true

theorem Extension.fits_of_decodedValue {e : Extension} {v : ExtensionValue}
    (h : e.decodedValue = some v) : v.fits e.extnID := by
  simpa [h] using e.decoded_fits

/-! ## Errors -/

/-- `error.ASN1Error`, raised by the decoder and by `Certificate.__init__`. -/
structure ASN1Error where
  msg : String
deriving DecidableEq, Repr

/-- `pem.PemError`, raised by the PEM framer. -/
structure PemError where
  msg : String
deriving DecidableEq, Repr

/-- The `CertificateError`s the extension accessors raise. -/
inductive CertificateError
  | multipleExtensionValues
  | corruptExtension (extn_id : ObjectIdentifier)
  | policyAssertedMoreThanOnce (policy_oid : ObjectIdentifier)
deriving DecidableEq, Repr

/-- The message of each error, given how the ASN.1 layer prints an identifier. -/
def CertificateError.message (str : ObjectIdentifier → String) : CertificateError → String
  | .multipleExtensionValues => "Multiple extension values"
  | .corruptExtension extn_id => "Corrupt or unrecognized extension: " ++ str extn_id
  | .policyAssertedMoreThanOnce policy_oid =>
      "Policy " ++ str policy_oid ++ " asserted more than once"

/-- `error.ASN1Error("Multiple extensions")`, the strict-mode rejection of a repeated identifier. -/
def ASN1Error.multipleExtensions : ASN1Error := ⟨"Multiple extensions"⟩

end CtCert
