import CtCert.Reader
/-!
# Reading and writing one certificate

`from_pem` and `from_pem_file` read one PEM block with the framer's
single-block reader and hand its blob to `from_der`, as `from_der_file` hands
it the file's bytes; `to_der` and `to_pem` write the certificate back with the
ASN.1 encoder and the PEM writer. None of these collaborators is modelled: each
is a parameter, and the round trip below assumes of them only the round trip
each one is written for. What it shows is the constructor's part: a
certificate read leniently comes back from its own encoding, but strict
reading, the default, gives it back only when its extension identifiers are
distinct.
-/

namespace CtCert

namespace Certificate

/-- `Certificate.from_pem(pem_string, strict_der)` over the framer `pem.from_pem`, which returns
the first block's blob and label or raises a `PemError`. -/
def fromPem (from_pem : String → List String → Except PemError (ByteString × String))
    (decode : ByteString → Bool → Except ASN1Error X509Certificate) (pem_string : String)
    (strict_der : Bool := true) : Except CertsError Certificate := do
  let (der_cert, _) ← (from_pem pem_string pemMarkers).mapError .pem
  (fromDer decode der_cert strict_der).mapError .asn1

/-- `Certificate.from_pem_file(pem_file, strict_der)` over the framer `pem.from_pem_file`. -/
def fromPemFile (from_pem_file : String → List String → Except PemError (ByteString × String))
    (decode : ByteString → Bool → Except ASN1Error X509Certificate) (pem_file : String)
    (strict_der : Bool := true) : Except CertsError Certificate := do
  let (der_cert, _) ← (from_pem_file pem_file pemMarkers).mapError .pem
  (fromDer decode der_cert strict_der).mapError .asn1

/-- `Certificate.from_der_file(der_file, strict_der)`, with `read` for opening the file and
reading it whole; an `IOError` is not modelled. -/
def fromDerFile (read : String → ByteString)
    (decode : ByteString → Bool → Except ASN1Error X509Certificate) (der_file : String)
    (strict_der : Bool := true) : Except ASN1Error Certificate :=
  fromDer decode (read der_file) strict_der

/-- `to_der`, with the ASN.1 encoder `x509.Certificate.encode`. -/
def toDer (encode : X509Certificate → ByteString) (c : Certificate) : ByteString :=
  encode c.asn1Cert

/-- `to_pem`: `pem.to_pem(self._asn1_cert.encode(), self.PEM_MARKERS[0])`. -/
def toPem (to_pem : ByteString → String → String) (encode : X509Certificate → ByteString)
    (c : Certificate) : String :=
  to_pem (encode c.asn1Cert) (pemMarkers.get ⟨0, by decide⟩)

/-- `is_identical_to(other_cert)`: the two DER encodings are equal. -/
def isIdenticalTo (encode : X509Certificate → ByteString) (c other_cert : Certificate) : Bool :=
  decide (c.toDer encode = other_cert.toDer encode)

/-- Reading a certificate back from what `to_der` and `to_pem` write, given an ASN.1 codec that
decodes what it encodes and a PEM reader that returns the blob `to_pem` wrapped: leniently it
always comes back; strictly it comes back exactly when its extension identifiers are distinct,
and otherwise reading raises "Multiple extensions"; and `from_pem` of `to_pem` reads as
`from_der` of `to_der`. -/
theorem read_after_write (decode : ByteString → Bool → Except ASN1Error X509Certificate)
    (encode : X509Certificate → ByteString) (c : Certificate)
    (hcodec : ∀ strict_der, decode (encode c.asn1Cert) strict_der = .ok c.asn1Cert)
    (from_pem : String → List String → Except PemError (ByteString × String))
    (to_pem : ByteString → String → String)
    (hpem : from_pem (to_pem (encode c.asn1Cert) "CERTIFICATE") pemMarkers =
      .ok (encode c.asn1Cert, "CERTIFICATE")) :
    fromDer decode (c.toDer encode) false = .ok c ∧
    (fromDer decode (c.toDer encode) true = .ok c ↔ (c.extns.map (·.extnID)).Nodup) ∧
    (¬(c.extns.map (·.extnID)).Nodup →
      fromDer decode (c.toDer encode) true = .error .multipleExtensions) ∧
    ∀ strict_der, fromPem from_pem decode (c.toPem to_pem encode) strict_der =
      (fromDer decode (c.toDer encode) strict_der).mapError .asn1 := by
  refine ⟨init_eq_ok.mpr ⟨hcodec false, nofun⟩, ?_, fun hdup => ?_, fun strict_der => ?_⟩
  · rw [fromDer, init_eq_ok, ← hasMultipleExtensionValues_eq_false]
    simp [toDer, hcodec]
  · rw [← hasMultipleExtensionValues_eq_false, Bool.not_eq_false] at hdup
    exact init_eq_error.mpr (.inr ⟨rfl, rfl, c.asn1Cert, hcodec true, hdup⟩)
  · simp only [fromPem, toPem, toDer]
    rw [show pemMarkers.get ⟨0, by decide⟩ = "CERTIFICATE" from rfl, hpem]
    rfl

/-- A certificate carrying the same basic-constraints extension twice, as lenient decoding
accepts it. -/
def duplicatedBasicConstraints : X509Certificate :=
  ⟨⟨⟨.ok newYear2024, .ok newYear2025⟩, some
    [⟨Oid.idCeBasicConstraints, some (.basicConstraints ⟨true, none⟩), by decide⟩,
      ⟨Oid.idCeBasicConstraints, some (.basicConstraints ⟨true, none⟩), by decide⟩]⟩⟩

theorem read_after_write_duplicated :
    fromDer (fun _ _ => .ok duplicatedBasicConstraints) ([] : ByteString) false =
        .ok ⟨duplicatedBasicConstraints⟩ ∧
      fromDer (fun _ _ => .ok duplicatedBasicConstraints) ([] : ByteString) true =
        .error .multipleExtensions :=
  have h := read_after_write (fun _ _ => .ok duplicatedBasicConstraints) (fun _ => [])
    ⟨duplicatedBasicConstraints⟩ (fun _ => rfl) (fun _ _ => .ok ([], "CERTIFICATE"))
    (fun _ _ => "") rfl
  ⟨h.1, h.2.2.1 (by decide)⟩

end Certificate

end CtCert
