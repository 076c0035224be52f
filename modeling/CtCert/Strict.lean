import CtCert.Accessors
/-!
# Strict construction

`Certificate.__init__` explains its duplicate check: "a certificate decoded in
strict mode should never raise CertificateErrors later on". This module states
what strict construction does guarantee. The check makes every extension
identifier unique, so the singular resolver can no longer report an ambiguity
(`strict_certificates_never_ambiguous`); if moreover every extension the
accessors read was decoded, which the comment says strict decoding ensures,
the accessors raise nothing but the repeated-policy error of `policy`. That
error is still reachable: strict decoding does not look inside a policies list.
-/

namespace CtCert

open Oid

/-- A certificate whose extension identifiers are pairwise distinct, as strict
construction leaves it. -/
structure StrictCertificate where
  cert : Certificate
  extnID_nodup : (cert.extns.map (·.extnID)).Nodup

namespace Certificate

/-- The identifiers the accessors resolve. -/
def accessorOids : List ObjectIdentifier :=
  [idCeSubjectAltName, idCeBasicConstraints, idCeKeyUsage, idCeExtKeyUsage,
    idCeSubjectKeyIdentifier, idCeAuthorityKeyIdentifier, idCeCertificatePolicies,
    idCeCrlDistributionPoints, idPeAuthorityInfoAccess]

/-- What the constructor's comment relies on: every extension with an identifier the
accessors read carries a decoded value. -/
def DecodesAccessorExtensions (c : Certificate) : Prop :=
  ∀ e ∈ c.extns, e.extnID ∈ accessorOids → e.decodedValue.isSome

/-- No extension accessor of `c` raises `err`, for any argument. -/
def AccessorsNeverRaise (c : Certificate) (err : CertificateError) : Prop :=
  c.subjectAlternativeNames ≠ .error err ∧ c.subjectDnsNames ≠ .error err ∧
  c.subjectIpAddresses ≠ .error err ∧ c.basicConstraintCa ≠ .error err ∧
  c.basicConstraintPathLength ≠ .error err ∧ (∀ key_usage, c.keyUsage key_usage ≠ .error err) ∧
  c.keyUsages ≠ .error err ∧ (∀ o, c.extendedKeyUsage o ≠ .error err) ∧
  c.extendedKeyUsages ≠ .error err ∧ c.subjectKeyIdentifier ≠ .error err ∧
  (∀ identifier_type, c.authorityKeyIdentifier identifier_type ≠ .error err) ∧
  c.policies ≠ .error err ∧ (∀ o, c.policy o ≠ .error err) ∧ (∀ o, c.hasPolicy o ≠ .error err) ∧
  c.crlDistributionPoints ≠ .error err ∧ c.caIssuers ≠ .error err ∧ c.ocspResponders ≠ .error err

theorem bind_pure_ne_error {ε α β : Type} {r : Except ε α} {f : α → β} {err : ε}
    (h : r ≠ .error err) : (r >>= fun a => pure (f a)) ≠ .error err := by
  cases r <;> simp_all

/-- An accessor raises only what its resolver raises, apart from `policy`'s own error. -/
theorem accessorsNeverRaise_of_resolvers {c : Certificate} {err : CertificateError}
    (hsan : c.getDecodedExtensionValues idCeSubjectAltName ≠ .error err)
    (hone : ∀ x ∈ accessorOids, c.getDecodedExtensionValue x ≠ .error err)
    (hpolicy : ∀ o, err ≠ .policyAssertedMoreThanOnce o) : c.AccessorsNeverRaise err := by
  have hone' : ∀ x, x ∈ accessorOids → c.getDecodedExtensionValue x ≠ .error err := hone
  simp only [accessorOids, List.mem_cons, List.mem_singleton, List.not_mem_nil, or_false,
    forall_eq_or_imp, forall_eq] at hone'
  obtain ⟨-, hbc, hku, heku, hkid, hakid, hpol, hcrl, haia⟩ := hone'
  have hpolicies : c.policies ≠ .error err := bind_pure_ne_error hpol
  have hpolicy' : ∀ o, c.policy o ≠ .error err := fun o h =>
    ((policy_eq_error c o).mp h).elim hpolicies fun h => hpolicy o h.1
  exact ⟨bind_pure_ne_error hsan, bind_pure_ne_error hsan, bind_pure_ne_error hsan,
    bind_pure_ne_error hbc, bind_pure_ne_error hbc, fun _ => bind_pure_ne_error hku,
    bind_pure_ne_error hku, fun _ => bind_pure_ne_error heku, bind_pure_ne_error heku,
    bind_pure_ne_error hkid, fun _ => bind_pure_ne_error hakid, hpolicies, hpolicy',
    fun o => bind_pure_ne_error (hpolicy' o), bind_pure_ne_error hcrl, bind_pure_ne_error haia,
    bind_pure_ne_error haia⟩

theorem init_strict_nodup {decode : ByteString → Bool → Except ASN1Error X509Certificate}
    {der_string : ByteString} {c : Certificate} (h : init decode der_string true = .ok c) :
    (c.extns.map (·.extnID)).Nodup :=
  (hasMultipleExtensionValues_eq_false c).mp (init_eq_ok.mp h |>.2 rfl)

end Certificate

namespace StrictCertificate

variable (s : StrictCertificate) (x : ObjectIdentifier)

theorem matchingExtensions_length_le_one : (s.cert.matchingExtensions x).length ≤ 1 :=
  (Certificate.nodup_extnID_iff s.cert).mp s.extnID_nodup x

theorem getDecodedExtensionValues_length_le_one {vs : List ExtensionValue}
    (h : s.cert.getDecodedExtensionValues x = .ok vs) : vs.length ≤ 1 :=
  Certificate.length_of_getDecodedExtensionValues_eq_ok s.cert x h ▸
    s.matchingExtensions_length_le_one x

theorem getDecodedExtensionValue_ne_multiple :
    s.cert.getDecodedExtensionValue x ≠ .error .multipleExtensionValues := by
  intro h
  have := ((Certificate.getDecodedExtensionValue_eq_multiple s.cert x).mp h).1
  have := s.matchingExtensions_length_le_one x
  omega

end StrictCertificate

/-- `anyPolicy`, 2.5.29.32.0. -/
def anyPolicy : ObjectIdentifier := ⟨[2, 5, 29, 32, 0]⟩

/-- A certificate whose one extension lists `anyPolicy` twice. A SEQUENCE OF `PolicyInformation`
is valid DER whatever its entries repeat, so strict decoding returns it. -/
def repeatedPolicyCertificate : X509Certificate :=
  ⟨⟨⟨.ok newYear2024, .ok newYear2025⟩,
    some [⟨idCeCertificatePolicies,
      some (.certificatePolicies [⟨anyPolicy, none⟩, ⟨anyPolicy, none⟩]), by decide⟩]⟩⟩

theorem repeatedPolicyCertificate_decoded :
    (⟨repeatedPolicyCertificate⟩ : Certificate).DecodesAccessorExtensions := by
  unfold Certificate.DecodesAccessorExtensions
  decide

/-- Strict construction rejects exactly the certificates whose extension identifiers repeat,
and what it accepts can never make an accessor report an ambiguity. -/
theorem strict_certificates_never_ambiguous :
    (∀ c : Certificate, c.hasMultipleExtensionValues = false ↔ (c.extns.map (·.extnID)).Nodup) ∧
    (∀ c : Certificate, c.hasMultipleExtensionValues = false ↔
      ∀ x, (c.matchingExtensions x).length ≤ 1) ∧
    ∀ decode der_string c, Certificate.init decode der_string true = .ok c →
      (∀ x, (∀ vs, c.getDecodedExtensionValues x = .ok vs → vs.length ≤ 1) ∧
        c.getDecodedExtensionValue x ≠ .error .multipleExtensionValues) ∧
      c.AccessorsNeverRaise .multipleExtensionValues ∧
      ∀ names, c.subjectAlternativeNames = .ok names →
        names = [] ∨ ∃ e ∈ c.extns, e.extnID = idCeSubjectAltName ∧
          e.decodedValue = some (.generalNames names) := by
  refine ⟨Certificate.hasMultipleExtensionValues_eq_false, fun c =>
    (c.hasMultipleExtensionValues_eq_false).trans c.nodup_extnID_iff, ?_⟩
  intro decode der_string c h
  let s : StrictCertificate := ⟨c, Certificate.init_strict_nodup h⟩
  refine ⟨fun x => ⟨fun _ => s.getDecodedExtensionValues_length_le_one x,
    s.getDecodedExtensionValue_ne_multiple x⟩, ?_, ?_⟩
  · exact Certificate.accessorsNeverRaise_of_resolvers
      (by simp [Certificate.getDecodedExtensionValues_eq_error])
      (fun x _ => s.getDecodedExtensionValue_ne_multiple x) (fun _ => by simp)
  · intro names hnames
    rw [Certificate.subjectAlternativeNames_eq] at hnames
    obtain ⟨vs, hvs, rfl⟩ := except_map_eq_ok.mp hnames
    rcases vs with _ | ⟨v, _ | ⟨v', vs⟩⟩
    · exact .inl rfl
    · obtain ⟨e, hM, hv⟩ := (Certificate.getDecodedExtensionValues_eq_ok_singleton c _).mp hvs
      have he := (c.mem_matchingExtensions _).mp (hM ▸ List.mem_singleton_self e)
      have hfit : v = .generalNames v.toGeneralNames :=
        ExtensionValue.eq_generalNames_of_fits (he.2 ▸ e.fits_of_decodedValue hv)
      refine .inr ⟨e, he.1, he.2, ?_⟩
      simpa [hv] using hfit
    · have := s.getDecodedExtensionValues_length_le_one _ hvs
      simp at this

/-- A CA certificate with four extensions under four identifiers: basic constraints, key usage
asserting `keyCertSign`, one DNS name, and the `anyPolicy` policy. -/
def caCertificate : X509Certificate :=
  ⟨⟨⟨.ok newYear2024, .ok newYear2025⟩, some
    [⟨idCeBasicConstraints, some (.basicConstraints ⟨true, none⟩), by decide⟩,
      ⟨idCeKeyUsage, some (.keyUsage ⟨[false, false, false, false, false, true]⟩), by decide⟩,
      ⟨idCeSubjectAltName, some (.generalNames [⟨.dNSName, [97, 46, 99, 111, 109]⟩]), by decide⟩,
      ⟨idCeCertificatePolicies, some (.certificatePolicies [⟨anyPolicy, none⟩]), by decide⟩]⟩⟩

theorem strict_certificates_never_ambiguous_ca_certificate :
    Certificate.init (fun _ _ => .ok caCertificate) [] true = .ok ⟨caCertificate⟩ ∧
      (⟨caCertificate⟩ : Certificate).AccessorsNeverRaise .multipleExtensionValues ∧
      ∀ names, (⟨caCertificate⟩ : Certificate).subjectAlternativeNames = .ok names →
        names = [] ∨ ∃ e ∈ (⟨caCertificate⟩ : Certificate).extns,
          e.extnID = idCeSubjectAltName ∧ e.decodedValue = some (.generalNames names) :=
  ⟨rfl, (strict_certificates_never_ambiguous.2.2 (fun _ _ => .ok caCertificate) []
    ⟨caCertificate⟩ rfl).2⟩

/-- Strict construction with every read extension decoded: the accessors raise nothing but
`policy`'s repeated-policy error. -/
theorem strict_decoded_accessors_raise_only_repeated_policy
    {decode : ByteString → Bool → Except ASN1Error X509Certificate} {der_string : ByteString}
    {c : Certificate} (h : Certificate.init decode der_string true = .ok c)
    (hdec : c.DecodesAccessorExtensions) :
    ∀ err, (∀ o, err ≠ .policyAssertedMoreThanOnce o) → c.AccessorsNeverRaise err := by
  let s : StrictCertificate := ⟨c, Certificate.init_strict_nodup h⟩
  have hvals : ∀ x ∈ Certificate.accessorOids, ∀ err, c.getDecodedExtensionValues x ≠ .error err := by
    intro x hx err herr
    obtain ⟨-, e, he, hnone⟩ := (Certificate.getDecodedExtensionValues_eq_error c x).mp herr
    rw [Certificate.mem_matchingExtensions] at he
    simpa [hnone] using hdec e he.1 (he.2 ▸ hx)
  intro err hpol
  refine Certificate.accessorsNeverRaise_of_resolvers
    (hvals _ (by simp [Certificate.accessorOids]) err) (fun x hx herr => ?_) hpol
  rcases (Certificate.getDecodedExtensionValue_eq_error c x).mp herr with herr' | ⟨rfl, -⟩
  · exact hvals x hx err herr'
  · exact s.getDecodedExtensionValue_ne_multiple x herr

theorem strict_decoded_accessors_raise_only_repeated_policy_corrupt :
    (⟨repeatedPolicyCertificate⟩ : Certificate).DecodesAccessorExtensions ∧
      (⟨repeatedPolicyCertificate⟩ : Certificate).AccessorsNeverRaise
        (.corruptExtension idCeCertificatePolicies) :=
  ⟨repeatedPolicyCertificate_decoded, @strict_decoded_accessors_raise_only_repeated_policy
    (fun _ _ => .ok repeatedPolicyCertificate) [] _ rfl repeatedPolicyCertificate_decoded _
    (fun _ => by simp)⟩

/-- The constructor's promise fails on `repeatedPolicyCertificate`: it is accepted in strict mode
with every extension decoded, and `policy` and `has_policy` still raise. -/
theorem strict_certificate_raises_on_repeated_policy :
    Certificate.init (fun _ _ => .ok repeatedPolicyCertificate) [] true =
        .ok ⟨repeatedPolicyCertificate⟩ ∧
      (⟨repeatedPolicyCertificate⟩ : Certificate).DecodesAccessorExtensions ∧
      (⟨repeatedPolicyCertificate⟩ : Certificate).policy anyPolicy =
        .error (.policyAssertedMoreThanOnce anyPolicy) ∧
      (⟨repeatedPolicyCertificate⟩ : Certificate).hasPolicy anyPolicy =
        .error (.policyAssertedMoreThanOnce anyPolicy) :=
  ⟨rfl, repeatedPolicyCertificate_decoded, rfl, rfl⟩

end CtCert
