import CtCert.Strict
/-!
# A strict certificate's extensions as a map

With its extension identifiers distinct, the extension list of a strict
certificate is a finite map from identifiers to extensions;
`StrictCertificate.lookup` is that map, the abstract view of what the
resolvers are for. Both resolvers are lookups in it
(`strict_resolvers_refine_lookup`), and every accessor is a function of the
map alone: two strict certificates with the same map, in particular two that
list the same extensions in another order, answer every accessor alike
(`strict_accessors_factor_through_lookup`).
-/

namespace CtCert

open Oid

namespace Certificate

/-- Every extension accessor answers the same on `c` and `c'`, for every argument. -/
def AccessorsAgree (c c' : Certificate) : Prop :=
  c.subjectAlternativeNames = c'.subjectAlternativeNames ∧
  c.subjectDnsNames = c'.subjectDnsNames ∧ c.subjectIpAddresses = c'.subjectIpAddresses ∧
  c.basicConstraintCa = c'.basicConstraintCa ∧
  c.basicConstraintPathLength = c'.basicConstraintPathLength ∧
  (∀ key_usage, c.keyUsage key_usage = c'.keyUsage key_usage) ∧ c.keyUsages = c'.keyUsages ∧
  (∀ o, c.extendedKeyUsage o = c'.extendedKeyUsage o) ∧
  c.extendedKeyUsages = c'.extendedKeyUsages ∧
  c.subjectKeyIdentifier = c'.subjectKeyIdentifier ∧
  (∀ identifier_type,
    c.authorityKeyIdentifier identifier_type = c'.authorityKeyIdentifier identifier_type) ∧
  c.policies = c'.policies ∧ (∀ o, c.policy o = c'.policy o) ∧
  (∀ o, c.hasPolicy o = c'.hasPolicy o) ∧
  c.crlDistributionPoints = c'.crlDistributionPoints ∧ c.caIssuers = c'.caIssuers ∧
  c.ocspResponders = c'.ocspResponders

/-- The accessors read a certificate only through the extensions under each identifier. -/
theorem accessorsAgree_of_matchingExtensions {c c' : Certificate}
    (h : ∀ x, c.matchingExtensions x = c'.matchingExtensions x) : c.AccessorsAgree c' := by
  have hvals : ∀ x, c.getDecodedExtensionValues x = c'.getDecodedExtensionValues x := fun x => by
    simp only [getDecodedExtensionValues, h]
  have hval : ∀ x, c.getDecodedExtensionValue x = c'.getDecodedExtensionValue x := fun x => by
    simp only [getDecodedExtensionValue, hvals]
  simp only [AccessorsAgree, subjectAlternativeNames, subjectDnsNames, subjectIpAddresses,
    getSubjectAltNamesByType, basicConstraintCa, basicConstraintPathLength, basicConstraint,
    keyUsage, keyUsages, extendedKeyUsage, extendedKeyUsages, subjectKeyIdentifier,
    authorityKeyIdentifier, policies, policy, hasPolicy, crlDistributionPoints, caIssuers,
    ocspResponders, accessLocations, hvals, hval, and_self, implies_true]

end Certificate

namespace StrictCertificate

variable (s : StrictCertificate) (x : ObjectIdentifier)

/-- The extension `s` carries under `x`. -/
def lookup : Option Extension :=
  s.cert.extns.find? (·.extnID = x)

theorem matchingExtensions_eq_lookup : s.cert.matchingExtensions x = (s.lookup x).toList := by
  have hlen := s.matchingExtensions_length_le_one x
  have hhead : (s.cert.matchingExtensions x).head? = s.lookup x := List.filter_head? _ _
  generalize s.cert.matchingExtensions x = M at hlen hhead
  rcases M with _ | ⟨e, _ | ⟨e', M⟩⟩
  · simp [← hhead]
  · simp [← hhead]
  · simp at hlen

theorem matchingExtensions_eq_of_perm {s s' : StrictCertificate}
    (h : s.cert.extns.Perm s'.cert.extns) :
    s.cert.matchingExtensions x = s'.cert.matchingExtensions x := by
  have hperm : (s.cert.matchingExtensions x).Perm (s'.cert.matchingExtensions x) := h.filter _
  have hlen := s.matchingExtensions_length_le_one x
  generalize s.cert.matchingExtensions x = M at hperm hlen
  rcases M with _ | ⟨e, _ | ⟨e', M⟩⟩
  · exact (List.nil_perm.mp hperm).symm
  · exact List.singleton_perm.mp hperm
  · simp at hlen

end StrictCertificate

/-- On a strict certificate both resolvers are lookups in the extension map: no extension under
`x` gives nothing, an extension whose payload did not decode raises the corrupt-extension error,
and a decoded payload is returned alone. -/
theorem strict_resolvers_refine_lookup (s : StrictCertificate) (x : ObjectIdentifier) :
    s.cert.getDecodedExtensionValues x =
      (match s.lookup x with
        | none => .ok []
        | some e => match e.decodedValue with
          | none => .error (.corruptExtension x)
          | some v => .ok [v]) ∧
    s.cert.getDecodedExtensionValue x =
      (match s.lookup x with
        | none => .ok none
        | some e => match e.decodedValue with
          | none => .error (.corruptExtension x)
          | some v => .ok (some v)) := by
  rw [Certificate.getDecodedExtensionValue_eq, Certificate.getDecodedExtensionValues_eq,
    s.matchingExtensions_eq_lookup]
  rcases s.lookup x with _ | e
  · exact ⟨rfl, rfl⟩
  · cases hv : e.decodedValue <;> simp [hv, Except.bind]

/-- Every accessor of a strict certificate is a function of its extension map: two strict
certificates carrying the same extension under every identifier, and in particular two listing
the same extensions in different orders, answer every accessor alike. -/
theorem strict_accessors_factor_through_lookup (s s' : StrictCertificate) :
    ((∀ x, s.lookup x = s'.lookup x) → s.cert.AccessorsAgree s'.cert) ∧
    (s.cert.extns.Perm s'.cert.extns → s.cert.AccessorsAgree s'.cert) := by
  refine ⟨fun h => Certificate.accessorsAgree_of_matchingExtensions fun x => ?_,
    fun h => Certificate.accessorsAgree_of_matchingExtensions fun x =>
      StrictCertificate.matchingExtensions_eq_of_perm x h⟩
  rw [s.matchingExtensions_eq_lookup, s'.matchingExtensions_eq_lookup, h]

/-- A basic-constraints extension for a CA without a path length. -/
def caBasicConstraints : Extension :=
  ⟨idCeBasicConstraints, some (.basicConstraints ⟨true, none⟩), by decide⟩

/-- A key-usage extension asserting `keyCertSign`. -/
def certSignKeyUsage : Extension :=
  ⟨idCeKeyUsage, some (.keyUsage ⟨[false, false, false, false, false, true]⟩), by decide⟩

/-- A CA certificate listing its basic constraints, then its key usage. -/
def caThenKeyUsage : X509Certificate :=
  ⟨⟨⟨.ok newYear2024, .ok newYear2025⟩, some [caBasicConstraints, certSignKeyUsage]⟩⟩

/-- The same two extensions in the other order. -/
def keyUsageThenCa : X509Certificate :=
  ⟨⟨⟨.ok newYear2024, .ok newYear2025⟩, some [certSignKeyUsage, caBasicConstraints]⟩⟩

theorem strict_accessors_factor_through_lookup_reordered :
    (⟨caThenKeyUsage⟩ : Certificate).extns.Perm (⟨keyUsageThenCa⟩ : Certificate).extns ∧
      (⟨caThenKeyUsage⟩ : Certificate).AccessorsAgree ⟨keyUsageThenCa⟩ :=
  ⟨List.Perm.swap _ _ _, (strict_accessors_factor_through_lookup ⟨⟨caThenKeyUsage⟩, by decide⟩
    ⟨⟨keyUsageThenCa⟩, by decide⟩).2 (List.Perm.swap _ _ _)⟩

end CtCert
