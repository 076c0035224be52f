import CtCert.Certificate
/-!
# The extension accessors

Each accessor of `Certificate` resolves one extension identifier and projects
the payload. The subject-alternative-name accessors use the plural resolver
and so tolerate repeated SAN extensions; all others use the singular one.
`accessors_of_absent` gives, for all of them at once, the value each returns
when no extension carries its identifier; `subject_alt_names_spec` states the
SAN names over the certificate's extension list and ties the two ways they are
gathered; `point_queries_agree_with_list_queries` relates the extended key
usage and policy point queries to their list queries.
-/

namespace CtCert

open Oid

/-- Python's `value or []` on an optional decoded sequence: `None` and an empty
sequence are both falsy. -/
def orEmpty {α : Type} : Option (List α) → List α
  | some xs@(_ :: _) => xs
  | _ => []

@[simp] theorem orEmpty_eq_getD {α : Type} (o : Option (List α)) : orEmpty o = o.getD [] := by
  rcases o with _ | _ | _ <;> rfl

section
variable {ε α β : Type} {r : Except ε α} {f : α → β}

@[simp] theorem except_map_eq_error {e : ε} : f <$> r = .error e ↔ r = .error e := by
  cases r <;> simp [Functor.map, Except.map]

@[simp] theorem except_map_eq_ok {b : β} : f <$> r = .ok b ↔ ∃ a, r = .ok a ∧ f a = b := by
  cases r <;> simp [Functor.map, Except.map]

end

namespace Certificate

/-! ## Subject alternative names -/

/-- `subject_alternative_names`: `sum([list(san) for san in sans], [])`. -/
def subjectAlternativeNames (c : Certificate) : Except CertificateError (List GeneralName) := do
  let sans ← c.getDecodedExtensionValues idCeSubjectAltName
  return (sans.map (·.toGeneralNames)).foldl (· ++ ·) []

/-- `_get_subject_alt_names_by_type`: the loop that extends `ret` extension by extension. -/
def getSubjectAltNamesByType (c : Certificate) (san_type : GeneralNameType) :
    Except CertificateError (List ByteString) := do
  let sans ← c.getDecodedExtensionValues idCeSubjectAltName
  return sans.foldl (fun ret san =>
    ret ++ (san.toGeneralNames.filter (·.componentKey = san_type)).map (·.componentValue)) []

/-- `subject_dns_names` -/
def subjectDnsNames (c : Certificate) : Except CertificateError (List ByteString) :=
  c.getSubjectAltNamesByType .dNSName

/-- `subject_ip_addresses` -/
def subjectIpAddresses (c : Certificate) : Except CertificateError (List ByteString) :=
  c.getSubjectAltNamesByType .iPAddress

/-! ## Basic constraints, key usage, key identifiers -/

/-- The shared body of `basic_constraint_ca` and `basic_constraint_path_length`:
`None` without the extension, else the requested component. -/
def basicConstraint {α : Type} (c : Certificate) (field : BasicConstraints → Option α) :
    Except CertificateError (Option α) := do
  let bc ← c.getDecodedExtensionValue idCeBasicConstraints
  return match bc with
    | none => none
    | some bc => field bc.toBasicConstraints

/-- `basic_constraint_ca`; `cA` has a DEFAULT and so is always there. -/
def basicConstraintCa (c : Certificate) : Except CertificateError (Option Bool) :=
  c.basicConstraint fun bc => some bc.cA

/-- `basic_constraint_path_length` -/
def basicConstraintPathLength (c : Certificate) : Except CertificateError (Option Nat) :=
  c.basicConstraint (·.pathLenConstraint)

/-- `key_usage(key_usage)` -/
def keyUsage (c : Certificate) (key_usage : KeyUsageBit) : Except CertificateError (Option Bool) := do
  let ku ← c.getDecodedExtensionValue idCeKeyUsage
  return match ku with
    | none => none
    | some ku => some (ku.toKeyUsage.hasBitSet key_usage.value)

/-- `key_usages`: `ku.bits_set() if ku else []`; an empty bit string has no bit set, so the
truthiness test agrees with the absence test. -/
def keyUsages (c : Certificate) : Except CertificateError (List KeyUsageBit) := do
  let ku ← c.getDecodedExtensionValue idCeKeyUsage
  return match ku with
    | none => []
    | some ku => ku.toKeyUsage.bitsSet

/-- `extended_key_usage(ext_key_usage)` -/
def extendedKeyUsage (c : Certificate) (ext_key_usage : ObjectIdentifier) :
    Except CertificateError (Option Bool) := do
  let eku ← c.getDecodedExtensionValue idCeExtKeyUsage
  return match eku with
    | none => none
    | some eku => some (decide (ext_key_usage ∈ eku.toExtKeyUsage))

/-- `extended_key_usages` -/
def extendedKeyUsages (c : Certificate) : Except CertificateError (List ObjectIdentifier) := do
  let eku ← c.getDecodedExtensionValue idCeExtKeyUsage
  return orEmpty (eku.map (·.toExtKeyUsage))

/-- `subject_key_identifier` -/
def subjectKeyIdentifier (c : Certificate) : Except CertificateError (Option ByteString) := do
  let kid ← c.getDecodedExtensionValue idCeSubjectKeyIdentifier
  return kid.map (·.toKeyIdentifier)

/-- `authority_key_identifier(identifier_type)`: `akid[identifier_type] if akid else None`.
Only an AKID without components could be falsy, and its components are all `None`. -/
def authorityKeyIdentifier (c : Certificate)
    (identifier_type : AuthorityKeyIdentifierComponent := .keyIdentifier) :
    Except CertificateError (Option AuthorityKeyIdentifierValue) := do
  let akid ← c.getDecodedExtensionValue idCeAuthorityKeyIdentifier
  return akid.bind (·.toAuthorityKeyIdentifier.get identifier_type)

/-! ## Policies, distribution points, authority information access -/

/-- `policies` -/
def policies (c : Certificate) : Except CertificateError (List PolicyInformation) := do
  let policies ← c.getDecodedExtensionValue idCeCertificatePolicies
  return orEmpty (policies.map (·.toCertificatePolicies))

/-- `policy(policy_oid)` -/
def policy (c : Certificate) (policy_oid : ObjectIdentifier) :
    Except CertificateError (Option PolicyInformation) := do
  let policies ← c.policies
  if policies.isEmpty then return none
  let matching := policies.filter (·.policyIdentifier = policy_oid)
  if matching.isEmpty then return none
  if matching.length > 1 then throw (.policyAssertedMoreThanOnce policy_oid)
  return matching.head?

/-- `has_policy(policy_oid)` -/
def hasPolicy (c : Certificate) (policy_oid : ObjectIdentifier) : Except CertificateError Bool := do
  return (← c.policy policy_oid).isSome

/-- `crl_distribution_points` -/
def crlDistributionPoints (c : Certificate) : Except CertificateError (List DistributionPoint) := do
  let points ← c.getDecodedExtensionValue idCeCrlDistributionPoints
  return orEmpty (points.map (·.toCrlDistributionPoints))

/-- The shared body of `ca_issuers` and `ocsp_responders`: the locations of the
Authority Information Access entries with the given access method. -/
def accessLocations (c : Certificate) (access_method : ObjectIdentifier) :
    Except CertificateError (List GeneralName) := do
  let aia ← c.getDecodedExtensionValue idPeAuthorityInfoAccess
  return match aia with
    | none => []
    | some aia =>
        (aia.toAuthorityInfoAccess.filter (·.accessMethod = access_method)).map (·.accessLocation)

/-- `ca_issuers` -/
def caIssuers (c : Certificate) : Except CertificateError (List GeneralName) :=
  c.accessLocations idAdCaIssuers

/-- `ocsp_responders` -/
def ocspResponders (c : Certificate) : Except CertificateError (List GeneralName) :=
  c.accessLocations idAdOcsp

/-! ## Absent extensions -/

/-- With no extension of its identifier, every accessor returns its absent value, for every
argument, and raises nothing. -/
theorem accessors_of_absent (c : Certificate) :
    ((c.matchingExtensions idCeSubjectAltName).length = 0 →
      c.subjectAlternativeNames = .ok [] ∧ c.subjectDnsNames = .ok [] ∧
        c.subjectIpAddresses = .ok []) ∧
    ((c.matchingExtensions idCeBasicConstraints).length = 0 →
      c.basicConstraintCa = .ok none ∧ c.basicConstraintPathLength = .ok none) ∧
    ((c.matchingExtensions idCeKeyUsage).length = 0 →
      (∀ key_usage, c.keyUsage key_usage = .ok none) ∧ c.keyUsages = .ok []) ∧
    ((c.matchingExtensions idCeExtKeyUsage).length = 0 →
      (∀ ext_key_usage, c.extendedKeyUsage ext_key_usage = .ok none) ∧
        c.extendedKeyUsages = .ok []) ∧
    ((c.matchingExtensions idCeSubjectKeyIdentifier).length = 0 →
      c.subjectKeyIdentifier = .ok none) ∧
    ((c.matchingExtensions idCeAuthorityKeyIdentifier).length = 0 →
      ∀ identifier_type, c.authorityKeyIdentifier identifier_type = .ok none) ∧
    ((c.matchingExtensions idCeCertificatePolicies).length = 0 →
      c.policies = .ok [] ∧
        ∀ policy_oid, c.policy policy_oid = .ok none ∧ c.hasPolicy policy_oid = .ok false) ∧
    ((c.matchingExtensions idCeCrlDistributionPoints).length = 0 →
      c.crlDistributionPoints = .ok []) ∧
    ((c.matchingExtensions idPeAuthorityInfoAccess).length = 0 →
      c.caIssuers = .ok [] ∧ c.ocspResponders = .ok []) := by
  refine ⟨fun h => ?_, fun h => ?_, fun h => ?_, fun h => ?_, fun h => ?_, fun h => ?_,
    fun h => ?_, fun h => ?_, fun h => ?_⟩ <;>
  obtain ⟨hs, h1⟩ := resolvers_of_length_eq_zero c _ h <;>
  simp [subjectAlternativeNames, subjectDnsNames, subjectIpAddresses, getSubjectAltNamesByType,
    basicConstraintCa, basicConstraintPathLength, basicConstraint, keyUsage, keyUsages,
    extendedKeyUsage, extendedKeyUsages, subjectKeyIdentifier, authorityKeyIdentifier, policies,
    policy, hasPolicy, crlDistributionPoints, caIssuers, ocspResponders, accessLocations, hs, h1]

/-- A certificate whose one extension is a key-usage extension that did not decode. -/
def corruptKeyUsageCertificate : X509Certificate :=
  ⟨⟨⟨.ok newYear2024, .ok newYear2025⟩, some [⟨idCeKeyUsage, none, rfl⟩]⟩⟩

theorem accessors_of_absent_beside_corrupt_key_usage :
    let c : Certificate := ⟨corruptKeyUsageCertificate⟩
    c.keyUsages = .error (.corruptExtension idCeKeyUsage) ∧
      (c.subjectAlternativeNames = .ok [] ∧ c.subjectDnsNames = .ok [] ∧
        c.subjectIpAddresses = .ok []) ∧
      (c.basicConstraintCa = .ok none ∧ c.basicConstraintPathLength = .ok none) ∧
      ((∀ ext_key_usage, c.extendedKeyUsage ext_key_usage = .ok none) ∧
        c.extendedKeyUsages = .ok []) ∧
      c.subjectKeyIdentifier = .ok none ∧
      (∀ identifier_type, c.authorityKeyIdentifier identifier_type = .ok none) ∧
      (c.policies = .ok [] ∧
        ∀ policy_oid, c.policy policy_oid = .ok none ∧ c.hasPolicy policy_oid = .ok false) ∧
      c.crlDistributionPoints = .ok [] ∧
      (c.caIssuers = .ok [] ∧ c.ocspResponders = .ok []) :=
  let h := accessors_of_absent ⟨corruptKeyUsageCertificate⟩
  ⟨rfl, h.1 rfl, h.2.1 rfl, h.2.2.2.1 rfl, h.2.2.2.2.1 rfl, h.2.2.2.2.2.1 rfl,
    h.2.2.2.2.2.2.1 rfl, h.2.2.2.2.2.2.2.1 rfl, h.2.2.2.2.2.2.2.2 rfl⟩

/-! ## The two ways of gathering subject alternative names -/

theorem foldl_append_eq_flatMap {α β : Type} (g : β → List α) :
    ∀ (l : List β) (acc : List α), l.foldl (fun ret x => ret ++ g x) acc = acc ++ l.flatMap g
  | [], acc => by simp
  | x :: l, acc => by simp [foldl_append_eq_flatMap g l]

theorem subjectAlternativeNames_eq (c : Certificate) :
    c.subjectAlternativeNames =
      (·.flatMap (·.toGeneralNames)) <$> c.getDecodedExtensionValues idCeSubjectAltName := by
  rw [subjectAlternativeNames, bind_pure_comp]
  congr 1
  funext sans
  simp [List.foldl_map, foldl_append_eq_flatMap]

/-- Each decoded SAN payload is a GeneralNames list: the decoder never puts another payload
under the SAN identifier. -/
theorem eq_generalNames_of_getDecodedExtensionValues_eq_ok (c : Certificate)
    {vs : List ExtensionValue} (h : c.getDecodedExtensionValues idCeSubjectAltName = .ok vs) :
    ∀ v ∈ vs, v = .generalNames v.toGeneralNames := by
  intro v hv
  have : some v ∈ (c.matchingExtensions idCeSubjectAltName).map (·.decodedValue) :=
    (getDecodedExtensionValues_eq_ok c _).mp h ▸ List.mem_map_of_mem _ hv
  obtain ⟨e, he, hev⟩ := List.mem_map.mp this
  have he := (c.mem_matchingExtensions _).mp he
  exact ExtensionValue.eq_generalNames_of_fits (he.2 ▸ e.fits_of_decodedValue hev)

/-- Over the certificate's extension list: the names are the GeneralNames lists of the SAN
entries concatenated in list order, every occurrence kept, and an undecoded SAN entry raises;
the accumulating loop of `_get_subject_alt_names_by_type` is the flattened list filtered by
tag. -/
theorem subject_alt_names_spec (c : Certificate) (san_type : GeneralNameType) :
    let sans := (c.asn1Cert.tbsCertificate.extensions.getD []).filter
      (·.extnID = idCeSubjectAltName)
    (∀ names, c.subjectAlternativeNames = .ok names ↔
      ∃ nss : List (List GeneralName),
        sans.map (·.decodedValue) = nss.map (fun ns => some (.generalNames ns)) ∧
          names = nss.flatten) ∧
    (∀ err, c.subjectAlternativeNames = .error err ↔
      err = .corruptExtension idCeSubjectAltName ∧ ∃ e ∈ sans, e.decodedValue = none) ∧
    c.getSubjectAltNamesByType san_type =
      (fun names => (names.filter (·.componentKey = san_type)).map (·.componentValue)) <$>
        c.subjectAlternativeNames ∧
    c.subjectDnsNames =
      (fun names => (names.filter (·.componentKey = .dNSName)).map (·.componentValue)) <$>
        c.subjectAlternativeNames ∧
    c.subjectIpAddresses =
      (fun names => (names.filter (·.componentKey = .iPAddress)).map (·.componentValue)) <$>
        c.subjectAlternativeNames := by
  intro sans
  have hsans : sans = c.matchingExtensions idCeSubjectAltName := rfl
  have by_type : ∀ t, c.getSubjectAltNamesByType t =
      (fun names => (names.filter (·.componentKey = t)).map (·.componentValue)) <$>
        c.subjectAlternativeNames := by
    intro t
    rw [subjectAlternativeNames_eq, getSubjectAltNamesByType, bind_pure_comp, Functor.map_map]
    congr 1
    funext sans
    simp [foldl_append_eq_flatMap, List.filter_flatMap, List.map_flatMap]
  refine ⟨fun names => ?_, fun err => ?_, by_type san_type, by_type _, by_type _⟩
  · rw [subjectAlternativeNames_eq, except_map_eq_ok, hsans]
    constructor
    · rintro ⟨vs, hvs, rfl⟩
      have hgn := eq_generalNames_of_getDecodedExtensionValues_eq_ok c hvs
      refine ⟨vs.map (·.toGeneralNames), ?_, by rw [List.flatMap_def]⟩
      rw [(getDecodedExtensionValues_eq_ok c _).mp hvs, List.map_map]
      exact List.map_congr_left fun v hv => congrArg some (hgn v hv)
    · rintro ⟨nss, hnss, rfl⟩
      refine ⟨nss.map .generalNames, (getDecodedExtensionValues_eq_ok c _).mpr ?_, ?_⟩
      · rw [hnss, List.map_map]
        rfl
      · rw [List.flatMap_map, List.flatMap_def]
        exact congrArg List.flatten (List.map_id nss)
  · rw [subjectAlternativeNames_eq, except_map_eq_error, getDecodedExtensionValues_eq_error, hsans]

/-! ## Point queries against list queries -/

theorem policy_eq (c : Certificate) (policy_oid : ObjectIdentifier) :
    c.policy policy_oid = c.policies.bind fun policies =>
      match policies.filter (·.policyIdentifier = policy_oid) with
      | [] => .ok none
      | [p] => .ok (some p)
      | _ :: _ :: _ => .error (.policyAssertedMoreThanOnce policy_oid) := by
  unfold policy
  rcases c.policies with _ | _ | ⟨p0, ps⟩
  · rfl
  · rfl
  · simp only [except_ok_bind, Except.bind, List.isEmpty_cons, Bool.false_eq_true, ite_false]
    generalize (p0 :: ps).filter (·.policyIdentifier = policy_oid) = matching
    rcases matching with _ | ⟨p, _ | ⟨q, qs⟩⟩ <;> simp [throw, throwThe, MonadExceptOf.throw]

theorem policy_eq_error (c : Certificate) (policy_oid : ObjectIdentifier) {err : CertificateError} :
    c.policy policy_oid = .error err ↔
      c.policies = .error err ∨
        err = .policyAssertedMoreThanOnce policy_oid ∧
          ∃ ps, c.policies = .ok ps ∧ 2 ≤ (ps.filter (·.policyIdentifier = policy_oid)).length := by
  rw [policy_eq]
  rcases c.policies with e | ps
  · simp [Except.bind]
  · simp only [Except.bind, Except.ok.injEq, reduceCtorEq, false_or, exists_eq_left']
    generalize ps.filter (·.policyIdentifier = policy_oid) = matching
    rcases matching with _ | ⟨p, _ | ⟨q, qs⟩⟩
    · simp
    · simp
    · simpa using eq_comm

theorem extendedKeyUsage_eq (c : Certificate) (ext_key_usage : ObjectIdentifier) :
    c.extendedKeyUsage ext_key_usage =
      Option.map (fun eku => decide (ext_key_usage ∈ eku.toExtKeyUsage)) <$>
        c.getDecodedExtensionValue idCeExtKeyUsage := by
  rw [extendedKeyUsage, bind_pure_comp]
  congr 1
  funext eku
  cases eku <;> rfl

theorem extendedKeyUsages_eq (c : Certificate) :
    c.extendedKeyUsages =
      (fun eku => (eku.map (·.toExtKeyUsage)).getD []) <$>
        c.getDecodedExtensionValue idCeExtKeyUsage := by
  rw [extendedKeyUsages, bind_pure_comp]
  simp

/-- `extended_key_usage(o)` is `o in extended_key_usages()` unless the extension is absent, and
`policy(o)` picks the unique entry of `policies()` with identifier `o`, raising on a repeat. -/
theorem point_queries_agree_with_list_queries (c : Certificate) (o : ObjectIdentifier) :
    (c.extendedKeyUsage o = .ok none ↔
      ∀ e ∈ c.asn1Cert.tbsCertificate.extensions.getD [], e.extnID ≠ idCeExtKeyUsage) ∧
    (∀ b, c.extendedKeyUsage o = .ok (some b) →
      ∃ usages, c.extendedKeyUsages = .ok usages ∧ b = decide (o ∈ usages)) ∧
    (∀ err, c.extendedKeyUsage o = .error err ↔ c.extendedKeyUsages = .error err) ∧
    (∀ err, c.policy o = .error err ↔
      c.policies = .error err ∨
        err = .policyAssertedMoreThanOnce o ∧
          ∃ ps, c.policies = .ok ps ∧ 2 ≤ (ps.filter (·.policyIdentifier = o)).length) ∧
    (∀ ps, c.policies = .ok ps →
      (ps.filter (·.policyIdentifier = o) = [] →
        c.policy o = .ok none ∧ c.hasPolicy o = .ok false) ∧
      ∀ p, ps.filter (·.policyIdentifier = o) = [p] → c.policy o = .ok (some p)) ∧
    (c.hasPolicy o = .ok true ↔
      ∃ ps, c.policies = .ok ps ∧ (ps.filter (·.policyIdentifier = o)).length = 1) := by
  refine ⟨?_, ?_, ?_, ?_⟩
  · refine Iff.trans ?_ (matchingExtensions_eq_nil c idCeExtKeyUsage)
    rw [extendedKeyUsage_eq, ← getDecodedExtensionValue_eq_ok_none_iff]
    rcases c.getDecodedExtensionValue idCeExtKeyUsage with _ | _ | _ <;> simp
  · simp only [extendedKeyUsage_eq, extendedKeyUsages_eq]
    rcases c.getDecodedExtensionValue idCeExtKeyUsage with _ | _ | _ <;> simp [eq_comm]
  · simp [extendedKeyUsage_eq, extendedKeyUsages_eq]
  have has_policy : c.hasPolicy o = Option.isSome <$> c.policy o := by
    rw [hasPolicy, bind_pure_comp]
  rw [has_policy, policy_eq]
  rcases c.policies with err | ps
  · simp [Except.bind]
  · simp only [Except.bind, Except.ok.injEq, reduceCtorEq, false_or, exists_eq_left', forall_eq']
    generalize ps.filter (·.policyIdentifier = o) = matching
    rcases matching with _ | ⟨p, _ | ⟨q, qs⟩⟩
    · simp
    · simp
    · simpa using fun _ => eq_comm

end Certificate

end CtCert
