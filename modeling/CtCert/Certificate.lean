import CtCert.Asn1
import CtCert.StructTime
import CtCert.Counter
/-!
# The certificate and its extension resolvers

`Certificate.__init__` decodes the DER string with the ASN.1 layer and, in
strict mode, rejects a certificate in which an extension identifier repeats.
Every extension accessor then goes through one of two resolvers:
`_get_decoded_extension_values` collects the decoded payloads of all
extensions with a given identifier, and `_get_decoded_extension_value`
insists on at most one. Their spec lemmas below fix which of the two errors
each raises, and when; the accessors never look past them.
-/

namespace CtCert

section
variable {ε α β : Type}

@[simp] theorem except_pure (a : α) : (pure a : Except ε α) = .ok a := rfl

@[simp] theorem except_ok_bind (a : α) (f : α → Except ε β) : (Except.ok a >>= f) = f a := rfl

@[simp] theorem except_error_bind (e : ε) (f : α → Except ε β) :
    (Except.error e >>= f) = Except.error e := rfl

end

/-- The `validity` of a certificate, each bound as `component_value().gmtime()` gives it: the
time, or the `ASN1Error` that conversion raises on a corrupt time value. -/
structure Validity where
  notBefore : Except ASN1Error StructTime
  notAfter : Except ASN1Error StructTime

/-- The parts of `tbsCertificate` the API reads; `extensions` is OPTIONAL. -/
structure TBSCertificate where
  validity : Validity
  extensions : Option (List Extension)

/-- A decoded `x509.Certificate`, as `x509.Certificate.decode` returns it. -/
structure X509Certificate where
  tbsCertificate : TBSCertificate

/-- `cert.Certificate`: the API object around the decoded `_asn1_cert`. -/
structure Certificate where
  asn1Cert : X509Certificate

namespace Certificate

/-- `self._asn1_cert["tbsCertificate"]["extensions"] or []` -/
def extns (c : Certificate) : List Extension :=
  c.asn1Cert.tbsCertificate.extensions.getD []

/-- `_has_multiple_extension_values` -/
def hasMultipleExtensionValues (c : Certificate) : Bool :=
  let extn_value_count := counter (c.extns.map (·.extnID))
  (extn_value_count.map Prod.snd).any (· > 1)

/-- `Certificate.__init__(der_string, strict_der)`, over the structural decoder
`x509.Certificate.decode(der_string, strict=strict_der)`. -/
def init (decode : ByteString → Bool → Except ASN1Error X509Certificate)
    (der_string : ByteString) (strict_der : Bool := true) : Except ASN1Error Certificate := do
  let c : Certificate := ⟨← decode der_string strict_der⟩
  if strict_der && c.hasMultipleExtensionValues then throw .multipleExtensions
  return c

/-- `Certificate.from_der`, an alias of the constructor. -/
def fromDer (decode : ByteString → Bool → Except ASN1Error X509Certificate)
    (der_string : ByteString) (strict_der : Bool := true) : Except ASN1Error Certificate :=
  init decode der_string strict_der

/-- The extensions whose `extnID` is `extn_id`, in certificate order: the list
`_get_decoded_extension_values` builds before it looks at the payloads. -/
def matchingExtensions (c : Certificate) (extn_id : ObjectIdentifier) : List Extension :=
  c.extns.filter fun e => e.extnID = extn_id

/-- `_get_decoded_extension_values` -/
def getDecodedExtensionValues (c : Certificate) (extn_id : ObjectIdentifier) :
    Except CertificateError (List ExtensionValue) :=
  let extn_values := c.matchingExtensions extn_id
  if extn_values.isEmpty then .ok []
  else
    let decoded_values := extn_values.map (·.decodedValue)
    if decoded_values.any (·.isNone) then .error (.corruptExtension extn_id)
    else .ok (decoded_values.filterMap id)

/-- `_get_decoded_extension_value` -/
def getDecodedExtensionValue (c : Certificate) (extn_id : ObjectIdentifier) :
    Except CertificateError (Option ExtensionValue) := do
  let decoded_extn_values ← c.getDecodedExtensionValues extn_id
  if decoded_extn_values.isEmpty then return none
  if decoded_extn_values.length > 1 then throw .multipleExtensionValues
  return decoded_extn_values.head?

theorem init_eq_ok {decode : ByteString → Bool → Except ASN1Error X509Certificate}
    {der_string : ByteString} {strict_der : Bool} {c : Certificate} :
    init decode der_string strict_der = .ok c ↔
      decode der_string strict_der = .ok c.asn1Cert ∧
        (strict_der → c.hasMultipleExtensionValues = false) := by
  obtain ⟨a⟩ := c
  unfold init
  rcases decode der_string strict_der with e | a'
  · simp
  cases strict_der <;> cases hm : (⟨a'⟩ : Certificate).hasMultipleExtensionValues <;>
    simp [hm, throw, throwThe, MonadExceptOf.throw]
  all_goals rintro rfl; exact hm

theorem init_eq_error {decode : ByteString → Bool → Except ASN1Error X509Certificate}
    {der_string : ByteString} {strict_der : Bool} {e : ASN1Error} :
    init decode der_string strict_der = .error e ↔
      decode der_string strict_der = .error e ∨
        e = .multipleExtensions ∧ strict_der = true ∧ ∃ a, decode der_string strict_der = .ok a ∧
          (⟨a⟩ : Certificate).hasMultipleExtensionValues = true := by
  unfold init
  rcases decode der_string strict_der with e' | a
  · simp
  cases strict_der <;> cases hm : (⟨a⟩ : Certificate).hasMultipleExtensionValues <;>
    simp [hm, throw, throwThe, MonadExceptOf.throw]
  exact eq_comm

/-! ## Spec lemmas of the resolvers -/

variable (c : Certificate) (x : ObjectIdentifier)

theorem mem_matchingExtensions {e : Extension} :
    e ∈ c.matchingExtensions x ↔ e ∈ c.extns ∧ e.extnID = x := by
  simp [matchingExtensions]

theorem matchingExtensions_eq_nil :
    c.matchingExtensions x = [] ↔ ∀ e ∈ c.extns, e.extnID ≠ x := by
  simp [matchingExtensions, List.filter_eq_nil_iff]

/-- The early return on no match is subsumed by the corrupt check. -/
theorem getDecodedExtensionValues_eq :
    c.getDecodedExtensionValues x =
      if (c.matchingExtensions x).any (·.decodedValue.isNone) then .error (.corruptExtension x)
      else .ok ((c.matchingExtensions x).filterMap (·.decodedValue)) := by
  unfold getDecodedExtensionValues
  simp only [List.any_map, List.filterMap_map]
  cases c.matchingExtensions x <;> simp [Function.comp_def]

theorem getDecodedExtensionValue_eq :
    c.getDecodedExtensionValue x =
      (c.getDecodedExtensionValues x).bind fun
        | [] => .ok none
        | [v] => .ok (some v)
        | _ :: _ :: _ => .error .multipleExtensionValues := by
  unfold getDecodedExtensionValue
  rcases c.getDecodedExtensionValues x with _ | _ | ⟨v, _ | ⟨w, vs⟩⟩ <;>
    simp [Except.bind, bind, throw, throwThe, MonadExceptOf.throw]

theorem getDecodedExtensionValues_eq_error {err : CertificateError} :
    c.getDecodedExtensionValues x = .error err ↔
      err = .corruptExtension x ∧ ∃ e ∈ c.matchingExtensions x, e.decodedValue = none := by
  rw [getDecodedExtensionValues_eq]
  split_ifs with h <;> simp only [List.any_eq_true, Option.isNone_iff_eq_none] at h
  · simp only [Except.error.injEq, h, and_true]
    exact eq_comm
  · simp [h]

theorem getDecodedExtensionValues_eq_ok {vs : List ExtensionValue} :
    c.getDecodedExtensionValues x = .ok vs ↔
      (c.matchingExtensions x).map (·.decodedValue) = vs.map some := by
  rw [getDecodedExtensionValues_eq]
  split_ifs with h <;> simp only [List.any_eq_true, Option.isNone_iff_eq_none] at h
  · obtain ⟨e, he, hnone⟩ := h
    simp only [reduceCtorEq, false_iff]
    intro hmap
    have : e.decodedValue ∈ vs.map some := hmap ▸ List.mem_map_of_mem _ he
    simp [hnone] at this
  · have hsome : ∀ o ∈ (c.matchingExtensions x).map (·.decodedValue), o.isSome := by
      simpa [Option.isSome_iff_ne_none] using h
    rw [Except.ok.injEq, ← (List.map_injective_iff.mpr (Option.some_injective _)).eq_iff,
      List.map_filterMap_some_eq_filter_map_isSome, List.filter_eq_self.mpr hsome]

theorem length_of_getDecodedExtensionValues_eq_ok {vs : List ExtensionValue}
    (h : c.getDecodedExtensionValues x = .ok vs) : vs.length = (c.matchingExtensions x).length := by
  simpa using (congrArg List.length ((getDecodedExtensionValues_eq_ok c x).mp h)).symm

theorem forall_isSome_of_getDecodedExtensionValues_eq_ok {vs : List ExtensionValue}
    (h : c.getDecodedExtensionValues x = .ok vs) :
    ∀ e ∈ c.matchingExtensions x, e.decodedValue.isSome := by
  intro e he
  have : e.decodedValue ∈ vs.map some :=
    (getDecodedExtensionValues_eq_ok c x).mp h ▸ List.mem_map_of_mem _ he
  obtain ⟨v, -, hv⟩ := List.mem_map.mp this
  simp [← hv]

theorem getDecodedExtensionValues_of_forall_isSome
    (h : ∀ e ∈ c.matchingExtensions x, e.decodedValue.isSome) :
    c.getDecodedExtensionValues x = .ok ((c.matchingExtensions x).filterMap (·.decodedValue)) := by
  rw [getDecodedExtensionValues_eq, if_neg]
  simpa [Option.isSome_iff_ne_none] using h

theorem getDecodedExtensionValues_eq_ok_singleton {v : ExtensionValue} :
    c.getDecodedExtensionValues x = .ok [v] ↔
      ∃ e, c.matchingExtensions x = [e] ∧ e.decodedValue = some v := by
  simp [getDecodedExtensionValues_eq_ok, List.map_eq_cons_iff]

theorem getDecodedExtensionValue_eq_ok_none :
    c.getDecodedExtensionValue x = .ok none ↔ c.getDecodedExtensionValues x = .ok [] := by
  rw [getDecodedExtensionValue_eq]
  rcases c.getDecodedExtensionValues x with _ | _ | ⟨v, _ | ⟨w, vs⟩⟩ <;> simp [Except.bind]

theorem getDecodedExtensionValue_eq_ok_none_iff :
    c.getDecodedExtensionValue x = .ok none ↔ c.matchingExtensions x = [] := by
  simp [getDecodedExtensionValue_eq_ok_none, getDecodedExtensionValues_eq_ok]

theorem getDecodedExtensionValue_eq_ok_some {v : ExtensionValue} :
    c.getDecodedExtensionValue x = .ok (some v) ↔ c.getDecodedExtensionValues x = .ok [v] := by
  rw [getDecodedExtensionValue_eq]
  rcases c.getDecodedExtensionValues x with _ | _ | ⟨v, _ | ⟨w, vs⟩⟩ <;> simp [Except.bind]

theorem getDecodedExtensionValue_eq_error {err : CertificateError} :
    c.getDecodedExtensionValue x = .error err ↔
      c.getDecodedExtensionValues x = .error err ∨
        err = .multipleExtensionValues ∧
          ∃ vs, c.getDecodedExtensionValues x = .ok vs ∧ 1 < vs.length := by
  rw [getDecodedExtensionValue_eq]
  rcases c.getDecodedExtensionValues x with _ | _ | ⟨v, _ | ⟨w, vs⟩⟩ <;>
    simp [Except.bind, eq_comm]

theorem getDecodedExtensionValue_eq_multiple :
    c.getDecodedExtensionValue x = .error .multipleExtensionValues ↔
      2 ≤ (c.matchingExtensions x).length ∧
        ∀ e ∈ c.matchingExtensions x, e.decodedValue.isSome := by
  simp only [getDecodedExtensionValue_eq_error, getDecodedExtensionValues_eq_error, reduceCtorEq,
    false_and, true_and, false_or]
  constructor
  · rintro ⟨vs, hvs, hlen⟩
    exact ⟨length_of_getDecodedExtensionValues_eq_ok c x hvs ▸ hlen,
      forall_isSome_of_getDecodedExtensionValues_eq_ok c x hvs⟩
  · rintro ⟨hlen, hsome⟩
    have hvs := getDecodedExtensionValues_of_forall_isSome c x hsome
    exact ⟨_, hvs, length_of_getDecodedExtensionValues_eq_ok c x hvs ▸ hlen⟩

theorem resolvers_of_length_eq_zero (h : (c.matchingExtensions x).length = 0) :
    c.getDecodedExtensionValues x = .ok [] ∧ c.getDecodedExtensionValue x = .ok none := by
  have hs : c.getDecodedExtensionValues x = .ok [] :=
    (getDecodedExtensionValues_eq_ok c x).mpr (by simpa using h)
  exact ⟨hs, (getDecodedExtensionValue_eq_ok_none c x).mpr hs⟩

/-- With `M` the entries of the extension list under `x`, in list order:
`_get_decoded_extension_values` raises exactly on an undecoded entry of `M` and otherwise returns
the decoded payloads of `M` in order; `_get_decoded_extension_value` returns nothing
exactly on no match, checks for corruption before multiplicity, and returns a value exactly
when the plural resolver returns that value alone. -/
theorem extension_resolvers_spec (c : Certificate) (x : ObjectIdentifier) :
    let M := (c.asn1Cert.tbsCertificate.extensions.getD []).filter (·.extnID = x)
    (c.getDecodedExtensionValues x = .error (.corruptExtension x) ↔
      ∃ e ∈ M, e.decodedValue = none) ∧
    (∀ vs, c.getDecodedExtensionValues x = .ok vs ↔
      M.map (·.decodedValue) = vs.map some) ∧
    (c.getDecodedExtensionValue x = .ok none ↔ M = []) ∧
    (c.getDecodedExtensionValue x = .error (.corruptExtension x) ↔
      ∃ e ∈ M, e.decodedValue = none) ∧
    (c.getDecodedExtensionValue x = .error .multipleExtensionValues ↔
      2 ≤ M.length ∧ ∀ e ∈ M, e.decodedValue.isSome) ∧
    (∀ err, c.getDecodedExtensionValue x = .error err →
      err = .corruptExtension x ∨ err = .multipleExtensionValues) ∧
    (∀ v, c.getDecodedExtensionValue x = .ok (some v) ↔
      c.getDecodedExtensionValues x = .ok [v]) := by
  intro M
  rw [show M = c.matchingExtensions x from rfl]
  refine ⟨by simp [getDecodedExtensionValues_eq_error], fun _ => getDecodedExtensionValues_eq_ok c x,
    getDecodedExtensionValue_eq_ok_none_iff c x, ?_, getDecodedExtensionValue_eq_multiple c x,
    fun err h => ?_, fun _ => getDecodedExtensionValue_eq_ok_some c x⟩
  · simp [getDecodedExtensionValue_eq_error, getDecodedExtensionValues_eq_error]
  · rcases (getDecodedExtensionValue_eq_error c x).mp h with h | ⟨rfl, -⟩
    · exact .inl ((getDecodedExtensionValues_eq_error c x).mp h).1
    · exact .inr rfl

/-! ## The strict-mode duplicate check -/

theorem hasMultipleExtensionValues_eq_false :
    c.hasMultipleExtensionValues = false ↔ (c.extns.map (·.extnID)).Nodup := by
  rw [← Bool.not_eq_true, hasMultipleExtensionValues, any_values_gt_one_counter, not_not]

theorem nodup_extnID_iff :
    (c.extns.map (·.extnID)).Nodup ↔ ∀ x, (c.matchingExtensions x).length ≤ 1 := by
  rw [List.nodup_iff_count_le_one]
  refine forall_congr' fun x => ?_
  rw [List.count_eq_countP, List.countP_map, List.countP_eq_length_filter, matchingExtensions]
  simp only [Function.comp_def, Bool.beq_eq_decide_eq]

/-- The constructor accepts what the decoder accepts; in strict mode it rejects, with
"Multiple extensions", exactly the decodings that repeat an extension identifier. -/
theorem init_accepts_iff (decode : ByteString → Bool → Except ASN1Error X509Certificate)
    (der_string : ByteString) (c : Certificate) (e : ASN1Error) :
    (init decode der_string false = .ok c ↔ decode der_string false = .ok c.asn1Cert) ∧
    (init decode der_string true = .ok c ↔
      decode der_string true = .ok c.asn1Cert ∧ (c.extns.map (·.extnID)).Nodup) ∧
    (init decode der_string true = .error e ↔
      decode der_string true = .error e ∨
        e = .multipleExtensions ∧ ∃ a, decode der_string true = .ok a ∧
          ¬((⟨a⟩ : Certificate).extns.map (·.extnID)).Nodup) := by
  refine ⟨by simp [init_eq_ok], by simp [init_eq_ok, hasMultipleExtensionValues_eq_false], ?_⟩
  simp [init_eq_error, ← hasMultipleExtensionValues_eq_false]

end Certificate

end CtCert
