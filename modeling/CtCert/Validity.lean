import CtCert.Certificate
/-!
# Temporal validity

`not_before` and `not_after` convert the validity bounds to `struct_time`
values; a corrupt time value raises the ASN.1 layer's error, which none of the
functions here catches, so all of them fail with an `ASN1Error` and never with
a `CertificateError`. Three predicates compare the bounds with the current
time: `is_temporally_valid_at` with Python's inclusive chained comparison,
`is_expired` and `is_not_yet_valid` with strict ones. The predicates that read
the clock, `time.gmtime()`, take its reading as an argument `now`.
-/

namespace CtCert

namespace Certificate

/-- `not_before`: the ASN.1 layer's conversion, whose error escapes unwrapped. -/
def notBefore (c : Certificate) : Except ASN1Error StructTime :=
  c.asn1Cert.tbsCertificate.validity.notBefore

/-- `not_after`: the ASN.1 layer's conversion, whose error escapes unwrapped. -/
def notAfter (c : Certificate) : Except ASN1Error StructTime :=
  c.asn1Cert.tbsCertificate.validity.notAfter

/-- `is_temporally_valid_at(gmtime)`: `self.not_before() <= gmtime <= self.not_after()`, which
reads `not_after()` only when the first comparison holds. -/
def isTemporallyValidAt (c : Certificate) (gmtime : StructTime) : Except ASN1Error Bool := do
  let not_before ← c.notBefore
  if not_before.le gmtime then
    let not_after ← c.notAfter
    return gmtime.le not_after
  else
    return false

/-- `is_temporally_valid_now` -/
def isTemporallyValidNow (c : Certificate) (now : StructTime) : Except ASN1Error Bool :=
  c.isTemporallyValidAt now

/-- `is_expired`: `now > self.not_after()` -/
def isExpired (c : Certificate) (now : StructTime) : Except ASN1Error Bool := do
  return now.gt (← c.notAfter)

/-- `is_not_yet_valid`: `now < self.not_before()` -/
def isNotYetValid (c : Certificate) (now : StructTime) : Except ASN1Error Bool := do
  return now.lt (← c.notBefore)

section

variable {c : Certificate} {nb na : StructTime}

theorem isTemporallyValidAt_eq (hb : c.notBefore = .ok nb) (ha : c.notAfter = .ok na)
    (t : StructTime) : c.isTemporallyValidAt t = .ok (!t.lt nb && !na.lt t) := by
  simp only [isTemporallyValidAt, hb, ha, except_ok_bind, StructTime.le_eq_not_lt]
  cases t.lt nb <;> rfl

theorem isExpired_eq (ha : c.notAfter = .ok na) (now : StructTime) :
    c.isExpired now = .ok (na.lt now) := by
  simp [isExpired, ha, StructTime.gt_eq_lt]

theorem isNotYetValid_eq (hb : c.notBefore = .ok nb) (now : StructTime) :
    c.isNotYetValid now = .ok (now.lt nb) := by
  simp [isNotYetValid, hb]

/-- Valid exactly when neither expired nor not yet valid; each boundary instant is neither
expired nor not yet valid, and valid when the bounds are in order; expiry only comes later and
not-yet-validity only earlier. -/
theorem temporal_validity_spec (hb : c.notBefore = .ok nb) (ha : c.notAfter = .ok na) :
    (∀ t, c.isTemporallyValidAt t = .ok true ↔
      c.isExpired t = .ok false ∧ c.isNotYetValid t = .ok false) ∧
    c.isExpired na = .ok false ∧ c.isNotYetValid nb = .ok false ∧
    (nb.le na → c.isTemporallyValidAt na = .ok true ∧ c.isTemporallyValidAt nb = .ok true ∧
      c.isNotYetValid na = .ok false ∧ c.isExpired nb = .ok false) ∧
    (∀ t t', c.isExpired t = .ok true → t.le t' → c.isExpired t' = .ok true) ∧
    (∀ t t', c.isNotYetValid t = .ok true → t'.le t → c.isNotYetValid t' = .ok true) := by
  simp only [isTemporallyValidAt_eq hb ha, isExpired_eq ha, isNotYetValid_eq hb,
    Except.ok.injEq, StructTime.lt_irrefl, Bool.and_eq_true, Bool.not_eq_true', and_self,
    true_and, Bool.not_false]
  refine ⟨fun _ => and_comm, fun hle => ?_, fun t t' h hle => StructTime.lt_of_lt_of_le h hle,
    fun t t' h hle => StructTime.lt_of_le_of_lt hle h⟩
  have hna : na.lt nb = false := by simpa [StructTime.le_eq_not_lt] using hle
  simp [hna]

/-- A certificate is valid at some instant exactly when its `notBefore` is at or before its
`notAfter`. With the bounds in order no instant is both expired and not yet valid; with them
inverted every instant is expired or not yet valid. -/
theorem validity_instants (hb : c.notBefore = .ok nb) (ha : c.notAfter = .ok na) :
    ((∃ t, c.isTemporallyValidAt t = .ok true) ↔ nb.le na) ∧
    (nb.le na → ∀ t, ¬(c.isExpired t = .ok true ∧ c.isNotYetValid t = .ok true)) ∧
    (na.lt nb → ∀ t, c.isExpired t = .ok true ∨ c.isNotYetValid t = .ok true) := by
  simp only [isTemporallyValidAt_eq hb ha, isExpired_eq ha, isNotYetValid_eq hb,
    Except.ok.injEq, Bool.and_eq_true, Bool.not_eq_true', StructTime.le_eq_not_lt]
  refine ⟨⟨fun ⟨t, htb, hat⟩ => ?_, fun hab => ⟨nb, StructTime.lt_irrefl nb, hab⟩⟩,
    fun hab t ⟨hat, htb⟩ => ?_, fun hab t => ?_⟩
  · -- `nb ≤ t ≤ na`
    have hta : t.le na := by simp [StructTime.le_eq_not_lt, hat]
    cases hab : na.lt nb
    · rfl
    · simpa [htb] using StructTime.lt_of_le_of_lt hta hab
  · simpa [hab] using StructTime.lt_trans hat htb
  · cases hat : na.lt t
    · have hta : t.le na := by simp [StructTime.le_eq_not_lt, hat]
      exact .inr (StructTime.lt_of_le_of_lt hta hab)
    · exact .inl rfl

end

theorem temporal_validity_spec_newYear :
    (⟨⟨⟨.ok newYear2024, .ok newYear2025⟩, none⟩⟩ : Certificate).notBefore = .ok newYear2024 ∧
      (⟨⟨⟨.ok newYear2024, .ok newYear2025⟩, none⟩⟩ : Certificate).notAfter = .ok newYear2025 ∧
      (⟨⟨⟨.ok newYear2024, .ok newYear2025⟩, none⟩⟩ : Certificate).isTemporallyValidAt
        newYear2025 = .ok true :=
  ⟨rfl, rfl, ((@temporal_validity_spec ⟨⟨⟨.ok newYear2024, .ok newYear2025⟩, none⟩⟩
    newYear2024 newYear2025 rfl rfl).2.2.2.1 (by decide)).1⟩

theorem validity_instants_newYear :
    (⟨⟨⟨.ok newYear2024, .ok newYear2025⟩, none⟩⟩ : Certificate).notBefore = .ok newYear2024 ∧
      (⟨⟨⟨.ok newYear2024, .ok newYear2025⟩, none⟩⟩ : Certificate).notAfter = .ok newYear2025 ∧
      ∃ t, (⟨⟨⟨.ok newYear2024, .ok newYear2025⟩, none⟩⟩ : Certificate).isTemporallyValidAt
        t = .ok true :=
  ⟨rfl, rfl, (@validity_instants ⟨⟨⟨.ok newYear2024, .ok newYear2025⟩, none⟩⟩
    newYear2024 newYear2025 rfl rfl).1.mpr (by decide)⟩

/-- With the bounds out of order the `notAfter` instant is not valid but not yet valid. -/
theorem inverted_bounds_not_valid_at_notAfter :
    (⟨⟨⟨.ok newYear2025, .ok newYear2024⟩, none⟩⟩ : Certificate).isTemporallyValidAt
        newYear2024 = .ok false ∧
      (⟨⟨⟨.ok newYear2025, .ok newYear2024⟩, none⟩⟩ : Certificate).isNotYetValid
        newYear2024 = .ok true :=
  ⟨rfl, rfl⟩

end Certificate

end CtCert
