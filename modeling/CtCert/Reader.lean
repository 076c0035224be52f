import CtCert.Certificate
/-!
# Reading certificates from PEM text

`certs_from_pem` and `certs_from_pem_file` are generators: each `next()` runs
the loop over the PEM framer's blocks until it yields a certificate, raises,
or runs out of blocks. The framer itself (`pem.pem_blocks`,
`pem.pem_blocks_from_file`) is not modelled; what it hands to the loop is a
`PemBlocks` stream. `CertsGen.next` is the generator one pull at a time;
`run` is the whole loop as one structural recursion, and `drain_eq_run` says
that pulling until the end gives exactly `run`.
-/

namespace CtCert

/-- What the framer yields as the loop pulls from it: DER blobs, ending cleanly or with a
`PemError`. The loop drops each block's label (`for der_cert, _ in ...`). -/
inductive PemBlocks
  | done
  | error (e : PemError)
  | block (der_cert : ByteString) (rest : PemBlocks)

/-- A finite run of blobs followed by the framer's ending. -/
def PemBlocks.ofList : List ByteString → Option PemError → PemBlocks
  | [], none => .done
  | [], some e => .error e
  | b :: bs, ending => .block b (ofList bs ending)

/-- The number of blobs before the ending. -/
def PemBlocks.length : PemBlocks → Nat
  | .done | .error _ => 0
  | .block _ rest => rest.length + 1

/-- The blobs of a block stream, in order. -/
def PemBlocks.blobs : PemBlocks → List ByteString
  | .done | .error _ => []
  | .block der_cert rest => der_cert :: rest.blobs

/-- An exception that leaves the generator. -/
inductive CertsError
  | asn1 (e : ASN1Error)
  | pem (e : PemError)

/-- What one `next()` on the generator gives: a certificate, `StopIteration`, or an exception. -/
inductive Pull
  | yield (c : Certificate)
  | stop
  | raise (e : CertsError)

/-- `Certificate.PEM_MARKERS` -/
def Certificate.pemMarkers : List String := ["CERTIFICATE"]

/-- A suspended `certs_from_pem` generator: its arguments and the framer's remaining blocks,
`none` once it has finished. -/
structure CertsGen where
  skip_invalid_blobs : Bool
  strict_der : Bool
  pending : Option PemBlocks

section

variable (decode : ByteString → Bool → Except ASN1Error X509Certificate)

/-- The loop body from a suspension point to the next `yield`, or to the end. -/
def resume (skip_invalid_blobs strict_der : Bool) : PemBlocks → Pull × Option PemBlocks
  | .done => (.stop, none)
  | .error e => (.raise (.pem e), none)
  | .block der_cert rest =>
      match Certificate.fromDer decode der_cert strict_der with
      | .ok c => (.yield c, some rest)
      | .error e =>
          if skip_invalid_blobs then resume skip_invalid_blobs strict_der rest
          else (.raise (.asn1 e), none)

/-- `next()` on the generator; a finished generator stays finished. -/
def CertsGen.next (g : CertsGen) : Pull × CertsGen :=
  match g.pending with
  | none => (.stop, g)
  | some blocks =>
      let (pull, pending) := resume decode g.skip_invalid_blobs g.strict_der blocks
      (pull, { g with pending })

/-- The shared body of `certs_from_pem` and `certs_from_pem_file`: a generator over the
blocks the framer produces. -/
def certsFromBlocks (blocks : PemBlocks) (skip_invalid_blobs strict_der : Bool) : CertsGen :=
  ⟨skip_invalid_blobs, strict_der, some blocks⟩

/-- `certs_from_pem(pem_string, skip_invalid_blobs, strict_der)` over the framer
`pem.pem_blocks(pem_string, markers, skip_invalid_blobs)`. -/
def certsFromPem (pem_blocks : String → List String → Bool → PemBlocks) (pem_string : String)
    (skip_invalid_blobs : Bool := false) (strict_der : Bool := true) : CertsGen :=
  certsFromBlocks (pem_blocks pem_string Certificate.pemMarkers skip_invalid_blobs)
    skip_invalid_blobs strict_der

/-- `certs_from_pem_file(pem_file, skip_invalid_blobs, strict_der)` over the framer
`pem.pem_blocks_from_file(pem_file, markers, skip_invalid_blobs)`. -/
def certsFromPemFile (pem_blocks_from_file : String → List String → Bool → PemBlocks)
    (pem_file : String) (skip_invalid_blobs : Bool := false) (strict_der : Bool := true) :
    CertsGen :=
  certsFromBlocks (pem_blocks_from_file pem_file Certificate.pemMarkers skip_invalid_blobs)
    skip_invalid_blobs strict_der

/-- Pull until the generator stops or raises, at most `fuel` times: the certificates yielded and
the exception it ended with, or `none` if the fuel ran out first. -/
def CertsGen.drain : Nat → CertsGen → Option (List Certificate × Option CertsError)
  | 0, _ => none
  | fuel + 1, g =>
      match g.next decode with
      | (.yield c, g') => (g'.drain fuel).map fun r => (c :: r.1, r.2)
      | (.stop, _) => some ([], none)
      | (.raise e, _) => some ([], some e)

/-- The whole loop over a block stream, as one recursion. -/
def run (skip_invalid_blobs strict_der : Bool) : PemBlocks → List Certificate × Option CertsError
  | .done => ([], none)
  | .error e => ([], some (.pem e))
  | .block der_cert rest =>
      match Certificate.fromDer decode der_cert strict_der with
      | .ok c => let r := run skip_invalid_blobs strict_der rest; (c :: r.1, r.2)
      | .error e =>
          if skip_invalid_blobs then run skip_invalid_blobs strict_der rest
          else ([], some (.asn1 e))

/-- The generators a sequence of pulls leads to from `g`. -/
inductive CertsGen.Reachable (g : CertsGen) : CertsGen → Prop
  | init : CertsGen.Reachable g g
  | step {g' : CertsGen} : CertsGen.Reachable g g' → CertsGen.Reachable g (g'.next decode).2

/-- What every generator reached from `certsFromBlocks blocks skip_invalid_blobs strict_der`
keeps: its two flags, and blocks ahead whose blobs are blobs of `blocks`. -/
structure CertsGen.Within (blocks : PemBlocks) (skip_invalid_blobs strict_der : Bool)
    (g : CertsGen) : Prop where
  skip_eq : g.skip_invalid_blobs = skip_invalid_blobs
  strict_eq : g.strict_der = strict_der
  pending_subset : ∀ rest, g.pending = some rest → rest.blobs ⊆ blocks.blobs

/-! ## The generator refines the loop -/

variable {decode}

theorem next_of_pending_none {g : CertsGen} (h : g.pending = none) :
    g.next decode = (.stop, g) := by
  simp [CertsGen.next, h]

theorem next_of_pending_some {g : CertsGen} {blocks : PemBlocks} (h : g.pending = some blocks) :
    g.next decode = ((resume decode g.skip_invalid_blobs g.strict_der blocks).1,
      { g with pending := (resume decode g.skip_invalid_blobs g.strict_der blocks).2 }) := by
  simp [CertsGen.next, h]

/-- A pull that does not yield leaves the loop finished. -/
theorem resume_finished {skip_invalid_blobs strict_der : Bool} : ∀ {blocks : PemBlocks},
    (∀ c, (resume decode skip_invalid_blobs strict_der blocks).1 ≠ .yield c) →
      (resume decode skip_invalid_blobs strict_der blocks).2 = none
  | .done, _ | .error _, _ => rfl
  | .block der_cert rest, h => by
      simp only [resume] at h ⊢
      rcases hc : Certificate.fromDer decode der_cert strict_der with e | c <;>
        simp only [hc] at h ⊢
      · cases skip_invalid_blobs
        · rfl
        · exact resume_finished (by simpa using h)
      · exact absurd rfl (h c)

/-- After a pull that does not yield, every further pull is `StopIteration`. -/
theorem next_after_end {g : CertsGen} (h : ∀ c, (g.next decode).1 ≠ .yield c) :
    (g.next decode).2.next decode = (.stop, (g.next decode).2) := by
  apply next_of_pending_none
  unfold CertsGen.next at h ⊢
  rcases hp : g.pending with _ | blocks <;> simp only [hp] at h ⊢
  exact resume_finished h

theorem drain_eq_run (skip_invalid_blobs strict_der : Bool) :
    ∀ (blocks : PemBlocks) (fuel : Nat), blocks.length < fuel →
      (certsFromBlocks blocks skip_invalid_blobs strict_der).drain decode fuel =
        some (run decode skip_invalid_blobs strict_der blocks)
  | _, 0, h => absurd h (Nat.not_lt_zero _)
  | .done, fuel + 1, _ | .error _, fuel + 1, _ => rfl
  | .block der_cert rest, fuel + 1, h => by
      have ih := drain_eq_run skip_invalid_blobs strict_der rest
      simp only [PemBlocks.length] at h
      rcases hc : Certificate.fromDer decode der_cert strict_der with e | c
      · cases skip_invalid_blobs
        · simp [CertsGen.drain, CertsGen.next, certsFromBlocks, resume, run, hc]
        · have hdrain : (certsFromBlocks (.block der_cert rest) true strict_der).drain decode
              (fuel + 1) = (certsFromBlocks rest true strict_der).drain decode (fuel + 1) := by
            simp only [CertsGen.drain, CertsGen.next, certsFromBlocks, resume, hc, ite_true]
          rw [hdrain, ih (fuel + 1) (by omega)]
          simp [run, hc]
      · simp [CertsGen.drain, CertsGen.next, certsFromBlocks, resume, run, hc,
          ← ih fuel (by omega)]

/-! ## The loop over a finite block sequence -/

theorem length_ofList (ending : Option PemError) :
    ∀ bs : List ByteString, (PemBlocks.ofList bs ending).length = bs.length
  | [] => by cases ending <;> rfl
  | _ :: bs => by simp [PemBlocks.ofList, PemBlocks.length, length_ofList ending bs]

section

variable (strict_der : Bool) (ending : Option PemError)

theorem run_ofList_nil (skip_invalid_blobs : Bool) :
    run decode skip_invalid_blobs strict_der (.ofList [] ending) = ([], ending.map .pem) := by
  cases ending <;> rfl

/-- Skipping: every blob that constructs, in order, then the framer's ending. -/
theorem run_skip : ∀ bs : List ByteString,
    run decode true strict_der (.ofList bs ending) =
      (bs.filterMap fun b => (Certificate.fromDer decode b strict_der).toOption, ending.map .pem)
  | [] => run_ofList_nil strict_der ending true
  | b :: bs => by
      rcases hc : Certificate.fromDer decode b strict_der with e | c <;>
        simp [run, PemBlocks.ofList, hc, run_skip bs, Except.toOption]

/-- Not skipping, when every blob constructs. -/
theorem run_noskip_of_forall : ∀ bs : List ByteString,
    (∀ b ∈ bs, (Certificate.fromDer decode b strict_der).toOption.isSome) →
      run decode false strict_der (.ofList bs ending) =
        (bs.filterMap fun b => (Certificate.fromDer decode b strict_der).toOption, ending.map .pem)
  | [], _ => run_ofList_nil strict_der ending false
  | b :: bs, h => by
      have ih := run_noskip_of_forall bs fun b' hb' => h b' (List.mem_cons_of_mem _ hb')
      rcases hc : Certificate.fromDer decode b strict_der with e | c
      · simpa [hc, Except.toOption] using h b (List.mem_cons_self _ _)
      · simp [run, PemBlocks.ofList, hc, ih, Except.toOption]

/-- Not skipping, when `b` is the first blob that fails. -/
theorem run_noskip_of_error {b : ByteString} {e : ASN1Error}
    (hb : Certificate.fromDer decode b strict_der = .error e) (post : List ByteString) :
    ∀ pre : List ByteString,
      (∀ b' ∈ pre, (Certificate.fromDer decode b' strict_der).toOption.isSome) →
        run decode false strict_der (.ofList (pre ++ b :: post) ending) =
          (pre.filterMap fun b => (Certificate.fromDer decode b strict_der).toOption,
            some (.asn1 e))
  | [], _ => by simp [run, PemBlocks.ofList, hb]
  | b' :: pre, h => by
      have ih := run_noskip_of_error hb post pre fun b'' hb'' => h b'' (List.mem_cons_of_mem _ hb'')
      rcases hc : Certificate.fromDer decode b' strict_der with e' | c
      · simpa [hc, Except.toOption] using h b' (List.mem_cons_self _ _)
      · simp [run, PemBlocks.ofList, hc, ih, Except.toOption]

end

/-- Pulling `certs_from_pem` to its end, for any block sequence the framer produces: skipping
yields every blob that constructs, in order, then the framer's ending; not skipping yields the
longest constructing prefix, then the first failure or the framer's ending; nothing follows the
end; and the file variant is the same generator over the same blocks. -/
theorem certs_from_pem_spec
    (pem_blocks pem_blocks_from_file : String → List String → Bool → PemBlocks)
    (pem_string pem_file : String) (strict_der : Bool) (bs : List ByteString)
    (ending : Option PemError) :
    (pem_blocks pem_string Certificate.pemMarkers true = .ofList bs ending →
      ∀ fuel, bs.length < fuel →
        (certsFromPem pem_blocks pem_string true strict_der).drain decode fuel =
          some (bs.filterMap fun b => (Certificate.fromDer decode b strict_der).toOption,
            ending.map .pem)) ∧
    (pem_blocks pem_string Certificate.pemMarkers false = .ofList bs ending →
      ((∀ b ∈ bs, (Certificate.fromDer decode b strict_der).toOption.isSome) →
        ∀ fuel, bs.length < fuel →
          (certsFromPem pem_blocks pem_string false strict_der).drain decode fuel =
            some (bs.filterMap fun b => (Certificate.fromDer decode b strict_der).toOption,
              ending.map .pem)) ∧
      ∀ pre b post e, bs = pre ++ b :: post →
        (∀ b' ∈ pre, (Certificate.fromDer decode b' strict_der).toOption.isSome) →
        Certificate.fromDer decode b strict_der = .error e →
        ∀ fuel, bs.length < fuel →
          (certsFromPem pem_blocks pem_string false strict_der).drain decode fuel =
            some (pre.filterMap fun b => (Certificate.fromDer decode b strict_der).toOption,
              some (.asn1 e))) ∧
    (∀ g : CertsGen, (∀ c, (g.next decode).1 ≠ .yield c) →
      (g.next decode).2.next decode = (.stop, (g.next decode).2)) ∧
    (∀ skip_invalid_blobs, pem_blocks pem_string Certificate.pemMarkers skip_invalid_blobs =
        pem_blocks_from_file pem_file Certificate.pemMarkers skip_invalid_blobs →
      certsFromPemFile pem_blocks_from_file pem_file skip_invalid_blobs strict_der =
        certsFromPem pem_blocks pem_string skip_invalid_blobs strict_der) := by
  have drain_ofList : ∀ skip_invalid_blobs fuel, bs.length < fuel →
      (certsFromBlocks (.ofList bs ending) skip_invalid_blobs strict_der).drain decode fuel =
        some (run decode skip_invalid_blobs strict_der (.ofList bs ending)) :=
    fun _ fuel hf => drain_eq_run _ _ _ fuel (by rwa [length_ofList])
  refine ⟨fun hb fuel hf => ?_, fun hb => ⟨fun hall fuel hf => ?_, ?_⟩,
    fun _ h => next_after_end h, fun _ h => by rw [certsFromPem, certsFromPemFile, h]⟩
  · rw [certsFromPem, hb, drain_ofList true fuel hf, run_skip]
  · rw [certsFromPem, hb, drain_ofList false fuel hf, run_noskip_of_forall _ _ _ hall]
  · rintro pre b post e rfl hpre he fuel hf
    rw [certsFromPem, hb, drain_ofList false fuel hf, run_noskip_of_error _ _ he post pre hpre]

/-- A certificate without extensions, valid through 2024. -/
def plainCertificate : X509Certificate := ⟨⟨⟨.ok newYear2024, .ok newYear2025⟩, none⟩⟩

theorem certs_from_pem_spec_three_blobs :
    (certsFromPem (fun _ _ _ => .ofList [[1], [], [2]] none) "" true).drain
        (fun der _ => if der = [] then .error ⟨"empty"⟩ else .ok plainCertificate) 4 =
      some ([⟨plainCertificate⟩, ⟨plainCertificate⟩], none) ∧
    (certsFromPem (fun _ _ _ => .ofList [[1], [], [2]] none) "" false).drain
        (fun der _ => if der = [] then .error ⟨"empty"⟩ else .ok plainCertificate) 4 =
      some ([⟨plainCertificate⟩], some (.asn1 ⟨"empty"⟩)) := by
  have h := @certs_from_pem_spec
    (fun der _ => if der = [] then .error ⟨"empty"⟩ else .ok plainCertificate)
    (fun _ _ _ => .ofList [[1], [], [2]] none) (fun _ _ _ => .done) "" "" true [[1], [], [2]] none
  exact ⟨by rw [h.1 rfl 4 (by decide)]; rfl,
    by rw [(h.2.1 rfl).2 [[1]] [] [[2]] ⟨"empty"⟩ rfl (by decide) rfl 4 (by decide)]; rfl⟩


/-! ## Every pull of every run -/

section

variable {skip_invalid_blobs strict_der : Bool}

/-- What one pull can do: yield only what `Certificate.from_der` builds from a blob ahead, move
only forward in the stream, and, when skipping, never let an `ASN1Error` out. -/
theorem resume_spec : ∀ blocks : PemBlocks,
    (∀ c, (resume decode skip_invalid_blobs strict_der blocks).1 = .yield c →
      ∃ b ∈ blocks.blobs, Certificate.fromDer decode b strict_der = .ok c) ∧
    (∀ rest, (resume decode skip_invalid_blobs strict_der blocks).2 = some rest →
      rest.blobs ⊆ blocks.blobs) ∧
    (skip_invalid_blobs = true →
      ∀ e, (resume decode skip_invalid_blobs strict_der blocks).1 ≠ .raise (.asn1 e))
  | .done | .error _ => by simp [resume]
  | .block der_cert rest => by
      obtain ⟨ih_yield, ih_rest, ih_skip⟩ := resume_spec rest
      simp only [resume]
      rcases hc : Certificate.fromDer decode der_cert strict_der with e | c
      · cases skip_invalid_blobs
        · simp
        · refine ⟨fun c h => ?_, fun r h => (ih_rest r h).trans (List.subset_cons_self _ _),
            ih_skip⟩
          obtain ⟨b, hb, hbc⟩ := ih_yield c h
          exact ⟨b, .tail _ hb, hbc⟩
      · refine ⟨?_, fun r h => ?_, fun _ _ => by simp⟩
        · rintro c' ⟨⟩
          exact ⟨der_cert, .head _, hc⟩
        · cases h
          exact List.subset_cons_self _ _

theorem CertsGen.Within.next {blocks : PemBlocks} {g : CertsGen}
    (h : g.Within blocks skip_invalid_blobs strict_der) :
    (g.next decode).2.Within blocks skip_invalid_blobs strict_der := by
  rcases hp : g.pending with _ | blocks'
  · rwa [next_of_pending_none hp]
  · rw [next_of_pending_some hp]
    exact ⟨h.skip_eq, h.strict_eq,
      fun rest hr => ((resume_spec blocks').2.1 rest hr).trans (h.pending_subset blocks' hp)⟩

theorem CertsGen.Reachable.within {blocks : PemBlocks} {g : CertsGen}
    (h : (certsFromBlocks blocks skip_invalid_blobs strict_der).Reachable decode g) :
    g.Within blocks skip_invalid_blobs strict_der := by
  induction h with
  | init => exact ⟨rfl, rfl, fun rest h => by cases h; exact List.Subset.refl _⟩
  | step _ ih => exact ih.next

theorem CertsGen.Within.next_yield {blocks : PemBlocks} {g : CertsGen} {c : Certificate}
    (h : g.Within blocks skip_invalid_blobs strict_der) (hc : (g.next decode).1 = .yield c) :
    ∃ b ∈ blocks.blobs, Certificate.fromDer decode b strict_der = .ok c := by
  rcases hp : g.pending with _ | blocks'
  · rw [next_of_pending_none hp] at hc
    cases hc
  · rw [next_of_pending_some hp] at hc
    obtain ⟨b, hb, hbc⟩ := (resume_spec blocks').1 c hc
    exact ⟨b, h.pending_subset blocks' hp hb, h.strict_eq ▸ hbc⟩

theorem CertsGen.Within.next_ne_asn1 {blocks : PemBlocks} {g : CertsGen} {e : ASN1Error}
    (h : g.Within blocks true strict_der) : (g.next decode).1 ≠ .raise (.asn1 e) := by
  rcases hp : g.pending with _ | blocks'
  · simp [next_of_pending_none hp]
  · rw [next_of_pending_some hp, h.skip_eq]
    exact (resume_spec blocks').2.2 rfl e

end

/-- On every run of a `certs_from_pem` generator, at every pull: a yielded certificate is what
`Certificate.from_der` builds, with the generator's `strict_der`, from a blob the framer
produced, so a strict generator yields only certificates with distinct extension identifiers;
and a skipping generator never raises an `ASN1Error`. -/
theorem certs_from_pem_reachable_pulls
    (pem_blocks : String → List String → Bool → PemBlocks) (pem_string : String)
    (skip_invalid_blobs strict_der : Bool) {g : CertsGen} {c : Certificate}
    (hg : (certsFromPem pem_blocks pem_string skip_invalid_blobs strict_der).Reachable decode g) :
    ((g.next decode).1 = .yield c →
      (∃ b ∈ (pem_blocks pem_string Certificate.pemMarkers skip_invalid_blobs).blobs,
        Certificate.fromDer decode b strict_der = .ok c) ∧
      (strict_der = true → (c.extns.map (·.extnID)).Nodup)) ∧
    (skip_invalid_blobs = true → ∀ e, (g.next decode).1 ≠ .raise (.asn1 e)) := by
  have hw := hg.within
  refine ⟨fun hc => ?_, fun hskip e => ?_⟩
  · obtain ⟨b, hb, hbc⟩ := hw.next_yield hc
    exact ⟨⟨b, hb, hbc⟩, fun hstrict => (Certificate.hasMultipleExtensionValues_eq_false c).mp
      ((Certificate.init_eq_ok.mp hbc).2 hstrict)⟩
  · subst hskip
    exact hw.next_ne_asn1

theorem certs_from_pem_reachable_pulls_after_skip :
    let decode : ByteString → Bool → Except ASN1Error X509Certificate :=
      fun der _ => if der = [] then .error ⟨"empty"⟩ else .ok plainCertificate
    let g := certsFromPem (fun _ _ _ => .ofList [[1], [], [2]] none) "" true
    ((g.next decode).2.next decode).1 = .yield ⟨plainCertificate⟩ ∧
      (∃ b ∈ (PemBlocks.ofList [[1], [], [2]] none).blobs,
        Certificate.fromDer decode b true = .ok ⟨plainCertificate⟩) ∧
      ∀ e, ((g.next decode).2.next decode).1 ≠ .raise (.asn1 e) :=
  have h := @certs_from_pem_reachable_pulls
    (fun der _ => if der = [] then .error ⟨"empty"⟩ else .ok plainCertificate)
    (fun _ _ _ => .ofList [[1], [], [2]] none) "" true true _ ⟨plainCertificate⟩ (.step .init)
  ⟨rfl, (h.1 rfl).1, h.2 rfl⟩

end

end CtCert
